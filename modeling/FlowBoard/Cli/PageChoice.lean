import FlowBoard.Failure
import FlowBoard.Text.Blank
import FlowBoard.Text.Case
import FlowBoard.Text.Digits

/-!
# Choosing a page

A selector is a number, counted from one, or a name in letters of either case. Without one, or
with a blank one, all pages are taken.
-/

namespace FlowBoard.PageChoice

variable {α : Type} (name : α → String)

def outOfRange (index : Int) (count : Nat) : Failure :=
  ⟨.source, "Page index " ++ toString index ++ " is out of range. Found " ++ toString count ++
    " page(s)."⟩

/-- The page with a number. -/
def byNumber (pages : List α) (index : Int) : Except Failure α :=
  match if 1 ≤ index then pages[(index - 1).toNat]? else none with
  | some page => .ok page
  | none => .error (outOfRange index pages.length)

/-- The pages' names, numbered from `first`. -/
def numbered (first : Nat) : List α → List String
  | [] => []
  | page :: rest => (toString first ++ ":" ++ name page) :: numbered (first + 1) rest

def notFound (pages : List α) (wanted : String) : Failure :=
  ⟨.source, "Page \"" ++ wanted ++ "\" not found. Available pages: " ++
    String.intercalate ", " (numbered name 1 pages)⟩

/-- The first page with a name. -/
def byName (pages : List α) (wanted : String) : Except Failure α :=
  match pages.find? fun page => Text.lower (name page) == Text.lower wanted with
  | some page => .ok page
  | none => .error (notFound name pages wanted)

/-- The page that a trimmed selector names. -/
def one (pages : List α) (wanted : String) : Except Failure α :=
  if wanted.toList.all Text.isDigit then do
    byNumber pages (← (Text.readInt wanted).mapError fun e => ⟨.wrongValue, e.message wanted⟩)
  else byName name pages wanted

def select (pages : List α) (selector : Option String) : Except Failure (List α) :=
  match Text.given? selector with
  | none => .ok pages
  | some wanted => (one name pages wanted).map ([·])

end FlowBoard.PageChoice
