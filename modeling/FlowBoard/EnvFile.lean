import FlowBoard.Machine.Basic
import FlowBoard.Text.Blank

/-!
# Environment files

An environment file is a list of statements, each at the start of a line: `NAME=value`, `NAME`
alone or a comment, with an optional `export` in front. A value is bare, and then ends before a
comment or at the end of the line, or it stands between quotes and may go over several lines.
References to variables in values are replaced; the environment wins over the file. A statement
that cannot be read is skipped to the end of its line, and the user is told.
-/

namespace FlowBoard.EnvFile

/-- What a statement says. -/
inductive Statement
  | binding (name : String) (value : Option String)
  | nothing
  | malformed (line : Nat)
deriving DecidableEq, Repr

def isLineBlank (c : Char) : Bool := Text.isBlank c && c != '\n'

def skipLineBlanks (cs : List Char) : List Char := cs.dropWhile isLineBlank

def skipLine (cs : List Char) : List Char := (cs.dropWhile (· != '\n')).drop 1

/-! ## Values -/

/-- Replaces escapes; a backslash before a character without a meaning stays. -/
def unescape (meaning : Char → Option Char) : List Char → List Char
  | [] => []
  | '\\' :: c :: rest =>
    match meaning c with
    | some d => d :: unescape meaning rest
    | none => '\\' :: unescape meaning (c :: rest)
  | c :: rest => c :: unescape meaning rest

def singleMeaning (c : Char) : Option Char := if c = '\\' || c = '\'' then some c else none

def doubleMeaning (c : Char) : Option Char :=
  if c = '\\' || c = '\'' || c = '"' then some c
  else if c = 'a' then some (Char.ofNat 7)
  else if c = 'b' then some (Char.ofNat 8)
  else if c = 'f' then some (Char.ofNat 12)
  else if c = 'n' then some '\n'
  else if c = 'r' then some '\r'
  else if c = 't' then some '\t'
  else if c = 'v' then some (Char.ofNat 11)
  else none

/-- The texts before and after the first quote that no backslash precedes. -/
def splitAtQuote? (quote : Char) (escaped : Bool) : List Char → Option (List Char × List Char)
  | [] => none
  | c :: rest =>
    if c = quote && !escaped then some ([], rest)
    else (splitAtQuote? quote (c == '\\') rest).map fun parts => (c :: parts.1, parts.2)

/-- The texts before and after the last quote. -/
def splitAtLastQuote? (quote : Char) (cs : List Char) : Option (List Char × List Char) :=
  match cs.reverse.dropWhile (· != quote) with
  | [] => none
  | _ :: before => some (before.reverse, (cs.reverse.takeWhile (· != quote)).reverse)

/-- The rest of a quoted value and what follows it. Where every quote is escaped, the last one
closes the value. -/
def quotedValue? (quote : Char) (meaning : Char → Option Char) (cs : List Char) :
    Option (List Char × List Char) :=
  ((splitAtQuote? quote false cs).or (splitAtLastQuote? quote cs)).map fun parts =>
    (unescape meaning parts.1, parts.2)

/-- Cuts the line where a comment starts after blanks; `blanks` were met just before. -/
def cutComment (blanks : List Char) : List Char → List Char
  | [] => []
  | c :: rest =>
    if Text.isBlank c then cutComment (blanks ++ [c]) rest
    else if c = '#' && !blanks.isEmpty then []
    else blanks ++ (c :: cutComment [] rest)

/-- A value and what follows it, if it can be read. -/
def value? (cs : List Char) : Option (List Char × List Char) :=
  match cs with
  | '\'' :: rest => quotedValue? '\'' singleMeaning rest
  | '"' :: rest => quotedValue? '"' doubleMeaning rest
  | _ => some (cutComment [] (cs.takeWhile (· != '\n')), cs.dropWhile (· != '\n'))

/-! ## Statements -/

/-- A blank must follow the word `export`. -/
def skipExport (cs : List Char) : List Char :=
  let word := "export".toList
  let after := cs.drop word.length
  if word.isPrefixOf cs && (after.head?.any isLineBlank) then skipLineBlanks after else cs

/-- A name and what follows it, if it can be read; a comment has none. -/
def name? (cs : List Char) : Option (Option (List Char) × List Char) :=
  match cs with
  | '#' :: _ => some (none, cs)
  | '\'' :: rest =>
    let name := rest.takeWhile (· != '\'')
    match rest.dropWhile (· != '\'') with
    | _ :: after => if name.isEmpty then none else some (some name, after)
    | [] => none
  | _ =>
    let isNameChar (c : Char) : Bool := c != '=' && c != '#' && !Text.isBlank c
    let name := cs.takeWhile isNameChar
    if name.isEmpty then none else some (some name, cs.dropWhile isNameChar)

def skipComment (cs : List Char) : List Char :=
  match skipLineBlanks cs with
  | '#' :: rest => rest.dropWhile (· != '\n')
  | _ => cs

/-- What follows the end of the line, if nothing but blanks precedes it. -/
def afterLineEnd? (cs : List Char) : Option (List Char) :=
  match skipLineBlanks cs with
  | [] => some []
  | '\n' :: rest => some rest
  | _ => none

/-- A name with its value and what follows the statement; or what is left where reading fails. -/
def assignment (cs : List Char) :
    Except (List Char) ((Option (List Char) × Option (List Char)) × List Char) :=
  let cs := skipExport cs
  match name? cs with
  | none => .error cs
  | some (name, rest) =>
    let rest := skipLineBlanks rest
    let value : Except (List Char) (Option (List Char) × List Char) :=
      match rest with
      | '=' :: after =>
        match value? (skipLineBlanks after) with
        | some (v, rest) => .ok (some v, rest)
        | none => .error (skipLineBlanks after)
      | _ => .ok (none, rest)
    match value with
    | .error left => .error left
    | .ok (value, rest) =>
      match afterLineEnd? (skipComment rest) with
      | some after => .ok ((name, value), after)
      | none => .error (skipComment rest)

def statementOf : Option (List Char) × Option (List Char) → Statement
  | (some name, value) => .binding (String.ofList name) (value.map String.ofList)
  | (none, _) => .nothing

/-- The statement at the front of a text, and what follows it. -/
def statement (line : Nat) (cs : List Char) : Statement × List Char :=
  match cs.dropWhile Text.isBlank with
  | [] => (.nothing, [])
  | c :: rest =>
    match assignment (c :: rest) with
    | .ok (parts, after) => (statementOf parts, after)
    | .error left => (.malformed line, skipLine left)

/-- The statements of a text that starts on a line with a number. -/
def statementsFrom (line : Nat) : Nat → List Char → List Statement
  | 0, _ => []
  | _, [] => []
  | fuel + 1, cs =>
    let (first, rest) := statement line cs
    first :: statementsFrom (line + (cs.take (cs.length - rest.length)).count '\n') fuel rest

/-- Every statement takes at least one character. -/
def statements (text : String) : List Statement :=
  statementsFrom 1 text.length text.toList

/-! ## References -/

/-- The name and the default of a reference whose opening was read, and what follows it. -/
def reference? (cs : List Char) : Option (List Char × List Char × List Char) :=
  let stop (c : Char) : Bool := c != '}' && c != ':'
  let name := cs.takeWhile stop
  match cs.dropWhile stop with
  | '}' :: rest => some (name, [], rest)
  | ':' :: '-' :: more =>
    match more.dropWhile (· != '}') with
    | _ :: rest => some (name, more.takeWhile (· != '}'), rest)
    | [] => none
  | _ => none

/-- Replaces the references in a text of at most `fuel` characters. -/
def expandFrom (find? : String → Option String) : Nat → List Char → List Char
  | 0, cs => cs
  | _, [] => []
  | fuel + 1, '$' :: '{' :: cs =>
    match reference? cs with
    | some (name, default, rest) =>
      (match find? (String.ofList name) with
        | some s => s.toList
        | none => default) ++ expandFrom find? fuel rest
    | none => '$' :: expandFrom find? fuel ('{' :: cs)
  | fuel + 1, c :: cs => c :: expandFrom find? fuel cs

def expand (find? : String → Option String) (s : String) : String :=
  Text.onChars (fun cs => expandFrom find? cs.length cs) s

/-- The values that names have after each statement of a file. -/
def bind (env : Keyed String String) (bound : Keyed String (Option String)) :
    Statement → Keyed String (Option String)
  | .binding name value =>
    let find? (name : String) : Option String :=
      match Keyed.find? name env, Keyed.find? name bound with
      | some s, _ => some s
      | none, some value => some (value.getD "")
      | none, none => none
    Keyed.put name (value.map (expand find?)) bound
  | _ => bound

def bindings (env : Keyed String String) (statements : List Statement) :
    Keyed String (Option String) :=
  statements.foldl (bind env) []

/-! ## Loading -/

def warning? : Statement → Option String
  | .malformed line =>
    some ("python-dotenv could not parse statement starting at line " ++ toString line)
  | _ => none

/-- Why a variable cannot be set. -/
def refusal? (name value : String) : Option String :=
  if name.contains (Char.ofNat 0) || value.contains (Char.ofNat 0) then some "embedded null byte"
  else if name.contains '=' then some "illegal environment variable name"
  else none

/-- A variable that is set already keeps its value. -/
def setVariable (name : String) (value : Option String) : Run Unit := do
  match Keyed.find? name (← get).env, value with
  | none, some value =>
    match refusal? name value with
    | some message => throw ⟨.wrongValue, message⟩
    | none => modify fun m => { m with env := Keyed.put name value m.env }
  | _, _ => return ()

def load (text : String) : Run Unit := do
  let all := statements text
  (all.filterMap warning?).forM Run.note
  (bindings (← get).env all).forM fun binding => setVariable binding.1 binding.2

/-! ## The nearest file -/

def fileName : String := ".env"

/-- A directory and those above it. -/
def upwards (directory : Path) : List Path :=
  (List.range (directory.parts.length + 1)).reverse.map fun n =>
    { directory with parts := directory.parts.take n }

def firstThere? (files : FileSystem) : List Path → Except Failure (Option Path)
  | [] => .ok none
  | directory :: above => do
    let candidate := { directory with parts := directory.parts ++ [fileName] }
    if ← files.exists? candidate then return some candidate
    firstThere? files above

/-- The nearest environment file of a directory and those above it. -/
def nearest? (files : FileSystem) (directory : Path) : Except Failure (Option Path) :=
  firstThere? files (upwards directory)

/-- Loads the nearest environment file and gives its path; a directory of its name is empty. -/
def loadNearest (directory : Path) : Run (Option Path) := do
  let files := (← get).files
  match ← Run.ofExcept (nearest? files directory) with
  | none => return none
  | some path =>
    if ← Run.ofExcept (files.isFile path) then load (← Run.readText path)
    return some path

end FlowBoard.EnvFile
