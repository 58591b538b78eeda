import FlowBoard.Text.Cut
import FlowBoard.Text.Digits

/-!
# Words of the command line

A word is a value, the separator `--` after which all words are values, or an option. Options may
be shortened as long as one spelling is meant, and a value may be attached: after an equals sign,
or directly after a spelling of one letter.
-/

namespace FlowBoard.Cli

inductive Switch
  | help
  | output
  | token
  | source
  | format
  | page
  | direction
  | layout
  | markdown
  | png
  | svg
  | json
deriving DecidableEq, Repr

namespace Switch

def spellings : List (String × Switch) :=
  [("-h", .help), ("--help", .help), ("--output", .output), ("-o", .output), ("--token", .token),
    ("--source", .source), ("--format", .format), ("--page", .page), ("--direction", .direction),
    ("-d", .direction), ("--layout", .layout), ("--markdown", .markdown), ("--png", .png),
    ("--svg", .svg), ("--json", .json)]

/-- The switch as messages call it, by all its spellings. -/
def label (s : Switch) : String :=
  String.intercalate "/" ((spellings.filter (·.2 == s)).map (·.1))

def takesValue : Switch → Bool
  | .output | .token | .source | .format | .page | .direction | .layout => true
  | .help | .markdown | .png | .svg | .json => false

def ofSpelling? (spelling : String) : Option Switch := spellings.lookup spelling

end Switch

/-- A value attached to an option, after an equals sign or directly. -/
structure Attached where
  afterEquals : Bool
  text : String
deriving DecidableEq, Repr

/-- An option as it was given. -/
structure Use where
  switch : Switch
  isShort : Bool
  attached : Option Attached := none
deriving DecidableEq, Repr

inductive Word
  | value (text : String)
  | separator
  | option (use : Use)
  | unknown (text : String)
deriving DecidableEq, Repr

namespace Word

def attachedAfterEquals (after : Option (List Char)) : Option Attached :=
  after.map fun cs => ⟨true, String.ofList cs⟩

def isLong (spelling : List Char) : Bool := ['-', '-'].isPrefixOf spelling

/-- The options that a word may shorten, with the spelling of each. -/
def candidates (cs : List Char) : List (String × Use) :=
  let (front, after) := Text.cut '=' cs
  if isLong cs then
    (Switch.spellings.filter fun s => front.isPrefixOf s.1.toList).map fun s =>
      (s.1, ⟨s.2, false, attachedAfterEquals after⟩)
  else
    (Switch.spellings.filter fun s => s.1.toList == cs.take 2).map fun s =>
      (s.1, ⟨s.2, true, some ⟨false, String.ofList (cs.drop 2)⟩⟩)

def isDecimal (c : Char) : Bool := (Text.decimalDigit? c).isSome

/-- A minus sign, and digits with at most one point, after which at least one digit stands; a line
end may follow. -/
def isNegativeNumber (cs : List Char) : Bool :=
  match cs with
  | '-' :: rest =>
    let body := if rest.getLast? == some '\n' then rest.dropLast else rest
    match body.dropWhile isDecimal with
    | [] => !body.isEmpty
    | '.' :: fraction => !fraction.isEmpty && fraction.all isDecimal
    | _ => false
  | _ => false

def ambiguous (text : String) (found : List String) : String :=
  "ambiguous option: " ++ text ++ " could match " ++ String.intercalate ", " found

/-- The option whose whole spelling a word is, alone or before an equals sign. -/
def whole? (cs : List Char) : Option Use :=
  match Switch.ofSpelling? (String.ofList cs) with
  | some switch => some ⟨switch, !isLong cs, none⟩
  | none =>
    match Text.cut '=' cs with
    | (_, none) => none
    | (front, some after) =>
      (Switch.ofSpelling? (String.ofList front)).map fun switch =>
        ⟨switch, !isLong cs, some ⟨true, String.ofList after⟩⟩

/-- What a word is before a separator; the error names the spellings that it may shorten. -/
def classify (text : String) : Except String Word :=
  match text.toList with
  | '-' :: c :: rest =>
    let cs := '-' :: c :: rest
    match whole? cs, candidates cs with
    | some use, _ => .ok (.option use)
    | none, [found] => .ok (.option found.2)
    | none, [] =>
      .ok (if isNegativeNumber cs || cs.contains ' ' then .value text else .unknown text)
    | none, found => .error (ambiguous text (found.map (·.1)))
  | _ => .ok (.value text)

def classifyAll : List String → Except String (List Word)
  | [] => .ok []
  | text :: rest =>
    if text = "--" then .ok (.separator :: rest.map .value)
    else do return (← classify text) :: (← classifyAll rest)

end Word

end FlowBoard.Cli
