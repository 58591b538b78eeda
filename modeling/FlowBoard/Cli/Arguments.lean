import FlowBoard.Cli.Switch
import FlowBoard.Layout
import FlowBoard.Mermaid.Direction
import FlowBoard.Raster
import FlowBoard.Source.Basic
import FlowBoard.Text.Case
import FlowBoard.Text.Quoted

/-!
# Arguments

The words of the command line set the arguments from left to right; later ones win. The first
value is the input, and all values must be used.
-/

namespace FlowBoard.Cli

structure Arguments where
  input : Option String := none
  output : Option String := none
  token : Option String := none
  source : Option Mode := none
  format : FormatHint := .auto
  page : Option String := none
  direction : Option Direction := none
  layout : String := Layout.auto
  markdown : Bool := false
  png : Bool := false
  svg : Bool := false
  json : Bool := false

/-- Why no run follows: help was asked for, or the words were wrong. -/
inductive Refusal
  | help
  | misuse (message : String)
deriving DecidableEq, Repr

namespace Arguments

/-! ## Values of options -/

def oneOf (title : String) (names : List String) : String :=
  title ++ " must be one of: " ++ String.intercalate ", " names ++ "."

/-- The choice with a name, which is given in letters of either case with blanks around it. -/
def choice (title : String) (name : α → String) (all : List α) (given : String) :
    Except String α :=
  match all.find? (name · == given) with
  | some a => .ok a
  | none => .error (oneOf title (all.map name))

def inLower (raw : String) : String := Text.lower (Text.trim raw)

def inUpper (raw : String) : String := Text.upperAscii (Text.trim raw)

/-- Sets an option to a value. -/
def set (a : Arguments) (switch : Switch) (raw : String) : Except String Arguments := do
  match switch with
  | .output => return { a with output := some raw }
  | .token => return { a with token := some raw }
  | .page => return { a with page := some raw }
  | .source => return { a with source := some (← choice "Source" Mode.name Mode.all (inLower raw)) }
  | .format =>
    return { a with format := ← choice "Format" FormatHint.name FormatHint.all (inLower raw) }
  | .direction =>
    return { a with
      direction := some (← choice "Direction" Direction.name Direction.all (inUpper raw)) }
  | .layout => return { a with layout := ← choice "Layout" id Layout.choices (inLower raw) }
  | _ => return a

/-- Turns a flag on. -/
def turnOn (a : Arguments) : Switch → Arguments
  | .markdown => { a with markdown := true }
  | .png => { a with png := true }
  | .svg => { a with svg := true }
  | .json => { a with json := true }
  | _ => a

/-! ## Reading words -/

/-- What was read so far. -/
structure Progress where
  arguments : Arguments := {}
  inputRead : Bool := false
  unused : List String := []

namespace Progress

def setOption (p : Progress) (switch : Switch) (raw : String) : Except Refusal Progress :=
  match p.arguments.set switch raw with
  | .ok arguments => .ok { p with arguments }
  | .error message => .error (.misuse ("argument " ++ switch.label ++ ": " ++ message))

/-- Turns a flag on; help ends the reading. -/
def setFlag (p : Progress) (switch : Switch) : Except Refusal Progress :=
  if switch = .help then .error .help else .ok { p with arguments := p.arguments.turnOn switch }

def leave (p : Progress) (text : String) : Progress := { p with unused := p.unused ++ [text] }

def withInput (p : Progress) (input : Option String) : Progress :=
  { p with arguments := { p.arguments with input }, inputRead := true }

end Progress

def missingValue (switch : Switch) : Refusal :=
  .misuse ("argument " ++ switch.label ++ ": expected one argument")

def ignored (switch : Switch) (text : String) : Refusal :=
  .misuse ("argument " ++ switch.label ++ ": ignored explicit argument " ++ Text.quoted text)

def isValue : Option Word → Bool
  | some (.value _) => true
  | _ => false

/-- Letters joined to the short spelling of help are options themselves, the last of which may
take a value; help is given unless one of them is wrong. -/
def joined (next : Option Word) : List Char → Refusal
  | [] => .help
  | c :: rest =>
    match Switch.ofSpelling? (String.ofList ['-', c]) with
    | none => .help
    | some switch =>
      if switch.takesValue then
        if rest.isEmpty && !isValue next then missingValue switch else .help
      else
        match rest with
        | '=' :: after => ignored switch (String.ofList after)
        | '-' :: _ => ignored switch (String.ofList rest)
        | _ => joined next rest

/-- A flag that something is attached to. -/
def attachedFlag (switch : Switch) (isShort : Bool) (attached : Attached) (next : Option Word) :
    Refusal :=
  let cs := attached.text.toList
  if isShort && !cs.isEmpty && !attached.afterEquals && cs.head? != some '-' then joined next cs
  else ignored switch attached.text

/-- Reads words from left to right. A separator beside the input is used with it. -/
def consume (p : Progress) : List Word → Except Refusal Progress
  | [] => .ok p
  | .unknown text :: rest => consume (p.leave text) rest
  | .option ⟨switch, isShort, some attached⟩ :: rest =>
    if switch.takesValue then
      match p.setOption switch attached.text with
      | .ok q => consume q rest
      | .error e => .error e
    else .error (attachedFlag switch isShort attached rest.head?)
  | .option ⟨switch, _, none⟩ :: .value text :: rest =>
    if switch.takesValue then
      match p.setOption switch text with
      | .ok q => consume q rest
      | .error e => .error e
    else
      match p.setFlag switch with
      | .ok q => consume q (.value text :: rest)
      | .error e => .error e
  | .option ⟨switch, _, none⟩ :: rest =>
    if switch.takesValue then .error (missingValue switch)
    else
      match p.setFlag switch with
      | .ok q => consume q rest
      | .error e => .error e
  | .value text :: .separator :: rest =>
    if p.inputRead then consume ((p.leave text).leave "--") rest
    else consume (p.withInput (some text)) rest
  | .value text :: rest =>
    if p.inputRead then consume (p.leave text) rest else consume (p.withInput (some text)) rest
  | .separator :: .value text :: rest =>
    if p.inputRead then consume (p.leave "--") (.value text :: rest)
    else consume (p.withInput (some text)) rest
  | .separator :: rest =>
    if p.inputRead then consume (p.leave "--") rest else consume (p.withInput none) rest

/-- The arguments that words give. -/
def parse (words : List String) : Except Refusal Arguments := do
  let p ← consume {} (← (Word.classifyAll words).mapError .misuse)
  if p.unused.isEmpty then return p.arguments
  else throw (.misuse ("unrecognized arguments: " ++ String.intercalate " " p.unused))

/-! ## What arguments ask for -/

/-- The flags that choose a form of output, of which one may be on. -/
def formFlags (a : Arguments) : List Bool := [a.markdown, a.png, a.svg, a.json]

def imageFormat? (a : Arguments) : Option ImageFormat :=
  if a.png then some .png else if a.svg then some .svg else none

/-- The extension of output files. -/
def extension (a : Arguments) : String :=
  if a.markdown then ".md" else if a.png then ".png" else if a.svg then ".svg"
  else if a.json then ".json" else ".mmd"

/-- The path that output goes to, if one is given. -/
def outputPath? (a : Arguments) : Option String := a.output.filter (!·.isEmpty)

def wantsFile (a : Arguments) : Bool := a.outputPath?.isSome || a.markdown || a.png || a.svg

end Arguments

end FlowBoard.Cli
