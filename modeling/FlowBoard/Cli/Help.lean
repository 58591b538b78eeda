import FlowBoard.Cli.Switch
import FlowBoard.Text.Cut

/-!
# Help

What the command tells about its words, laid out for a terminal of 80 columns.
-/

namespace FlowBoard.Cli

namespace Switch

/-- The switches in the order in which they are told about. -/
def all : List Switch :=
  [.help, .output, .token, .source, .format, .page, .direction, .layout, .markdown, .png, .svg,
    .json]

/-- What a switch is for. -/
def purpose : Switch → String
  | .help => "show this help message and exit"
  | .output => "Write output to this file"
  | .token => "Figma API token (overrides FIGMA_API_TOKEN)"
  | .source => "Source mode: tree, structured, auto, file, stdin (default: tree)"
  | .format => "Payload format for --source file|stdin: tree, structured, auto"
  | .page => "Export only one page by name or 1-based index"
  | .direction => "Flow direction override (TD, LR, TB, BT, RL)"
  | .layout => "Layout preset: auto, default, compact, elk, organic, tree"
  | .markdown => "Fenced Mermaid in a .md file"
  | .png => "PNG image (requires mmdc)"
  | .svg => "SVG image (requires mmdc)"
  | .json => "Canonical graph as JSON"

/-- What stands for the value: the long spelling, in capital letters. -/
def valueName (s : Switch) : String :=
  match spellings.find? fun spelling => spelling.2 == s && Word.isLong spelling.1.toList with
  | some (spelling, _) => String.ofList ((spelling.toList.drop 2).map Char.toUpper)
  | none => ""

/-- A spelling with the value that it takes. -/
def withValue (s : Switch) (spelling : String) : String :=
  if s.takesValue then spelling ++ " " ++ s.valueName else spelling

def signatures (s : Switch) : List String :=
  (spellings.filter (·.2 == s)).map fun spelling => s.withValue spelling.1

end Switch

/-! ## Lines -/

/-- The characters of a line. -/
def lineWidth : Nat := 78

/-- The column at which the second part of an entry starts. -/
def helpColumn : Nat := 24

def blanks (n : Nat) : String := String.ofList (List.replicate n ' ')

/-- Goes on with a line as long as the next word fits. -/
def fill (width : Nat) (line : String) : List String → List String
  | [] => [line]
  | word :: rest =>
    if line.length + 1 + word.length ≤ width then fill width (line ++ " " ++ word) rest
    else line :: fill width word rest

def fillWords (width : Nat) : List String → List String
  | [] => []
  | word :: rest => fill width word rest

/-- A name and what is told about it, from the same line on if the name is short. -/
def helpEntry (name help : String) : List String :=
  let words := (Text.splitOn ' ' help.toList).map String.ofList
  let lines := fillWords (lineWidth - helpColumn) words
  match lines with
  | first :: rest =>
    if name.length + 4 ≤ helpColumn then
      ("  " ++ name ++ blanks (helpColumn - 2 - name.length) ++ first) ::
        rest.map (blanks helpColumn ++ ·)
    else ("  " ++ name) :: lines.map (blanks helpColumn ++ ·)
  | [] => ["  " ++ name]

/-! ## Texts -/

def inputName : String := "input"

def inputHelp : String :=
  "FigJam URL/file key, Mermaid file (.mmd/.mermaid), or JSON/XML file path"

def joinLines (lines : List String) : String := String.join (lines.map (· ++ "\n"))

/-- How the command is called, as it is told before an error in its words. -/
def usage : String :=
  let front := "usage: jamaid "
  let options := Switch.all.map fun s => "[" ++ (s.signatures.headD "") ++ "]"
  let lines := fillWords (lineWidth - front.length) options ++ ["[" ++ inputName ++ "]"]
  match lines with
  | first :: rest => joinLines ((front ++ first) :: rest.map (blanks front.length ++ ·))
  | [] => ""

def helpText : String :=
  usage ++ "\nConvert FigJam flow diagrams into Mermaid flowcharts\n\npositional arguments:\n" ++
    joinLines (helpEntry inputName inputHelp) ++ "\noptions:\n" ++
    joinLines (Switch.all.flatMap fun s =>
      helpEntry (String.intercalate ", " s.signatures) s.purpose)

end FlowBoard.Cli
