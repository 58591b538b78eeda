import FlowBoard.Cli.Arguments
import FlowBoard.Cli.FileName
import FlowBoard.Cli.Help
import FlowBoard.Cli.PageChoice
import FlowBoard.EnvFile
import FlowBoard.Graph.File
import FlowBoard.Mermaid.Text
import FlowBoard.Pipeline

/-!
# The command

A run of the command either passes ready Mermaid text through or exports the pages of a document.
It ends with code 0, with code 1 after one line about a failure of this program's own kinds, or
with code 2 when the words of the command line are wrong. Any other failure ends it too, without
such a line.
-/

namespace FlowBoard.Cli

def sourceFault (message : String) : Failure := ⟨.source, message⟩

/-! ## Output -/

def dropLineFeeds (cs : List Char) : List Char := (cs.reverse.dropWhile (· == '\n')).reverse

/-- A flowchart as the contents of a text file. -/
def fileText (markdown : Bool) (mermaid : String) : String :=
  if markdown then Mermaid.block mermaid else Text.onChars dropLineFeeds mermaid ++ "\n"

/-- Writes a flowchart in the form that was asked for. -/
def writeFlowchart (a : Arguments) (lone : Text.StandIns) (mermaid path : String)
    (config : Option Json) : Run Unit := do
  match a.imageFormat? with
  | some format => Raster.renderWith lone mermaid path format.name config Raster.defaultTimeout
  | none => Run.writeCoded lone (Path.ofString path) (fileText a.markdown mermaid)
  Run.note ("Written to " ++ path)

/-! ## Mermaid text -/

/-- Where ready Mermaid text comes from. -/
inductive Direct
  | file (value : String)
  | stdin
deriving DecidableEq, Repr

def mermaidExtensions : List String := [".mmd", ".mermaid"]

def hasMermaidExtension (value : String) : Bool :=
  mermaidExtensions.any fun e => e.toList.reverse.isPrefixOf (Text.lower value).toList.reverse

def inputValue (a : Arguments) : String := Text.trim (a.input.getD "")

/-- Without a source, any file is taken for Mermaid text, and so is standard input when nothing is
named and no user sits there. -/
def direct? (a : Arguments) : Run (Option Direct) := do
  let m ← get
  let value := inputValue a
  if a.source = some .file || a.source = some .stdin then return none
  else if value.isEmpty then
    return if a.source.isNone && m.stdin.isSome then some .stdin else none
  else if hasMermaidExtension value then return some (.file value)
  else if a.source.isSome then return none
  else
    let isFile ← Run.ofExcept (m.files.isFile (Path.ofString value))
    return if isFile then some (.file value) else none

def unreadableMermaid (path : Path) (e : Failure) : Failure :=
  match e.kind with
  | .fileSystem _ =>
    sourceFault ("Failed to read Mermaid file \"" ++ path.text ++ "\": " ++ e.message)
  | _ => e

/-- The text with the stem of its output files and its title. -/
def readDirect : Direct → Run (String × String × String)
  | .file value => do
    let path := Path.ofString value
    match ← Run.attempt (Run.readText path) with
    | .ok text => return (text, FileName.sanitize path.stem, path.name)
    | .error e => throw (unreadableMermaid path e)
  | .stdin => do
    return (← Run.readStdin (sourceFault "Mermaid input is empty."), "stdin", "stdin")

def withLineEnd (s : String) : String := if s.toList.getLast? == some '\n' then s else s ++ "\n"

/-- Passes Mermaid text through. -/
def passThrough (a : Arguments) (d : Direct) : Run Unit := do
  if a.json then throw (sourceFault "--json needs a diagram source, not Mermaid input.")
  let (text, stem, title) ← readDirect d
  if Text.isBlankText text then throw (sourceFault "Mermaid input is empty.")
  if a.wantsFile then
    Run.note ("[jamaid] Passing through Mermaid from " ++ title)
    writeFlowchart a {} text (a.outputPath?.getD (stem ++ a.extension)) (Layout.config? a.layout)
  else Run.print (withLineEnd text)

/-! ## Documents -/

def pageNote (r : RenderedPage) : String :=
  "[jamaid] " ++ r.page.name ++ ": " ++ toString r.page.nodes.length ++ " nodes, " ++
    toString r.page.edges.length ++ " edges, " ++ toString r.page.sections.length ++
    " sections (layout: " ++ r.layout ++ ")"

/-- The stem of the files of a document, after its name or else its key. -/
def documentStem (d : Document) : String :=
  FileName.sanitize (Text.orElse (d.fileName.getD "") d.fileKey)

def pagePath (a : Arguments) (d : Document) (r : RenderedPage) : String :=
  documentStem d ++ "-" ++ FileName.sanitize r.page.name ++ a.extension

def exportJson (a : Arguments) (lone : Text.StandIns) (d : Document)
    (pages : List RenderedPage) : Run Unit := do
  let doc := ({ d with pages := pages.map fun r => r.page } : Document).stored
  match a.outputPath? with
  | some path =>
    doc.saveWith lone (Path.ofString path)
    Run.note ("Written to " ++ path)
  | none => Run.print (doc.fileText lone)

def exportPage (a : Arguments) (lone : Text.StandIns) (d : Document) (r : RenderedPage) :
    Run Unit :=
  if a.wantsFile then
    writeFlowchart a lone r.mermaid (a.outputPath?.getD (pagePath a d r)) r.config
  else Run.printCoded lone (r.mermaid ++ "\n")

def outputForOnePage : Failure :=
  sourceFault <| "--output can only be used with a single page. Use --page to select one page, " ++
    "or omit --output to export all pages automatically."

/-- Every page goes to a file of its own name. -/
def exportPages (a : Arguments) (lone : Text.StandIns) (d : Document)
    (pages : List RenderedPage) : Run Unit :=
  if a.outputPath?.isSome then throw outputForOnePage
  else pages.forM fun r => writeFlowchart a lone r.mermaid (pagePath a d r) r.config

def exportDocument (a : Arguments) (lone : Text.StandIns) (d : Document)
    (pages : List RenderedPage) : Run Unit :=
  if a.json then exportJson a lone d pages
  else
    match pages with
    | [page] => exportPage a lone d page
    | pages => exportPages a lone d pages

/-! ## A run -/

def tooManyForms : Failure := sourceFault
  "Use only one output format flag at a time: --markdown, --png, --svg, or --json."

def defaultMode : Mode := .tree

def missingInput : Mode → Failure
  | .file => Source.missingPath
  | _ => FileKey.Fault.missing.failure

/-- What is asked of the sources of a mode. -/
def requestFor (a : Arguments) (mode : Mode) : Run SourceRequest := do
  let input := if mode = .stdin then "" else inputValue a
  if mode ≠ .stdin && input.isEmpty then throw (missingInput mode)
  let _ ← EnvFile.loadNearest ⟨1, FileSystem.workPlace⟩
  if mode.isRemote then
    return { input, token := ← Run.ofExcept (Settings.boardToken a.token (← get).env) }
  else return { input, format := some a.format.name }

def settingsFor (mode : Mode) : Run Settings := do
  if mode = .structured || mode = .auto then
    Run.ofExcept (Settings.ofEnv (← get).env none none none)
  else return {}

def fallbackNote : String :=
  "[jamaid] Source auto fallback: structured endpoint failed, using Figma REST."

/-- The chosen pages; a failure lists their names as they are shown. -/
def choosePages (result : PipelineResult) (selector : Option String) :
    Except Failure (List RenderedPage) :=
  (PageChoice.select (fun r : RenderedPage => r.page.name) result.pages selector).mapError
    fun e => { e with message := result.standIns.shown e.message }

/-- Takes a document from the sources of a mode and exports the chosen pages. -/
def exportFrom (a : Arguments) (mode : Mode) : Run Unit := do
  let request ← requestFor a mode
  let settings ← settingsFor mode
  let result ← Pipeline.run Source.boardAddress settings request mode
    (a.direction.map Direction.name) a.layout
  if result.fallbackUsed then Run.note fallbackNote
  let pages ← Run.ofExcept (choosePages result a.page)
  if pages.isEmpty then throw (sourceFault "No pages found to export.")
  pages.forM fun r => Run.note (result.standIns.shown (pageNote r))
  exportDocument a result.standIns result.document pages

def run (a : Arguments) : Run Unit := do
  if 1 < a.formFlags.count true then throw tooManyForms
  match ← direct? a with
  | some d => passThrough a d
  | none => exportFrom a (a.source.getD defaultMode)

/-- How a run ends. -/
inductive Ending
  | code (n : Nat)
  | failed (e : Failure)
deriving DecidableEq, Repr

/-- A failure of one of the program's own kinds is reported. -/
def report (e : Failure) (m : Machine) : Ending × Machine :=
  if e.isOwn then (.code 1, { m with stderr := m.stderr ++ "Error: " ++ e.message ++ "\n" })
  else (.failed e, m)

/-- Reads the words of a command line and runs the command. What is wrong with the words is told in
one line, ahead of which the program tells how it is called. -/
def main (words : List String) (m : Machine) : Ending × Machine :=
  match Arguments.parse words with
  | .error .help => (.code 0, { m with stdout := m.stdout ++ helpText })
  | .error (.misuse message) =>
    (.code 2, { m with stderr := m.stderr ++ "jamaid: error: " ++ message ++ "\n" })
  | .ok a =>
    match run a m with
    | (.ok (), m) => (.code 0, m)
    | (.error e, m) => report e m

end FlowBoard.Cli
