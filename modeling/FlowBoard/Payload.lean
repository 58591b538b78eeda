import FlowBoard.Canvas
import FlowBoard.Ingested
import FlowBoard.Json.Reader

/-!
# Payloads

A payload is text in JSON or in canvas markup, told apart by an opening angle bracket. A hint may
say which wire form is meant; without one, only a value that looks like a tree file and canvas
markup are taken. Every way of failing is a failure of the payload, but for a number too long to
read.
-/

namespace FlowBoard

inductive FormatHint
  | auto
  | tree
  | structured
deriving DecidableEq, Repr

namespace FormatHint

def name : FormatHint → String
  | .auto => "auto"
  | .tree => "tree"
  | .structured => "structured"

def all : List FormatHint := [.tree, .structured, .auto]

/-- Any word that is no hint means that there is none. -/
def ofName (name : String) : FormatHint := (all.find? (·.name == name)).getD .auto

end FormatHint

/-- A decoded payload, and whether it came as markup. -/
structure Payload where
  data : Json
  fromMarkup : Bool := false

namespace Payload

def isMarkup (trimmed : List Char) : Bool := trimmed.head? == some '<'

/-- The failure of a JSON text, which `malformed` words unless a number is too long. -/
def jsonFailure (malformed : String → String) (text : List Char) (e : Json.ReadError) : Failure :=
  match e with
  | .malformed .. => .payload (malformed (e.message text))
  | .numberTooLong _ => ⟨.wrongValue, e.message text⟩

/-- Decodes a text that came from a named place. -/
def read (text label : String) (hint : FormatHint) : Except Failure Payload :=
  let trimmed := Text.trimChars text.toList
  if trimmed.isEmpty then .error (.payload ("No input received from " ++ label ++ "."))
  else if isMarkup trimmed then
    if hint = .tree then
      .error (.payload ("Invalid tree payload from " ++ label ++
        ": XML is not supported for --format tree."))
    else
      match Canvas.read text with
      | .ok doc => .ok { data := doc.sparseJson, fromMarkup := true }
      | .error e => .error (.payload ("Invalid XML from " ++ label ++ ": " ++ e.message))
  else
    match Json.readChars trimmed with
    | .ok data => .ok { data }
    | .error e =>
      .error (jsonFailure (fun m => "Invalid JSON from " ++ label ++ ": " ++ m) trimmed e)

/-- An object with a root item that has an id and a type. -/
def looksLikeTree (v : Json) : Bool :=
  match v.field? "document" with
  | some root => root.isObject && (root.field? "id").any Json.isString &&
      (root.field? "type").any Json.isString
  | none => false

/-- The wire form that a payload is checked as. -/
def form (p : Payload) (hint : FormatHint) : Except Failure WireForm :=
  if p.fromMarkup then
    if hint = .tree then
      .error (.payload "Invalid tree payload: XML is not supported for --format tree.")
    else .ok .structured
  else
    match hint, looksLikeTree p.data with
    | .tree, true => .ok .tree
    | .tree, false =>
      .error (.payload ("Invalid tree payload: expected a `document` object with string `id` " ++
        "and `type`. Use --format structured for page-list JSON."))
    | .structured, false => .ok .structured
    | .structured, true =>
      .error (.payload ("Invalid structured payload: this JSON is a Figma file tree. " ++
        "Use --format tree or --format auto."))
    | .auto, true => .ok .tree
    | .auto, false =>
      .error (.payload ("Unable to auto-detect payload format. Expected a Figma file tree " ++
        "(JSON with a `document` object) or a page-list document as XML " ++
        "(<canvas> root). For page-list JSON use --format structured."))

/-- The stand-ins in what a text is decoded to; markup has none. -/
def standIns (text : String) : Text.StandIns :=
  let trimmed := Text.trimChars text.toList
  if isMarkup trimmed then {} else Json.standIns trimmed

/-- Checks a payload as the form that it has. -/
def ingest (p : Payload) (fileKey : String) (hint : FormatHint) (lone : Text.StandIns := {}) :
    Except Failure Ingested := do
  match ← p.form hint with
  | .tree => return .tree fileKey (← checkTree p.data treeRoot) lone
  | .structured => return .structured fileKey (← checkPageList p.data pageListRoot) lone

end Payload

/-- Decodes and checks a text. -/
def ingestText (text label fileKey : String) (hint : FormatHint) : Except Failure Ingested := do
  (← Payload.read text label hint).ingest fileKey hint (Payload.standIns text)

/-- Decodes the body of a structured reply. -/
def decodeReply (text : String) : Except Failure Json :=
  let trimmed := Text.trimChars text.toList
  if Payload.isMarkup trimmed then
    match Canvas.read text with
    | .ok doc => .ok doc.sparseJson
    | .error e => .error (.payload ("Structured endpoint returned invalid XML: " ++ e.message))
  else
    (Json.readChars trimmed).mapError
      (Payload.jsonFailure (fun _ => "Structured endpoint returned invalid JSON.") trimmed)

end FlowBoard
