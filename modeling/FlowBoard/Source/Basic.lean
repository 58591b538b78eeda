import FlowBoard.Ingested
import FlowBoard.Payload

/-!
# Sources

A source gives one document for a request or fails. A mode names the sources that are tried, in
order. `Source.firstUsable` goes on to the next source only in automatic mode, after the
structured source, and only when its failure may be recovered; each time the user is told.
-/

namespace FlowBoard

inductive SourceKind
  | tree
  | structured
  | file
  | stdin
deriving DecidableEq, Repr

namespace SourceKind

def name : SourceKind → String
  | .tree => "tree"
  | .structured => "structured"
  | .file => "file"
  | .stdin => "stdin"

def all : List SourceKind := [.tree, .structured, .file, .stdin]

def ofName (name : String) : Except Failure SourceKind :=
  match all.find? (·.name == name) with
  | some kind => .ok kind
  | none => .error ⟨.wrongValue, "Unknown source kind: " ++ name⟩

end SourceKind

inductive Mode
  | tree
  | structured
  | auto
  | file
  | stdin
deriving DecidableEq, Repr

namespace Mode

def name : Mode → String
  | .tree => "tree"
  | .structured => "structured"
  | .auto => "auto"
  | .file => "file"
  | .stdin => "stdin"

def all : List Mode := [.tree, .structured, .auto, .file, .stdin]

def ofName (name : String) : Except Failure Mode :=
  match all.find? (·.name == name) with
  | some mode => .ok mode
  | none => .error ⟨.wrongValue, "Unknown ingestion mode: " ++ name⟩

/-- The sources that are tried, in order. -/
def order : Mode → List SourceKind
  | .tree => [.tree]
  | .structured => [.structured]
  | .auto => [.structured, .tree]
  | .file => [.file]
  | .stdin => [.stdin]

def isRemote : Mode → Bool
  | .tree | .structured | .auto => true
  | .file | .stdin => false

end Mode

/-- What is asked of a source. -/
structure SourceRequest where
  input : String
  token : String := ""
  format : Option String := none
deriving DecidableEq, Repr

def SourceRequest.hint (r : SourceRequest) : FormatHint := .ofName (r.format.getD "")

structure Source (m : Type → Type) where
  kind : String
  ingest : m (Except Failure Ingested)

/-- A document with the source that gave it. -/
structure Selection where
  kind : String
  fallbackUsed : Bool
  ingested : Ingested

namespace Source

variable {m : Type → Type} [Monad m]

/-- A failure of this source may be followed by the next source. -/
def recovers (isAuto : Bool) (kind : String) (e : Failure) : Bool :=
  isAuto && kind == SourceKind.structured.name && e.isRecoverable

def warning (kind : String) (e : Failure) : String :=
  "[ingest] " ++ kind ++ " source failed (" ++ e.message ++ "); trying next source"

/-- The first source that is not recovered from; `last` is the failure of the one before. -/
def firstUsable (warn : String → m Unit) (isAuto : Bool) (last : Option Failure) :
    List (Source m) → m (Except Failure Selection)
  | [] => pure (.error (last.getD ⟨.general, "No source is available for ingestion."⟩))
  | source :: rest => do
    match ← source.ingest with
    | .ok ingested => return .ok ⟨source.kind, isAuto && last.isSome, ingested⟩
    | .error e =>
      if recovers isAuto source.kind e then
        warn (warning source.kind e)
        firstUsable warn isAuto (some e) rest
      else return .error e

end Source

end FlowBoard
