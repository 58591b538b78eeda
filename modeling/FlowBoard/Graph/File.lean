import FlowBoard.Graph.Stored
import FlowBoard.Json.Reader
import FlowBoard.Machine.Basic

/-!
# Documents in files

A document is saved as the text of its stored form, and read back from such a text.
-/

namespace FlowBoard

def StoredFault.kind : StoredFault → FailureKind
  | .missingKey _ => .missingKey
  | .noMethod .. => .noMethod
  | .missingFields .. | .notIterable _ | .notIndexable _ => .wrongType

def StoredFault.failure (fault : StoredFault) : Failure := ⟨fault.kind, fault.message⟩

def Json.ReadError.kind : Json.ReadError → FailureKind
  | .malformed .. => .malformedJson
  | .numberTooLong _ => .wrongValue

namespace StoredDocument

/-- The document that a value stores. -/
def check (v : Json) : Except Failure StoredDocument := (ofJson v).mapError StoredFault.failure

/-- The document that a text stores. -/
def read (text : String) : Except Failure StoredDocument := do
  check (← (Json.read text).mapError fun e => ⟨e.kind, e.message text.toList⟩)

/-- Writes a document whose strings may have stand-ins. -/
def saveWith (lone : Text.StandIns) (doc : StoredDocument) (path : Path) : Run Unit :=
  Run.writeText path (doc.fileText lone)

def save (doc : StoredDocument) (path : Path) : Run Unit := doc.saveWith {} path

def load (path : Path) : Run StoredDocument := do
  Run.ofExcept (read (← Run.readText path))

end StoredDocument

end FlowBoard
