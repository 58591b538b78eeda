import FlowBoard.Rendering
import FlowBoard.Source.Local
import FlowBoard.Source.Remote

/-!
# From a source to rendered pages

A run of the pipeline takes the first usable source of a mode, brings its document to pages and
renders them.
-/

namespace FlowBoard

/-- Rendered pages; `standIns` tells which characters of the texts stand for halves of pairs. -/
structure PipelineResult where
  requested : String
  selected : String
  fallbackUsed : Bool
  document : Document
  pages : List RenderedPage
  standIns : Text.StandIns := {}

namespace Pipeline

/-- The source of a kind for a request. -/
def source (address : String) (settings : Settings) (request : SourceRequest) (kind : SourceKind) :
    Source Run where
  kind := kind.name
  ingest := Run.attempt <|
    match kind with
    | .tree => Source.ingestTree address request
    | .structured => Source.ingestStructured settings request
    | .file => Source.ingestFile request
    | .stdin => Source.ingestStdin request

def sources (address : String) (settings : Settings) (request : SourceRequest) (mode : Mode) :
    List (Source Run) :=
  mode.order.map (source address settings request)

/-- Renders the document that was selected. -/
def finish (mode : String) (direction : Option String) (layout : String) (s : Selection) :
    Except Failure PipelineResult := do
  let document := s.ingested.document
  return {
    requested := mode
    selected := s.kind
    fallbackUsed := s.fallbackUsed
    document
    pages := ← document.render direction layout
    standIns := s.ingested.standIns }

def run (address : String) (settings : Settings) (request : SourceRequest) (mode : Mode)
    (direction : Option String) (layout : String) : Run PipelineResult := do
  let selection ← Source.firstUsable Run.note (mode == .auto) none
    (sources address settings request mode)
  Run.ofExcept (do finish mode.name direction layout (← selection))

end Pipeline

end FlowBoard
