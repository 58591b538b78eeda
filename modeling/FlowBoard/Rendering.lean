import FlowBoard.Failure
import FlowBoard.Layout
import FlowBoard.Mermaid.Flowchart

/-!
# Rendered pages

A page is rendered with a layout preset, that preset's configuration and a flowchart.
-/

namespace FlowBoard

structure RenderedPage where
  page : Page
  layout : String
  config : Option Json
  mermaid : String

namespace Page

def mermaid (page : Page) (direction : Option String) : Except Failure String :=
  match page.mermaid? direction with
  | some text => .ok text
  | none => .error ⟨.overflow, "int too large to convert to float"⟩

def render (page : Page) (direction : Option String) (layout : String) :
    Except Failure RenderedPage := do
  let preset := Layout.resolve layout page
  let mermaid ← page.mermaid direction
  return { page, layout := preset, config := Layout.config? preset, mermaid }

end Page

def Document.render (doc : Document) (direction : Option String) (layout : String) :
    Except Failure (List RenderedPage) :=
  doc.pages.mapM (·.render direction layout)

end FlowBoard
