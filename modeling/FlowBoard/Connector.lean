import FlowBoard.Graph.Basic

/-!
# Connectors

A connector is drawn from a start to an end, and either end may carry an arrowhead. `resolve` gives
the edge in the order of flow: a single arrowhead points at the target, two make the edge
bidirectional, and none leaves a plain line in the order of drawing.
-/

namespace FlowBoard.Connector

/-- The caps that are arrowheads, under the names of both drawing interfaces. -/
def arrowCaps : List String :=
  ["ARROW_LINES", "ARROW_EQUILATERAL", "LINE_ARROW", "TRIANGLE_ARROW", "TRIANGLE_FILLED"]

def isArrow (cap : Option String) : Bool := cap.any arrowCaps.contains

/-- The source, the target and the kind of the edge. -/
def resolve (first last : String) (firstCap lastCap : Option String) :
    String × String × EdgeKind :=
  match isArrow firstCap, isArrow lastCap with
  | true, true => (first, last, .bidirectional)
  | true, false => (last, first, .arrow)
  | false, true => (first, last, .arrow)
  | false, false => (first, last, .line)

/-- The edge of a connector with a label. -/
def edge (first last : String) (firstCap lastCap : Option String) (label : Option String) : Edge :=
  let (source, target, kind) := resolve first last firstCap lastCap
  { source, target, label, kind := kind.name }

end FlowBoard.Connector
