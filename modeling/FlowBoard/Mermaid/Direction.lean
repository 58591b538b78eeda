import FlowBoard.Graph.Basic

/-!
# Direction of flow

Without a direction given, a flowchart runs from left to right when its positioned nodes spread at
least as wide as tall, and downwards otherwise.
-/

namespace FlowBoard

inductive Direction
  | td
  | lr
  | tb
  | bt
  | rl
deriving DecidableEq, Repr

namespace Direction

def name : Direction → String
  | .td => "TD"
  | .lr => "LR"
  | .tb => "TB"
  | .bt => "BT"
  | .rl => "RL"

def all : List Direction := [.td, .lr, .tb, .bt, .rl]

/-- The places of the nodes that have both coordinates. -/
def places (nodes : List Node) : List (Number × Number) :=
  nodes.filterMap fun node => do return (← node.x, ← node.y)

/-- The distance between the greatest and the least number, if it can be taken. -/
def spread? : List Number → Option Number
  | [] => some (.whole 0)
  | n :: rest => (Number.greatest n rest).sub? (Number.least n rest)

/-- There is none when a whole coordinate is too large to meet a binary one. -/
def detect? (nodes : List Node) : Option Direction :=
  let found := places nodes
  if found.length < 2 then some .td
  else do
    let width ← spread? (found.map (·.1))
    let height ← spread? (found.map (·.2))
    return if height.atMost width then .lr else .td

end Direction

end FlowBoard
