import FlowBoard.Graph.Basic
import FlowBoard.Json.Basic

/-!
# Layout presets

A preset names a configuration of the renderer. `auto` stands for the preset that the page's
topology calls for: the rules of `detect` are tried in order and the first that holds decides.
Densities are compared as exact ratios of edges to nodes.
-/

namespace FlowBoard

/-- What the layout rules look at. -/
structure Topology where
  nodes : Nat
  edges : Nat
  maxOutDegree : Nat
  treeShaped : Bool
  sections : Nat
deriving DecidableEq, Repr

namespace Page

def outDegree (page : Page) (id : String) : Nat := page.edges.countP (·.source == id)

def inDegree (page : Page) (id : String) : Nat := page.edges.countP (·.target == id)

/-- The ends of edges count as sources even when no node has their id. -/
def sources (page : Page) : List String := page.edges.map Edge.source

def topology (page : Page) : Topology where
  nodes := page.nodes.length
  edges := page.edges.length
  maxOutDegree := (page.sources.map page.outDegree).foldl max 0
  treeShaped := page.nodes.all fun node => page.inDegree node.id ≤ 1
  sections := page.sections.length

end Page

namespace Topology

/-- Edges for each node, as a binary number. -/
def density (t : Topology) : Binary64 := .ofRatio false t.edges (max t.nodes 1)

/-- There are at least `n / d` edges for each node. -/
def denseBy (t : Topology) (n d : Nat) : Bool := n * max t.nodes 1 ≤ d * t.edges

end Topology

namespace Layout

inductive Preset
  | plain
  | compact
  | elk
  | organic
  | tree
deriving DecidableEq, Repr

def Preset.name : Preset → String
  | .plain => "default"
  | .compact => "compact"
  | .elk => "elk"
  | .organic => "organic"
  | .tree => "tree"

def Preset.all : List Preset := [.plain, .compact, .elk, .organic, .tree]

def auto : String := "auto"

/-- The names that a user may choose from. -/
def choices : List String := auto :: Preset.all.map Preset.name

/-- The first rule that holds. -/
def choose (t : Topology) : Preset :=
  if t.nodes < 10 && !t.denseBy 3 2 then .plain
  else if t.treeShaped then .tree
  else if t.denseBy 2 1 || 5 ≤ t.maxOutDegree then .organic
  else if 3 ≤ t.sections then .elk
  else if 30 ≤ t.nodes then .compact
  else .plain

def detect (page : Page) : Preset := choose page.topology

/-- The name of the preset to use; any name but `auto` stands for itself. -/
def resolve (choice : String) (page : Page) : String :=
  if choice = auto then (detect page).name else choice

def elkRenderer : String × Json := ("flowchart", .obj [("defaultRenderer", .str "elk")])

/-- What a preset changes in the renderer's configuration. -/
def Preset.config? : Preset → Option Json
  | .plain => none
  | .compact => some (.obj [("flowchart", .obj
      [("nodeSpacing", .int 30), ("rankSpacing", .int 30), ("curve", .str "basis")])])
  | .elk => some (.obj [elkRenderer])
  | .organic => some (.obj [elkRenderer,
      ("elk", .obj [("mergeEdges", .bool true), ("nodePlacementStrategy", .str "SIMPLE")])])
  | .tree => some (.obj [elkRenderer,
      ("elk", .obj [("algorithm", .str "mrtree"), ("mergeEdges", .bool true)])])

/-- The configuration for a preset's name; an unknown name has none. -/
def config? (name : String) : Option Json :=
  (Preset.all.find? (·.name == name)).bind Preset.config?

end Layout

end FlowBoard
