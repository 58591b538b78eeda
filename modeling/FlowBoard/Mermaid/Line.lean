import FlowBoard.Graph.Basic
import FlowBoard.Mermaid.Text

/-!
# Lines of a flowchart

A flowchart is a list of lines of six forms. Nodes are named by rank, counted from one, and blocks
by the number of their section. `Line.text` is the only place where a line becomes a string.
-/

namespace FlowBoard.Mermaid

/-- The delimiters of a node's shape. -/
structure Brackets where
  opening : String
  closing : String
deriving DecidableEq, Repr

def rectangle : Brackets := ⟨"[", "]"⟩

def shapes : List (String × Brackets) :=
  [("ROUNDED_RECTANGLE", ⟨"(", ")"⟩),
   ("DIAMOND", ⟨"\x7b", "\x7d"⟩),
   ("SQUARE", rectangle),
   ("RECTANGLE", rectangle),
   ("ELLIPSE", ⟨"([", "])"⟩),
   ("PARALLELOGRAM_RIGHT", ⟨"[/", "/]"⟩),
   ("PARALLELOGRAM_LEFT", ⟨"[\\", "\\]"⟩),
   ("ENG_DATABASE", ⟨"[(", ")]"⟩),
   ("HEXAGON", ⟨"\x7b\x7b", "\x7d\x7d"⟩),
   ("TRAPEZOID", ⟨"[/", "\\]"⟩),
   ("DOCUMENT_SINGLE", ⟨">", "]"⟩)]

/-- The delimiters of a shape; one that is unknown or absent is drawn as a rectangle. -/
def brackets (shape : Option String) : Brackets :=
  (shape.bind fun name => shapes.lookup name).getD rectangle

inductive Arrow
  | directed
  | plain
  | both
deriving DecidableEq, Repr

def Arrow.text : Arrow → String
  | .directed => "-->"
  | .plain => "---"
  | .both => "<-->"

/-- The arrow of an edge; an unknown kind is drawn as a directed one. -/
def arrowOf (kind : String) : Arrow :=
  match EdgeKind.ofName? kind with
  | some .line => .plain
  | some .bidirectional => .both
  | _ => .directed

inductive Line
  | header (direction : String)
  | note (text : String)
  | opening (number : Nat) (title : String)
  | closing
  | node (inside : Bool) (rank : Nat) (shape : Brackets) (label : String)
  | edge (source target : Nat) (arrow : Arrow) (label : Option String)
deriving DecidableEq, Repr

def nodeName (rank : Nat) : String := "n" ++ toString rank

namespace Line

def text : Line → String
  | .header direction => "flowchart " ++ direction
  | .note text => "  %% Note: " ++ text
  | .opening number title => "  subgraph s" ++ toString number ++ "[\"" ++ title ++ "\"]"
  | .closing => "  end"
  | .node inside rank shape label =>
    (if inside then "    " else "  ") ++ nodeName rank ++ shape.opening ++ label ++ shape.closing
  | .edge source target arrow none =>
    "  " ++ nodeName source ++ " " ++ arrow.text ++ " " ++ nodeName target
  | .edge source target arrow (some label) =>
    "  " ++ nodeName source ++ " " ++ arrow.text ++ "|" ++ label ++ "| " ++ nodeName target

end Line

end FlowBoard.Mermaid
