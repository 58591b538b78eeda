import FlowBoard.Connector

/-!
# How a connector is drawn

A connector may be drawn from either end, and its caps have many names. What it means is the edge
in the order of flow: a cap may be replaced by another of its class, and a connector with one
arrowhead may be drawn from its other end, without a change of the edge. One with two arrowheads or
none changes the direction of its edge, and nothing else, when it is drawn from its other end.
-/

namespace FlowBoard

def Edge.reversed (edge : Edge) : Edge := { edge with source := edge.target, target := edge.source }

namespace Connector

/-- What the two ends are attached to, in the order of drawing, and their caps. -/
structure Stroke (ε : Type) where
  first : ε
  last : ε
  firstCap : Option String
  lastCap : Option String

namespace Stroke

variable {ε : Type} {s t : Stroke ε}

/-- The same line, drawn from its other end. -/
def turned (s : Stroke ε) : Stroke ε := ⟨s.last, s.first, s.lastCap, s.firstCap⟩

/-- There is an arrowhead at one end and none at the other. -/
def OneWay (s : Stroke ε) : Prop := isArrow s.firstCap ≠ isArrow s.lastCap

instance (s : Stroke ε) : Decidable s.OneWay := inferInstanceAs (Decidable (_ ≠ _))

/-- Caps stay in their class: arrowheads are arrowheads, and other caps, known or not, are none. -/
structure Recapped (s t : Stroke ε) : Prop where
  first : s.first = t.first
  last : s.last = t.last
  firstCap : isArrow s.firstCap = isArrow t.firstCap
  lastCap : isArrow s.lastCap = isArrow t.lastCap

/-- Caps stay in their class, and a connector with one arrowhead may be turned. -/
inductive Redrawn (s t : Stroke ε) : Prop
  | recapped (h : s.Recapped t)
  | turned (hone : s.OneWay) (h : s.turned.Recapped t)

/-- The edge in the order of flow, where both ends are attached. -/
def resolve? (attached? : ε → Option String) (s : Stroke ε) :
    Option (String × String × EdgeKind) := do
  let first ← attached? s.first
  let last ← attached? s.last
  return resolve first last s.firstCap s.lastCap

variable (attached? : ε → Option String)

theorem resolve?_of_recapped (h : s.Recapped t) : s.resolve? attached? = t.resolve? attached? := by
  simp only [resolve?, resolve, h.first, h.last, h.firstCap, h.lastCap]

/-- With one arrowhead the flow is the same from either end. -/
theorem resolve?_turned_of_oneWay (h : s.OneWay) :
    s.turned.resolve? attached? = s.resolve? attached? := by
  obtain ⟨first, last, firstCap, lastCap⟩ := s
  have hcaps : isArrow firstCap ≠ isArrow lastCap := h
  simp only [resolve?, turned, resolve]
  cases attached? first <;> cases attached? last <;>
    cases hfirst : isArrow firstCap <;> cases hlast : isArrow lastCap <;>
    simp_all

theorem resolve?_of_redrawn (h : s.Redrawn t) : t.resolve? attached? = s.resolve? attached? := by
  cases h with
  | recapped h => exact (resolve?_of_recapped attached? h).symm
  | turned hone h =>
    rw [← resolve?_turned_of_oneWay attached? hone, resolve?_of_recapped attached? h]

/-- With two arrowheads or none the source is the end that was drawn first. -/
theorem resolve?_turned (h : ¬s.OneWay) :
    s.turned.resolve? attached? =
      (s.resolve? attached?).map fun (source, target, kind) => (target, source, kind) := by
  obtain ⟨first, last, firstCap, lastCap⟩ := s
  have hcaps : isArrow firstCap = isArrow lastCap := Decidable.not_not.mp h
  simp only [resolve?, turned, resolve]
  cases attached? first <;> cases attached? last <;>
    cases hfirst : isArrow firstCap <;> cases hlast : isArrow lastCap <;>
    simp_all

end Stroke

end Connector

end FlowBoard
