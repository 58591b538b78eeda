import FlowBoard.Mermaid.Flowchart
import Mathlib.Data.List.Basic

/-!
# When a direction can be detected

The spread of a list of numbers is a difference of two of its members, so it can be taken when all
of them have a binary form; so a direction is detected unless a coordinate has none.
-/

namespace FlowBoard

theorem Number.exists_sub? {a b : Number} {x y : Binary64} (ha : a.binary? = some x)
    (hb : b.binary? = some y) : ∃ d, a.sub? b = some d := by
  unfold sub?
  split
  · exact ⟨_, rfl⟩
  · rw [ha, hb]
    exact ⟨_, rfl⟩

theorem Number.sub?_eq_none {a b : Number} (h : a.sub? b = none) :
    a.binary? = none ∨ b.binary? = none := by
  cases ha : a.binary? with
  | none => exact Or.inl rfl
  | some x =>
    cases hb : b.binary? with
    | none => exact Or.inr rfl
    | some y =>
      obtain ⟨d, hd⟩ := exists_sub? ha hb
      rw [hd] at h
      cases h

/-- A choice between the best so far and the next stays in the list. -/
theorem Number.foldl_choice_mem {step : Number → Number → Number}
    (hstep : ∀ a b, step a b = a ∨ step a b = b) (first : Number) (rest : List Number) :
    rest.foldl step first ∈ first :: rest := by
  induction rest generalizing first with
  | nil => exact List.mem_cons_self
  | cons n rest ih =>
    rw [List.foldl_cons]
    rcases List.mem_cons.mp (ih (step first n)) with h | h
    · rw [h]
      rcases hstep first n with he | he
      · simp [he]
      · simp [he]
    · exact List.mem_cons_of_mem _ (List.mem_cons_of_mem _ h)

namespace Number

theorem greatest_mem (first : Number) (rest : List Number) :
    greatest first rest ∈ first :: rest := by
  apply foldl_choice_mem
  intro a b
  split_ifs
  · exact Or.inr rfl
  · exact Or.inl rfl

theorem least_mem (first : Number) (rest : List Number) : least first rest ∈ first :: rest := by
  apply foldl_choice_mem
  intro a b
  split_ifs
  · exact Or.inr rfl
  · exact Or.inl rfl

end Number

namespace Direction

theorem spread?_eq_none {numbers : List Number} (h : spread? numbers = none) :
    ∃ n ∈ numbers, n.binary? = none := by
  cases numbers with
  | nil => simp [spread?] at h
  | cons first rest =>
    rcases Number.sub?_eq_none h with hn | hn
    · exact ⟨_, Number.greatest_mem first rest, hn⟩
    · exact ⟨_, Number.least_mem first rest, hn⟩

/-- The coordinates of a place are those of a node. -/
theorem mem_places {nodes : List Node} {place : Number × Number} (h : place ∈ places nodes) :
    ∃ node ∈ nodes, node.x = some place.1 ∧ node.y = some place.2 := by
  obtain ⟨node, hn, hplace⟩ := List.mem_filterMap.mp h
  simp only [Option.bind_eq_bind, Option.bind_eq_some_iff, Option.pure_def, Option.some.injEq]
    at hplace
  obtain ⟨x, hx, y, hy, rfl⟩ := hplace
  exact ⟨node, hn, hx, hy⟩

/-- No direction is detected only if a coordinate has no binary form. -/
theorem detect?_eq_none {nodes : List Node} (h : detect? nodes = none) :
    ∃ node ∈ nodes, ∃ n, (node.x = some n ∨ node.y = some n) ∧ n.binary? = none := by
  unfold detect? at h
  simp only at h
  split_ifs at h
  cases hw : spread? ((places nodes).map (·.1)) with
  | none =>
    obtain ⟨n, hn, hbinary⟩ := spread?_eq_none hw
    obtain ⟨place, hp, rfl⟩ := List.mem_map.mp hn
    obtain ⟨node, hmem, hx, _⟩ := mem_places hp
    exact ⟨node, hmem, _, Or.inl hx, hbinary⟩
  | some width =>
    cases hh : spread? ((places nodes).map (·.2)) with
    | none =>
      obtain ⟨n, hn, hbinary⟩ := spread?_eq_none hh
      obtain ⟨place, hp, rfl⟩ := List.mem_map.mp hn
      obtain ⟨node, hmem, _, hy⟩ := mem_places hp
      exact ⟨node, hmem, _, Or.inr hy, hbinary⟩
    | some height => simp [hw, hh] at h

end Direction

namespace Page

/-- Every coordinate has a binary form, as every one read from a source has. -/
def HasBinaryPlaces (page : Page) : Prop :=
  ∀ node ∈ page.nodes, ∀ n, node.x = some n ∨ node.y = some n → ∃ b, n.binary? = some b

theorem exists_direction? {page : Page} (given : Option String)
    (h : given.filter (!·.isEmpty) ≠ none ∨ page.HasBinaryPlaces) :
    ∃ direction, page.direction? given = some direction := by
  unfold direction?
  split
  · exact ⟨_, rfl⟩
  · rename_i hnone
    have hbinary := h.resolve_left (not_not_intro hnone)
    cases hd : Direction.detect? page.nodes with
    | some detected => exact ⟨detected.name, rfl⟩
    | none =>
      obtain ⟨node, hn, n, hcoordinate, hwhole⟩ := Direction.detect?_eq_none hd
      obtain ⟨b, hb⟩ := hbinary node hn n hcoordinate
      rw [hb] at hwhole
      cases hwhole

end Page

end FlowBoard
