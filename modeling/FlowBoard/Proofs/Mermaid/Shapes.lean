import FlowBoard.Mermaid.Flowchart
import FlowBoard.Proofs.Mermaid.Text
import Mathlib.Data.String.Basic

/-!
# Which shape a node line draws

A label holds no square bracket and no brace, but it may hold parentheses and slashes, which inside
square brackets delimit four other shapes. So a node line tells the delimiters and the label, but
that a rectangle may have a label that makes it look like one of those four.
-/

namespace FlowBoard

namespace Mermaid

/-! ## Characters of labels -/

theorem isDelimiter_of_mem_sanitize {s : String} {c : Char} (hc : c ∈ (sanitize s).toList) :
    isDelimiter c = false := by
  rw [sanitize, Text.toList_onChars, sanitizeChars] at hc
  simpa using (List.mem_filter.mp ((Text.trimChars_sublist _).subset hc)).2

theorem isDelimiter_of_mem_nodeName {rank : Nat} {c : Char} (hc : c ∈ (nodeName rank).toList) :
    isDelimiter c = false := by
  rw [nodeName, String.toList_append, Nat.toString_eq_repr, Nat.toList_repr] at hc
  rcases List.mem_append.mp hc with hn | hdigit
  · obtain rfl : c = 'n' := by simpa using hn
    decide
  · have hd := Nat.isDigit_of_mem_toDigits (by decide) (by decide) hdigit
    by_contra hdelimiter
    rw [Bool.not_eq_false] at hdelimiter
    simp only [isDelimiter, Bool.or_eq_true, beq_iff_eq] at hdelimiter
    rcases hdelimiter with ((rfl | rfl) | rfl) | rfl <;> exact absurd hd (by decide)

/-- A text that may stand as a label: it is not empty and has no bracket and no brace. -/
structure Bare (label : String) : Prop where
  nonempty : label ≠ ""
  plain : ∀ c ∈ label.toList, isDelimiter c = false

theorem bare_of_shownText? {s shown : String} (h : shownText? s = some shown) : Bare shown := by
  simp only [shownText?] at h
  split_ifs at h with hempty
  obtain rfl := Option.some.inj h
  exact ⟨by simpa using hempty, fun c hc => isDelimiter_of_mem_sanitize hc⟩

theorem bare_nodeName (rank : Nat) : Bare (nodeName rank) :=
  ⟨fun h => absurd (congrArg String.toList h) (by simp [nodeName]),
    fun _ hc => isDelimiter_of_mem_nodeName hc⟩

theorem bare_shownLabel (node : Node) (rank : Nat) : Bare (node.shownLabel rank) := by
  rw [Node.shownLabel]
  cases hlabel : shownText? node.label with
  | some shown => exact bare_of_shownText? hlabel
  | none =>
    cases hid : shownText? node.id with
    | some shown => exact bare_of_shownText? hid
    | none => exact bare_nodeName rank

/-! ## Delimiters -/

namespace Brackets

/-- The delimiters with a label between them. -/
def around (b : Brackets) (label : String) : String := b.opening ++ label ++ b.closing

/-- The delimiters inside square brackets. -/
def squared (b : Brackets) : Brackets := ⟨"[" ++ b.opening, b.closing ++ "]"⟩

/-- What delimits a shape of its own inside square brackets. -/
def linings : List Brackets := [⟨"/", "/"⟩, ⟨"\\", "\\"⟩, ⟨"(", ")"⟩, ⟨"/", "\\"⟩]

theorem around_squared (b : Brackets) (label : String) :
    b.squared.around label = "[" ++ b.around label ++ "]" := by
  simp only [around, squared, String.append_assoc]

/-- The brackets and braces among the delimiters. -/
def marks (b : Brackets) : List Char := (b.opening.toList ++ b.closing.toList).filter isDelimiter

theorem filter_isDelimiter_around (b : Brackets) {label : String} (h : Bare label) :
    (b.around label).toList.filter isDelimiter = b.marks := by
  have hnone : label.toList.filter isDelimiter = [] :=
    List.filter_eq_nil_iff.mpr fun c hc => by simp [h.plain c hc]
  simp [around, marks, String.toList_append, List.filter_append, hnone]

/-- The delimiters of shapes are told apart by their brackets and braces and by the first character,
unless they stand in square brackets. -/
theorem eq_or_squared : ∀ b ∈ shapes.map Prod.snd, ∀ c ∈ shapes.map Prod.snd,
    b.marks = c.marks → b.opening.toList.head? = c.opening.toList.head? →
    b = c ∨ (b ∈ (⟨"", ""⟩ :: linings).map squared ∧ c ∈ (⟨"", ""⟩ :: linings).map squared) := by
  decide

theorem head?_around {b : Brackets} (hb : b ∈ shapes.map Prod.snd) (label : String) :
    (b.around label).toList.head? = b.opening.toList.head? := by
  have hopening : ∀ b ∈ shapes.map Prod.snd, b.opening.toList ≠ [] := by decide
  rw [around, String.append_assoc, String.toList_append,
    List.head?_append_of_ne_nil _ (hopening b hb)]

theorem around_inj {b : Brackets} {label label' : String} (h : b.around label = b.around label') :
    label = label' :=
  (String.append_right_inj _).mp ((String.append_left_inj _).mp h)

/-- Delimiters of one character each side can be read off a text. -/
theorem around_inj_of_linings {b c : Brackets} (hb : b ∈ linings) (hc : c ∈ linings)
    {label label' : String} (h : b.around label = c.around label') : b = c ∧ label = label' := by
  have hone : ∀ b ∈ linings, b.opening.toList.length = 1 ∧ b.closing.toList.length = 1 := by decide
  obtain ⟨hbo, hbc⟩ := hone b hb
  obtain ⟨hco, hcc⟩ := hone c hc
  have hchars := congrArg String.toList h
  simp only [around, String.toList_append] at hchars
  obtain ⟨hfront, hclosing⟩ := List.append_inj' hchars (hbc.trans hcc.symm)
  obtain ⟨hopening, hlabel⟩ := List.append_inj hfront (hbo.trans hco.symm)
  obtain ⟨bOpening, bClosing⟩ := b
  obtain ⟨cOpening, cClosing⟩ := c
  obtain rfl := String.toList_inj.mp hopening
  obtain rfl := String.toList_inj.mp hclosing
  exact ⟨rfl, String.toList_inj.mp hlabel⟩

theorem around_none (label : String) : around ⟨"", ""⟩ label = label := by simp [around]

/-- What two shapes with labels have in common if they are drawn alike. -/
theorem eq_of_around_eq {b c : Brackets} (hb : b ∈ shapes.map Prod.snd)
    (hc : c ∈ shapes.map Prod.snd) {label label' : String} (hlabel : Bare label)
    (hlabel' : Bare label') (h : b.around label = c.around label') :
    (b = c ∧ label = label') ∨
      (b = rectangle ∧ ∃ lining ∈ linings, c = lining.squared ∧ label = lining.around label') ∨
      (c = rectangle ∧ ∃ lining ∈ linings, b = lining.squared ∧ label' = lining.around label) := by
  have hmarks : b.marks = c.marks := by
    rw [← filter_isDelimiter_around b hlabel, h, filter_isDelimiter_around c hlabel']
  have hhead : b.opening.toList.head? = c.opening.toList.head? := by
    rw [← head?_around hb label, h, head?_around hc label']
  rcases eq_or_squared b hb c hc hmarks hhead with rfl | ⟨hbs, hcs⟩
  · exact Or.inl ⟨rfl, around_inj h⟩
  · obtain ⟨inner, hinner, rfl⟩ := List.mem_map.mp hbs
    obtain ⟨inner', hinner', rfl⟩ := List.mem_map.mp hcs
    rw [around_squared, around_squared] at h
    have hcore : inner.around label = inner'.around label' :=
      (String.append_right_inj _).mp ((String.append_left_inj _).mp h)
    rcases List.mem_cons.mp hinner with rfl | hl <;> rcases List.mem_cons.mp hinner' with rfl | hl'
    · exact Or.inl ⟨rfl, around_inj hcore⟩
    · rw [around_none] at hcore
      exact Or.inr (Or.inl ⟨by decide, inner', hl', rfl, hcore⟩)
    · rw [around_none] at hcore
      exact Or.inr (Or.inr ⟨by decide, inner, hl, rfl, hcore.symm⟩)
    · obtain ⟨rfl, he⟩ := around_inj_of_linings hl hl' hcore
      exact Or.inl ⟨rfl, he⟩

end Brackets

end Mermaid

namespace Node

open Mermaid

/-- A rectangle whose label is that of another node, with the delimiters around it that the other
has inside square brackets. -/
def Mimics (node other : Node) (rank : Nat) : Prop :=
  brackets node.shape = rectangle ∧ ∃ lining ∈ Brackets.linings,
    brackets other.shape = lining.squared ∧
      node.shownLabel rank = lining.around (other.shownLabel rank)

theorem Mimics.around_eq {node other : Node} {rank : Nat} (h : node.Mimics other rank) :
    (brackets node.shape).around (node.shownLabel rank) =
      (brackets other.shape).around (other.shownLabel rank) := by
  obtain ⟨hshape, lining, _, hother, hlabel⟩ := h
  rw [hshape, hother, hlabel, Brackets.around_squared]
  rfl

theorem text_line (node : Node) (inside : Bool) (rank : Nat) :
    (node.line inside rank).text = ((if inside then "    " else "  ") ++ nodeName rank) ++
      (brackets node.shape).around (node.shownLabel rank) := by
  simp only [line, Line.text, Brackets.around, String.append_assoc]

/-- Two nodes of one rank are drawn alike if and only if they have the same delimiters and the same
label, or one is a rectangle that mimics the other. -/
theorem text_line_eq_iff (node other : Node) (inside : Bool) (rank : Nat) :
    (node.line inside rank).text = (other.line inside rank).text ↔
      (brackets node.shape = brackets other.shape ∧
        node.shownLabel rank = other.shownLabel rank) ∨
      node.Mimics other rank ∨ other.Mimics node rank := by
  rw [text_line, text_line, String.append_right_inj]
  constructor
  · exact Brackets.eq_of_around_eq (brackets_mem _) (brackets_mem _) (bare_shownLabel _ _)
      (bare_shownLabel _ _)
  · rintro (⟨hshape, hlabel⟩ | h | h)
    · rw [hshape, hlabel]
    · exact h.around_eq
    · exact h.around_eq.symm

/-- A rectangle with a label in parentheses is drawn as a database. -/
theorem parenthesized_drawn_as_database :
    (Node.line { id := "a", label := "(Store)", shape := some "RECTANGLE" } false 1).text =
        (Node.line { id := "a", label := "Store", shape := some "ENG_DATABASE" } false 1).text ∧
      brackets (some "RECTANGLE") ≠ brackets (some "ENG_DATABASE") := by
  decide

end Node

end FlowBoard
