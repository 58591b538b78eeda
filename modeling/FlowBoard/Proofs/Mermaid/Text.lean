import FlowBoard.Mermaid.Line
import FlowBoard.Proofs.Text.Blank
import Mathlib.Data.String.Basic

/-!
# Line breaks in a flowchart

Sanitized text holds no blank character but the plain space, so it cannot break a line. `OneLine`
says that a text holds no line break; the text of a line is one when the user's text in it is.
-/

namespace FlowBoard.Mermaid

/-- There is no line break in the text. -/
def OneLine (s : String) : Prop := '\n' ∉ s.toList

instance (s : String) : Decidable (OneLine s) := inferInstanceAs (Decidable (¬ _ ∈ _))

theorem oneLine_append {s t : String} : OneLine (s ++ t) ↔ OneLine s ∧ OneLine t := by
  simp [OneLine, String.toList_append]

theorem oneLine_nat (n : Nat) : OneLine (toString n) := by
  intro h
  rw [Nat.toString_eq_repr, Nat.toList_repr] at h
  have hdigit := Nat.isDigit_of_mem_toDigits (by decide) (by decide) h
  exact absurd hdigit (by decide)

/-- The only blank character in sanitized text is the plain space. -/
theorem eq_space_of_mem_sanitize {s : String} {c : Char} (hc : c ∈ (sanitize s).toList)
    (h : Text.isBlank c = true) : c = ' ' := by
  rw [sanitize, Text.toList_onChars, sanitizeChars] at hc
  have hkept := List.mem_of_mem_filter ((Text.trimChars_sublist _).subset hc)
  obtain ⟨d, hd, rfl⟩ := List.mem_map.mp hkept
  unfold soften at h ⊢
  split_ifs at h ⊢ with hquote hbar
  · exact absurd h (by decide)
  · exact absurd h (by decide)
  · exact Text.eq_space_of_mem_collapseFrom hd h

theorem oneLine_sanitize (s : String) : OneLine (sanitize s) := by
  intro h
  have hspace := eq_space_of_mem_sanitize h (by decide)
  exact absurd hspace (by decide)

theorem brackets_mem (shape : Option String) : brackets shape ∈ shapes.map Prod.snd := by
  have hrectangle : rectangle ∈ shapes.map Prod.snd := by decide
  unfold brackets
  cases h : shape.bind fun name => shapes.lookup name with
  | none => exact hrectangle
  | some found =>
    obtain ⟨name, _, hname⟩ := Option.bind_eq_some_iff.mp h
    obtain ⟨before, after, hsplit, _⟩ := List.lookup_eq_some_iff.mp hname
    exact List.mem_map.mpr ⟨(name, found), by simp [hsplit], rfl⟩

theorem oneLine_brackets (shape : Option String) :
    OneLine (brackets shape).opening ∧ OneLine (brackets shape).closing := by
  have hall : ∀ b ∈ shapes.map Prod.snd, OneLine b.opening ∧ OneLine b.closing := by decide
  exact hall _ (brackets_mem shape)

end FlowBoard.Mermaid
