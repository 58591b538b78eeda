import FlowBoard.Proofs.Mermaid.Contained
import FlowBoard.Proofs.Text.Collapsed

/-!
# Settled texts

A settled text is one that sanitizing leaves alone: no blank at either end, no two blanks next to
each other, and no character in it that means something. What sanitizing gives is settled unless
brackets stood between blanks, for blanks are collapsed before brackets are dropped; sanitizing once
more settles it. How the blanks of a text are spelled does not matter.
-/

namespace FlowBoard.Mermaid

open Text

/-! ## The steps in another order -/

theorem isBlank_soften (c : Char) : isBlank (soften c) = isBlank c := by
  unfold soften
  split_ifs with hquote hbar
  · simp only [Bool.or_eq_true, decide_eq_true_eq] at hquote
    rcases hquote with rfl | rfl <;> decide
  · subst hbar
    decide
  · rfl

theorem isDelimiter_soften (c : Char) : isDelimiter (soften c) = isDelimiter c := by
  unfold soften
  split_ifs with hquote hbar
  · simp only [Bool.or_eq_true, decide_eq_true_eq] at hquote
    rcases hquote with rfl | rfl <;> decide
  · subst hbar
    decide
  · rfl

theorem isDelimiter_of_isBlank {c : Char} (h : isBlank c = true) : isDelimiter c = false := by
  by_contra hdelimiter
  rw [Bool.not_eq_false] at hdelimiter
  simp only [isDelimiter, Bool.or_eq_true, beq_iff_eq] at hdelimiter
  rcases hdelimiter with ((rfl | rfl) | rfl) | rfl <;> exact absurd h (by decide)

/-- The characters may be softened last. -/
theorem sanitizeChars_eq (cs : List Char) :
    sanitizeChars cs = (trimChars ((collapse cs).filter (!isDelimiter ·))).map soften := by
  have hkept : (fun c => !isDelimiter c) ∘ soften = fun c => !isDelimiter c :=
    funext fun c => congrArg not (isDelimiter_soften c)
  rw [sanitizeChars, List.filter_map, hkept, trimChars_map isBlank_soften]

/-- Cleaning a text first changes nothing. -/
theorem sanitize_clean (s : String) : sanitize (clean s) = sanitize s := by
  have hcollapse : collapse (cleanChars s.toList) = cleanChars s.toList :=
    (collapsed_collapse s.toList).trimChars.collapse_eq
  rw [sanitize, onChars, clean, toList_onChars, sanitizeChars_eq, hcollapse, cleanChars,
    trimChars_filter_trimChars, ← sanitizeChars_eq]
  rfl

/-! ## Settled -/

/-- Sanitizing has nothing left to do. -/
structure Settled (s : String) : Prop where
  startsSolid : ∀ c ∈ s.toList.head?, isBlank c = false
  endsSolid : ∀ c ∈ s.toList.getLast?, isBlank c = false
  apart : Apart s.toList
  inert : Inert s

theorem soften_of_isInert {c : Char} (h : isInert c = true) : soften c = c := by
  unfold soften
  split_ifs with hquote hbar
  · simp only [Bool.or_eq_true, decide_eq_true_eq] at hquote
    rcases hquote with rfl | rfl <;> exact absurd h (by decide)
  · subst hbar
    exact absurd h (by decide)
  · rfl

theorem isDelimiter_of_isInert {c : Char} (h : isInert c = true) : isDelimiter c = false := by
  simp only [isInert, Bool.or_eq_true, Bool.not_eq_true', beq_iff_eq, Bool.or_eq_false_iff] at h
  rcases h with rfl | h
  · decide
  · exact h.1.1.1.2

theorem eq_space_of_isInert {c : Char} (h : isInert c = true) (hblank : isBlank c = true) :
    c = ' ' := by
  simpa [isInert, hblank] using h

/-- A text in which nothing means anything is only collapsed and trimmed. -/
theorem sanitize_of_inert {s : String} (h : Inert s) : sanitize s = clean s := by
  have hinert : ∀ c ∈ collapse s.toList, isInert c = true := by
    intro c hc
    cases hblank : isBlank c with
    | true =>
      rw [eq_space_of_mem_collapseFrom hc hblank]
      decide
    | false => exact h c ((mem_collapseFrom_iff hblank).mp hc)
  have hfilter : (collapse s.toList).filter (!isDelimiter ·) = collapse s.toList :=
    List.filter_eq_self.mpr fun c hc => by simp [isDelimiter_of_isInert (hinert c hc)]
  have hsoften : (cleanChars s.toList).map soften = cleanChars s.toList := by
    refine (List.map_congr_left fun c hc => ?_).trans (List.map_id _)
    exact soften_of_isInert (hinert c ((trimChars_sublist _).subset hc))
  rw [sanitize, onChars, sanitizeChars_eq, hfilter]
  exact congrArg String.ofList hsoften

/-- The settled texts are those that sanitizing leaves as they are. -/
theorem sanitize_eq_self_iff {s : String} : sanitize s = s ↔ Settled s := by
  constructor
  · intro h
    have hinert : Inert s := h ▸ inert_sanitize s
    have hclean : IsClean s := clean_eq_self_iff.mp ((sanitize_of_inert hinert).symm.trans h)
    exact ⟨hclean.startsSolid, hclean.endsSolid, hclean.collapsed.apart, hinert⟩
  · intro h
    have hcollapsed : Collapsed s.toList :=
      ⟨h.apart, fun c hc => eq_space_of_isInert (h.inert c hc)⟩
    rw [sanitize_of_inert h.inert]
    exact clean_eq_self_iff.mpr ⟨h.startsSolid, h.endsSolid, hcollapsed⟩

/-! ## What sanitizing gives -/

/-- Somewhere inside the text, brackets and nothing else stand between two blanks. -/
def BracketsApart (s : String) : Prop := BlanksMeet (!isDelimiter ·) s.toList

theorem toList_sanitize (s : String) : (sanitize s).toList =
    (trimChars ((collapse s.toList).filter (!isDelimiter ·))).map soften := by
  rw [sanitize, toList_onChars, sanitizeChars_eq]

theorem isBlank_head?_sanitize {s : String} {c : Char} (h : c ∈ (sanitize s).toList.head?) :
    isBlank c = false := by
  rw [sanitize, toList_onChars] at h
  exact isBlank_head?_trimChars h

theorem isBlank_getLast?_sanitize {s : String} {c : Char} (h : c ∈ (sanitize s).toList.getLast?) :
    isBlank c = false := by
  rw [sanitize, toList_onChars] at h
  exact isBlank_getLast?_trimChars h

theorem apart_sanitize_iff {s : String} :
    Apart (sanitize s).toList ↔ ¬BracketsApart s := by
  have hkeeps : ∀ c, isBlank c = true → (!isDelimiter c) = true := fun c hc => by
    simp [isDelimiter_of_isBlank hc]
  rw [BracketsApart, ← apart_trimChars_filter_collapse_iff hkeeps, toList_sanitize, Apart,
    List.isChain_map]
  simp only [isBlank_soften]
  rfl

theorem settled_sanitize_iff {s : String} : Settled (sanitize s) ↔ ¬BracketsApart s :=
  ⟨fun h => apart_sanitize_iff.mp h.apart, fun h => ⟨fun _ => isBlank_head?_sanitize,
    fun _ => isBlank_getLast?_sanitize, apart_sanitize_iff.mpr h, inert_sanitize s⟩⟩

/-- No brackets are left to stand between blanks. -/
theorem not_bracketsApart_sanitize (s : String) : ¬BracketsApart (sanitize s) := by
  rintro ⟨before, a, dropped, b, after, hs, -, ⟨hne, hdropped⟩, -⟩
  obtain ⟨c, hc⟩ := List.exists_mem_of_ne_nil dropped hne
  have hmem : c ∈ (sanitize s).toList := by simp [hs, hc]
  have hdelimiter := isDelimiter_of_isInert (inert_sanitize s c hmem)
  simpa [hdelimiter] using hdropped c hc

/-- Sanitized text has no blank at its ends, no blank but the plain space and no character that
means something. It is settled, and stays when it is sanitized once more, if and only if no brackets
stood between blanks in the text; after the second time it is settled in any case. -/
theorem sanitize_settles (s : String) :
    (∀ c ∈ (sanitize s).toList.head?, isBlank c = false) ∧
    (∀ c ∈ (sanitize s).toList.getLast?, isBlank c = false) ∧ Inert (sanitize s) ∧
    (Settled (sanitize s) ↔ ¬BracketsApart s) ∧
    (sanitize (sanitize s) = sanitize s ↔ ¬BracketsApart s) ∧
    Settled (sanitize (sanitize s)) := by
  refine ⟨fun _ => isBlank_head?_sanitize, fun _ => isBlank_getLast?_sanitize, inert_sanitize s,
    settled_sanitize_iff, ?_, ?_⟩
  · rw [sanitize_eq_self_iff, settled_sanitize_iff]
  · rw [settled_sanitize_iff]
    exact not_bracketsApart_sanitize s

/-- The blanks on both sides of a pair of brackets stay, next to each other. -/
theorem sanitize_unsettled : sanitize "x [] y" = "x  y" ∧ ¬Settled (sanitize "x [] y") ∧
    sanitize (sanitize "x [] y") ≠ sanitize "x [] y" := by
  have hmoved : sanitize (sanitize "x [] y") ≠ sanitize "x [] y" := by decide
  exact ⟨by decide, fun h => hmoved (sanitize_eq_self_iff.mpr h), hmoved⟩

end FlowBoard.Mermaid
