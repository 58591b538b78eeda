import FlowBoard.Text.Blank
import Mathlib.Data.List.TakeWhile

/-!
# Trimmed and collapsed text

Trimming drops characters only, and a text that is not empty after it starts with a character that
is not blank; so a clean text is blank only when it is empty. After collapsing, the only blank
character that is left is the plain space.
-/

namespace FlowBoard.Text

theorem trimRight_cons_of_not_isBlank {c : Char} (h : isBlank c = false) (rest : List Char) :
    trimRight (c :: rest) = c :: trimRight rest := by
  cases hr : trimRight rest with
  | nil => simp [trimRight, hr, h]
  | cons d kept => simp [trimRight, hr]

theorem trimRight_sublist (cs : List Char) : (trimRight cs).Sublist cs := by
  induction cs with
  | nil => exact List.Sublist.refl _
  | cons c rest ih =>
    cases hr : trimRight rest with
    | nil =>
      by_cases hc : isBlank c = true
      · simp [trimRight, hr, hc]
      · simp [trimRight, hr, hc]
    | cons d kept =>
      rw [hr] at ih
      simpa only [trimRight, hr] using ih.cons_cons c

theorem trimChars_sublist (cs : List Char) : (trimChars cs).Sublist cs :=
  (trimRight_sublist _).trans (List.dropWhile_sublist _)

theorem trimChars_head_not_isBlank {cs kept : List Char} {c : Char}
    (h : trimChars cs = c :: kept) : isBlank c = false := by
  unfold trimChars at h
  cases hd : cs.dropWhile isBlank with
  | nil => simp [hd, trimRight] at h
  | cons d rest =>
    have hdrop : isBlank d = false := by
      have hhead := List.head_dropWhile_not isBlank (l := cs) (by simp [hd])
      simpa only [hd, List.head_cons] using hhead
    rw [hd, trimRight_cons_of_not_isBlank hdrop] at h
    exact (List.cons.inj h).1 ▸ hdrop

theorem trimRight_eq_self {cs : List Char} (h : ∀ c ∈ cs, isBlank c = false) :
    trimRight cs = cs := by
  induction cs with
  | nil => rfl
  | cons c rest ih =>
    rw [trimRight_cons_of_not_isBlank (h c List.mem_cons_self),
      ih fun d hd => h d (List.mem_cons_of_mem c hd)]

/-- Whether there is a last character and it is not blank. -/
def endsSolid (cs : List Char) : Bool := cs.getLast?.any (!isBlank ·)

theorem endsSolid_cons_cons (c d : Char) (rest : List Char) :
    endsSolid (c :: d :: rest) = endsSolid (d :: rest) := by
  rw [endsSolid, List.getLast?_cons_cons, endsSolid]

theorem endsSolid_append (cs : List Char) {ds : List Char} (h : endsSolid ds = true) :
    endsSolid (cs ++ ds) = true := by
  rw [endsSolid, List.getLast?_append]
  exact Option.any_or_of_any_left h

/-- Nothing is trimmed from the end of a text that ends with a character that is not blank. -/
theorem trimRight_of_endsSolid {cs : List Char} (h : endsSolid cs = true) : trimRight cs = cs := by
  induction cs with
  | nil => rfl
  | cons c rest ih =>
    cases rest with
    | nil => simpa [endsSolid, trimRight] using h
    | cons d rest =>
      rw [endsSolid_cons_cons] at h
      rw [trimRight, ih h]

theorem endsSolid_trimRight {cs : List Char} (h : trimRight cs ≠ []) :
    endsSolid (trimRight cs) = true := by
  induction cs with
  | nil => exact absurd rfl h
  | cons c rest ih =>
    cases hr : trimRight rest with
    | nil =>
      by_cases hc : isBlank c = true
      · exact absurd (by simp [trimRight, hr, hc]) h
      · simp [trimRight, hr, hc, endsSolid]
    | cons d kept =>
      have hcons : trimRight (c :: rest) = c :: d :: kept := by simp only [trimRight, hr]
      rw [hcons, endsSolid_cons_cons, ← hr]
      exact ih (by simp [hr])

theorem trimChars_eq_self {cs : List Char} (h : ∀ c ∈ cs, isBlank c = false) :
    trimChars cs = cs := by
  have hdrop : cs.dropWhile isBlank = cs := by
    cases cs with
    | nil => rfl
    | cons c rest => simp [h c List.mem_cons_self]
  rw [trimChars, hdrop, trimRight_eq_self h]

theorem collapseFrom_eq_self {cs : List Char} (h : ∀ c ∈ cs, isBlank c = false) (inRun : Bool) :
    collapseFrom inRun cs = cs := by
  induction cs generalizing inRun with
  | nil => rfl
  | cons c rest ih =>
    have hc := h c List.mem_cons_self
    rw [collapseFrom, if_neg (by simp [hc]), ih fun d hd => h d (List.mem_cons_of_mem c hd)]

/-- A text without blank characters is clean. -/
theorem cleanChars_eq_self {cs : List Char} (h : ∀ c ∈ cs, isBlank c = false) :
    cleanChars cs = cs := by
  rw [cleanChars, collapse, collapseFrom_eq_self h, trimChars_eq_self h]

theorem eq_space_of_mem_collapseFrom {inRun : Bool} {cs : List Char} {c : Char}
    (hc : c ∈ collapseFrom inRun cs) (h : isBlank c = true) : c = ' ' := by
  induction cs generalizing inRun with
  | nil => simp [collapseFrom] at hc
  | cons d rest ih =>
    rw [collapseFrom] at hc
    split_ifs at hc with hd hrun
    · exact ih hc
    · rcases List.mem_cons.mp hc with rfl | hc
      · rfl
      · exact ih hc
    · rcases List.mem_cons.mp hc with rfl | hc
      · exact absurd h hd
      · exact ih hc

theorem isBlank_of_mem_collapseFrom {inRun : Bool} {cs : List Char} {c : Char}
    (h : ∀ d ∈ cs, isBlank d = true) (hc : c ∈ collapseFrom inRun cs) : isBlank c = true := by
  induction cs generalizing inRun with
  | nil => cases hc
  | cons d rest ih =>
    obtain ⟨hd, hrest⟩ := List.forall_mem_cons.mp h
    rw [collapseFrom, if_pos hd] at hc
    split_ifs at hc
    · exact ih hrest hc
    · rcases List.mem_cons.mp hc with rfl | hc
      · exact isBlank_space
      · exact ih hrest hc

/-- Nothing is left of a blank text after cleaning. -/
theorem clean_of_isBlankText {s : String} (h : isBlankText s = true) : clean s = "" := by
  have hblank : ∀ c ∈ collapse s.toList, isBlank c = true := fun c hc =>
    isBlank_of_mem_collapseFrom (List.all_eq_true.mp h) hc
  have hdrop : (collapse s.toList).dropWhile isBlank = [] := List.dropWhile_eq_nil_iff.mpr hblank
  rw [clean, onChars, cleanChars, trimChars, hdrop, trimRight, String.ofList_nil]

theorem isBlankText_append (s t : String) :
    isBlankText (s ++ t) = (isBlankText s && isBlankText t) := by
  simp [isBlankText, String.toList_append]

theorem isBlankText_eq_false_of_head {s : String} {c : Char} {rest : List Char}
    (hs : s.toList = c :: rest) (hc : isBlank c = false) : isBlankText s = false := by
  simp [isBlankText, hs, hc]

/-- What is left of a text after cleaning is not blank. -/
theorem isBlankText_clean {s : String} (h : clean s ≠ "") : isBlankText (clean s) = false := by
  cases hc : (clean s).toList with
  | nil => exact absurd (String.toList_eq_nil_iff.mp hc) h
  | cons c rest =>
    rw [clean, toList_onChars] at hc
    exact isBlankText_eq_false_of_head (by rw [clean, toList_onChars, hc])
      (trimChars_head_not_isBlank hc)

theorem isBlankText_of_clean {s : String} (h : clean s = s) : isBlankText s = s.isEmpty := by
  by_cases hs : s = ""
  · subst hs
    decide
  · have hblank := isBlankText_clean (h.symm ▸ hs : clean s ≠ "")
    rw [h] at hblank
    simp [hblank, hs]

theorem isBlankText_orElse {s fallback : String} (hs : s ≠ "" → isBlankText s = false)
    (hf : isBlankText fallback = false) : isBlankText (orElse s fallback) = false := by
  unfold orElse
  split_ifs with he
  · exact hf
  · exact hs (by simpa using he)

end FlowBoard.Text
