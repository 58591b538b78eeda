import FlowBoard.Proofs.Text.Trimmed
import Mathlib.Data.List.Chain

/-!
# Collapsed texts

A collapsed text has no two blanks next to each other and no blank but the plain space; collapsing
gives such a text and leaves it alone. When characters are dropped from a collapsed text, blanks may
come together again: `apart_trimChars_filter_collapse_iff` says where in the text they stood before
that.
-/

namespace FlowBoard.Text

variable {c : Char} {cs ds ys : List Char}

/-! ## One character -/

theorem collapseFrom_cons_of_solid (hc : isBlank c = false) (inRun : Bool) (cs : List Char) :
    collapseFrom inRun (c :: cs) = c :: collapseFrom false cs :=
  if_neg (by simp [hc])

/-- A blank in a run is dropped. -/
theorem collapseFrom_true_cons (hc : isBlank c = true) (cs : List Char) :
    collapseFrom true (c :: cs) = collapseFrom true cs :=
  if_pos hc

/-- The first blank of a run becomes a plain space. -/
theorem collapseFrom_false_cons (hc : isBlank c = true) (cs : List Char) :
    collapseFrom false (c :: cs) = ' ' :: collapseFrom true cs :=
  if_pos hc

/-! ## Collapsed -/

/-- No two blanks are next to each other. -/
def Apart (cs : List Char) : Prop := cs.IsChain fun a b => isBlank a = true → isBlank b = false

/-- No two blanks are next to each other, and every blank is a plain space. -/
structure Collapsed (cs : List Char) : Prop where
  apart : Apart cs
  plain : ∀ c ∈ cs, isBlank c = true → c = ' '

theorem isBlank_head?_collapseFrom (h : c ∈ (collapseFrom true cs).head?) : isBlank c = false := by
  induction cs with
  | nil => cases h
  | cons d rest ih =>
    cases hd : isBlank d with
    | true =>
      rw [collapseFrom_true_cons hd] at h
      exact ih h
    | false =>
      rw [collapseFrom_cons_of_solid hd] at h
      exact Option.some.inj h ▸ hd

theorem isBlank_of_collapseFrom_eq_cons (h : collapseFrom true cs = c :: ys) :
    isBlank c = false :=
  isBlank_head?_collapseFrom (h ▸ List.head?_cons)

theorem apart_collapseFrom (inRun : Bool) (cs : List Char) : Apart (collapseFrom inRun cs) := by
  induction cs generalizing inRun with
  | nil => exact List.IsChain.nil
  | cons c rest ih =>
    cases hc : isBlank c with
    | false =>
      rw [collapseFrom_cons_of_solid hc]
      exact List.isChain_cons.mpr ⟨fun d _ hblank => by simp [hc] at hblank, ih false⟩
    | true =>
      cases inRun with
      | true =>
        rw [collapseFrom_true_cons hc]
        exact ih true
      | false =>
        rw [collapseFrom_false_cons hc]
        exact List.isChain_cons.mpr ⟨fun d hd _ => isBlank_head?_collapseFrom hd, ih true⟩

theorem collapsed_collapse (cs : List Char) : Collapsed (collapse cs) where
  apart := apart_collapseFrom false cs
  plain _ hc := eq_space_of_mem_collapseFrom hc

namespace Collapsed

theorem of_infix (h : Collapsed cs) (hpiece : ds <:+: cs) : Collapsed ds where
  apart := List.IsChain.infix h.apart hpiece
  plain c hc := h.plain c (hpiece.subset hc)

theorem trimChars (h : Collapsed cs) : Collapsed (trimChars cs) := by
  obtain ⟨before, after, -, -, hcs⟩ := exists_trimChars cs
  exact h.of_infix ⟨before, after, by rw [List.append_assoc, ← hcs]⟩

theorem collapseFrom_eq (h : Collapsed cs) {inRun : Bool}
    (hrun : inRun = true → ∀ c ∈ cs.head?, isBlank c = false) : collapseFrom inRun cs = cs := by
  induction cs generalizing inRun with
  | nil => rfl
  | cons c rest ih =>
    have hrest : Collapsed rest := h.of_infix (List.suffix_cons c rest).isInfix
    cases hc : isBlank c with
    | false =>
      have hkept : collapseFrom false rest = rest := ih hrest nofun
      rw [collapseFrom_cons_of_solid hc, hkept]
    | true =>
      have hnext := (List.isChain_cons.mp h.apart).1
      cases inRun with
      | true => simp [hrun rfl c rfl] at hc
      | false =>
        rw [collapseFrom_false_cons hc, ih hrest fun _ d hd => hnext d hd hc,
          h.plain c List.mem_cons_self hc]

/-- A collapsed text is left as it is. -/
theorem collapse_eq (h : Collapsed cs) : collapse cs = cs := h.collapseFrom_eq nofun

end Collapsed

/-! ## Clean texts -/

theorem mem_collapseFrom_iff {inRun : Bool} (hc : isBlank c = false) :
    c ∈ collapseFrom inRun cs ↔ c ∈ cs := by
  induction cs generalizing inRun with
  | nil => exact Iff.rfl
  | cons d rest ih =>
    cases hd : isBlank d with
    | false => rw [collapseFrom_cons_of_solid hd, List.mem_cons, List.mem_cons, ih]
    | true =>
      have hne : ∀ blank, isBlank blank = true → c ≠ blank := by
        rintro blank hblank rfl
        simp [hc] at hblank
      rw [List.mem_cons, or_iff_right (hne d hd)]
      cases inRun with
      | true => rw [collapseFrom_true_cons hd, ih]
      | false =>
        rw [collapseFrom_false_cons hd, List.mem_cons, or_iff_right (hne ' ' isBlank_space), ih]

theorem collapsed_clean (s : String) : Collapsed (clean s).toList := by
  rw [clean, toList_onChars]
  exact (collapsed_collapse s.toList).trimChars

/-- No blank at either end, and inside no blanks but single plain spaces. -/
structure IsClean (s : String) : Prop where
  startsSolid : ∀ c ∈ s.toList.head?, isBlank c = false
  endsSolid : ∀ c ∈ s.toList.getLast?, isBlank c = false
  collapsed : Collapsed s.toList

theorem isClean_clean (s : String) : IsClean (clean s) where
  startsSolid c hc := by
    rw [clean, toList_onChars] at hc
    exact isBlank_head?_trimChars hc
  endsSolid c hc := by
    rw [clean, toList_onChars] at hc
    exact isBlank_getLast?_trimChars hc
  collapsed := collapsed_clean s

/-- Cleaning leaves a text as it is just when it is clean. -/
theorem clean_eq_self_iff {s : String} : clean s = s ↔ IsClean s := by
  refine ⟨fun h => h ▸ isClean_clean s, fun h => ?_⟩
  rw [clean, onChars, cleanChars, h.collapsed.collapse_eq,
    trimChars_eq_self_of_ends h.startsSolid h.endsSolid, String.ofList_toList]

theorem clean_clean (s : String) : clean (clean s) = clean s :=
  clean_eq_self_iff.mpr (isClean_clean s)

theorem clean_eq_empty_iff {s : String} : clean s = "" ↔ isBlankText s = true := by
  refine ⟨fun h => List.all_eq_true.mpr fun c hc => ?_, clean_of_isBlankText⟩
  have hnil : trimChars (collapse s.toList) = [] := by
    rw [clean] at h
    exact (toList_onChars cleanChars s).symm.trans (congrArg String.toList h)
  obtain ⟨before, after, hbefore, hafter, hcollapse⟩ := exists_trimChars (collapse s.toList)
  by_contra hsolid
  rw [Bool.not_eq_true] at hsolid
  have hmem : c ∈ collapse s.toList := (mem_collapseFrom_iff hsolid).mpr hc
  rw [hcollapse, hnil, List.nil_append] at hmem
  have hblank : isBlank c = true := (List.mem_append.mp hmem).elim (hbefore c) (hafter c)
  simp [hsolid] at hblank

/-- Whether a text is blank does not change when it is cleaned. -/
theorem isBlankText_clean_eq (s : String) : isBlankText (clean s) = isBlankText s := by
  rw [Bool.eq_iff_iff, ← clean_eq_empty_iff, clean_clean, clean_eq_empty_iff]

/-! ## Collapsing piece by piece -/

/-- What comes after a character is collapsed by itself. -/
theorem collapseFrom_append_cons (inRun : Bool) (cs : List Char) (c : Char) (ys : List Char) :
    collapseFrom inRun (cs ++ c :: ys) =
      collapseFrom inRun (cs ++ [c]) ++ collapseFrom (isBlank c) ys := by
  induction cs generalizing inRun with
  | nil =>
    cases hc : isBlank c with
    | false =>
      rw [List.nil_append, collapseFrom_cons_of_solid hc, List.nil_append,
        collapseFrom_cons_of_solid hc]
      rfl
    | true =>
      cases inRun with
      | true =>
        rw [List.nil_append, collapseFrom_true_cons hc, List.nil_append, collapseFrom_true_cons hc]
        rfl
      | false =>
        rw [List.nil_append, collapseFrom_false_cons hc, List.nil_append,
          collapseFrom_false_cons hc]
        rfl
  | cons d rest ih =>
    rw [List.cons_append, List.cons_append, collapseFrom, collapseFrom, ih, ih]
    split_ifs <;> rfl

/-- A blank at the end becomes a plain space, unless it belongs to a run that was met before. -/
theorem collapseFrom_concat_blank (inRun : Bool) (cs : List Char) (hc : isBlank c = true) :
    (∃ kept, collapseFrom inRun (cs ++ [c]) = kept ++ [' ']) ∨
      inRun = true ∧ collapseFrom inRun (cs ++ [c]) = [] := by
  induction cs generalizing inRun with
  | nil =>
    rw [List.nil_append]
    cases inRun with
    | false => exact Or.inl ⟨[], collapseFrom_false_cons hc []⟩
    | true => exact Or.inr ⟨rfl, collapseFrom_true_cons hc []⟩
  | cons d rest ih =>
    rw [List.cons_append]
    cases hd : isBlank d with
    | false =>
      rw [collapseFrom_cons_of_solid hd]
      obtain ⟨kept, hkept⟩ := (ih false).resolve_right nofun
      exact Or.inl ⟨d :: kept, by rw [hkept, List.cons_append]⟩
    | true =>
      cases inRun with
      | true =>
        rw [collapseFrom_true_cons hd]
        exact ih true
      | false =>
        rw [collapseFrom_false_cons hd]
        rcases ih true with ⟨kept, hkept⟩ | ⟨-, hnil⟩
        · exact Or.inl ⟨' ' :: kept, by rw [hkept, List.cons_append]⟩
        · exact Or.inl ⟨[], by rw [hnil, List.nil_append]⟩

/-- Characters that are not blank stay where they are. -/
theorem collapseFrom_append_of_solid (hne : ds ≠ []) (hds : ∀ d ∈ ds, isBlank d = false)
    (inRun : Bool) (ys : List Char) :
    collapseFrom inRun (ds ++ ys) = ds ++ collapseFrom false ys := by
  induction ds generalizing inRun with
  | nil => exact absurd rfl hne
  | cons d rest ih =>
    obtain ⟨hd, hrest⟩ := List.forall_mem_cons.mp hds
    rw [List.cons_append, collapseFrom_cons_of_solid hd]
    cases rest with
    | nil => rfl
    | cons e rest => rw [ih (List.cons_ne_nil e rest) hrest, ← List.cons_append]

/-! ## Taking a collapsed text back -/

/-- Where a collapsed text can be cut, the text can be cut too. -/
theorem exists_of_collapseFrom_eq_append {inRun : Bool} (h : collapseFrom inRun cs = ds ++ ys) :
    ∃ before after later, cs = before ++ after ∧ collapseFrom inRun before = ds ∧
      collapseFrom later after = ys := by
  induction cs generalizing inRun ds with
  | nil =>
    obtain ⟨rfl, rfl⟩ := List.append_eq_nil_iff.mp h.symm
    exact ⟨[], [], inRun, rfl, rfl, rfl⟩
  | cons c rest ih =>
    cases ds with
    | nil => exact ⟨[], c :: rest, inRun, rfl, rfl, h⟩
    | cons d kept =>
      cases hc : isBlank c with
      | false =>
        rw [collapseFrom_cons_of_solid hc] at h
        obtain ⟨rfl, hkept⟩ := List.cons.inj h
        obtain ⟨before, after, later, rfl, rfl, hafter⟩ := ih hkept
        exact ⟨c :: before, after, later, rfl, collapseFrom_cons_of_solid hc _ _, hafter⟩
      | true =>
        cases inRun with
        | true =>
          rw [collapseFrom_true_cons hc] at h
          obtain ⟨before, after, later, rfl, hbefore, hafter⟩ := ih h
          exact ⟨c :: before, after, later, rfl, (collapseFrom_true_cons hc _).trans hbefore,
            hafter⟩
        | false =>
          rw [collapseFrom_false_cons hc] at h
          obtain ⟨rfl, hkept⟩ := List.cons.inj h
          obtain ⟨before, after, later, rfl, rfl, hafter⟩ := ih hkept
          exact ⟨c :: before, after, later, rfl, collapseFrom_false_cons hc _, hafter⟩

theorem exists_of_collapseFrom_eq_blank {inRun : Bool} (h : collapseFrom inRun cs = c :: ys)
    (hc : isBlank c = true) :
    ∃ d after, cs = d :: after ∧ isBlank d = true ∧ collapseFrom true after = ys := by
  cases inRun with
  | true => exact absurd (isBlank_of_collapseFrom_eq_cons h) (by simp [hc])
  | false =>
    cases cs with
    | nil => cases h
    | cons d after =>
      cases hd : isBlank d with
      | false =>
        rw [collapseFrom_cons_of_solid hd] at h
        rw [(List.cons.inj h).1, hc] at hd
        cases hd
      | true =>
        rw [collapseFrom_false_cons hd] at h
        exact ⟨d, after, rfl, hd, (List.cons.inj h).2⟩

theorem exists_of_collapseFrom_eq_solid (h : collapseFrom true cs = c :: ys) :
    ∃ blanks after, cs = blanks ++ c :: after ∧ (∀ d ∈ blanks, isBlank d = true) ∧
      collapseFrom false after = ys := by
  induction cs with
  | nil => cases h
  | cons d rest ih =>
    cases hd : isBlank d with
    | false =>
      rw [collapseFrom_cons_of_solid hd] at h
      obtain ⟨rfl, hafter⟩ := List.cons.inj h
      exact ⟨[], rest, rfl, by simp, hafter⟩
    | true =>
      rw [collapseFrom_true_cons hd] at h
      obtain ⟨blanks, after, rfl, hblanks, hafter⟩ := ih h
      exact ⟨d :: blanks, after, rfl, List.forall_mem_cons.mpr ⟨hd, hblanks⟩, hafter⟩

theorem exists_of_collapseFrom_eq_solids (h : collapseFrom false cs = ds ++ ys)
    (hds : ∀ d ∈ ds, isBlank d = false) :
    ∃ after, cs = ds ++ after ∧ collapseFrom false after = ys := by
  induction ds generalizing cs with
  | nil => exact ⟨cs, rfl, h⟩
  | cons d rest ih =>
    obtain ⟨hd, hrest⟩ := List.forall_mem_cons.mp hds
    cases cs with
    | nil => cases h
    | cons c cs =>
      cases hc : isBlank c with
      | false =>
        rw [collapseFrom_cons_of_solid hc] at h
        obtain ⟨rfl, hkept⟩ := List.cons.inj h
        obtain ⟨after, rfl, hafter⟩ := ih hkept hrest
        exact ⟨after, rfl, hafter⟩
      | true =>
        rw [collapseFrom_false_cons hc] at h
        rw [← (List.cons.inj h).1, isBlank_space] at hd
        cases hd

/-- Two blanks of a collapsed text, with nothing blank between them, stand in the text in the same
way. -/
theorem exists_of_collapse_eq {before dropped after : List Char} {a b : Char}
    (h : collapse cs = before ++ a :: (dropped ++ b :: after)) (ha : isBlank a = true)
    (hb : isBlank b = true) (hdropped : ∀ c ∈ dropped, isBlank c = false) :
    ∃ before' a' b' after', cs = before' ++ a' :: (dropped ++ b' :: after') ∧
      (isBlank a' = true ∧ isBlank b' = true) ∧ dropped ≠ [] ∧
      (∀ c, isBlank c = false → c ∈ before → c ∈ before') ∧
      ∀ c, isBlank c = false → c ∈ after → c ∈ after' := by
  obtain ⟨front, back, later, rfl, rfl, hback⟩ := exists_of_collapseFrom_eq_append h
  obtain ⟨first, rest, rfl, hfirst, hrest⟩ := exists_of_collapseFrom_eq_blank hback ha
  cases dropped with
  | nil => exact absurd (isBlank_of_collapseFrom_eq_cons hrest) (by simp [hb])
  | cons d dropped =>
    have htail := (List.forall_mem_cons.mp hdropped).2
    obtain ⟨blanks, solids, rfl, hblanks, hsolids⟩ := exists_of_collapseFrom_eq_solid hrest
    obtain ⟨last, rfl, hlast⟩ := exists_of_collapseFrom_eq_solids hsolids htail
    obtain ⟨b', after', rfl, hb', rfl⟩ := exists_of_collapseFrom_eq_blank hlast hb
    -- The blank before the solid characters is the last one of its run.
    obtain ⟨run, a', hrun⟩ :=
      (List.eq_nil_or_concat' (first :: blanks)).resolve_left (List.cons_ne_nil first blanks)
    have hall : ∀ c ∈ first :: blanks, isBlank c = true :=
      List.forall_mem_cons.mpr ⟨hfirst, hblanks⟩
    have ha' : isBlank a' = true := hall a' (by simp [hrun])
    refine ⟨front ++ run, a', b', after', ?_, ⟨ha', hb'⟩, List.cons_ne_nil d dropped, ?_, ?_⟩
    · rw [← List.cons_append, hrun]
      simp
    · exact fun c hc hmem => List.mem_append_left run ((mem_collapseFrom_iff hc).mp hmem)
    · exact fun c hc hmem => (mem_collapseFrom_iff hc).mp hmem

/-! ## Blanks that meet -/

theorem not_apart_iff : ¬Apart cs ↔
    ∃ before a b after, cs = before ++ a :: b :: after ∧ isBlank a = true ∧ isBlank b = true := by
  rw [Apart, List.isChain_iff_forall_rel_of_append_cons_cons]
  push Not
  constructor
  · rintro ⟨a, b, before, after, hcs, ha, hb⟩
    exact ⟨before, a, b, after, hcs, ha, by simpa using hb⟩
  · rintro ⟨before, a, b, after, hcs, ha, hb⟩
    exact ⟨a, b, before, after, hcs, ha, by simpa using hb⟩

/-- Blanks next to each other stay when a text is trimmed, if there is something on both sides. -/
theorem not_apart_trimChars_iff : ¬Apart (trimChars cs) ↔
    ∃ before a b after, cs = before ++ a :: b :: after ∧ (isBlank a = true ∧ isBlank b = true) ∧
      (∃ c ∈ before, isBlank c = false) ∧ ∃ c ∈ after, isBlank c = false := by
  rw [not_apart_iff]
  constructor
  · rintro ⟨before, a, b, after, htrim, ha, hb⟩
    obtain ⟨left, right, -, -, hcs⟩ := exists_trimChars cs
    have hends : (∃ c ∈ before, isBlank c = false) ∧ ∃ c ∈ after, isBlank c = false := by
      constructor
      · cases before with
        | nil => exact absurd (trimChars_head_not_isBlank htrim) (by simp [ha])
        | cons c before => exact ⟨c, List.mem_cons_self, trimChars_head_not_isBlank htrim⟩
      · rcases List.eq_nil_or_concat' after with rfl | ⟨kept, c, rfl⟩
        · have hlast : trimChars cs = (before ++ [a]) ++ [b] := by simp [htrim]
          exact absurd (isBlank_of_trimChars_eq_concat hlast) (by simp [hb])
        · have hlast : trimChars cs = (before ++ a :: b :: kept) ++ [c] := by simp [htrim]
          exact ⟨c, by simp, isBlank_of_trimChars_eq_concat hlast⟩
    refine ⟨left ++ before, a, b, after ++ right, ?_, ⟨ha, hb⟩, ?_, ?_⟩
    · rw [hcs, htrim]
      simp
    · exact hends.1.imp fun c h => ⟨List.mem_append_right _ h.1, h.2⟩
    · exact hends.2.imp fun c h => ⟨List.mem_append_left _ h.1, h.2⟩
  · rintro ⟨before, a, b, after, rfl, ⟨ha, hb⟩, hbefore, hafter⟩
    obtain ⟨kept, hkept⟩ := exists_dropWhile_append hbefore (a :: b :: after)
    refine ⟨kept, a, b, trimRight after, ?_, ha, hb⟩
    rw [trimChars, hkept, List.append_cons, List.append_cons,
      trimRight_append_of_solid hafter]
    simp

/-- Two blanks meet once the characters that `p` rejects are gone: between them stand only such
characters, at least one, and something else is kept before and after them. -/
def BlanksMeet (p : Char → Bool) (cs : List Char) : Prop :=
  ∃ before a dropped b after, cs = before ++ a :: (dropped ++ b :: after) ∧
    (isBlank a = true ∧ isBlank b = true) ∧ (dropped ≠ [] ∧ ∀ c ∈ dropped, p c = false) ∧
    (∃ c ∈ before, isBlank c = false ∧ p c = true) ∧ ∃ c ∈ after, isBlank c = false ∧ p c = true

section Meeting

variable {p : Char → Bool} (hp : ∀ c, isBlank c = true → p c = true)

include hp

theorem isBlank_of_rejected (h : ∀ c ∈ ds, p c = false) : ∀ c ∈ ds, isBlank c = false := by
  intro c hc
  cases hblank : isBlank c with
  | false => rfl
  | true => exact absurd (hp c hblank) (by simp [h c hc])

/-- Blanks that meet come together although the text is collapsed first. -/
theorem BlanksMeet.not_apart (h : BlanksMeet p cs) :
    ¬Apart (trimChars ((collapse cs).filter p)) := by
  obtain ⟨before, a, dropped, b, after, rfl, ⟨ha, hb⟩, ⟨hne, hdropped⟩, ⟨c, hc, hcsolid, hcp⟩,
    d, hd, hdsolid, hdp⟩ := h
  obtain ⟨kept, hkept⟩ := (collapseFrom_concat_blank false before ha).resolve_right nofun
  have hbetween : collapseFrom true (dropped ++ b :: after) =
      dropped ++ ' ' :: collapseFrom true after := by
    rw [collapseFrom_append_of_solid hne (isBlank_of_rejected hp hdropped),
      collapseFrom_false_cons hb]
  have hcollapse : collapse (before ++ a :: (dropped ++ b :: after)) =
      kept ++ ' ' :: (dropped ++ ' ' :: collapseFrom true after) := by
    rw [collapse, collapseFrom_append_cons, hkept, ha, hbetween, List.append_assoc]
    rfl
  have hgone : dropped.filter p = [] :=
    List.filter_eq_nil_iff.mpr fun c hc => by simp [hdropped c hc]
  have hfilter : (collapse (before ++ a :: (dropped ++ b :: after))).filter p =
      kept.filter p ++ ' ' :: ' ' :: (collapseFrom true after).filter p := by
    have hspace : p ' ' = true := hp ' ' isBlank_space
    rw [hcollapse, List.filter_append, List.filter_cons_of_pos hspace, List.filter_append, hgone,
      List.nil_append, List.filter_cons_of_pos hspace]
  have hmem : c ∈ kept := by
    have hcollapsed : c ∈ kept ++ [' '] := by
      rw [← hkept, mem_collapseFrom_iff hcsolid]
      exact List.mem_append_left _ hc
    rcases List.mem_append.mp hcollapsed with hmem | hspace
    · exact hmem
    · rw [List.mem_singleton.mp hspace, isBlank_space] at hcsolid
      cases hcsolid
  rw [hfilter]
  refine not_apart_trimChars_iff.mpr ⟨_, ' ', ' ', _, rfl, ⟨isBlank_space, isBlank_space⟩, ?_, ?_⟩
  · exact ⟨c, List.mem_filter.mpr ⟨hmem, hcp⟩, hcsolid⟩
  · exact ⟨d, List.mem_filter.mpr ⟨(mem_collapseFrom_iff hdsolid).mpr hd, hdp⟩, hdsolid⟩

/-- A trimmed text of which characters were dropped after it was collapsed has no two blanks next to
each other, unless blanks meet in it. -/
theorem apart_trimChars_filter_collapse_iff :
    Apart (trimChars ((collapse cs).filter p)) ↔ ¬BlanksMeet p cs := by
  constructor
  · exact fun happart hmeet => hmeet.not_apart hp happart
  · intro hnone
    by_contra hnot
    obtain ⟨before, a, b, after, hfilter, ⟨ha, hb⟩, hbefore, hafter⟩ :=
      not_apart_trimChars_iff.mp hnot
    obtain ⟨front, back, hcollapse, rfl, hback⟩ := List.filter_eq_append_iff.mp hfilter
    obtain ⟨skipped, rest, rfl, -, -, hrest⟩ := List.filter_eq_cons_iff.mp hback
    obtain ⟨dropped, last, rfl, hdropped, -, rfl⟩ := List.filter_eq_cons_iff.mp hrest
    have hrejected : ∀ c ∈ dropped, p c = false := fun c hc => by simpa using hdropped c hc
    rw [← List.append_assoc] at hcollapse
    obtain ⟨before, a, b, after, hcs, hab, hne, hfront, hlast⟩ :=
      exists_of_collapse_eq hcollapse ha hb (isBlank_of_rejected hp hrejected)
    refine hnone ⟨before, a, dropped, b, after, hcs, hab, ⟨hne, hrejected⟩, ?_, ?_⟩
    · obtain ⟨c, hc, hsolid⟩ := hbefore
      obtain ⟨hmem, hpc⟩ := List.mem_filter.mp hc
      exact ⟨c, hfront c hsolid (List.mem_append_left _ hmem), hsolid, hpc⟩
    · obtain ⟨c, hc, hsolid⟩ := hafter
      obtain ⟨hmem, hpc⟩ := List.mem_filter.mp hc
      exact ⟨c, hlast c hsolid hmem, hsolid, hpc⟩

end Meeting

end FlowBoard.Text
