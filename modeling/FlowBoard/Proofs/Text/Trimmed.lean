import FlowBoard.Proofs.Text.Blank

/-!
# Trimmed texts

Trimming takes blanks off both ends and nothing else: what is left starts and ends with a character
that is not blank, and a text that does so is left alone. Blanks at the ends count for nothing, so
it does not matter whether they go before or after other characters are dropped.
-/

namespace FlowBoard.Text

variable {c : Char} {cs ds : List Char}

theorem trimRight_eq_nil (h : ∀ c ∈ cs, isBlank c = true) : trimRight cs = [] := by
  induction cs with
  | nil => rfl
  | cons c rest ih =>
    obtain ⟨hc, hrest⟩ := List.forall_mem_cons.mp h
    rw [trimRight, ih hrest]
    exact if_pos hc

/-- Blanks at the end count for nothing. -/
theorem trimRight_append (cs : List Char) (h : ∀ c ∈ ds, isBlank c = true) :
    trimRight (cs ++ ds) = trimRight cs := by
  induction cs with
  | nil => exact trimRight_eq_nil h
  | cons c rest ih => rw [List.cons_append, trimRight, ih, trimRight]

theorem exists_trimRight (cs : List Char) :
    ∃ after, (∀ c ∈ after, isBlank c = true) ∧ cs = trimRight cs ++ after := by
  induction cs with
  | nil => exact ⟨[], by simp, rfl⟩
  | cons c rest ih =>
    obtain ⟨after, hafter, hrest⟩ := ih
    cases hkept : trimRight rest with
    | nil =>
      by_cases hc : isBlank c = true
      · refine ⟨c :: after, List.forall_mem_cons.mpr ⟨hc, hafter⟩, ?_⟩
        simpa [trimRight, hkept, hc] using hrest
      · refine ⟨after, hafter, ?_⟩
        simpa [trimRight, hkept, hc] using hrest
    | cons d kept =>
      refine ⟨after, hafter, ?_⟩
      simpa [trimRight, hkept] using hrest

/-- Trimming takes blanks off both ends. -/
theorem exists_trimChars (cs : List Char) :
    ∃ before after, (∀ c ∈ before, isBlank c = true) ∧ (∀ c ∈ after, isBlank c = true) ∧
      cs = before ++ (trimChars cs ++ after) := by
  obtain ⟨after, hafter, hdrop⟩ := exists_trimRight (cs.dropWhile isBlank)
  refine ⟨cs.takeWhile isBlank, after, fun c hc => List.mem_takeWhile_imp hc, hafter, ?_⟩
  rw [trimChars, ← hdrop, List.takeWhile_append_dropWhile]

/-- Blanks at both ends count for nothing. -/
theorem trimChars_append_append {before after : List Char}
    (hbefore : ∀ c ∈ before, isBlank c = true) (hafter : ∀ c ∈ after, isBlank c = true)
    (cs : List Char) :
    trimChars (before ++ (cs ++ after)) = trimChars cs := by
  rw [trimChars, List.dropWhile_append_of_pos hbefore, List.dropWhile_append, trimChars]
  split_ifs with hblank
  · rw [List.dropWhile_eq_nil_iff.mpr hafter, List.isEmpty_iff.mp hblank]
  · exact trimRight_append _ hafter

theorem isBlank_head?_trimChars (h : c ∈ (trimChars cs).head?) : isBlank c = false := by
  obtain ⟨kept, hkept⟩ := List.head?_eq_some_iff.mp h
  exact trimChars_head_not_isBlank hkept

theorem isBlank_getLast?_trimChars (h : c ∈ (trimChars cs).getLast?) : isBlank c = false := by
  have hlast : (trimChars cs).getLast? = some c := h
  have hkept : trimChars cs ≠ [] := by
    rintro hnil
    simp [hnil] at hlast
  have hsolid : endsSolid (trimChars cs) = true := endsSolid_trimRight hkept
  rw [endsSolid, hlast] at hsolid
  simpa using hsolid

theorem isBlank_of_trimChars_eq_concat (h : trimChars cs = ds ++ [c]) : isBlank c = false := by
  have hlast : (trimChars cs).getLast? = some c := by simp [h]
  exact isBlank_getLast?_trimChars hlast

/-- What neither starts nor ends with a blank is left as it is. -/
theorem trimChars_eq_self_of_ends (hhead : ∀ c ∈ cs.head?, isBlank c = false)
    (hlast : ∀ c ∈ cs.getLast?, isBlank c = false) : trimChars cs = cs := by
  cases cs with
  | nil => rfl
  | cons c rest =>
    have hc : isBlank c = false := hhead c rfl
    have hsolid : endsSolid (c :: rest) = true := by
      obtain ⟨d, hd⟩ : ∃ d, (c :: rest).getLast? = some d :=
        Option.isSome_iff_exists.mp (List.getLast?_isSome.mpr (List.cons_ne_nil c rest))
      rw [endsSolid, hd]
      simp [hlast d hd]
    rw [trimChars, List.dropWhile_cons_of_neg (by simp [hc]), trimRight_of_endsSolid hsolid]

theorem trim_trim (s : String) : trim (trim s) = trim s := by
  rw [← String.toList_inj, trim, toList_onChars, trim, toList_onChars]
  exact trimChars_eq_self_of_ends (fun _ h => isBlank_head?_trimChars h)
    fun _ h => isBlank_getLast?_trimChars h

theorem trim_eq_empty_iff {s : String} : trim s = "" ↔ isBlankText s = true := by
  rw [← String.toList_inj, trim, toList_onChars, String.toList_empty, isBlankText,
    List.all_eq_true]
  constructor
  · intro hnil c hc
    obtain ⟨before, after, hbefore, hafter, hcs⟩ := exists_trimChars s.toList
    rw [hcs, hnil, List.nil_append, List.mem_append] at hc
    exact hc.elim (hbefore c) (hafter c)
  · intro hblank
    rw [trimChars, List.dropWhile_eq_nil_iff.mpr hblank, trimRight]

theorem exists_dropWhile_append {before : List Char} (h : ∃ c ∈ before, isBlank c = false)
    (cs : List Char) : ∃ kept, (before ++ cs).dropWhile isBlank = kept ++ cs := by
  obtain ⟨c, hc, hsolid⟩ := h
  have hkept : before.dropWhile isBlank ≠ [] := by
    intro hnil
    simp [List.dropWhile_eq_nil_iff.mp hnil c hc] at hsolid
  exact ⟨before.dropWhile isBlank, by rw [List.dropWhile_append, if_neg (by simpa using hkept)]⟩

theorem trimRight_append_of_solid {after : List Char} (h : ∃ c ∈ after, isBlank c = false)
    (cs : List Char) : trimRight (cs ++ after) = cs ++ trimRight after := by
  have hkept : trimRight after ≠ [] := by
    intro hnil
    obtain ⟨c, hc, hsolid⟩ := h
    obtain ⟨blanks, hblanks, hafter⟩ := exists_trimRight after
    rw [hafter, hnil, List.nil_append] at hc
    simp [hblanks c hc] at hsolid
  induction cs with
  | nil => rfl
  | cons c rest ih =>
    rw [List.cons_append, trimRight, ih, List.cons_append]
    cases hrest : rest ++ trimRight after with
    | nil => exact absurd (List.append_eq_nil_iff.mp hrest).2 hkept
    | cons d kept => rfl

/-- It does not matter whether blanks are trimmed before characters are dropped. -/
theorem trimChars_filter_trimChars (p : Char → Bool) (cs : List Char) :
    trimChars ((trimChars cs).filter p) = trimChars (cs.filter p) := by
  obtain ⟨before, after, hbefore, hafter, hcs⟩ := exists_trimChars cs
  have hfilter : cs.filter p =
      before.filter p ++ ((trimChars cs).filter p ++ after.filter p) := by
    rw [← List.filter_append, ← List.filter_append, ← hcs]
  rw [hfilter, trimChars_append_append (fun c hc => hbefore c ((List.mem_filter.mp hc).1))
    fun c hc => hafter c ((List.mem_filter.mp hc).1)]

theorem trimRight_map {f : Char → Char} (hf : ∀ c, isBlank (f c) = isBlank c) (cs : List Char) :
    trimRight (cs.map f) = (trimRight cs).map f := by
  induction cs with
  | nil => rfl
  | cons c rest ih =>
    rw [List.map_cons, trimRight, ih, trimRight]
    cases trimRight rest with
    | nil =>
      by_cases hc : isBlank c = true
      · simp [hf, hc]
      · simp [hf, hc]
    | cons d kept => rfl

theorem trimChars_map {f : Char → Char} (hf : ∀ c, isBlank (f c) = isBlank c) (cs : List Char) :
    trimChars (cs.map f) = (trimChars cs).map f := by
  have hblank : isBlank ∘ f = isBlank := funext hf
  rw [trimChars, List.dropWhile_map, hblank, trimRight_map hf, trimChars]

end FlowBoard.Text
