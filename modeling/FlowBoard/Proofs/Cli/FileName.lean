import FlowBoard.Cli.FileName
import FlowBoard.Proofs.Text.Blank

/-!
# Characters of file names

A sanitized name is not empty, and its characters are hyphens or come from the digit zero on, but
for the backslash and the blanks. So it has no slash of either kind, no dot and no null character:
lower case keeps out what the filter kept out.
-/

namespace FlowBoard

theorem Char.toNat_ofNat_of_isValid {n : Nat} (h : n.isValidChar) : (Char.ofNat n).toNat = n := by
  rw [Char.ofNat, dif_pos h]
  rfl

namespace FileName

/-! ## Characters that are kept out -/

/-- Intervals of code points: those below the digit zero other than the hyphen, the backslash, and
the blanks. -/
def barred : List (Nat × Nat) :=
  [(0x00, 0x2C), (0x2E, 0x2F), (0x5C, 0x5C), (0x85, 0x85), (0xA0, 0xA0), (0x1680, 0x1680),
    (0x2000, 0x200A), (0x2028, 0x2029), (0x202F, 0x202F), (0x205F, 0x205F), (0x3000, 0x3000)]

/-- The code points from the first to the last are not barred. -/
def avoids (first last : Nat) : Bool := barred.all fun r => last < r.1 || r.2 < first

def Clear (c : Char) : Prop := avoids c.toNat c.toNat = true

instance (c : Char) : Decidable (Clear c) := inferInstanceAs (Decidable (_ = true))

theorem forall_clear {cs : List Char} (h : cs.all (Clear ·) = true) : ∀ c ∈ cs, Clear c :=
  fun c hc => of_decide_eq_true (List.all_eq_true.mp h c hc)

theorem dot_not_mem {cs : List Char} (h : ∀ c ∈ cs, Clear c) : '.' ∉ cs :=
  fun hc => absurd (h '.' hc) (by decide)

theorem clear_of_avoids {first last : Nat} {c : Char} (h : avoids first last = true)
    (hfirst : first ≤ c.toNat) (hlast : c.toNat ≤ last) : Clear c := by
  simp only [Clear, avoids, List.all_eq_true, Bool.or_eq_true, decide_eq_true_eq] at h ⊢
  intro r hr
  have hrange := h r hr
  omega

namespace Clear

variable {c : Char}

theorem not_isBlank (h : Clear c) : Text.isBlank c = false := by
  simp only [Clear, avoids, barred, List.all_cons, Bool.and_eq_true, Bool.or_eq_true,
    decide_eq_true_eq] at h
  simp only [Text.isBlank, Bool.or_eq_false_iff, Bool.and_eq_false_iff, decide_eq_false_iff_not,
    beq_eq_false_iff_ne]
  omega

end Clear

/-! ## Lower case -/

/-- The capitals of a run are lowered to characters that are not barred. -/
def lowersClear (run : Text.CaseRun) : Bool :=
  avoids (run.first + run.shift).toNat (run.last + run.shift).toNat &&
    (run.last + run.shift < 0xD800 ||
      0xDFFF < run.first + run.shift && run.last + run.shift < 0x110000)

theorem all_lowersClear : Text.caseRuns.toList.all lowersClear = true := by decide +kernel

theorem clear_lowerChar {c : Char} (h : Clear c) : Clear (Text.lowerChar c) := by
  unfold Text.lowerChar
  split
  case h_2 => exact h
  case h_1 run hrun =>
    have hclear := List.all_eq_true.mp all_lowersClear run
      (Array.mem_toList_iff.mpr (Array.mem_of_find?_eq_some hrun))
    have hhas : run.has c.toNat = true := by simpa using Array.find?_some hrun
    simp only [lowersClear, Text.CaseRun.has, Bool.and_eq_true, Bool.or_eq_true,
      decide_eq_true_eq] at hclear hhas
    obtain ⟨havoids, hvalid⟩ := hclear
    have hle : (run.first : Int) ≤ c.toNat ∧ (c.toNat : Int) ≤ run.last := by omega
    have hchar : (c.toNat + run.shift).toNat.isValidChar := by
      rcases hvalid with hv | ⟨hv, hv'⟩
      · exact Or.inl (by omega)
      · exact Or.inr ⟨by omega, by omega⟩
    have hnat : (Text.shiftChar c run.shift).toNat = (c.toNat + run.shift).toNat :=
      Char.toNat_ofNat_of_isValid hchar
    exact clear_of_avoids havoids (by omega) (by omega)

theorem clear_lowerFrom {cs : List Char} (h : ∀ c ∈ cs, Clear c) (before : List Char) :
    ∀ c ∈ Text.lowerFrom before cs, Clear c := by
  induction cs generalizing before with
  | nil => exact nofun
  | cons d rest ih =>
    have hd := h d List.mem_cons_self
    have hrest := ih (fun c hc => h c (List.mem_cons_of_mem d hc)) (d :: before)
    rw [Text.lowerFrom]
    -- The cases are ASCII capitals and others, the dotted capital I, sigma, and the table.
    split_ifs with hascii hupper hdotted hsigma hfinal
    · have hcapital : 65 ≤ d.toNat ∧ d.toNat ≤ 90 := of_decide_eq_true hupper
      have hnat : (Char.ofNat (d.toNat + 32)).toNat = d.toNat + 32 :=
        Char.toNat_ofNat_of_isValid (Or.inl (by omega))
      have hsmall : avoids 97 122 = true := by decide
      have hshifted : Clear (Char.ofNat (d.toNat + 32)) :=
        clear_of_avoids hsmall (by omega) (by omega)
      exact List.forall_mem_cons.mpr ⟨hshifted, hrest⟩
    · exact List.forall_mem_cons.mpr ⟨hd, hrest⟩
    · exact List.forall_mem_cons.mpr ⟨by decide, List.forall_mem_cons.mpr ⟨by decide, hrest⟩⟩
    · exact List.forall_mem_cons.mpr ⟨by decide, hrest⟩
    · exact List.forall_mem_cons.mpr ⟨by decide, hrest⟩
    · exact List.forall_mem_cons.mpr ⟨clear_lowerChar hd, hrest⟩

/-! ## Sanitized names -/

theorem all_letterOrNumber :
    Text.letterOrNumber.toList.all (fun r => avoids r.1 r.2) = true := by
  decide +kernel

theorem clear_of_isWordChar {c : Char} (h : Text.isWordChar c = true) : Clear c := by
  rw [Text.isWordChar, Bool.or_eq_true, beq_iff_eq] at h
  rcases h with rfl | hrange
  · decide
  · obtain ⟨range, hmem, hin⟩ := Array.any_eq_true'.mp hrange
    have havoids := List.all_eq_true.mp all_letterOrNumber range (Array.mem_toList_iff.mpr hmem)
    simp only [decide_eq_true_eq, Bool.and_eq_true] at hin
    exact clear_of_avoids havoids hin.1 hin.2

theorem clear_or_isBlank_of_isKept {c : Char} (h : isKept c = true) :
    Clear c ∨ Text.isBlank c = true := by
  rw [isKept, Bool.or_eq_true, Bool.or_eq_true, beq_iff_eq] at h
  rcases h with (hword | hblank) | rfl
  · exact Or.inl (clear_of_isWordChar hword)
  · exact Or.inr hblank
  · exact Or.inl (by decide)

theorem not_isKept_of_not_clear {c : Char} (h : ¬Clear c) (hblank : Text.isBlank c = false) :
    isKept c = false :=
  Bool.eq_false_iff.mpr fun hkept => by simpa [h, hblank] using clear_or_isBlank_of_isKept hkept

theorem clear_hyphenate {cs : List Char} (h : ∀ c ∈ cs, isKept c = true) (inRun : Bool) :
    ∀ c ∈ hyphenate inRun cs, Clear c := by
  induction cs generalizing inRun with
  | nil => exact nofun
  | cons d rest ih =>
    have hrest := ih fun c hc => h c (List.mem_cons_of_mem d hc)
    rw [hyphenate]
    split_ifs with hblank hrun
    · exact hrest true
    · exact List.forall_mem_cons.mpr ⟨by decide, hrest true⟩
    · have hclear := (clear_or_isBlank_of_isKept (h d List.mem_cons_self)).resolve_right hblank
      exact List.forall_mem_cons.mpr ⟨hclear, hrest false⟩

/-- No character of a sanitized name is barred. -/
theorem clear_of_mem_sanitize {name : String} {c : Char} (hc : c ∈ (sanitize name).toList) :
    Clear c := by
  rw [sanitize, Text.orElse] at hc
  split_ifs at hc with hempty
  · exact forall_clear (by decide) c hc
  · rw [Text.toList_onChars, sanitizeChars, Text.lowerChars] at hc
    exact clear_lowerFrom (clear_hyphenate (fun _ hd => (List.mem_filter.mp hd).2) false) [] c hc

theorem sanitize_of_nothing_kept {name : String} (h : ∀ c ∈ name.toList, isKept c = false) :
    sanitize name = fallback := by
  have hnone : name.toList.filter isKept = [] :=
    List.filter_eq_nil_iff.mpr fun c hc => by simp [h c hc]
  rw [sanitize, Text.onChars, sanitizeChars, hnone]
  rfl

theorem sanitize_ne_empty (name : String) : sanitize name ≠ "" := by
  rw [sanitize, Text.orElse]
  split_ifs with hempty
  · decide
  · simpa using hempty

end FileName

end FlowBoard
