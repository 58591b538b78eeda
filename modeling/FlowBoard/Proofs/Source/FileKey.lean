import FlowBoard.Proofs.Text.Blank
import FlowBoard.Source.FileKey

/-!
# The characters of file keys

A key that is read from an input has ASCII letters and digits only, and a bare text of enough of
them is its own key.
-/

namespace FlowBoard.FileKey

theorem toNat_of_isKeyChar {c : Char} (h : isKeyChar c = true) :
    (65 ≤ c.toNat ∧ c.toNat ≤ 90) ∨ (97 ≤ c.toNat ∧ c.toNat ≤ 122) ∨
      (48 ≤ c.toNat ∧ c.toNat ≤ 57) := by
  change (decide (c.val ≥ 65 ∧ c.val ≤ 90) || decide (c.val ≥ 97) && decide (c.val ≤ 122) ||
    decide (c.val ≥ 48) && decide (c.val ≤ 57)) = true at h
  simp only [Bool.or_eq_true, Bool.and_eq_true, decide_eq_true_eq, UInt32.le_iff_toNat_le,
    ge_iff_le] at h
  change ((65 ≤ c.toNat ∧ c.toNat ≤ 90) ∨ (97 ≤ c.toNat ∧ c.toNat ≤ 122)) ∨
    (48 ≤ c.toNat ∧ c.toNat ≤ 57) at h
  rwa [or_assoc] at h

theorem not_isBlank_of_isKeyChar {c : Char} (h : isKeyChar c = true) : Text.isBlank c = false := by
  have hn := toNat_of_isKeyChar h
  simp only [Text.isBlank, Bool.or_eq_false_iff, Bool.and_eq_false_iff, decide_eq_false_iff_not,
    beq_eq_false_iff_ne]
  omega

/-! ## Keys that are read -/

theorem isKeyChar_of_keyAt? {cs key : List Char} (h : keyAt? cs = some key) :
    ∀ c ∈ key, isKeyChar c = true := by
  have hkey : key = cs.takeWhile isKeyChar := by
    unfold keyAt? at h
    dsimp only at h
    split_ifs at h
    split at h
    · exact (Option.some.inj h).symm
    · split_ifs at h
      exact (Option.some.inj h).symm
  have hall := List.all_takeWhile (p := isKeyChar) (l := cs)
  rw [← hkey] at hall
  exact List.all_eq_true.mp hall

theorem isKeyChar_of_keyInAddress? {cs key : List Char} (h : keyInAddress? cs = some key) :
    ∀ c ∈ key, isKeyChar c = true := by
  induction cs with
  | nil => simp [keyInAddress?] at h
  | cons c rest ih =>
    rw [keyInAddress?] at h
    split at h
    · rename_i key' hmarker
      obtain rfl := Option.some.inj h
      obtain ⟨marker, _, hm⟩ := List.exists_of_findSome?_eq_some hmarker
      split_ifs at hm
      exact isKeyChar_of_keyAt? hm
    · exact ih h

/-! ## What an input names -/

theorem mentions_iff {part text : List Char} : mentions part text = true ↔ part <:+: text := by
  induction text with
  | nil => rw [mentions, List.isEmpty_iff, List.infix_nil]
  | cons c rest ih =>
    rw [mentions, Bool.or_eq_true, List.isPrefixOf_iff_prefix, ih, List.infix_cons_iff]

theorem ofChars_of_mentions {text key : List Char} (h : serviceName <:+: text) :
    ofChars text = .ok key ↔ keyInAddress? text = some key := by
  have hne : text.isEmpty = false := by
    rw [List.isEmpty_eq_false_iff]
    rintro rfl
    exact absurd (List.infix_nil.mp h) (by decide)
  rw [ofChars, hne, mentions_iff.mpr h, if_neg Bool.false_ne_true, if_pos rfl]
  cases keyInAddress? text <;> simp

theorem ofChars_of_not_mentions {text key : List Char} (h : ¬serviceName <:+: text) :
    ofChars text = .ok key ↔
      key = text ∧ minLength ≤ text.length ∧ ∀ c ∈ text, isKeyChar c = true := by
  have hservice : mentions serviceName text = false :=
    Bool.eq_false_iff.mpr fun hm => h (mentions_iff.mp hm)
  rw [ofChars, hservice, if_neg Bool.false_ne_true]
  cases text with
  | nil => simp [minLength]
  | cons c rest =>
    simp only [List.isEmpty_cons, Bool.false_eq_true, if_false, Bool.and_eq_true,
      List.all_eq_true, decide_eq_true_eq]
    split_ifs with hkey
    · rw [Except.ok.injEq, eq_comm]
      exact (and_iff_left hkey.symm).symm
    · exact iff_of_false (by simp) fun h => hkey h.2.symm

theorem extract_eq_ok_iff {input key : String} :
    extract input = .ok key ↔ ofChars (Text.trimChars input.toList) = .ok key.toList := by
  rw [extract]
  cases ofChars (Text.trimChars input.toList) with
  | error fault => exact iff_of_false (by simp [Except.map]) (by simp)
  | ok cs => rw [Except.map, Except.ok.injEq, Except.ok.injEq, ← String.toList_inj,
      String.toList_ofList]

theorem isKeyChar_of_extract {value key : String} (h : extract value = .ok key) :
    ∀ c ∈ key.toList, isKeyChar c = true := by
  rw [extract_eq_ok_iff] at h
  by_cases hservice : serviceName <:+: Text.trimChars value.toList
  · exact isKeyChar_of_keyInAddress? ((ofChars_of_mentions hservice).mp h)
  · obtain ⟨htext, -, hall⟩ := (ofChars_of_not_mentions hservice).mp h
    rwa [htext]

/-! ## Bare keys -/

theorem trimChars_eq_self {cs : List Char} (h : ∀ c ∈ cs, isKeyChar c = true) :
    Text.trimChars cs = cs :=
  Text.trimChars_eq_self fun c hc => not_isBlank_of_isKeyChar (h c hc)

theorem extract_bare {value : String} (h : ∀ c ∈ value.toList, isKeyChar c = true)
    (hlength : minLength ≤ value.length) : extract value = .ok value := by
  have hservice : ¬serviceName <:+: value.toList := fun hmentions =>
    absurd (h '.' (hmentions.subset (by decide))) (by decide)
  rw [extract_eq_ok_iff, trimChars_eq_self h, ofChars_of_not_mentions hservice,
    String.length_toList]
  exact ⟨rfl, hlength, h⟩

end FlowBoard.FileKey
