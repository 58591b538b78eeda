import FlowBoard.Payload
import Mathlib.Tactic.SplitIfs

/-!
# Hints about the wire form

A payload has one form of its own: that of a tree file when it looks like one and did not come as
markup, that of a page list otherwise. An explicit hint is met when it names that form, and
automatic choice takes a page list from markup only. So a text is accepted under one explicit hint
at most, and automatic choice never disagrees with the hint that it stands for.
-/

namespace FlowBoard

/-- The hint that names a form. -/
def WireForm.hint : WireForm → FormatHint
  | .tree => .tree
  | .structured => .structured

namespace Payload

/-- The form that a payload has, whatever was said about it. -/
def ownForm (p : Payload) : WireForm :=
  if p.fromMarkup = false ∧ looksLikeTree p.data = true then .tree else .structured

theorem ownForm_of_markup {p : Payload} (h : p.fromMarkup = true) : p.ownForm = .structured := by
  rw [ownForm, if_neg]
  simp [h]

theorem form_hint_eq_ok_iff {p : Payload} {form form' : WireForm} :
    p.form form.hint = .ok form' ↔ p.ownForm = form ∧ form' = form := by
  rcases p with ⟨data, fromMarkup⟩
  cases fromMarkup with
  | true =>
    rw [ownForm_of_markup rfl]
    cases form <;> cases form' <;> simp [Payload.form, WireForm.hint]
  | false =>
    cases hlooks : looksLikeTree data <;> cases form <;> cases form' <;>
      simp [Payload.form, ownForm, WireForm.hint, hlooks]

/-- Automatic choice takes the payload's own form, but a page list only from markup. -/
theorem form_auto_eq_ok_iff {p : Payload} {form : WireForm} :
    p.form .auto = .ok form ↔
      p.ownForm = form ∧ (form = .structured ↔ p.fromMarkup = true) := by
  rcases p with ⟨data, fromMarkup⟩
  cases fromMarkup with
  | true =>
    rw [ownForm_of_markup rfl]
    cases form <;> simp [Payload.form]
  | false =>
    cases hlooks : looksLikeTree data <;> cases form <;>
      simp [Payload.form, ownForm, hlooks]

/-- The data of a payload pass the check of a form as this document. -/
def Holds (p : Payload) (fileKey : String) (lone : Text.StandIns) : Ingested → Prop
  | .tree key file lone' => key = fileKey ∧ checkTree p.data treeRoot = .ok file ∧ lone' = lone
  | .structured key list lone' =>
    key = fileKey ∧ checkPageList p.data pageListRoot = .ok list ∧ lone' = lone

theorem ingest_eq_ok_iff {p : Payload} {fileKey : String} {hint : FormatHint}
    {lone : Text.StandIns} {i : Ingested} :
    p.ingest fileKey hint lone = .ok i ↔ p.form hint = .ok i.form ∧ p.Holds fileKey lone i := by
  rw [ingest]
  cases p.form hint with
  | error e => simp [bind, Except.bind]
  | ok form =>
    cases form with
    | tree =>
      cases hcheck : checkTree p.data treeRoot with
      | error e => cases i <;> simp [bind, Except.bind, hcheck, Holds, Ingested.form]
      | ok file =>
        cases i <;>
          simp [bind, Except.bind, pure, Except.pure, hcheck, Holds, Ingested.form, eq_comm]
    | structured =>
      cases hcheck : checkPageList p.data pageListRoot with
      | error e => cases i <;> simp [bind, Except.bind, hcheck, Holds, Ingested.form]
      | ok list =>
        cases i <;>
          simp [bind, Except.bind, pure, Except.pure, hcheck, Holds, Ingested.form, eq_comm]

/-! ## Decoding and reading -/

/-- A text is decoded as canvas markup or as JSON, by its first character. -/
inductive Decodes (text : String) : Payload → Prop
  | markup {list : Wire.PageList} (hfirst : isMarkup (Text.trimChars text.toList) = true)
      (hread : Canvas.read text = .ok list) :
      Decodes text { data := list.sparseJson, fromMarkup := true }
  | json {data : Json} (hfirst : isMarkup (Text.trimChars text.toList) = false)
      (hread : Json.readChars (Text.trimChars text.toList) = .ok data) : Decodes text { data }

theorem Decodes.fromMarkup_eq {text : String} {p : Payload} (h : Decodes text p) :
    p.fromMarkup = isMarkup (Text.trimChars text.toList) := by
  cases h with
  | markup hfirst hread => exact hfirst.symm
  | json hfirst hread => exact hfirst.symm

theorem Decodes.unique {text : String} {p q : Payload} (hp : Decodes text p)
    (hq : Decodes text q) : p = q := by
  cases hp with
  | markup hfirst hread =>
    cases hq with
    | markup _ hread' => rw [Except.ok.inj (hread.symm.trans hread')]
    | json hfirst' _ => exact absurd (hfirst.symm.trans hfirst') nofun
  | json hfirst hread =>
    cases hq with
    | markup hfirst' _ => exact absurd (hfirst.symm.trans hfirst') nofun
    | json _ hread' => rw [Except.ok.inj (hread.symm.trans hread')]

theorem decodes_iff_of_isMarkup {text : String} {p : Payload}
    (h : isMarkup (Text.trimChars text.toList) = true) :
    Decodes text p ↔ ∃ list, Canvas.read text = .ok list ∧
      p = { data := list.sparseJson, fromMarkup := true } := by
  constructor
  · intro hp
    cases hp with
    | markup _ hread => exact ⟨_, hread, rfl⟩
    | json hfirst _ => exact absurd (h.symm.trans hfirst) nofun
  · rintro ⟨list, hread, rfl⟩
    exact .markup h hread

theorem decodes_iff_of_not_isMarkup {text : String} {p : Payload}
    (h : isMarkup (Text.trimChars text.toList) = false) :
    Decodes text p ↔ ∃ data, Json.readChars (Text.trimChars text.toList) = .ok data ∧
      p = { data } := by
  constructor
  · intro hp
    cases hp with
    | markup hfirst _ => exact absurd (h.symm.trans hfirst) nofun
    | json _ hread => exact ⟨_, hread, rfl⟩
  · rintro ⟨data, hread, rfl⟩
    exact .json h hread

theorem readChars_of_isEmpty {cs : List Char} (h : cs.isEmpty = true) :
    Json.readChars cs = .error (.malformed .value 0) := by
  rw [List.isEmpty_iff.mp h]
  rfl

/-- Markup is not read under the hint of a tree; nothing else depends on the hint. -/
theorem read_eq_ok_iff {text label : String} {hint : FormatHint} {p : Payload} :
    read text label hint = .ok p ↔
      Decodes text p ∧ (hint = .tree → p.fromMarkup = false) := by
  rw [read]
  by_cases hmarkup : isMarkup (Text.trimChars text.toList) = true
  · have hsome : (Text.trimChars text.toList).isEmpty = false := by
      cases hchars : Text.trimChars text.toList with
      | nil => simp [hchars, isMarkup] at hmarkup
      | cons c rest => rfl
    rw [decodes_iff_of_isMarkup hmarkup, hsome, if_neg Bool.false_ne_true, if_pos hmarkup]
    by_cases htree : hint = .tree
    · rw [if_pos htree]
      constructor
      · nofun
      · rintro ⟨⟨list, _, rfl⟩, hjson⟩
        exact absurd (hjson htree) nofun
    · rw [if_neg htree]
      cases Canvas.read text with
      | error e => simp
      | ok list =>
        simp only [Except.ok.injEq, exists_eq_left']
        constructor
        · rintro rfl
          exact ⟨rfl, fun h => absurd h htree⟩
        · exact fun h => h.1.symm
  · rw [decodes_iff_of_not_isMarkup (Bool.not_eq_true _ ▸ hmarkup), if_neg hmarkup]
    by_cases hempty : (Text.trimChars text.toList).isEmpty = true
    · rw [if_pos hempty, readChars_of_isEmpty hempty]
      simp
    · rw [if_neg hempty]
      cases Json.readChars (Text.trimChars text.toList) with
      | error e => simp
      | ok data =>
        simp only [Except.ok.injEq, exists_eq_left']
        constructor
        · rintro rfl
          exact ⟨rfl, fun _ => rfl⟩
        · exact fun h => h.1.symm

theorem ingestText_eq_ok_iff {text label fileKey : String} {hint : FormatHint} {i : Ingested} :
    ingestText text label fileKey hint = .ok i ↔ ∃ p, Decodes text p ∧
      (hint = .tree → p.fromMarkup = false) ∧ p.form hint = .ok i.form ∧
        p.Holds fileKey (standIns text) i := by
  rw [ingestText]
  constructor
  · intro h
    cases hread : read text label hint with
    | error e =>
      rw [hread] at h
      cases h
    | ok p =>
      rw [hread] at h
      obtain ⟨hdecodes, htree⟩ := read_eq_ok_iff.mp hread
      exact ⟨p, hdecodes, htree, ingest_eq_ok_iff.mp h⟩
  · rintro ⟨p, hdecodes, htree, hingest⟩
    rw [read_eq_ok_iff.mpr ⟨hdecodes, htree⟩]
    exact ingest_eq_ok_iff.mpr hingest

/-- Under an explicit hint a text is accepted if its payload has the form that is named. -/
theorem ingestText_hint_eq_ok_iff {text label fileKey : String} {form : WireForm} {i : Ingested} :
    ingestText text label fileKey form.hint = .ok i ↔
      ∃ p, Decodes text p ∧ p.ownForm = form ∧ i.form = form ∧
        p.Holds fileKey (standIns text) i := by
  rw [ingestText_eq_ok_iff]
  refine exists_congr fun p => and_congr_right fun _ => ?_
  rw [form_hint_eq_ok_iff, and_assoc]
  constructor
  · exact fun h => h.2
  · rintro ⟨hown, hform, hholds⟩
    refine ⟨fun htree => ?_, hown, hform, hholds⟩
    cases hmarkup : p.fromMarkup with
    | false => rfl
    | true =>
      rw [ownForm_of_markup hmarkup] at hown
      subst hown
      cases htree

/-- Automatic choice stands for the hint that names the document's form, and takes page lists from
markup only. -/
theorem ingestText_auto_eq_ok_iff {text label fileKey : String} {i : Ingested} :
    ingestText text label fileKey .auto = .ok i ↔
      ingestText text label fileKey i.form.hint = .ok i ∧
        (i.form = .structured ↔ isMarkup (Text.trimChars text.toList) = true) := by
  rw [ingestText_eq_ok_iff, ingestText_hint_eq_ok_iff]
  constructor
  · rintro ⟨p, hdecodes, -, hform, hholds⟩
    obtain ⟨hown, hmarkup⟩ := form_auto_eq_ok_iff.mp hform
    exact ⟨⟨p, hdecodes, hown, rfl, hholds⟩, hdecodes.fromMarkup_eq ▸ hmarkup⟩
  · rintro ⟨⟨p, hdecodes, hown, -, hholds⟩, hmarkup⟩
    rw [← hdecodes.fromMarkup_eq] at hmarkup
    exact ⟨p, hdecodes, nofun, form_auto_eq_ok_iff.mpr ⟨hown, hmarkup⟩, hholds⟩

/-! ## Agreement of hints -/

/-- What a text comes to under every hint: the explicit ones exclude each other, and automatic
choice stands for one of them. -/
structure HintsAgree (outcome : FormatHint → Except Failure Ingested) (isMarkup : Bool) : Prop where
  named : ∀ form i, outcome (WireForm.hint form) = .ok i → i.form = form
  exclusive : ∀ form other i, outcome (WireForm.hint form) = .ok i → other ≠ form →
    ∃ e, outcome (WireForm.hint other) = .error e
  chosen : ∀ i, outcome .auto = .ok i → outcome i.form.hint = .ok i ∧
    ∀ other, other ≠ i.form → ∃ e, outcome (WireForm.hint other) = .error e
  missed : ∀ form i e, outcome .auto = .error e → outcome (WireForm.hint form) = .ok i →
    form = .structured ∧ isMarkup = false
  form_eq : ∀ i, outcome .auto = .ok i → (i.form = .structured ↔ isMarkup = true)

theorem exists_error {α : Type} {x : Except Failure α} (h : ∀ a, x ≠ .ok a) :
    ∃ e, x = .error e := by
  cases x with
  | ok a => exact absurd rfl (h a)
  | error e => exact ⟨e, rfl⟩

/-- A payload has one form, so it is accepted under one explicit hint only. -/
theorem exists_error_of_other_hint {text label fileKey : String} {form other : WireForm}
    {i : Ingested} (h : ingestText text label fileKey form.hint = .ok i) (hother : other ≠ form) :
    ∃ e, ingestText text label fileKey other.hint = .error e := by
  obtain ⟨p, hp, hown, -, -⟩ := ingestText_hint_eq_ok_iff.mp h
  refine exists_error fun j hj => ?_
  obtain ⟨q, hq, hown', -, -⟩ := ingestText_hint_eq_ok_iff.mp hj
  rw [hq.unique hp] at hown'
  exact hother (hown'.symm.trans hown)

/-- What automatic choice misses is a page list in JSON. -/
theorem structured_of_auto_error {text label fileKey : String} {form : WireForm} {i : Ingested}
    {e : Failure} (hauto : ingestText text label fileKey .auto = .error e)
    (h : ingestText text label fileKey form.hint = .ok i) :
    form = .structured ∧ isMarkup (Text.trimChars text.toList) = false := by
  obtain ⟨p, hp, hown, hform, -⟩ := ingestText_hint_eq_ok_iff.mp h
  have hnot : ¬ (i.form = .structured ↔ isMarkup (Text.trimChars text.toList) = true) := by
    intro hmarkup
    have hok := ingestText_auto_eq_ok_iff.mpr ⟨hform.symm ▸ h, hmarkup⟩
    exact absurd (hauto.symm.trans hok) nofun
  rw [hform, ← hp.fromMarkup_eq] at hnot
  cases form with
  | structured => exact ⟨rfl, by simpa [hp.fromMarkup_eq] using hnot⟩
  | tree =>
    have hmarkup : p.fromMarkup = true := by simpa using hnot
    rw [ownForm_of_markup hmarkup] at hown
    cases hown

/-- Hints agree about every text. -/
theorem hintsAgree_ingestText (text label fileKey : String) :
    HintsAgree (ingestText text label fileKey) (isMarkup (Text.trimChars text.toList)) := by
  refine ⟨?named, fun _ _ _ => exists_error_of_other_hint, ?chosen,
    fun _ _ _ => structured_of_auto_error, ?form_eq⟩
  case named =>
    intro form i h
    obtain ⟨p, -, -, hform, -⟩ := ingestText_hint_eq_ok_iff.mp h
    exact hform
  case chosen =>
    intro i hauto
    have h := (ingestText_auto_eq_ok_iff.mp hauto).1
    exact ⟨h, fun other => exists_error_of_other_hint h⟩
  case form_eq => exact fun i hauto => (ingestText_auto_eq_ok_iff.mp hauto).2

/-- A page list without pages, which has to be asked for. -/
def bareList : String := "\x7b\"pages\": []\x7d"

theorem hintsAgree_bareList :
    (∃ i, ingestText bareList "stdin" "key" WireForm.structured.hint = .ok i) ∧
      (∃ e, ingestText bareList "stdin" "key" .auto = .error e) ∧
      isMarkup (Text.trimChars bareList.toList) = false ∧
      ∃ e, ingestText bareList "stdin" "key" WireForm.tree.hint = .error e := by
  have haccepted : ((ingestText bareList "stdin" "key" .structured).toOption.isSome) = true := by
    decide +kernel
  have hmissed : ((ingestText bareList "stdin" "key" .auto).toOption.isNone) = true := by
    decide +kernel
  have hagree := hintsAgree_ingestText bareList "stdin" "key"
  cases hauto : ingestText bareList "stdin" "key" .auto with
  | ok i =>
    rw [hauto] at hmissed
    cases hmissed
  | error e =>
    cases hlist : ingestText bareList "stdin" "key" WireForm.structured.hint with
    | error e' =>
      rw [WireForm.hint] at hlist
      rw [hlist] at haccepted
      cases haccepted
    | ok i =>
      exact ⟨⟨i, rfl⟩, ⟨e, rfl⟩, (hagree.missed .structured i e hauto hlist).2,
        hagree.exclusive .structured .tree i hlist nofun⟩

end Payload

end FlowBoard
