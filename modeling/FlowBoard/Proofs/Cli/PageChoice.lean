import FlowBoard.Cli.PageChoice
import FlowBoard.Proofs.Text.Trimmed
import Mathlib.Data.Nat.Digits.Defs

/-!
# The page that a selector names

A selector that is not blank is trimmed, and then it is a number if all its characters are digits,
and a name otherwise. A number is that of a page or is refused, and so is a name; but digits that
no numeral may hold, and too many digits, are refused by the reader of numerals and not by the
program. Names are compared in lower case. Lowering never shortens a text, so a name with blanks at
its ends is not found when it is given as it stands.
-/

namespace FlowBoard

namespace Text

/-! ## Numerals -/

/-- Digits of any script write a number, the highest digit first. -/
def Writes (s : String) (k : Nat) : Prop :=
  s ≠ "" ∧ ∃ ds : List Nat, s.toList.map decimalDigit? = ds.map some ∧
    Nat.ofDigits 10 ds.reverse = k

/-- Nothing but digits, of which one has no place in a numeral or which are too many. -/
def IsUnreadable (s : String) : Prop :=
  (∀ c ∈ s.toList, isDigit c = true) ∧
    ((∃ c ∈ s.toList, decimalDigit? c = none) ∨ digitLimit < s.length)

variable {c : Char} {cs : List Char} {ds : List Nat} {wanted : Bool} {s : String} {k : Nat}

/-- Either every character has the value of a decimal digit, or one has not. -/
theorem values_or_none (cs : List Char) :
    (∃ ds : List Nat, cs.map decimalDigit? = ds.map some) ∨ ∃ c ∈ cs, decimalDigit? c = none := by
  induction cs with
  | nil => exact .inl ⟨[], rfl⟩
  | cons c rest ih =>
    cases hc : decimalDigit? c with
    | none => exact .inr ⟨c, List.mem_cons_self, hc⟩
    | some d =>
      rcases ih with ⟨ds, hds⟩ | ⟨c', hmem, hnone⟩
      · exact .inl ⟨d :: ds, by rw [List.map_cons, hc, hds, List.map_cons]⟩
      · exact .inr ⟨c', List.mem_cons_of_mem c hmem, hnone⟩

theorem Writes.isDigit (h : Writes s k) : ∀ c ∈ s.toList, isDigit c = true := by
  intro c hc
  obtain ⟨-, ds, hvalues, -⟩ := h
  have hvalue : decimalDigit? c ∈ ds.map some := hvalues ▸ List.mem_map_of_mem hc
  obtain ⟨d, -, hd⟩ := List.mem_map.mp hvalue
  rw [Text.isDigit, ← hd, Option.isSome_some, Bool.true_or]

/-- A text of nothing but digits writes a number, unless it is unreadable. -/
theorem exists_writes (hs : s ≠ "") (hdigits : ∀ c ∈ s.toList, isDigit c = true)
    (hread : ¬IsUnreadable s) : ∃ k, Writes s k := by
  rcases values_or_none s.toList with ⟨ds, hds⟩ | hnone
  · exact ⟨Nat.ofDigits 10 ds.reverse, hs, ds, hds, rfl⟩
  · exact absurd ⟨hdigits, .inl hnone⟩ hread

theorem ofDigits_eq (ds : List Nat) : ofDigits ds = Nat.ofDigits 10 ds.reverse := by
  rw [Nat.ofDigits_eq_foldr, List.foldr_reverse, ofDigits]
  simp only [Nat.cast_id, Nat.add_comm]

theorem digitRun?_of_values (h : cs.map decimalDigit? = ds.map some)
    (hsome : wanted = true → cs ≠ []) : digitRun? wanted cs = some ds := by
  induction cs generalizing ds wanted with
  | nil =>
    have hwanted : wanted = false := by simpa using hsome
    obtain rfl := List.map_eq_nil_iff.mp h.symm
    rw [digitRun?, hwanted, if_neg Bool.false_ne_true]
  | cons c rest ih =>
    cases ds with
    | nil => cases h
    | cons d ds =>
      rw [List.map_cons, List.map_cons, List.cons.injEq] at h
      have hline : c ≠ '_' := by
        rintro rfl
        have hnone : decimalDigit? '_' = none := by decide +kernel
        rw [hnone] at h
        cases h.1
      have hrest : digitRun? false rest = some ds := ih h.2 nofun
      simp only [digitRun?, if_neg hline, h.1, hrest, Option.map_some]

/-- Underscores apart, a character without a value spoils the numeral. -/
theorem digitRun?_eq_none (hline : '_' ∉ cs) (h : ∃ c ∈ cs, decimalDigit? c = none)
    (wanted : Bool) : digitRun? wanted cs = none := by
  induction cs generalizing wanted with
  | nil =>
    obtain ⟨c, hc, -⟩ := h
    cases hc
  | cons c rest ih =>
    rw [List.mem_cons, not_or] at hline
    rw [digitRun?, if_neg (Ne.symm hline.1)]
    cases hvalue : decimalDigit? c with
    | none => rfl
    | some d =>
      obtain ⟨c', hc', hnone⟩ := h
      have hrest : c' ∈ rest := by
        rcases List.mem_cons.mp hc' with rfl | hrest
        · rw [hvalue] at hnone
          cases hnone
        · exact hrest
      simp only [ih hline.2 ⟨c', hrest, hnone⟩ false, Option.map_none]

/-- Digits are read as they stand: no sign and no underscore is among them. -/
theorem readInt_of_isDigit (htrim : trimChars s.toList = s.toList)
    (hdigits : ∀ c ∈ s.toList, isDigit c = true) :
    readInt s = match digitRun? true s.toList with
      | none => .error .malformed
      | some ds => if digitLimit < ds.length then .error (.tooLong ds.length)
        else .ok (ofDigits ds : Int) := by
  have hsigns : isDigit '-' = false ∧ isDigit '+' = false := by decide +kernel
  rw [readInt, htrim]
  cases hs : s.toList with
  | nil => rfl
  | cons c rest =>
    have hdigit : isDigit c = true := hdigits c (hs ▸ List.mem_cons_self)
    have hminus : c ≠ '-' := by
      rintro rfl
      exact absurd (hsigns.1.symm.trans hdigit) Bool.false_ne_true
    have hplus : c ≠ '+' := by
      rintro rfl
      exact absurd (hsigns.2.symm.trans hdigit) Bool.false_ne_true
    cases hrun : digitRun? true (c :: rest) with
    | none => simp [hminus, hplus, hrun]
    | some ds => simp [hminus, hplus, hrun]

theorem readInt_of_values (htrim : trimChars s.toList = s.toList) (hs : s ≠ "")
    (h : s.toList.map decimalDigit? = ds.map some) : readInt s =
      if digitLimit < s.length then .error (.tooLong s.length)
      else .ok (Nat.ofDigits 10 ds.reverse : Nat) := by
  have hdigits : ∀ c ∈ s.toList, isDigit c = true := Writes.isDigit ⟨hs, ds, h, rfl⟩
  have hlength : ds.length = s.length := by
    simpa [String.length_toList, eq_comm] using congrArg List.length h
  have hsome : s.toList ≠ [] := fun hnil => hs (String.toList_eq_nil_iff.mp hnil)
  rw [readInt_of_isDigit htrim hdigits, digitRun?_of_values h fun _ => hsome, ← ofDigits_eq,
    ← hlength]

theorem readInt_of_writes (htrim : trimChars s.toList = s.toList) (h : Writes s k)
    (hread : ¬IsUnreadable s) : readInt s = .ok (k : Int) := by
  have hshort : ¬digitLimit < s.length := fun hlong => hread ⟨h.isDigit, .inr hlong⟩
  obtain ⟨hs, ds, hvalues, rfl⟩ := h
  rw [readInt_of_values htrim hs hvalues, if_neg hshort]

theorem IsUnreadable.ne_empty (h : IsUnreadable s) : s ≠ "" := by
  rintro rfl
  rcases h.2 with ⟨c, hc, -⟩ | hlong
  · cases hc
  · exact absurd hlong (by decide)

theorem readInt_of_isUnreadable (htrim : trimChars s.toList = s.toList)
    (h : IsUnreadable s) : ∃ e, readInt s = .error e := by
  have hs := h.ne_empty
  obtain ⟨hdigits, hcause⟩ := h
  have hline : '_' ∉ s.toList := fun hmem =>
    absurd (hdigits _ hmem) (by decide +kernel)
  rcases values_or_none s.toList with ⟨ds, hds⟩ | hnone
  · have hlong : digitLimit < s.length := by
      refine hcause.resolve_left ?_
      rintro ⟨c, hc, hnone⟩
      have hvalue : decimalDigit? c ∈ ds.map some := hds ▸ List.mem_map_of_mem hc
      rw [hnone] at hvalue
      simp at hvalue
    exact ⟨_, (readInt_of_values htrim hs hds).trans (if_pos hlong)⟩
  · rw [readInt_of_isDigit htrim hdigits, digitRun?_eq_none hline hnone]
    exact ⟨_, rfl⟩

/-! ## Letter case -/

/-- Lowering gives one character for one, but two for a capital I with a dot. -/
theorem length_lowerFrom (before cs : List Char) :
    (lowerFrom before cs).length = cs.length + cs.countP (·.toNat == 0x130) := by
  induction cs generalizing before with
  | nil => rfl
  | cons c rest ih =>
    rw [List.countP_cons]
    by_cases hdotted : c.toNat = 0x130
    · simp [lowerFrom, hdotted, ih]
      omega
    · have hone : ∃ d, lowerFrom before (c :: rest) = d :: lowerFrom (c :: before) rest := by
        rw [lowerFrom, if_neg hdotted]
        split_ifs <;> exact ⟨_, rfl⟩
      obtain ⟨d, hd⟩ := hone
      simp [hd, hdotted, ih]
      omega

/-- Trimming is seen in lower case. -/
theorem trim_eq_self_of_lower_eq (h : lower (trim s) = lower s) : trim s = s := by
  have hsub : (trimChars s.toList).Sublist s.toList := trimChars_sublist s.toList
  have hlength := congrArg String.length h
  rw [lower, lower, String.length_ofList, String.length_ofList, lowerChars, lowerChars,
    length_lowerFrom, length_lowerFrom, trim, toList_onChars] at hlength
  have hcount := hsub.countP_le (p := (·.toNat == 0x130))
  have hle := hsub.length_le
  rw [trim, onChars, hsub.eq_of_length (by omega), String.ofList_toList]

end Text

namespace PageChoice

open Text (Writes IsUnreadable isBlankText isDigit lower trim)

variable {α : Type} {name : α → String} {pages : List α} {page : α} {wanted : String} {k : Nat}

/-! ## Numbers and names -/

theorem byNumber_eq_ok_iff :
    byNumber pages (k : Int) = .ok page ↔ 1 ≤ k ∧ pages[k - 1]? = some page := by
  have hindex : ((k : Int) - 1).toNat = k - 1 := by omega
  have hfirst : (1 : Int) ≤ (k : Int) ↔ 1 ≤ k := by omega
  rw [byNumber, hindex]
  by_cases hk : 1 ≤ k
  · rw [if_pos (hfirst.mpr hk)]
    cases pages[k - 1]? with
    | none => simp
    | some found => simp [hk]
  · rw [if_neg fun h => hk (hfirst.mp h)]
    simp [hk]

theorem byName_eq_ok_iff : byName name pages wanted = .ok page ↔
    (pages.find? fun other => lower (name other) == lower wanted) = some page := by
  rw [byName]
  cases pages.find? fun other => lower (name other) == lower wanted with
  | none => simp
  | some found => simp

theorem byNumber_of_outside (h : ¬(1 ≤ k ∧ k ≤ pages.length)) :
    byNumber pages (k : Int) = .error (outOfRange k pages.length) := by
  have hnone : (if 1 ≤ (k : Int) then pages[((k : Int) - 1).toNat]? else none) = none := by
    split_ifs with hfirst
    · exact List.getElem?_eq_none (by omega)
    · rfl
  rw [byNumber, hnone]

theorem byName_of_unnamed (h : ∀ page ∈ pages, lower (name page) ≠ lower wanted) :
    byName name pages wanted = .error (notFound name pages wanted) := by
  have hnone : (pages.find? fun other => lower (name other) == lower wanted) = none :=
    List.find?_eq_none.mpr fun page hpage => by simpa using h page hpage
  rw [byName, hnone]

/-- The page of a number or of a name is a page of the list, and without one the program itself
refuses. -/
def IsFrom (pages : List α) (outcome : Except Failure α) : Prop :=
  (∃ page ∈ pages, outcome = .ok page) ∨ ∃ e, outcome = .error e ∧ e.kind = .source

theorem isFrom_byNumber (pages : List α) (k : Nat) : IsFrom pages (byNumber pages (k : Int)) := by
  by_cases hk : 1 ≤ k ∧ k ≤ pages.length
  · have hpage : pages[k - 1]? = some (pages.get ⟨k - 1, by omega⟩) :=
      List.getElem?_eq_getElem (by omega)
    exact .inl ⟨_, List.get_mem pages _, byNumber_eq_ok_iff.mpr ⟨hk.1, hpage⟩⟩
  · exact .inr ⟨_, byNumber_of_outside hk, rfl⟩

theorem isFrom_byName (name : α → String) (pages : List α) (wanted : String) :
    IsFrom pages (byName name pages wanted) := by
  cases hfound : pages.find? fun other => lower (name other) == lower wanted with
  | some page => exact .inl ⟨page, List.mem_of_find?_eq_some hfound, byName_eq_ok_iff.mpr hfound⟩
  | none =>
    refine .inr ⟨_, byName_of_unnamed fun page hpage => ?_, rfl⟩
    simpa using List.find?_eq_none.mp hfound page hpage

/-! ## Trimmed selectors -/

section One

variable (htrim : trim wanted = wanted)
include htrim

theorem trimChars_toList : Text.trimChars wanted.toList = wanted.toList := by
  have hchars := congrArg String.toList htrim
  rwa [trim, Text.toList_onChars] at hchars

theorem one_of_writes (h : Writes wanted k) (hread : ¬IsUnreadable wanted) :
    one name pages wanted = byNumber pages (k : Int) := by
  rw [one, if_pos (List.all_eq_true.mpr h.isDigit),
    Text.readInt_of_writes (trimChars_toList htrim) h hread]
  rfl

theorem one_of_isUnreadable (name : α → String) (pages : List α) (h : IsUnreadable wanted) :
    ∃ e, one name pages wanted = .error e ∧ e.kind = .wrongValue := by
  obtain ⟨fault, hfault⟩ := Text.readInt_of_isUnreadable (trimChars_toList htrim) h
  rw [one, if_pos (List.all_eq_true.mpr h.1), hfault]
  exact ⟨_, rfl, rfl⟩

end One

theorem one_of_not_digits (name : α → String) (pages : List α)
    (h : ∃ c ∈ wanted.toList, isDigit c = false) :
    one name pages wanted = byName name pages wanted := by
  obtain ⟨c, hc, hdigit⟩ := h
  refine if_neg fun hall => ?_
  exact absurd (hdigit.symm.trans (List.all_eq_true.mp hall c hc)) Bool.false_ne_true

theorem exists_not_digit (hsome : wanted ≠ "") (hnumber : ∀ k, ¬Writes wanted k)
    (hread : ¬IsUnreadable wanted) : ∃ c ∈ wanted.toList, isDigit c = false := by
  by_contra hall
  simp only [not_exists, not_and, Bool.not_eq_false] at hall
  obtain ⟨k, hk⟩ := Text.exists_writes hsome hall hread
  exact hnumber k hk

/-! ## Selectors -/

theorem select_of_blank {selector : Option String} (h : ∀ s ∈ selector, isBlankText s = true) :
    select name pages selector = .ok pages := by
  have hgiven : Text.given? selector = none := by
    cases selector with
    | none => rfl
    | some s => simp [Text.given?, Text.trim_eq_empty_iff.mpr (h s rfl)]
  rw [select, hgiven]

theorem select_of_solid {s : String} (h : isBlankText s = false) :
    select name pages (some s) = (one name pages (trim s)).map ([·]) := by
  have hsome : trim s ≠ "" := by simp [Text.trim_eq_empty_iff, h]
  have hgiven : Text.given? (some s) = some (trim s) := by simp [Text.given?, hsome]
  rw [select, hgiven]

/-- A selector that is not blank comes to one page or is refused by the program: a number comes to
the page with that number, and anything else to the first page with that name. The message tells
how many pages there are, or which. -/
structure Chooses (name : α → String) (pages : List α) (wanted : String)
    (outcome : Except Failure (List α)) : Prop where
  one : (∃ page ∈ pages, outcome = .ok [page]) ∨ ∃ e, outcome = .error e ∧ e.kind = .source
  numbered : ∀ k, Writes wanted k →
    ∀ page, outcome = .ok [page] ↔ 1 ≤ k ∧ pages[k - 1]? = some page
  outside : ∀ k, Writes wanted k → ¬(1 ≤ k ∧ k ≤ pages.length) →
    outcome = .error (outOfRange k pages.length)
  named : (∀ k, ¬Writes wanted k) → ∀ page, outcome = .ok [page] ↔
    (pages.find? fun other => lower (name other) == lower wanted) = some page
  unnamed : (∀ k, ¬Writes wanted k) → (∀ page ∈ pages, lower (name page) ≠ lower wanted) →
    outcome = .error (notFound name pages wanted)

theorem map_singleton_eq_ok_iff {outcome : Except Failure α} :
    outcome.map ([·]) = .ok [page] ↔ outcome = .ok page := by
  cases outcome with
  | error e => simp [Except.map]
  | ok found => simp [Except.map]

theorem IsFrom.map_singleton {outcome : Except Failure α} (h : IsFrom pages outcome) :
    (∃ page ∈ pages, outcome.map ([·]) = .ok [page]) ∨
      ∃ e, outcome.map ([·]) = .error e ∧ e.kind = .source := by
  rcases h with ⟨page, hpage, rfl⟩ | ⟨e, rfl, he⟩
  · exact .inl ⟨page, hpage, rfl⟩
  · exact .inr ⟨e, rfl, he⟩

theorem chooses_of_solid {s : String} (h : isBlankText s = false)
    (hread : ¬IsUnreadable (trim s)) :
    Chooses name pages (trim s) (select name pages (some s)) := by
  have htrim := Text.trim_trim s
  have hsome : trim s ≠ "" := by simp [Text.trim_eq_empty_iff, h]
  rw [select_of_solid h]
  by_cases hnumber : ∃ k, Writes (trim s) k
  · obtain ⟨k, hk⟩ := hnumber
    constructor
    case one =>
      rw [one_of_writes htrim hk hread]
      exact (isFrom_byNumber pages k).map_singleton
    case numbered =>
      -- Any number that the selector writes is looked up alike, so it need not be shown unique.
      intro k' hk' page
      rw [map_singleton_eq_ok_iff, one_of_writes htrim hk' hread, byNumber_eq_ok_iff]
    case outside =>
      intro k' hk' houtside
      rw [one_of_writes htrim hk' hread, byNumber_of_outside houtside, Except.map]
    case named => exact fun hnone => absurd hk (hnone k)
    case unnamed => exact fun hnone => absurd hk (hnone k)
  · rw [not_exists] at hnumber
    have hname := one_of_not_digits name pages (exists_not_digit hsome hnumber hread)
    constructor
    case one =>
      rw [hname]
      exact (isFrom_byName name pages (trim s)).map_singleton
    case numbered => exact fun k hk => absurd hk (hnumber k)
    case outside => exact fun k hk => absurd hk (hnumber k)
    case named =>
      intro _ page
      rw [map_singleton_eq_ok_iff, hname, byName_eq_ok_iff]
    case unnamed =>
      intro _ hunnamed
      rw [hname, byName_of_unnamed hunnamed, Except.map]

/-- The first page whose name is that of `page` in letters of either case. -/
def firstNamesake? (name : α → String) (pages : List α) (page : α) : Option α :=
  pages.find? fun other => lower (name other) == lower (name page)

theorem exists_firstNamesake? (name : α → String) (hpage : page ∈ pages) :
    ∃ first, firstNamesake? name pages page = some first := by
  refine Option.isSome_iff_exists.mp (List.find?_isSome.mpr ⟨page, hpage, ?_⟩)
  exact beq_self_eq_true _

/-- A name with anything but digits in it that has no blanks at its ends finds the first page with
that name. -/
theorem select_name (hsolid : isBlankText (name page) = false)
    (hname : ∃ c ∈ (name page).toList, isDigit c = false) (htrim : trim (name page) = name page)
    {first : α} (hfirst : firstNamesake? name pages page = some first) :
    select name pages (some (name page)) = .ok [first] := by
  rw [select_of_solid hsolid, map_singleton_eq_ok_iff, htrim, one_of_not_digits _ _ hname,
    byName_eq_ok_iff]
  exact hfirst

/-- With blanks at its ends it does not. -/
theorem trim_eq_self_of_select_name (hsolid : isBlankText (name page) = false)
    (hname : ∃ c ∈ (trim (name page)).toList, isDigit c = false)
    {first : α} (hfirst : firstNamesake? name pages page = some first)
    (h : select name pages (some (name page)) = .ok [first]) : trim (name page) = name page := by
  rw [select_of_solid hsolid, map_singleton_eq_ok_iff, one_of_not_digits _ _ hname,
    byName_eq_ok_iff] at h
  have hgiven : lower (name first) = lower (trim (name page)) := by
    simpa using List.find?_some h
  have hown : lower (name first) = lower (name page) := by
    simpa using List.find?_some hfirst
  exact Text.trim_eq_self_of_lower_eq (hgiven.symm.trans hown)

/-! ## Every list and every selector -/

/-- What a selector comes to, and what the name of a page comes to as a selector. -/
structure Selects (name : α → String) (pages : List α)
    (outcome : Option String → Except Failure (List α)) : Prop where
  all : ∀ selector : Option String, (∀ s ∈ selector, isBlankText s = true) →
    outcome selector = .ok pages
  one : ∀ s, isBlankText s = false → ¬IsUnreadable (trim s) →
    Chooses name pages (trim s) (outcome (some s))
  unreadable : ∀ s, IsUnreadable (trim s) →
    ∃ e, outcome (some s) = .error e ∧ e.kind = .wrongValue
  own : ∀ page ∈ pages, isBlankText (name page) = false →
    (∃ c ∈ (name page).toList, isDigit c = false) → trim (name page) = name page →
    ∃ first, firstNamesake? name pages page = some first ∧
      outcome (some (name page)) = .ok [first]
  padded : ∀ page ∈ pages, isBlankText (name page) = false →
    (∃ c ∈ (trim (name page)).toList, isDigit c = false) → trim (name page) ≠ name page →
    ∀ first, firstNamesake? name pages page = some first →
      outcome (some (name page)) ≠ .ok [first]

/-- Without a selector all pages are taken. A selector that is no unreadable numeral comes to the
page that it tells or to an error of the program's own; a page can be chosen by its name, unless
that has blanks at its ends. -/
theorem select_selects (name : α → String) (pages : List α) :
    Selects name pages (select name pages) where
  all selector h := select_of_blank h
  one s hsolid hread := chooses_of_solid hsolid hread
  unreadable s hread := by
    have hsolid : isBlankText s = false := by simpa [Text.trim_eq_empty_iff] using hread.ne_empty
    obtain ⟨e, he, hkind⟩ := one_of_isUnreadable (Text.trim_trim s) name pages hread
    exact ⟨e, by rw [select_of_solid hsolid, he, Except.map], hkind⟩
  own page hpage hsolid hname htrim := by
    obtain ⟨first, hfirst⟩ := exists_firstNamesake? name hpage
    exact ⟨first, hfirst, select_name hsolid hname htrim hfirst⟩
  padded page _ hsolid hname htrim first hfirst h :=
    htrim (trim_eq_self_of_select_name hsolid hname hfirst h)

/-- A superscript is a digit and no numeral, and a padded name is not that of its own page. -/
theorem select_superscript_and_padded :
    select id ["Flow"] (some "²") =
      .error ⟨.wrongValue, "invalid literal for int() with base 10: '²'"⟩ ∧
    select id [" Flow "] (some " Flow ") =
      .error ⟨.source, "Page \"Flow\" not found. Available pages: 1: Flow "⟩ := by
  decide +kernel

example : select id ["Home", "Flow"] (some " fLOW ") = .ok ["Flow"] := by decide +kernel

end PageChoice

end FlowBoard
