import FlowBoard.Json.Reader
import FlowBoard.Json.Writer
import FlowBoard.Proofs.Number.Shortest

/-!
# Numbers read back

The reader takes the digits of a numeral up to what follows it. Every form in which a binary number
is written has the exact value of its shortest digits, so it is rounded back to the number, and a
whole number is read back as long as its digits are not too many.
-/

namespace FlowBoard

/-- The number can be read back: a whole number has no more digits than are read. -/
def Number.Readable : Number → Prop
  | .whole n => (decimalDigits n.natAbs).length ≤ Text.digitLimit
  | .binary _ => True

instance : DecidablePred Number.Readable
  | .whole n => inferInstanceAs (Decidable ((decimalDigits n.natAbs).length ≤ Text.digitLimit))
  | .binary _ => inferInstanceAs (Decidable True)

namespace Json

/-! ## Digits and what follows them -/

theorem isAsciiDigit_of_isDigit {c : Char} (h : c.isDigit = true) : isAsciiDigit c = true := by
  simp only [Char.isDigit, Bool.and_eq_true, decide_eq_true_eq, ge_iff_le, UInt32.le_iff_toNat_le]
    at h
  simp only [isAsciiDigit, Bool.and_eq_true, decide_eq_true_eq]
  exact h

theorem isAsciiDigit_toDigits (n : Nat) : ∀ c ∈ Nat.toDigits 10 n, isAsciiDigit c = true :=
  fun _ hc => isAsciiDigit_of_isDigit (Nat.isDigit_of_mem_toDigits (by decide) (by decide) hc)

theorem digitsValue_eq (ds : List Char) : digitsValue ds = Nat.ofDigitChars 10 ds 0 := by
  rw [digitsValue, Text.ofDigits, List.foldl_map]
  rfl

/-- What follows does not go on with a number. -/
def EndsNumber (rest : List Char) : Prop :=
  ∀ c ∈ rest.head?, isAsciiDigit c = false ∧ c ≠ '.' ∧ c ≠ 'e' ∧ c ≠ 'E'

theorem asciiDigits_append {ds rest : List Char} (hds : ∀ c ∈ ds, isAsciiDigit c = true)
    (hrest : ∀ c ∈ rest.head?, isAsciiDigit c = false) : asciiDigits (ds ++ rest) = (ds, rest) := by
  rw [asciiDigits, List.takeWhile_append_of_pos hds, List.dropWhile_append_of_pos hds]
  cases rest with
  | nil => simp
  | cons c rest => simp [hrest c rfl]

/-- A zero by itself, or digits that start with another one. -/
structure IsWhole (ds : List Char) : Prop where
  digits : ∀ c ∈ ds, isAsciiDigit c = true
  leads : ds = ['0'] ∨ ∃ c ∈ ds.head?, c ≠ '0'

theorem isWhole_toDigits (n : Nat) : IsWhole (Nat.toDigits 10 n) := by
  refine ⟨isAsciiDigit_toDigits n, ?_⟩
  rcases Nat.eq_zero_or_pos n with rfl | hpos
  · exact .inl rfl
  · refine .inr ?_
    have hhead := Shortest.head?_toDigits hpos
    cases hdigits : Nat.toDigits 10 n with
    | nil => exact absurd hdigits (List.length_pos_iff.mp Nat.length_toDigits_pos)
    | cons c ds =>
      rw [hdigits] at hhead
      exact ⟨c, rfl, hhead c rfl⟩

theorem wholePart?_append {ds rest : List Char} (h : IsWhole ds)
    (hrest : ∀ c ∈ rest.head?, isAsciiDigit c = false) :
    wholePart? (ds ++ rest) = some (ds, rest) := by
  rcases h.leads with rfl | ⟨c, hc, hzero⟩
  · rfl
  · cases ds with
    | nil => cases hc
    | cons d tail =>
      obtain rfl : d = c := Option.some.inj hc
      rw [List.cons_append, wholePart?, if_neg hzero, if_pos (h.digits d (by simp)),
        ← List.cons_append, asciiDigits_append h.digits hrest]

theorem fractionPart_of_ne {rest : List Char} (h : ∀ c ∈ rest.head?, c ≠ '.') :
    fractionPart rest = ([], rest) := by
  cases rest with
  | nil => rfl
  | cons c rest =>
    have hc := h c rfl
    rw [fractionPart]
    intro _ heq
    exact hc (List.cons.inj heq).1

theorem fractionPart_append {ds rest : List Char} (hne : ds ≠ [])
    (hds : ∀ c ∈ ds, isAsciiDigit c = true) (hrest : ∀ c ∈ rest.head?, isAsciiDigit c = false) :
    fractionPart ('.' :: (ds ++ rest)) = (ds, rest) := by
  rw [fractionPart, asciiDigits_append hds hrest, if_neg (by simpa using hne)]

theorem exponentPart_of_ne {rest : List Char} (h : ∀ c ∈ rest.head?, c ≠ 'e' ∧ c ≠ 'E') :
    exponentPart rest = (none, rest) := by
  cases rest with
  | nil => rfl
  | cons c rest =>
    obtain ⟨hlower, hupper⟩ := h c rfl
    unfold exponentPart
    simp [hlower, hupper]

theorem exists_exponentText (e : Int) :
    ∃ ds, exponentText e = (if e < 0 then '-' else '+') :: ds ∧ ds ≠ [] ∧
      (∀ c ∈ ds, isAsciiDigit c = true) ∧ digitsValue ds = e.natAbs := by
  have hdigits := isAsciiDigit_toDigits e.natAbs
  have hvalue : Nat.ofDigitChars 10 (Nat.toDigits 10 e.natAbs) 0 = e.natAbs :=
    Nat.ofDigitChars_ten_toDigits
  refine ⟨_, rfl, ?_⟩
  rw [decimalDigits]
  split_ifs
  · refine ⟨List.cons_ne_nil _ _, ?_, ?_⟩
    · intro c hc
      rcases List.mem_cons.mp hc with rfl | hc
      · rfl
      · exact hdigits c hc
    · rw [digitsValue_eq, Nat.ofDigitChars_cons]
      exact hvalue
  · exact ⟨List.length_pos_iff.mp Nat.length_toDigits_pos, hdigits, (digitsValue_eq _).trans hvalue⟩

theorem exponentPart_text (e : Int) {rest : List Char}
    (hrest : ∀ c ∈ rest.head?, isAsciiDigit c = false) :
    exponentPart ('e' :: (exponentText e ++ rest)) = (some e, rest) := by
  obtain ⟨ds, hds, hne, hdigits, hvalue⟩ := exists_exponentText e
  rw [hds]
  by_cases hsign : e < 0
  · rw [if_pos hsign]
    simp [exponentPart, asciiDigits_append hdigits hrest, hne, hvalue, abs_of_neg hsign]
  · rw [if_neg hsign]
    simp [exponentPart, asciiDigits_append hdigits hrest, hne, hvalue,
      abs_of_nonneg (Int.not_lt.mp hsign)]

/-! ## Numerals -/

variable {start rest : List Char} {negative : Bool}

theorem number_whole {ds : List Char} (h : IsWhole ds) (hlength : ds.length ≤ Text.digitLimit)
    (hrest : EndsNumber rest) :
    number start negative (ds ++ rest) =
      .ok (.whole (if negative then -(digitsValue ds : Int) else digitsValue ds), rest) := by
  rw [number, wholePart?_append h fun c hc => (hrest c hc).1]
  simp only [fractionPart_of_ne fun c hc => (hrest c hc).2.1,
    exponentPart_of_ne fun c hc => (hrest c hc).2.2]
  simp [Nat.not_lt.mpr hlength]

theorem number_of_parts {cs cs₁ cs₂ whole fraction : List Char} {exponent : Option Int}
    (hwhole : wholePart? cs = some (whole, cs₁)) (hfraction : fractionPart cs₁ = (fraction, cs₂))
    (hexponent : exponentPart cs₂ = (exponent, rest)) (h : fraction ≠ [] ∨ exponent ≠ none) :
    number start negative cs =
      .ok (.binary (Binary64.ofDecimal negative (digitsValue (whole ++ fraction))
        (exponent.getD 0 - fraction.length)), rest) := by
  have hparts : (fraction.isEmpty && exponent.isNone) = false := by
    rw [Bool.and_eq_false_iff, List.isEmpty_eq_false_iff, Option.isNone_eq_false_iff,
      Option.isSome_iff_ne_none]
    exact h
  rw [number, hwhole]
  simp only [hfraction, hexponent, hparts, Bool.false_eq_true, if_false]

/-- Digits with a point between them. -/
theorem number_point {whole fraction : List Char} (h : IsWhole whole) (hne : fraction ≠ [])
    (hdigits : ∀ c ∈ fraction, isAsciiDigit c = true) (hrest : EndsNumber rest) :
    number start negative (whole ++ '.' :: (fraction ++ rest)) =
      .ok (.binary (Binary64.ofDecimal negative (digitsValue (whole ++ fraction))
        (0 - fraction.length)), rest) :=
  number_of_parts (wholePart?_append h (by simp; decide))
    (fractionPart_append hne hdigits fun c hc => (hrest c hc).1)
    (exponentPart_of_ne fun c hc => (hrest c hc).2.2) (.inl hne)

/-- A digit with an exponent, and with a point if more digits follow. -/
theorem number_exponent {c : Char} (tail : List Char) (h : IsWhole [c])
    (hdigits : ∀ d ∈ tail, isAsciiDigit d = true) (e : Int) (hrest : EndsNumber rest) :
    number start negative ([c] ++ ((if tail.isEmpty then [] else '.' :: tail) ++
        'e' :: (exponentText e ++ rest))) =
      .ok (.binary (Binary64.ofDecimal negative (digitsValue ([c] ++ tail)) (e - tail.length)),
        rest) := by
  have hexponent := exponentPart_text e fun c hc => (hrest c hc).1
  by_cases htail : tail = []
  · subst htail
    exact number_of_parts (wholePart?_append h (by simp; decide)) (fractionPart_of_ne (by simp))
      hexponent (.inr (by simp))
  · rw [if_neg (by simpa using htail), List.cons_append]
    exact number_of_parts (wholePart?_append h (by simp; decide))
      (fractionPart_append htail hdigits (by simp; decide)) hexponent (.inl htail)

/-! ## The written forms -/

theorem isAsciiDigit_zeros (k : Nat) : ∀ c ∈ List.replicate k '0', isAsciiDigit c = true := by
  intro c hc
  rw [List.eq_of_mem_replicate hc]
  rfl

theorem digitsValue_zeros_append (k : Nat) (ds : List Char) :
    digitsValue (List.replicate k '0' ++ ds) = digitsValue ds := by
  induction k with
  | zero => rfl
  | succ k ih => exact ih

theorem digitsValue_append_zeros (ds : List Char) (k : Nat) :
    digitsValue (ds ++ List.replicate k '0') = digitsValue ds * 10 ^ k := by
  rw [digitsValue_eq, digitsValue_eq, Shortest.ofDigitChars_append_zeros]

/-- The text is read as a binary number by the exact value of a numeral, up to what follows. -/
def ReadsAs (text : List Char) (digits : Nat) (exponent : Int) : Prop :=
  ∀ (start rest : List Char) (negative : Bool), EndsNumber rest →
    ∃ m e, number start negative (text ++ rest) =
        .ok (.binary (Binary64.ofDecimal negative m e), rest) ∧
      Shortest.halves m e = Shortest.halves digits exponent

section Forms

variable {c : Char} {ds : List Char} (hzero : c ≠ '0')
  (hdigits : ∀ d ∈ c :: ds, isAsciiDigit d = true)
include hzero hdigits

theorem isWhole_prefix {whole : List Char} (h : whole <+: c :: ds) (hne : whole ≠ []) :
    IsWhole whole := by
  refine ⟨fun d hd => hdigits d (h.subset hd), .inr ?_⟩
  cases whole with
  | nil => exact absurd rfl hne
  | cons d tail => exact ⟨d, rfl, (List.cons_prefix_cons.mp h).1 ▸ hzero⟩

theorem readsAs_exponent (e : Int) :
    ReadsAs (c :: (if ds.isEmpty then [] else '.' :: ds) ++ 'e' :: exponentText e)
      (digitsValue (c :: ds)) (e - ds.length) := by
  intro start rest negative hrest
  have hone : IsWhole [c] := isWhole_prefix hzero hdigits (by simp) (List.cons_ne_nil c [])
  have htail : ∀ d ∈ ds, isAsciiDigit d = true := fun d hd => hdigits d (List.mem_cons_of_mem c hd)
  have hread : number start negative _ = _ := number_exponent ds hone htail e hrest
  exact ⟨_, _, (congrArg (number start negative) (by simp)).trans hread, rfl⟩

omit hzero in
/-- Zeros stand between the point and the digits. -/
theorem readsAs_below_one (k : Nat) :
    ReadsAs ('0' :: '.' :: (List.replicate k '0' ++ c :: ds)) (digitsValue (c :: ds))
      (0 - (k + (c :: ds).length)) := by
  intro start rest negative hrest
  have hfraction : ∀ d ∈ List.replicate k '0' ++ c :: ds, isAsciiDigit d = true :=
    fun d hd => (List.mem_append.mp hd).elim (isAsciiDigit_zeros k d) (hdigits d)
  have hread : number start negative _ = _ :=
    number_point (isWhole_toDigits 0) (by simp) hfraction hrest
  have hvalue : digitsValue (Nat.toDigits 10 0 ++ (List.replicate k '0' ++ c :: ds)) =
      digitsValue (c :: ds) := digitsValue_zeros_append (k + 1) (c :: ds)
  refine ⟨_, _, (congrArg (number start negative) (by simp)).trans hread, ?_⟩
  rw [hvalue, List.length_append, List.length_replicate, Nat.cast_add]

/-- Zeros stand between the digits and the point. -/
theorem readsAs_whole (k : Nat) :
    ReadsAs (c :: ds ++ List.replicate k '0' ++ ['.', '0']) (digitsValue (c :: ds)) k := by
  intro start rest negative hrest
  have hwhole : IsWhole (c :: ds ++ List.replicate k '0') :=
    ⟨fun d hd => (List.mem_append.mp hd).elim (hdigits d) (isAsciiDigit_zeros k d),
      .inr ⟨c, rfl, hzero⟩⟩
  have hread : number start negative _ = _ :=
    number_point hwhole (List.cons_ne_nil '0' []) (isAsciiDigit_zeros 1) hrest
  have hvalue : digitsValue (c :: ds ++ List.replicate k '0' ++ ['0']) =
      digitsValue (c :: ds) * 10 ^ (k + 1) := by
    rw [← digitsValue_append_zeros, List.replicate_succ', List.append_assoc]
  refine ⟨_, _, (congrArg (number start negative) (by simp)).trans hread, ?_⟩
  rw [hvalue, Shortest.halves_mul_tenTo, List.length_singleton]
  congr 1
  omega

/-- The point stands between two digits. -/
theorem readsAs_inside {k : Nat} (hpos : 0 < k) (hlt : k < (c :: ds).length) :
    ReadsAs ((c :: ds).take k ++ '.' :: (c :: ds).drop k) (digitsValue (c :: ds))
      (k - (c :: ds).length) := by
  intro start rest negative hrest
  have hne : (c :: ds).take k ≠ [] := by simp [hpos.ne']
  have hwhole : IsWhole ((c :: ds).take k) :=
    isWhole_prefix hzero hdigits (List.take_prefix k _) hne
  have hdrop : (c :: ds).drop k ≠ [] := by
    rw [ne_eq, List.drop_eq_nil_iff]
    omega
  have hread : number start negative _ = _ :=
    number_point hwhole hdrop (fun d hd => hdigits d (List.mem_of_mem_drop hd)) hrest
  refine ⟨_, _, (congrArg (number start negative) (by simp)).trans hread, ?_⟩
  rw [List.take_append_drop, List.length_drop]
  congr 1
  omega

/-- Digits with a point anywhere are read with the exact value that they have. -/
theorem readsAs_pointedText (place : Int) :
    ReadsAs (pointedText (c :: ds) place) (digitsValue (c :: ds)) (place - (c :: ds).length) := by
  have hlength : ((c :: ds).length : Int) = ds.length + 1 := by simp
  rw [pointedText]
  split_ifs with hfar hsmall hlarge
  · have hexponent : place - (c :: ds).length = place - 1 - ds.length := by omega
    rw [hexponent]
    exact readsAs_exponent hzero hdigits (place - 1)
  · have hexponent : place - (c :: ds).length = 0 - ((-place).toNat + (c :: ds).length) := by omega
    rw [hexponent]
    exact readsAs_below_one hdigits (-place).toNat
  · have hexponent : place - (c :: ds).length = (place.toNat - (c :: ds).length : Nat) := by omega
    rw [hexponent]
    exact readsAs_whole hzero hdigits _
  · have hexponent : place - (c :: ds).length = place.toNat - (c :: ds).length := by omega
    rw [hexponent]
    exact readsAs_inside hzero hdigits (by omega) (by omega)

end Forms

/-- The text of a finite number without its sign. -/
def magnitudeText (rank : Nat) : List Char :=
  if rank = 0 then ['0', '.', '0']
  else pointedText (Shortest.digits rank).1 (Shortest.digits rank).2

/-- A magnitude is read back from its text. -/
theorem number_magnitudeText {rank : Nat} (h : rank < finiteRanks) (hrest : EndsNumber rest) :
    number start negative (magnitudeText rank ++ rest) =
      .ok (.binary (.finite ⟨negative, rank, h⟩), rest) := by
  rw [magnitudeText]
  split_ifs with hzero
  · subst hzero
    have hread : number start negative _ = _ := number_point (isWhole_toDigits 0)
      (List.cons_ne_nil '0' []) (isAsciiDigit_zeros 1) hrest
    exact hread
  · have hpos : 0 < rank := Nat.pos_of_ne_zero hzero
    obtain ⟨c, ds, place, hdigits, hlead, hdigit, hround⟩ := Shortest.digits_roundsTo hpos h
    have hascii : ∀ d ∈ c :: ds, isAsciiDigit d = true :=
      fun d hd => isAsciiDigit_of_isDigit (hdigit d hd)
    obtain ⟨m, e, hread, hexact⟩ :=
      readsAs_pointedText hlead hascii place start rest negative hrest
    rw [← digitsValue_eq, ← hexact] at hround
    rw [hdigits, hread, Binary64.ofDecimal_of_roundsTo negative hpos h hround]

example : (Binary64.ofDecimal false 1 (-1)).finite?.map Finite.text = some ['0', '.', '1'] := by
  decide +kernel

/-! ## Signs -/

theorem exists_digit_of_number {cs : List Char} {r : Number × List Char}
    (h : number start negative cs = .ok r) : ∃ c tail, cs = c :: tail ∧ isAsciiDigit c = true := by
  cases cs with
  | nil => cases h
  | cons c tail =>
    refine ⟨c, tail, rfl, ?_⟩
    by_contra hdigit
    have hzero : c ≠ '0' := by
      rintro rfl
      exact hdigit rfl
    rw [number, wholePart?, if_neg hzero, if_neg hdigit] at h
    cases h

theorem signedNumber_of_digit {c : Char} (h : isAsciiDigit c = true) (tail : List Char) :
    signedNumber (c :: tail) = number (c :: tail) false (c :: tail) := by
  have hne {d : Char} (hd : isAsciiDigit d = false) : c ≠ d := by
    rintro rfl
    rw [hd] at h
    cases h
  unfold signedNumber
  split
  · next heq => exact absurd (List.cons.inj heq).1 (hne rfl)
  · next heq => exact absurd (List.cons.inj heq).1 (hne rfl)
  · next heq => exact absurd (List.cons.inj heq).1 (hne rfl)
  · next heq => exact absurd (List.cons.inj heq).1 (hne rfl)
  · rfl

theorem signedNumber_of_number {cs : List Char} {r : Number × List Char}
    (h : number cs false cs = .ok r) : signedNumber cs = .ok r := by
  obtain ⟨c, tail, rfl, hdigit⟩ := exists_digit_of_number h
  rw [signedNumber_of_digit hdigit, h]

theorem signedNumber_of_negative {cs : List Char} {r : Number × List Char}
    (h : number ('-' :: cs) true cs = .ok r) : signedNumber ('-' :: cs) = .ok r := by
  obtain ⟨c, tail, rfl, hdigit⟩ := exists_digit_of_number h
  have hne : c ≠ 'I' := by
    rintro rfl
    cases hdigit
  unfold signedNumber
  split
  · next heq => exact absurd (List.cons.inj (List.cons.inj heq).2).1 hne
  · next heq =>
    obtain rfl := (List.cons.inj heq).2
    exact h
  · next heq => cases (List.cons.inj heq).1
  · next heq => cases (List.cons.inj heq).1
  · next hminus _ _ => exact absurd rfl (hminus (c :: tail))

/-- Every number is read back from its text. -/
theorem signedNumber_numberText {n : Number} (h : n.Readable) (hrest : EndsNumber rest) :
    signedNumber (numberText n ++ rest) = .ok (n, rest) := by
  have hvalue (k : Nat) : digitsValue (Nat.toDigits 10 k) = k :=
    (digitsValue_eq _).trans Nat.ofDigitChars_ten_toDigits
  match n, h with
  | .whole k, h =>
    change signedNumber (Number.wholeText k ++ rest) = _
    have hwhole (start : List Char) (negative : Bool) :
        number start negative (Nat.toDigits 10 k.natAbs ++ rest) =
          .ok (.whole (if negative then -(k.natAbs : Int) else k.natAbs), rest) := by
      rw [number_whole (isWhole_toDigits _) h hrest, hvalue]
    rw [Number.wholeText]
    split_ifs with hsign
    · have habs : -(k.natAbs : Int) = k := by omega
      have hread := signedNumber_of_negative (hwhole _ true)
      rw [if_pos rfl, habs] at hread
      exact hread
    · have habs : (k.natAbs : Int) = k := by omega
      have hread := signedNumber_of_number (hwhole _ false)
      rw [if_neg Bool.false_ne_true, habs] at hread
      exact hread
  | .binary (.finite x), _ =>
    change signedNumber ((if x.negative then '-' :: magnitudeText x.rank
      else magnitudeText x.rank) ++ rest) = _
    obtain ⟨negative, rank, hrank⟩ := x
    cases negative with
    | false => exact signedNumber_of_number (number_magnitudeText hrank hrest)
    | true => exact signedNumber_of_negative (number_magnitudeText hrank hrest)
  | .binary (.infinite true), _ => rfl
  | .binary (.infinite false), _ => rfl
  | .binary .nan, _ => rfl

end Json

end FlowBoard
