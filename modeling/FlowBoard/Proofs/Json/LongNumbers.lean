import FlowBoard.Proofs.Json.LineEnds
import Mathlib.Data.List.Infix

/-!
# Numbers that are too long to read

A whole number with more digits than are read stops the reader wherever it stands as a value, and
its error is of another sort than that of a text that is no JSON. Such an error comes from nothing
else: every reader leaves an end of the characters that it was given, so the number that it names
stands in the text, digit by digit.
-/

namespace FlowBoard.Json

open Text (StandIns)

variable {lone : StandIns} {cs ds rest : List Char} {n : Nat}

/-! ## Whole numbers in a text -/

/-- The digits are a whole number where these characters follow: neither another digit nor a
fraction nor an exponent comes after them. -/
structure StandsWhole (ds rest : List Char) : Prop where
  whole : IsWhole ds
  ends : ∀ c ∈ rest.head?, isAsciiDigit c = false
  fraction : fractionPart rest = ([], rest)
  exponent : exponentPart rest = (none, rest)

/-- A whole number of `n` digits, which are more than are read, stands in a text. -/
def HasOverlong (n : Nat) (cs : List Char) : Prop :=
  Text.digitLimit < n ∧ ∃ ds rest, ds ++ rest <:+ cs ∧ ds.length = n ∧ StandsWhole ds rest

theorem HasOverlong.of_suffix (h : HasOverlong n ds) (hds : ds <:+ cs) : HasOverlong n cs := by
  obtain ⟨hlong, digits, rest, hsuffix, hlength, hstands⟩ := h
  exact ⟨hlong, digits, rest, hsuffix.trans hds, hlength, hstands⟩

theorem standsWhole_nil (h : IsWhole ds) : StandsWhole ds [] :=
  ⟨h, nofun, rfl, rfl⟩

/-! ## Parts of a number -/

theorem head?_asciiDigits (cs : List Char) :
    ∀ c ∈ (asciiDigits cs).2.head?, isAsciiDigit c = false := by
  intro c hc
  have hstop := List.head?_dropWhile_not isAsciiDigit cs
  rw [show (cs.dropWhile isAsciiDigit).head? = some c from hc] at hstop
  simpa using hstop

/-- The whole part is taken from the front; after a zero by itself another digit may stand. -/
theorem isWhole_of_wholePart? (h : wholePart? cs = some (ds, rest)) :
    cs = ds ++ rest ∧ IsWhole ds ∧ (ds = ['0'] ∨ ∀ c ∈ rest.head?, isAsciiDigit c = false) := by
  cases cs with
  | nil => cases h
  | cons c tail =>
    rw [wholePart?] at h
    split_ifs at h with hzero hdigit
    · obtain ⟨rfl, rfl⟩ := Prod.mk.inj (Option.some.inj h)
      subst hzero
      exact ⟨rfl, ⟨List.forall_mem_singleton.mpr rfl, .inl rfl⟩, .inl rfl⟩
    · have hends := head?_asciiDigits (c :: tail)
      rw [Option.some.inj h] at hends
      obtain ⟨hds, hrest⟩ := Prod.mk.inj (Option.some.inj h)
      have happend : ds ++ rest = c :: tail := by
        rw [← hds, ← hrest]
        exact List.takeWhile_append_dropWhile
      have hlead : c ∈ ds.head? := by
        rw [← hds, List.takeWhile_cons_of_pos hdigit]
        rfl
      refine ⟨happend.symm, ⟨?_, .inr ⟨c, hlead, hzero⟩⟩, .inr hends⟩
      intro d hd
      rw [← hds] at hd
      exact List.mem_takeWhile_imp hd

theorem fractionPart_suffix (cs : List Char) : (fractionPart cs).2 <:+ cs := by
  unfold fractionPart
  split
  · next tail =>
    split_ifs
    · exact List.suffix_rfl
    · exact (List.dropWhile_suffix _).trans (List.suffix_cons _ _)
  · exact List.suffix_rfl

theorem fractionPart_of_isEmpty (h : (fractionPart cs).1.isEmpty = true) :
    fractionPart cs = ([], cs) := by
  unfold fractionPart at h ⊢
  split at h
  · next tail =>
    split_ifs at h ⊢ with hempty
    · rfl
    · exact absurd h hempty
  · rfl

/-- Nothing is taken for the exponent, or digits are, after the letter and perhaps a sign. -/
theorem exponentPart_eq_or (cs : List Char) :
    exponentPart cs = (none, cs) ∨
      ∃ c tail e, cs = c :: tail ∧
        exponentPart cs = (some e, (asciiDigits (exponentSign tail).2).2) := by
  by_cases hmark : ∃ c, cs.head? = some c ∧ (c = 'e' ∨ c = 'E')
  · obtain ⟨c, hhead, hc⟩ := hmark
    obtain ⟨tail, rfl⟩ := List.head?_eq_some_iff.mp hhead
    rw [exponentPart_cons hc]
    split_ifs
    · exact .inl rfl
    · exact .inr ⟨c, tail, _, rfl, rfl⟩
    · exact .inr ⟨c, tail, _, rfl, rfl⟩
  · refine .inl (exponentPart_of_ne fun c hc => ?_)
    exact not_or.mp fun hmarked => hmark ⟨c, hc, hmarked⟩

theorem exponentSign_suffix (cs : List Char) : (exponentSign cs).2 <:+ cs := by
  unfold exponentSign
  split
  · exact List.suffix_cons _ _
  · exact List.suffix_cons _ _
  · exact List.suffix_rfl

theorem exponentPart_suffix (cs : List Char) : (exponentPart cs).2 <:+ cs := by
  rcases exponentPart_eq_or cs with hnone | ⟨c, tail, e, rfl, hsome⟩
  · rw [hnone]
  · rw [hsome]
    exact (List.dropWhile_suffix _).trans ((exponentSign_suffix tail).trans (List.suffix_cons _ _))

theorem exponentPart_of_isNone (h : (exponentPart cs).1.isNone = true) :
    exponentPart cs = (none, cs) := by
  rcases exponentPart_eq_or cs with hnone | ⟨c, tail, e, -, hsome⟩
  · exact hnone
  · rw [hsome] at h
    cases h

/-- A number is refused for its length if it stands as a whole number with too many digits. -/
theorem number_eq_tooLong_iff {start : List Char} {negative : Bool} :
    number start negative cs = .error (.numberTooLong n) ↔
      Text.digitLimit < n ∧ ∃ ds rest, cs = ds ++ rest ∧ ds.length = n ∧ StandsWhole ds rest := by
  constructor
  · intro h
    rw [number] at h
    cases hwhole : wholePart? cs with
    | none =>
      rw [hwhole] at h
      cases h
    | some r =>
      obtain ⟨ds, rest⟩ := r
      rw [hwhole] at h
      dsimp only at h
      split_ifs at h with hparts hlong
      obtain rfl := ReadError.numberTooLong.inj (Except.error.inj h)
      obtain ⟨hempty, hnone⟩ := Bool.and_eq_true_iff.mp hparts
      have hfraction := fractionPart_of_isEmpty hempty
      rw [hfraction] at hnone
      obtain ⟨happend, hds, hends⟩ := isWhole_of_wholePart? hwhole
      have hzero : ds ≠ ['0'] := by
        rintro rfl
        exact absurd hlong (by decide)
      exact ⟨hlong, ds, rest, happend, rfl, hds, hends.resolve_left hzero, hfraction,
        exponentPart_of_isNone hnone⟩
  · rintro ⟨hlong, ds, rest, rfl, rfl, hstands⟩
    rw [number, wholePart?_append hstands.whole hstands.ends]
    simp only [hstands.fraction, hstands.exponent]
    exact if_pos hlong

/-! ## What readers leave and find -/

/-- A reader leaves an end of the characters that it was given, and a number that it finds too long
stands in them. -/
structure Traced {α : Type} (cs : List Char) (r : Read α) : Prop where
  leaves : ∀ a rest, r = .ok (a, rest) → rest <:+ cs
  finds : ∀ n, r = .error (.numberTooLong n) → HasOverlong n cs

namespace Traced

variable {α β : Type} {r : Read α}

theorem ok {a : α} (h : rest <:+ cs) : Traced cs (.ok (a, rest) : Read α) := by
  refine ⟨?_, nofun⟩
  rintro _ _ ⟨⟩
  exact h

theorem malformed (fault : Fault) (left : Nat) :
    Traced cs (.error (.malformed fault left) : Read α) := ⟨nofun, nofun⟩

theorem of_suffix (h : Traced ds r) (hds : ds <:+ cs) : Traced cs r :=
  ⟨fun a rest hr => (h.leaves a rest hr).trans hds, fun n hr => (h.finds n hr).of_suffix hds⟩

theorem map (h : Traced cs r) {f : α × List Char → β × List Char} (hf : ∀ p, (f p).2 = p.2) :
    Traced cs (r.map f) := by
  cases r with
  | ok p =>
    obtain ⟨a, rest⟩ := p
    rw [show (Except.ok (a, rest) : Read α).map f = .ok ((f (a, rest)).1, rest) from
      congrArg Except.ok (Prod.ext rfl (hf (a, rest)))]
    exact .ok (h.leaves a rest rfl)
  | error e =>
    refine ⟨nofun, fun n hn => h.finds n ?_⟩
    rw [Except.error.inj hn]

/-- A reader that stops with the error of another stops where that one did. -/
theorem error {e : ReadError} (h : Traced cs r) (hr : r = .error e) :
    Traced cs (.error e : Read β) := by
  refine ⟨nofun, ?_⟩
  rintro n ⟨⟩
  exact h.finds n hr

end Traced

theorem skipSpace_suffix (cs : List Char) : skipSpace cs <:+ cs := List.dropWhile_suffix _

/-- A mark that comes next leaves an end of the characters. -/
theorem suffix_of_mark {c : Char} (hmark : skipSpace cs = c :: rest) : rest <:+ cs := by
  have hsuffix := skipSpace_suffix cs
  rw [hmark] at hsuffix
  exact (List.suffix_cons c rest).trans hsuffix

theorem stringBody_traced (lone : StandIns) (opening cs : List Char) :
    Traced cs (stringBody lone opening cs) := by
  fun_induction stringBody lone opening cs with
  | case1 => exact .malformed _ _
  | case2 tail => exact .ok (List.suffix_cons _ _)
  | case3 => exact .malformed _ _
  | case4 => exact .malformed _ _
  | case5 a b c d e f g k next tail first hfirst hhigh second hsecond hlow ih =>
    exact .of_suffix (.map ih fun _ => rfl) ⟨['\\', 'u', a, b, c, d, '\\', 'u', e, f, g, k], rfl⟩
  | case6 a b c d e f g k next tail first hfirst hhigh second hsecond hlow ih =>
    exact .of_suffix (.map ih fun _ => rfl) ⟨['\\', 'u', a, b, c, d], rfl⟩
  | case7 a b c d e f g k next tail first hfirst hhigh ih =>
    exact .of_suffix (.map ih fun _ => rfl) ⟨['\\', 'u', a, b, c, d], rfl⟩
  | case8 => exact .malformed _ _
  | case9 a b c d next tail hescape first hfirst ih =>
    exact .of_suffix (.map ih fun _ => rfl) ⟨['\\', 'u', a, b, c, d], rfl⟩
  | case10 => exact .malformed _ _
  | case11 => exact .malformed _ _
  | case12 => exact .malformed _ _
  | case13 c tail _ _ hc x hx ih =>
    exact .of_suffix (.map ih fun _ => rfl) ⟨['\\', c], rfl⟩
  | case14 => exact .malformed _ _
  | case15 c tail _ _ _ _ _ _ hc ih =>
    exact .of_suffix (.map ih fun _ => rfl) (List.suffix_cons c tail)

theorem number_traced (start : List Char) (negative : Bool) (cs : List Char) :
    Traced cs (number start negative cs) := by
  refine ⟨fun a rest h => ?_, fun n h => ?_⟩
  · rw [number] at h
    cases hwhole : wholePart? cs with
    | none =>
      rw [hwhole] at h
      cases h
    | some r =>
      obtain ⟨ds, tail⟩ := r
      rw [hwhole] at h
      have hsuffix : (exponentPart (fractionPart tail).2).2 <:+ cs := by
        rw [(isWhole_of_wholePart? hwhole).1]
        exact (exponentPart_suffix _).trans
          ((fractionPart_suffix tail).trans (List.suffix_append ds tail))
      dsimp only at h
      split_ifs at h
      all_goals
        obtain ⟨-, rfl⟩ := Prod.mk.inj (Except.ok.inj h)
        exact hsuffix
  · obtain ⟨hlong, ds, rest, rfl, hlength, hstands⟩ := number_eq_tooLong_iff.mp h
    exact ⟨hlong, ds, rest, List.suffix_rfl, hlength, hstands⟩

theorem signedNumber_traced (cs : List Char) : Traced cs (signedNumber cs) := by
  unfold signedNumber
  split
  · exact .ok (List.suffix_append "-Infinity".toList _)
  · exact (number_traced _ _ _).of_suffix (List.suffix_cons _ _)
  · exact .ok (List.suffix_append "Infinity".toList _)
  · exact .ok (List.suffix_append "NaN".toList _)
  · exact number_traced _ _ _

/-! ## Values -/

theorem items_traced_succ {fuel : Nat} (hvalue : ∀ cs, Traced cs (value lone fuel cs))
    (hitems : ∀ cs, Traced cs (items lone fuel cs)) (cs : List Char) :
    Traced cs (items lone (fuel + 1) cs) := by
  rw [items]
  have hfirst := hvalue cs
  split
  · next e herror => exact hfirst.error herror
  · next item rest hread =>
    have hrest := hfirst.leaves item rest hread
    split
    · next tail hmark => exact .ok ((suffix_of_mark hmark).trans hrest)
    · next tail hmark =>
      refine .of_suffix (.map (hitems (skipSpace tail)) fun _ => rfl) ?_
      exact (skipSpace_suffix tail).trans ((suffix_of_mark hmark).trans hrest)
    · exact .malformed _ _

theorem members_traced_succ {fuel : Nat} (hvalue : ∀ cs, Traced cs (value lone fuel cs))
    (hmembers : ∀ fields cs, Traced cs (members lone fuel fields cs)) (fields : Fields)
    (cs : List Char) : Traced cs (members lone (fuel + 1) fields cs) := by
  rw [members.eq_def]
  dsimp only
  split
  · next opened =>
    have hkey := (stringBody_traced lone ('"' :: opened) opened).of_suffix
      (List.suffix_cons '"' opened)
    split
    · next e herror => exact hkey.error herror
    · next key keyed hread =>
      have hkeyed := hkey.leaves key keyed hread
      split
      · next valued hcolon =>
        have hvalued := (skipSpace_suffix valued).trans ((suffix_of_mark hcolon).trans hkeyed)
        have hitem := (hvalue (skipSpace valued)).of_suffix hvalued
        split
        · next e herror => exact hitem.error herror
        · next item rest hread =>
          have hrest := hitem.leaves item rest hread
          split
          · next tail hmark => exact .ok ((suffix_of_mark hmark).trans hrest)
          · next tail hmark =>
            refine (hmembers _ (skipSpace tail)).of_suffix ?_
            exact (skipSpace_suffix tail).trans ((suffix_of_mark hmark).trans hrest)
          · exact .malformed _ _
      · exact .malformed _ _
  · exact .malformed _ _

theorem value_traced_succ {fuel : Nat} (hitems : ∀ cs, Traced cs (items lone fuel cs))
    (hmembers : ∀ fields cs, Traced cs (members lone fuel fields cs)) (cs : List Char) :
    Traced cs (value lone (fuel + 1) cs) := by
  unfold value
  split
  · next opened =>
    exact .of_suffix (.map (stringBody_traced lone _ opened) fun _ => rfl) (List.suffix_cons _ _)
  · next opened =>
    refine Traced.of_suffix ?_ (List.suffix_cons _ _)
    split
    · next tail hmark => exact .ok (suffix_of_mark hmark)
    · exact .of_suffix (.map (hmembers [] _) fun _ => rfl) (skipSpace_suffix opened)
  · next opened =>
    refine Traced.of_suffix ?_ (List.suffix_cons _ _)
    split
    · next tail hmark => exact .ok (suffix_of_mark hmark)
    · exact .of_suffix (.map (hitems _) fun _ => rfl) (skipSpace_suffix opened)
  · exact .ok (List.suffix_append "null".toList _)
  · exact .ok (List.suffix_append "true".toList _)
  · exact .ok (List.suffix_append "false".toList _)
  · exact (signedNumber_traced _).map fun _ => rfl

theorem traced_all (lone : StandIns) (fuel : Nat) :
    (∀ cs, Traced cs (value lone fuel cs)) ∧ (∀ cs, Traced cs (items lone fuel cs)) ∧
      ∀ fields cs, Traced cs (members lone fuel fields cs) := by
  induction fuel with
  | zero => exact ⟨fun _ => .malformed _ _, fun _ => .malformed _ _, fun _ _ => .malformed _ _⟩
  | succ fuel ih =>
    obtain ⟨hvalue, hitems, hmembers⟩ := ih
    exact ⟨value_traced_succ hitems hmembers, items_traced_succ hvalue hitems,
      members_traced_succ hvalue hmembers⟩

/-- A number that stopped the reader stands in the text. -/
theorem hasOverlong_of_readChars (h : readChars cs = .error (.numberTooLong n)) :
    HasOverlong n cs := by
  rw [readChars] at h
  split_ifs at h
  · cases h
  rw [readDecoded, readWith] at h
  have hvalue := (traced_all (standIns cs) (2 * cs.length + 2)).1 (skipSpace cs)
  split at h
  · next e herror =>
    obtain rfl := Except.error.inj h
    exact (hvalue.finds n herror).of_suffix (skipSpace_suffix cs)
  · split at h <;> cases h

/-! ## Texts of digits -/

/-- A text of too many digits is not read. -/
theorem readChars_of_digits (h : IsWhole ds) (hlong : Text.digitLimit < ds.length) :
    readChars ds = .error (.numberTooLong ds.length) := by
  have hnumber : number ds false ds = .error (.numberTooLong ds.length) :=
    number_eq_tooLong_iff.mpr
      ⟨hlong, ds, [], (List.append_nil ds).symm, rfl, standsWhole_nil h⟩
  obtain ⟨c, tail, rfl⟩ := List.exists_cons_of_length_pos (Nat.zero_lt_of_lt hlong)
  have hdigit : isAsciiDigit c = true := h.digits c List.mem_cons_self
  have hstart : startsNumber c = true := by
    rw [startsNumber, hdigit]
    rfl
  have hspace : isSpace c = false := by
    have hvalue := startsValue_of_startsNumber hstart
    rw [startsValue, Bool.and_eq_true, Bool.not_eq_true'] at hvalue
    exact hvalue.1
  have hmark : ¬ (c :: tail).head? == some (Char.ofNat 0xFEFF) := by
    intro hhead
    obtain rfl : c = Char.ofNat 0xFEFF := Option.some.inj (beq_iff_eq.mp hhead)
    exact absurd hdigit (by decide)
  rw [readChars, if_neg hmark, readDecoded, readWith, skipSpace_cons hspace,
    value_of_startsNumber hstart, signedNumber_of_digit hdigit, hnumber]
  rfl

end FlowBoard.Json
