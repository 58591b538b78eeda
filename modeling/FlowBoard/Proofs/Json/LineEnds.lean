import FlowBoard.Proofs.Json.Reread
import FlowBoard.Proofs.Json.Spelling
import FlowBoard.Proofs.Json.StandIns

/-!
# JSON with the same lines

Texts with the same lines are read as the same value: line ends stand between values only, where
white space is passed over. What is read and what remains are read in step, down to the fuel: the
other text needs what its own length asks for.
-/

namespace FlowBoard.Json

open Text (SameLines InStep StandIns isLineEnd isLineEnd_of_any eq_of_isLineEnd
  exists_of_map_eq_ok)

variable {lone : StandIns} {cs ds rest : List Char}

theorem sameLines_skipSpace (h : SameLines cs ds) : SameLines (skipSpace cs) (skipSpace ds) := by
  refine h.dropWhile_of_passes fun c hc => ?_
  rcases eq_of_isLineEnd hc with rfl | rfl <;> rfl

theorem length_skipSpace_le (cs : List Char) : (skipSpace cs).length ≤ cs.length :=
  (List.dropWhile_sublist _).length_le

/-! ## Numbers -/

/-- Parts of two texts are equal, and the same lines remain. -/
structure PartsInStep {α : Type} (bound : Nat) (p q : α × List Char) : Prop where
  part : p.1 = q.1
  remain : SameLines p.2 q.2
  length : q.2.length ≤ bound

theorem asciiDigits_inStep (h : SameLines cs ds) :
    PartsInStep ds.length (asciiDigits cs) (asciiDigits ds) := by
  have hstops : ∀ c, isLineEnd c = true → isAsciiDigit c = false := by
    intro c hc
    rcases eq_of_isLineEnd hc with rfl | rfl <;> rfl
  exact ⟨h.takeWhile_eq hstops, h.dropWhile_of_stops hstops, (List.dropWhile_sublist _).length_le⟩

theorem isLineEnd_of_isAsciiDigit {c : Char} (h : isAsciiDigit c = true) : isLineEnd c = false := by
  cases hc : isLineEnd c with
  | false => rfl
  | true => rcases eq_of_isLineEnd hc with rfl | rfl <;> cases h

theorem wholePart?_eq_some {whole : List Char} (h : SameLines cs ds)
    (hread : wholePart? cs = some (whole, rest)) :
    ∃ rest', wholePart? ds = some (whole, rest') ∧ SameLines rest rest' ∧
      rest'.length < ds.length := by
  cases cs with
  | nil => cases hread
  | cons c cs =>
    rw [wholePart?] at hread
    split_ifs at hread with hzero hdigit
    · obtain ⟨rfl, rfl⟩ := Prod.mk.inj (Option.some.inj hread)
      obtain ⟨ds', rfl, hrest⟩ := h.of_cons (by rw [hzero]; rfl)
      exact ⟨ds', by rw [wholePart?, if_pos hzero], hrest, Nat.lt_succ_self _⟩
    · have hparts := asciiDigits_inStep h
      obtain ⟨ds', rfl, -⟩ := h.of_cons (isLineEnd_of_isAsciiDigit hdigit)
      rw [Option.some.inj hread] at hparts
      refine ⟨(asciiDigits (c :: ds')).2, ?_, hparts.remain, ?_⟩
      · rw [wholePart?, if_neg hzero, if_pos hdigit]
        exact congrArg some (Prod.ext hparts.part.symm rfl)
      · rw [asciiDigits, List.dropWhile_cons_of_pos hdigit]
        exact Nat.lt_succ_of_le (List.dropWhile_sublist _).length_le

theorem fractionPart_inStep (h : SameLines cs ds) :
    PartsInStep ds.length (fractionPart cs) (fractionPart ds) := by
  by_cases hpoint : cs.head? = some '.'
  · obtain ⟨cs, rfl⟩ := List.head?_eq_some_iff.mp hpoint
    obtain ⟨ds', rfl, hrest⟩ := h.of_cons rfl
    have hdigits := asciiDigits_inStep hrest
    rw [fractionPart, fractionPart, hdigits.part]
    split_ifs
    · exact ⟨rfl, h, Nat.le_refl _⟩
    · exact ⟨hdigits.part, hdigits.remain, Nat.le_succ_of_le hdigits.length⟩
  · rw [fractionPart_of_ne (by rintro c hc rfl; exact hpoint hc),
      fractionPart_of_ne (by
        rintro c hc rfl
        exact hpoint ((h.head?_eq_some_iff rfl).mpr hc))]
    exact ⟨rfl, h, Nat.le_refl _⟩

/-- The sign of an exponent, and what follows. -/
def exponentSign (cs : List Char) : Bool × List Char :=
  match cs with
  | '-' :: body => (true, body)
  | '+' :: body => (false, body)
  | _ => (false, cs)

theorem exponentSign_of_ne (hminus : cs.head? ≠ some '-') (hplus : cs.head? ≠ some '+') :
    exponentSign cs = (false, cs) := by
  unfold exponentSign
  split
  · exact absurd rfl hminus
  · exact absurd rfl hplus
  · rfl

theorem exponentSign_inStep (h : SameLines cs ds) :
    PartsInStep ds.length (exponentSign cs) (exponentSign ds) := by
  by_cases hminus : cs.head? = some '-'
  · obtain ⟨cs, rfl⟩ := List.head?_eq_some_iff.mp hminus
    obtain ⟨ds', rfl, hrest⟩ := h.of_cons rfl
    exact ⟨rfl, hrest, Nat.le_succ _⟩
  by_cases hplus : cs.head? = some '+'
  · obtain ⟨cs, rfl⟩ := List.head?_eq_some_iff.mp hplus
    obtain ⟨ds', rfl, hrest⟩ := h.of_cons rfl
    exact ⟨rfl, hrest, Nat.le_succ _⟩
  · rw [exponentSign_of_ne hminus hplus,
      exponentSign_of_ne ((h.head?_eq_some_iff rfl).not.mp hminus)
        ((h.head?_eq_some_iff rfl).not.mp hplus)]
    exact ⟨rfl, h, Nat.le_refl _⟩

theorem exponentPart_cons {c : Char} (hc : c = 'e' ∨ c = 'E') (cs : List Char) :
    exponentPart (c :: cs) =
      if (asciiDigits (exponentSign cs).2).1.isEmpty then (none, c :: cs)
      else (some (if (exponentSign cs).1 then
        -(digitsValue (asciiDigits (exponentSign cs).2).1 : Int)
        else digitsValue (asciiDigits (exponentSign cs).2).1),
        (asciiDigits (exponentSign cs).2).2) := by
  have hexponent : (decide (c = 'e') || decide (c = 'E')) = true := by simpa using hc
  by_cases hminus : cs.head? = some '-'
  · obtain ⟨cs, rfl⟩ := List.head?_eq_some_iff.mp hminus
    rw [exponentPart, if_pos hexponent]
    rfl
  by_cases hplus : cs.head? = some '+'
  · obtain ⟨cs, rfl⟩ := List.head?_eq_some_iff.mp hplus
    rw [exponentPart, if_pos hexponent]
    rfl
  · rw [exponentSign_of_ne hminus hplus]
    unfold exponentPart
    simp only [hexponent, if_true]
    split
    · exact absurd rfl hminus
    · exact absurd rfl hplus
    · rfl

theorem exponentPart_inStep (h : SameLines cs ds) :
    PartsInStep ds.length (exponentPart cs) (exponentPart ds) := by
  by_cases hmark : ∃ c, cs.head? = some c ∧ (c = 'e' ∨ c = 'E')
  · obtain ⟨c, hhead, hc⟩ := hmark
    obtain ⟨tail, rfl⟩ := List.head?_eq_some_iff.mp hhead
    obtain ⟨ds', rfl, hrest⟩ := h.of_cons (by rcases hc with rfl | rfl <;> rfl)
    have hsign := exponentSign_inStep hrest
    have hdigits := asciiDigits_inStep hsign.remain
    have hlength := hdigits.length.trans hsign.length
    rw [exponentPart_cons hc, exponentPart_cons hc, hdigits.part, hsign.part]
    split_ifs
    · exact ⟨rfl, h, Nat.le_refl _⟩
    · exact ⟨rfl, hdigits.remain, Nat.le_succ_of_le hlength⟩
    · exact ⟨rfl, hdigits.remain, Nat.le_succ_of_le hlength⟩
  · have hnone : ∀ c ∈ cs.head?, c ≠ 'e' ∧ c ≠ 'E' := by
      intro c hc
      exact not_or.mp fun hmarked => hmark ⟨c, hc, hmarked⟩
    have hnone' : ∀ c ∈ ds.head?, c ≠ 'e' ∧ c ≠ 'E' := by
      intro c hc
      constructor
      · rintro rfl
        exact (hnone 'e' ((h.head?_eq_some_iff rfl).mpr hc)).1 rfl
      · rintro rfl
        exact (hnone 'E' ((h.head?_eq_some_iff rfl).mpr hc)).2 rfl
    rw [exponentPart_of_ne hnone, exponentPart_of_ne hnone']
    exact ⟨rfl, h, Nat.le_refl _⟩

theorem number_inStep (start start' : List Char) (negative : Bool) (h : SameLines cs ds) :
    InStep Eq ds.length (number start negative cs) (number start' negative ds) := by
  cases hwhole : wholePart? cs with
  | none =>
    rw [number, hwhole]
    exact .error _
  | some r =>
    obtain ⟨rest', hwhole', hrest, hlength⟩ := wholePart?_eq_some h hwhole
    have hfraction := fractionPart_inStep hrest
    have hexponent := exponentPart_inStep hfraction.remain
    have hshort := hexponent.length.trans hfraction.length
    have hbound := Nat.lt_of_le_of_lt hshort hlength
    simp only [number, hwhole, hwhole', hfraction.part, hexponent.part]
    split_ifs
    · exact .error _
    · exact .ok rfl hexponent.remain hbound
    · exact .ok rfl hexponent.remain hbound
    · exact .ok rfl hexponent.remain hbound

/-- A word without line ends is read alike wherever it stands. -/
theorem inStep_word {α ε : Type} (read : List Char → Except ε (α × List Char)) {a : α}
    (word : List Char) (hplain : word.any isLineEnd = false) (hne : word ≠ [])
    (hread : ∀ rest, read (word ++ rest) = .ok (a, rest)) (h : SameLines (word ++ rest) ds) :
    ∃ a' rest', read ds = .ok (a', rest') ∧ a = a' ∧ SameLines rest rest' ∧
      rest'.length < ds.length := by
  obtain ⟨rest', rfl, hrest⟩ := h.of_append (isLineEnd_of_any hplain)
  refine ⟨a, rest', hread rest', rfl, hrest, ?_⟩
  rw [List.length_append]
  have hpos := List.length_pos_of_ne_nil hne
  omega

theorem signedNumber_inStep (h : SameLines cs ds) :
    InStep Eq ds.length (signedNumber cs) (signedNumber ds) := by
  intro n rest hread
  unfold signedNumber at hread
  split at hread
  · obtain ⟨rfl, rfl⟩ := Prod.mk.inj (Except.ok.inj hread)
    exact inStep_word signedNumber "-Infinity".toList (by decide) (by decide) (fun _ => rfl) h
  · obtain ⟨ds', rfl, hrest⟩ := h.of_cons rfl
    obtain ⟨n', rest', hread', hn, hlines, hlength⟩ := number_inStep _ _ true hrest n rest hread
    exact ⟨n', rest', signedNumber_of_negative hread', hn, hlines, Nat.lt_succ_of_lt hlength⟩
  · obtain ⟨rfl, rfl⟩ := Prod.mk.inj (Except.ok.inj hread)
    exact inStep_word signedNumber "Infinity".toList (by decide) (by decide) (fun _ => rfl) h
  · obtain ⟨rfl, rfl⟩ := Prod.mk.inj (Except.ok.inj hread)
    exact inStep_word signedNumber "NaN".toList (by decide) (by decide) (fun _ => rfl) h
  · obtain ⟨n', rest', hread', hn, hlines, hlength⟩ := number_inStep _ _ false h n rest hread
    exact ⟨n', rest', signedNumber_of_number hread', hn, hlines, hlength⟩

/-! ## Values -/

theorem skipSpace_of_mark {c : Char} {tail : List Char} (hc : isLineEnd c = false)
    (h : SameLines cs ds) (hmark : skipSpace cs = c :: tail) :
    ∃ tail', skipSpace ds = c :: tail' ∧ SameLines tail tail' ∧ tail'.length < ds.length := by
  have hlines := sameLines_skipSpace h
  rw [hmark] at hlines
  obtain ⟨tail', htail', hrest⟩ := hlines.of_cons hc
  have hlength := length_skipSpace_le ds
  rw [htail', List.length_cons] at hlength
  exact ⟨tail', htail', hrest, hlength⟩

/-- Values of texts with the same lines are read in step, with the fuel that the other needs. -/
def ValuesInStep (lone : StandIns) (fuel : Nat) : Prop :=
  ∀ cs ds fuel', SameLines cs ds → 2 * ds.length + 1 ≤ fuel' →
    InStep Eq ds.length (value lone fuel cs) (value lone fuel' ds)

def ItemsInStep (lone : StandIns) (fuel : Nat) : Prop :=
  ∀ cs ds fuel', SameLines cs ds → 2 * ds.length + 2 ≤ fuel' →
    InStep Eq ds.length (items lone fuel cs) (items lone fuel' ds)

def MembersInStep (lone : StandIns) (fuel : Nat) : Prop :=
  ∀ fields cs ds fuel', SameLines cs ds → 2 * ds.length + 2 ≤ fuel' →
    InStep Eq ds.length (members lone fuel fields cs) (members lone fuel' fields ds)

/-- The ways in which the items of an array are read. -/
theorem items_succ_eq_ok_iff {fuel : Nat} {vs : List Json} {after : List Char} :
    items lone (fuel + 1) cs = .ok (vs, after) ↔ ∃ item rest,
      value lone fuel cs = .ok (item, rest) ∧
      (skipSpace rest = ']' :: after ∧ vs = [item] ∨
        ∃ tail others, skipSpace rest = ',' :: tail ∧
          items lone fuel (skipSpace tail) = .ok (others, after) ∧ vs = item :: others) := by
  constructor
  · intro hread
    rw [items] at hread
    cases hfirst : value lone fuel cs with
    | error e =>
      rw [hfirst] at hread
      cases hread
    | ok r =>
      obtain ⟨item, rest⟩ := r
      rw [hfirst] at hread
      refine ⟨item, rest, rfl, ?_⟩
      simp only at hread
      split at hread
      · next tail hmark =>
        obtain ⟨rfl, rfl⟩ := Prod.mk.inj (Except.ok.inj hread)
        exact .inl ⟨hmark, rfl⟩
      · next tail hmark =>
        obtain ⟨⟨others, after⟩, hothers, heq⟩ := exists_of_map_eq_ok hread
        obtain ⟨rfl, rfl⟩ := Prod.mk.inj heq
        exact .inr ⟨tail, others, hmark, hothers, rfl⟩
      · cases hread
  · rintro ⟨item, rest, hfirst, ⟨hmark, rfl⟩ | ⟨tail, others, hmark, hothers, rfl⟩⟩
    · simp only [items, hfirst, hmark]
    · simp only [items, hfirst, hmark, hothers]
      rfl

theorem itemsInStep_succ {fuel : Nat} (hvalue : ValuesInStep lone fuel)
    (hitems : ItemsInStep lone fuel) : ItemsInStep lone (fuel + 1) := by
  intro cs ds fuel' h hfuel vs after hread
  obtain ⟨fuel', rfl⟩ := Nat.exists_eq_add_one_of_ne_zero (by omega : fuel' ≠ 0)
  obtain ⟨item, rest, hfirst, hmore⟩ := items_succ_eq_ok_iff.mp hread
  obtain ⟨_, rest', hfirst', rfl, hrest, hlength⟩ :=
    hvalue cs ds fuel' h (by omega) item rest hfirst
  rcases hmore with ⟨hmark, rfl⟩ | ⟨tail, others, hmark, hothers, rfl⟩
  · obtain ⟨after', hmark', hafter, hshort⟩ := skipSpace_of_mark rfl hrest hmark
    exact ⟨_, after', items_succ_eq_ok_iff.mpr ⟨item, rest', hfirst', .inl ⟨hmark', rfl⟩⟩, rfl,
      hafter, by omega⟩
  · obtain ⟨tail', hmark', htail, hshort⟩ := skipSpace_of_mark rfl hrest hmark
    have hskip := length_skipSpace_le tail'
    obtain ⟨_, after', hothers', rfl, hafter, hlast⟩ :=
      hitems _ _ fuel' (sameLines_skipSpace htail) (by omega) others after hothers
    exact ⟨_, after', items_succ_eq_ok_iff.mpr
      ⟨item, rest', hfirst', .inr ⟨tail', others, hmark', hothers', rfl⟩⟩, rfl, hafter, by omega⟩

/-- The ways in which the members of an object are read. -/
theorem members_succ_eq_ok_iff {fuel : Nat} {fields fs : Fields} {after : List Char} :
    members lone (fuel + 1) fields cs = .ok (fs, after) ↔
      ∃ opened key keyed valued item rest, cs = '"' :: opened ∧
        stringBody lone cs opened = .ok (key, keyed) ∧ skipSpace keyed = ':' :: valued ∧
        value lone fuel (skipSpace valued) = .ok (item, rest) ∧
        (skipSpace rest = '\x7d' :: after ∧ fs = Keyed.put (String.ofList key) item fields ∨
          ∃ tail, skipSpace rest = ',' :: tail ∧
            members lone fuel (Keyed.put (String.ofList key) item fields) (skipSpace tail) =
              .ok (fs, after)) := by
  constructor
  · intro hread
    unfold members at hread
    split at hread
    · next opened =>
      cases hkey : stringBody lone ('"' :: opened) opened with
      | error e =>
        rw [hkey] at hread
        cases hread
      | ok r =>
        obtain ⟨key, keyed⟩ := r
        rw [hkey] at hread
        simp only at hread
        split at hread
        · next valued hcolon =>
          cases hitem : value lone fuel (skipSpace valued) with
          | error e =>
            rw [hitem] at hread
            cases hread
          | ok r =>
            obtain ⟨item, rest⟩ := r
            rw [hitem] at hread
            refine ⟨opened, key, keyed, valued, item, rest, rfl, hkey, hcolon, hitem, ?_⟩
            simp only at hread
            split at hread
            · next tail hmark =>
              obtain ⟨rfl, rfl⟩ := Prod.mk.inj (Except.ok.inj hread)
              exact .inl ⟨hmark, rfl⟩
            · next tail hmark => exact .inr ⟨tail, hmark, hread⟩
            · cases hread
        · cases hread
    · cases hread
  · rintro ⟨opened, key, keyed, valued, item, rest, rfl, hkey, hcolon, hitem,
      ⟨hmark, rfl⟩ | ⟨tail, hmark, hmore⟩⟩
    · simp only [members, hkey, hcolon, hitem, hmark]
    · simp only [members, hkey, hcolon, hitem, hmark, hmore]

theorem membersInStep_succ {fuel : Nat} (hvalue : ValuesInStep lone fuel)
    (hmembers : MembersInStep lone fuel) : MembersInStep lone (fuel + 1) := by
  intro fields cs ds fuel' h hfuel fs after hread
  obtain ⟨fuel', rfl⟩ := Nat.exists_eq_add_one_of_ne_zero (by omega : fuel' ≠ 0)
  obtain ⟨opened, key, keyed, valued, item, rest, rfl, hkey, hcolon, hitem, hmore⟩ :=
    members_succ_eq_ok_iff.mp hread
  obtain ⟨opened', rfl, hopened⟩ := h.of_cons rfl
  rw [List.length_cons] at hfuel ⊢
  obtain ⟨_, keyed', hkey', rfl, hkeyed, hkeyLength⟩ :=
    stringBody_inStep _ ('"' :: opened') hopened key keyed hkey
  obtain ⟨valued', hcolon', hvalued, hcolonLength⟩ := skipSpace_of_mark rfl hkeyed hcolon
  have hvaluedLength := length_skipSpace_le valued'
  obtain ⟨_, rest', hitem', rfl, hrest, hlength⟩ :=
    hvalue _ _ fuel' (sameLines_skipSpace hvalued) (by omega) item rest hitem
  rcases hmore with ⟨hmark, rfl⟩ | ⟨tail, hmark, hmore⟩
  · obtain ⟨after', hmark', hafter, hshort⟩ := skipSpace_of_mark rfl hrest hmark
    refine ⟨_, after', members_succ_eq_ok_iff.mpr ?_, rfl, hafter, by omega⟩
    exact ⟨opened', key, keyed', valued', item, rest', rfl, hkey', hcolon', hitem',
      .inl ⟨hmark', rfl⟩⟩
  · obtain ⟨tail', hmark', htail, hshort⟩ := skipSpace_of_mark rfl hrest hmark
    have hskip := length_skipSpace_le tail'
    obtain ⟨_, after', hmore', rfl, hafter, hlast⟩ :=
      hmembers _ _ _ fuel' (sameLines_skipSpace htail) (by omega) fs after hmore
    refine ⟨_, after', members_succ_eq_ok_iff.mpr ?_, rfl, hafter, by omega⟩
    exact ⟨opened', key, keyed', valued', item, rest', rfl, hkey', hcolon', hitem',
      .inr ⟨tail', hmark', hmore'⟩⟩

/-- A mark that does not stand at the front of the one text does not of the other. -/
theorem head?_skipSpace_ne {c : Char} (hc : isLineEnd c = false) (h : SameLines cs ds)
    (hmark : ∀ tail, skipSpace cs = c :: tail → False) : ∀ d ∈ (skipSpace ds).head?, d ≠ c := by
  rintro d hhead rfl
  obtain ⟨tail, htail⟩ := List.head?_eq_some_iff.mp
    (((sameLines_skipSpace h).head?_eq_some_iff hc).mpr hhead)
  exact hmark tail htail

theorem brace_inStep {fuel fuel' : Nat} (hmembers : MembersInStep lone fuel) (h : SameLines cs ds)
    (hfuel : 2 * ds.length + 2 ≤ fuel') :
    InStep Eq (ds.length + 1) (value lone (fuel + 1) ('\x7b' :: cs))
      (value lone (fuel' + 1) ('\x7b' :: ds)) := by
  intro v after hread
  rw [value] at hread
  split at hread
  · next tail hmark =>
    obtain ⟨rfl, rfl⟩ := Prod.mk.inj (Except.ok.inj hread)
    obtain ⟨tail', hmark', htail, hshort⟩ := skipSpace_of_mark rfl h hmark
    refine ⟨_, tail', ?_, rfl, htail, by omega⟩
    simp only [value, hmark']
  · next hmark =>
    obtain ⟨⟨fs, after⟩, hfs, heq⟩ := exists_of_map_eq_ok hread
    obtain ⟨rfl, rfl⟩ := Prod.mk.inj heq
    have hskip := length_skipSpace_le ds
    obtain ⟨_, after', hfs', rfl, hafter, hlength⟩ :=
      hmembers [] _ _ fuel' (sameLines_skipSpace h) (by omega) fs after hfs
    have hmark' := head?_skipSpace_ne rfl h hmark
    exact ⟨_, after', value_brace hmark' hfs', rfl, hafter, by omega⟩

theorem bracket_inStep {fuel fuel' : Nat} (hitems : ItemsInStep lone fuel) (h : SameLines cs ds)
    (hfuel : 2 * ds.length + 2 ≤ fuel') :
    InStep Eq (ds.length + 1) (value lone (fuel + 1) ('[' :: cs))
      (value lone (fuel' + 1) ('[' :: ds)) := by
  intro v after hread
  rw [value] at hread
  split at hread
  · next tail hmark =>
    obtain ⟨rfl, rfl⟩ := Prod.mk.inj (Except.ok.inj hread)
    obtain ⟨tail', hmark', htail, hshort⟩ := skipSpace_of_mark rfl h hmark
    refine ⟨_, tail', ?_, rfl, htail, by omega⟩
    simp only [value, hmark']
  · next hmark =>
    obtain ⟨⟨vs, after⟩, hvs, heq⟩ := exists_of_map_eq_ok hread
    obtain ⟨rfl, rfl⟩ := Prod.mk.inj heq
    have hskip := length_skipSpace_le ds
    obtain ⟨_, after', hvs', rfl, hafter, hlength⟩ :=
      hitems _ _ fuel' (sameLines_skipSpace h) (by omega) vs after hvs
    have hmark' := head?_skipSpace_ne rfl h hmark
    exact ⟨_, after', value_bracket hmark' hvs', rfl, hafter, by omega⟩

theorem valuesInStep_succ {fuel : Nat} (hitems : ItemsInStep lone fuel)
    (hmembers : MembersInStep lone fuel) : ValuesInStep lone (fuel + 1) := by
  intro cs ds fuel' h hfuel v after hread
  obtain ⟨fuel', rfl⟩ := Nat.exists_eq_add_one_of_ne_zero (by omega : fuel' ≠ 0)
  -- The case is that of the text whose value was read; the other text starts alike.
  have hcase := hread
  unfold value at hcase
  split at hcase
  · next opened =>
    obtain ⟨⟨t, after⟩, ht, heq⟩ := exists_of_map_eq_ok hcase
    obtain ⟨rfl, rfl⟩ := Prod.mk.inj heq
    obtain ⟨opened', rfl, hopened⟩ := h.of_cons rfl
    obtain ⟨_, after', ht', rfl, hafter, hlength⟩ :=
      stringBody_inStep _ ('"' :: opened') hopened t after ht
    refine ⟨_, after', ?_, rfl, hafter, Nat.lt_succ_of_lt hlength⟩
    simp only [value, ht']
    rfl
  · next opened =>
    obtain ⟨opened', rfl, hopened⟩ := h.of_cons rfl
    rw [List.length_cons] at hfuel
    exact brace_inStep hmembers hopened (by omega) v after hread
  · next opened =>
    obtain ⟨opened', rfl, hopened⟩ := h.of_cons rfl
    rw [List.length_cons] at hfuel
    exact bracket_inStep hitems hopened (by omega) v after hread
  · obtain ⟨rfl, rfl⟩ := Prod.mk.inj (Except.ok.inj hcase)
    exact inStep_word (value lone (fuel' + 1)) "null".toList (by decide) (by decide)
      (fun _ => rfl) h
  · obtain ⟨rfl, rfl⟩ := Prod.mk.inj (Except.ok.inj hcase)
    exact inStep_word (value lone (fuel' + 1)) "true".toList (by decide) (by decide)
      (fun _ => rfl) h
  · obtain ⟨rfl, rfl⟩ := Prod.mk.inj (Except.ok.inj hcase)
    exact inStep_word (value lone (fuel' + 1)) "false".toList (by decide) (by decide)
      (fun _ => rfl) h
  · obtain ⟨⟨n, after⟩, hn, heq⟩ := exists_of_map_eq_ok hcase
    obtain ⟨rfl, rfl⟩ := Prod.mk.inj heq
    obtain ⟨_, after', hn', rfl, hlines⟩ := signedNumber_inStep h n after hn
    exact ⟨_, after', value_of_signedNumber hn' fuel', rfl, hlines⟩

theorem inStep_all (lone : StandIns) (fuel : Nat) :
    ValuesInStep lone fuel ∧ ItemsInStep lone fuel ∧ MembersInStep lone fuel := by
  induction fuel with
  | zero =>
    exact ⟨fun _ _ _ _ _ => .error _, fun _ _ _ _ _ => .error _, fun _ _ _ _ _ _ => .error _⟩
  | succ fuel ih =>
    obtain ⟨hvalue, hitems, hmembers⟩ := ih
    exact ⟨valuesInStep_succ hitems hmembers, itemsInStep_succ hvalue hitems,
      membersInStep_succ hvalue hmembers⟩

/-- A value is read alike from texts with the same lines. -/
theorem readWith_eq_ok {v : Json} (h : SameLines cs ds) (hread : readWith lone cs = .ok v) :
    readWith lone ds = .ok v := by
  rw [readWith] at hread
  cases hvalue : value lone (2 * cs.length + 2) (skipSpace cs) with
  | error e =>
    rw [hvalue] at hread
    cases hread
  | ok r =>
    obtain ⟨w, rest⟩ := r
    rw [hvalue] at hread
    have hskip := length_skipSpace_le ds
    obtain ⟨_, rest', hvalue', rfl, hrest, -⟩ := (inStep_all _ _).1 _ _ (2 * ds.length + 2)
      (sameLines_skipSpace h) (by omega) w rest hvalue
    simp only at hread
    split at hread
    · next hend =>
      have hend' := sameLines_skipSpace hrest
      rw [hend] at hend'
      rw [readWith, hvalue']
      simp only [hend'.eq_nil]
      exact hread
    · cases hread

theorem standIns_eq (h : SameLines cs ds) : standIns cs = standIns ds :=
  standInsFor_congr fun _ _ => ⟨readWith_eq_ok h, readWith_eq_ok h.symm⟩

theorem readDecoded_eq_ok {v : Json} (h : SameLines cs ds) (hread : readDecoded cs = .ok v) :
    readDecoded ds = .ok v := by
  rw [readDecoded, ← standIns_eq h]
  exact readWith_eq_ok h hread

theorem readChars_eq_ok {v : Json} (h : SameLines cs ds) (hread : readChars cs = .ok v) :
    readChars ds = .ok v := by
  rw [readChars] at hread
  split_ifs at hread with hmark
  have hmark' : ¬ (ds.head? == some (Char.ofNat 0xFEFF)) = true := by
    intro hhead
    exact hmark (beq_iff_eq.mpr ((h.head?_eq_some_iff (by decide)).mpr (beq_iff_eq.mp hhead)))
  rw [readChars, if_neg hmark']
  exact readDecoded_eq_ok h hread

end FlowBoard.Json
