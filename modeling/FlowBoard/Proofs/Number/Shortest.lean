import FlowBoard.Number.Decimal
import FlowBoard.Proofs.Number.Nearest
import Mathlib.Algebra.Order.Field.Power
import Mathlib.Data.Rat.Cast.Order
import Mathlib.Tactic.Linarith
import Mathlib.Tactic.LinearCombination

/-!
# Shortest numerals read back

Numerals that lie between the midpoints to the neighbours of a rank are rounded to that rank. The
grid of a power of ten has such a numeral wherever it is finer than the distance between the
midpoints, and with seventeen digits it always is. So the search for the shortest numeral ends with
one that reads back, whatever the rank.
-/

namespace FlowBoard

namespace Shortest

/-- A power of ten, in half units. -/
def step (exponent : Int) : ℚ := 10 ^ exponent * twoTo 1075

/-- The exact value of a numeral, in half units. -/
def halves (digits : Nat) (exponent : Int) : ℚ := digits * step exponent

/-- The midpoint to the rank below, in half units. -/
def low (rank : Nat) : Nat := unitsOfRank (rank - 1) + unitsOfRank rank

/-- The midpoint to the rank above, in half units. -/
def high (rank : Nat) : Nat := unitsOfRank rank + unitsOfRank (rank + 1)

/-- A value in half units rounds to the rank. -/
def RoundsTo (rank : Nat) (x : ℚ) : Prop :=
  if rank % 2 = 0 then (low rank : ℚ) ≤ x ∧ x ≤ high rank else (low rank : ℚ) < x ∧ x < high rank

/-! ## Numerals in half units -/

theorem step_pos (exponent : Int) : 0 < step exponent := by
  have hten : 0 < (10 : ℚ) ^ exponent := zpow_pos (by norm_num) exponent
  exact mul_pos hten (Nat.cast_pos.mpr (twoTo_pos 1075))

theorem halves_mul_tenTo (digits k : Nat) (exponent : Int) :
    halves (digits * 10 ^ k) exponent = halves digits (exponent + k) := by
  have hten : (10 : ℚ) ^ (exponent + k) = 10 ^ exponent * 10 ^ k := by
    rw [zpow_add₀ (by norm_num), zpow_natCast]
  rw [halves, halves, step, step, hten]
  push_cast
  ring

theorem halves_one (exponent : Int) : halves 1 exponent = step exponent := by
  rw [halves, Nat.cast_one, one_mul]

theorem halves_tenTo (k : Nat) (exponent : Int) :
    halves (10 ^ k) exponent = step (exponent + k) := by
  have h := halves_mul_tenTo 1 k exponent
  rwa [Nat.one_mul, halves_one] at h

theorem halves_mono {m n : Nat} (h : m ≤ n) (exponent : Int) :
    halves m exponent ≤ halves n exponent := by
  have hcast : (m : ℚ) ≤ n := by exact_mod_cast h
  exact mul_le_mul_of_nonneg_right hcast (step_pos exponent).le

theorem cast_tenTo (n : Nat) : (tenTo n : ℚ) = 10 ^ n := by
  change ((10 ^ n : Nat) : ℚ) = 10 ^ n
  push_cast
  rfl

theorem tenTo_pos (n : Nat) : 0 < tenTo n := Nat.pow_pos (by decide)

theorem halfUnits_eq (digits : Nat) (exponent : Int) :
    0 < (halfUnits digits exponent).2 ∧
      ((halfUnits digits exponent).1 : ℚ) =
        halves digits exponent * (halfUnits digits exponent).2 := by
  rw [halfUnits]
  split_ifs with hsign
  · have hten : (10 : ℚ) ^ exponent = 10 ^ exponent.toNat := by
      rw [← zpow_natCast, Int.toNat_of_nonneg hsign]
    refine ⟨Nat.one_pos, ?_⟩
    rw [halves, step, hten, Nat.cast_mul, Nat.cast_mul, cast_tenTo, Nat.cast_one]
    ring
  · have hten : (10 : ℚ) ^ exponent * 10 ^ (-exponent).toNat = 1 := by
      rw [← zpow_natCast, Int.toNat_of_nonneg (by omega), ← zpow_add₀ (by norm_num),
        add_neg_cancel, zpow_zero]
    refine ⟨tenTo_pos _, ?_⟩
    rw [halves, step, Nat.cast_mul, cast_tenTo]
    linear_combination (-(digits : ℚ) * twoTo 1075) * hten

theorem halfUnits_one_pos (exponent : Int) : 0 < (halfUnits 1 exponent).1 := by
  obtain ⟨hd, hn⟩ := halfUnits_eq 1 exponent
  have hstep := mul_pos (step_pos exponent) (Nat.cast_pos.mpr hd)
  rw [halves_one] at hn
  rw [← hn] at hstep
  exact_mod_cast hstep

theorem readsBack_iff {rank digits : Nat} {exponent : Int} :
    readsBack rank digits exponent = true ↔ RoundsTo rank (halves digits exponent) := by
  obtain ⟨hpos, hunits⟩ := halfUnits_eq digits exponent
  simp only [readsBack, RoundsTo, low, high]
  generalize halfUnits digits exponent = r at *
  obtain ⟨n, d⟩ := r
  have hd : (0 : ℚ) < d := by exact_mod_cast hpos
  have hle (a : Nat) : a * d ≤ n ↔ (a : ℚ) ≤ halves digits exponent := by
    rw [← mul_le_mul_iff_of_pos_right hd, ← hunits]
    exact_mod_cast Iff.rfl
  have hge (a : Nat) : n ≤ a * d ↔ halves digits exponent ≤ a := by
    rw [← mul_le_mul_iff_of_pos_right hd, ← hunits]
    exact_mod_cast Iff.rfl
  split_ifs
  · simp [hle, hge]
  · simp [← Nat.not_le, hle, hge]

/-! ## The rounding interval -/

variable {rank : Nat}

theorem low_lt_exact (h : 0 < rank) : low rank < 2 * unitsOfRank rank := by
  have hlt := unitsOfRank_strictMono (Nat.sub_lt h Nat.one_pos)
  rw [low]
  omega

theorem exact_lt_high (rank : Nat) : 2 * unitsOfRank rank < high rank := by
  have hlt := unitsOfRank_strictMono (Nat.lt_add_one rank)
  rw [high]
  omega

theorem RoundsTo.bounds {x : ℚ} (h : RoundsTo rank x) : (low rank : ℚ) ≤ x ∧ x ≤ high rank := by
  rw [RoundsTo] at h
  split_ifs at h
  · exact h
  · exact ⟨h.1.le, h.2.le⟩

theorem roundsTo_of_between {x : ℚ} (hlow : (low rank : ℚ) < x) (hhigh : x < high rank) :
    RoundsTo rank x := by
  rw [RoundsTo]
  split_ifs
  · exact ⟨hlow.le, hhigh.le⟩
  · exact ⟨hlow, hhigh⟩

theorem low_pos (h : 0 < rank) : 0 < low rank := by
  have hmono := unitsOfRank_strictMono h
  rw [low]
  omega

theorem pos_of_roundsTo {m : Nat} {e : Int} (hpos : 0 < rank) (h : RoundsTo rank (halves m e)) :
    0 < m := by
  refine Nat.pos_of_ne_zero ?_
  rintro rfl
  have hlow := h.bounds.1
  rw [halves, Nat.cast_zero, zero_mul] at hlow
  exact absurd (low_pos hpos) (by exact_mod_cast hlow.not_gt)

/-- Between the midpoints there is room for seventeen digits: next to a power of two, where the
rank below is nearer, the magnitude itself is small for its scale. -/
theorem exact_lt_gap (h : 0 < rank) : 2 * unitsOfRank rank < 10 ^ 16 * (high rank - low rank) := by
  have hT := twoTo_52
  obtain ⟨q, s, rfl, hq, hs⟩ := exists_scale rank
  have hnext : unitsOfRank (q + s * twoTo 52 + 1) = q * twoTo s + twoTo s := by
    rw [Nat.add_right_comm, unitsOfRank_add hq (by omega), Nat.succ_mul]
  have hthis : unitsOfRank (q + s * twoTo 52) = q * twoTo s :=
    unitsOfRank_add (Nat.le_of_lt hq) hs
  have hpos := twoTo_pos s
  rw [low, high, hnext, hthis]
  by_cases hpower : q = twoTo 52 ∧ 0 < s
  · obtain ⟨rfl, hscale⟩ := hpower
    obtain ⟨t, rfl⟩ : ∃ t, s = t + 1 := ⟨s - 1, by omega⟩
    have hprev : twoTo 52 + (t + 1) * twoTo 52 - 1 = 2 * twoTo 52 - 1 + t * twoTo 52 := by
      rw [Nat.succ_mul]
      omega
    rw [hprev, unitsOfRank_add (by omega) (by omega), twoTo_succ t, hT]
    have hsmall := twoTo_pos t
    omega
  · have hfirst : 0 < q := by rcases hs with rfl | hs <;> omega
    have hprev : q + s * twoTo 52 - 1 = q - 1 + s * twoTo 52 := by omega
    have hbelow : (q - 1) * twoTo s + twoTo s = q * twoTo s := by
      rw [← Nat.succ_mul, Nat.succ_eq_add_one, Nat.sub_add_cancel hfirst]
    have hbound : q * twoTo s < 2 * twoTo 52 * twoTo s := Nat.mul_lt_mul_of_pos_right hq hpos
    rw [hprev, unitsOfRank_add (by omega) (by omega)]
    rw [hT] at hbound
    generalize q * twoTo s = this, (q - 1) * twoTo s = below, twoTo s = ulp at *
    omega

/-! ## The search -/

theorem floorDigits_le (rank : Nat) (exponent : Int) :
    halves (floorDigits rank exponent) exponent ≤ (2 * unitsOfRank rank : Nat) ∧
      ((2 * unitsOfRank rank : Nat) : ℚ) < halves (floorDigits rank exponent + 1) exponent := by
  obtain ⟨hpos, hunits⟩ := halfUnits_eq 1 exponent
  have hn := halfUnits_one_pos exponent
  simp only [floorDigits]
  generalize halfUnits 1 exponent = r at *
  obtain ⟨n, d⟩ := r
  have hd : (0 : ℚ) < d := by exact_mod_cast hpos
  rw [halves_one] at hunits
  have hscaled (m : Nat) : halves m exponent * d = (m * n : Nat) := by
    rw [Nat.cast_mul, hunits, halves, mul_assoc]
  have hfloor := Nat.div_mul_le_self (2 * unitsOfRank rank * d) n
  have hnext := Nat.lt_mul_div_succ (2 * unitsOfRank rank * d) hn
  rw [Nat.mul_comm n] at hnext
  constructor
  · rw [← mul_le_mul_iff_of_pos_right hd, hscaled, ← Nat.cast_mul]
    exact_mod_cast hfloor
  · rw [← mul_lt_mul_iff_of_pos_right hd, hscaled, ← Nat.cast_mul]
    exact_mod_cast hnext

theorem atExponent?_roundsTo {exponent : Int} {digits : Nat}
    (h : atExponent? rank exponent = some digits) : RoundsTo rank (halves digits exponent) := by
  rw [← readsBack_iff]
  simp only [atExponent?] at h
  split at h
  · next hbelow habove =>
    rw [← Option.some.inj h, nearer]
    split_ifs
    · exact hbelow
    · exact habove
    · exact hbelow
    · exact habove
  · next hbelow _ =>
    rw [← Option.some.inj h]
    exact hbelow
  · next _ habove =>
    rw [← Option.some.inj h]
    exact habove
  · cases h

/-- The steps of the grid are shorter than the way between the midpoints, so one numeral next to
the exact value is between them too. -/
theorem isSome_atExponent? (h : 0 < rank) {exponent : Int}
    (hfine : step (exponent + 16) ≤ (2 * unitsOfRank rank : Nat)) :
    (atExponent? rank exponent).isSome := by
  have hgrid : step (exponent + 16) = 10 ^ 16 * step exponent := by
    have hten := halves_tenTo 16 exponent
    rw [halves] at hten
    push_cast at hten
    exact hten.symm
  rw [hgrid] at hfine
  obtain ⟨hbelow, habove⟩ := floorDigits_le rank exponent
  have hgap := exact_lt_gap h
  have hlow : (low rank : ℚ) < (2 * unitsOfRank rank : Nat) := by exact_mod_cast low_lt_exact h
  have hhigh : ((2 * unitsOfRank rank : Nat) : ℚ) < high rank := by
    exact_mod_cast exact_lt_high rank
  have hnear : RoundsTo rank (halves (floorDigits rank exponent) exponent) ∨
      RoundsTo rank (halves (floorDigits rank exponent + 1) exponent) := by
    by_contra! hfar
    have hunder : halves (floorDigits rank exponent) exponent ≤ low rank := by
      by_contra! hover
      exact hfar.1 (roundsTo_of_between hover (hbelow.trans_lt hhigh))
    have hover : (high rank : ℚ) ≤ halves (floorDigits rank exponent + 1) exponent := by
      by_contra! hunder
      exact hfar.2 (roundsTo_of_between (hlow.trans habove) hunder)
    have hwide : ((high rank - low rank : Nat) : ℚ) = high rank - low rank :=
      Nat.cast_sub (by have := low_lt_exact h; have := exact_lt_high rank; omega)
    have hcast : ((2 * unitsOfRank rank : Nat) : ℚ) < 10 ^ 16 * (high rank - low rank : Nat) := by
      exact_mod_cast hgap
    rw [hwide] at hcast
    rw [halves] at hunder hover
    push_cast at hfine hover hcast
    linarith
  rw [← readsBack_iff, ← readsBack_iff] at hnear
  simp only [atExponent?]
  split
  all_goals simp_all

theorem search_roundsTo {lead : Int} (h : (atExponent? rank (lead - 16)).isSome) (size count : Nat)
    (hsize : size + count = 17) :
    RoundsTo rank (halves (search rank lead size (count + 1)).1
      (search rank lead size (count + 1)).2) := by
  induction count generalizing size with
  | zero =>
    have hexponent : lead - (size : Int) + 1 = lead - 16 := by omega
    obtain ⟨digits, hdigits⟩ := Option.isSome_iff_exists.mp h
    rw [search, hexponent, hdigits]
    exact atExponent?_roundsTo hdigits
  | succ count ih =>
    rw [search]
    cases hdigits : atExponent? rank (lead - size + 1) with
    | some digits => exact atExponent?_roundsTo hdigits
    | none => exact ih (size + 1) (by omega)

/-! ## The leading digit -/

/-- The guess at the leading digit of a magnitude of that many binary digits is not too high by
more than one. -/
def guessHolds (k : Nat) : Bool :=
  let r := halfUnits 1 (((k : Int) - 1074) * 30103 / 100000 - 1)
  r.1 ≤ 2 * twoTo k * r.2

theorem guessHolds_of_lt {k : Nat} (h : k < 2098) : guessHolds k = true := by
  have hall : ∀ i < 46, ∀ j < 46, guessHolds (46 * i + j) = true := by decide +kernel
  have hk := hall (k / 46) (by omega) (k % 46) (Nat.mod_lt _ (by decide))
  rwa [Nat.div_add_mod] at hk

theorem log2_lt_iff {n k : Nat} (h : n ≠ 0) : n.log2 < k ↔ n < twoTo k := Nat.log2_lt h

theorem step_leading_le (hpos : 0 < rank) (hfinite : rank < finiteRanks) :
    step (leading rank) ≤ (2 * unitsOfRank rank : Nat) := by
  have hunits : 0 < unitsOfRank rank := by
    have hzero := unitsOfRank_strictMono hpos
    omega
  have hlog : twoTo (unitsOfRank rank).log2 ≤ unitsOfRank rank := Nat.log2_self_le hunits.ne'
  have hk : (unitsOfRank rank).log2 < 54 + 2044 := by
    have hlast := unitsOfRank_strictMono hfinite
    rw [Binary64.unitsOfRank_finiteRanks, ← twoTo_add] at hlast
    exact (log2_lt_iff hunits.ne').mpr hlast
  have hpositive {exponent : Int} (h : 0 < floorDigits rank exponent) :
      step exponent ≤ (2 * unitsOfRank rank : Nat) := by
    rw [← halves_one]
    exact (halves_mono h exponent).trans (floorDigits_le rank exponent).1
  have hguess := guessHolds_of_lt hk
  simp only [guessHolds, decide_eq_true_eq] at hguess
  simp only [leading]
  generalize (((unitsOfRank rank).log2 : Int) - 1074) * 30103 / 100000 = guess at *
  have hleast : 0 < floorDigits rank (guess - 1) := by
    refine Nat.div_pos (hguess.trans ?_) (halfUnits_one_pos _)
    exact Nat.mul_le_mul_right _ (Nat.mul_le_mul_left 2 hlog)
  cases hfound : [guess + 2, guess + 1, guess, guess - 1].find?
      fun e => decide (0 < floorDigits rank e) with
  | some e => exact hpositive (by simpa using List.find?_some hfound)
  | none =>
    have hall := List.find?_eq_none.mp hfound (guess - 1) (by simp)
    exact absurd hleast (by simpa using hall)

theorem exists_search (hpos : 0 < rank) (hfinite : rank < finiteRanks) :
    ∃ n e, search rank (leading rank) 1 17 = (n, e) ∧ RoundsTo rank (halves n e) := by
  have hsome : (atExponent? rank (leading rank - 16)).isSome := by
    apply isSome_atExponent? hpos
    rw [Int.sub_add_cancel]
    exact step_leading_le hpos hfinite
  exact ⟨_, _, rfl, search_roundsTo hsome 1 16 rfl⟩

/-! ## The digits -/

theorem dropZeros_eq (exponent : Int) (ds : List Char) :
    ∃ k : Nat, ds = List.replicate k '0' ++ (dropZeros exponent ds).1 ∧
      (dropZeros exponent ds).2 = exponent + k := by
  induction ds generalizing exponent with
  | nil => exact ⟨0, rfl, (Int.add_zero exponent).symm⟩
  | cons c rest ih =>
    rw [dropZeros]
    split_ifs with hzero
    · obtain ⟨k, hrest, hexponent⟩ := ih (exponent + 1)
      refine ⟨k + 1, ?_, ?_⟩
      · rw [List.replicate_succ, List.cons_append, ← hrest, hzero]
      · rw [hexponent]
        push_cast
        ring
    · exact ⟨0, rfl, (Int.add_zero exponent).symm⟩

theorem ofDigitChars_append_zeros (ds : List Char) (k : Nat) :
    Nat.ofDigitChars 10 (ds ++ List.replicate k '0') 0 = Nat.ofDigitChars 10 ds 0 * 10 ^ k := by
  induction k with
  | zero => simp
  | succ k ih =>
    rw [List.replicate_succ', ← List.append_assoc, Nat.ofDigitChars_append, ih,
      Nat.ofDigitChars_cons, Nat.ofDigitChars_nil, Nat.pow_succ]
    simp
    ring

theorem head?_toDigits {n : Nat} (h : 0 < n) : ∀ c ∈ (Nat.toDigits 10 n).head?, c ≠ '0' := by
  induction n using Nat.strongRecOn with
  | ind n ih =>
    rw [Nat.toDigits_eq_if (by decide)]
    split_ifs with hsmall
    · have hall : ∀ m < 10, 0 < m → Nat.digitChar m ≠ '0' := by decide
      simpa using hall n hsmall h
    · have hne : Nat.toDigits 10 (n / 10) ≠ [] := List.length_pos_iff.mp Nat.length_toDigits_pos
      have hih := ih (n / 10) (by omega) (by omega)
      cases hdigits : Nat.toDigits 10 (n / 10) with
      | nil => exact absurd hdigits hne
      | cons c rest => rwa [hdigits] at hih

theorem digits_of_search {n : Nat} {e : Int} (h : search rank (leading rank) 1 17 = (n, e)) :
    digits rank = ((dropZeros e (decimalDigits n).reverse).1.reverse,
      (dropZeros e (decimalDigits n).reverse).1.length +
        (dropZeros e (decimalDigits n).reverse).2) := by
  -- The equation lemma of `digits` would evaluate the search.
  delta digits
  rw [h]

/-- The numeral of a rank is not empty, starts with a digit that counts, and rounds to it. -/
theorem digits_roundsTo (hpos : 0 < rank) (hfinite : rank < finiteRanks) :
    ∃ c ds place, digits rank = (c :: ds, place) ∧ c ≠ '0' ∧
      (∀ d ∈ c :: ds, d.isDigit = true) ∧
      RoundsTo rank (halves (Nat.ofDigitChars 10 (c :: ds) 0) (place - (c :: ds).length)) := by
  obtain ⟨n, e, hsearch, hround⟩ := exists_search hpos hfinite
  rw [digits_of_search hsearch]
  have hn := pos_of_roundsTo hpos hround
  obtain ⟨k, hzeros, hexponent⟩ := dropZeros_eq e (decimalDigits n).reverse
  generalize dropZeros e (decimalDigits n).reverse = kept at *
  obtain ⟨kept, e'⟩ := kept
  have hdigits : Nat.toDigits 10 n = kept.reverse ++ List.replicate k '0' := by
    have hreverse := congrArg List.reverse hzeros
    rwa [List.reverse_reverse, List.reverse_append, List.reverse_replicate] at hreverse
  have hvalue : n = Nat.ofDigitChars 10 kept.reverse 0 * 10 ^ k := by
    rw [← ofDigitChars_append_zeros, ← hdigits, Nat.ofDigitChars_ten_toDigits]
  have hexact : halves n e = halves (Nat.ofDigitChars 10 kept.reverse 0) e' := by
    obtain rfl : e' = e + k := hexponent
    rw [← halves_mul_tenTo, ← hvalue]
  have hhead := head?_toDigits hn
  cases hkept : kept.reverse with
  | nil =>
    rw [hkept, Nat.ofDigitChars_nil, Nat.zero_mul] at hvalue
    omega
  | cons c ds =>
    rw [hdigits, hkept] at hhead
    have hlength : kept.length = (c :: ds).length := by rw [← hkept, List.length_reverse]
    refine ⟨c, ds, kept.reverse.length + e', by simp [hkept, hlength], hhead c rfl, ?_, ?_⟩
    · intro d hd
      refine Nat.isDigit_of_mem_toDigits (by decide) (by decide) (?_ : d ∈ Nat.toDigits 10 n)
      rw [hdigits, hkept]
      exact List.mem_append_left _ hd
    · rw [hkept, add_sub_cancel_left, ← hkept, ← hexact]
      exact hround

/-! ## Reading back -/

/-- A ratio between the midpoints has the rank. -/
theorem rankOfRatio_of_roundsTo {n d : Nat} (hd : 0 < d) (hpos : 0 < rank)
    (h : RoundsTo rank (2 * n / d : ℚ)) : rankOfRatio n d = rank := by
  have hcast : (0 : ℚ) < d := by exact_mod_cast hd
  have hle (a : Nat) : (a : ℚ) ≤ 2 * n / d ↔ a * d ≤ 2 * n := by
    rw [le_div_iff₀ hcast]
    exact_mod_cast Iff.rfl
  have hge (a : Nat) : (2 * n / d : ℚ) ≤ a ↔ 2 * n ≤ a * d := by
    rw [div_le_iff₀ hcast]
    exact_mod_cast Iff.rfl
  obtain ⟨hlow, hhigh⟩ := h.bounds
  rw [hle, low, Nat.add_mul] at hlow
  rw [hge, high, Nat.add_mul] at hhigh
  have heven : rank % 2 = 1 → unitsOfRank (rank - 1) * d + unitsOfRank rank * d ≠ 2 * n ∧
      2 * n ≠ unitsOfRank rank * d + unitsOfRank (rank + 1) * d := by
    intro hodd
    rw [RoundsTo, if_neg (by omega), ← not_le, ← not_le, hge, hle, low, high, Nat.add_mul,
      Nat.add_mul] at h
    omega
  obtain ⟨hnearest, htie⟩ := rankOfRatio_nearest hd n rank
  have hprev := unitsOfRank_strictMono (Nat.sub_lt hpos Nat.one_pos)
  have hthis := Nat.mul_lt_mul_of_pos_right hprev hd
  have hnext := Nat.mul_lt_mul_of_pos_right (unitsOfRank_strictMono (Nat.lt_add_one rank)) hd
  rw [Nat.dist, Nat.dist] at hnearest htie
  rcases Nat.lt_trichotomy (rankOfRatio n d) rank with hlt | heq | hgt
  · have hmono := Nat.mul_le_mul_right d
      (unitsOfRank_strictMono.monotone (Nat.le_sub_one_of_lt hlt))
    have hsame : unitsOfRank (rankOfRatio n d) * d = unitsOfRank (rank - 1) * d := by omega
    have hprev : rankOfRatio n d = rank - 1 :=
      unitsOfRank_strictMono.injective (Nat.eq_of_mul_eq_mul_right hd hsame)
    have hparity := htie (by omega) (by omega)
    have hodd := heven (by omega)
    omega
  · exact heq
  · have hmono := Nat.mul_le_mul_right d (unitsOfRank_strictMono.monotone hgt)
    have hsame : unitsOfRank (rankOfRatio n d) * d = unitsOfRank (rank + 1) * d := by
      rw [Nat.succ_eq_add_one] at hmono
      omega
    have hafter : rankOfRatio n d = rank + 1 :=
      unitsOfRank_strictMono.injective (Nat.eq_of_mul_eq_mul_right hd hsame)
    have hparity := htie (by omega) (by omega)
    have hodd := heven (by omega)
    omega

theorem step_le_step {e e' : Int} (h : e ≤ e') : step e ≤ step e' := by
  have hten : (10 : ℚ) ^ e ≤ 10 ^ e' := zpow_le_zpow_right₀ (by norm_num) h
  exact mul_le_mul_of_nonneg_right hten (Nat.cast_nonneg _)

/-- A numeral has the size of its number of digits. -/
theorem halves_between {m : Nat} (h : 0 < m) (e : Int) :
    step ((decimalDigits m).length + e - 1) ≤ halves m e ∧
      halves m e < step ((decimalDigits m).length + e) := by
  obtain ⟨k, hk⟩ : ∃ k, (decimalDigits m).length = k + 1 :=
    Nat.exists_eq_add_one.mpr Nat.length_toDigits_pos
  have hbelow : 10 ^ k ≤ m := by
    rcases Nat.eq_zero_or_pos k with rfl | hpositive
    · exact h
    · have hiff := Nat.length_toDigits_le_iff (n := m) (b := 10) (k := k) (by decide) hpositive
      rw [← decimalDigits, hk] at hiff
      omega
  have habove : m < 10 ^ (k + 1) :=
    (Nat.length_toDigits_le_iff (by decide) (Nat.succ_pos k)).mp hk.le
  rw [hk]
  constructor
  · have hexponent : ((k + 1 : Nat) : Int) + e - 1 = e + k := by omega
    rw [hexponent, ← halves_tenTo]
    exact halves_mono hbelow e
  · rw [Int.add_comm, ← halves_tenTo]
    exact mul_lt_mul_of_pos_right (by exact_mod_cast habove) (step_pos e)

/-- A numeral that rounds to a finite rank is neither too large nor too small to be read. -/
theorem size_of_roundsTo {m : Nat} {e : Int} (hpos : 0 < rank) (hfinite : rank < finiteRanks)
    (h : RoundsTo rank (halves m e)) :
    smallestSize ≤ (decimalDigits m).length + e ∧ (decimalDigits m).length + e ≤ largestSize := by
  obtain ⟨hbelow, habove⟩ := halves_between (pos_of_roundsTo hpos h) e
  obtain ⟨hlow, hhigh⟩ := h.bounds
  constructor
  · by_contra! hsmall
    have hstep : step ((decimalDigits m).length + e) ≤ step (-330) := step_le_step hsmall.le
    have htiny : step (-330) < 1 := by
      have hnat : twoTo 1075 < 10 ^ 330 := by decide +kernel
      rw [step, zpow_neg, inv_mul_lt_one₀ (by positivity)]
      exact_mod_cast hnat
    have hone : (1 : ℚ) ≤ low rank := by exact_mod_cast low_pos hpos
    linarith
  · by_contra! hlarge
    have hstep : step 310 ≤ step ((decimalDigits m).length + e - 1) :=
      step_le_step (Int.le_sub_one_of_lt hlarge)
    have hlast : high rank ≤ 2 * (twoTo 54 * twoTo 2044) := by
      have hthis := unitsOfRank_strictMono.monotone hfinite.le
      have hnext : unitsOfRank (rank + 1) ≤ unitsOfRank finiteRanks :=
        unitsOfRank_strictMono.monotone hfinite
      rw [Binary64.unitsOfRank_finiteRanks] at hthis hnext
      rw [high]
      omega
    have hhuge : ((2 * (twoTo 54 * twoTo 2044) : Nat) : ℚ) < step 310 := by
      have hnat : 2 * (twoTo 54 * twoTo 2044) < tenTo 310 * twoTo 1075 := by decide +kernel
      have hcast : step 310 = (tenTo 310 * twoTo 1075 : Nat) := by
        rw [step, Nat.cast_mul, cast_tenTo]
        rfl
      rw [hcast]
      exact Nat.cast_lt.mpr hnat
    have hcast : (high rank : ℚ) ≤ (2 * (twoTo 54 * twoTo 2044) : Nat) := by exact_mod_cast hlast
    linarith

end Shortest

/-- A numeral that rounds to a finite rank is read as the number of that rank. -/
theorem Binary64.ofDecimal_of_roundsTo {rank m : Nat} {e : Int} (negative : Bool)
    (hpos : 0 < rank) (hfinite : rank < finiteRanks)
    (h : Shortest.RoundsTo rank (Shortest.halves m e)) :
    ofDecimal negative m e = .finite ⟨negative, rank, hfinite⟩ := by
  have hm : m ≠ 0 := (Shortest.pos_of_roundsTo hpos h).ne'
  obtain ⟨hsmall, hlarge⟩ := Shortest.size_of_roundsTo hpos hfinite h
  have hratio {n d : Nat} (hd : 0 < d)
      (hexact : (2 * (n * twoTo 1074 : Nat) / d : ℚ) = Shortest.halves m e) :
      ofRatio negative n d = .finite ⟨negative, rank, hfinite⟩ := by
    rw [ofRatio, Shortest.rankOfRatio_of_roundsTo hd hpos (hexact ▸ h), ofRank, dif_pos hfinite]
  obtain ⟨hd, hn⟩ := Shortest.halfUnits_eq m e
  have hhalf : (twoTo 1075 : ℚ) = 2 * twoTo 1074 := by
    rw [twoTo_succ 1074, Nat.cast_mul, Nat.cast_two]
  simp only [ofDecimal, if_neg hm, if_neg (Int.not_lt.mpr hlarge), if_neg (Int.not_lt.mpr hsmall)]
  rw [Shortest.halfUnits] at hd hn
  split_ifs at hd hn ⊢
  · refine hratio hd ?_
    rw [Nat.cast_mul, hhalf] at hn
    rw [div_eq_iff (by exact_mod_cast hd.ne'), ← hn, Nat.cast_mul]
    ring
  · refine hratio hd ?_
    rw [Nat.cast_mul, hhalf] at hn
    rw [div_eq_iff (by exact_mod_cast hd.ne'), ← hn, Nat.cast_mul]
    ring

end FlowBoard
