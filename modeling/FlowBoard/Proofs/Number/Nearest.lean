import FlowBoard.Number.Binary64
import Mathlib.Data.Nat.Dist
import Mathlib.Order.Monotone.Basic
import Mathlib.Tactic.Ring

/-!
# Rounding to the nearest binary number

Magnitudes grow strictly with their rank, and those of one scale are the multiples of a power of
two. So the rank that is rounded to has the nearest magnitude of all, and is even where another one
is as near. A whole number becomes a finite one below the midpoint past the last finite magnitude.
-/

namespace FlowBoard

/-! ## Magnitudes -/

theorem twoTo_succ (n : Nat) : twoTo (n + 1) = 2 * twoTo n := Nat.pow_succ'

theorem twoTo_pos (n : Nat) : 0 < twoTo n := Nat.two_pow_pos n

theorem twoTo_add (m n : Nat) : twoTo (m + n) = twoTo m * twoTo n := Nat.pow_add 2 m n

theorem twoTo_52 : twoTo 52 = 4503599627370496 := rfl

/-- The magnitudes of one scale are multiples of a power of two. -/
theorem unitsOfRank_add {q s : Nat} (hq : q ≤ 2 * twoTo 52) (hs : s = 0 ∨ twoTo 52 ≤ q) :
    unitsOfRank (q + s * twoTo 52) = q * twoTo s := by
  have hT := twoTo_52
  rcases Nat.lt_or_ge q (twoTo 52) with hlow | hhigh
  · obtain rfl : s = 0 := hs.resolve_right (by omega)
    rw [Nat.zero_mul, Nat.add_zero, unitsOfRank, if_pos hlow]
    exact (Nat.mul_one q).symm
  rw [unitsOfRank, if_neg (by omega)]
  rcases Nat.lt_or_eq_of_le hq with hlt | rfl
  · have hsplit : q + s * twoTo 52 = q - twoTo 52 + (s + 1) * twoTo 52 := by
      rw [Nat.add_mul]
      omega
    rw [hsplit, Nat.add_mul_mod_self_right, Nat.add_mul_div_right _ _ (twoTo_pos 52),
      Nat.mod_eq_of_lt (by omega), Nat.div_eq_of_lt (by omega), Nat.sub_add_cancel hhigh,
      Nat.zero_add, Nat.add_sub_cancel]
  · have hsplit : 2 * twoTo 52 + s * twoTo 52 = (s + 2) * twoTo 52 := by ring
    rw [hsplit, Nat.mul_mod_left, Nat.mul_div_cancel _ (twoTo_pos 52), Nat.zero_add]
    change twoTo 52 * twoTo (s + 1) = _
    rw [twoTo_succ s]
    ring

/-- Each rank has a scale. -/
theorem exists_scale (rank : Nat) : ∃ q s, rank = q + s * twoTo 52 ∧ q < 2 * twoTo 52 ∧
    (s = 0 ∨ twoTo 52 ≤ q) := by
  have hT := twoTo_52
  rcases Nat.lt_or_ge rank (twoTo 52) with hlow | hhigh
  · exact ⟨rank, 0, by omega, by omega, .inl rfl⟩
  · have hdm := Nat.div_add_mod' rank (twoTo 52)
    have hmod := Nat.mod_lt rank (twoTo_pos 52)
    have hdiv : 0 < rank / twoTo 52 := Nat.div_pos hhigh (twoTo_pos 52)
    refine ⟨rank % twoTo 52 + twoTo 52, rank / twoTo 52 - 1, ?_, by omega, .inr (by omega)⟩
    rw [Nat.sub_mul, Nat.one_mul]
    have := Nat.le_mul_of_pos_left (twoTo 52) hdiv
    omega

theorem unitsOfRank_strictMono : StrictMono unitsOfRank := by
  refine strictMono_nat_of_lt_succ fun rank => ?_
  obtain ⟨q, s, rfl, hq, hs⟩ := exists_scale rank
  have hnext : q + s * twoTo 52 + 1 = q + 1 + s * twoTo 52 := Nat.add_right_comm _ _ _
  rw [hnext, unitsOfRank_add (Nat.le_of_lt hq) hs, unitsOfRank_add (q := q + 1) hq (by omega),
    Nat.succ_mul]
  exact Nat.lt_add_of_pos_right (twoTo_pos s)

/-- Seen from a scale, a magnitude is one of its multiples or below all its own magnitudes. -/
theorem unitsOfRank_grid (rank s : Nat) :
    (∃ j, unitsOfRank rank = j * twoTo s) ∨ 0 < s ∧ unitsOfRank rank < twoTo 52 * twoTo s := by
  obtain ⟨q, t, rfl, hq, ht⟩ := exists_scale rank
  rw [unitsOfRank_add (Nat.le_of_lt hq) ht]
  rcases Nat.lt_or_ge t s with hlt | hge
  · refine .inr ⟨by omega, ?_⟩
    calc q * twoTo t < 2 * twoTo 52 * twoTo t := Nat.mul_lt_mul_of_pos_right hq (twoTo_pos t)
      _ = twoTo 52 * twoTo (t + 1) := by rw [twoTo_succ t]; ring
      _ ≤ twoTo 52 * twoTo s := Nat.mul_le_mul_left _ (Nat.pow_le_pow_right Nat.two_pos hlt)
  · refine .inl ⟨q * twoTo (t - s), ?_⟩
    rw [Nat.mul_assoc, ← twoTo_add, Nat.sub_add_cancel hge]

/-! ## The nearest multiple -/

theorem roundRatio_cases (n d : Nat) :
    roundRatio n d = n / d ∧ 2 * (n % d) ≤ d ∨ roundRatio n d = n / d + 1 ∧ d ≤ 2 * (n % d) := by
  simp only [roundRatio]
  split_ifs <;> omega

theorem roundRatio_nearest {d : Nat} (hd : 0 < d) (n j : Nat) :
    Nat.dist n (roundRatio n d * d) ≤ Nat.dist n (j * d) := by
  have hdm := Nat.div_add_mod' n d
  have hmod := Nat.mod_lt n hd
  have hside : j * d ≤ n / d * d ∨ (n / d + 1) * d ≤ j * d := by
    rcases Nat.lt_or_ge (n / d) j with h | h
    · exact .inr (Nat.mul_le_mul_right d h)
    · exact .inl (Nat.mul_le_mul_right d h)
  rw [Nat.succ_mul] at hside
  rcases roundRatio_cases n d with ⟨hround, hhalf⟩ | ⟨hround, hhalf⟩
  · rw [hround, Nat.dist, Nat.dist]
    omega
  · rw [hround, Nat.succ_mul, Nat.dist, Nat.dist]
    omega

/-- Where another multiple is as near, the even one is taken. -/
theorem roundRatio_even {d : Nat} (hd : 0 < d) {n j : Nat} (hj : j ≠ roundRatio n d)
    (htie : Nat.dist n (roundRatio n d * d) = Nat.dist n (j * d)) : roundRatio n d % 2 = 0 := by
  have hdm := Nat.div_add_mod' n d
  have hmod := Nat.mod_lt n hd
  have hfar : j * d + d ≤ n / d * d ∨ j = n / d ∨ j = n / d + 1 ∨ n / d * d + 2 * d ≤ j * d := by
    rcases Nat.lt_trichotomy j (n / d) with h | h | h
    · have := Nat.mul_le_mul_right d h
      rw [Nat.succ_mul] at this
      exact .inl this
    · exact .inr (.inl h)
    · rcases Nat.eq_or_lt_of_le h with h | h
      · exact .inr (.inr (.inl h.symm))
      · have := Nat.mul_le_mul_right d h
        rw [Nat.succ_mul, Nat.succ_mul] at this
        omega
  have hnext : (n / d + 1) * d = n / d * d + d := Nat.succ_mul _ _
  have hhalf : 2 * (n % d) = d := by
    simp only [Nat.dist] at htie
    rcases roundRatio_cases n d with ⟨hround, hle⟩ | ⟨hround, hle⟩
    · rw [hround] at hj htie
      rcases hfar with h | h | h | h
      · omega
      · exact absurd h hj
      · rw [h, hnext] at htie
        omega
      · omega
    · rw [hround] at hj htie
      rw [hnext] at htie
      rcases hfar with h | h | h | h
      · omega
      · rw [h] at htie
        omega
      · exact absurd h hj
      · omega
  simp only [roundRatio]
  split_ifs <;> omega

/-! ## The nearest rank -/

/-- The rank of a ratio is on the scale of the ratio. -/
theorem rankOfRatio_scale (n d : Nat) :
    ∃ s, rankOfRatio n d = roundRatio n (d * twoTo s) + s * twoTo 52 ∧
      roundRatio n (d * twoTo s) ≤ 2 * twoTo 52 ∧
      (s = 0 ∨ twoTo 52 * (d * twoTo s) ≤ n) := by
  obtain ⟨s, hs⟩ : ∃ s, s = Nat.log2 (n / d) - 52 := ⟨_, rfl⟩
  have hlow : d * (n / d) ≤ n := Nat.mul_div_le n d
  refine ⟨s, by rw [hs]; rfl, ?_, ?_⟩
  · have hlog : n / d < twoTo 53 * twoTo s :=
      calc n / d < twoTo (Nat.log2 (n / d) + 1) := Nat.lt_log2_self
        _ ≤ twoTo (53 + s) := Nat.pow_le_pow_right Nat.two_pos (by omega)
        _ = twoTo 53 * twoTo s := twoTo_add 53 s
    have hquotient : n / (d * twoTo s) < twoTo 53 := by
      rw [← Nat.div_div_eq_div_mul, Nat.div_lt_iff_lt_mul (twoTo_pos s)]
      exact hlog
    have hround := roundRatio_cases n (d * twoTo s)
    have hT : twoTo 53 = 2 * twoTo 52 := twoTo_succ 52
    omega
  · rcases Nat.eq_zero_or_pos s with hzero | hpos
    · exact .inl hzero
    · have hne : n / d ≠ 0 := by
        intro h
        rw [h, Nat.log2_zero] at hs
        omega
      have hlog : twoTo 52 * twoTo s ≤ n / d :=
        calc twoTo 52 * twoTo s = twoTo (52 + s) := (twoTo_add 52 s).symm
          _ = twoTo (Nat.log2 (n / d)) := by rw [show 52 + s = Nat.log2 (n / d) by omega]
          _ ≤ n / d := Nat.log2_self_le hne
      refine .inr ?_
      calc twoTo 52 * (d * twoTo s) = d * (twoTo 52 * twoTo s) := by ring
        _ ≤ d * (n / d) := Nat.mul_le_mul_left d hlog
        _ ≤ n := hlow

theorem unitsOfRank_scale {d n s : Nat} (hupper : roundRatio n (d * twoTo s) ≤ 2 * twoTo 52)
    (hlower : s = 0 ∨ twoTo 52 * (d * twoTo s) ≤ n) (hd : 0 < d) :
    unitsOfRank (roundRatio n (d * twoTo s) + s * twoTo 52) =
      roundRatio n (d * twoTo s) * twoTo s := by
  have hpos : 0 < d * twoTo s := Nat.mul_pos hd (twoTo_pos s)
  refine unitsOfRank_add hupper (hlower.imp_right fun h => ?_)
  have hquotient : twoTo 52 ≤ n / (d * twoTo s) := (Nat.le_div_iff_mul_le hpos).mpr h
  have hround := roundRatio_cases n (d * twoTo s)
  omega

/-- No magnitude is nearer than that of the rank of a ratio, and where another one is as near, the
rank is even. -/
theorem rankOfRatio_nearest {d : Nat} (hd : 0 < d) (n rank : Nat) :
    Nat.dist n (unitsOfRank (rankOfRatio n d) * d) ≤ Nat.dist n (unitsOfRank rank * d) ∧
      (Nat.dist n (unitsOfRank (rankOfRatio n d) * d) = Nat.dist n (unitsOfRank rank * d) →
        rank ≠ rankOfRatio n d → rankOfRatio n d % 2 = 0) := by
  obtain ⟨s, hrank, hupper, hlower⟩ := rankOfRatio_scale n d
  have hpos : 0 < d * twoTo s := Nat.mul_pos hd (twoTo_pos s)
  have hscale := unitsOfRank_scale hupper hlower hd
  have hunits : unitsOfRank (rankOfRatio n d) * d = roundRatio n (d * twoTo s) * (d * twoTo s) := by
    rw [hrank, hscale]
    ring
  rw [hunits]
  rcases unitsOfRank_grid rank s with ⟨j, hj⟩ | ⟨hs, hbelow⟩
  · have hother : unitsOfRank rank * d = j * (d * twoTo s) := by
      rw [hj]
      ring
    rw [hother]
    refine ⟨roundRatio_nearest hpos n j, fun htie hne => ?_⟩
    have hdiff : j ≠ roundRatio n (d * twoTo s) := by
      rintro rfl
      exact hne (unitsOfRank_strictMono.injective (by rw [hrank, hscale, hj]))
    have heven := roundRatio_even hpos hdiff htie
    rw [twoTo_52] at hrank
    omega
  · -- The other magnitude is below the scale, and the ratio is not.
    have hn : twoTo 52 * (d * twoTo s) ≤ n := hlower.resolve_left (by omega)
    have hleast := roundRatio_nearest hpos n (twoTo 52)
    have hfar : unitsOfRank rank * d < twoTo 52 * (d * twoTo s) :=
      calc unitsOfRank rank * d < twoTo 52 * twoTo s * d := Nat.mul_lt_mul_of_pos_right hbelow hd
        _ = twoTo 52 * (d * twoTo s) := by ring
    have hfarther : Nat.dist n (roundRatio n (d * twoTo s) * (d * twoTo s)) <
        Nat.dist n (unitsOfRank rank * d) := by
      refine Nat.lt_of_le_of_lt hleast ?_
      rw [Nat.dist, Nat.dist]
      omega
    exact ⟨Nat.le_of_lt hfarther, fun htie => absurd htie (Nat.ne_of_lt hfarther)⟩

/-! ## Whole numbers -/

namespace Finite

/-- How far a finite number is from a whole one, in units. -/
def distance (x : Finite) (n : Int) : Nat := (x.units - n * twoTo 1074).natAbs

/-- `x` is the finite number nearest to `n`, of two the one of even rank; zero is positive. -/
structure IsNearest (x : Finite) (n : Int) : Prop where
  sign : x.negative = decide (n < 0)
  least : ∀ y : Finite, x.distance n ≤ y.distance n
  even_of_tie : ∀ y : Finite, x.distance n = y.distance n → y.units ≠ x.units → x.rank % 2 = 0

theorem distance_eq (x : Finite) (n : Int) :
    x.distance n =
      if x.negative = decide (n < 0) then Nat.dist (n.natAbs * twoTo 1074) (unitsOfRank x.rank)
      else n.natAbs * twoTo 1074 + unitsOfRank x.rank := by
  have hn : ((n.natAbs * twoTo 1074 : Nat) : Int) = |n| * twoTo 1074 := by
    rw [Nat.cast_mul, Int.natCast_natAbs]
  rw [distance, units, Nat.dist]
  generalize twoTo 1074 = k at *
  rcases lt_or_ge n 0 with hneg | hpos
  · rw [abs_of_neg hneg, Int.neg_mul] at hn
    cases x.negative <;> simp only [hneg, decide_true, if_true, Bool.false_eq_true, if_false] <;>
      omega
  · rw [abs_of_nonneg hpos] at hn
    cases x.negative <;>
      simp only [Int.not_lt.mpr hpos, decide_false, if_true, Bool.true_eq_false, Bool.false_eq_true,
        if_false] <;>
      omega

theorem distance_of_sign {x : Finite} {n : Int} (h : x.negative = decide (n < 0)) :
    x.distance n = Nat.dist (n.natAbs * twoTo 1074) (unitsOfRank x.rank) := by
  rw [distance_eq, if_pos h]

theorem dist_le_distance (x : Finite) (n : Int) :
    Nat.dist (n.natAbs * twoTo 1074) (unitsOfRank x.rank) ≤ x.distance n := by
  rw [distance_eq]
  split_ifs
  · exact Nat.le_refl _
  · rw [Nat.dist]
    omega

theorem units_inj {x y : Finite} (hsign : x.negative = y.negative) (h : x.units = y.units) :
    x = y := by
  obtain ⟨negative, rank, hrank⟩ := x
  obtain ⟨negative', rank', hrank'⟩ := y
  obtain rfl : negative = negative' := hsign
  have hunits : unitsOfRank rank = unitsOfRank rank' := by
    cases negative <;> simpa [units] using h
  obtain rfl := unitsOfRank_strictMono.injective hunits
  rfl

/-- A finite number of the rank that is rounded to is the nearest one. -/
theorem isNearest_of_rank {x : Finite} {n : Int} (hsign : x.negative = decide (n < 0))
    (hrank : x.rank = rankOfRatio (n.natAbs * twoTo 1074) 1) : x.IsNearest n := by
  have hnearest := rankOfRatio_nearest Nat.one_pos (n.natAbs * twoTo 1074)
  simp only [Nat.mul_one, ← hrank, ← distance_of_sign hsign] at hnearest
  refine ⟨hsign, fun y => Nat.le_trans (hnearest y.rank).1 (dist_le_distance y n), ?_⟩
  intro y htie hne
  by_cases hother : y.negative = decide (n < 0)
  · refine (hnearest y.rank).2 (htie.trans (distance_of_sign hother)) fun heq => hne ?_
    rw [units, units, heq, hsign, hother]
  · -- A number of the other sign is no nearer than zero.
    have hfar : y.distance n = n.natAbs * twoTo 1074 + unitsOfRank y.rank := by
      rw [distance_eq, if_neg hother]
    have hzero := (hnearest 0).1
    have hdist : Nat.dist (n.natAbs * twoTo 1074) (unitsOfRank 0) = n.natAbs * twoTo 1074 := by
      rw [show unitsOfRank 0 = 0 by decide, Nat.dist_zero_right]
    have hunits : unitsOfRank y.rank = 0 := by omega
    refine (hnearest 0).2 (by omega) fun heq => hne ?_
    rw [units, units, hunits, ← heq, show unitsOfRank 0 = 0 by decide]
    simp

theorem IsNearest.rank_le {x y : Finite} {n : Int} (hx : x.IsNearest n) (hy : y.IsNearest n) :
    y.rank ≤ x.rank := by
  by_contra! hlt
  have hdist : x.distance n = y.distance n := Nat.le_antisymm (hx.least y) (hy.least x)
  have hne : y.units ≠ x.units := by
    intro h
    obtain rfl := units_inj (hy.sign.trans hx.sign.symm) h
    exact Nat.lt_irrefl _ hlt
  have hevenx := hx.even_of_tie y hdist hne
  have heveny := hy.even_of_tie x hdist.symm hne.symm
  -- Both ranks are even, so that there is a nearer number between them.
  have hgap : x.rank + 1 < y.rank := by omega
  have hlow := unitsOfRank_strictMono (Nat.lt_add_one x.rank)
  have hhigh := unitsOfRank_strictMono hgap
  have hbetween : Nat.dist (n.natAbs * twoTo 1074) (unitsOfRank x.rank) ≤
      Nat.dist (n.natAbs * twoTo 1074) (unitsOfRank (x.rank + 1)) := by
    have hleast := hx.least ⟨x.negative, x.rank + 1, Nat.lt_trans hgap y.rank_lt⟩
    rwa [distance_of_sign hx.sign, distance_of_sign (by exact hx.sign)] at hleast
  rw [Nat.dist, Nat.dist] at hbetween
  rw [distance_of_sign hx.sign, distance_of_sign hy.sign, Nat.dist, Nat.dist] at hdist
  omega

/-- Two nearest numbers are the same one. -/
theorem IsNearest.unique {x y : Finite} {n : Int} (hx : x.IsNearest n) (hy : y.IsNearest n) :
    x = y := by
  have hrank : x.rank = y.rank := Nat.le_antisymm (hy.rank_le hx) (hx.rank_le hy)
  refine units_inj (hx.sign.trans hy.sign.symm) ?_
  rw [units, units, hrank, hx.sign, hy.sign]

/-- Where a finite number is equal to a whole one, it is the nearest. -/
theorem IsNearest.units_eq {x : Finite} {n : Int} (h : x.IsNearest n)
    (hequal : ∃ y : Finite, y.units = n * twoTo 1074) : x.units = n * twoTo 1074 := by
  obtain ⟨y, hy⟩ := hequal
  have hzero : y.distance n = 0 := by
    rw [distance, hy, Int.sub_self]
    rfl
  have hleast := h.least y
  rw [hzero, distance] at hleast
  omega

end Finite

namespace Binary64

/-- Whole numbers of this size on are not made finite. -/
def wholeLimit : Nat := (twoTo 54 - 1) * twoTo 970

theorem twoTo_54 : twoTo 54 = 18014398509481984 := rfl

theorem unitsOfRank_last : unitsOfRank (finiteRanks - 1) = (twoTo 54 - 2) * twoTo 2044 := by
  have hrank : finiteRanks - 1 = 2 * twoTo 52 - 1 + 2045 * twoTo 52 := by
    rw [finiteRanks, twoTo_52]
  rw [hrank, unitsOfRank_add (by omega) (by rw [twoTo_52]; omega), twoTo_succ 2044, twoTo_54,
    twoTo_52]
  omega

theorem unitsOfRank_finiteRanks : unitsOfRank finiteRanks = twoTo 54 * twoTo 2044 := by
  have hrank : finiteRanks = 2 * twoTo 52 + 2045 * twoTo 52 := by
    rw [finiteRanks, twoTo_52]
  rw [hrank, unitsOfRank_add (Nat.le_refl _) (by omega), twoTo_succ 2044, twoTo_54, twoTo_52]
  omega

theorem lt_wholeLimit_iff (n : Nat) :
    n < wholeLimit ↔ n * twoTo 1074 < (twoTo 54 - 1) * twoTo 2044 := by
  rw [wholeLimit, twoTo_add 970 1074, ← Nat.mul_assoc, Nat.mul_lt_mul_right (twoTo_pos 1074)]

theorem rankOfRatio_lt_iff (n : Nat) :
    rankOfRatio (n * twoTo 1074) 1 < finiteRanks ↔ n < wholeLimit := by
  have hnearest := rankOfRatio_nearest Nat.one_pos (n * twoTo 1074)
  simp only [Nat.mul_one, Nat.dist] at hnearest
  have hlast := unitsOfRank_last
  have hnext := unitsOfRank_finiteRanks
  have hpos := twoTo_pos 2044
  rw [lt_wholeLimit_iff]
  rw [twoTo_54] at *
  generalize n * twoTo 1074 = N at *
  generalize twoTo 2044 = half at *
  constructor
  · -- At the midpoint the last finite rank is odd.
    intro hfinite
    by_contra! hfar
    have hle := unitsOfRank_strictMono.monotone (Nat.le_sub_one_of_lt hfinite)
    have hparity : (finiteRanks - 1) % 2 = 1 := by rw [finiteRanks, twoTo_52]
    obtain ⟨hleast, htie⟩ := hnearest finiteRanks
    have heven := htie (by omega) (by omega)
    have hrank : rankOfRatio N 1 = finiteRanks - 1 :=
      unitsOfRank_strictMono.injective (by omega)
    omega
  · intro hnear
    by_contra! hinfinite
    have hle := unitsOfRank_strictMono.monotone hinfinite
    have hleast := (hnearest (finiteRanks - 1)).1
    omega

theorem ofInt_eq_finite_iff {n : Int} {x : Finite} :
    ofInt n = .finite x ↔ n.natAbs < wholeLimit ∧ x.IsNearest n := by
  have hofRank : ofInt n = ofRank (decide (n < 0)) (rankOfRatio (n.natAbs * twoTo 1074) 1) := rfl
  rw [hofRank, ofRank, ← rankOfRatio_lt_iff]
  by_cases hlt : rankOfRatio (n.natAbs * twoTo 1074) 1 < finiteRanks
  · have hnearest : Finite.IsNearest ⟨decide (n < 0), _, hlt⟩ n := Finite.isNearest_of_rank rfl rfl
    rw [dif_pos hlt]
    constructor
    · rintro ⟨⟩
      exact ⟨hlt, hnearest⟩
    · rintro ⟨-, hx⟩
      rw [hnearest.unique hx]
  · rw [dif_neg hlt]
    simp [hlt]

theorem exists_isNearest {n : Int} (h : n.natAbs < wholeLimit) : ∃ x : Finite, x.IsNearest n := by
  have hlt := (rankOfRatio_lt_iff n.natAbs).mpr h
  exact ⟨⟨decide (n < 0), _, hlt⟩, Finite.isNearest_of_rank rfl rfl⟩

end Binary64

end FlowBoard
