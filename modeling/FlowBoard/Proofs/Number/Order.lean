import FlowBoard.Number.Basic
import Mathlib

/-!
# Numbers on a line

The position of a number is its exact value, with the infinities at both ends; a not-a-number has
none. Comparisons look at positions only. Two zeros have one position, so two differences that are
taken between numbers at the same positions have the same position, although they may be different
zeros.
-/

namespace FlowBoard

namespace Number

/-- The place of a number on the line, in multiples of `2 ^ (-1074)`. -/
def position : Number → Option (WithBot (WithTop Int))
  | .whole n => some ((n * twoTo 1074 : Int) : WithTop Int)
  | .binary (.finite x) => some (x.units : WithTop Int)
  | .binary (.infinite true) => some ⊥
  | .binary (.infinite false) => some (⊤ : WithTop Int)
  | .binary .nan => none

variable {a b a' b' : Number}

theorem atMost_iff : a.atMost b = true ↔ ∃ u ∈ a.position, ∃ v ∈ b.position, u ≤ v := by
  rcases a with m | (x | (_ | _) | _) <;> rcases b with n | (y | (_ | _) | _) <;>
    simp only [atMost, less, position, units?, Option.mem_def, Option.some.injEq, exists_eq_left',
      WithBot.coe_le_coe, WithTop.coe_le_coe, le_top, bot_le, le_refl, WithBot.le_bot_iff,
      top_le_iff, WithTop.coe_ne_top, WithBot.coe_ne_bot, Bool.not_eq_true',
      decide_eq_false_iff_not, not_lt, reduceCtorEq, Bool.false_eq_true, Bool.and_false,
      Bool.and_true, Bool.and_self, Bool.not_false, Bool.not_true, and_false, false_and,
      exists_false]

/-- Comparison looks at positions only. -/
theorem atMost_congr (ha : a.position = a'.position) (hb : b.position = b'.position) :
    a.atMost b = a'.atMost b' := by
  rw [Bool.eq_iff_iff, atMost_iff, atMost_iff, ha, hb]

end Number

namespace Binary64

variable {x y x' y' : Finite}

theorem position_ofRank_zero (negative : Bool) :
    (Number.binary (ofRank negative 0)).position = some ((0 : Int) : WithTop Int) := by
  cases negative <;> rfl

/-- The position of a difference depends on those of the two numbers only. -/
theorem position_sub (hx : x.units = x'.units) (hy : y.units = y'.units) :
    (Number.binary (sub (.finite x) (.finite y))).position =
      (Number.binary (sub (.finite x') (.finite y'))).position := by
  rw [sub, sub, hx, hy]
  split_ifs
  · rw [position_ofRank_zero, position_ofRank_zero]
  · rfl

end Binary64

/-! ## The greatest and the least of finite numbers -/

namespace Number

def ofFinite (x : Finite) : Number := .binary (.finite x)

theorem ofFinite_injective : Function.Injective ofFinite := by
  intro x y h
  cases h
  rfl

theorem less_ofFinite (x y : Finite) :
    (ofFinite x).less (ofFinite y) = decide (x.units < y.units) := rfl

/-- A choice between the best so far and the next, by a key, ends with a best one. -/
theorem foldl_choice_best (step : Number → Number → Number) (key : Finite → Int)
    (hstep : ∀ x y, step (ofFinite x) (ofFinite y) = ofFinite (if key x < key y then y else x))
    (first : Finite) (rest : List Finite) :
    ∃ best ∈ first :: rest, (rest.map ofFinite).foldl step (ofFinite first) = ofFinite best ∧
      ∀ x ∈ first :: rest, key x ≤ key best := by
  induction rest generalizing first with
  | nil => exact ⟨first, by simp, rfl, by simp⟩
  | cons y rest ih =>
    obtain ⟨best, hbest, hfold, hall⟩ := ih (if key first < key y then y else first)
    obtain ⟨hchosen, hrest⟩ := List.forall_mem_cons.mp hall
    refine ⟨best, ?_, by rw [List.map_cons, List.foldl_cons, hstep, hfold], ?_⟩
    · rcases List.mem_cons.mp hbest with rfl | hbest
      · split_ifs <;> simp
      · exact List.mem_cons_of_mem _ (List.mem_cons_of_mem _ hbest)
    · have hboth : key first ≤ key best ∧ key y ≤ key best := by
        split_ifs at hchosen with hless
        · exact ⟨hless.le.trans hchosen, hchosen⟩
        · exact ⟨hchosen, (Int.not_lt.mp hless).trans hchosen⟩
      exact List.forall_mem_cons.mpr ⟨hboth.1, List.forall_mem_cons.mpr ⟨hboth.2, hrest⟩⟩

theorem exists_greatest (first : Finite) (rest : List Finite) :
    ∃ top ∈ first :: rest, greatest (ofFinite first) (rest.map ofFinite) = ofFinite top ∧
      ∀ x ∈ first :: rest, x.units ≤ top.units := by
  refine foldl_choice_best _ Finite.units (fun x y => ?_) first rest
  simp only [less_ofFinite, decide_eq_true_eq]
  split_ifs <;> rfl

theorem exists_least (first : Finite) (rest : List Finite) :
    ∃ bottom ∈ first :: rest, least (ofFinite first) (rest.map ofFinite) = ofFinite bottom ∧
      ∀ x ∈ first :: rest, bottom.units ≤ x.units := by
  have hchoice := foldl_choice_best (fun best n => if n.less best then n else best)
    (fun x => -x.units) (fun x y => ?_) first rest
  · obtain ⟨bottom, hmem, hfold, hall⟩ := hchoice
    exact ⟨bottom, hmem, hfold, fun x hx => Int.neg_le_neg_iff.mp (hall x hx)⟩
  · simp only [less_ofFinite, decide_eq_true_eq, Int.neg_lt_neg_iff]
    split_ifs <;> rfl

end Number

end FlowBoard
