import FlowBoard.Text.StandIns
import Mathlib.Data.List.TakeWhile

/-!
# Strings without halves of pairs

A string without stand-ins is coded as it is and shown as it is.
-/

namespace FlowBoard.Text

theorem firstRun?_eq_none_iff {isBad : Char → Bool} {cs : List Char} :
    firstRun? isBad cs = none ↔ ∀ c ∈ cs, isBad c = false := by
  rw [firstRun?]
  constructor
  · intro h
    have hdrop : cs.drop (cs.takeWhile (!isBad ·)).length = [] := by
      split at h
      · next hdrop => exact hdrop
      · cases h
    have hwhole : cs.takeWhile (!isBad ·) = cs :=
      (List.takeWhile_prefix _).eq_of_length_le (List.drop_eq_nil_iff.mp hdrop)
    intro c hc
    simpa using List.takeWhile_eq_self_iff.mp hwhole c hc
  · intro h
    have hwhole : cs.takeWhile (!isBad ·) = cs :=
      List.takeWhile_eq_self_iff.mpr fun c hc => by rw [h c hc, Bool.not_false]
    rw [hwhole, List.drop_length]

namespace StandIns

@[simp] theorem unit?_empty (c : Char) : ({} : StandIns).unit? c = none := rfl

@[simp] theorem isStandIn_empty (c : Char) : ({} : StandIns).isStandIn c = false := rfl

/-- Stand-ins are characters for private use. -/
theorem isStandIn_of_lt {c : Char} (h : c.toNat < 0xF0000) (lone : StandIns) :
    lone.isStandIn c = false := by
  obtain ⟨_ | i⟩ := lone
  · rfl
  · have hlow : ¬ first i ≤ c.toNat := by
      rw [first]
      omega
    simp [isStandIn, unit?, hlow]

theorem coded_eq_ok_iff {lone : StandIns} {s t : String} :
    lone.coded s = .ok t ↔ (∀ c ∈ s.toList, lone.isStandIn c = false) ∧ t = s := by
  rw [coded, ← firstRun?_eq_none_iff]
  cases firstRun? lone.isStandIn s.toList with
  | none => simp [eq_comm]
  | some run => simp

/-- What has no code is refused by the codec, not by this program. -/
theorem isOwn_of_coded {lone : StandIns} {s : String} {e : Failure} (h : lone.coded s = .error e) :
    e.isOwn = false := by
  rw [coded] at h
  split at h
  · cases h
  · obtain rfl := Except.error.inj h
    rfl

@[simp] theorem coded_empty (s : String) : ({} : StandIns).coded s = .ok s :=
  coded_eq_ok_iff.mpr ⟨fun c _ => isStandIn_empty c, rfl⟩

@[simp] theorem shown_empty (s : String) : ({} : StandIns).shown s = s := by
  simp [shown]

end StandIns

end FlowBoard.Text
