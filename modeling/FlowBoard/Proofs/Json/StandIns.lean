import FlowBoard.Json.Reader

/-!
# Which stand-ins a text needs

They depend on what is read from the text only, and a text that is read alike with any of them
needs none.
-/

namespace FlowBoard.Json

open Text (StandIns)

variable {text text' : StandIns → List Char} {v : Json}

/-- What one of two texts is read as is what the other is read as. -/
theorem exists_error_of_readWith {lone : StandIns} {cs ds : List Char} {e : ReadError}
    (h : ∀ v, readWith lone cs = .ok v ↔ readWith lone ds = .ok v)
    (hread : readWith lone cs = .error e) : ∃ e', readWith lone ds = .error e' := by
  cases hds : readWith lone ds with
  | error e' => exact ⟨e', rfl⟩
  | ok v =>
    have hcs := (h v).mpr hds
    rw [hread] at hcs
    cases hcs

theorem standInsFor_congr
    (h : ∀ lone v, readWith lone (text lone) = .ok v ↔ readWith lone (text' lone) = .ok v) :
    standInsFor text = standInsFor text' := by
  rw [standInsFor, standInsFor]
  cases hbare : readWith {} (text {}) with
  | error e =>
    obtain ⟨e', hbare'⟩ := exists_error_of_readWith (h {}) hbare
    rw [hbare']
  | ok plain =>
    simp only [(h {} plain).mp hbare]
    cases hspare : readWith (spareRun plain) (text (spareRun plain)) with
    | error e =>
      obtain ⟨e', hspare'⟩ := exists_error_of_readWith (h (spareRun plain)) hspare
      rw [hspare']
    | ok v => rw [(h (spareRun plain) v).mp hspare]

/-- The run that is found spare has no character in the value. -/
theorem spareRun_eq_empty (h : v.anyChar (spareRun v).isStandIn = true) : spareRun v = {} := by
  cases hfind : StandIns.runs.find? fun lone => !v.anyChar lone.isStandIn with
  | none => rw [spareRun, hfind, Option.getD_none]
  | some lone =>
    have hspare := List.find?_some hfind
    rw [spareRun, hfind, Option.getD_some] at h
    simp [h] at hspare

theorem standInsFor_eq_empty (h : ∀ lone, readWith lone (text lone) = .ok v) :
    standInsFor text = {} := by
  rw [standInsFor, h {}]
  simp only [h (spareRun v)]
  split
  · next hany => exact spareRun_eq_empty hany
  · rfl

end FlowBoard.Json
