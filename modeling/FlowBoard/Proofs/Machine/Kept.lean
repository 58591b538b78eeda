import FlowBoard.Proofs.Machine.Outcome

/-!
# What a run leaves as it was

A view is what is seen of a machine. A run keeps it when the machine looks the same after the run,
however that ends. A run spares it when it looks the same after a failure of the program's own: it
keeps the view up to the last step that can fail in such a way.
-/

namespace FlowBoard

/-- The files and what was written to standard output. -/
def Machine.output (m : Machine) : FileSystem × String := (m.files, m.stdout)

/-- The output with the starts of the rasterizer. -/
def Machine.effects (m : Machine) : (FileSystem × String) × List RasterCall := (m.output, m.calls)

namespace Run

variable {α β γ δ : Type} {view : Machine → γ} {r : Run α}

def Keeps (view : Machine → γ) (r : Run α) : Prop := ∀ m, view (r m).2 = view m

namespace Keeps

theorem comp (h : Keeps view r) (f : γ → δ) : Keeps (fun m => f (view m)) r :=
  fun m => congrArg f (h m)

theorem bind {f : α → Run β} (h : Keeps view r) (hf : ∀ a, Keeps view (f a)) :
    Keeps view (r >>= f) := by
  intro m
  rcases hr : r m with ⟨e | a, m₁⟩
  · rw [bind_of_error hr, ← h m, hr]
  · rw [bind_of_ok hr, hf a m₁, ← h m, hr]

theorem pure (a : α) : Keeps view (Pure.pure a : Run α) := fun _ => rfl

theorem throw (e : Failure) : Keeps view (MonadExcept.throw e : Run α) := fun _ => rfl

theorem throw_bind (e : Failure) (f : α → Run β) :
    Keeps view ((MonadExcept.throw e : Run α) >>= f) := fun _ => rfl

theorem ite {c : Prop} [Decidable c] {r r' : Run α} (h : Keeps view r) (h' : Keeps view r') :
    Keeps view (if c then r else r') := by
  split_ifs
  · exact h
  · exact h'

theorem ofExcept (x : Except Failure α) : Keeps view (Run.ofExcept x) := fun _ => rfl

theorem get : Keeps view (MonadState.get : Run Machine) := fun _ => rfl

theorem modify {f : Machine → Machine} (h : ∀ m, view (f m) = view m) :
    Keeps view (modify f : Run Unit) := h

theorem attempt (h : Keeps view r) : Keeps view (Run.attempt r) := h

theorem forM {f : α → Run Unit} (h : ∀ a, Keeps view (f a)) (items : List α) :
    Keeps view (items.forM f) := by
  induction items with
  | nil => exact pure ()
  | cons a rest ih =>
    rw [List.forM]
    exact (h a).bind fun _ => ih

end Keeps

theorem keeps_readText (path : Path) : Keeps view (readText path) :=
  Keeps.get.bind fun _ => Keeps.ofExcept _

theorem keeps_readStdin (interactive : Failure) : Keeps view (readStdin interactive) := by
  refine Keeps.get.bind fun m => ?_
  cases m.stdin with
  | none => exact Keeps.throw _
  | some s => exact Keeps.pure _

theorem keeps_note (line : String) : Keeps Machine.effects (note line) :=
  Keeps.modify fun _ => rfl

theorem keeps_send (request : Http.Request) : Keeps Machine.effects (send request) := by
  refine (Keeps.ofExcept _).bind fun _ => ?_
  refine (Keeps.modify ?_).bind fun _ => Keeps.get.bind fun m => ?_
  · exact fun _ => rfl
  cases m.replies with
  | nil => exact Keeps.pure _
  | cons reply rest =>
    refine (Keeps.modify ?_).bind fun _ => Keeps.pure _
    exact fun _ => rfl

/-! ## After failures of the program's own -/

def Spares (view : Machine → γ) (r : Run α) : Prop :=
  ∀ m e m', r m = (.error e, m') → e.isOwn = true → view m' = view m

namespace Spares

theorem of_keeps (h : Keeps view r) : Spares view r := by
  intro m e m' hr _
  rw [← h m, hr]

/-- A run that never fails in such a way may do what it likes. -/
theorem of_neverOwn (h : NeverOwn r) : Spares view r := by
  intro m e m' hr hown
  have hfails := h m
  rw [hr] at hfails
  exact absurd (hfails.symm.trans hown) Bool.false_ne_true

theorem bind {f : α → Run β} (h : Keeps view r) (hf : ∀ a, Spares view (f a)) :
    Spares view (r >>= f) := by
  intro m e m' hrun hown
  rcases hr : r m with ⟨e₁ | a, m₁⟩
  · rw [bind_of_error hr] at hrun
    obtain ⟨-, rfl⟩ := Prod.mk.inj hrun
    rw [← h m, hr]
  · rw [bind_of_ok hr] at hrun
    rw [hf a m₁ e m' hrun hown, ← h m, hr]

theorem ite {c : Prop} [Decidable c] {r r' : Run α} (h : c → Spares view r)
    (h' : ¬c → Spares view r') : Spares view (if c then r else r') := by
  split_ifs with hc
  · exact h hc
  · exact h' hc

end Spares

end Run

end FlowBoard
