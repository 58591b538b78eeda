import FlowBoard.Proofs.Machine.Run

/-!
# Outcomes of runs

An outcome is specified by what holds of its value and what holds of its failure. The rules follow
the ways in which runs are put together.
-/

namespace FlowBoard

/-! ## Outcomes -/

/-- A result is a value of one kind or a failure of another. -/
def Outcome {α : Type} (gives : α → Prop) (fails : Failure → Prop) : Except Failure α → Prop
  | .ok a => gives a
  | .error e => fails e

section Outcome

variable {α β : Type} {gives gives' : α → Prop} {fails fails' : Failure → Prop}

theorem Outcome.imp {x : Except Failure α} (h : Outcome gives fails x)
    (hgives : ∀ a, gives a → gives' a) (hfails : ∀ e, fails e → fails' e) :
    Outcome gives' fails' x := by
  cases x with
  | ok a => exact hgives a h
  | error e => exact hfails e h

theorem Outcome.bind {x : Except Failure α} {f : α → Except Failure β} {gives' : β → Prop}
    (h : Outcome gives fails x) (hf : ∀ a, gives a → Outcome gives' fails (f a)) :
    Outcome gives' fails (x >>= f) := by
  cases x with
  | ok a => exact hf a h
  | error e => exact h

theorem Outcome.map {x : Except Failure α} {f : α → β} {gives' : β → Prop}
    (h : Outcome gives fails x) (hf : ∀ a, gives a → gives' (f a)) :
    Outcome gives' fails (x.map f) := by
  cases x with
  | ok a => exact hf a h
  | error e => exact h

end Outcome

/-! ## Faults at paths -/

namespace FileSystem

/-- The failure tells about a fault at a path. -/
def IsFault (e : Failure) : Prop := ∃ path fault, e = FileFault.failure path fault

theorem IsFault.isOwn_eq_false {e : Failure} (h : IsFault e) : e.isOwn = false := by
  obtain ⟨path, fault, rfl⟩ := h
  cases fault <;> rfl

/-- A result that comes to a fault at worst. -/
abbrev Faults {α : Type} (x : Except Failure α) : Prop := Outcome (fun _ => True) IsFault x

theorem faults_unlessThere (fs : FileSystem) (path : Path) (fault : FileFault) :
    Faults (fs.unlessThere path fault) := by
  rw [unlessThere]
  split_ifs
  · trivial
  · exact ⟨path, fault, rfl⟩

theorem faults_makeDirectoriesTo (depth : Nat) (fs : FileSystem) (path : Path) :
    Faults (makeDirectoriesTo depth fs path) := by
  induction depth generalizing path with
  | zero =>
    rw [makeDirectoriesTo]
    split
    case h_1 => trivial
    case h_2 => exact faults_unlessThere fs path _
  | succ depth ih =>
    rw [makeDirectoriesTo]
    split
    case h_1 => trivial
    case h_3 => exact faults_unlessThere fs path _
    case h_2 =>
      refine (ih path.parent).bind fun fs' _ => ?_
      split
      case h_1 => trivial
      case h_2 => exact ⟨path, .notFound, rfl⟩
      case h_3 => exact faults_unlessThere fs' path _

theorem faults_makeDirectories (fs : FileSystem) (path : Path) : Faults (fs.makeDirectories path) :=
  faults_makeDirectoriesTo _ fs path

theorem faults_writeText (fs : FileSystem) (path : Path) (s : String) :
    Faults (fs.writeText path s) := by
  rw [writeText]
  split
  · exact ⟨path, _, rfl⟩
  · split
    · exact ⟨path, _, rfl⟩
    · trivial

end FileSystem

/-! ## Runs -/

namespace Run

variable {α β : Type} {fails : Failure → Prop} {r : Run α}

/-- A run of which no more is known than how it fails. -/
def FailsOnly (fails : Failure → Prop) (r : Run α) : Prop :=
  ∀ m, Outcome (fun _ => True) fails (r m).1

namespace FailsOnly

theorem bind {f : α → Run β} (h : FailsOnly fails r) (hf : ∀ a, FailsOnly fails (f a)) :
    FailsOnly fails (r >>= f) := by
  intro m
  have houtcome := h m
  rcases hr : r m with ⟨e | a, m₁⟩
  · rw [hr] at houtcome
    rwa [bind_of_error hr]
  · rw [bind_of_ok hr]
    exact hf a m₁

theorem pure (a : α) : FailsOnly fails (Pure.pure a : Run α) := fun _ => trivial

theorem throw {e : Failure} (h : fails e) : FailsOnly fails (MonadExcept.throw e : Run α) :=
  fun _ => h

theorem ofExcept {x : Except Failure α} (h : Outcome (fun _ => True) fails x) :
    FailsOnly fails (Run.ofExcept x) := fun _ => h

theorem get : FailsOnly fails (MonadState.get : Run Machine) := fun _ => trivial

theorem modify (f : Machine → Machine) : FailsOnly fails (modify f : Run Unit) :=
  fun _ => trivial

theorem forM {f : α → Run Unit} (h : ∀ a, FailsOnly fails (f a)) (items : List α) :
    FailsOnly fails (items.forM f) := by
  induction items with
  | nil => exact pure ()
  | cons a rest ih =>
    rw [List.forM]
    exact (h a).bind fun _ => ih

end FailsOnly

/-- A run that can fail, but not with a failure of the program's own. -/
abbrev NeverOwn (r : Run α) : Prop := FailsOnly (fun e => e.isOwn = false) r

theorem neverOwn_of_faults {x : Except Failure α} (h : FileSystem.Faults x) :
    NeverOwn (ofExcept x) :=
  FailsOnly.ofExcept (h.imp (fun _ h => h) fun _ hfault => hfault.isOwn_eq_false)

theorem neverOwn_note (line : String) : NeverOwn (note line) := FailsOnly.modify _

theorem neverOwn_print (s : String) : NeverOwn (print s) := FailsOnly.modify _

theorem neverOwn_writeText (path : Path) (s : String) : NeverOwn (writeText path s) := by
  refine FailsOnly.get.bind fun m => ?_
  refine (neverOwn_of_faults (m.files.faults_makeDirectories _)).bind fun files => ?_
  refine (FailsOnly.modify _).bind fun _ => ?_
  refine (neverOwn_of_faults (files.faults_writeText path s)).bind fun _ => ?_
  exact FailsOnly.modify _

/-- A string without a code is refused by the codec. -/
theorem neverOwn_coded (lone : Text.StandIns) (s : String) : NeverOwn (ofExcept (lone.coded s)) :=
  fun _ => by
    cases hcoded : lone.coded s with
    | ok _ => trivial
    | error e => exact Text.StandIns.isOwn_of_coded hcoded

theorem neverOwn_printCoded (lone : Text.StandIns) (s : String) : NeverOwn (printCoded lone s) :=
  (neverOwn_coded lone s).bind neverOwn_print

theorem neverOwn_writeCoded (lone : Text.StandIns) (path : Path) (s : String) :
    NeverOwn (writeCoded lone path s) := by
  rw [writeCoded]
  split
  case h_1 s' _ => exact neverOwn_writeText path s'
  case h_2 e hcoded =>
    exact (neverOwn_writeText path "").bind fun _ =>
      FailsOnly.throw (Text.StandIns.isOwn_of_coded hcoded)

end Run

end FlowBoard
