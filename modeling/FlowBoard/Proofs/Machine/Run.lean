import FlowBoard.Machine.Basic
import FlowBoard.Proofs.Text.StandIns

/-!
# Runs as functions of the machine

What each primitive run gives on a machine, and the machine that it leaves.
-/

namespace FlowBoard

namespace Machine

/-- What the next request comes to. -/
def nextReply (m : Machine) : Http.Reply := m.replies.headD Run.unanswered

/-- The machine after a request was sent. -/
def sent (m : Machine) (request : Http.Request) : Machine :=
  { m with requests := m.requests ++ [request], replies := m.replies.tail }

/-- The machine after a line was written for the user. -/
def noted (m : Machine) (line : String) : Machine := { m with stderr := m.stderr ++ line ++ "\n" }

theorem files_foldl_noted {α : Type} (line : α → String) (items : List α) (m : Machine) :
    (items.foldl (fun m i => m.noted (line i)) m).files = m.files := by
  induction items generalizing m with
  | nil => rfl
  | cons i rest ih => exact ih (m.noted (line i))

end Machine

namespace Run

variable {α β : Type}

theorem bind_of_ok {r : Run α} {m m' : Machine} {a : α} (h : r m = (.ok a, m')) (f : α → Run β) :
    (r >>= f) m = f a m' := by
  change ExceptT.bindCont f (r m).1 (r m).2 = _
  rw [h]
  rfl

theorem bind_of_error {r : Run α} {m m' : Machine} {e : Failure} (h : r m = (.error e, m'))
    (f : α → Run β) : (r >>= f) m = (.error e, m') := by
  change ExceptT.bindCont f (r m).1 (r m).2 = _
  rw [h]
  rfl

/-- A run in two steps succeeds when each of them does. -/
theorem bind_eq_ok_iff {r : Run α} {f : α → Run β} {m m' : Machine} {b : β} :
    (r >>= f) m = (.ok b, m') ↔ ∃ a m₁, r m = (.ok a, m₁) ∧ f a m₁ = (.ok b, m') := by
  constructor
  · intro h
    rcases hr : r m with ⟨e | a, m₁⟩
    · exact absurd (congrArg Prod.fst ((bind_of_error hr f).symm.trans h)) nofun
    · exact ⟨a, m₁, rfl, (bind_of_ok hr f).symm.trans h⟩
  · rintro ⟨a, m₁, hr, hf⟩
    exact (bind_of_ok hr f).trans hf

theorem pure_eq_ok_iff {a b : α} {m m' : Machine} :
    (pure a : Run α) m = (.ok b, m') ↔ b = a ∧ m' = m := by
  change (Except.ok a, m) = (.ok b, m') ↔ _
  rw [Prod.mk.injEq, Except.ok.injEq, eq_comm, eq_comm (a := m)]

theorem ofExcept_eq_ok_iff {e : Except Failure α} {a : α} {m m' : Machine} :
    ofExcept e m = (.ok a, m') ↔ e = .ok a ∧ m' = m := by
  change (e, m) = (.ok a, m') ↔ _
  rw [Prod.mk.injEq, eq_comm (a := m)]

theorem get_eq_ok_iff {m m₀ m' : Machine} :
    (get : Run Machine) m = (.ok m₀, m') ↔ m₀ = m ∧ m' = m := by
  change (Except.ok m, m) = (.ok m₀, m') ↔ _
  rw [Prod.mk.injEq, Except.ok.injEq, eq_comm, eq_comm (a := m)]

theorem modify_eq_ok_iff {f : Machine → Machine} {u : Unit} {m m' : Machine} :
    (modify f : Run Unit) m = (.ok u, m') ↔ m' = f m := by
  change (Except.ok (), f m) = (.ok u, m') ↔ _
  simp [eq_comm]

theorem note_eq_ok_iff {line : String} {u : Unit} {m m' : Machine} :
    note line m = (.ok u, m') ↔ m' = m.noted line := modify_eq_ok_iff

theorem printCoded_of_plain {lone : Text.StandIns} {s : String}
    (h : ∀ c ∈ s.toList, lone.isStandIn c = false) : printCoded lone s = print s := by
  rw [printCoded, Text.StandIns.coded_eq_ok_iff.mpr ⟨h, rfl⟩]
  rfl

theorem printCoded_eq_ok_iff {lone : Text.StandIns} {s : String} {u : Unit} {m m' : Machine} :
    printCoded lone s m = (.ok u, m') ↔
      (∀ c ∈ s.toList, lone.isStandIn c = false) ∧ print s m = (.ok u, m') := by
  simp only [printCoded, bind_eq_ok_iff, ofExcept_eq_ok_iff, Text.StandIns.coded_eq_ok_iff]
  constructor
  · rintro ⟨_, _, ⟨⟨hplain, rfl⟩, rfl⟩, hprint⟩
    exact ⟨hplain, hprint⟩
  · rintro ⟨hplain, hprint⟩
    exact ⟨_, _, ⟨⟨hplain, rfl⟩, rfl⟩, hprint⟩

theorem writeCoded_of_plain {lone : Text.StandIns} {s : String}
    (h : ∀ c ∈ s.toList, lone.isStandIn c = false) (path : Path) :
    writeCoded lone path s = writeText path s := by
  rw [writeCoded, Text.StandIns.coded_eq_ok_iff.mpr ⟨h, rfl⟩]

/-- A string is written if it has a code. -/
theorem writeCoded_eq_ok_iff {lone : Text.StandIns} {path : Path} {s : String} {u : Unit}
    {m m' : Machine} : writeCoded lone path s m = (.ok u, m') ↔
      (∀ c ∈ s.toList, lone.isStandIn c = false) ∧ writeText path s m = (.ok u, m') := by
  rw [writeCoded]
  cases hcoded : lone.coded s with
  | ok t =>
    obtain ⟨hplain, rfl⟩ := Text.StandIns.coded_eq_ok_iff.mp hcoded
    exact (and_iff_right hplain).symm
  | error e =>
    refine iff_of_false ?_ fun h => ?_
    · rw [bind_eq_ok_iff]
      rintro ⟨_, m₁, -, hthrow⟩
      exact absurd (congrArg Prod.fst hthrow) nofun
    · rw [Text.StandIns.coded_eq_ok_iff.mpr ⟨h.1, rfl⟩] at hcoded
      cases hcoded

/-- A line is written for each item. -/
theorem forM_note_eq_ok_iff {line : α → String} {items : List α} {u : Unit} {m m' : Machine} :
    (items.forM fun i => note (line i)) m = (.ok u, m') ↔
      m' = items.foldl (fun m i => m.noted (line i)) m := by
  induction items generalizing m with
  | nil =>
    change (Except.ok (), m) = (.ok u, m') ↔ _
    simp [eq_comm]
  | cons i rest ih =>
    rw [List.forM, bind_eq_ok_iff]
    simp only [note_eq_ok_iff, ih, List.foldl_cons]
    constructor
    · rintro ⟨_, _, rfl, h⟩
      exact h
    · exact fun h => ⟨(), _, rfl, h⟩

theorem attempt_eq {r : Run α} {m m' : Machine} {result : Except Failure α}
    (h : r m = (result, m')) : attempt r m = (.ok result, m') := by
  rw [attempt, h]

theorem send_of_ok {request : Http.Request} (h : request.check = .ok ()) (m : Machine) :
    send request m = (.ok m.nextReply, m.sent request) := by
  have hcheck : ofExcept request.check m = (.ok (), m) := by rw [h]; rfl
  rw [send, bind_of_ok hcheck]
  obtain ⟨files, env, stdin, replies, rasterizer, faults, stdout, stderr, requests, calls,
    temps⟩ := m
  cases replies with
  | nil => rfl
  | cons reply rest => rfl

theorem send_of_error {request : Http.Request} {e : Failure} (h : request.check = .error e)
    (m : Machine) : send request m = (.error e, m) := by
  have hcheck : ofExcept request.check m = (.error e, m) := by rw [h]; rfl
  rw [send, bind_of_error hcheck]

theorem readStdin_of_none {interactive : Failure} {m : Machine} (h : m.stdin = none) :
    readStdin interactive m = (.error interactive, m) := by
  have hget : (get : Run Machine) m = (.ok m, m) := rfl
  rw [readStdin, bind_of_ok hget, h]
  rfl

theorem readStdin_of_some {interactive : Failure} {m : Machine} {s : String}
    (h : m.stdin = some s) :
    readStdin interactive m = (.ok (String.ofList (Text.unifyNewlines s.toList)), m) := by
  have hget : (get : Run Machine) m = (.ok m, m) := rfl
  rw [readStdin, bind_of_ok hget, h]
  rfl

end Run

end FlowBoard
