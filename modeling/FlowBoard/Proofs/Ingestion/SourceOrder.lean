import FlowBoard.Source.Basic
import Mathlib.Data.List.Induction

/-!
# Sources are asked in order

Sources read and change a state `σ` when they are asked; `turns` are the ways in which they end when
they are asked one after the other. `Source.Ends` lists how a run over them can go: it passes over
the failures that are recovered, each with a line for the user, and ends at the first other turn.
Which failures are recovered and what the line says is put here in full, apart from the functions
that the run goes by.
-/

namespace FlowBoard.Source

variable {σ : Type}

/-- What is seen of a run: a source was asked, by its place in the list, or a line was written. -/
inductive Event
  | asked (place : Nat)
  | noted (line : String)
deriving DecidableEq, Repr

def Event.place? : Event → Option Nat
  | .asked place => some place
  | .noted _ => none

def Event.line? : Event → Option String
  | .asked _ => none
  | .noted line => some line

/-- The source at a place of the list, which tells when it is asked. -/
def watched (source : Source (StateM σ)) (place : Nat) : Source (StateM (σ × List Event)) where
  kind := source.kind
  ingest := fun (s, events) =>
    ((source.ingest s).1, (source.ingest s).2, events ++ [.asked place])

def watchNote (line : String) : StateM (σ × List Event) Unit := fun (s, events) =>
  ((), s, events ++ [.noted line])

/-- The run over sources in a mode, from a state, with what is seen of it. -/
def watchedRun (mode : String) (sources : List (Source (StateM σ))) (s : σ) :
    Except Failure Selection × σ × List Event :=
  firstUsable watchNote (mode == "auto") none
    (sources.zipIdx.map fun (source, place) => watched source place) (s, [])

/-! ## Turns -/

/-- How a source of some kind ends. -/
structure Turn where
  kind : String
  result : Except Failure Ingested

def turns : List (Source (StateM σ)) → σ → List Turn
  | [], _ => []
  | source :: rest, s => ⟨source.kind, (source.ingest s).1⟩ :: turns rest (source.ingest s).2

theorem length_turns (sources : List (Source (StateM σ))) (s : σ) :
    (turns sources s).length = sources.length := by
  induction sources generalizing s with
  | nil => rfl
  | cons source rest ih => rw [turns, List.length_cons, List.length_cons, ih]

/-- The failures that another source may make good: no address is configured, the network or the
transport of requests fails, the endpoint takes too long, or it answers with a status of 500 to
599. -/
def isOutage : FailureKind → Bool
  | .sourceUnavailable => true
  | .network => true
  | .endpointTimeout _ => true
  | .endpointResponse status => 500 ≤ status && status ≤ 599
  | .client (.timeout _) => true
  | .client (.transport _) => true
  | .client (.other _) => false
  | .general | .configuration | .source | .transport | .payload _ | .render => false
  | .fileSystem _ | .missingKey | .wrongType | .noMethod | .wrongValue | .malformedJson => false
  | .undecodable | .unencodable | .overflow | .foreign _ => false

theorem isRecoverable_eq_isOutage (e : Failure) : e.isRecoverable = isOutage e.kind := by
  obtain ⟨kind, message⟩ := e
  cases kind with
  | endpointResponse status =>
    have hlt : (status < 600) = (status ≤ 599) := propext (by omega)
    simp only [Failure.isRecoverable, FailureKind.isRecoverable, isOutage, hlt]
  | client fault => cases fault <;> rfl
  | _ => rfl

namespace Turn

def failure? (t : Turn) : Option Failure :=
  match t.result with
  | .ok _ => none
  | .error e => some e

/-- In automatic mode the structured source may fail in a way that the next source makes good. -/
def isRecovered (mode : String) (t : Turn) : Bool :=
  mode == "auto" && t.kind == "structured" && t.failure?.any (isOutage ·.kind)

/-- The line that tells of the failure. -/
def line? (t : Turn) : Option String :=
  t.failure?.map fun e =>
    "[ingest] " ++ t.kind ++ " source failed (" ++ e.message ++ "); trying next source"

theorem isRecovered_error (mode kind : String) (e : Failure) :
    isRecovered mode ⟨kind, .error e⟩ = recovers (mode == Mode.auto.name) kind e := by
  rw [recovers, isRecoverable_eq_isOutage]
  rfl

theorem exists_failure_of_isRecovered {mode : String} {t : Turn} (h : t.isRecovered mode = true) :
    ∃ e, t = ⟨t.kind, .error e⟩ := by
  obtain ⟨kind, result⟩ := t
  cases result with
  | ok ingested => simp [isRecovered, failure?] at h
  | error e => exact ⟨e, rfl⟩

theorem isRecovered_of_ne_auto {mode : String} (h : mode ≠ "auto") (t : Turn) :
    t.isRecovered mode = false := by
  simp [isRecovered, h]

end Turn

/-- What is seen of turns that are passed over, from the first place on. -/
def passedEvents (passed : List Turn) : List Event :=
  passed.zipIdx.flatMap fun (t, place) => .asked place :: t.line?.toList.map .noted

/-- How a run can end, with all that is seen of it. -/
inductive Ends (mode : String) (turns : List Turn) : Except Failure Selection → List Event → Prop
  | selected (passed : List Turn) (kind : String) (ingested : Ingested) (later : List Turn)
      (order : turns = passed ++ ⟨kind, .ok ingested⟩ :: later)
      (recovered : ∀ t ∈ passed, t.isRecovered mode = true) :
      Ends mode turns (.ok ⟨kind, mode == "auto" && !passed.isEmpty, ingested⟩)
        (passedEvents passed ++ [.asked passed.length])
  | stopped (passed : List Turn) (kind : String) (e : Failure) (later : List Turn)
      (order : turns = passed ++ ⟨kind, .error e⟩ :: later)
      (recovered : ∀ t ∈ passed, t.isRecovered mode = true)
      (final : Turn.isRecovered mode ⟨kind, .error e⟩ = false) :
      Ends mode turns (.error e) (passedEvents passed ++ [.asked passed.length])
  | exhausted (passed : List Turn) (kind : String) (e : Failure)
      (order : turns = passed ++ [⟨kind, .error e⟩])
      (recovered : ∀ t ∈ turns, t.isRecovered mode = true) :
      Ends mode turns (.error e) (passedEvents turns)
  | noSource (order : turns = []) :
      Ends mode turns (.error ⟨.general, "No source is available for ingestion."⟩) []

/-! ## What is seen of passed turns -/

theorem passedEvents_concat (passed : List Turn) (t : Turn) :
    passedEvents (passed ++ [t]) =
      passedEvents passed ++ .asked passed.length :: t.line?.toList.map .noted := by
  simp [passedEvents, List.zipIdx_append]

theorem places_passedEvents (passed : List Turn) :
    (passedEvents passed).filterMap Event.place? = List.range passed.length := by
  induction passed using List.reverseRecOn with
  | nil => rfl
  | append_singleton passed t ih =>
    have hline : (t.line?.toList.map Event.noted).filterMap Event.place? = [] := by
      cases t.line? <;> rfl
    rw [passedEvents_concat, List.filterMap_append, ih, List.filterMap_cons, Event.place?, hline,
      List.length_append, List.length_singleton, List.range_succ]

theorem lines_passedEvents (passed : List Turn) :
    (passedEvents passed).filterMap Event.line? = passed.filterMap Turn.line? := by
  induction passed using List.reverseRecOn with
  | nil => rfl
  | append_singleton passed t ih =>
    have hline : (t.line?.toList.map Event.noted).filterMap Event.line? = t.line?.toList := by
      cases t.line? <;> rfl
    rw [passedEvents_concat, List.filterMap_append, ih, List.filterMap_cons, Event.line?, hline,
      List.filterMap_append]
    cases h : t.line? <;> simp [h]

/-! ## Runs -/

theorem firstUsable_cons {τ : Type} (warn : String → StateM τ Unit) (isAuto : Bool)
    (last : Option Failure) (source : Source (StateM τ)) (rest : List (Source (StateM τ))) (s : τ) :
    firstUsable warn isAuto last (source :: rest) s =
      match source.ingest s with
      | (.ok ingested, s) => (.ok ⟨source.kind, isAuto && last.isSome, ingested⟩, s)
      | (.error e, s) =>
        if recovers isAuto source.kind e then
          firstUsable warn isAuto (some e) rest (warn (warning source.kind e) s).2
        else (.error e, s) := by
  rw [firstUsable]
  simp only [bind, StateT.bind]
  obtain ⟨result, s⟩ := source.ingest s
  cases result with
  | ok ingested => rfl
  | error e =>
    by_cases h : recovers isAuto source.kind e = true
    · simp only [h, if_true]
      rfl
    · simp only [h]
      rfl

theorem firstUsable_watched (isAuto : Bool) (last : Option Failure) (source : Source (StateM σ))
    (place : Nat) (rest : List (Source (StateM (σ × List Event)))) (s : σ) (events : List Event) :
    firstUsable watchNote isAuto last (watched source place :: rest) (s, events) =
      match (source.ingest s).1 with
      | .ok ingested => (.ok ⟨source.kind, isAuto && last.isSome, ingested⟩, (source.ingest s).2,
          events ++ [.asked place])
      | .error e =>
        if recovers isAuto source.kind e then
          firstUsable watchNote isAuto (some e) rest ((source.ingest s).2,
            events ++ [.asked place] ++ [.noted (warning source.kind e)])
        else (.error e, (source.ingest s).2, events ++ [.asked place]) := by
  rw [firstUsable_cons]
  simp only [watched]
  cases (source.ingest s).1 with
  | ok ingested => rfl
  | error e => rfl

theorem isSome_failure?_getLast? {mode : String} {passed : List Turn}
    (h : ∀ t ∈ passed, t.isRecovered mode = true) :
    (passed.getLast?.bind Turn.failure?).isSome = !passed.isEmpty := by
  cases passed using List.reverseRecOn with
  | nil => rfl
  | append_singleton passed t =>
    obtain ⟨e, he⟩ := Turn.exists_failure_of_isRecovered (h t (by simp))
    rw [he]
    simp [Turn.failure?]

/-- A run that has passed over the turns before goes on in one of the ways listed. -/
theorem ends_of_firstUsable_eq {mode : String} {before : List Turn}
    (hbefore : ∀ t ∈ before, t.isRecovered mode = true) {sources : List (Source (StateM σ))}
    {s s' : σ} {result : Except Failure Selection} {events : List Event}
    (hrun : firstUsable watchNote (mode == Mode.auto.name) (before.getLast?.bind Turn.failure?)
      ((sources.zipIdx before.length).map fun (source, place) => watched source place)
      (s, passedEvents before) = (result, s', events)) :
    Ends mode (before ++ turns sources s) result events := by
  induction sources generalizing before s with
  | nil =>
    cases hrun
    rw [turns, List.append_nil]
    cases before using List.reverseRecOn with
    | nil => exact .noSource rfl
    | append_singleton passed t =>
      obtain ⟨e, he⟩ := Turn.exists_failure_of_isRecovered (hbefore t (by simp))
      rw [he] at hbefore ⊢
      rw [List.getLast?_concat]
      exact .exhausted passed t.kind e rfl hbefore
  | cons source rest ih =>
    rw [List.zipIdx_cons, List.map_cons, firstUsable_watched] at hrun
    rw [turns]
    cases hresult : (source.ingest s).1 with
    | ok ingested =>
      rw [hresult] at hrun
      obtain ⟨rfl, -, rfl⟩ := by simpa using hrun
      rw [isSome_failure?_getLast? hbefore]
      exact .selected before source.kind ingested _ rfl hbefore
    | error e =>
      rw [hresult] at hrun
      simp only at hrun
      split_ifs at hrun with hrec
      · rw [← List.singleton_append, ← List.append_assoc]
        have hpassed : ∀ t ∈ before ++ [⟨source.kind, .error e⟩], t.isRecovered mode = true := by
          intro t ht
          rcases List.mem_append.mp ht with hmem | hlast
          · exact hbefore t hmem
          · rw [List.mem_singleton.mp hlast, Turn.isRecovered_error]
            exact hrec
        refine ih hpassed ?_
        rw [passedEvents_concat, List.getLast?_concat, List.length_append]
        rw [List.append_assoc] at hrun
        exact hrun
      · obtain ⟨rfl, -, rfl⟩ := by simpa using hrun
        refine .stopped before source.kind e _ rfl hbefore ?_
        rw [Turn.isRecovered_error]
        exact Bool.eq_false_iff.mpr hrec

namespace Ends

variable {mode : String} {turns : List Turn} {result : Except Failure Selection}
  {events : List Event}

theorem passed_eq_nil_of_ne_auto {passed : List Turn} (hmode : mode ≠ "auto")
    (h : ∀ t ∈ passed, t.isRecovered mode = true) : passed = [] := by
  apply List.eq_nil_iff_forall_not_mem.mpr
  intro t ht
  have hnot := Turn.isRecovered_of_ne_auto hmode t
  rw [h t ht] at hnot
  cases hnot

/-- The source that ends a run is the last that is asked, and tells of no failure recovered. -/
theorem seen_of_stop {passed : List Turn} {t : Turn} (later : List Turn)
    (h : ∀ t ∈ passed, t.isRecovered mode = true) (ht : t.isRecovered mode = false) :
    (passedEvents passed ++ [Event.asked passed.length]).filterMap Event.place? =
        List.range (passed.length + 1) ∧
      (passedEvents passed ++ [Event.asked passed.length]).filterMap Event.line? =
        (((passed ++ t :: later).take (passed.length + 1)).filter
          (·.isRecovered mode)).filterMap Turn.line? := by
  have htake : (passed ++ t :: later).take (passed.length + 1) = passed ++ [t] := by
    rw [List.take_append, List.take_of_length_le (Nat.le_succ _)]
    simp
  have hfilter : (passed ++ [t]).filter (·.isRecovered mode) = passed := by
    rw [List.filter_append, List.filter_eq_self.mpr h]
    simp [ht]
  constructor
  · rw [List.filterMap_append, places_passedEvents, List.range_succ]
    rfl
  · rw [List.filterMap_append, lines_passedEvents, htake, hfilter]
    exact List.append_nil _

/-- Seen are the sources that were asked, in order, and a line for each failure recovered. -/
theorem seen (h : Ends mode turns result events) : ∃ count ≤ turns.length,
    events.filterMap Event.place? = List.range count ∧
    events.filterMap Event.line? =
      ((turns.take count).filter (·.isRecovered mode)).filterMap Turn.line? ∧
    (mode ≠ "auto" → count ≤ 1) := by
  cases h with
  | selected passed kind ingested later order recovered =>
    subst order
    have hfinal : Turn.isRecovered mode ⟨kind, .ok ingested⟩ = false := by
      simp [Turn.isRecovered, Turn.failure?]
    obtain ⟨hplaces, hlines⟩ := seen_of_stop later recovered hfinal
    refine ⟨passed.length + 1, by simp, hplaces, hlines, fun hmode => ?_⟩
    rw [passed_eq_nil_of_ne_auto hmode recovered]
    exact Nat.le_refl 1
  | stopped passed kind e later order recovered final =>
    subst order
    obtain ⟨hplaces, hlines⟩ := seen_of_stop later recovered final
    refine ⟨passed.length + 1, by simp, hplaces, hlines, fun hmode => ?_⟩
    rw [passed_eq_nil_of_ne_auto hmode recovered]
    exact Nat.le_refl 1
  | exhausted passed kind e order recovered =>
    refine ⟨turns.length, Nat.le_refl _, places_passedEvents turns, ?_, fun hmode => ?_⟩
    · rw [lines_passedEvents, List.take_length, List.filter_eq_self.mpr recovered]
    · rw [passed_eq_nil_of_ne_auto hmode recovered]
      exact Nat.zero_le 1
  | noSource order => exact ⟨0, Nat.zero_le _, rfl, rfl, fun _ => Nat.zero_le 1⟩

end Ends

/-- A run ends at the first source that is not passed over, and asks and tells of no other. -/
theorem watchedRun_ends (mode : String) (sources : List (Source (StateM σ))) (s : σ) :
    Ends mode (turns sources s) (watchedRun mode sources s).1 (watchedRun mode sources s).2.2 ∧
      ∃ count ≤ sources.length,
        (watchedRun mode sources s).2.2.filterMap Event.place? = List.range count ∧
        (watchedRun mode sources s).2.2.filterMap Event.line? =
          (((turns sources s).take count).filter (·.isRecovered mode)).filterMap Turn.line? ∧
        (mode ≠ "auto" → count ≤ 1) := by
  have hends : Ends mode (turns sources s) (watchedRun mode sources s).1
      (watchedRun mode sources s).2.2 := by
    have hnone : ∀ t ∈ ([] : List Turn), t.isRecovered mode = true := by simp
    exact ends_of_firstUsable_eq hnone rfl
  refine ⟨hends, ?_⟩
  rw [← length_turns sources s]
  exact hends.seen

end FlowBoard.Source
