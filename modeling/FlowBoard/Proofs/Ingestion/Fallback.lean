import FlowBoard.Pipeline
import FlowBoard.Proofs.Ingestion.Exchange

/-!
# Automatic mode

In automatic mode a run is that of the structured endpoint, unless the endpoint is out of service:
then it is that of the board service on the replies that are left. `Pipeline.StructuredElseTree`
says what a run sends and what it comes to.
-/

namespace FlowBoard

namespace Settings

/-- What the structured endpoint answers, if it is set to an address that a request can go to. -/
def endpointReply? (s : Settings) (m : Machine) : Option Http.Reply :=
  s.endpoint?.bind fun url => (Http.Address.ofChars url.toList).toOption.map fun _ => m.nextReply

def EndpointIsOut (s : Settings) (m : Machine) : Prop :=
  s.endpoint? = none ∨ ∃ reply, s.endpointReply? m = some reply ∧ reply.Outage

/-- The replies that the structured endpoint leaves. -/
def remaining (s : Settings) (m : Machine) : List Http.Reply :=
  match s.endpointReply? m with
  | some _ => m.replies.tail
  | none => m.replies

variable {s : Settings} {m : Machine} {url : String} (hurl : s.endpoint? = some url)

theorem endpointReply?_of_unset (h : s.endpoint? = none) : s.endpointReply? m = none := by
  rw [endpointReply?, h, Option.bind_none]

include hurl

theorem endpointReply?_of_noAddress {fault : Http.AddressFault}
    (h : Http.Address.ofChars url.toList = .error fault) : s.endpointReply? m = none := by
  rw [endpointReply?, hurl, Option.bind_some, h]
  rfl

theorem endpointReply?_of_address {address : Http.Address}
    (h : Http.Address.ofChars url.toList = .ok address) :
    s.endpointReply? m = some m.nextReply := by
  rw [endpointReply?, hurl, Option.bind_some, h]
  rfl

theorem not_endpointIsOut_of_noAddress {fault : Http.AddressFault}
    (h : Http.Address.ofChars url.toList = .error fault) : ¬ s.EndpointIsOut m := by
  rintro (hunset | ⟨reply, hreply, _⟩)
  · rw [hurl] at hunset
    cases hunset
  · rw [endpointReply?_of_noAddress hurl h] at hreply
    cases hreply

theorem endpointIsOut_iff_of_address {address : Http.Address}
    (h : Http.Address.ofChars url.toList = .ok address) :
    s.EndpointIsOut m ↔ m.nextReply.Outage := by
  have hreply := endpointReply?_of_address (m := m) hurl h
  constructor
  · rintro (hunset | ⟨reply, hsome, houtage⟩)
    · rw [hurl] at hunset
      cases hunset
    · rw [hreply] at hsome
      cases hsome
      exact houtage
  · exact fun houtage => .inr ⟨m.nextReply, hreply, houtage⟩

end Settings

/-- A result of a source as automatic mode reports it. -/
def PipelineResult.inAuto (kind : SourceKind) (fallbackUsed : Bool) (r : PipelineResult) :
    PipelineResult :=
  { r with requested := Mode.auto.name, selected := kind.name, fallbackUsed }

/-! ## Runs over sources -/

namespace Source

theorem firstUsable_of_ok {isAuto : Bool} {last : Option Failure} {kind : String}
    {r : Run Ingested} {m m' : Machine} {ingested : Ingested} (h : r m = (.ok ingested, m'))
    (rest : List (Source Run)) :
    firstUsable Run.note isAuto last (⟨kind, Run.attempt r⟩ :: rest) m =
      (.ok (.ok ⟨kind, isAuto && last.isSome, ingested⟩), m') := by
  rw [firstUsable, Run.bind_of_ok (Run.attempt_eq h)]
  rfl

theorem firstUsable_of_final {isAuto : Bool} {last : Option Failure} {kind : String}
    {r : Run Ingested} {m m' : Machine} {e : Failure} (h : r m = (.error e, m'))
    (hfinal : recovers isAuto kind e = false) (rest : List (Source Run)) :
    firstUsable Run.note isAuto last (⟨kind, Run.attempt r⟩ :: rest) m =
      (.ok (.error e), m') := by
  rw [firstUsable, Run.bind_of_ok (Run.attempt_eq h)]
  simp only [hfinal]
  rfl

theorem firstUsable_of_recovered {isAuto : Bool} {last : Option Failure} {kind : String}
    {r : Run Ingested} {m m' : Machine} {e : Failure} (h : r m = (.error e, m'))
    (hrecovered : recovers isAuto kind e = true) (rest : List (Source Run)) :
    firstUsable Run.note isAuto last (⟨kind, Run.attempt r⟩ :: rest) m =
      firstUsable Run.note isAuto (some e) rest (m'.noted (warning kind e)) := by
  have hnote : Run.note (warning kind e) m' = (.ok (), m'.noted (warning kind e)) := rfl
  rw [firstUsable, Run.bind_of_ok (Run.attempt_eq h)]
  simp only [hrecovered, if_true]
  rw [Run.bind_of_ok hnote]

theorem firstUsable_single {last : Option Failure} {kind : String} {isAuto : Bool}
    (r : Run Ingested) (m : Machine) (hfinal : ∀ e, recovers isAuto kind e = false) :
    firstUsable Run.note isAuto last [⟨kind, Run.attempt r⟩] m =
      (.ok ((r m).1.map fun ingested => ⟨kind, isAuto && last.isSome, ingested⟩), (r m).2) := by
  rcases hr : r m with ⟨result, m'⟩
  cases result with
  | ok ingested => exact firstUsable_of_ok hr []
  | error e => exact firstUsable_of_final hr (hfinal e) []

end Source

namespace Pipeline

open Source Http

variable {address : String} {settings : Settings} {request : SourceRequest}
  {direction : Option String} {layout : String} {m : Machine}

theorem finish_auto (mode : Mode) (kind : SourceKind) (fallbackUsed : Bool) (ingested : Ingested) :
    finish Mode.auto.name direction layout ⟨kind.name, fallbackUsed, ingested⟩ =
      (finish mode.name direction layout ⟨kind.name, false, ingested⟩).map
        (PipelineResult.inAuto kind fallbackUsed) := by
  simp only [finish]
  cases ingested.document.render direction layout with
  | ok pages => rfl
  | error e => rfl

theorem run_of_selection (mode : Mode) {selection : Except Failure Selection} {m' : Machine}
    (h : firstUsable Run.note (mode == .auto) none (sources address settings request mode) m =
      (.ok selection, m')) :
    run address settings request mode direction layout m =
      (selection.bind (finish mode.name direction layout), m') := by
  rw [run, Run.bind_of_ok h]
  rfl

theorem run_tree : run address settings request .tree direction layout m =
    ((ingestTree address request m).1.bind fun ingested =>
      finish Mode.tree.name direction layout ⟨SourceKind.tree.name, false, ingested⟩,
      (ingestTree address request m).2) := by
  rw [run_of_selection .tree (firstUsable_single _ m fun e => rfl)]
  cases (ingestTree address request m).1 with
  | ok ingested => rfl
  | error e => rfl

theorem run_structured : run address settings request .structured direction layout m =
    ((ingestStructured settings request m).1.bind fun ingested =>
      finish Mode.structured.name direction layout ⟨SourceKind.structured.name, false, ingested⟩,
      (ingestStructured settings request m).2) := by
  rw [run_of_selection .structured (firstUsable_single _ m fun e => rfl)]
  cases (ingestStructured settings request m).1 with
  | ok ingested => rfl
  | error e => rfl

theorem run_auto_of_final
    (hfinal : ∀ e, (ingestStructured settings request m).1 = .error e → e.isRecoverable = false) :
    run address settings request .auto direction layout m =
      ((run address settings request .structured direction layout m).1.map
        (PipelineResult.inAuto .structured false), (ingestStructured settings request m).2) := by
  rw [run_structured]
  rcases hr : ingestStructured settings request m with ⟨result, m'⟩
  rw [hr] at hfinal
  cases result with
  | ok ingested =>
    rw [run_of_selection .auto (firstUsable_of_ok hr _)]
    exact congrArg (·, m') (finish_auto .structured .structured false ingested)
  | error e =>
    have hrecovers : recovers true SourceKind.structured.name e = false := hfinal e rfl
    rw [run_of_selection .auto (firstUsable_of_final hr hrecovers _)]
    rfl

theorem run_auto_of_recovered {e : Failure} {m' : Machine}
    (h : ingestStructured settings request m = (.error e, m')) (he : e.isRecoverable = true) :
    run address settings request .auto direction layout m =
      ((run address settings request .tree direction layout
        (m'.noted (warning SourceKind.structured.name e))).1.map (PipelineResult.inAuto .tree true),
      (ingestTree address request (m'.noted (warning SourceKind.structured.name e))).2) := by
  have hrecovers : recovers true SourceKind.structured.name e = true := he
  rw [run_of_selection .auto ((firstUsable_of_recovered h hrecovers
    [source address settings request .tree]).trans (firstUsable_single _ _ fun e => rfl)), run_tree]
  cases (ingestTree address request (m'.noted (warning SourceKind.structured.name e))).1 with
  | ok ingested => exact congrArg (·, _) (finish_auto .tree .tree true ingested)
  | error e => rfl

/-! ## What a run in automatic mode comes to -/

/-- A run in automatic mode for a file: whom it asks, and whose result it has. -/
structure StructuredElseTree (settings : Settings) (request : SourceRequest) (key : String)
    (direction : Option String) (layout : String) (m : Machine) : Prop where
  asked : ∃ toEndpoint toBoard : List Request,
    (run boardAddress settings request .auto direction layout m).2.requests =
        m.requests ++ toEndpoint ++ toBoard ∧
      toEndpoint.length ≤ 1 ∧ toBoard.length ≤ 1 ∧
      (∀ r ∈ toEndpoint, ∃ url, settings.endpoint? = some url ∧
        r = endpointRequest settings url key request.token) ∧
      (∀ r ∈ toBoard, r = boardRequest boardAddress key request.token) ∧
      (toBoard ≠ [] ↔ settings.EndpointIsOut m ∧
        (boardRequest boardAddress key request.token).url.length ≤ Address.maxLength)
  fallback : settings.EndpointIsOut m →
    (run boardAddress settings request .auto direction layout m).1 =
      (run boardAddress settings request .tree direction layout
        { m with replies := settings.remaining m }).1.map (PipelineResult.inAuto .tree true)
  direct : ¬ settings.EndpointIsOut m →
    (run boardAddress settings request .auto direction layout m).1 =
      (run boardAddress settings request .structured direction layout m).1.map
        (PipelineResult.inAuto .structured false)

/-- The result of the board service depends on the replies only. -/
theorem run_tree_of_replies (m m' : Machine) (h : m.replies = m'.replies) :
    (run address settings request .tree direction layout m).1 =
      (run address settings request .tree direction layout m').1 := by
  have hreply : m.nextReply = m'.nextReply := by rw [Machine.nextReply, Machine.nextReply, h]
  have hingest : (ingestTree address request m).1 = (ingestTree address request m').1 := by
    cases hkey : FileKey.extract request.input with
    | error fault => rw [ingestTree_of_fault hkey, ingestTree_of_fault hkey]
    | ok key =>
      cases hcheck : (boardRequest address key request.token).check with
      | error e =>
        rw [ingestTree_of_unsendable hkey hcheck, ingestTree_of_unsendable hkey hcheck]
      | ok sent => rw [ingestTree_of_sent hkey hcheck, ingestTree_of_sent hkey hcheck, hreply]
  rw [run_tree, run_tree, hingest]

section

variable {key : String} (hkey : FileKey.extract request.input = .ok key)

include hkey

theorem exists_requests_ingestTree (htoken : IsAscii request.token) (m : Machine) :
    ∃ toBoard : List Request,
      (ingestTree boardAddress request m).2.requests = m.requests ++ toBoard ∧
      toBoard.length ≤ 1 ∧ (∀ r ∈ toBoard, r = boardRequest boardAddress key request.token) ∧
      (toBoard ≠ [] ↔
        (boardRequest boardAddress key request.token).url.length ≤ Address.maxLength) := by
  have hcheck := check_boardRequest (FileKey.isKeyChar_of_extract hkey) htoken
  by_cases hshort : (boardRequest boardAddress key request.token).url.length ≤ Address.maxLength
  · rw [if_neg (Nat.not_lt.mpr hshort)] at hcheck
    rw [ingestTree_of_sent hkey hcheck]
    exact ⟨[boardRequest boardAddress key request.token], rfl, Nat.le_refl 1,
      fun r hr => List.mem_singleton.mp hr, by simp [hshort]⟩
  · rw [if_pos (Nat.not_le.mp hshort)] at hcheck
    rw [ingestTree_of_unsendable hkey hcheck]
    exact ⟨[], (List.append_nil _).symm, Nat.zero_le 1, by simp, by simp [hshort]⟩

end

/-- How the turn of the structured endpoint goes: what it gives and the machine that it leaves. -/
inductive EndpointTurn (settings : Settings) (request : SourceRequest) (key : String)
    (m : Machine) : Except Failure Ingested × Machine → Prop
  | unset (h : settings.endpoint? = none) :
      EndpointTurn settings request key m (.error notConfigured, m)
  | noAddress (url : String) (fault : AddressFault) (hurl : settings.endpoint? = some url)
      (haddress : Address.ofChars url.toList = .error fault) :
      EndpointTurn settings request key m (.error fault.failure, m)
  | sent (url : String) (address : Address) (hurl : settings.endpoint? = some url)
      (haddress : Address.ofChars url.toList = .ok address) :
      EndpointTurn settings request key m
        ((pageListOfReply settings m.nextReply).map fun list =>
          .structured key list (pageListStandIns m.nextReply),
          m.sent (endpointRequest settings url key request.token))

theorem endpointTurn {key : String} (hkey : FileKey.extract request.input = .ok key)
    (htoken : ∀ token, settings.token = some token → IsAscii token)
    (hseconds : settings.hasSeconds = true) (m : Machine) :
    EndpointTurn settings request key m (ingestStructured settings request m) := by
  cases hurl : settings.endpoint? with
  | none =>
    rw [ingestStructured_of_unset hurl]
    exact .unset hurl
  | some url =>
    have hcheck := check_endpointRequest htoken url key request.token
    cases haddress : Address.ofChars url.toList with
    | error fault =>
      rw [haddress] at hcheck
      rw [ingestStructured_of_unsendable hurl hkey hseconds hcheck]
      exact .noAddress url fault hurl haddress
    | ok address =>
      rw [haddress] at hcheck
      rw [ingestStructured_of_sent hurl hkey hseconds hcheck]
      exact .sent url address hurl haddress

namespace EndpointTurn

variable {key : String} {turn : Except Failure Ingested × Machine}

theorem replies_eq (h : EndpointTurn settings request key m turn) :
    turn.2.replies = settings.remaining m := by
  cases h with
  | unset h => rw [Settings.remaining, Settings.endpointReply?_of_unset h]
  | noAddress url fault hurl haddress =>
    rw [Settings.remaining, Settings.endpointReply?_of_noAddress hurl haddress]
  | sent url address hurl haddress =>
    rw [Settings.remaining, Settings.endpointReply?_of_address hurl haddress, Machine.sent]

theorem exists_requests_eq (h : EndpointTurn settings request key m turn) :
    ∃ toEndpoint : List Request, turn.2.requests = m.requests ++ toEndpoint ∧
      toEndpoint.length ≤ 1 ∧ ∀ r ∈ toEndpoint, ∃ url, settings.endpoint? = some url ∧
        r = endpointRequest settings url key request.token := by
  cases h with
  | unset h => exact ⟨[], (List.append_nil _).symm, Nat.zero_le 1, by simp⟩
  | noAddress url fault hurl haddress =>
    exact ⟨[], (List.append_nil _).symm, Nat.zero_le 1, by simp⟩
  | sent url address hurl haddress =>
    refine ⟨[endpointRequest settings url key request.token], rfl, Nat.le_refl 1, ?_⟩
    intro r hr
    exact ⟨url, hurl, List.mem_singleton.mp hr⟩

theorem exists_recovered (h : EndpointTurn settings request key m turn)
    (hout : settings.EndpointIsOut m) :
    ∃ e, turn.1 = .error e ∧ e.isRecoverable = true := by
  cases h with
  | unset h => exact ⟨notConfigured, rfl, rfl⟩
  | noAddress url fault hurl haddress =>
    exact absurd hout (Settings.not_endpointIsOut_of_noAddress hurl haddress)
  | sent url address hurl haddress =>
    have houtage := (Settings.endpointIsOut_iff_of_address hurl haddress).mp hout
    obtain ⟨e, he, hrecoverable⟩ := pageListOfReply_of_outage houtage
    exact ⟨e, by rw [he]; rfl, hrecoverable⟩

theorem isRecoverable_eq_false (h : EndpointTurn settings request key m turn)
    (hin : ¬ settings.EndpointIsOut m) {e : Failure} (he : turn.1 = .error e) :
    e.isRecoverable = false := by
  cases h with
  | unset h => exact absurd (.inl h) hin
  | noAddress url fault hurl haddress =>
    cases he
    rfl
  | sent url address hurl haddress =>
    have houtage : ¬ m.nextReply.Outage := fun h =>
      hin ((Settings.endpointIsOut_iff_of_address hurl haddress).mpr h)
    cases hreply : pageListOfReply settings m.nextReply with
    | ok list => simp [hreply, Except.map] at he
    | error fault =>
      simp only [hreply, Except.map, Except.error.injEq] at he
      subst he
      exact isRecoverable_of_pageListOfReply houtage hreply

end EndpointTurn

section

variable {key : String}
  (hturn : EndpointTurn settings request key m (ingestStructured settings request m))

include hturn

theorem run_auto_of_out (address : String) (direction : Option String) (layout : String)
    (hout : settings.EndpointIsOut m) :
    ∃ line, run address settings request .auto direction layout m =
      ((run address settings request .tree direction layout
        { m with replies := settings.remaining m }).1.map (PipelineResult.inAuto .tree true),
      (ingestTree address request ((ingestStructured settings request m).2.noted line)).2) := by
  obtain ⟨e, he, hrecoverable⟩ := hturn.exists_recovered hout
  have hingest : ingestStructured settings request m =
      (.error e, (ingestStructured settings request m).2) := Prod.ext he rfl
  have hreplies : ((ingestStructured settings request m).2.noted
      (warning SourceKind.structured.name e)).replies = settings.remaining m := hturn.replies_eq
  refine ⟨warning SourceKind.structured.name e, ?_⟩
  rw [run_auto_of_recovered hingest hrecoverable]
  rw [run_tree_of_replies _ { m with replies := settings.remaining m } hreplies]

theorem run_auto_of_in (hin : ¬ settings.EndpointIsOut m) :
    run address settings request .auto direction layout m =
      ((run address settings request .structured direction layout m).1.map
        (PipelineResult.inAuto .structured false), (ingestStructured settings request m).2) :=
  run_auto_of_final fun _ he => hturn.isRecoverable_eq_false hin he

end

theorem structuredElseTree {key : String} (hkey : FileKey.extract request.input = .ok key)
    (hauth : ∀ token, settings.token = some token → IsAscii token)
    (hseconds : settings.hasSeconds = true) (htoken : IsAscii request.token)
    (direction : Option String) (layout : String) (m : Machine) :
    StructuredElseTree settings request key direction layout m := by
  have hturn := endpointTurn hkey hauth hseconds m
  refine ⟨?asked, fun hout => ?fallback, fun hin => ?direct⟩
  case asked =>
    obtain ⟨toEndpoint, hrequests, hone, hendpoint⟩ := hturn.exists_requests_eq
    by_cases hout : settings.EndpointIsOut m
    · obtain ⟨line, hrun⟩ := run_auto_of_out hturn boardAddress direction layout hout
      obtain ⟨toBoard, hmore, hone', hboard, hasked⟩ := exists_requests_ingestTree hkey htoken
        ((ingestStructured settings request m).2.noted line)
      have hall : (run boardAddress settings request .auto direction layout m).2.requests =
          m.requests ++ toEndpoint ++ toBoard := by
        rw [hrun, hmore, Machine.noted, hrequests]
      exact ⟨toEndpoint, toBoard, hall, hone, hone', hendpoint, hboard, by simp [hasked, hout]⟩
    · rw [run_auto_of_in hturn hout]
      exact ⟨toEndpoint, [], by rw [hrequests, List.append_nil], hone, Nat.zero_le 1, hendpoint,
        by simp, by simp [hout]⟩
  case fallback =>
    obtain ⟨line, hrun⟩ := run_auto_of_out hturn boardAddress direction layout hout
    rw [hrun]
  case direct => rw [run_auto_of_in hturn hin]

/-- Without a key nothing is asked of an endpoint that is set. -/
theorem run_auto_of_fault {url : String} {fault : FileKey.Fault}
    (hurl : settings.endpoint? = some url) (hkey : FileKey.extract request.input = .error fault) :
    run address settings request .auto direction layout m = (.error fault.failure, m) := by
  have hingest := ingestStructured_of_fault (m := m) hurl hkey
  rw [run_auto_of_final (by rw [hingest]; rintro e ⟨⟩; rfl), run_structured, hingest]
  rfl

/-- An endpoint that has an error of its own and a board that is not there. -/
def outageReplies : List Reply :=
  [.answered { status := 503 }, .answered { status := 404, body := .text "Not found" }]

/-- The board service is not asked for a file whose address would be too long. -/
theorem requests_of_tooLong (settings : Settings) (request : SourceRequest) {key : String}
    (hkey : FileKey.extract request.input = .ok key) (htoken : IsAscii request.token)
    (hunset : settings.endpoint? = none)
    (hlong : Address.maxLength < (boardRequest boardAddress key request.token).url.length)
    (direction : Option String) (layout : String) (m : Machine) :
    (run boardAddress settings request .auto direction layout m).2.requests = m.requests := by
  have hcheck := check_boardRequest (FileKey.isKeyChar_of_extract hkey) htoken
  rw [if_pos hlong] at hcheck
  rw [run_auto_of_recovered (ingestStructured_of_unset hunset) rfl,
    ingestTree_of_unsendable hkey hcheck, Machine.noted]

def letters (n : Nat) : String := String.ofList (List.replicate n 'a')

theorem length_letters (n : Nat) : (letters n).length = n := by
  rw [letters, String.length_ofList, List.length_replicate]

theorem extract_letters {n : Nat} (h : FileKey.minLength ≤ n) :
    FileKey.extract (letters n) = .ok (letters n) := by
  refine FileKey.extract_bare (fun c hc => ?_) (by rw [length_letters]; exact h)
  rw [letters, String.toList_ofList] at hc
  rw [List.eq_of_mem_replicate hc]
  decide

theorem length_boardRequest_url (key token : String) :
    (boardRequest boardAddress key token).url.length = 31 + key.length := by
  rw [← String.length_toList, toList_boardRequest_url, List.length_append, String.length_toList]
  rfl

end Pipeline

end FlowBoard
