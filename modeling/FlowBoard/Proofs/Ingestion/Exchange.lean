import FlowBoard.Proofs.Http.Sending
import FlowBoard.Proofs.Ingestion.Reported

/-!
# What remote sources do to the machine

A remote source sends one request if it can be sent, and takes the next reply; nothing else of the
machine matters to it. A failure of the structured source may be recovered if and only if its reply
is an outage: no connection, or a status of the server's own errors with contents that are decoded.
-/

namespace FlowBoard

/-- A reply after which the service counts as out of order. -/
inductive Http.Reply.Outage : Http.Reply → Prop
  | timedOut (name message : String) : Outage (.failed (.timeout name) message)
  | unreachable (name message : String) : Outage (.failed (.transport name) message)
  | serverError (r : Http.Response) (foreign : Option Http.Decoded)
      (status : 500 ≤ r.status ∧ r.status ≤ 599) (decoded : ∃ text, r.text foreign = .ok text) :
      Outage (.answered r foreign)

namespace Source

variable {settings : Settings} {request : SourceRequest} {m : Machine}

theorem extract_of_ok {input key : String} (h : FileKey.extract input = .ok key) :
    Run.ofExcept ((FileKey.extract input).mapError FileKey.Fault.failure) m = (.ok key, m) := by
  rw [h]
  rfl

theorem extract_of_error {input : String} {fault : FileKey.Fault}
    (h : FileKey.extract input = .error fault) :
    Run.ofExcept ((FileKey.extract input).mapError FileKey.Fault.failure) m =
      (.error fault.failure, m) := by
  rw [h]
  rfl

theorem bind_ofExcept {α β : Type} (result : Except Failure α) (f : α → β) :
    (Run.ofExcept result >>= fun a => (pure (f a) : Run β)) m = (result.map f, m) := by
  cases result with
  | ok a => exact Run.bind_of_ok rfl _
  | error e => exact Run.bind_of_error rfl _

/-! ## The board service -/

theorem ingestTree_of_fault {fault : FileKey.Fault}
    (hkey : FileKey.extract request.input = .error fault) (address : String) :
    ingestTree address request m = (.error fault.failure, m) := by
  rw [ingestTree, Run.bind_of_error (extract_of_error hkey)]

theorem ingestTree_of_unsendable {key : String} {e : Failure} {address : String}
    (hkey : FileKey.extract request.input = .ok key)
    (hcheck : (boardRequest address key request.token).check = .error e) :
    ingestTree address request m = (.error e, m) := by
  rw [ingestTree, Run.bind_of_ok (extract_of_ok hkey),
    Run.bind_of_error (Run.send_of_error hcheck m)]

theorem ingestTree_of_sent {key : String} {address : String}
    (hkey : FileKey.extract request.input = .ok key)
    (hcheck : (boardRequest address key request.token).check = .ok ()) :
    ingestTree address request m =
      ((treeOfReply m.nextReply).map fun file => .tree key file (treeStandIns m.nextReply),
        m.sent (boardRequest address key request.token)) := by
  rw [ingestTree, Run.bind_of_ok (extract_of_ok hkey), Run.bind_of_ok (Run.send_of_ok hcheck m),
    bind_ofExcept]

/-! ## The structured endpoint -/

theorem ingestStructured_of_unset (h : settings.endpoint? = none) :
    ingestStructured settings request m = (.error notConfigured, m) := by
  rw [ingestStructured, h]
  rfl

section

variable {url : String} (hurl : settings.endpoint? = some url)

include hurl

theorem ingestStructured_of_fault {fault : FileKey.Fault}
    (hkey : FileKey.extract request.input = .error fault) :
    ingestStructured settings request m = (.error fault.failure, m) := by
  simp only [ingestStructured, hurl]
  rw [Run.bind_of_error (extract_of_error hkey)]

variable {key : String} (hkey : FileKey.extract request.input = .ok key)
  (hseconds : settings.hasSeconds = true)

include hkey hseconds

theorem ingestStructured_of_unsendable {e : Failure}
    (hcheck : (endpointRequest settings url key request.token).check = .error e) :
    ingestStructured settings request m = (.error e, m) := by
  simp only [ingestStructured, hurl]
  rw [Run.bind_of_ok (extract_of_ok hkey)]
  simp only [hseconds, Bool.not_true, Bool.false_eq_true, if_false]
  rw [Run.bind_of_error (Run.send_of_error hcheck m)]

theorem ingestStructured_of_sent
    (hcheck : (endpointRequest settings url key request.token).check = .ok ()) :
    ingestStructured settings request m =
      ((pageListOfReply settings m.nextReply).map fun list =>
        .structured key list (pageListStandIns m.nextReply),
        m.sent (endpointRequest settings url key request.token)) := by
  simp only [ingestStructured, hurl]
  rw [Run.bind_of_ok (extract_of_ok hkey)]
  simp only [hseconds, Bool.not_true, Bool.false_eq_true, if_false]
  rw [Run.bind_of_ok (Run.send_of_ok hcheck m), bind_ofExcept]

end

/-! ## Failures that may be recovered -/

theorem isRecoverable_of_isPayload {e : Failure} (h : e.IsPayload) : e.isRecoverable = false := by
  obtain ⟨path, message, rfl⟩ := h
  rfl

theorem isRecoverable_of_decodeReply {text : String} {e : Failure}
    (h : decodeReply text = .error e) : e.isRecoverable = false := by
  have hrefuses := Payload.outcome_decodeReply text
  rw [h] at hrefuses
  rcases hrefuses with hpayload | ⟨n, -, rfl⟩
  · exact isRecoverable_of_isPayload hpayload
  · rfl

theorem isRecoverable_of_checkPageList {v : Json} {root : String} {e : Failure}
    (h : checkPageList v root = .error e) : e.isRecoverable = false := by
  have hreported := Payload.reported_checkPageList v root
  rw [h] at hreported
  exact isRecoverable_of_isPayload hreported

theorem pageListOfReply_of_outage {reply : Http.Reply} (h : reply.Outage) :
    ∃ e, pageListOfReply settings reply = .error e ∧ e.isRecoverable = true := by
  cases h with
  | timedOut name message => exact ⟨_, rfl, rfl⟩
  | unreachable name message => exact ⟨_, rfl, rfl⟩
  | serverError r foreign status decoded =>
    have hfail : r.isSuccess = false := by
      simp only [Http.Response.isSuccess, Bool.and_eq_false_iff, decide_eq_false_iff_not]
      omega
    obtain ⟨text, htext⟩ := decoded
    refine ⟨_, by rw [pageListOfReply, htext, hfail]; rfl, ?_⟩
    simp only [Failure.isRecoverable, FailureKind.isRecoverable, Bool.and_eq_true,
      decide_eq_true_eq]
    omega

theorem isRecoverable_of_pageListOfReply {reply : Http.Reply} {e : Failure}
    (houtage : ¬ reply.Outage) (h : pageListOfReply settings reply = .error e) :
    e.isRecoverable = false := by
  cases reply with
  | failed fault message =>
    cases fault with
    | timeout name => exact absurd (.timedOut name message) houtage
    | transport name => exact absurd (.unreachable name message) houtage
    | other name =>
      simp only [pageListOfReply, endpointFault, Except.error.injEq] at h
      subst h
      rfl
  | answered r foreign =>
    rw [pageListOfReply] at h
    rcases htext : r.text foreign with fault | text
    · rw [htext] at h
      cases h
      exact Http.Response.isRecoverable_of_text htext
    rw [htext] at h
    change (if r.isSuccess = true then (decodeReply text >>= fun v => checkPageList v pageListRoot)
      else _) = _ at h
    split_ifs at h
    · cases hread : decodeReply text with
      | error fault =>
        rw [hread] at h
        cases h
        exact isRecoverable_of_decodeReply hread
      | ok v =>
        rw [hread] at h
        exact isRecoverable_of_checkPageList h
    · have hstatus : ¬ (500 ≤ r.status ∧ r.status ≤ 599) := fun hs =>
        houtage (.serverError r foreign hs ⟨text, htext⟩)
      obtain rfl := Except.error.inj h
      simp only [Failure.isRecoverable, FailureKind.isRecoverable, Bool.and_eq_false_iff,
        decide_eq_false_iff_not]
      omega

end Source

end FlowBoard
