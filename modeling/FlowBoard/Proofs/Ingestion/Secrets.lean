import FlowBoard.Proofs.Ingestion.Fallback
import FlowBoard.Proofs.Ingestion.Kept
import FlowBoard.Proofs.Machine.Twins

/-!
# Secrets

Two secrets go into a run: the token of the board service and the token of the structured endpoint.
Runs that differ in them only end alike and leave the same machine but for the requests, and of
these each is sent to the same place and differs in the parts that carry a secret: one header of a
request to the board service, one header and one member of the body of a request to the structured
endpoint.
-/

namespace FlowBoard

/-- The value without a member. -/
def Json.without (name : String) : Json → Json
  | .obj fields => .obj (fields.filter fun field => field.1 != name)
  | v => v

namespace Http.Request

def withoutHeader (name : String) (q : Request) : Request :=
  { q with headers := q.headers.filter fun header => header.1 != name }

def withoutMember (name : String) (q : Request) : Request :=
  { q with body := q.body.map (Json.without name) }

end Http.Request

namespace Source

open Http

/-- The requests are for one place and equal where they carry no secret. -/
inductive SameButSecrets (address : String) (endpoint? : Option String) : Request → Request → Prop
  | board {q q' : Request} (key : String) (hmethod : q.method = "GET")
      (hurl : q.url = dropSlashes address ++ "/files/" ++ key)
      (hsame : q.withoutHeader "X-Figma-Token" = q'.withoutHeader "X-Figma-Token") :
      SameButSecrets address endpoint? q q'
  | endpoint {q q' : Request} (hmethod : q.method = "POST") (hurl : endpoint? = some q.url)
      (hsame : (q.withoutHeader "Authorization").withoutMember "figmaToken" =
        (q'.withoutHeader "Authorization").withoutMember "figmaToken") :
      SameButSecrets address endpoint? q q'

section

variable {address : String} {endpoint? : Option String}

theorem SameButSecrets.method_eq {q q' : Request} (h : SameButSecrets address endpoint? q q') :
    q.method = q'.method := by
  cases h with
  | board key hmethod hurl hsame =>
    have hmethods := congrArg Request.method hsame
    exact hmethods
  | endpoint hmethod hurl hsame =>
    have hmethods := congrArg Request.method hsame
    exact hmethods

theorem SameButSecrets.url_eq {q q' : Request} (h : SameButSecrets address endpoint? q q') :
    q.url = q'.url := by
  cases h with
  | board key hmethod hurl hsame =>
    have hurls := congrArg Request.url hsame
    exact hurls
  | endpoint hmethod hurl hsame =>
    have hurls := congrArg Request.url hsame
    exact hurls

/-- Requests that are the same but for secrets go to the same places in the same order. -/
theorem map_place_eq {sent sent' : List Request}
    (h : List.Forall₂ (SameButSecrets address endpoint?) sent sent') :
    sent.map (fun q => (q.method, q.url)) = sent'.map fun q => (q.method, q.url) := by
  induction h with
  | nil => rfl
  | cons hq _ ih => rw [List.map_cons, List.map_cons, hq.method_eq, hq.url_eq, ih]

end

/-! ## The board service -/

theorem boardRequest_sameButSecrets (address : String) (endpoint? : Option String)
    (key token token' : String) :
    SameButSecrets address endpoint? (boardRequest address key token)
      (boardRequest address key token') :=
  .board key rfl rfl rfl

theorem check_boardRequest_eq (address key : String) {token token' : String}
    (h : IsAscii token) (h' : IsAscii token') :
    (boardRequest address key token).check = (boardRequest address key token').check := by
  have hheaders : ∀ token, IsAscii token →
      ∀ header ∈ (boardRequest address key token).headers, IsAscii header.2 := by
    intro token htoken header hh
    obtain rfl := List.mem_singleton.mp hh
    exact htoken
  rw [Request.check_of_isAscii (hheaders token h), Request.check_of_isAscii (hheaders token' h')]
  rfl

/-! ## The structured endpoint -/

theorem endpointHeaders_withoutAuthorization (settings : Settings) :
    (endpointHeaders settings).filter (fun header => header.1 != "Authorization") =
      [("Content-Type", "application/json")] := by
  rw [endpointHeaders]
  cases settings.token with
  | none => rfl
  | some token =>
    by_cases hempty : token.isEmpty
    · simp [hempty]
    · simp [hempty]

theorem endpointBody_withoutToken (key token : String) :
    (endpointBody key token).without "figmaToken" = .obj [("fileKey", .str key)] := by
  rw [endpointBody]
  by_cases hblank : (Text.trim token).isEmpty
  · simp [hblank, Json.without]
  · simp [hblank, Json.without]

/-- What is left of a request to the endpoint without its secrets. -/
def endpointFrame (url key : String) : Request where
  method := "POST"
  url
  headers := [("Content-Type", "application/json")]
  body := some (.obj [("fileKey", .str key)])

theorem endpointRequest_withoutSecrets (settings : Settings) (url key token : String) :
    ((endpointRequest settings url key token).withoutHeader "Authorization").withoutMember
      "figmaToken" = endpointFrame url key := by
  simp only [Request.withoutHeader, Request.withoutMember, endpointRequest, Option.map_some,
    endpointHeaders_withoutAuthorization, endpointBody_withoutToken, endpointFrame]

theorem endpointRequest_sameButSecrets (address : String) (settings settings' : Settings)
    (url key token token' : String) :
    SameButSecrets address (some url) (endpointRequest settings url key token)
      (endpointRequest settings' url key token') := by
  refine .endpoint rfl rfl ?_
  rw [endpointRequest_withoutSecrets, endpointRequest_withoutSecrets]

theorem check_endpointRequest_eq (settings settings' : Settings)
    (h : ∀ token, settings.token = some token → IsAscii token)
    (h' : ∀ token, settings'.token = some token → IsAscii token) (url key token token' : String) :
    (endpointRequest settings url key token).check =
      (endpointRequest settings' url key token').check := by
  rw [check_endpointRequest h, check_endpointRequest h']

/-- What is made of a reply does not depend on the token. -/
theorem pageListOfReply_withToken (settings : Settings) (auth auth' : Option String)
    (reply : Reply) :
    pageListOfReply { settings with token := auth } reply =
      pageListOfReply { settings with token := auth' } reply := by
  cases reply with
  | answered r => rfl
  | failed fault message => cases fault <;> rfl

/-! ## Sources -/

section

open Run (Agree)

variable {before : List Request} {alike : Request → Request → Prop} (request : SourceRequest)
  (token token' : String)

theorem agree_ingestFile :
    Agree (Machine.Twins before alike) (ingestFile { request with token := token })
      (ingestFile { request with token := token' }) := by
  refine Agree.ite (Agree.throw_bind _ _ _) ?_
  refine Agree.bind ?_ fun text => Agree.ofExcept _
  refine (Run.agree_readText _).attempt.bind fun result => ?_
  cases result with
  | ok text => exact Agree.pure _
  | error e => exact Agree.throw _

theorem agree_ingestStdin :
    Agree (Machine.Twins before alike) (ingestStdin { request with token := token })
      (ingestStdin { request with token := token' }) :=
  (Run.agree_readStdin _).bind fun _ => Agree.ofExcept _

theorem agree_ingestTree (address : String) (endpoint? : Option String) {token token' : String}
    (h : IsAscii token) (h' : IsAscii token') :
    Agree (Machine.Twins before (SameButSecrets address endpoint?))
      (ingestTree address { request with token := token })
      (ingestTree address { request with token := token' }) := by
  refine (Agree.ofExcept _).bind fun key => ?_
  have hcheck := check_boardRequest_eq address key h h'
  have halike := boardRequest_sameButSecrets address endpoint? key token token'
  refine (Run.agree_send hcheck halike).bind fun reply => ?_
  exact (Agree.ofExcept _).bind fun _ => Agree.pure _

theorem agree_ingestStructured (address : String) (settings : Settings)
    {auth auth' : Option String} (h : ∀ token, auth = some token → IsAscii token)
    (h' : ∀ token, auth' = some token → IsAscii token) (token token' : String) :
    Agree (Machine.Twins before (SameButSecrets address settings.endpoint?))
      (ingestStructured { settings with token := auth } { request with token := token })
      (ingestStructured { settings with token := auth' } { request with token := token' }) := by
  unfold ingestStructured
  have hendpoint (auth : Option String) :
      Settings.endpoint? { settings with token := auth } = settings.endpoint? := rfl
  simp only [hendpoint auth, hendpoint auth']
  cases settings.endpoint? with
  | none => exact Agree.throw _
  | some url =>
    refine (Agree.ofExcept _).bind fun key => Agree.ite (Agree.throw_bind _ _ _) ?_
    have hcheck := check_endpointRequest_eq { settings with token := auth }
      { settings with token := auth' } h h' url key token token'
    have halike := endpointRequest_sameButSecrets address { settings with token := auth }
      { settings with token := auth' } url key token token'
    refine (Run.agree_send hcheck halike).bind fun reply => ?_
    rw [pageListOfReply_withToken settings auth auth']
    exact (Agree.ofExcept _).bind fun _ => Agree.pure _

theorem agree_firstUsable {rel : Machine → Machine → Prop}
    (hnote : ∀ line, Agree rel (Run.note line) (Run.note line)) (isAuto : Bool)
    {sources sources' : List (Source Run)}
    (hsources : List.Forall₂ (fun source source' => source.kind = source'.kind ∧
      Agree rel source.ingest source'.ingest) sources sources') (last : Option Failure) :
    Agree rel (firstUsable Run.note isAuto last sources)
      (firstUsable Run.note isAuto last sources') := by
  induction hsources generalizing last with
  | nil => exact Agree.pure _
  | @cons source source' rest rest' hsource _ ih =>
    obtain ⟨hkind, hingest⟩ := hsource
    rw [firstUsable, firstUsable, hkind]
    refine hingest.bind fun result => ?_
    cases result with
    | ok ingested => exact Agree.pure _
    | error e => exact Agree.ite ((hnote _).bind fun _ => ih (some e)) (Agree.pure _)

end

end Source

namespace Pipeline

open Http Source
open Run (Agree)

/-- Two runs from one machine, which differ in secrets, tell nothing of them. -/
structure TellsNoSecret (address : String) (settings : Settings) (mode : Mode) (m : Machine)
    (ran ran' : Except Failure PipelineResult × Machine) : Prop where
  result : ran.1 = ran'.1
  rest : ran'.2 = { ran.2 with requests := ran'.2.requests }
  requests : ∃ sent sent', ran.2.requests = m.requests ++ sent ∧
    ran'.2.requests = m.requests ++ sent' ∧
    List.Forall₂ (SameButSecrets address settings.endpoint?) sent sent'
  places : ran.2.requests.map (fun q => (q.method, q.url)) =
    ran'.2.requests.map fun q => (q.method, q.url)
  quiet : mode.isRemote = false → ran.2.requests = m.requests ∧ ran'.2.requests = m.requests

section

variable (address : String) (settings : Settings) (request : SourceRequest)
  {token token' : String} {auth auth' : Option String}
  (htoken : IsAscii token) (htoken' : IsAscii token')
  (hauth : ∀ token, auth = some token → IsAscii token)
  (hauth' : ∀ token, auth' = some token → IsAscii token)

include htoken htoken' hauth hauth'

theorem agree_source (before : List Request) (kind : SourceKind) :
    Agree (Machine.Twins before (SameButSecrets address settings.endpoint?))
      (source address { settings with token := auth } { request with token := token } kind).ingest
      (source address { settings with token := auth' } { request with token := token' }
        kind).ingest := by
  refine Agree.attempt ?_
  cases kind with
  | tree => exact agree_ingestTree request address settings.endpoint? htoken htoken'
  | structured => exact agree_ingestStructured request address settings hauth hauth' token token'
  | file => exact agree_ingestFile request token token'
  | stdin => exact agree_ingestStdin request token token'

theorem agree_run (before : List Request) (mode : Mode) (direction : Option String)
    (layout : String) :
    Agree (Machine.Twins before (SameButSecrets address settings.endpoint?))
      (run address { settings with token := auth } { request with token := token } mode direction
        layout)
      (run address { settings with token := auth' } { request with token := token' } mode direction
        layout) := by
  refine (agree_firstUsable Run.agree_note _ ?_ none).bind fun _ => Agree.ofExcept _
  rw [sources, sources, List.forall₂_map_left_iff, List.forall₂_map_right_iff, List.forall₂_same]
  exact fun kind _ => ⟨rfl, agree_source address settings request htoken htoken' hauth hauth'
    before kind⟩

/-- Runs that differ in the two secrets end alike, tell the user the same, and make the same
requests but for what carries a secret. -/
theorem run_tellsNoSecret (mode : Mode) (direction : Option String) (layout : String)
    (m : Machine) :
    TellsNoSecret address settings mode m
      (run address { settings with token := auth } { request with token := token } mode direction
        layout m)
      (run address { settings with token := auth' } { request with token := token' } mode direction
        layout m) := by
  obtain ⟨hresult, hrest, sent, sent', hsent, hsent', halike⟩ :=
    agree_run address settings request htoken htoken' hauth hauth' m.requests mode direction layout
      m m (.refl _ m)
  refine ⟨hresult, hrest, ⟨sent, sent', hsent, hsent', halike⟩, ?_, fun hmode => ?_⟩
  · rw [hsent, hsent', List.map_append, List.map_append, map_place_eq halike]
  · have hkeeps (settings : Settings) (request : SourceRequest) :
        Run.Keeps Machine.requests (run address settings request mode direction layout) :=
      keeps_local_pipeline (fun _ => Run.Keeps.modify fun _ => rfl) address settings request hmode
        direction layout
    exact ⟨hkeeps _ _ m, hkeeps _ _ m⟩

end

/-- A token of the endpoint that is absent, and one of the board service that is blank. -/
theorem run_tellsNoSecret_blank :
    IsAscii "figd_0" ∧ IsAscii " " ∧ (∀ token, some "s3cr3t" = some token → IsAscii token) ∧
      (∀ token, none = some token → IsAscii token) ∧
      TellsNoSecret boardAddress { url := some "http://localhost/pages" } .auto
        { replies := outageReplies }
        (run boardAddress { url := some "http://localhost/pages", token := some "s3cr3t" }
          { input := "flowboard", token := "figd_0" } .auto none "auto"
          { replies := outageReplies })
        (run boardAddress { url := some "http://localhost/pages" }
          { input := "flowboard", token := " " } .auto none "auto"
          { replies := outageReplies }) := by
  have hgiven : ∀ token, some "s3cr3t" = some token → IsAscii token := by
    rintro token ⟨⟩
    decide
  have hnone : ∀ token, none = some token → IsAscii token := fun token h => nomatch h
  exact ⟨by decide, by decide, hgiven, hnone,
    run_tellsNoSecret boardAddress { url := some "http://localhost/pages" }
      { input := "flowboard" } (by decide) (by decide) hgiven hnone .auto none "auto" _⟩

end Pipeline

end FlowBoard
