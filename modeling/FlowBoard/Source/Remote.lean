import FlowBoard.Machine.Basic
import FlowBoard.Settings
import FlowBoard.Source.Basic
import FlowBoard.Source.FileKey

/-!
# Remote sources

The board service answers with a tree file, the structured endpoint with a page list. Each is
asked once.
-/

namespace FlowBoard.Source

/-! ## The board service -/

def boardAddress : String := "https://api.figma.com/v1"

/-- Headers that tell about a limit of requests. -/
def limitHeaders : List String := ["Retry-After", "X-Figma-Rate-Limit-Type", "X-Figma-Plan-Tier"]

def tooManyRequests : Int := 429

def presentLimits (r : Http.Response) : List String :=
  limitHeaders.filterMap fun name => (r.header? name).map fun value => name ++ ": " ++ value

/-- The message for a reply that is no success, with its text. -/
def describeFailure (r : Http.Response) (text : String := r.text.toOption.getD "") : String :=
  "Figma API request failed (" ++ toString r.status ++ "): " ++ text ++
    (if r.status = tooManyRequests && !(presentLimits r).isEmpty then
      " (" ++ String.intercalate ", " (presentLimits r) ++ ")"
    else "")

def boardFault (fault : ClientFault) (message : String) : Failure :=
  match fault with
  | .timeout _ => ⟨.network, "Figma API request timed out: " ++ message⟩
  | .transport _ => ⟨.network, "Figma API request failed: " ++ message⟩
  | .other _ => ⟨.client fault, message⟩

def invalidBoardJson : Failure := .payload "Figma API returned invalid JSON."

/-- The tree file in a reply. -/
def treeOfReply : Http.Reply → Except Failure TreeFile
  | .failed fault message => .error (boardFault fault message)
  | .answered r foreign =>
    if r.isSuccess then
      match (Http.jsonUnits? r.body).map Json.readUnits with
      | some (.ok v) => checkTree v treeRoot
      | _ => .error invalidBoardJson
    else do .error ⟨.endpointResponse r.status, describeFailure r (← r.text foreign)⟩

/-- The stand-ins in what a reply is decoded to. -/
def treeStandIns : Http.Reply → Text.StandIns
  | .failed .. => {}
  | .answered r _ => ((Http.jsonUnits? r.body).map Json.unitStandIns).getD {}

def dropSlashes (s : String) : String :=
  String.ofList (s.toList.reverse.dropWhile (· == '/')).reverse

def boardRequest (address key token : String) : Http.Request where
  method := "GET"
  url := dropSlashes address ++ "/files/" ++ key
  headers := [("X-Figma-Token", token)]

def ingestTree (address : String) (request : SourceRequest) : Run Ingested := do
  let key ← Run.ofExcept ((FileKey.extract request.input).mapError FileKey.Fault.failure)
  let reply ← Run.send (boardRequest address key request.token)
  return .tree key (← Run.ofExcept (treeOfReply reply)) (treeStandIns reply)

/-! ## The structured endpoint -/

def notConfigured : Failure :=
  ⟨.sourceUnavailable, "Structured endpoint is not configured. Set " ++ Settings.urlVariable ++
    " or pass endpoint_url in the structured endpoint config."⟩

def endpointFault (settings : Settings) (fault : ClientFault) (message : String) : Failure :=
  match fault with
  | .timeout _ =>
    ⟨.endpointTimeout settings.timeout, "Structured endpoint request timed out after " ++
      toString settings.timeout ++ "ms. Increase " ++ Settings.timeoutVariable ++ " if needed."⟩
  | .transport _ => ⟨.network, "Structured endpoint request failed: " ++ message⟩
  | .other _ => ⟨.client fault, message⟩

/-- The page list in a reply. -/
def pageListOfReply (settings : Settings) : Http.Reply → Except Failure Wire.PageList
  | .failed fault message => .error (endpointFault settings fault message)
  | .answered r foreign => do
    let text ← r.text foreign
    if r.isSuccess then
      checkPageList (← decodeReply text) pageListRoot
    else
      let detail := Text.orElse (Text.trim text) "Empty response body"
      .error ⟨.endpointResponse r.status,
        "Structured endpoint request failed (" ++ toString r.status ++ "): " ++ detail⟩

def pageListStandIns : Http.Reply → Text.StandIns
  | .failed .. => {}
  | .answered r foreign => Payload.standIns ((r.text foreign).toOption.getD "")

/-- The file's key, and the token of the board service unless it is blank. -/
def endpointBody (key token : String) : Json :=
  .obj (("fileKey", .str key) ::
    (if (Text.trim token).isEmpty then [] else [("figmaToken", .str (Text.trim token))]))

def endpointHeaders (settings : Settings) : List (String × String) :=
  ("Content-Type", "application/json") ::
    match settings.token with
    | some token => if token.isEmpty then [] else [("Authorization", "Bearer " ++ token)]
    | none => []

def endpointRequest (settings : Settings) (url key token : String) : Http.Request where
  method := "POST"
  url
  headers := endpointHeaders settings
  body := some (endpointBody key token)

def ingestStructured (settings : Settings) (request : SourceRequest) : Run Ingested := do
  match settings.endpoint? with
  | none => throw notConfigured
  | some url =>
    let key ← Run.ofExcept ((FileKey.extract request.input).mapError FileKey.Fault.failure)
    if !settings.hasSeconds then
      throw ⟨.overflow, "integer division result too large for a float"⟩
    let reply ← Run.send (endpointRequest settings url key request.token)
    let list ← Run.ofExcept (pageListOfReply settings reply)
    return .structured key list (pageListStandIns reply)

end FlowBoard.Source
