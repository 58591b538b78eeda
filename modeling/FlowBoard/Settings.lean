import FlowBoard.Failure
import FlowBoard.Keyed
import FlowBoard.Number.Binary64
import FlowBoard.Text.Digits

/-!
# Settings

The structured endpoint has an address, an access token and a limit of time. Values that are given
win over the environment; a blank value counts as none.
-/

namespace FlowBoard

abbrev Env := Keyed String String

namespace Settings

def urlVariable : String := "JAMAID_STRUCTURED_ENDPOINT_URL"

def tokenVariable : String := "JAMAID_STRUCTURED_AUTH_TOKEN"

def timeoutVariable : String := "JAMAID_STRUCTURED_TIMEOUT_MS"

def boardTokenVariable : String := "FIGMA_API_TOKEN"

def defaultTimeout : Int := 10000

end Settings

/-- The limit of time is in milliseconds. -/
structure Settings where
  url : Option String := none
  token : Option String := none
  timeout : Int := Settings.defaultTimeout
deriving DecidableEq, Repr

namespace Settings

/-- Settings with a limit that may be no whole number. -/
def make (url token : Option String) (timeout : Option Int) : Except Failure Settings :=
  match timeout with
  | some ms =>
    if 0 < ms then .ok ⟨url, token, ms⟩ else .error badTimeout
  | none => .error badTimeout
where
  badTimeout : Failure := ⟨.configuration,
    "Invalid structured endpoint timeout. timeout_ms must be a positive integer."⟩

/-- The value of a variable, trimmed, unless it is blank. -/
def setting? (env : Env) (name : String) : Option String := Text.given? (Keyed.find? name env)

/-- The limit of time that the environment gives. -/
def envTimeout (env : Env) : Except Failure Int :=
  match setting? env timeoutVariable with
  | none => .ok defaultTimeout
  | some raw =>
    let fault : Failure := ⟨.configuration, "Invalid " ++ timeoutVariable ++ " value \"" ++ raw ++
      "\". Expected a positive integer."⟩
    match Text.readInt raw with
    | .ok ms => if 0 < ms then .ok ms else .error fault
    | .error _ => .error fault

/-- Given values, and the environment for the others. -/
def ofEnv (env : Env) (url token : Option String) (timeout : Option (Option Int)) :
    Except Failure Settings := do
  let ms ← match timeout with
    | some given => pure given
    | none => some <$> envTimeout env
  make ((Text.given? url).or (setting? env urlVariable))
    ((Text.given? token).or (setting? env tokenVariable)) ms

/-- The address of the endpoint; an empty one is none. -/
def endpoint? (s : Settings) : Option String := s.url.filter (!·.isEmpty)

/-- The limit in seconds can be told as a binary number. -/
def hasSeconds (s : Settings) : Bool :=
  (Binary64.ofRatio false s.timeout.natAbs 1000).finite?.isSome

/-- The token of the board service, given or from the environment. -/
def boardToken (given : Option String) (env : Env) : Except Failure String :=
  match (Text.given? given).or (setting? env boardTokenVariable) with
  | some token => .ok token
  | none => .error ⟨.configuration,
      "Figma API token not found. Pass --token or set " ++ boardTokenVariable ++ "."⟩

end Settings

end FlowBoard
