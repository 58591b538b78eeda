/-!
# Failures

A failure is what went wrong, by kind, with the message that is shown. The kinds of the first
group are this program's own: the command line reports them and goes on to exit. The others come
from what the program stands on: the transport of requests, the file system, texts and numbers.
-/

namespace FlowBoard

/-- Ways in which a request can fail without a usable reply. -/
inductive ClientFault
  | timeout (name : String)
  | transport (name : String)
  | other (name : String)
deriving DecidableEq, Repr

inductive FailureKind
  | general
  | configuration
  | sourceUnavailable
  | source
  | transport
  | network
  | endpointTimeout (milliseconds : Int)
  | endpointResponse (status : Int)
  | payload (path : Option String)
  | render
  | client (fault : ClientFault)
  | fileSystem (code : Nat)
  | missingKey
  | wrongType
  | noMethod
  | wrongValue
  | malformedJson
  | undecodable
  | unencodable
  | overflow
  | foreign (name : String)
deriving DecidableEq, Repr

structure Failure where
  kind : FailureKind
  message : String
deriving DecidableEq, Repr

namespace FailureKind

/-- The program's own kinds, which a run reports in one line. -/
def isOwn : FailureKind → Bool
  | .general | .configuration | .sourceUnavailable | .source | .transport | .network
  | .endpointTimeout _ | .endpointResponse _ | .payload _ | .render => true
  | _ => false

/-- A structured source that failed in this way may be followed by the next source. -/
def isRecoverable : FailureKind → Bool
  | .sourceUnavailable | .network | .endpointTimeout _ => true
  | .client (.timeout _) | .client (.transport _) => true
  | .endpointResponse status => 500 ≤ status && status < 600
  | _ => false

end FailureKind

namespace Failure

def isOwn (e : Failure) : Bool := e.kind.isOwn

def isRecoverable (e : Failure) : Bool := e.kind.isRecoverable

/-- A payload that is refused as a whole. -/
def payload (message : String) : Failure := ⟨.payload none, message⟩

end Failure

end FlowBoard
