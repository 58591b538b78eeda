/-!
# Violations

A violation is the place of a value in a payload and the reason for which the value is refused
there. The place is a list of steps from the root; its text puts a point before a key and brackets
around an index.
-/

namespace FlowBoard.Wire

inductive Step
  | key (name : String)
  | index (i : Int)
deriving DecidableEq, Repr

def Step.text : Step → String
  | .key name => "." ++ name
  | .index i => "[" ++ toString i ++ "]"

/-- The place below a named root. -/
def pathText (root : String) (steps : List Step) : String :=
  steps.foldl (fun path step => path ++ step.text) root

inductive Reason
  | missing
  | noText
  | noNumber
  | notFinite
  | noKind
  | noList
  | noRecord (record : String)
  | tooDeep
deriving DecidableEq, Repr

/-- The words of the validator that the program runs with. -/
def Reason.message : Reason → String
  | .missing => "Field required"
  | .noText => "Input should be a valid string"
  | .noNumber => "Input should be a valid number"
  | .notFinite => "Input should be a finite number"
  | .noKind => "Input should be 'arrow', 'line' or 'bidirectional'"
  | .noList => "Input should be a valid list"
  | .noRecord record => "Input should be a valid dictionary or instance of " ++ record
  | .tooDeep => "Recursion error - maximum validation depth exceeded"

structure Violation where
  steps : List Step
  reason : Reason
deriving DecidableEq, Repr

namespace Violation

def here (reason : Reason) : Violation := ⟨[], reason⟩

/-- The same violation, seen from one step further up. -/
def under (step : Step) (v : Violation) : Violation := { v with steps := step :: v.steps }

end Violation

end FlowBoard.Wire
