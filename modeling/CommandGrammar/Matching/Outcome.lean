import CommandGrammar.Matching.Failure
import CommandGrammar.Capture.Params

/-!
# Outcomes

A match gives parameters or a failure. Two outcomes are the same when a caller cannot tell them
apart: failures by their kind, level and text, parameters without regard to their order.
-/

set_option autoImplicit false

namespace CommandGrammar

abbrev Outcome := Except Failure (Params Json)

def Mismatch.same (a b : Mismatch) : Bool :=
  a.level == b.level && a.message == b.message

def Failure.same : Failure → Failure → Bool
  | .mismatch a, .mismatch b => a.same b
  | .unknownType m s, .unknownType n t => m == n && s == t
  | _, _ => false

def Outcome.same : Outcome → Outcome → Bool
  | .ok p, .ok q => p.same q
  | .error a, .error b => a.same b
  | _, _ => false

end CommandGrammar
