import CommandGrammar.Shell.Yaml.Place

/-!
# Gaps in a scalar

A scalar may run over several lines. Blanks between two visible characters of a line stay. A
single line end becomes a space, further ones stay, and blanks around line ends are dropped.
-/

set_option autoImplicit false

namespace CommandGrammar.Yaml

/-- What lies between two visible characters of a scalar. After a line end that a backslash
hides, only further line ends count. -/
inductive Gap where
  | blanks (text : String)
  | breaks (extra : Nat)
  | hidden (breaks : Nat)
  deriving DecidableEq, Repr

def lineEnds (n : Nat) : String := String.ofList (List.replicate n '\n')

namespace Gap

def none : Gap := blanks ""

def crosses : Gap → Bool
  | blanks _ => false
  | _ => true

def addBlank (c : Char) : Gap → Gap
  | blanks text => blanks (text.push c)
  | gap => gap

def addBreak : Gap → Gap
  | blanks _ => breaks 0
  | breaks extra => breaks (extra + 1)
  | hidden n => hidden (n + 1)

def text : Gap → String
  | blanks text => text
  | breaks 0 => " "
  | breaks (n + 1) => lineEnds (n + 1)
  | hidden n => lineEnds n

end Gap

structure Scalar where
  text : String
  place : Place
  deriving DecidableEq, Repr

end CommandGrammar.Yaml
