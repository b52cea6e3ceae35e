/-!
# Faults of a grammar text

Positions count characters from the start of the text.
-/

set_option autoImplicit false

namespace CommandGrammar

inductive GrammarFault where
  | empty
  | unclosedQuote (pos : Nat)
  | unclosedAngleBracket (pos : Nat)
  | unclosedSquareBracket (pos : Nat)
  | emptyAlternative (pos : Nat)
  | missingParamName (pos : Nat)
  | missingParamType (name : String)
  | duplicateParam (name : String)
  | unexpectedToken (pos : Nat) (found : String)
  deriving DecidableEq, Repr

namespace GrammarFault

def message : GrammarFault → String
  | empty => "empty grammar"
  | unclosedQuote pos => s!"unclosed quote starting at position {pos}"
  | unclosedAngleBracket pos => s!"unclosed angle bracket at position {pos}"
  | unclosedSquareBracket pos => s!"unclosed square bracket at position {pos}"
  | emptyAlternative pos => s!"empty alternative at position {pos}"
  | missingParamName pos => s!"missing parameter name at position {pos}"
  | missingParamType name => s!"missing type for parameter '{name}'"
  | duplicateParam name => s!"duplicate parameter name '{name}'"
  | unexpectedToken pos found => s!"unexpected {found} at position {pos}"

def pos? : GrammarFault → Option Nat
  | unclosedQuote pos | unclosedAngleBracket pos | unclosedSquareBracket pos
  | emptyAlternative pos | missingParamName pos | unexpectedToken pos _ => some pos
  | empty | missingParamType _ | duplicateParam _ => none

end GrammarFault

end CommandGrammar
