import CommandGrammar.Grammar.Definition
import CommandGrammar.Text.LetterCase

/-!
# Usage text

A short form of a definition for people. Parameters show their name in upper case, choices show
their values; quotes and types are left out.
-/

set_option autoImplicit false

namespace CommandGrammar

def alternatives (values : List String) : String :=
  "/".intercalate values

def Param.label (p : Param) : String :=
  match p.type with
  | .typename _ => String.ofList (Text.upper p.name.toList)
  | .choice values => alternatives values

def Node.usage : Node → String
  | literal values => alternatives values
  | param p => if p.optional then s!"[{p.label}]" else s!"<{p.label}>"

def Definition.usage (d : Definition) : String :=
  " ".intercalate (d.map Node.usage)

end CommandGrammar
