import CommandGrammar.Grammar.Fault

/-!
# Faults of a configuration

What can be wrong with a file, with its text, and with the commands it lists. All problems of
the commands are reported together.
-/

set_option autoImplicit false

namespace CommandGrammar

/-- Whatever the file system reports, by its text. -/
structure FileFault where
  message : String
  deriving DecidableEq, Repr

namespace FileFault

def notFound : FileFault := ⟨"No such file or directory (os error 2)"⟩

def invalidUtf8 : FileFault := ⟨"stream did not contain valid UTF-8"⟩

end FileFault

inductive Problem where
  | blankName (index : Nat)
  | duplicateName (name : String)
  | invalidGrammar (name : String) (error : GrammarFault)
  | unknownType (name type : String) (available : List String)
  deriving DecidableEq, Repr

def Problem.message : Problem → String
  | blankName index => s!"commands[{index}]: name must not be empty"
  | duplicateName name => s!"commands.{name}: duplicate command name"
  | invalidGrammar name error => "commands." ++ name ++ ": invalid grammar: " ++ error.message
  | unknownType name type available =>
    "commands." ++ name ++ ": unknown type '" ++ type ++ "' (available: " ++
      ", ".intercalate available ++ ")"

def validationReport (messages : List String) : String :=
  "validation errors:\n" ++ "\n".intercalate (messages.map ("  - " ++ ·))

inductive ConfigFault where
  | io (error : FileFault)
  | yaml (text : String)
  | validation (problems : List Problem)
  deriving DecidableEq, Repr

namespace ConfigFault

def message : ConfigFault → String
  | io error => "io error: " ++ error.message
  | yaml text => "yaml parse error: " ++ text
  | validation problems => validationReport (problems.map Problem.message)

/-- The message, and behind it that of the cause, if the cause is another error. -/
def report : ConfigFault → String
  | io error => (io error).message ++ ": " ++ error.message
  | yaml text => (yaml text).message ++ ": " ++ text
  | error => error.message

end ConfigFault

end CommandGrammar
