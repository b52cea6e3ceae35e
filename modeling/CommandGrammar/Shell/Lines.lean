import CommandGrammar.Cli.Report
import CommandGrammar.Shell.JsonText

/-!
# Printed lines

A line as text. The order of the keys of an object is the caller's choice.
-/

set_option autoImplicit false

namespace CommandGrammar.Cli

def Line.print (arrange : Entries Json → Entries Json) : Line → String
  | value json => json.compact
  | indented json => json.indented
  | object fields => (Json.obj (arrange fields)).compact
  | text shown => shown

def Output.print (arrange : Entries Json → Entries Json) (output : Output) : String :=
  String.join (output.map fun line => line.print arrange ++ "\n")

end CommandGrammar.Cli
