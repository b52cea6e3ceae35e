/-!
# Requests

What a command line asks for: a task, and the configuration file that replaces the usual ones.
-/

set_option autoImplicit false

namespace CommandGrammar.Cli

inductive Task where
  | matching (grammar : String) (interpret : Bool) (input : String)
  | parsing (grammar : String)
  | rendering (grammar : String)
  | dispatching (input : String)
  | listing
  deriving DecidableEq, Repr

structure Request where
  config : Option String
  task : Task
  deriving DecidableEq, Repr

end CommandGrammar.Cli
