import CommandGrammar.Catalog
import CommandGrammar.Cli.Request
import CommandGrammar.Config.Source

/-!
# Reports

A request writes lines and ends with code 0 if the command matched or there was nothing to match,
with code 1 if no command matched, and with code 2 if it fails. Every line is made whole before it
is written. How the values on it are spelled is up to what prints it.
-/

set_option autoImplicit false

namespace CommandGrammar.Cli

structure Environment where
  parse : ConfigReader
  files : Files
  directory : Except FileFault String
  home : Option String

inductive RunFault where
  | grammar (error : GrammarFault)
  | directory (error : FileFault)
  | config (path : Option String) (error : ConfigFault)
  | matching (error : Failure)
  | dispatch (error : DispatchFailure)
  deriving DecidableEq, Repr

def RunFault.message : RunFault → String
  | grammar error => error.message
  | directory error => error.message
  | config none error => error.report
  | config (some path) error => "failed to load config " ++ path ++ ": " ++ error.report
  | matching error => error.message
  | dispatch error => error.report

inductive Verdict where
  | success
  | noMatch
  deriving DecidableEq, Repr

/-- An object is kept apart from other values, because the order in which its keys are shown is not
the order in which they were given. -/
inductive Line where
  | value (json : Json)
  | indented (json : Json)
  | object (fields : Entries Json)
  | text (text : String)
  deriving Repr

abbrev Output := List Line

/-- Lines that were written stay written when an action fails behind them. -/
abbrev Run := ExceptT RunFault (StateM Output)

structure Report (α : Type) where
  result : Except RunFault α
  output : Output

/-- What comes of an action when this was written before. -/
def Run.report {α : Type} (action : Run α) (before : Output) : Report α :=
  let (result, output) := action.run.run before
  ⟨result, output⟩

def Report.code (r : Report Verdict) : Nat :=
  match r.result with
  | .ok .success => 0
  | .ok .noMatch => 1
  | .error _ => 2

def writeLine (line : Line) : Run Unit :=
  modify (· ++ [line])

def attempt {ε α : Type} (result : Except ε α) (wrap : ε → RunFault) : Run α :=
  match result with
  | .ok value => pure value
  | .error error => throw (wrap error)

def mismatchBody (e : Mismatch) : Entries Json :=
  [("error", .str e.message), ("token_level", .int e.level)]

def runMatch (grammar : String) (interpret : Bool) (input : String) : Run Verdict := do
  let d ← attempt (Definition.parse grammar) .grammar
  let table : Resolvers Unit := .builtins
  match (if interpret then d.interpret input table () else (d.compile table).run input ()) with
  | .ok params => do
    writeLine (.value params.toJson)
    return .success
  | .error (.mismatch e) => do
    writeLine (.object (mismatchBody e))
    return .noMatch
  | .error e => throw (.matching e)

def runParse (grammar : String) : Run Verdict := do
  let d ← attempt (Definition.parse grammar) .grammar
  writeLine (.indented d.toJson)
  return .success

def runRender (grammar : String) : Run Verdict := do
  let d ← attempt (Definition.parse grammar) .grammar
  writeLine (.text d.usage)
  return .success

def runDispatch (config : Config) (input : String) : Run Verdict := do
  let catalog ← attempt (Catalog.ofConfig config Resolvers.builtins) (.config none)
  match catalog.dispatch input () with
  | .ok dispatched => do
    writeLine (.value dispatched.toJson)
    return .success
  | .error (.noMatch command e) => do
    writeLine (.object (mismatchBody e ++ [("closest", .str command)]))
    return .noMatch
  | .error e => throw (.dispatch e)

def usageLine : String × String × Option String → String
  | (name, usage, none) => name ++ ": " ++ usage
  | (name, usage, some description) => name ++ ": " ++ usage ++ "  # " ++ description

def runList (config : Config) : Run Verdict := do
  let catalog ← attempt (Catalog.ofConfig config (Resolvers.builtins : Resolvers Unit))
    (.config none)
  catalog.usage.forM fun entry => writeLine (.text (usageLine entry))
  return .success

namespace Request

def source (r : Request) (home : Option String) : Source :=
  match r.config with
  | some path => .file path
  | none => .ofHome home

def loaded (r : Request) (env : Environment) : Except RunFault Config := do
  let directory ← env.directory.mapError .directory
  (Config.load env.parse env.files directory (r.source env.home)).mapError (.config r.config)

def run (r : Request) (env : Environment) : Run Verdict :=
  match r.task with
  | .matching grammar interpret input => runMatch grammar interpret input
  | .parsing grammar => runParse grammar
  | .rendering grammar => runRender grammar
  | .dispatching input => do
    let config ← attempt (r.loaded env) id
    runDispatch config input
  | .listing => do
    let config ← attempt (r.loaded env) id
    runList config

end Request

end CommandGrammar.Cli
