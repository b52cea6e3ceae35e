import CommandGrammar.Cli.Request
import CommandGrammar.Shell.Arguments

/-!
# Command lines

Reads a request from arguments. The option for the configuration file is allowed before and behind
the name of the task, and the later place wins.
-/

set_option autoImplicit false

namespace CommandGrammar.Cli

def configOption : OptionSpec := ⟨"config", none, .value false⟩

def helpOption : OptionSpec := ⟨"help", some 'h', .help⟩

def grammarOption : OptionSpec := ⟨"grammar", some 'g', .value true⟩

def interpretOption : OptionSpec := ⟨"interpret", none, .flag⟩

def commandNames : List String :=
  ["match", "parse", "render", "dispatch", "list", "help"]

def rootSpec : CommandSpec := ⟨[configOption, helpOption], [], commandNames⟩

def taskSpec : String → CommandSpec
  | "match" => ⟨[grammarOption, interpretOption, configOption, helpOption], ["INPUT"], []⟩
  | "parse" | "render" => ⟨[configOption, helpOption], ["GRAMMAR"], []⟩
  | "dispatch" => ⟨[configOption, helpOption], ["INPUT"], []⟩
  | _ => ⟨[configOption, helpOption], [], []⟩

def require (values : Entries String) (name : String) : Except UsageFault String :=
  match values.find? name with
  | some value => .ok value
  | none => .error .missingRequiredArgument

def Task.ofValues (command : String) (values : Entries String) : Except UsageFault Task :=
  match command with
  | "match" =>
    return matching (← require values "grammar") (values.find? "interpret").isSome
      (← require values "INPUT")
  | "parse" => return parsing (← require values "GRAMMAR")
  | "render" => return rendering (← require values "GRAMMAR")
  | "dispatch" => return dispatching (← require values "INPUT")
  | _ => .ok listing

def helpOutcome : List String → UsageFault
  | [] => .help
  | [name] => if commandNames.contains name then .help else .invalidSubcommand
  | _ => .invalidSubcommand

def Request.ofArguments (args : List String) : Except UsageFault Request := do
  let (root, sub) ← rootSpec.read .start 0 false args
  match sub with
  | none =>
    let root ← root.settle
    .error (if root.values.isEmpty then .helpOnMissing else .missingSubcommand)
  | some ("help", rest) => .error (helpOutcome rest)
  | some (command, rest) =>
    let (leaf, _) ← (taskSpec command).read .start 0 false rest
    let leaf ← leaf.settle
    let task ← Task.ofValues command leaf.values
    let root ← root.settle
    let config := (leaf.values.find? "config").or (root.values.find? "config")
    return ⟨config, task⟩

end CommandGrammar.Cli
