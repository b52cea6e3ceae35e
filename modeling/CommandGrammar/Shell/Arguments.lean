import CommandGrammar.Entries

/-!
# Command line arguments

Options start with dashes. One that takes a value has it attached or as the next argument; short
options may share a dash. Behind two dashes that stand alone everything is positional. A value
is taken over only when the next thing is read, so a fault in it shows no earlier.
-/

set_option autoImplicit false

namespace CommandGrammar.Cli

inductive UsageFault where
  | unknownArgument
  | invalidSubcommand
  | missingRequiredArgument
  | missingSubcommand
  | invalidValue
  | argumentConflict
  | tooManyValues
  | help
  | helpOnMissing
  deriving DecidableEq, Repr

inductive OptionKind where
  | value (mayBeEmpty : Bool)
  | flag
  | help
  deriving DecidableEq, Repr

structure OptionSpec where
  name : String
  short : Option Char
  kind : OptionKind
  deriving DecidableEq, Repr

/-- Values by the names of options and positionals, and an option whose value is still to be
taken over or to come. -/
structure Parsed where
  values : Entries String
  pending : Option (OptionSpec × Option String)
  deriving DecidableEq, Repr

namespace Parsed

def start : Parsed := ⟨[], none⟩

def set (p : Parsed) (o : OptionSpec) (value : String) : Except UsageFault Parsed :=
  if (p.values.find? o.name).isSome then .error .argumentConflict
  else if o.kind = .value false ∧ value = "" then .error .invalidValue
  else .ok { p with values := p.values.put o.name value }

def settle (p : Parsed) : Except UsageFault Parsed :=
  match p.pending with
  | none => .ok p
  | some (_, none) => .error .invalidValue
  | some (o, some value) => { p with pending := none }.set o value

def expects (p : Parsed) : Option OptionSpec :=
  match p.pending with
  | some (o, none) => some o
  | _ => none

def react (p : Parsed) (o : OptionSpec) (attached : Option String) : Except UsageFault Parsed :=
  match o.kind, attached with
  | .value _, some value => do (← p.settle).set o value
  | .value _, none => do return { ← p.settle with pending := some (o, none) }
  | .flag, none => do (← p.settle).set o "true"
  | .help, none => do
    let _ ← p.settle
    .error .help
  | .flag, some _ | .help, some _ => .error .tooManyValues

def long (options : List OptionSpec) (p : Parsed) (body : List Char) : Except UsageFault Parsed :=
  let name := body.takeWhile (· != '=')
  let attached := if name.length < body.length then
    some (String.ofList (body.drop (name.length + 1))) else none
  match options.find? (·.name = String.ofList name) with
  | none => .error .unknownArgument
  | some o => p.react o attached

def short (options : List OptionSpec) (p : Parsed) : List Char → Except UsageFault Parsed
  | [] => .ok p
  | c :: rest =>
    match options.find? (·.short = some c) with
    | none => .error .unknownArgument
    | some o =>
      match o.kind, rest with
      | .value _, [] => p.react o none
      | .value _, '=' :: value => p.react o (some (String.ofList value))
      | .value _, value => p.react o (some (String.ofList value))
      | _, rest => do short options (← p.react o none) rest

end Parsed

inductive Argument where
  | dashes
  | long (body : List Char)
  | short (body : List Char)
  | word (text : String)
  deriving DecidableEq, Repr

def Argument.ofString (text : String) : Argument :=
  match text.toList with
  | ['-', '-'] => dashes
  | '-' :: '-' :: body => long body
  | '-' :: c :: body => short (c :: body)
  | _ => word text

structure CommandSpec where
  options : List OptionSpec
  positionals : List String
  subcommands : List String
  deriving DecidableEq, Repr

namespace CommandSpec

def misplaced (spec : CommandSpec) (trailing : Bool) (text : String) : UsageFault :=
  if spec.subcommands.isEmpty || (trailing && spec.subcommands.contains text) then .unknownArgument
  else .invalidSubcommand

def place (spec : CommandSpec) (p : Parsed) (used : Nat) (trailing : Bool) (text : String) :
    Except UsageFault Parsed :=
  match spec.positionals[used]? with
  | none => .error (spec.misplaced trailing text)
  | some name => do
    let p ← p.settle
    return { p with values := p.values.put name text }

def read (spec : CommandSpec) : Parsed → Nat → Bool → List String →
    Except UsageFault (Parsed × Option (String × List String))
  | p, _, _, [] => .ok (p, none)
  | p, used, true, arg :: rest => do
    spec.read (← spec.place p used true arg) (used + 1) true rest
  | p, used, false, arg :: rest =>
    if p.expects.isNone && spec.subcommands.contains arg then .ok (p, some (arg, rest))
    else match Argument.ofString arg, p.expects with
      | .dashes, _ => spec.read p used true rest
      | .long body, _ => do spec.read (← p.long spec.options body) used false rest
      | .short body, _ => do spec.read (← p.short spec.options body) used false rest
      | .word text, some o => spec.read { p with pending := some (o, some text) } used false rest
      | .word text, none => do
        spec.read (← spec.place p used false text) (used + 1) false rest

end CommandSpec

end CommandGrammar.Cli
