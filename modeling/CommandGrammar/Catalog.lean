import CommandGrammar.Config.Layers
import CommandGrammar.Grammar.Usage
import CommandGrammar.Matching.Plan

/-!
# Catalogs

Named commands in order, each compiled with the resolvers of the time when it was added. A command line
goes to the first command that matches it. If none does, the one that got furthest is named.
-/

set_option autoImplicit false

namespace CommandGrammar

structure Command (C : Type) where
  name : String
  description : Option String
  definition : Definition
  plan : Plan C

structure Catalog (C : Type) where
  commands : List (Command C)

structure Dispatch where
  command : String
  params : Params Json
  deriving Repr

def Dispatch.toJson (d : Dispatch) : Json :=
  .obj [("command", .str d.command), ("params", d.params.toJson)]

inductive DispatchFailure where
  | empty
  | noMatch (command : String) (error : Mismatch)
  | fatal (command : String) (error : Failure)
  deriving DecidableEq, Repr

namespace DispatchFailure

def message : DispatchFailure → String
  | empty => "no commands registered"
  | noMatch command error =>
    "no command matched (closest: " ++ command ++ "): " ++ error.message
  | fatal command error => "command '" ++ command ++ "': " ++ error.message

/-- The message, and behind it that of the cause, if the cause is another error. -/
def report : DispatchFailure → String
  | fatal command error => (fatal command error).message ++ ": " ++ error.message
  | error => error.message

end DispatchFailure

variable {C : Type}

namespace Declaration

/-- Types that have no resolver, one problem for each use. A grammar that cannot be read has
none. -/
def typeProblems (d : Declaration) (table : Resolvers C) : List Problem :=
  match Definition.parse d.grammar with
  | .ok definition =>
    (definition.typeNames.filter fun type => !table.contains type).map fun type =>
      .unknownType d.name type table.names
  | .error _ => []

def command? (d : Declaration) (table : Resolvers C) : Option (Command C) :=
  match Definition.parse d.grammar with
  | .ok definition => some ⟨d.name, d.description, definition, definition.compile table⟩
  | .error _ => none

end Declaration

namespace Catalog

def empty : Catalog C := ⟨[]⟩

def add (s : Catalog C) (name : String) (d : Definition) (table : Resolvers C) :
    Catalog C :=
  ⟨s.commands ++ [⟨name, none, d, d.compile table⟩]⟩

def ofConfig (config : Config) (table : Resolvers C) : Except ConfigFault (Catalog C) :=
  let problems := config.declarations.flatMap fun d =>
    d.grammarProblems ++ d.typeProblems table
  if problems.isEmpty then .ok ⟨config.declarations.filterMap (·.command? table)⟩
  else .error (.validation problems)

def size (s : Catalog C) : Nat :=
  s.commands.length

def isEmpty (s : Catalog C) : Bool :=
  s.commands.isEmpty

def get? (s : Catalog C) (name : String) : Option Definition :=
  (s.commands.find? fun command => command.name = name).map (·.definition)

def usage (s : Catalog C) : List (String × String × Option String) :=
  s.commands.map fun command => (command.name, command.definition.usage, command.description)

/-- Replaces the failure kept so far only by one that got further. -/
def further (closest : Option (String × Mismatch)) (name : String) (e : Mismatch) :
    Option (String × Mismatch) :=
  if closest.all (·.2.level < e.level) then some (name, e) else closest

def dispatchFrom (input : String) (context : C) :
    List (Command C) → Option (String × Mismatch) → Except DispatchFailure Dispatch
  | [], none => .error .empty
  | [], some (name, e) => .error (.noMatch name e)
  | command :: rest, closest =>
    match command.plan.run input context with
    | .ok params => .ok ⟨command.name, params⟩
    | .error (.mismatch e) => dispatchFrom input context rest (further closest command.name e)
    | .error e => .error (.fatal command.name e)

def dispatch (s : Catalog C) (input : String) (context : C) :
    Except DispatchFailure Dispatch :=
  dispatchFrom input context s.commands none

end Catalog

end CommandGrammar
