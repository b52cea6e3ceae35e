import CommandGrammar.Config.Fault
import CommandGrammar.Grammar.Reader

/-!
# Configurations

A configuration may list commands. Laid over another one, its commands take the place of those
with the same name and the others follow. A configuration that lists no commands at all is kept
apart from one with an empty list.
-/

set_option autoImplicit false

namespace CommandGrammar

structure Declaration where
  name : String
  grammar : String
  description : Option String
  deriving DecidableEq, Repr

structure Config where
  commands : Option (List Declaration)
  deriving DecidableEq, Repr

abbrev ConfigReader := String → Except String Config

namespace Declaration

/-- Takes the place of the first declaration with the same name, or comes last. -/
def putInto (d : Declaration) : List Declaration → List Declaration
  | [] => [d]
  | e :: rest => if e.name = d.name then d :: rest else e :: d.putInto rest

def isBlank (d : Declaration) : Bool :=
  Text.allBlank d.name.toList

def grammarProblems (d : Declaration) : List Problem :=
  match Definition.parse d.grammar with
  | .ok _ => []
  | .error e => [.invalidGrammar d.name e]

end Declaration

namespace Config

def empty : Config := ⟨none⟩

def declarations (c : Config) : List Declaration :=
  c.commands.getD []

def overlay (base upper : List Declaration) : List Declaration :=
  upper.foldl (fun list d => d.putInto list) base

def merge (base upper : Config) : Config :=
  match base.commands, upper.commands with
  | some b, some u => ⟨some (overlay b u)⟩
  | none, some u => ⟨some u⟩
  | b, none => ⟨b⟩

/-- The problems of declarations that follow others: `index` counts the others and `seen` holds
their names. A declaration with a blank name is not looked at any further. -/
def problemsFrom (index : Nat) (seen : List String) : List Declaration → List Problem
  | [] => []
  | d :: rest =>
    if d.isBlank then .blankName index :: problemsFrom (index + 1) seen rest
    else
      (if d.name ∈ seen then [.duplicateName d.name] else []) ++ d.grammarProblems ++
        problemsFrom (index + 1) (d.name :: seen) rest

def problems (c : Config) : List Problem :=
  problemsFrom 0 [] c.declarations

def validate (c : Config) : Except ConfigFault Unit :=
  if c.problems.isEmpty then .ok () else .error (.validation c.problems)

end Config

end CommandGrammar
