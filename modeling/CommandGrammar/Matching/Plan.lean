import CommandGrammar.Matching.Walk

/-!
# Compiled matchers

A definition is turned once into steps with all that can be settled beforehand: alternatives are
sorted, resolvers are looked up, and each step knows what it means if the command ends before
it. Later changes of the table do not reach a compiled matcher.
-/

set_option autoImplicit false

namespace CommandGrammar

/-- What the end of a command before a step means: a node that must be there is still ahead, or
only optional parameters are. -/
inductive Ending where
  | early
  | complete
  deriving DecidableEq, Repr

inductive Action (C : Type) where
  | literal (alternatives : Ranking)
  | choice (name : String) (optional : Bool) (alternatives : Ranking)
  | resolve (name : String) (optional : Bool) (resolver : Resolver C)
  | unresolvable (typeName : String)

structure Step (C : Type) where
  index : Nat
  spaced : Bool
  ending : Ending
  action : Action C

structure Plan (C : Type) where
  steps : List (Step C)
  nodeCount : Nat

variable {C : Type}

def Node.action (table : Resolvers C) : Node → Action C
  | .literal values => .literal (.ofValues values)
  | .param ⟨name, optional, .choice values⟩ => .choice name optional (.ofValues values)
  | .param ⟨name, optional, .typename type⟩ =>
    match table.get? type with
    | some resolver => .resolve name optional resolver
    | none => .unresolvable type

/-- The steps of the nodes from `index` on, built from the last one backwards, and whether one of
the nodes must be there. -/
def compileFrom (table : Resolvers C) : Nat → List Node → List (Step C) × Bool
  | _, [] => ([], false)
  | index, node :: rest =>
    let (steps, ahead) := compileFrom table (index + 1) rest
    let mandatory := ahead || node.isRequired
    ({ index := index
       spaced := index != 0
       ending := if mandatory then .early else .complete
       action := node.action table } :: steps, mandatory)

def Definition.compile (d : Definition) (table : Resolvers C) : Plan C where
  steps := (compileFrom table 0 d).1
  nodeCount := d.length

namespace Action

def kind : Action C → String
  | literal _ => "literal"
  | choice _ optional _ => if optional then "optional choice" else "choice"
  | resolve _ optional _ => if optional then "optional resolve" else "resolve"
  | unresolvable _ => "missing resolver"

def run (context : C) (index : Nat) (c : Cursor) : Action C → Except Failure Attempt
  | literal alternatives =>
    match alternatives.pick c with
    | some candidate => .ok (.advanced (c.take candidate.length).2 none)
    | none => .error (.mismatch (.noneAt index alternatives.listing c))
  | choice name optional alternatives =>
    match alternatives.pick c with
    | some candidate =>
      .ok (.advanced (c.take candidate.length).2 (some (name, .str candidate.value)))
    | none =>
      if optional then .ok .skipped
      else .error (.mismatch (.noneAt index alternatives.listing c))
  | resolve name optional resolver =>
    match resolver (c.tagged index) context with
    | .ok resolved => .ok (.advanced resolved.cursor (some (name, resolved.value)))
    | .error e => if optional then .ok .skipped else .error (.mismatch e)
  | unresolvable type => .error (.unknownType index type)

end Action

namespace Plan

def runSteps (context : C) (nodeCount : Nat) :
    List (Step C) → Cursor → Params Json → Outcome
  | [], c, params =>
    if c.atEnd then .ok params else .error (.mismatch (.leftoverAt nodeCount c))
  | step :: rest, c, params =>
    if c.atEnd then
      match step.ending with
      | .early => .error (.mismatch (.endAt step.index))
      | .complete => .ok params
    else match (if step.spaced then c.pastSpace step.index else .ok c) with
      | .error e => .error (.mismatch e)
      | .ok start =>
        match step.action.run context step.index start with
        | .error e => .error e
        | .ok .skipped => runSteps context nodeCount rest c params
        | .ok (.advanced c' captured) =>
          runSteps context nodeCount rest c' (params.capture captured)

def run (m : Plan C) (input : String) (context : C) : Outcome :=
  runSteps context m.nodeCount m.steps (Cursor.ofString input) Params.empty

def describe (m : Plan C) : String :=
  "CommandMatcher \x7b steps: [" ++
    ", ".intercalate (m.steps.map fun step => "\"" ++ step.action.kind ++ "\"") ++ "] \x7d"

end Plan

end CommandGrammar
