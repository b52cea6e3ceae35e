import CommandGrammar.Grammar.Definition
import CommandGrammar.Input.Longest
import CommandGrammar.Matching.Outcome
import CommandGrammar.Capture.Resolver

/-!
# Matching a definition directly

The nodes are visited in order. Every node but the first wants one space before it. An optional
parameter that does not fit gives back all it read, its space too. A command may end early when
only optional parameters are left.
-/

set_option autoImplicit false

namespace CommandGrammar

/-- What a node did with the command: it went on to a cursor and may have captured a value, or
it left everything as it was. -/
inductive Attempt where
  | advanced (cursor : Cursor) (captured : Option (String × Json))
  | skipped
  deriving Repr

def Params.capture (p : Params Json) : Option (String × Json) → Params Json
  | none => p
  | some (name, value) => p.insert name value

def Cursor.pastSpace (c : Cursor) (level : Nat) : Except Mismatch Cursor :=
  match c.peek 0 with
  | none => .error (.endAt level)
  | some found =>
    if found = ' ' then .ok (c.advance 1) else .error ⟨level, .delimiter found⟩

variable {C : Type}

def Node.attempt (table : Resolvers C) (context : C) (level : Nat) (c : Cursor) :
    Node → Except Failure Attempt
  | .literal values =>
    match longestAt c values with
    | some value => .ok (.advanced (c.take value.length).2 none)
    | none => .error (.mismatch (.noneAt level (joinAlternatives values) c))
  | .param ⟨name, optional, .choice values⟩ =>
    match longestAt c values with
    | some value => .ok (.advanced (c.take value.length).2 (some (name, .str value)))
    | none =>
      if optional then .ok .skipped
      else .error (.mismatch (.noneAt level (joinAlternatives values) c))
  | .param ⟨name, optional, .typename type⟩ =>
    match table.get? type with
    | none => .error (.unknownType level type)
    | some resolver =>
      match resolver (c.tagged level) context with
      | .ok resolved => .ok (.advanced resolved.cursor (some (name, resolved.value)))
      | .error e => if optional then .ok .skipped else .error (.mismatch e)

namespace Definition

def walk (table : Resolvers C) (context : C) :
    Nat → Definition → Cursor → Params Json → Outcome
  | level, [], c, params =>
    if c.atEnd then .ok params else .error (.mismatch (.leftoverAt level c))
  | level, node :: rest, c, params =>
    if c.atEnd then
      if (node :: rest).any Node.isRequired then .error (.mismatch (.endAt level))
      else .ok params
    else match (if level = 0 then .ok c else c.pastSpace level) with
      | .error e => .error (.mismatch e)
      | .ok start =>
        match node.attempt table context level start with
        | .error e => .error e
        | .ok .skipped => walk table context (level + 1) rest c params
        | .ok (.advanced c' captured) =>
          walk table context (level + 1) rest c' (params.capture captured)

def interpret (d : Definition) (input : String) (table : Resolvers C) (context : C) :
    Outcome :=
  walk table context 0 d (Cursor.ofString input) Params.empty

end Definition

end CommandGrammar
