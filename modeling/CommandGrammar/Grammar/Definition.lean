import CommandGrammar.Json.Value

/-!
# Command definitions

A definition lists the nodes of a command in the order in which they are matched. A literal node
is one of several fixed words; a parameter captures a value under its name.
-/

set_option autoImplicit false

namespace CommandGrammar

inductive ParamType where
  | typename (value : String)
  | choice (values : List String)
  deriving DecidableEq, Repr

structure Param where
  name : String
  optional : Bool
  type : ParamType
  deriving DecidableEq, Repr

inductive Node where
  | literal (values : List String)
  | param (param : Param)
  deriving DecidableEq, Repr

abbrev Definition := List Node

namespace Node

def isRequired : Node → Bool
  | literal _ => true
  | param p => !p.optional

def typeName? : Node → Option String
  | param ⟨_, _, .typename value⟩ => some value
  | _ => none

def paramName? : Node → Option String
  | param p => some p.name
  | literal _ => none

end Node

namespace Definition

def typeNames (d : Definition) : List String :=
  d.filterMap Node.typeName?

def paramNames (d : Definition) : List String :=
  d.filterMap Node.paramName?

theorem paramNames_cons (node : Node) (d : Definition) :
    paramNames (node :: d) = node.paramName?.toList ++ paramNames d := by
  cases h : node.paramName? <;> simp [paramNames, h]

theorem paramNames_concat (d : Definition) (node : Node) :
    paramNames (d ++ [node]) = paramNames d ++ node.paramName?.toList := by
  cases h : node.paramName? <;> simp [paramNames, h]

end Definition

def ParamType.toJson : ParamType → Json
  | typename value => .obj [("type", .str "typename"), ("value", .str value)]
  | choice values => .obj [("type", .str "string_or"), ("values", .arr (values.map .str))]

def Node.toJson : Node → Json
  | literal values => .obj [("type", .str "string_literal"), ("values", .arr (values.map .str))]
  | param p =>
    .obj [("type", .str "param"), ("name", .str p.name), ("optional", .bool p.optional),
      ("ptype", p.type.toJson)]

def Definition.toJson (d : Definition) : Json :=
  .arr (d.map Node.toJson)

end CommandGrammar
