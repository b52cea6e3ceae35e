import CommandGrammar.Input.Cursor

/-!
# Failures of a match

A mismatch says that a command does not fit its definition, and how many nodes it went through.
A missing resolver is a fault of the definition and is kept apart.
-/

set_option autoImplicit false

namespace CommandGrammar

inductive Reason where
  | endOfCommand
  | delimiter (found : Char)
  | alternatives (expected found : String)
  | leftover (found : String)
  | resolver (message : String)
  deriving DecidableEq, Repr

def Reason.message : Reason → String
  | endOfCommand => "Unexpected end of command"
  | delimiter found => "Expected \" \", found " ++ found.toString
  | alternatives expected found => "Expected one of " ++ expected ++ ", found " ++ found
  | leftover found => "Expected end of command, found " ++ found
  | resolver message => message

structure Mismatch where
  level : Nat
  reason : Reason
  deriving DecidableEq, Repr

namespace Mismatch

def message (e : Mismatch) : String :=
  e.reason.message

def endAt (level : Nat) : Mismatch :=
  ⟨level, .endOfCommand⟩

def noneAt (level : Nat) (expected : String) (c : Cursor) : Mismatch :=
  ⟨level, .alternatives expected (String.ofList (c.ahead 5))⟩

def leftoverAt (level : Nat) (c : Cursor) : Mismatch :=
  ⟨level, .leftover c.rest⟩

end Mismatch

inductive Failure where
  | mismatch (error : Mismatch)
  | unknownType (level : Nat) (typeName : String)
  deriving DecidableEq, Repr

namespace Failure

def level : Failure → Nat
  | mismatch error => error.level
  | unknownType level _ => level

def message : Failure → String
  | mismatch error => error.message
  | unknownType level name =>
    s!"internal matcher error: no resolver registered for type '{name}' (token {level})"

end Failure

end CommandGrammar
