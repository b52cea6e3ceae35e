import CommandGrammar.Entries
import CommandGrammar.Json.Value
import CommandGrammar.Matching.Failure

/-!
# Resolvers

A resolver reads the value of a typed parameter. It gets the cursor behind the delimiter and a
context that is passed on unchanged, and returns where to go on. A table finds the resolver of a
type by its name.
-/

set_option autoImplicit false

namespace CommandGrammar

structure Reading where
  cursor : Cursor
  value : Json
  deriving Repr

abbrev Resolver (C : Type) := Cursor → C → Except Mismatch Reading

namespace Resolver

variable {C : Type}

def takingWhile (p : Char → Bool) (message : String) : Resolver C := fun cursor _ =>
  let (taken, advanced) := cursor.takeWhile p
  if taken.isEmpty then .error ⟨cursor.nodeIndex, .resolver message⟩
  else .ok ⟨advanced, .str (String.ofList taken)⟩

def word : Resolver C :=
  takingWhile (· != ' ') "Expected word, found end of command"

def remainder : Resolver C :=
  takingWhile (fun _ => true) "Expected string, found end of command"

end Resolver

structure Resolvers (C : Type) where
  entries : Entries (Resolver C)

namespace Resolvers

variable {C : Type}

def empty : Resolvers C := ⟨[]⟩

def register (t : Resolvers C) (name : String) (r : Resolver C) : Resolvers C :=
  ⟨t.entries.put name r⟩

def get? (t : Resolvers C) (name : String) : Option (Resolver C) :=
  t.entries.find? name

def contains (t : Resolvers C) (name : String) : Bool :=
  (t.get? name).isSome

def names (t : Resolvers C) : List String :=
  t.entries.keys.mergeSort fun a b => a ≤ b

def builtins : Resolvers C :=
  (empty.register "word" Resolver.word).register "string" Resolver.remainder

theorem get?_register (t : Resolvers C) (name other : String) (r : Resolver C) :
    (t.register name r).get? other = if name = other then some r else t.get? other :=
  Entries.find?_put name other r t.entries

end Resolvers

end CommandGrammar
