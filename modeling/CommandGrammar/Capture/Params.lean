import CommandGrammar.Entries
import CommandGrammar.Json.Value

/-!
# Captured parameters

The values that a command captured, under their names, in the order of capture. A parameter that
was left out has no entry. Sameness does not look at the order.
-/

set_option autoImplicit false

namespace CommandGrammar

/-- The part of a serializer that writes maps. It may be told beforehand how many entries come. -/
structure MapSerializer (m : Type → Type) (V M R : Type) where
  start : Option Nat → m M
  entry : M → String → V → m M
  finish : M → m R

def Json.collector : MapSerializer Id Json (Entries Json) Json where
  start _ := pure []
  entry fields key value := pure (fields ++ [(key, value)])
  finish fields := pure (.obj fields)

structure Params (V : Type) where
  entries : Entries V
  deriving Repr, Inhabited

namespace Params

variable {V : Type}

def empty : Params V := ⟨[]⟩

def insert (p : Params V) (name : String) (value : V) : Params V :=
  ⟨p.entries.put name value⟩

def ofPairs (pairs : List (String × V)) : Params V :=
  pairs.foldl (fun p pair => p.insert pair.1 pair.2) empty

def get? (p : Params V) (name : String) : Option V :=
  p.entries.find? name

def contains (p : Params V) (name : String) : Bool :=
  (p.get? name).isSome

def size (p : Params V) : Nat :=
  p.entries.length

def isEmpty (p : Params V) : Bool :=
  p.entries.isEmpty

def names (p : Params V) : List String :=
  p.entries.keys

/-- As many entries on both sides, and each one on the left is found on the right. -/
def same [BEq V] (p q : Params V) : Bool :=
  p.size == q.size && p.entries.all fun entry => q.get? entry.1 == some entry.2

def serialize {m : Type → Type} [Monad m] {M R : Type} (s : MapSerializer m V M R)
    (p : Params V) : m R := do
  let map ← s.start (some p.size)
  let map ← p.entries.foldlM (fun map entry => s.entry map entry.1 entry.2) map
  s.finish map

def getStr? (p : Params Json) (name : String) : Option String :=
  (p.get? name).bind Json.str?

def toJson (p : Params Json) : Json :=
  (p.serialize Json.collector).run

theorem get?_insert (p : Params V) (name other : String) (value : V) :
    (p.insert name value).get? other = if name = other then some value else p.get? other :=
  Entries.find?_put name other value p.entries

theorem toJson_eq (p : Params Json) : p.toJson = .obj p.entries := by
  have hcollect (fields entries : Entries Json) :
      entries.foldlM (fun fields entry => Json.collector.entry fields entry.1 entry.2) fields =
        pure (fields ++ entries) := by
    induction entries generalizing fields with
    | nil => rw [List.append_nil, List.foldlM_nil]
    | cons entry rest ih => rw [List.append_cons, ← ih, List.foldlM_cons]; rfl
  exact congrArg Json.obj (hcollect [] p.entries)

end Params

end CommandGrammar
