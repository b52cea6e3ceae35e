/-!
# JSON values

Values whose objects keep the order of their keys. Sameness looks at each key on its own, so
two objects that list the same keys in another order are the same.
-/

set_option autoImplicit false

namespace CommandGrammar

inductive Json where
  | null
  | bool (b : Bool)
  | int (n : Int)
  | str (s : String)
  | arr (items : List Json)
  | obj (entries : List (String × Json))
  deriving Repr, Inhabited

namespace Json

def str? : Json → Option String
  | .str s => some s
  | _ => none

def pluck (key : String) : List (String × Json) → Option (Json × List (String × Json))
  | [] => none
  | (k, v) :: rest =>
    if k = key then some (v, rest)
    else (pluck key rest).map fun found => (found.1, (k, v) :: found.2)

mutual

def same : Json → Json → Bool
  | .null, .null => true
  | .bool a, .bool b => a == b
  | .int m, .int n => m == n
  | .str s, .str t => s == t
  | .arr xs, .arr ys => sameItems xs ys
  | .obj xs, .obj ys => sameEntries xs ys
  | _, _ => false

def sameItems : List Json → List Json → Bool
  | [], [] => true
  | x :: xs, y :: ys => same x y && sameItems xs ys
  | _, _ => false

/-- Each entry is looked up by its key and taken out, until nothing is left on either side. -/
def sameEntries : List (String × Json) → List (String × Json) → Bool
  | [], ys => ys.isEmpty
  | (key, x) :: xs, ys =>
    match pluck key ys with
    | some (y, rest) => same x y && sameEntries xs rest
    | none => false

end

instance : BEq Json :=
  ⟨same⟩

end Json

end CommandGrammar
