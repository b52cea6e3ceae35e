import CommandGrammar.Shell.Yaml.Value

/-!
# What a mapping says

A key may stand only once among a mapping's own entries. Behind a merge key stand mappings whose
entries are added, unless their keys are there. Of several such mappings the last one wins. What
is not added is never looked at, and may hold faults.
-/

set_option autoImplicit false

namespace CommandGrammar.Yaml

def isMergeKey : Yaml → Bool
  | scalar .plain text => text = "<<"
  | _ => false

mutual

def merged : Yaml → Except Fault (List (Yaml × Yaml))
  | scalar style text => if (scalar style text).isNull then .ok [] else .error .merge
  | seq items => mergedItems items
  | map entries => do
    let (own, more) ← split entries
    return own ++ more

def mergedItems : List Yaml → Except Fault (List (Yaml × Yaml))
  | [] => .ok []
  | item :: rest => do
    let entries ← merged item
    return (← mergedItems rest) ++ entries

def split : List (Yaml × Yaml) → Except Fault (List (Yaml × Yaml) × List (Yaml × Yaml))
  | [] => .ok ([], [])
  | (key, value) :: rest => do
    let (own, more) ← split rest
    if key.isMergeKey then return (own, more ++ (← merged value))
    else return ((key, value) :: own, more)

end

def hasKey (entries : List (Yaml × Yaml)) (key : Yaml) : Bool :=
  entries.any fun entry => entry.1.same key

def addOwn (entries : List (Yaml × Yaml)) (entry : Yaml × Yaml) :
    Except Fault (List (Yaml × Yaml)) :=
  if hasKey entries entry.1 then .error .duplicateKey else .ok (entries ++ [entry])

def addMerged (entries : List (Yaml × Yaml)) (entry : Yaml × Yaml) : List (Yaml × Yaml) :=
  if hasKey entries entry.1 then entries else entries ++ [entry]

/-- A key that is a pair of null and a value stands for that pair. What stands behind the key is
dropped. -/
def unfoldKey : Yaml × Yaml → Yaml × Yaml
  | (map [(scalar style text, value)], other) =>
    if text.isEmpty || isNullWord text then (null, value)
    else (map [(scalar style text, value)], other)
  | entry => entry

/-- What the entries of a mapping come to. Keys are compared as they are written, and unfolded
only then. -/
def settle (entries : List (Yaml × Yaml)) : Except Fault (List (Yaml × Yaml)) := do
  let (own, more) ← split entries
  let own ← own.foldlM addOwn []
  return (more.foldl addMerged own).map unfoldKey

def checkTo : Nat → Yaml → Except Fault Unit
  | _, scalar _ _ => .ok ()
  | 0, _ => .error .depth
  | levels + 1, seq items => items.forM (checkTo levels)
  | levels + 1, map entries => do
    (← settle entries).forM fun entry => do
      checkTo levels entry.1
      checkTo levels entry.2

def check (y : Yaml) : Except Fault Unit :=
  checkTo y.depth y

end CommandGrammar.Yaml
