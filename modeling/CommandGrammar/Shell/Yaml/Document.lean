import CommandGrammar.Shell.Yaml.Node

/-!
# YAML documents

A text holds one document. It ends where its node ends, and of what follows only the next token
counts.
-/

set_option autoImplicit false

namespace CommandGrammar.Yaml

def dropEnds : Nat → Tokens → Except Fault (Token × Tokens)
  | 0, _ => .error .depth
  | fuel + 1, s => do
    let (t, s) ← s.peek
    if t = .documentEnd then dropEnds fuel s.drop else return (t, s)

/-- What may follow a document: anything but the start of another, and behind the mark that ends
it nothing else either. A fault behind that mark is passed over. -/
def checkEnd (fuel : Nat) (s : Tokens) : Except Fault Unit := do
  let (t, s) ← s.peek
  if t = .documentStart then throw .severalDocuments
  if t = .documentEnd then
    match dropEnds fuel s.drop with
    | .ok (.documentStart, _) => throw .severalDocuments
    | .ok (.textEnd, _) => return ()
    | .ok _ => throw .unexpected
    | .error _ => return ()

def documentText (text : String) : List Char :=
  let cs := (normalizeBreaks text.toList).takeWhile (· != '\x00')
  match cs with
  | '\ufeff' :: rest => rest
  | _ => cs

def documentNode (fuel : Nat) (t : Token) (s : Tokens) : Except Fault (Yaml × Tokens) := do
  if t = .textEnd then return (null, s)
  if t ≠ .documentStart then node true false fuel s
  else
    let (t, s) ← s.drop.peek
    if t = .documentStart ∨ t = .documentEnd ∨ t = .textEnd then return (null, s)
    else node true false fuel s

def document (text : String) : Except Fault Yaml := do
  let cs := documentText text
  let fuel := 32 * cs.length + 64
  let (t, s) ← dropEnds fuel (.start cs)
  let (y, s) ← documentNode fuel t s
  if y.depth > maxDepth then throw .depth
  checkEnd fuel s
  return y

end CommandGrammar.Yaml
