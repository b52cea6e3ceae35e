import CommandGrammar.Shell.Yaml.Lexeme

/-!
# YAML nodes

A node is a scalar or a collection. In a mapping and in a sequence nodes may be left out. The
readers take fuel, which a document computes from the length of its text.
-/

set_option autoImplicit false

namespace CommandGrammar.Yaml

def maxDepth : Nat := 2000

mutual

/-- Reads a node. Collections in block style may start where `block` says so. A sequence whose
entries stand at the column of the mapping around it has no tokens that open and close it. -/
def node (block loose : Bool) : Nat → Tokens → Except Fault (Yaml × Tokens)
  | 0, _ => .error .depth
  | fuel + 1, s => do
    let (t, s) ← s.peek
    match t with
    | .scalar style text => return (.scalar style text, s.drop)
    | .flowSeq => flowItems true [] fuel s.drop
    | .flowMap => flowEntries true [] fuel s.drop
    | .entry => if loose then looseItems [] fuel s else throw .unexpected
    | .blockSeq => if block then blockItems [] fuel s.drop else throw .unexpected
    | .blockMap => if block then blockEntries [] fuel s.drop else throw .unexpected
    | _ => throw .unexpected

def blockPart : Nat → Tokens → Except Fault (Yaml × Tokens)
  | 0, _ => .error .depth
  | fuel + 1, s => do
    let (t, s) ← s.peek
    if t = .key ∨ t = .value ∨ t = .blockEnd then return (null, s)
    else node true true fuel s

def blockEntries (entries : List (Yaml × Yaml)) : Nat → Tokens → Except Fault (Yaml × Tokens)
  | 0, _ => .error .depth
  | fuel + 1, s => do
    let (t, s) ← s.peek
    if t = .blockEnd then return (.map entries, s.drop)
    let (key, s) ←
      if t = .key then blockPart fuel s.drop
      else if t = .value then pure (null, s)
      else throw .unexpected
    let (t, s) ← s.peek
    let (value, s) ← if t = .value then blockPart fuel s.drop else pure (null, s)
    blockEntries (entries ++ [(key, value)]) fuel s

def blockItems (items : List Yaml) : Nat → Tokens → Except Fault (Yaml × Tokens)
  | 0, _ => .error .depth
  | fuel + 1, s => do
    let (t, s) ← s.peek
    if t = .blockEnd then return (.seq items, s.drop)
    if t ≠ .entry then throw .unexpected
    let (t, s) ← s.drop.peek
    let (item, s) ←
      if t = .entry ∨ t = .blockEnd then pure (null, s) else node true false fuel s
    blockItems (items ++ [item]) fuel s

def looseItems (items : List Yaml) : Nat → Tokens → Except Fault (Yaml × Tokens)
  | 0, _ => .error .depth
  | fuel + 1, s => do
    let (t, s) ← s.peek
    if t ≠ .entry then return (.seq items, s)
    let (t, s) ← s.drop.peek
    let (item, s) ←
      if t = .entry ∨ t = .key ∨ t = .value ∨ t = .blockEnd then pure (null, s)
      else node true false fuel s
    looseItems (items ++ [item]) fuel s

def flowPart (closing : Token) : Nat → Tokens → Except Fault (Yaml × Tokens)
  | 0, _ => .error .depth
  | fuel + 1, s => do
    let (t, s) ← s.peek
    if t = .comma ∨ t = closing then return (null, s)
    else node false false fuel s

def flowValue (closing : Token) : Nat → Tokens → Except Fault (Yaml × Tokens)
  | 0, _ => .error .depth
  | fuel + 1, s => do
    let (t, s) ← s.peek
    if t = .value then flowPart closing fuel s.drop else return (null, s)

def flowPair : Nat → Tokens → Except Fault (Yaml × Tokens)
  | 0, _ => .error .depth
  | fuel + 1, s => do
    let (t, s) ← s.peek
    let (key, s) ←
      if t = .value ∨ t = .comma ∨ t = .flowSeqEnd then pure (null, s.drop)
      else node false false fuel s
    let (value, s) ← flowValue .flowSeqEnd fuel s
    return (.map [(key, value)], s)

def flowItems (first : Bool) (items : List Yaml) : Nat → Tokens → Except Fault (Yaml × Tokens)
  | 0, _ => .error .depth
  | fuel + 1, s => do
    let (t, s) ← s.peek
    if t = .flowSeqEnd then return (.seq items, s.drop)
    if !first ∧ t ≠ .comma then throw .unexpected
    let (t, s) ← if first then pure (t, s) else s.drop.peek
    if t = .flowSeqEnd then return (.seq items, s.drop)
    let (item, s) ← if t = .key then flowPair fuel s.drop else node false false fuel s
    flowItems false (items ++ [item]) fuel s

def flowEntries (first : Bool) (entries : List (Yaml × Yaml)) :
    Nat → Tokens → Except Fault (Yaml × Tokens)
  | 0, _ => .error .depth
  | fuel + 1, s => do
    let (t, s) ← s.peek
    if t = .flowMapEnd then return (.map entries, s.drop)
    if !first ∧ t ≠ .comma then throw .unexpected
    let (t, s) ← if first then pure (t, s) else s.drop.peek
    if t = .flowMapEnd then return (.map entries, s.drop)
    let (key, s) ←
      if t = .key then do
        let (t, s) ← s.drop.peek
        if t = .value ∨ t = .comma ∨ t = .flowMapEnd then pure (null, s)
        else node false false fuel s
      else if t = .value then pure (null, s)
      else node false false fuel s
    let (value, s) ←
      if t = .key ∨ t = .value then flowValue .flowMapEnd fuel s else pure (null, s)
    flowEntries false (entries ++ [(key, value)]) fuel s

end

end CommandGrammar.Yaml
