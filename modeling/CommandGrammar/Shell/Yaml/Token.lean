import CommandGrammar.Shell.Yaml.Place

/-!
# YAML tokens

Collections in block style have no marks of their own. They open where their first entry stands
and close where text stands left of it, so the columns of the open ones are kept. That a mapping
opens is seen only at the colon behind its first key. So the place at which a key may have
started is kept, and tokens are inserted there later.
-/

set_option autoImplicit false

namespace CommandGrammar.Yaml

inductive Token where
  | documentStart
  | documentEnd
  | textEnd
  | blockSeq
  | blockMap
  | blockEnd
  | flowSeq
  | flowSeqEnd
  | flowMap
  | flowMapEnd
  | entry
  | comma
  | key
  | value
  | scalar (style : ScalarStyle) (text : String)
  deriving DecidableEq, Repr

/-- A column that text must reach. Either a collection in block style is open there, or the level
only keeps a value right of its key. -/
structure Level where
  column : Nat
  block : Bool
  deriving DecidableEq, Repr

/-- A place at which a key may have started, and the number of the token there. A key that is
required must turn out to be one. -/
structure KeyStart where
  token : Nat
  index : Nat
  line : Nat
  column : Nat
  required : Bool
  deriving DecidableEq, Repr

/-- The tokens that are known of a text of `size` characters, and the place behind them. The first
`taken` of them have been taken. Levels, key starts and pairs begin with the innermost. There is
an outer key start for each open bracket, and an entry of `pairs` for each open square bracket:
whether a pair without braces is open in it. After an open brace (`braced`) a colon begins no such
pair. At index `adjacent` a colon needs no blank after it. -/
structure Tokens where
  size : Nat
  place : Place
  known : Array Token
  taken : Nat
  levels : List Level
  keyStart : Option KeyStart
  outerKeys : List (Option KeyStart)
  keyAllowed : Bool
  pairs : List Bool
  braced : Bool
  adjacent : Nat
  deriving Repr

namespace Tokens

def start (cs : List Char) : Tokens :=
  ⟨cs.length, .start cs, #[], 0, [], none, [], true, [], false, 0⟩

def push (s : Tokens) (t : Token) : Tokens := { s with known := s.known.push t }

def brackets (s : Tokens) : Nat := s.outerKeys.length

def inFlow (s : Tokens) : Bool := s.brackets > 0

def indent (s : Tokens) : Int :=
  match s.levels with
  | [] => -1
  | level :: _ => level.column

def inBlock (s : Tokens) : Bool := s.levels.head?.any (·.block)

def closeLevels (column : Int) (s : Tokens) : List Level → Tokens
  | [] => { s with levels := [] }
  | level :: rest =>
    if column < level.column then
      closeLevels column (if level.block then s.push .blockEnd else s) rest
    else { s with levels := level :: rest }

def close (s : Tokens) (column : Int) : Tokens :=
  if s.inFlow then s else closeLevels column s s.levels

def dropLoose (s : Tokens) : Tokens :=
  { s with levels := s.levels.dropWhile fun level => !level.block }

def openLevel (s : Tokens) (column : Nat) (number : Nat) (t : Token) : Tokens :=
  if s.inFlow then s
  else
    let levels :=
      if s.indent ≤ (column : Int) ∧ !s.inBlock then s.levels.drop 1 else s.levels
    let s := { s with levels }
    if s.indent < (column : Int) then
      { s with
        levels := ⟨column, true⟩ :: levels
        known := s.known.insertIdxIfInBounds number t }
    else s

def indentOnce (s : Tokens) : Tokens :=
  if !s.inFlow ∧ s.inBlock then
    { s with levels := ⟨(s.indent + 1).toNat, false⟩ :: s.levels }
  else s

def noteKey (s : Tokens) : Tokens :=
  if s.keyAllowed then
    let required := !s.inFlow && s.inBlock && s.indent == s.place.column
    { s with
      keyStart := some ⟨s.known.size, s.place.index, s.place.line, s.place.column, required⟩ }
  else s

def clearKey (s : Tokens) : Except Fault Tokens :=
  if s.keyStart.any (·.required) then .error .keyWithoutValue
  else .ok { s with keyStart := none }

/-- A key outside of brackets stands on one line and is not longer than 1024 characters. -/
def KeyStart.isStale (k : KeyStart) (p : Place) : Bool :=
  k.line < p.line || k.index + 1024 < p.index

def dropStale (s : Tokens) : Except Fault Tokens :=
  if !s.inFlow ∧ s.keyStart.any (KeyStart.isStale · s.place) then s.clearKey else .ok s

def endPair (s : Tokens) : Tokens :=
  match s.pairs with
  | true :: rest => { s.push .flowMapEnd with pairs := false :: rest, braced := false }
  | _ => s

end Tokens

end CommandGrammar.Yaml
