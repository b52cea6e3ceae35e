import CommandGrammar.Shell.Yaml.BlockText
import CommandGrammar.Shell.Yaml.Plain
import CommandGrammar.Shell.Yaml.Quoted
import CommandGrammar.Shell.Yaml.Token

/-!
# Reading YAML tokens

One lexeme at a time is read, and only as far as needed to know the next token. A fault behind
it is not noticed before the token is taken.
-/

set_option autoImplicit false

namespace CommandGrammar.Yaml

namespace Tokens

def moveTo (s : Tokens) (p : Place) : Tokens := { s with place := p }

def next (s : Tokens) : Tokens := s.moveTo s.place.next

def passGap (s : Tokens) : Except Fault Tokens :=
  (s.place.lineGap true).map fun gap => s.moveTo gap.place

def skip (s : Tokens) : Except Fault Tokens :=
  (s.place.skip s.indent).map fun skipped =>
    { s with
      place := skipped.place
      keyAllowed := s.keyAllowed || (skipped.crossed && !s.inFlow) }

def finish (s : Tokens) : Except Fault Tokens :=
  if (s.keyStart :: s.outerKeys).any fun k => k.any (·.required) then .error .keyWithoutValue
  else
    let s := { s with
      keyStart := none
      outerKeys := s.outerKeys.map fun _ => none
      keyAllowed := false }
    .ok ((s.close (-1)).push .textEnd)

def marker (s : Tokens) : Except Fault Tokens := do
  let s ← (s.close (-1)).clearKey
  let s := { s with keyAllowed := false }
  let behind := s.moveTo (s.place.walk 3)
  if s.place.rest.head? == some '.' then
    let s ← (behind.push .documentEnd).passGap
    if endsLine s.place.rest then return s else throw .unexpected
  else return behind.push .documentStart

def openFlow (s : Tokens) (t : Token) : Except Fault Tokens := do
  let s := s.noteKey.indentOnce
  if s.brackets ≥ 255 then throw .depth
  let s := { s with
    keyStart := none
    outerKeys := s.keyStart :: s.outerKeys
    keyAllowed := true
    braced := s.braced || t == Token.flowMap
    pairs := if t == Token.flowSeq then false :: s.pairs else s.pairs }
  let s ← s.next.passGap
  return s.push t

def closeFlow (s : Tokens) (t : Token) : Except Fault Tokens := do
  let s ← s.clearKey
  let s := if t == .flowSeqEnd then
    let s := s.endPair
    { s with pairs := s.pairs.drop 1 }
  else s
  let s := match s.outerKeys with
    | [] => s
    | key :: outer => { s with keyStart := key, outerKeys := outer }
  let s ← { s with keyAllowed := false }.next.passGap
  let s := if s.inFlow then { s with adjacent := s.place.index } else s
  return s.push t

def comma (s : Tokens) : Except Fault Tokens := do
  let s ← s.clearKey
  let s ← { s with keyAllowed := true }.endPair.next.passGap
  return s.push .comma

def entry (s : Tokens) : Except Fault Tokens := do
  if s.inFlow then throw .unexpected
  if !s.keyAllowed then throw .unexpected
  let s := s.next.openLevel s.place.column s.known.size .blockSeq
  let gap ← s.place.lineGap true
  let rest := gap.place.rest
  if gap.tab ∧ rest.head? == some '-' ∧ endsMark (rest.drop 1) then throw .tab
  let s := s.moveTo gap.place
  let s := if rest.head? == some '\n' || startsFlow rest then s.indentOnce else s
  let s ← s.clearKey
  return { s with keyAllowed := true }.push .entry

def passSpaces (comment : Bool) (p : Place) : List Char → Place
  | [] => p
  | c :: rest =>
    if c = '\n' then passSpaces false (p.pass c rest) rest
    else if comment ∨ c = '#' then passSpaces true (p.pass c rest) rest
    else if c = ' ' then passSpaces false (p.pass c rest) rest
    else p

def explicitKey (s : Tokens) : Except Fault Tokens := do
  if !s.inFlow ∧ !s.keyAllowed then throw .unexpected
  let s := s.openLevel s.place.column s.known.size .blockMap
  let s ← { s with braced := s.braced || s.inFlow }.clearKey
  let s := { s with keyAllowed := !s.inFlow }.next
  let behind := passSpaces false s.place s.place.rest
  if behind.index = s.place.index then throw .unexpected
  if behind.rest.head? == some '\t' then throw .tab
  return (s.moveTo behind).push .key

def passColon (s : Tokens) : Except Fault Tokens :=
  let s := s.next
  if s.place.rest.head? == some '\t' then do
    let gap ← s.place.lineGap true
    let word := gap.place.rest.head?.any fun c => c.isAlphanum || c = '_' || c = '-'
    if !gap.space && word then throw .tab
    return s.moveTo gap.place
  else .ok s

def colon (s : Tokens) : Except Fault Tokens := do
  let p := s.place
  let single := !s.pairs.isEmpty && !s.braced
  let s := if single then { s with pairs := true :: s.pairs.drop 1 } else s
  let s ← s.passColon
  match s.keyStart with
  | some k =>
    if single ∧ k.line < p.line then throw .unexpected
    let known := s.known.insertIdxIfInBounds k.token .key
    let known := if single then known.insertIdxIfInBounds k.token .flowMap else known
    let s := ({ s with known }.openLevel k.column k.token .blockMap).indentOnce
    return { s with keyStart := none, keyAllowed := false }.push .value
  | none =>
    let s := if single then s.push .flowMap else s
    if !s.inFlow ∧ !s.keyAllowed then throw .unexpected
    let s := (s.openLevel p.column s.known.size .blockMap).indentOnce
    return { s with keyAllowed := !s.inFlow }.push .value

def block (s : Tokens) : Except Fault Tokens := do
  let s := { s.noteKey with keyAllowed := true }.dropLoose
  let found ← blockText s.indent s.place
  return (s.moveTo found.place).push (.scalar .block found.text)

def mayFollowQuote (flow sameLine : Bool) : List Char → Bool
  | [] => true
  | c :: _ =>
    if c = ':' then flow || sameLine
    else c = '\n' || (flow && (c = ',' || c = ']' || c = '\x7d'))

def quoted (s : Tokens) : Except Fault Tokens := do
  let s := { s.noteKey with keyAllowed := false }
  let found ← quotedScalar s.indent s.place
  let gap ← found.place.lineGap true
  if !mayFollowQuote s.inFlow (gap.place.line == s.place.line) gap.place.rest then
    throw .unexpected
  let s ← (s.moveTo gap.place).skip
  return { s with adjacent := s.place.index }.push (.scalar .quoted found.text)

def plain (s : Tokens) : Except Fault Tokens := do
  let s := { s.noteKey with keyAllowed := false }.dropLoose
  let found ← plainScalar s.inFlow (s.indent + 1) s.place
  let s := { s with place := found.place, keyAllowed := found.place.leading }
  return s.push (.scalar .plain found.text)

def lexeme (s : Tokens) (c : Char) (rest : List Char) : Except Fault Tokens :=
  let alone := endsMark rest
  let adjacent := s.place.index = s.adjacent
  if c = '[' then s.openFlow .flowSeq
  else if c = '\x7b' then s.openFlow .flowMap
  else if c = ']' then s.closeFlow .flowSeqEnd
  else if c = '\x7d' then s.closeFlow .flowMapEnd
  else if c = ',' then s.comma
  else if c = '-' ∧ alone then s.entry
  else if c = '?' ∧ alone then s.explicitKey
  else if c = ':' ∧ alone then s.colon
  else if c = ':' ∧ s.inFlow ∧ (startsFlow rest ∨ adjacent) then
    if !adjacent ∧ (rest.head? == some '[' ∨ rest.head? == some '\x7b') then
      .error .unexpected
    else s.colon
  else if !s.inFlow ∧ (c = '|' ∨ c = '>') then s.block
  else if c = '"' ∨ c = '\'' then s.quoted
  else if c = '&' ∨ c = '*' ∨ c = '!' ∨ c = '%' ∨ c = '@' ∨ c = '\x60' then .error .unexpected
  else s.plain

/-- Reads the next lexeme. It may not stand left of the column that text must reach. Outside of
brackets it closes what is open there instead. -/
def advance (s : Tokens) : Except Fault Tokens := do
  let s ← s.skip
  let s ← s.dropStale
  let s := s.close s.place.column
  match s.place.rest with
  | [] => s.finish
  | c :: rest =>
    if s.place.column = 0 ∧ c = '%' then throw .unexpected
    else if s.place.column = 0 ∧ startsMarker (c :: rest) then s.marker
    else if s.place.column < s.indent then throw .indentation
    else s.lexeme c rest

def keyPending (s : Tokens) : Bool :=
  (s.keyStart :: s.outerKeys).any fun k => k.any (·.token == s.taken)

def fill : Nat → Tokens → Except Fault Tokens
  | 0, _ => .error .depth
  | fuel + 1, s =>
    if s.known.size ≤ s.taken then s.advance >>= fill fuel
    else do
      let s ← s.dropStale
      if s.keyPending then s.advance >>= fill fuel else return s

def peek (s : Tokens) : Except Fault (Token × Tokens) := do
  let s ← fill (s.size + 4) s
  match s.known[s.taken]? with
  | some t => return (t, s)
  | none => throw .depth

def drop (s : Tokens) : Tokens := { s with taken := s.taken + 1 }

end Tokens

end CommandGrammar.Yaml
