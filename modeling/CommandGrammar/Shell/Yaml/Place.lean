import CommandGrammar.Shell.Yaml.Value

/-!
# Places in a YAML text

The characters that are left, and where the first of them stands. Lines end with a line feed;
other line ends are replaced beforehand. Comments and blanks are passed here.
-/

set_option autoImplicit false

namespace CommandGrammar.Yaml

def normalizeBreaks : List Char → List Char
  | '\r' :: '\n' :: rest => '\n' :: normalizeBreaks rest
  | '\r' :: rest => '\n' :: normalizeBreaks rest
  | c :: rest => c :: normalizeBreaks rest
  | [] => []

def isInlineBlank (c : Char) : Bool :=
  c = ' ' || c = '\t'

def isFlowMark (c : Char) : Bool :=
  c = ',' || c = '[' || c = ']' || c = '\x7b' || c = '\x7d'

def endsLine : List Char → Bool
  | [] => true
  | c :: _ => c = '\n'

def endsMark : List Char → Bool
  | [] => true
  | c :: _ => isInlineBlank c || c = '\n'

def startsFlow : List Char → Bool
  | [] => false
  | c :: _ => isFlowMark c

def isVacant (cs : List Char) : Bool :=
  match cs.dropWhile isInlineBlank with
  | [] => true
  | c :: _ => c = '\n' || c = '#'

def startsMarker : List Char → Bool
  | '-' :: '-' :: '-' :: rest | '.' :: '.' :: '.' :: rest => endsMark rest
  | _ => false

structure Place where
  rest : List Char
  index : Nat
  line : Nat
  column : Nat
  leading : Bool
  deriving DecidableEq, Repr

namespace Place

def start (cs : List Char) : Place := ⟨cs, 0, 0, 0, true⟩

def pass (p : Place) (c : Char) (rest : List Char) : Place :=
  if c = '\n' then ⟨rest, p.index + 1, p.line + 1, 0, true⟩
  else ⟨rest, p.index + 1, p.line, p.column + 1, p.leading && isInlineBlank c⟩

def walk : Nat → Place → Place
  | 0, p => p
  | n + 1, p =>
    match p.rest with
    | [] => p
    | c :: rest => walk n (p.pass c rest)

def next (p : Place) : Place := p.walk 1

def upTo (p : Place) (rest : List Char) : Place :=
  p.walk (p.rest.length - rest.length)

end Place

structure LineGap where
  place : Place
  tab : Bool
  space : Bool
  deriving DecidableEq, Repr

def Place.lineGap (p : Place) (tabs : Bool) : Except Fault LineGap :=
  let blanks := p.rest.takeWhile fun c => c = ' ' || (tabs && c = '\t')
  let q := p.walk blanks.length
  if q.rest.head? == some '#' then
    if blanks.isEmpty then .error .comment
    else
      let comment := q.rest.takeWhile (· != '\n')
      .ok ⟨q.walk comment.length, blanks.contains '\t', blanks.contains ' '⟩
  else .ok ⟨q, blanks.contains '\t', blanks.contains ' '⟩

structure Skipped where
  place : Place
  crossed : Bool
  deriving DecidableEq, Repr

/-- Passes blanks, line ends and comments. A tab that starts a line left of column `least` may
stand only on a line without content. -/
def skipFrom (least : Int) (comment crossed : Bool) (p : Place) : List Char → Except Fault Skipped
  | [] => .ok ⟨p, crossed⟩
  | c :: rest =>
    if c = '\n' then skipFrom least false true (p.pass c rest) rest
    else if comment || c = '#' then skipFrom least true crossed (p.pass c rest) rest
    else if isInlineBlank c then
      if c = '\t' ∧ p.leading ∧ p.column < least ∧ !isVacant rest then .error .tab
      else skipFrom least false crossed (p.pass c rest) rest
    else .ok ⟨p, crossed⟩

def Place.skip (p : Place) (least : Int) : Except Fault Skipped :=
  skipFrom least false false p p.rest

end CommandGrammar.Yaml
