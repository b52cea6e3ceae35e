import CommandGrammar.Text.Blank
import CommandGrammar.Text.CaseTable

/-!
# Lower and upper case

Full case conversion of a text. One lower case letter depends on its surroundings: a sigma that
ends a word. Two texts are equal up to case when their lower case forms are equal.
-/

set_option autoImplicit false

namespace CommandGrammar.Text

def isCased (c : Char) : Bool :=
  inRanges casedRanges c.toNat

def isCaseIgnorable (c : Char) : Bool :=
  inRanges caseIgnorableRanges c.toNat

def touchesLetter (cs : List Char) : Bool :=
  (cs.dropWhile isCaseIgnorable).head?.any isCased

def lowerChar (c : Char) : List Char :=
  if c = 'İ' then ['i', '\u0307'] else [Char.ofNat (caseImage lowerRuns c.toNat)]

/-- A sigma ends a word when a letter stands before it and none behind. The characters before
the rest come nearest first. -/
def sigma (before after : List Char) : Char :=
  if touchesLetter before && !touchesLetter after then 'ς' else 'σ'

def lowerAfter : List Char → List Char → List Char
  | _, [] => []
  | before, c :: rest =>
    (if c = 'Σ' then [sigma before rest] else lowerChar c) ++ lowerAfter (c :: before) rest

def lower (cs : List Char) : List Char :=
  lowerAfter [] cs

def upperChar (c : Char) : List Char :=
  match upperExpansions.lookup c.toNat with
  | some points => points.map Char.ofNat
  | none => [Char.ofNat (caseImage upperRuns c.toNat)]

def upper (cs : List Char) : List Char :=
  cs.flatMap upperChar

end CommandGrammar.Text
