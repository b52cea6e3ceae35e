/-!
# White space

The characters with the Unicode property `White_Space`. They separate the words of a grammar,
and a name made of them alone counts as missing.
-/

set_option autoImplicit false

namespace CommandGrammar.Text

def blankRanges : List (Nat × Nat) :=
  [(0x09, 0x0D), (0x20, 0x20), (0x85, 0x85), (0xA0, 0xA0), (0x1680, 0x1680), (0x2000, 0x200A),
   (0x2028, 0x2029), (0x202F, 0x202F), (0x205F, 0x205F), (0x3000, 0x3000)]

def inRanges (ranges : List (Nat × Nat)) (n : Nat) : Bool :=
  ranges.any fun r => r.1 ≤ n && n ≤ r.2

def isBlank (c : Char) : Bool :=
  inRanges blankRanges c.toNat

theorem isBlank_space : isBlank ' ' = true := by decide

def allBlank (cs : List Char) : Bool :=
  cs.all isBlank

end CommandGrammar.Text
