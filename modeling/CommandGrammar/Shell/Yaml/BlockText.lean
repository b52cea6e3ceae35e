import CommandGrammar.Text.Pieces
import CommandGrammar.Shell.Yaml.Gap

/-!
# Block scalars

Text that is written on lines of its own under a header. A literal block keeps its line ends. In
a folded one a single line end between two lines that do not start with a blank becomes a space.
The header may say how deep the lines stand and what becomes of the line ends after the last one.
-/

set_option autoImplicit false

namespace CommandGrammar.Yaml

inductive Chomping where
  | strip
  | clip
  | keep
  deriving DecidableEq, Repr

structure BlockHeader where
  folded : Bool
  chomping : Chomping
  depth : Option Nat
  deriving DecidableEq, Repr

def chomping? : Char → Option Chomping
  | '-' => some .strip
  | '+' => some .keep
  | _ => none

def depth? (c : Char) : Option Nat :=
  if '1' ≤ c ∧ c ≤ '9' then some (c.toNat - 0x30) else none

def blockHeader (folded : Bool) : List Char → BlockHeader × List Char
  | a :: b :: rest =>
    match chomping? a, depth? a, chomping? b, depth? b with
    | some c, _, _, some d => (⟨folded, c, some d⟩, rest)
    | _, some d, some c, _ => (⟨folded, c, some d⟩, rest)
    | some c, _, _, _ => (⟨folded, c, none⟩, b :: rest)
    | _, some d, _, _ => (⟨folded, .clip, some d⟩, b :: rest)
    | _, _, _, _ => (⟨folded, .clip, none⟩, a :: b :: rest)
  | [a] =>
    match chomping? a, depth? a with
    | some c, _ => (⟨folded, c, none⟩, [])
    | _, some d => (⟨folded, .clip, some d⟩, [])
    | _, _ => (⟨folded, .clip, none⟩, [a])
  | [] => (⟨folded, .clip, none⟩, [])

def leadingSpaces (line : List Char) : Nat :=
  (line.takeWhile (· = ' ')).length

def isSpaces (line : List Char) : Bool :=
  line.all (· = ' ')

def deepestStart (best : Nat) : List (List Char) → Nat
  | [] => best
  | [line] => max best (leadingSpaces line)
  | line :: rest =>
    if isSpaces line then deepestStart (max best line.length) rest
    else max best (leadingSpaces line)

/-- Counts the lines without content at the start, and gives the others. The last line is not
counted. A line of spaces deeper than `limit` has content. -/
def emptyStart (limit : Option Nat) : List (List Char) → Nat × List (List Char)
  | line :: next :: rest =>
    if isSpaces line && limit.all (line.length ≤ ·) then
      let (n, more) := emptyStart limit (next :: rest)
      (n + 1, more)
    else (0, line :: next :: rest)
  | lines => (0, lines)

/-- A block whose lines are being collected: its text so far, whether a line end came last, how
many empty lines followed it, and whether the last line began with a blank. -/
structure Block where
  text : String
  broken : Bool
  empties : Nat
  blankStart : Bool
  deriving DecidableEq, Repr

def Block.addLine (folded : Bool) (b : Block) (line : List Char) : Block :=
  let blankStart := line.head?.any isInlineBlank
  let breaks := List.replicate b.empties '\n'
  let joint :=
    if folded && b.broken && !b.blankStart && !blankStart then
      if b.empties = 0 then [' '] else breaks
    else (if b.broken then ['\n'] else []) ++ breaks
  ⟨b.text ++ String.ofList (joint ++ line), false, 0, blankStart⟩

def collectLines (folded : Bool) (depth : Nat) : Nat → Block → List (List Char) →
    Block × Bool × List (List Char)
  | 0, b, lines => (b, false, lines)
  | _, b, [] => (b, false, [])
  | fuel + 1, b, line :: rest =>
    if leadingSpaces line < depth || (rest.isEmpty && line.length = depth) then
      (b, rest.isEmpty && line.length ≥ max depth 1 && isSpaces line, line :: rest)
    else
      let b := b.addLine folded (line.drop depth)
      if rest.isEmpty then (b, true, [])
      else
        let (n, more) := emptyStart (some depth) rest
        collectLines folded depth fuel { b with broken := true, empties := n } more

def BlockHeader.chomp (h : BlockHeader) (b : Block) (ended : Bool) : String :=
  let last := lineEnds (b.broken.toNat + ended.toNat)
  match h.chomping with
  | .strip => b.text
  | .clip => b.text ++ last
  | .keep => b.text ++ last ++ lineEnds b.empties

def BlockHeader.chompEmpty (h : BlockHeader) (empties : Nat) : String :=
  match h.chomping with
  | .strip => ""
  | .clip => lineEnds 1
  | .keep => lineEnds (max empties 1)

def BlockHeader.depthBelow (h : BlockHeader) (parent : Int) (lines : List (List Char)) : Nat :=
  match h.depth with
  | some d => (max parent 0).toNat + d
  | none => max (deepestStart 0 lines) (parent + 1).toNat

def blockLines (h : BlockHeader) (parent : Int) (rest : List Char) :
    Except Fault (String × List Char) :=
  let lines := Text.pieces '\n' rest
  let depth := h.depthBelow parent lines
  let (empties, content) := emptyStart (h.depth.map fun _ => depth) lines
  let first := content.headD []
  if rest.head? == some '\t' then .error .tab
  else if content.length ≤ 1 && isSpaces first && first.length ≤ depth then
    .ok (h.chompEmpty empties, [])
  else if leadingSpaces first < depth ∧ parent < leadingSpaces first then .error .indentation
  else
    let (block, ended, after) :=
      collectLines h.folded depth (lines.length + 1) ⟨"", false, empties, false⟩ content
    .ok (h.chomp block ended, Text.join '\n' after)

def blockText (parent : Int) (p : Place) : Except Fault Scalar := do
  let (h, more) := blockHeader (p.rest.head? == some '>') (p.rest.drop 1)
  let left := more.dropWhile isInlineBlank
  let comment := left.length < more.length && left.head? == some '#'
  match (if comment then left.dropWhile (· != '\n') else left) with
  | [] => return ⟨"", p.upTo []⟩
  | c :: rest =>
    if c = '\n' then
      let (text, behind) ← blockLines h parent rest
      return ⟨text, p.upTo behind⟩
    else throw .header

end CommandGrammar.Yaml
