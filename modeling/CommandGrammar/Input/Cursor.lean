import CommandGrammar.Text.LetterCase

/-!
# Cursor

A read position over the characters of a command. Going back means keeping an earlier cursor.
Taking out a character that is not the next one leaves a new buffer without it.
-/

set_option autoImplicit false

namespace CommandGrammar

structure Cursor where
  buffer : Array Char
  offset : Nat
  consumed : Nat
  nodeIndex : Nat
  deriving DecidableEq, Repr

namespace Cursor

def ofString (input : String) : Cursor :=
  ⟨input.toList.toArray, 0, 0, 0⟩

def tagged (c : Cursor) (index : Nat) : Cursor :=
  { c with nodeIndex := index }

def remaining (c : Cursor) : List Char :=
  c.buffer.toList.drop c.offset

def rest (c : Cursor) : String :=
  String.ofList c.remaining

@[simp] theorem remaining_ofString (input : String) :
    (ofString input).remaining = input.toList := by
  simp [ofString, remaining]

@[simp] theorem remaining_tagged (c : Cursor) (index : Nat) :
    (c.tagged index).remaining = c.remaining := rfl

def atEnd (c : Cursor) : Bool :=
  c.buffer.size ≤ c.offset

theorem atEnd_iff (c : Cursor) : c.atEnd = true ↔ c.remaining = [] := by
  simp [atEnd, remaining]

def peek (c : Cursor) (n : Nat) : Option Char :=
  c.remaining[n]?

def ahead (c : Cursor) (n : Nat) : List Char :=
  c.remaining.take (min n c.remaining.length)

theorem ahead_eq (c : Cursor) (n : Nat) : c.ahead n = c.remaining.take n :=
  List.take_eq_take_min.symm

def advance (c : Cursor) (n : Nat) : Cursor :=
  { c with offset := c.offset + n, consumed := c.consumed + n }

@[simp] theorem remaining_advance (c : Cursor) (n : Nat) :
    (c.advance n).remaining = c.remaining.drop n := by
  simp [advance, remaining]

def remove (c : Cursor) (n : Nat) : Option (Char × Cursor) :=
  (c.peek n).map fun ch =>
    if n = 0 then (ch, c.advance 1)
    else (ch, { c with
      buffer := (c.remaining.eraseIdx n).toArray, offset := 0, consumed := c.consumed + 1 })

def take (c : Cursor) (n : Nat) : List Char × Cursor :=
  (c.ahead n, c.advance (min n c.remaining.length))

theorem remaining_take (c : Cursor) (n : Nat) : (c.take n).2.remaining = c.remaining.drop n := by
  rw [take, remaining_advance, ← List.drop_eq_drop_min]

def takeWhile (c : Cursor) (p : Char → Bool) : List Char × Cursor :=
  c.take (c.remaining.takeWhile p).length

theorem takeWhile_fst (c : Cursor) (p : Char → Bool) :
    (c.takeWhile p).1 = c.remaining.takeWhile p := by
  simp only [takeWhile, take, ahead_eq]
  exact List.prefix_iff_eq_take.1 (List.takeWhile_prefix p) |>.symm

theorem remaining_takeWhile (c : Cursor) (p : Char → Bool) :
    (c.takeWhile p).2.remaining = c.remaining.dropWhile p := by
  rw [takeWhile, remaining_take]
  induction c.remaining with
  | nil => rfl
  | cons ch rest ih => by_cases hp : p ch <;> simp [hp, ih]

/-- Compares as many characters as `length` says, or as there are, with a lower case text. -/
def windowIs (c : Cursor) (length : Nat) (lowered : List Char) : Bool :=
  Text.lower (c.ahead length) == lowered

def shows (c : Cursor) (candidate : String) : Bool :=
  c.windowIs candidate.length (Text.lower candidate.toList)

theorem shows_iff (c : Cursor) (candidate : String) :
    c.shows candidate = true ↔
      Text.lower (c.remaining.take candidate.length) = Text.lower candidate.toList := by
  simp [shows, windowIs, ahead_eq]

end Cursor

end CommandGrammar
