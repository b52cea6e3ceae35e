import CommandGrammar.Input.Cursor

/-!
# Operations on a cursor

Whatever is taken from a cursor, it stands over a list of characters from which the same is taken.
Taking a character out from the middle makes a new buffer and all else moves the offset, so both are
tied to the list by one invariant. It also keeps the offset within the buffer and every number that
a cursor holds within the length of the input, however large the counts are that it is given.
-/

set_option autoImplicit false

namespace CommandGrammar

namespace Cursor

inductive Operation where
  | remove (n : Nat)
  | take (n : Nat)
  | takeWhile (p : Char → Bool)
  | tag (index : Nat)

namespace Operation

def run : Operation → Cursor → List Char × Cursor
  | remove n, c =>
    match c.remove n with
    | some (ch, next) => ([ch], next)
    | none => ([], c)
  | take n, c => c.take n
  | takeWhile p, c => c.takeWhile p
  | tag index, c => ([], c.tagged index)

/-- The same on the characters that are left: what is taken out, and what stays. -/
def onText : Operation → List Char → List Char × List Char
  | remove n, text => (text[n]?.toList, text.eraseIdx n)
  | take n, text => (text.take n, text.drop n)
  | takeWhile p, text => (text.takeWhile p, text.dropWhile p)
  | tag _, text => ([], text)

def tag? : Operation → Option Nat
  | tag index => some index
  | _ => none

end Operation

def runAll {S : Type} (step : Operation → S → List Char × S) :
    List Operation → S → List (List Char) × S
  | [], s => ([], s)
  | op :: ops, s =>
    let (taken, next) := step op s
    let (more, last) := runAll step ops next
    (taken :: more, last)

/-- Of `total` characters in all, these are left in front of the cursor. -/
structure StandsOver (c : Cursor) (total : Nat) (text : List Char) : Prop where
  offset_le : c.offset ≤ c.buffer.size
  size_le : c.buffer.size ≤ total
  remaining : c.remaining = text
  consumed : c.consumed + text.length = total

theorem ofString_standsOver (input : String) :
    (ofString input).StandsOver input.length input.toList where
  offset_le := Nat.zero_le _
  size_le := by simp [ofString, String.length_toList]
  remaining := remaining_ofString input
  consumed := by simp [ofString, String.length_toList]

variable {c : Cursor} {total : Nat} {text : List Char}

theorem length_remaining (c : Cursor) : c.remaining.length = c.buffer.size - c.offset := by
  simp [Cursor.remaining]

namespace StandsOver

theorem advance {n : Nat} (h : c.StandsOver total text) (hn : n ≤ text.length) :
    (c.advance n).StandsOver total (text.drop n) where
  offset_le := by
    have hlength := c.length_remaining
    have hoffset := h.offset_le
    rw [h.remaining] at hlength
    simp only [Cursor.advance]
    omega
  size_le := h.size_le
  remaining := by rw [remaining_advance, h.remaining]
  consumed := by
    have hconsumed := h.consumed
    simp only [Cursor.advance, List.length_drop]
    omega

theorem take (h : c.StandsOver total text) (n : Nat) :
    (c.take n).1 = text.take n ∧ (c.take n).2.StandsOver total (text.drop n) := by
  have hahead : c.ahead n = text.take n := by rw [ahead_eq, h.remaining]
  refine ⟨hahead, ?_⟩
  rw [Cursor.take, h.remaining, List.drop_eq_drop_min]
  exact h.advance (Nat.min_le_right n text.length)

theorem remove {n : Nat} {ch : Char} {next : Cursor} (h : c.StandsOver total text)
    (hr : c.remove n = some (ch, next)) :
    text[n]? = some ch ∧ next.StandsOver total (text.eraseIdx n) := by
  rw [Cursor.remove, Option.map_eq_some_iff] at hr
  obtain ⟨found, hpeek, hnext⟩ := hr
  rw [peek, h.remaining] at hpeek
  obtain ⟨hn, -⟩ := List.getElem?_eq_some_iff.1 hpeek
  split at hnext
  · rename_i hzero
    cases hnext
    subst hzero
    refine ⟨hpeek, ?_⟩
    rw [List.eraseIdx_zero, ← List.drop_one]
    exact h.advance hn
  · cases hnext
    have hlength := List.length_eraseIdx_of_lt hn
    have hconsumed := h.consumed
    refine ⟨hpeek, Nat.zero_le _, ?_, ?_, ?_⟩
    · rw [h.remaining, List.size_toArray]
      omega
    · rw [Cursor.remaining, h.remaining]
      rfl
    · dsimp only
      omega

theorem run (h : c.StandsOver total text) (op : Operation) :
    (op.run c).1 = (op.onText text).1 ∧
      (op.run c).2.StandsOver total (op.onText text).2 := by
  cases op with
  | remove n =>
    simp only [Operation.run, Operation.onText]
    cases hr : c.remove n with
    | some found =>
      obtain ⟨hch, hnext⟩ := h.remove hr
      exact ⟨by rw [hch]; rfl, hnext⟩
    | none =>
      have hpeek : text[n]? = none := by
        rw [← h.remaining, ← peek]
        exact Option.map_eq_none_iff.1 hr
      have hout := List.getElem?_eq_none_iff.1 hpeek
      refine ⟨by rw [hpeek]; rfl, ?_⟩
      rw [List.eraseIdx_of_length_le hout]
      exact h
  | take n => exact h.take n
  | takeWhile p =>
    obtain ⟨-, hleft⟩ := h.take (c.remaining.takeWhile p).length
    refine ⟨by rw [Operation.run, takeWhile_fst, h.remaining]; rfl, ?_⟩
    have hdrop : text.drop (c.remaining.takeWhile p).length = text.dropWhile p := by
      rw [← hleft.remaining, ← h.remaining, ← remaining_takeWhile]
      rfl
    rw [hdrop] at hleft
    exact hleft
  | tag index => exact ⟨rfl, h.offset_le, h.size_le, h.remaining, h.consumed⟩

theorem runAll (h : c.StandsOver total text) (ops : List Operation) :
    (Cursor.runAll Operation.run ops c).1 = (Cursor.runAll Operation.onText ops text).1 ∧
      (Cursor.runAll Operation.run ops c).2.StandsOver total
        (Cursor.runAll Operation.onText ops text).2 := by
  -- By induction on the operations. The invariant carries it.
  induction ops generalizing c text with
  | nil => exact ⟨rfl, h⟩
  | cons op ops ih =>
    obtain ⟨htaken, hnext⟩ := h.run op
    obtain ⟨hmore, hlast⟩ := ih hnext
    refine ⟨?_, hlast⟩
    simp only [Cursor.runAll, htaken, hmore]

end StandsOver

theorem nodeIndex_run (op : Operation) (c : Cursor) :
    (op.run c).2.nodeIndex = op.tag?.getD c.nodeIndex := by
  cases op with
  | remove n =>
    simp only [Operation.run, Cursor.remove, Operation.tag?]
    cases c.peek n with
    | none => rfl
    | some ch => by_cases hn : n = 0 <;> simp [hn, Cursor.advance]
  | take | takeWhile | tag => rfl

theorem nodeIndex_runAll (ops : List Operation) (c : Cursor) :
    (runAll Operation.run ops c).2.nodeIndex =
      (ops.filterMap Operation.tag?).getLastD c.nodeIndex := by
  induction ops generalizing c with
  | nil => rfl
  | cons op ops ih =>
    rw [runAll, ih, nodeIndex_run]
    cases htag : op.tag? with
    | none => rw [List.filterMap_cons_none htag, Option.getD_none]
    | some index => rw [List.filterMap_cons_some htag, Option.getD_some, List.getLastD_cons]

end Cursor

/-- A cursor is a list of characters. After any operations it has given out what the same
operations take from the list of all characters, and shows what they leave there. Its offset is
within its buffer, what it has given out and what is left make up the input, and its index is the
one that it was last tagged with. -/
theorem cursor_runs_as_list (input : String) (ops : List Cursor.Operation) :
    let c := (Cursor.runAll Cursor.Operation.run ops (Cursor.ofString input)).2
    let text := (Cursor.runAll Cursor.Operation.onText ops input.toList).2
    (Cursor.runAll Cursor.Operation.run ops (Cursor.ofString input)).1 =
        (Cursor.runAll Cursor.Operation.onText ops input.toList).1 ∧
      c.offset ≤ c.buffer.size ∧ c.buffer.size ≤ input.length ∧
      c.remaining = text ∧ c.rest = String.ofList text ∧ (c.atEnd = true ↔ text = []) ∧
      (∀ n, c.peek n = text[n]? ∧ c.ahead n = text.take n) ∧
      c.consumed + text.length = input.length ∧
      c.nodeIndex = (ops.filterMap Cursor.Operation.tag?).getLastD 0 := by
  intro c text
  obtain ⟨htaken, hover⟩ := (Cursor.ofString_standsOver input).runAll ops
  refine ⟨htaken, hover.offset_le, hover.size_le, hover.remaining, ?_, ?_, fun n => ⟨?_, ?_⟩,
    hover.consumed, Cursor.nodeIndex_runAll ops _⟩
  · rw [Cursor.rest, hover.remaining]
  · rw [Cursor.atEnd_iff, hover.remaining]
  · rw [Cursor.peek, hover.remaining]
  · rw [Cursor.ahead_eq, hover.remaining]

end CommandGrammar
