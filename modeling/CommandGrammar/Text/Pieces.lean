/-!
# Pieces of a text

A text is cut at every occurrence of a mark. There is always at least one piece, and the pieces
with the mark between them are the text again.
-/

set_option autoImplicit false

namespace CommandGrammar.Text

def pieces (mark : Char) : List Char → List (List Char)
  | [] => [[]]
  | c :: rest =>
    if c = mark then [] :: pieces mark rest
    else match pieces mark rest with
      | [] => [[c]]
      | piece :: more => (c :: piece) :: more

theorem pieces_ne_nil (mark : Char) (cs : List Char) : pieces mark cs ≠ [] := by
  cases cs with
  | nil => simp [pieces]
  | cons c rest =>
    unfold pieces
    split
    · simp
    · split <;> simp

theorem mem_of_mem_pieces {mark c : Char} {cs piece : List Char} (hp : piece ∈ pieces mark cs)
    (hc : c ∈ piece) : c ∈ cs ∧ c ≠ mark := by
  induction cs generalizing piece with
  | nil => simp_all [pieces]
  | cons d rest ih =>
    simp only [pieces] at hp
    split at hp
    · rcases List.mem_cons.1 hp with rfl | hp
      · cases hc
      · exact ⟨List.mem_cons_of_mem _ (ih hp hc).1, (ih hp hc).2⟩
    · rename_i hd
      split at hp
      · simp_all
      · rename_i first more hr
        rcases List.mem_cons.1 hp with rfl | hp
        · rcases List.mem_cons.1 hc with rfl | hc
          · exact ⟨List.mem_cons_self .., hd⟩
          · have := ih (hr ▸ List.mem_cons_self ..) hc
            exact ⟨List.mem_cons_of_mem _ this.1, this.2⟩
        · have := ih (hr ▸ List.mem_cons_of_mem _ hp) hc
          exact ⟨List.mem_cons_of_mem _ this.1, this.2⟩

def join (mark : Char) (parts : List (List Char)) : List Char :=
  [mark].intercalate parts

theorem join_cons_cons (mark : Char) (part next : List Char) (more : List (List Char)) :
    join mark (part :: next :: more) = part ++ mark :: join mark (next :: more) := by
  simp [join, List.intercalate_cons_cons]

theorem mem_join_iff {mark c : Char} (hc : c ≠ mark) (parts : List (List Char)) :
    c ∈ join mark parts ↔ ∃ part ∈ parts, c ∈ part := by
  induction parts with
  | nil => simp [join]
  | cons part more ih =>
    cases more with
    | nil => simp [join]
    | cons next more =>
      rw [join_cons_cons, List.mem_append, List.mem_cons, or_iff_right hc, ih]
      simp

theorem mem_join {mark c : Char} {parts : List (List Char)} (h : c ∈ join mark parts) :
    c = mark ∨ ∃ part ∈ parts, c ∈ part := by
  by_cases hc : c = mark
  · exact .inl hc
  · exact .inr ((mem_join_iff hc parts).1 h)

theorem join_pieces (mark : Char) (cs : List Char) : join mark (pieces mark cs) = cs := by
  induction cs with
  | nil => rfl
  | cons c rest ih =>
    obtain ⟨piece, more, hp⟩ := List.exists_cons_of_ne_nil (pieces_ne_nil mark rest)
    by_cases hc : c = mark
    · rw [hp] at ih
      simp only [pieces, hc, if_true, hp]
      simpa [join, List.intercalate] using ih
    · simp only [pieces, hc, if_false, hp]
      rw [hp] at ih
      cases more <;> simp_all [join, List.intercalate]

theorem pieces_of_notMem {mark : Char} {cs : List Char} (h : mark ∉ cs) : pieces mark cs = [cs] := by
  induction cs with
  | nil => rfl
  | cons c rest ih =>
    rw [List.mem_cons, not_or] at h
    simp [pieces, Ne.symm h.1, ih h.2]

theorem pieces_append {mark : Char} {part : List Char} (h : mark ∉ part) (rest : List Char) :
    pieces mark (part ++ mark :: rest) = part :: pieces mark rest := by
  induction part with
  | nil => simp [pieces]
  | cons c part ih =>
    rw [List.mem_cons, not_or] at h
    simp [pieces, Ne.symm h.1, ih h.2]

theorem pieces_join {mark : Char} {parts : List (List Char)} (hne : parts ≠ [])
    (h : ∀ part ∈ parts, mark ∉ part) : pieces mark (join mark parts) = parts := by
  induction parts with
  | nil => exact absurd rfl hne
  | cons part more ih =>
    rw [List.forall_mem_cons] at h
    cases more with
    | nil => simpa [join] using pieces_of_notMem h.1
    | cons next more =>
      rw [join_cons_cons, pieces_append h.1, ih (List.cons_ne_nil _ _) h.2]

end CommandGrammar.Text
