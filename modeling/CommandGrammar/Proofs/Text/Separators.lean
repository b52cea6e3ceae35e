import CommandGrammar.Text.LetterCase

/-!
# Separators under letter case

Lower case leaves every space where it is and makes none, so texts that are equal up to letter
case have the same spaces. Upper case does the same with colons. Either stands before all that the
letters of its direction turn into.
-/

set_option autoImplicit false

namespace CommandGrammar.Text

theorem lowerRuns_target : ∀ r ∈ lowerRuns, ' '.toNat < r.target := by decide +kernel

theorem upperRuns_target : ∀ r ∈ upperRuns, ':'.toNat < r.target := by decide +kernel

theorem upperExpansions_points :
    ∀ expansion ∈ upperExpansions, ∀ n ∈ expansion.2, ':'.toNat < n := by decide +kernel

theorem caseImage_eq_or (runs : List CaseRun) (n : Nat) :
    caseImage runs n = n ∨ ∃ r ∈ runs, r.target ≤ caseImage runs n := by
  unfold caseImage
  cases h : runs.findSome? (·.image? n) with
  | none => exact .inl rfl
  | some m =>
    right
    obtain ⟨r, hr, hm⟩ := List.exists_of_findSome?_eq_some h
    refine ⟨r, hr, ?_⟩
    simp only [CaseRun.image?] at hm
    split at hm
    · cases hm
      exact Nat.le_add_right _ _
    · cases hm

theorem eq_of_caseImage {runs : List CaseRun} {m n : Nat} (hr : ∀ r ∈ runs, m < r.target)
    (h : caseImage runs n = m) : n = m := by
  rcases caseImage_eq_or runs n with hn | ⟨r, hmem, hle⟩
  · omega
  · have := hr r hmem
    omega

theorem eq_of_ofNat {n : Nat} {c : Char} (hc : c ≠ '\x00') (h : Char.ofNat n = c) :
    n = c.toNat := by
  by_cases hv : n.isValidChar
  · rw [Char.ofNat, dif_pos hv] at h
    exact congrArg Char.toNat h
  · rw [Char.ofNat, dif_neg hv] at h
    exact absurd h.symm hc

theorem eq_of_caseImage_char {runs : List CaseRun} {c d : Char} (hd : d ≠ '\x00')
    (hr : ∀ r ∈ runs, d.toNat < r.target) (h : Char.ofNat (caseImage runs c.toNat) = d) :
    c = d :=
  Char.toNat_inj.1 (eq_of_caseImage hr (eq_of_ofNat hd h))

theorem space_mem_lowerChar (c : Char) : ' ' ∈ lowerChar c ↔ c = ' ' := by
  unfold lowerChar
  constructor
  · intro h
    split at h
    · simp at h
    · rw [List.mem_singleton] at h
      exact eq_of_caseImage_char (by decide) lowerRuns_target h.symm
  · rintro rfl
    decide

theorem space_mem_lower (cs : List Char) : ' ' ∈ lower cs ↔ ' ' ∈ cs := by
  have after : ∀ before, ' ' ∈ lowerAfter before cs ↔ ' ' ∈ cs := by
    induction cs with
    | nil => simp [lowerAfter]
    | cons c rest ih =>
      intro before
      rw [lowerAfter, List.mem_append, ih, List.mem_cons]
      apply or_congr_left
      split
      · rename_i hc
        subst hc
        unfold sigma
        split <;> simp
      · rw [space_mem_lowerChar]
        exact eq_comm
  exact after []

theorem colon_mem_upperChar (c : Char) : ':' ∈ upperChar c ↔ c = ':' := by
  unfold upperChar
  constructor
  · intro h
    split at h
    · rename_i points hlookup
      obtain ⟨n, hn, hc⟩ := List.mem_map.1 h
      obtain ⟨before, after, htable, -⟩ := List.lookup_eq_some_iff.1 hlookup
      have hmem : (c.toNat, points) ∈ upperExpansions := by simp [htable]
      have hbehind := upperExpansions_points _ hmem n hn
      have hcolon : n = ':'.toNat := eq_of_ofNat (by decide) hc
      omega
    · rw [List.mem_singleton] at h
      exact eq_of_caseImage_char (by decide) upperRuns_target h.symm
  · rintro rfl
    decide

theorem colon_mem_upper (cs : List Char) : ':' ∈ upper cs ↔ ':' ∈ cs := by
  simp [upper, List.mem_flatMap, colon_mem_upperChar]

end CommandGrammar.Text
