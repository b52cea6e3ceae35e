import CommandGrammar.Text.LetterCase

/-!
# The case of ASCII letters

Lower case does not see in which case the letters from A to Z were written. A letter has the same
image in both cases, and it is a letter to a sigma that stands beside it in both.
-/

set_option autoImplicit false

namespace CommandGrammar.Text

/-- The same text, but for the case of its ASCII letters. -/
def SameLetters (a b : List Char) : Prop :=
  a.map Char.toLower = b.map Char.toLower

instance (a b : List Char) : Decidable (SameLetters a b) :=
  inferInstanceAs (Decidable (a.map Char.toLower = b.map Char.toLower))

def capitals : List Char :=
  "ABCDEFGHIJKLMNOPQRSTUVWXYZ".toList

theorem mem_capitals {c : Char} (h : c.toLower ≠ c) : c ∈ capitals := by
  have hval : 'A'.val ≤ c.val ∧ c.val ≤ 'Z'.val :=
    Decidable.byContradiction fun hn => h (dif_neg hn)
  have hrange : 65 ≤ c.toNat ∧ c.toNat ≤ 90 := hval
  have hall : ∀ n < 26, Char.ofNat (65 + n) ∈ capitals := by decide
  have hmem := hall (c.toNat - 65) (by omega)
  rwa [Nat.add_sub_cancel' hrange.1, Char.ofNat_toNat] at hmem

theorem apply_toLower {α : Type} (f : Char → α)
    (h : capitals.map (fun c => f c.toLower) = capitals.map f) (c : Char) :
    f c.toLower = f c := by
  by_cases hc : c.toLower = c
  · rw [hc]
  · exact List.map_inj_left.1 h c (mem_capitals hc)

theorem isCased_toLower (c : Char) : isCased c.toLower = isCased c :=
  apply_toLower isCased (by decide +kernel) c

theorem caseIgnorable_apart :
    ∀ r ∈ caseIgnorableRanges, r.2 < 65 ∨ 90 < r.1 ∧ r.2 < 97 ∨ 122 < r.1 := by
  decide +kernel

theorem isCaseIgnorable_letter {c : Char}
    (h : 65 ≤ c.toNat ∧ c.toNat ≤ 90 ∨ 97 ≤ c.toNat ∧ c.toNat ≤ 122) :
    isCaseIgnorable c = false := by
  rw [isCaseIgnorable, inRanges, List.any_eq_false]
  intro r hr
  have hapart := caseIgnorable_apart r hr
  simp only [Bool.and_eq_true, decide_eq_true_eq]
  omega

theorem capitals_are_letters :
    capitals.all fun c => decide ((65 ≤ c.toNat ∧ c.toNat ≤ 90) ∧
      97 ≤ c.toLower.toNat ∧ c.toLower.toNat ≤ 122) := by
  decide

theorem isCaseIgnorable_toLower (c : Char) : isCaseIgnorable c.toLower = isCaseIgnorable c := by
  by_cases hc : c.toLower = c
  · rw [hc]
  · have hletter := List.all_eq_true.1 capitals_are_letters c (mem_capitals hc)
    obtain ⟨hcapital, hsmall⟩ := of_decide_eq_true hletter
    rw [isCaseIgnorable_letter (.inl hcapital), isCaseIgnorable_letter (.inr hsmall)]

theorem lowerChar_toLower (c : Char) : lowerChar c.toLower = lowerChar c :=
  apply_toLower lowerChar (by decide +kernel) c

theorem toLower_eq_sigma (c : Char) : c.toLower = 'Σ' ↔ c = 'Σ' :=
  decide_eq_decide.1 (apply_toLower (fun c => decide (c = 'Σ')) (by decide) c)

theorem toLower_eq_space (c : Char) : c.toLower = ' ' ↔ c = ' ' :=
  decide_eq_decide.1 (apply_toLower (fun c => decide (c = ' ')) (by decide) c)

theorem touchesLetter_map (cs : List Char) :
    touchesLetter (cs.map Char.toLower) = touchesLetter cs := by
  induction cs with
  | nil => rfl
  | cons c rest ih =>
    simp only [touchesLetter, List.map_cons, List.dropWhile_cons, isCaseIgnorable_toLower] at ih ⊢
    split
    · exact ih
    · simp [isCased_toLower]

theorem sigma_map (before after : List Char) :
    sigma (before.map Char.toLower) (after.map Char.toLower) = sigma before after := by
  simp only [sigma, touchesLetter_map]

theorem lowerAfter_map (before cs : List Char) :
    lowerAfter (before.map Char.toLower) (cs.map Char.toLower) = lowerAfter before cs := by
  induction cs generalizing before with
  | nil => rfl
  | cons c rest ih =>
    have hrest := ih (c :: before)
    rw [List.map_cons] at hrest
    simp only [List.map_cons, lowerAfter, toLower_eq_sigma, sigma_map, lowerChar_toLower, hrest]

theorem lower_map (cs : List Char) : lower (cs.map Char.toLower) = lower cs :=
  lowerAfter_map [] cs

namespace SameLetters

variable {a b : List Char}

theorem lower_eq (h : SameLetters a b) : lower a = lower b := by
  rw [← lower_map a, ← lower_map b, h]

theorem symm (h : SameLetters a b) : SameLetters b a :=
  Eq.symm h

theorem length_eq (h : SameLetters a b) : a.length = b.length := by
  simpa using congrArg List.length h

theorem take (h : SameLetters a b) (n : Nat) : SameLetters (a.take n) (b.take n) := by
  rw [SameLetters, List.map_take, List.map_take, h]

theorem drop (h : SameLetters a b) (n : Nat) : SameLetters (a.drop n) (b.drop n) := by
  rw [SameLetters, List.map_drop, List.map_drop, h]

theorem takeWhile (h : SameLetters a b) {p : Char → Bool} (hp : ∀ c, p c.toLower = p c) :
    SameLetters (a.takeWhile p) (b.takeWhile p) := by
  have hp' : p ∘ Char.toLower = p := funext hp
  rw [SameLetters, ← hp', ← List.takeWhile_map, ← List.takeWhile_map, h]

theorem head?_eq_space (h : SameLetters a b) (ha : a.head? = some ' ') : b.head? = some ' ' := by
  have hhead := congrArg List.head? h
  rw [List.head?_map, List.head?_map, ha] at hhead
  obtain ⟨c, hc, hspace⟩ := Option.map_eq_some_iff.1 hhead.symm
  have hc' : c = ' ' := (toLower_eq_space c).mp hspace
  rw [hc, hc']

end SameLetters

end CommandGrammar.Text
