import CommandGrammar.Input.Longest

/-!
# The first of the longest

Both ways of choosing an alternative obey one equation: of the head of the list and the choice
among the rest, the rest wins only if it is strictly longer. A stable sort by falling length
moves the head past exactly those longer ones, so its first hit is the same alternative: the first
of the longest that stand at the cursor.
-/

set_option autoImplicit false

namespace CommandGrammar

/-- Of two choices the later one wins only if it is longer. -/
def orLonger : Option String → Option String → Option String
  | none, b => b
  | some v, none => some v
  | some v, some w => if v.length < w.length then some w else some v

theorem orLonger_none (a : Option String) : orLonger a none = a := by
  cases a <;> rfl

theorem orLonger_assoc (a b d : Option String) :
    orLonger (orLonger a b) d = orLonger a (orLonger b d) := by
  rcases a with _ | u <;> rcases b with _ | v <;> rcases d with _ | w <;> grind [orLonger]

def hit (c : Cursor) (value : String) : Option String :=
  if c.shows value then some value else none

theorem preferLonger_eq (c : Cursor) (best : Option String) (value : String) :
    preferLonger c best value = orLonger best (hit c value) := by
  cases best <;> by_cases h : c.shows value <;> simp [preferLonger, hit, orLonger, h]

theorem foldl_preferLonger (c : Cursor) (best : Option String) (values : List String) :
    values.foldl (preferLonger c) best = orLonger best (longestAt c values) := by
  induction values generalizing best with
  | nil => exact (orLonger_none best).symm
  | cons v rest ih =>
    rw [longestAt, List.foldl_cons, List.foldl_cons, ih, ih, ← orLonger_assoc]
    rw [preferLonger_eq, preferLonger_eq]
    rfl

theorem longestAt_cons (c : Cursor) (v : String) (rest : List String) :
    longestAt c (v :: rest) = orLonger (hit c v) (longestAt c rest) := by
  rw [longestAt, List.foldl_cons, foldl_preferLonger, preferLonger_eq]
  rfl

theorem longestAt_eq_none {c : Cursor} {values : List String} :
    longestAt c values = none ↔ ∀ w ∈ values, c.shows w = false := by
  induction values with
  | nil => simp [longestAt]
  | cons u rest ih =>
    rw [longestAt_cons, List.forall_mem_cons, ← ih]
    cases longestAt c rest <;> grind [hit, orLonger]

theorem longestAt_spec {c : Cursor} {values : List String} {v : String}
    (h : longestAt c values = some v) :
    v ∈ values ∧ c.shows v = true ∧ ∀ w ∈ values, c.shows w = true → w.length ≤ v.length := by
  induction values generalizing v with
  | nil => cases h
  | cons u rest ih =>
    rw [longestAt_cons] at h
    cases hr : longestAt c rest with
    | none =>
      rw [hr, orLonger_none] at h
      have hnone : ∀ w ∈ rest, c.shows w = false := longestAt_eq_none.1 hr
      grind [hit]
    | some w =>
      obtain ⟨hw, hcw, hmax⟩ := ih hr
      grind [hit, orLonger]

/-- The alternatives from the longest to the shortest, equally long ones in their order. -/
def fallingLength (values : List String) : List String :=
  values.mergeSort fun v w => w.length ≤ v.length

theorem pick_eq_find? (c : Cursor) (values : List String) :
    (Ranking.ofValues values).pick c =
      ((fallingLength values).find? c.shows).map Candidate.ofValue := by
  have hs : (fallingLength values).map Candidate.ofValue =
      (values.map Candidate.ofValue).mergeSort fun a b => b.length ≤ a.length :=
    List.map_mergeSort fun _ _ _ _ => rfl
  rw [Ranking.pick, Ranking.ofValues, ← hs, List.find?_map]
  rfl

theorem fallingLength_cons (v : String) (rest : List String) :
    ∃ longer shorter, fallingLength (v :: rest) = longer ++ v :: shorter ∧
      fallingLength rest = longer ++ shorter ∧
      (∀ w ∈ longer, v.length < w.length) ∧ ∀ w ∈ shorter, w.length ≤ v.length := by
  have trans : ∀ u v w : String, decide (v.length ≤ u.length) → decide (w.length ≤ v.length) →
      decide (w.length ≤ u.length) := by
    intro u v w huv hvw
    simp only [decide_eq_true_eq] at *
    omega
  have total : ∀ u v : String, decide (v.length ≤ u.length) || decide (u.length ≤ v.length) := by
    intro u v
    simp only [Bool.or_eq_true, decide_eq_true_eq]
    omega
  obtain ⟨longer, shorter, hv, hr, hl⟩ := List.mergeSort_cons trans total v rest
  have hsorted := List.pairwise_mergeSort trans total (v :: rest)
  rw [hv, List.pairwise_append, List.pairwise_cons] at hsorted
  refine ⟨longer, shorter, hv, hr, ?_, ?_⟩
  · intro w hw
    simpa using hl w hw
  · intro w hw
    simpa using hsorted.2.1.1 w hw

theorem find?_fallingLength_cons (c : Cursor) (v : String) (rest : List String) :
    (fallingLength (v :: rest)).find? c.shows =
      orLonger (hit c v) ((fallingLength rest).find? c.shows) := by
  obtain ⟨longer, shorter, hv, hr, hl, hs⟩ := fallingLength_cons v rest
  rw [hv, hr, List.find?_append, List.find?_append, List.find?_cons]
  cases hfl : longer.find? c.shows with
  | some w =>
    have hw := hl w (List.mem_of_find?_eq_some hfl)
    by_cases h : c.shows v <;> simp [hit, orLonger, h, hw]
  | none =>
    cases hfs : shorter.find? c.shows with
    | none => by_cases h : c.shows v <;> simp [hit, orLonger, h]
    | some w =>
      have hw := hs w (List.mem_of_find?_eq_some hfs)
      by_cases h : c.shows v <;> simp [hit, orLonger, h, Nat.not_lt.2 hw]

theorem pick_ofValues (c : Cursor) (values : List String) :
    (Ranking.ofValues values).pick c = (longestAt c values).map Candidate.ofValue := by
  rw [pick_eq_find?]
  congr 1
  induction values with
  | nil => simp [fallingLength, longestAt]
  | cons v rest ih => rw [find?_fallingLength_cons, longestAt_cons, ih]

/-- The alternative comes next in the command, up to letter case. As many characters are compared
as it has, or as there are. -/
def Cursor.Stands (c : Cursor) (v : String) : Prop :=
  Text.lower (c.remaining.take v.length) = Text.lower v.toList

/-- The alternative stands at the cursor, and of all that stand there those declared before it are
shorter and those behind it no longer. -/
structure FirstLongest (c : Cursor) (values : List String) (v : String) : Prop where
  stands : c.Stands v
  place : ∃ before after, values = before ++ v :: after ∧
    (∀ w ∈ before, c.Stands w → w.length < v.length) ∧
      ∀ w ∈ after, c.Stands w → w.length ≤ v.length

variable {c : Cursor} {u v : String} {rest : List String}

theorem hit_of_stands (h : c.Stands v) : hit c v = some v :=
  if_pos ((Cursor.shows_iff c v).2 h)

theorem hit_of_not_stands (h : ¬ c.Stands v) : hit c v = none :=
  if_neg fun hs => h ((Cursor.shows_iff c v).1 hs)

theorem stands_of_longestAt {values : List String} (h : longestAt c values = some v) :
    v ∈ values ∧ c.Stands v ∧ ∀ w ∈ values, c.Stands w → w.length ≤ v.length := by
  obtain ⟨hv, hs, hmax⟩ := longestAt_spec h
  exact ⟨hv, (Cursor.shows_iff c v).1 hs, fun w hw hw' => hmax w hw ((Cursor.shows_iff c w).2 hw')⟩

theorem longestAt_none_iff {values : List String} :
    longestAt c values = none ↔ ∀ v ∈ values, ¬ c.Stands v := by
  rw [longestAt_eq_none]
  refine forall₂_congr fun v _ => ?_
  rw [← Bool.not_eq_true, Cursor.shows_iff, Cursor.Stands]

theorem firstLongest_head (h : c.Stands u) (hr : ∀ w ∈ rest, c.Stands w → w.length ≤ u.length) :
    FirstLongest c (u :: rest) u :=
  ⟨h, [], rest, rfl, by simp, hr⟩

theorem FirstLongest.cons (h : FirstLongest c rest v) (hu : c.Stands u → u.length < v.length) :
    FirstLongest c (u :: rest) v := by
  obtain ⟨hs, before, after, rfl, hb, ha⟩ := h
  exact ⟨hs, u :: before, after, rfl, List.forall_mem_cons.2 ⟨hu, hb⟩, ha⟩

theorem firstLongest_cons (h : FirstLongest c (u :: rest) v) :
    (v = u ∧ ∀ w ∈ rest, c.Stands w → w.length ≤ u.length) ∨
      FirstLongest c rest v ∧ (c.Stands u → u.length < v.length) := by
  obtain ⟨hs, before, after, hsplit, hb, ha⟩ := h
  cases before with
  | nil =>
    cases hsplit
    exact .inl ⟨rfl, ha⟩
  | cons first before =>
    cases hsplit
    rw [List.forall_mem_cons] at hb
    exact .inr ⟨⟨hs, before, after, rfl, hb.2, ha⟩, hb.1⟩

theorem longestAt_some_iff {values : List String} :
    longestAt c values = some v ↔ FirstLongest c values v := by
  -- By induction on the alternatives: the choice among the rest takes over from the head only
  -- if it is strictly longer.
  induction values generalizing v with
  | nil => exact ⟨nofun, fun ⟨_, before, _, h, _⟩ => by cases before <;> cases h⟩
  | cons u rest ih =>
    rw [longestAt_cons]
    constructor
    · intro h
      by_cases hu : c.Stands u
      · rw [hit_of_stands hu] at h
        cases hr : longestAt c rest with
        | none =>
          rw [hr] at h
          cases h
          exact firstLongest_head hu fun w hw hs => absurd hs (longestAt_none_iff.1 hr w hw)
        | some w =>
          rw [hr, orLonger] at h
          split at h
          · cases h
            exact (ih.1 hr).cons fun _ => ‹_›
          · cases h
            have hmax := (stands_of_longestAt hr).2.2
            exact firstLongest_head hu fun x hx hs =>
              Nat.le_trans (hmax x hx hs) (Nat.le_of_not_lt ‹_›)
      · rw [hit_of_not_stands hu] at h
        exact (ih.1 h).cons fun hs => absurd hs hu
    · intro h
      rcases firstLongest_cons h with ⟨rfl, hmax⟩ | ⟨hrest, hlt⟩
      · rw [hit_of_stands h.stands]
        cases hr : longestAt c rest with
        | none => rfl
        | some w =>
          obtain ⟨hw, hs, -⟩ := stands_of_longestAt hr
          exact if_neg (Nat.not_lt.2 (hmax w hw hs))
      · rw [ih.2 hrest]
        by_cases hu : c.Stands u
        · rw [hit_of_stands hu]
          exact if_pos (hlt hu)
        · rw [hit_of_not_stands hu]
          rfl

/-- Both searches choose the same alternative: none if none stands at the cursor, else the first of
the longest that do. Taking as many characters as it has, or as there are, takes a text off the
command that is the alternative up to letter case. -/
theorem first_longest_alternative (c : Cursor) (values : List String) :
    (Ranking.ofValues values).pick c = (longestAt c values).map Candidate.ofValue ∧
      (longestAt c values = none ↔ ∀ v ∈ values, ¬ c.Stands v) ∧
      ∀ v, (longestAt c values = some v ↔ FirstLongest c values v) ∧
        (longestAt c values = some v →
          ∃ text next, c.take v.length = (text, next) ∧ c.remaining = text ++ next.remaining ∧
            Text.lower text = Text.lower v.toList) := by
  refine ⟨pick_ofValues c values, longestAt_none_iff, fun v => ⟨longestAt_some_iff, fun h => ?_⟩⟩
  have htext : (c.take v.length).1 = c.remaining.take v.length := Cursor.ahead_eq c v.length
  refine ⟨(c.take v.length).1, (c.take v.length).2, rfl, ?_, ?_⟩
  · rw [htext, Cursor.remaining_take, List.take_append_drop]
  · rw [htext]
    exact (longestAt_some_iff.1 h).stands

theorem first_longest_alternative_dotted :
    let c := (Cursor.ofString "set İ").advance 4
    let values := ["İ", "i\u0307", "i", "I\u0307"]
    longestAt c values = some "i\u0307" ∧
      (Ranking.ofValues values).pick c = some (Candidate.ofValue "i\u0307") ∧
      FirstLongest c values "i\u0307" ∧
      ∃ text next, c.take 2 = (text, next) ∧ c.remaining = text ++ next.remaining ∧
        Text.lower text = Text.lower "i\u0307".toList := by
  intro c values
  have hlongest : longestAt c values = some "i\u0307" := by decide +kernel
  obtain ⟨hpick, -, hchosen⟩ := first_longest_alternative c values
  rw [hlongest] at hpick
  exact ⟨hlongest, hpick, (hchosen _).1.1 hlongest, (hchosen _).2 hlongest⟩

end CommandGrammar
