import CommandGrammar.Proofs.Capture.Builtins
import CommandGrammar.Proofs.Matching.Passage

/-!
# Optional parameters that are tried in vain

An optional parameter that does not fit gives back all it read, its space too. The walk goes on
as if the definition did not have it, and only the levels of the nodes behind it are one higher.
Resolvers see that level, so they must not let their answers depend on it.
-/

set_option autoImplicit false

namespace CommandGrammar

def Failure.raised : Failure → Failure
  | mismatch e => mismatch ⟨e.level + 1, e.reason⟩
  | unknownType level type => unknownType (level + 1) type

def Attempt.tagged (index : Nat) : Attempt → Attempt
  | advanced next captured => advanced (next.tagged index) captured
  | skipped => skipped

variable {C : Type} {table : Resolvers C} {context : C}

/-- No alternative of the parameter stands at the cursor, or the resolver of its type refuses
what does, however much it read. -/
def Param.Misses (p : Param) (table : Resolvers C) (context : C) (level : Nat) (start : Cursor) :
    Prop :=
  match p.type with
  | .choice values => ∀ v ∈ values, start.shows v = false
  | .typename type => ∃ resolver e, table.get? type = some resolver ∧
      resolver (start.tagged level) context = .error e

theorem Param.Misses.attempt_eq {p : Param} {level : Nat} {start : Cursor}
    (h : p.Misses table context level start) (ho : p.optional = true) :
    (Node.param p).attempt table context level start = .ok .skipped := by
  match p with
  | ⟨name, optional, .choice values⟩ =>
    obtain rfl : optional = true := ho
    have hnone : longestAt start values = none := longestAt_eq_none.2 h
    simp [Node.attempt, hnone]
  | ⟨name, optional, .typename type⟩ =>
    obtain rfl : optional = true := ho
    obtain ⟨resolver, e, hres, he⟩ := h
    simp [Node.attempt, hres, he]

theorem attempt_raised (ht : table.IndexFree context) (level index : Nat) (start : Cursor)
    (node : Node) :
    ∃ kept, node.attempt table context (level + 1) (start.tagged index) =
      ((node.attempt table context level start).map (Attempt.tagged kept)).mapError
        Failure.raised := by
  match node with
  | .literal values =>
    have hsame : longestAt (start.tagged index) values = longestAt start values := rfl
    refine ⟨index, ?_⟩
    simp only [Node.attempt, hsame]
    cases longestAt start values <;> rfl
  | .param ⟨name, optional, .choice values⟩ =>
    have hsame : longestAt (start.tagged index) values = longestAt start values := rfl
    refine ⟨index, ?_⟩
    simp only [Node.attempt, hsame]
    cases longestAt start values with
    | none => cases optional <;> rfl
    | some v => rfl
  | .param ⟨name, optional, .typename type⟩ =>
    have hsame : (start.tagged index).tagged (level + 1) = start.tagged (level + 1) := rfl
    simp only [Node.attempt, hsame]
    cases hres : table.get? type with
    | none => exact ⟨index, rfl⟩
    | some resolver =>
      rcases ht type resolver hres start with ⟨stop, value, hread⟩ | ⟨reason, hfail⟩
      · obtain ⟨kept, hnext⟩ := hread (level + 1)
        obtain ⟨_, hthis⟩ := hread level
        refine ⟨kept, ?_⟩
        simp only [hnext, hthis]
        rfl
      · refine ⟨index, ?_⟩
        simp only [hfail]
        cases optional <;> rfl

theorem Cursor.Opens.raised {c : Cursor} {level : Nat} (index : Nat) (hl : level ≠ 0) :
    (c.tagged index).Opens (level + 1) ↔ c.Opens level := by
  simp only [Cursor.Opens, Cursor.entry, gap, hl, Nat.succ_ne_zero, if_false]
  rfl

theorem Cursor.entry_raised (c : Cursor) {level : Nat} (index : Nat) (hl : level ≠ 0) :
    (c.tagged index).entry (level + 1) = (c.entry level).tagged index := by
  simp only [Cursor.entry, hl, Nat.succ_ne_zero, if_false]
  rfl

theorem walk_raised (ht : table.IndexFree context) (d : Definition) {level : Nat}
    (hl : level ≠ 0) (index : Nat) (c : Cursor) (params : Params Json) :
    d.walk table context (level + 1) (c.tagged index) params =
      (d.walk table context level c params).mapError Failure.raised := by
  -- By induction on the nodes. The index that the cursor carries is only seen by resolvers,
  -- which get it replaced, so the two walks may carry any two.
  induction d generalizing level index c params with
  | nil =>
    rw [walk_nil, walk_nil, Cursor.remaining_tagged]
    split <;> rfl
  | cons node rest ih =>
    have hrest := @ih (level + 1) (Nat.succ_ne_zero level)
    by_cases hr : c.remaining = []
    · have hr' : (c.tagged index).remaining = [] := hr
      rw [walk_cons_end hr, walk_cons_end hr']
      split <;> rfl
    · have hr' : (c.tagged index).remaining ≠ [] := hr
      by_cases hc : c.Opens level
      · obtain ⟨kept, ha⟩ := attempt_raised ht level index (c.entry level) node
        rw [walk_cons_opens hr hc, walk_cons_opens hr' ((Cursor.Opens.raised index hl).2 hc),
          Cursor.entry_raised c index hl, ha]
        cases node.attempt table context level (c.entry level) with
        | error failure => rfl
        | ok attempt =>
          cases attempt with
          | skipped => exact hrest index c params
          | advanced next captured => exact hrest kept next (params.capture captured)
      · have hc' : ¬ (c.tagged index).Opens (level + 1) := by
          rwa [Cursor.Opens.raised index hl]
        obtain ⟨found, hfound, -, hwalk⟩ := walk_cons_closed table context hr hc
        obtain ⟨found', hfound', -, hwalk'⟩ := walk_cons_closed table context hr' hc'
        cases hfound.symm.trans hfound'
        rw [hwalk, hwalk']
        rfl

theorem Definition.Reaches.eraseIdx {d : Definition} {input : String} {k : Nat} {c : Cursor}
    {params : Params Json} (h : d.Reaches table context input k c params) :
    Definition.Reaches (List.eraseIdx d k) table context input k c params := by
  have hk : k ≤ (d.take k).length := by
    rw [List.length_take]
    exact Nat.le_min.2 ⟨Nat.le_refl k, h.1⟩
  rw [← List.take_append_drop k d, Definition.reaches_append hk] at h
  rw [List.eraseIdx_eq_take_drop_succ]
  exact (Definition.reaches_append hk).2 h

/-- An optional parameter, not the first node, is met behind its space and does not fit. Then
either matcher gives what it gives for the definition without the parameter: the same parameters
in the same order, or the same failure one level higher. -/
theorem missed_optional_leaves_no_trace (m : Matcher) (d : Definition) (table : Resolvers C)
    (context : C) (ht : table.IndexFree context) (input : String) (k : Nat) (hk : 1 ≤ k)
    (p : Param) (hp : d[k]? = some (.param p)) (ho : p.optional = true) (c : Cursor)
    (params : Params Json) (hreach : d.Reaches table context input k c params)
    (hspace : c.remaining.head? = some ' ') (hmiss : p.Misses table context k (c.advance 1)) :
    m.run d table context input =
      (m.run (d.eraseIdx k) table context input).mapError Failure.raised := by
  have hl : k ≠ 0 := Nat.ne_of_gt hk
  obtain ⟨behind, hbehind⟩ : ∃ behind, c.remaining = ' ' :: behind :=
    List.head?_eq_some_iff.1 hspace
  have hr : c.remaining ≠ [] := by simp [hbehind]
  have hgap : c.remaining = gap k ++ behind := by simp [hbehind, gap, hl]
  have hopens : c.Opens k := (opens_of_remaining hgap).1
  have hattempt : (Node.param p).attempt table context k (c.entry k) = .ok .skipped := by
    rw [Cursor.entry, if_neg hl]
    exact hmiss.attempt_eq ho
  obtain ⟨hlt, hnode⟩ := List.getElem?_eq_some_iff.1 hp
  have hwith : d.drop k = .param p :: d.drop (k + 1) := by
    rw [List.drop_eq_getElem_cons hlt, hnode]
  have hwithout : (List.eraseIdx d k).drop k = d.drop (k + 1) := by
    rw [List.eraseIdx_eq_take_drop_succ]
    exact List.drop_left' (List.length_take_of_le hreach.1)
  rw [Matcher.run_eq_walk, Matcher.run_eq_walk, hreach.walk_eq, hwith,
    walk_cons_through hr hopens hattempt, hreach.eraseIdx.walk_eq, hwithout]
  exact walk_raised ht _ hl c.nodeIndex c params

theorem missed_optional_leaves_no_trace_say :
    let d : Definition :=
      [.literal ["say"], .param ⟨"to", true, .typename "word"⟩,
        .param ⟨"text", false, .typename "string"⟩]
    let p : Param := ⟨"to", true, .typename "word"⟩
    let c : Cursor := ⟨"say  hello".toList.toArray, 3, 3, 0⟩
    Resolvers.builtins.IndexFree () ∧ d[1]? = some (.param p) ∧
      d.Reaches Resolvers.builtins () "say  hello" 1 c Params.empty ∧
      c.remaining.head? = some ' ' ∧ p.Misses Resolvers.builtins () 1 (c.advance 1) ∧
      Matcher.compiled.run d Resolvers.builtins () "say  hello" =
        (Matcher.compiled.run [.literal ["say"], .param ⟨"text", false, .typename "string"⟩]
          Resolvers.builtins () "say  hello").mapError Failure.raised := by
  intro d p c
  have hreach : d.Reaches Resolvers.builtins () "say  hello" 1 c Params.empty :=
    ⟨by decide, .through (by decide) rfl rfl .done⟩
  have hmiss : p.Misses Resolvers.builtins () 1 (c.advance 1) := ⟨_, _, rfl, rfl⟩
  exact ⟨builtins_indexFree (), rfl, hreach, by decide, hmiss,
    missed_optional_leaves_no_trace .compiled d _ () (builtins_indexFree ()) _ 1 (by decide) p rfl
      rfl c _ hreach (by decide) hmiss⟩

end CommandGrammar
