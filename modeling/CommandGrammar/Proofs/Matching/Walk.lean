import CommandGrammar.Matching.Walk
import CommandGrammar.Proofs.Input.Longest
import Mathlib.Tactic.SplitIfs

/-!
# One node of a walk

What the visit of a node can come to. The command is used up before it, or the space before it
is missing, or the node is attempted behind that space. Results about whole walks are inductions
on the nodes over these cases and never open the walk itself.
-/

set_option autoImplicit false

namespace CommandGrammar

/-- What stands between the texts of two nodes. The first node has nothing before it. -/
def gap (level : Nat) : List Char :=
  if level = 0 then [] else [' ']

def Cursor.entry (c : Cursor) (level : Nat) : Cursor :=
  if level = 0 then c else c.advance 1

/-- The command goes on with what has to stand before the node. -/
def Cursor.Opens (c : Cursor) (level : Nat) : Prop :=
  c.remaining = gap level ++ (c.entry level).remaining

theorem capture_new (params : Params Json) (captured : Option (String × Json)) {ahead : List String}
    (hn : (params.names ++ captured.toList.map (·.1) ++ ahead).Nodup) :
    (params.capture captured).entries = params.entries ++ captured.toList ∧
      ((params.capture captured).names ++ ahead).Nodup := by
  have hentries : (params.capture captured).entries = params.entries ++ captured.toList := by
    cases captured with
    | none => exact (List.append_nil _).symm
    | some entry =>
      have hnew : entry.1 ∉ params.names := by
        intro hmem
        exact (List.nodup_append.1 (List.nodup_append.1 hn).1).2.2 _ hmem _
          (List.mem_singleton_self _) rfl
      exact Entries.put_of_notMem entry.2 hnew
  refine ⟨hentries, ?_⟩
  rwa [Params.names, Entries.keys, hentries, List.map_append]

theorem opens_zero (c : Cursor) : c.Opens 0 := rfl

theorem opens_of_remaining {c : Cursor} {level : Nat} {cs : List Char}
    (h : c.remaining = gap level ++ cs) : c.Opens level ∧ (c.entry level).remaining = cs := by
  unfold Cursor.Opens Cursor.entry gap at *
  split_ifs at * <;> simp_all

variable {C : Type} {table : Resolvers C} {context : C} {level : Nat} {node : Node}
  {rest : Definition} {c : Cursor} {params : Params Json}

/-- The ways in which a node can fail. The type of a typed parameter has no resolver; or the
node must be there, and no alternative stands at the cursor or the resolver refuses it. -/
theorem attempt_error {start : Cursor} {failure : Failure}
    (h : node.attempt table context level start = .error failure) :
    (∃ type, node.typeName? = some type ∧ table.get? type = none ∧
      failure = .unknownType level type) ∨
    node.isRequired = true ∧
      ((∃ values, failure = .mismatch (.noneAt level (joinAlternatives values) start)) ∨
        ∃ type resolver e, node.typeName? = some type ∧ table.get? type = some resolver ∧
          resolver (start.tagged level) context = .error e ∧ failure = .mismatch e) := by
  match node with
  | .literal values =>
    simp only [Node.attempt] at h
    split at h <;> cases h
    exact .inr ⟨rfl, .inl ⟨values, rfl⟩⟩
  | .param ⟨name, optional, .choice values⟩ =>
    simp only [Node.attempt] at h
    split at h
    · cases h
    · cases optional <;> cases h
      exact .inr ⟨rfl, .inl ⟨values, rfl⟩⟩
  | .param ⟨name, optional, .typename type⟩ =>
    simp only [Node.attempt] at h
    split at h
    · cases h
      exact .inl ⟨type, rfl, ‹_›, rfl⟩
    · split at h
      · cases h
      · cases optional <;> cases h
        exact .inr ⟨rfl, .inr ⟨type, _, _, rfl, ‹_›, ‹_›, rfl⟩⟩

theorem optional_of_skipped {start : Cursor}
    (h : node.attempt table context level start = .ok .skipped) :
    ∃ p, node = .param p ∧ p.optional = true := by
  match node with
  | .literal values =>
    simp only [Node.attempt] at h
    split at h <;> cases h
  | .param ⟨name, true, type⟩ => exact ⟨_, rfl, rfl⟩
  | .param ⟨name, false, .choice values⟩ =>
    simp only [Node.attempt] at h
    split at h <;> cases h
  | .param ⟨name, false, .typename type⟩ =>
    simp only [Node.attempt] at h
    split at h
    · cases h
    · split at h <;> cases h

theorem attempt_advanced {start stop : Cursor} {captured : Option (String × Json)}
    (h : node.attempt table context level start = .ok (.advanced stop captured)) :
    (∃ values v, node = .literal values ∧ longestAt start values = some v ∧
      stop = (start.take v.length).2 ∧ captured = none) ∨
    (∃ name optional values v, node = .param ⟨name, optional, .choice values⟩ ∧
      longestAt start values = some v ∧ stop = (start.take v.length).2 ∧
      captured = some (name, .str v)) ∨
    ∃ name optional type resolver reading, node = .param ⟨name, optional, .typename type⟩ ∧
      table.get? type = some resolver ∧ resolver (start.tagged level) context = .ok reading ∧
      stop = reading.cursor ∧ captured = some (name, reading.value) := by
  match node with
  | .literal values =>
    simp only [Node.attempt] at h
    split at h <;> cases h
    exact .inl ⟨values, _, rfl, ‹_›, rfl, rfl⟩
  | .param ⟨name, optional, .choice values⟩ =>
    simp only [Node.attempt] at h
    split at h
    · cases h
      exact .inr (.inl ⟨name, optional, values, _, rfl, ‹_›, rfl, rfl⟩)
    · split at h <;> cases h
  | .param ⟨name, optional, .typename type⟩ =>
    simp only [Node.attempt] at h
    split at h
    · cases h
    · split at h
      · cases h
        exact .inr (.inr ⟨name, optional, type, _, _, rfl, ‹_›, ‹_›, rfl, rfl⟩)
      · split at h <;> cases h

theorem walk_nil : Definition.walk table context level [] c params =
    if c.remaining = [] then .ok params else .error (.mismatch (.leftoverAt level c)) := by
  simp only [Definition.walk, Cursor.atEnd_iff]

theorem walk_cons_end (h : c.remaining = []) :
    Definition.walk table context level (node :: rest) c params =
      if (node :: rest).any Node.isRequired then .error (.mismatch (.endAt level))
      else .ok params := by
  rw [Definition.walk, if_pos ((Cursor.atEnd_iff c).2 h)]

theorem walk_cons_closed (table : Resolvers C) (context : C) (h : c.remaining ≠ [])
    (hc : ¬ c.Opens level) :
    ∃ found, c.remaining.head? = some found ∧ found ≠ ' ' ∧ ∀ node rest params,
      Definition.walk table context level (node :: rest) c params =
        .error (.mismatch ⟨level, .delimiter found⟩) := by
  obtain ⟨found, behind, hr⟩ := List.exists_cons_of_ne_nil h
  have hl : level ≠ 0 := by
    rintro rfl
    exact hc (opens_zero c)
  have hf : found ≠ ' ' := by
    rintro rfl
    exact hc (by simp [Cursor.Opens, Cursor.entry, gap, hl, hr])
  refine ⟨found, by simp [hr], hf, fun node rest params => ?_⟩
  have hend : c.atEnd ≠ true := fun he => h ((Cursor.atEnd_iff c).1 he)
  simp [Definition.walk, hend, hl, Cursor.pastSpace, Cursor.peek, hr, hf]

theorem walk_cons_opens (h : c.remaining ≠ []) (hc : c.Opens level) :
    Definition.walk table context level (node :: rest) c params =
      match node.attempt table context level (c.entry level) with
      | .error e => .error e
      | .ok .skipped => rest.walk table context (level + 1) c params
      | .ok (.advanced stop captured) =>
        rest.walk table context (level + 1) stop (params.capture captured) := by
  have hend : c.atEnd ≠ true := fun he => h ((Cursor.atEnd_iff c).1 he)
  have hentry : (if level = 0 then .ok c else c.pastSpace level) = .ok (c.entry level) := by
    by_cases hl : level = 0
    · simp [hl, Cursor.entry]
    · have hr : c.remaining[0]? = some ' ' := by
        rw [hc]
        simp [gap, hl]
      simp [hl, Cursor.pastSpace, Cursor.peek, hr, Cursor.entry]
  have hwalk := Definition.walk.eq_2 table context level c params node rest
  rw [if_neg hend, hentry] at hwalk
  exact hwalk

theorem walk_cons_ok {result : Params Json}
    (h : Definition.walk table context level (node :: rest) c params = .ok result) :
    (c.remaining = [] ∧ (node :: rest).any Node.isRequired = false ∧ params = result) ∨
    c.remaining ≠ [] ∧ c.Opens level ∧
      (node.attempt table context level (c.entry level) = .ok .skipped ∧
          rest.walk table context (level + 1) c params = .ok result ∨
        ∃ stop captured,
          node.attempt table context level (c.entry level) = .ok (.advanced stop captured) ∧
          rest.walk table context (level + 1) stop (params.capture captured) = .ok result) := by
  by_cases hr : c.remaining = []
  · left
    rw [walk_cons_end hr] at h
    split_ifs at h with hreq
    · exact ⟨hr, by simpa using hreq, by simpa using h⟩
  · right
    by_cases hc : c.Opens level
    · refine ⟨hr, hc, ?_⟩
      rw [walk_cons_opens hr hc] at h
      split at h
      · cases h
      · exact .inl ⟨‹_›, h⟩
      · exact .inr ⟨_, _, ‹_›, h⟩
    · obtain ⟨found, -, -, he⟩ := walk_cons_closed table context hr hc
      rw [he] at h
      cases h

theorem walk_cons_error {failure : Failure}
    (h : Definition.walk table context level (node :: rest) c params = .error failure) :
    (c.remaining = [] ∧ (node :: rest).any Node.isRequired = true ∧
        failure = .mismatch (.endAt level)) ∨
    (∃ found, c.remaining.head? = some found ∧ found ≠ ' ' ∧
        failure = .mismatch ⟨level, .delimiter found⟩) ∨
    c.remaining ≠ [] ∧ c.Opens level ∧
      (node.attempt table context level (c.entry level) = .error failure ∨
        (node.attempt table context level (c.entry level) = .ok .skipped ∧
          rest.walk table context (level + 1) c params = .error failure) ∨
        ∃ stop captured,
          node.attempt table context level (c.entry level) = .ok (.advanced stop captured) ∧
          rest.walk table context (level + 1) stop (params.capture captured) = .error failure) := by
  by_cases hr : c.remaining = []
  · left
    rw [walk_cons_end hr] at h
    split_ifs at h with hreq
    exact ⟨hr, hreq, (Except.error.inj h).symm⟩
  · right
    by_cases hc : c.Opens level
    · right
      refine ⟨hr, hc, ?_⟩
      rw [walk_cons_opens hr hc] at h
      split at h
      · rename_i e he
        rw [Except.error.inj h] at he
        exact .inl he
      · exact .inr (.inl ⟨‹_›, h⟩)
      · exact .inr (.inr ⟨_, _, ‹_›, h⟩)
    · left
      obtain ⟨found, hhead, hne, he⟩ := walk_cons_closed table context hr hc
      exact ⟨found, hhead, hne, (Except.error.inj ((he node rest params).symm.trans h)).symm⟩

end CommandGrammar
