import CommandGrammar.Matching.Plan
import CommandGrammar.Proofs.Input.Longest

/-!
# A compiled matcher runs its definition

Each step of a plan does what its node does, and it knows beforehand whether a node that must be
there is still ahead. So a plan and its definition agree on every command, whatever the
resolvers return, failures and their levels included.
-/

set_option autoImplicit false

namespace CommandGrammar

variable {C : Type}

theorem run_action (table : Resolvers C) (context : C) (level : Nat) (c : Cursor) (node : Node) :
    (node.action table).run context level c = node.attempt table context level c := by
  match node with
  | .literal values =>
    simp only [Node.action, Action.run, Node.attempt, pick_ofValues]
    cases longestAt c values <;> rfl
  | .param ⟨name, optional, .choice values⟩ =>
    simp only [Node.action, Action.run, Node.attempt, pick_ofValues]
    cases longestAt c values <;> rfl
  | .param ⟨name, optional, .typename type⟩ =>
    simp only [Node.action, Node.attempt]
    cases table.get? type <;> rfl

theorem required_ahead_iff {d : Definition} {n : Nat} :
    (d.drop n).any Node.isRequired = true ↔
      ∃ j node, n ≤ j ∧ d[j]? = some node ∧ node.isRequired = true := by
  rw [List.any_eq_true]
  constructor
  · rintro ⟨node, hmem, hreq⟩
    obtain ⟨i, hi⟩ := List.mem_iff_getElem?.1 hmem
    rw [List.getElem?_drop] at hi
    exact ⟨n + i, node, Nat.le_add_right n i, hi, hreq⟩
  · rintro ⟨j, node, hj, hn, hreq⟩
    refine ⟨node, List.mem_iff_getElem?.2 ⟨j - n, ?_⟩, hreq⟩
    rwa [List.getElem?_drop, Nat.add_sub_cancel' hj]

theorem compileFrom_ahead (table : Resolvers C) (level : Nat) (nodes : Definition) :
    (compileFrom table level nodes).2 = nodes.any Node.isRequired := by
  induction nodes generalizing level with
  | nil => rfl
  | cons node rest ih => simp [compileFrom, ih, Bool.or_comm]

theorem compileFrom_cons (table : Resolvers C) (level : Nat) (node : Node) (rest : Definition) :
    (compileFrom table level (node :: rest)).1 =
      { index := level
        spaced := level != 0
        ending := if (node :: rest).any Node.isRequired then .early else .complete
        action := node.action table } :: (compileFrom table (level + 1) rest).1 := by
  simp [compileFrom, compileFrom_ahead, Bool.or_comm]

theorem runSteps_compileFrom (table : Resolvers C) (context : C) (level : Nat)
    (nodes : Definition) (c : Cursor) (params : Params Json) :
    Plan.runSteps context (level + nodes.length) (compileFrom table level nodes).1 c params =
      nodes.walk table context level c params := by
  -- The simulation, by induction on the nodes that are left. The count of all nodes, which the
  -- plan stores and the definition finds on its way, is the level plus what is left.
  induction nodes generalizing level c params with
  | nil => rfl
  | cons node rest ih =>
    have hcount : level + (node :: rest).length = level + 1 + rest.length := by
      simp only [List.length_cons]
      omega
    rw [compileFrom_cons, hcount, Plan.runSteps, Definition.walk]
    by_cases hend : c.atEnd
    · cases (node :: rest).any Node.isRequired <;> simp [hend]
    · simp only [hend, run_action, ih, bne_iff_ne, ite_not]
      rfl

theorem run_compile_eq_walk (d : Definition) (table : Resolvers C) (context : C)
    (input : String) :
    (d.compile table).run input context =
      d.walk table context 0 (Cursor.ofString input) Params.empty := by
  have h := runSteps_compileFrom table context 0 d (Cursor.ofString input) Params.empty
  rwa [Nat.zero_add] at h

/-- The plan and the definition give one result: the same entries in the order of capture, or
the same failure with its kind, level and text. The definition may hold empty or repeated
alternatives and names, and no property of the case conversion is used. -/
theorem compiled_run_eq_interpret (d : Definition) (table : Resolvers C) (context : C)
    (input : String) :
    (d.compile table).run input context = d.interpret input table context :=
  run_compile_eq_walk d table context input

end CommandGrammar
