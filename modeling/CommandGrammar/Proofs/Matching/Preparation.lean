import CommandGrammar.Proofs.Matching.Compiled

/-!
# What a plan holds

A plan has one step for each node, in their order. A step knows its place, whether a space comes
before it, what the end of the command means there and what its node calls for. The steps are made
from the last node to the first, with a flag that says whether any node so far must be there, and
turned round at the end.
-/

set_option autoImplicit false

namespace CommandGrammar

variable {C : Type} {table : Resolvers C} {d : Definition} {i : Nat} {node : Node}

/-- What is made of a node. The resolver is the one that the table has for the type now, and of a
type without a resolver the name is kept. -/
inductive Prepares (table : Resolvers C) : Node → Action C → Prop
  | literal (values : List String) :
      Prepares table (.literal values) (.literal (.ofValues values))
  | choice (name : String) (optional : Bool) (values : List String) :
      Prepares table (.param ⟨name, optional, .choice values⟩)
        (.choice name optional (.ofValues values))
  | resolve (name : String) (optional : Bool) {type : String} {resolver : Resolver C}
      (h : table.get? type = some resolver) :
      Prepares table (.param ⟨name, optional, .typename type⟩) (.resolve name optional resolver)
  | unresolvable (name : String) (optional : Bool) {type : String}
      (h : table.get? type = none) :
      Prepares table (.param ⟨name, optional, .typename type⟩) (.unresolvable type)

/-- A literal or a required parameter stands at this place or behind it. -/
def Definition.NeededFrom (d : Definition) (i : Nat) : Prop :=
  ∃ j node, i ≤ j ∧ d[j]? = some node ∧
    ((∃ values, node = .literal values) ∨ ∃ p, node = .param p ∧ p.optional = false)

structure Step.Serves (d : Definition) (table : Resolvers C) (i : Nat) (step : Step C) : Prop where
  index : step.index = i
  spaced : step.spaced = true ↔ i ≠ 0
  early : step.ending = .early ↔ d.NeededFrom i
  complete : step.ending = .complete ↔ ¬ d.NeededFrom i
  action : ∃ node, d[i]? = some node ∧ Prepares table node step.action
  unresolvable : ∀ type, step.action = .unresolvable type ↔
    ∃ p, d[i]? = some (.param p) ∧ p.type = .typename type ∧ table.get? type = none

def Node.step (table : Resolvers C) (index : Nat) (ahead : Bool) (node : Node) : Step C where
  index := index
  spaced := index != 0
  ending := if ahead then .early else .complete
  action := node.action table

def gather (table : Resolvers C) (made : List (Step C) × Bool) (entry : Node × Nat) :
    List (Step C) × Bool :=
  let ahead := made.2 || entry.1.isRequired
  (made.1 ++ [entry.1.step table entry.2 ahead], ahead)

theorem prepares_iff {action : Action C} :
    Prepares table node action ↔ node.action table = action := by
  constructor
  · intro h
    cases h with
    | literal | choice => rfl
    | resolve _ _ h | unresolvable _ _ h => simp [Node.action, h]
  · rintro rfl
    cases node with
    | literal values => exact .literal values
    | param p =>
      obtain ⟨name, optional, type⟩ := p
      cases type with
      | choice values => exact .choice name optional values
      | typename type =>
        cases h : table.get? type with
        | some resolver => simpa [Node.action, h] using Prepares.resolve name optional h
        | none => simpa [Node.action, h] using Prepares.unresolvable name optional h

theorem Prepares.unresolvable_iff {action : Action C} (h : Prepares table node action)
    (type : String) : action = .unresolvable type ↔
      ∃ p, node = .param p ∧ p.type = .typename type ∧ table.get? type = none := by
  constructor
  · rintro rfl
    cases h with
    | unresolvable name optional h => exact ⟨_, rfl, rfl, h⟩
  · rintro ⟨⟨name, optional, _⟩, rfl, rfl, hnone⟩
    exact (prepares_iff.1 h).symm.trans (prepares_iff.1 (.unresolvable name optional hnone))

theorem Node.isRequired_iff : node.isRequired = true ↔
    (∃ values, node = .literal values) ∨ ∃ p, node = .param p ∧ p.optional = false := by
  cases node <;> simp [Node.isRequired]

theorem Definition.neededFrom_iff : d.NeededFrom i ↔ (d.drop i).any Node.isRequired = true := by
  simp only [Definition.NeededFrom, ← Node.isRequired_iff, required_ahead_iff]

theorem Node.step_serves (h : d[i]? = some node) :
    (node.step table i ((d.drop i).any Node.isRequired)).Serves d table i where
  index := rfl
  spaced := by simp [Node.step]
  early := by simp [Node.step, Definition.neededFrom_iff]
  complete := by simp [Node.step, Definition.neededFrom_iff]
  action := ⟨node, h, prepares_iff.2 rfl⟩
  unresolvable type := by
    have hprepares : Prepares table node (node.action table) := prepares_iff.2 rfl
    rw [h]
    simpa [Node.step] using hprepares.unresolvable_iff type

theorem Step.Serves.unique {step other : Step C} (h : step.Serves d table i)
    (ho : other.Serves d table i) : step = other := by
  have hindex : step.index = other.index := h.index.trans ho.index.symm
  have hspaced : step.spaced = other.spaced := Bool.eq_iff_iff.2 (h.spaced.trans ho.spaced.symm)
  have hending : step.ending = other.ending := by
    cases hs : step.ending with
    | early => exact (ho.early.2 (h.early.1 hs)).symm
    | complete => exact (ho.complete.2 (h.complete.1 hs)).symm
  have haction : step.action = other.action := by
    obtain ⟨node, hnode, hprepares⟩ := h.action
    obtain ⟨node', hnode', hprepares'⟩ := ho.action
    obtain rfl : node = node' := Option.some.inj (hnode.symm.trans hnode')
    exact (prepares_iff.1 hprepares).symm.trans (prepares_iff.1 hprepares')
  cases step
  cases other
  rw [Step.mk.injEq]
  exact ⟨hindex, hspaced, hending, haction⟩

theorem length_compileFrom (table : Resolvers C) (level : Nat) (nodes : Definition) :
    (compileFrom table level nodes).1.length = nodes.length := by
  induction nodes generalizing level with
  | nil => rfl
  | cons node rest ih => simp [compileFrom_cons, ih]

theorem getElem?_compileFrom (table : Resolvers C) (level : Nat) (nodes : Definition) (i : Nat) :
    (compileFrom table level nodes).1[i]? =
      nodes[i]?.map (Node.step table (level + i) ((nodes.drop i).any Node.isRequired)) := by
  induction nodes generalizing level i with
  | nil => simp [compileFrom]
  | cons node rest ih =>
    rw [compileFrom_cons]
    cases i with
    | zero => rfl
    | succ i =>
      have hplace : level + (i + 1) = level + 1 + i := by omega
      rw [List.getElem?_cons_succ, List.getElem?_cons_succ, List.drop_succ_cons, hplace, ih]

theorem gather_nodes (table : Resolvers C) (level : Nat) (nodes : Definition) :
    (nodes.zipIdx level).reverse.foldl (gather table) ([], false) =
      ((compileFrom table level nodes).1.reverse, nodes.any Node.isRequired) := by
  -- By induction on the nodes from `level` on. What the pass has made when it reaches `level`
  -- are the steps of all these nodes, and its flag is theirs.
  induction nodes generalizing level with
  | nil => rfl
  | cons node rest ih =>
    rw [List.zipIdx_cons, List.reverse_cons, List.foldl_append, ih, compileFrom_cons]
    simp [gather, Node.step, Bool.or_comm]

/-- A plan counts the nodes and has as many steps. The step at a place is the one that serves the
node there: it has the number of the place, wants a space unless it is the first, fails at the end
of the command exactly if a literal or a required parameter is at this place or behind it, and does
what the node calls for. These are the steps of the pass from the last node to the first. -/
theorem plan_serves_nodes (d : Definition) (table : Resolvers C) :
    (d.compile table).nodeCount = d.length ∧ (d.compile table).steps.length = d.length ∧
      (∀ i (step : Step C), (d.compile table).steps[i]? = some step ↔ step.Serves d table i) ∧
      (d.compile table).steps =
        (d.zipIdx.reverse.foldl (gather table) ([], false)).1.reverse := by
  have hstep (i : Nat) : (d.compile table).steps[i]? =
      d[i]?.map (Node.step table i ((d.drop i).any Node.isRequired)) := by
    have hget := getElem?_compileFrom table 0 d i
    rwa [Nat.zero_add] at hget
  refine ⟨rfl, length_compileFrom table 0 d, fun i step => ?_, ?_⟩
  · rw [hstep, Option.map_eq_some_iff]
    constructor
    · rintro ⟨node, hnode, rfl⟩
      exact Node.step_serves hnode
    · intro h
      obtain ⟨node, hnode, -⟩ := h.action
      exact ⟨node, hnode, (Node.step_serves hnode).unique h⟩
  · rw [gather_nodes, List.reverse_reverse]
    rfl

example :
    (Definition.compile [.literal ["a"], .param ⟨"b", true, .choice ["x"]⟩,
        .param ⟨"c", false, .typename "word"⟩, .param ⟨"d", true, .typename "nope"⟩]
      (Resolvers.builtins : Resolvers Unit)).steps.map
        (fun step => (step.spaced, step.ending, step.action.kind)) =
      [(false, .early, "literal"), (true, .early, "optional choice"), (true, .early, "resolve"),
        (true, .complete, "missing resolver")] := by
  decide

end CommandGrammar
