import CommandGrammar.Proofs.Matching.Passage
import Mathlib.Data.List.Forall2

/-!
# Walks in lock step

Two definitions may differ in their nodes, and two tables in their resolvers. As long as every pair
of nodes is equally required and attempts the same from the same cursor, the two walks stay
together. Where the attempts differ, what the walks come to need only be related.
-/

set_option autoImplicit false

namespace CommandGrammar

/-- However two walks go on, their outcomes are related behind these attempts if they are behind
every attempt that the walks share. -/
def InStep (R : Outcome → Outcome → Prop) (x y : Except Failure Attempt) : Prop :=
  ∀ go go' : Attempt → Outcome, (∀ attempt, R (go attempt) (go' attempt)) →
    R (x >>= go) (y >>= go')

namespace InStep

variable {R : Outcome → Outcome → Prop} {x y : Except Failure Attempt}

theorem of_eq (hR : ∀ o, R o o) (h : x = y) : InStep R x y := by
  subst h
  intro go go' hgo
  cases x with
  | error failure => exact hR (.error failure)
  | ok attempt => exact hgo attempt

theorem of_errors {failure other : Failure} (h : R (.error failure) (.error other)) :
    InStep R (.error failure) (.error other) :=
  fun _ _ _ => h

theorem of_error {failure : Failure} (h : ∀ o, R (.error failure) o) :
    InStep R (.error failure) y :=
  fun _ go' _ => h (y >>= go')

end InStep

variable {C : Type}

/-- A node with the one table and a node with the other do the same, up to the relation. -/
structure Node.Parallel (R : Outcome → Outcome → Prop) (table table' : Resolvers C) (context : C)
    (node node' : Node) : Prop where
  required : node.isRequired = node'.isRequired
  attempts : ∀ level start, InStep R (node.attempt table context level start)
    (node'.attempt table' context level start)

variable {table table' : Resolvers C} {context : C} {R : Outcome → Outcome → Prop}
  {d d' : Definition}

theorem walk_cons_bind {level : Nat} {node : Node} {rest : Definition} {c : Cursor}
    {params : Params Json} (hr : c.remaining ≠ []) (hc : c.Opens level) :
    Definition.walk table context level (node :: rest) c params =
      node.attempt table context level (c.entry level) >>= fun attempt =>
        rest.walk table context (level + 1) (attempt.resume c) (attempt.capture params) := by
  cases ha : node.attempt table context level (c.entry level) with
  | error failure => rw [walk_cons_opens hr hc, ha]; rfl
  | ok attempt => exact walk_cons_through hr hc ha

theorem any_isRequired_eq (h : List.Forall₂ (Node.Parallel R table table' context) d d') :
    d.any Node.isRequired = d'.any Node.isRequired := by
  induction h with
  | nil => rfl
  | cons hnode _ ih => rw [List.any_cons, List.any_cons, hnode.required, ih]

theorem walk_parallel (hR : ∀ o, R o o)
    (h : List.Forall₂ (Node.Parallel R table table' context) d d') (level : Nat) (c : Cursor)
    (params : Params Json) :
    R (d.walk table context level c params) (d'.walk table' context level c params) := by
  -- By induction on the nodes. The cursors and the parameters of the two walks are the same up
  -- to the place where their attempts part, and there the relation holds already.
  induction h generalizing level c params with
  | nil =>
    rw [walk_nil, walk_nil]
    exact hR _
  | @cons node node' rest rest' hnode hrest ih =>
    by_cases hr : c.remaining = []
    · rw [walk_cons_end hr, walk_cons_end hr, any_isRequired_eq (.cons hnode hrest)]
      exact hR _
    · by_cases hc : c.Opens level
      · rw [walk_cons_bind hr hc, walk_cons_bind hr hc]
        exact hnode.attempts level _ _ _ fun attempt => ih _ _ _
      · obtain ⟨found, hfound, -, hwalk⟩ := walk_cons_closed table context hr hc
        obtain ⟨found', hfound', -, hwalk'⟩ := walk_cons_closed table' context hr hc
        cases hfound.symm.trans hfound'
        rw [hwalk, hwalk']
        exact hR _

theorem Matcher.run_parallel (hR : ∀ o, R o o)
    (h : List.Forall₂ (Node.Parallel R table table' context) d d') (m : Matcher) (input : String) :
    R (m.run d table context input) (m.run d' table' context input) := by
  rw [Matcher.run_eq_walk, Matcher.run_eq_walk]
  exact walk_parallel hR h 0 _ _

end CommandGrammar
