import CommandGrammar.Proofs.Matching.Compiled
import CommandGrammar.Proofs.Matching.Walk

/-!
# Types without a resolver

A match fails for a missing resolver only at a node whose type has none in the table. The node
is the one that the failure names, and it may be an optional one. So a definition whose types
are all registered never fails this way.
-/

set_option autoImplicit false

namespace CommandGrammar

variable {C : Type} {table : Resolvers C} {context : C}

theorem unknownType_of_attempt {level n : Nat} {type : String} {c : Cursor} {node : Node}
    (h : node.attempt table context level c = .error (.unknownType n type)) :
    n = level ∧ node.typeName? = some type ∧ table.get? type = none := by
  rcases attempt_error h with
    ⟨other, htype, hnone, he⟩ | ⟨-, ⟨values, he⟩ | ⟨other, resolver, e, -, -, -, he⟩⟩
  · cases he
    exact ⟨rfl, htype, hnone⟩
  · cases he
  · cases he

theorem unknownType_of_walk {level n : Nat} {type : String} {d : Definition} {c : Cursor}
    {params : Params Json} (h : d.walk table context level c params = .error (.unknownType n type)) :
    ∃ i node, n = level + i ∧ d[i]? = some node ∧ node.typeName? = some type ∧
      table.get? type = none := by
  induction d generalizing level c params with
  | nil =>
    rw [walk_nil] at h
    split at h <;> cases h
  | cons first rest ih =>
    rcases walk_cons_error h with ⟨-, -, he⟩ | ⟨_, -, -, he⟩ |
      ⟨-, -, hattempt | ⟨-, hrest⟩ | ⟨_, _, -, hrest⟩⟩
    · cases he
    · cases he
    · obtain ⟨hn, htype, hnone⟩ := unknownType_of_attempt hattempt
      exact ⟨0, first, hn, rfl, htype, hnone⟩
    all_goals
      obtain ⟨i, node, hn, hnode, htype, hnone⟩ := ih hrest
      exact ⟨i + 1, node, by omega, by simpa using hnode, htype, hnone⟩

def Definition.Resolved (d : Definition) (table : Resolvers C) : Prop :=
  ∀ type ∈ d.typeNames, table.contains type = true

instance (d : Definition) (table : Resolvers C) : Decidable (d.Resolved table) :=
  inferInstanceAs (Decidable (∀ type ∈ d.typeNames, table.contains type = true))

theorem Definition.Resolved.walk_ne {d : Definition} (hd : d.Resolved table) (level n : Nat)
    (type : String) (c : Cursor) (params : Params Json) :
    d.walk table context level c params ≠ .error (.unknownType n type) := by
  intro h
  obtain ⟨i, node, -, hnode, htype, hnone⟩ := unknownType_of_walk h
  have hmem : type ∈ d.typeNames :=
    List.mem_filterMap.2 ⟨node, List.mem_of_getElem? hnode, htype⟩
  have hfound := hd type hmem
  rw [Resolvers.contains, hnone] at hfound
  cases hfound

end CommandGrammar
