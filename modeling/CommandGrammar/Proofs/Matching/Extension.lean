import CommandGrammar.Proofs.Matching.Passage

/-!
# Definitions with more nodes at the end

Nodes that are added behind a definition are reached only if the command goes on behind it. So a
command that failed before fails as before, and one that matched still matches if all the new
nodes are optional. If one of them must be there, the command ends too early, at the node where
it was used up.
-/

set_option autoImplicit false

namespace CommandGrammar

variable {C : Type} {table : Resolvers C} {context : C} {input : String} {pre : Definition}

theorem ended_of_walk_ok {params : Params Json}
    (h : pre.walk table context 0 (Cursor.ofString input) Params.empty = .ok params) :
    ∃ k c, pre.Reaches table context input k c params ∧ c.remaining = [] ∧
      (pre.drop k).any Node.isRequired = false := by
  rcases pre.reaches_stop table context input with
    ⟨c, held, hreach⟩ | ⟨k, node, rest, c, held, hdrop, hreach, hstop⟩
  · rw [hreach.walk_eq, List.drop_length, walk_nil] at h
    split at h
    · cases h
      exact ⟨pre.length, c, hreach, ‹_›, by simp⟩
    · cases h
  · rw [hreach.walk_eq] at h
    by_cases hr : c.remaining = []
    · rw [walk_ended _ hr] at h
      cases hany : (pre.drop k).any Node.isRequired with
      | true => simp [hany] at h
      | false =>
        rw [hany] at h
        cases h
        exact ⟨k, c, hreach, hr, hany⟩
    · obtain ⟨failure, hfail⟩ := hstop.walk_cons hr
      rw [hdrop, hfail] at h
      cases h

end CommandGrammar
