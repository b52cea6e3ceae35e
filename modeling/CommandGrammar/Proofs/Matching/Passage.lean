import CommandGrammar.Proofs.Matching.Compiled
import CommandGrammar.Proofs.Matching.Walk

/-!
# How far a walk gets

A walk goes through some nodes of a definition and stops behind the last of them, or at a node
before which the command is used up or the space is missing, or which fails itself. What the
walk went through does not depend on the nodes that follow. They only say what the end of the
command means.
-/

set_option autoImplicit false

namespace CommandGrammar

variable {C : Type}

/-- The two ways to match a command: node by node, or by the steps of a plan. -/
inductive Matcher where
  | direct
  | compiled
  deriving DecidableEq, Repr

def Matcher.run (m : Matcher) (d : Definition) (table : Resolvers C) (context : C)
    (input : String) : Outcome :=
  match m with
  | direct => d.interpret input table context
  | compiled => (d.compile table).run input context

theorem Matcher.run_eq_walk (m : Matcher) (d : Definition) (table : Resolvers C) (context : C)
    (input : String) :
    m.run d table context input =
      d.walk table context 0 (Cursor.ofString input) Params.empty := by
  cases m with
  | direct => rfl
  | compiled => exact run_compile_eq_walk d table context input

namespace Attempt

def resume (c : Cursor) : Attempt → Cursor
  | advanced next _ => next
  | skipped => c

def capture (params : Params Json) : Attempt → Params Json
  | advanced _ captured => params.capture captured
  | skipped => params

end Attempt

/-- From a cursor on the walk goes through all of these nodes. At each of them some of the
command is left. -/
inductive Passes (table : Resolvers C) (context : C) :
    Nat → Definition → Cursor → Params Json → Cursor → Params Json → Prop
  | done {level : Nat} {c : Cursor} {params : Params Json} :
      Passes table context level [] c params c params
  | through {level : Nat} {node : Node} {rest : Definition} {c stop : Cursor}
      {params captured : Params Json} {attempt : Attempt} (hr : c.remaining ≠ [])
      (hc : c.Opens level)
      (ha : node.attempt table context level (c.entry level) = .ok attempt)
      (h : Passes table context (level + 1) rest (attempt.resume c) (attempt.capture params)
        stop captured) :
      Passes table context level (node :: rest) c params stop captured

/-- Why a walk gets no further than a node: the command ends before it, the space before it is
missing, or the node fails. -/
inductive Stops (table : Resolvers C) (context : C) (level : Nat) (node : Node) (c : Cursor) :
    Prop
  | ended (hr : c.remaining = [])
  | closed (hr : c.remaining ≠ []) (hc : ¬ c.Opens level)
  | failed {failure : Failure} (hr : c.remaining ≠ []) (hc : c.Opens level)
      (ha : node.attempt table context level (c.entry level) = .error failure)

/-- The walk of a definition comes to its node `k`, or behind its last node, with a rest of the
command and the parameters that were captured on the way. -/
def Definition.Reaches (d : Definition) (table : Resolvers C) (context : C) (input : String)
    (k : Nat) (c : Cursor) (params : Params Json) : Prop :=
  k ≤ d.length ∧
    Passes table context 0 (d.take k) (Cursor.ofString input) Params.empty c params

/-- Nothing of the command is left when the walk comes to node `k`. -/
def Definition.UsesUp (d : Definition) (table : Resolvers C) (context : C) (input : String)
    (k : Nat) : Prop :=
  ∃ c params, d.Reaches table context input k c params ∧ c.remaining = []

/-- The walk goes through all nodes and this text of the command is left. -/
def Definition.Leaves (d : Definition) (table : Resolvers C) (context : C) (input : String)
    (text : List Char) : Prop :=
  text ≠ [] ∧ ∃ c params, d.Reaches table context input d.length c params ∧ c.remaining = text

variable {table : Resolvers C} {context : C} {level : Nat} {node : Node} {c stop : Cursor}
  {params captured : Params Json}

theorem walk_cons_through {rest : Definition} {attempt : Attempt} (hr : c.remaining ≠ [])
    (hc : c.Opens level)
    (ha : node.attempt table context level (c.entry level) = .ok attempt) :
    Definition.walk table context level (node :: rest) c params =
      rest.walk table context (level + 1) (attempt.resume c) (attempt.capture params) := by
  rw [walk_cons_opens hr hc, ha]
  cases attempt <;> rfl

theorem walk_ended (d : Definition) (hr : c.remaining = []) :
    d.walk table context level c params =
      if d.any Node.isRequired then .error (.mismatch (.endAt level)) else .ok params := by
  cases d with
  | nil => exact walk_nil.trans (if_pos hr)
  | cons node rest => exact walk_cons_end hr

theorem Passes.walk_append {pre : Definition}
    (h : Passes table context level pre c params stop captured) (post : Definition) :
    Definition.walk table context level (pre ++ post) c params =
      post.walk table context (level + pre.length) stop captured := by
  induction h with
  | done => rfl
  | through hr hc ha _ ih =>
    rw [List.cons_append, walk_cons_through hr hc ha, ih, List.length_cons, Nat.add_assoc,
      Nat.add_comm 1]

theorem Passes.unique {d : Definition} {other : Cursor} {held : Params Json}
    (h : Passes table context level d c params stop captured)
    (h' : Passes table context level d c params other held) : stop = other ∧ captured = held := by
  induction h with
  | done =>
    cases h'
    exact ⟨rfl, rfl⟩
  | through _ _ ha _ ih =>
    cases h' with
    | through _ _ ha' hrest =>
      cases ha.symm.trans ha'
      exact ih hrest

theorem Passes.met {d : Definition} (h : Passes table context level d c params stop captured)
    {j : Nat} (hj : j < d.length) :
    ∃ met held, Passes table context level (d.take j) c params met held ∧ met.remaining ≠ [] := by
  induction h generalizing j with
  | done => cases hj
  | through hr hc ha _ ih =>
    cases j with
    | zero => exact ⟨_, _, .done, hr⟩
    | succ j =>
      obtain ⟨met, held, hpass, hmet⟩ := ih (Nat.lt_of_succ_lt_succ hj)
      exact ⟨met, held, .through hr hc ha hpass, hmet⟩

theorem passes_or_stops (table : Resolvers C) (context : C) (level : Nat) (d : Definition)
    (c : Cursor) (params : Params Json) :
    (∃ stop captured, Passes table context level d c params stop captured) ∨
      ∃ pre node post stop captured, d = pre ++ node :: post ∧
        Passes table context level pre c params stop captured ∧
        Stops table context (level + pre.length) node stop := by
  induction d generalizing level c params with
  | nil => exact .inl ⟨c, params, .done⟩
  | cons first rest ih =>
    have here (hstop : Stops table context level first c) :
        ∃ pre node post stop captured, first :: rest = pre ++ node :: post ∧
          Passes table context level pre c params stop captured ∧
          Stops table context (level + pre.length) node stop :=
      ⟨[], first, rest, c, params, rfl, .done, hstop⟩
    by_cases hr : c.remaining = []
    · exact .inr (here (.ended hr))
    · by_cases hc : c.Opens level
      · cases ha : first.attempt table context level (c.entry level) with
        | error failure => exact .inr (here (.failed hr hc ha))
        | ok attempt =>
          rcases ih (level + 1) (attempt.resume c) (attempt.capture params) with
            ⟨stop, captured, hpass⟩ | ⟨pre, node, post, stop, captured, rfl, hpass, hstop⟩
          · exact .inl ⟨stop, captured, .through hr hc ha hpass⟩
          · rw [Nat.add_assoc, Nat.add_comm 1, ← List.length_cons (a := first)] at hstop
            exact .inr ⟨first :: pre, node, post, stop, captured, rfl,
              .through hr hc ha hpass, hstop⟩
      · exact .inr (here (.closed hr hc))

theorem Stops.walk_cons (h : Stops table context level node c) (hr : c.remaining ≠ []) :
    ∃ failure, ∀ post params,
      Definition.walk table context level (node :: post) c params = .error failure := by
  cases h with
  | ended he => exact absurd he hr
  | closed _ hc =>
    obtain ⟨found, -, -, hwalk⟩ := walk_cons_closed table context hr hc
    exact ⟨_, hwalk node⟩
  | failed _ hc ha =>
    exact ⟨_, fun post params => by rw [walk_cons_opens hr hc, ha]⟩

namespace Definition

variable {d : Definition} {input : String} {k : Nat}

theorem Reaches.walk_eq (h : d.Reaches table context input k c params) :
    d.walk table context 0 (Cursor.ofString input) Params.empty =
      walk table context k (d.drop k) c params := by
  have hwalk := h.2.walk_append (d.drop k)
  rwa [List.take_append_drop, List.length_take, Nat.min_eq_left h.1, Nat.zero_add] at hwalk

theorem reaches_append {pre post : Definition} (hk : k ≤ pre.length) :
    Reaches (pre ++ post) table context input k c params ↔
      pre.Reaches table context input k c params := by
  have hlen : k ≤ (pre ++ post).length := by
    rw [List.length_append]
    omega
  simp only [Reaches, hk, hlen, true_and, List.take_append_of_le_length hk]

theorem Reaches.before (h : d.Reaches table context input k c params) {j : Nat} (hj : j < k) :
    ∃ met held, d.Reaches table context input j met held ∧ met.remaining ≠ [] := by
  have hlen : j < (d.take k).length := by
    rw [List.length_take, Nat.min_eq_left h.1]
    exact hj
  obtain ⟨met, held, hpass, hmet⟩ := h.2.met hlen
  rw [List.take_take, Nat.min_eq_left (Nat.le_of_lt hj)] at hpass
  exact ⟨met, held, ⟨Nat.le_trans (Nat.le_of_lt hj) h.1, hpass⟩, hmet⟩

theorem Leaves.walk_eq {text : List Char} (h : d.Leaves table context input text) :
    d.walk table context 0 (Cursor.ofString input) Params.empty =
      .error (.mismatch ⟨d.length, .leftover (String.ofList text)⟩) := by
  obtain ⟨hne, c, params, hreach, rfl⟩ := h
  rw [hreach.walk_eq, List.drop_length, walk_nil, if_neg hne]
  rfl

theorem UsesUp.walk_eq (h : d.UsesUp table context input k)
    (hd : (d.drop k).any Node.isRequired = true) :
    d.walk table context 0 (Cursor.ofString input) Params.empty = .error (.mismatch (.endAt k)) := by
  obtain ⟨c, params, hreach, hr⟩ := h
  rw [hreach.walk_eq, walk_ended _ hr, if_pos hd]

theorem reaches_stop (d : Definition) (table : Resolvers C) (context : C) (input : String) :
    (∃ c params, d.Reaches table context input d.length c params) ∨
      ∃ k node rest c params, d.drop k = node :: rest ∧
        d.Reaches table context input k c params ∧ Stops table context k node c := by
  rcases passes_or_stops table context 0 d (Cursor.ofString input) Params.empty with
    ⟨c, params, hpass⟩ | ⟨pre, node, post, c, params, rfl, hpass, hstop⟩
  · exact .inl ⟨c, params, Nat.le_refl _, by rwa [List.take_length]⟩
  · rw [Nat.zero_add] at hstop
    refine .inr ⟨pre.length, node, post, c, params, List.drop_left, ⟨by simp, ?_⟩, hstop⟩
    rwa [List.take_left]

end Definition

end CommandGrammar
