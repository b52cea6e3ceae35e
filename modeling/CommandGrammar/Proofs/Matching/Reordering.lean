import CommandGrammar.Proofs.Matching.Lockstep

/-!
# The order of alternatives

The alternatives of a node may be declared in any order. Of those that stand at a cursor the
longest is taken, so equally long ones take the same text off the command. A literal shows nothing
more of its choice. A choice captures the spelling, so there equally long alternatives must not
differ in their case alone. The order is seen only where a failure lists the alternatives.
-/

set_option autoImplicit false

namespace CommandGrammar

theorem longestAt_perm (c : Cursor) {values values' : List String} (h : values.Perm values') :
    longestAt c values = none ∧ longestAt c values' = none ∨
      ∃ v ∈ values, ∃ w ∈ values, longestAt c values = some v ∧ longestAt c values' = some w ∧
        v.length = w.length ∧ Text.lower v.toList = Text.lower w.toList := by
  cases hv : longestAt c values with
  | none =>
    left
    apply And.intro rfl
    rw [longestAt_none_iff] at hv ⊢
    intro w hw
    exact hv w (h.mem_iff.2 hw)
  | some v =>
    right
    obtain ⟨hmem, hstands, hmax⟩ := stands_of_longestAt hv
    cases hw : longestAt c values' with
    | none => exact absurd hstands (longestAt_none_iff.1 hw v (h.mem_iff.1 hmem))
    | some w =>
      obtain ⟨hmem', hstands', hmax'⟩ := stands_of_longestAt hw
      have hlength : v.length = w.length :=
        Nat.le_antisymm (hmax' v (h.mem_iff.1 hmem) hstands)
          (hmax w (h.mem_iff.2 hmem') hstands')
      have hlower : Text.lower v.toList = Text.lower w.toList := by
        rw [← hstands, ← hstands', hlength]
      exact ⟨v, hmem, w, h.mem_iff.2 hmem', rfl, rfl, hlength, hlower⟩

/-- No two equally long alternatives differ in their case alone. -/
def CaseDistinct (values : List String) : Prop :=
  ∀ v ∈ values, ∀ w ∈ values, v.length = w.length →
    Text.lower v.toList = Text.lower w.toList → v = w

instance (values : List String) : Decidable (CaseDistinct values) :=
  inferInstanceAs (Decidable (∀ v ∈ values, ∀ w ∈ values, v.length = w.length →
    Text.lower v.toList = Text.lower w.toList → v = w))

inductive Node.Reordered : Node → Node → Prop
  | same (node : Node) : Reordered node node
  | literal {values values' : List String} (h : values.Perm values') :
      Reordered (.literal values) (.literal values')
  | choice (name : String) (optional : Bool) {values values' : List String}
      (h : values.Perm values') (hd : CaseDistinct values) :
      Reordered (.param ⟨name, optional, .choice values⟩) (.param ⟨name, optional, .choice values'⟩)

/-- The same parameters, or the same failure but for the order in which it lists the
alternatives. -/
inductive Outcome.Relisted : Outcome → Outcome → Prop
  | same (outcome : Outcome) : Relisted outcome outcome
  | listing (level : Nat) (found : String) {values values' : List String}
      (h : values.Perm values') :
      Relisted (.error (.mismatch ⟨level, .alternatives (joinAlternatives values) found⟩))
        (.error (.mismatch ⟨level, .alternatives (joinAlternatives values') found⟩))

variable {C : Type} {context : C}

theorem Node.Reordered.parallel {node node' : Node} (h : node.Reordered node')
    (table : Resolvers C) : node.Parallel Outcome.Relisted table table context node' := by
  cases h with
  | same => exact ⟨rfl, fun level start => .of_eq .same rfl⟩
  | literal h =>
    refine ⟨rfl, fun level start => ?_⟩
    rcases longestAt_perm start h with ⟨hv, hw⟩ | ⟨v, -, w, -, hv, hw, hlength, -⟩
    · simp only [Node.attempt, hv, hw]
      exact .of_errors (.listing level _ h)
    · simp only [Node.attempt, hv, hw, hlength]
      exact .of_eq .same rfl
  | choice name optional h hd =>
    refine ⟨rfl, fun level start => ?_⟩
    rcases longestAt_perm start h with ⟨hv, hw⟩ | ⟨v, hmem, w, hmem', hv, hw, hlength, hlower⟩
    · simp only [Node.attempt, hv, hw]
      cases optional with
      | true => exact .of_eq .same rfl
      | false => exact .of_errors (.listing level _ h)
    · obtain rfl : v = w := hd v hmem w hmem' hlength hlower
      simp only [Node.attempt, hv, hw]
      exact .of_eq .same rfl

/-- The order in which alternatives are declared does not matter to either matcher: the parameters
are the same, and so are the failures, their kind and their level, but for a list of
alternatives. -/
theorem order_of_alternatives (m : Matcher) (d d' : Definition)
    (h : List.Forall₂ Node.Reordered d d') (table : Resolvers C) (context : C) (input : String) :
    Outcome.Relisted (m.run d table context input) (m.run d' table context input) :=
  m.run_parallel .same (h.imp fun _ _ hnode => hnode.parallel table) input

theorem order_of_alternatives_rm :
    let d : Definition :=
      [.literal ["rm", "RM", "remove"], .param ⟨"mode", false, .choice ["on", "off", "o"]⟩]
    let d' : Definition :=
      [.literal ["remove", "RM", "rm"], .param ⟨"mode", false, .choice ["o", "off", "on"]⟩]
    List.Forall₂ Node.Reordered d d' ∧
      Matcher.direct.run d Resolvers.builtins () "rM xo" =
        .error (.mismatch ⟨1, .alternatives "on or off or o" "xo"⟩) ∧
      Matcher.direct.run d' Resolvers.builtins () "rM xo" =
        .error (.mismatch ⟨1, .alternatives "o or off or on" "xo"⟩) ∧
      Outcome.Relisted (Matcher.direct.run d Resolvers.builtins () "rM xo")
        (Matcher.direct.run d' Resolvers.builtins () "rM xo") := by
  intro d d'
  have h : List.Forall₂ Node.Reordered d d' :=
    .cons (.literal (by decide))
      (.cons (.choice "mode" false (by decide) (by decide +kernel)) .nil)
  exact ⟨h, rfl, rfl, order_of_alternatives .direct d d' h Resolvers.builtins () "rM xo"⟩

example : longestAt (Cursor.ofString "On") ["on", "ON"] = some "on" ∧
    longestAt (Cursor.ofString "On") ["ON", "on"] = some "ON" := by
  decide +kernel

end CommandGrammar
