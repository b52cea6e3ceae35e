import CommandGrammar.Proofs.Matching.Lockstep

/-!
# What a match needs of its table

A match looks up no other types than those of the definition, so tables that agree on them are as
good as the same. A table that holds more resolvers can only turn a missing one into a found one.
So every outcome stays as it was but the failure for a type that has a resolver now.
-/

set_option autoImplicit false

namespace CommandGrammar

variable {C : Type}

/-- What is registered in the first table is registered in the second one too, and the same. -/
def Resolvers.Extends (table' table : Resolvers C) : Prop :=
  ∀ type resolver, table.get? type = some resolver → table'.get? type = some resolver

theorem Resolvers.extends_register {table : Resolvers C} {name : String} (r : Resolver C)
    (h : table.get? name = none) : (table.register name r).Extends table := by
  intro type resolver ht
  rw [Resolvers.get?_register, if_neg]
  · exact ht
  · rintro rfl
    cases h.symm.trans ht

variable {table table' : Resolvers C} {context : C} {node : Node}

theorem attempt_congr (h : ∀ type, node.typeName? = some type → table.get? type = table'.get? type)
    (level : Nat) (start : Cursor) :
    node.attempt table context level start = node.attempt table' context level start := by
  match node with
  | .literal values => rfl
  | .param ⟨name, optional, .choice values⟩ => rfl
  | .param ⟨name, optional, .typename type⟩ => simp only [Node.attempt, h type rfl]

theorem Resolvers.Extends.attempt (h : table'.Extends table) (context : C) (node : Node)
    (level : Nat) (start : Cursor) :
    node.attempt table context level start = node.attempt table' context level start ∨
      ∃ type, table'.get? type ≠ none ∧
        node.attempt table context level start = .error (.unknownType level type) := by
  match node with
  | .literal values => exact .inl rfl
  | .param ⟨name, optional, .choice values⟩ => exact .inl rfl
  | .param ⟨name, optional, .typename type⟩ =>
    by_cases hsame : table.get? type = table'.get? type
    · left
      simp only [Node.attempt, hsame]
    · right
      cases ht : table.get? type with
      | some resolver => exact absurd (ht.trans (h type resolver ht).symm) hsame
      | none =>
        rw [ht] at hsame
        exact ⟨type, Ne.symm hsame, by simp only [Node.attempt, ht]⟩

/-- The second outcome is the first one, unless that is a failure for a type that is in the
table. -/
def Outcome.KeptBy (table' : Resolvers C) (outcome other : Outcome) : Prop :=
  (∀ n type, outcome = .error (.unknownType n type) → table'.get? type = none) → other = outcome

theorem Resolvers.Extends.parallel (h : table'.Extends table) (context : C) (node : Node) :
    node.Parallel (Outcome.KeptBy table') table table' context node := by
  refine ⟨rfl, fun level start => ?_⟩
  rcases h.attempt context node level start with hsame | ⟨type, ht, he⟩
  · exact .of_eq (fun _ _ => rfl) hsame
  · rw [he]
    exact .of_error fun _ hnone => absurd (hnone level type rfl) ht

/-- The result of either matcher depends only on the resolvers that the definition names. With a
table that holds more resolvers every result is the same, but for the failure for a type that is
registered there. -/
theorem match_depends_on_named_types (m : Matcher) (d : Definition) (context : C) (input : String)
    (table table' : Resolvers C) :
    ((∀ type ∈ d.typeNames, table.get? type = table'.get? type) →
      m.run d table context input = m.run d table' context input) ∧
    (table'.Extends table →
      ((∀ n type, m.run d table context input ≠ .error (.unknownType n type)) →
        m.run d table' context input = m.run d table context input) ∧
      ∀ n type, m.run d table context input = .error (.unknownType n type) →
        table'.get? type = none → m.run d table' context input = .error (.unknownType n type)) := by
  constructor
  · intro h
    apply m.run_parallel fun _ => rfl
    rw [List.forall₂_same]
    intro node hnode
    refine ⟨rfl, fun level start => .of_eq (fun _ => rfl) (attempt_congr ?_ level start)⟩
    intro type htype
    exact h type (List.mem_filterMap.2 ⟨node, hnode, htype⟩)
  · intro h
    have hkept : Outcome.KeptBy table' (m.run d table context input)
        (m.run d table' context input) := by
      apply m.run_parallel fun _ _ => rfl
      rw [List.forall₂_same]
      exact fun node _ => h.parallel context node
    constructor
    · intro hfound
      exact hkept fun n type he => absurd he (hfound n type)
    · intro n type he hnone
      rw [he] at hkept
      apply hkept
      intro k other hother
      cases hother
      exact hnone

theorem match_depends_on_named_types_roll :
    let d : Definition :=
      [.literal ["roll"], .param ⟨"times", true, .typename "number"⟩,
        .param ⟨"note", false, .typename "string"⟩]
    let small : Resolvers Unit := Resolvers.builtins
    let unnamed := small.register "color" Resolver.word
    let large := small.register "number" (Resolver.takingWhile Char.isDigit "Expected number")
    (∀ type ∈ d.typeNames, small.get? type = unnamed.get? type) ∧ large.Extends small ∧
      unnamed.Extends small ∧ unnamed.get? "number" = none ∧
      Matcher.compiled.run d large () "roll 3 dice" =
        .ok ⟨[("times", .str "3"), ("note", .str "dice")]⟩ ∧
      Matcher.compiled.run d small () "roll 3 dice" = .error (.unknownType 1 "number") ∧
      Matcher.compiled.run d small () "roll 3 dice" =
        Matcher.compiled.run d unnamed () "roll 3 dice" ∧
      Matcher.compiled.run d unnamed () "roll 3 dice" = .error (.unknownType 1 "number") ∧
      Matcher.compiled.run d small () "roll" = .error (.mismatch (.endAt 1)) ∧
      Matcher.compiled.run d large () "roll" = Matcher.compiled.run d small () "roll" := by
  intro d small unnamed large
  have hnamed : ∀ type ∈ d.typeNames, small.get? type = unnamed.get? type := by
    intro type htype
    rcases List.mem_pair.1 htype with rfl | rfl <;> rfl
  have hlarge : large.Extends small := Resolvers.extends_register _ rfl
  have hunnamed : unnamed.Extends small := Resolvers.extends_register _ rfl
  have hmissing : Matcher.compiled.run d small () "roll 3 dice" =
      .error (.unknownType 1 "number") := by
    rw [Matcher.run_eq_walk]
    rfl
  have hended : Matcher.compiled.run d small () "roll" = .error (.mismatch (.endAt 1)) := by
    rw [Matcher.run_eq_walk]
    rfl
  have hread : Matcher.compiled.run d large () "roll 3 dice" =
      .ok ⟨[("times", .str "3"), ("note", .str "dice")]⟩ := by
    rw [Matcher.run_eq_walk]
    rfl
  have hdice := match_depends_on_named_types .compiled d () "roll 3 dice" small unnamed
  have hroll := match_depends_on_named_types .compiled d () "roll" small large
  refine ⟨hnamed, hlarge, hunnamed, rfl, hread, hmissing, hdice.1 hnamed,
    (hdice.2 hunnamed).2 1 "number" hmissing rfl, hended, (hroll.2 hlarge).1 ?_⟩
  rw [hended]
  exact fun n type => nofun

end CommandGrammar
