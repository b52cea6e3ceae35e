import CommandGrammar.Catalog
import CommandGrammar.Proofs.Matching.Compiled
import Mathlib.Algebra.Order.Monoid.Unbundled.WithTop

/-!
# Which command answers

The commands of a catalog are tried in their order. The first one that does not merely miss
decides: it matches, or it names a type without a resolver. If all of them miss, the answer is
the miss that got furthest, the earliest of these. The search keeps, of the commands tried so
far, the one that would be the answer if no other followed.
-/

set_option autoImplicit false

namespace CommandGrammar

abbrev Tried := String × Outcome

def Tried.Misses (t : Tried) : Prop :=
  ∃ e, t.2 = .error (.mismatch e)

def Tried.MissesBelow (bound : Nat) (t : Tried) : Prop :=
  ∃ e, t.2 = .error (.mismatch e) ∧ e.level < bound

/-- The answer that the results of all commands, in their order, call for. -/
inductive Verdict : List Tried → Except DispatchFailure Dispatch → Prop
  | empty : Verdict [] (.error .empty)
  | matched {before after : List Tried} {name : String} {params : Params Json}
      (hb : ∀ t ∈ before, t.Misses) :
      Verdict (before ++ (name, .ok params) :: after) (.ok ⟨name, params⟩)
  | fatal {before after : List Tried} {name : String} {level : Nat} {type : String}
      (hb : ∀ t ∈ before, t.Misses) :
      Verdict (before ++ (name, .error (.unknownType level type)) :: after)
        (.error (.fatal name (.unknownType level type)))
  | closest {before after : List Tried} {name : String} {e : Mismatch}
      (hb : ∀ t ∈ before, t.MissesBelow e.level)
      (ha : ∀ t ∈ after, t.MissesBelow (e.level + 1)) :
      Verdict (before ++ (name, .error (.mismatch e)) :: after) (.error (.noMatch name e))

/-- What the search holds after some commands, all of which missed. -/
inductive Leads : List Tried → Option (String × Mismatch) → Prop
  | nobody : Leads [] none
  | leader {before after : List Tried} {name : String} {e : Mismatch}
      (hb : ∀ t ∈ before, t.MissesBelow e.level)
      (ha : ∀ t ∈ after, t.MissesBelow (e.level + 1)) :
      Leads (before ++ (name, .error (.mismatch e)) :: after) (some (name, e))

theorem Tried.MissesBelow.mono {t : Tried} {m n : Nat} (h : t.MissesBelow m) (hmn : m ≤ n) :
    t.MissesBelow n := by
  obtain ⟨e, he, hlevel⟩ := h
  exact ⟨e, he, by omega⟩

theorem Tried.MissesBelow.misses {t : Tried} {n : Nat} (h : t.MissesBelow n) : t.Misses :=
  h.imp fun _ he => he.1

theorem Leads.misses {done : List Tried} {closest : Option (String × Mismatch)}
    (h : Leads done closest) : ∀ t ∈ done, t.Misses := by
  cases h with
  | nobody => simp
  | @leader before after name e hb ha =>
    intro t ht
    rcases List.mem_append.1 ht with ht | ht
    · exact (hb t ht).misses
    · rcases List.mem_cons.1 ht with rfl | ht
      · exact ⟨e, rfl⟩
      · exact (ha t ht).misses

theorem Leads.further {done : List Tried} {closest : Option (String × Mismatch)}
    (h : Leads done closest) (name : String) (e : Mismatch) :
    Leads (done ++ [(name, .error (.mismatch e))]) (Catalog.further closest name e) := by
  cases h with
  | nobody =>
    have halone : Leads ([] ++ [(name, .error (.mismatch e))]) (some (name, e)) :=
      .leader (by simp) (by simp)
    exact halone
  | @leader before after first e₀ hb ha =>
    by_cases hlt : e₀.level < e.level
    -- All that fell short of `e₀` or came up to it falls short of `e`.
    · have hnew : Catalog.further (some (first, e₀)) name e = some (name, e) := by
        simp [Catalog.further, hlt]
      rw [hnew]
      apply Leads.leader _ (by simp)
      intro t ht
      rcases List.mem_append.1 ht with ht | ht
      · exact (hb t ht).mono hlt.le
      · rcases List.mem_cons.1 ht with rfl | ht
        · exact ⟨e₀, rfl, hlt⟩
        · exact (ha t ht).mono hlt
    · have hkept : Catalog.further (some (first, e₀)) name e = some (first, e₀) := by
        simp [Catalog.further, hlt]
      rw [hkept, List.append_assoc, List.cons_append]
      apply Leads.leader hb
      intro t ht
      rcases List.mem_append.1 ht with ht | ht
      · exact ha t ht
      · obtain rfl := List.mem_singleton.1 ht
        exact ⟨e, rfl, by omega⟩

variable {C : Type}

def tryAll (input : String) (context : C) (commands : List (Command C)) : List Tried :=
  commands.map fun command => (command.name, command.plan.run input context)

theorem dispatchFrom_verdict (input : String) (context : C) (commands : List (Command C))
    {done : List Tried} {closest : Option (String × Mismatch)} (h : Leads done closest) :
    Verdict (done ++ tryAll input context commands)
      (Catalog.dispatchFrom input context commands closest) := by
  induction commands generalizing done closest with
  | nil =>
    rw [tryAll, List.map_nil, List.append_nil]
    cases h with
    | nobody => exact .empty
    | leader hb ha => exact .closest hb ha
  | cons command rest ih =>
    rw [tryAll, List.map_cons, Catalog.dispatchFrom]
    cases command.plan.run input context with
    | ok params => exact .matched h.misses
    | error failure =>
      cases failure with
      | mismatch e =>
        have hrest := ih (h.further command.name e)
        rwa [List.append_assoc] at hrest
      | unknownType level type => exact .fatal h.misses

theorem Catalog.dispatch_verdict (s : Catalog C) (input : String) (context : C) :
    Verdict (tryAll input context s.commands) (s.dispatch input context) :=
  dispatchFrom_verdict input context s.commands .nobody

/-- How far a command got. One that does not miss got furthest of all. -/
def Tried.rank (t : Tried) : WithTop Nat :=
  match t.2 with
  | .error (.mismatch e) => (e.level : Nat)
  | _ => ⊤

def Tried.answer : Tried → Except DispatchFailure Dispatch
  | (name, .ok params) => .ok ⟨name, params⟩
  | (name, .error (.mismatch e)) => .error (.noMatch name e)
  | (name, .error e) => .error (.fatal name e)

theorem Tried.MissesBelow.rank_lt {t : Tried} {n : Nat} (h : t.MissesBelow n) :
    t.rank < (n : Nat) := by
  obtain ⟨e, he, hlevel⟩ := h
  rw [Tried.rank, he]
  exact WithTop.coe_lt_coe.2 hlevel

theorem Tried.Misses.rank_lt_top {t : Tried} (h : t.Misses) : t.rank < ⊤ := by
  obtain ⟨e, he⟩ := h
  rw [Tried.rank, he]
  exact WithTop.coe_lt_top _

theorem eq_or_mem_of_append_cons {α : Type} {x y : α} {before before' after after' : List α}
    (h : before ++ x :: after = before' ++ y :: after') :
    x = y ∨ (x ∈ before' ∧ y ∈ after) ∨ (y ∈ before ∧ x ∈ after') := by
  rcases List.append_eq_append_iff.1 h with ⟨between, rfl, hx⟩ | ⟨between, rfl, hy⟩
  · cases between with
    | nil => exact .inl (List.cons.inj hx).1
    | cons z between =>
      obtain ⟨rfl, rfl⟩ := List.cons.inj hx
      exact .inr (.inl ⟨by simp, by simp⟩)
  · cases between with
    | nil => exact .inl (List.cons.inj hy).1.symm
    | cons z between =>
      obtain ⟨rfl, rfl⟩ := List.cons.inj hy
      exact .inr (.inr ⟨by simp, by simp⟩)

namespace Verdict

variable {tried : List Tried} {answer other : Except DispatchFailure Dispatch}

theorem decider (h : Verdict tried answer) :
    (tried = [] ∧ answer = .error .empty) ∨
      ∃ before t after, tried = before ++ t :: after ∧ answer = t.answer ∧
        (∀ u ∈ before, u.rank < t.rank) ∧ ∀ u ∈ after, u.rank ≤ t.rank := by
  cases h with
  | empty => exact .inl ⟨rfl, rfl⟩
  | matched hb => exact .inr ⟨_, _, _, rfl, rfl, fun u hu => (hb u hu).rank_lt_top, fun _ _ => le_top⟩
  | fatal hb => exact .inr ⟨_, _, _, rfl, rfl, fun u hu => (hb u hu).rank_lt_top, fun _ _ => le_top⟩
  | closest hb ha =>
    refine .inr ⟨_, _, _, rfl, rfl, fun u hu => (hb u hu).rank_lt, fun u hu => ?_⟩
    obtain ⟨e', he, hlevel⟩ := ha u hu
    rw [Tried.rank, he]
    exact WithTop.coe_le_coe.2 (Nat.le_of_lt_succ hlevel)

theorem unique (h : Verdict tried answer) (h' : Verdict tried other) : answer = other := by
  rcases h.decider with ⟨rfl, rfl⟩ | ⟨before, t, after, rfl, rfl, hb, ha⟩
  · rcases h'.decider with ⟨-, rfl⟩ | ⟨before, t, after, heq, -⟩
    · rfl
    · simp at heq
  · rcases h'.decider with ⟨heq, -⟩ | ⟨before', t', after', heq, rfl, hb', ha'⟩
    · simp at heq
    · rcases eq_or_mem_of_append_cons heq with rfl | ⟨ht, ht'⟩ | ⟨ht', ht⟩
      · rfl
      · exact absurd (ha t' ht') (hb' t ht).not_ge
      · exact absurd (ha' t ht) (hb t' ht').not_ge

theorem empty_iff (h : Verdict tried answer) : answer = .error .empty ↔ tried = [] := by
  cases h <;> simp

theorem fatal_mem {name : String} {e : Failure} (h : Verdict tried (.error (.fatal name e))) :
    ∃ level type, e = .unknownType level type ∧ (name, .error e) ∈ tried := by
  cases h with
  | @fatal before after _ level type hb => exact ⟨level, type, rfl, by simp⟩

end Verdict

structure Offer (C : Type) where
  name : String
  definition : Definition
  table : Resolvers C

def Catalog.ofOffers (offers : List (Offer C)) : Catalog C :=
  offers.foldl (fun s o => s.add o.name o.definition o.table) Catalog.empty

theorem tryAll_add (input : String) (context : C) (s : Catalog C) (o : Offer C) :
    tryAll input context (s.add o.name o.definition o.table).commands =
      tryAll input context s.commands ++
        [(o.name, o.definition.interpret input o.table context)] := by
  simp [tryAll, Catalog.add, run_compile_eq_walk, Definition.interpret]

theorem tryAll_foldl_add (input : String) (context : C) (offers : List (Offer C))
    (s : Catalog C) :
    tryAll input context
        (offers.foldl (fun s o => s.add o.name o.definition o.table) s).commands =
      tryAll input context s.commands ++
        offers.map fun o => (o.name, o.definition.interpret input o.table context) := by
  induction offers generalizing s with
  | nil => simp
  | cons o rest ih =>
    rw [List.foldl_cons, ih, tryAll_add, List.append_assoc]
    rfl

theorem tryAll_ofOffers (input : String) (context : C) (offers : List (Offer C)) :
    tryAll input context (Catalog.ofOffers offers).commands =
      offers.map fun o => (o.name, o.definition.interpret input o.table context) :=
  tryAll_foldl_add input context offers Catalog.empty

/-- The answer of a catalog that was filled one command after the other, each with the resolvers
of its own moment, is the one that the direct matches of its definitions call for. -/
theorem dispatch_eq_iff_verdict (offers : List (Offer C)) (input : String) (context : C)
    (answer : Except DispatchFailure Dispatch) :
    (Catalog.ofOffers offers).dispatch input context = answer ↔
      Verdict (offers.map fun o => (o.name, o.definition.interpret input o.table context))
        answer := by
  have hv := (Catalog.ofOffers offers).dispatch_verdict input context
  rw [tryAll_ofOffers] at hv
  constructor
  · rintro rfl
    exact hv
  · exact hv.unique

example :
    (Catalog.ofOffers [⟨"ping", [.literal ["ping"]], Resolvers.builtins⟩,
        ⟨"pong", [.literal ["pong"]], Resolvers.empty⟩]).dispatch "pang" () =
      .error (.noMatch "ping" ⟨0, .alternatives "ping" "pang"⟩) := by
  cbv

end CommandGrammar
