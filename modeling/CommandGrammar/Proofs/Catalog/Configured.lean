import CommandGrammar.Proofs.Catalog.Dispatch
import CommandGrammar.Proofs.Matching.UnknownType
import Mathlib.Data.List.Forall2

/-!
# Catalogs from a configuration

A configuration makes a catalog exactly if every grammar in it can be read and names only types
that have resolvers. The catalog then holds one command for each declaration, in their order. As
none of these can fail for a missing resolver, no line is ever answered by a fatal failure.
-/

set_option autoImplicit false

namespace CommandGrammar

variable {C : Type} {table : Resolvers C}

/-- The grammar can be read, and every type in it has a resolver. -/
def Declaration.Accepted (d : Declaration) (table : Resolvers C) : Prop :=
  ∃ definition, Definition.parse d.grammar = .ok definition ∧ definition.Resolved table

structure Declaration.Configures (table : Resolvers C) (d : Declaration) (command : Command C) :
    Prop where
  name : command.name = d.name
  description : command.description = d.description
  definition : Definition.parse d.grammar = .ok command.definition
  plan : command.plan = command.definition.compile table
  resolved : command.definition.Resolved table

theorem Declaration.problems_eq_nil (d : Declaration) :
    d.grammarProblems ++ d.typeProblems table = [] ↔ d.Accepted table := by
  rw [Declaration.grammarProblems, Declaration.typeProblems, Declaration.Accepted]
  cases Definition.parse d.grammar with
  | error e => simp
  | ok definition => simp [Definition.Resolved]

theorem ofConfig_eq_ok {config : Config} {s : Catalog C} :
    Catalog.ofConfig config table = .ok s ↔
      (∀ d ∈ config.declarations, d.Accepted table) ∧
        s = ⟨config.declarations.filterMap (·.command? table)⟩ := by
  have hproblems : (config.declarations.flatMap fun d =>
      d.grammarProblems ++ d.typeProblems table) = [] ↔
      ∀ d ∈ config.declarations, d.Accepted table := by
    simp only [List.flatMap_eq_nil_iff, Declaration.problems_eq_nil]
  rw [Catalog.ofConfig, ← hproblems]
  by_cases hnil : (config.declarations.flatMap fun d =>
      d.grammarProblems ++ d.typeProblems table) = []
  · simp [hnil, eq_comm]
  · simp [hnil]

theorem Declaration.Accepted.configures {d : Declaration} (h : d.Accepted table) :
    ∃ command, d.command? table = some command ∧ d.Configures table command := by
  obtain ⟨definition, hparse, hresolved⟩ := h
  refine ⟨⟨d.name, d.description, definition, definition.compile table⟩, ?_, ?_⟩
  · rw [Declaration.command?, hparse]
  · exact ⟨rfl, rfl, hparse, rfl, hresolved⟩

theorem configures_filterMap {ds : List Declaration} (h : ∀ d ∈ ds, d.Accepted table) :
    List.Forall₂ (Declaration.Configures table) ds (ds.filterMap (·.command? table)) := by
  induction ds with
  | nil => exact .nil
  | cons d rest ih =>
    rw [List.forall_mem_cons] at h
    obtain ⟨command, hcommand, hconfigures⟩ := h.1.configures
    simp only [List.filterMap_cons, hcommand]
    exact .cons hconfigures (ih h.2)

theorem configures_of_ofConfig {config : Config} {s : Catalog C}
    (h : Catalog.ofConfig config table = .ok s) :
    List.Forall₂ (Declaration.Configures table) config.declarations s.commands := by
  obtain ⟨haccepted, rfl⟩ := ofConfig_eq_ok.1 h
  exact configures_filterMap haccepted

theorem exists_configures {ds : List Declaration} {commands : List (Command C)}
    (h : List.Forall₂ (Declaration.Configures table) ds commands) :
    ∀ command ∈ commands, ∃ d ∈ ds, d.Configures table command := by
  induction h with
  | nil => simp
  | @cons d command _ _ hd _ ih =>
    intro other hmem
    rcases List.mem_cons.1 hmem with rfl | hmem
    · exact ⟨d, List.mem_cons_self .., hd⟩
    · obtain ⟨d', hd', hconf⟩ := ih other hmem
      exact ⟨d', List.mem_cons_of_mem _ hd', hconf⟩

theorem dispatch_ne_fatal {config : Config} {s : Catalog C}
    (h : Catalog.ofConfig config table = .ok s) (input : String) (context : C) (name : String)
    (e : Failure) : s.dispatch input context ≠ .error (.fatal name e) := by
  intro hfatal
  have hv := s.dispatch_verdict input context
  rw [hfatal] at hv
  obtain ⟨level, type, rfl, hmem⟩ := hv.fatal_mem
  obtain ⟨command, hcommand, heq⟩ := List.mem_map.1 hmem
  obtain ⟨d, -, hd⟩ := exists_configures (configures_of_ofConfig h) command hcommand
  have hrun := (Prod.mk.inj heq).2
  rw [hd.plan, run_compile_eq_walk] at hrun
  exact hd.resolved.walk_ne 0 level type _ _ hrun

theorem dispatch_eq_empty_iff {config : Config} {s : Catalog C}
    (h : Catalog.ofConfig config table = .ok s) (input : String) (context : C) :
    s.dispatch input context = .error .empty ↔ config.declarations = [] := by
  have hlength := (configures_of_ofConfig h).length_eq
  rw [(s.dispatch_verdict input context).empty_iff, tryAll, List.map_eq_nil_iff,
    ← List.length_eq_zero_iff, ← hlength, List.length_eq_zero_iff]

/-- A catalog that a configuration makes answers no line by a fatal failure, and by the failure of
an empty catalog exactly if nothing is configured. More generally, no match of a definition whose
types all have resolvers fails for a missing one. -/
theorem ofConfig_never_fatal (table : Resolvers C) :
    (∀ (config : Config) (s : Catalog C), Catalog.ofConfig config table = .ok s →
      ∀ (input : String) (context : C),
        (∀ name e, s.dispatch input context ≠ .error (.fatal name e)) ∧
          (s.dispatch input context = .error .empty ↔ config.declarations = [])) ∧
      ∀ d : Definition, (∀ type ∈ d.typeNames, table.contains type = true) →
        ∀ (input : String) (context : C) (level : Nat) (type : String),
          d.interpret input table context ≠ .error (.unknownType level type) ∧
            (d.compile table).run input context ≠ .error (.unknownType level type) := by
  constructor
  · intro config s h input context
    exact ⟨dispatch_ne_fatal h input context, dispatch_eq_empty_iff h input context⟩
  · intro d hd input context level type
    have hwalk : d.interpret input table context ≠ .error (.unknownType level type) :=
      Definition.Resolved.walk_ne hd 0 level type _ _
    refine ⟨hwalk, ?_⟩
    rwa [run_compile_eq_walk]

theorem ofConfig_never_fatal_builtins :
    let config : Config :=
      ⟨some [⟨"remind", "rm [emote: \"uwu\" | \"owo\"] <duration: word> [text: string]", none⟩,
        ⟨"ping", "ping/p", some "Answers"⟩]⟩
    let d : Definition := [.literal ["rm"], .param ⟨"text", true, .typename "string"⟩]
    ∃ s, Catalog.ofConfig config (Resolvers.builtins (C := Unit)) = .ok s ∧
      (∀ input,
        (∀ name e, s.dispatch input () ≠ .error (.fatal name e)) ∧
          (s.dispatch input () = .error .empty ↔ config.declarations = [])) ∧
      (∀ type ∈ d.typeNames, (Resolvers.builtins (C := Unit)).contains type = true) ∧
      ∀ input level type,
        d.interpret input Resolvers.builtins () ≠ .error (.unknownType level type) ∧
          (d.compile Resolvers.builtins).run input () ≠ .error (.unknownType level type) := by
  intro config d
  have haccepted : ∀ c ∈ config.declarations, c.Accepted (Resolvers.builtins (C := Unit)) := by
    intro c hc
    rcases List.mem_cons.1 hc with rfl | hc
    · refine ⟨[.literal ["rm"], .param ⟨"emote", true, .choice ["uwu", "owo"]⟩,
        .param ⟨"duration", false, .typename "word"⟩, .param ⟨"text", true, .typename "string"⟩],
        by decide +kernel, by decide⟩
    · obtain rfl := List.mem_singleton.1 hc
      exact ⟨[.literal ["ping", "p"]], by decide +kernel, by decide⟩
  have hd : ∀ type ∈ d.typeNames, (Resolvers.builtins (C := Unit)).contains type = true := by
    decide
  have hok := ofConfig_eq_ok.2 ⟨haccepted, rfl⟩
  exact ⟨_, hok, fun input => (ofConfig_never_fatal _).1 config _ hok input (), hd,
    fun input => (ofConfig_never_fatal _).2 d hd input ()⟩

end CommandGrammar
