import CommandGrammar.Proofs.Catalog.Configured
import CommandGrammar.Proofs.Config.Merging
import CommandGrammar.Proofs.Matching.Levels

/-!
# Catalogs from a checked configuration

The check of a configuration looks at names and grammars, and a catalog is made from it by looking
at the grammars again and at their types. What the check has passed can fail only for types without
resolvers, and all uses of these are then listed. Where no name is blank, both passes find the same
faults of grammars.
-/

set_option autoImplicit false

namespace CommandGrammar

theorem Declaration.isBlank_eq_false (d : Declaration) :
    d.isBlank = false ↔ ∃ c ∈ d.name.toList, Text.isBlank c = false := by
  simp [Declaration.isBlank, Text.allBlank]

theorem Declaration.grammarProblems_eq_nil (d : Declaration) :
    d.grammarProblems = [] ↔ ∃ definition, Definition.parse d.grammar = .ok definition := by
  rw [Declaration.grammarProblems]
  cases Definition.parse d.grammar <;> simp

namespace Config

theorem problemsFrom_eq_nil (index : Nat) (seen : List String) (ds : List Declaration) :
    problemsFrom index seen ds = [] ↔
      (∀ d ∈ ds, d.isBlank = false) ∧ (ds.map (·.name)).Nodup ∧
        (∀ d ∈ ds, d.name ∉ seen) ∧ ∀ d ∈ ds, d.grammarProblems = [] := by
  -- By induction on the declarations. Those seen before may not share a name with them.
  induction ds generalizing index seen with
  | nil => simp [problemsFrom]
  | cons d rest ih =>
    rw [problemsFrom]
    cases hb : d.isBlank with
    | true => simp [hb]
    | false =>
      have hdup : (if d.name ∈ seen then [Problem.duplicateName d.name] else []) = [] ↔
          d.name ∉ seen := by
        split <;> simp_all
      -- For the rest this name is a seen one, which is how a later use of it is told.
      have hseen : (∀ e ∈ rest, e.name ∉ d.name :: seen) ↔
          d.name ∉ rest.map (·.name) ∧ ∀ e ∈ rest, e.name ∉ seen := by
        simp only [List.mem_cons, not_or, forall_and, List.mem_map, not_exists, not_and]
      simp only [Bool.false_eq_true, if_false, List.append_eq_nil_iff, hdup, ih, hseen,
        List.forall_mem_cons, List.map_cons, List.nodup_cons, hb, true_and]
      constructor
      · rintro ⟨⟨hd, hg⟩, hblank, hn, ⟨hnew, hold⟩, hgrammar⟩
        exact ⟨hblank, ⟨hnew, hn⟩, ⟨hd, hold⟩, hg, hgrammar⟩
      · rintro ⟨hblank, ⟨hnew, hn⟩, ⟨hd, hold⟩, hg, hgrammar⟩
        exact ⟨⟨hd, hg⟩, hblank, hn, ⟨hnew, hold⟩, hgrammar⟩

/-- Every command has a name that is not blank and that no other has, and a grammar that can be
read. -/
structure Sound (c : Config) : Prop where
  named : ∀ d ∈ c.declarations, ∃ ch ∈ d.name.toList, Text.isBlank ch = false
  distinct : c.Distinct
  readable : ∀ d ∈ c.declarations, ∃ definition, Definition.parse d.grammar = .ok definition

theorem validate_eq_ok (c : Config) : c.validate = .ok () ↔ c.Sound := by
  have hproblems := problemsFrom_eq_nil 0 [] c.declarations
  simp only [Declaration.isBlank_eq_false, Declaration.grammarProblems_eq_nil] at hproblems
  have hvalid : c.validate = .ok () ↔ c.problems = [] := by
    rw [validate]
    cases h : c.problems <;> simp
  rw [hvalid, problems, hproblems]
  constructor
  · rintro ⟨hnamed, hn, -, hread⟩
    exact ⟨hnamed, hn, hread⟩
  · intro h
    exact ⟨h.named, h.distinct, fun _ _ => List.not_mem_nil, h.readable⟩

end Config

/-- A typed parameter of a configured command: the places of the command and of the node, the name
of the command and the type. -/
structure TypeUse where
  command : Nat
  node : Nat
  name : String
  type : String
  deriving DecidableEq, Repr

def TypeUse.Before (u v : TypeUse) : Prop :=
  u.command < v.command ∨ u.command = v.command ∧ u.node < v.node

variable {C : Type} {table : Resolvers C}

def TypeUse.problem (u : TypeUse) (table : Resolvers C) : Problem :=
  .unknownType u.name u.type table.names

/-- At this place of the configuration stands a type that has no resolver. -/
def Config.Lacks (config : Config) (table : Resolvers C) (u : TypeUse) : Prop :=
  ∃ d definition param optional, config.declarations[u.command]? = some d ∧ d.name = u.name ∧
    Definition.parse d.grammar = .ok definition ∧
    definition[u.node]? = some (.param ⟨param, optional, .typename u.type⟩) ∧
    table.get? u.type = none

def Node.lacking? (table : Resolvers C) (command : Nat) (name : String) (entry : Node × Nat) :
    Option TypeUse :=
  (entry.1.typeName?.filter fun type => !table.contains type).map fun type =>
    ⟨command, entry.2, name, type⟩

def Declaration.lacking (table : Resolvers C) (entry : Declaration × Nat) : List TypeUse :=
  match Definition.parse entry.1.grammar with
  | .ok definition => definition.zipIdx.filterMap (Node.lacking? table entry.2 entry.1.name)
  | .error _ => []

def Config.lacking (config : Config) (table : Resolvers C) : List TypeUse :=
  config.declarations.zipIdx.flatMap (Declaration.lacking table)

theorem Resolvers.contains_eq_false {type : String} :
    table.contains type = false ↔ table.get? type = none := by
  rw [Resolvers.contains, Option.isSome_eq_false_iff, Option.isNone_iff_eq_none]

theorem Node.lacking?_eq_some {command index : Nat} {name : String} {node : Node} {u : TypeUse} :
    Node.lacking? table command name (node, index) = some u ↔
      u.command = command ∧ u.node = index ∧ u.name = name ∧
        node.typeName? = some u.type ∧ table.get? u.type = none := by
  obtain ⟨_, _, _, type⟩ := u
  simp only [Node.lacking?, Option.map_eq_some_iff, Option.filter_eq_some_iff, Bool.not_eq_true',
    Resolvers.contains_eq_false, TypeUse.mk.injEq]
  grind

theorem Declaration.mem_lacking {d : Declaration} {index : Nat} {u : TypeUse} :
    u ∈ Declaration.lacking table (d, index) ↔
      u.command = index ∧ u.name = d.name ∧ ∃ definition node,
        Definition.parse d.grammar = .ok definition ∧ definition[u.node]? = some node ∧
        node.typeName? = some u.type ∧ table.get? u.type = none := by
  rw [Declaration.lacking]
  cases Definition.parse d.grammar with
  | error e => simp
  | ok definition =>
    simp only [List.mem_filterMap, Prod.exists, List.mk_mem_zipIdx_iff_getElem?,
      Node.lacking?_eq_some]
    constructor
    · rintro ⟨node, place, hnode, hcommand, rfl, hname, htype⟩
      exact ⟨hcommand, hname, definition, node, rfl, hnode, htype⟩
    · rintro ⟨hcommand, hname, other, node, hother, hnode, htype⟩
      cases hother
      exact ⟨node, _, hnode, hcommand, rfl, hname, htype⟩

theorem Config.mem_lacking {config : Config} {u : TypeUse} :
    u ∈ config.lacking table ↔ config.Lacks table u := by
  simp only [Config.lacking, List.mem_flatMap, Prod.exists, List.mk_mem_zipIdx_iff_getElem?,
    Declaration.mem_lacking]
  constructor
  · rintro ⟨d, _, hd, rfl, hname, definition, node, hparse, hnode, htype, hnone⟩
    obtain ⟨param, optional, rfl⟩ := param_of_typeName? htype
    exact ⟨d, definition, param, optional, hd, hname.symm, hparse, hnode, hnone⟩
  · rintro ⟨d, definition, param, optional, hd, hname, hparse, hnode, hnone⟩
    exact ⟨d, _, hd, rfl, hname.symm, definition, _, hparse, hnode, rfl, hnone⟩

theorem pairwise_zipIdx {α : Type} (l : List α) : l.zipIdx.Pairwise fun a b => a.2 < b.2 := by
  rw [← List.pairwise_map (f := Prod.snd), List.zipIdx_map_snd]
  exact List.pairwise_lt_range'

theorem Declaration.pairwise_lacking (entry : Declaration × Nat) :
    (Declaration.lacking table entry).Pairwise TypeUse.Before := by
  rw [Declaration.lacking]
  cases Definition.parse entry.1.grammar with
  | error e => exact .nil
  | ok definition =>
    refine (pairwise_zipIdx definition).filterMap _ ?_
    intro a b hlt u hu v hv
    obtain ⟨hcu, hnu, -⟩ := Node.lacking?_eq_some.1 hu
    obtain ⟨hcv, hnv, -⟩ := Node.lacking?_eq_some.1 hv
    exact .inr ⟨hcu.trans hcv.symm, by rwa [hnu, hnv]⟩

theorem Config.pairwise_lacking (config : Config) :
    (config.lacking table).Pairwise TypeUse.Before := by
  rw [Config.lacking, List.pairwise_flatMap]
  refine ⟨fun entry _ => Declaration.pairwise_lacking entry, ?_⟩
  refine (pairwise_zipIdx config.declarations).imp fun {a b} hlt u hu v hv => .inl ?_
  rwa [(Declaration.mem_lacking.1 hu).1, (Declaration.mem_lacking.1 hv).1]

theorem Declaration.map_problem_lacking (d : Declaration) (index : Nat) :
    (Declaration.lacking table (d, index)).map (·.problem table) = d.typeProblems table := by
  rw [Declaration.lacking, Declaration.typeProblems]
  cases Definition.parse d.grammar with
  | error e => rfl
  | ok definition =>
    -- The places are of no account for the texts of the problems, so they can be dropped.
    have hnode : (fun entry : Node × Nat =>
        (Node.lacking? table index d.name entry).map (·.problem table)) =
        (fun node : Node => (node.typeName?.filter fun type => !table.contains type).map
          (Problem.unknownType d.name · table.names)) ∘ Prod.fst := by
      funext entry
      simp [Node.lacking?, TypeUse.problem, Function.comp_def]
    have htypes : (definition.typeNames.filter fun type => !table.contains type) =
        definition.filterMap fun node =>
          node.typeName?.filter fun type => !table.contains type := by
      rw [Definition.typeNames, List.filter_filterMap]
    simp only
    rw [htypes, List.map_filterMap, List.map_filterMap, hnode, ← List.filterMap_map,
      List.zipIdx_map_fst]

theorem Config.map_problem_lacking (config : Config) :
    (config.lacking table).map (·.problem table) =
      config.declarations.flatMap (·.typeProblems table) := by
  have hdeclaration : (fun entry : Declaration × Nat =>
      (Declaration.lacking table entry).map (·.problem table)) =
      fun entry => entry.1.typeProblems table := by
    funext ⟨d, index⟩
    exact Declaration.map_problem_lacking d index
  calc (config.lacking table).map (·.problem table)
      = config.declarations.zipIdx.flatMap fun entry => entry.1.typeProblems table := by
        rw [Config.lacking, List.map_flatMap, hdeclaration]
    _ = (config.declarations.zipIdx.map Prod.fst).flatMap (·.typeProblems table) := by
        simp only [List.flatMap_map]
    _ = config.declarations.flatMap (·.typeProblems table) := by rw [List.zipIdx_map_fst]

theorem Config.ofConfig_of_readable (table : Resolvers C) {config : Config}
    (h : ∀ d ∈ config.declarations, ∃ definition, Definition.parse d.grammar = .ok definition) :
    Catalog.ofConfig config table =
      if config.lacking table = [] then
        .ok ⟨config.declarations.filterMap (·.command? table)⟩
      else .error (.validation ((config.lacking table).map (·.problem table))) := by
  have hproblems : (config.declarations.flatMap fun d =>
      d.grammarProblems ++ d.typeProblems table) =
      (config.lacking table).map (·.problem table) := by
    rw [Config.map_problem_lacking, List.flatMap_def, List.flatMap_def]
    refine congrArg List.flatten (List.map_congr_left fun d hd => ?_)
    rw [d.grammarProblems_eq_nil.2 (h d hd), List.nil_append]
  rw [Catalog.ofConfig, hproblems]
  simp only [List.isEmpty_iff, List.map_eq_nil_iff]

theorem get?_eq_some {ds : List Declaration} {commands : List (Command C)}
    (h : List.Forall₂ (Declaration.Configures table) ds commands) (name : String)
    (definition : Definition) :
    (Catalog.mk commands).get? name = some definition ↔
      ∃ d, Declaration.find? ds name = some d ∧ Definition.parse d.grammar = .ok definition := by
  induction h with
  | nil => simp [Catalog.get?, Declaration.find?]
  | @cons d command ds commands hd _ ih =>
    rw [Declaration.find?_cons]
    by_cases hn : d.name = name
    · have hc : command.name = name := hd.name.trans hn
      simp [Catalog.get?, hn, hc, hd.definition]
    · have hc : command.name ≠ name := hd.name ▸ hn
      rw [if_neg hn, ← ih]
      simp [Catalog.get?, hc]

namespace Catalog

/-- The commands are the configured ones, in their order, and what is shown of them and found
among them is what their grammars say. -/
structure Shows (s : Catalog C) (config : Config) (table : Resolvers C) : Prop where
  commands : List.Forall₂ (Declaration.Configures table) config.declarations s.commands
  usage : List.Forall₂
    (fun d line => ∃ definition, Definition.parse d.grammar = .ok definition ∧
      line = (d.name, definition.usage, d.description))
    config.declarations s.usage
  find : ∀ name definition, s.get? name = some definition ↔
    ∃ d ∈ config.declarations, d.name = name ∧ Definition.parse d.grammar = .ok definition

theorem shows_of_ofConfig {config : Config} {s : Catalog C} (hn : config.Distinct)
    (h : ofConfig config table = .ok s) : s.Shows config table := by
  have hcommands := configures_of_ofConfig h
  refine ⟨hcommands, ?_, fun name definition => ?_⟩
  · rw [usage, List.forall₂_map_right_iff]
    refine hcommands.imp fun d command hd => ⟨command.definition, hd.definition, ?_⟩
    rw [hd.name, hd.description]
  · rw [get?_eq_some hcommands]
    constructor
    · rintro ⟨d, hfind, hparse⟩
      have hname := List.find?_some (p := fun d : Declaration => d.name = name) hfind
      exact ⟨d, List.mem_of_find?_eq_some hfind, of_decide_eq_true hname, hparse⟩
    · rintro ⟨d, hd, rfl, hparse⟩
      exact ⟨d, Declaration.find?_of_mem hn hd, hparse⟩

end Catalog

def Problem.isInvalidGrammar : Problem → Bool
  | .invalidGrammar _ _ => true
  | _ => false

def invalidGrammars {α : Type} : Except ConfigFault α → List Problem
  | .error (.validation problems) => problems.filter Problem.isInvalidGrammar
  | _ => []

theorem Declaration.filter_grammarProblems (d : Declaration) :
    d.grammarProblems.filter Problem.isInvalidGrammar = d.grammarProblems := by
  rw [Declaration.grammarProblems]
  cases Definition.parse d.grammar <;> rfl

theorem Declaration.filter_typeProblems (d : Declaration) :
    (d.typeProblems table).filter Problem.isInvalidGrammar = [] := by
  rw [Declaration.typeProblems]
  cases Definition.parse d.grammar with
  | error e => rfl
  | ok definition =>
    rw [List.filter_eq_nil_iff]
    intro problem hproblem
    obtain ⟨type, -, rfl⟩ := List.mem_map.1 hproblem
    exact Bool.false_ne_true

theorem filter_problemsFrom (index : Nat) (seen : List String) {ds : List Declaration}
    (h : ∀ d ∈ ds, d.isBlank = false) :
    (Config.problemsFrom index seen ds).filter Problem.isInvalidGrammar =
      ds.flatMap (·.grammarProblems) := by
  induction ds generalizing index seen with
  | nil => rfl
  | cons d rest ih =>
    rw [List.forall_mem_cons] at h
    have hduplicate : (if d.name ∈ seen then [Problem.duplicateName d.name] else []).filter
        Problem.isInvalidGrammar = [] := by
      split <;> rfl
    rw [Config.problemsFrom, h.1]
    simp [hduplicate, d.filter_grammarProblems, ih _ _ h.2]

theorem invalidGrammars_validate {config : Config}
    (h : ∀ d ∈ config.declarations, d.isBlank = false) :
    invalidGrammars config.validate = config.declarations.flatMap (·.grammarProblems) := by
  rw [← filter_problemsFrom 0 [] h, ← Config.problems, Config.validate]
  cases hp : config.problems <;> simp [invalidGrammars]

theorem invalidGrammars_ofConfig (config : Config) :
    invalidGrammars (Catalog.ofConfig config table) =
      config.declarations.flatMap (·.grammarProblems) := by
  have hfilter : (config.declarations.flatMap fun d =>
      d.grammarProblems ++ d.typeProblems table).filter Problem.isInvalidGrammar =
      config.declarations.flatMap (·.grammarProblems) := by
    simp only [List.filter_flatMap, List.filter_append, Declaration.filter_grammarProblems,
      Declaration.filter_typeProblems, List.append_nil]
  rw [Catalog.ofConfig, ← hfilter]
  cases hp : config.declarations.flatMap fun d =>
    d.grammarProblems ++ d.typeProblems table <;> simp [invalidGrammars]

/-- All uses of types without resolvers, each once, by the command and then by the node. -/
def Config.ListsLacking (config : Config) (table : Resolvers C) (fault : ConfigFault) : Prop :=
  ∃ uses : List TypeUse, uses.Pairwise TypeUse.Before ∧
    (∀ u, u ∈ uses ↔ config.Lacks table u) ∧ fault = .validation (uses.map (·.problem table))

/-- What a sound configuration and a table make: a failure exactly if resolvers are missing, which
lists them, and else a catalog of the configured commands. -/
structure Config.Settles (config : Config) (table : Resolvers C)
    (result : Except ConfigFault (Catalog C)) : Prop where
  fails : (∃ fault, result = .error fault) ↔ ∃ u, config.Lacks table u
  faults : ∀ fault, result = .error fault → config.ListsLacking table fault
  shows : ∀ s, result = .ok s → s.Shows config table

theorem Config.listsLacking (config : Config) (table : Resolvers C) :
    config.ListsLacking table (.validation ((config.lacking table).map (·.problem table))) :=
  ⟨config.lacking table, config.pairwise_lacking, fun _ => Config.mem_lacking, rfl⟩

theorem Config.Sound.settles {config : Config} (h : config.Sound) (table : Resolvers C) :
    config.Settles table (Catalog.ofConfig config table) := by
  have hshows : ∀ s, Catalog.ofConfig config table = .ok s → s.Shows config table :=
    fun _ => Catalog.shows_of_ofConfig h.distinct
  have hof := Config.ofConfig_of_readable table h.readable
  by_cases hnil : config.lacking table = []
  · have hnone : ∀ u, ¬config.Lacks table u := by
      intro u hu
      rw [← Config.mem_lacking, hnil] at hu
      exact List.not_mem_nil hu
    rw [if_pos hnil] at hof
    refine ⟨?_, ?_, hshows⟩
    · simp [hof, hnone]
    · simp [hof]
  · obtain ⟨u, hu⟩ := List.exists_mem_of_ne_nil _ hnil
    rw [if_neg hnil] at hof
    refine ⟨?_, ?_, hshows⟩
    · exact ⟨fun _ => ⟨u, Config.mem_lacking.1 hu⟩, fun _ => ⟨_, hof⟩⟩
    · intro fault hfault
      cases hof.symm.trans hfault
      exact config.listsLacking table

/-- A configuration passes its check exactly if its names are not blank and all different and its
grammars can be read. With it a catalog can fail only for types that have no resolvers, and then
lists their uses; if it does not fail, it shows what is configured. Where no name is blank, the
check and the catalog report the same faults of grammars. -/
theorem checked_config_catalog (config : Config) (table : Resolvers C) :
    (config.validate = .ok () ↔ config.Sound) ∧
      (config.validate = .ok () → config.Settles table (Catalog.ofConfig config table)) ∧
      ((∀ d ∈ config.declarations, ∃ c ∈ d.name.toList, Text.isBlank c = false) →
        invalidGrammars config.validate = invalidGrammars (Catalog.ofConfig config table)) := by
  refine ⟨config.validate_eq_ok, fun hvalid => ?_, fun hnamed => ?_⟩
  · exact (config.validate_eq_ok.1 hvalid).settles table
  · have hblank : ∀ d ∈ config.declarations, d.isBlank = false :=
      fun d hd => d.isBlank_eq_false.2 (hnamed d hd)
    rw [invalidGrammars_validate hblank, invalidGrammars_ofConfig]

theorem checked_config_catalog_types :
    let config : Config :=
      ⟨some [⟨"remind", "remind <who: user> <text: string> [again: user]", none⟩,
        ⟨"ping", "ping/p <day: date>", some "Answers"⟩]⟩
    let broken : Config := ⟨some [⟨"a", "<x", none⟩, ⟨"a", "b <who: user>", none⟩]⟩
    let few : Resolvers Unit := Resolvers.builtins
    let table := (few.register "user" Resolver.word).register "date" Resolver.word
    config.validate = .ok () ∧ config.Sound ∧
      config.Settles few (Catalog.ofConfig config few) ∧
      config.lacking few =
        [⟨0, 1, "remind", "user"⟩, ⟨0, 3, "remind", "user"⟩, ⟨1, 1, "ping", "date"⟩] ∧
      config.Settles table (Catalog.ofConfig config table) ∧ config.lacking table = [] ∧
      (∀ d ∈ broken.declarations, ∃ c ∈ d.name.toList, Text.isBlank c = false) ∧
      (invalidGrammars broken.validate).length = 1 ∧
      invalidGrammars broken.validate = invalidGrammars (Catalog.ofConfig broken few) := by
  intro config broken few table
  have hvalid : config.validate = .ok () := by decide +kernel
  have hname : ∀ d ∈ broken.declarations, d.name = "a" := by decide
  have hnamed : ∀ d ∈ broken.declarations, ∃ c ∈ d.name.toList, Text.isBlank c = false :=
    fun d hd => ⟨'a', by simp [hname d hd], by decide⟩
  have hfew := checked_config_catalog config few
  have htable := checked_config_catalog config table
  have hbroken := checked_config_catalog broken few
  exact ⟨hvalid, hfew.1.1 hvalid, hfew.2.1 hvalid, by decide +kernel, htable.2.1 hvalid,
    by decide +kernel, hnamed, by decide +kernel, hbroken.2.2 hnamed⟩

end CommandGrammar
