import CommandGrammar.Proofs.Catalog.Configured
import CommandGrammar.Proofs.Cli.Actions

/-!
# What is reported

A match of one grammar and the dispatch to a configuration that holds only this grammar are reported
alike: both have the result of one walk through the definition, and their lines differ by the name of
the command alone. A request that fails has one cause, which its fault names, and has written nothing.
-/

set_option autoImplicit false

namespace CommandGrammar

/-- What a catalog of one command of this name makes of the outcome of its match. -/
def Outcome.answer (name : String) : Outcome → Except DispatchFailure Dispatch
  | .ok params => .ok ⟨name, params⟩
  | .error (.mismatch e) => .error (.noMatch name e)
  | .error e => .error (.fatal name e)

theorem Catalog.dispatch_single {C : Type} (command : Command C) (input : String) (context : C) :
    (⟨[command]⟩ : Catalog C).dispatch input context =
      Outcome.answer command.name (command.plan.run input context) := by
  rw [dispatch, dispatchFrom]
  cases command.plan.run input context with
  | ok params => rfl
  | error e => cases e <;> rfl

theorem ofConfig_single {C : Type} {table : Resolvers C} {d : Declaration}
    {definition : Definition} (hparse : Definition.parse d.grammar = .ok definition)
    (hresolved : definition.Resolved table) :
    Catalog.ofConfig ⟨some [d]⟩ table =
      .ok ⟨[⟨d.name, d.description, definition, definition.compile table⟩]⟩ := by
  have haccepted : ∀ other ∈ [d], other.Accepted table := by
    intro other hother
    obtain rfl := List.mem_singleton.1 hother
    exact ⟨definition, hparse, hresolved⟩
  have hcommand : d.command? table =
      some ⟨d.name, d.description, definition, definition.compile table⟩ := by
    rw [Declaration.command?, hparse]
  refine ofConfig_eq_ok.2 ⟨haccepted, ?_⟩
  rw [Config.declarations, Option.getD_some, List.filterMap_cons, hcommand]
  rfl

theorem Definition.resolved_builtins {C : Type} {d : Definition}
    (h : ∀ type ∈ d.typeNames, type = "word" ∨ type = "string") :
    d.Resolved (Resolvers.builtins (C := C)) := by
  intro type htype
  rcases h type htype with rfl | rfl <;> rfl

namespace Cli

namespace Report

/-- Ends with a code, and has written this value on one line more. -/
def Prints (r : Report Verdict) (before : Output) (code : Nat) (json : Json) : Prop :=
  r.code = code ∧ r.output = before ++ [.value json]

/-- Ends with a code, and has written an object of these fields, in some order, on one line more. -/
def Displays (r : Report Verdict) (before : Output) (code : Nat) (fields : Entries Json) : Prop :=
  r.code = code ∧ ∃ shown, r.output = before ++ [.object shown] ∧ shown.Perm fields

/-- Two reports of one outcome, the second of them for a command of this name. -/
structure Agree (name : String) (outcome : Outcome) (before : Output)
    (matched dispatched : Report Verdict) : Prop where
  hits : ∀ params : Json, matched.Prints before 0 params ↔
    dispatched.Prints before 0 (.obj [("command", .str name), ("params", params)])
  misses : ∀ (error : String) (level : Nat),
    matched.Displays before 1 [("error", .str error), ("token_level", .int level)] ↔
      dispatched.Displays before 1
        [("error", .str error), ("token_level", .int level), ("closest", .str name)]
  settled :
    (∃ params, outcome = .ok params ∧ matched.Prints before 0 (.obj params.entries)) ∨
      ∃ e, outcome = .error (.mismatch e) ∧ matched.Displays before 1
        [("error", .str e.message), ("token_level", .int e.level)]

variable {before : Output} {verdict : Verdict} {code : Nat}

theorem prints_value {shown json : Json} :
    Prints ⟨.ok verdict, before ++ [.value shown]⟩ before code json ↔
      Report.code ⟨.ok verdict, []⟩ = code ∧ shown = json := by
  simp [Prints, Report.code]

theorem displays_object {shown fields : Entries Json} :
    Displays ⟨.ok verdict, before ++ [.object shown]⟩ before code fields ↔
      Report.code ⟨.ok verdict, []⟩ = code ∧ shown.Perm fields := by
  simp [Displays, Report.code]

theorem not_prints_object {shown : Entries Json} {json : Json} :
    ¬ Prints ⟨.ok verdict, before ++ [.object shown]⟩ before code json := by
  simp [Prints]

theorem not_displays_value {shown : Json} {fields : Entries Json} :
    ¬ Displays ⟨.ok verdict, before ++ [.value shown]⟩ before code fields := by
  simp [Displays]

end Report

open Report

def answerOutcome : Outcome → Run Verdict
  | .ok params => do
    writeLine (.value params.toJson)
    return .success
  | .error (.mismatch e) => do
    writeLine (.object (mismatchBody e))
    return .noMatch
  | .error e => throw (.matching e)

def answerDispatch : Except DispatchFailure Dispatch → Run Verdict
  | .ok dispatched => do
    writeLine (.value dispatched.toJson)
    return .success
  | .error (.noMatch command e) => do
    writeLine (.object (mismatchBody e ++ [("closest", .str command)]))
    return .noMatch
  | .error e => throw (.dispatch e)

theorem runMatch_eq (grammar : String) (interpret : Bool) (input : String) :
    runMatch grammar interpret input =
      attempt (Definition.parse grammar) .grammar >>= fun d =>
        answerOutcome (d.interpret input Resolvers.builtins ()) := by
  have hmode (d : Definition) : (if interpret then d.interpret input Resolvers.builtins ()
      else (d.compile Resolvers.builtins).run input ()) =
      d.interpret input Resolvers.builtins () := by
    rw [run_compile_eq_walk, Definition.interpret, ite_self]
  rw [runMatch]
  simp only [hmode]
  rfl

theorem runDispatch_eq (config : Config) (input : String) :
    runDispatch config input =
      attempt (Catalog.ofConfig config Resolvers.builtins) (.config none) >>= fun catalog =>
        answerDispatch (catalog.dispatch input ()) :=
  rfl

theorem agree_answers {outcome : Outcome}
    (h : ∀ level type, outcome ≠ .error (.unknownType level type)) (name : String)
    (before : Output) :
    Agree name outcome before ((answerOutcome outcome).report before)
      ((answerDispatch (outcome.answer name)).report before) := by
  match outcome with
  | .ok params =>
    have hmatched : (answerOutcome (.ok params)).report before =
        ⟨.ok .success, before ++ [.value (.obj params.entries)]⟩ := by
      rw [← Params.toJson_eq params]
      rfl
    have hdispatched : (answerDispatch (Outcome.answer name (.ok params))).report before =
        ⟨.ok .success, before ++
          [.value (.obj [("command", .str name), ("params", .obj params.entries)])]⟩ := by
      rw [← Params.toJson_eq params]
      rfl
    rw [hmatched, hdispatched]
    constructor
    · intro json
      rw [prints_value, prints_value]
      simp
    · intro error level
      exact iff_of_false not_displays_value not_displays_value
    · exact .inl ⟨params, rfl, prints_value.2 ⟨rfl, rfl⟩⟩
  | .error (.mismatch e) =>
    have hmatched : (answerOutcome (.error (.mismatch e))).report before =
        ⟨.ok .noMatch, before ++ [.object (mismatchBody e)]⟩ := rfl
    have hdispatched :
        (answerDispatch (Outcome.answer name (.error (.mismatch e)))).report before =
          ⟨.ok .noMatch, before ++ [.object (mismatchBody e ++ [("closest", .str name)])]⟩ := rfl
    rw [hmatched, hdispatched]
    constructor
    · intro json
      exact iff_of_false not_prints_object not_prints_object
    -- the name stands behind the same fields on both sides
    · intro error level
      rw [displays_object, displays_object]
      exact and_congr_right fun _ => (List.perm_append_right_iff [("closest", Json.str name)]).symm
    · exact .inr ⟨e, rfl, displays_object.2 ⟨rfl, .refl _⟩⟩
  | .error (.unknownType level type) => exact absurd rfl (h level type)

theorem agree_reports {grammar : String} {d : Definition}
    (hparse : Definition.parse grammar = .ok d)
    (htypes : ∀ type ∈ d.typeNames, type = "word" ∨ type = "string") (name : String)
    (description : Option String) (interpret : Bool) (input : String) (before : Output) :
    Agree name (d.interpret input Resolvers.builtins ()) before
      ((runMatch grammar interpret input).report before)
      ((runDispatch ⟨some [⟨name, grammar, description⟩]⟩ input).report before) := by
  have hresolved : d.Resolved (Resolvers.builtins (C := Unit)) :=
    Definition.resolved_builtins htypes
  have hconfig := ofConfig_single (d := ⟨name, grammar, description⟩) hparse hresolved
  rw [runMatch_eq, runDispatch_eq, Run.report_attempt_bind, Run.report_attempt_bind, hparse,
    hconfig]
  dsimp only
  rw [Catalog.dispatch_single, run_compile_eq_walk]
  exact agree_answers (fun level type => hresolved.walk_ne 0 level type _ _) name before

def Task.grammar? : Task → Option String
  | .matching grammar _ _ | .parsing grammar | .rendering grammar => some grammar
  | .dispatching _ | .listing => none

/-- What a request can fail for, and the fault that is reported then. -/
inductive Request.Faults (r : Request) (env : Environment) : RunFault → Prop
  | grammar {grammar : String} {error : GrammarFault} (htask : r.task.grammar? = some grammar)
      (hparse : Definition.parse grammar = .error error) : Faults r env (.grammar error)
  | misplaced {error : FileFault} (htask : r.task.grammar? = none)
      (hdirectory : env.directory = .error error) : Faults r env (.directory error)
  | unloaded {directory : String} {error : ConfigFault} (htask : r.task.grammar? = none)
      (hdirectory : env.directory = .ok directory)
      (hload : Config.load env.parse env.files directory (r.source env.home) = .error error) :
      Faults r env (.config r.config error)
  | rejected {config : Config} {error : ConfigFault} (htask : r.task.grammar? = none)
      (hload : r.loaded env = .ok config)
      (hconfig : Catalog.ofConfig config (Resolvers.builtins (C := Unit)) = .error error) :
      Faults r env (.config none error)
  | unknownType {grammar input type : String} {interpret : Bool} {d : Definition} {level : Nat}
      (htask : r.task = .matching grammar interpret input)
      (hparse : Definition.parse grammar = .ok d)
      (hmatch : d.interpret input Resolvers.builtins () = .error (.unknownType level type)) :
      Faults r env (.matching (.unknownType level type))
  | empty {input : String} {config : Config} (htask : r.task = .dispatching input)
      (hload : r.loaded env = .ok config) (hnone : config.declarations = []) :
      Faults r env (.dispatch .empty)

variable {before : Output} {fault : RunFault}

theorem loaded_error_iff {r : Request} {env : Environment} :
    r.loaded env = .error fault ↔
      (∃ error, env.directory = .error error ∧ fault = .directory error) ∨
        ∃ directory error, env.directory = .ok directory ∧
          Config.load env.parse env.files directory (r.source env.home) = .error error ∧
          fault = .config r.config error := by
  rw [Request.loaded]
  cases env.directory with
  | error error => simp [Except.mapError, bind, Except.bind, eq_comm]
  | ok directory =>
    cases hload : Config.load env.parse env.files directory (r.source env.home) <;>
      simp [Except.mapError, bind, Except.bind, hload, eq_comm]

theorem answerOutcome_error_iff {outcome : Outcome} :
    ((answerOutcome outcome).report before).result = .error fault ↔
      ∃ level type, outcome = .error (.unknownType level type) ∧
        fault = .matching (.unknownType level type) := by
  match outcome with
  | .ok params => exact iff_of_false nofun (by simp)
  | .error (.mismatch e) => exact iff_of_false nofun (by simp)
  | .error (.unknownType level type) =>
    have hreport : ((answerOutcome (.error (.unknownType level type))).report before).result =
        .error (.matching (.unknownType level type)) := rfl
    rw [hreport]
    simp [eq_comm]

theorem answerDispatch_error_iff {answer : Except DispatchFailure Dispatch}
    (h : ∀ name e, answer ≠ .error (.fatal name e)) :
    ((answerDispatch answer).report before).result = .error fault ↔
      answer = .error .empty ∧ fault = .dispatch .empty := by
  match answer with
  | .ok dispatched => exact iff_of_false nofun (by simp)
  | .error .empty =>
    have hreport : ((answerDispatch (.error .empty)).report before).result =
        .error (.dispatch .empty) := rfl
    rw [hreport]
    simp [eq_comm]
  | .error (.noMatch name e) => exact iff_of_false nofun (by simp)
  | .error (.fatal name e) => exact absurd rfl (h name e)

theorem runMatch_error_iff {grammar input : String} {interpret : Bool} :
    ((runMatch grammar interpret input).report before).result = .error fault ↔
      (∃ error, Definition.parse grammar = .error error ∧ .grammar error = fault) ∨
        ∃ d, Definition.parse grammar = .ok d ∧
          ∃ level type, d.interpret input Resolvers.builtins () = .error (.unknownType level type) ∧
            fault = .matching (.unknownType level type) := by
  rw [runMatch_eq, Run.attempt_bind_error_iff]
  simp only [answerOutcome_error_iff]

theorem runDispatch_error_iff {config : Config} {input : String} :
    ((runDispatch config input).report before).result = .error fault ↔
      (∃ error, Catalog.ofConfig config (Resolvers.builtins (C := Unit)) = .error error ∧
        .config none error = fault) ∨
        config.declarations = [] ∧ fault = .dispatch .empty := by
  rw [runDispatch_eq, Run.attempt_bind_error_iff]
  refine or_congr_right ⟨?_, ?_⟩
  -- an accepted configuration has resolvers for all its types, so no answer is fatal
  · rintro ⟨catalog, hconfig, h⟩
    rw [answerDispatch_error_iff (dispatch_ne_fatal hconfig input ()),
      dispatch_eq_empty_iff hconfig] at h
    exact h
  · rintro ⟨hnone, rfl⟩
    have hconfig : Catalog.ofConfig config (Resolvers.builtins (C := Unit)) = .ok ⟨[]⟩ := by
      rw [ofConfig_eq_ok, hnone]
      simp
    refine ⟨_, hconfig, ?_⟩
    rw [answerDispatch_error_iff (dispatch_ne_fatal hconfig input ()),
      dispatch_eq_empty_iff hconfig]
    exact ⟨hnone, rfl⟩

theorem sure_error_iff {ε α : Type} {result : Except ε α} {wrap : ε → RunFault}
    {go : α → Run Verdict} (hgo : ∀ value, (go value).Sure) :
    (Run.report (attempt result wrap >>= go) before).result = .error fault ↔
      ∃ error, result = .error error ∧ wrap error = fault := by
  rw [Run.attempt_bind_error_iff]
  exact or_iff_left fun ⟨value, _, h⟩ => hgo value before fault h

theorem sure_answer (line : Line) (verdict : Verdict) :
    Run.Sure (do writeLine line; return verdict) :=
  (Run.sure_writeLine line).bind fun _ => Run.sure_pure verdict

theorem runList_error_iff {config : Config} :
    ((runList config).report before).result = .error fault ↔
      ∃ error, Catalog.ofConfig config (Resolvers.builtins (C := Unit)) = .error error ∧
        .config none error = fault :=
  sure_error_iff fun _ => (Run.sure_lines _ _).bind fun _ => Run.sure_pure _

theorem runParse_error_iff {grammar : String} :
    ((runParse grammar).report before).result = .error fault ↔
      ∃ error, Definition.parse grammar = .error error ∧ .grammar error = fault :=
  sure_error_iff fun _ => sure_answer _ _

theorem runRender_error_iff {grammar : String} :
    ((runRender grammar).report before).result = .error fault ↔
      ∃ error, Definition.parse grammar = .error error ∧ .grammar error = fault :=
  sure_error_iff fun _ => sure_answer _ _

theorem faults_of_loaded {r : Request} {env : Environment} (htask : r.task.grammar? = none)
    (h : r.loaded env = .error fault) : r.Faults env fault := by
  rcases loaded_error_iff.1 h with ⟨error, hdirectory, rfl⟩ | ⟨_, _, hdirectory, hload, rfl⟩
  · exact .misplaced htask hdirectory
  · exact .unloaded htask hdirectory hload

theorem faults_of_run {r : Request} {env : Environment}
    (h : ((r.run env).report before).result = .error fault) : r.Faults env fault := by
  obtain ⟨path, task⟩ := r
  cases task with
  | matching grammar interpret input =>
    rcases runMatch_error_iff.1 h with
      ⟨error, hparse, rfl⟩ | ⟨d, hparse, level, type, hmatch, rfl⟩
    · exact .grammar rfl hparse
    · exact .unknownType rfl hparse hmatch
  | parsing grammar =>
    obtain ⟨error, hparse, rfl⟩ := runParse_error_iff.1 h
    exact .grammar rfl hparse
  | rendering grammar =>
    obtain ⟨error, hparse, rfl⟩ := runRender_error_iff.1 h
    exact .grammar rfl hparse
  | dispatching input =>
    rcases Run.attempt_bind_error_iff.1 h with ⟨error, hload, rfl⟩ | ⟨config, hload, hreport⟩
    · exact faults_of_loaded rfl hload
    · rcases runDispatch_error_iff.1 hreport with ⟨error, hconfig, rfl⟩ | ⟨hnone, rfl⟩
      · exact .rejected rfl hload hconfig
      · exact .empty rfl hload hnone
  | listing =>
    rcases Run.attempt_bind_error_iff.1 h with ⟨error, hload, rfl⟩ | ⟨config, hload, hreport⟩
    · exact faults_of_loaded rfl hload
    · obtain ⟨error, hconfig, rfl⟩ := runList_error_iff.1 hreport
      exact .rejected rfl hload hconfig

theorem run_of_unloaded {r : Request} {env : Environment} (htask : r.task.grammar? = none)
    (h : r.loaded env = .error fault) : ((r.run env).report before).result = .error fault := by
  obtain ⟨path, task⟩ := r
  cases task with
  | dispatching | listing => exact Run.attempt_bind_error_iff.2 (.inl ⟨fault, h, rfl⟩)
  | matching | parsing | rendering => cases htask

theorem run_of_faults {r : Request} {env : Environment} (h : r.Faults env fault) :
    ((r.run env).report before).result = .error fault := by
  obtain ⟨path, task⟩ := r
  cases h with
  | @grammar grammar error htask hparse =>
    cases task with
    | matching => cases htask; exact runMatch_error_iff.2 (.inl ⟨error, hparse, rfl⟩)
    | parsing => cases htask; exact runParse_error_iff.2 ⟨error, hparse, rfl⟩
    | rendering => cases htask; exact runRender_error_iff.2 ⟨error, hparse, rfl⟩
    | dispatching | listing => cases htask
  | @misplaced error htask hdirectory =>
    exact run_of_unloaded htask (loaded_error_iff.2 (.inl ⟨error, hdirectory, rfl⟩))
  | @unloaded directory error htask hdirectory hload =>
    exact run_of_unloaded htask
      (loaded_error_iff.2 (.inr ⟨directory, error, hdirectory, hload, rfl⟩))
  | @rejected config error htask hload hconfig =>
    cases task with
    | dispatching =>
      exact Run.attempt_bind_error_iff.2
        (.inr ⟨config, hload, runDispatch_error_iff.2 (.inl ⟨error, hconfig, rfl⟩)⟩)
    | listing =>
      exact Run.attempt_bind_error_iff.2
        (.inr ⟨config, hload, runList_error_iff.2 ⟨error, hconfig, rfl⟩⟩)
    | matching | parsing | rendering => cases htask
  | @unknownType grammar input type interpret d level htask hparse hmatch =>
    cases htask
    exact runMatch_error_iff.2 (.inr ⟨d, hparse, level, type, hmatch, rfl⟩)
  | @empty input config htask hload hnone =>
    cases htask
    exact Run.attempt_bind_error_iff.2
      (.inr ⟨config, hload, runDispatch_error_iff.2 (.inr ⟨hnone, rfl⟩)⟩)

section Clean

open Run

theorem clean_answerOutcome (outcome : Outcome) : (answerOutcome outcome).Clean := by
  match outcome with
  | .ok _ | .error (.mismatch _) => exact (sure_answer _ _).clean
  | .error (.unknownType ..) => exact (silent_throw _).clean

theorem clean_answerDispatch (answer : Except DispatchFailure Dispatch) :
    (answerDispatch answer).Clean := by
  match answer with
  | .ok _ | .error (.noMatch ..) => exact (sure_answer _ _).clean
  | .error .empty | .error (.fatal ..) => exact (silent_throw _).clean

theorem clean_run (r : Request) (env : Environment) : (r.run env).Clean := by
  obtain ⟨path, task⟩ := r
  cases task with
  | matching grammar interpret input =>
    have h : (runMatch grammar interpret input).Clean := by
      rw [runMatch_eq]
      exact (silent_attempt _ _).bind fun _ => clean_answerOutcome _
    exact h
  | parsing grammar | rendering grammar =>
    exact (silent_attempt _ _).bind fun _ => (sure_answer _ _).clean
  | dispatching input =>
    exact (silent_attempt _ _).bind fun _ => (silent_attempt _ _).bind fun _ =>
      clean_answerDispatch _
  -- the lines of a list follow one another, but none of them fails
  | listing =>
    exact (silent_attempt _ _).bind fun _ => (silent_attempt _ _).bind fun _ =>
      ((sure_lines _ _).bind fun _ => sure_pure _).clean

end Clean

/-- A match, compiled or not, and the dispatch to a configuration of this one command are reported
alike, if the grammar has only types that are there without registration. Whatever is requested, and
whatever the files, the reader of configurations and the system answer, it fails exactly for one of
the causes, and has written nothing then. -/
theorem reports_agree_and_failures_are_clean :
    (∀ (grammar : String) (d : Definition), Definition.parse grammar = .ok d →
      (∀ type ∈ d.typeNames, type = "word" ∨ type = "string") →
      ∀ (name input : String) (description config : Option String) (interpret : Bool)
        (env : Environment) (before : Output),
        Agree name (d.interpret input Resolvers.builtins ()) before
          (((⟨config, .matching grammar interpret input⟩ : Request).run env).report before)
          ((runDispatch ⟨some [⟨name, grammar, description⟩]⟩ input).report before)) ∧
      ∀ (r : Request) (env : Environment) (before : Output) (fault : RunFault),
        (((r.run env).report before).result = .error fault ↔ r.Faults env fault) ∧
          (((r.run env).report before).result = .error fault →
            ((r.run env).report before).output = before ∧
              ((r.run env).report before).code = 2) := by
  constructor
  · intro grammar d hparse htypes name input description config interpret env before
    exact agree_reports hparse htypes name description interpret input before
  · intro r env before fault
    refine ⟨⟨faults_of_run, run_of_faults⟩, fun h => ⟨clean_run r env before fault h, ?_⟩⟩
    rw [Report.code, h]

theorem reports_agree_and_failures_are_clean_ping :
    let grammar := "ping <n: word> [rest: string]"
    let d : Definition := [.literal ["ping"], .param ⟨"n", false, .typename "word"⟩,
      .param ⟨"rest", true, .typename "string"⟩]
    let broken : Request := ⟨none, .rendering "a <"⟩
    let fault := RunFault.grammar (.unclosedAngleBracket 2)
    let before : Output := [.text "earlier"]
    let env : Environment :=
      ⟨fun _ => .error "no text", fun _ => .unreadable ⟨"Permission denied (os error 13)"⟩,
        .error .notFound, none⟩
    Definition.parse grammar = .ok d ∧
      (∀ type ∈ d.typeNames, type = "word" ∨ type = "string") ∧
      (∀ input interpret, Agree "p" (d.interpret input Resolvers.builtins ()) before
        (((⟨none, .matching grammar interpret input⟩ : Request).run env).report before)
        ((runDispatch ⟨some [⟨"p", grammar, some "Answers"⟩]⟩ input).report before)) ∧
      broken.Faults env fault ∧ ((broken.run env).report before).result = .error fault ∧
      ((broken.run env).report before).output = before ∧
      ((broken.run env).report before).code = 2 := by
  intro grammar d broken fault before env
  have hparse : Definition.parse grammar = .ok d := by decide +kernel
  have htypes : ∀ type ∈ d.typeNames, type = "word" ∨ type = "string" := by decide
  have hbroken : broken.Faults env fault := .grammar rfl (by decide +kernel)
  have hclean := reports_agree_and_failures_are_clean.2 broken env before fault
  have hresult := hclean.1.2 hbroken
  exact ⟨hparse, htypes, fun input interpret => reports_agree_and_failures_are_clean.1 grammar d
    hparse htypes "p" input (some "Answers") none interpret env before, hbroken, hresult,
    hclean.2 hresult⟩

end Cli

end CommandGrammar
