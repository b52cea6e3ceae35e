import CommandGrammar.Cli.Report

/-!
# The order of writes

What an action writes before it fails is not taken back. An action is clean all the same if it
fails only as long as nothing was written: it begins with steps that do not write, and what follows
the first line cannot fail.
-/

set_option autoImplicit false

namespace CommandGrammar.Cli.Run

variable {ε α β : Type} {action : Run α} {go : α → Run β} {before : Output} {fault : RunFault}

theorem report_bind (action : Run α) (go : α → Run β) (before : Output) :
    Run.report (action >>= go) before =
      match action.report before with
      | ⟨.ok value, output⟩ => (go value).report output
      | ⟨.error fault, output⟩ => ⟨.error fault, output⟩ := by
  rw [Run.report, Run.report, ExceptT.run_bind, StateT.run_bind]
  cases action.run.run before with
  | mk result output => cases result <;> rfl

def Silent (action : Run α) : Prop :=
  ∀ before, (action.report before).output = before

def Sure (action : Run α) : Prop :=
  ∀ before fault, (action.report before).result ≠ .error fault

def Clean (action : Run α) : Prop :=
  ∀ before fault, (action.report before).result = .error fault →
    (action.report before).output = before

theorem Silent.clean (h : action.Silent) : action.Clean :=
  fun before _ _ => h before

theorem Sure.clean (h : action.Sure) : action.Clean :=
  fun before fault hfault => absurd hfault (h before fault)

theorem Sure.bind (h : action.Sure) (hgo : ∀ value, (go value).Sure) :
    Run.Sure (action >>= go) := by
  intro before fault
  rw [report_bind]
  cases hreport : action.report before with
  | mk result output =>
    cases result with
    | ok value => exact hgo value output fault
    | error e => exact absurd (congrArg Report.result hreport) (h before e)

/-- What follows a step that does not write may still fail. -/
theorem Silent.bind (h : action.Silent) (hgo : ∀ value, (go value).Clean) :
    Run.Clean (action >>= go) := by
  intro before fault
  rw [report_bind]
  cases hreport : action.report before with
  | mk result output =>
    have houtput : output = before := (congrArg Report.output hreport).symm.trans (h before)
    subst houtput
    cases result with
    | ok value => exact hgo value output fault
    | error e => exact fun _ => rfl

theorem silent_throw (fault : RunFault) : Run.Silent (throw fault : Run α) :=
  fun _ => rfl

theorem silent_attempt (result : Except ε α) (wrap : ε → RunFault) :
    (attempt result wrap).Silent := by
  cases result <;> exact fun _ => rfl

theorem sure_pure (value : α) : Run.Sure (pure value : Run α) := by
  intro before fault h
  cases h

theorem sure_writeLine (line : Line) : (writeLine line).Sure := by
  intro before fault h
  cases h

theorem sure_lines (lines : List α) (line : α → Line) :
    Run.Sure (lines.forM fun entry => writeLine (line entry)) := by
  induction lines with
  | nil => exact sure_pure _
  | cons entry rest ih => exact (sure_writeLine _).bind fun _ => ih

theorem report_attempt_bind (result : Except ε α) (wrap : ε → RunFault) (go : α → Run β)
    (before : Output) :
    Run.report (attempt result wrap >>= go) before =
      match result with
      | .ok value => (go value).report before
      | .error error => ⟨.error (wrap error), before⟩ := by
  cases result <;> rfl

theorem attempt_bind_error_iff {result : Except ε α} {wrap : ε → RunFault} :
    (Run.report (attempt result wrap >>= go) before).result = .error fault ↔
      (∃ error, result = .error error ∧ wrap error = fault) ∨
        ∃ value, result = .ok value ∧ ((go value).report before).result = .error fault := by
  rw [report_attempt_bind]
  cases result <;> simp

end CommandGrammar.Cli.Run
