import Codeoff.Codex.Lemmas.ScheduledTurn

/-!
# 確かな結果と、終わりを見届けた後始末

回線を開いてからの断りと、実行の結果は、成否のわからないものを除いて、プロセスの終わりを見届けてから返る。
-/

namespace Codeoff.Codex

open Codeoff.Control Codeoff.Json Codeoff.Runtime

def Definite : ScheduledExecutionResult → Prop
  | .transportLost _ => False
  | .cleanupUnproven _ => False
  | _ => True

def PrepareChecks.Opened (checks : PrepareChecks) : Prop :=
  checks.validateRequest = none ∧ checks.validateIsolationPermit = none ∧ checks.transportFactory = none

/-- 回線を開いてからの断りが確かなら、その前にプロセスの終わりを見届けている。 -/
def RejectsCleanly (env : ScheduledEnv) (checks : PrepareChecks) (request : ScheduledCodexRequest) (githubMcp : Bool)
    (w : Wire Poll ScheduledLog) : Prop :=
  ∀ r w', checks.Opened → (prepare env checks request githubMcp).run w = .done (.error r) w' → Definite r →
    ReapedBetween w.log w'.log

def PrepareChecks.Dropped (checks : PrepareChecks) : Prop :=
  checks.Opened ∧ (checks.attestRuntime.isSome ∨ checks.runDeadlineFits = false)

variable {env : ScheduledEnv} {checks : PrepareChecks} {request : ScheduledCodexRequest} {githubMcp : Bool}

/-! ## 断り -/

theorem rejects_definite {before : ScheduledLog} :
    Rejects env (before.events <+: ·) fun r events =>
      Definite r → .reaped (.ok .exited) ∈ events.drop before.events.length := by
  intro result w outcome w' hw hrun hdefinite
  obtain ⟨shutdown, log, hshutdown, ⟨hextends, -⟩, hok, hreaped⟩ := @boundedShutdown_run env w
  rw [hshutdown] at hrun
  cases hrun
  cases outcome with
  | error f => exact hdefinite.elim
  | ok a => exact @ReapedBetween.of_extends _ w.log _ hw (hreaped.mpr (hok.mp rfl)) hextends

theorem prepareProtocol_rejects {w w' : Wire Poll ScheduledLog} {r : ScheduledExecutionResult}
    (hrun : (prepareProtocol env request githubMcp).run w = .done (.error r) w') (hdefinite : Definite r) :
    ReapedBetween w.log w'.log :=
  prepareProtocol_prepares growing_extends.steady rejects_definite w _ w' (List.prefix_refl _) hrun hdefinite

theorem dropPreparation_run (result : ScheduledExecutionResult) (w : Wire Poll ScheduledLog) :
    ∃ w', (dropPreparation env result : Preparation PreparedCodexExecution).run w = .done (.error result) w' ∧
      (ReapedBetween w.log w'.log ↔ Reaps env w.log.events.length) := by
  obtain ⟨outcome, log, hshutdown, -, -, hreaped⟩ := @boundedShutdown_run env w
  exact ⟨_, by rw [dropPreparation, ExceptT.run_mk, Session.bind_done _ hshutdown]; rfl, hreaped⟩

theorem prepare_opened (hopened : checks.Opened) :
    prepare env checks request githubMcp =
      match checks.attestRuntime with
      | some f => dropPreparation env (.preflightRejected f)
      | none =>
        if checks.runDeadlineFits then prepareProtocol env request githubMcp
        else dropPreparation env (.preflightRejected (preflight "scheduled_run_deadline_overflow")) := by
  obtain ⟨hrequest, hpermit, hfactory⟩ := hopened
  cases hattest : checks.attestRuntime <;> simp only [prepare, hrequest, hpermit, hfactory, hattest]

theorem prepare_dropped (hdropped : checks.Dropped) :
    ∃ f, prepare env checks request githubMcp = dropPreparation env (.preflightRejected f) := by
  rw [prepare_opened hdropped.1]
  cases hattest : checks.attestRuntime with
  | some f => exact ⟨f, rfl⟩
  | none =>
    have hfits : checks.runDeadlineFits = false := by simpa [hattest] using hdropped.2
    exact ⟨preflight "scheduled_run_deadline_overflow", by simp [hfits]⟩

theorem prepare_protocol (hopened : checks.Opened) (hkept : ¬checks.Dropped) :
    prepare env checks request githubMcp = prepareProtocol env request githubMcp := by
  simp only [PrepareChecks.Dropped, hopened, true_and, not_or, Option.not_isSome_iff_eq_none] at hkept
  rw [prepare_opened hopened, hkept.1]
  simp [hkept.2]

theorem rejectsCleanly_iff {w : Wire Poll ScheduledLog} :
    RejectsCleanly env checks request githubMcp w ↔ (checks.Dropped → Reaps env w.log.events.length) := by
  constructor
  · intro h hdropped
    obtain ⟨f, hprepare⟩ := @prepare_dropped env _ request githubMcp hdropped
    obtain ⟨w', hrun, hreaped⟩ := @dropPreparation_run env (.preflightRejected f) w
    exact hreaped.mp (h (.preflightRejected f) w' hdropped.1 (by rw [hprepare]; exact hrun) trivial)
  · intro h r w' hopened hrun hdefinite
    by_cases hdropped : checks.Dropped
    · obtain ⟨f, hprepare⟩ := @prepare_dropped env _ request githubMcp hdropped
      obtain ⟨w'', hrun', hreaped⟩ := @dropPreparation_run env (.preflightRejected f) w
      rw [hprepare, hrun'] at hrun
      cases hrun
      exact hreaped.mpr (h hdropped)
    · rw [prepare_protocol hopened hdropped] at hrun
      exact prepareProtocol_rejects hrun hdefinite

theorem executePrepared_reaped {threadId : String} {cancelled : Bool} {w w' : Wire Poll ScheduledLog}
    {r : ScheduledExecutionResult} (hrun : executePrepared env request githubMcp threadId cancelled w = .done r w')
    (hdefinite : Definite r) : ReapedBetween w.log w'.log := by
  cases hprotocol : executePreparedProtocol env request githubMcp threadId cancelled w with
  | waiting w₁ => rw [executePrepared, Session.bind_waiting _ hprotocol] at hrun; cases hrun
  | done result w₁ =>
    have hextends : Extends w.log w₁.log := by
      have hkeeps := @executePreparedProtocol_keeps env _ githubMcp threadId request cancelled
          (@growing_extends w.log.events) w (List.prefix_refl _)
      rwa [hprotocol] at hkeeps
    obtain ⟨outcome, log, hshutdown, ⟨hafter, -⟩, hok, hreaped⟩ := @boundedShutdown_run env w₁
    rw [executePrepared, Session.bind_done _ hprotocol, Session.bind_done _ hshutdown] at hrun
    cases outcome with
    | error f => cases hrun; exact hdefinite.elim
    | ok a =>
      cases hrun
      exact ReapedBetween.of_extends hextends (hreaped.mpr (hok.mp rfl)) hafter

theorem shutdownWithoutExecute_reaped {w w' : Wire Poll ScheduledLog} {outcome : Except ScheduledExecutionResult Unit}
    (hrun : (PreparedCodexExecution.shutdownWithoutExecute env).run w = .done outcome w')
    (hdefinite : ∀ r, outcome = .error r → Definite r) : ReapedBetween w.log w'.log := by
  obtain ⟨shutdown, log, hshutdown, -, hok, hreaped⟩ := @boundedShutdown_run env w
  rw [PreparedCodexExecution.shutdownWithoutExecute, ExceptT.run_mk, Session.bind_done _ hshutdown] at hrun
  cases shutdown with
  | error f => cases hrun; exact (hdefinite _ rfl).elim
  | ok a => cases hrun; exact hreaped.mpr (hok.mp rfl)

/-- 準備の断りが終わりを見届けるのは、後始末の成否を見ない断りで、後始末が終わりを見届けるときに限る。実行と、実行しない後始末は、いつも
見届ける。 -/
theorem definite_results_reaped (env : ScheduledEnv) (checks : PrepareChecks) (request : ScheduledCodexRequest)
    (githubMcp : Bool) (w : Wire Poll ScheduledLog) :
    (RejectsCleanly env checks request githubMcp w ↔ (checks.Dropped → Reaps env w.log.events.length)) ∧
      (∀ (prepared : PreparedCodexExecution) cancelled r w', prepared.execute env cancelled w = .done r w' →
        Definite r → ReapedBetween w.log w'.log) ∧
      ∀ outcome w', (PreparedCodexExecution.shutdownWithoutExecute env).run w = .done outcome w' →
        (∀ r, outcome = .error r → Definite r) → ReapedBetween w.log w'.log :=
  ⟨rejectsCleanly_iff, fun _ _ _ _ hrun hdefinite => executePrepared_reaped hrun hdefinite,
    fun _ _ hrun hdefinite => shutdownWithoutExecute_reaped hrun hdefinite⟩

def staleVersion : PrepareChecks where
  validateRequest := none
  validateIsolationPermit := none
  transportFactory := none
  attestRuntime := some (capability "codex_version_mismatch")
  runDeadlineFits := true

def brokenEnv : ScheduledEnv where
  version := "0"
  writeJson := fun _ => some "write failed"
  closeStdin := fun _ => some "close failed"
  terminateProcessGroup := fun _ => some "terminate failed"
  killProcessGroup := fun _ => some "kill failed"
  reapUntil := fun _ => .error "reap failed"
  deadlineFits := fun _ => true
  github := ⟨"0", fun _ => .error "connect failed"⟩
  others := fun _ => none

def nightlyRequest : ScheduledCodexRequest where
  task := {
    taskId := "scheduled:run:1:1"
    instruction := "Summarise open issues."
    source := .scheduledRun "job" "run" "0"
    principal := .service "codeoff-scheduler"
    session := .fresh
    channel := none
    previousSuccess := none
    toolPolicy := .none
    feedbackTarget := none }
  cwd := "/work"

/-- 版の違いによる断りは、止められないプロセスを残しても `PreflightRejected` である。 -/
theorem staleVersion_unreaped : ¬RejectsCleanly brokenEnv staleVersion nightlyRequest true ⟨[], .empty⟩ := by
  rw [rejectsCleanly_iff]
  intro h
  exact absurd (h ⟨⟨rfl, rfl, rfl⟩, .inl rfl⟩).1 (by decide)

end Codeoff.Codex
