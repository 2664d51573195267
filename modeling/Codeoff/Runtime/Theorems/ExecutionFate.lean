import Codeoff.Json.Lemmas.Object
import Codeoff.Runtime.ScheduledExecution

/-!
# 同じ機械と遠隔での実行の成否

同じ実行の結果が、二つの道で同じ成否として記録されるか。
-/

namespace Codeoff.Runtime.ExecutionFate

open Codeoff.Core Codeoff.Json Codeoff.State

theorem remoteResultValue_completed (summary : String) :
    remoteResultValue (completedJson summary) = .completed summary := by
  have hkeys : ([("schema_version", Value.int 1), ("summary", .str summary)].map Prod.fst).Nodup := by simp
  obtain ⟨members, hmembers, hlength⟩ := object_members hkeys
  have hversion : (completedJson summary).get "schema_version" = some (.int 1) := by
    simp [completedJson, get_object hkeys]
  have hsummary : (completedJson summary).get "summary" = some (.str summary) := by
    simp [completedJson, get_object hkeys]
  rw [show completedJson summary = .obj members from hmembers] at hversion hsummary ⊢
  simp [remoteResultValue, hversion, hsummary, hlength, asU64_one, Value.asStr]

theorem remoteResultValue_failure (kind message : String) :
    remoteResultValue (failureJson kind message) = .failed kind message := by
  have hkeys : ([("failure_kind", Value.str kind), ("message", .str message),
      ("schema_version", .int 1)].map Prod.fst).Nodup := by simp
  obtain ⟨members, hmembers, hlength⟩ := object_members hkeys
  have hversion : (failureJson kind message).get "schema_version" = some (.int 1) := by
    simp [failureJson, get_object hkeys]
  have hkind : (failureJson kind message).get "failure_kind" = some (.str kind) := by
    simp [failureJson, get_object hkeys]
  have hmessage : (failureJson kind message).get "message" = some (.str message) := by
    simp [failureJson, get_object hkeys]
  rw [show failureJson kind message = .obj members from hmembers] at hversion hkind hmessage ⊢
  simp [remoteResultValue, hversion, hkind, hmessage, hlength, asU64_one, Value.asStr]

def remoteOutcome : ScheduledExecutionResult → ExecutionResult
  | .completed summary => .completed summary
  | .interrupted _ _ => .failed "interrupted" "scheduled runner execution was interrupted"
  | .transportLost _ => .transportLost "scheduled remote runner reported outcome unknown"
  | .cleanupUnproven _ => .transportLost "scheduled remote runner outcome is unknown"
  | .failed failure => .failed (scheduledFailureKind failure.kind) (safeFailureSummary failure.kind)
  | .preflightRejected failure => .failed (scheduledFailureKind failure.kind) (safeFailureSummary failure.kind)

variable {binding : RunBinding} {preparationNonce : String} {signer : RunnerEvidenceSigner}
  {result : ScheduledExecutionResult} {message : RemoteMessage}

theorem runnerExecutionResult_some
    (h : runnerExecutionResult binding preparationNonce signer result = some message) :
    (resultContent result = none ∧ ∃ error, message = .error error) ∨
      ∃ kind value frame, resultContent result = some (kind, value) ∧ message = .result frame ∧
        frame.kind = kind ∧ frame.resultJson = value.render := by
  unfold runnerExecutionResult at h
  cases hcontent : resultContent result with
  | none =>
    rw [hcontent] at h
    cases h
    exact .inl ⟨rfl, _, rfl⟩
  | some content =>
    obtain ⟨kind, value⟩ := content
    rw [hcontent] at h
    obtain ⟨signedEvidence, _, h⟩ := Option.bind_eq_some_iff.mp h
    obtain ⟨signedCleanup, _, h⟩ := Option.bind_eq_some_iff.mp h
    cases h
    exact .inr ⟨kind, value, _, rfl, rfl, rfl, rfl⟩

theorem conclude_completed {frame : ResultFrame} {value : Value} (hkind : frame.kind = .completed)
    (hjson : frame.resultJson = value.render) (hparse : parse value.render = some value) :
    RemotePreparedExecution.conclude (.result frame) = remoteResultValue value := by
  simp [RemotePreparedExecution.conclude, remoteExecutionResult, hkind, hjson, hparse]

theorem conclude_runnerExecutionResult
    (h : runnerExecutionResult binding preparationNonce signer result = some message) :
    RemotePreparedExecution.conclude message = remoteOutcome result := by
  have hfailure (kind text : String) : parse (failureJson kind text).render = some (failureJson kind text) :=
    parse_object (by simp)
  rcases runnerExecutionResult_some h with ⟨hnone, error, rfl⟩ | ⟨kind, value, frame, hsome, rfl, rfl, hjson⟩
  · cases result with
    | cleanupUnproven failure => rfl
    | _ => simp [resultContent] at hnone
  · cases result with
    | completed summary =>
      simp only [resultContent, Option.some.injEq, Prod.mk.injEq] at hsome
      obtain ⟨hkind, rfl⟩ := hsome
      rw [conclude_completed hkind.symm hjson (parse_object (by simp)), remoteResultValue_completed]
      rfl
    | interrupted threadId turnId =>
      simp only [resultContent, Option.some.injEq, Prod.mk.injEq] at hsome
      obtain ⟨hkind, rfl⟩ := hsome
      rw [conclude_completed hkind.symm hjson (hfailure _ _), remoteResultValue_failure]
      rfl
    | failed failure =>
      simp only [resultContent, Option.some.injEq, Prod.mk.injEq] at hsome
      obtain ⟨hkind, rfl⟩ := hsome
      rw [conclude_completed hkind.symm hjson (hfailure _ _), remoteResultValue_failure]
      rfl
    | preflightRejected failure =>
      simp only [resultContent, Option.some.injEq, Prod.mk.injEq] at hsome
      obtain ⟨hkind, rfl⟩ := hsome
      rw [conclude_completed hkind.symm hjson (hfailure _ _), remoteResultValue_failure]
      rfl
    | transportLost failure =>
      simp only [resultContent, Option.some.injEq, Prod.mk.injEq] at hsome
      simp [RemotePreparedExecution.conclude, remoteExecutionResult, ← hsome.1, remoteOutcome]
    | cleanupUnproven failure => simp [resultContent] at hsome

variable (claim : ClaimedScheduledRun) (now : Int)

def fateOf (result : ExecutionResult) : Option (String ⊕ ScheduledExecutionDisposition) :=
  (commitExecutionResult claim result now).map RunCommit.fate

def NoRetry : Prop :=
  claim.policy.1.runRetryAt claim.binding.runId claim.binding.attempt claim.scheduledFor now = none

def KindKept : ScheduledFailureKind → Prop
  | .timedOut => False
  | .transport => False
  | .interrupted => NoRetry claim now
  | _ => True

def FateKept : ScheduledExecutionResult → Prop
  | .interrupted _ _ => NoRetry claim now
  | .failed failure => KindKept claim now failure.kind
  | .preflightRejected failure => KindKept claim now failure.kind
  | _ => True

variable {claim : ClaimedScheduledRun} {now : Int}

theorem fateOf_failed (kind text : String) : fateOf claim now (.failed kind text) = some (.inr (.terminal .failed)) := rfl

theorem fateOf_transportLost (text : String) :
    fateOf claim now (.transportLost text) = some (.inr (.terminal .outcomeUnknown)) := rfl

theorem runDeadlineAt_of_retry {policy : SchedulerOperationalPolicy} {runId : String}
    {attempt scheduledFor now retryAt : Int}
    (h : policy.runRetryAt runId attempt scheduledFor now = some retryAt) :
    ∃ deadlineAt, policy.runDeadlineAt scheduledFor = some deadlineAt := by
  obtain ⟨next, _, h⟩ := Option.bind_eq_some_iff.mp h
  obtain ⟨deadlineAt, hdeadline, _⟩ := Option.bind_eq_some_iff.mp h
  exact ⟨deadlineAt, hdeadline⟩

theorem retryDisposition_eq_terminal_iff (exhausted : ScheduledExecutionTerminal) :
    retryDisposition claim now exhausted = .terminal exhausted ↔ NoRetry claim now := by
  unfold retryDisposition NoRetry
  cases hretry : claim.policy.1.runRetryAt claim.binding.runId claim.binding.attempt claim.scheduledFor now with
  | none => simp
  | some retryAt =>
    obtain ⟨deadlineAt, hdeadline⟩ := runDeadlineAt_of_retry hretry
    simp [hdeadline]

theorem fateOf_interrupted_iff :
    fateOf claim now (.interrupted true) = some (.inr (.terminal .failed)) ↔ NoRetry claim now := by
  rw [← retryDisposition_eq_terminal_iff .failed]
  simp [fateOf, commitExecutionResult, failureCommit, executionFailureDisposition, RunCommit.fate]

theorem fateOf_timedOut_ne : fateOf claim now (.timedOut true) ≠ some (.inr (.terminal .failed)) := by
  have hne : retryDisposition claim now .timedOut ≠ .terminal .failed := by
    unfold retryDisposition
    split <;> simp
  simpa [fateOf, commitExecutionResult, failureCommit, executionFailureDisposition, RunCommit.fate] using hne

theorem failure_kept_iff (failure : ScheduledFailure) (kind text : String) :
    fateOf claim now (executionFailure failure) = fateOf claim now (.failed kind text) ↔
      KindKept claim now failure.kind := by
  rw [fateOf_failed]
  unfold executionFailure KindKept
  cases failure.kind with
  | timedOut => simp [fateOf_timedOut_ne]
  | interrupted => simp [fateOf_interrupted_iff]
  | transport => simp [fateOf_transportLost]
  | _ => simp [fateOf_failed]

theorem kept_iff (result : ScheduledExecutionResult) :
    fateOf claim now (CodexPreparedExecution.execute result) = fateOf claim now (remoteOutcome result) ↔
      FateKept claim now result := by
  cases result with
  | completed summary => simp [CodexPreparedExecution.execute, remoteOutcome, FateKept]
  | interrupted threadId turnId =>
    simp [CodexPreparedExecution.execute, remoteOutcome, FateKept, fateOf_failed, fateOf_interrupted_iff]
  | failed failure => exact failure_kept_iff failure _ _
  | preflightRejected failure => exact failure_kept_iff failure _ _
  | transportLost failure =>
    simp [CodexPreparedExecution.execute, remoteOutcome, FateKept, fateOf_transportLost]
  | cleanupUnproven failure =>
    simp [CodexPreparedExecution.execute, remoteOutcome, FateKept, fateOf_transportLost]

/-- 二つの道の成否が同じになるのは、結果が、時間切れでも通信の失敗でもなく、中断ならやり直しの許されないときである。時間の
割り当ては、どの方針でも同じである。 -/
theorem same_fate_iff (claim : ClaimedScheduledRun) (now : Int) (result : ScheduledExecutionResult)
    (binding : RunBinding) (preparationNonce : String) (signer : RunnerEvidenceSigner) (message : RemoteMessage)
    (hmessage : runnerExecutionResult binding preparationNonce signer result = some message) :
    (fateOf claim now (CodexPreparedExecution.execute result) =
        fateOf claim now (RemotePreparedExecution.conclude message) ↔ FateKept claim now result) ∧
      ∀ policy : SchedulerOperationalPolicy, policy.validate = .ok () →
        scheduledRequestDurations policy = CodexScheduledExecutionBackend.durations policy := by
  refine ⟨?_, fun policy _ => rfl⟩
  rw [conclude_runnerExecutionResult hmessage]
  exact kept_iff result

theorem samplePolicy_valid : SchedulerOperationalPolicy.validate {} = .ok () := by decide +kernel

def sampleClaim : ClaimedScheduledRun where
  binding := ⟨"scheduled:j:100", "j", 1, 1, "w"⟩
  scheduleId := "s"
  jobGeneration := 0
  scheduleGeneration := 0
  scheduledFor := 100
  coalescedThrough := 100
  definition := ⟨1, "\x7b\x7d"⟩
  capability := ⟨1, "d", "\x7b\x7d"⟩
  targets := []
  executionBaseline := ⟨0, none, none⟩
  policy := ⟨{}, samplePolicy_valid⟩

def sampleBinding : RunBinding := ⟨"scheduled:j:100", "j", 1, 1, "a", "p", 1, "c"⟩

def sampleSigner : RunnerEvidenceSigner where
  result _ := some "evidence"
  cleanup _ := some "cleanup"

/-- 中断された最初の試みには、やり直しが残っている。 -/
theorem sampleClaim_retries : ¬NoRetry sampleClaim 120 := by
  unfold NoRetry
  decide +kernel

/-- 中断された turn は、手元ではやり直し、遠隔では失敗として終わる。 -/
theorem interrupted_fate_lost :
    ¬ ∀ (claim : ClaimedScheduledRun) (now : Int) (result : ScheduledExecutionResult) (binding : RunBinding)
        (preparationNonce : String) (signer : RunnerEvidenceSigner) (message : RemoteMessage),
      runnerExecutionResult binding preparationNonce signer result = some message →
        fateOf claim now (CodexPreparedExecution.execute result) =
          fateOf claim now (RemotePreparedExecution.conclude message) := by
  intro hclaim
  obtain ⟨message, hmessage⟩ : ∃ message,
      runnerExecutionResult sampleBinding "n" sampleSigner (.interrupted "t" "u") = some message := ⟨_, rfl⟩
  have hsame := hclaim sampleClaim 120 (.interrupted "t" "u") _ _ _ message hmessage
  rw [conclude_runnerExecutionResult hmessage] at hsame
  exact sampleClaim_retries ((kept_iff (.interrupted "t" "u")).mp hsame)

/-- 拒まれた turn は、どちらの道でも失敗に終わる。 -/
theorem rejected_turn_same_fate : ∃ message,
    runnerExecutionResult sampleBinding "n" sampleSigner (.failed ⟨.turnFailed, "boom"⟩) = some message ∧
      fateOf sampleClaim 120 (CodexPreparedExecution.execute (.failed ⟨.turnFailed, "boom"⟩)) =
        fateOf sampleClaim 120 (RemotePreparedExecution.conclude message) := by
  refine ⟨_, rfl, ?_⟩
  exact (same_fate_iff sampleClaim 120 _ sampleBinding "n" sampleSigner _ rfl).1.mpr trivial

end Codeoff.Runtime.ExecutionFate
