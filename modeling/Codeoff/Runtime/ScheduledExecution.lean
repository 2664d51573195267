import Codeoff.Runtime.RemoteProtocol
import Codeoff.State.Settlement

/-!
# 準備の済んだ実行の結果と、その記録

実行の結果は、同じ機械では一度、遠隔では二度（実行者の枠と、仲介者の読み取り）訳されてから、記録の指示になる。実行の時間の
割り当ても、両方の側で方針から作る。
-/

namespace Codeoff.Runtime

open Codeoff.Core Codeoff.Json Codeoff.State

inductive ScheduledFailureKind where
  | invalidRequest
  | protocolIncompatible
  | capabilityMismatch
  | credentialIsolationUnproven
  | outputSchemaViolation
  | turnFailed
  | timedOut
  | interrupted
  | transport
deriving DecidableEq, Repr

structure ScheduledFailure where
  kind : ScheduledFailureKind
  message : String
deriving DecidableEq, Repr

/-- 準備の済んだ実行の結果。`completed` の値のうち、記録に使うのは要約だけである。 -/
inductive ScheduledExecutionResult where
  | completed (summary : String)
  | interrupted (threadId turnId : Option String)
  | failed (failure : ScheduledFailure)
  | transportLost (failure : ScheduledFailure)
  | cleanupUnproven (failure : ScheduledFailure)
  | preflightRejected (failure : ScheduledFailure)
deriving DecidableEq, Repr

inductive ExecutionResult where
  | completed (summary : String)
  | interrupted (transportConverged : Bool)
  | timedOut (transportConverged : Bool)
  | failed (kind message : String)
  | transportLost (message : String)
  | acceptedDispatch
  | empty
deriving DecidableEq, Repr

/-- `scheduled_failure_kind` と `failure_kind`。 -/
def scheduledFailureKind : ScheduledFailureKind → String
  | .invalidRequest => "invalid_request"
  | .protocolIncompatible => "protocol_incompatible"
  | .capabilityMismatch => "capability_mismatch"
  | .credentialIsolationUnproven => "credential_isolation_unproven"
  | .outputSchemaViolation => "output_schema_violation"
  | .turnFailed => "turn_failed"
  | .timedOut => "timed_out"
  | .interrupted => "interrupted"
  | .transport => "transport"

def executionFailure (failure : ScheduledFailure) : ExecutionResult :=
  match failure.kind with
  | .timedOut => .timedOut true
  | .interrupted => .interrupted true
  | .transport => .transportLost failure.message
  | kind => .failed (scheduledFailureKind kind) failure.message

def CodexPreparedExecution.execute : ScheduledExecutionResult → ExecutionResult
  | .completed summary => .completed summary
  | .interrupted _ _ => .interrupted true
  | .transportLost failure => .transportLost failure.message
  | .cleanupUnproven failure => .transportLost failure.message
  | .failed failure => executionFailure failure
  | .preflightRejected failure => executionFailure failure

def safeFailureSummary : ScheduledFailureKind → String
  | .invalidRequest => "scheduled runner request was rejected"
  | .protocolIncompatible => "scheduled runner protocol was rejected"
  | .capabilityMismatch => "scheduled runner capability was rejected"
  | .credentialIsolationUnproven => "scheduled runner credential isolation was not proven"
  | .outputSchemaViolation => "scheduled runner output was rejected"
  | .turnFailed => "scheduled runner turn failed"
  | .timedOut => "scheduled runner timed out"
  | .interrupted => "scheduled runner was interrupted"
  | .transport => "scheduled runner transport failed"

/-- 実行者の署名。署名する文面は、そのときまでの枠から作る。 -/
structure RunnerEvidenceSigner where
  result : ResultFrame → Option String
  cleanup : ResultFrame → Option String

def completedJson (summary : String) : Value := .object [("schema_version", .int 1), ("summary", .str summary)]

def failureJson (kind message : String) : Value :=
  .object [("failure_kind", .str kind), ("message", .str message), ("schema_version", .int 1)]

def resultContent : ScheduledExecutionResult → Option (RemoteResultKind × Value)
  | .cleanupUnproven _ => none
  | .completed summary => some (.completed, completedJson summary)
  | .transportLost _ => some (.outcomeUnknown, .object [("schema_version", .int 1)])
  | .failed failure =>
    some (.completed, failureJson (scheduledFailureKind failure.kind) (safeFailureSummary failure.kind))
  | .preflightRejected failure =>
    some (.completed, failureJson (scheduledFailureKind failure.kind) (safeFailureSummary failure.kind))
  | .interrupted _ _ =>
    some (.completed, failureJson "interrupted" "scheduled runner execution was interrupted")

/-- `execution_result`。署名に失敗すれば、枠を送らずに終わる。 -/
def runnerExecutionResult (binding : RunBinding) (preparationNonce : String) (signer : RunnerEvidenceSigner)
    (result : ScheduledExecutionResult) : Option RemoteMessage :=
  match resultContent result with
  | none => some (.error {
      binding := some binding
      preparationNonce := some preparationNonce
      code := "runner-cleanup-unproven"
      message := "scheduled runner cleanup was not proven"
      retryable := true })
  | some (kind, value) => do
    let unsigned : ResultFrame := {
      signedEvidenceJson := ""
      signedCleanupEvidenceJson := ""
      binding
      preparationNonce
      kind
      resultJson := value.render }
    let signedEvidenceJson ← signer.result unsigned
    let signed : ResultFrame := { unsigned with signedEvidenceJson }
    let signedCleanupEvidenceJson ← signer.cleanup signed
    return .result { signed with signedCleanupEvidenceJson }

def invalidRemoteResult : ExecutionResult :=
  .failed "remote_result_invalid" "scheduled remote result did not match schema"

def remoteResultValue (value : Value) : ExecutionResult :=
  match value with
  | .obj members =>
    if (value.get "schema_version").bind Value.asU64 ≠ some 1 then invalidRemoteResult
    else
      match members.length, (value.get "summary").bind Value.asStr, (value.get "failure_kind").bind Value.asStr,
        (value.get "message").bind Value.asStr with
      | 2, some summary, _, _ => .completed summary
      | 3, _, some kind, some message => .failed kind message
      | _, _, _, _ => invalidRemoteResult
  | _ => invalidRemoteResult

def remoteExecutionResult (result : ResultFrame) : ExecutionResult :=
  match result.kind with
  | .completed =>
    match parse result.resultJson with
    | none => invalidRemoteResult
    | some value => remoteResultValue value
  | .failedBeforeStart => .interrupted true
  | .outcomeUnknown => .transportLost "scheduled remote runner reported outcome unknown"

/-- `drive_start` が終わりの枠を受けてからの `RemotePreparedExecution::execute`。結果の枠でなければ、実行の成否はわからない。 -/
def RemotePreparedExecution.conclude : RemoteMessage → ExecutionResult
  | .result frame => remoteExecutionResult frame
  | _ => .transportLost "scheduled remote runner outcome is unknown"

/-- 許されればやり直し、許されなければ `exhausted` で終わる。 -/
def retryDisposition (claim : ClaimedScheduledRun) (now : Int) (exhausted : ScheduledExecutionTerminal) :
    ScheduledExecutionDisposition :=
  match claim.policy.1.runRetryAt claim.binding.runId claim.binding.attempt claim.scheduledFor now,
    claim.policy.1.runDeadlineAt claim.scheduledFor with
  | some retryAt, some deadlineAt => .retryAt retryAt deadlineAt claim.policy.1.runMaxAttempts exhausted
  | _, _ => .terminal exhausted

/-- `execution_failure_disposition`。成功は別に記録し、ここには来ない。 -/
def executionFailureDisposition (claim : ClaimedScheduledRun) (result : ExecutionResult) (now : Int) :
    Option (ScheduledExecutionDisposition × String × String) :=
  match result with
  | .interrupted true =>
    some (retryDisposition claim now .failed, "interrupted", "scheduled execution interrupted")
  | .timedOut true =>
    some (retryDisposition claim now .timedOut, "timed_out", "scheduled execution timed out")
  | .interrupted false | .timedOut false | .transportLost _ =>
    some (.terminal .outcomeUnknown, "transport_not_converged", "scheduled execution transport did not converge")
  | .failed _ _ => some (.terminal .failed, "turn_failed", "scheduled execution failed")
  | .acceptedDispatch =>
    some (.terminal .outcomeUnknown, "accepted_dispatch_without_result", "scheduled execution returned no final result")
  | .empty => some (.terminal .failed, "empty_result", "scheduled execution returned an empty result")
  | .completed _ => none

inductive RunCommit where
  | success (result : ScheduledRunResult)
  | outcome (disposition : ScheduledExecutionDisposition) (errorKind errorMessage : String)
deriving DecidableEq

def RunCommit.fate : RunCommit → String ⊕ ScheduledExecutionDisposition
  | .success result => .inl result.summary
  | .outcome disposition _ _ => .inr disposition

def failureCommit (claim : ClaimedScheduledRun) (result : ExecutionResult) (now : Int) : Option RunCommit :=
  (executionFailureDisposition claim result now).map fun outcome => .outcome outcome.1 outcome.2.1 outcome.2.2

/-- `commit_execution_result` が、保存領域に求めること。 -/
def commitExecutionResult (claim : ClaimedScheduledRun) (result : ExecutionResult) (now : Int) : Option RunCommit :=
  match result with
  | .completed summary =>
    if trim summary = "" then failureCommit claim .empty now
    else
      match ScheduledRunResult.new summary summary with
      | .ok result => some (.success result)
      | .error error => failureCommit claim (.failed "output_schema_violation" error.message) now
  | result => failureCommit claim result now

/-- `ScheduledCodexRequest` の時間。単位はナノ秒である。 -/
structure RunDurations where
  timeout : Nat
  interruptGrace : Nat
  terminateGrace : Nat
  killGrace : Nat
deriving DecidableEq, Repr

def nanosPerMilli : Nat := 1000000

def nanosPerSecond : Nat := 1000000000

def runDurations (runTimeoutSeconds runCancellationGraceMs : Nat) : RunDurations :=
  let cancellationGrace := runCancellationGraceMs * nanosPerMilli
  let third := cancellationGrace / 3
  { timeout := runTimeoutSeconds * nanosPerSecond
    interruptGrace := third
    terminateGrace := third
    killGrace := cancellationGrace - third - third }

/-- `CodexScheduledExecutionBackend::new`。 -/
def CodexScheduledExecutionBackend.durations (operationalPolicy : SchedulerOperationalPolicy) : RunDurations :=
  runDurations operationalPolicy.runTimeoutSeconds operationalPolicy.runCancellationGraceMs

/-- 実行者の `scheduled_request`。設定の方針の項目を、そのまま使う。 -/
def scheduledRequestDurations (scheduler : SchedulerOperationalPolicy) : RunDurations :=
  runDurations scheduler.runTimeoutSeconds scheduler.runCancellationGraceMs

end Codeoff.Runtime
