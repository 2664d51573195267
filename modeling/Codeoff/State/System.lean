import Codeoff.State.Retention

/-!
# 操作の全体と到達する状態

スケジューラの保存領域に対する操作を一つの型に並べ、一歩を「一つの操作を一つのトランザクションで行う」ことと
する。空の保存領域から何歩かで着く状態が、到達する状態である。
-/

namespace Codeoff.State

open Codeoff.Core Codeoff.Relational

inductive Op where
  | create (policy : Policy) (request : CreateScheduledJob)
  | update (policy : Policy) (request : UpdateScheduledJob)
  | pause (jobId : String) (expectedGeneration now : Int)
  | delete (jobId : String) (expectedGeneration now : Int)
  | resume (policy : Policy) (jobId : String) (expectedGeneration now : Int)
  | mutate (policy : Policy) (mutation : ScheduledJobMutation) (idempotency : ScheduleMutationIdempotency)
      (audit : Option ScheduleMutationAudit)
  | appendAudit (audit : ScheduleMutationAudit)
  | registerEpoch (authority : ScheduledExecutorEpochAuthority) (now : Int)
  | materialize (jobId : String) (expectedGeneration now : Int) (admission : Option AdmissionGuard)
  | claimRun (leaseOwner : String) (now : Int) (lease : Option Int) (admission : Option AdmissionGuard)
      (mutationNow : Int)
  | heartbeatRun (b : RunLeaseBinding) (now leaseExpiresAt : Int)
  | markExecuting (b : RunLeaseBinding) (profile : AttestedExecutionProfileSnapshot) (now : Int)
  | preflightFailure (b : RunLeaseBinding) (disposition : PreflightFailureDisposition ⊕ Bool)
      (errorKind errorMessage : String) (now : Int)
  | executionOutcome (evidenceId : String) (b : RunLeaseBinding)
      (disposition : ScheduledExecutionDisposition) (errorKind errorMessage : String) (now : Int)
  | completeSuccess (evidenceId : String) (b : RunLeaseBinding) (result : ScheduledRunResult)
      (completedAt : Int)
  | appendEvidence (evidenceId : String) (b : RunLeaseBinding) (kind : ScheduledRunLateEvidenceKind)
      (evidenceSha256 : String) (observedAt : Int)
  | reclaimRun (now : Int) (override : Option (Int × Int))
  | reconcileRun (c : ScheduledRunReconcileCandidate) (now : Int)
  | retryRun (request : SchedulerOperatorRequest) (runId : String) (expectedAttempt expectedFence : Int)
      (reasonJson reasonDigest : String) (nextAttemptAt : Int)
  | swapBaseline (u : UpdateExecutionBaseline)
  | prepareDelivery (deliveryId contentType body : String) (renderVersion : Nat) (now : Int)
      (policy : SkippedNoneBaselinePolicy)
  | peekDelivery (now : Int)
  | skipDelivery (a : ScheduledDeliveryAuthority) (now : Int)
  | rejectReadiness (a : ScheduledDeliveryAuthority) (errorKind : String) (now : Int)
  | claimDelivery (a : ScheduledDeliveryAuthority) (leaseOwner : String) (now first second third : Int)
  | claimNextDelivery (leaseOwner : String) (now leaseExpiresAt : Int)
  | heartbeatDelivery (b : ScheduledDeliveryBinding) (now leaseExpiresAt : Int)
  | completeDelivered (b : ScheduledDeliveryBinding) (receipt : String) (completedAt : Int)
  | completeFailure (b : ScheduledDeliveryBinding) (failure : ScheduledDeliveryFailure)
      (completedAt : Int)
  | reclaimDeliveries (now : Int) (limit : Nat)
  | reconcileDelivery (deliveryId : String) (expectedState : ScheduledDeliveryState)
      (expectedAttempt expectedFence expectedLeaseExpiresAt now : Int)
  | requeueDeliveries (now : Int) (limit : Nat)
  | retryDelivery (request : SchedulerOperatorRequest) (deliveryId : String)
      (expectedAttempt expectedFence : Int) (reasonJson reasonDigest : String)
  | actOnUnknown (request : SchedulerOperatorRequest) (deliveryId : String)
      (expectedAttempt expectedFence : Int) (action : ScheduledDeliveryUnknownAction)
  | pruneDelivery (operationId runId : String) (runCutoff deliveryCutoff now : Int)
      (e : RetentionExpectation)
  | pruneRun (operationId runId : String) (jobGeneration scheduleGeneration : Int)
      (state : ScheduledRunState) (terminalAt cutoffAt now : Int)

def discard {α : Type} (x : StoreTx α) : StoreTx Unit := do
  let _ ← x

def Op.run (E : Env) : Op → StoreTx Unit
  | .create policy request => createScheduledJob E policy request
  | .update policy request => discard (updateScheduledJob E policy request)
  | .pause jobId generation now => discard (pauseScheduledJob jobId generation now)
  | .delete jobId generation now => discard (deleteScheduledJob jobId generation now)
  | .resume policy jobId generation now => discard (resumeScheduledJob E policy jobId generation now)
  | .mutate policy mutation idempotency audit =>
    discard (applyIdempotentScheduleMutationWithAudit E policy mutation idempotency audit)
  | .appendAudit audit => appendScheduleAudit audit
  | .registerEpoch authority now => discard (registerScheduledExecutorEpoch authority now)
  | .materialize jobId generation now admission =>
    discard (materializeDueSchedule E jobId generation now admission)
  | .claimRun leaseOwner now lease admission mutationNow =>
    discard (claimNextScheduledRun leaseOwner now lease admission mutationNow)
  | .heartbeatRun b now leaseExpiresAt => heartbeatScheduledRun b now leaseExpiresAt
  | .markExecuting b profile now => markScheduledRunExecuting b profile now
  | .preflightFailure b disposition errorKind errorMessage now =>
    recordScheduledRunPreflightFailure b disposition errorKind errorMessage now
  | .executionOutcome evidenceId b disposition errorKind errorMessage now =>
    discard (recordScheduledRunExecutionOutcome E evidenceId b disposition errorKind errorMessage now)
  | .completeSuccess evidenceId b result completedAt =>
    discard (completeScheduledRunSuccess E evidenceId b result completedAt)
  | .appendEvidence evidenceId b kind evidenceSha256 observedAt =>
    discard (appendScheduledRunLateEvidence evidenceId b kind evidenceSha256 observedAt)
  | .reclaimRun now override => discard (reclaimNextExpiredScheduledRun E now override)
  | .reconcileRun c now => discard (reconcileScheduledRunCandidate E c now)
  | .retryRun request runId attempt fence reasonJson reasonDigest nextAttemptAt =>
    discard (operatorRetryScheduledRun E request runId attempt fence reasonJson reasonDigest
      nextAttemptAt)
  | .swapBaseline u => discard (compareAndSwapExecutionBaseline u)
  | .prepareDelivery deliveryId contentType body renderVersion now policy =>
    discard (prepareScheduledDelivery E deliveryId contentType body renderVersion now policy)
  | .peekDelivery now => discard (peekScheduledDeliveryWork E now)
  | .skipDelivery a now => discard (skipScheduledDeliveryUnchanged E a now)
  | .rejectReadiness a errorKind now => discard (rejectScheduledDeliveryReadiness E a errorKind now)
  | .claimDelivery a leaseOwner now first second third =>
    discard (claimScheduledDelivery E a leaseOwner now first second third)
  | .claimNextDelivery leaseOwner now leaseExpiresAt =>
    discard (claimNextScheduledDelivery E leaseOwner now leaseExpiresAt)
  | .heartbeatDelivery b now leaseExpiresAt => heartbeatScheduledDelivery b now leaseExpiresAt
  | .completeDelivered b receipt completedAt => completeScheduledDeliveryDelivered b receipt completedAt
  | .completeFailure b failure completedAt => completeScheduledDeliveryFailure b failure completedAt
  | .reclaimDeliveries now limit => discard (reclaimExpiredScheduledDeliveries now limit)
  | .reconcileDelivery deliveryId state attempt fence leaseExpiresAt now =>
    discard (reconcileExpiredScheduledDelivery deliveryId state attempt fence leaseExpiresAt now)
  | .requeueDeliveries now limit => discard (requeueDueScheduledDeliveries now limit)
  | .retryDelivery request deliveryId attempt fence reasonJson reasonDigest =>
    discard (operatorRetryScheduledDelivery E request deliveryId attempt fence reasonJson reasonDigest)
  | .actOnUnknown request deliveryId attempt fence action =>
    discard (operatorActOnUnknownDelivery E request deliveryId attempt fence action)
  | .pruneDelivery operationId runId runCutoff deliveryCutoff now e =>
    pruneScheduledDeliveryHistory operationId runId runCutoff deliveryCutoff now e
  | .pruneRun operationId runId jobGeneration scheduleGeneration state terminalAt cutoffAt now =>
    pruneTerminalScheduledRunHistory operationId runId jobGeneration scheduleGeneration state
      terminalAt cutoffAt now

def Op.clock : Op → Int
  | .create _ request => request.now
  | .update _ request => request.now
  | .pause _ _ now => now
  | .delete _ _ now => now
  | .resume _ _ _ now => now
  | .mutate _ mutation _ _ => mutation.now
  | .appendAudit audit => audit.occurredAt
  | .registerEpoch _ now => now
  | .materialize _ _ now _ => now
  | .claimRun _ now _ _ _ => now
  | .heartbeatRun _ now _ => now
  | .markExecuting _ _ now => now
  | .preflightFailure _ _ _ _ now => now
  | .executionOutcome _ _ _ _ _ now => now
  | .completeSuccess _ _ _ completedAt => completedAt
  | .appendEvidence _ _ _ _ observedAt => observedAt
  | .reclaimRun now _ => now
  | .reconcileRun _ now => now
  | .retryRun request _ _ _ _ _ _ => request.occurredAt
  | .swapBaseline u => u.completedAt
  | .prepareDelivery _ _ _ _ now _ => now
  | .peekDelivery now => now
  | .skipDelivery _ now => now
  | .rejectReadiness _ _ now => now
  | .claimDelivery _ _ now _ _ _ => now
  | .claimNextDelivery _ now _ => now
  | .heartbeatDelivery _ now _ => now
  | .completeDelivered _ _ completedAt => completedAt
  | .completeFailure _ _ completedAt => completedAt
  | .reclaimDeliveries now _ => now
  | .reconcileDelivery _ _ _ _ _ now => now
  | .requeueDeliveries now _ => now
  | .retryDelivery request _ _ _ _ _ => request.occurredAt
  | .actOnUnknown request _ _ _ _ => request.occurredAt
  | .pruneDelivery _ _ _ _ now _ => now
  | .pruneRun _ _ _ _ _ _ _ now => now

def Op.apply (E : Env) (op : Op) (s : Store) : Store := (commit (op.run E) s).2

def Step (E : Env) (s s' : Store) : Prop := ∃ op : Op, op.apply E s = s'

def Reachable (E : Env) (s : Store) : Prop := Relation.ReflTransGen (Step E) .empty s

/-- 時刻が後戻りしない実行で到達する状態と、最後に読んだ時刻。 -/
inductive ReachableAt (E : Env) : Store → Int → Prop where
  | start (t : Int) : ReachableAt E .empty t
  | step {s : Store} {t : Int} (op : Op) (reached : ReachableAt E s t) (le : t ≤ op.clock) :
      ReachableAt E (op.apply E s) op.clock

end Codeoff.State
