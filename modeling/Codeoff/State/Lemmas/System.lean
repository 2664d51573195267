import Codeoff.State.Lemmas.DeliveryOutcome
import Codeoff.State.System

/-!
# どの一歩も効果の並びである

操作ごとの補題を一つにまとめる。
-/

namespace Codeoff.State

open Codeoff.Core Codeoff.Relational

variable {E : Env} {s s' : Store} {u : Unit}

theorem discard_ok {α : Type} {x : StoreTx α} (h : discard x s = .ok (u, s')) :
    ∃ a, x s = .ok (a, s') := by
  obtain ⟨a, s1, h1, h⟩ := Tx.bind_ok.mp h
  cases h
  exact ⟨a, h1⟩

def Op.origin : Op → Origin
  | .create .. | .update .. | .pause .. | .delete .. | .resume .. | .mutate .. => .job
  | .materialize jobId _ _ _ => .materialize jobId
  | .retryRun _ runId _ _ _ _ _ => .retry runId
  | .swapBaseline _ => .swap
  | .peekDelivery .. | .skipDelivery .. | .rejectReadiness .. | .claimDelivery ..
  | .claimNextDelivery .. => .queue
  | .prepareDelivery deliveryId _ _ renderVersion _ policy =>
    .prepare deliveryId renderVersion (policy == .accept)
  | .actOnUnknown _ deliveryId _ _ action => .resolve deliveryId (action.afterState == .delivered)
  | .pruneDelivery _ runId .. => .prune runId
  | _ => .work

/-- どの操作も、その時計と由来の効果の列である。不変条件は、効果ごとに確かめればよい。 -/
theorem Op.run_effects {op : Op} (h : op.run E s = .ok (u, s')) :
    Relation.ReflTransGen (Effect E op.clock op.origin) s s' := by
  cases op with
  | create policy request => exact .single (createScheduledJob_effect h)
  | update policy request =>
    obtain ⟨_, h⟩ := discard_ok h
    exact .single (updateScheduledJob_effect h)
  | pause jobId generation now =>
    obtain ⟨_, h⟩ := discard_ok h
    exact .single (setJobInactive_effect h)
  | delete jobId generation now =>
    obtain ⟨_, h⟩ := discard_ok h
    exact .single (setJobInactive_effect h)
  | resume policy jobId generation now =>
    obtain ⟨_, h⟩ := discard_ok h
    exact .single (resumeScheduledJob_effect h)
  | mutate policy mutation idempotency audit =>
    obtain ⟨_, h⟩ := discard_ok h
    exact applyIdempotentScheduleMutationWithAudit_effects h
  | appendAudit audit => exact .single (appendScheduleAudit_effect h)
  | registerEpoch authority now =>
    obtain ⟨_, h⟩ := discard_ok h
    exact .single (registerScheduledExecutorEpoch_effect h)
  | materialize jobId generation now admission =>
    obtain ⟨_, h⟩ := discard_ok h
    exact materializeDueSchedule_effects h
  | claimRun leaseOwner now lease admission mutationNow =>
    obtain ⟨_, h⟩ := discard_ok h
    exact claimNextScheduledRun_effects h
  | heartbeatRun b now leaseExpiresAt => exact .single (heartbeatScheduledRun_effect h)
  | markExecuting b profile now => exact .single (markScheduledRunExecuting_effect h)
  | preflightFailure b disposition errorKind errorMessage now =>
    exact .single (recordScheduledRunPreflightFailure_effect h)
  | executionOutcome evidenceId b disposition errorKind errorMessage now =>
    obtain ⟨_, h⟩ := discard_ok h
    exact .single (recordScheduledRunExecutionOutcome_effect h)
  | completeSuccess evidenceId b result completedAt =>
    obtain ⟨_, h⟩ := discard_ok h
    exact .single (completeScheduledRunSuccess_effect h)
  | appendEvidence evidenceId b kind evidenceSha256 observedAt =>
    obtain ⟨_, h⟩ := discard_ok h
    exact .single (appendScheduledRunLateEvidence_effect h)
  | reclaimRun now override =>
    obtain ⟨_, h⟩ := discard_ok h
    exact .single (reclaimNextExpiredScheduledRun_effect h)
  | reconcileRun c now =>
    obtain ⟨_, h⟩ := discard_ok h
    exact .single (reconcileScheduledRunCandidate_effect h)
  | retryRun request runId attempt fence reasonJson reasonDigest nextAttemptAt =>
    obtain ⟨_, h⟩ := discard_ok h
    exact operatorRetryScheduledRun_effects h
  | swapBaseline v =>
    obtain ⟨_, h⟩ := discard_ok h
    exact .single (compareAndSwapExecutionBaseline_effect h)
  | prepareDelivery deliveryId contentType body renderVersion now policy =>
    obtain ⟨_, h⟩ := discard_ok h
    exact prepareScheduledDelivery_effects h
  | peekDelivery now =>
    obtain ⟨_, h⟩ := discard_ok h
    exact peekScheduledDeliveryWork_effects h
  | skipDelivery a now =>
    obtain ⟨_, h⟩ := discard_ok h
    exact .single (skipScheduledDeliveryUnchanged_effect h)
  | rejectReadiness a errorKind now =>
    obtain ⟨_, h⟩ := discard_ok h
    exact .single (rejectScheduledDeliveryReadiness_effect h)
  | claimDelivery a leaseOwner now first second third =>
    obtain ⟨_, h⟩ := discard_ok h
    exact claimScheduledDelivery_effects h
  | claimNextDelivery leaseOwner now leaseExpiresAt =>
    obtain ⟨_, h⟩ := discard_ok h
    exact .single (claimNextScheduledDelivery_effect h)
  | heartbeatDelivery b now leaseExpiresAt => exact .single (heartbeatScheduledDelivery_effect h)
  | completeDelivered b receipt completedAt => exact .single (completeScheduledDeliveryDelivered_effect h)
  | completeFailure b failure completedAt => exact .single (completeScheduledDeliveryFailure_effect h)
  | reclaimDeliveries now limit =>
    obtain ⟨_, h⟩ := discard_ok h
    exact reclaimExpiredScheduledDeliveries_effects h
  | reconcileDelivery deliveryId state attempt fence leaseExpiresAt now =>
    obtain ⟨_, h⟩ := discard_ok h
    exact .single (reconcileExpiredScheduledDelivery_effect h)
  | requeueDeliveries now limit =>
    obtain ⟨_, h⟩ := discard_ok h
    exact requeueDueScheduledDeliveries_effects h
  | retryDelivery request deliveryId attempt fence reasonJson reasonDigest =>
    obtain ⟨_, h⟩ := discard_ok h
    exact operatorRetryScheduledDelivery_effects h
  | actOnUnknown request deliveryId attempt fence action =>
    obtain ⟨_, h⟩ := discard_ok h
    exact operatorActOnUnknownDelivery_effects h
  | pruneDelivery operationId runId runCutoff deliveryCutoff now e =>
    exact pruneScheduledDeliveryHistory_effects h
  | pruneRun operationId runId jobGeneration scheduleGeneration state terminalAt cutoffAt now =>
    exact pruneTerminalScheduledRunHistory_effects h

theorem Op.apply_effects (op : Op) (s : Store) :
    Relation.ReflTransGen (Effect E op.clock op.origin) s (op.apply E s) := by
  unfold Op.apply commit
  cases h : op.run E s with
  | error e => exact .refl
  | ok r => exact Op.run_effects h

theorem Reachable.invariant {I : Store → Prop} (h0 : I .empty)
    (hstep : ∀ {now k s s'}, I s → Effect E now k s s' → I s') (h : Reachable E s) : I s := by
  refine invariant_of_steps ?_ h0 h
  rintro a b ha ⟨op, rfl⟩
  exact invariant_of_steps (fun _ _ => hstep) ha (op.apply_effects a)

theorem ReachableAt.reachable {t : Int} (h : ReachableAt E s t) : Reachable E s := by
  induction h with
  | start t => exact .refl
  | step op _ _ ih => exact ih.tail ⟨op, rfl⟩

end Codeoff.State
