import Codeoff.State.Runs

/-!
# 実行の決着

準備の失敗、実行の結果、期限切れの貸与の回収、運用者による再実行。どれも実行を、再試行の待ち（pending）か終わりの状態
へ移す。
-/

namespace Codeoff.State

open Codeoff.Core Codeoff.Relational

inductive LateEvidenceAppendOutcome where
  | recorded
  | duplicate
  | quotaExceeded
deriving DecidableEq, Repr

/-- `evidenceId` は乱数から作られる識別子である。 -/
def appendLateEvidence (evidenceId : String) (b : RunLeaseBinding) (kind : ScheduledRunLateEvidenceKind)
    (evidenceDigest : String) (observedAt : Int) : StoreTx LateEvidenceAppendOutcome := do
  let duplicate ← Tx.read fun s => s.lateEvidence.rows.any fun e => e.runId == b.runId
    && e.attempt == b.attempt && e.fence == b.fence && e.kind == kind
    && e.evidenceDigest == evidenceDigest
  if duplicate then return .duplicate
  let count ← Tx.read fun s => s.lateEvidence.rows.countP fun e =>
    e.runId == b.runId && e.attempt == b.attempt
  if count ≥ maxLateEvidence then return .quotaExceeded
  statement Store.lateEvidence (fun s T => { s with lateEvidence := T }) fun s T =>
    inserted (T.insert (lateEvidenceTriggers s)
      { evidenceId, runId := b.runId, attempt := b.attempt, fence := b.fence, kind, evidenceDigest,
        observedAt })
  let known ← Tx.read fun s => s.attempts.rows.any fun a => a.runId == b.runId
    && a.attempt == b.attempt && a.fence == b.fence
  Tx.require known (.scheduler .foreignKey)
  return .recorded

def appendScheduledRunLateEvidence (evidenceId : String) (b : RunLeaseBinding)
    (kind : ScheduledRunLateEvidenceKind) (evidenceSha256 : String) (observedAt : Int) :
    StoreTx LateEvidenceAppendOutcome := do
  Tx.check b.validate
  Tx.require (isLowercaseSha256 evidenceSha256) (.invalidSchedulerState
    "scheduled late evidence digest must be lowercase sha256")
  appendLateEvidence evidenceId b kind evidenceSha256 observedAt

def liveExecution (b : RunLeaseBinding) (now : Int) (s : Store) :
    Option (ScheduledRunRow × RunAttemptRow) := do
  let r ← s.runs.rows.find? fun r => b.ownsRun r && r.state == .executing
    && r.leaseExpiresAt.any (now < ·)
  let a ← s.attempts.rows.find? fun a => isCurrentAttempt r a && a.state == .executing
    && now < a.leaseExpiresAt
  return (r, a)

inductive PreflightFailureDisposition where
  | retryAt (retryAt : Int)
  | fail
deriving DecidableEq, Repr

def retriedRun (retryAt : Int) (now : Int) (r : ScheduledRunRow) : ScheduledRunRow :=
  { r with state := .pending, nextAttemptAt := some retryAt, leaseOwner := none, leaseExpiresAt := none,
           overlapSlot := some 1, errorKind := none, errorMessage := none, updatedAt := now }

/-- 誤りを持つ終わりの状態にする。結果の分からない実行だけは、実行枠を占めたままである。 -/
def settledRun (state : ScheduledRunState) (errorKind errorMessage : String) (now : Int)
    (r : ScheduledRunRow) : ScheduledRunRow :=
  { r with state, nextAttemptAt := none, leaseOwner := none, leaseExpiresAt := none,
           overlapSlot := if state = .outcomeUnknown then some 1 else none,
           errorKind := some errorKind, errorMessage := some errorMessage, updatedAt := now }

def closedAttempt (state : RunAttemptState) (errorKind errorMessage : String) (now : Int)
    (a : RunAttemptRow) : RunAttemptRow :=
  { a with state, completedAt := some now, errorKind := some errorKind,
           errorMessage := some errorMessage }

def rejectedAttempt (state : RunAttemptState) (errorKind errorMessage : String) (now : Int)
    (a : RunAttemptRow) : RunAttemptRow :=
  { closedAttempt state errorKind errorMessage now a with preflightCompletedAt := some now }

def snapshotDisposition (b : RunLeaseBinding) (retryable : Bool) (now : Int) :
    StoreTx PreflightFailureDisposition := do
  if !retryable then return .fail
  let found ← Tx.read fun s => s.runs.rows.find? fun r => b.ownsRun r && r.state == .leased
    && r.leaseExpiresAt.any (now < ·)
  let r ← Tx.orElseFail found .scheduledRunLostLease
  return match r.policy.1.runRetryAt b.runId b.attempt r.scheduledFor now with
    | some retryAt => .retryAt retryAt
    | none => .fail

/-- `inr` は、写しの方針から決める再試行の可否である。 -/
def preflightDisposition (b : RunLeaseBinding) (disposition : PreflightFailureDisposition ⊕ Bool)
    (now : Int) : StoreTx PreflightFailureDisposition :=
  match disposition with
  | .inl d => pure d
  | .inr retryable => snapshotDisposition b retryable now

def recordScheduledRunPreflightFailure (b : RunLeaseBinding)
    (disposition : PreflightFailureDisposition ⊕ Bool) (errorKind errorMessage : String) (now : Int) :
    StoreTx Unit := do
  Tx.check b.validate
  Tx.check (invalidValue (validateText "scheduled preflight error kind" errorKind))
  Tx.require (byteLen errorMessage ≤ maxContextBytes) (.invalidSchedulerState
    "scheduled preflight error exceeds its storage bound")
  let disposition ← preflightDisposition b disposition now
  let onRun (r : ScheduledRunRow) : Bool := r.state == .leased && r.leaseExpiresAt.any (now < ·)
  let onAttempt (a : RunAttemptRow) : Bool := a.state == .leased && now < a.leaseExpiresAt
  match disposition with
  | .retryAt retryAt => do
    Tx.require (now < retryAt) (.invalidSchedulerState
      "scheduled preflight retry must be later than now")
    fencedTransition b onRun (retriedRun retryAt now) onAttempt
      (rejectedAttempt .retryScheduled errorKind errorMessage now)
  | .fail =>
    fencedTransition b onRun (settledRun .failed errorKind errorMessage now) onAttempt
      (rejectedAttempt .preflightRejected errorKind errorMessage now)

inductive ScheduledExecutionTerminal where
  | failed
  | timedOut
  | cancelled
  | outcomeUnknown
deriving DecidableEq, Repr

inductive ScheduledExecutionDisposition where
  | retryAt (retryAt deadlineAt maxAttempts : Int) (exhausted : ScheduledExecutionTerminal)
  | terminal (t : ScheduledExecutionTerminal)
deriving DecidableEq, Repr

inductive ScheduledRunExecutionOutcome where
  | retried
  | terminal (t : ScheduledExecutionTerminal)
  | lateEvidence (outcome : LateEvidenceAppendOutcome)
deriving DecidableEq, Repr

namespace ScheduledExecutionTerminal

def runState : ScheduledExecutionTerminal → ScheduledRunState
  | .failed => .failed
  | .timedOut => .timedOut
  | .cancelled => .cancelled
  | .outcomeUnknown => .outcomeUnknown

def attemptState : ScheduledExecutionTerminal → RunAttemptState
  | .failed => .failed
  | .timedOut => .timedOut
  | .cancelled => .cancelled
  | .outcomeUnknown => .outcomeUnknown

end ScheduledExecutionTerminal

/-- 再試行の時刻か、終わりの状態。保存された証明が副作用なしを示すときだけ再試行する。 -/
def executionOutcomeTransition (E : Env) (b : RunLeaseBinding)
    (disposition : ScheduledExecutionDisposition) (r : ScheduledRunRow) (a : RunAttemptRow) (now : Int) :
    Except StateError (Int ⊕ ScheduledExecutionTerminal) :=
  match disposition with
  | .terminal t => .ok (.inr t)
  | .retryAt retryAt _ _ exhausted => do
    if !(← persistedProfileAllowsRetry E r b a.attestedProfile) then return .inr .outcomeUnknown
    if b.attempt ≥ r.policy.1.runMaxAttempts then return .inr exhausted
    match r.policy.1.runDeadlineAt r.scheduledFor with
    | none => return .inr exhausted
    | some deadline =>
      if now ≥ deadline ∨ retryAt ≥ deadline then return .inr exhausted
      return .inl retryAt

def validRetryPolicy (disposition : ScheduledExecutionDisposition) (now : Int) : Bool :=
  match disposition with
  | .terminal _ => true
  | .retryAt retryAt _ maxAttempts _ => now < retryAt && 0 < maxAttempts

def executionEvidence (E : Env) (b : RunLeaseBinding) (errorKind errorMessage : String) : String :=
  E.sha256Hex (utf8Bytes ("scheduled-execution-outcome-v1\n" ++ b.runId ++ "\n" ++ toString b.attempt
    ++ "\n" ++ errorKind ++ "\n" ++ errorMessage))

def recordScheduledRunExecutionOutcome (E : Env) (evidenceId : String) (b : RunLeaseBinding)
    (disposition : ScheduledExecutionDisposition) (errorKind errorMessage : String) (now : Int) :
    StoreTx ScheduledRunExecutionOutcome := do
  Tx.check b.validate
  Tx.check (invalidValue (validateText "scheduled execution error kind" errorKind))
  Tx.require (byteLen errorMessage ≤ maxContextBytes) (.invalidSchedulerState
    "scheduled execution error exceeds its storage bound")
  Tx.require (validRetryPolicy disposition now) (.invalidSchedulerState
    "invalid scheduled execution retry policy")
  match ← Tx.read (liveExecution b now) with
  | none => do
    let outcome ← appendLateEvidence evidenceId b .completionAfterLeaseLoss
      (executionEvidence E b errorKind errorMessage) now
    return .lateEvidence outcome
  | some (r, a) => do
    let transition ← Tx.check (executionOutcomeTransition E b disposition r a now)
    let onRun (r : ScheduledRunRow) : Bool := r.state == .executing && r.leaseExpiresAt.any (now < ·)
    let onAttempt (a : RunAttemptRow) : Bool := a.state == .executing && now < a.leaseExpiresAt
    match transition with
    | .inl retryAt => do
      fencedTransition b onRun (retriedRun retryAt now) onAttempt
        (closedAttempt .retryScheduled errorKind errorMessage now)
      return .retried
    | .inr t => do
      fencedTransition b onRun (settledRun t.runState errorKind errorMessage now) onAttempt
        (closedAttempt t.attemptState errorKind errorMessage now)
      return .terminal t

/-! ## 期限切れの貸与の回収 -/

inductive ExpiredRunReclaimOutcome where
  | idle
  | retried (runId : String) (attempt fence : Int)
  | failed (runId : String) (attempt fence : Int)
  | outcomeUnknown (runId : String) (attempt fence : Int)
deriving DecidableEq, Repr

structure ExpiredReclaimTransition where
  runState : ScheduledRunState
  attemptState : RunAttemptState
  errorKind : String
  outcome : ExpiredRunReclaimOutcome
deriving DecidableEq, Repr

def expiredReclaimTransition (state : ScheduledRunState) (runId : String)
    (attempt fence maxAttempts : Int) (safeExecutionRetry : Bool) : ExpiredReclaimTransition :=
  if state = .executing ∧ safeExecutionRetry = false then
    ⟨.outcomeUnknown, .outcomeUnknown, "execution_lease_expired", .outcomeUnknown runId attempt fence⟩
  else if attempt < maxAttempts then
    ⟨.pending, .leaseExpired,
      if state = .executing then "safe_execution_lease_expired" else "preflight_lease_expired",
      .retried runId attempt fence⟩
  else
    ⟨.failed, .leaseExpired,
      if state = .executing then "safe_execution_lease_exhausted" else "preflight_lease_exhausted",
      .failed runId attempt fence⟩

def reclaimedRun (t : ExpiredReclaimTransition) (nextAttemptAt : Option Int) (now : Int)
    (r : ScheduledRunRow) : ScheduledRunRow :=
  { r with state := t.runState, nextAttemptAt := if t.runState = .pending then nextAttemptAt else none,
           leaseOwner := none, leaseExpiresAt := none,
           overlapSlot := if t.runState = .failed then none else some 1,
           errorKind := if t.runState = .pending then none else some t.errorKind,
           errorMessage := if t.runState = .pending then none else some t.errorKind, updatedAt := now }

def sameLiveState (r : ScheduledRunRow) (a : RunAttemptRow) : Bool :=
  (r.state == .leased && a.state == .leased) || (r.state == .executing && a.state == .executing)

def nextExpired (now : Int) (s : Store) : Option (ScheduledRunRow × RunAttemptRow) :=
  first (fun a b => decide (a.1.leaseExpiresAt.getD 0 < b.1.leaseExpiresAt.getD 0)
      || (a.1.leaseExpiresAt == b.1.leaseExpiresAt && a.1.runId < b.1.runId))
    (s.runs.rows.filterMap fun r =>
      if r.state.isLive && r.leaseExpiresAt.any (· ≤ now) then
        (s.attempts.rows.find? fun a => isCurrentAttempt r a && sameLiveState r a
          && a.leaseExpiresAt ≤ now).map (r, ·)
      else none)

def ScheduledRunRow.leaseBinding (r : ScheduledRunRow) (leaseOwner : String) : RunLeaseBinding :=
  { runId := r.runId, jobId := r.jobId, attempt := r.attempt, fence := r.fence, leaseOwner }

/-- 実行中の貸与は、回復の証明があるときだけ再試行してよい。 -/
def safeExecutionRetry (E : Env) (r : ScheduledRunRow) (b : RunLeaseBinding)
    (profile : Option AttestedExecutionProfileSnapshot) : Except StateError Bool :=
  if r.state = .executing then persistedProfileAllowsRecovery E r b profile else .ok false

def snapshotReclaimPolicy (r : ScheduledRunRow) (now : Int) : Int × Int :=
  match r.policy.1.runRetryAt r.runId r.attempt r.scheduledFor now with
  | some retryAt => (r.policy.1.runMaxAttempts, retryAt)
  | none => (r.attempt, now)

/-- `override` は呼び出し側が与える（試行の上限、次の時刻）である。 -/
def reclaimNextExpiredScheduledRun (E : Env) (now : Int) (override : Option (Int × Int)) :
    StoreTx ExpiredRunReclaimOutcome := do
  Tx.require (override.all fun p => 0 < p.1 && now < p.2) (.invalidSchedulerState
    "invalid scheduled run reclaim policy")
  match ← Tx.read (nextExpired now) with
  | none => return .idle
  | some (r, a) => do
    let b := r.leaseBinding a.leaseOwner
    let (maxAttempts, nextAttemptAt) := override.getD (snapshotReclaimPolicy r now)
    let safe ← Tx.check (safeExecutionRetry E r b a.attestedProfile)
    let t := expiredReclaimTransition r.state r.runId r.attempt r.fence maxAttempts safe
    fencedTransition b (fun o => o.state == r.state && o.leaseExpiresAt.any (· ≤ now))
      (reclaimedRun t (some nextAttemptAt) now)
      (fun o => sameLiveState r o && o.leaseExpiresAt ≤ now)
      (closedAttempt t.attemptState t.errorKind t.errorKind now)
    return t.outcome

inductive ScheduledRunReconcileOutcome where
  | applied (outcome : ExpiredRunReclaimOutcome)
  | stale
  | notEligible
deriving DecidableEq, Repr

structure ScheduledRunReconcileCandidate where
  runId : String
  state : ScheduledRunState
  attempt : Int
  fence : Int
  leaseOwner : String
  leaseExpiresAt : Int
  nextAttemptAt : Option Int
deriving DecidableEq, Repr

def ScheduledRunReconcileCandidate.observes (c : ScheduledRunReconcileCandidate) (r : ScheduledRunRow) :
    Bool :=
  r.state == c.state && r.attempt == c.attempt && r.fence == c.fence
    && r.leaseOwner == some c.leaseOwner && r.leaseExpiresAt == some c.leaseExpiresAt

/-- 確かめ終えた候補を移す。直前に読んだ行なので、実行の側が一行でないのは古い候補だけである。 -/
def applyReconcile (c : ScheduledRunReconcileCandidate) (b : RunLeaseBinding) (r : ScheduledRunRow)
    (t : ExpiredReclaimTransition) (retryAt : Option Int) (now : Int) :
    StoreTx ScheduledRunReconcileOutcome := do
  let run ← updateRuns
    (fun o => b.ownsRun o && o.state == r.state && o.leaseExpiresAt == some c.leaseExpiresAt
      && o.leaseExpiresAt.any (· ≤ now) && o.updatedAt ≤ now)
    (reclaimedRun t retryAt now)
  if run != 1 then return .stale
  let attempt ← updateAttempts
    (fun o => b.ownsAttempt o && sameLiveState r o && o.leaseExpiresAt == c.leaseExpiresAt
      && o.leaseExpiresAt ≤ now && o.claimedAt ≤ now)
    (closedAttempt t.attemptState t.errorKind t.errorKind now)
  Tx.require (attempt == 1) (.invalidSchedulerState
    "exact run reconciliation found inconsistent attempt authority")
  return .applied t.outcome

def reconcileScheduledRunCandidate (E : Env) (c : ScheduledRunReconcileCandidate) (now : Int) :
    StoreTx ScheduledRunReconcileOutcome := do
  Tx.check (invalidValue (validateText "scheduled run reconciliation id" c.runId))
  Tx.check (invalidValue (validateText "scheduled run reconciliation owner" c.leaseOwner))
  Tx.require (c.state.isLive && 0 < c.attempt && 0 < c.fence && 0 ≤ c.leaseExpiresAt && 0 ≤ now)
    (.invalidSchedulerState "invalid exact scheduled run reconciliation authority")
  match ← Tx.read fun s => s.runs.rows.find? fun r => r.runId == c.runId with
  | none => return .stale
  | some r => do
    if !c.observes r then return .stale
    if c.leaseExpiresAt > now || r.updatedAt > now then return .notEligible
    let b := r.leaseBinding c.leaseOwner
    let a ← Tx.read fun s => s.attempts.rows.find? fun a => isCurrentAttempt r a && sameLiveState r a
    let safe ← Tx.check (safeExecutionRetry E r b (a.bind RunAttemptRow.attestedProfile))
    let nextAttemptAt := r.policy.1.runRetryAt r.runId r.attempt r.scheduledFor now
    if nextAttemptAt != c.nextAttemptAt then return .stale
    let maxAttempts := if nextAttemptAt.isSome then (r.policy.1.runMaxAttempts : Int) else r.attempt
    let t := expiredReclaimTransition r.state r.runId r.attempt r.fence maxAttempts safe
    applyReconcile c b r t nextAttemptAt now

/-! ## 運用者による再実行 -/

namespace ScheduledRunState

def asStr : ScheduledRunState → String
  | .pending => "pending"
  | .leased => "leased"
  | .executing => "executing"
  | .succeeded => "succeeded"
  | .failed => "failed"
  | .timedOut => "timed_out"
  | .cancelled => "cancelled"
  | .outcomeUnknown => "outcome_unknown"

def isRetryable (s : ScheduledRunState) : Bool := s == .failed || s == .timedOut || s == .cancelled

end ScheduledRunState

def OperatorAction.asStr : OperatorAction → String
  | .retryRun => "retry_run"
  | .retryDelivery => "retry_delivery"
  | .confirmDeliveryDelivered => "confirm_delivery_delivered"
  | .confirmDeliveryNoWrite => "confirm_delivery_no_write"
  | .forceDeliveryResend => "force_delivery_resend"
  | .acknowledgeDeliveryUnknown => "acknowledge_delivery_unknown"

def OperatorTargetKind.asStr : OperatorTargetKind → String
  | .run => "run"
  | .delivery => "delivery"

structure OperatorActionInsert where
  action : OperatorAction
  targetKind : OperatorTargetKind
  targetId : String
  expectedAttempt : Int
  expectedFence : Int
  beforeState : OperatorState
  afterState : OperatorState
  evidence : Option (String × String)
  reason : Option (String × String)
  providerReceipt : Option String
  duplicateRiskAcknowledged : Bool
  effectiveAt : Int
deriving DecidableEq

namespace ScheduledDeliveryState

def asStr : ScheduledDeliveryState → String
  | .pending => "pending"
  | .sending => "sending"
  | .delivered => "delivered"
  | .failedRetryable => "failed_retryable"
  | .failedTerminal => "failed_terminal"
  | .deliveryUnknown => "delivery_unknown"
  | .skippedNone => "skipped_none"
  | .skippedUnchanged => "skipped_unchanged"

end ScheduledDeliveryState

def OperatorState.asStr : OperatorState → String
  | .run s => s.asStr
  | .delivery s => s.asStr

def operatorActionDigest (E : Env) (a : OperatorActionInsert) : String :=
  E.sha256Hex (utf8Bytes (Json.Value.object [("action", .str a.action.asStr),
    ("after_state", .str a.afterState.asStr), ("before_state", .str a.beforeState.asStr),
    ("duplicate_risk_acknowledged", .bool a.duplicateRiskAcknowledged),
    ("effective_at", .int a.effectiveAt), ("evidence_json", optionStr (a.evidence.map Prod.fst)),
    ("evidence_digest", optionStr (a.evidence.map Prod.snd)),
    ("expected_attempt", .int a.expectedAttempt), ("expected_fence", .int a.expectedFence),
    ("provider_receipt", optionStr a.providerReceipt),
    ("reason_digest", optionStr (a.reason.map Prod.snd)),
    ("reason_json", optionStr (a.reason.map Prod.fst)), ("target_id", .str a.targetId),
    ("target_kind", .str a.targetKind.asStr)]).render)

def validateOperatorRequest (request : SchedulerOperatorRequest) : Except StateError Unit := do
  invalidValue request.principal.validate
  invalidValue (validateText "operator request id" request.requestId)
  invalidValue (validateLowercaseSha256 "operator request digest" request.requestDigest)
  if request.occurredAt < 0 then invalidState "operator request timestamp must be nonnegative"

def isReasonCode (code : String) : Bool :=
  code != "" && byteLen code ≤ 64
    && code.toList.all fun c => ('a' ≤ c && c ≤ 'z') || c.isDigit || c == '_'

def validateOperatorReason (E : Env) (reasonJson reasonDigest : String) : Except StateValueError Unit := do
  let field := "operator retry reason"
  if byteLen reasonJson > maxContextBytes then throw (.tooLarge field)
  validateCanonicalJson field reasonJson
  validateLowercaseSha256 "operator retry reason digest" reasonDigest
  if E.sha256Hex (utf8Bytes reasonJson) ≠ reasonDigest then
    throw (.invalidSha256 "operator retry reason digest")
  match Json.parse reasonJson with
  | some (.obj members) =>
    let value := Json.Value.obj members
    let reason := (value.get "reason").bind Json.Value.asStr
    let code := (value.get "reason_code").bind Json.Value.asStr
    if members.length ≠ 3 ∨ (value.get "schema_version").bind Json.Value.asInt ≠ some 1
        ∨ !(reason.any fun r => r != "" && byteLen r ≤ 4 * 1024 && trim r == r)
        ∨ !(code.any isReasonCode) then
      throw (.invalidJson field)
  | _ => throw (.invalidJson field)

inductive OperatorActionInsertOutcome where
  | inserted
  | replay
  | conflict
deriving DecidableEq, Repr

def operatorActionId (E : Env) (request : SchedulerOperatorRequest) : String :=
  E.sha256Hex (utf8Bytes ("scheduler-operator-action-v1\n" ++ request.principal.kind ++ "\n"
    ++ request.principal.provider ++ "\n" ++ request.principal.tenant ++ "\n"
    ++ request.principal.subject ++ "\n" ++ request.requestId))

def persistedRequest (request : SchedulerOperatorRequest) (s : Store) : Option OperatorActionRow :=
  s.operatorActions.rows.find? fun a => a.principal == request.principal
    && a.requestId == request.requestId

def insertOperatorAction (E : Env) (request : SchedulerOperatorRequest) (a : OperatorActionInsert) :
    StoreTx OperatorActionInsertOutcome := do
  Tx.require (request.requestDigest == operatorActionDigest E a) (.invalidSchedulerState
    "operator request digest does not bind the exact action")
  let inserted ← insertOperatorActionOrIgnore
    { actionId := operatorActionId E request, principal := request.principal,
      requestId := request.requestId, requestDigest := request.requestDigest, action := a.action,
      targetKind := a.targetKind, targetId := a.targetId, expectedAttempt := a.expectedAttempt,
      expectedFence := a.expectedFence, beforeState := a.beforeState, afterState := a.afterState,
      evidence := a.evidence, reason := a.reason, providerReceipt := a.providerReceipt,
      duplicateRiskAcknowledged := a.duplicateRiskAcknowledged, effectiveAt := a.effectiveAt,
      occurredAt := request.occurredAt }
  if inserted == 1 then return .inserted
  let persisted ← Tx.read (persistedRequest request)
  return if persisted.map OperatorActionRow.requestDigest == some request.requestDigest then .replay
    else .conflict

def existingOperatorRequest (request : SchedulerOperatorRequest) (s : Store) :
    Option SchedulerOperatorMutationOutcome :=
  (persistedRequest request s).map fun a =>
    if a.requestDigest = request.requestDigest ∧ a.occurredAt = request.occurredAt then .replay
    else .conflict

def runRetryAction (runId : String) (attempt fence : Int) (before : ScheduledRunState)
    (reasonJson reasonDigest : String) (nextAttemptAt : Int) : OperatorActionInsert where
  action := .retryRun
  targetKind := .run
  targetId := runId
  expectedAttempt := attempt
  expectedFence := fence
  beforeState := .run before
  afterState := .run .pending
  evidence := none
  reason := some (reasonJson, reasonDigest)
  providerReceipt := none
  duplicateRiskAcknowledged := false
  effectiveAt := nextAttemptAt

def requeueRun (request : SchedulerOperatorRequest) (r : ScheduledRunRow) (nextAttemptAt : Int) :
    StoreTx SchedulerOperatorMutationOutcome := do
  let updated ← updateRuns
    (fun o => o.runId == r.runId && o.attempt == r.attempt && o.fence == r.fence && o.state == r.state
      && o.resultArtifactId.isNone)
    (retriedRun nextAttemptAt request.occurredAt)
  if updated != 1 then return .conflict
  consumeAction "manual run retry requires one reason-bound operator action" .run r.runId
    request.occurredAt fun a => a.targetKind == .run && a.targetId == r.runId
      && a.action == .retryRun && a.expectedAttempt == r.attempt && a.expectedFence == r.fence
      && a.beforeState == .run r.state && a.afterState == .run .pending
      && a.effectiveAt == nextAttemptAt && a.occurredAt == request.occurredAt && a.reason.isSome
  return .applied

/-- `conflict` は確定せずに返る。 -/
def operatorRetryScheduledRun (E : Env) (request : SchedulerOperatorRequest) (runId : String)
    (expectedAttempt expectedFence : Int) (reasonJson reasonDigest : String) (nextAttemptAt : Int) :
    StoreTx SchedulerOperatorMutationOutcome := Tx.rollbackIf (· == .conflict) do
  Tx.check (validateOperatorRequest request)
  Tx.check (invalidValue (validateText "operator run id" runId))
  Tx.check (invalidValue (validateOperatorReason E reasonJson reasonDigest))
  Tx.require (0 < expectedAttempt && 0 < expectedFence && request.occurredAt ≤ nextAttemptAt)
    (.invalidSchedulerState "invalid operator run retry authority")
  let action (before : ScheduledRunState) : OperatorActionInsert :=
    runRetryAction runId expectedAttempt expectedFence before reasonJson reasonDigest nextAttemptAt
  Tx.require ([ScheduledRunState.failed, .timedOut, .cancelled].any fun before =>
      request.requestDigest == operatorActionDigest E (action before))
    (.invalidSchedulerState "operator request digest does not bind the exact run retry invocation")
  match ← Tx.read (existingOperatorRequest request) with
  | some outcome => return outcome
  | none => do
    match ← Tx.read fun s => s.runs.rows.find? fun r => r.runId == runId
      && r.attempt == expectedAttempt && r.fence == expectedFence with
    | none => return .conflict
    | some r => do
      if !r.state.isRetryable || r.resultArtifactId.isSome then return .conflict
      if r.policy.1.runRetryAt runId expectedAttempt r.scheduledFor request.occurredAt
          != some nextAttemptAt then
        return .conflict
      match ← insertOperatorAction E request (action r.state) with
      | .replay => return .replay
      | .conflict => return .conflict
      | .inserted => requeueRun request r nextAttemptAt

structure UpdateExecutionBaseline where
  jobId : String
  expectedVersion : Int
  hashAlgorithm : String
  resultHash : String
  previousSuccessContext : String
  sourceRunId : String
  completedAt : Int
deriving DecidableEq, Repr

def swappedBaseline (u : UpdateExecutionBaseline) (b : ExecutionBaselineRow) : ExecutionBaselineRow :=
  { b with
    baselineVersion := b.baselineVersion + 1,
    result := some { hashAlgorithm := u.hashAlgorithm, resultHash := u.resultHash,
                     sourceRunId := u.sourceRunId, completedAt := u.completedAt },
    previousSuccessContext := some u.previousSuccessContext }

def compareAndSwapExecutionBaseline (u : UpdateExecutionBaseline) : StoreTx Bool := do
  Tx.check (invalidValue (validateText "execution hash algorithm" u.hashAlgorithm))
  Tx.check (invalidValue (validateText "execution result hash" u.resultHash))
  Tx.check (invalidValue (validateText "source run id" u.sourceRunId))
  Tx.require (byteLen u.previousSuccessContext ≤ maxContextBytes && 0 ≤ u.expectedVersion)
    (.invalidSchedulerState "invalid execution baseline CAS")
  let updated ← updateBaselines
    (fun b => b.jobId == u.jobId && b.baselineVersion == u.expectedVersion
      && b.baselineVersion < i64Max)
    (swappedBaseline u)
  return updated == 1

end Codeoff.State
