import Codeoff.State.OperatorEvidence

/-!
# 配送の決着

送信中の貸与の延長、成功と失敗の記録、期限切れの回収、失敗した配送の再投入、運用者の操作。
-/

namespace Codeoff.State

open Codeoff.Core Codeoff.Relational

def updateDeliveryAttempts (p : DeliveryAttemptRow → Bool) (f : DeliveryAttemptRow → DeliveryAttemptRow) :
    StoreTx Nat :=
  statement Store.deliveryAttempts (fun s T => { s with deliveryAttempts := T })
    fun _ T => T.update noTrigger p f

namespace ScheduledDeliveryBinding

def validate (b : ScheduledDeliveryBinding) : Except StateError Unit := do
  invalidValue (validateText "scheduled delivery id" b.deliveryId)
  invalidValue (validateText "scheduled delivery lease owner" b.leaseOwner)
  invalidValue (validateText "scheduled delivery idempotency key" b.idempotencyKey)
  if b.attempt ≤ 0 ∨ b.fence ≤ 0 then invalidState "invalid scheduled delivery binding counters"

def ownsDelivery (b : ScheduledDeliveryBinding) (d : ScheduledDeliveryRow) : Bool :=
  d.deliveryId == b.deliveryId && d.attempt == b.attempt && d.fence == b.fence
    && d.leaseOwner == some b.leaseOwner && d.idempotencyKey == some b.idempotencyKey

def ownsAttempt (b : ScheduledDeliveryBinding) (a : DeliveryAttemptRow) : Bool :=
  a.deliveryId == b.deliveryId && a.attempt == b.attempt && a.fence == b.fence
    && a.leaseOwner == b.leaseOwner && a.idempotencyKey == b.idempotencyKey

end ScheduledDeliveryBinding

def fencedDelivery (kind : DeliveryUpdateKind) (b : ScheduledDeliveryBinding)
    (onDelivery : ScheduledDeliveryRow → Bool) (toDelivery : ScheduledDeliveryRow → ScheduledDeliveryRow)
    (onAttempt : DeliveryAttemptRow → Bool) (toAttempt : DeliveryAttemptRow → DeliveryAttemptRow) :
    StoreTx Unit := do
  let delivery ← updateDeliveries kind
    (fun d => b.ownsDelivery d && d.state == .sending && onDelivery d) toDelivery
  let attempt ← updateDeliveryAttempts
    (fun a => b.ownsAttempt a && a.state == .sending && onAttempt a) toAttempt
  Tx.require (delivery == 1 && attempt == 1) .scheduledDeliveryLostLease

def extendedDelivery (leaseExpiresAt now : Int) (d : ScheduledDeliveryRow) : ScheduledDeliveryRow :=
  { d with leaseExpiresAt := some leaseExpiresAt, updatedAt := now }

def extendedDeliveryAttempt (leaseExpiresAt : Int) (a : DeliveryAttemptRow) : DeliveryAttemptRow :=
  { a with leaseExpiresAt }

def heartbeatScheduledDelivery (b : ScheduledDeliveryBinding) (now leaseExpiresAt : Int) :
    StoreTx Unit := do
  Tx.check b.validate
  Tx.require (now < leaseExpiresAt) (.invalidSchedulerState
    "scheduled delivery heartbeat must extend its lease")
  fencedDelivery .lease b
    (fun d => d.leaseExpiresAt.any (fun t => now < t && t < leaseExpiresAt) && d.updatedAt ≤ now)
    (extendedDelivery leaseExpiresAt now)
    (fun a => now < a.leaseExpiresAt && a.leaseExpiresAt < leaseExpiresAt)
    (extendedDeliveryAttempt leaseExpiresAt)

structure DeliveryTerminal where
  state : ScheduledDeliveryState
  attemptState : DeliveryAttemptState
  receipt : Option String
  errorKind : Option String
  errorMessage : Option String
  nextAttemptAt : Option Int
deriving DecidableEq, Repr

def settledDelivery (t : DeliveryTerminal) (completedAt : Int) (d : ScheduledDeliveryRow) :
    ScheduledDeliveryRow :=
  { d with state := t.state, nextAttemptAt := t.nextAttemptAt, leaseOwner := none,
           leaseExpiresAt := none, providerReceipt := t.receipt, providerOutcome := t.state.outcome,
           errorKind := t.errorKind, errorMessage := t.errorMessage, updatedAt := completedAt }

def settledAttempt (t : DeliveryTerminal) (completedAt : Int) (a : DeliveryAttemptRow) :
    DeliveryAttemptRow :=
  { a with state := t.attemptState, providerReceipt := t.receipt,
           providerOutcome := t.attemptState.outcome, errorKind := t.errorKind,
           errorMessage := t.errorMessage, completedAt := some completedAt }

def transitionDeliveryTerminal (b : ScheduledDeliveryBinding) (t : DeliveryTerminal)
    (completedAt : Int) : StoreTx Unit := do
  Tx.require (0 ≤ completedAt) (.invalidSchedulerState
    "scheduled delivery completion timestamp must be nonnegative")
  fencedDelivery .state b
    (fun d => d.leaseExpiresAt.any (completedAt < ·) && d.updatedAt ≤ completedAt)
    (settledDelivery t completedAt)
    (fun a => completedAt < a.leaseExpiresAt && a.startedAt ≤ completedAt)
    (settledAttempt t completedAt)

def completeScheduledDeliveryDelivered (b : ScheduledDeliveryBinding) (receipt : String)
    (completedAt : Int) : StoreTx Unit := do
  Tx.check b.validate
  Tx.check (invalidValue (validateText "scheduled delivery provider receipt" receipt))
  transitionDeliveryTerminal b ⟨.delivered, .delivered, some receipt, none, none, none⟩ completedAt
  advanceIf true b.deliveryId completedAt

inductive ScheduledDeliveryFailure where
  | confirmedNoWriteRetryable (errorKind : String) (message : Option String) (nextAttemptAt : Int)
  | confirmedNoWriteTerminal (errorKind : String) (message : Option String)
  | ambiguousPostWrite (errorKind : String) (message : Option String)
deriving DecidableEq, Repr

def retryAllowed (b : ScheduledDeliveryBinding) (retryAt completedAt : Int) : StoreTx Bool := do
  let found ← Tx.read fun s => do
    let d ← s.deliveries.rows.find? fun d => d.deliveryId == b.deliveryId && d.attempt == b.attempt
      && d.fence == b.fence && d.leaseOwner == some b.leaseOwner && d.state == .sending
      && d.leaseExpiresAt.any (completedAt < ·)
    let p ← d.payload
    return d.policy.1.deliveryCanRetryAt b.attempt p.createdAt retryAt
  Tx.orElseFail found .scheduledDeliveryLostLease

/-- 失敗の分類から決着を定める。使い切った再試行は、終わりの失敗になる。 -/
def failureTerminal (b : ScheduledDeliveryBinding) (failure : ScheduledDeliveryFailure)
    (completedAt : Int) : StoreTx DeliveryTerminal :=
  match failure with
  | .confirmedNoWriteTerminal kind message => do
    Tx.check (validateDeliveryError kind message)
    return ⟨.failedTerminal, .failedTerminal, none, some kind, message, none⟩
  | .ambiguousPostWrite kind message => do
    Tx.check (validateDeliveryError kind message)
    return ⟨.deliveryUnknown, .deliveryUnknown, none, some kind, message, none⟩
  | .confirmedNoWriteRetryable kind message nextAttemptAt => do
    Tx.require (completedAt < nextAttemptAt) (.invalidSchedulerState
      "scheduled delivery retry must be deferred")
    Tx.check (validateDeliveryError kind message)
    if ← retryAllowed b nextAttemptAt completedAt then
      return ⟨.failedRetryable, .failedRetryable, none, some kind, message, some nextAttemptAt⟩
    return ⟨.failedTerminal, .failedTerminal, none, some "delivery_retry_exhausted", message, none⟩

def completeScheduledDeliveryFailure (b : ScheduledDeliveryBinding) (failure : ScheduledDeliveryFailure)
    (completedAt : Int) : StoreTx Unit := do
  Tx.check b.validate
  let t ← failureTerminal b failure completedAt
  transitionDeliveryTerminal b t completedAt

/-! ## 期限切れの回収 -/

def deliveryLeaseExpiredMessage : String := "provider write outcome is unknown after delivery lease expiry"

def unknownDelivery (now : Int) (d : ScheduledDeliveryRow) : ScheduledDeliveryRow :=
  { d with state := .deliveryUnknown, leaseOwner := none, leaseExpiresAt := none,
           providerOutcome := some .ambiguousPostWrite, errorKind := some "delivery_lease_expired",
           errorMessage := some deliveryLeaseExpiredMessage, updatedAt := now }

def unknownAttempt (now : Int) (a : DeliveryAttemptRow) : DeliveryAttemptRow :=
  { a with state := .deliveryUnknown, providerOutcome := some .ambiguousPostWrite,
           errorKind := some "delivery_lease_expired", errorMessage := some deliveryLeaseExpiredMessage,
           completedAt := some now }

def deliveryExpired (now : Int) (d : ScheduledDeliveryRow) : Bool :=
  d.state == .sending && d.leaseExpiresAt.any (· ≤ now) && d.updatedAt ≤ now

def ScheduledDeliveryRow.leaseBinding (d : ScheduledDeliveryRow) : ScheduledDeliveryBinding :=
  { deliveryId := d.deliveryId, attempt := d.attempt, fence := d.fence,
    leaseOwner := d.leaseOwner.getD "", idempotencyKey := d.idempotencyKey.getD "" }

def expireDelivery (d : ScheduledDeliveryRow) (now : Int) : StoreTx Unit :=
  fencedDelivery .state d.leaseBinding
    (fun o => o.leaseExpiresAt == d.leaseExpiresAt && o.leaseExpiresAt.any (· ≤ now) && o.updatedAt ≤ now)
    (unknownDelivery now)
    (fun a => d.leaseExpiresAt == some a.leaseExpiresAt && a.leaseExpiresAt ≤ now && a.startedAt ≤ now)
    (unknownAttempt now)

/-- 期限の早い順に、最大 `limit` 行を回収する。 -/
def reclaimDeliveries (now : Int) : Nat → StoreTx Nat
  | 0 => return 0
  | limit + 1 => do
    let next ← Tx.read fun s => first (fun a b =>
        decide (a.leaseExpiresAt.getD 0 < b.leaseExpiresAt.getD 0)
          || (a.leaseExpiresAt == b.leaseExpiresAt && a.deliveryId < b.deliveryId))
      (s.deliveries.rows.filter (deliveryExpired now))
    match next with
    | none => return 0
    | some d => do
      expireDelivery d now
      let rest ← reclaimDeliveries now limit
      return rest + 1

def reclaimExpiredScheduledDeliveries (now : Int) (limit : Nat) : StoreTx Nat := do
  Tx.require (0 ≤ now && 0 < limit) (.invalidSchedulerState
    "scheduled delivery reclaim requires nonnegative time and positive limit")
  reclaimDeliveries now limit

inductive ScheduledDeliveryReconcileOutcome where
  | applied (deliveryId : String) (attempt fence : Int)
  | stale
  | notEligible
deriving DecidableEq, Repr

def reconcileExpiredScheduledDelivery (deliveryId : String) (expectedState : ScheduledDeliveryState)
    (expectedAttempt expectedFence expectedLeaseExpiresAt now : Int) :
    StoreTx ScheduledDeliveryReconcileOutcome := do
  Tx.check (invalidValue (validateText "scheduled delivery reconciliation id" deliveryId))
  Tx.require (expectedState == .sending && 0 < expectedAttempt && 0 < expectedFence
      && 0 ≤ expectedLeaseExpiresAt && 0 ≤ now)
    (.invalidSchedulerState "invalid exact scheduled delivery reconciliation authority")
  match ← Tx.read fun s => s.deliveries.rows.find? fun d => d.deliveryId == deliveryId
    && d.payload.isSome with
  | none => return .stale
  | some d => do
    if d.state != .sending || d.attempt != expectedAttempt || d.fence != expectedFence
        || d.leaseExpiresAt != some expectedLeaseExpiresAt then
      return .stale
    if expectedLeaseExpiresAt > now || d.updatedAt > now then return .notEligible
    let b := d.leaseBinding
    let delivery ← updateDeliveries .state
      (fun o => b.ownsDelivery o && o.state == .sending && o.leaseExpiresAt == some expectedLeaseExpiresAt
        && o.payload.isSome && o.updatedAt ≤ now)
      (unknownDelivery now)
    if delivery != 1 then return .stale
    let attempt ← updateDeliveryAttempts
      (fun a => b.ownsAttempt a && a.state == .sending && a.leaseExpiresAt == expectedLeaseExpiresAt
        && a.startedAt ≤ now)
      (unknownAttempt now)
    Tx.require (attempt == 1) (.invalidSchedulerState
      "exact delivery reconciliation found inconsistent attempt authority")
    return .applied deliveryId expectedAttempt expectedFence

def retryDue (now : Int) (d : ScheduledDeliveryRow) : Bool :=
  d.state == .failedRetryable && d.nextAttemptAt.any (· ≤ now)

def retryExhausted (d : ScheduledDeliveryRow) : Bool :=
  d.outOfAttempts || d.pastDeadline (d.nextAttemptAt.getD 0)

def requeueDueScheduledDeliveries (now : Int) (limit : Nat) : StoreTx Nat := do
  Tx.require (0 < limit) (.invalidSchedulerState "scheduled delivery requeue limit must be positive")
  let _ ← updateDeliveries .state (fun d => retryDue now d && retryExhausted d)
    (unsentRow "delivery_retry_exhausted" now)
  let due ← Tx.read fun s => ((s.deliveries.rows.filter (retryDue now)).insertionSort fun a b =>
    decide (a.nextAttemptAt.getD 0 < b.nextAttemptAt.getD 0)
      || (a.nextAttemptAt == b.nextAttemptAt && a.deliveryId ≤ b.deliveryId)).take limit
  let requeued ← updateDeliveries .stateAndClaim
    (fun d => due.any fun o => o.deliveryId == d.deliveryId) requeuedRow
  afterRequeue due
  return requeued

/-! ## 運用者の操作 -/

def deliveryRetryAction (deliveryId : String) (attempt fence : Int) (reason : String × String)
    (effectiveAt : Int) : OperatorActionInsert where
  action := .retryDelivery
  targetKind := .delivery
  targetId := deliveryId
  expectedAttempt := attempt
  expectedFence := fence
  beforeState := .delivery .failedRetryable
  afterState := .delivery .pending
  evidence := some reason
  reason := none
  providerReceipt := none
  duplicateRiskAcknowledged := false
  effectiveAt := effectiveAt

def validateDeliveryRetryReason (E : Env) (reasonJson reasonDigest : String) :
    Except StateError Unit := do
  if byteLen reasonJson > maxContextBytes then
    invalidState "operator delivery retry reason exceeds its storage bound"
  invalidValue (validateCanonicalJson "operator delivery retry reason" reasonJson)
  invalidValue (validateLowercaseSha256 "operator delivery retry reason digest" reasonDigest)
  if E.sha256Hex (utf8Bytes reasonJson) ≠ reasonDigest then
    invalidState "operator delivery retry reason digest does not match its canonical evidence"

def retriedDelivery (nextAttemptAt : Int) (d : ScheduledDeliveryRow) : ScheduledDeliveryRow :=
  { d with state := .pending, nextAttemptAt := none, claimedBaselineVersion := none,
           providerOutcome := none, errorKind := none, errorMessage := none,
           updatedAt := nextAttemptAt }

/-- 操作を書き、失敗した行を、先の時刻からの待ちにする。 -/
def applyDeliveryRetry (E : Env) (request : SchedulerOperatorRequest) (d : ScheduledDeliveryRow)
    (reason : String × String) (nextAttemptAt : Int) : StoreTx SchedulerOperatorMutationOutcome := do
  match ← insertOperatorAction E request
    (deliveryRetryAction d.deliveryId d.attempt d.fence reason nextAttemptAt) with
  | .replay => return .replay
  | .conflict => return .conflict
  | .inserted => do
    let updated ← updateDeliveries .stateAndClaim
      (fun o => o.deliveryId == d.deliveryId && o.attempt == d.attempt && o.fence == d.fence
        && o.state == .failedRetryable && o.payload.isSome)
      (retriedDelivery nextAttemptAt)
    if updated != 1 then return .conflict
    afterDeliveryRetry d nextAttemptAt
    return .applied

def operatorRetryScheduledDelivery (E : Env) (request : SchedulerOperatorRequest) (deliveryId : String)
    (expectedAttempt expectedFence : Int) (reasonJson reasonDigest : String) :
    StoreTx SchedulerOperatorMutationOutcome := Tx.rollbackIf (· == .conflict) do
  Tx.check (validateOperatorRequest request)
  Tx.check (invalidValue (validateText "operator delivery id" deliveryId))
  Tx.check (validateDeliveryRetryReason E reasonJson reasonDigest)
  Tx.require (0 < expectedAttempt && 0 < expectedFence) (.invalidSchedulerState
    "invalid operator delivery retry authority")
  match ← Tx.read (persistedRequest request) with
  | some a => do
    if a.requestDigest != request.requestDigest || a.occurredAt != request.occurredAt then
      return .conflict
    Tx.require (request.requestDigest == operatorActionDigest E
        (deliveryRetryAction deliveryId expectedAttempt expectedFence (reasonJson, reasonDigest)
          a.effectiveAt))
      (.invalidSchedulerState "operator request digest does not bind the exact action")
    return .replay
  | none => do
    let found ← Tx.read fun s => do
      let d ← s.deliveries.rows.find? fun d => d.deliveryId == deliveryId && d.attempt == expectedAttempt
        && d.fence == expectedFence && d.state == .failedRetryable
      let p ← d.payload
      let next ← d.policy.1.deliveryRetryAt deliveryId expectedAttempt p.createdAt request.occurredAt none
      return (d, next)
    match found with
    | none => return .conflict
    | some (d, next) => applyDeliveryRetry E request d (reasonJson, reasonDigest) next

namespace ScheduledDeliveryUnknownAction

def afterState : ScheduledDeliveryUnknownAction → ScheduledDeliveryState
  | .confirmDelivered .. => .delivered
  | .confirmNoWriteTerminal _ => .failedTerminal
  | .forceResend .. => .pending
  | .acknowledgeUnknown _ => .deliveryUnknown

def operatorAction : ScheduledDeliveryUnknownAction → OperatorAction
  | .confirmDelivered .. => .confirmDeliveryDelivered
  | .confirmNoWriteTerminal _ => .confirmDeliveryNoWrite
  | .forceResend .. => .forceDeliveryResend
  | .acknowledgeUnknown _ => .acknowledgeDeliveryUnknown

def insert (a : ScheduledDeliveryUnknownAction) (deliveryId : String) (attempt fence occurredAt : Int) :
    OperatorActionInsert where
  action := a.operatorAction
  targetKind := .delivery
  targetId := deliveryId
  expectedAttempt := attempt
  expectedFence := fence
  beforeState := .delivery .deliveryUnknown
  afterState := .delivery a.afterState
  evidence := some a.evidence
  reason := match a with
    | .forceResend _ reason _ => some reason
    | _ => none
  providerReceipt := a.receipt
  duplicateRiskAcknowledged := match a with
    | .forceResend _ _ acknowledged => acknowledged
    | _ => false
  effectiveAt := occurredAt

def errorKind : ScheduledDeliveryUnknownAction → Option String
  | .confirmNoWriteTerminal _ => some "operator_confirmed_no_write"
  | _ => none

def errorMessage : ScheduledDeliveryUnknownAction → Option String
  | .confirmNoWriteTerminal _ => some "operator confirmed provider did not write"
  | _ => none

def attemptState : ScheduledDeliveryUnknownAction → DeliveryAttemptState
  | .confirmDelivered .. => .delivered
  | _ => .failedTerminal

end ScheduledDeliveryUnknownAction

def resolvedAttempt (action : ScheduledDeliveryUnknownAction) (a : DeliveryAttemptRow) :
    DeliveryAttemptRow :=
  { a with state := action.attemptState, providerReceipt := action.receipt,
           providerOutcome := action.attemptState.outcome, errorKind := action.errorKind,
           errorMessage := action.errorMessage }

def resolvedDelivery (action : ScheduledDeliveryUnknownAction) (occurredAt : Int)
    (d : ScheduledDeliveryRow) : ScheduledDeliveryRow :=
  { d with state := action.afterState, nextAttemptAt := none, leaseOwner := none,
           leaseExpiresAt := none,
           claimedBaselineVersion := if action.afterState = .pending then none
             else d.claimedBaselineVersion,
           providerReceipt := action.receipt, providerOutcome := action.afterState.outcome,
           errorKind := action.errorKind, errorMessage := action.errorMessage,
           updatedAt := occurredAt }

def resolveAttempt (deliveryId : String) (attempt fence : Int)
    (action : ScheduledDeliveryUnknownAction) : StoreTx Unit :=
  if action.afterState = .pending then pure ()
  else do
    let updated ← updateDeliveryAttempts
      (fun a => a.deliveryId == deliveryId && a.attempt == attempt && a.fence == fence
        && a.state == .deliveryUnknown)
      (resolvedAttempt action)
    Tx.require (updated == 1) .scheduledDeliveryLostLease

def applyUnknownDeliveryOperatorAction (deliveryId : String) (attempt fence : Int)
    (action : ScheduledDeliveryUnknownAction) (occurredAt : Int) : StoreTx Unit := do
  resolveAttempt deliveryId attempt fence action
  let updated ← updateDeliveries .stateAndClaim
    (fun d => d.deliveryId == deliveryId && d.attempt == attempt && d.fence == fence
      && d.state == .deliveryUnknown && d.payload.isSome)
    (resolvedDelivery action occurredAt)
  Tx.require (updated == 1) .scheduledDeliveryLostLease
  consumeAction "delivery unknown transition requires one query-bound operator action" .delivery
    deliveryId occurredAt fun a => a.targetKind == .delivery && a.targetId == deliveryId
      && a.expectedAttempt == attempt && a.expectedFence == fence
      && a.beforeState == .delivery .deliveryUnknown && a.afterState == .delivery action.afterState
      && a.occurredAt == occurredAt && a.effectiveAt == occurredAt && a.evidence.isSome
      && a.action == action.operatorAction && a.providerReceipt == action.receipt
  advanceIf (action.afterState == .delivered) deliveryId occurredAt

def operatorActOnUnknownDelivery (E : Env) (request : SchedulerOperatorRequest) (deliveryId : String)
    (expectedAttempt expectedFence : Int) (action : ScheduledDeliveryUnknownAction) :
    StoreTx SchedulerOperatorMutationOutcome := Tx.rollbackIf (· == .conflict) do
  Tx.check (validateOperatorRequest request)
  Tx.check (invalidValue (validateText "operator delivery id" deliveryId))
  Tx.require (0 < expectedAttempt && 0 < expectedFence) (.invalidSchedulerState
    "invalid operator delivery authority")
  Tx.check (invalidValue (action.validate E))
  let insert := action.insert deliveryId expectedAttempt expectedFence request.occurredAt
  Tx.require (request.requestDigest == operatorActionDigest E insert) (.invalidSchedulerState
    "operator request digest does not bind the exact action")
  match ← Tx.read fun s => s.deliveries.rows.find? fun d => d.deliveryId == deliveryId
    && d.attempt == expectedAttempt && d.fence == expectedFence && d.payload.isSome with
  | none => return .conflict
  | some d => do
    Tx.check (validateOperatorDeliveryTargetBinding E (targetJson d.target) action)
    match ← Tx.read (existingOperatorRequest request) with
    | some outcome => return outcome
    | none => do
      if d.state != .deliveryUnknown then return .conflict
      match ← insertOperatorAction E request insert with
      | .replay => return .replay
      | .conflict => return .conflict
      | .inserted => do
        if action.afterState = .deliveryUnknown then return .applied
        applyUnknownDeliveryOperatorAction deliveryId expectedAttempt expectedFence action
          request.occurredAt
        return .applied

end Codeoff.State
