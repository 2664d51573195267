import Codeoff.State.Completion

/-!
# 配送の準備と貸与

配送の本文の確定（prepare）、次の仕事の下見（peek）、変わらない本文の省略（skip）、宛先の拒否、貸与（claim）。
状態の遷移は、表の BEFORE UPDATE トリガが見張る。
-/

namespace Codeoff.State

open Codeoff.Core Codeoff.Relational

def readinessRejectionMessage : String := "provider rejected exact delivery target during readiness"

/-! ## 配送の表への更新 -/

structure DeliveryIdentity where
  deliveryId : String
  runId : String
  jobId : String
  targetIdentityDigest : String
  target : DeliveryTargetSnapshot
  deliveryPolicyVersion : Int
  resultArtifactId : String
  resultAttempt : Int
  resultFence : Int
  targetSnapshotDigest : String
  intentKey : String
  createdAt : Int
deriving DecidableEq

def ScheduledDeliveryRow.identity (d : ScheduledDeliveryRow) : DeliveryIdentity :=
  { deliveryId := d.deliveryId, runId := d.runId, jobId := d.jobId,
    targetIdentityDigest := d.targetIdentityDigest, target := d.target,
    deliveryPolicyVersion := d.deliveryPolicyVersion, resultArtifactId := d.resultArtifactId,
    resultAttempt := d.resultAttempt, resultFence := d.resultFence,
    targetSnapshotDigest := d.targetSnapshotDigest, intentKey := d.intentKey, createdAt := d.createdAt }

def deliveryTransition : ScheduledDeliveryState → ScheduledDeliveryState → Bool
  | .pending, .sending | .pending, .failedTerminal | .pending, .skippedNone
  | .pending, .skippedUnchanged => true
  | .sending, .delivered | .sending, .failedRetryable | .sending, .failedTerminal
  | .sending, .deliveryUnknown => true
  | .failedRetryable, .pending | .failedRetryable, .failedTerminal => true
  | .deliveryUnknown, .delivered | .deliveryUnknown, .failedTerminal | .deliveryUnknown, .pending => true
  | _, _ => false

def readinessRejection (old new : ScheduledDeliveryRow) : Bool :=
  new.payload.isSome && new.providerOutcome == some .confirmedNoWriteTerminal
    && new.errorKind.any (0 < sqlLength ·) && new.errorMessage == some readinessRejectionMessage
    && new.providerReceipt.isNone && new.nextAttemptAt.isNone && new.leaseOwner.isNone
    && new.leaseExpiresAt.isNone && new.attempt == old.attempt && new.fence == old.fence
    && new.updatedAt ≥ old.updatedAt
    && (old.state == .pending || old.nextAttemptAt.any (· ≤ new.updatedAt))

def skippedUnchangedAccepted (s : Store) (old new : ScheduledDeliveryRow) : Bool :=
  old.state == .pending && old.payload.isSome && new.providerOutcome == some .skippedUnchanged
    && new.payload.any (·.hashAlgorithm == deliveryPayloadHashAlgorithm)
    && s.deliveryBaselines.rows.any fun b => sameKey new.baselineKey (some b.key)
      && new.payload.any (·.digest == b.acceptedPayloadDigest)
      && new.claimedBaselineVersion == some b.baselineVersion

def skippedNoneAccepted (old new : ScheduledDeliveryRow) : Bool :=
  old.state == .pending && new.target.kind == "none" && new.deliveryPolicyVersion == 1
    && new.payload.isSome && new.providerOutcome == some .skippedNone && new.providerReceipt.isNone
    && new.errorKind.isNone && new.errorMessage.isNone && new.nextAttemptAt.isNone
    && new.leaseOwner.isNone && new.leaseExpiresAt.isNone && new.claimedBaselineVersion.isNone
    && new.attempt == old.attempt && new.fence == old.fence

def claimedBaselineAllowed (old new : ScheduledDeliveryRow) : Bool :=
  (old.state == .pending && (new.state == .sending || new.state == .skippedUnchanged)
    && old.claimedBaselineVersion.isNone && new.claimedBaselineVersion.any (0 ≤ ·))
  || (old.state == .failedRetryable && new.state == .pending && old.claimedBaselineVersion.isSome
    && new.claimedBaselineVersion.isNone)
  || (old.state == .deliveryUnknown && (new.state == .delivered || new.state == .failedTerminal)
    && new.claimedBaselineVersion == old.claimedBaselineVersion)
  || (old.state == .deliveryUnknown && new.state == .pending && old.claimedBaselineVersion.isSome
    && new.claimedBaselineVersion.isNone)

/-- 文が代入する列。`update of …` のトリガは、その列を代入する文にだけ働く。 -/
inductive DeliveryUpdateKind where
  | lease
  | state
  | stateAndClaim
deriving DecidableEq, Repr

/-- `scheduled_run_deliveries` の BEFORE UPDATE トリガ。同一性が変わらない限り、衝突のトリガは働かない。 -/
def deliveryTriggers (s : Store) (kind : DeliveryUpdateKind) (old new : ScheduledDeliveryRow) :
    Option String :=
  if new.identity ≠ old.identity then some "scheduled delivery authority identity is immutable"
  else if old.payload.isSome && new.payload != old.payload then
    some "scheduled delivery payload is immutable"
  else if kind = .stateAndClaim && !claimedBaselineAllowed old new then
    some "scheduled delivery claim baseline authority is immutable"
  else if kind = .lease then none
  else if new.state = .skippedUnchanged && !skippedUnchangedAccepted s old new then
    some "unchanged delivery requires exact accepted baseline authority"
  else if new.state = .skippedNone && !skippedNoneAccepted old new then
    some "skipped none delivery requires exact none policy authority"
  else if new.state = .failedTerminal && (old.state = .pending || old.state = .failedRetryable)
      && !readinessRejection old new then
    some "readiness rejection requires exact unclaimed delivery authority"
  else if old.state ≠ new.state && !deliveryTransition old.state new.state then
    some "invalid scheduled delivery state transition"
  else none

def updateDeliveries (kind : DeliveryUpdateKind) (p : ScheduledDeliveryRow → Bool)
    (f : ScheduledDeliveryRow → ScheduledDeliveryRow) : StoreTx Nat :=
  statement Store.deliveries (fun s T => { s with deliveries := T })
    fun s T => T.update (deliveryTriggers s kind) p f

def retryActions (d : ScheduledDeliveryRow) (updatedAt : Int) (s : Store) : List OperatorActionRow :=
  s.operatorActions.rows.filter fun a => a.targetKind == .delivery && a.targetId == d.deliveryId
    && a.action == .retryDelivery && a.expectedAttempt == d.attempt && a.expectedFence == d.fence
    && a.beforeState == .delivery .failedRetryable && a.afterState == .delivery .pending
    && a.evidence.isSome && a.effectiveAt == updatedAt && a.occurredAt ≤ a.effectiveAt
    && !consumed s a

def consumeAll (kind : OperatorTargetKind) (targetId : String) (now : Int) :
    List OperatorActionRow → StoreTx Unit
  | [] => pure ()
  | a :: as => do
    statement Store.consumptions (fun s T => { s with consumptions := T })
      fun _ T => inserted (T.insert noInsertTrigger ⟨a.actionId, kind, targetId, now⟩)
    consumeAll kind targetId now as

/-- 失敗から待ちへ戻した行の AFTER UPDATE トリガ。予定の時刻どおりでなければ、操作が一つ要る。 -/
def afterDeliveryRetry (old : ScheduledDeliveryRow) (updatedAt : Int) : StoreTx Unit := do
  let actions ← Tx.read (retryActions old updatedAt)
  Tx.require (!(old.nextAttemptAt.any (· != updatedAt) && actions.length != 1))
    (.scheduler (.trigger "delivery retry requires due timing or one snapshot-bound operator action"))
  consumeAll .delivery old.deliveryId updatedAt actions

def acceptedBaselineOf (s : Store) (d : ScheduledDeliveryRow) : Option DeliveryBaselineRow :=
  s.deliveryBaselines.rows.find? fun b => sameKey d.baselineKey (some b.key)

def unchangedBaseline (s : Store) (d : ScheduledDeliveryRow) : Option DeliveryBaselineRow :=
  s.deliveryBaselines.rows.find? fun b => sameKey d.baselineKey (some b.key)
    && d.payload.any (·.digest == b.acceptedPayloadDigest)

def activeSibling (s : Store) (d : ScheduledDeliveryRow) : Bool :=
  s.deliveries.rows.any fun o => o.state == .sending && o.deliveryId != d.deliveryId
    && sameKey o.baselineKey d.baselineKey

def baselineRow (d : ScheduledDeliveryRow) (p : DeliveryPayloadSnapshot) (a : ResultArtifactRow)
    (acceptedAt version : Int) : DeliveryBaselineRow where
  jobId := d.jobId
  targetIdentityDigest := d.targetIdentityDigest
  targetSnapshotDigest := d.targetSnapshotDigest
  deliveryPolicyVersion := d.deliveryPolicyVersion
  renderVersion := p.renderVersion
  hashAlgorithm := p.hashAlgorithm
  acceptedPayloadDigest := p.digest
  sourceDeliveryId := d.deliveryId
  sourceRunId := d.runId
  sourceResultId := d.resultArtifactId
  sourceResultHash := a.resultHash
  acceptedAt := acceptedAt
  baselineVersion := version

def expectedBaselineVersion (s : Store) (d : ScheduledDeliveryRow) : Option Int :=
  if d.state = .skippedNone ∧ d.target.kind = "none" ∧ d.claimedBaselineVersion = none then
    d.payload.map DeliveryPayloadSnapshot.expectedBaselineVersion
  else if d.state = .delivered ∧ d.payload.isSome then
    (s.deliveryAttempts.rows.find? fun a => a.deliveryId == d.deliveryId && a.attempt == d.attempt
      && a.fence == d.fence && a.state == .delivered
      && d.claimedBaselineVersion == some a.claimedBaselineVersion).map
        DeliveryAttemptRow.claimedBaselineVersion
  else none

/-- `insert … on conflict do update`。書いた行の数が一つかどうかを返す。 -/
def upsertDeliveryBaseline (row : DeliveryBaselineRow) (expected : Int) : StoreTx Bool := do
  let current ← Tx.read fun s => s.deliveryBaselines.rows.find? fun b => b.key == row.key
  match current with
  | none =>
    if expected != 0 then return false
    statement Store.deliveryBaselines (fun s T => { s with deliveryBaselines := T })
      fun _ T => inserted (T.insert noInsertTrigger row)
    return true
  | some b =>
    if b.baselineVersion != expected || !(b.baselineVersion < i64Max) then return false
    let updated ← statement Store.deliveryBaselines (fun s T => { s with deliveryBaselines := T })
      fun _ T => T.update noTrigger (fun o => o.key == row.key)
        fun o => { row with baselineVersion := o.baselineVersion + 1 }
    return updated == 1

def advanceAcceptedDeliveryBaseline (deliveryId : String) (acceptedAt : Int) : StoreTx Bool := do
  let found ← Tx.read fun s => s.deliveries.rows.find? fun d => d.deliveryId == deliveryId
  let expected ← Tx.read fun s => found.bind (expectedBaselineVersion s)
  let expected ← Tx.orElseFail expected (.invalidSchedulerState
    "scheduled delivery is not accepted terminal authority")
  let source ← Tx.read fun s => do
    let d ← found
    let p ← d.payload
    let a ← s.artifacts.rows.find? fun a => a.artifactId == d.resultArtifactId && a.runId == d.runId
      && a.jobId == d.jobId
    return baselineRow d p a acceptedAt 1
  match source with
  | none => return false
  | some row => upsertDeliveryBaseline row expected

def advanceIf (accepted : Bool) (deliveryId : String) (now : Int) : StoreTx Unit :=
  if accepted then do
    let advanced ← advanceAcceptedDeliveryBaseline deliveryId now
    Tx.require advanced .scheduledDeliveryBaselineConflict
  else pure ()

inductive SkippedNoneBaselinePolicy where
  | doNotAdvance
  | accept
deriving DecidableEq, Repr

inductive PreparedScheduledDelivery where
  | pending (p : DeliveryPayloadSnapshot)
  | skippedNone (p : DeliveryPayloadSnapshot)
  | skippedUnchanged (p : DeliveryPayloadSnapshot)
deriving DecidableEq, Repr

def validateDeliveryPreparation (deliveryId contentType body : String) (renderVersion : Nat)
    (now : Int) : Except StateError Unit := do
  invalidValue (validateText "scheduled delivery id" deliveryId)
  invalidValue (validateText "scheduled delivery content type" contentType)
  if body = "" ∨ byteLen body > maxSnapshotBytes ∨ renderVersion = 0 ∨ now < 0 then
    invalidState "invalid scheduled delivery payload preparation"

/-- `DeliveryPayloadSnapshot::validate`。 -/
def validateSnapshot (d : ScheduledDeliveryRow) (p : DeliveryPayloadSnapshot) :
    Except StateValueError Unit := do
  validateText "delivery id" d.deliveryId
  validateText "delivery run id" d.runId
  validateText "delivery result id" d.resultArtifactId
  validateText "delivery content type" p.contentType
  validateLowercaseSha256 "delivery payload digest" p.digest
  validateLowercaseSha256 "delivery target identity digest" d.targetIdentityDigest
  validateLowercaseSha256 "delivery target snapshot digest" d.targetSnapshotDigest
  if p.targetSnapshotVersion = 0 ∨ d.deliveryPolicyVersion ≤ 0 ∨ p.renderVersion = 0
      ∨ p.createdAt < 0 then
    throw .invalidVersion

def payloadFromRow (E : Env) (d : ScheduledDeliveryRow) (p : DeliveryPayloadSnapshot) :
    Except StateError Unit := do
  if E.sha256Hex (utf8Bytes p.body) ≠ p.digest then
    invalidState "scheduled delivery payload digest mismatch"
  if p.hashAlgorithm ≠ deliveryPayloadHashAlgorithm then
    invalidState "unsupported scheduled delivery payload hash algorithm"
  invalidValue (validateSnapshot d p)

/-- `validate_delivery_intent_target_snapshot`。 -/
def validateTargetSnapshot (E : Env) (d : ScheduledDeliveryRow) : Except StateError Unit := do
  if d.target.identityDigest ≠ d.targetIdentityDigest then
    invalidState "scheduled delivery intent target snapshot identity is invalid"
  if E.sha256Hex (utf8Bytes (targetJson d.target)) ≠ d.targetSnapshotDigest then
    invalidState "scheduled delivery intent target snapshot digest mismatch"

def existingPrepared (E : Env) (d : ScheduledDeliveryRow) (p : DeliveryPayloadSnapshot)
    (contentType body : String) (renderVersion : Nat) : Except StateError PreparedScheduledDelivery := do
  payloadFromRow E d p
  if p.body ≠ body ∨ p.contentType ≠ contentType ∨ p.renderVersion ≠ renderVersion then
    throw .scheduledDeliveryPayloadConflict
  match d.state with
  | .pending => return .pending p
  | .skippedNone => return .skippedNone p
  | .skippedUnchanged => return .skippedUnchanged p
  | _ => throw .scheduledDeliveryPayloadConflict

def preparedRow (p : DeliveryPayloadSnapshot) (skippedNone : Bool) (now : Int)
    (d : ScheduledDeliveryRow) : ScheduledDeliveryRow :=
  { d with state := if skippedNone then .skippedNone else .pending, payload := some p,
           providerOutcome := if skippedNone then some .skippedNone else none, updatedAt := now }

def freezePayload (E : Env) (d : ScheduledDeliveryRow) (contentType body : String)
    (renderVersion : Nat) (now : Int) (policy : SkippedNoneBaselinePolicy) :
    StoreTx PreparedScheduledDelivery := do
  Tx.require (d.state == .pending) .scheduledDeliveryPayloadConflict
  let skippedNone := d.target.kind == "none"
  let key : BaselineKey := (d.jobId, d.targetIdentityDigest, d.targetSnapshotDigest,
    d.deliveryPolicyVersion, renderVersion, deliveryPayloadHashAlgorithm)
  let baseline ← Tx.read fun s => s.deliveryBaselines.rows.find? fun b => b.key == key
  let p : DeliveryPayloadSnapshot :=
    { renderVersion, contentType, hashAlgorithm := deliveryPayloadHashAlgorithm,
      digest := E.sha256Hex (utf8Bytes body), body, createdAt := now,
      expectedBaselineVersion := (baseline.map DeliveryBaselineRow.baselineVersion).getD 0,
      targetSnapshotVersion := d.target.resolverVersion.toNat }
  let updated ← updateDeliveries .state
    (fun o => o.deliveryId == d.deliveryId && o.state == .pending && o.payload.isNone)
    (preparedRow p skippedNone now)
  Tx.require (updated == 1) .scheduledDeliveryPayloadConflict
  advanceIf (skippedNone && policy == .accept) d.deliveryId now
  Tx.check (invalidValue (validateSnapshot d p))
  return if skippedNone then .skippedNone p else .pending p

def prepareScheduledDelivery (E : Env) (deliveryId contentType body : String) (renderVersion : Nat)
    (now : Int) (policy : SkippedNoneBaselinePolicy) : StoreTx PreparedScheduledDelivery := do
  Tx.check (validateDeliveryPreparation deliveryId contentType body renderVersion now)
  let found ← Tx.read fun s => s.deliveries.rows.find? fun d => d.deliveryId == deliveryId
    && s.artifacts.rows.any fun a => a.artifactId == d.resultArtifactId && a.runId == d.runId
      && a.jobId == d.jobId
  let d ← Tx.orElseFail found (.invalidSchedulerState "scheduled delivery intent does not exist")
  match d.payload with
  | some p => Tx.check (existingPrepared E d p contentType body renderVersion)
  | none => freezePayload E d contentType body renderVersion now policy

structure ScheduledDeliveryAuthority where
  deliveryId : String
  sourceState : ScheduledDeliveryState
  targetJson : String
  targetDigest : String
  payloadDigest : String
  bindingDigest : String
  intentKey : String
  payloadCreatedAt : Int
  policy : Policy
deriving DecidableEq

inductive ScheduledDeliveryWork where
  | idle
  | skipUnchanged (authority : ScheduledDeliveryAuthority)
  | providerRequired (authority : ScheduledDeliveryAuthority)
deriving DecidableEq

def deliveryEligible (s : Store) (now : Int) (d : ScheduledDeliveryRow) : Bool :=
  ((d.state == .failedRetryable && d.nextAttemptAt.any (· ≤ now))
    || (d.state == .pending && d.updatedAt ≤ now))
  && d.payload.isSome && !activeSibling s d

def deliveryBefore (a b : ScheduledDeliveryRow) : Bool :=
  let rank (d : ScheduledDeliveryRow) : Int := if d.state = .failedRetryable then 0 else 1
  let at_ (d : ScheduledDeliveryRow) : Int :=
    if d.state = .failedRetryable then d.nextAttemptAt.getD 0 else d.createdAt
  rank a < rank b || (rank a == rank b && (at_ a < at_ b
    || (at_ a == at_ b && a.deliveryId < b.deliveryId)))

def deliveryHead (s : Store) (now : Int) : Option ScheduledDeliveryRow :=
  first deliveryBefore (s.deliveries.rows.filter (deliveryEligible s now))

def authorityFromRow (E : Env) (d : ScheduledDeliveryRow) (p : DeliveryPayloadSnapshot) :
    Except StateError ScheduledDeliveryAuthority := do
  if d.state ≠ .pending ∧ d.state ≠ .failedRetryable then
    invalidState "scheduled delivery readiness selected a non-dispatchable state"
  validateTargetSnapshot E d
  invalidValue (validateLowercaseSha256 "scheduled delivery readiness payload digest" p.digest)
  return { deliveryId := d.deliveryId, sourceState := d.state, targetJson := targetJson d.target,
           targetDigest := d.targetSnapshotDigest, payloadDigest := p.digest,
           bindingDigest := E.sha256Hex (utf8Bytes d.intentKey), intentKey := d.intentKey,
           payloadCreatedAt := p.createdAt, policy := d.policy }

def ScheduledDeliveryAuthority.overdue (a : ScheduledDeliveryAuthority) (now : Int) : Bool :=
  match a.policy.1.deliveryDeadlineAt a.payloadCreatedAt with
  | none => true
  | some deadline => now ≥ deadline

def unsentRow (errorKind : String) (now : Int) (d : ScheduledDeliveryRow) : ScheduledDeliveryRow :=
  { d with state := .failedTerminal, nextAttemptAt := none,
           providerOutcome := some .confirmedNoWriteTerminal, errorKind := some errorKind,
           errorMessage := none, updatedAt := now }

def terminalizeOverdue (a : ScheduledDeliveryAuthority) (now : Int) : StoreTx Unit := do
  let _ ← updateDeliveries .state (fun d => d.deliveryId == a.deliveryId && d.state == a.sourceState)
    (unsentRow "delivery_deadline_exceeded" now)

def peekScheduledDeliveryWork (E : Env) (now : Int) : StoreTx ScheduledDeliveryWork := do
  Tx.require (0 ≤ now) (.invalidSchedulerState
    "scheduled delivery readiness time must be nonnegative")
  let head ← Tx.read (deliveryHead · now)
  match head.bind fun d => d.payload.map (d, ·) with
  | none => return .idle
  | some (d, p) => do
    let authority ← Tx.check (authorityFromRow E d p)
    if authority.overdue now then
      terminalizeOverdue authority now
      return .idle
    let unchanged ← Tx.read fun s => (unchangedBaseline s d).isSome
    return if d.state = .pending ∧ unchanged = true then .skipUnchanged authority
      else .providerRequired authority

namespace ScheduledDeliveryAuthority

def validate (E : Env) (a : ScheduledDeliveryAuthority) : Except StateError Unit := do
  invalidValue (validateText "scheduled delivery authority id" a.deliveryId)
  if (a.sourceState ≠ .pending ∧ a.sourceState ≠ .failedRetryable)
      ∨ E.sha256Hex (utf8Bytes a.intentKey) ≠ a.bindingDigest then
    invalidState "scheduled delivery readiness authority is invalid"
  if a.payloadCreatedAt < 0 then
    invalidState "scheduled delivery readiness policy authority is invalid"
  invalidValue (validateLowercaseSha256 "scheduled delivery readiness target digest" a.targetDigest)
  invalidValue (validateLowercaseSha256 "scheduled delivery readiness payload digest" a.payloadDigest)

def selects (a : ScheduledDeliveryAuthority) (d : ScheduledDeliveryRow) : Bool :=
  d.deliveryId == a.deliveryId && State.targetJson d.target == a.targetJson
    && d.targetSnapshotDigest == a.targetDigest && d.payload.any (·.digest == a.payloadDigest)
    && d.intentKey == a.intentKey

end ScheduledDeliveryAuthority

def skippedRow (s : Store) (now : Int) (d : ScheduledDeliveryRow) : ScheduledDeliveryRow :=
  { d with state := .skippedUnchanged,
           claimedBaselineVersion := (unchangedBaseline s d).map DeliveryBaselineRow.baselineVersion,
           providerOutcome := some .skippedUnchanged, nextAttemptAt := none, leaseOwner := none,
           leaseExpiresAt := none, updatedAt := now }

def skipScheduledDeliveryUnchanged (E : Env) (a : ScheduledDeliveryAuthority) (now : Int) :
    StoreTx Bool := do
  Tx.check (a.validate E)
  Tx.require (0 ≤ now) (.invalidSchedulerState "scheduled delivery skip time must be nonnegative")
  let s ← Tx.read id
  let skipped ← updateDeliveries .stateAndClaim
    (fun d => a.selects d && d.state == .pending && a.sourceState == .pending && d.updatedAt ≤ now
      && !activeSibling s d && (unchangedBaseline s d).isSome)
    (skippedRow s now)
  return skipped == 1

def maxDeliveryErrorMessageBytes : Nat := 4 * 1024

def validateDeliveryError (errorKind : String) (message : Option String) : Except StateError Unit := do
  invalidValue (validateText "scheduled delivery error kind" errorKind)
  if message.any (byteLen · > maxDeliveryErrorMessageBytes) then
    invalidState "scheduled delivery error message exceeds its storage bound"

def rejectedRow (errorKind : ScheduledDeliveryRow → String) (now : Int) (d : ScheduledDeliveryRow) :
    ScheduledDeliveryRow :=
  { d with state := .failedTerminal, nextAttemptAt := none, leaseOwner := none, leaseExpiresAt := none,
           providerReceipt := none, providerOutcome := some .confirmedNoWriteTerminal,
           errorKind := some (errorKind d), errorMessage := some readinessRejectionMessage,
           updatedAt := now }

def rejectScheduledDeliveryReadiness (E : Env) (a : ScheduledDeliveryAuthority) (errorKind : String)
    (now : Int) : StoreTx Bool := do
  Tx.check (a.validate E)
  Tx.check (validateDeliveryError errorKind (some readinessRejectionMessage))
  Tx.require (0 ≤ now) (.invalidSchedulerState
    "scheduled delivery readiness rejection time must be nonnegative")
  let rejected ← updateDeliveries .state
    (fun d => a.selects d && d.state == a.sourceState && d.updatedAt ≤ now
      && (a.sourceState == .pending || d.nextAttemptAt.any (· ≤ now)))
    (rejectedRow (fun _ => errorKind) now)
  return rejected == 1

/-! ## 貸与 -/

structure ScheduledDeliveryBinding where
  deliveryId : String
  attempt : Int
  fence : Int
  leaseOwner : String
  idempotencyKey : String
deriving DecidableEq, Repr

structure ClaimedScheduledDelivery where
  binding : ScheduledDeliveryBinding
  payload : DeliveryPayloadSnapshot
  targetJson : String
  policy : Policy
deriving DecidableEq

namespace ScheduledDeliveryRow

def pastDeadline (d : ScheduledDeliveryRow) (now : Int) : Bool :=
  d.payload.any fun p => p.createdAt > i64Max - d.policy.1.deliveryDeadlineSeconds
    || now ≥ p.createdAt + d.policy.1.deliveryDeadlineSeconds

def outOfAttempts (d : ScheduledDeliveryRow) : Bool := d.attempt ≥ d.policy.1.deliveryMaxAttempts

end ScheduledDeliveryRow

def terminalizeExactDelivery (a : ScheduledDeliveryAuthority) (sourceState : ScheduledDeliveryState)
    (now : Int) : StoreTx Bool := do
  let updated ← updateDeliveries .state
    (fun d => a.selects d && d.state == sourceState
      && (sourceState == .pending || d.nextAttemptAt.any (· ≤ now))
      && (d.outOfAttempts || d.pastDeadline now))
    (rejectedRow (fun d => if d.pastDeadline now then "delivery_deadline_exceeded"
      else "delivery_retry_exhausted") now)
  return updated == 1

def requeuedRow (d : ScheduledDeliveryRow) : ScheduledDeliveryRow :=
  { d with state := .pending, updatedAt := d.nextAttemptAt.getD d.updatedAt, nextAttemptAt := none,
           claimedBaselineVersion := none, providerOutcome := none, errorKind := none,
           errorMessage := none }

def afterRequeue : List ScheduledDeliveryRow → StoreTx Unit
  | [] => pure ()
  | d :: ds => do
    afterDeliveryRetry d (requeuedRow d).updatedAt
    afterRequeue ds

def requeueExactRetryableDelivery (a : ScheduledDeliveryAuthority) (now : Int) : StoreTx Bool := do
  if ← terminalizeExactDelivery a .failedRetryable now then return false
  let s ← Tx.read id
  let requeueable (d : ScheduledDeliveryRow) : Bool :=
    a.selects d && d.state == .failedRetryable && d.nextAttemptAt.any (· ≤ now) && !d.outOfAttempts
      && d.attempt < i64Max && d.fence < i64Max && !activeSibling s d && (unchangedBaseline s d).isNone
  let requeued ← updateDeliveries .stateAndClaim requeueable requeuedRow
  afterRequeue (s.deliveries.rows.filter requeueable)
  if requeued == 1 then return true
  let exhausted ← Tx.read fun s => s.deliveries.rows.any fun d => a.selects d
    && d.state == .failedRetryable && d.nextAttemptAt.any (· ≤ now)
    && (d.attempt == i64Max || d.fence == i64Max)
  Tx.require (!exhausted) .scheduledDeliveryCounterExhausted
  return false

def deliveryIdempotencyKey (d : ScheduledDeliveryRow) : String :=
  d.idempotencyKey.getD ("delivery-v1:" ++ lowerHex d.deliveryId ++ ":"
    ++ (d.payload.map DeliveryPayloadSnapshot.digest).getD "")

def sendingRow (s : Store) (leaseOwner : String) (leaseExpiresAt now : Int) (d : ScheduledDeliveryRow) :
    ScheduledDeliveryRow :=
  { d with state := .sending, attempt := d.attempt + 1, fence := d.fence + 1,
           leaseOwner := some leaseOwner, leaseExpiresAt := some leaseExpiresAt, nextAttemptAt := none,
           idempotencyKey := some (deliveryIdempotencyKey d),
           claimedBaselineVersion :=
             some (((acceptedBaselineOf s d).map DeliveryBaselineRow.baselineVersion).getD 0),
           providerOutcome := none, errorKind := none, errorMessage := none, updatedAt := now }

def sendingAttempt (s : Store) (leaseOwner : String) (leaseExpiresAt now : Int)
    (d : ScheduledDeliveryRow) : DeliveryAttemptRow where
  deliveryId := d.deliveryId
  attempt := d.attempt + 1
  fence := d.fence + 1
  leaseOwner := leaseOwner
  leaseExpiresAt := leaseExpiresAt
  idempotencyKey := deliveryIdempotencyKey d
  claimedBaselineVersion := ((acceptedBaselineOf s d).map DeliveryBaselineRow.baselineVersion).getD 0
  state := .sending
  providerReceipt := none
  providerOutcome := none
  errorKind := none
  errorMessage := none
  startedAt := now
  completedAt := none

def insertDeliveryAttempt (a : DeliveryAttemptRow) : StoreTx Unit :=
  statement Store.deliveryAttempts (fun s T => { s with deliveryAttempts := T })
    fun _ T => inserted (T.insert noInsertTrigger a)

def leaseDelivery (E : Env) (leaseOwner : String) (leaseExpiresAt now : Int) (d : ScheduledDeliveryRow)
    (p : DeliveryPayloadSnapshot) : StoreTx ClaimedScheduledDelivery := do
  let s ← Tx.read id
  let _ ← updateDeliveries .stateAndClaim (fun o => o.deliveryId == d.deliveryId)
    (sendingRow s leaseOwner leaseExpiresAt now)
  insertDeliveryAttempt (sendingAttempt s leaseOwner leaseExpiresAt now d)
  Tx.check (payloadFromRow E d p)
  Tx.check (validateTargetSnapshot E d)
  return { binding := { deliveryId := d.deliveryId, attempt := d.attempt + 1, fence := d.fence + 1,
                        leaseOwner, idempotencyKey := deliveryIdempotencyKey d },
           payload := p, targetJson := targetJson d.target, policy := d.policy }

def claimableDelivery (s : Store) (a : ScheduledDeliveryAuthority) (now : Int)
    (d : ScheduledDeliveryRow) : Bool :=
  a.selects d && d.state == .pending && !d.outOfAttempts && d.attempt < i64Max && d.fence < i64Max
    && !d.pastDeadline now && d.updatedAt ≤ now && !activeSibling s d && (unchangedBaseline s d).isNone

def requeueFirst (a : ScheduledDeliveryAuthority) (now : Int) : StoreTx Bool :=
  if a.sourceState = .failedRetryable then requeueExactRetryableDelivery a now else pure true

def pendingClaim (a : ScheduledDeliveryAuthority) (s : Store) :
    Except StateError (Option ClaimedScheduledDelivery) :=
  if s.deliveries.rows.any fun d => d.deliveryId == a.deliveryId && d.state == .pending
      && (d.attempt == i64Max || d.fence == i64Max) then .error .scheduledDeliveryCounterExhausted
  else .ok none

/-- 貸与の本体。`none` は、確定の直前の時刻が期限を過ぎたことを表し、呼び出し側が巻き戻す。 -/
def claimExactDelivery (E : Env) (a : ScheduledDeliveryAuthority) (leaseOwner : String)
    (observedNow claimNow commitNow : Int) :
    StoreTx (Option (Except StateError (Option ClaimedScheduledDelivery))) := do
  if ← terminalizeExactDelivery a a.sourceState observedNow then return some (.ok none)
  let ready ← requeueFirst a observedNow
  if !ready then return some (.ok none)
  let leaseExpiresAt ← Tx.orElseFail (checkedAdd claimNow a.policy.1.deliveryLeaseSeconds)
    (.invalidSchedulerState "scheduled delivery lease overflows")
  let found ← Tx.read fun s => do
    let d ← s.deliveries.rows.find? (claimableDelivery s a claimNow)
    let p ← d.payload
    return (d, p)
  match found with
  | none => do
    if ← terminalizeExactDelivery a .pending claimNow then return some (.ok none)
    let outcome ← Tx.read (pendingClaim a)
    return some outcome
  | some (d, p) => do
    let claimed ← leaseDelivery E leaseOwner leaseExpiresAt claimNow d p
    if leaseExpiresAt ≤ commitNow || d.pastDeadline commitNow then return none
    return some (.ok (some claimed))

def abandonClaim (a : ScheduledDeliveryAuthority) (now : Int) :
    StoreTx (Except StateError (Option ClaimedScheduledDelivery)) :=
  if a.overdue now then do
    let _ ← terminalizeExactDelivery a a.sourceState now
    return .ok none
  else return .ok none

/-- 時刻は三度読み直し、後戻りしないように前の時刻との大きい方を取る。 -/
def claimScheduledDelivery (E : Env) (a : ScheduledDeliveryAuthority) (leaseOwner : String) (now : Int)
    (first second third : Int) : StoreTx (Except StateError (Option ClaimedScheduledDelivery)) := do
  Tx.check (invalidValue (validateText "scheduled delivery lease owner" leaseOwner))
  Tx.check (a.validate E)
  Tx.require (0 ≤ now) (.invalidSchedulerState "scheduled delivery claim time must be nonnegative")
  let observedNow := max first now
  let claimNow := max second observedNow
  let commitNow := max third claimNow
  Tx.orRestart (claimExactDelivery E a leaseOwner observedNow claimNow commitNow)
    (abandonClaim a commitNow)

def oldestPending (s : Store) (now : Int) (p : ScheduledDeliveryRow → Bool) :
    Option ScheduledDeliveryRow :=
  first (fun a b => decide (a.createdAt < b.createdAt)
      || (a.createdAt == b.createdAt && a.deliveryId < b.deliveryId))
    (s.deliveries.rows.filter fun d => d.state == .pending && d.payload.isSome && d.updatedAt ≤ now
      && !activeSibling s d && p d)

def skippedHead (s : Store) (now : Int) (d : ScheduledDeliveryRow) : ScheduledDeliveryRow :=
  { d with state := .skippedUnchanged,
           claimedBaselineVersion := (unchangedBaseline s d).map DeliveryBaselineRow.baselineVersion,
           providerOutcome := some .skippedUnchanged, updatedAt := now }

/-- 権限を介さない貸与。先頭の本文が変わっていなければ、省略するだけで返る。 -/
def claimNextScheduledDelivery (E : Env) (leaseOwner : String) (now leaseExpiresAt : Int) :
    StoreTx (Except StateError (Option ClaimedScheduledDelivery)) := do
  Tx.check (invalidValue (validateText "scheduled delivery lease owner" leaseOwner))
  Tx.require (0 ≤ now && now < leaseExpiresAt) (.invalidSchedulerState
    "scheduled delivery lease must expire after claim time")
  let s ← Tx.read id
  let head := (oldestPending s now fun _ => true).filter fun d => (unchangedBaseline s d).isSome
  match head with
  | some d => do
    let _ ← updateDeliveries .stateAndClaim (fun o => o.deliveryId == d.deliveryId) (skippedHead s now)
    return .ok none
  | none => do
    let next := (oldestPending s now fun d => d.attempt < i64Max && d.fence < i64Max).filter
      fun d => (unchangedBaseline s d).isNone
    match next.bind fun d => d.payload.map (d, ·) with
    | some (d, p) => do
      let claimed ← leaseDelivery E leaseOwner leaseExpiresAt now d p
      return .ok (some claimed)
    | none => do
      let exhausted ← Tx.read fun s => s.deliveries.rows.any fun d => d.state == .pending
        && d.payload.isSome && (d.attempt == i64Max || d.fence == i64Max)
      return if exhausted then .error .scheduledDeliveryCounterExhausted else .ok none

/-!
## 本文の元になる成果

まだ本文のない意図のうち最も古いものと、その成果の要約を読む（`next_scheduled_delivery_render_input`）。読むだけで、
何も書かない。
-/

structure ScheduledDeliveryRenderInput where
  deliveryId : String
  body : String
deriving DecidableEq, Repr

def deliveryBodyFromResultJson (resultJson : String) : Except StateError String :=
  match Json.parse resultJson with
  -- 文言は JSON の読み取りの誤りそのもので、ここでは持たない。
  | none => invalidState ""
  | some (.obj members) => do
    let result : Json.Value := .obj members
    if members.length ≠ 2 ∨ (result.get "schema_version").bind Json.Value.asU64 ≠ some 1 then
      invalidState "scheduled result artifact has an unsupported schema"
    match result.get "summary" with
    | some (.str body) => do
      invalidValue (validateText "scheduled result summary" body)
      return body
    | _ => invalidState "scheduled result artifact has no summary"
  | some _ => invalidState "scheduled result artifact is not an object"

def ResultArtifactRow.isSourceOf (a : ResultArtifactRow) (d : ScheduledDeliveryRow) : Bool :=
  a.artifactId == d.resultArtifactId && a.runId == d.runId && a.jobId == d.jobId
    && a.acceptedAttempt == d.resultAttempt && a.acceptedFence == d.resultFence

def unrendered (s : Store) (d : ScheduledDeliveryRow) : Bool :=
  d.state == .pending && d.payload.isNone
    && (s.runs.rows.any fun r => r.runId == d.runId && r.jobId == d.jobId && r.state == .succeeded
      && r.resultArtifactId == some d.resultArtifactId)
    && s.artifacts.rows.any (·.isSourceOf d)

def createdBefore (a b : ScheduledDeliveryRow) : Bool :=
  decide (a.createdAt < b.createdAt) || (a.createdAt == b.createdAt && a.deliveryId < b.deliveryId)

def nextScheduledDeliveryRenderInput (s : Store) : Except StateError (Option ScheduledDeliveryRenderInput) := do
  let source : Option (ScheduledDeliveryRow × ResultArtifactRow) := do
    let d ← first createdBefore (s.deliveries.rows.filter (unrendered s))
    let a ← s.artifacts.rows.find? (·.isSourceOf d)
    return (d, a)
  match source with
  | none => return none
  | some (d, a) => do
    let body ← deliveryBodyFromResultJson a.resultJson
    return some { deliveryId := d.deliveryId, body }

end Codeoff.State
