import Codeoff.State.Value

/-!
# 表の宣言

移行を終えた後のスキーマの表。行は列の組で、CHECK と UNIQUE は宣言のとおりに書く。
-/

namespace Codeoff.State

open Codeoff.Core Codeoff.Relational

/-- SQLite の `length(text)`。最初の NUL より前の文字を、その先頭のバイトで数える。 -/
def sqlLength (s : String) : Nat :=
  ((utf8Bytes s).takeWhile (· ≠ 0)).countP fun b => b.toNat / 64 ≠ 2

def sameKey {α : Type} [DecidableEq α] (a b : Option α) : Bool := a.isSome && a == b

theorem sameKey_comm {α : Type} [DecidableEq α] (a b : Option α) : sameKey a b = sameKey b a := by
  unfold sameKey
  cases a with
  | none => cases b <;> simp
  | some x =>
    cases b with
    | none => simp
    | some y => simp [eq_comm]

/-! ## 定期ジョブ -/

inductive ScheduledJobStatus where
  | active
  | paused
  | completed
  | deleted
deriving DecidableEq, Repr

structure ScheduledJobRow where
  jobId : String
  definition : ScheduledJobDefinition
  creator : PrincipalKey
  owner : PrincipalKey
  status : ScheduledJobStatus
  generation : Int
  capability : CapabilityProfileSnapshot
  policy : Policy
  createdAt : Int
  updatedAt : Int
  deletedAt : Option Int
deriving DecidableEq

/-- `scheduled_jobs` の CHECK。 -/
abbrev ScheduledJobRow.Check (r : ScheduledJobRow) : Prop :=
  (1 ≤ sqlLength r.jobId ∧ sqlLength r.jobId ≤ 255) ∧
  0 < r.definition.version ∧
  (0 < sqlLength r.creator.kind ∧ 0 < sqlLength r.creator.provider ∧
    0 < sqlLength r.creator.tenant ∧ 0 < sqlLength r.creator.subject) ∧
  (0 < sqlLength r.owner.kind ∧ 0 < sqlLength r.owner.provider ∧
    0 < sqlLength r.owner.tenant ∧ 0 < sqlLength r.owner.subject) ∧
  0 ≤ r.generation ∧
  (0 < r.capability.schemaVersion ∧ 0 < sqlLength r.capability.digest) ∧
  (r.status = .deleted ↔ r.deletedAt.isSome)

def scheduledJobs : Schema ScheduledJobRow where
  check r := decide r.Check
  conflict a b := a.jobId == b.jobId
  conflict_symm a b := by simp only [BEq.comm]

structure ScheduleRow where
  scheduleId : String
  jobId : String
  spec : ScheduleSpec
  generation : Int
  nextRunAt : Option Int
  createdAt : Int
  updatedAt : Int
deriving DecidableEq

/-- `interval_seconds > 0`。他の種別では常に真である。 -/
def ScheduleSpec.intervalPositive : ScheduleSpec → Bool
  | .fixedInterval _ everySeconds => 0 < everySeconds
  | _ => true

abbrev ScheduleRow.Check (r : ScheduleRow) : Prop :=
  (1 ≤ sqlLength r.scheduleId ∧ sqlLength r.scheduleId ≤ 255) ∧ 0 ≤ r.generation ∧
  r.spec.intervalPositive = true

def schedules : Schema ScheduleRow where
  check r := decide r.Check
  conflict a b := a.scheduleId == b.scheduleId || a.jobId == b.jobId
  conflict_symm a b := by simp only [BEq.comm]

/-- ジョブの現在の宛先。`ordinal` は要求の中の順である。 -/
structure DeliveryTargetRow where
  jobId : String
  ordinal : Nat
  target : DeliveryTargetSnapshot
deriving DecidableEq

abbrev DeliveryTargetRow.Check (r : DeliveryTargetRow) : Prop :=
  (0 < sqlLength r.target.provider ∧ 0 < sqlLength r.target.connector ∧
    0 < sqlLength r.target.tenant ∧ 0 < sqlLength r.target.kind) ∧
  (0 < r.target.resolverVersion.toNat ∧ 0 < sqlLength r.target.resolverDigest ∧
    0 < sqlLength r.target.identityDigest)

def scheduledJobDeliveryTargets : Schema DeliveryTargetRow where
  check r := decide r.Check
  conflict a b := a.target.targetId == b.target.targetId
    || (a.jobId == b.jobId && a.ordinal == b.ordinal)
    || (a.jobId == b.jobId && a.target.identityDigest == b.target.identityDigest)
  conflict_symm a b := by simp only [BEq.comm]

structure BaselineResult where
  hashAlgorithm : String
  resultHash : String
  sourceRunId : String
  completedAt : Int
deriving DecidableEq, Repr

structure ExecutionBaselineRow where
  jobId : String
  baselineVersion : Int
  result : Option BaselineResult
  previousSuccessContext : Option String
deriving DecidableEq

def scheduledExecutionBaselines : Schema ExecutionBaselineRow where
  check r := decide (0 ≤ r.baselineVersion)
  conflict a b := a.jobId == b.jobId
  conflict_symm a b := by simp only [BEq.comm]

/-! ## 実行 -/

inductive ScheduledRunState where
  | pending
  | leased
  | executing
  | succeeded
  | failed
  | timedOut
  | cancelled
  | outcomeUnknown
deriving DecidableEq, Repr

def ScheduledRunState.isLive (s : ScheduledRunState) : Bool := s == .leased || s == .executing

def ScheduledRunState.holdsSlot (s : ScheduledRunState) : Bool :=
  s == .pending || s == .leased || s == .executing || s == .outcomeUnknown

def ScheduledRunState.isPreExecution (s : ScheduledRunState) : Bool := s == .pending || s == .leased

/-- 発生時に写した実行の基準（`execution_baseline_json`）。 -/
structure ExecutionBaselineSnapshot where
  baselineVersion : Int
  result : Option BaselineResult
  previousSuccessContext : Option String
deriving DecidableEq, Repr

structure ScheduledRunRow where
  runId : String
  jobId : String
  scheduleId : String
  jobGeneration : Int
  scheduleGeneration : Int
  scheduledFor : Int
  coalescedThrough : Int
  skippedCount : Nat
  skippedCountSaturated : Bool
  definition : ScheduledJobDefinition
  capability : CapabilityProfileSnapshot
  targets : List DeliveryTargetSnapshot
  executionBaseline : ExecutionBaselineSnapshot
  policy : Policy
  state : ScheduledRunState
  attempt : Int
  fence : Int
  nextAttemptAt : Option Int
  leaseOwner : Option String
  leaseExpiresAt : Option Int
  overlapSlot : Option Int
  resultArtifactId : Option String
  resultContext : Option String
  resultHash : Option (String × String)
  errorKind : Option String
  errorMessage : Option String
  createdAt : Int
  updatedAt : Int
deriving DecidableEq

/-- `scheduled_runs` の CHECK。JSON の形の条件は列の型が保証する。 -/
abbrev ScheduledRunRow.Check (r : ScheduledRunRow) : Prop :=
  (0 ≤ r.jobGeneration ∧ 0 ≤ r.scheduleGeneration ∧ r.scheduledFor ≤ r.coalescedThrough) ∧
  0 < r.definition.version ∧
  (0 < r.capability.schemaVersion ∧ 0 < sqlLength r.capability.digest) ∧
  (0 ≤ r.attempt ∧ 0 ≤ r.fence) ∧
  ((r.state.isLive = true ∧ r.leaseOwner.isSome ∧ r.leaseExpiresAt.isSome) ∨
    (r.state.isLive = false ∧ r.leaseOwner = none ∧ r.leaseExpiresAt = none)) ∧
  (r.nextAttemptAt = none ∨ r.state = .pending) ∧
  (r.resultHash = none ∨ r.state = .succeeded) ∧
  (r.resultContext = none ∨ r.state = .succeeded) ∧
  ((r.errorKind = none ∧ r.errorMessage = none) ∨
    ((r.state = .failed ∨ r.state = .timedOut ∨ r.state = .outcomeUnknown) ∧ r.errorKind.isSome)) ∧
  ((r.state.holdsSlot = true ∧ r.overlapSlot = some 1) ∨
    (r.state.holdsSlot = false ∧ r.overlapSlot = none))

def scheduledRuns : Schema ScheduledRunRow where
  check r := decide r.Check
  conflict a b := a.runId == b.runId
    || (a.jobId == b.jobId && a.scheduledFor == b.scheduledFor)
    || (a.jobId == b.jobId && sameKey a.overlapSlot b.overlapSlot)
  conflict_symm a b := by simp only [BEq.comm, sameKey_comm]

inductive RunAttemptState where
  | leased
  | executing
  | retryScheduled
  | preflightRejected
  | leaseExpired
  | succeeded
  | failed
  | timedOut
  | cancelled
  | outcomeUnknown
deriving DecidableEq, Repr

def RunAttemptState.isOpen (s : RunAttemptState) : Bool := s == .leased || s == .executing

structure RunAttemptRow where
  runId : String
  jobId : String
  attempt : Int
  fence : Int
  leaseOwner : String
  state : RunAttemptState
  claimedAt : Int
  leaseExpiresAt : Int
  preflightCompletedAt : Option Int
  executingAt : Option Int
  completedAt : Option Int
  attestedProfile : Option AttestedExecutionProfileSnapshot
  errorKind : Option String
  errorMessage : Option String
deriving DecidableEq

abbrev RunAttemptRow.Check (r : RunAttemptRow) : Prop :=
  (0 < r.attempt ∧ 0 < r.fence) ∧
  0 < sqlLength r.leaseOwner ∧
  r.claimedAt < r.leaseExpiresAt ∧
  (∀ p ∈ r.attestedProfile, 0 < p.schemaVersion ∧ 0 < sqlLength p.hashAlgorithm ∧ 0 < sqlLength p.digest) ∧
  ((r.state ≠ .executing ∧ r.state ≠ .succeeded ∧ r.state ≠ .timedOut ∧ r.state ≠ .outcomeUnknown) ∨
    r.attestedProfile.isSome) ∧
  (r.state ≠ .executing ∨ r.executingAt.isSome) ∧
  (r.state.isOpen = true ↔ r.completedAt = none) ∧
  ((r.errorKind = none ∧ r.errorMessage = none) ∨ (r.errorKind.isSome ∧ r.state.isOpen = false))

def scheduledRunAttempts : Schema RunAttemptRow where
  check r := decide r.Check
  conflict a b := a.runId == b.runId && (a.attempt == b.attempt || a.fence == b.fence)
  conflict_symm a b := by simp only [BEq.comm]

structure ResultArtifactRow where
  artifactId : String
  runId : String
  jobId : String
  acceptedAttempt : Int
  acceptedFence : Int
  resultJson : String
  hashAlgorithm : String
  resultHash : String
  previousSuccessContext : String
  completedAt : Int
deriving DecidableEq

abbrev ResultArtifactRow.Check (r : ResultArtifactRow) : Prop :=
  0 < sqlLength r.artifactId ∧ (0 < r.acceptedAttempt ∧ 0 < r.acceptedFence) ∧
  (0 < sqlLength r.hashAlgorithm ∧ 0 < sqlLength r.resultHash)

def scheduledRunResultArtifacts : Schema ResultArtifactRow where
  check r := decide r.Check
  conflict a b := a.artifactId == b.artifactId || a.runId == b.runId
  conflict_symm a b := by simp only [BEq.comm]

inductive ScheduledRunLateEvidenceKind where
  | completionAfterLeaseLoss
  | preflightAfterLeaseLoss
  | heartbeatAfterLeaseLoss
deriving DecidableEq, Repr

structure LateEvidenceRow where
  evidenceId : String
  runId : String
  attempt : Int
  fence : Int
  kind : ScheduledRunLateEvidenceKind
  evidenceDigest : String
  observedAt : Int
deriving DecidableEq

abbrev LateEvidenceRow.Check (r : LateEvidenceRow) : Prop :=
  0 < sqlLength r.evidenceId ∧ 0 < r.attempt ∧ 0 < r.fence ∧ 0 < sqlLength r.evidenceDigest

def scheduledRunLateEvidence : Schema LateEvidenceRow where
  check r := decide r.Check
  conflict a b := a.evidenceId == b.evidenceId
    || (a.runId == b.runId && a.attempt == b.attempt && a.fence == b.fence && a.kind == b.kind
      && a.evidenceDigest == b.evidenceDigest)
  conflict_symm a b := by simp only [BEq.comm]

/-! ## 配送 -/

inductive ScheduledDeliveryState where
  | pending
  | sending
  | delivered
  | failedRetryable
  | failedTerminal
  | deliveryUnknown
  | skippedNone
  | skippedUnchanged
deriving DecidableEq, Repr

inductive ProviderOutcome where
  | confirmedSuccess
  | confirmedNoWriteRetryable
  | confirmedNoWriteTerminal
  | ambiguousPostWrite
  | skippedNone
  | skippedUnchanged
deriving DecidableEq, Repr

/-- 状態ごとに定まる `provider_outcome`。 -/
def ScheduledDeliveryState.outcome : ScheduledDeliveryState → Option ProviderOutcome
  | .pending => none
  | .sending => none
  | .delivered => some .confirmedSuccess
  | .failedRetryable => some .confirmedNoWriteRetryable
  | .failedTerminal => some .confirmedNoWriteTerminal
  | .deliveryUnknown => some .ambiguousPostWrite
  | .skippedNone => some .skippedNone
  | .skippedUnchanged => some .skippedUnchanged

def ScheduledDeliveryState.hasError (s : ScheduledDeliveryState) : Bool :=
  s == .failedRetryable || s == .failedTerminal || s == .deliveryUnknown

def ScheduledDeliveryState.hasClaim (s : ScheduledDeliveryState) : Bool :=
  s == .sending || s == .delivered || s == .failedRetryable || s == .deliveryUnknown
    || s == .skippedUnchanged

def deliveryPayloadHashAlgorithm : String := "sha256-utf8-exact-v1"

/-- 一度だけ書かれる配送の本文。 -/
structure DeliveryPayloadSnapshot where
  renderVersion : Nat
  contentType : String
  hashAlgorithm : String
  digest : String
  body : String
  createdAt : Int
  expectedBaselineVersion : Int
  targetSnapshotVersion : Nat
deriving DecidableEq, Repr

structure ScheduledDeliveryRow where
  deliveryId : String
  runId : String
  jobId : String
  targetIdentityDigest : String
  target : DeliveryTargetSnapshot
  state : ScheduledDeliveryState
  attempt : Int
  fence : Int
  nextAttemptAt : Option Int
  leaseOwner : Option String
  leaseExpiresAt : Option Int
  idempotencyKey : Option String
  providerReceipt : Option String
  providerOutcome : Option ProviderOutcome
  errorKind : Option String
  errorMessage : Option String
  deliveryPolicyVersion : Int
  payload : Option DeliveryPayloadSnapshot
  claimedBaselineVersion : Option Int
  resultArtifactId : String
  resultAttempt : Int
  resultFence : Int
  targetSnapshotDigest : String
  intentKey : String
  policy : Policy
  createdAt : Int
  updatedAt : Int
deriving DecidableEq

/-- 本文の CHECK。`payload_snapshot` は BLOB なので、長さはバイトで数える。 -/
abbrev DeliveryPayloadSnapshot.Check (p : DeliveryPayloadSnapshot) (createdAt : Int) : Prop :=
  0 < byteLen p.body ∧ 0 < p.renderVersion ∧ 0 < sqlLength p.contentType ∧
  p.hashAlgorithm = deliveryPayloadHashAlgorithm ∧ isLowercaseSha256 p.digest = true ∧
  createdAt ≤ p.createdAt ∧ 0 ≤ p.expectedBaselineVersion ∧ 0 < p.targetSnapshotVersion

/-- `hex(cast(text as blob))` の小文字。 -/
def lowerHex (s : String) : String :=
  String.ofList ((utf8Bytes s).flatMap fun b => [Json.hexDigit (b.toNat / 16), Json.hexDigit (b.toNat % 16)])

def deliveryIntentKeyText (runId targetIdentityDigest : String) : String :=
  "v1:" ++ lowerHex runId ++ ":" ++ targetIdentityDigest ++ ":1"

/-- `scheduled_run_deliveries` の CHECK（`authority_kind` が `intent_v1` の行）。 -/
abbrev ScheduledDeliveryRow.Check (r : ScheduledDeliveryRow) : Prop :=
  (0 ≤ r.attempt ∧ 0 ≤ r.fence ∧ r.createdAt ≤ r.updatedAt) ∧
  (∀ p ∈ r.payload, p.Check r.createdAt) ∧
  (0 < sqlLength r.resultArtifactId ∧ 0 < r.resultAttempt ∧ 0 < r.resultFence ∧
    r.deliveryPolicyVersion = 1 ∧ isLowercaseSha256 r.targetSnapshotDigest = true ∧
    isLowercaseSha256 r.targetIdentityDigest = true ∧
    72 ≤ sqlLength r.intentKey ∧ sqlLength r.intentKey ≤ 2170 ∧
    r.intentKey = deliveryIntentKeyText r.runId r.targetIdentityDigest ∧
    r.deliveryId = "intent:" ++ r.intentKey ∧
    (r.state = .pending ∨ r.state = .failedTerminal ∨ r.payload.isSome)) ∧
  ((r.state = .sending ∧ (∃ owner ∈ r.leaseOwner, 0 < sqlLength owner) ∧ r.leaseExpiresAt.isSome ∧
      (∃ key ∈ r.idempotencyKey, 0 < sqlLength key)) ∨
    (r.state ≠ .sending ∧ r.leaseOwner = none ∧ r.leaseExpiresAt = none)) ∧
  (r.nextAttemptAt = none ∨ r.state = .failedRetryable) ∧
  (∀ v ∈ r.claimedBaselineVersion, 0 ≤ v) ∧
  (r.state.hasClaim = false ∨ r.claimedBaselineVersion.isSome) ∧
  (r.providerReceipt = none ∨ r.state = .delivered) ∧
  r.providerOutcome = r.state.outcome ∧
  ((r.state.hasError = true ∧ (∃ kind ∈ r.errorKind, 0 < sqlLength kind)) ∨
    (r.state.hasError = false ∧ r.errorKind = none ∧ r.errorMessage = none))

/-- 受け入れた本文の基準の同一性。 -/
abbrev BaselineKey := String × String × String × Int × Nat × String

def ScheduledDeliveryRow.baselineKey (r : ScheduledDeliveryRow) : Option BaselineKey :=
  r.payload.map fun p => (r.jobId, r.targetIdentityDigest, r.targetSnapshotDigest,
    r.deliveryPolicyVersion, p.renderVersion, p.hashAlgorithm)

def ScheduledDeliveryRow.sendingKey (r : ScheduledDeliveryRow) : Option BaselineKey :=
  if r.state = .sending then r.baselineKey else none

def scheduledRunDeliveries : Schema ScheduledDeliveryRow where
  check r := decide r.Check
  conflict a b := a.deliveryId == b.deliveryId || a.intentKey == b.intentKey
    || (a.runId == b.runId && a.targetIdentityDigest == b.targetIdentityDigest
      && a.deliveryPolicyVersion == b.deliveryPolicyVersion)
    || sameKey a.sendingKey b.sendingKey
  conflict_symm a b := by simp only [BEq.comm, sameKey_comm]

inductive DeliveryAttemptState where
  | sending
  | delivered
  | failedRetryable
  | failedTerminal
  | deliveryUnknown
deriving DecidableEq, Repr

def DeliveryAttemptState.outcome : DeliveryAttemptState → Option ProviderOutcome
  | .sending => none
  | .delivered => some .confirmedSuccess
  | .failedRetryable => some .confirmedNoWriteRetryable
  | .failedTerminal => some .confirmedNoWriteTerminal
  | .deliveryUnknown => some .ambiguousPostWrite

structure DeliveryAttemptRow where
  deliveryId : String
  attempt : Int
  fence : Int
  leaseOwner : String
  leaseExpiresAt : Int
  idempotencyKey : String
  claimedBaselineVersion : Int
  state : DeliveryAttemptState
  providerReceipt : Option String
  providerOutcome : Option ProviderOutcome
  errorKind : Option String
  errorMessage : Option String
  startedAt : Int
  completedAt : Option Int
deriving DecidableEq

abbrev DeliveryAttemptRow.Check (r : DeliveryAttemptRow) : Prop :=
  (0 < r.attempt ∧ 0 < r.fence ∧ 0 ≤ r.claimedBaselineVersion) ∧
  (0 < sqlLength r.leaseOwner ∧ r.startedAt < r.leaseExpiresAt) ∧
  0 < sqlLength r.idempotencyKey ∧
  (r.state = .sending ↔ r.completedAt = none) ∧
  (∀ t ∈ r.completedAt, r.startedAt ≤ t) ∧
  (r.providerReceipt = none ∨ r.state = .delivered) ∧
  r.providerOutcome = r.state.outcome

def scheduledDeliveryAttempts : Schema DeliveryAttemptRow where
  check r := decide r.Check
  conflict a b := a.deliveryId == b.deliveryId && (a.attempt == b.attempt || a.fence == b.fence)
  conflict_symm a b := by simp only [BEq.comm]

structure DeliveryBaselineRow where
  jobId : String
  targetIdentityDigest : String
  targetSnapshotDigest : String
  deliveryPolicyVersion : Int
  renderVersion : Nat
  hashAlgorithm : String
  acceptedPayloadDigest : String
  sourceDeliveryId : String
  sourceRunId : String
  sourceResultId : String
  sourceResultHash : String
  acceptedAt : Int
  baselineVersion : Int
deriving DecidableEq

abbrev DeliveryBaselineRow.Check (r : DeliveryBaselineRow) : Prop :=
  (0 < r.deliveryPolicyVersion ∧ 0 < r.renderVersion ∧ 1 ≤ r.baselineVersion ∧
    r.baselineVersion ≤ i64Max ∧ 0 ≤ r.acceptedAt) ∧
  (0 < sqlLength r.targetIdentityDigest ∧ 0 < sqlLength r.targetSnapshotDigest ∧
    0 < sqlLength r.hashAlgorithm ∧ 0 < sqlLength r.acceptedPayloadDigest ∧
    0 < sqlLength r.sourceDeliveryId ∧ 0 < sqlLength r.sourceRunId ∧ 0 < sqlLength r.sourceResultHash)

def DeliveryBaselineRow.key (r : DeliveryBaselineRow) : BaselineKey :=
  (r.jobId, r.targetIdentityDigest, r.targetSnapshotDigest, r.deliveryPolicyVersion, r.renderVersion,
    r.hashAlgorithm)

def scheduledDeliveryBaselines : Schema DeliveryBaselineRow where
  check r := decide r.Check
  conflict a b := a.key == b.key
  conflict_symm a b := by simp only [BEq.comm]

inductive IdempotencyStatus where
  | claimed
  | completed
deriving DecidableEq, Repr

structure IdempotencyKeyRow where
  scope : String
  key : String
  status : IdempotencyStatus
  requestDigest : String
  digestAlgorithm : String
  responseJson : Option String
deriving DecidableEq

def idempotencyKeys : Schema IdempotencyKeyRow where
  check r := decide (0 < sqlLength r.scope ∧ 0 < sqlLength r.key)
  conflict a b := a.scope == b.scope && a.key == b.key
  conflict_symm a b := by simp only [BEq.comm]

def auditOperations : List String := ["create", "get", "list", "update", "pause", "resume", "delete"]

abbrev ScheduleMutationAudit.Check (r : ScheduleMutationAudit) : Prop :=
  (1 ≤ sqlLength r.auditId ∧ sqlLength r.auditId ≤ 255) ∧
  (∀ p ∈ r.principal, 0 < sqlLength p.kind ∧ 0 < sqlLength p.provider ∧ 0 < sqlLength p.tenant ∧
    0 < sqlLength p.subject) ∧
  r.operation ∈ auditOperations ∧
  (1 ≤ sqlLength r.requestId ∧ sqlLength r.requestId ≤ 255) ∧
  (0 ≤ r.latencyMs ∧ 1 ≤ sqlLength r.correlationId ∧ sqlLength r.correlationId ≤ 255)

def scheduleMutationAudit : Schema ScheduleMutationAudit where
  check r := decide r.Check
  conflict a b := a.auditId == b.auditId
  conflict_symm a b := by simp only [BEq.comm]

/-! ## 運用者の操作 -/

inductive OperatorAction where
  | retryRun
  | retryDelivery
  | confirmDeliveryDelivered
  | confirmDeliveryNoWrite
  | forceDeliveryResend
  | acknowledgeDeliveryUnknown
deriving DecidableEq, Repr

inductive OperatorTargetKind where
  | run
  | delivery
deriving DecidableEq, Repr

inductive OperatorState where
  | run (s : ScheduledRunState)
  | delivery (s : ScheduledDeliveryState)
deriving DecidableEq, Repr

structure OperatorActionRow where
  actionId : String
  principal : PrincipalKey
  requestId : String
  requestDigest : String
  action : OperatorAction
  targetKind : OperatorTargetKind
  targetId : String
  expectedAttempt : Int
  expectedFence : Int
  beforeState : OperatorState
  afterState : OperatorState
  evidence : Option (String × String)
  reason : Option (String × String)
  providerReceipt : Option String
  duplicateRiskAcknowledged : Bool
  effectiveAt : Int
  occurredAt : Int
deriving DecidableEq

def OperatorTargetKind.maxLength : OperatorTargetKind → Nat
  | .run => 1050
  | .delivery => 2177

abbrev OperatorActionRow.Check (r : OperatorActionRow) : Prop :=
  (1 ≤ sqlLength r.actionId ∧ sqlLength r.actionId ≤ 128) ∧
  (1 ≤ sqlLength r.requestId ∧ sqlLength r.requestId ≤ 256) ∧
  isLowercaseSha256 r.requestDigest = true ∧
  (1 ≤ sqlLength r.targetId ∧ sqlLength r.targetId ≤ r.targetKind.maxLength) ∧
  (0 < r.expectedAttempt ∧ 0 < r.expectedFence) ∧
  (∀ e ∈ r.evidence, 1 ≤ byteLen e.1 ∧ byteLen e.1 ≤ 65536 ∧ isLowercaseSha256 e.2 = true) ∧
  (∀ p ∈ r.providerReceipt, 1 ≤ byteLen p ∧ byteLen p ≤ 65536) ∧
  ((r.targetKind = .run ∧ r.evidence = none ∧ r.providerReceipt = none) ∨
    (r.targetKind = .delivery ∧ r.evidence.isSome)) ∧
  (r.action = .retryRun ↔ r.targetKind = .run) ∧
  (r.action = .confirmDeliveryDelivered ↔ r.providerReceipt.isSome) ∧
  (r.action = .forceDeliveryResend ↔ r.duplicateRiskAcknowledged = true) ∧
  (0 ≤ r.effectiveAt ∧ 0 ≤ r.occurredAt)

def schedulerOperatorActions : Schema OperatorActionRow where
  check r := decide r.Check
  conflict a b := a.actionId == b.actionId || (a.principal == b.principal && a.requestId == b.requestId)
  conflict_symm a b := by simp only [BEq.comm]

structure OperatorConsumptionRow where
  actionId : String
  targetKind : OperatorTargetKind
  targetId : String
  consumedAt : Int
deriving DecidableEq

abbrev OperatorConsumptionRow.Check (r : OperatorConsumptionRow) : Prop :=
  (1 ≤ sqlLength r.targetId ∧ sqlLength r.targetId ≤ r.targetKind.maxLength) ∧ 0 ≤ r.consumedAt

def schedulerOperatorActionConsumptions : Schema OperatorConsumptionRow where
  check r := decide r.Check
  conflict a b := a.actionId == b.actionId
  conflict_symm a b := by simp only [BEq.comm]

structure ExecutorEpochRow where
  schemaVersion : Nat
  deploymentEpoch : Int
  attestationId : String
  attestationDigest : String
  profileDigest : String
  issuedAt : Int
  expiresAt : Int
deriving DecidableEq

/-- 整理した配送。一つの配送は一度だけ整理できる。 -/
structure DeliveryRetentionRow where
  operationId : String
  deliveryId : String
  runId : String
  jobId : String
  authorizedAt : Int
deriving DecidableEq

def scheduledDeliveryRetentionLedger : Schema DeliveryRetentionRow where
  check r := decide (0 < sqlLength r.operationId ∧ 0 < sqlLength r.deliveryId ∧ 0 < sqlLength r.runId ∧
    0 ≤ r.authorizedAt)
  conflict a b := a.deliveryId == b.deliveryId
  conflict_symm a b := by simp only [BEq.comm]

structure RunRetentionRow where
  operationId : String
  runId : String
  jobId : String
  terminalAt : Int
  cutoffAt : Int
  authorizedAt : Int
deriving DecidableEq

def scheduledRunRetentionAudit : Schema RunRetentionRow where
  check r := decide (0 < sqlLength r.operationId ∧ 0 < sqlLength r.runId ∧ 0 ≤ r.terminalAt ∧
    r.terminalAt ≤ r.cutoffAt ∧ r.cutoffAt ≤ r.authorizedAt)
  conflict a b := a.runId == b.runId
  conflict_symm a b := by simp only [BEq.comm]

structure Store where
  jobs : Table scheduledJobs
  schedules : Table schedules
  targets : Table scheduledJobDeliveryTargets
  baselines : Table scheduledExecutionBaselines
  runs : Table scheduledRuns
  attempts : Table scheduledRunAttempts
  artifacts : Table scheduledRunResultArtifacts
  lateEvidence : Table scheduledRunLateEvidence
  deliveries : Table scheduledRunDeliveries
  deliveryAttempts : Table scheduledDeliveryAttempts
  deliveryBaselines : Table scheduledDeliveryBaselines
  idempotency : Table idempotencyKeys
  audit : Table scheduleMutationAudit
  operatorActions : Table schedulerOperatorActions
  consumptions : Table schedulerOperatorActionConsumptions
  deliveryRetention : Table scheduledDeliveryRetentionLedger
  runRetention : Table scheduledRunRetentionAudit
  epoch : Option ExecutorEpochRow

def Store.empty : Store where
  jobs := .empty _
  schedules := .empty _
  targets := .empty _
  baselines := .empty _
  runs := .empty _
  attempts := .empty _
  artifacts := .empty _
  lateEvidence := .empty _
  deliveries := .empty _
  deliveryAttempts := .empty _
  deliveryBaselines := .empty _
  idempotency := .empty _
  audit := .empty _
  operatorActions := .empty _
  consumptions := .empty _
  deliveryRetention := .empty _
  runRetention := .empty _
  epoch := none

end Codeoff.State
