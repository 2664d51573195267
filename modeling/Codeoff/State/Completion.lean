import Codeoff.State.Settlement

/-!
# 成功の受け入れ

実行の成功を、成果・実行の基準・配送の意図・試行・実行の順に一つのトランザクションで書く
（`complete_scheduled_run_success`）。制約に反すれば巻き戻し、束縛がまだ有効なら競合の誤りを、もう有効でなければ
遅れた証拠を残す。
-/

namespace Codeoff.State

open Codeoff.Core Codeoff.Relational

inductive ScheduledRunSuccessOutcome where
  | committed
  | lateEvidence (outcome : LateEvidenceAppendOutcome)
deriving DecidableEq, Repr

def maxDeliveryIntentRunIdBytes : Nat := 1050

def resultJson (summary : String) : String :=
  (Json.Value.object [("schema_version", .int 1), ("summary", .str summary)]).render

def resultHash (E : Env) (summary : String) : String := E.sha256Hex (utf8Bytes (resultJson summary))

def resultArtifactId (E : Env) (b : RunLeaseBinding) : String :=
  "result:" ++ framedSha256 E ["scheduled-result-artifact-v1", b.runId, toString b.attempt,
    toString b.fence]

def orCompletionConflict {α : Type} (x : StoreTx α) : StoreTx α := fun s =>
  match x s with
  | .error (.scheduler _) => .error .scheduledRunCompletionConflict
  | r => r

/-! ## 配送の意図 -/

structure DeliveryIntentTarget where
  target : DeliveryTargetSnapshot
  snapshotDigest : String
deriving DecidableEq, Repr

def targetJson (t : DeliveryTargetSnapshot) : String := ((targetValue t).getD .null).render

def validateTargetFields (t : DeliveryTargetSnapshot) : Except StateError Unit := do
  let field := "materialized delivery target field"
  invalidValue (validateText field t.provider)
  invalidValue (validateText field t.connector)
  invalidValue (validateText field t.tenant)
  invalidValue (validateText field t.kind)
  invalidValue (validateText field t.resolverDigest)
  invalidValue (validateText field t.identityDigest)
  if t.resolverVersion = 0 then
    invalidState "materialized delivery target has an invalid resolver snapshot"

/-- 前に見た宛先の同一性と重ならないことを確かめながら並べる。 -/
def intentTargetsFrom (E : Env) : List String → List DeliveryTargetSnapshot →
    Except StateError (List DeliveryIntentTarget)
  | _, [] => .ok []
  | identities, t :: ts => do
    validateTargetFields t
    if t.identityDigest ∈ identities then
      invalidState "materialized delivery target identities must be unique"
    let rest ← intentTargetsFrom E (t.identityDigest :: identities) ts
    return { target := t, snapshotDigest := E.sha256Hex (utf8Bytes (targetJson t)) } :: rest

def deliveryIntentTargets (E : Env) (targets : List DeliveryTargetSnapshot) :
    Except StateError (List DeliveryIntentTarget) := do
  if targets = [] ∨ targets.length > maxDeliveryTargets then
    invalidState "materialized delivery targets must contain 1..=32 entries"
  intentTargetsFrom E [] targets

def deliveryIntentKey (runId targetIdentityDigest : String) : Except StateError String := do
  if runId = "" ∨ byteLen runId > maxDeliveryIntentRunIdBytes then
    invalidState "scheduled delivery intent run id exceeds its dedicated bound"
  if !isLowercaseSha256 targetIdentityDigest then
    invalidState "scheduled delivery intent target identity must be lowercase sha256"
  return deliveryIntentKeyText runId targetIdentityDigest

/-- `scheduled_run_deliveries` の BEFORE INSERT トリガ。 -/
def deliveryInsertTriggers (s : Store) (d : ScheduledDeliveryRow) : Option String :=
  if !(d.state == .pending && d.attempt == 0 && d.fence == 0 && d.payload.isNone
      && d.idempotencyKey.isNone) then
    some "scheduled delivery intent must start pending and unrendered"
  else if !s.artifacts.rows.any (fun a => a.artifactId == d.resultArtifactId && a.runId == d.runId
      && a.jobId == d.jobId && a.acceptedAttempt == d.resultAttempt && a.acceptedFence == d.resultFence
      && d.target.identityDigest == d.targetIdentityDigest
      && s.runs.rows.any fun r => r.runId == a.runId && r.jobId == a.jobId
        && r.targets.any fun t => targetJson t == targetJson d.target) then
    some "scheduled delivery intent result authority mismatch"
  else if s.deliveries.rows.any (fun o => o.deliveryId == d.deliveryId || o.intentKey == d.intentKey
      || (o.runId == d.runId && o.targetIdentityDigest == d.targetIdentityDigest
        && o.deliveryPolicyVersion == d.deliveryPolicyVersion)) then
    some "scheduled delivery authority cannot be replaced"
  else none

def insertDelivery (d : ScheduledDeliveryRow) : StoreTx Unit :=
  statement Store.deliveries (fun s T => { s with deliveries := T })
    fun s T => inserted (T.insert (deliveryInsertTriggers s) d)

def deliveryIntent (b : RunLeaseBinding) (artifactId : String) (policy : Policy)
    (t : DeliveryIntentTarget) (intentKey : String) (completedAt : Int) : ScheduledDeliveryRow where
  deliveryId := "intent:" ++ intentKey
  runId := b.runId
  jobId := b.jobId
  targetIdentityDigest := t.target.identityDigest
  target := t.target
  state := .pending
  attempt := 0
  fence := 0
  nextAttemptAt := none
  leaseOwner := none
  leaseExpiresAt := none
  idempotencyKey := none
  providerReceipt := none
  providerOutcome := none
  errorKind := none
  errorMessage := none
  deliveryPolicyVersion := 1
  payload := none
  claimedBaselineVersion := none
  resultArtifactId := artifactId
  resultAttempt := b.attempt
  resultFence := b.fence
  targetSnapshotDigest := t.snapshotDigest
  intentKey := intentKey
  policy := policy
  createdAt := completedAt
  updatedAt := completedAt

/-- 宛先ごとに意図を一つ書く。書いた行をその場で読み戻す照合は、同じ値を比べるので常に通る。 -/
def insertIntents (b : RunLeaseBinding) (artifactId : String) (policy : Policy) (completedAt : Int) :
    List DeliveryIntentTarget → StoreTx Unit
  | [] => pure ()
  | t :: ts => do
    let intentKey ← Tx.check (deliveryIntentKey b.runId t.target.identityDigest)
    orCompletionConflict (insertDelivery (deliveryIntent b artifactId policy t intentKey completedAt))
    insertIntents b artifactId policy completedAt ts

def validateCompletion (r : ScheduledRunRow) (a : RunAttemptRow) (result : ScheduledRunResult)
    (completedAt : Int) : Except StateError Unit := do
  if byteLen result.summary > r.policy.1.maxSummaryBytes then
    invalidState "scheduled result summary exceeds max_summary_bytes"
  if byteLen (resultJson result.summary) > r.policy.1.maxResultBytes then
    invalidState "scheduled result exceeds max_result_bytes"
  match a.executingAt with
  | none => invalidState "executing scheduled attempt has no execution timestamp"
  | some executingAt =>
    if completedAt < a.claimedAt ∨ completedAt < executingAt then
      invalidState "scheduled completion precedes its accepted execution"

def acceptedArtifact (E : Env) (b : RunLeaseBinding) (result : ScheduledRunResult) (completedAt : Int) :
    ResultArtifactRow where
  artifactId := resultArtifactId E b
  runId := b.runId
  jobId := b.jobId
  acceptedAttempt := b.attempt
  acceptedFence := b.fence
  resultJson := resultJson result.summary
  hashAlgorithm := "sha256-v1"
  resultHash := resultHash E result.summary
  previousSuccessContext := result.previousSuccessContext
  completedAt := completedAt

def acceptedBaseline (E : Env) (b : RunLeaseBinding) (r : ScheduledRunRow) (result : ScheduledRunResult)
    (completedAt : Int) : UpdateExecutionBaseline where
  jobId := b.jobId
  expectedVersion := r.executionBaseline.baselineVersion
  hashAlgorithm := "sha256-v1"
  resultHash := resultHash E result.summary
  previousSuccessContext := result.previousSuccessContext
  sourceRunId := b.runId
  completedAt := completedAt

def succeededRun (E : Env) (b : RunLeaseBinding) (result : ScheduledRunResult) (completedAt : Int)
    (r : ScheduledRunRow) : ScheduledRunRow :=
  { r with state := .succeeded, overlapSlot := none, leaseOwner := none, leaseExpiresAt := none,
           resultArtifactId := some (resultArtifactId E b),
           resultContext := some result.previousSuccessContext,
           resultHash := some ("sha256-v1", resultHash E result.summary), updatedAt := completedAt }

def succeededAttempt (completedAt : Int) (a : RunAttemptRow) : RunAttemptRow :=
  { a with state := .succeeded, completedAt := some completedAt }

def acceptSuccess (E : Env) (b : RunLeaseBinding) (r : ScheduledRunRow) (a : RunAttemptRow)
    (result : ScheduledRunResult) (completedAt : Int) : StoreTx Unit := do
  Tx.check (validateCompletion r a result completedAt)
  let targets ← Tx.check (deliveryIntentTargets E r.targets)
  Tx.require (0 ≤ r.executionBaseline.baselineVersion) (.invalidSchedulerState
    "materialized execution baseline has no valid version")
  orCompletionConflict (insertArtifact (acceptedArtifact E b result completedAt))
  let swapped ← compareAndSwapExecutionBaseline (acceptedBaseline E b r result completedAt)
  Tx.require swapped .scheduledRunCompletionConflict
  insertIntents b (resultArtifactId E b) r.policy completedAt targets
  let attempt ← updateAttempts
    (fun a => b.ownsAttempt a && a.state == .executing && completedAt < a.leaseExpiresAt)
    (succeededAttempt completedAt)
  Tx.require (attempt == 1) .scheduledRunCompletionConflict
  let run ← orCompletionConflict (updateRuns
    (fun r => b.ownsRun r && r.state == .executing && r.leaseExpiresAt.any (completedAt < ·))
    (succeededRun E b result completedAt))
  Tx.require (run == 1) .scheduledRunCompletionConflict

def resolveCompletionConflict (E : Env) (evidenceId : String) (b : RunLeaseBinding)
    (result : ScheduledRunResult) (completedAt : Int) : StoreTx ScheduledRunSuccessOutcome := do
  let remainsCurrent ← Tx.read fun s => (liveExecution b completedAt s).isSome
  Tx.require (!remainsCurrent) .scheduledRunCompletionConflict
  let outcome ← appendLateEvidence evidenceId b .completionAfterLeaseLoss (resultHash E result.summary)
    completedAt
  return .lateEvidence outcome

def completeScheduledRunSuccess (E : Env) (evidenceId : String) (b : RunLeaseBinding)
    (result : ScheduledRunResult) (completedAt : Int) : StoreTx ScheduledRunSuccessOutcome := do
  Tx.check b.validate
  Tx.require (0 ≤ completedAt) (.invalidSchedulerState
    "scheduled completion timestamp must be nonnegative")
  Tx.check (invalidValue (validateText "scheduled result summary" result.summary))
  Tx.require (byteLen result.previousSuccessContext ≤ maxContextBytes) (.invalidSchedulerState
    "scheduled result previous success context exceeds its storage bound")
  match ← Tx.read (liveExecution b completedAt) with
  | none => do
    let outcome ← appendLateEvidence evidenceId b .completionAfterLeaseLoss
      (resultHash E result.summary) completedAt
    return .lateEvidence outcome
  | some (r, a) =>
    Tx.onError .scheduledRunCompletionConflict
      (do acceptSuccess E b r a result completedAt
          return .committed)
      (resolveCompletionConflict E evidenceId b result completedAt)

end Codeoff.State
