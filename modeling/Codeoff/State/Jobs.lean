import Codeoff.State.Statement

/-!
# ジョブの作成と変更

作成・更新・一時停止・再開・削除と、要求の識別子による二重適用の防止（`apply_idempotent_…`）。
-/

namespace Codeoff.State

open Codeoff.Core Codeoff.Relational

/-- 本体が頼る外部の関数。SHA-256、cron、実行環境の能力の記述と、運用者の証拠の検査である。 -/
structure Env where
  cron : CronLibrary
  /-- 入力のバイト列の SHA-256 を、小文字の 16 進 64 桁で返す。 -/
  sha256Hex : List UInt8 → String
  /-- `AttestedCapabilityProfile::parse_canonical_json` が文面を受け付けるか。 -/
  capabilityProfileParses : String → Bool

def invalidState {α : Type} (reason : String) : Except StateError α :=
  .error (.invalidSchedulerState reason)

def targetValue (t : DeliveryTargetSnapshot) : Option Json.Value := do
  let address ← Json.parse t.addressJson
  return .object [("provider", .str t.provider), ("connector", .str t.connector),
    ("tenant", .str t.tenant), ("kind", .str t.kind), ("address", address),
    ("resolver_version", .int t.resolverVersion.toNat), ("resolver_digest", .str t.resolverDigest),
    ("identity_digest", .str t.identityDigest)]

def serializeTargets (targets : List DeliveryTargetSnapshot) : Except StateError String :=
  match targets.mapM targetValue with
  | none => invalidState "delivery target address must be valid JSON"
  | some values =>
    let serialized := (Json.Value.arr values).render
    if byteLen serialized > maxSnapshotBytes then
      invalidState "serialized delivery targets exceed the durable snapshot bound"
    else .ok serialized

def validateSerializedTargets (targets : List DeliveryTargetSnapshot) : Except StateError Unit :=
  if targets = [] ∨ targets.length > maxDeliveryTargets then
    invalidState "resolved delivery targets must contain 1..=32 entries"
  else (serializeTargets targets).map fun _ => ()

def validateEach : List DeliveryTargetSnapshot → Except StateError Unit
  | [] => .ok ()
  | t :: ts => do
    invalidValue t.validate
    validateEach ts

def validateDeliveryTargets (targets : List DeliveryTargetSnapshot) : Except StateError Unit := do
  if targets = [] ∨ targets.length > maxDeliveryTargets then
    invalidState "resolved delivery targets must contain 1..=32 entries"
  validateEach targets
  validateSerializedTargets targets

def validateDefinitionPolicy (definition : ScheduledJobDefinition) (policy : Policy) :
    Except StateError Unit :=
  match Json.parse definition.canonicalJson with
  | none => invalidState "definition must be valid JSON"
  | some value =>
    match (value.get "instruction").bind Json.Value.asStr with
    | none => .ok ()
    | some instruction =>
      if byteLen instruction > policy.1.maxPromptBytes then
        invalidState "scheduled instruction exceeds max_prompt_bytes"
      else .ok ()

/-- 最短の間隔を確かめた予定と方針。照合は両者の要約値の代わりに、値そのもので行う。 -/
structure CadenceProofArtifact where
  schedule : ScheduleSpec
  policy : Policy
deriving DecidableEq

def generateCadenceProof (E : Env) (schedule : ScheduleSpec) (now : Int) (policy : Policy) :
    Except StateError CadenceProofArtifact := do
  invalidValue (schedule.validateMinimumCadence E.cron now policy.1.minimumScheduleCadenceSeconds
    policy.1.occurrenceSearchLimit)
  return { schedule, policy }

def CadenceProofArtifact.verify (proof : CadenceProofArtifact) (schedule : ScheduleSpec)
    (policy : Policy) : Except StateError Unit :=
  if proof.schedule = schedule ∧ proof.policy = policy then .ok ()
  else invalidState "cadence proof authority does not match schedule and policy"

def validateCreateRequest (E : Env) (request : CreateScheduledJob) (policy : Policy) :
    Except StateError Int := do
  invalidValue (validateText "job id" request.jobId)
  invalidValue (validateText "schedule id" request.scheduleId)
  invalidValue request.creator.validate
  invalidValue request.owner.validate
  invalidValue request.definition.validate
  invalidValue request.capability.validate
  invalidValue (request.schedule.validateForCreate request.now)
  validateDefinitionPolicy request.definition policy
  validateDeliveryTargets request.targets
  invalidOccurrence (request.schedule.firstAfterCreate E.cron request.now)

def validateUpdateRequest (request : UpdateScheduledJob) (policy : Policy) : Except StateError Unit := do
  invalidValue (validateText "job id" request.jobId)
  invalidValue (request.schedule.validateForCreate request.now)
  invalidValue request.definition.validate
  validateDefinitionPolicy request.definition policy
  invalidValue request.capability.validate
  if request.expectedGeneration < 0 then invalidState "invalid update generation"
  validateDeliveryTargets request.targets

def validateLifecycleMutation (jobId : String) (expectedGeneration : Int) : Except StateError Unit := do
  invalidValue (validateText "job id" jobId)
  if expectedGeneration < 0 then invalidState "expected generation must not be negative"

/-! ## 一つのトランザクションの中の変更 -/

/-- 稼働中のジョブの数の上限。`excluded` は数えない。 -/
def enforceActiveJobLimits (policy : Policy) (owner : PrincipalKey) (excluded : Option String) :
    StoreTx Unit := do
  let active ← Tx.read fun s => s.jobs.rows.filter fun j =>
    j.status == .active && excluded != some j.jobId
  Tx.require (active.length < policy.1.maxActiveJobs) (.scheduledActiveJobLimitExceeded "global")
  Tx.require ((active.countP fun j => j.owner == owner) < policy.1.maxActiveJobsPerOwner)
    (.scheduledActiveJobLimitExceeded "owner")

def insertTargets (jobId : String) : Nat → List DeliveryTargetSnapshot → StoreTx Unit
  | _, [] => pure ()
  | ordinal, t :: ts => do
    insertTarget ⟨jobId, ordinal, t⟩
    insertTargets jobId (ordinal + 1) ts

def replaceDeliveryTargets (jobId : String) (targets : List DeliveryTargetSnapshot) : StoreTx Unit := do
  let _ ← deleteTargets fun r => r.jobId == jobId
  insertTargets jobId 0 targets

def createdJob (request : CreateScheduledJob) (policy : Policy) : ScheduledJobRow where
  jobId := request.jobId
  definition := request.definition
  creator := request.creator
  owner := request.owner
  status := .active
  generation := 0
  capability := request.capability
  policy := policy
  createdAt := request.now
  updatedAt := request.now
  deletedAt := none

def createdSchedule (request : CreateScheduledJob) (nextRunAt : Int) : ScheduleRow where
  scheduleId := request.scheduleId
  jobId := request.jobId
  spec := request.schedule
  generation := 0
  nextRunAt := some nextRunAt
  createdAt := request.now
  updatedAt := request.now

def initialBaseline (jobId : String) : ExecutionBaselineRow where
  jobId := jobId
  baselineVersion := 0
  result := none
  previousSuccessContext := none

def insertScheduledJob (request : CreateScheduledJob) (nextRunAt : Int) (policy : Policy)
    (proof : CadenceProofArtifact) : StoreTx Unit := do
  Tx.check (proof.verify request.schedule policy)
  insertJob (createdJob request policy)
  insertSchedule (createdSchedule request nextRunAt)
  replaceDeliveryTargets request.jobId request.targets
  insertBaseline (initialBaseline request.jobId)

def isCurrentAttempt (r : ScheduledRunRow) (a : RunAttemptRow) : Bool :=
  a.runId == r.runId && a.jobId == r.jobId && a.attempt == r.attempt && a.fence == r.fence
    && r.leaseOwner == some a.leaseOwner

def preExecutionOf (jobId : String) (generation : Int) (r : ScheduledRunRow) : Bool :=
  r.jobId == jobId && r.jobGeneration == generation && r.state.isPreExecution

def leasedOf (jobId : String) (generation : Int) (r : ScheduledRunRow) : Bool :=
  r.jobId == jobId && r.jobGeneration == generation && r.state == .leased

def cancellableAttempt (runs : List ScheduledRunRow) (jobId : String) (generation : Int)
    (a : RunAttemptRow) : Bool :=
  a.state == .leased && runs.any fun r => isCurrentAttempt r a && leasedOf jobId generation r

def cancelledAttempt (now : Int) (a : RunAttemptRow) : RunAttemptRow :=
  { a with state := .cancelled, completedAt := some now }

/-- 取り消した実行。`next_attempt_at` は元のまま残る。 -/
def cancelledRun (now : Int) (r : ScheduledRunRow) : ScheduledRunRow :=
  { r with state := .cancelled, overlapSlot := none, leaseOwner := none, leaseExpiresAt := none,
           updatedAt := now }

/-- 実行開始前の実行を、一つの世代についてだけ取り消す。 -/
def cancelPreExecutionRuns (jobId : String) (generation now : Int) : StoreTx Unit := do
  let leasedRuns ← Tx.read fun s => s.runs.rows.countP (leasedOf jobId generation)
  let runs ← Tx.read fun s => s.runs.rows
  let cancelledAttempts ← updateAttempts (cancellableAttempt runs jobId generation)
    (cancelledAttempt now)
  Tx.require (cancelledAttempts == leasedRuns)
    (.invalidSchedulerState "leased scheduled run is missing its current attempt authority")
  let _ ← updateRuns (preExecutionOf jobId generation) (cancelledRun now)

def updatedJob (request : UpdateScheduledJob) (policy : Policy) (j : ScheduledJobRow) :
    ScheduledJobRow :=
  { j with definition := request.definition, capability := request.capability, policy,
           generation := j.generation + 1, updatedAt := request.now }

def updatedSchedule (request : UpdateScheduledJob) (nextRunAt : Option Int) (r : ScheduleRow) :
    ScheduleRow :=
  { r with spec := request.schedule, nextRunAt, generation := r.generation + 1,
           updatedAt := request.now }

def updateOccurrence (E : Env) (request : UpdateScheduledJob) (policy : Policy)
    (job : ScheduledJobRow) : StoreTx (Option Int) :=
  if job.status = .active then do
    enforceActiveJobLimits policy job.owner (some request.jobId)
    let next ← Tx.check (invalidOccurrence (request.schedule.firstAfterCreate E.cron request.now))
    return some next
  else return none

/-- 世代を確かめて書き換える。`cancel` は実行開始前の実行の取り消しである。 -/
def applyUpdateWith (E : Env) (request : UpdateScheduledJob) (policy : Policy)
    (proof : CadenceProofArtifact) (cancel : StoreTx Unit) : StoreTx Unit := do
  Tx.check (proof.verify request.schedule policy)
  let found ← Tx.read fun s => s.jobs.rows.find? fun j => j.jobId == request.jobId
    && j.generation == request.expectedGeneration && (j.status == .active || j.status == .paused)
  let job ← Tx.orElseFail found .schedulerGenerationConflict
  let nextRunAt ← updateOccurrence E request policy job
  let updated ← updateJobs
    (fun j => j.jobId == request.jobId && j.generation == request.expectedGeneration
      && j.status == job.status)
    (updatedJob request policy)
  Tx.require (updated == 1) .schedulerGenerationConflict
  cancel
  let _ ← updateSchedules (fun r => r.jobId == request.jobId) (updatedSchedule request nextRunAt)
  replaceDeliveryTargets request.jobId request.targets

def applyUpdate (E : Env) (request : UpdateScheduledJob) (policy : Policy)
    (proof : CadenceProofArtifact) : StoreTx Unit :=
  applyUpdateWith E request policy proof
    (cancelPreExecutionRuns request.jobId request.expectedGeneration request.now)

/-- 稼働しない状態。 -/
inductive InactiveStatus where
  | paused
  | deleted
deriving DecidableEq, Repr

def InactiveStatus.status : InactiveStatus → ScheduledJobStatus
  | .paused => .paused
  | .deleted => .deleted

/-- 状態を移せるジョブか。完了したジョブは削除だけができる。 -/
def canBecome (status : InactiveStatus) (s : ScheduledJobStatus) : Bool :=
  s == .active || s == .paused || (status == .deleted && s == .completed)

def inactiveJob (status : InactiveStatus) (now : Int) (j : ScheduledJobRow) : ScheduledJobRow :=
  { j with status := status.status, generation := j.generation + 1, updatedAt := now,
           deletedAt := if status = .deleted then some now else none }

def inactiveSchedule (now : Int) (r : ScheduleRow) : ScheduleRow :=
  { r with generation := r.generation + 1, updatedAt := now }

def applyInactive (jobId : String) (expectedGeneration : Int) (status : InactiveStatus) (now : Int) :
    StoreTx Unit := do
  let updated ← updateJobs
    (fun j => j.jobId == jobId && j.generation == expectedGeneration && canBecome status j.status)
    (inactiveJob status now)
  Tx.require (updated == 1) .schedulerGenerationConflict
  cancelPreExecutionRuns jobId expectedGeneration now
  let _ ← updateSchedules (fun r => r.jobId == jobId) (inactiveSchedule now)

def scheduleFromRow (E : Env) (r : ScheduleRow) : Except StateError ScheduleSpec :=
  match r.spec.fromStorage E.cron with
  | some spec => .ok spec
  | none => invalidState "invalid persisted schedule"

def pausedJob (jobId : String) (expectedGeneration : Int) (s : Store) :
    Option (ScheduledJobRow × ScheduleRow) := do
  let job ← s.jobs.rows.find? fun j => j.jobId == jobId && j.status == .paused
    && j.generation == expectedGeneration
  let schedule ← s.schedules.rows.find? fun r => r.jobId == jobId
  return (job, schedule)

def resumedJob (policy : Policy) (now : Int) (j : ScheduledJobRow) : ScheduledJobRow :=
  { j with status := .active, policy, generation := j.generation + 1, updatedAt := now }

def resumedSchedule (nextRunAt now : Int) (r : ScheduleRow) : ScheduleRow :=
  { r with nextRunAt := some nextRunAt, generation := r.generation + 1, updatedAt := now }

/-- 再開の後の最初の発生時刻。過ぎてしまった once は再開できない。 -/
def resumeOccurrence (E : Env) (schedule : ScheduleSpec) (now : Int) : Except StateError Int :=
  match schedule.nextAfter E.cron now, schedule with
  | .ok next, _ => .ok next
  | .error _, .once _ => .error .scheduledOnceExpired
  | .error e, _ => .error (.invalidSchedulerState e.message)

def applyResume (E : Env) (jobId : String) (expectedGeneration now : Int) (policy : Policy)
    (proof : CadenceProofArtifact) : StoreTx Unit := do
  let found ← Tx.read (pausedJob jobId expectedGeneration)
  let (job, row) ← Tx.orElseFail found .schedulerGenerationConflict
  let schedule ← Tx.check (scheduleFromRow E row)
  Tx.check (proof.verify schedule policy)
  enforceActiveJobLimits policy job.owner none
  let nextRunAt ← Tx.check (resumeOccurrence E schedule now)
  let _ ← updateJobs
    (fun j => j.jobId == jobId && j.generation == expectedGeneration && j.status == .paused)
    (resumedJob policy now)
  let _ ← updateSchedules (fun r => r.jobId == jobId) (resumedSchedule nextRunAt now)

def createScheduledJob (E : Env) (policy : Policy) (request : CreateScheduledJob) : StoreTx Unit := do
  let nextRunAt ← Tx.check (validateCreateRequest E request policy)
  let proof ← Tx.check (generateCadenceProof E request.schedule request.now policy)
  enforceActiveJobLimits policy request.owner none
  insertScheduledJob request nextRunAt policy proof

def updateScheduledJob (E : Env) (policy : Policy) (request : UpdateScheduledJob) : StoreTx Int := do
  Tx.check (validateUpdateRequest request policy)
  let proof ← Tx.check (generateCadenceProof E request.schedule request.now policy)
  applyUpdate E request policy proof
  return request.expectedGeneration + 1

def setJobInactive (jobId : String) (expectedGeneration : Int) (status : InactiveStatus) (now : Int) :
    StoreTx Int := do
  applyInactive jobId expectedGeneration status now
  return expectedGeneration + 1

def pauseScheduledJob (jobId : String) (expectedGeneration now : Int) : StoreTx Int :=
  setJobInactive jobId expectedGeneration .paused now

def deleteScheduledJob (jobId : String) (expectedGeneration now : Int) : StoreTx Int :=
  setJobInactive jobId expectedGeneration .deleted now

def validateResumeCadence (E : Env) (policy : Policy) (jobId : String) (expectedGeneration now : Int) :
    StoreTx CadenceProofArtifact := do
  let found ← Tx.read (pausedJob jobId expectedGeneration)
  let (_, row) ← Tx.orElseFail found .schedulerGenerationConflict
  let schedule ← Tx.check (scheduleFromRow E row)
  Tx.check (generateCadenceProof E schedule now policy)

def resumeScheduledJob (E : Env) (policy : Policy) (jobId : String) (expectedGeneration now : Int) :
    StoreTx Int := do
  let proof ← validateResumeCadence E policy jobId expectedGeneration now
  applyResume E jobId expectedGeneration now policy proof
  return expectedGeneration + 1

/-! ## 二重適用の防止 -/

inductive IdempotencyDecision where
  | claimed
  | replay (response : String)
  | inProgress
  | conflict
deriving DecidableEq, Repr

def canonicalIdempotencyScope (principal : PrincipalKey) (operation : String) : String :=
  (Json.Value.object [("kind", .str principal.kind), ("operation", .str operation),
    ("provider", .str principal.provider), ("subject", .str principal.subject),
    ("tenant", .str principal.tenant)]).render

/-- SQLite の `datetime(now, 'unixepoch')` が NULL にならない時刻。 -/
def datetimeValid (now : Int) : Bool := -210866760000 ≤ now && now < 253402300800

def readIdempotencyDecision (scope requestId digestAlgorithm requestDigest : String) :
    StoreTx IdempotencyDecision := do
  let found ← Tx.read fun s => s.idempotency.rows.find? fun r => r.scope == scope && r.key == requestId
  let row ← Tx.orElseFail found (.invalidSchedulerState "no rows returned")
  if row.requestDigest != requestDigest || row.digestAlgorithm != digestAlgorithm then
    return .conflict
  if row.status != .completed then
    return .inProgress
  match row.responseJson with
  | some response => return .replay response
  | none => Tx.fail (.invalidSchedulerState "completed idempotency record has no response")

def claimIdempotency (principal : PrincipalKey)
    (operation requestId digestAlgorithm requestDigest : String) (now : Int) :
    StoreTx IdempotencyDecision := do
  let scope := canonicalIdempotencyScope principal operation
  -- 作成時刻の列は NOT NULL で、表せない時刻では衝突より先に文が失敗する。
  Tx.require (datetimeValid now) (.scheduler .notNull)
  let inserted ← statement Store.idempotency (fun s T => { s with idempotency := T })
    fun _ T => T.insertOrIgnore noInsertTrigger
      { scope, key := requestId, status := .claimed, requestDigest, digestAlgorithm,
        responseJson := none }
  if inserted == 1 then return .claimed
  readIdempotencyDecision scope requestId digestAlgorithm requestDigest

def completeIdempotency (principal : PrincipalKey) (operation : String)
    (idempotency : ScheduleMutationIdempotency) (now : Int) : StoreTx Unit := do
  let scope := canonicalIdempotencyScope principal operation
  Tx.require (datetimeValid now) (.scheduler .notNull)
  let updated ← statement Store.idempotency (fun s T => { s with idempotency := T })
    fun _ T => T.update noTrigger
      (fun r => r.scope == scope && r.key == idempotency.requestId && r.status == .claimed
        && r.digestAlgorithm == idempotency.digestAlgorithm
        && r.requestDigest == idempotency.requestDigest)
      fun r => { r with status := .completed, responseJson := some idempotency.responseJson }
  Tx.require (updated == 1)
    (.invalidSchedulerState "idempotency claim changed before completion")

def validateIdempotencyRequest (operation requestId digestAlgorithm requestDigest : String) :
    Except StateError Unit := do
  invalidValue (validateText "schedule operation" operation)
  invalidValue (validateText "schedule request id" requestId)
  invalidValue (validateText "request digest algorithm" digestAlgorithm)
  invalidValue (validateText "request digest" requestDigest)

def validateMutationIdempotency (mutation : ScheduledJobMutation)
    (idempotency : ScheduleMutationIdempotency) : Except StateError Unit := do
  validateIdempotencyRequest mutation.operation idempotency.requestId idempotency.digestAlgorithm
    idempotency.requestDigest
  if byteLen idempotency.responseJson > maxSnapshotBytes
      ∨ (Json.parse idempotency.responseJson).isNone then
    invalidState "idempotency response must be bounded valid JSON"

def auditOutcomes : List String :=
  ["applied", "replay", "conflict", "in_progress", "denied", "not_visible", "validation",
    "resolver_unavailable", "resolver_not_allowed", "resolver_timeout", "capability_unavailable",
    "capability_invalid", "stale_generation", "expired_not_resumable", "storage_busy",
    "storage_internal"]

def validateOptionalText (field : String) : Option String → Except StateError Unit
  | none => .ok ()
  | some value => invalidValue (validateText field value)

def validateScheduleAudit (audit : ScheduleMutationAudit) : Except StateError Unit := do
  invalidValue (validateText "audit id" audit.auditId)
  invalidValue (validateText "audit operation" audit.operation)
  invalidValue (validateText "audit request id" audit.requestId)
  invalidValue (validateText "audit outcome" audit.outcome)
  invalidValue (validateText "audit decision" audit.decision)
  invalidValue (validateText "audit correlation id" audit.correlationId)
  validateOptionalText "audit job id" audit.jobId
  validateOptionalText "audit reason" audit.reason
  validateOptionalText "audit error code" audit.errorCode
  match audit.principal with
  | none => pure ()
  | some principal => invalidValue principal.validate
  if audit.latencyMs < 0 ∨ audit.decision ∉ ["allow", "deny", "error"]
      ∨ audit.outcome ∉ auditOutcomes then
    invalidState "invalid schedule audit outcome"

def validateMutationAudit (mutation : ScheduledJobMutation)
    (idempotency : ScheduleMutationIdempotency) (audit : ScheduleMutationAudit) :
    Except StateError Unit := do
  validateScheduleAudit audit
  if audit.principal ≠ some idempotency.principal ∨ audit.operation ≠ mutation.operation
      ∨ audit.jobId ≠ some mutation.jobId ∨ audit.requestId ≠ idempotency.requestId
      ∨ audit.outcome ≠ "applied" ∨ audit.decision ≠ "allow" ∨ audit.occurredAt ≠ mutation.now then
    invalidState "schedule mutation audit does not match the authorized mutation"

def insertMutationAudit (audit : ScheduleMutationAudit) : StoreTx Unit :=
  statement Store.audit (fun s T => { s with audit := T })
    fun _ T => inserted (T.insert noInsertTrigger audit)

def prevalidateScheduleMutation (E : Env) (policy : Policy) (mutation : ScheduledJobMutation) :
    StoreTx (Option CadenceProofArtifact) :=
  match mutation with
  | .create request => do
    let _ ← Tx.check (validateCreateRequest E request policy)
    let proof ← Tx.check (generateCadenceProof E request.schedule request.now policy)
    return some proof
  | .update request => do
    Tx.check (validateUpdateRequest request policy)
    let proof ← Tx.check (generateCadenceProof E request.schedule request.now policy)
    return some proof
  | .resume jobId expectedGeneration now => do
    Tx.check (validateLifecycleMutation jobId expectedGeneration)
    let proof ← validateResumeCadence E policy jobId expectedGeneration now
    return some proof
  | .pause jobId expectedGeneration _ => do
    Tx.check (validateLifecycleMutation jobId expectedGeneration)
    return none
  | .delete jobId expectedGeneration _ => do
    Tx.check (validateLifecycleMutation jobId expectedGeneration)
    return none

def applyTypedMutation (E : Env) (policy : Policy) (mutation : ScheduledJobMutation)
    (proof : Option CadenceProofArtifact) : StoreTx Unit :=
  match mutation with
  | .create request => do
    let nextRunAt ← Tx.check (validateCreateRequest E request policy)
    let proof ← Tx.orElseFail proof
      (.invalidSchedulerState "create mutation is missing cadence proof authority")
    enforceActiveJobLimits policy request.owner none
    insertScheduledJob request nextRunAt policy proof
  | .update request => do
    Tx.check (validateUpdateRequest request policy)
    let proof ← Tx.orElseFail proof
      (.invalidSchedulerState "update mutation is missing cadence proof authority")
    applyUpdate E request policy proof
  | .pause jobId expectedGeneration now => do
    Tx.check (validateLifecycleMutation jobId expectedGeneration)
    applyInactive jobId expectedGeneration .paused now
  | .resume jobId expectedGeneration now => do
    Tx.check (validateLifecycleMutation jobId expectedGeneration)
    let proof ← Tx.orElseFail proof
      (.invalidSchedulerState "resume mutation is missing cadence proof authority")
    applyResume E jobId expectedGeneration now policy proof
  | .delete jobId expectedGeneration now => do
    Tx.check (validateLifecycleMutation jobId expectedGeneration)
    applyInactive jobId expectedGeneration .deleted now

def validateOptionalMutationAudit (mutation : ScheduledJobMutation)
    (idempotency : ScheduleMutationIdempotency) : Option ScheduleMutationAudit → Except StateError Unit
  | some audit => validateMutationAudit mutation idempotency audit
  | none => .ok ()

def insertOptionalMutationAudit : Option ScheduleMutationAudit → StoreTx Unit
  | some audit => insertMutationAudit audit
  | none => pure ()

def applyClaimedMutation (E : Env) (policy : Policy) (mutation : ScheduledJobMutation)
    (idempotency : ScheduleMutationIdempotency) (audit : Option ScheduleMutationAudit)
    (proof : Option CadenceProofArtifact) : StoreTx TransactionalMutationOutcome := do
  applyTypedMutation E policy mutation proof
  insertOptionalMutationAudit audit
  completeIdempotency idempotency.principal mutation.operation idempotency mutation.now
  return .applied idempotency.responseJson

def applyIdempotentScheduleMutationWithAudit (E : Env) (policy : Policy)
    (mutation : ScheduledJobMutation) (idempotency : ScheduleMutationIdempotency)
    (audit : Option ScheduleMutationAudit) : StoreTx TransactionalMutationOutcome := do
  Tx.check (validateMutationIdempotency mutation idempotency)
  Tx.check (validateOptionalMutationAudit mutation idempotency audit)
  let proof ← prevalidateScheduleMutation E policy mutation
  let decision ← claimIdempotency idempotency.principal mutation.operation idempotency.requestId
    idempotency.digestAlgorithm idempotency.requestDigest mutation.now
  match decision with
  | .claimed => applyClaimedMutation E policy mutation idempotency audit proof
  | .replay response => return .replay response
  | .inProgress => return .inProgress
  | .conflict => return .conflict

/-- 識別子つきの適用の、変更の前の検査より後のトランザクション。検査で得た証明 `proof` を受け取る。 -/
def applyPrevalidatedMutation (E : Env) (policy : Policy) (mutation : ScheduledJobMutation)
    (idempotency : ScheduleMutationIdempotency) (audit : Option ScheduleMutationAudit)
    (proof : Option CadenceProofArtifact) : StoreTx TransactionalMutationOutcome := do
  let decision ← claimIdempotency idempotency.principal mutation.operation idempotency.requestId
    idempotency.digestAlgorithm idempotency.requestDigest mutation.now
  match decision with
  | .claimed => applyClaimedMutation E policy mutation idempotency audit proof
  | .replay response => return .replay response
  | .inProgress => return .inProgress
  | .conflict => return .conflict

def appendScheduleAudit (audit : ScheduleMutationAudit) : StoreTx Unit := do
  Tx.check (validateScheduleAudit audit)
  insertMutationAudit audit

end Codeoff.State
