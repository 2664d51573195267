import Codeoff.State.Authority

/-!
# 実行の発生と貸与

期限の来た予定から実行を作り（materialize）、古い順に貸与し（claim）、貸与を延ばし（heartbeat）、実行中に
する。貸与を伴う書き換えは、束縛の指す実行と試行の両方を、ちょうど一行ずつ書き換える。
-/

namespace Codeoff.State

open Codeoff.Core Codeoff.Relational

/-! ## 実行者の許可 -/

structure ScheduledExecutorAdmission where
  schemaVersion : Nat
  deploymentEpoch : Int
  attestationId : String
  profileDigest : String
  signedNotAfter : Int
  operationDeadline : Int
deriving DecidableEq, Repr

def ScheduledExecutorAdmission.validate (a : ScheduledExecutorAdmission) :
    Except StateValueError Unit := do
  if a.schemaVersion ≠ 1 ∨ a.deploymentEpoch ≤ 0 ∨ a.operationDeadline ≤ 0
      ∨ a.operationDeadline ≥ a.signedNotAfter then
    throw (.invalidValue "scheduled executor admission")
  validateLowercaseSha256 "scheduled executor admission id" a.attestationId
  validateLowercaseSha256 "scheduled executor admission profile" a.profileDigest

/-- 許可と、それを確かめる二度の時刻と取り消しの有無（始めと確定の直前）。 -/
structure AdmissionGuard where
  admission : ScheduledExecutorAdmission
  acquiredAt : Int
  cancelledAtStart : Bool
  committedAt : Int
  cancelledAtCommit : Bool
deriving DecidableEq, Repr

def ExecutorEpochRow.admits (row : ExecutorEpochRow) (a : ScheduledExecutorAdmission) (now : Int) : Bool :=
  row.schemaVersion == a.schemaVersion && row.deploymentEpoch == a.deploymentEpoch
    && row.attestationId == a.attestationId && row.profileDigest == a.profileDigest
    && row.expiresAt == a.signedNotAfter && row.expiresAt > now

def revalidateExecutorAdmission (a : ScheduledExecutorAdmission) (now : Int) : StoreTx Unit := do
  Tx.require (0 < now && now < a.operationDeadline && now < a.signedNotAfter)
    .scheduledExecutorAdmissionUnavailable
  let exact ← Tx.read fun s => (s.epoch.map fun row => row.admits a now).getD false
  Tx.require exact .scheduledExecutorAdmissionUnavailable

def acquireExecutorAdmission : Option AdmissionGuard → StoreTx Unit
  | none => pure ()
  | some g => do
    Tx.check (invalidValue g.admission.validate)
    let locked ← Tx.read fun s => s.epoch.isSome
    Tx.require locked .scheduledExecutorAdmissionUnavailable
    revalidateExecutorAdmission g.admission g.acquiredAt
    Tx.require (!g.cancelledAtStart) .scheduledExecutorAdmissionUnavailable

def confirmExecutorAdmission : Option AdmissionGuard → StoreTx Unit
  | none => pure ()
  | some g => do
    Tx.require (!g.cancelledAtCommit) .scheduledExecutorAdmissionUnavailable
    revalidateExecutorAdmission g.admission g.committedAt

structure ScheduledExecutorEpochAuthority where
  schemaVersion : Nat
  deploymentEpoch : Int
  attestationId : String
  attestationDigest : String
  profileDigest : String
  issuedAt : Int
  expiresAt : Int
deriving DecidableEq, Repr

def ScheduledExecutorEpochAuthority.validate (a : ScheduledExecutorEpochAuthority) (now : Int) :
    Except StateValueError Unit := do
  if a.schemaVersion ≠ 1 ∨ a.deploymentEpoch ≤ 0 then
    throw (.invalidValue "scheduled executor deployment epoch")
  validateLowercaseSha256 "scheduled executor attestation id" a.attestationId
  validateLowercaseSha256 "scheduled executor attestation digest" a.attestationDigest
  validateLowercaseSha256 "scheduled executor profile digest" a.profileDigest
  if a.issuedAt ≤ 0 ∨ a.expiresAt ≤ a.issuedAt ∨ a.expiresAt ≤ now then
    throw (.invalidValue "scheduled executor epoch validity")

def ScheduledExecutorEpochAuthority.row (a : ScheduledExecutorEpochAuthority) : ExecutorEpochRow where
  schemaVersion := a.schemaVersion
  deploymentEpoch := a.deploymentEpoch
  attestationId := a.attestationId
  attestationDigest := a.attestationDigest
  profileDigest := a.profileDigest
  issuedAt := a.issuedAt
  expiresAt := a.expiresAt

inductive ScheduledExecutorEpochRegistration where
  | activated
  | resumed
deriving DecidableEq, Repr

/-- 進んだ世代だけが置き換わり、同じ世代は中身まで一致しなければならない。 -/
def registerScheduledExecutorEpoch (a : ScheduledExecutorEpochAuthority) (now : Int) :
    StoreTx ScheduledExecutorEpochRegistration := do
  Tx.check (invalidValue (a.validate now))
  -- 挿入の行の登録時刻の CHECK は、書き換えになるときも衝突の前に確かめられる。
  Tx.require (0 < now) (.scheduler .check)
  let newer ← Tx.read fun s => s.epoch.all fun row => a.deploymentEpoch > row.deploymentEpoch
  Tx.modify fun s =>
    match s.epoch with
    | some row => if a.deploymentEpoch > row.deploymentEpoch then { s with epoch := some a.row } else s
    | none => { s with epoch := some a.row }
  let current ← Tx.read Store.epoch
  Tx.require (current == some a.row) (.invalidSchedulerState
    "scheduled executor epoch rollback or same-epoch authority conflict")
  return if newer then .activated else .resumed

/-! ## 発生 -/

structure ScheduledRun where
  runId : String
  jobId : String
  scheduledFor : Int
  coalescedThrough : Int
  skippedCount : Nat
  skippedCountSaturated : Bool
  state : ScheduledRunState
deriving DecidableEq, Repr

inductive MaterializationOutcome where
  | created (run : ScheduledRun)
  | notDue
  | blocked
  | alreadyMaterialized
deriving DecidableEq, Repr

def overlapBlocked (s : Store) (jobId : String) : Bool :=
  s.runs.rows.any fun r => r.jobId == jobId && r.overlapSlot == some 1

def isDue (s : Store) (now : Int) (r : ScheduleRow) : Bool :=
  s.jobs.rows.any (fun j => j.jobId == r.jobId && j.status == .active)
    && r.nextRunAt.any (· ≤ now) && !overlapBlocked s r.jobId

/-- `order by next_run_at, job_id`。 -/
def dueBefore (a b : ScheduleRow) : Bool :=
  let due (r : ScheduleRow) : Int := r.nextRunAt.getD 0
  due a < due b || (due a == due b && a.jobId ≤ b.jobId)

def listDueScheduledJobs (s : Store) (now : Int) (limit : Nat) : List String :=
  (((s.schedules.rows.filter (isDue s now)).insertionSort fun a b => dueBefore a b).take limit).map
    ScheduleRow.jobId

def materializedRunId (jobId : String) (scheduledFor : Int) : String :=
  "scheduled:" ++ jobId ++ ":" ++ toString scheduledFor

/-- `order by ordinal` の宛先。 -/
def jobTargets (s : Store) (jobId : String) : List DeliveryTargetSnapshot :=
  ((s.targets.rows.filter fun t => t.jobId == jobId).insertionSort
    fun a b => a.ordinal ≤ b.ordinal).map DeliveryTargetRow.target

def loadMaterializationSnapshots (jobId : String) :
    StoreTx (List DeliveryTargetSnapshot × ExecutionBaselineSnapshot) := do
  let targets ← Tx.read (jobTargets · jobId)
  Tx.check (validateSerializedTargets targets)
  let found ← Tx.read fun s => s.baselines.rows.find? fun b => b.jobId == jobId
  let b ← Tx.orElseFail found (.invalidSchedulerState "no rows returned")
  return (targets, { baselineVersion := b.baselineVersion, result := b.result,
                     previousSuccessContext := b.previousSuccessContext })

def pendingRun (job : ScheduledJobRow) (schedule : ScheduleRow) (window : OccurrenceWindow)
    (targets : List DeliveryTargetSnapshot) (baseline : ExecutionBaselineSnapshot) (now : Int) :
    ScheduledRunRow where
  runId := materializedRunId job.jobId window.scheduledFor
  jobId := job.jobId
  scheduleId := schedule.scheduleId
  jobGeneration := job.generation
  scheduleGeneration := schedule.generation
  scheduledFor := window.scheduledFor
  coalescedThrough := window.coalescedThrough
  skippedCount := window.skippedCount
  skippedCountSaturated := window.skippedCountSaturated
  definition := job.definition
  capability := job.capability
  targets := targets
  executionBaseline := baseline
  policy := job.policy
  state := .pending
  attempt := 0
  fence := 0
  nextAttemptAt := none
  leaseOwner := none
  leaseExpiresAt := none
  overlapSlot := some 1
  resultArtifactId := none
  resultContext := none
  resultHash := none
  errorKind := none
  errorMessage := none
  createdAt := now
  updatedAt := now

def ScheduledRunRow.materialized (r : ScheduledRunRow) : ScheduledRun where
  runId := r.runId
  jobId := r.jobId
  scheduledFor := r.scheduledFor
  coalescedThrough := r.coalescedThrough
  skippedCount := r.skippedCount
  skippedCountSaturated := r.skippedCountSaturated
  state := r.state

def advancedSchedule (nextRunAt : Option Int) (now : Int) (r : ScheduleRow) : ScheduleRow :=
  { r with nextRunAt, updatedAt := now }

def completedJob (now : Int) (j : ScheduledJobRow) : ScheduledJobRow :=
  { j with status := .completed, updatedAt := now }

def advanceSchedule (jobId : String) (generation now : Int) (window : OccurrenceWindow) : StoreTx Unit :=
  match window.nextRunAt with
  | some next => do
    let active ← Tx.read fun s => s.jobs.rows.any fun j => j.jobId == jobId && j.status == .active
      && j.generation == generation
    let updated ← updateSchedules
      (fun r => r.jobId == jobId && r.nextRunAt == some window.scheduledFor && active)
      (advancedSchedule (some next) now)
    Tx.require (updated == 1) .schedulerGenerationConflict
  | none => do
    let _ ← updateSchedules (fun r => r.jobId == jobId) (advancedSchedule none now)
    let _ ← updateJobs
      (fun j => j.jobId == jobId && j.generation == generation && j.status == .active)
      (completedJob now)

def dueJob (jobId : String) (expectedGeneration now : Int) (s : Store) :
    Option (ScheduledJobRow × ScheduleRow × Int) := do
  let job ← s.jobs.rows.find? fun j => j.jobId == jobId
  let schedule ← s.schedules.rows.find? fun r => r.jobId == jobId
  let due ← schedule.nextRunAt
  if job.status = .active ∧ job.generation = expectedGeneration ∧ due ≤ now then
    some (job, schedule, due)
  else none

def materializeOccurrence (E : Env) (job : ScheduledJobRow) (schedule : ScheduleRow) (due now : Int) :
    StoreTx (Option ScheduledRunRow) := do
  let spec ← Tx.check (scheduleFromRow E schedule)
  let window ← Tx.check (invalidOccurrence
    (spec.coalesce E.cron due now job.policy.1.occurrenceSearchLimit))
  let (targets, baseline) ← loadMaterializationSnapshots job.jobId
  let run := pendingRun job schedule window targets baseline now
  let inserted ← insertRunOrIgnore run
  if inserted == 0 then return none
  advanceSchedule job.jobId job.generation now window
  return some run

def materializeDueSchedule (E : Env) (jobId : String) (expectedGeneration now : Int)
    (admission : Option AdmissionGuard) : StoreTx MaterializationOutcome := do
  acquireExecutorAdmission admission
  let found ← Tx.read (dueJob jobId expectedGeneration now)
  match found with
  | none => return .notDue
  | some (job, schedule, due) => do
    let blocked ← Tx.read (overlapBlocked · jobId)
    if blocked then return .blocked
    match ← materializeOccurrence E job schedule due now with
    -- 何も書かれていないので、確定しても巻き戻しても同じである。
    | none => return .alreadyMaterialized
    | some run => do
      confirmExecutorAdmission admission
      return .created run.materialized

namespace ScheduledRunRow

def attemptDue (r : ScheduledRunRow) (now : Int) : Bool := r.nextAttemptAt.all (· ≤ now)

def deadlineExceeded (r : ScheduledRunRow) (now : Int) : Bool :=
  r.scheduledFor > i64Max - r.policy.1.runDeadlineSeconds
    || now ≥ r.scheduledFor + r.policy.1.runDeadlineSeconds

def exhausted (r : ScheduledRunRow) (now : Int) : Bool :=
  r.state == .pending && r.attemptDue now
    && (r.deadlineExceeded now || r.attempt ≥ r.policy.1.runMaxAttempts)

def claimable (r : ScheduledRunRow) (now : Int) : Bool :=
  r.state == .pending && r.attemptDue now && r.attempt < i64Max && r.fence < i64Max

end ScheduledRunRow

/-- `order by scheduled_for, run_id`。 -/
def claimedBefore (a b : ScheduledRunRow) : Bool :=
  a.scheduledFor < b.scheduledFor || (a.scheduledFor == b.scheduledFor && a.runId < b.runId)

def exhaustedRun (now : Int) (r : ScheduledRunRow) : ScheduledRunRow :=
  { r with state := .failed, overlapSlot := none, nextAttemptAt := none, leaseOwner := none,
           leaseExpiresAt := none,
           errorKind := some (if r.deadlineExceeded now then "run_deadline_exceeded"
             else "run_retry_exhausted"),
           errorMessage := none, updatedAt := now }

def sweepExhausted (now : Int) : StoreTx Unit := do
  let _ ← updateRuns (·.exhausted now) (exhaustedRun now)

/-- 要求した期限が今より後ならそれを、そうでなければ写しの方針の長さを使う。 -/
def leaseExpiry (r : ScheduledRunRow) (requested now : Int) : Int :=
  if requested > now then requested else now + r.policy.1.runLeaseSeconds

def leasedRow (leaseOwner : String) (requested now : Int) (r : ScheduledRunRow) : ScheduledRunRow :=
  { r with state := .leased, attempt := r.attempt + 1, fence := r.fence + 1, nextAttemptAt := none,
           leaseOwner := some leaseOwner, leaseExpiresAt := some (leaseExpiry r requested now),
           updatedAt := now }

def leasedAttempt (leaseOwner : String) (expiresAt now : Int) (r : ScheduledRunRow) : RunAttemptRow where
  runId := r.runId
  jobId := r.jobId
  attempt := r.attempt + 1
  fence := r.fence + 1
  leaseOwner := leaseOwner
  state := .leased
  claimedAt := now
  leaseExpiresAt := expiresAt
  preflightCompletedAt := none
  executingAt := none
  completedAt := none
  attestedProfile := none
  errorKind := none
  errorMessage := none

def leaseRun (leaseOwner : String) (requested now : Int) (r : ScheduledRunRow) :
    StoreTx ClaimedScheduledRun := do
  let expiresAt := leaseExpiry r requested now
  let _ ← updateRuns (fun o => o.runId == r.runId && o.claimable now) (leasedRow leaseOwner requested now)
  Tx.require (inI64 expiresAt) (.scheduler .overflow)
  insertAttempt (leasedAttempt leaseOwner expiresAt now r)
  return r.claim { runId := r.runId, jobId := r.jobId, attempt := r.attempt + 1, fence := r.fence + 1,
                   leaseOwner }

def sweepFirst (lease : Option Int) (now : Int) : StoreTx Unit :=
  if lease.isNone then sweepExhausted now else pure ()

/-- 貸与する実行がないときの返り値。番号を使い切った実行が待っていれば誤りになる。 -/
def emptyClaim (now : Int) (s : Store) : Except StateError (Option ClaimedScheduledRun) :=
  if s.runs.rows.any fun r => r.state == .pending && r.attemptDue now
      && (r.attempt == i64Max || r.fence == i64Max) then .error .scheduledRunCounterExhausted
  else .ok none

/-- 内側の誤りは、掃除を確定したうえで返される。`mutationNow` は始めに読み直した時刻である。 -/
def claimNextScheduledRun (leaseOwner : String) (now : Int) (lease : Option Int)
    (admission : Option AdmissionGuard) (mutationNow : Int) :
    StoreTx (Except StateError (Option ClaimedScheduledRun)) := do
  Tx.check (invalidValue (validateText "scheduled run lease owner" leaseOwner))
  Tx.require (lease.all (now < ·)) (.invalidSchedulerState
    "scheduled run lease must expire after claim time")
  acquireExecutorAdmission admission
  sweepFirst lease mutationNow
  let next ← Tx.read fun s => first claimedBefore (s.runs.rows.filter (·.claimable mutationNow))
  match next with
  | none => do
    let outcome ← Tx.read (emptyClaim mutationNow)
    confirmExecutorAdmission admission
    return outcome
  | some r => do
    let claimed ← leaseRun leaseOwner (lease.getD mutationNow) mutationNow r
    confirmExecutorAdmission admission
    return .ok (some claimed)

namespace RunLeaseBinding

def validate (b : RunLeaseBinding) : Except StateError Unit := do
  invalidValue (validateText "scheduled run id" b.runId)
  invalidValue (validateText "scheduled run job id" b.jobId)
  invalidValue (validateText "scheduled run lease owner" b.leaseOwner)
  if b.attempt ≤ 0 ∨ b.fence ≤ 0 then
    invalidState "scheduled run attempt and fence must be positive"

def ownsRun (b : RunLeaseBinding) (r : ScheduledRunRow) : Bool :=
  r.runId == b.runId && r.jobId == b.jobId && r.attempt == b.attempt && r.fence == b.fence
    && r.leaseOwner == some b.leaseOwner

def ownsAttempt (b : RunLeaseBinding) (a : RunAttemptRow) : Bool :=
  a.runId == b.runId && a.jobId == b.jobId && a.attempt == b.attempt && a.fence == b.fence
    && a.leaseOwner == b.leaseOwner

end RunLeaseBinding

def fencedTransition (b : RunLeaseBinding) (onRun : ScheduledRunRow → Bool)
    (toRun : ScheduledRunRow → ScheduledRunRow) (onAttempt : RunAttemptRow → Bool)
    (toAttempt : RunAttemptRow → RunAttemptRow) : StoreTx Unit := do
  let run ← updateRuns (fun r => b.ownsRun r && onRun r) toRun
  Tx.require (run == 1) .scheduledRunLostLease
  let attempt ← updateAttempts (fun a => b.ownsAttempt a && onAttempt a) toAttempt
  Tx.require (attempt == 1) .scheduledRunLostLease

def extendedRun (leaseExpiresAt now : Int) (r : ScheduledRunRow) : ScheduledRunRow :=
  { r with leaseExpiresAt := some leaseExpiresAt, updatedAt := now }

def extendedAttempt (leaseExpiresAt : Int) (a : RunAttemptRow) : RunAttemptRow :=
  { a with leaseExpiresAt }

def heartbeatScheduledRun (b : RunLeaseBinding) (now leaseExpiresAt : Int) : StoreTx Unit := do
  Tx.check b.validate
  Tx.require (now < leaseExpiresAt) (.invalidSchedulerState
    "scheduled run heartbeat must extend beyond now")
  fencedTransition b
    (fun r => r.state.isLive && r.leaseExpiresAt.any fun t => now < t && t < leaseExpiresAt)
    (extendedRun leaseExpiresAt now)
    (fun a => a.state.isOpen && now < a.leaseExpiresAt && a.leaseExpiresAt < leaseExpiresAt)
    (extendedAttempt leaseExpiresAt)

def executingRun (now : Int) (r : ScheduledRunRow) : ScheduledRunRow :=
  { r with state := .executing, updatedAt := now }

def executingAttempt (profile : AttestedExecutionProfileSnapshot) (now : Int) (a : RunAttemptRow) :
    RunAttemptRow :=
  { a with state := .executing, preflightCompletedAt := some now, executingAt := some now,
           attestedProfile := some profile }

def markScheduledRunExecuting (b : RunLeaseBinding) (profile : AttestedExecutionProfileSnapshot)
    (now : Int) : StoreTx Unit := do
  Tx.check b.validate
  Tx.check (invalidValue profile.validate)
  fencedTransition b
    (fun r => r.state == .leased && r.leaseExpiresAt.any (now < ·))
    (executingRun now)
    (fun a => a.state == .leased && now < a.leaseExpiresAt)
    (executingAttempt profile now)

/-!
## ジョブの読み取り

トランザクションの外で行う、ジョブと宛先の読み取り。読んだ行は、もう一度検査してから返す。
-/

structure ScheduledJob where
  jobId : String
  definition : ScheduledJobDefinition
  creator : PrincipalKey
  owner : PrincipalKey
  capability : CapabilityProfileSnapshot
  status : ScheduledJobStatus
  generation : Int
  scheduleId : String
  scheduleGeneration : Int
  schedule : ScheduleSpec
  nextRunAt : Option Int
deriving DecidableEq

def ScheduledJobStatus.asStr : ScheduledJobStatus → String
  | .active => "active"
  | .paused => "paused"
  | .completed => "completed"
  | .deleted => "deleted"

def positiveVersion (version : Nat) : Except StateError Unit :=
  if 0 < version then .ok () else invalidState "persisted version is not positive"

def ScheduledJobDefinition.new (version : Nat) (canonicalJson : String) :
    Except StateValueError ScheduledJobDefinition := do
  let canonicalJson ← canonicalizeSnapshot version "definition" canonicalJson
  return { version, canonicalJson }

def CapabilityProfileSnapshot.new (schemaVersion : Nat) (digest canonicalJson : String) :
    Except StateValueError CapabilityProfileSnapshot := do
  let canonicalJson ← canonicalizeSnapshot schemaVersion "capability profile" canonicalJson
  validateText "capability profile digest" digest
  return { schemaVersion, digest, canonicalJson }

def DeliveryTargetSnapshot.reload (t : DeliveryTargetSnapshot) :
    Except StateValueError DeliveryTargetSnapshot := do
  let addressJson ← canonicalizeSnapshot t.resolverVersion.toNat "target address" t.addressJson
  let reloaded := { t with addressJson }
  reloaded.validate
  return reloaded

def DeliveryTargetSnapshot.withTargetId (t : DeliveryTargetSnapshot) (targetId : String) :
    Except StateValueError DeliveryTargetSnapshot := do
  let renamed := { t with targetId }
  renamed.validate
  return renamed

def scheduledJobFromRow (E : Env) (j : ScheduledJobRow) (r : ScheduleRow) :
    Except StateError ScheduledJob := do
  positiveVersion j.definition.version
  positiveVersion j.capability.schemaVersion
  let definition ← invalidValue (ScheduledJobDefinition.new j.definition.version j.definition.canonicalJson)
  invalidValue j.creator.validate
  invalidValue j.owner.validate
  let capability ← invalidValue (CapabilityProfileSnapshot.new j.capability.schemaVersion
    j.capability.digest j.capability.canonicalJson)
  let schedule ← scheduleFromRow E r
  return { jobId := j.jobId
           definition
           creator := j.creator
           owner := j.owner
           capability
           status := j.status
           generation := j.generation
           scheduleId := r.scheduleId
           scheduleGeneration := r.generation
           schedule
           nextRunAt := r.nextRunAt }

def ownedJob (owner : PrincipalKey) (jobId : String) (s : Store) :
    Option (ScheduledJobRow × ScheduleRow) := do
  let job ← s.jobs.rows.find? fun j => j.jobId == jobId && j.owner == owner
  let row ← s.schedules.rows.find? fun r => r.jobId == job.jobId
  return (job, row)

def getScheduledJobByOwner (E : Env) (owner : PrincipalKey) (jobId : String) (s : Store) :
    Except StateError (Option ScheduledJob) := do
  invalidValue owner.validate
  invalidValue (validateText "job id" jobId)
  match ownedJob owner jobId s with
  | none => return none
  | some (job, row) => return some (← scheduledJobFromRow E job row)

def getScheduledJobDeliveryTargets (jobId : String) (s : Store) :
    Except StateError (List DeliveryTargetSnapshot) := do
  invalidValue (validateText "job id" jobId)
  (jobTargets s jobId).mapM fun t => do
    positiveVersion t.resolverVersion.toNat
    invalidValue t.reload

end Codeoff.State
