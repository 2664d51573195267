import Codeoff.Runtime.RemoteProtocol
import Codeoff.State.System

/-!
# 予定の操作の受付

要求を検査し、ジョブの今の写しを読み、応答を先に作ってから、変更を一つのトランザクションで適用する。認可・能力の
登録簿・宛先の解決は差し替えられる部品であり、一つの呼び出しについての答えとして受け取る。
-/

namespace Codeoff.Runtime

open Codeoff.Core Codeoff.Json Codeoff.Relational Codeoff.State

inductive ScheduleServiceError where
  | unauthorized
  | notVisible
  | invalidRequest (reason : String)
  | policyLimit (reason : String)
  | resolverUnavailable
  | targetUnavailable
  | resolverNotAllowed
  | resolverTimeout
  | capabilityUnavailable
  | capabilityInvalid
  | idempotencyInProgress
  | idempotencyConflict
  | state (error : StateError)
deriving DecidableEq, Repr

inductive DeliveryTargetRequest where
  | none
  | origin
  | channel (channelId : String)
  | directMessage (userId : String)
  | thread (channelId threadId : String)
deriving DecidableEq, Repr

inductive PreviousSuccessPolicy where
  | none
  | latestSuccess
deriving DecidableEq, Repr

def PreviousSuccessPolicy.asStr : PreviousSuccessPolicy → String
  | .none => "none"
  | .latestSuccess => "latest_success"

structure CreateScheduleRequest where
  requestId : String
  instruction : String
  previousSuccess : PreviousSuccessPolicy
  schedule : ScheduleSpec
  target : DeliveryTargetRequest
  capability : String
  now : Int

structure UpdateScheduleRequest where
  requestId : String
  jobId : String
  expectedGeneration : Int
  instruction : String
  previousSuccess : PreviousSuccessPolicy
  schedule : ScheduleSpec
  target : DeliveryTargetRequest
  capability : String
  now : Int

structure LifecycleScheduleRequest where
  requestId : String
  jobId : String
  expectedGeneration : Int
  now : Int

inductive LifecycleOperation where
  | pause
  | resume
  | delete
deriving DecidableEq, Repr

def LifecycleOperation.asStr : LifecycleOperation → String
  | .pause => "pause"
  | .resume => "resume"
  | .delete => "delete"

/-- 一つの呼び出しの前提。部品の答えは、この呼び出しの利用者についてのものである。 -/
structure ScheduleService where
  env : Env
  policy : Policy
  authenticate : Except ScheduleServiceError PrincipalKey
  authorizeCreate : PrincipalKey → Except ScheduleServiceError Unit
  /-- `resolve_capability`: 登録簿の写しの検査まで。 -/
  resolveCapability : PrincipalKey → String → Except ScheduleServiceError CapabilityProfileSnapshot
  /-- `resolve_targets` と `validate_resolved_targets`。 -/
  resolveTargets : PrincipalKey → DeliveryTargetRequest → Int →
    Except ScheduleServiceError (List DeliveryTargetSnapshot)

structure PreparedMutation where
  mutation : ScheduledJobMutation
  owner : PrincipalKey
  requestId : String
  requestDigest : String
  response : Value

/-! ## 検査と文面 -/

def snapshotVersion : Nat := 1

def definitionVersion : Nat := 2

def digestAlgorithm : String := "sha256-canonical-json-v1"

def orState {α : Type} : Except StateError α → Except ScheduleServiceError α
  | .ok a => .ok a
  | .error e => .error (.state e)

def orInvalidValue {α : Type} : Except StateValueError α → Except ScheduleServiceError α
  | .ok a => .ok a
  | .error e => .error (.invalidRequest e.message)

def orInvalidOccurrence {α : Type} : Except OccurrenceError α → Except ScheduleServiceError α
  | .ok a => .ok a
  | .error e => .error (.invalidRequest e.message)

def bounded (field value : String) : Except ScheduleServiceError Unit :=
  if trim value = "" ∨ byteLen value > 255 ∨ value ≠ trim value then
    .error (.invalidRequest (field ++ " must be a bounded non-empty string"))
  else .ok ()

def validateRequestId (value : String) : Except ScheduleServiceError Unit := bounded "request_id" value

def validateInstruction (value : String) : Except ScheduleServiceError Unit :=
  if trim value = "" ∨ byteLen value > 64 * 1024 then
    .error (.invalidRequest "instruction must contain 1..=65536 bytes")
  else .ok ()

/-- 成員は `Value.object` が鍵の昇順に並べるので、書き出した文面が標準形である。 -/
def canonicalJson (v : Value) : String := v.render

def digestJson (E : Env) (v : Value) : String := E.sha256Hex (utf8Bytes (canonicalJson v))

def shortDigest (E : Env) (v : Value) : String := String.ofList ((digestJson E v).toList.take 32)

def principalJson (p : PrincipalKey) : Value :=
  .object [("kind", .str p.kind), ("provider", .str p.provider), ("tenant", .str p.tenant),
    ("subject", .str p.subject)]

def scheduleJson : ScheduleSpec → Value
  | .once at_ => .object [("kind", .str "once"), ("at", .int at_)]
  | .fixedInterval anchor everySeconds =>
    .object [("kind", .str "fixed_interval"), ("anchor", .int anchor), ("every_seconds", .int everySeconds)]
  | .cron expression timezone =>
    .object [("kind", .str "cron"), ("expression", .str expression), ("timezone", .str timezone)]

def targetSemanticJson (t : DeliveryTargetSnapshot) : Value :=
  .object [("provider", .str t.provider), ("connector", .str t.connector), ("tenant", .str t.tenant),
    ("kind", .str t.kind), ("identity_digest", .str t.identityDigest)]

def targetItem (t : DeliveryTargetSnapshot) : Value :=
  .object [("provider", .str t.provider), ("kind", .str t.kind),
    ("resolver_version", .int t.resolverVersion.toNat), ("resolver_digest", .str t.resolverDigest),
    ("identity_digest", .str t.identityDigest)]

def targetSummary (targets : List DeliveryTargetSnapshot) : Value :=
  .object [("count", .int targets.length), ("items", .arr (targets.map targetItem))]

def scheduleContractVersion : Int := 1

def successEnvelope (data : Value) : Value :=
  .object [("schema_version", .int scheduleContractVersion), ("ok", .bool true), ("data", data)]

def mutationResponse (jobId status : String) (generation : Int) (nextRunAt : Option Int)
    (targets : List DeliveryTargetSnapshot) : Value :=
  successEnvelope (.object [("job_id", .str jobId), ("status", .str status), ("generation", .int generation),
    ("next_run_at", .ofOption (nextRunAt.map .int)), ("targets", targetSummary targets)])

def definition (instruction : String) (previousSuccess : PreviousSuccessPolicy) :
    Except ScheduleServiceError ScheduledJobDefinition :=
  orInvalidValue (ScheduledJobDefinition.new definitionVersion (canonicalJson (.object
    [("schema_version", .int definitionVersion), ("instruction", .str instruction),
      ("previous_success", .object [("kind", .str previousSuccess.asStr)])])))

def definitionSemantics (instruction : String) : PreviousSuccessPolicy → Value
  | .none => .object [("version", .int snapshotVersion), ("instruction", .str instruction)]
  | .latestSuccess =>
    .object [("version", .int definitionVersion), ("instruction", .str instruction),
      ("previous_success", .object [("kind", .str PreviousSuccessPolicy.latestSuccess.asStr)])]

def mutationSemantics (operation : String) (owner : PrincipalKey) (instruction : String)
    (previousSuccess : PreviousSuccessPolicy) (schedule : ScheduleSpec)
    (capability : CapabilityProfileSnapshot) (targets : List DeliveryTargetSnapshot)
    (jobId : Option String) (expectedGeneration : Option Int) : Except ScheduleServiceError Value :=
  match parse capability.canonicalJson with
  | none => .error (.invalidRequest "expected value")
  | some snapshot =>
    .ok (.object [("operation", .str operation), ("owner", principalJson owner),
      ("job_id", .ofOption (jobId.map .str)), ("expected_generation", .ofOption (expectedGeneration.map .int)),
      ("definition", definitionSemantics instruction previousSuccess), ("schedule", scheduleJson schedule),
      ("capability", .object [("version", .int capability.schemaVersion), ("digest", .str capability.digest),
        ("snapshot", snapshot)]),
      ("targets", .arr (targets.map targetSemanticJson))])

def lifecycleSemantics (operation : LifecycleOperation) (owner : PrincipalKey) (jobId : String)
    (expectedGeneration : Int) : Value :=
  .object [("operation", .str operation.asStr), ("owner", principalJson owner), ("job_id", .str jobId),
    ("expected_generation", .int expectedGeneration)]

def nextGeneration (generation : Int) : Except ScheduleServiceError Int :=
  match checkedAdd generation 1 with
  | some next => .ok next
  | none => .error (.invalidRequest "expected_generation is too large")

def scopeTargets (E : Env) (jobId : String) : Nat → List DeliveryTargetSnapshot →
    Except ScheduleServiceError (List DeliveryTargetSnapshot)
  | _, [] => .ok []
  | ordinal, t :: ts => do
    let renamed ← orInvalidValue (t.withTargetId ("target_" ++ shortDigest E (.object [("job_id", .str jobId),
      ("ordinal", .int ordinal), ("identity_digest", .str t.identityDigest)])))
    return renamed :: (← scopeTargets E jobId (ordinal + 1) ts)

namespace ScheduleService

variable (service : ScheduleService)

def validateOperationalInput (instruction : String) (schedule : ScheduleSpec) (now : Int) :
    Except ScheduleServiceError Unit :=
  if byteLen instruction > service.policy.1.maxPromptBytes then
    .error (.policyLimit "instruction exceeds max_prompt_bytes")
  else
    match schedule.validateMinimumCadence service.env.cron now
        service.policy.1.minimumScheduleCadenceSeconds service.policy.1.occurrenceSearchLimit with
    | .ok _ => .ok ()
    | .error e => .error (.policyLimit e.message)

def authorizeCreatePrincipal : Except ScheduleServiceError PrincipalKey := do
  let principal ← service.authenticate
  service.authorizeCreate principal
  return principal

def authorizeExisting (principal : PrincipalKey) : Option ScheduledJob → Except ScheduleServiceError ScheduledJob
  | none => .error .notVisible
  | some job => if job.owner = principal then .ok job else .error .notVisible

def authorizeJob (jobId : String) (s : Store) : Except ScheduleServiceError (PrincipalKey × ScheduledJob) := do
  let owner ← service.authenticate
  bounded "job_id" jobId
  let found ← orState (getScheduledJobByOwner service.env owner jobId s)
  let job ← authorizeExisting owner found
  return (owner, job)

def createdJobId (owner : PrincipalKey) (requestId : String) : String :=
  "job_" ++ shortDigest service.env (.object [("owner", principalJson owner), ("request_id", .str requestId)])

/-! ## 応答を作るまで -/

def prepareCreate (request : CreateScheduleRequest) : Except ScheduleServiceError PreparedMutation := do
  validateRequestId request.requestId
  validateInstruction request.instruction
  let owner ← service.authorizeCreatePrincipal
  service.validateOperationalInput request.instruction request.schedule request.now
  let jobId := service.createdJobId owner request.requestId
  let capability ← service.resolveCapability owner request.capability
  let resolved ← service.resolveTargets owner request.target request.now
  let targets ← scopeTargets service.env jobId 0 resolved
  let semantic ← mutationSemantics "create" owner request.instruction request.previousSuccess
    request.schedule capability targets none none
  let nextRunAt ← orInvalidOccurrence (request.schedule.firstAfterCreate service.env.cron request.now)
  let definition ← definition request.instruction request.previousSuccess
  return {
    mutation := .create {
      jobId
      scheduleId := "schedule_" ++ jobId
      definition
      creator := owner
      owner
      capability
      targets
      schedule := request.schedule
      now := request.now }
    owner
    requestId := request.requestId
    requestDigest := digestJson service.env semantic
    response := mutationResponse jobId "active" 0 (some nextRunAt) targets }

def snapshotNextRunAt (request : UpdateScheduleRequest) (current : ScheduledJob) :
    Except ScheduleServiceError (Option Int) :=
  if current.status = .active then
    (orInvalidOccurrence (request.schedule.firstAfterCreate service.env.cron request.now)).map some
  else .ok none

/-- `s` でジョブの写しを読む。 -/
def prepareUpdate (request : UpdateScheduleRequest) (s : Store) :
    Except ScheduleServiceError PreparedMutation := do
  validateRequestId request.requestId
  validateInstruction request.instruction
  let (owner, current) ← service.authorizeJob request.jobId s
  service.validateOperationalInput request.instruction request.schedule request.now
  let capability ← service.resolveCapability owner request.capability
  let resolved ← service.resolveTargets owner request.target request.now
  let targets ← scopeTargets service.env request.jobId 0 resolved
  let semantic ← mutationSemantics "update" owner request.instruction request.previousSuccess
    request.schedule capability targets (some request.jobId) (some request.expectedGeneration)
  let nextRunAt ← service.snapshotNextRunAt request current
  let generation ← nextGeneration request.expectedGeneration
  let definition ← definition request.instruction request.previousSuccess
  return {
    mutation := .update {
      jobId := request.jobId
      expectedGeneration := request.expectedGeneration
      definition
      capability
      targets
      schedule := request.schedule
      now := request.now }
    owner
    requestId := request.requestId
    requestDigest := digestJson service.env semantic
    response := mutationResponse request.jobId current.status.asStr generation nextRunAt targets }

def snapshotResumeAt (current : ScheduledJob) (now : Int) : Except ScheduleServiceError Int :=
  match current.schedule.nextAfter service.env.cron now, current.schedule with
  | .ok next, _ => .ok next
  | .error _, .once _ => .error (.state .scheduledOnceExpired)
  | .error e, _ => .error (.invalidRequest e.message)

def lifecycleOutcome (operation : LifecycleOperation) (current : ScheduledJob) (now : Int) :
    Except ScheduleServiceError (String × Option Int) :=
  match operation with
  | .pause => .ok ("paused", none)
  | .resume => (service.snapshotResumeAt current now).map fun next => ("active", some next)
  | .delete => .ok ("deleted", none)

def lifecycleMutation (request : LifecycleScheduleRequest) : LifecycleOperation → ScheduledJobMutation
  | .pause => .pause request.jobId request.expectedGeneration request.now
  | .resume => .resume request.jobId request.expectedGeneration request.now
  | .delete => .delete request.jobId request.expectedGeneration request.now

/-- `s` でジョブの写しを、`t` で宛先を読む。 -/
def prepareLifecycle (operation : LifecycleOperation) (request : LifecycleScheduleRequest) (s t : Store) :
    Except ScheduleServiceError PreparedMutation := do
  validateRequestId request.requestId
  let (owner, current) ← service.authorizeJob request.jobId s
  let targets ← orState (getScheduledJobDeliveryTargets request.jobId t)
  let (status, nextRunAt) ← service.lifecycleOutcome operation current request.now
  let generation ← nextGeneration request.expectedGeneration
  return {
    mutation := lifecycleMutation request operation
    owner
    requestId := request.requestId
    requestDigest := digestJson service.env
      (lifecycleSemantics operation owner request.jobId request.expectedGeneration)
    response := mutationResponse request.jobId status generation nextRunAt targets }

end ScheduleService

inductive ScheduleRequest where
  | create (request : CreateScheduleRequest)
  | update (request : UpdateScheduleRequest)
  | lifecycle (operation : LifecycleOperation) (request : LifecycleScheduleRequest)

/-- 変更と応答を、ジョブの写しを読んだ状態 `s` と、宛先を読んだ状態 `t` から作る。 -/
def ScheduleService.prepare (service : ScheduleService) :
    ScheduleRequest → Store → Store → Except ScheduleServiceError PreparedMutation
  | .create request, _, _ => service.prepareCreate request
  | .update request, s, _ => service.prepareUpdate request s
  | .lifecycle operation request, s, t => service.prepareLifecycle operation request s t

def PreparedMutation.idempotency (p : PreparedMutation) : ScheduleMutationIdempotency where
  principal := p.owner
  requestId := p.requestId
  digestAlgorithm := digestAlgorithm
  requestDigest := p.requestDigest
  responseJson := canonicalJson p.response

structure ScheduleAuditAttempt where
  eventId : String
  latencyMs : Int

def PreparedMutation.audit (p : PreparedMutation) (attempt : ScheduleAuditAttempt) : ScheduleMutationAudit where
  auditId := attempt.eventId
  principal := some p.owner
  operation := p.mutation.operation
  jobId := some p.mutation.jobId
  requestId := p.requestId
  outcome := "applied"
  decision := "allow"
  reason := none
  errorCode := none
  latencyMs := attempt.latencyMs
  correlationId := p.requestId
  occurredAt := p.mutation.now

structure Prevalidated (E : Env) (policy : Policy) (mutation : ScheduledJobMutation)
    (idempotency : ScheduleMutationIdempotency) (audit : Option ScheduleMutationAudit)
    (proof : Option CadenceProofArtifact) (s : Store) : Prop where
  keyValid : validateMutationIdempotency mutation idempotency = .ok ()
  auditValid : validateOptionalMutationAudit mutation idempotency audit = .ok ()
  passes : prevalidateScheduleMutation E policy mutation s = .ok (proof, s)

/-- 保存領域の一歩。受付の呼び出しのトランザクションは、前に済ませた検査に続く。 -/
inductive ServiceStep (E : Env) : Store → Store → Prop where
  | operation {s s' : Store} (step : Step E s s') : ServiceStep E s s'
  | transaction {s₀ s : Store} {policy : Policy} {mutation : ScheduledJobMutation}
      {idempotency : ScheduleMutationIdempotency} {audit : Option ScheduleMutationAudit}
      {proof : Option CadenceProofArtifact}
      (prevalidated : Prevalidated E policy mutation idempotency audit proof s₀) :
      ServiceStep E s (commit (applyPrevalidatedMutation E policy mutation idempotency audit proof) s).2

/-- 保存領域の、何歩かの動き。 -/
abbrev Interleaves (E : Env) : Store → Store → Prop := Relation.ReflTransGen (ServiceStep E)

/-- 適用に終わった一つの呼び出し。写しの読み取り・宛先の読み取り・検査・トランザクションの間には、ほかの呼び出しと
操作が好きなだけ入る。 -/
structure AppliedCall (service : ScheduleService) (request : ScheduleRequest) where
  prepared : PreparedMutation
  attempt : ScheduleAuditAttempt
  proof : Option CadenceProofArtifact
  response : String
  read : Store
  targetsRead : Store
  checked : Store
  before : Store
  after : Store
  reached : Relation.ReflTransGen (ServiceStep service.env) .empty read
  prepares : service.prepare request read targetsRead = .ok prepared
  toTargetsRead : Interleaves service.env read targetsRead
  toChecked : Interleaves service.env targetsRead checked
  prevalidated : Prevalidated service.env service.policy prepared.mutation prepared.idempotency
    (some (prepared.audit attempt)) proof checked
  toBefore : Interleaves service.env checked before
  applies : commit (applyPrevalidatedMutation service.env service.policy prepared.mutation prepared.idempotency
    (some (prepared.audit attempt)) proof) before = (.ok (.applied response), after)
  /-- 応答の世代と次の発生時刻は i64 で、書いたとおりに読み戻せる。 -/
  representable : prepared.response.readable maxDepth = true

end Codeoff.Runtime
