import Codeoff.Core.AttestedCapability
import Codeoff.State.Jobs

/-!
# 準備の権限

実行を貸与したときの写し `ClaimedScheduledRun` と、それに結びついた権限の文書
（`ScheduledPrepareAuthority`）、実行環境の証明との照合。
-/

namespace Codeoff.State

open Codeoff.Core Codeoff.Relational

def maxPreviousSuccessBytes : Nat := 16 * 1024

structure ClaimedScheduledRun where
  binding : RunLeaseBinding
  scheduleId : String
  jobGeneration : Int
  scheduleGeneration : Int
  scheduledFor : Int
  coalescedThrough : Int
  definition : ScheduledJobDefinition
  capability : CapabilityProfileSnapshot
  targets : List DeliveryTargetSnapshot
  executionBaseline : ExecutionBaselineSnapshot
  policy : Policy
deriving DecidableEq

def ScheduledRunRow.claim (r : ScheduledRunRow) (binding : RunLeaseBinding) : ClaimedScheduledRun where
  binding := binding
  scheduleId := r.scheduleId
  jobGeneration := r.jobGeneration
  scheduleGeneration := r.scheduleGeneration
  scheduledFor := r.scheduledFor
  coalescedThrough := r.coalescedThrough
  definition := r.definition
  capability := r.capability
  targets := r.targets
  executionBaseline := r.executionBaseline
  policy := r.policy

def optionStr (s : Option String) : Json.Value := .ofOption (s.map .str)

def targetsJson (targets : List DeliveryTargetSnapshot) : String :=
  (Json.Value.arr (targets.filterMap targetValue)).render

def executionBaselineJson (b : ExecutionBaselineSnapshot) : String :=
  (Json.Value.object [("baseline_version", .int b.baselineVersion),
    ("hash_algorithm", optionStr (b.result.map BaselineResult.hashAlgorithm)),
    ("result_hash", optionStr (b.result.map BaselineResult.resultHash)),
    ("previous_success_context", optionStr b.previousSuccessContext),
    ("source_run_id", optionStr (b.result.map BaselineResult.sourceRunId)),
    ("completed_at", .ofOption (b.result.map fun r => .int r.completedAt))]).render

def policyValue (p : SchedulerOperationalPolicy) : Json.Value :=
  .object [("schema_version", .int p.schemaVersion),
    ("recovery_batch_limit", .int p.recoveryBatchLimit),
    ("materialization_batch_limit", .int p.materializationBatchLimit),
    ("occurrence_search_limit", .int p.occurrenceSearchLimit),
    ("tick_interval_ms", .int p.tickIntervalMs),
    ("error_backoff_ms", .int p.errorBackoffMs),
    ("minimum_schedule_cadence_seconds", .int p.minimumScheduleCadenceSeconds),
    ("max_active_jobs", .int p.maxActiveJobs),
    ("max_active_jobs_per_owner", .int p.maxActiveJobsPerOwner),
    ("max_prompt_bytes", .int p.maxPromptBytes),
    ("max_result_bytes", .int p.maxResultBytes),
    ("max_summary_bytes", .int p.maxSummaryBytes),
    ("run_lease_seconds", .int p.runLeaseSeconds),
    ("run_heartbeat_interval_ms", .int p.runHeartbeatIntervalMs),
    ("run_timeout_seconds", .int p.runTimeoutSeconds),
    ("run_prepare_grace_ms", .int p.runPrepareGraceMs),
    ("run_cancellation_grace_ms", .int p.runCancellationGraceMs),
    ("run_finalization_grace_ms", .int p.runFinalizationGraceMs),
    ("run_retry_base_seconds", .int p.runRetryBaseSeconds),
    ("run_retry_max_seconds", .int p.runRetryMaxSeconds),
    ("run_deadline_seconds", .int p.runDeadlineSeconds),
    ("run_max_attempts", .int p.runMaxAttempts),
    ("delivery_tick_interval_ms", .int p.deliveryTickIntervalMs),
    ("delivery_batch_limit", .int p.deliveryBatchLimit),
    ("delivery_lease_seconds", .int p.deliveryLeaseSeconds),
    ("delivery_heartbeat_interval_ms", .int p.deliveryHeartbeatIntervalMs),
    ("delivery_readiness_timeout_seconds", .int p.deliveryReadinessTimeoutSeconds),
    ("delivery_send_timeout_seconds", .int p.deliverySendTimeoutSeconds),
    ("delivery_finalization_timeout_seconds", .int p.deliveryFinalizationTimeoutSeconds),
    ("delivery_max_attempts", .int p.deliveryMaxAttempts),
    ("delivery_retry_base_seconds", .int p.deliveryRetryBaseSeconds),
    ("delivery_retry_max_seconds", .int p.deliveryRetryMaxSeconds),
    ("delivery_retry_after_max_seconds", .int p.deliveryRetryAfterMaxSeconds),
    ("delivery_deadline_seconds", .int p.deliveryDeadlineSeconds),
    ("delivery_readiness_retry_base_seconds", .int p.deliveryReadinessRetryBaseSeconds),
    ("delivery_readiness_retry_max_seconds", .int p.deliveryReadinessRetryMaxSeconds)]

def validateCanonicalJson (field json : String) : Except StateValueError Unit :=
  if byteLen json > maxSnapshotBytes then .error (.tooLarge field)
  else
    match Json.parse json with
    | none => .error (.invalidJson field)
    | some value => if value.render = json then .ok () else .error (.nonCanonicalJson field)

/-- `usize::to_be_bytes` の 8 バイト。 -/
def beBytes (n : Nat) : List UInt8 :=
  (List.range 8).map fun i => UInt8.ofNat (n / 256 ^ (7 - i))

/-- `framed_sha256` が要約する列。長さの 8 バイトと値を、順に連ねる。 -/
def framedBytes (parts : List String) : List UInt8 := parts.flatMap fun part => beBytes (byteLen part) ++ utf8Bytes part

def framedSha256 (E : Env) (parts : List String) : String := E.sha256Hex (framedBytes parts)

/-- 先頭から、合わせて `maximum` バイトを超えない文字。 -/
def takeBytes : Nat → List Char → List Char
  | _, [] => []
  | maximum, c :: cs =>
    if c.utf8Size ≤ maximum then c :: takeBytes (maximum - c.utf8Size) cs else []

/-- `value[..bounded_utf8_boundary(value, maximum)]`。 -/
def boundedUtf8 (value : String) (maximum : Nat) : String :=
  if byteLen value ≤ maximum then value else String.ofList (takeBytes maximum value.toList)

structure ScheduledPrepareAuthority where
  nonce : String
  canonicalJson : String
  digest : String
  instruction : String
  previousSuccess : Option String
  previousSuccessWasTruncated : Bool
deriving DecidableEq, Repr

namespace ScheduledPrepareAuthority

def scheduledTaskId (b : RunLeaseBinding) : String :=
  "scheduled:" ++ b.runId ++ ":" ++ toString b.attempt ++ ":" ++ toString b.fence

def previousSuccessValue (previous : Option String) (truncated : Bool) : Json.Value :=
  .ofOption (previous.map fun content =>
    .object [("content", .str content), ("was_truncated", .bool truncated)])

def taskJson (claim : ClaimedScheduledRun) (instruction : String) (previous : Option String)
    (truncated : Bool) : String :=
  (Json.Value.object [("channel", .null), ("feedback_target", .null),
    ("instruction", .str instruction),
    ("previous_success", previousSuccessValue previous truncated),
    ("principal", .object [("kind", .str "service"), ("service", .str "codeoff-scheduler")]),
    ("session", .str "fresh"),
    ("source", .object [("job_id", .str claim.binding.jobId), ("kind", .str "scheduled_run"),
      ("run_id", .str claim.binding.runId),
      ("scheduled_for", .str (toString claim.scheduledFor))]),
    ("task_id", .str (scheduledTaskId claim.binding)), ("tool_policy", .str "none")]).render

def authorityJson (E : Env) (claim : ClaimedScheduledRun) (nonce instruction task : String) : String :=
  (Json.Value.object [
    ("binding", .object [("attempt", .int claim.binding.attempt), ("fence", .int claim.binding.fence),
      ("job_id", .str claim.binding.jobId), ("lease_owner", .str claim.binding.leaseOwner),
      ("run_id", .str claim.binding.runId)]),
    ("capability_identity_digest", .str claim.capability.digest),
    ("claim", .object [("capability_schema_version", .int claim.capability.schemaVersion),
      ("coalesced_through", .int claim.coalescedThrough),
      ("definition_version", .int claim.definition.version),
      ("job_generation", .int claim.jobGeneration),
      ("schedule_generation", .int claim.scheduleGeneration),
      ("schedule_id", .str claim.scheduleId), ("scheduled_for", .int claim.scheduledFor)]),
    ("digests", .object [
      ("baseline", .str (framedSha256 E
        ["scheduled-baseline-v1", executionBaselineJson claim.executionBaseline])),
      ("capability", .str (framedSha256 E ["scheduled-capability-v1", claim.capability.canonicalJson])),
      ("definition", .str (framedSha256 E ["scheduled-definition-v1", claim.definition.canonicalJson])),
      ("instruction", .str (framedSha256 E ["scheduled-instruction-v1", instruction])),
      ("targets", .str (framedSha256 E ["scheduled-targets-v1", targetsJson claim.targets])),
      ("task", .str (framedSha256 E ["scheduled-agent-task-v1", task]))]),
    ("nonce", .str nonce), ("operational_policy", policyValue claim.policy.1),
    ("schema_version", .int 1)]).render

def instructionOf (definition : Json.Value) : Option String :=
  ((definition.get "instruction").bind Json.Value.asStr).filter fun value => trim value != ""

def includesPrevious (definition : Json.Value) : Bool :=
  (definition.pointer ["previous_success", "kind"]).bind Json.Value.asStr == some "latest_success"

def forClaim (E : Env) (claim : ClaimedScheduledRun) (nonce : String) :
    Except StateValueError ScheduledPrepareAuthority := do
  validateLowercaseSha256 "scheduled prepare nonce" nonce
  validateCanonicalSnapshot claim.definition.version "scheduled definition"
    claim.definition.canonicalJson
  validateCanonicalSnapshot claim.capability.schemaVersion "scheduled capability"
    claim.capability.canonicalJson
  validateCanonicalJson "scheduled targets" (targetsJson claim.targets)
  validateCanonicalJson "scheduled execution baseline" (executionBaselineJson claim.executionBaseline)
  let some definition := Json.parse claim.definition.canonicalJson
    | throw (.invalidJson "scheduled definition")
  let some instruction := instructionOf definition
    | throw (.invalidJson "scheduled definition")
  let previous := if includesPrevious definition then claim.executionBaseline.previousSuccessContext
    else none
  let previousSuccess := previous.map (boundedUtf8 · maxPreviousSuccessBytes)
  let truncated := (previous.map fun value =>
    decide (byteLen (boundedUtf8 value maxPreviousSuccessBytes) < byteLen value)).getD false
  let canonicalJson := authorityJson E claim nonce instruction
    (taskJson claim instruction previousSuccess truncated)
  return { nonce, canonicalJson,
           digest := framedSha256 E ["scheduled-prepare-authority-v1", canonicalJson],
           instruction, previousSuccess, previousSuccessWasTruncated := truncated }

def attests (E : Env) (a : ScheduledPrepareAuthority) (schemaVersion : Int)
    (canonicalJson digest : String) (profile : Json.Value) : Bool :=
  profile.render == canonicalJson && E.sha256Hex (utf8Bytes canonicalJson) == digest
    && (profile.get "schema_version").bind Json.Value.asInt == some schemaVersion
    && (profile.get "authority_digest").bind Json.Value.asStr == some a.digest
    && (match profile.get "authority", Json.parse a.canonicalJson with
      | some v, some w => v.beq w
      | none, none => true
      | _, _ => false)

def attestationMatches (E : Env) (a : ScheduledPrepareAuthority) (canonicalJson digest : String)
    (requireSideEffectFree : Bool) : Bool :=
  match Json.parse canonicalJson with
  | none => false
  | some profile => a.attests E 1 canonicalJson digest profile
    && (!requireSideEffectFree
      || (profile.get "side_effect_free").bind Json.Value.asBool == some true)

def executionSurface : Json.Value :=
  .object [("approval_policy", .str "never"), ("dynamic_tools", .bool false),
    ("network_access", .bool false), ("sandbox", .str "read-only"), ("web_search", .str "disabled")]

def recoveryAttestationMatches (E : Env) (a : ScheduledPrepareAuthority)
    (canonicalJson digest : String) : Bool :=
  match Json.parse canonicalJson with
  | none => false
  | some profile => a.attests E 2 canonicalJson digest profile
    && ((profile.get "execution_surface").map (executionSurface.beq ·)).getD false
    && ((profile.get "capability_profile").map fun v => E.capabilityProfileParses v.render).getD false

def matchesRemoteBinding (a : ScheduledPrepareAuthority) (runId jobId : String) (attempt fence : Nat)
    (authorityDigest : String) : Bool :=
  match Json.parse a.canonicalJson with
  | none => false
  | some authority => authorityDigest == a.digest
    && (authority.pointer ["binding", "run_id"]).bind Json.Value.asStr == some runId
    && (authority.pointer ["binding", "job_id"]).bind Json.Value.asStr == some jobId
    && (authority.pointer ["binding", "attempt"]).bind Json.Value.asU64 == some attempt
    && (authority.pointer ["binding", "fence"]).bind Json.Value.asU64 == some fence

end ScheduledPrepareAuthority

/-- 保存された証明から権限を組み直し、`accepts` で照合する。 -/
def persistedProfileAllows (E : Env) (schemaVersion : Nat)
    (accepts : ScheduledPrepareAuthority → String → String → Bool) (r : ScheduledRunRow)
    (binding : RunLeaseBinding) (profile : Option AttestedExecutionProfileSnapshot) :
    Except StateError Bool :=
  match profile with
  | none => .ok false
  | some profile =>
    if profile.schemaVersion ≠ schemaVersion ∨ profile.hashAlgorithm ≠ "sha256-v1" then .ok false
    else
      match Json.parse profile.canonicalJson with
      | none => invalidState "attested execution profile must be valid JSON"
      | some value =>
        match (value.pointer ["authority", "nonce"]).bind Json.Value.asStr with
        | none => .ok false
        | some nonce =>
          match ScheduledPrepareAuthority.forClaim E (r.claim binding) nonce with
          | .error _ => .ok false
          | .ok authority => .ok (accepts authority profile.canonicalJson profile.digest)

def persistedProfileAllowsRetry (E : Env) (r : ScheduledRunRow) (binding : RunLeaseBinding)
    (profile : Option AttestedExecutionProfileSnapshot) : Except StateError Bool :=
  persistedProfileAllows E 1 (fun a json digest => a.attestationMatches E json digest true) r binding
    profile

def persistedProfileAllowsRecovery (E : Env) (r : ScheduledRunRow) (binding : RunLeaseBinding)
    (profile : Option AttestedExecutionProfileSnapshot) : Except StateError Bool :=
  persistedProfileAllows E 2 (fun a json digest => a.recoveryAttestationMatches E json digest) r binding
    profile

/-!
## 復旧の証明

準備の権限と能力の写しを束ねた証明の文面の発行と、遠隔の実行者の証明の照合。機械の上の証明（版 2）の照合は
`recoveryAttestationMatches` にある。
-/

def recoveryCapabilityField : String := "scheduled recovery capability profile"

inductive AttestationFailure where
  | invalid (error : StateValueError)
  /-- 権限の文面を読めない。 -/
  | panicked
deriving DecidableEq, Repr

def validateRecoveryCapabilityProfile (E : Env) (canonicalJson : String) : Except AttestationFailure Json.Value :=
  if E.capabilityProfileParses canonicalJson then
    match Json.parse canonicalJson with
    | some profile => .ok profile
    | none => .error (.invalid (.invalidJson recoveryCapabilityField))
  else .error (.invalid (.invalidJson recoveryCapabilityField))

namespace ScheduledPrepareAuthority

def authorityValue (a : ScheduledPrepareAuthority) : Except AttestationFailure Json.Value :=
  match Json.parse a.canonicalJson with
  | some authority => .ok authority
  | none => .error .panicked

def recoveryEnvelope (a : ScheduledPrepareAuthority) (authority profile : Json.Value) : Json.Value :=
  .object [("authority", authority), ("authority_digest", .str a.digest), ("capability_profile", profile),
    ("execution_surface", executionSurface), ("schema_version", .int 2)]

def remoteRecoveryEnvelope (a : ScheduledPrepareAuthority) (authority profile : Json.Value)
    (deploymentProfileDigest : String) (deploymentEpoch : UInt64) : Json.Value :=
  .object [("authority", authority), ("authority_digest", .str a.digest), ("capability_profile", profile),
    ("deployment_epoch", .int deploymentEpoch.toNat), ("deployment_profile_digest", .str deploymentProfileDigest),
    ("execution_surface", executionSurface), ("schema_version", .int 3)]

def recoveryAttestationJson (E : Env) (a : ScheduledPrepareAuthority) (capabilityProfileJson : String) :
    Except AttestationFailure String := do
  let profile ← validateRecoveryCapabilityProfile E capabilityProfileJson
  let authority ← a.authorityValue
  return (a.recoveryEnvelope authority profile).render

def remoteRecoveryAttestationJson (E : Env) (a : ScheduledPrepareAuthority) (capabilityProfileJson : String)
    (deploymentProfileDigest : String) (deploymentEpoch : UInt64) : Except AttestationFailure String := do
  let profile ← validateRecoveryCapabilityProfile E capabilityProfileJson
  if isLowercaseSha256 deploymentProfileDigest = false then
    throw (.invalid (.invalidSha256 "scheduled deployment profile digest"))
  if deploymentEpoch = 0 then throw (.invalid (.invalidValue "scheduled deployment epoch"))
  let authority ← a.authorityValue
  return (a.remoteRecoveryEnvelope authority profile deploymentProfileDigest deploymentEpoch).render

def remoteRecoveryAttestationMatches (E : Env) (a : ScheduledPrepareAuthority) (canonicalJson digest : String)
    (deploymentProfileDigest : String) (deploymentEpoch : UInt64) : Bool :=
  match Json.parse canonicalJson with
  | none => false
  | some profile => AttestedCapabilityProfile.memberCount profile == some 7 && a.attests E 3 canonicalJson digest profile
    && (profile.get "deployment_profile_digest").bind Json.Value.asStr == some deploymentProfileDigest
    && (profile.get "deployment_epoch").bind Json.Value.asU64 == some deploymentEpoch.toNat
    && 0 < deploymentEpoch && isLowercaseSha256 deploymentProfileDigest
    && ((profile.get "execution_surface").map (executionSurface.beq ·)).getD false
    && ((profile.get "capability_profile").map fun v => E.capabilityProfileParses v.render).getD false

end ScheduledPrepareAuthority

end Codeoff.State
