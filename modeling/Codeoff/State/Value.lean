import Codeoff.Json.Value
import Codeoff.Relational.Table
import Codeoff.State.Schedule

/-!
# 保存する値

検査を通った値だけが作れる型（本体の `new` が検査する型）は、検査の結果を証明として持つ。誤りの種類
`StateError` と、要求の型もここに置く。
-/

namespace Codeoff.State

open Codeoff.Core Codeoff.Relational

def maxSnapshotBytes : Nat := 256 * 1024

def maxContextBytes : Nat := 64 * 1024

def maxDeliveryTargets : Nat := 32

namespace StateValueError

def message : StateValueError → String
  | .empty field => field ++ " must not be empty"
  | .tooLarge field => field ++ " exceeds its storage bound"
  | .invalidJson field => field ++ " must be valid JSON"
  | .nonCanonicalJson field => field ++ " must use canonical JSON encoding"
  | .forbiddenDurableData field => field ++ " contains forbidden durable data"
  | .invalidSha256 field => field ++ " must be lowercase sha256"
  | .invalidValue field => field ++ " is invalid"
  | .invalidVersion => "version must be positive"
  | .onceNotFuture => "once timestamp must be strictly later than now"
  | .invalidInterval => "fixed interval must be positive"
  | .cadenceTooShort => "schedule cadence is shorter than the configured minimum"
  | .cadenceProofExhausted => "cron cadence proof exhausted its configured occurrence bound"
  | .cadenceProofUnavailable => "cron cadence cannot be proven for this timezone and minimum"
  | .invalidCronFieldCount => "cron must contain exactly five fields"
  | .invalidCron => "invalid cron expression"
  | .invalidTimezone => "invalid IANA timezone"

end StateValueError

def OccurrenceError.message : OccurrenceError → String
  | .noFutureOccurrence => "schedule has no future occurrence"
  | .arithmeticOverflow => "occurrence arithmetic overflowed"
  | .searchExhausted => "bounded occurrence search was exhausted"

/-- 操作が返す誤り。`scheduler` は SQLite が文を拒んだときのもの。 -/
inductive StateError where
  | invalidSchedulerState (reason : String)
  | schedulerGenerationConflict
  | scheduledRunLostLease
  | scheduledRunCounterExhausted
  | scheduledExecutorAdmissionUnavailable
  | scheduledActiveJobLimitExceeded (scope : String)
  | scheduledRunCompletionConflict
  | scheduledDeliveryLostLease
  | scheduledDeliveryCounterExhausted
  | scheduledDeliveryBaselineConflict
  | scheduledDeliveryPayloadConflict
  | scheduledDeliveryRetentionConflict
  | scheduledRunRetentionConflict
  | scheduledOnceExpired
  | scheduler (source : Violation)
deriving DecidableEq, Repr

def invalidValue {α : Type} : Except StateValueError α → Except StateError α
  | .ok a => .ok a
  | .error e => .error (.invalidSchedulerState e.message)

def invalidOccurrence {α : Type} : Except OccurrenceError α → Except StateError α
  | .ok a => .ok a
  | .error e => .error (.invalidSchedulerState e.message)

def validateText (field value : String) : Except StateValueError Unit :=
  if value = "" then .error (.empty field)
  else if byteLen value > maxContextBytes then .error (.tooLarge field)
  else .ok ()

def validateLowercaseSha256 (field value : String) : Except StateValueError Unit :=
  if isLowercaseSha256 value then .ok () else .error (.invalidSha256 field)

def forbiddenDurableKeys : List String :=
  ["secret", "token", "password", "private_key", "auth", "authorization", "credentials", "api_key",
    "client_secret", "access_token", "refresh_token", "event_id", "dedupe_key", "origin", "slack_event",
    "live_event"]

def forbiddenDurableSuffixes : List String :=
  ["_secret", "_token", "_password", "_private_key", "_api_key"]

/-- 前後の空白を除き、ASCII を小文字にし、`-` を `_` にして比べる。 -/
def isForbiddenDurableKey (key : String) : Bool :=
  let normalized := (trim key).toList.map fun c => if c = '-' then '_' else c.toLower
  forbiddenDurableKeys.any (fun k => k.toList == normalized)
    || forbiddenDurableSuffixes.any fun suffix => suffix.toList.isSuffixOf normalized

mutual
def containsForbiddenDurableKey : Json.Value → Bool
  | .obj ms => membersForbidden ms
  | .arr vs => valuesForbidden vs
  | _ => false

def membersForbidden : List (String × Json.Value) → Bool
  | [] => false
  | (k, v) :: ms => isForbiddenDurableKey k || containsForbiddenDurableKey v || membersForbidden ms

def valuesForbidden : List Json.Value → Bool
  | [] => false
  | v :: vs => containsForbiddenDurableKey v || valuesForbidden vs
end

def canonicalizeSnapshot (version : Nat) (field json : String) : Except StateValueError String :=
  if version = 0 then .error .invalidVersion
  else if byteLen json > maxSnapshotBytes then .error (.tooLarge field)
  else
    match Json.parse json with
    | none => .error (.invalidJson field)
    | some value =>
      if containsForbiddenDurableKey value then .error (.forbiddenDurableData field)
      else if byteLen value.render > maxSnapshotBytes then .error (.tooLarge field)
      else .ok value.render

def validateCanonicalSnapshot (version : Nat) (field json : String) : Except StateValueError Unit :=
  match canonicalizeSnapshot version field json with
  | .error e => .error e
  | .ok canonical => if canonical = json then .ok () else .error (.nonCanonicalJson field)

structure PrincipalKey where
  kind : String
  provider : String
  tenant : String
  subject : String
deriving DecidableEq, Repr

def PrincipalKey.validate (p : PrincipalKey) : Except StateValueError Unit := do
  validateText "principal.kind" p.kind
  validateText "principal.provider" p.provider
  validateText "principal.tenant" p.tenant
  validateText "principal.subject" p.subject

structure ScheduledJobDefinition where
  version : Nat
  canonicalJson : String
deriving DecidableEq, Repr

def ScheduledJobDefinition.validate (d : ScheduledJobDefinition) : Except StateValueError Unit :=
  validateCanonicalSnapshot d.version "definition" d.canonicalJson

structure CapabilityProfileSnapshot where
  schemaVersion : Nat
  digest : String
  canonicalJson : String
deriving DecidableEq, Repr

def CapabilityProfileSnapshot.validate (c : CapabilityProfileSnapshot) :
    Except StateValueError Unit := do
  validateText "capability profile digest" c.digest
  validateCanonicalSnapshot c.schemaVersion "capability profile" c.canonicalJson

structure DeliveryTargetSnapshot where
  targetId : String
  provider : String
  connector : String
  tenant : String
  kind : String
  addressJson : String
  resolverVersion : UInt32
  resolverDigest : String
  identityDigest : String
deriving DecidableEq, Repr

def DeliveryTargetSnapshot.validate (t : DeliveryTargetSnapshot) : Except StateValueError Unit := do
  validateText "target id" t.targetId
  validateText "target provider" t.provider
  validateText "target connector" t.connector
  validateText "target tenant" t.tenant
  validateText "target kind" t.kind
  validateText "resolver digest" t.resolverDigest
  validateLowercaseSha256 "target identity digest" t.identityDigest
  validateCanonicalSnapshot t.resolverVersion.toNat "target address" t.addressJson

structure AttestedExecutionProfileSnapshot where
  schemaVersion : Nat
  canonicalJson : String
  hashAlgorithm : String
  digest : String
deriving DecidableEq, Repr

def AttestedExecutionProfileSnapshot.validate (p : AttestedExecutionProfileSnapshot) :
    Except StateValueError Unit := do
  validateCanonicalSnapshot p.schemaVersion "attested execution profile" p.canonicalJson
  validateText "attested profile hash algorithm" p.hashAlgorithm
  validateText "attested profile digest" p.digest

structure ScheduledRunResult where
  summary : String
  previousSuccessContext : String
deriving DecidableEq, Repr

def ScheduledRunResult.new (summary previousSuccessContext : String) :
    Except StateValueError ScheduledRunResult := do
  validateText "scheduled result summary" summary
  if byteLen previousSuccessContext > maxContextBytes then
    throw (.tooLarge "scheduled result previous success context")
  return { summary, previousSuccessContext }

/-! ## 要求 -/

structure CreateScheduledJob where
  jobId : String
  scheduleId : String
  definition : ScheduledJobDefinition
  creator : PrincipalKey
  owner : PrincipalKey
  schedule : ScheduleSpec
  targets : List DeliveryTargetSnapshot
  capability : CapabilityProfileSnapshot
  now : Int
deriving DecidableEq

structure UpdateScheduledJob where
  jobId : String
  expectedGeneration : Int
  definition : ScheduledJobDefinition
  schedule : ScheduleSpec
  targets : List DeliveryTargetSnapshot
  capability : CapabilityProfileSnapshot
  now : Int
deriving DecidableEq

inductive ScheduledJobMutation where
  | create (request : CreateScheduledJob)
  | update (request : UpdateScheduledJob)
  | pause (jobId : String) (expectedGeneration now : Int)
  | resume (jobId : String) (expectedGeneration now : Int)
  | delete (jobId : String) (expectedGeneration now : Int)
deriving DecidableEq

namespace ScheduledJobMutation

def operation : ScheduledJobMutation → String
  | .create _ => "create"
  | .update _ => "update"
  | .pause .. => "pause"
  | .resume .. => "resume"
  | .delete .. => "delete"

def now : ScheduledJobMutation → Int
  | .create request => request.now
  | .update request => request.now
  | .pause _ _ now => now
  | .resume _ _ now => now
  | .delete _ _ now => now

def jobId : ScheduledJobMutation → String
  | .create request => request.jobId
  | .update request => request.jobId
  | .pause jobId _ _ => jobId
  | .resume jobId _ _ => jobId
  | .delete jobId _ _ => jobId

def withNow (m : ScheduledJobMutation) (now : Int) : ScheduledJobMutation :=
  match m with
  | .create request => .create { request with now }
  | .update request => .update { request with now }
  | .pause jobId generation _ => .pause jobId generation now
  | .resume jobId generation _ => .resume jobId generation now
  | .delete jobId generation _ => .delete jobId generation now

end ScheduledJobMutation

structure ScheduleMutationIdempotency where
  principal : PrincipalKey
  requestId : String
  digestAlgorithm : String
  requestDigest : String
  responseJson : String
deriving DecidableEq

structure ScheduleMutationAudit where
  auditId : String
  principal : Option PrincipalKey
  operation : String
  jobId : Option String
  requestId : String
  outcome : String
  decision : String
  reason : Option String
  errorCode : Option String
  latencyMs : Int
  correlationId : String
  occurredAt : Int
deriving DecidableEq

inductive TransactionalMutationOutcome where
  | applied (response : String)
  | replay (response : String)
  | inProgress
  | conflict
deriving DecidableEq, Repr

structure RunLeaseBinding where
  runId : String
  jobId : String
  attempt : Int
  fence : Int
  leaseOwner : String
deriving DecidableEq, Repr

structure SchedulerOperatorRequest where
  principal : PrincipalKey
  requestId : String
  requestDigest : String
  occurredAt : Int
deriving DecidableEq

inductive SchedulerOperatorMutationOutcome where
  | applied
  | replay
  | conflict
deriving DecidableEq, Repr

end Codeoff.State
