import Mathlib.Algebra.Order.Ring.Int
import Mathlib.Data.Int.Order.Basic

/-!
# 運用方針

`SchedulerOperationalPolicy` とその検査、再試行の間隔と期限の計算。検査は項目を順に見て、最初に反した
項目の名と理由を返す。
-/

/-!
## 64 ビット整数の検査つき算術

時刻と通し番号は `Int` で表し、あふれを検査する演算（checked_add など）だけが 64 ビットの範囲を見る。
-/

namespace Codeoff.Core

def i64Min : Int := -9223372036854775808

def i64Max : Int := 9223372036854775807

def inI64 (x : Int) : Bool := i64Min ≤ x && x ≤ i64Max

def checked (x : Int) : Option Int := if inI64 x then some x else none

def checkedAdd (a b : Int) : Option Int := checked (a + b)

def checkedSub (a b : Int) : Option Int := checked (a - b)

def checkedMul (a b : Int) : Option Int := checked (a * b)

/-- 0 での除算と、あふれる除算は `none` になる。商は 0 の方へ丸める。 -/
def checkedDiv (a b : Int) : Option Int := if b = 0 then none else checked (a.tdiv b)

def u32Max : Nat := 4294967295

theorem inI64_iff {x : Int} : inI64 x = true ↔ i64Min ≤ x ∧ x ≤ i64Max := by
  simp [inI64]

theorem checked_eq_some {x y : Int} : checked x = some y ↔ inI64 x = true ∧ x = y := by
  unfold checked
  split
  · rename_i h
    simp [h]
  · rename_i h
    simp [h]

theorem checkedAdd_eq_some {a b c : Int} :
    checkedAdd a b = some c ↔ inI64 (a + b) = true ∧ a + b = c := checked_eq_some

theorem checkedSub_eq_some {a b c : Int} :
    checkedSub a b = some c ↔ inI64 (a - b) = true ∧ a - b = c := checked_eq_some

def schedulerOperationalPolicyVersion : Nat := 1

structure SchedulerOperationalPolicy where
  schemaVersion : Nat := schedulerOperationalPolicyVersion
  recoveryBatchLimit : Nat := 32
  materializationBatchLimit : Nat := 32
  occurrenceSearchLimit : Nat := 100000
  tickIntervalMs : Nat := 250
  errorBackoffMs : Nat := 1000
  minimumScheduleCadenceSeconds : Nat := 60
  maxActiveJobs : Nat := 1000
  maxActiveJobsPerOwner : Nat := 100
  maxPromptBytes : Nat := 65536
  maxResultBytes : Nat := 65536
  maxSummaryBytes : Nat := 32768
  runLeaseSeconds : Nat := 60
  runHeartbeatIntervalMs : Nat := 15000
  runTimeoutSeconds : Nat := 1800
  runPrepareGraceMs : Nat := 5000
  runCancellationGraceMs : Nat := 5000
  runFinalizationGraceMs : Nat := 5000
  runRetryBaseSeconds : Nat := 30
  runRetryMaxSeconds : Nat := 300
  runDeadlineSeconds : Nat := 3600
  runMaxAttempts : Nat := 3
  deliveryTickIntervalMs : Nat := 250
  deliveryBatchLimit : Nat := 32
  deliveryLeaseSeconds : Nat := 60
  deliveryHeartbeatIntervalMs : Nat := 10000
  deliveryReadinessTimeoutSeconds : Nat := 10
  deliverySendTimeoutSeconds : Nat := 30
  deliveryFinalizationTimeoutSeconds : Nat := 5
  deliveryMaxAttempts : Nat := 5
  deliveryRetryBaseSeconds : Nat := 5
  deliveryRetryMaxSeconds : Nat := 300
  deliveryRetryAfterMaxSeconds : Nat := 3600
  deliveryDeadlineSeconds : Nat := 3600
  deliveryReadinessRetryBaseSeconds : Nat := 1
  deliveryReadinessRetryMaxSeconds : Nat := 60
deriving DecidableEq, Repr

structure SchedulerPolicyValidationError where
  field : String
  reason : String
deriving DecidableEq, Repr

def validateEq (field : String) (value expected : Nat) (reason : String) :
    Except SchedulerPolicyValidationError Unit :=
  if value ≠ expected then .error ⟨field, reason⟩ else .ok ()

def validateRange (field : String) (value minimum maximum : Nat) :
    Except SchedulerPolicyValidationError Unit :=
  if value < minimum ∨ value > maximum then .error ⟨field, "is outside the supported range"⟩
  else .ok ()

def validateHeartbeat (field : String) (heartbeatMs leaseSeconds : Nat) :
    Except SchedulerPolicyValidationError Unit :=
  if heartbeatMs = 0 ∨ heartbeatMs * 3 ≥ leaseSeconds * 1000 then
    .error ⟨field, "must be positive and strictly shorter than one third of its lease"⟩
  else .ok ()

def validateBelow (field : String) (holds : Bool) (reason : String) :
    Except SchedulerPolicyValidationError Unit :=
  if holds then .ok () else .error ⟨field, reason⟩

namespace SchedulerOperationalPolicy

def validateRunPolicy (p : SchedulerOperationalPolicy) :
    Except SchedulerPolicyValidationError Unit := do
  validateRange "run_lease_seconds" p.runLeaseSeconds 5 3600
  validateHeartbeat "run_heartbeat_interval_ms" p.runHeartbeatIntervalMs p.runLeaseSeconds
  validateBelow "tick_interval_ms" (p.tickIntervalMs < p.runLeaseSeconds * 1000)
    "must be shorter than run_lease_seconds"
  validateRange "run_timeout_seconds" p.runTimeoutSeconds 1 21600
  validateRange "run_prepare_grace_ms" p.runPrepareGraceMs 1 60000
  validateRange "run_cancellation_grace_ms" p.runCancellationGraceMs 3 60000
  validateRange "run_finalization_grace_ms" p.runFinalizationGraceMs 1 60000
  validateRange "run_retry_base_seconds" p.runRetryBaseSeconds 1 86400
  validateRange "run_retry_max_seconds" p.runRetryMaxSeconds p.runRetryBaseSeconds 86400
  validateRange "run_deadline_seconds" p.runDeadlineSeconds 1 604800
  validateRange "run_max_attempts" p.runMaxAttempts 1 20
  validateBelow "run_deadline_seconds"
    (p.runTimeoutSeconds * 1000 + p.runPrepareGraceMs + p.runCancellationGraceMs
      + p.runFinalizationGraceMs ≤ p.runDeadlineSeconds * 1000)
    "must cover run timeout and all completion grace intervals"

def validateDeliveryPolicy (p : SchedulerOperationalPolicy) :
    Except SchedulerPolicyValidationError Unit := do
  validateRange "delivery_tick_interval_ms" p.deliveryTickIntervalMs 10 60000
  validateRange "delivery_batch_limit" p.deliveryBatchLimit 1 1024
  validateRange "delivery_lease_seconds" p.deliveryLeaseSeconds 5 3600
  validateHeartbeat "delivery_heartbeat_interval_ms" p.deliveryHeartbeatIntervalMs
    p.deliveryLeaseSeconds
  validateBelow "delivery_tick_interval_ms" (p.deliveryTickIntervalMs < p.deliveryLeaseSeconds * 1000)
    "must be shorter than delivery_lease_seconds"
  validateRange "delivery_readiness_timeout_seconds" p.deliveryReadinessTimeoutSeconds 1 300
  validateRange "delivery_send_timeout_seconds" p.deliverySendTimeoutSeconds 1 3600
  validateRange "delivery_finalization_timeout_seconds" p.deliveryFinalizationTimeoutSeconds 1 60
  validateRange "delivery_max_attempts" p.deliveryMaxAttempts 1 20
  validateRange "delivery_retry_base_seconds" p.deliveryRetryBaseSeconds 1 3600
  validateRange "delivery_retry_max_seconds" p.deliveryRetryMaxSeconds p.deliveryRetryBaseSeconds 86400
  validateRange "delivery_retry_after_max_seconds" p.deliveryRetryAfterMaxSeconds 1
    p.deliveryDeadlineSeconds
  validateRange "delivery_deadline_seconds" p.deliveryDeadlineSeconds 1 604800
  validateRange "delivery_readiness_retry_base_seconds" p.deliveryReadinessRetryBaseSeconds 1 3600
  validateRange "delivery_readiness_retry_max_seconds" p.deliveryReadinessRetryMaxSeconds
    p.deliveryReadinessRetryBaseSeconds 3600
  validateBelow "delivery_deadline_seconds"
    (min (p.deliverySendTimeoutSeconds + p.deliveryFinalizationTimeoutSeconds) u32Max
      ≤ p.deliveryDeadlineSeconds)
    "must cover delivery send and finalization timeouts"

def validate (p : SchedulerOperationalPolicy) : Except SchedulerPolicyValidationError Unit := do
  validateEq "schema_version" p.schemaVersion schedulerOperationalPolicyVersion
    "must be the supported scheduler policy schema version"
  validateRange "recovery_batch_limit" p.recoveryBatchLimit 1 1024
  validateRange "materialization_batch_limit" p.materializationBatchLimit 1 1024
  validateRange "occurrence_search_limit" p.occurrenceSearchLimit 1 1000000
  validateRange "tick_interval_ms" p.tickIntervalMs 10 60000
  validateRange "error_backoff_ms" p.errorBackoffMs 10 300000
  validateRange "minimum_schedule_cadence_seconds" p.minimumScheduleCadenceSeconds 1 86400
  validateRange "max_active_jobs" p.maxActiveJobs 1 1000000
  validateRange "max_active_jobs_per_owner" p.maxActiveJobsPerOwner 1 p.maxActiveJobs
  validateRange "max_prompt_bytes" p.maxPromptBytes 1 262144
  validateRange "max_result_bytes" p.maxResultBytes 1 262144
  validateRange "max_summary_bytes" p.maxSummaryBytes 1 p.maxResultBytes
  p.validateRunPolicy
  p.validateDeliveryPolicy

end SchedulerOperationalPolicy

/-- 検査を通った方針。保存される方針の写しは、すべてこれである。 -/
abbrev Policy := { p : SchedulerOperationalPolicy // p.validate = .ok () }

def utf8Bytes (s : String) : List UInt8 := s.toUTF8.data.toList

def byteLen (s : String) : Nat := s.utf8ByteSize

def stableHash (value : String) : Nat :=
  (utf8Bytes value).foldl (fun h b => ((h ^^^ b.toNat) * 0x100000001b3) % 2 ^ 64) 0xcbf29ce484222325

/-- `base` を左へずらした 32 ビットの値。あふれた上位の桁は失われる。 -/
def boundedExponentialDelay (base cap : Nat) (identity : String) (attempt : Int) : Nat :=
  let exponent := (max 0 (min (attempt - 1) 31)).toNat
  let exponential := min ((base <<< exponent) % 2 ^ 32) cap
  let jitterBound := max (exponential / 4) 1
  let jitter := stableHash identity % jitterBound
  min (min (exponential + jitter) u32Max) cap

def canRetry (attempt : Int) (maxAttempts : Nat) (nextAt absoluteDeadline : Int) : Bool :=
  attempt < maxAttempts && nextAt < absoluteDeadline

namespace SchedulerOperationalPolicy

def runRetryDelaySeconds (p : SchedulerOperationalPolicy) (runId : String) (attempt : Int) : Nat :=
  boundedExponentialDelay p.runRetryBaseSeconds p.runRetryMaxSeconds runId attempt

def deliveryRetryDelaySeconds (p : SchedulerOperationalPolicy) (deliveryId : String) (attempt : Int) :
    Nat :=
  boundedExponentialDelay p.deliveryRetryBaseSeconds p.deliveryRetryMaxSeconds deliveryId attempt

def runDeadlineAt (p : SchedulerOperationalPolicy) (scheduledFor : Int) : Option Int :=
  checkedAdd scheduledFor p.runDeadlineSeconds

def deliveryDeadlineAt (p : SchedulerOperationalPolicy) (payloadCreatedAt : Int) : Option Int :=
  checkedAdd payloadCreatedAt p.deliveryDeadlineSeconds

def runRetryAt (p : SchedulerOperationalPolicy) (runId : String) (attempt scheduledFor now : Int) :
    Option Int := do
  let next ← checkedAdd now (p.runRetryDelaySeconds runId attempt)
  let deadline ← p.runDeadlineAt scheduledFor
  if canRetry attempt p.runMaxAttempts next deadline then some next else none

def deliveryRetryAt (p : SchedulerOperationalPolicy) (deliveryId : String)
    (attempt payloadCreatedAt now : Int) (retryAfterSeconds : Option Nat) : Option Int := do
  let policyDelay := p.deliveryRetryDelaySeconds deliveryId attempt
  let retryAfter := match retryAfterSeconds with
    | none => 0
    | some seconds => max 1 (min seconds p.deliveryRetryAfterMaxSeconds)
  let next ← checkedAdd now (max policyDelay retryAfter)
  let deadline ← p.deliveryDeadlineAt payloadCreatedAt
  if canRetry attempt p.deliveryMaxAttempts next deadline then some next else none

def deliveryCanRetryAt (p : SchedulerOperationalPolicy) (attempt payloadCreatedAt nextAt : Int) :
    Bool :=
  match p.deliveryDeadlineAt payloadCreatedAt with
  | none => false
  | some deadline => canRetry attempt p.deliveryMaxAttempts nextAt deadline

end SchedulerOperationalPolicy

end Codeoff.Core
