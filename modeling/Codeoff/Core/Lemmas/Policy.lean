import Codeoff.Core.Policy
import Codeoff.Relational.Transaction

/-!
# 検査を通った方針の範囲

`validate` の各項目から、保存領域と実行の補題が使う上下限を取り出す。
-/

namespace Codeoff.Core

open Codeoff.Relational

theorem validateRange_ok {field : String} {value minimum maximum : Nat} {u : Unit} :
    validateRange field value minimum maximum = .ok u ↔ minimum ≤ value ∧ value ≤ maximum := by
  unfold validateRange
  split
  · simp
    omega
  · simp
    omega

theorem validateHeartbeat_ok {field : String} {heartbeatMs leaseSeconds : Nat} {u : Unit} :
    validateHeartbeat field heartbeatMs leaseSeconds = .ok u ↔
      0 < heartbeatMs ∧ heartbeatMs * 3 < leaseSeconds * 1000 := by
  unfold validateHeartbeat
  split
  · simp
    omega
  · simp
    omega

structure RunBounds (p : SchedulerOperationalPolicy) : Prop where
  lease : 5 ≤ p.runLeaseSeconds ∧ p.runLeaseSeconds ≤ 3600
  heartbeat : 0 < p.runHeartbeatIntervalMs ∧ p.runHeartbeatIntervalMs * 3 < p.runLeaseSeconds * 1000
  retryBase : 1 ≤ p.runRetryBaseSeconds ∧ p.runRetryBaseSeconds ≤ 86400
  retryMax : p.runRetryBaseSeconds ≤ p.runRetryMaxSeconds ∧ p.runRetryMaxSeconds ≤ 86400
  deadline : 1 ≤ p.runDeadlineSeconds ∧ p.runDeadlineSeconds ≤ 604800
  attempts : 1 ≤ p.runMaxAttempts ∧ p.runMaxAttempts ≤ 20

structure DeliveryBounds (p : SchedulerOperationalPolicy) : Prop where
  lease : 5 ≤ p.deliveryLeaseSeconds ∧ p.deliveryLeaseSeconds ≤ 3600
  heartbeat : 0 < p.deliveryHeartbeatIntervalMs ∧
    p.deliveryHeartbeatIntervalMs * 3 < p.deliveryLeaseSeconds * 1000
  attempts : 1 ≤ p.deliveryMaxAttempts ∧ p.deliveryMaxAttempts ≤ 20
  deadline : 1 ≤ p.deliveryDeadlineSeconds ∧ p.deliveryDeadlineSeconds ≤ 604800

namespace SchedulerOperationalPolicy

variable {p : SchedulerOperationalPolicy} {u : Unit}

/-- 検査を通った方針では、実行についての値がどれも範囲にある。 -/
theorem validateRunPolicy_ok (h : p.validateRunPolicy = .ok u) : RunBounds p := by
  unfold validateRunPolicy at h
  obtain ⟨_, hlease, h⟩ := except_bind_ok.mp h
  obtain ⟨_, hheartbeat, h⟩ := except_bind_ok.mp h
  obtain ⟨_, _, h⟩ := except_bind_ok.mp h
  obtain ⟨_, _, h⟩ := except_bind_ok.mp h
  obtain ⟨_, _, h⟩ := except_bind_ok.mp h
  obtain ⟨_, _, h⟩ := except_bind_ok.mp h
  obtain ⟨_, _, h⟩ := except_bind_ok.mp h
  obtain ⟨_, hbase, h⟩ := except_bind_ok.mp h
  obtain ⟨_, hmax, h⟩ := except_bind_ok.mp h
  obtain ⟨_, hdeadline, h⟩ := except_bind_ok.mp h
  obtain ⟨_, hattempts, _⟩ := except_bind_ok.mp h
  exact ⟨validateRange_ok.mp hlease, validateHeartbeat_ok.mp hheartbeat, validateRange_ok.mp hbase,
    validateRange_ok.mp hmax, validateRange_ok.mp hdeadline, validateRange_ok.mp hattempts⟩

/-- 検査を通った方針では、配送についての値がどれも範囲にある。 -/
theorem validateDeliveryPolicy_ok (h : p.validateDeliveryPolicy = .ok u) : DeliveryBounds p := by
  unfold validateDeliveryPolicy at h
  obtain ⟨_, _, h⟩ := except_bind_ok.mp h
  obtain ⟨_, _, h⟩ := except_bind_ok.mp h
  obtain ⟨_, hlease, h⟩ := except_bind_ok.mp h
  obtain ⟨_, hheartbeat, h⟩ := except_bind_ok.mp h
  obtain ⟨_, _, h⟩ := except_bind_ok.mp h
  obtain ⟨_, _, h⟩ := except_bind_ok.mp h
  obtain ⟨_, _, h⟩ := except_bind_ok.mp h
  obtain ⟨_, _, h⟩ := except_bind_ok.mp h
  obtain ⟨_, hattempts, h⟩ := except_bind_ok.mp h
  obtain ⟨_, _, h⟩ := except_bind_ok.mp h
  obtain ⟨_, _, h⟩ := except_bind_ok.mp h
  obtain ⟨_, _, h⟩ := except_bind_ok.mp h
  obtain ⟨_, hdeadline, _⟩ := except_bind_ok.mp h
  exact ⟨validateRange_ok.mp hlease, validateHeartbeat_ok.mp hheartbeat, validateRange_ok.mp hattempts,
    validateRange_ok.mp hdeadline⟩

end SchedulerOperationalPolicy

theorem Policy.parts (p : Policy) :
    p.1.validateRunPolicy = .ok () ∧ p.1.validateDeliveryPolicy = .ok () ∧
      1 ≤ p.1.occurrenceSearchLimit := by
  have h := p.2
  unfold SchedulerOperationalPolicy.validate at h
  obtain ⟨_, _, h⟩ := except_bind_ok.mp h
  obtain ⟨_, _, h⟩ := except_bind_ok.mp h
  obtain ⟨_, _, h⟩ := except_bind_ok.mp h
  obtain ⟨_, hsearch, h⟩ := except_bind_ok.mp h
  obtain ⟨_, _, h⟩ := except_bind_ok.mp h
  obtain ⟨_, _, h⟩ := except_bind_ok.mp h
  obtain ⟨_, _, h⟩ := except_bind_ok.mp h
  obtain ⟨_, _, h⟩ := except_bind_ok.mp h
  obtain ⟨_, _, h⟩ := except_bind_ok.mp h
  obtain ⟨_, _, h⟩ := except_bind_ok.mp h
  obtain ⟨_, _, h⟩ := except_bind_ok.mp h
  obtain ⟨_, _, h⟩ := except_bind_ok.mp h
  obtain ⟨_, hrun, hdelivery⟩ := except_bind_ok.mp h
  exact ⟨hrun, hdelivery, (validateRange_ok.mp hsearch).1⟩

theorem Policy.runBounds (p : Policy) : RunBounds p.1 :=
  SchedulerOperationalPolicy.validateRunPolicy_ok p.parts.1

theorem Policy.deliveryBounds (p : Policy) : DeliveryBounds p.1 :=
  SchedulerOperationalPolicy.validateDeliveryPolicy_ok p.parts.2.1

theorem checkedAdd_none_or {a b : Int} (ha : 0 ≤ a) (hb : 0 ≤ b) :
    (checkedAdd a b = none ∧ i64Max < a + b) ∨ (checkedAdd a b = some (a + b) ∧ a + b ≤ i64Max) := by
  by_cases h : a + b ≤ i64Max
  · refine .inr ⟨checkedAdd_eq_some.mpr ⟨inI64_iff.mpr ⟨?_, h⟩, rfl⟩, h⟩
    unfold i64Min
    omega
  · refine .inl ⟨?_, by omega⟩
    simp [checkedAdd, checked, inI64, h]

end Codeoff.Core
