import Mathlib.Tactic.IntervalCases
import Mathlib.Tactic.Ring
import Codeoff.Core.Lemmas.Policy

/-!
# 再試行の間隔の範囲

実行の基本の秒数は 86400 まで、試みは 20 までなので、ずらした値は 32 ビットからあふれうる。
-/

/-!
## 再試行の間隔

間隔は、基本の秒数を左へずらした値の下位 32 ビットに、識別子から決まる揺らぎを加え、上限で切ったものである。
-/

namespace Codeoff.Core

def jittered (identity : String) (value : Nat) : Nat :=
  value + stableHash identity % max (value / 4) 1

theorem le_jittered (identity : String) (value : Nat) : value ≤ jittered identity value :=
  Nat.le_add_right _ _

theorem jittered_le (identity : String) (value : Nat) : jittered identity value ≤ value + value / 4 := by
  have h : stableHash identity % max (value / 4) 1 < max (value / 4) 1 := Nat.mod_lt _ (by omega)
  simp only [jittered]
  omega

section Delay

variable {base cap k l : Nat} {identity : String} {attempt : Int}

theorem boundedExponentialDelay_eq (hcap : cap ≤ u32Max) (hlow : 1 ≤ attempt) (hhigh : attempt ≤ 32) :
    boundedExponentialDelay base cap identity attempt =
      min (jittered identity (min (base * 2 ^ (attempt - 1).toNat % 2 ^ 32) cap)) cap := by
  have hexponent : (max 0 (min (attempt - 1) 31)).toNat = (attempt - 1).toNat := by omega
  simp only [boundedExponentialDelay, hexponent, Nat.shiftLeft_eq, jittered]
  omega

theorem delay_capped {value : Nat} (h : cap ≤ jittered identity value) :
    min (jittered identity (min value cap)) cap = cap := by
  by_cases hvalue : value ≤ cap
  · rw [Nat.min_eq_left hvalue]
    omega
  · have := le_jittered identity (min value cap)
    omega

/-- ずらした値が 32 ビットに収まる。収まらなければ、残った下位 32 ビットが揺らぎと合わせて上限に届く。 -/
def KeepsBits (base cap : Nat) (identity : String) (k : Nat) : Prop :=
  base * 2 ^ k < 2 ^ 32 ∨ cap ≤ jittered identity (base * 2 ^ k % 2 ^ 32)

theorem KeepsBits.le (hbase : base ≤ cap) (h : KeepsBits base cap identity k) :
    base ≤ min (jittered identity (min (base * 2 ^ k % 2 ^ 32) cap)) cap := by
  rcases h with h | h
  · have hgrows : base ≤ base * 2 ^ k := Nat.le_mul_of_pos_right _ (Nat.two_pow_pos k)
    have := le_jittered identity (min (base * 2 ^ k % 2 ^ 32) cap)
    rw [Nat.mod_eq_of_lt h] at this ⊢
    omega
  · rwa [delay_capped h]

theorem KeepsBits.mono (hkl : k ≤ l) (h : KeepsBits base cap identity l) :
    min (jittered identity (min (base * 2 ^ k % 2 ^ 32) cap)) cap ≤
      min (jittered identity (min (base * 2 ^ l % 2 ^ 32) cap)) cap := by
  rcases hkl.eq_or_lt with rfl | hlt
  · exact le_rfl
  rcases h with h | h
  · -- 一つ先の値は倍以上あり、四分の一までの揺らぎでは追いつけない
    have hdouble : 2 * (base * 2 ^ k) ≤ base * 2 ^ l :=
      calc 2 * (base * 2 ^ k) = base * 2 ^ (k + 1) := by rw [pow_succ]; ring
        _ ≤ base * 2 ^ l := Nat.mul_le_mul_left _ (Nat.pow_le_pow_right (by omega) hlt)
    have hk : base * 2 ^ k < 2 ^ 32 := by omega
    have hupper := jittered_le identity (min (base * 2 ^ k) cap)
    have hlower := le_jittered identity (min (base * 2 ^ l) cap)
    rw [Nat.mod_eq_of_lt h, Nat.mod_eq_of_lt hk]
    omega
  · rw [delay_capped h]
    omega

/-- 検査の範囲の値をあふれさせて上限に届かないのは、下位 32 ビットが 0 になるか、65537 を 16 だけずらして
65536 が残るときである。 -/
theorem lost_bits (hbase : base ≤ 86400) (hcap : cap ≤ 86400) (hk : k ≤ 18) (hlost : 2 ^ 32 ≤ base * 2 ^ k)
    (hshort : base * 2 ^ k % 2 ^ 32 < cap) :
    base * 2 ^ k % 2 ^ 32 = 0 ∨ k = 16 ∧ base = 65537 := by
  have hlarge : 16 ≤ k := by
    by_contra hsmall
    have : base * 2 ^ k ≤ 86400 * 2 ^ 15 :=
      Nat.mul_le_mul hbase (Nat.pow_le_pow_right (by omega) (by omega))
    omega
  interval_cases k <;> omega

theorem not_keepsBits (hpos : 1 ≤ base) (hbase : base ≤ cap) (hcap : cap ≤ 86400) (hk : k ≤ 18)
    (h : ¬ KeepsBits base cap identity k) :
    min (jittered identity (min (base * 2 ^ k % 2 ^ 32) cap)) cap < base ∨
      1 ≤ k ∧ min (jittered identity (min (base * 2 ^ k % 2 ^ 32) cap)) cap <
        min (jittered identity (min (base * 2 ^ (k - 1) % 2 ^ 32) cap)) cap := by
  simp only [KeepsBits, not_or, not_lt, not_le] at h
  obtain ⟨hlost, hshort⟩ := h
  have hvalue := le_jittered identity (base * 2 ^ k % 2 ^ 32)
  rcases lost_bits (Nat.le_trans hbase hcap) hcap hk hlost (Nat.lt_of_le_of_lt hvalue hshort) with hzero | ⟨rfl, rfl⟩
  · rw [hzero]
    simp [jittered, Nat.mod_one]
    omega
  · -- 一つ前の値は上限に達している
    have hbefore : cap ≤ jittered identity (65537 * 2 ^ (16 - 1) % 2 ^ 32) :=
      le_trans (by omega) (le_jittered _ _)
    rw [delay_capped hbefore]
    refine .inr ⟨by omega, ?_⟩
    rw [Nat.min_eq_left (by omega : 65537 * 2 ^ 16 % 2 ^ 32 ≤ cap)]
    omega

end Delay

/-- `delay` が、試みのたびに基本の秒数から上限までの間にあって、減らない。 -/
structure Banded (base cap maxAttempts : Nat) (delay : Int → Nat) : Prop where
  within : ∀ attempt, 1 ≤ attempt → attempt < (maxAttempts : Int) → base ≤ delay attempt ∧ delay attempt ≤ cap
  monotone : ∀ a b, 1 ≤ a → a ≤ b → b < (maxAttempts : Int) → delay a ≤ delay b

/-- 実行と配送の間隔が範囲にあり、次の時刻は今より後で、期限より前である。 -/
structure RetriesInBand (p : SchedulerOperationalPolicy) (identity : String) : Prop where
  run : Banded p.runRetryBaseSeconds p.runRetryMaxSeconds p.runMaxAttempts (p.runRetryDelaySeconds identity)
  delivery : Banded p.deliveryRetryBaseSeconds p.deliveryRetryMaxSeconds p.deliveryMaxAttempts
    (p.deliveryRetryDelaySeconds identity)
  runAt : ∀ attempt scheduledFor now t, 1 ≤ attempt → p.runRetryAt identity attempt scheduledFor now = some t →
    now < t ∧ ∃ deadline, p.runDeadlineAt scheduledFor = some deadline ∧ t < deadline
  deliveryAt : ∀ attempt payloadCreatedAt now retryAfter t, 1 ≤ attempt →
    p.deliveryRetryAt identity attempt payloadCreatedAt now retryAfter = some t →
    now < t ∧ ∃ deadline, p.deliveryDeadlineAt payloadCreatedAt = some deadline ∧ t < deadline

theorem banded_iff {base cap maxAttempts : Nat} {identity : String} (hpos : 1 ≤ base) (hbase : base ≤ cap)
    (hcap : cap ≤ 86400) (hattempts : maxAttempts ≤ 20) :
    Banded base cap maxAttempts (boundedExponentialDelay base cap identity) ↔
      ∀ attempt : Int, 1 ≤ attempt → attempt < maxAttempts →
        KeepsBits base cap identity (attempt - 1).toNat := by
  have hdelay : ∀ attempt : Int, 1 ≤ attempt → attempt < maxAttempts →
      boundedExponentialDelay base cap identity attempt =
        min (jittered identity (min (base * 2 ^ (attempt - 1).toNat % 2 ^ 32) cap)) cap :=
    fun attempt hlow hhigh =>
      boundedExponentialDelay_eq (hcap.trans (by simp [u32Max])) hlow (by omega)
  constructor
  · intro h attempt hlow hhigh
    by_contra hnot
    rcases not_keepsBits hpos hbase hcap (by omega) hnot with hless | ⟨hk, hless⟩
    · have := (h.within attempt hlow hhigh).1
      rw [hdelay attempt hlow hhigh] at this
      omega
    · have hbefore : (attempt - 1).toNat - 1 = (attempt - 1 - 1).toNat := by omega
      have := h.monotone (attempt - 1) attempt (by omega) (by omega) hhigh
      rw [hdelay attempt hlow hhigh, hdelay (attempt - 1) (by omega) (by omega), ← hbefore] at this
      omega
  · intro h
    refine ⟨fun attempt hlow hhigh => ?_, fun a b hlow hab hhigh => ?_⟩
    · rw [hdelay attempt hlow hhigh]
      exact ⟨(h attempt hlow hhigh).le hbase, Nat.min_le_right _ _⟩
    · rw [hdelay a hlow (by omega), hdelay b (by omega) hhigh]
      exact (h b (by omega) hhigh).mono (by omega)

section Policy

variable {p : SchedulerOperationalPolicy} {identity : String} {attempt now t : Int}

theorem canRetry_eq {maxAttempts : Nat} {nextAt deadline : Int} :
    canRetry attempt maxAttempts nextAt deadline = true ↔ attempt < maxAttempts ∧ nextAt < deadline := by
  simp [canRetry]

theorem runRetryAt_some {scheduledFor : Int} (h : p.runRetryAt identity attempt scheduledFor now = some t) :
    t = now + p.runRetryDelaySeconds identity attempt ∧ attempt < p.runMaxAttempts ∧
      ∃ deadline, p.runDeadlineAt scheduledFor = some deadline ∧ t < deadline := by
  simp only [SchedulerOperationalPolicy.runRetryAt, Option.bind_eq_bind, Option.bind_eq_some_iff] at h
  obtain ⟨next, hnext, deadline, hdeadline, h⟩ := h
  obtain ⟨hretry, rfl⟩ := Option.ite_none_right_eq_some.mp h |>.imp_right Option.some.inj
  obtain ⟨hattempt, hbefore⟩ := canRetry_eq.mp hretry
  exact ⟨(checkedAdd_eq_some.mp hnext).2.symm, hattempt, deadline, hdeadline, hbefore⟩

theorem deliveryRetryAt_some {payloadCreatedAt : Int} {retryAfter : Option Nat}
    (h : p.deliveryRetryAt identity attempt payloadCreatedAt now retryAfter = some t) :
    now + p.deliveryRetryDelaySeconds identity attempt ≤ t ∧ attempt < p.deliveryMaxAttempts ∧
      ∃ deadline, p.deliveryDeadlineAt payloadCreatedAt = some deadline ∧ t < deadline := by
  simp only [SchedulerOperationalPolicy.deliveryRetryAt, Option.bind_eq_bind, Option.bind_eq_some_iff] at h
  obtain ⟨next, hnext, deadline, hdeadline, h⟩ := h
  obtain ⟨hretry, rfl⟩ := Option.ite_none_right_eq_some.mp h |>.imp_right Option.some.inj
  obtain ⟨hattempt, hbefore⟩ := canRetry_eq.mp hretry
  have := (checkedAdd_eq_some.mp hnext).2
  exact ⟨by omega, hattempt, deadline, hdeadline, hbefore⟩

end Policy

theorem Policy.deliveryRetryBounds (p : Policy) :
    (1 ≤ p.1.deliveryRetryBaseSeconds ∧ p.1.deliveryRetryBaseSeconds ≤ 3600) ∧
      p.1.deliveryRetryBaseSeconds ≤ p.1.deliveryRetryMaxSeconds ∧ p.1.deliveryRetryMaxSeconds ≤ 86400 := by
  have h := p.parts.2.1
  unfold SchedulerOperationalPolicy.validateDeliveryPolicy at h
  obtain ⟨_, _, h⟩ := Relational.except_bind_ok.mp h
  obtain ⟨_, _, h⟩ := Relational.except_bind_ok.mp h
  obtain ⟨_, _, h⟩ := Relational.except_bind_ok.mp h
  obtain ⟨_, _, h⟩ := Relational.except_bind_ok.mp h
  obtain ⟨_, _, h⟩ := Relational.except_bind_ok.mp h
  obtain ⟨_, _, h⟩ := Relational.except_bind_ok.mp h
  obtain ⟨_, _, h⟩ := Relational.except_bind_ok.mp h
  obtain ⟨_, _, h⟩ := Relational.except_bind_ok.mp h
  obtain ⟨_, _, h⟩ := Relational.except_bind_ok.mp h
  obtain ⟨_, hbase, h⟩ := Relational.except_bind_ok.mp h
  obtain ⟨_, hmax, _⟩ := Relational.except_bind_ok.mp h
  exact ⟨validateRange_ok.mp hbase, validateRange_ok.mp hmax⟩

theorem Policy.delivery_banded (p : Policy) (identity : String) :
    Banded p.1.deliveryRetryBaseSeconds p.1.deliveryRetryMaxSeconds p.1.deliveryMaxAttempts
      (p.1.deliveryRetryDelaySeconds identity) := by
  obtain ⟨⟨hpos, hbound⟩, hbase, hcap⟩ := p.deliveryRetryBounds
  have hattempts := p.deliveryBounds.attempts.2
  refine (banded_iff hpos hbase hcap hattempts).mpr fun attempt hlow hhigh => .inl ?_
  calc p.1.deliveryRetryBaseSeconds * 2 ^ (attempt - 1).toNat
      ≤ 3600 * 2 ^ 18 := Nat.mul_le_mul hbound (Nat.pow_le_pow_right (by omega) (by omega))
    _ < 2 ^ 32 := by omega

/-- 間隔が範囲にあって減らないのは、どの試みでも、基本の秒数をずらした値が 32 ビットに収まるか、残った下位
32 ビットが揺らぎと合わせて上限に届くときに限る。 -/
theorem retries_in_band_iff (p : Policy) (identity : String) :
    RetriesInBand p.1 identity ↔ ∀ attempt : Int, 1 ≤ attempt → attempt < p.1.runMaxAttempts →
      KeepsBits p.1.runRetryBaseSeconds p.1.runRetryMaxSeconds identity (attempt - 1).toNat := by
  have hbounds := p.runBounds
  have hiff : Banded p.1.runRetryBaseSeconds p.1.runRetryMaxSeconds p.1.runMaxAttempts
      (p.1.runRetryDelaySeconds identity) ↔ _ :=
    banded_iff hbounds.retryBase.1 hbounds.retryMax.1 hbounds.retryMax.2 hbounds.attempts.2
  constructor
  · intro h
    exact hiff.mp h.run
  · intro h
    have hrun := hiff.mpr h
    have hdelivery := p.delivery_banded identity
    refine ⟨hrun, hdelivery, fun attempt scheduledFor now t hlow hretry => ?_,
      fun attempt payloadCreatedAt now retryAfter t hlow hretry => ?_⟩
    · obtain ⟨rfl, hattempt, hdeadline⟩ := runRetryAt_some hretry
      have hbase := hbounds.retryBase.1
      have hwithin := (hrun.within attempt hlow hattempt).1
      exact ⟨by omega, hdeadline⟩
    · obtain ⟨ht, hattempt, hdeadline⟩ := deliveryRetryAt_some hretry
      have hbase := p.deliveryRetryBounds.1.1
      have hwithin := (hdelivery.within attempt hlow hattempt).1
      exact ⟨by omega, hdeadline⟩

def slowRetryPolicy : Policy :=
  ⟨{ runRetryBaseSeconds := 65536, runRetryMaxSeconds := 86400, runMaxAttempts := 18 }, by decide⟩

/-- 17 番目の試みの後、間隔は 0 になり、次の時刻は今そのものになる。 -/
theorem shifted_delay_lost :
    ¬ (∀ (p : Policy) (identity : String), RetriesInBand p.1 identity) ∧
      slowRetryPolicy.1.runRetryDelaySeconds "sched_run" 17 = 0 ∧
      slowRetryPolicy.1.runRetryAt "sched_run" 17 100 100 = some 100 := by
  have hzero : slowRetryPolicy.1.runRetryDelaySeconds "sched_run" 17 = 0 := by decide
  refine ⟨fun h => ?_, hzero, by decide⟩
  have := ((h slowRetryPolicy "sched_run").run.within 17 (by decide) (by decide)).1
  rw [hzero] at this
  exact absurd this (by decide)

end Codeoff.Core
