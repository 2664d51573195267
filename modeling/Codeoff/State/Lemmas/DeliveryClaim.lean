import Codeoff.State.Lemmas.DeliveryProgress

/-!
# 配送の貸与の結果

下見の権限による貸与の場合分け。
-/

namespace Codeoff.State

open Codeoff.Core Codeoff.Relational

variable {E : Env} {s t : Store} {now observed claimAt commitAt : Int} {d d₁ : ScheduledDeliveryRow}
  {p : DeliveryPayloadSnapshot} {a : ScheduledDeliveryAuthority} {leaseOwner : String}

def leasePending (E : Env) (a : ScheduledDeliveryAuthority) (leaseOwner : String)
    (claimNow commitNow : Int) : StoreTx (Option (Except StateError (Option ClaimedScheduledDelivery))) := do
  let leaseExpiresAt ← Tx.orElseFail (checkedAdd claimNow a.policy.1.deliveryLeaseSeconds)
    (.invalidSchedulerState "scheduled delivery lease overflows")
  let found ← Tx.read fun s => do
    let d ← s.deliveries.rows.find? (claimableDelivery s a claimNow)
    let p ← d.payload
    return (d, p)
  match found with
  | none => do
    if ← terminalizeExactDelivery a .pending claimNow then return some (.ok none)
    let outcome ← Tx.read (pendingClaim a)
    return some outcome
  | some (d, p) => do
    let claimed ← leaseDelivery E leaseOwner leaseExpiresAt claimNow d p
    if leaseExpiresAt ≤ commitNow || d.pastDeadline commitNow then return none
    return some (.ok (some claimed))

theorem claimExactDelivery_ready
    (hunspent : terminalizeExactDelivery a a.sourceState observed s = .ok (false, s))
    (hready : requeueFirst a observed s = .ok (true, t)) :
    claimExactDelivery E a leaseOwner observed claimAt commitAt s =
      leasePending E a leaseOwner claimAt commitAt t := by
  unfold claimExactDelivery
  rw [Tx.bind_of_ok hunspent]
  simp only [Bool.false_eq_true, if_false]
  rw [Tx.bind_of_ok hready]
  rfl

/-! ## 待ちの行の貸与 -/

theorem claimableDelivery_iff (h : ClaimReady E t observed a d d₁ p) (hle : observed ≤ claimAt)
    {o : ScheduledDeliveryRow} (ho : o ∈ t.deliveries.rows) :
    claimableDelivery t a claimAt o = true ↔ o = d₁ ∧ d₁.outOfAttempts = false ∧
      d₁.pastDeadline claimAt = false ∧ (unchangedBaseline t d₁).isNone = true := by
  simp only [claimableDelivery, Bool.and_eq_true, h.selects o ho, Bool.not_eq_true', decide_eq_true_eq]
  constructor
  · rintro ⟨⟨⟨⟨⟨⟨⟨⟨rfl, _⟩, hattempts⟩, _⟩, _⟩, hdeadline⟩, _⟩, _⟩, hchanged⟩
    exact ⟨rfl, hattempts, hdeadline, hchanged⟩
  · rintro ⟨rfl, hattempts, hdeadline, hchanged⟩
    obtain ⟨hmaxA, hmaxF⟩ := counters_below h.row.wf hattempts
    have hupdated := h.row.updated
    have hle' : o.updatedAt ≤ claimAt := by omega
    exact ⟨⟨⟨⟨⟨⟨⟨⟨rfl, by simp [h.pending]⟩, hattempts⟩, hmaxA⟩, hmaxF⟩, hdeadline⟩, hle'⟩, h.row.alone⟩,
      hchanged⟩

/-- 貸与に進む条件。試行と期限が残り、本文が受け入れた本文と違い、期限の計算があふれない。 -/
structure Leasable (s : Store) (observed claimAt : Int) (d : ScheduledDeliveryRow) : Prop where
  unspent : (d.outOfAttempts || d.pastDeadline observed) = false
  changed : (unchangedBaseline s d).isSome = false
  inTime : d.pastDeadline claimAt = false
  fits : claimAt + d.policy.1.deliveryLeaseSeconds ≤ i64Max

theorem outOfAttempts_congr (h : ClaimReady E t observed a d d₁ p) : d₁.outOfAttempts = d.outOfAttempts := by
  simp only [ScheduledDeliveryRow.outOfAttempts, h.attempt, h.policy]

theorem pastDeadline_congr (h : ClaimReady E t observed a d d₁ p) (hp : d.payload = some p) :
    d₁.pastDeadline now = d.pastDeadline now := by
  simp only [ScheduledDeliveryRow.pastDeadline, h.row.payload, hp, h.policy]

theorem leaseSeconds_pos (policy : Policy) : (5 : Int) ≤ policy.1.deliveryLeaseSeconds := by
  have := policy.deliveryBounds.lease.1
  omega

theorem checkedAdd_lease (policy : Policy) (hnow : 0 ≤ now) :
    (checkedAdd now policy.1.deliveryLeaseSeconds = none ∧
      ¬now + policy.1.deliveryLeaseSeconds ≤ i64Max) ∨
    (checkedAdd now policy.1.deliveryLeaseSeconds = some (now + policy.1.deliveryLeaseSeconds) ∧
      now + policy.1.deliveryLeaseSeconds ≤ i64Max) := by
  have hpos := leaseSeconds_pos policy
  rcases checkedAdd_none_or hnow (b := (policy.1.deliveryLeaseSeconds : Int)) (by omega) with
    ⟨hnone, hover⟩ | hsome
  · exact .inl ⟨hnone, by omega⟩
  · exact .inr hsome

theorem leasePending_overflow (hover : checkedAdd claimAt a.policy.1.deliveryLeaseSeconds = none) :
    leasePending E a leaseOwner claimAt commitAt t =
      .error (.invalidSchedulerState "scheduled delivery lease overflows") := by
  unfold leasePending
  rw [hover]
  exact Tx.bind_of_error rfl

/-- 期限を過ぎたか、基準の変わらない行は、貸与されずに待ち行列から外れる。 -/
theorem leasePending_withheld {leaseExpiresAt : Int} (h : ClaimReady E t observed a d d₁ p)
    (hid : a.deliveryId = d.deliveryId) (hle : observed ≤ claimAt) (hattempts : d₁.outOfAttempts = false)
    (hadd : checkedAdd claimAt a.policy.1.deliveryLeaseSeconds = some leaseExpiresAt)
    (hwithheld : d₁.pastDeadline claimAt = true ∨ (unchangedBaseline t d₁).isSome = true) :
    ∃ t', leasePending E a leaseOwner claimAt commitAt t = .ok (some (.ok none), t') := by
  have hnone : t.deliveries.rows.find? (claimableDelivery t a claimAt) = none := by
    rw [List.find?_eq_none]
    intro o ho hclaim
    obtain ⟨rfl, _, hdeadline, hchanged⟩ := (claimableDelivery_iff h hle ho).mp hclaim
    rcases hwithheld with hw | hw
    · rw [hw] at hdeadline
      cases hdeadline
    · rw [Option.isNone_iff_eq_none] at hchanged
      rw [hchanged] at hw
      cases hw
  unfold leasePending
  rw [hadd]
  refine exists_congr (fun _ => Tx.orElseFail_bind_ok) |>.mpr ?_
  rcases terminalizeExactDelivery_eligible (h.row.mono hle) h.selects with
    ⟨_, D, hrun, _⟩ | ⟨_, hrun⟩
  · rw [h.pending] at hrun
    refine ⟨{ t with deliveries := D }, leaseExpiresAt, rfl, ?_⟩
    rw [Tx.read_bind_apply, hnone]
    exact Tx.bind_ok.mpr ⟨true, _, hrun, rfl⟩
  · rw [h.pending] at hrun
    have hcounters : pendingClaim a t = .ok none := by
      unfold pendingClaim
      rw [if_neg]
      rw [Bool.not_eq_true, List.any_eq_false]
      intro o ho hbad
      simp only [Bool.and_eq_true, Bool.or_eq_true, beq_iff_eq] at hbad
      obtain rfl := eq_of_deliveryId h.row.mem ho (by rw [hbad.1.1, hid, h.deliveryId])
      obtain ⟨hmaxA, hmaxF⟩ := counters_below h.row.wf hattempts
      omega
    refine ⟨t, leaseExpiresAt, rfl, ?_⟩
    rw [Tx.read_bind_apply, hnone]
    refine Tx.bind_ok.mpr ⟨false, t, hrun, ?_⟩
    simp only [Bool.false_eq_true, if_false]
    rw [Tx.read_bind_apply, hcounters]
    rfl

section Leases

variable {leaseExpiresAt : Int}

theorem leasePending_found (h : ClaimReady E t observed a d d₁ p) (hle : observed ≤ claimAt)
    (hattempts : d₁.outOfAttempts = false)
    (hadd : checkedAdd claimAt a.policy.1.deliveryLeaseSeconds = some leaseExpiresAt)
    (hdeadline : d₁.pastDeadline claimAt = false) (hchanged : (unchangedBaseline t d₁).isNone = true) :
    leasePending E a leaseOwner claimAt commitAt t = (do
      let claimed ← leaseDelivery E leaseOwner leaseExpiresAt claimAt d₁ p
      if leaseExpiresAt ≤ commitAt || d₁.pastDeadline commitAt then return none
      return some (.ok (some claimed)) :
        StoreTx (Option (Except StateError (Option ClaimedScheduledDelivery)))) t := by
  have hfind : t.deliveries.rows.find? (claimableDelivery t a claimAt) = some d₁ := by
    refine find?_of_unique h.row.mem ?_
    intro o ho
    rw [claimableDelivery_iff h hle ho]
    exact and_iff_left ⟨hattempts, hdeadline, hchanged⟩
  unfold leasePending
  rw [hadd, Tx.bind_of_ok (rfl : Tx.orElseFail (some leaseExpiresAt) _ t = .ok (leaseExpiresAt, t)),
    Tx.read_bind_apply, hfind]
  show (match d₁.payload.bind fun q => some (d₁, q) with
    | none => _
    | some (o, q) => _ : StoreTx _) t = _
  rw [h.row.payload]
  rfl

theorem leasePending_leases (commitAt : Int) (h : ClaimReady E t observed a d d₁ p) (hle : observed ≤ claimAt)
    (hattempts : d₁.outOfAttempts = false)
    (hadd : checkedAdd claimAt a.policy.1.deliveryLeaseSeconds = some leaseExpiresAt)
    (hdeadline : d₁.pastDeadline claimAt = false) (hchanged : (unchangedBaseline t d₁).isNone = true)
    (hlease : claimAt < leaseExpiresAt) (howner : 0 < sqlLength leaseOwner) :
    ∃ t', leasePending E a leaseOwner claimAt commitAt t =
        .ok (if leaseExpiresAt ≤ commitAt || d₁.pastDeadline commitAt then none
          else some (.ok (some (claimedOf leaseOwner d₁ p))), t') ∧
      t.deliveries.Replaces d₁ (sendingRow t leaseOwner leaseExpiresAt claimAt d₁) t'.deliveries := by
  obtain ⟨t', hrun, hD⟩ := leaseDelivery_commits h.wf (h.row.mono hle) h.pending hlease howner
  refine ⟨t', ?_, hD⟩
  rw [leasePending_found h hle hattempts hadd hdeadline hchanged, Tx.bind_of_ok hrun]
  split
  · rfl
  · rfl

theorem leasePending_blankOwner (h : ClaimReady E t observed a d d₁ p) (hle : observed ≤ claimAt)
    (hattempts : d₁.outOfAttempts = false)
    (hadd : checkedAdd claimAt a.policy.1.deliveryLeaseSeconds = some leaseExpiresAt)
    (hdeadline : d₁.pastDeadline claimAt = false) (hchanged : (unchangedBaseline t d₁).isNone = true)
    (howner : sqlLength leaseOwner = 0) :
    ∃ v, leasePending E a leaseOwner claimAt commitAt t = .error (.scheduler v) := by
  obtain ⟨v, hrun⟩ : ∃ v, leaseDelivery E leaseOwner leaseExpiresAt claimAt d₁ p t =
      .error (.scheduler v) := leaseDelivery_blankOwner (h.row.mono hle) howner
  refine ⟨v, ?_⟩
  rw [leasePending_found h hle hattempts hadd hdeadline hchanged]
  exact Tx.bind_of_error hrun

end Leases

inductive ClaimResult (s : Store) (d : ScheduledDeliveryRow) (leaseOwner : String)
    (observed claimAt commitAt : Int) :
    Except StateError (Option (Except StateError (Option ClaimedScheduledDelivery)) × Store) → Prop where
  | terminal {kind : ScheduledDeliveryRow → String} {D : Table scheduledRunDeliveries}
      (spent : (d.outOfAttempts || d.pastDeadline observed) = true)
      (replaces : s.deliveries.Replaces d (rejectedRow kind observed d) D) :
      ClaimResult s d leaseOwner observed claimAt commitAt (.ok (some (.ok none), { s with deliveries := D }))
  | blocked (unspent : (d.outOfAttempts || d.pastDeadline observed) = false)
      (retry : d.state = .failedRetryable) (unchanged : (unchangedBaseline s d).isSome = true) :
      ClaimResult s d leaseOwner observed claimAt commitAt (.ok (some (.ok none), s))
  | overflow {reason : String} (unspent : (d.outOfAttempts || d.pastDeadline observed) = false)
      (beyond : ¬claimAt + d.policy.1.deliveryLeaseSeconds ≤ i64Max) :
      ClaimResult s d leaseOwner observed claimAt commitAt (.error (.invalidSchedulerState reason))
  | withheld {t : Store} (unspent : (d.outOfAttempts || d.pastDeadline observed) = false)
      (free : ¬(d.state = .failedRetryable ∧ (unchangedBaseline s d).isSome = true))
      (reason : d.pastDeadline claimAt = true ∨ (unchangedBaseline s d).isSome = true) :
      ClaimResult s d leaseOwner observed claimAt commitAt (.ok (some (.ok none), t))
  | blank {v : Violation} (leasable : Leasable s observed claimAt d) (owner : sqlLength leaseOwner = 0) :
      ClaimResult s d leaseOwner observed claimAt commitAt (.error (.scheduler v))
  | leased {t : Store} {d' : ScheduledDeliveryRow} {claimed : ClaimedScheduledDelivery}
      (leasable : Leasable s observed claimAt d) (owner : 0 < sqlLength leaseOwner)
      (row : d' ∈ t.deliveries.rows) (deliveryId : d'.deliveryId = d.deliveryId)
      (state : d'.state = .sending) :
      ClaimResult s d leaseOwner observed claimAt commitAt
        (.ok (if claimAt + d.policy.1.deliveryLeaseSeconds ≤ commitAt || d.pastDeadline commitAt then none
          else some (.ok (some claimed)), t))

/-- 示された権限の行は、取得されるか、取得されない理由が行から読み取れる。 -/
theorem claimExactDelivery_result (hI : DeliveriesWf E s) (h : EligibleRow E s observed d p)
    (h0 : 0 ≤ observed) (hle : observed ≤ claimAt) :
    ClaimResult s d leaseOwner observed claimAt commitAt
      (claimExactDelivery E (rowAuthority E d p) leaseOwner observed claimAt commitAt s) := by
  rcases terminalizeExactDelivery_eligible (a := rowAuthority E d p) h
    fun o ho => rowAuthority_selects h.mem h.payload ho with ⟨hspent, D, hrun, kind, hD⟩ | ⟨hspent, hrun⟩
  · have hclaim : claimExactDelivery E (rowAuthority E d p) leaseOwner observed claimAt commitAt s =
        .ok (some (.ok none), { s with deliveries := D }) := by
      unfold claimExactDelivery
      exact Tx.bind_ok.mpr ⟨true, _, hrun, rfl⟩
    rw [hclaim]
    exact .terminal hspent hD
  rcases requeueFirst_eligible hI h hspent with ⟨⟨hretry, hunchanged⟩, hready⟩ | ⟨hfree, t, d₁, hready, hclaim, hsame⟩
  · have hclaim : claimExactDelivery E (rowAuthority E d p) leaseOwner observed claimAt commitAt s =
        .ok (some (.ok none), s) := by
      unfold claimExactDelivery
      exact Tx.bind_ok.mpr ⟨false, s, hrun, Tx.bind_ok.mpr ⟨false, s, hready, rfl⟩⟩
    rw [hclaim]
    exact .blocked hspent hretry hunchanged
  rw [claimExactDelivery_ready hrun hready]
  have hpolicy : (rowAuthority E d p).policy = d.policy := rfl
  have hattempts : d₁.outOfAttempts = false := by
    rw [outOfAttempts_congr hclaim]
    exact (Bool.or_eq_false_iff.mp hspent).1
  have hdeadline : ∀ now, d₁.pastDeadline now = d.pastDeadline now :=
    fun now => pastDeadline_congr hclaim h.payload
  rcases checkedAdd_lease d.policy (by omega : 0 ≤ claimAt) with ⟨hnone, hover⟩ | ⟨hadd, hfits⟩
  · rw [leasePending_overflow (hpolicy ▸ hnone)]
    exact .overflow hspent hover
  by_cases hwithheld : d.pastDeadline claimAt = true ∨ (unchangedBaseline s d).isSome = true
  · obtain ⟨t', hrun'⟩ : ∃ t', leasePending E (rowAuthority E d p) leaseOwner claimAt commitAt t =
        .ok (some (.ok none), t') :=
      leasePending_withheld hclaim rfl hle hattempts (hpolicy ▸ hadd)
        (by rw [hdeadline, hsame]; exact hwithheld)
    rw [hrun']
    exact .withheld hspent hfree hwithheld
  obtain ⟨hintime, hchanged⟩ := not_or.mp hwithheld
  rw [Bool.not_eq_true] at hintime hchanged
  have hleasable : Leasable s observed claimAt d := ⟨hspent, hchanged, hintime, hfits⟩
  have hchanged' : (unchangedBaseline t d₁).isNone = true := by
    rw [hchanged] at hsame
    simpa using hsame
  have hpos := leaseSeconds_pos d.policy
  rcases Nat.eq_zero_or_pos (sqlLength leaseOwner) with howner | howner
  · obtain ⟨v, hrun'⟩ : ∃ v, leasePending E (rowAuthority E d p) leaseOwner claimAt commitAt t =
        .error (.scheduler v) :=
      leasePending_blankOwner hclaim hle hattempts (hpolicy ▸ hadd) ((hdeadline claimAt).trans hintime)
        hchanged' howner
    rw [hrun']
    exact .blank hleasable howner
  · have hlease : claimAt < claimAt + (d.policy.1.deliveryLeaseSeconds : Int) := by omega
    obtain ⟨t', hrun', hD⟩ := leasePending_leases commitAt hclaim hle hattempts (hpolicy ▸ hadd)
      ((hdeadline claimAt).trans hintime) hchanged' hlease howner
    rw [hrun', hdeadline]
    exact .leased hleasable howner (hD.mem.mpr (.inl rfl)) hclaim.deliveryId rfl

end Codeoff.State
