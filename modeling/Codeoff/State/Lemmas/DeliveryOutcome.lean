import Codeoff.State.Lemmas.Deliveries

/-!
# 配送の決着と履歴の整理の補題

送信中の行と試行を対にして書き換える操作、再投入、運用者の操作、履歴の削除。
-/

namespace Codeoff.State

open Codeoff.Core Codeoff.Relational

variable {E : Env} {s s' : Store} {u : Unit} {now at_ : Int}

theorem ScheduledDeliveryBinding.ownsDelivery_iff {b : ScheduledDeliveryBinding}
    {d : ScheduledDeliveryRow} :
    b.ownsDelivery d = true ↔ d.deliveryId = b.deliveryId ∧ d.attempt = b.attempt ∧
      d.fence = b.fence ∧ d.leaseOwner = some b.leaseOwner ∧
      d.idempotencyKey = some b.idempotencyKey := by
  simp [ScheduledDeliveryBinding.ownsDelivery, and_assoc]

theorem ScheduledDeliveryBinding.ownsAttempt_iff {b : ScheduledDeliveryBinding}
    {a : DeliveryAttemptRow} :
    b.ownsAttempt a = true ↔ a.deliveryId = b.deliveryId ∧ a.attempt = b.attempt ∧
      a.fence = b.fence ∧ a.leaseOwner = b.leaseOwner ∧ a.idempotencyKey = b.idempotencyKey := by
  simp [ScheduledDeliveryBinding.ownsAttempt, and_assoc]

theorem deliveryAttempts_replaces {p : DeliveryAttemptRow → Bool}
    {f : DeliveryAttemptRow → DeliveryAttemptRow} {A : Table scheduledDeliveryAttempts}
    (deliveryId : String) (attempt : Int) (hA : s.deliveryAttempts.Rewrites p f A)
    (hp : ∀ a, p a = true → a.deliveryId = deliveryId ∧ a.attempt = attempt) {a : DeliveryAttemptRow}
    (ha : a ∈ s.deliveryAttempts.rows) (hpa : p a = true) : s.deliveryAttempts.Replaces a (f a) A := by
  refine hA.replaces ha hpa ?_
  intro o ho hpo
  exact s.deliveryAttempts.eq_of_conflict ho ha (by
    simp [scheduledDeliveryAttempts, (hp o hpo).1, (hp o hpo).2, (hp a hpa).1, (hp a hpa).2])

/-- 束縛の持つ送信中の行と試行だけを、対で書き換える。 -/
theorem fencedDelivery_ok {kind : DeliveryUpdateKind} {b : ScheduledDeliveryBinding}
    {onDelivery : ScheduledDeliveryRow → Bool} {toDelivery : ScheduledDeliveryRow → ScheduledDeliveryRow}
    {onAttempt : DeliveryAttemptRow → Bool} {toAttempt : DeliveryAttemptRow → DeliveryAttemptRow}
    (h : fencedDelivery kind b onDelivery toDelivery onAttempt toAttempt s = .ok (u, s')) :
    ∃ d a D A, (b.ownsDelivery d = true ∧ d.state = .sending ∧ onDelivery d = true) ∧
      (b.ownsAttempt a = true ∧ a.state = .sending ∧ onAttempt a = true) ∧
      s.deliveries.Replaces d (toDelivery d) D ∧ s.deliveryAttempts.Replaces a (toAttempt a) A ∧
      s' = { s with deliveries := D, deliveryAttempts := A } := by
  unfold fencedDelivery at h
  obtain ⟨n, s1, h1, h⟩ := Tx.bind_ok.mp h
  obtain ⟨D, hD, rfl, rfl⟩ := updateDeliveries_ok.mp h1
  obtain ⟨m, s2, h2, h⟩ := Tx.bind_ok.mp h
  obtain ⟨A, hA, rfl, rfl⟩ := updateDeliveryAttempts_ok.mp h2
  obtain ⟨hone, rfl⟩ := Tx.require_ok.mp h
  rw [Bool.and_eq_true] at hone
  obtain ⟨d, hd, hpd⟩ := exists_of_countP hone.1
  obtain ⟨a, ha, hpa⟩ := exists_of_countP hone.2
  have hrep := deliveries_replaces b.deliveryId hD.toRewrites (by
    intro o ho
    simp only [Bool.and_eq_true] at ho
    exact (ScheduledDeliveryBinding.ownsDelivery_iff.mp ho.1.1).1) hd hpd
  have hrepA := deliveryAttempts_replaces b.deliveryId b.attempt hA.toRewrites (by
    intro o ho
    simp only [Bool.and_eq_true] at ho
    obtain ⟨hid, hattempt, _⟩ := ScheduledDeliveryBinding.ownsAttempt_iff.mp ho.1.1
    exact ⟨hid, hattempt⟩) ha hpa
  simp only [Bool.and_eq_true, beq_iff_eq] at hpd hpa
  exact ⟨d, a, D, A, ⟨hpd.1.1, hpd.1.2, hpd.2⟩, ⟨hpa.1.1, hpa.1.2, hpa.2⟩, hrep, hrepA, rfl⟩

theorem fencedDelivery_effect {kind : DeliveryUpdateKind} {b : ScheduledDeliveryBinding}
    {onDelivery : ScheduledDeliveryRow → Bool} {toDelivery : ScheduledDeliveryRow → ScheduledDeliveryRow}
    {onAttempt : DeliveryAttemptRow → Bool} {toAttempt : DeliveryAttemptRow → DeliveryAttemptRow}
    (hchange : ∀ d ∈ s.deliveries.rows, ∀ a, b.ownsDelivery d = true → d.state = .sending →
      onDelivery d = true → SendChange d a (toDelivery d) (toAttempt a))
    (h : fencedDelivery kind b onDelivery toDelivery onAttempt toAttempt s = .ok (u, s')) :
    Effect E now .work s s' := by
  obtain ⟨d, a, D, A, ⟨hd, hs, hod⟩, ⟨ha, _, _⟩, hD, hA, rfl⟩ := fencedDelivery_ok h
  exact .sending hd hs ha (hchange d hD.mem_old a hd hs hod) hD hA (.inl rfl)

theorem heartbeatScheduledDelivery_effect {b : ScheduledDeliveryBinding} {leaseExpiresAt : Int}
    (h : heartbeatScheduledDelivery b at_ leaseExpiresAt s = .ok (u, s')) : Effect E now .work s s' := by
  unfold heartbeatScheduledDelivery at h
  obtain ⟨_, _, h⟩ := Tx.check_bind_ok.mp h
  obtain ⟨_, h⟩ := Tx.require_bind_ok.mp h
  refine fencedDelivery_effect ?_ h
  intro d _ a _ _ hd
  simp only [Bool.and_eq_true, decide_eq_true_eq] at hd
  exact .extended hd.2

def DeliveryTerminal.RetryAllowed (t : DeliveryTerminal) (s : Store) (b : ScheduledDeliveryBinding)
    (completedAt : Int) : Prop :=
  (t.state ≠ .sending ∧ t.state ≠ .pending) ∧ t.attemptState.delivery = t.state ∧
  (t.state = .failedRetryable → ∃ d ∈ s.deliveries.rows, ∃ p n, d.deliveryId = b.deliveryId ∧
    d.attempt = b.attempt ∧ d.payload = some p ∧ t.nextAttemptAt = some n ∧ completedAt ≤ n ∧
    d.policy.1.deliveryCanRetryAt b.attempt p.createdAt n = true)

theorem transitionDeliveryTerminal_effect {b : ScheduledDeliveryBinding} {t : DeliveryTerminal}
    (ht : t.RetryAllowed s b at_) (h : transitionDeliveryTerminal b t at_ s = .ok (u, s')) :
    Effect E now .work s s' := by
  unfold transitionDeliveryTerminal at h
  obtain ⟨_, h⟩ := Tx.require_bind_ok.mp h
  refine fencedDelivery_effect ?_ h
  intro d hd a hb _ _
  refine .settled ⟨rfl, rfl, rfl, rfl, rfl, rfl⟩ ht.1 ?_ ⟨rfl, rfl, rfl⟩ ht.2.1
  intro hretry
  obtain ⟨hid, hattempt, _⟩ := ScheduledDeliveryBinding.ownsDelivery_iff.mp hb
  obtain ⟨o, ho, p, n, hoid, hoattempt, hp, hn, hle, hcan⟩ := ht.2.2 hretry
  -- 許しを確かめた行は、書き換える行と同じである。
  obtain rfl := eq_of_deliveryId hd ho (hoid.trans hid.symm)
  exact ⟨n, p, hn, hp, hle, hoattempt ▸ hcan⟩

theorem completeScheduledDeliveryDelivered_effect {b : ScheduledDeliveryBinding} {receipt : String}
    (h : completeScheduledDeliveryDelivered b receipt at_ s = .ok (u, s')) : Effect E now .work s s' := by
  unfold completeScheduledDeliveryDelivered at h
  obtain ⟨_, _, h⟩ := Tx.check_bind_ok.mp h
  obtain ⟨_, _, h⟩ := Tx.check_bind_ok.mp h
  obtain ⟨_, s1, h1, h⟩ := Tx.bind_ok.mp h
  obtain ⟨_, h1⟩ := Tx.require_bind_ok.mp h1
  obtain ⟨d, a, D, A, ⟨hb, hsending, _⟩, ⟨ha, _⟩, hD, hA, rfl⟩ := fencedDelivery_ok h1
  obtain ⟨B, rfl, hB⟩ := advanceIf_ok h
  refine .sending hb hsending ha ?_ hD hA ?_
  · refine .settled ⟨rfl, rfl, rfl, rfl, rfl, rfl⟩ ?_ ?_ ⟨rfl, rfl, rfl⟩ rfl
    · exact ⟨by simp [settledDelivery], by simp [settledDelivery]⟩
    · simp [settledDelivery]
  · rcases hB with rfl | ⟨_, o, ho, hid, hB⟩
    · exact .inl rfl
    · obtain rfl := D.eq_of_conflict ho (hD.mem.mpr (.inl rfl)) (by
        simp [scheduledRunDeliveries, hid, settledDelivery,
          (ScheduledDeliveryBinding.ownsDelivery_iff.mp hb).1])
      exact .inr ⟨rfl, hB⟩

theorem retryAllowed_ok {b : ScheduledDeliveryBinding} {retryAt : Int} {can : Bool}
    (h : retryAllowed b retryAt at_ s = .ok (can, s')) :
    s' = s ∧ ∃ d ∈ s.deliveries.rows, ∃ p, d.deliveryId = b.deliveryId ∧ d.attempt = b.attempt ∧
      d.payload = some p ∧ d.policy.1.deliveryCanRetryAt b.attempt p.createdAt retryAt = can := by
  unfold retryAllowed at h
  rw [Tx.read_bind_apply] at h
  obtain ⟨hfound, rfl⟩ := Tx.orElseFail_ok.mp h
  obtain ⟨d, hd, hbind⟩ := Option.bind_eq_some_iff.mp hfound
  obtain ⟨p, hp, heq⟩ := Option.bind_eq_some_iff.mp hbind
  cases heq
  have hpd := List.find?_some hd
  simp only [Bool.and_eq_true, beq_iff_eq] at hpd
  exact ⟨rfl, d, List.mem_of_find?_eq_some hd, p, hpd.1.1.1.1.1, hpd.1.1.1.1.2, hp, rfl⟩

/-- やり直しが許されるのは、試行と期限が残っているときである。 -/
theorem failureTerminal_ok {b : ScheduledDeliveryBinding} {failure : ScheduledDeliveryFailure}
    {t : DeliveryTerminal} (h : failureTerminal b failure at_ s = .ok (t, s')) :
    s' = s ∧ t.RetryAllowed s b at_ := by
  cases failure with
  | confirmedNoWriteTerminal kind message =>
    obtain ⟨_, _, h⟩ := Tx.check_bind_ok.mp h
    cases h
    exact ⟨rfl, ⟨by simp, by simp⟩, rfl, by simp⟩
  | ambiguousPostWrite kind message =>
    obtain ⟨_, _, h⟩ := Tx.check_bind_ok.mp h
    cases h
    exact ⟨rfl, ⟨by simp, by simp⟩, rfl, by simp⟩
  | confirmedNoWriteRetryable kind message nextAttemptAt =>
    obtain ⟨hlater, h⟩ := Tx.require_bind_ok.mp h
    obtain ⟨_, _, h⟩ := Tx.check_bind_ok.mp h
    obtain ⟨can, s1, h1, h⟩ := Tx.bind_ok.mp h
    obtain ⟨rfl, d, hd, p, hid, hattempt, hp, hcan⟩ := retryAllowed_ok h1
    cases can with
    | true =>
      cases h
      refine ⟨rfl, ⟨by simp, by simp⟩, rfl, fun _ => ?_⟩
      exact ⟨d, hd, p, nextAttemptAt, hid, hattempt, hp, rfl,
        (of_decide_eq_true hlater).le, hcan⟩
    | false =>
      cases h
      exact ⟨rfl, ⟨by simp, by simp⟩, rfl, by simp⟩

theorem completeScheduledDeliveryFailure_effect {b : ScheduledDeliveryBinding}
    {failure : ScheduledDeliveryFailure}
    (h : completeScheduledDeliveryFailure b failure at_ s = .ok (u, s')) : Effect E now .work s s' := by
  unfold completeScheduledDeliveryFailure at h
  obtain ⟨_, _, h⟩ := Tx.check_bind_ok.mp h
  obtain ⟨t, s1, h1, h⟩ := Tx.bind_ok.mp h
  obtain ⟨hs, ht⟩ := failureTerminal_ok h1
  rw [hs] at h
  exact transitionDeliveryTerminal_effect ht h

/-! ## 期限切れの回収 -/

theorem unknown_sendChange (d : ScheduledDeliveryRow) (a : DeliveryAttemptRow) :
    SendChange d a (unknownDelivery at_ d) (unknownAttempt at_ a) := by
  refine .settled ⟨rfl, rfl, rfl, rfl, rfl, rfl⟩ ?_ ?_ ⟨rfl, rfl, rfl⟩ rfl
  · exact ⟨by simp [unknownDelivery], by simp [unknownDelivery]⟩
  · simp [unknownDelivery]

theorem expireDelivery_effect {d : ScheduledDeliveryRow} (h : expireDelivery d at_ s = .ok (u, s')) :
    Effect E now .work s s' :=
  fencedDelivery_effect (fun o _ a _ _ _ => unknown_sendChange o a) h

/-- 期限の切れた配送を一つ見つけた後。 -/
def reclaimFound (at_ : Int) (limit : Nat) (next : Option ScheduledDeliveryRow) : StoreTx Nat :=
  match next with
  | none => return 0
  | some d => do
    expireDelivery d at_
    let rest ← reclaimDeliveries at_ limit
    return rest + 1

theorem reclaimDeliveries_effects {limit n : Nat} (h : reclaimDeliveries at_ limit s = .ok (n, s')) :
    Relation.ReflTransGen (Effect E now .work) s s' := by
  induction limit generalizing s n with
  | zero =>
    cases h
    exact .refl
  | succ limit ih =>
    unfold reclaimDeliveries at h
    rw [Tx.read_bind_apply] at h
    have hnext : ∀ next, reclaimFound at_ limit next s = .ok (n, s') →
        Relation.ReflTransGen (Effect E now .work) s s' := by
      intro next hs
      cases next with
      | none =>
        cases hs
        exact .refl
      | some d =>
        obtain ⟨_, s1, h1, hs⟩ := Tx.bind_ok.mp hs
        obtain ⟨m, s2, h2, hs⟩ := Tx.bind_ok.mp hs
        cases hs
        exact .head (expireDelivery_effect h1) (ih h2)
    exact hnext _ h

theorem reclaimExpiredScheduledDeliveries_effects {limit n : Nat}
    (h : reclaimExpiredScheduledDeliveries at_ limit s = .ok (n, s')) :
    Relation.ReflTransGen (Effect E now .work) s s' := by
  unfold reclaimExpiredScheduledDeliveries at h
  obtain ⟨_, h⟩ := Tx.require_bind_ok.mp h
  exact reclaimDeliveries_effects h

theorem reconcileExpiredScheduledDelivery_effect {deliveryId : String}
    {expectedState : ScheduledDeliveryState} {expectedAttempt expectedFence expectedLease : Int}
    {outcome : ScheduledDeliveryReconcileOutcome}
    (h : reconcileExpiredScheduledDelivery deliveryId expectedState expectedAttempt expectedFence
      expectedLease at_ s = .ok (outcome, s')) : Effect E now .work s s' := by
  unfold reconcileExpiredScheduledDelivery at h
  obtain ⟨_, _, h⟩ := Tx.check_bind_ok.mp h
  obtain ⟨_, h⟩ := Tx.require_bind_ok.mp h
  rw [Tx.read_bind_apply] at h
  cases hfind : s.deliveries.rows.find? fun d => d.deliveryId == deliveryId && d.payload.isSome with
  | none =>
    rw [hfind] at h
    cases h
    exact .aside (.refl s)
  | some d =>
    rw [hfind] at h
    dsimp only at h
    split at h
    · cases h
      exact .aside (.refl s)
    rename_i hseen
    split at h
    · cases h
      exact .aside (.refl s)
    rename_i hdue
    simp only [Bool.or_eq_true, bne_iff_ne, ne_eq, not_or, not_not] at hseen
    obtain ⟨⟨⟨hsending, _⟩, _⟩, hlease⟩ := hseen
    simp only [gt_iff_lt, Bool.or_eq_true, decide_eq_true_eq, not_or, not_lt] at hdue
    have hmem := List.mem_of_find?_eq_some hfind
    have hpd := List.find?_some hfind
    simp only [Bool.and_eq_true, beq_iff_eq] at hpd
    -- 送信中の行の CHECK から、束縛の所有者と鍵は空でない。
    have hchk := of_decide_eq_true (s.deliveries.checked d hmem)
    have howns : d.leaseBinding.ownsDelivery d = true := by
      obtain ⟨_, _, _, hlive, _⟩ := hchk
      rcases hlive with ⟨_, ⟨owner, howner, _⟩, _, key, hkey, _⟩ | ⟨hne, _⟩
      · rw [ScheduledDeliveryBinding.ownsDelivery_iff]
        rw [Option.mem_def] at howner hkey
        simp [ScheduledDeliveryRow.leaseBinding, howner, hkey]
      · exact absurd hsending hne
    obtain ⟨n, s1, h1, h⟩ := Tx.bind_ok.mp h
    obtain ⟨D, hD, rfl, rfl⟩ := updateDeliveries_ok.mp h1
    have hselected : (d.leaseBinding.ownsDelivery d && d.state == .sending
        && d.leaseExpiresAt == some expectedLease && d.payload.isSome
        && decide (d.updatedAt ≤ at_)) = true := by
      simp [howns, hsending, hlease, hpd.2, hdue.2]
    have hid : ∀ o : ScheduledDeliveryRow, (d.leaseBinding.ownsDelivery o && o.state == .sending
        && o.leaseExpiresAt == some expectedLease && o.payload.isSome
        && decide (o.updatedAt ≤ at_)) = true → o.deliveryId = d.deliveryId := by
      intro o ho
      simp only [Bool.and_eq_true] at ho
      exact (ScheduledDeliveryBinding.ownsDelivery_iff.mp ho.1.1.1.1).1
    have hrep := deliveries_replaces d.deliveryId hD.toRewrites hid hmem hselected
    split at h
    · rename_i hcount
      rw [bne_iff_ne] at hcount
      refine absurd ?_ hcount
      rw [s.deliveries.countP_eq_one_iff]
      · exact ⟨d, hmem, hselected⟩
      · intro x _ y _ hx hy
        simp [scheduledRunDeliveries, hid x hx, hid y hy]
    · obtain ⟨m, s2, h2, h⟩ := Tx.bind_ok.mp h
      obtain ⟨A, hA, rfl, rfl⟩ := updateDeliveryAttempts_ok.mp h2
      obtain ⟨hm, h⟩ := Tx.require_bind_ok.mp h
      cases h
      obtain ⟨a, ha, hpa⟩ := exists_of_countP hm
      have hrepA := deliveryAttempts_replaces d.deliveryId d.attempt hA.toRewrites (by
        intro o ho
        simp only [Bool.and_eq_true] at ho
        obtain ⟨hid, hattempt, _⟩ := ScheduledDeliveryBinding.ownsAttempt_iff.mp ho.1.1.1
        exact ⟨hid, hattempt⟩) ha hpa
      simp only [Bool.and_eq_true] at hpa
      exact .sending howns hsending hpa.1.1.1 (unknown_sendChange d a) hrep hrepA (.inl rfl)

theorem requeueDueScheduledDeliveries_effects {limit n : Nat}
    (h : requeueDueScheduledDeliveries at_ limit s = .ok (n, s')) :
    Relation.ReflTransGen (Effect E now .work) s s' := by
  unfold requeueDueScheduledDeliveries at h
  obtain ⟨_, h⟩ := Tx.require_bind_ok.mp h
  obtain ⟨_, s1, h1, h⟩ := Tx.bind_ok.mp h
  have hend : Effect E now .work s s1 := by
    refine updateDeliveries_effect ?_ h1
    intro d _ hd
    simp only [retryDue, Bool.and_eq_true, beq_iff_eq] at hd
    exact .failed (.inr hd.1.1) rfl ⟨rfl, rfl, rfl, rfl, rfl, rfl⟩
  rw [Tx.read_bind_apply] at h
  obtain ⟨m, s2, h2, h⟩ := Tx.bind_ok.mp h
  have hrequeue : Effect E now .work s1 s2 := by
    refine updateDeliveries_effect ?_ h2
    intro d hd hany
    obtain ⟨o, ho, hid⟩ := List.any_eq_true.mp hany
    have ho' := (List.mem_insertionSort _).mp (List.mem_of_mem_take ho)
    obtain ⟨homem, hdue⟩ := List.mem_filter.mp ho'
    obtain rfl := eq_of_deliveryId hd homem (beq_iff_eq.mp hid)
    simp only [retryDue, Bool.and_eq_true, beq_iff_eq] at hdue
    exact .requeued hdue.1 rfl rfl ⟨rfl, rfl, rfl, rfl, rfl, rfl⟩
  obtain ⟨_, s3, h3, h⟩ := Tx.bind_ok.mp h
  cases h
  exact ((Relation.ReflTransGen.single hend).tail hrequeue).tail (.aside (afterRequeue_effect h3))

/-! ## 運用者の操作 -/

theorem applyDeliveryRetry_effects {request : SchedulerOperatorRequest} {d : ScheduledDeliveryRow}
    {reason : String × String} {nextAttemptAt : Int} {outcome : SchedulerOperatorMutationOutcome}
    (h : applyDeliveryRetry E request d reason nextAttemptAt s = .ok (outcome, s')) :
    Relation.ReflTransGen (Effect E now .work) s s' := by
  unfold applyDeliveryRetry at h
  obtain ⟨done, s1, h1, h⟩ := Tx.bind_ok.mp h
  have haside : Effect E now .work s s1 := .aside (insertOperatorAction_effect h1)
  cases done with
  | replay =>
    cases h
    exact .single haside
  | conflict =>
    cases h
    exact .single haside
  | inserted =>
    obtain ⟨n, s2, h2, h⟩ := Tx.bind_ok.mp h
    have hrequeue : Effect E now .work s1 s2 := by
      refine updateDeliveries_effect ?_ h2
      intro o _ ho
      simp only [Bool.and_eq_true, beq_iff_eq] at ho
      exact .requeued ho.1.2 rfl rfl ⟨rfl, rfl, rfl, rfl, rfl, rfl⟩
    have hall := (Relation.ReflTransGen.single haside).tail hrequeue
    split at h
    · cases h
      exact hall
    · obtain ⟨_, s3, h3, h⟩ := Tx.bind_ok.mp h
      cases h
      exact hall.tail (.aside (afterDeliveryRetry_effect h3))

theorem operatorRetryScheduledDelivery_effects {request : SchedulerOperatorRequest}
    {deliveryId : String} {attempt fence : Int} {reasonJson reasonDigest : String}
    {outcome : SchedulerOperatorMutationOutcome}
    (h : operatorRetryScheduledDelivery E request deliveryId attempt fence reasonJson reasonDigest s =
      .ok (outcome, s')) : Relation.ReflTransGen (Effect E now .work) s s' := by
  unfold operatorRetryScheduledDelivery at h
  obtain ⟨t, ht, rfl⟩ := Tx.rollbackIf_ok.mp h
  split
  · exact .refl
  obtain ⟨_, _, ht⟩ := Tx.check_bind_ok.mp ht
  obtain ⟨_, _, ht⟩ := Tx.check_bind_ok.mp ht
  obtain ⟨_, _, ht⟩ := Tx.check_bind_ok.mp ht
  obtain ⟨_, ht⟩ := Tx.require_bind_ok.mp ht
  rw [Tx.read_bind_apply] at ht
  cases hpersisted : persistedRequest request s with
  | some a =>
    rw [hpersisted] at ht
    dsimp only at ht
    split at ht
    · cases ht
      exact .refl
    · obtain ⟨_, ht⟩ := Tx.require_bind_ok.mp ht
      cases ht
      exact .refl
  | none =>
    rw [hpersisted] at ht
    dsimp only at ht
    rw [Tx.read_bind_apply] at ht
    have hfound : ∀ found : Option (ScheduledDeliveryRow × Int),
        (match found with
          | none => (return .conflict : StoreTx SchedulerOperatorMutationOutcome)
          | some (d, next) => applyDeliveryRetry E request d (reasonJson, reasonDigest) next) s =
          .ok (outcome, t) → Relation.ReflTransGen (Effect E now .work) s t := by
      intro found hs
      rcases found with _ | ⟨d, next⟩
      · cases hs
        exact .refl
      · exact applyDeliveryRetry_effects hs
    exact hfound _ ht

/-- 不明の試行は、送り直すなら残り、ほかの決着なら閉じられる。 -/
theorem resolveAttempt_ok {deliveryId : String} {attempt fence : Int}
    {action : ScheduledDeliveryUnknownAction}
    (h : resolveAttempt deliveryId attempt fence action s = .ok (u, s')) :
    ∃ A, s' = { s with deliveryAttempts := A } ∧
      ((action.afterState = .pending ∧ A = s.deliveryAttempts) ∨
        ∃ a, s.deliveryAttempts.Replaces a (resolvedAttempt action a) A ∧ action.afterState ≠ .pending ∧
          a.state = .deliveryUnknown ∧ a.deliveryId = deliveryId ∧ a.attempt = attempt) := by
  unfold resolveAttempt at h
  split at h
  · rename_i hresend
    cases h
    exact ⟨s.deliveryAttempts, rfl, .inl ⟨hresend, rfl⟩⟩
  · rename_i hresend
    obtain ⟨n, s1, h1, h⟩ := Tx.bind_ok.mp h
    obtain ⟨A, hA, rfl, rfl⟩ := updateDeliveryAttempts_ok.mp h1
    obtain ⟨hn, rfl⟩ := Tx.require_ok.mp h
    obtain ⟨a, ha, hpa⟩ := exists_of_countP hn
    have hrep := deliveryAttempts_replaces deliveryId attempt hA.toRewrites (by
      intro o ho
      simp only [Bool.and_eq_true, beq_iff_eq] at ho
      exact ⟨ho.1.1.1, ho.1.1.2⟩) ha hpa
    simp only [Bool.and_eq_true, beq_iff_eq] at hpa
    exact ⟨A, rfl, .inr ⟨a, hrep, hresend, hpa.2, hpa.1.1.1, hpa.1.1.2⟩⟩

theorem applyUnknownDeliveryOperatorAction_effects {deliveryId : String} {attempt fence : Int}
    {action : ScheduledDeliveryUnknownAction} (haction : action.afterState ≠ .deliveryUnknown)
    (h : applyUnknownDeliveryOperatorAction deliveryId attempt fence action at_ s = .ok (u, s')) :
    Relation.ReflTransGen (Effect E now (.resolve deliveryId (action.afterState == .delivered))) s s' := by
  unfold applyUnknownDeliveryOperatorAction at h
  obtain ⟨_, s1, h1, h⟩ := Tx.bind_ok.mp h
  obtain ⟨A, rfl, hA⟩ := resolveAttempt_ok h1
  obtain ⟨n, s2, h2, h⟩ := Tx.bind_ok.mp h
  obtain ⟨D, hD, rfl, rfl⟩ := updateDeliveries_ok.mp h2
  obtain ⟨hn, h⟩ := Tx.require_bind_ok.mp h
  obtain ⟨d, hd, hpd⟩ := exists_of_countP hn
  have hrep := deliveries_replaces deliveryId hD.toRewrites (by
    intro o ho
    simp only [Bool.and_eq_true, beq_iff_eq] at ho
    exact ho.1.1.1.1) hd hpd
  simp only [Bool.and_eq_true, beq_iff_eq] at hpd
  have hstate : (resolvedDelivery action at_ d).state = .delivered ∨
      (resolvedDelivery action at_ d).state = .failedTerminal ∨
      ((resolvedDelivery action at_ d).state = .pending ∧
        (resolvedDelivery action at_ d).claimedBaselineVersion = none) := by
    cases action with
    | confirmDelivered r e => exact .inl rfl
    | confirmNoWriteTerminal e => exact .inr (.inl rfl)
    | forceResend e r k => exact .inr (.inr ⟨rfl, rfl⟩)
    | acknowledgeUnknown e => exact absurd rfl haction
  obtain ⟨_, s3, h3, h⟩ := Tx.bind_ok.mp h
  obtain ⟨x, hx, hmatch⟩ := consumeAction_ok h3
  simp only [Bool.and_eq_true, beq_iff_eq] at hmatch
  have hresend : (resolvedDelivery action at_ d).state = .pending →
      ∃ x ∈ s.operatorActions.rows, IsForceResend d x := by
    intro hpending
    have haction : x.action = .forceDeliveryResend := by
      rw [hmatch.1.2]
      cases action with
      | forceResend e r k => rfl
      | _ => cases hpending
    have hchk : x.Check := of_decide_eq_true (s.operatorActions.checked x hx)
    obtain ⟨_, _, _, _, _, _, _, _, _, _, hrisk, _⟩ := hchk
    exact ⟨x, hx, haction, hrisk.mp haction,
      ⟨hmatch.1.1.1.1.1.1.1.1.1.1, hmatch.1.1.1.1.1.1.1.1.1.2.trans hpd.1.1.1.1.symm⟩,
      hmatch.1.1.1.1.1.1.1.1.2.trans hpd.1.1.1.2.symm, hmatch.1.1.1.1.1.1.2⟩
  have hsame := consumeAction_effect h3
  obtain ⟨B, rfl, hB⟩ := advanceIf_ok h
  have hresolved : Effect E now (.resolve deliveryId (action.afterState == .delivered)) s
      { s with deliveries := D, deliveryAttempts := A, deliveryBaselines := B } := by
    refine .resolved ?_ hpd.1.2 hstate hresend ⟨rfl, rfl, rfl, rfl, rfl, rfl⟩ hrep ?_ ?_
    · rw [hpd.1.1.1.1]
      rfl
    · rcases hA with ⟨hpending, rfl⟩ | ⟨a, hA, hsettles, hunknown, haid, haattempt⟩
      · exact .inl ⟨hpending, rfl⟩
      · refine .inr ⟨a, _, hA, hunknown, ?_, ⟨rfl, rfl, rfl⟩, ?_⟩
        · exact ⟨haid.trans hpd.1.1.1.1.symm, haattempt.trans hpd.1.1.1.2.symm⟩
        · cases action with
          | confirmDelivered r e => rfl
          | confirmNoWriteTerminal e => rfl
          | forceResend e r k => exact absurd rfl hsettles
          | acknowledgeUnknown e => exact absurd rfl haction
    · rcases hB with rfl | ⟨haccepted, o, ho, hid, hB⟩
      · exact .inl hsame.deliveryBaselines
      · rw [hsame.deliveries] at ho
        obtain rfl := D.eq_of_conflict ho (hrep.mem.mpr (.inl rfl)) (by
          simp [scheduledRunDeliveries, hid, resolvedDelivery, hpd.1.1.1.1])
        refine .inr ⟨by simpa [resolvedDelivery] using haccepted, ?_⟩
        intro key hkey
        rw [hB key hkey, hsame.deliveryBaselines]
  exact .tail (.single hresolved) (.aside (hsame.withDeliveryBaselines B))

/-- 不明の配送への運用者の操作は、名指した配送を決着させる効果の列である。 -/
theorem operatorActOnUnknownDelivery_effects {request : SchedulerOperatorRequest}
    {deliveryId : String} {attempt fence : Int} {action : ScheduledDeliveryUnknownAction}
    {outcome : SchedulerOperatorMutationOutcome}
    (h : operatorActOnUnknownDelivery E request deliveryId attempt fence action s = .ok (outcome, s')) :
    Relation.ReflTransGen (Effect E now (.resolve deliveryId (action.afterState == .delivered))) s s' := by
  unfold operatorActOnUnknownDelivery at h
  obtain ⟨t, ht, rfl⟩ := Tx.rollbackIf_ok.mp h
  split
  · exact .refl
  obtain ⟨_, _, ht⟩ := Tx.check_bind_ok.mp ht
  obtain ⟨_, _, ht⟩ := Tx.check_bind_ok.mp ht
  obtain ⟨_, ht⟩ := Tx.require_bind_ok.mp ht
  obtain ⟨_, _, ht⟩ := Tx.check_bind_ok.mp ht
  obtain ⟨_, ht⟩ := Tx.require_bind_ok.mp ht
  rw [Tx.read_bind_apply] at ht
  generalize (s.deliveries.rows.find? fun d => d.deliveryId == deliveryId && d.attempt == attempt
    && d.fence == fence && d.payload.isSome) = found at ht
  cases found with
  | none =>
    cases ht
    exact .refl
  | some d =>
    dsimp only at ht
    obtain ⟨_, _, ht⟩ := Tx.check_bind_ok.mp ht
    rw [Tx.read_bind_apply] at ht
    cases hexisting : existingOperatorRequest request s with
    | some o =>
      rw [hexisting] at ht
      cases ht
      exact .refl
    | none =>
      rw [hexisting] at ht
      dsimp only at ht
      split at ht
      · cases ht
        exact .refl
      obtain ⟨done, s1, h1, ht⟩ := Tx.bind_ok.mp ht
      have haside : Effect E now (.resolve deliveryId (action.afterState == .delivered)) s s1 := .aside (insertOperatorAction_effect h1)
      cases done with
      | replay =>
        cases ht
        exact .single haside
      | conflict =>
        cases ht
        exact .single haside
      | inserted =>
        dsimp only at ht
        split at ht
        · cases ht
          exact .single haside
        · rename_i haction
          obtain ⟨_, s2, h2, ht⟩ := Tx.bind_ok.mp ht
          cases ht
          exact .head haside (applyUnknownDeliveryOperatorAction_effects haction h2)

theorem claimRetention_effect {operationId runId : String} {rows : List ScheduledDeliveryRow}
    (h : claimRetention operationId runId at_ rows s = .ok (u, s')) : SameCore s s' := by
  induction rows generalizing s with
  | nil =>
    cases h
    exact .refl _
  | cons d ds ih =>
    unfold claimRetention at h
    rw [Tx.read_bind_apply] at h
    cases hprior : s.deliveryRetention.rows.find? fun l => l.deliveryId == d.deliveryId with
    | some l =>
      rw [hprior] at h
      dsimp only at h
      split at h
      · cases h
      · cases h
    | none =>
      rw [hprior] at h
      obtain ⟨_, s1, h1, h⟩ := Tx.bind_ok.mp h
      obtain ⟨T, _, rfl⟩ := statement_insert_ok.mp h1
      obtain ⟨g1, g2, g3, g4, g5, g6, g7, g8, g9, g10, g11, g12, g13, g14⟩ := ih h
      exact ⟨g1, g2, g3, g4, g5, g6, g7, g8, g9, g10, g11, g12, g13, g14⟩

/-- 配送の履歴の刈り取りは、名指した実行の行だけを消す。 -/
theorem pruneScheduledDeliveryHistory_effects {operationId runId : String}
    {runCutoff deliveryCutoff : Int} {e : RetentionExpectation}
    (h : pruneScheduledDeliveryHistory operationId runId runCutoff deliveryCutoff at_ e s = .ok (u, s')) :
    Relation.ReflTransGen (Effect E now (.prune runId)) s s' := by
  unfold pruneScheduledDeliveryHistory at h
  obtain ⟨_, _, h⟩ := Tx.check_bind_ok.mp h
  obtain ⟨_, h⟩ := Tx.require_bind_ok.mp h
  rw [Tx.read_bind_apply, Tx.read_bind_apply] at h
  obtain ⟨heligible, h⟩ := Tx.require_bind_ok.mp h
  obtain ⟨_, s1, h1, h⟩ := Tx.bind_ok.mp h
  cases h
  simp only [Bool.and_eq_true] at heligible
  obtain ⟨r, hr, hprune⟩ := List.any_eq_true.mp heligible.1.1
  unfold prunableSuccess at hprune
  simp only [Bool.and_eq_true, beq_iff_eq] at hprune
  have hsame := claimRetention_effect h1
  refine .tail (.single (.aside hsame)) (.prunedHistory ?_)
  intro o ho hid
  rw [hsame.runs] at ho
  rw [eq_of_runId hr ho (hid.trans hprune.1.symm)]
  exact hprune.2.1.1.1.1.1

theorem pruneTerminalScheduledRunHistory_effects {operationId runId : String}
    {jobGeneration scheduleGeneration : Int} {state : ScheduledRunState} {terminalAt cutoffAt : Int}
    (h : pruneTerminalScheduledRunHistory operationId runId jobGeneration scheduleGeneration state
      terminalAt cutoffAt at_ s = .ok (u, s')) : Relation.ReflTransGen (Effect E now .work) s s' := by
  unfold pruneTerminalScheduledRunHistory at h
  obtain ⟨_, _, h⟩ := Tx.check_bind_ok.mp h
  rw [Tx.read_bind_apply] at h
  obtain ⟨_, h⟩ := Tx.require_bind_ok.mp h
  obtain ⟨r, hr, h⟩ := Tx.orElseFail_bind_ok.mp h
  obtain ⟨_, s1, h1, h⟩ := Tx.bind_ok.mp h
  obtain ⟨T, _, rfl⟩ := statement_insert_ok.mp h1
  cases h
  have hmem := List.mem_of_find?_eq_some hr
  have hprune := List.find?_some hr
  unfold prunableTerminal at hprune
  simp only [Bool.and_eq_true, beq_iff_eq, Bool.not_eq_true', List.any_eq_false] at hprune
  obtain ⟨hid, ⟨⟨⟨⟨⟨⟨_, hretryable⟩, _⟩, _⟩, hundelivered⟩, _⟩, _⟩⟩ := hprune
  have haudit : Effect E now .work s { s with runRetention := T } :=
    .aside ⟨rfl, rfl, rfl, rfl, rfl, rfl, rfl, rfl, rfl, rfl, rfl, fun _ h => h,
      fun _ _ => le_max_left _ _, .refl _⟩
  refine .tail (.single haudit) (.prunedRun ?_ ?_)
  · intro o ho ho'
    rw [eq_of_runId hmem ho (ho'.trans hid.symm)]
    exact hretryable
  · intro d hd hd'
    exact hundelivered d hd (hd'.trans hid.symm)

end Codeoff.State
