import Codeoff.Core.Lemmas.Policy
import Codeoff.State.Lemmas.DeliveryInvariants
import Codeoff.State.Lemmas.Lifecycle
import Codeoff.State.Lemmas.Text

/-!
# 配送の文が通る条件

配送の行を書く文が、到達する状態の行について CHECK とトリガを通るかどうか。
-/

namespace Codeoff.State

open Codeoff.Core Codeoff.Relational

variable {E : Env} {s s' : Store} {now : Int} {d d' o : ScheduledDeliveryRow} {p : DeliveryPayloadSnapshot}

theorem rowAuthority_selects (hd : d ∈ s.deliveries.rows) (hp : d.payload = some p)
    (ho : o ∈ s.deliveries.rows) : (rowAuthority E d p).selects o = true ↔ o = d := by
  constructor
  · intro h
    simp only [ScheduledDeliveryAuthority.selects, Bool.and_eq_true, beq_iff_eq] at h
    exact eq_of_deliveryId hd ho h.1.1.1.1
  · rintro rfl
    simp [ScheduledDeliveryAuthority.selects, rowAuthority, hp]

theorem validateText_map {field field' value : String} (h : validateText field value = .ok ()) :
    validateText field' value = .ok () := validateText_ok.mpr (validateText_ok.mp h)

theorem validateLowercaseSha256_ok {field value : String} {u : Unit} :
    validateLowercaseSha256 field value = .ok u ↔ isLowercaseSha256 value = true := by
  unfold validateLowercaseSha256
  split <;> simp [*]

structure ReadablePayload (E : Env) (d : ScheduledDeliveryRow) (p : DeliveryPayloadSnapshot) : Prop where
  digest : E.sha256Hex (utf8Bytes p.body) = p.digest
  deliveryId : validateText "delivery id" d.deliveryId = .ok ()
  payloadDigest : isLowercaseSha256 p.digest = true
  targetDigest : isLowercaseSha256 d.targetSnapshotDigest = true
  createdAt : 0 ≤ p.createdAt

theorem payloadFromRow_ok (h : payloadFromRow E d p = .ok ()) : ReadablePayload E d p := by
  unfold payloadFromRow at h
  obtain ⟨hdigest, h⟩ := reject_ok.mp h
  obtain ⟨_, h⟩ := reject_ok.mp h
  have h := invalidValue_ok.mp h
  unfold validateSnapshot at h
  obtain ⟨_, hid, h⟩ := except_bind_ok.mp h
  obtain ⟨_, _, h⟩ := except_bind_ok.mp h
  obtain ⟨_, _, h⟩ := except_bind_ok.mp h
  obtain ⟨_, _, h⟩ := except_bind_ok.mp h
  obtain ⟨_, hpayload, h⟩ := except_bind_ok.mp h
  obtain ⟨_, _, h⟩ := except_bind_ok.mp h
  obtain ⟨_, htarget, h⟩ := except_bind_ok.mp h
  refine ⟨not_not.mp hdigest, hid, validateLowercaseSha256_ok.mp hpayload,
    validateLowercaseSha256_ok.mp htarget, ?_⟩
  by_contra hneg
  rw [if_pos (by simp only [not_le] at hneg; exact .inr (.inr (.inr hneg)))] at h
  cases h

theorem rowAuthority_validate (hwf : DeliveryWf E d) (hp : d.payload = some p)
    (hstate : d.state = .pending ∨ d.state = .failedRetryable) :
    (rowAuthority E d p).validate E = .ok () := by
  obtain ⟨_, hid, hpayload, htarget, hcreated⟩ := payloadFromRow_ok (hwf.payload p hp)
  unfold ScheduledDeliveryAuthority.validate
  refine except_bind_ok.mpr ⟨(), invalidValue_ok.mpr (validateText_map hid), ?_⟩
  refine reject_ok.mpr ⟨by simp only [rowAuthority]; tauto, ?_⟩
  refine reject_ok.mpr ⟨by simp only [rowAuthority]; omega, ?_⟩
  refine except_bind_ok.mpr ⟨(), invalidValue_ok.mpr (validateLowercaseSha256_ok.mpr htarget), ?_⟩
  exact invalidValue_ok.mpr (validateLowercaseSha256_ok.mpr hpayload)

theorem rowAuthority_overdue (hp : d.payload = some p) (hcreated : 0 ≤ p.createdAt) :
    (rowAuthority E d p).overdue now = d.pastDeadline now := by
  have hbounds := d.policy.deliveryBounds.deadline
  have hadd := checkedAdd_none_or hcreated (b := (d.policy.1.deliveryDeadlineSeconds : Int)) (by omega)
  simp only [ScheduledDeliveryAuthority.overdue, ScheduledDeliveryRow.pastDeadline, hp,
    SchedulerOperationalPolicy.deliveryDeadlineAt, rowAuthority, Option.any_some]
  rcases hadd with ⟨hnone, hover⟩ | ⟨hsome, hle⟩
  · rw [hnone]
    simp
    omega
  · rw [hsome]
    simp
    omega

theorem delivery_conflict (hid : d'.identity = d.identity) (hkey : sameKey d'.sendingKey o.sendingKey = false)
    (h : scheduledRunDeliveries.conflict d o = false) : scheduledRunDeliveries.conflict d' o = false := by
  simp only [ScheduledDeliveryRow.identity, DeliveryIdentity.mk.injEq] at hid
  obtain ⟨hdelivery, hrun, _, hdigest, _, hversion, _, _, _, _, hintent, _⟩ := hid
  simp only [scheduledRunDeliveries, Bool.or_eq_false_iff] at h ⊢
  rw [hdelivery, hrun, hdigest, hversion, hintent]
  exact ⟨h.1, hkey⟩

theorem sendingKey_none (h : d.state ≠ .sending) : d.sendingKey = none := by
  simp [ScheduledDeliveryRow.sendingKey, h]

/-- 引き金と検査を通る書き換えは、送信中の行を増やさないかぎり成功する。 -/
theorem updateDeliveries_exists {kind : DeliveryUpdateKind} {q : ScheduledDeliveryRow → Bool}
    {f : ScheduledDeliveryRow → ScheduledDeliveryRow}
    (hid : ∀ d ∈ s.deliveries.rows, q d = true → (f d).identity = d.identity)
    (hstate : ∀ d ∈ s.deliveries.rows, q d = true → (f d).state ≠ .sending)
    (htrigger : ∀ d ∈ s.deliveries.rows, q d = true → deliveryTriggers s kind d (f d) = none)
    (hcheck : ∀ d ∈ s.deliveries.rows, q d = true → (f d).Check) :
    ∃ D, s.deliveries.Updates (deliveryTriggers s kind) q f D := by
  refine Table.exists_updates htrigger (fun d hd hq => decide_eq_true (hcheck d hd hq))
    (s.deliveries.pairwise_rewrite ?_)
  intro a ha b hb hab
  have hleft : ∀ {x y}, x ∈ s.deliveries.rows → q x = true →
      scheduledRunDeliveries.conflict x y = false → scheduledRunDeliveries.conflict (f x) y = false := by
    intro x y hx hq hxy
    refine delivery_conflict (hid x hx hq) ?_ hxy
    rw [sendingKey_none (hstate x hx hq)]
    rfl
  have hright : ∀ {x y}, y ∈ s.deliveries.rows → q y = true →
      scheduledRunDeliveries.conflict x y = false → scheduledRunDeliveries.conflict x (f y) = false := by
    intro x y hy hq hxy
    rw [scheduledRunDeliveries.conflict_symm] at hxy ⊢
    exact hleft hy hq hxy
  split
  · split
    · exact hright hb ‹_› (hleft ha ‹_› hab)
    · exact hleft ha ‹_› hab
  · split
    · exact hright hb ‹_› hab
    · exact hab

theorem updateDeliveries_one {kind : DeliveryUpdateKind} {q : ScheduledDeliveryRow → Bool}
    {f : ScheduledDeliveryRow → ScheduledDeliveryRow} (hd : d ∈ s.deliveries.rows)
    (hone : ∀ o ∈ s.deliveries.rows, q o = true ↔ o = d) (hid : (f d).identity = d.identity)
    (hstate : (f d).state ≠ .sending) (htrigger : deliveryTriggers s kind d (f d) = none)
    (hcheck : (f d).Check) :
    ∃ D, updateDeliveries kind q f s = .ok (1, { s with deliveries := D }) ∧
      s.deliveries.Replaces d (f d) D := by
  have hall : ∀ {P : ScheduledDeliveryRow → Prop}, P d → ∀ o ∈ s.deliveries.rows, q o = true → P o := by
    intro P hP o ho hq
    rw [(hone o ho).mp hq]
    exact hP
  obtain ⟨D, hD⟩ := updateDeliveries_exists (hall hid) (hall hstate) (hall htrigger) (hall hcheck)
  have hcount : s.deliveries.rows.countP q = 1 := by
    rw [s.deliveries.countP_eq_one_iff]
    · exact ⟨d, hd, (hone d hd).mpr rfl⟩
    · intro x hx y hy hqx hqy
      rw [(hone x hx).mp hqx, (hone y hy).mp hqy]
      simp [scheduledRunDeliveries]
  refine ⟨D, updateDeliveries_ok.mpr ⟨D, hD, hcount.symm, rfl⟩, ?_⟩
  exact hD.toRewrites.replaces hd ((hone d hd).mpr rfl) fun o ho hq => (hone o ho).mp hq

theorem updateDeliveries_zero {kind : DeliveryUpdateKind} {q : ScheduledDeliveryRow → Bool}
    {f : ScheduledDeliveryRow → ScheduledDeliveryRow} (hnone : ∀ o ∈ s.deliveries.rows, q o = false) :
    updateDeliveries kind q f s = .ok (0, s) := by
  have hkeep : Table.rewrite q f s.deliveries.rows = s.deliveries.rows := by
    refine List.map_congr_left (g := id) ?_ |>.trans (List.map_id _)
    intro o ho
    simp [hnone o ho]
  refine updateDeliveries_ok.mpr ⟨s.deliveries, ⟨⟨hkeep.symm⟩, ?_⟩, ?_, rfl⟩
  · intro o ho hq
    rw [hnone o ho] at hq
    cases hq
  · symm
    rw [List.countP_eq_zero]
    intro o ho
    simp [hnone o ho]

/-! ## 書く行の CHECK とトリガ -/

theorem delivery_updatedAt (hd : d ∈ s.deliveries.rows) : d.createdAt ≤ d.updatedAt :=
  (delivery_check hd).1.2.2

theorem rejectedRow_check {errorKind : ScheduledDeliveryRow → String} (hd : d ∈ s.deliveries.rows)
    (hupdated : d.updatedAt ≤ now) (hkind : 0 < sqlLength (errorKind d)) :
    (rejectedRow errorKind now d).Check := by
  have hcreated := delivery_updatedAt hd
  obtain ⟨⟨h1, h2, _⟩, h4, ⟨h5, h6, h7, h8, h9, h10, h11, h12, h13, h14, _⟩, _, _, h17, _⟩ :=
    delivery_check hd
  refine ⟨⟨h1, h2, by simp only [rejectedRow]; omega⟩, h4,
    ⟨h5, h6, h7, h8, h9, h10, h11, h12, h13, h14, .inr (.inl rfl)⟩, .inr ⟨?_, rfl, rfl⟩, .inl rfl, h17,
    .inl rfl, .inl rfl, rfl, .inl ⟨rfl, _, rfl, hkind⟩⟩
  simp [rejectedRow]

theorem rejectedRow_triggers {errorKind : ScheduledDeliveryRow → String} (hpayload : d.payload.isSome = true)
    (hstate : d.state = .pending ∨ (d.state = .failedRetryable ∧ d.nextAttemptAt.any (· ≤ now) = true))
    (hupdated : d.updatedAt ≤ now) (hkind : 0 < sqlLength (errorKind d)) :
    deliveryTriggers s .state d (rejectedRow errorKind now d) = none := by
  have hrejects : readinessRejection d (rejectedRow errorKind now d) = true := by
    simp only [readinessRejection, rejectedRow, hpayload, Option.any_some, hkind, decide_true,
      BEq.rfl, Option.isNone_none, Bool.and_true, Bool.true_and, ge_iff_le, hupdated, Bool.or_eq_true,
      beq_iff_eq]
    exact hstate.imp_right And.right
  have htransition : deliveryTransition d.state .failedTerminal = true := by
    rcases hstate with h | ⟨h, _⟩ <;> rw [h] <;> rfl
  have hid : (rejectedRow errorKind now d).identity = d.identity := rfl
  simp [deliveryTriggers, hid, hrejects]
  simp [rejectedRow, htransition]

theorem requeuedRow_check (hd : d ∈ s.deliveries.rows) (hwf : DeliveryWf E d)
    (hretry : d.state = .failedRetryable) : (requeuedRow d).Check := by
  have hcreated := delivery_updatedAt hd
  obtain ⟨n, p, hnext, hp, hle, _⟩ := hwf.retry hretry
  obtain ⟨⟨h1, h2, _⟩, h4, ⟨h5, h6, h7, h8, h9, h10, h11, h12, h13, h14, _⟩, h15, _, _, _, h18, _, _⟩ :=
    delivery_check hd
  have hreceipt : d.providerReceipt = none := h18.resolve_right (by simp [hretry])
  have hlease : d.leaseOwner = none ∧ d.leaseExpiresAt = none := by
    rcases h15 with ⟨hsending, _⟩ | ⟨_, h⟩
    · simp [hretry] at hsending
    · exact h
  refine ⟨⟨h1, h2, ?_⟩, h4, ⟨h5, h6, h7, h8, h9, h10, h11, h12, h13, h14, .inl rfl⟩,
    .inr ⟨?_, hlease⟩, .inl rfl, ?_, .inl rfl, .inl hreceipt, rfl, .inr ⟨rfl, rfl, rfl⟩⟩
  · simp only [requeuedRow, hnext, Option.getD_some]
    omega
  · simp [requeuedRow]
  · simp [requeuedRow]

theorem requeuedRow_triggers (hd : d ∈ s.deliveries.rows) (hretry : d.state = .failedRetryable) :
    deliveryTriggers s .stateAndClaim d (requeuedRow d) = none := by
  obtain ⟨_, _, _, _, _, _, hclaim, _⟩ := delivery_check hd
  have hsome : d.claimedBaselineVersion.isSome = true :=
    hclaim.resolve_left (by simp [hretry, ScheduledDeliveryState.hasClaim])
  have hallowed : claimedBaselineAllowed d (requeuedRow d) = true := by
    simp [claimedBaselineAllowed, requeuedRow, hretry, hsome]
  have hid : (requeuedRow d).identity = d.identity := rfl
  simp [deliveryTriggers, hid, hallowed]
  simp [requeuedRow, hretry, deliveryTransition]

theorem unsentRow_triggers {kind : String} (hstate : d.state = .pending ∨ d.state = .failedRetryable) :
    deliveryTriggers s .state d (unsentRow kind now d) =
      some "readiness rejection requires exact unclaimed delivery authority" := by
  have hrejects : readinessRejection d (unsentRow kind now d) = false := by
    simp [readinessRejection, unsentRow]
  have hid : (unsentRow kind now d).identity = d.identity := rfl
  simp [deliveryTriggers, hid, hrejects]
  rcases hstate with h | h <;> simp [unsentRow, h]

theorem consumeAll_commits {kind : OperatorTargetKind} {targetId : String} {at_ : Int}
    {actions : List OperatorActionRow}
    (hcheck : ∀ a ∈ actions, (OperatorConsumptionRow.mk a.actionId kind targetId at_).Check)
    (hfresh : ∀ a ∈ actions, consumed s a = false)
    (hdistinct : actions.Pairwise fun a b => a.actionId ≠ b.actionId) :
    ∃ s', consumeAll kind targetId at_ actions s = .ok ((), s') := by
  induction actions generalizing s with
  | nil => exact ⟨s, rfl⟩
  | cons a as ih =>
    obtain ⟨hne, hdistinct⟩ := List.pairwise_cons.mp hdistinct
    have hnew : ∀ o ∈ s.consumptions.rows, schedulerOperatorActionConsumptions.conflict o
        ⟨a.actionId, kind, targetId, at_⟩ = false := by
      intro o ho
      have := hfresh a List.mem_cons_self
      simp only [consumed, List.any_eq_false, beq_iff_eq] at this
      simpa [schedulerOperatorActionConsumptions] using this o ho
    obtain ⟨T, hT⟩ : ∃ T, s.consumptions.Inserts noInsertTrigger ⟨a.actionId, kind, targetId, at_⟩ T :=
      Table.exists_inserts rfl (decide_eq_true (hcheck a List.mem_cons_self)) hnew
    have hrest : ∀ x ∈ as, consumed { s with consumptions := T } x = false := by
      intro x hx
      simp only [consumed, List.any_eq_false, beq_iff_eq]
      intro o ho
      rcases hT.mem.mp ho with ho | rfl
      · have := hfresh x (List.mem_cons_of_mem _ hx)
        simp only [consumed, List.any_eq_false, beq_iff_eq] at this
        exact this o ho
      · exact hne x hx
    obtain ⟨s', hs'⟩ := ih (s := { s with consumptions := T })
      (fun x hx => hcheck x (List.mem_cons_of_mem _ hx)) hrest hdistinct
    exact ⟨s', Tx.bind_ok.mpr ⟨(), _, statement_insert_ok.mpr ⟨T, hT, rfl⟩, hs'⟩⟩

theorem afterDeliveryRetry_commits {at_ : Int} (hnext : d.nextAttemptAt = some at_) :
    ∃ s', afterDeliveryRetry d at_ s = .ok ((), s') := by
  unfold afterDeliveryRetry
  rw [Tx.read_bind_apply]
  obtain ⟨s', hs'⟩ : ∃ s', consumeAll .delivery d.deliveryId at_ (retryActions d at_ s) s = .ok ((), s') :=
    consumeAll_commits (by
      intro a ha
      obtain ⟨hmem, ha⟩ := List.mem_filter.mp ha
      simp only [Bool.and_eq_true, beq_iff_eq] at ha
      obtain ⟨⟨⟨⟨⟨⟨⟨⟨⟨⟨hkind, htarget⟩, _⟩, _⟩, _⟩, _⟩, _⟩, _⟩, hat⟩, _⟩, _⟩ := ha
      obtain ⟨_, _, _, hlength, _, _, _, _, _, _, _, heffective, _⟩ :=
        (of_decide_eq_true (s.operatorActions.checked a hmem) : a.Check)
      rw [hkind, htarget] at hlength
      exact ⟨hlength, hat ▸ heffective⟩) (by
      intro a ha
      have ha := (List.mem_filter.mp ha).2
      simp only [Bool.and_eq_true, Bool.not_eq_true'] at ha
      exact ha.2) (by
      refine (s.operatorActions.unique.sublist List.filter_sublist).imp ?_
      intro a b hab
      simp only [schedulerOperatorActions, Bool.or_eq_false_iff, beq_eq_false_iff_ne] at hab
      exact hab.1)
  refine ⟨s', Tx.require_bind_ok.mpr ⟨?_, hs'⟩⟩
  simp [hnext]

theorem afterRequeue_commits {rows : List ScheduledDeliveryRow}
    (hnext : ∀ d ∈ rows, d.nextAttemptAt.isSome = true) : ∃ s', afterRequeue rows s = .ok ((), s') := by
  induction rows generalizing s with
  | nil => exact ⟨s, rfl⟩
  | cons d ds ih =>
    obtain ⟨n, hn⟩ := Option.isSome_iff_exists.mp (hnext d List.mem_cons_self)
    have hupdated : (requeuedRow d).updatedAt = n := by simp [requeuedRow, hn]
    obtain ⟨s1, h1⟩ := afterDeliveryRetry_commits (s := s) hn
    obtain ⟨s2, h2⟩ := ih (s := s1) fun x hx => hnext x (List.mem_cons_of_mem _ hx)
    exact ⟨s2, Tx.bind_ok.mpr ⟨_, s1, hupdated ▸ h1, h2⟩⟩

structure EligibleRow (E : Env) (s : Store) (now : Int) (d : ScheduledDeliveryRow)
    (p : DeliveryPayloadSnapshot) : Prop where
  mem : d ∈ s.deliveries.rows
  wf : DeliveryWf E d
  payload : d.payload = some p
  state : (d.state = .pending ∧ d.updatedAt ≤ now) ∨
    (d.state = .failedRetryable ∧ d.nextAttemptAt.any (· ≤ now) = true)
  alone : activeSibling s d = false

namespace EligibleRow

variable {E : Env} {s : Store} {now : Int} {d : ScheduledDeliveryRow} {p : DeliveryPayloadSnapshot}

theorem of_head (hI : DeliveriesWf E s) (h : deliveryHead s now = some d) (hp : d.payload = some p) :
    EligibleRow E s now d p := by
  obtain ⟨hmem, heligible⟩ := List.mem_filter.mp (first_mem h)
  simp only [deliveryEligible, Bool.and_eq_true, Bool.or_eq_true, beq_iff_eq, decide_eq_true_eq,
    Bool.not_eq_true'] at heligible
  exact ⟨hmem, hI.rows d hmem, hp, heligible.1.1.symm, heligible.2⟩

theorem source (h : EligibleRow E s now d p) : d.state = .pending ∨ d.state = .failedRetryable :=
  h.state.imp And.left And.left

theorem updated (h : EligibleRow E s now d p) : d.updatedAt ≤ now := by
  rcases h.state with ⟨_, hle⟩ | ⟨hretry, hnext⟩
  · exact hle
  · obtain ⟨n, _, hn, _, hle, _⟩ := h.wf.retry hretry
    simp only [hn, Option.any_some, decide_eq_true_eq] at hnext
    omega

theorem readable (h : EligibleRow E s now d p) : ReadablePayload E d p :=
  payloadFromRow_ok (h.wf.payload p h.payload)

theorem authority (h : EligibleRow E s now d p) : authorityFromRow E d p = .ok (rowAuthority E d p) :=
  authorityFromRow_ok.mpr ⟨h.source, h.wf.target, h.readable.payloadDigest, rfl⟩

end EligibleRow

/-- 示された行は、試行か期限が尽きていれば断りで終わり、残っていればそのままである。 -/
theorem terminalizeExactDelivery_eligible {a : ScheduledDeliveryAuthority} (h : EligibleRow E s now d p)
    (hselects : ∀ o ∈ s.deliveries.rows, a.selects o = true ↔ o = d) :
    (d.outOfAttempts || d.pastDeadline now) = true ∧
      (∃ D, terminalizeExactDelivery a d.state now s =
          .ok (true, { s with deliveries := D }) ∧
        ∃ kind, s.deliveries.Replaces d (rejectedRow kind now d) D) ∨
    (d.outOfAttempts || d.pastDeadline now) = false ∧
      terminalizeExactDelivery a d.state now s = .ok (false, s) := by
  have hselected : ∀ o ∈ s.deliveries.rows, (a.selects o && o.state == d.state
      && (d.state == .pending || o.nextAttemptAt.any (· ≤ now))
      && (o.outOfAttempts || o.pastDeadline now)) = true ↔
      o = d ∧ (d.outOfAttempts || d.pastDeadline now) = true := by
    intro o ho
    rw [Bool.and_eq_true, Bool.and_eq_true, Bool.and_eq_true, hselects o ho]
    constructor
    · rintro ⟨⟨⟨rfl, _⟩, _⟩, hspent⟩
      exact ⟨rfl, hspent⟩
    · rintro ⟨rfl, hspent⟩
      refine ⟨⟨⟨rfl, by simp⟩, ?_⟩, hspent⟩
      rcases h.state with ⟨hstate, _⟩ | ⟨_, hnext⟩
      · simp [hstate]
      · simp [hnext]
  cases hspent : (d.outOfAttempts || d.pastDeadline now) with
  | true =>
    refine .inl ⟨rfl, ?_⟩
    have hkind : 0 < sqlLength (if d.pastDeadline now then "delivery_deadline_exceeded"
        else "delivery_retry_exhausted") := by
      split <;> decide
    obtain ⟨D, hupdate, hD⟩ := updateDeliveries_one h.mem
      (fun o ho => (hselected o ho).trans (and_iff_left hspent))
      (f := rejectedRow (fun d => if d.pastDeadline now then "delivery_deadline_exceeded"
        else "delivery_retry_exhausted") now)
      rfl (by simp [rejectedRow])
      (rejectedRow_triggers (by simp [h.payload]) (h.state.imp_left And.left) h.updated hkind)
      (rejectedRow_check h.mem h.updated hkind)
    exact ⟨D, Tx.bind_ok.mpr ⟨_, _, hupdate, rfl⟩, _, hD⟩
  | false =>
    refine .inr ⟨rfl, Tx.bind_ok.mpr ⟨0, s, updateDeliveries_zero ?_, rfl⟩⟩
    intro o ho
    rw [Bool.eq_false_iff, Ne, hselected o ho]
    simp [hspent]

/-! ## 待ちへ戻す -/

theorem EligibleRow.mono {later : Int} (h : EligibleRow E s now d p) (hle : now ≤ later) :
    EligibleRow E s later d p := by
  refine ⟨h.mem, h.wf, h.payload, ?_, h.alone⟩
  rcases h.state with ⟨hstate, hupdated⟩ | ⟨hstate, hnext⟩
  · exact .inl ⟨hstate, by omega⟩
  · refine .inr ⟨hstate, ?_⟩
    obtain ⟨n, hn, hle'⟩ := Option.any_eq_true _ _ |>.mp hnext
    simp only [decide_eq_true_eq] at hle'
    simp only [hn, Option.any_some, decide_eq_true_eq]
    omega

theorem counters_below (hwf : DeliveryWf E d) (hattempts : d.outOfAttempts = false) :
    d.attempt < i64Max ∧ d.fence < i64Max := by
  have hbound := d.policy.deliveryBounds.attempts.2
  simp only [ScheduledDeliveryRow.outOfAttempts, decide_eq_false_iff_not] at hattempts
  rw [hwf.fence]
  unfold i64Max
  omega

theorem activeSibling_replaces {t : Store} (hD : s.deliveries.Replaces d d' t.deliveries)
    (hid : d'.deliveryId = d.deliveryId) (hkey : d'.baselineKey = d.baselineKey)
    (h : activeSibling s d = false) : activeSibling t d' = false := by
  simp only [activeSibling, List.any_eq_false, Bool.and_eq_true, beq_iff_eq, bne_iff_ne] at h ⊢
  rintro o ho ⟨⟨hstate, hne⟩, hsame⟩
  rcases hD.mem.mp ho with rfl | ⟨ho, _⟩
  · exact hne rfl
  · exact h o ho ⟨⟨hstate, hid ▸ hne⟩, hkey ▸ hsame⟩

structure ClaimReady (E : Env) (t : Store) (now : Int) (a : ScheduledDeliveryAuthority)
    (d d₁ : ScheduledDeliveryRow) (p : DeliveryPayloadSnapshot) : Prop where
  wf : DeliveriesWf E t
  row : EligibleRow E t now d₁ p
  pending : d₁.state = .pending
  selects : ∀ o ∈ t.deliveries.rows, a.selects o = true ↔ o = d₁
  deliveryId : d₁.deliveryId = d.deliveryId
  policy : d₁.policy = d.policy
  attempt : d₁.attempt = d.attempt

def requeuesBy (s : Store) (a : ScheduledDeliveryAuthority) (now : Int) (d : ScheduledDeliveryRow) : Bool :=
  a.selects d && d.state == .failedRetryable && d.nextAttemptAt.any (· ≤ now) && !d.outOfAttempts
    && d.attempt < i64Max && d.fence < i64Max && !activeSibling s d && (unchangedBaseline s d).isNone

theorem EligibleRow.next_le (h : EligibleRow E s now d p) (hretry : d.state = .failedRetryable) :
    d.nextAttemptAt.any (· ≤ now) = true := by
  rcases h.state with ⟨hpending, _⟩ | ⟨_, hnext⟩
  · simp [hretry] at hpending
  · exact hnext

theorem requeuesBy_iff (h : EligibleRow E s now d p) (hretry : d.state = .failedRetryable)
    (hattempts : d.outOfAttempts = false) (ho : o ∈ s.deliveries.rows) :
    requeuesBy s (rowAuthority E d p) now o = true ↔ o = d ∧ (unchangedBaseline s d).isNone = true := by
  obtain ⟨hmaxA, hmaxF⟩ := counters_below h.wf hattempts
  simp only [requeuesBy, Bool.and_eq_true, rowAuthority_selects h.mem h.payload ho]
  constructor
  · rintro ⟨⟨⟨⟨⟨⟨⟨rfl, _⟩, _⟩, _⟩, _⟩, _⟩, _⟩, hnone⟩
    exact ⟨rfl, hnone⟩
  · rintro ⟨rfl, hnone⟩
    simp [hretry, h.next_le hretry, hattempts, hmaxA, hmaxF, h.alone, hnone]

theorem terminalizeExactDelivery_unspent (h : EligibleRow E s now d p)
    (hspent : (d.outOfAttempts || d.pastDeadline now) = false) :
    terminalizeExactDelivery (rowAuthority E d p) d.state now s = .ok (false, s) := by
  rcases terminalizeExactDelivery_eligible h fun o ho => rowAuthority_selects h.mem h.payload ho with
    ⟨hyes, _⟩ | ⟨_, hno⟩
  · rw [hspent] at hyes
    cases hyes
  · exact hno

theorem requeueExactRetryableDelivery_kept (h : EligibleRow E s now d p)
    (hretry : d.state = .failedRetryable) (hspent : (d.outOfAttempts || d.pastDeadline now) = false)
    (hunchanged : (unchangedBaseline s d).isSome = true) :
    requeueExactRetryableDelivery (rowAuthority E d p) now s = .ok (false, s) := by
  have hattempts := (Bool.or_eq_false_iff.mp hspent).1
  obtain ⟨hmaxA, hmaxF⟩ := counters_below h.wf hattempts
  have hnone : ∀ o ∈ s.deliveries.rows, requeuesBy s (rowAuthority E d p) now o = false := by
    intro o ho
    rw [Bool.eq_false_iff, Ne, requeuesBy_iff h hretry hattempts ho, Option.isNone_iff_eq_none]
    rintro ⟨_, hempty⟩
    rw [hempty] at hunchanged
    cases hunchanged
  have hempty : s.deliveries.rows.filter (requeuesBy s (rowAuthority E d p) now) = [] := by
    rw [List.filter_eq_nil_iff]
    intro o ho
    simp [hnone o ho]
  have hafter : afterRequeue (s.deliveries.rows.filter (requeuesBy s (rowAuthority E d p) now)) s =
      .ok ((), s) := by
    rw [hempty]
    rfl
  unfold requeueExactRetryableDelivery
  rw [Tx.bind_of_ok (hretry ▸ terminalizeExactDelivery_unspent h hspent)]
  simp only [Bool.false_eq_true, if_false]
  rw [Tx.read_bind_apply]
  refine Tx.bind_ok.mpr ⟨0, s, updateDeliveries_zero hnone, Tx.bind_ok.mpr ⟨(), s, hafter, ?_⟩⟩
  show ((Tx.read _ : StoreTx Bool) >>= _) s = _
  rw [Tx.read_bind_apply]
  refine Tx.require_bind_ok.mpr ⟨?_, rfl⟩
  simp only [Bool.not_eq_true', List.any_eq_false]
  intro o ho hbad
  simp only [Bool.and_eq_true, Bool.or_eq_true, beq_iff_eq, rowAuthority_selects h.mem h.payload ho]
    at hbad
  obtain ⟨⟨⟨rfl, _⟩, _⟩, hmax | hmax⟩ := hbad
  · omega
  · omega

theorem requeueExactRetryableDelivery_requeues (h : EligibleRow E s now d p)
    (hretry : d.state = .failedRetryable) (hspent : (d.outOfAttempts || d.pastDeadline now) = false)
    (hchanged : (unchangedBaseline s d).isNone = true) :
    ∃ t, requeueExactRetryableDelivery (rowAuthority E d p) now s = .ok (true, t) ∧
      s.deliveries.Replaces d (requeuedRow d) t.deliveries ∧
      t.deliveryBaselines = s.deliveryBaselines := by
  have hattempts := (Bool.or_eq_false_iff.mp hspent).1
  obtain ⟨D, hupdate, hD⟩ := updateDeliveries_one h.mem
    (fun o ho => (requeuesBy_iff h hretry hattempts ho).trans (and_iff_left hchanged)) (f := requeuedRow)
    rfl (by simp [requeuedRow]) (requeuedRow_triggers h.mem hretry) (requeuedRow_check h.mem h.wf hretry)
  obtain ⟨t, hafter⟩ : ∃ t, afterRequeue (s.deliveries.rows.filter
      (requeuesBy s (rowAuthority E d p) now)) { s with deliveries := D } = .ok ((), t) := by
    refine afterRequeue_commits ?_
    intro o ho
    obtain ⟨ho, hq⟩ := List.mem_filter.mp ho
    obtain ⟨rfl, _⟩ := (requeuesBy_iff h hretry hattempts ho).mp hq
    obtain ⟨n, hn, _⟩ := Option.any_eq_true _ _ |>.mp (h.next_le hretry)
    simp [hn]
  have hsame := afterRequeue_effect hafter
  refine ⟨t, ?_, hsame.deliveries ▸ hD, hsame.deliveryBaselines⟩
  unfold requeueExactRetryableDelivery
  rw [Tx.bind_of_ok (hretry ▸ terminalizeExactDelivery_unspent h hspent)]
  simp only [Bool.false_eq_true, if_false]
  rw [Tx.read_bind_apply]
  exact Tx.bind_ok.mpr ⟨1, _, hupdate, Tx.bind_ok.mpr ⟨(), t, hafter, rfl⟩⟩

/-- やり直しを待つ行は、基準が変わっていなければ戻されず、変わっていれば取得できる行になる。 -/
theorem requeueFirst_eligible (hI : DeliveriesWf E s) (h : EligibleRow E s now d p)
    (hspent : (d.outOfAttempts || d.pastDeadline now) = false) :
    ((d.state = .failedRetryable ∧ (unchangedBaseline s d).isSome = true) ∧
      requeueFirst (rowAuthority E d p) now s = .ok (false, s)) ∨
    (¬(d.state = .failedRetryable ∧ (unchangedBaseline s d).isSome = true) ∧
      ∃ t d₁, requeueFirst (rowAuthority E d p) now s = .ok (true, t) ∧
        ClaimReady E t now (rowAuthority E d p) d d₁ p ∧
        (unchangedBaseline t d₁).isSome = (unchangedBaseline s d).isSome) := by
  have hsource : (rowAuthority E d p).sourceState = d.state := rfl
  unfold requeueFirst
  rw [hsource]
  rcases h.source with hpending | hretry
  · refine .inr ⟨by simp [hpending], s, d, ?_, ⟨hI, h, hpending, ?_, rfl, rfl, rfl⟩, rfl⟩
    · rw [if_neg (by simp [hpending])]
      rfl
    · exact fun o ho => rowAuthority_selects h.mem h.payload ho
  rw [if_pos hretry]
  cases hunchanged : (unchangedBaseline s d).isSome with
  | true => exact .inl ⟨⟨hretry, rfl⟩, requeueExactRetryableDelivery_kept h hretry hspent hunchanged⟩
  | false =>
    obtain ⟨t, hrun, hD, hbaselines⟩ := requeueExactRetryableDelivery_requeues h hretry hspent
      (by simpa using hunchanged)
    have heffects : Relation.ReflTransGen (Effect E now .queue) s t :=
      requeueExactRetryableDelivery_effects hrun
    have hI' : DeliveriesWf E t := invariant_of_steps (fun _ _ hI heffect => hI.step heffect) hI heffects
    have hmem : requeuedRow d ∈ t.deliveries.rows := hD.mem.mpr (.inl rfl)
    obtain ⟨n, hn, hle⟩ := Option.any_eq_true _ _ |>.mp (h.next_le hretry)
    simp only [decide_eq_true_eq] at hle
    refine .inr ⟨by simp, t, requeuedRow d, hrun, ⟨hI', ⟨hmem, hI'.rows _ hmem, h.payload,
      .inl ⟨rfl, ?_⟩, ?_⟩, rfl, ?_, rfl, rfl, rfl⟩, ?_⟩
    · simpa [requeuedRow, hn] using hle
    · exact activeSibling_replaces hD rfl rfl h.alone
    · intro o ho
      exact rowAuthority_selects (E := E) hmem h.payload ho
    · simp only [unchangedBaseline, hbaselines] at hunchanged ⊢
      exact hunchanged

/-! ## 貸与 -/

theorem deliveryIdempotencyKey_pos (hwf : DeliveryWf E d) : 0 < sqlLength (deliveryIdempotencyKey d) := by
  unfold deliveryIdempotencyKey
  cases hkey : d.idempotencyKey with
  | some key =>
    obtain ⟨p, _, rfl⟩ := hwf.key key hkey
    exact sqlLength_append (sqlLength_append (sqlLength_append (by decide)))
  | none =>
    rw [Option.getD_none]
    exact sqlLength_append (sqlLength_append (sqlLength_append (by decide)))

theorem claimedVersion_nonneg :
    0 ≤ ((acceptedBaselineOf s d).map DeliveryBaselineRow.baselineVersion).getD 0 := by
  cases hb : acceptedBaselineOf s d with
  | none => simp
  | some b =>
    have := s.deliveryBaselines.checked b (List.mem_of_find?_eq_some hb)
    have := (of_decide_eq_true this : b.Check).1.2.2.1
    simp only [Option.map_some, Option.getD_some]
    omega

theorem sendingRow_check {leaseOwner : String} {leaseExpiresAt : Int} (h : EligibleRow E s now d p)
    (hpending : d.state = .pending) (howner : 0 < sqlLength leaseOwner) :
    (sendingRow s leaseOwner leaseExpiresAt now d).Check := by
  have hcreated := delivery_updatedAt h.mem
  have hupdated := h.updated
  obtain ⟨⟨h1, h2, _⟩, h4, ⟨h5, h6, h7, h8, h9, h10, h11, h12, h13, h14, _⟩, _, _, _, _, h18, _, _⟩ :=
    delivery_check h.mem
  have hreceipt : d.providerReceipt = none := h18.resolve_right (by simp [hpending])
  refine ⟨⟨by simp only [sendingRow]; omega, by simp only [sendingRow]; omega,
    by simp only [sendingRow]; omega⟩, h4,
    ⟨h5, h6, h7, h8, h9, h10, h11, h12, h13, h14, .inr (.inr (by simp [sendingRow, h.payload]))⟩,
    .inl ⟨rfl, ⟨_, rfl, howner⟩, rfl, _, rfl, deliveryIdempotencyKey_pos h.wf⟩, .inl rfl, ?_, .inr rfl,
    .inl hreceipt, rfl, .inr ⟨rfl, rfl, rfl⟩⟩
  intro v hv
  simp only [sendingRow, Option.mem_def, Option.some.injEq] at hv
  rw [← hv]
  exact claimedVersion_nonneg

theorem sendingRow_triggers {leaseOwner : String} {leaseExpiresAt : Int} (h : EligibleRow E s now d p)
    (hpending : d.state = .pending) :
    deliveryTriggers s .stateAndClaim d (sendingRow s leaseOwner leaseExpiresAt now d) = none := by
  have hallowed : claimedBaselineAllowed d (sendingRow s leaseOwner leaseExpiresAt now d) = true := by
    simp only [claimedBaselineAllowed, sendingRow, hpending, h.wf.claim hpending, Option.any_some]
    simp [claimedVersion_nonneg]
  have hid : (sendingRow s leaseOwner leaseExpiresAt now d).identity = d.identity := rfl
  simp [deliveryTriggers, hid, hallowed]
  simp [sendingRow, hpending, deliveryTransition]

theorem sendingRow_exists {leaseOwner : String} {leaseExpiresAt : Int} (h : EligibleRow E s now d p)
    (hpending : d.state = .pending) (howner : 0 < sqlLength leaseOwner) :
    ∃ D, s.deliveries.Updates (deliveryTriggers s .stateAndClaim) (fun o => o.deliveryId == d.deliveryId)
      (sendingRow s leaseOwner leaseExpiresAt now) D := by
  have hrow : ∀ o ∈ s.deliveries.rows, (o.deliveryId == d.deliveryId) = true → o = d :=
    fun o ho hid => eq_of_deliveryId h.mem ho (beq_iff_eq.mp hid)
  have hnew : ∀ o ∈ s.deliveries.rows, o ≠ d → scheduledRunDeliveries.conflict d o = false →
      scheduledRunDeliveries.conflict (sendingRow s leaseOwner leaseExpiresAt now d) o = false := by
    intro o ho hne hfree
    have hid : (sendingRow s leaseOwner leaseExpiresAt now d).identity = d.identity := rfl
    have hsending : (sendingRow s leaseOwner leaseExpiresAt now d).sendingKey = d.baselineKey := if_pos rfl
    refine delivery_conflict hid ?_ hfree
    rw [hsending]
    have halone := h.alone
    simp only [activeSibling, List.any_eq_false, Bool.and_eq_true, beq_iff_eq, bne_iff_ne] at halone
    by_cases hstate : o.state = .sending
    · have hother : o.deliveryId ≠ d.deliveryId := fun hid => hne (eq_of_deliveryId h.mem ho hid)
      have hkey : sameKey o.baselineKey d.baselineKey = false := by
        rw [Bool.eq_false_iff]
        exact fun hsame => halone o ho ⟨⟨hstate, hother⟩, hsame⟩
      rw [sameKey_comm, show o.sendingKey = o.baselineKey from if_pos hstate]
      exact hkey
    · rw [sendingKey_none hstate, sameKey_comm]
      rfl
  refine Table.exists_updates ?_ ?_ (s.deliveries.pairwise_rewrite ?_)
  · intro o ho hid
    rw [hrow o ho hid]
    exact sendingRow_triggers h hpending
  · intro o ho hid
    rw [hrow o ho hid]
    exact decide_eq_true (sendingRow_check h hpending howner)
  · intro a ha b hb hab
    have hself : scheduledRunDeliveries.conflict d d = true := by simp [scheduledRunDeliveries]
    split
    · rename_i hida
      obtain rfl := hrow a ha hida
      split
      · rename_i hidb
        rw [hrow b hb hidb, hself] at hab
        cases hab
      · rename_i hidb
        refine hnew b hb ?_ hab
        rintro rfl
        simp at hidb
    · rename_i hida
      split
      · rename_i hidb
        obtain rfl := hrow b hb hidb
        rw [scheduledRunDeliveries.conflict_symm] at hab ⊢
        refine hnew a ha ?_ hab
        rintro rfl
        simp at hida
      · exact hab

theorem sendingAttempt_exists {leaseOwner : String} {leaseExpiresAt : Int} (hI : DeliveriesWf E s)
    (h : EligibleRow E s now d p) (howner : 0 < sqlLength leaseOwner) (hlease : now < leaseExpiresAt) :
    ∃ A, s.deliveryAttempts.Inserts noInsertTrigger (sendingAttempt s leaseOwner leaseExpiresAt now d) A := by
  obtain ⟨⟨h1, h2, _⟩, _⟩ := delivery_check h.mem
  refine Table.exists_inserts rfl (decide_eq_true ?_) ?_
  · exact ⟨⟨by simp only [sendingAttempt]; omega, by simp only [sendingAttempt]; omega,
      claimedVersion_nonneg⟩, ⟨howner, hlease⟩, deliveryIdempotencyKey_pos h.wf, by simp [sendingAttempt],
      by simp [sendingAttempt], .inl rfl, rfl⟩
  · intro o ho
    obtain ⟨x, hx, hid, hattempt, hfence⟩ := hI.covered o ho
    by_cases hsame : o.deliveryId = d.deliveryId
    · obtain rfl := eq_of_deliveryId h.mem hx (hid.trans hsame)
      have hne : o.attempt ≠ x.attempt + 1 ∧ o.fence ≠ x.fence + 1 := by omega
      simp [scheduledDeliveryAttempts, sendingAttempt, hne]
    · simp [scheduledDeliveryAttempts, sendingAttempt, hsame]

def claimedOf (leaseOwner : String) (d : ScheduledDeliveryRow) (p : DeliveryPayloadSnapshot) :
    ClaimedScheduledDelivery where
  binding :=
    { deliveryId := d.deliveryId, attempt := d.attempt + 1, fence := d.fence + 1, leaseOwner,
      idempotencyKey := deliveryIdempotencyKey d }
  payload := p
  targetJson := targetJson d.target
  policy := d.policy

/-- 待っている行の貸与は、持ち主の名と期限が正しければ、引き金にも検査にも断られない。 -/
theorem leaseDelivery_commits {leaseOwner : String} {leaseExpiresAt : Int} (hI : DeliveriesWf E s)
    (h : EligibleRow E s now d p) (hpending : d.state = .pending) (hlease : now < leaseExpiresAt)
    (howner : 0 < sqlLength leaseOwner) :
    ∃ t, leaseDelivery E leaseOwner leaseExpiresAt now d p s = .ok (claimedOf leaseOwner d p, t) ∧
      s.deliveries.Replaces d (sendingRow s leaseOwner leaseExpiresAt now d) t.deliveries := by
  obtain ⟨A, hA⟩ := sendingAttempt_exists hI h howner hlease
  obtain ⟨D, hD⟩ : ∃ D, s.deliveries.Updates (deliveryTriggers s .stateAndClaim)
      (fun o => o.deliveryId == d.deliveryId) (sendingRow s leaseOwner leaseExpiresAt now) D :=
    sendingRow_exists h hpending howner
  refine ⟨{ s with deliveries := D, deliveryAttempts := A }, ?_, ?_⟩
  · unfold leaseDelivery
    rw [Tx.read_bind_apply]
    refine Tx.bind_ok.mpr ⟨_, _, updateDeliveries_ok.mpr ⟨D, hD, rfl, rfl⟩, ?_⟩
    refine Tx.bind_ok.mpr ⟨(), _, insertDeliveryAttempt_ok.mpr ⟨A, hA, rfl⟩, ?_⟩
    refine Tx.check_bind_ok.mpr ⟨(), h.wf.payload p h.payload, ?_⟩
    exact Tx.check_bind_ok.mpr ⟨(), h.wf.target, rfl⟩
  · exact deliveries_replaces d.deliveryId hD.toRewrites (fun o ho => beq_iff_eq.mp ho) h.mem (by simp)

theorem leaseDelivery_blankOwner {leaseOwner : String} {leaseExpiresAt : Int}
    (h : EligibleRow E s now d p) (howner : sqlLength leaseOwner = 0) :
    ∃ v, leaseDelivery E leaseOwner leaseExpiresAt now d p s = .error (.scheduler v) := by
  have hupdate : ∀ out, updateDeliveries .stateAndClaim (fun o => o.deliveryId == d.deliveryId)
      (sendingRow s leaseOwner leaseExpiresAt now) s ≠ .ok out := by
    rintro ⟨n, t⟩ hok
    obtain ⟨D, hD, _, _⟩ := updateDeliveries_ok.mp hok
    have hcheck : (sendingRow s leaseOwner leaseExpiresAt now d).Check :=
      of_decide_eq_true (hD.check h.mem (by simp))
    obtain ⟨_, _, _, hlease, _⟩ := hcheck
    rcases hlease with ⟨_, ⟨owner, hmem, hpos⟩, _⟩ | ⟨hne, _⟩
    · simp only [sendingRow, Option.mem_def, Option.some.injEq] at hmem
      rw [← hmem, howner] at hpos
      exact absurd hpos (lt_irrefl 0)
    · exact hne rfl
  unfold leaseDelivery
  rw [Tx.read_bind_apply]
  cases hrun : updateDeliveries .stateAndClaim (fun o => o.deliveryId == d.deliveryId)
      (sendingRow (id s) leaseOwner leaseExpiresAt now) s with
  | ok out => exact absurd hrun (hupdate out)
  | error e =>
    rw [Tx.bind_of_error hrun]
    obtain ⟨v, rfl⟩ := statement_error hrun
    exact ⟨v, rfl⟩

end Codeoff.State
