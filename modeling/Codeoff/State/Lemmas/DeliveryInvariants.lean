import Codeoff.State.Lemmas.System

/-!
# 配送の不変条件

到達するどの状態でも、配送の行は読み戻せる本文と宛先を持ち、待ちと失敗の列は次の文の条件に合っている。
-/

namespace Codeoff.State

open Codeoff.Core Codeoff.Relational

variable {E : Env} {s s' : Store} {now : Int} {k : Origin} {d d' : ScheduledDeliveryRow}
  {a a' : DeliveryAttemptRow}

def deliveryKeyText (d : ScheduledDeliveryRow) (p : DeliveryPayloadSnapshot) : String :=
  "delivery-v1:" ++ lowerHex d.deliveryId ++ ":" ++ p.digest

structure DeliveryWf (E : Env) (d : ScheduledDeliveryRow) : Prop where
  target : validateTargetSnapshot E d = .ok ()
  payload : ∀ p, d.payload = some p → payloadFromRow E d p = .ok ()
  claim : d.state = .pending → d.claimedBaselineVersion = none
  retry : d.state = .failedRetryable → ∃ n p, d.nextAttemptAt = some n ∧ d.payload = some p ∧
    d.updatedAt ≤ n ∧ d.policy.1.deliveryCanRetryAt d.attempt p.createdAt n = true
  fence : d.fence = d.attempt
  key : ∀ key, d.idempotencyKey = some key → ∃ p, d.payload = some p ∧ key = deliveryKeyText d p

theorem delivery_check (h : d ∈ s.deliveries.rows) : d.Check := of_decide_eq_true (s.deliveries.checked d h)

theorem deliveryAttempt_check (h : a ∈ s.deliveryAttempts.rows) : a.Check :=
  of_decide_eq_true (s.deliveryAttempts.checked a h)

theorem validateTargetSnapshot_congr (h : d'.identity = d.identity) :
    validateTargetSnapshot E d' = validateTargetSnapshot E d := by
  simp only [ScheduledDeliveryRow.identity, DeliveryIdentity.mk.injEq] at h
  obtain ⟨_, _, _, hdigest, htarget, _, _, _, _, hsnapshot, _⟩ := h
  simp only [validateTargetSnapshot, hdigest, htarget, hsnapshot]

theorem payloadFromRow_congr {p : DeliveryPayloadSnapshot} (h : d'.identity = d.identity) :
    payloadFromRow E d' p = payloadFromRow E d p := by
  simp only [ScheduledDeliveryRow.identity, DeliveryIdentity.mk.injEq] at h
  obtain ⟨hid, hrun, _, hdigest, _, hversion, hartifact, _, _, hsnapshot, _⟩ := h
  simp only [payloadFromRow, validateSnapshot, hid, hrun, hdigest, hversion, hartifact, hsnapshot]

theorem ScheduledDeliveryRow.deliveryId_of_identity (h : d'.identity = d.identity) :
    d'.deliveryId = d.deliveryId :=
  congrArg DeliveryIdentity.deliveryId h

/-- 行の同一性を保つ書き換えは、残る欄の条件だけを確かめればよい。 -/
theorem DeliveryWf.of_same (h : DeliveryWf E d) (same : SameDelivery d d')
    (claim : d'.state = .pending → d'.claimedBaselineVersion = none)
    (retry : d'.state = .failedRetryable → ∃ n p, d'.nextAttemptAt = some n ∧ d.payload = some p ∧
      d'.updatedAt ≤ n ∧ d.policy.1.deliveryCanRetryAt d.attempt p.createdAt n = true) :
    DeliveryWf E d' where
  target := (validateTargetSnapshot_congr same.identity).trans h.target
  payload p hp := (payloadFromRow_congr same.identity).trans (h.payload p (same.payload ▸ hp))
  claim := claim
  retry hstate := by
    rw [same.policy, same.payload, same.attempt]
    exact retry hstate
  fence := by rw [same.fence, same.attempt, h.fence]
  key key hkey := by
    obtain ⟨p, hp, rfl⟩ := h.key key (same.key ▸ hkey)
    refine ⟨p, same.payload.trans hp, ?_⟩
    rw [deliveryKeyText, deliveryKeyText, ScheduledDeliveryRow.deliveryId_of_identity same.identity]

theorem intentFor_wf {b : RunLeaseBinding} {policy : Policy} {completedAt : Int}
    {t : DeliveryTargetSnapshot} : DeliveryWf E (intentFor E b policy completedAt t) := by
  refine ⟨?_, ?_, fun _ => rfl, ?_, rfl, ?_⟩
  · simp only [validateTargetSnapshot, intentFor, intentTarget, deliveryIntent, ne_eq,
      not_true_eq_false, if_false]
    rfl
  · simp [intentFor, deliveryIntent]
  · simp [intentFor, deliveryIntent]
  · simp [intentFor, deliveryIntent]

theorem DeliveryChange.identity (h : DeliveryChange E k s d d') : d'.identity = d.identity := by
  cases h with
  | prepared pending fresh readable => rfl
  | skipped queue pending unchanged state same => exact same.identity
  | failed source state same => exact same.identity
  | requeued source state claim same => exact same.identity

theorem DeliveryChange.counters (h : DeliveryChange E k s d d') :
    d'.attempt = d.attempt ∧ d'.fence = d.fence := by
  cases h with
  | prepared pending fresh readable => exact ⟨rfl, rfl⟩
  | skipped queue pending unchanged state same => exact ⟨same.attempt, same.fence⟩
  | failed source state same => exact ⟨same.attempt, same.fence⟩
  | requeued source state claim same => exact ⟨same.attempt, same.fence⟩

theorem DeliveryChange.not_sending (h : DeliveryChange E k s d d') : d'.state ≠ .sending := by
  cases h with
  | prepared pending fresh readable =>
    simp only [preparedRow]
    split <;> simp
  | skipped queue pending unchanged state same => simp [state]
  | failed source state same => simp [state]
  | requeued source state claim same => simp [state]

theorem DeliveryChange.wf (h : DeliveryChange E k s d d') (hd : DeliveryWf E d) : DeliveryWf E d' := by
  cases h with
  | prepared pending fresh readable =>
    refine ⟨hd.target, ?_, fun _ => hd.claim pending, ?_, hd.fence, ?_⟩
    · intro q hq
      cases hq
      exact readable
    · simp only [preparedRow]
      split <;> simp
    · intro key hkey
      obtain ⟨q, hq, _⟩ := hd.key key hkey
      simp [fresh] at hq
  | skipped queue pending unchanged state same => exact hd.of_same same (by simp [state]) (by simp [state])
  | failed source state same => exact hd.of_same same (by simp [state]) (by simp [state])
  | requeued source state claim same => exact hd.of_same same (fun _ => claim) (by simp [state])

theorem SendChange.same (h : SendChange d a d' a') : SameDelivery d d' := by
  cases h with
  | extended updated => exact ⟨rfl, rfl, rfl, rfl, rfl, rfl⟩
  | settled same state retry id outcome => exact same

theorem SendChange.attempt (h : SendChange d a d' a') :
    a'.deliveryId = a.deliveryId ∧ a'.attempt = a.attempt ∧ a'.fence = a.fence := by
  cases h with
  | extended updated => exact ⟨rfl, rfl, rfl⟩
  | settled same state retry id outcome => exact id

theorem SendChange.wf (h : SendChange d a d' a') (hsending : d.state = .sending) (hd : DeliveryWf E d) :
    DeliveryWf E d' := by
  cases h with
  | extended updated =>
    refine hd.of_same ⟨rfl, rfl, rfl, rfl, rfl, rfl⟩ ?_ ?_
    · simp [extendedDelivery, hsending]
    · simp [extendedDelivery, hsending]
  | settled same state retry id outcome => exact hd.of_same same (fun h => absurd h state.2) retry

structure SendsAs (d : ScheduledDeliveryRow) (a : DeliveryAttemptRow) : Prop where
  deliveryId : a.deliveryId = d.deliveryId
  attempt : a.attempt = d.attempt
  fence : a.fence = d.fence
  leaseOwner : d.leaseOwner = some a.leaseOwner
  key : d.idempotencyKey = some a.idempotencyKey
  leaseExpiresAt : d.leaseExpiresAt = some a.leaseExpiresAt
  state : a.state = .sending
  owner : validateText "scheduled delivery lease owner" a.leaseOwner = .ok ()
  claim : d.claimedBaselineVersion = some a.claimedBaselineVersion
  started : 0 ≤ a.startedAt ∧ a.startedAt ≤ d.updatedAt

structure DeliveriesWf (E : Env) (s : Store) : Prop where
  rows : ∀ d ∈ s.deliveries.rows, DeliveryWf E d
  /-- 試行には配送の行があり、その番号を超えない。 -/
  covered : ∀ a ∈ s.deliveryAttempts.rows, ∃ d ∈ s.deliveries.rows, d.deliveryId = a.deliveryId ∧
    a.attempt ≤ d.attempt ∧ a.fence ≤ d.fence
  sending : ∀ d ∈ s.deliveries.rows, d.state = .sending → ∃ a ∈ s.deliveryAttempts.rows, SendsAs d a

theorem DeliveriesWf.empty (E : Env) : DeliveriesWf E .empty := by
  refine ⟨?_, ?_, ?_⟩ <;> simp [Store.empty]

theorem DeliveriesWf.of_same (h : DeliveriesWf E s) (hd : s'.deliveries = s.deliveries)
    (ha : s'.deliveryAttempts = s.deliveryAttempts) : DeliveriesWf E s' := by
  refine ⟨?_, ?_, ?_⟩ <;> rw [hd]
  · exact h.rows
  · rw [ha]
    exact h.covered
  · rw [ha]
    exact h.sending

/-! ## 効果ごとの保存 -/

variable {D : Table scheduledRunDeliveries} {A : Table scheduledDeliveryAttempts}

theorem covered_replaces (hD : s.deliveries.Replaces d d' D) (hid : d'.deliveryId = d.deliveryId)
    (hattempt : d.attempt ≤ d'.attempt) (hfence : d.fence ≤ d'.fence)
    (h : ∃ o ∈ s.deliveries.rows, o.deliveryId = a.deliveryId ∧ a.attempt ≤ o.attempt ∧
      a.fence ≤ o.fence) :
    ∃ o ∈ D.rows, o.deliveryId = a.deliveryId ∧ a.attempt ≤ o.attempt ∧ a.fence ≤ o.fence := by
  obtain ⟨o, ho, hoid, hoattempt, hofence⟩ := h
  by_cases hod : o = d
  · subst hod
    exact ⟨d', hD.mem.mpr (.inl rfl), hid.trans hoid, by omega, by omega⟩
  · exact ⟨o, hD.mem.mpr (.inr ⟨ho, hod⟩), hoid, hoattempt, hofence⟩

theorem DeliveriesWf.accepted {targets : List DeliveryTargetSnapshot} {b : RunLeaseBinding}
    {policy : Policy} {completedAt : Int} (h : DeliveriesWf E s)
    (hD : D.rows = s.deliveries.rows ++ targets.map (intentFor E b policy completedAt)) :
    DeliveriesWf E { s with deliveries := D } := by
  refine ⟨?_, ?_, ?_⟩
  · intro d hd
    rcases List.mem_append.mp (hD ▸ hd) with hd | hd
    · exact h.rows d hd
    · obtain ⟨t, _, rfl⟩ := List.mem_map.mp hd
      exact intentFor_wf
  · intro a ha
    obtain ⟨d, hd, hcovers⟩ := h.covered a ha
    exact ⟨d, hD ▸ List.mem_append_left _ hd, hcovers⟩
  · intro d hd hsending
    rcases List.mem_append.mp (hD ▸ hd) with hd | hd
    · exact h.sending d hd hsending
    · obtain ⟨t, _, rfl⟩ := List.mem_map.mp hd
      cases hsending

theorem DeliveriesWf.delivery {p : ScheduledDeliveryRow → Bool}
    {f : ScheduledDeliveryRow → ScheduledDeliveryRow} (h : DeliveriesWf E s)
    (hD : s.deliveries.Rewrites p f D)
    (hchange : ∀ d ∈ s.deliveries.rows, p d = true → DeliveryChange E k s d (f d)) :
    DeliveriesWf E { s with deliveries := D } := by
  refine ⟨?_, ?_, ?_⟩
  · intro d hd
    rcases hD.mem.mp hd with ⟨o, ho, hp, rfl⟩ | ⟨hd, _⟩
    · exact (hchange o ho hp).wf (h.rows o ho)
    · exact h.rows d hd
  · intro a ha
    obtain ⟨d, hd, hid, hattempt, hfence⟩ := h.covered a ha
    cases hp : p d with
    | true =>
      obtain ⟨hsameA, hsameF⟩ := (hchange d hd hp).counters
      exact ⟨f d, hD.mem_image hd hp,
        (ScheduledDeliveryRow.deliveryId_of_identity (hchange d hd hp).identity).trans hid,
        by omega, by omega⟩
    | false => exact ⟨d, hD.mem_of_not hd hp, hid, hattempt, hfence⟩
  · intro d hd hsending
    rcases hD.mem.mp hd with ⟨o, ho, hp, rfl⟩ | ⟨hd, _⟩
    · exact absurd hsending (hchange o ho hp).not_sending
    · exact h.sending d hd hsending

theorem DeliveriesWf.sent {leaseOwner : String} {leaseExpiresAt at_ : Int} (h : DeliveriesWf E s)
    (howner : validateText "scheduled delivery lease owner" leaseOwner = .ok ()) (htime : 0 ≤ at_)
    (hpayload : d.payload.isSome = true)
    (hD : s.deliveries.Replaces d (sendingRow s leaseOwner leaseExpiresAt at_ d) D)
    (hA : s.deliveryAttempts.Appends (sendingAttempt s leaseOwner leaseExpiresAt at_ d) A) :
    DeliveriesWf E { s with deliveries := D, deliveryAttempts := A } := by
  have hd := h.rows d hD.mem_old
  have hnew : sendingRow s leaseOwner leaseExpiresAt at_ d ∈ D.rows := hD.mem.mpr (.inl rfl)
  refine ⟨?_, ?_, ?_⟩
  · intro o ho
    rcases hD.mem.mp ho with rfl | ⟨ho, _⟩
    · have hkey : ∀ key, (sendingRow s leaseOwner leaseExpiresAt at_ d).idempotencyKey = some key →
          ∃ p, d.payload = some p ∧ key = deliveryKeyText d p := by
        intro key hkey
        obtain ⟨p, hp⟩ := Option.isSome_iff_exists.mp hpayload
        cases hold : d.idempotencyKey with
        | some old =>
          simp only [sendingRow, deliveryIdempotencyKey, hold, Option.getD_some] at hkey
          cases hkey
          exact hd.key key hold
        | none =>
          simp only [sendingRow, deliveryIdempotencyKey, hold, hp, Option.getD_none, Option.map_some,
            Option.getD_some] at hkey
          cases hkey
          exact ⟨p, hp, rfl⟩
      refine ⟨hd.target, hd.payload, ?_, ?_, ?_, hkey⟩
      · intro hpending
        cases hpending
      · intro hretry
        cases hretry
      · simp only [sendingRow, hd.fence]
    · exact h.rows o ho
  · intro a ha
    rcases hA.mem.mp ha with ha | rfl
    · exact covered_replaces hD rfl (by simp only [sendingRow]; omega) (by simp only [sendingRow]; omega)
        (h.covered a ha)
    · exact ⟨_, hnew, rfl, le_refl _, le_refl _⟩
  · intro o ho hsending
    rcases hD.mem.mp ho with rfl | ⟨ho, _⟩
    · exact ⟨_, hA.mem.mpr (.inr rfl), rfl, rfl, rfl, rfl, rfl, rfl, rfl, howner, rfl, htime, le_refl at_⟩
    · obtain ⟨a, ha, hsends⟩ := h.sending o ho hsending
      exact ⟨a, hA.mem.mpr (.inl ha), hsends⟩

theorem sending_replaces {o : ScheduledDeliveryRow} (hA : s.deliveryAttempts.Replaces a a' A)
    (h : ∃ x ∈ s.deliveryAttempts.rows, SendsAs o x) (hne : ∀ x, SendsAs o x → x ≠ a) :
    ∃ x ∈ A.rows, SendsAs o x := by
  obtain ⟨x, hx, hsends⟩ := h
  exact ⟨x, hA.mem.mpr (.inr ⟨hx, hne x hsends⟩), hsends⟩

theorem DeliveriesWf.sends {b : ScheduledDeliveryBinding} (h : DeliveriesWf E s)
    (owns : b.ownsDelivery d = true) (state : d.state = .sending) (attempt : b.ownsAttempt a = true)
    (change : SendChange d a d' a') (hD : s.deliveries.Replaces d d' D)
    (hA : s.deliveryAttempts.Replaces a a' A) :
    DeliveriesWf E { s with deliveries := D, deliveryAttempts := A } := by
  have hd := h.rows d hD.mem_old
  have hsame := change.same
  have hid := ScheduledDeliveryRow.deliveryId_of_identity hsame.identity
  obtain ⟨hown1, _, _, hown4, hown5⟩ := ScheduledDeliveryBinding.ownsDelivery_iff.mp owns
  obtain ⟨hatt1, hatt2, hatt3, hatt4, hatt5⟩ := ScheduledDeliveryBinding.ownsAttempt_iff.mp attempt
  refine ⟨?_, ?_, ?_⟩
  · intro o ho
    rcases hD.mem.mp ho with rfl | ⟨ho, _⟩
    · exact change.wf state hd
    · exact h.rows o ho
  · intro x hx
    have hcovered : ∀ y ∈ s.deliveryAttempts.rows, ∃ o ∈ D.rows, o.deliveryId = y.deliveryId ∧
        y.attempt ≤ o.attempt ∧ y.fence ≤ o.fence := by
      intro y hy
      exact covered_replaces hD hid (le_of_eq hsame.attempt.symm) (le_of_eq hsame.fence.symm)
        (h.covered y hy)
    rcases hA.mem.mp hx with rfl | ⟨hx, _⟩
    · obtain ⟨hxid, hxattempt, hxfence⟩ := change.attempt
      rw [hxid, hxattempt, hxfence]
      exact hcovered a hA.mem_old
    · exact hcovered x hx
  · intro o ho hsending
    rcases hD.mem.mp ho with rfl | ⟨ho, hne⟩
    · cases change with
      | extended updated =>
        obtain ⟨x, hx, hsends⟩ := h.sending d hD.mem_old state
        have hxa : x = a := by
          refine s.deliveryAttempts.eq_of_conflict hx hA.mem_old ?_
          simp [scheduledDeliveryAttempts, hsends.deliveryId, hsends.attempt, hatt1, hatt2, hown1,
            (ScheduledDeliveryBinding.ownsDelivery_iff.mp owns).2.1]
        subst hxa
        exact ⟨_, hA.mem.mpr (.inl rfl), hsends.deliveryId, hsends.attempt, hsends.fence,
          hsends.leaseOwner, hsends.key, rfl, hsends.state, hsends.owner, hsends.claim,
          hsends.started.1, hsends.started.2.trans updated⟩
      | settled same settledState retry id outcome => exact absurd hsending settledState.1
    · refine sending_replaces hA (h.sending o ho hsending) ?_
      rintro x hsends rfl
      exact hne (eq_of_deliveryId hD.mem_old ho
        (by rw [← hsends.deliveryId, hatt1, hown1]))

theorem DeliveriesWf.resolved (h : DeliveriesWf E s)
    (state : d'.state = .delivered ∨ d'.state = .failedTerminal ∨
      (d'.state = .pending ∧ d'.claimedBaselineVersion = none))
    (same : SameDelivery d d') (hD : s.deliveries.Replaces d d' D)
    (hA : (d'.state = .pending ∧ A = s.deliveryAttempts) ∨ ∃ a a',
      s.deliveryAttempts.Replaces a a' A ∧ ResolvesAttempt d d' a a') :
    DeliveriesWf E { s with deliveries := D, deliveryAttempts := A } := by
  have hid := ScheduledDeliveryRow.deliveryId_of_identity same.identity
  refine ⟨?_, ?_, ?_⟩
  · intro o ho
    rcases hD.mem.mp ho with rfl | ⟨ho, _⟩
    · refine (h.rows d hD.mem_old).of_same same ?_ ?_
      · intro hpending
        rcases state with hs | hs | hs
        · simp [hs] at hpending
        · simp [hs] at hpending
        · exact hs.2
      · intro hretry
        rcases state with hs | hs | hs <;> simp [hs] at hretry
    · exact h.rows o ho
  · intro x hx
    have hcovered : ∀ y ∈ s.deliveryAttempts.rows, ∃ o ∈ D.rows, o.deliveryId = y.deliveryId ∧
        y.attempt ≤ o.attempt ∧ y.fence ≤ o.fence := by
      intro y hy
      exact covered_replaces hD hid (le_of_eq same.attempt.symm) (le_of_eq same.fence.symm)
        (h.covered y hy)
    rcases hA with ⟨_, rfl⟩ | ⟨a, a', hA, hresolves⟩
    · exact hcovered x hx
    · rcases hA.mem.mp hx with rfl | ⟨hx, _⟩
      · rw [hresolves.id.1, hresolves.id.2.1, hresolves.id.2.2]
        exact hcovered a hA.mem_old
      · exact hcovered x hx
  · intro o ho hsending
    rcases hD.mem.mp ho with rfl | ⟨hold, _⟩
    · rcases state with hs | hs | hs <;> simp [hs] at hsending
    · rcases hA with ⟨_, rfl⟩ | ⟨a, a', hA, hresolves⟩
      · exact h.sending o hold hsending
      · refine sending_replaces hA (h.sending o hold hsending) ?_
        rintro x hsends rfl
        have hunknown := hresolves.unknown
        simp [hsends.state] at hunknown

theorem mem_deliveries_pruned {runId : String} :
    d ∈ (deleteRunHistory runId s).deliveries.rows ↔ d ∈ s.deliveries.rows ∧ d.runId ≠ runId := by
  simp [deleteRunHistory, deleteRunRows, List.mem_filter]

theorem mem_deliveryAttempts_pruned {runId : String} :
    a ∈ (deleteRunHistory runId s).deliveryAttempts.rows ↔ a ∈ s.deliveryAttempts.rows ∧
      ∀ o ∈ s.deliveries.rows, o.runId = runId → o.deliveryId ≠ a.deliveryId := by
  simp [deleteRunHistory, deleteRunRows, List.mem_filter]

theorem deliveryAttempt_survives {runId : String} (hd : d ∈ s.deliveries.rows) (hrun : d.runId ≠ runId)
    (ha : a ∈ s.deliveryAttempts.rows) (hid : a.deliveryId = d.deliveryId) :
    a ∈ (deleteRunHistory runId s).deliveryAttempts.rows := by
  refine mem_deliveryAttempts_pruned.mpr ⟨ha, ?_⟩
  intro o ho horun hoid
  rw [eq_of_deliveryId hd ho (hoid.trans hid)] at horun
  exact hrun horun

theorem DeliveriesWf.prunedHistory {runId : String} (h : DeliveriesWf E s) :
    DeliveriesWf E (deleteRunHistory runId s) := by
  refine ⟨fun o ho => h.rows o (mem_deliveries_pruned.mp ho).1, ?_, ?_⟩
  · intro x hx
    obtain ⟨hx, hother⟩ := mem_deliveryAttempts_pruned.mp hx
    obtain ⟨o, ho, hid, hle⟩ := h.covered x hx
    exact ⟨o, mem_deliveries_pruned.mpr ⟨ho, fun hrun => hother o ho hrun hid⟩, hid, hle⟩
  · intro o ho hsending
    obtain ⟨ho, hrun⟩ := mem_deliveries_pruned.mp ho
    obtain ⟨x, hx, hsends⟩ := h.sending o ho hsending
    exact ⟨x, deliveryAttempt_survives ho hrun hx hsends.deliveryId, hsends⟩

/-- どの効果も、配送の行の整合を保つ。効果の種類で場合を分ける。 -/
theorem DeliveriesWf.step (h : DeliveriesWf E s) (heffect : Effect E now k s s') :
    DeliveriesWf E s' := by
  cases heffect with
  | aside same => exact h.of_same same.deliveries same.deliveryAttempts
  | accepted owns executing current artifacts baseline baselines deliveries attempts runs =>
    exact (h.accepted deliveries).of_same rfl rfl
  | delivery rewrites change baselines => exact (h.delivery rewrites change).of_same rfl rfl
  | sent owner time pending payload alone changed deliveries attempts =>
    exact h.sent owner time payload deliveries attempts
  | sending owns state attempt change deliveries attempts baselines =>
    exact (h.sends owns state attempt change deliveries attempts).of_same rfl rfl
  | resolved origin unknown state resend same deliveries attempts baselines =>
    exact (h.resolved state same deliveries attempts).of_same rfl rfl
  | prunedHistory settled => exact h.prunedHistory
  | _ => exact h.of_same rfl rfl

theorem Reachable.deliveriesWf (h : Reachable E s) : DeliveriesWf E s :=
  h.invariant (.empty E) fun hI heffect => hI.step heffect

end Codeoff.State
