import Codeoff.State.Lemmas.DeliveryInvariants

/-!
# 送信の履歴

配送が次の試行を送るのは、前の試行が書き込みなしの失敗に終わったか、結果の分からないまま運用者が再送を命じたときだけである。
-/

namespace Codeoff.State

open Codeoff.Core Codeoff.Relational

variable {E : Env} {s s' t : Store} {now : Int} {k : Origin} {d d' : ScheduledDeliveryRow}
  {a a' : DeliveryAttemptRow} {D : Table scheduledRunDeliveries} {A : Table scheduledDeliveryAttempts}

def ForcedResend (s : Store) (a : DeliveryAttemptRow) : Prop :=
  ∃ x ∈ s.operatorActions.rows, x.action = .forceDeliveryResend ∧ x.duplicateRiskAcknowledged = true ∧
    x.targetKind = .delivery ∧ x.targetId = a.deliveryId ∧ x.expectedAttempt = a.attempt ∧
    x.beforeState = .delivery .deliveryUnknown

def Resendable (s : Store) (a : DeliveryAttemptRow) : Prop :=
  a.state = .failedRetryable ∨ (a.state = .deliveryUnknown ∧ ForcedResend s a)

def CurrentSend (d : ScheduledDeliveryRow) (a : DeliveryAttemptRow) : Prop :=
  a.deliveryId = d.deliveryId ∧ a.attempt = d.attempt

def ScheduledDeliveryState.isWaiting (s : ScheduledDeliveryState) : Bool :=
  s == .pending || s == .failedRetryable

def MaySend (s : Store) (d : ScheduledDeliveryRow) : Prop :=
  d.attempt = 0 ∨ ∃ a ∈ s.deliveryAttempts.rows, CurrentSend d a ∧ Resendable s a

structure SendHistory (s : Store) : Prop where
  waiting : ∀ d ∈ s.deliveries.rows, d.state.isWaiting = true → MaySend s d
  unknown : ∀ d ∈ s.deliveries.rows, d.state = .deliveryUnknown →
    ∃ a ∈ s.deliveryAttempts.rows, CurrentSend d a ∧ a.state = .deliveryUnknown
  past : ∀ a ∈ s.deliveryAttempts.rows, ∀ d ∈ s.deliveries.rows, d.deliveryId = a.deliveryId →
    a.attempt < d.attempt → Resendable s a

theorem Resendable.mono (h : Resendable s a) (hx : ∀ x ∈ s.operatorActions.rows, x ∈ t.operatorActions.rows) :
    Resendable t a := by
  rcases h with hstate | ⟨hstate, x, hmem, hforced⟩
  · exact .inl hstate
  · exact .inr ⟨hstate, x, hx x hmem, hforced⟩

theorem isWaiting_iff {state : ScheduledDeliveryState} :
    state.isWaiting = true ↔ state = .pending ∨ state = .failedRetryable := by
  cases state <;> simp [ScheduledDeliveryState.isWaiting]

theorem SendHistory.of_same (h : SendHistory s) (hd : t.deliveries = s.deliveries)
    (ha : t.deliveryAttempts = s.deliveryAttempts)
    (hx : ∀ x ∈ s.operatorActions.rows, x ∈ t.operatorActions.rows) : SendHistory t := by
  refine ⟨?_, ?_, ?_⟩
  · rw [hd]
    intro d hd hwaiting
    rcases h.waiting d hd hwaiting with hzero | ⟨a, hmem, hcurrent, hresend⟩
    · exact .inl hzero
    · exact .inr ⟨a, ha ▸ hmem, hcurrent, hresend.mono hx⟩
  · rw [hd, ha]
    exact h.unknown
  · rw [hd, ha]
    intro a hmem d hd hid hlt
    exact (h.past a hmem d hd hid hlt).mono hx

theorem DeliveryChange.waits (h : DeliveryChange E k s d d') : d.state.isWaiting = true := by
  rw [isWaiting_iff]
  cases h with
  | prepared pending fresh readable => exact .inl pending
  | skipped queue pending unchanged state same => exact .inl pending
  | failed source state same => exact source
  | requeued source state claim same => exact .inr source

theorem DeliveryChange.not_unknown (h : DeliveryChange E k s d d') : d'.state ≠ .deliveryUnknown := by
  cases h with
  | prepared pending fresh readable =>
    simp only [preparedRow]
    split <;> simp
  | skipped queue pending unchanged state same => simp [state]
  | failed source state same => simp [state]
  | requeued source state claim same => simp [state]

theorem MaySend.of_same (h : MaySend s d) (hid : d'.deliveryId = d.deliveryId)
    (hattempt : d'.attempt = d.attempt) : MaySend s d' := by
  rcases h with hzero | ⟨a, ha, ⟨haid, haattempt⟩, hresend⟩
  · exact .inl (hattempt.trans hzero)
  · exact .inr ⟨a, ha, ⟨haid.trans hid.symm, haattempt.trans hattempt.symm⟩, hresend⟩

theorem SendHistory.delivery {p : ScheduledDeliveryRow → Bool}
    {f : ScheduledDeliveryRow → ScheduledDeliveryRow} (h : SendHistory s)
    (hD : s.deliveries.Rewrites p f D)
    (hchange : ∀ d ∈ s.deliveries.rows, p d = true → DeliveryChange E k s d (f d)) :
    SendHistory { s with deliveries := D } := by
  refine ⟨?_, ?_, ?_⟩
  · intro d hd hwaiting
    rcases hD.mem.mp hd with ⟨o, ho, hp, rfl⟩ | ⟨hd, _⟩
    · have hc := hchange o ho hp
      exact (h.waiting o ho hc.waits).of_same (ScheduledDeliveryRow.deliveryId_of_identity hc.identity)
        hc.counters.1
    · exact h.waiting d hd hwaiting
  · intro d hd hunknown
    rcases hD.mem.mp hd with ⟨o, ho, hp, rfl⟩ | ⟨hd, _⟩
    · exact absurd hunknown (hchange o ho hp).not_unknown
    · exact h.unknown d hd hunknown
  · intro a ha d hd hid hlt
    rcases hD.mem.mp hd with ⟨o, ho, hp, rfl⟩ | ⟨hd, _⟩
    · have hc := hchange o ho hp
      have hoid := ScheduledDeliveryRow.deliveryId_of_identity hc.identity
      exact h.past a ha o ho (hoid.symm.trans hid) (hc.counters.1 ▸ hlt)
    · exact h.past a ha d hd hid hlt

/-! ## 送信と決着 -/

theorem SendHistory.accepted {targets : List DeliveryTargetSnapshot} {b : RunLeaseBinding} {policy : Policy}
    {completedAt : Int} (h : SendHistory s)
    (hD : D.rows = s.deliveries.rows ++ targets.map (intentFor E b policy completedAt)) :
    SendHistory { s with deliveries := D } := by
  refine ⟨?_, ?_, ?_⟩
  · intro d hd hwaiting
    rcases List.mem_append.mp (hD ▸ hd) with hd | hd
    · exact h.waiting d hd hwaiting
    · obtain ⟨t, _, rfl⟩ := List.mem_map.mp hd
      exact .inl rfl
  · intro d hd hunknown
    rcases List.mem_append.mp (hD ▸ hd) with hd | hd
    · exact h.unknown d hd hunknown
    · obtain ⟨t, _, rfl⟩ := List.mem_map.mp hd
      cases hunknown
  · intro a ha d hd hid hlt
    rcases List.mem_append.mp (hD ▸ hd) with hd | hd
    · exact h.past a ha d hd hid hlt
    · obtain ⟨t, _, rfl⟩ := List.mem_map.mp hd
      have hpos := (deliveryAttempt_check ha).1.1
      simp only [intentFor, deliveryIntent] at hlt
      omega

/-- 待っている配送を送り始めても、送信の履歴は保たれる。 -/
theorem SendHistory.sent {leaseOwner : String} {leaseExpiresAt at_ : Int} (h : SendHistory s)
    (hpending : d.state = .pending)
    (hD : s.deliveries.Replaces d (sendingRow s leaseOwner leaseExpiresAt at_ d) D)
    (hA : s.deliveryAttempts.Appends (sendingAttempt s leaseOwner leaseExpiresAt at_ d) A) :
    SendHistory { s with deliveries := D, deliveryAttempts := A } := by
  have hkept : ∀ o : DeliveryAttemptRow, o ∈ s.deliveryAttempts.rows → o ∈ A.rows :=
    fun o ho => hA.mem.mpr (.inl ho)
  refine ⟨?_, ?_, ?_⟩
  · intro o ho hwaiting
    rcases hD.mem.mp ho with rfl | ⟨ho, _⟩
    · cases hwaiting
    · rcases h.waiting o ho hwaiting with hzero | ⟨a, ha, hjustified⟩
      · exact .inl hzero
      · exact .inr ⟨a, hkept a ha, hjustified⟩
  · intro o ho hunknown
    rcases hD.mem.mp ho with rfl | ⟨ho, _⟩
    · cases hunknown
    · obtain ⟨a, ha, hcurrent⟩ := h.unknown o ho hunknown
      exact ⟨a, hkept a ha, hcurrent⟩
  · intro x hx o ho hid hlt
    -- 新しい番号より前の試行は、送る前の番号の試行か、それより前の試行である。
    rcases hA.mem.mp hx with hx | rfl
    · rcases hD.mem.mp ho with rfl | ⟨ho, _⟩
      · simp only [sendingRow] at hid hlt
        rcases (Int.lt_add_one_iff.mp hlt).lt_or_eq with hbefore | hcurrent
        · exact h.past x hx d hD.mem_old hid hbefore
        · rcases h.waiting d hD.mem_old (by simp [hpending, ScheduledDeliveryState.isWaiting]) with
            hzero | ⟨a, ha, ⟨haid, haattempt⟩, hresend⟩
          · have hpos := (deliveryAttempt_check hx).1.1
            omega
          · obtain rfl := s.deliveryAttempts.eq_of_conflict ha hx (by
              simp [scheduledDeliveryAttempts, haid, haattempt, hid, hcurrent])
            exact hresend
      · exact h.past x hx o ho hid hlt
    · exfalso
      rcases hD.mem.mp ho with rfl | ⟨ho, hne⟩
      · exact lt_irrefl _ hlt
      · exact hne (eq_of_deliveryId hD.mem_old ho hid)

theorem attempt_kept {x : DeliveryAttemptRow} (hA : s.deliveryAttempts.Replaces a a' A)
    (hx : x ∈ s.deliveryAttempts.rows)
    (hne : x.deliveryId ≠ a.deliveryId ∨ x.attempt ≠ a.attempt) : x ∈ A.rows := by
  refine hA.mem.mpr (.inr ⟨hx, ?_⟩)
  rintro rfl
  rcases hne with hne | hne <;> exact hne rfl

theorem SendHistory.replaces (h : SendHistory s) (hD : s.deliveries.Replaces d d' D)
    (hA : s.deliveryAttempts.Replaces a a' A) (hcurrent : CurrentSend d a)
    (hid : d'.deliveryId = d.deliveryId) (hattempt : d'.attempt = d.attempt)
    (haid : a'.deliveryId = a.deliveryId) (haattempt : a'.attempt = a.attempt)
    (hwaiting : d'.state.isWaiting = true → a'.state = .failedRetryable)
    (hunknown : d'.state = .deliveryUnknown → a'.state = .deliveryUnknown) :
    SendHistory { s with deliveries := D, deliveryAttempts := A } := by
  have hother : ∀ o ∈ s.deliveries.rows, o ≠ d → ∀ x ∈ s.deliveryAttempts.rows, CurrentSend o x →
      x ∈ A.rows := by
    intro o ho hne x hx hcur
    refine attempt_kept hA hx (.inl ?_)
    rw [hcur.1, hcurrent.1]
    exact fun heq => hne (eq_of_deliveryId hD.mem_old ho heq)
  have hnew : a' ∈ A.rows ∧ CurrentSend d' a' :=
    ⟨hA.mem.mpr (.inl rfl), (haid.trans hcurrent.1).trans hid.symm,
      (haattempt.trans hcurrent.2).trans hattempt.symm⟩
  refine ⟨?_, ?_, ?_⟩
  · intro o ho hw
    rcases hD.mem.mp ho with rfl | ⟨ho, hne⟩
    · exact .inr ⟨a', hnew.1, hnew.2, .inl (hwaiting hw)⟩
    · rcases h.waiting o ho hw with hzero | ⟨x, hx, hcur, hresend⟩
      · exact .inl hzero
      · exact .inr ⟨x, hother o ho hne x hx hcur, hcur, hresend⟩
  · intro o ho hu
    rcases hD.mem.mp ho with rfl | ⟨ho, hne⟩
    · exact ⟨a', hnew.1, hnew.2, hunknown hu⟩
    · obtain ⟨x, hx, hcur, hstate⟩ := h.unknown o ho hu
      exact ⟨x, hother o ho hne x hx hcur, hcur, hstate⟩
  · intro x hx o ho hoid hlt
    have hpast : ∀ y ∈ s.deliveryAttempts.rows, o.deliveryId = y.deliveryId → y.attempt < o.attempt →
        Resendable s y := by
      intro y hy hyid hylt
      rcases hD.mem.mp ho with rfl | ⟨ho, _⟩
      · exact h.past y hy d hD.mem_old (hid.symm.trans hyid) (hattempt ▸ hylt)
      · exact h.past y hy o ho hyid hylt
    rcases hA.mem.mp hx with rfl | ⟨hx, _⟩
    · -- 置き換えた試行は配送の現在の番号なので、それより大きい番号の行はない。
      exfalso
      have hold : ∃ y ∈ s.deliveries.rows, y.deliveryId = d.deliveryId ∧ y.attempt = o.attempt := by
        rcases hD.mem.mp ho with rfl | ⟨ho, _⟩
        · exact ⟨d, hD.mem_old, rfl, hattempt.symm⟩
        · exact ⟨o, ho, hoid.trans (haid.trans hcurrent.1), rfl⟩
      obtain ⟨y, hy, hyid, hyattempt⟩ := hold
      obtain rfl := eq_of_deliveryId hD.mem_old hy hyid
      rw [haattempt, hcurrent.2, hyattempt] at hlt
      exact lt_irrefl _ hlt
    · exact hpast x hx hoid hlt

theorem DeliveryAttemptState.eq_of_delivery {x y : DeliveryAttemptState} {state : ScheduledDeliveryState}
    (hx : x.delivery = state) (hy : y.delivery = state) : x = y := by
  subst hy
  cases x <;> cases y <;> first | rfl | cases hx

theorem SendHistory.sends {b : ScheduledDeliveryBinding} (h : SendHistory s)
    (owns : b.ownsDelivery d = true) (state : d.state = .sending) (attempt : b.ownsAttempt a = true)
    (change : SendChange d a d' a') (hD : s.deliveries.Replaces d d' D)
    (hA : s.deliveryAttempts.Replaces a a' A) :
    SendHistory { s with deliveries := D, deliveryAttempts := A } := by
  obtain ⟨hown1, hown2, _⟩ := ScheduledDeliveryBinding.ownsDelivery_iff.mp owns
  obtain ⟨hatt1, hatt2, _⟩ := ScheduledDeliveryBinding.ownsAttempt_iff.mp attempt
  have hsame := change.same
  obtain ⟨haid, haattempt, _⟩ := change.attempt
  refine h.replaces hD hA ⟨hatt1.trans hown1.symm, hatt2.trans hown2.symm⟩
    (ScheduledDeliveryRow.deliveryId_of_identity hsame.identity) hsame.attempt haid haattempt ?_ ?_
  · intro hwaiting
    cases change with
    | extended updated => simp [extendedDelivery, state, ScheduledDeliveryState.isWaiting] at hwaiting
    | settled same settled retry id outcome =>
      have hretry := (isWaiting_iff.mp hwaiting).resolve_left settled.2
      exact DeliveryAttemptState.eq_of_delivery (outcome.trans hretry) rfl
  · intro hunknown
    cases change with
    | extended updated => simp [extendedDelivery, state] at hunknown
    | settled same settled retry id outcome =>
      exact DeliveryAttemptState.eq_of_delivery (outcome.trans hunknown) rfl

/-- 不明の配送が待ちに戻るのは、送り直しの操作が記録されているときだけである。 -/
theorem SendHistory.resolved (h : SendHistory s) (hunknown : d.state = .deliveryUnknown)
    (state : d'.state = .delivered ∨ d'.state = .failedTerminal ∨
      (d'.state = .pending ∧ d'.claimedBaselineVersion = none))
    (resend : d'.state = .pending → ∃ x ∈ s.operatorActions.rows, IsForceResend d x)
    (same : SameDelivery d d') (hD : s.deliveries.Replaces d d' D)
    (hA : (d'.state = .pending ∧ A = s.deliveryAttempts) ∨ ∃ a a',
      s.deliveryAttempts.Replaces a a' A ∧ ResolvesAttempt d d' a a') :
    SendHistory { s with deliveries := D, deliveryAttempts := A } := by
  have hid := ScheduledDeliveryRow.deliveryId_of_identity same.identity
  rcases hA with ⟨hpending, rfl⟩ | ⟨a, a', hA, hresolves⟩
  · refine ⟨?_, ?_, ?_⟩
    · intro o ho hwaiting
      rcases hD.mem.mp ho with rfl | ⟨ho, _⟩
      · obtain ⟨a, ha, ⟨haid, haattempt⟩, hstate⟩ := h.unknown d hD.mem_old hunknown
        obtain ⟨x, hx, hforced⟩ := resend hpending
        refine .inr ⟨a, ha, ⟨haid.trans hid.symm, haattempt.trans same.attempt.symm⟩, .inr ⟨hstate, x, hx, ?_⟩⟩
        exact ⟨hforced.action, hforced.acknowledged, hforced.target.1, hforced.target.2.trans haid.symm,
          hforced.attempt.trans haattempt.symm, hforced.before⟩
      · exact h.waiting o ho hwaiting
    · intro o ho hstate
      rcases hD.mem.mp ho with rfl | ⟨ho, _⟩
      · simp [hpending] at hstate
      · exact h.unknown o ho hstate
    · intro x hx o ho hoid hlt
      rcases hD.mem.mp ho with rfl | ⟨ho, _⟩
      · exact h.past x hx d hD.mem_old (hid.symm.trans hoid) (same.attempt ▸ hlt)
      · exact h.past x hx o ho hoid hlt
  · have hsettled : d'.state ≠ .pending := by
      intro hpending
      have hout := hresolves.outcome
      rw [hpending] at hout
      cases ha' : a'.state <;> rw [ha'] at hout <;> cases hout
    refine h.replaces hD hA hresolves.target hid same.attempt hresolves.id.1 hresolves.id.2.1 ?_ ?_
    · intro hwaiting
      rcases isWaiting_iff.mp hwaiting with hs | hs
      · exact absurd hs hsettled
      · rcases state with hstate | hstate | hstate <;> simp [hs] at hstate
    · intro hs
      rcases state with hstate | hstate | hstate <;> simp [hs] at hstate

theorem SendHistory.prunedHistory {runId : String} (h : SendHistory s) :
    SendHistory (deleteRunHistory runId s) := by
  refine ⟨?_, ?_, ?_⟩
  · intro o ho hwaiting
    obtain ⟨ho, hrun⟩ := mem_deliveries_pruned.mp ho
    rcases h.waiting o ho hwaiting with hzero | ⟨x, hx, hcur, hresend⟩
    · exact .inl hzero
    · exact .inr ⟨x, deliveryAttempt_survives ho hrun hx hcur.1, hcur, hresend⟩
  · intro o ho hunknown
    obtain ⟨ho, hrun⟩ := mem_deliveries_pruned.mp ho
    obtain ⟨x, hx, hcur, hstate⟩ := h.unknown o ho hunknown
    exact ⟨x, deliveryAttempt_survives ho hrun hx hcur.1, hcur, hstate⟩
  · intro x hx o ho hid hlt
    exact h.past x (mem_deliveryAttempts_pruned.mp hx).1 o (mem_deliveries_pruned.mp ho).1 hid hlt

/-- どの遷移も、送信の履歴を保つ。 -/
theorem SendHistory.step (h : SendHistory s) (heffect : Effect E now k s s') : SendHistory s' := by
  cases heffect with
  | aside same => exact h.of_same same.deliveries same.deliveryAttempts same.actions
  | accepted owns executing current artifacts baseline baselines deliveries attempts runs =>
    exact (h.accepted deliveries).of_same rfl rfl fun _ hx => hx
  | delivery rewrites change baselines => exact (h.delivery rewrites change).of_same rfl rfl fun _ hx => hx
  | sent owner time pending payload alone changed deliveries attempts => exact h.sent pending deliveries attempts
  | sending owns state attempt change deliveries attempts baselines =>
    exact (h.sends owns state attempt change deliveries attempts).of_same rfl rfl fun _ hx => hx
  | resolved origin unknown state resend same deliveries attempts baselines =>
    exact (h.resolved unknown state resend same deliveries attempts).of_same rfl rfl fun _ hx => hx
  | prunedHistory settled => exact h.prunedHistory
  | _ => exact h.of_same rfl rfl fun _ hx => hx

theorem Reachable.sendHistory (h : Reachable E s) : SendHistory s := by
  refine h.invariant ?_ fun hI heffect => hI.step heffect
  refine ⟨?_, ?_, ?_⟩ <;> simp [Store.empty]

/-! ## 一つの操作の前後 -/

theorem ScheduledDeliveryRow.baselineKey_congr (hid : d'.identity = d.identity)
    (hpayload : d'.payload = d.payload) : d'.baselineKey = d.baselineKey := by
  simp only [ScheduledDeliveryRow.identity, DeliveryIdentity.mk.injEq] at hid
  obtain ⟨_, _, hjob, hdigest, _, hversion, _, _, _, hsnapshot, _⟩ := hid
  simp only [ScheduledDeliveryRow.baselineKey, hpayload, hjob, hdigest, hversion, hsnapshot]

theorem unchangedBaseline_congr (hb : t.deliveryBaselines = s.deliveryBaselines)
    (hid : d'.identity = d.identity) (hpayload : d'.payload = d.payload) :
    unchangedBaseline s d' = unchangedBaseline t d := by
  simp only [unchangedBaseline, hb, hpayload, ScheduledDeliveryRow.baselineKey_congr hid hpayload]

theorem DeliveryChange.skips (h : DeliveryChange E k s d d') (hstate : d'.state = .skippedUnchanged) :
    k = .queue ∧ (unchangedBaseline s d).isSome = true ∧ d'.payload = d.payload := by
  cases h with
  | prepared pending fresh readable =>
    simp only [preparedRow] at hstate
    split at hstate <;> cases hstate
  | skipped queue pending unchanged state same => exact ⟨queue, unchanged, same.payload⟩
  | failed source state same => simp [state] at hstate
  | requeued source state claim same => simp [state] at hstate

def NoNewAttempt (s t : Store) (deliveryId : String) : Prop :=
  ∀ a ∈ t.deliveryAttempts.rows, a.deliveryId = deliveryId → a ∈ s.deliveryAttempts.rows

/-- 待ち行列の操作の前後。基準は変わらず、送信は本文の異なる待ちの行から、省略は本文の同じ待ちの行から始まる。 -/
structure Queued (s t : Store) : Prop where
  baselines : t.deliveryBaselines = s.deliveryBaselines
  waiting : ∀ d' ∈ t.deliveries.rows, d'.state.isWaiting = true → NoNewAttempt s t d'.deliveryId ∧
    ∃ d ∈ s.deliveries.rows, d.deliveryId = d'.deliveryId ∧ d'.attempt = d.attempt ∧
      d.state.isWaiting = true
  sending : ∀ d' ∈ t.deliveries.rows, d'.state = .sending → d' ∈ s.deliveries.rows ∨
    (unchangedBaseline s d' = none ∧ ∃ d ∈ s.deliveries.rows, d.deliveryId = d'.deliveryId ∧
      d'.attempt = d.attempt + 1 ∧ d.state.isWaiting = true)
  skipped : ∀ d' ∈ t.deliveries.rows, d'.state = .skippedUnchanged → d' ∈ s.deliveries.rows ∨
    ((unchangedBaseline s d').isSome = true ∧ NoNewAttempt s t d'.deliveryId)

theorem Queued.refl (s : Store) : Queued s s where
  baselines := rfl
  waiting d hd hwaiting := ⟨fun _ ha _ => ha, d, hd, rfl, rfl, hwaiting⟩
  sending _ hd _ := .inl hd
  skipped _ hd _ := .inl hd

theorem Queued.delivery {p : ScheduledDeliveryRow → Bool} {f : ScheduledDeliveryRow → ScheduledDeliveryRow}
    (h : Queued s t) (hD : t.deliveries.Rewrites p f D)
    (hchange : ∀ d ∈ t.deliveries.rows, p d = true → DeliveryChange E k t d (f d)) :
    Queued s { t with deliveries := D } := by
  refine ⟨h.baselines, ?_, ?_, ?_⟩
  · intro d' hd' hwaiting
    rcases hD.mem.mp hd' with ⟨o, ho, hp, rfl⟩ | ⟨hd', _⟩
    · have hc := hchange o ho hp
      have hid := ScheduledDeliveryRow.deliveryId_of_identity hc.identity
      obtain ⟨hnone, d, hd, hdid, hattempt, hwaits⟩ := h.waiting o ho hc.waits
      rw [hid, hc.counters.1]
      exact ⟨hnone, d, hd, hdid, hattempt, hwaits⟩
    · exact h.waiting d' hd' hwaiting
  · intro d' hd' hsending
    rcases hD.mem.mp hd' with ⟨o, ho, hp, rfl⟩ | ⟨hd', _⟩
    · exact absurd hsending (hchange o ho hp).not_sending
    · exact h.sending d' hd' hsending
  · intro d' hd' hskipped
    rcases hD.mem.mp hd' with ⟨o, ho, hp, rfl⟩ | ⟨hd', _⟩
    · have hc := hchange o ho hp
      obtain ⟨_, hunchanged, hpayload⟩ := hc.skips hskipped
      refine .inr ⟨?_, ?_⟩
      · rw [unchangedBaseline_congr h.baselines hc.identity hpayload]
        exact hunchanged
      · rw [ScheduledDeliveryRow.deliveryId_of_identity hc.identity]
        exact (h.waiting o ho hc.waits).1
    · exact h.skipped d' hd' hskipped

theorem Queued.sent {leaseOwner : String} {leaseExpiresAt at_ : Int} (h : Queued s t)
    (hpending : d.state = .pending) (hchanged : unchangedBaseline t d = none)
    (hD : t.deliveries.Replaces d (sendingRow t leaseOwner leaseExpiresAt at_ d) D)
    (hA : t.deliveryAttempts.Appends (sendingAttempt t leaseOwner leaseExpiresAt at_ d) A) :
    Queued s { t with deliveries := D, deliveryAttempts := A } := by
  have hnone : ∀ o ∈ t.deliveries.rows, o ≠ d → NoNewAttempt s t o.deliveryId →
      NoNewAttempt s { t with deliveries := D, deliveryAttempts := A } o.deliveryId := by
    intro o ho hne hold a ha hid
    rcases hA.mem.mp ha with ha | rfl
    · exact hold a ha hid
    · exact absurd (eq_of_deliveryId hD.mem_old ho hid.symm) hne
  refine ⟨h.baselines, ?_, ?_, ?_⟩
  · intro o ho hwaiting
    rcases hD.mem.mp ho with rfl | ⟨ho, hne⟩
    · cases hwaiting
    · obtain ⟨hold, hsource⟩ := h.waiting o ho hwaiting
      exact ⟨hnone o ho hne hold, hsource⟩
  · intro o ho hsending
    rcases hD.mem.mp ho with rfl | ⟨ho, _⟩
    · obtain ⟨_, x, hx, hid, hattempt, hwaits⟩ := h.waiting d hD.mem_old (isWaiting_iff.mpr (.inl hpending))
      refine .inr ⟨(unchangedBaseline_congr h.baselines rfl rfl).trans hchanged, x, hx, hid, ?_, hwaits⟩
      simp only [sendingRow, hattempt]
    · exact h.sending o ho hsending
  · intro o ho hskipped
    rcases hD.mem.mp ho with rfl | ⟨ho, hne⟩
    · cases hskipped
    · rcases h.skipped o ho hskipped with hmem | ⟨hunchanged, hold⟩
      · exact .inl hmem
      · exact .inr ⟨hunchanged, hnone o ho hne hold⟩

/-- 待ち行列の操作は、待っている行を送信中にするか、断りで終わらせるだけである。 -/
theorem Queued.step (h : Queued s t) (heffect : Effect E now .queue t s') : Queued s s' := by
  cases heffect with
  | aside same =>
    refine ⟨same.deliveryBaselines.trans h.baselines, ?_, ?_, ?_⟩
    · unfold NoNewAttempt
      rw [same.deliveries, same.deliveryAttempts]
      exact h.waiting
    · rw [same.deliveries]
      exact h.sending
    · unfold NoNewAttempt
      rw [same.deliveries, same.deliveryAttempts]
      exact h.skipped
  | keyed kept => exact ⟨h.baselines, h.waiting, h.sending, h.skipped⟩
  | delivery rewrites change baselines =>
    rcases baselines with rfl | ⟨_, _, horigin, _⟩
    · exact h.delivery rewrites change
    · cases horigin
  | resolved origin unknown state resend same deliveries attempts baselines => cases origin
  | sent owner time pending payload alone changed deliveries attempts => exact h.sent pending changed deliveries attempts

theorem DeliveryAttemptState.delivery_ne_skipped (x : DeliveryAttemptState) :
    x.delivery ≠ .skippedUnchanged := by
  cases x <;> simp [DeliveryAttemptState.delivery]

/-- 待ち行列でない操作の前後。新たに送信中になる行も、省略される行もない。 -/
structure NotQueued (s t : Store) : Prop where
  sending : ∀ d' ∈ t.deliveries.rows, d'.state = .sending →
    ∃ d ∈ s.deliveries.rows, d.deliveryId = d'.deliveryId ∧ d.attempt = d'.attempt ∧
      d.state = .sending ∧ d.baselineKey = d'.baselineKey
  skipped : ∀ d' ∈ t.deliveries.rows, d'.state = .skippedUnchanged → d' ∈ s.deliveries.rows

theorem NotQueued.of_same (h : t.deliveries = s.deliveries) : NotQueued s t where
  sending d hd hsending := ⟨d, h ▸ hd, rfl, rfl, hsending, rfl⟩
  skipped _ hd _ := h ▸ hd

theorem NotQueued.trans (h : NotQueued s t) (g : NotQueued t s') : NotQueued s s' where
  sending d' hd' hsending := by
    obtain ⟨d, hd, hid, hattempt, hstate, hkey⟩ := g.sending d' hd' hsending
    obtain ⟨o, ho, hoid, hoattempt, hostate, hokey⟩ := h.sending d hd hstate
    exact ⟨o, ho, hoid.trans hid, hoattempt.trans hattempt, hostate, hokey.trans hkey⟩
  skipped d' hd' hskipped := h.skipped d' (g.skipped d' hd' hskipped) hskipped

theorem NotQueued.replaces (hD : s.deliveries.Replaces d d' s'.deliveries)
    (hsending : d'.state = .sending → d.deliveryId = d'.deliveryId ∧ d.attempt = d'.attempt ∧
      d.state = .sending ∧ d.baselineKey = d'.baselineKey) (hskipped : d'.state ≠ .skippedUnchanged) :
    NotQueued s s' := by
  refine ⟨?_, ?_⟩
  · intro o ho hstate
    rcases hD.mem.mp ho with rfl | ⟨ho, _⟩
    · exact ⟨d, hD.mem_old, hsending hstate⟩
    · exact ⟨o, ho, rfl, rfl, hstate, rfl⟩
  · intro o ho hstate
    rcases hD.mem.mp ho with rfl | ⟨ho, _⟩
    · exact absurd hstate hskipped
    · exact ho

/-- 待ち行列の操作のほかは、送信を始めず、配送を省略しない。 -/
theorem Effect.notQueued (h : Effect E now k s s') (hk : k ≠ .queue) : NotQueued s s' := by
  cases h with
  | aside same => exact .of_same same.deliveries
  | accepted owns executing current artifacts baseline baselines deliveries attempts runs =>
    refine ⟨?_, ?_⟩
    · intro o ho hstate
      rcases List.mem_append.mp (deliveries ▸ ho) with ho | ho
      · exact ⟨o, ho, rfl, rfl, hstate, rfl⟩
      · obtain ⟨_, _, rfl⟩ := List.mem_map.mp ho
        cases hstate
    · intro o ho hstate
      rcases List.mem_append.mp (deliveries ▸ ho) with ho | ho
      · exact ho
      · obtain ⟨_, _, rfl⟩ := List.mem_map.mp ho
        cases hstate
  | delivery rewrites change baselines =>
    refine ⟨?_, ?_⟩
    · intro o ho hstate
      rcases rewrites.mem.mp ho with ⟨x, hx, hp, rfl⟩ | ⟨ho, _⟩
      · exact absurd hstate (change x hx hp).not_sending
      · exact ⟨o, ho, rfl, rfl, hstate, rfl⟩
    · intro o ho hstate
      rcases rewrites.mem.mp ho with ⟨x, hx, hp, rfl⟩ | ⟨ho, _⟩
      · exact absurd ((change x hx hp).skips hstate).1 hk
      · exact ho
  | sent owner time pending payload alone changed deliveries attempts => exact absurd rfl hk
  | sending owns state attempt change deliveries attempts baselines =>
    have hsame := change.same
    refine .replaces deliveries ?_ ?_
    · intro _
      exact ⟨(ScheduledDeliveryRow.deliveryId_of_identity hsame.identity).symm, hsame.attempt.symm, state,
        (ScheduledDeliveryRow.baselineKey_congr hsame.identity hsame.payload).symm⟩
    · cases change with
      | extended updated => simp [extendedDelivery, state]
      | settled same settled retry id outcome =>
        rw [← outcome]
        exact DeliveryAttemptState.delivery_ne_skipped _
  | resolved origin unknown state resend same deliveries attempts baselines =>
    refine .replaces deliveries ?_ ?_
    · intro hsending
      rcases state with hs | hs | hs <;> simp [hs] at hsending
    · rcases state with hs | hs | hs <;> simp [hs]
  | prunedHistory settled =>
    refine ⟨?_, ?_⟩
    · intro o ho hstate
      exact ⟨o, (mem_deliveries_pruned.mp ho).1, rfl, rfl, hstate, rfl⟩
    · intro o ho _
      exact (mem_deliveries_pruned.mp ho).1
  | _ => exact .of_same rfl

def ScheduledDeliveryState.isFinal (s : ScheduledDeliveryState) : Bool :=
  s == .delivered || s == .failedTerminal || s == .skippedNone || s == .skippedUnchanged

/-- 終わった配送は、刈り取りのほかでは変わらない。 -/
theorem Effect.final_kept (h : Effect E now k s s') (hd : d ∈ s.deliveries.rows)
    (hfinal : d.state.isFinal = true) (hk : k ≠ .prune d.runId) : d ∈ s'.deliveries.rows := by
  cases h with
  | aside same => exact same.deliveries ▸ hd
  | accepted owns executing current artifacts baseline baselines deliveries attempts runs =>
    exact deliveries ▸ List.mem_append_left _ hd
  | delivery rewrites change baselines =>
    refine rewrites.mem.mpr (.inr ⟨hd, ?_⟩)
    rw [Bool.eq_false_iff]
    intro hp
    have hwaits := (change d hd hp).waits
    rcases isWaiting_iff.mp hwaits with hstate | hstate <;>
      simp [hstate, ScheduledDeliveryState.isFinal] at hfinal
  | sent owner time pending payload alone changed deliveries attempts =>
    refine deliveries.mem.mpr (.inr ⟨hd, ?_⟩)
    rintro rfl
    simp [pending, ScheduledDeliveryState.isFinal] at hfinal
  | sending owns state attempt change deliveries attempts baselines =>
    refine deliveries.mem.mpr (.inr ⟨hd, ?_⟩)
    rintro rfl
    simp [state, ScheduledDeliveryState.isFinal] at hfinal
  | resolved origin unknown state resend same deliveries attempts baselines =>
    refine deliveries.mem.mpr (.inr ⟨hd, ?_⟩)
    rintro rfl
    simp [unknown, ScheduledDeliveryState.isFinal] at hfinal
  | prunedHistory settled =>
    refine mem_deliveries_pruned.mpr ⟨hd, ?_⟩
    rintro rfl
    exact hk rfl
  | _ => exact hd

end Codeoff.State
