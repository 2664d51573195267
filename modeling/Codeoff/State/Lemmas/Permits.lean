import Codeoff.State.Lemmas.RunCoherence
import Codeoff.State.Permits

/-!
# 許可の記録

受け入れた許可は、世代が替わるまで記録に残る。
-/

namespace Codeoff.State

open Codeoff.Core Codeoff.Relational

variable {E : Env} {s s' : PermitStore} {t t' : Store} {h h' : PermitHistory} {now : Int} {k : Origin}
  {p q : ConsumeScheduledExecutionPermit}

theorem Effect.epoch (heffect : Effect E now k t t') : EpochAdvances t.epoch t'.epoch := by
  cases heffect with
  | aside same => exact same.epoch
  | _ => exact .refl _

theorem Op.apply_epoch (op : Op) (t : Store) : EpochAdvances t.epoch (op.apply E t).epoch :=
  invariant_of_steps (I := fun u => EpochAdvances t.epoch u.epoch)
    (fun _ _ hI heffect => hI.trans heffect.epoch) (.refl _) (op.apply_effects t)

/-! ## 一つの操作の前後 -/

/-- 消費が通るのは、いまの世代の許可だけで、行が一つ加わる。 -/
theorem consumeScheduledExecutionPermit_ok {u : Unit}
    (hrun : consumeScheduledExecutionPermit p s = .ok (u, s')) :
    ∃ row T, s.base.epoch = some row ∧ p.isCurrent row = true ∧
      s.consumptions.Appends (p.row row.expiresAt) T ∧ s' = { s with consumptions := T } := by
  unfold consumeScheduledExecutionPermit at hrun
  obtain ⟨_, _, hrun⟩ := Tx.check_bind_ok.mp hrun
  rw [Tx.read_bind_apply] at hrun
  obtain ⟨row, hrow, hrun⟩ := Tx.orElseFail_bind_ok.mp hrun
  obtain ⟨hepoch, hcurrent⟩ := Option.filter_eq_some_iff.mp hrow
  unfold insertConsumption at hrun
  cases hinsert : s.consumptions.insert noInsertTrigger (p.row row.expiresAt) with
  | ok T =>
    rw [hinsert] at hrun
    cases hrun
    exact ⟨row, T, hepoch, hcurrent, (Table.insert_ok.mp hinsert).toAppends, rfl⟩
  | error v =>
    rw [hinsert] at hrun
    cases v <;> cases hrun

/-- 整理の前後。消えた記録は、どれも整理してよいものである。 -/
structure CleansExpired (now : Int) (s s' : PermitStore) : Prop where
  base : s'.base = s.base
  kept : ∀ r ∈ s'.consumptions.rows, r ∈ s.consumptions.rows
  expired : ∀ r ∈ s.consumptions.rows, r ∉ s'.consumptions.rows → expiredConsumption s.base now r = true

theorem setRetentionGuard_ok {enabled : Bool} {message : String} {u : Unit}
    (hrun : setRetentionGuard enabled message s = .ok (u, s')) :
    s' = { s with retentionEnabled := enabled } := by
  unfold setRetentionGuard at hrun
  rw [Tx.read_bind_apply] at hrun
  obtain ⟨_, hrun⟩ := Tx.require_bind_ok.mp hrun
  cases hrun
  rfl

theorem deleteConsumptions_ok {c : PermitConsumptionRow → Bool} {n : Nat}
    (hrun : deleteConsumptions c s = .ok (n, s')) :
    s' = { s with consumptions := (s.consumptions.delete c).1 } := by
  unfold deleteConsumptions at hrun
  rw [Tx.read_bind_apply] at hrun
  obtain ⟨_, hrun⟩ := Tx.require_bind_ok.mp hrun
  cases hrun
  rfl

theorem eq_of_permitId {a b : PermitConsumptionRow} (ha : a ∈ s.consumptions.rows)
    (hb : b ∈ s.consumptions.rows) (heq : a.permitId = b.permitId) : a = b :=
  s.consumptions.eq_of_conflict ha hb (by simp [scheduledExecutionPermitConsumptions, heq])

theorem cleanupScheduledExecutionPermits_ok {limit n : Nat}
    (hrun : cleanupScheduledExecutionPermits now limit s = .ok (n, s')) : CleansExpired now s s' := by
  unfold cleanupScheduledExecutionPermits at hrun
  obtain ⟨_, s1, h1, hrun⟩ := Tx.bind_ok.mp hrun
  obtain rfl := setRetentionGuard_ok h1
  rw [Tx.read_bind_apply] at hrun
  obtain ⟨_, s2, h2, hrun⟩ := Tx.bind_ok.mp hrun
  obtain rfl := deleteConsumptions_ok h2
  obtain ⟨_, s3, h3, hrun⟩ := Tx.bind_ok.mp hrun
  obtain rfl := setRetentionGuard_ok h3
  cases hrun
  refine ⟨rfl, ?_, ?_⟩
  · intro r hr
    exact (List.mem_filter.mp hr).1
  · intro r hr hgone
    simp only [Table.rows_delete, List.mem_filter, not_and, hr, true_implies, Bool.not_eq_true',
      Bool.not_eq_false, List.any_eq_true, beq_iff_eq] at hgone
    obtain ⟨o, ho, hid⟩ := hgone
    have hselected := List.mem_of_mem_take ho
    rw [List.mem_insertionSort] at hselected
    obtain ⟨hmem, hexpired⟩ := List.mem_filter.mp hselected
    rwa [← eq_of_permitId hmem hr hid]

/-- 操作の前後。保存領域の操作、消費、整理のどれかで、失敗すれば何も変わらない。 -/
inductive PermitChange (E : Env) (h : PermitHistory) : PermitHistory → Prop where
  | failed : PermitChange E h h
  | store (op : Op) : PermitChange E h { h with store := { h.store with base := op.apply E h.store.base } }
  | consumed {p : ConsumeScheduledExecutionPermit} {row : ExecutorEpochRow}
      {T : Table scheduledExecutionPermitConsumptions} (epoch : h.store.base.epoch = some row)
      (current : p.isCurrent row = true) (appends : h.store.consumptions.Appends (p.row row.expiresAt) T) :
      PermitChange E h ⟨{ h.store with consumptions := T }, p :: h.accepted⟩
  | cleaned {now : Int} {s' : PermitStore} (cleans : CleansExpired now h.store s') :
      PermitChange E h ⟨s', h.accepted⟩

theorem PermitStep.change (hstep : PermitStep E h h') : PermitChange E h h' := by
  obtain ⟨op, rfl⟩ := hstep
  cases op with
  | store op => exact .store op
  | consume p =>
    cases hrun : consumeScheduledExecutionPermit p h.store with
    | error e =>
      have hcommit := commit_eq_error.mpr ⟨hrun, rfl⟩
      simp only [PermitHistory.next, PermitOp.apply, PermitOp.accepted, hcommit]
      exact .failed
    | ok r =>
      have hcommit := commit_eq_ok.mpr hrun
      obtain ⟨row, T, hepoch, hcurrent, hT, hs⟩ := consumeScheduledExecutionPermit_ok hrun
      simp only [PermitHistory.next, PermitOp.apply, PermitOp.accepted, hcommit, hs]
      exact .consumed hepoch hcurrent hT
  | cleanup now limit =>
    cases hrun : cleanupScheduledExecutionPermits now limit h.store with
    | error e =>
      have hcommit := commit_eq_error.mpr ⟨hrun, rfl⟩
      simp only [PermitHistory.next, PermitOp.apply, PermitOp.accepted, hcommit]
      exact .failed
    | ok r =>
      have hcommit := commit_eq_ok.mpr hrun
      simp only [PermitHistory.next, PermitOp.apply, PermitOp.accepted, hcommit]
      exact .cleaned (cleanupScheduledExecutionPermits_ok hrun)

theorem PermitChange.accepted_mono (hchange : PermitChange E h h') (hp : p ∈ h.accepted) :
    p ∈ h'.accepted := by
  cases hchange with
  | consumed epoch current appends => exact List.mem_cons_of_mem _ hp
  | _ => exact hp

/-- 受け入れた許可は、今の世代のものなら記録に残っていて、そうでなければ前の世代のものである。 -/
def Retained (h : PermitHistory) : Prop :=
  ∀ p ∈ h.accepted, ∃ row, h.store.base.epoch = some row ∧ p.deploymentEpoch ≤ row.deploymentEpoch ∧
    (p.deploymentEpoch = row.deploymentEpoch → ∃ r ∈ h.store.consumptions.rows,
      r.permitId = p.permitId ∧ r.deploymentEpoch = p.deploymentEpoch ∧ r.nonce = p.nonce)

theorem PermitChange.epoch (hchange : PermitChange E h h') :
    EpochAdvances h.store.base.epoch h'.store.base.epoch := by
  cases hchange with
  | failed => exact .refl _
  | store op => exact op.apply_epoch _
  | consumed epoch current appends => exact .refl _
  | cleaned cleans =>
    rw [cleans.base]
    exact .refl _

theorem Retained.change (hI : Retained h) (hchange : PermitChange E h h') : Retained h' := by
  cases hchange with
  | failed => exact hI
  | store op =>
    intro p hp
    obtain ⟨row, hrow, hle, hkept⟩ := hI p hp
    obtain ⟨row', hrow', hle', _⟩ := op.apply_epoch h.store.base row hrow
    exact ⟨row', hrow', hle.trans hle', fun heq => hkept (by omega)⟩
  | consumed epoch current appends =>
    intro p hp
    rcases List.mem_cons.mp hp with rfl | hp
    · simp only [ConsumeScheduledExecutionPermit.isCurrent, Bool.and_eq_true, beq_iff_eq] at current
      exact ⟨_, epoch, current.1.1.1.ge, fun _ => ⟨_, appends.mem.mpr (.inr rfl), rfl, rfl, rfl⟩⟩
    · obtain ⟨row, hrow, hle, hkept⟩ := hI p hp
      refine ⟨row, hrow, hle, ?_⟩
      intro heq
      obtain ⟨r, hr, hsame⟩ := hkept heq
      exact ⟨r, appends.mem.mpr (.inl hr), hsame⟩
  | cleaned cleans =>
    intro p hp
    obtain ⟨row, hrow, hle, hkept⟩ := hI p hp
    refine ⟨row, cleans.base ▸ hrow, hle, ?_⟩
    intro heq
    obtain ⟨r, hr, hid, hepoch, hnonce⟩ := hkept heq
    -- 今の世代の記録は、整理の対象にならない。
    refine ⟨r, ?_, hid, hepoch, hnonce⟩
    by_contra hgone
    have hexpired := cleans.expired r hr hgone
    simp [expiredConsumption, hrow, hepoch, heq] at hexpired

/-- 残っている消費の行は、同じ番号か nonce の許可を断る。 -/
theorem Retained.refuses (hI : Retained h) (hp : p ∈ h.accepted)
    (hepoch : q.deploymentEpoch = p.deploymentEpoch)
    (hsame : q.permitId = p.permitId ∨ q.nonce = p.nonce) {u : Unit} {s' : PermitStore} :
    consumeScheduledExecutionPermit q h.store ≠ .ok (u, s') := by
  intro hrun
  obtain ⟨row, T, hrow, hcurrent, hT, _⟩ := consumeScheduledExecutionPermit_ok hrun
  simp only [ConsumeScheduledExecutionPermit.isCurrent, Bool.and_eq_true, beq_iff_eq] at hcurrent
  obtain ⟨row', hrow', _, hkept⟩ := hI p hp
  obtain rfl : row = row' := Option.some.inj (hrow.symm.trans hrow')
  obtain ⟨r, hr, hid, hepoch', hnonce⟩ := hkept (hepoch.symm.trans hcurrent.1.1.1.symm)
  have hfresh := hT.fresh hr
  simp only [scheduledExecutionPermitConsumptions, ConsumeScheduledExecutionPermit.row,
    Bool.or_eq_false_iff, beq_eq_false_iff_ne, ne_eq, Prod.mk.injEq, not_and] at hfresh
  rcases hsame with hsame | hsame
  · exact hfresh.1.1 (hid.trans hsame.symm)
  · exact hfresh.2 (hepoch'.trans hepoch.symm) (hnonce.trans hsame.symm)

/-! ## 実行の番号 -/

def HasRun (runId : String) (t : Store) : Prop := ∃ r ∈ t.runs.rows, r.runId = runId

instance (runId : String) (t : Store) : Decidable (HasRun runId t) := by
  unfold HasRun
  infer_instance

structure RunGrows (r r' : ScheduledRunRow) : Prop where
  runId : r'.runId = r.runId
  attempt : r.attempt ≤ r'.attempt

theorem RunGrows.refl (r : ScheduledRunRow) : RunGrows r r := ⟨rfl, le_refl _⟩

theorem SameRunNumbers.grows {r r' : ScheduledRunRow} (hsame : SameRunNumbers r r') : RunGrows r r' :=
  ⟨hsame.runId, hsame.attempt.ge⟩

theorem RunChange.isOpen_of_isOpen {r r' : ScheduledRunRow} {a a' : RunAttemptRow}
    (hchange : RunChange r a r' a') (hopen : a'.state.isOpen = true) : a.state.isOpen = true := by
  cases hchange with
  | extended live lease held later isOpen => exact isOpen
  | started bound owns valid leased attempt => simp [RunAttemptState.isOpen, attempt]
  | retried live closes outcome => exact absurd (closes.closed.symm.trans hopen) (by decide)
  | settled live terminal closes outcome => exact absurd (closes.closed.symm.trans hopen) (by decide)
  | reclaimed live target closes outcome => exact absurd (closes.closed.symm.trans hopen) (by decide)

theorem Effect.runs_from (heffect : Effect E now k t t') :
    ∀ r' ∈ t'.runs.rows, (∃ r ∈ t.runs.rows, RunGrows r r') ∨
      ((∃ jobId, k = .materialize jobId) ∧ ¬HasRun r'.runId t) := by
  have hsame : ∀ {T : Table scheduledRuns} {f : ScheduledRunRow → ScheduledRunRow} {c : ScheduledRunRow → Bool},
      t.runs.Rewrites c f T → (∀ r, RunGrows r (f r)) →
        ∀ r' ∈ T.rows, ∃ r ∈ t.runs.rows, RunGrows r r' :=
    fun hT hf => (rewrites_same RunGrows.refl hT fun r _ _ => hf r).1
  intro r' hr'
  cases heffect with
  | aside same => exact .inl ⟨r', same.runs ▸ hr', .refl r'⟩
  | updated time valid found jobId generation next jobs cancels schedules targets =>
    exact .inl (hsame cancels.runs (fun r => ⟨rfl, le_refl _⟩) r' hr')
  | stopped becomes jobs cancels schedules =>
    exact .inl (hsame cancels.runs (fun r => ⟨rfl, le_refl _⟩) r' hr')
  | materialized found active schedule jobId nextRunAt overdue readable coalesced baselines owner runs
      advances =>
      rcases runs.mem.mp hr' with hr | rfl
      · exact .inl ⟨r', hr, .refl r'⟩
      · refine .inr ⟨⟨_, rfl⟩, ?_⟩
        rintro ⟨r, hr, hid⟩
        have hfresh := runs.fresh hr
        simp [scheduledRuns, hid] at hfresh
  | swept runs => exact .inl (hsame runs (fun r => ⟨rfl, le_refl _⟩) r' hr')
  | leased claimable runs attempts =>
    refine .inl ((replaces_same RunGrows.refl runs ⟨rfl, ?_⟩).1 r' hr')
    simp only [leasedRow]
    omega
  | fenced current change runs attempts =>
    exact .inl ((replaces_same RunGrows.refl runs change.numbers.1.grows).1 r' hr')
  | requeued retryable runs =>
    exact .inl ((replaces_same RunGrows.refl runs ⟨rfl, le_refl _⟩).1 r' hr')
  | accepted owns executing current artifacts baseline baselines deliveries attempts runs =>
    exact .inl ((replaces_same RunGrows.refl runs ⟨rfl, le_refl _⟩).1 r' hr')
  | prunedRun settled undelivered => exact .inl ⟨r', (List.mem_filter.mp hr').1, .refl r'⟩
  | prunedHistory settled => exact .inl ⟨r', (List.mem_filter.mp hr').1, .refl r'⟩
  | _ => exact .inl ⟨r', hr', .refl r'⟩

theorem Effect.hasRun {jobId runId : String} (heffect : Effect E now (.materialize jobId) t t')
    (hrun : HasRun runId t) : HasRun runId t' := by
  obtain ⟨r, hr, hid⟩ := hrun
  cases heffect with
  | aside same => exact ⟨r, same.runs ▸ hr, hid⟩
  | materialized found active schedule jobId nextRunAt overdue readable coalesced baselines owner runs
      advances => exact ⟨r, runs.mem.mpr (.inl hr), hid⟩
  | _ => exact ⟨r, hr, hid⟩

/-- 開いている試行は、前から開いていたか、その実行の番号を進めて開いたものである。 -/
theorem Effect.opens_from (heffect : Effect E now k t t') :
    ∀ a' ∈ t'.attempts.rows, a'.state.isOpen = true →
      (∃ a ∈ t.attempts.rows, a.state.isOpen = true ∧ SameAttemptNumbers a a') ∨
      ∃ r ∈ t.runs.rows, r.runId = a'.runId ∧ r.attempt < a'.attempt := by
  intro a' ha' hopen
  cases heffect with
  | aside same => exact .inl ⟨a', same.attempts ▸ ha', hopen, .refl a'⟩
  | updated time valid found jobId generation next jobs cancels schedules targets =>
    rcases cancels.attempts.mem.mp ha' with ⟨o, _, _, rfl⟩ | ⟨ha, _⟩
    · cases hopen
    · exact .inl ⟨a', ha, hopen, .refl a'⟩
  | stopped becomes jobs cancels schedules =>
    rcases cancels.attempts.mem.mp ha' with ⟨o, _, _, rfl⟩ | ⟨ha, _⟩
    · cases hopen
    · exact .inl ⟨a', ha, hopen, .refl a'⟩
  | leased claimable runs attempts =>
    rcases attempts.mem.mp ha' with ha | rfl
    · exact .inl ⟨a', ha, hopen, .refl a'⟩
    · refine .inr ⟨_, runs.mem_old, rfl, ?_⟩
      simp only [leasedAttempt]
      omega
  | fenced current change runs attempts =>
    rcases attempts.mem.mp ha' with rfl | ⟨ha, _⟩
    · exact .inl ⟨_, attempts.mem_old, change.isOpen_of_isOpen hopen, change.numbers.2⟩
    · exact .inl ⟨a', ha, hopen, .refl a'⟩
  | accepted owns executing current artifacts baseline baselines deliveries attempts runs =>
    rcases attempts.mem.mp ha' with rfl | ⟨ha, _⟩
    · cases hopen
    · exact .inl ⟨a', ha, hopen, .refl a'⟩
  | prunedRun settled undelivered => exact .inl ⟨a', (List.mem_filter.mp ha').1, hopen, .refl a'⟩
  | prunedHistory settled => exact .inl ⟨a', (List.mem_filter.mp ha').1, hopen, .refl a'⟩
  | _ => exact .inl ⟨a', ha', hopen, .refl a'⟩

def ConsumeScheduledExecutionPermit.names (p : ConsumeScheduledExecutionPermit) (a : RunAttemptRow) : Prop :=
  a.runId = p.runId ∧ a.attempt = p.attempt ∧ a.fence = p.fence

def OpenAttempt (p : ConsumeScheduledExecutionPermit) (t : Store) : Prop :=
  ∃ a ∈ t.attempts.rows, p.names a ∧ a.state.isOpen = true

instance (p : ConsumeScheduledExecutionPermit) (t : Store) : Decidable (OpenAttempt p t) := by
  unfold OpenAttempt ConsumeScheduledExecutionPermit.names
  infer_instance

def Reached (p : ConsumeScheduledExecutionPermit) (t : Store) : Prop :=
  ∀ r ∈ t.runs.rows, r.runId = p.runId → p.attempt ≤ r.attempt

instance (p : ConsumeScheduledExecutionPermit) (t : Store) : Decidable (Reached p t) := by
  unfold Reached
  infer_instance

theorem Reached.step (hI : Reached p t) (heffect : Effect E now k t t')
    (hkept : (∀ jobId, k ≠ .materialize jobId) ∨ HasRun p.runId t) : Reached p t' := by
  intro r' hr' hid
  rcases heffect.runs_from r' hr' with ⟨r, hr, hgrows⟩ | ⟨⟨jobId, hk⟩, hfresh⟩
  · exact (hI r hr (hgrows.runId.symm.trans hid)).trans hgrows.attempt
  · rcases hkept with hother | hrun
    · exact absurd hk (hother jobId)
    · exact absurd (hid ▸ hrun) hfresh

theorem OpenAttempt.of_step (hreached : Reached p t) (heffect : Effect E now k t t')
    (hopen : OpenAttempt p t') : OpenAttempt p t := by
  obtain ⟨a', ha', ⟨hrun, hattempt, hfence⟩, ho⟩ := hopen
  rcases heffect.opens_from a' ha' ho with ⟨a, ha, hoa, hsame⟩ | ⟨r, hr, hid, hlt⟩
  · exact ⟨a, ha, ⟨hsame.runId.symm.trans hrun, hsame.attempt.symm.trans hattempt,
      hsame.fence.symm.trans hfence⟩, hoa⟩
  · have hle := hreached r hr (hid.trans hrun)
    omega

/-- 発生が許可の実行を作り直さない操作の前後で、実行は試行まで進んだままで、終わった試行はもう開かない。 -/
theorem Op.apply_reached {op : Op} (hreachable : Reachable E t) (hI : Reached p t)
    (hrecreates : HasRun p.runId (op.apply E t) → HasRun p.runId t) :
    Reached p (op.apply E t) ∧ (OpenAttempt p (op.apply E t) → OpenAttempt p t) := by
  by_cases hkept : (∀ jobId, op.origin ≠ .materialize jobId) ∨ HasRun p.runId t
  · have hsteps := invariant_of_steps (I := fun u =>
      ((∀ jobId, op.origin ≠ .materialize jobId) ∨ HasRun p.runId u) ∧ Reached p u ∧
        (OpenAttempt p u → OpenAttempt p t)) ?_ ⟨hkept, hI, id⟩ (op.apply_effects (E := E) t)
    · exact hsteps.2
    · rintro u v ⟨hkept, hreached, hback⟩ heffect
      refine ⟨?_, hreached.step heffect hkept, fun hopen => hback (.of_step hreached heffect hopen)⟩
      rcases hkept with hother | hrun
      · exact .inl hother
      · cases horigin : op.origin with
        | materialize jobId =>
          rw [horigin] at heffect
          exact .inr (heffect.hasRun hrun)
        | _ => exact .inl nofun
  · -- 実行が元からなく、作られもしないなら、その試行も開いていない。
    have hgone : ¬HasRun p.runId (op.apply E t) := fun hrun => hkept (.inr (hrecreates hrun))
    have hreachable' : Reachable E (op.apply E t) := hreachable.tail ⟨op, rfl⟩
    refine ⟨fun r hr hid => absurd ⟨r, hr, hid⟩ hgone, ?_⟩
    rintro ⟨a, ha, ⟨hrun, _⟩, hopen⟩
    obtain ⟨r, hr, hbound⟩ := hreachable'.openBound a ha hopen
    exact absurd ⟨r, hr, hbound.runId.symm.trans hrun⟩ hgone

/-- 期限の切れた消費の行の試行は、もう開いていない。 -/
theorem not_openAttempt_of_expired (hreachable : Reachable E t) {r : PermitConsumptionRow}
    (hexpired : expiredConsumption t now r = true)
    (hrow : r.runId = p.runId ∧ r.attempt = p.attempt ∧ r.fence = p.fence) : ¬OpenAttempt p t := by
  rintro ⟨a, ha, ⟨hrun, hattempt, hfence⟩, hopen⟩
  obtain ⟨run, hmem, hbound⟩ := hreachable.openBound a ha hopen
  have hid : run.runId = r.runId := hbound.runId.symm.trans (hrun.trans hrow.1.symm)
  obtain ⟨_, hended⟩ := Bool.and_eq_true_iff.mp hexpired
  simp only [attemptEnded, Bool.or_eq_true, Bool.not_eq_true', List.any_eq_false, List.any_eq_true,
    Bool.and_eq_true, beq_iff_eq] at hended
  rcases hended with (habsent | ⟨run', hrun', hid', hstate⟩) | ⟨a', ha', ⟨hsame, hclosed⟩⟩
  · exact habsent run hmem hid
  · rw [eq_of_runId hmem hrun' (hid'.trans hid.symm)] at hstate
    rcases isLive_iff.mp hbound.live with hs | hs <;> simp [hs] at hstate
  · have heq : a' = a := t.attempts.eq_of_conflict ha' ha
      (by simp [scheduledRunAttempts, hsame, hrun, hattempt, hrow])
    rw [heq, hopen] at hclosed
    cases hclosed

/-! ## 一度きりの消費 -/

def ConsumeScheduledExecutionPermit.SameAttempt (p q : ConsumeScheduledExecutionPermit) : Prop :=
  p.runId = q.runId ∧ p.attempt = q.attempt ∧ p.fence = q.fence

instance (p q : ConsumeScheduledExecutionPermit) : Decidable (p.SameAttempt q) := by
  unfold ConsumeScheduledExecutionPermit.SameAttempt
  infer_instance

def HasRecord (p : ConsumeScheduledExecutionPermit) (s : PermitStore) : Prop :=
  ∃ r ∈ s.consumptions.rows, r.runId = p.runId ∧ r.attempt = p.attempt ∧ r.fence = p.fence

instance (p : ConsumeScheduledExecutionPermit) (s : PermitStore) : Decidable (HasRecord p s) := by
  unfold HasRecord
  infer_instance

/-- 一度きりの消費の保たれる操作。消費を求められる試行は、実行がもう進んでいるもので、開いているか、受け入れた許可の
記録が残っているかである。許可を受け入れた実行は、消えた後に作り直されない。 -/
def PermitOp.SparesReuse (E : Env) (op : PermitOp) (h : PermitHistory) : Prop :=
  match op with
  | .consume q => Reached q h.store.base ∧ (OpenAttempt q h.store.base ∨
      ∀ p ∈ h.accepted, p.SameAttempt q → HasRecord p h.store)
  | .store op => ∀ p ∈ h.accepted, HasRun p.runId (op.apply E h.store.base) → HasRun p.runId h.store.base
  | .cleanup .. => True

instance (E : Env) (op : PermitOp) (h : PermitHistory) : Decidable (op.SparesReuse E h) := by
  unfold PermitOp.SparesReuse
  cases op <;> infer_instance

def SparingPermitStep (E : Env) (h h' : PermitHistory) : Prop :=
  ∃ op : PermitOp, op.SparesReuse E h ∧ h.next E op = h'

/-- 受け入れた許可の試行は、記録が残っているか、もう開かない。受け入れた許可は、どれも違う試行を指す。 -/
structure UsedOnce (E : Env) (h : PermitHistory) : Prop where
  reachable : Reachable E h.store.base
  reached : ∀ p ∈ h.accepted, Reached p h.store.base
  recorded : ∀ p ∈ h.accepted, HasRecord p h.store ∨ ¬OpenAttempt p h.store.base
  distinct : h.accepted.Pairwise fun p q => ¬p.SameAttempt q

theorem OpenAttempt.same (hsame : p.SameAttempt q) {t : Store} (hopen : OpenAttempt q t) : OpenAttempt p t := by
  obtain ⟨a, ha, ⟨hrun, hattempt, hfence⟩, ho⟩ := hopen
  exact ⟨a, ha, ⟨hrun.trans hsame.1.symm, hattempt.trans hsame.2.1.symm, hfence.trans hsame.2.2.symm⟩, ho⟩

theorem UsedOnce.stored {op : Op} (hI : UsedOnce E h) (hspares : (PermitOp.store op).SparesReuse E h) :
    UsedOnce E { h with store := { h.store with base := op.apply E h.store.base } } := by
  have hpermit : ∀ p ∈ h.accepted, Reached p (op.apply E h.store.base) ∧
      (OpenAttempt p (op.apply E h.store.base) → OpenAttempt p h.store.base) :=
    fun p hp => op.apply_reached hI.reachable (hI.reached p hp) (hspares p hp)
  refine ⟨hI.reachable.tail ⟨op, rfl⟩, fun p hp => (hpermit p hp).1, ?_, hI.distinct⟩
  intro p hp
  rcases hI.recorded p hp with hrecord | hclosed
  · exact .inl hrecord
  · exact .inr fun hopen => hclosed ((hpermit p hp).2 hopen)

theorem UsedOnce.consumed {expiresAt : Int} {T : Table scheduledExecutionPermitConsumptions}
    (hI : UsedOnce E h) (hspares : (PermitOp.consume q).SparesReuse E h)
    (hT : h.store.consumptions.Appends (q.row expiresAt) T) :
    UsedOnce E ⟨{ h.store with consumptions := T }, q :: h.accepted⟩ := by
  obtain ⟨hreached, hallowed⟩ := hspares
  refine ⟨hI.reachable, ?_, ?_, ?_⟩
  · intro p hp
    rcases List.mem_cons.mp hp with rfl | hp
    · exact hreached
    · exact hI.reached p hp
  · intro p hp
    rcases List.mem_cons.mp hp with rfl | hp
    · exact .inl ⟨_, hT.mem.mpr (.inr rfl), rfl, rfl, rfl⟩
    · rcases hI.recorded p hp with ⟨r, hr, hnames⟩ | hclosed
      · exact .inl ⟨r, hT.mem.mpr (.inl hr), hnames⟩
      · exact .inr hclosed
  · refine List.pairwise_cons.mpr ⟨?_, hI.distinct⟩
    intro p hp hsame
    have hsame' : p.SameAttempt q := ⟨hsame.1.symm, hsame.2.1.symm, hsame.2.2.symm⟩
    -- 記録が残っていれば、同じ試行の挿入は UNIQUE に反する。
    have hunrecorded : ¬HasRecord p h.store := by
      rintro ⟨r, hr, hrun, hattempt, hfence⟩
      have hfresh := hT.fresh hr
      simp [scheduledExecutionPermitConsumptions, ConsumeScheduledExecutionPermit.row, hrun, hattempt,
        hfence, hsame.1, hsame.2.1, hsame.2.2] at hfresh
    rcases hallowed with hopen | hkept
    · exact (hI.recorded p hp).elim hunrecorded fun hclosed => hclosed (.same hsame' hopen)
    · exact hunrecorded (hkept p hp hsame')

theorem UsedOnce.cleaned {s' : PermitStore} (hI : UsedOnce E h) (hclean : CleansExpired now h.store s') :
    UsedOnce E ⟨s', h.accepted⟩ := by
  refine ⟨hclean.base ▸ hI.reachable, ?_, ?_, hI.distinct⟩
  · rw [hclean.base]
    exact hI.reached
  · intro p hp
    rw [hclean.base]
    rcases hI.recorded p hp with ⟨r, hr, hnames⟩ | hclosed
    · by_cases hgone : r ∈ s'.consumptions.rows
      · exact .inl ⟨r, hgone, hnames⟩
      · exact .inr (not_openAttempt_of_expired hI.reachable (hclean.expired r hr hgone) hnames)
    · exact .inr hclosed

/-- 掃除が使い回しの余地を残さない歩みでは、一つの試行に通る許可は一つのままである。 -/
theorem UsedOnce.step (hI : UsedOnce E h) (hstep : SparingPermitStep E h h') : UsedOnce E h' := by
  obtain ⟨op, hspares, rfl⟩ := hstep
  cases op with
  | store op => exact hI.stored hspares
  | consume q =>
    cases hrun : consumeScheduledExecutionPermit q h.store with
    | error e =>
      have hcommit := commit_eq_error.mpr ⟨hrun, rfl⟩
      simp only [PermitHistory.next, PermitOp.apply, PermitOp.accepted, hcommit]
      exact hI
    | ok r =>
      have hcommit := commit_eq_ok.mpr hrun
      obtain ⟨row, T, _, _, hT, hs⟩ := consumeScheduledExecutionPermit_ok hrun
      simp only [PermitHistory.next, PermitOp.apply, PermitOp.accepted, hcommit, hs]
      exact hI.consumed hspares hT
  | cleanup now limit =>
    cases hrun : cleanupScheduledExecutionPermits now limit h.store with
    | error e =>
      have hcommit := commit_eq_error.mpr ⟨hrun, rfl⟩
      simp only [PermitHistory.next, PermitOp.apply, PermitOp.accepted, hcommit]
      exact hI
    | ok r =>
      have hcommit := commit_eq_ok.mpr hrun
      simp only [PermitHistory.next, PermitOp.apply, PermitOp.accepted, hcommit]
      exact hI.cleaned (cleanupScheduledExecutionPermits_ok hrun)

end Codeoff.State
