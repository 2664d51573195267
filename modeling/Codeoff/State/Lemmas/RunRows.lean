import Codeoff.State.Lemmas.System

/-!
# 操作が書く実行の行

結果を記録する操作と回収のほかは、実行を終わりの状態のうち失敗と取り消しにしか移さず、実行中にもしない。
-/

namespace Codeoff.State

open Codeoff.Core Codeoff.Relational

variable {E : Env} {s s' t : Store} {u : Unit} {now at_ : Int} {b : RunLeaseBinding}
  {r o : ScheduledRunRow}

def ScheduledRunRow.SameNumbers (r o : ScheduledRunRow) : Prop :=
  o.runId = r.runId ∧ o.attempt = r.attempt ∧ o.fence = r.fence

/-- 行 `o` は、始まっていない状態にあるか、同じ番号の行から状態を変えていない。 -/
def KeptRow (s : Store) (o : ScheduledRunRow) : Prop :=
  (o.state = .pending ∨ o.state = .leased ∨ o.state = .failed ∨ o.state = .cancelled) ∨
    ∃ r ∈ s.runs.rows, r.SameNumbers o ∧ o.state = r.state

def KeepsRows (s s' : Store) : Prop := ∀ o ∈ s'.runs.rows, KeptRow s o

theorem KeptRow.old (ho : o ∈ s.runs.rows) : KeptRow s o := .inr ⟨o, ho, ⟨rfl, rfl, rfl⟩, rfl⟩

theorem KeepsRows.refl (s : Store) : KeepsRows s s := fun _ ho => .old ho

theorem KeepsRows.of_runs (h : s'.runs = s.runs) : KeepsRows s s' := by
  intro o ho
  rw [h] at ho
  exact .old ho

theorem KeepsRows.trans (h : KeepsRows s t) (h' : KeepsRows t s') : KeepsRows s s' := by
  intro o ho
  rcases h' o ho with hstate | ⟨r, hr, hsame, hstate⟩
  · exact .inl hstate
  · rcases h r hr with hstate' | ⟨x, hx, hsame', hstate'⟩
    · rw [← hstate] at hstate'
      exact .inl hstate'
    · refine .inr ⟨x, hx, ?_, hstate.trans hstate'⟩
      exact ⟨hsame.1.trans hsame'.1, hsame.2.1.trans hsame'.2.1, hsame.2.2.trans hsame'.2.2⟩

theorem KeepsRows.commit {α : Type} {x : StoreTx α} (h : ∀ a s', x s = .ok (a, s') → KeepsRows s s') :
    KeepsRows s (commit x s).2 := by
  unfold Relational.commit
  cases hx : x s with
  | error e => exact .refl s
  | ok out => exact h out.1 out.2 hx

theorem fencedTransition_rows {onRun : ScheduledRunRow → Bool} {toRun : ScheduledRunRow → ScheduledRunRow}
    {onAttempt : RunAttemptRow → Bool} {toAttempt : RunAttemptRow → RunAttemptRow}
    (h : fencedTransition b onRun toRun onAttempt toAttempt s = .ok (u, s')) (ho : o ∈ s'.runs.rows) :
    o ∈ s.runs.rows ∨ ∃ r ∈ s.runs.rows, b.ownsRun r = true ∧ onRun r = true ∧ o = toRun r := by
  obtain ⟨r, a, R, A, ⟨howns, hon⟩, _, hR, _, rfl⟩ := fencedTransition_ok h
  rcases hR.mem.mp ho with rfl | ⟨ho, _⟩
  · exact .inr ⟨r, hR.mem_old, howns, hon, rfl⟩
  · exact .inl ho

theorem heartbeatScheduledRun_keepsRows {expiresAt : Int}
    (h : heartbeatScheduledRun b at_ expiresAt s = .ok (u, s')) : KeepsRows s s' := by
  unfold heartbeatScheduledRun at h
  obtain ⟨_, _, h⟩ := Tx.check_bind_ok.mp h
  obtain ⟨_, h⟩ := Tx.require_bind_ok.mp h
  intro o ho
  rcases fencedTransition_rows h ho with ho | ⟨r, hr, _, _, rfl⟩
  · exact .old ho
  · exact .inr ⟨r, hr, ⟨rfl, rfl, rfl⟩, rfl⟩

theorem markScheduledRunExecuting_rows {profile : AttestedExecutionProfileSnapshot}
    (h : markScheduledRunExecuting b profile at_ s = .ok (u, s')) (ho : o ∈ s'.runs.rows) :
    o ∈ s.runs.rows ∨ o.state = .executing := by
  unfold markScheduledRunExecuting at h
  obtain ⟨_, _, h⟩ := Tx.check_bind_ok.mp h
  obtain ⟨_, _, h⟩ := Tx.check_bind_ok.mp h
  rcases fencedTransition_rows h ho with ho | ⟨r, _, _, _, rfl⟩
  · exact .inl ho
  · exact .inr rfl

theorem recordScheduledRunPreflightFailure_keepsRows
    {disposition : PreflightFailureDisposition ⊕ Bool} {errorKind errorMessage : String}
    (h : recordScheduledRunPreflightFailure b disposition errorKind errorMessage at_ s = .ok (u, s')) :
    KeepsRows s s' := by
  unfold recordScheduledRunPreflightFailure at h
  obtain ⟨_, _, h⟩ := Tx.check_bind_ok.mp h
  obtain ⟨_, _, h⟩ := Tx.check_bind_ok.mp h
  obtain ⟨_, h⟩ := Tx.require_bind_ok.mp h
  obtain ⟨d, s1, h1, h⟩ := Tx.bind_ok.mp h
  rw [preflightDisposition_ok h1] at h
  intro o ho
  cases d with
  | retryAt retryAt =>
    obtain ⟨_, h⟩ := Tx.require_bind_ok.mp h
    rcases fencedTransition_rows h ho with ho | ⟨r, _, _, _, rfl⟩
    · exact .old ho
    · exact .inl (.inl rfl)
  | fail =>
    rcases fencedTransition_rows h ho with ho | ⟨r, _, _, _, rfl⟩
    · exact .old ho
    · exact .inl (.inr (.inr (.inl rfl)))

theorem appendScheduledRunLateEvidence_keepsRows {evidenceId : String} {kind : ScheduledRunLateEvidenceKind}
    {digest : String} {outcome : LateEvidenceAppendOutcome}
    (h : appendScheduledRunLateEvidence evidenceId b kind digest at_ s = .ok (outcome, s')) :
    KeepsRows s s' := by
  unfold appendScheduledRunLateEvidence at h
  obtain ⟨_, _, h⟩ := Tx.check_bind_ok.mp h
  obtain ⟨_, h⟩ := Tx.require_bind_ok.mp h
  rcases appendLateEvidence_ok h with rfl | ⟨e, T, _, _, rfl⟩
  · exact .refl s'
  · exact .of_runs rfl

/-! ## 貸与 -/

theorem sweepFirst_keepsRows {lease : Option Int} (h : sweepFirst lease at_ s = .ok (u, s')) :
    KeepsRows s s' := by
  unfold sweepFirst at h
  split at h
  · obtain ⟨_, s1, h1, h⟩ := Tx.bind_ok.mp h
    obtain ⟨R, hR, _, rfl⟩ := updateRuns_ok.mp h1
    cases h
    intro o ho
    rcases hR.toRewrites.mem.mp ho with ⟨r, _, _, rfl⟩ | ⟨ho, _⟩
    · exact .inl (.inr (.inr (.inl rfl)))
    · exact .old ho
  · cases h
    exact .refl s

theorem leaseRun_rows {leaseOwner : String} {requested : Int} {claimed : ClaimedScheduledRun}
    (h : leaseRun leaseOwner requested at_ r s = .ok (claimed, s')) :
    claimed.binding.runId = r.runId ∧
      ∀ o ∈ s'.runs.rows, (o.runId = r.runId ∧ o.state = .leased) ∨ o ∈ s.runs.rows ∧
        ¬(o.runId = r.runId ∧ o.claimable at_ = true) := by
  unfold leaseRun at h
  obtain ⟨_, s1, h1, h⟩ := Tx.bind_ok.mp h
  obtain ⟨R, hR, _, rfl⟩ := updateRuns_ok.mp h1
  obtain ⟨_, h⟩ := Tx.require_bind_ok.mp h
  obtain ⟨_, s2, h2, h⟩ := Tx.bind_ok.mp h
  obtain ⟨A, _, rfl⟩ := insertAttempt_ok.mp h2
  cases h
  refine ⟨rfl, ?_⟩
  intro o ho
  rcases hR.toRewrites.mem.mp ho with ⟨x, _, hx, rfl⟩ | ⟨ho, hnot⟩
  · simp only [Bool.and_eq_true, beq_iff_eq] at hx
    exact .inl ⟨hx.1, rfl⟩
  · exact .inr ⟨ho, by simpa using hnot⟩

/-- 取得は、取れない行を片付けた後、一つの行を貸与するか、何もしない。 -/
theorem claimNextScheduledRun_cases {leaseOwner : String} {lease : Option Int}
    {admission : Option AdmissionGuard} {mutationNow : Int}
    {outcome : Except StateError (Option ClaimedScheduledRun)}
    (h : claimNextScheduledRun leaseOwner at_ lease admission mutationNow s = .ok (outcome, s')) :
    ∃ s1, KeepsRows s s1 ∧ ((s' = s1 ∧ ∀ claimed, outcome ≠ .ok (some claimed)) ∨
      ∃ r claimed, r ∈ s1.runs.rows ∧ r.claimable mutationNow = true ∧ outcome = .ok (some claimed) ∧
        leaseRun leaseOwner (lease.getD mutationNow) mutationNow r s1 = .ok (claimed, s')) := by
  unfold claimNextScheduledRun at h
  obtain ⟨_, _, h⟩ := Tx.check_bind_ok.mp h
  obtain ⟨_, h⟩ := Tx.require_bind_ok.mp h
  obtain ⟨_, s0, h0, h⟩ := Tx.bind_ok.mp h
  rw [acquireExecutorAdmission_ok h0] at h
  obtain ⟨_, s1, h1, h⟩ := Tx.bind_ok.mp h
  rw [Tx.read_bind_apply] at h
  refine ⟨s1, sweepFirst_keepsRows h1, ?_⟩
  cases hfirst : first claimedBefore (s1.runs.rows.filter (·.claimable mutationNow)) with
  | none =>
    rw [hfirst] at h
    dsimp only at h
    rw [Tx.read_bind_apply] at h
    obtain ⟨_, s2, h2, h⟩ := Tx.bind_ok.mp h
    cases h
    refine .inl ⟨confirmExecutorAdmission_ok h2, ?_⟩
    intro claimed hclaimed
    unfold emptyClaim at hclaimed
    split at hclaimed <;> simp at hclaimed
  | some r =>
    obtain ⟨hr, hclaim⟩ := List.mem_filter.mp (first_mem hfirst)
    rw [hfirst] at h
    dsimp only at h
    obtain ⟨claimed, s2, h2, h⟩ := Tx.bind_ok.mp h
    obtain ⟨_, s3, h3, h⟩ := Tx.bind_ok.mp h
    cases h
    rw [confirmExecutorAdmission_ok h3]
    exact .inr ⟨r, claimed, hr, hclaim, rfl, h2⟩

/-- 取り出しの後、始まった状態にある行は、前からその状態にある。 -/
theorem claimNextScheduledRun_keepsRows {leaseOwner : String} {lease : Option Int}
    {admission : Option AdmissionGuard} {mutationNow : Int}
    {outcome : Except StateError (Option ClaimedScheduledRun)}
    (h : claimNextScheduledRun leaseOwner at_ lease admission mutationNow s = .ok (outcome, s')) :
    KeepsRows s s' := by
  obtain ⟨s1, hsweep, hrest⟩ := claimNextScheduledRun_cases h
  rcases hrest with ⟨rfl, _⟩ | ⟨r, claimed, _, _, _, hlease⟩
  · exact hsweep
  · refine hsweep.trans ?_
    intro o ho
    rcases (leaseRun_rows hlease).2 o ho with ⟨_, hstate⟩ | ⟨ho, _⟩
    · exact .inl (.inr (.inl hstate))
    · exact .old ho

theorem claimNextScheduledRun_leased {leaseOwner : String} {lease : Option Int}
    {admission : Option AdmissionGuard} {mutationNow : Int} {claimed : ClaimedScheduledRun}
    (h : claimNextScheduledRun leaseOwner at_ lease admission mutationNow s = .ok (.ok (some claimed), s'))
    (ho : o ∈ s'.runs.rows) (hid : o.runId = claimed.binding.runId) : o.state = .leased := by
  obtain ⟨s1, _, hrest⟩ := claimNextScheduledRun_cases h
  rcases hrest with ⟨_, hnone⟩ | ⟨r, claimed', hr, hclaim, heq, hlease⟩
  · exact absurd rfl (hnone claimed)
  · cases heq
    obtain ⟨hrun, hrows⟩ := leaseRun_rows hlease
    rcases hrows o ho with ⟨_, hstate⟩ | ⟨ho, hnot⟩
    · exact hstate
    · have heq := eq_of_runId hr ho (hid.trans hrun)
      subst heq
      exact absurd ⟨rfl, hclaim⟩ hnot

/-! ## 回収 -/

def Recoverable (E : Env) (s : Store) (r : ScheduledRunRow) : Prop :=
  ∃ a ∈ s.attempts.rows, (isCurrentAttempt r a = true ∧ sameLiveState r a = true) ∧
    persistedProfileAllowsRecovery E r (r.leaseBinding a.leaseOwner) a.attestedProfile = .ok true

def Abandoned (E : Env) (s : Store) (at_ : Int) (r : ScheduledRunRow) : Prop :=
  r.state = .executing ∧ r.leaseExpiresAt.any (· ≤ at_) = true ∧ ¬Recoverable E s r

theorem expiredReclaimTransition_safe {state : ScheduledRunState} {runId : String}
    {attempt fence maxAttempts : Int} {safe : Bool} (h : ¬(state = .executing ∧ safe = false)) :
    let t := expiredReclaimTransition state runId attempt fence maxAttempts safe
    t.runState = .pending ∨ t.runState = .failed := by
  unfold expiredReclaimTransition
  rw [if_neg h]
  split
  · exact .inl rfl
  · exact .inr rfl

theorem not_recoverable {a : RunAttemptRow} (ha : a ∈ s.attempts.rows) (hcurrent : isCurrentAttempt r a = true)
    (hsafe : persistedProfileAllowsRecovery E r (r.leaseBinding a.leaseOwner) a.attestedProfile = .ok false) :
    ¬Recoverable E s r := by
  rintro ⟨a', ha', ⟨hcurrent', _⟩, hallows⟩
  rw [eq_of_isCurrentAttempt ha ha' hcurrent hcurrent', hsafe] at hallows
  cases hallows

theorem nextExpired_spec {a : RunAttemptRow} (h : nextExpired at_ s = some (r, a)) :
    r ∈ s.runs.rows ∧ a ∈ s.attempts.rows ∧ isCurrentAttempt r a = true ∧
      r.leaseExpiresAt.any (· ≤ at_) = true := by
  obtain ⟨o, ho, hlive⟩ := List.mem_filterMap.mp (first_mem h)
  split at hlive
  · rename_i hexpired
    obtain ⟨c, hfind, heq⟩ := Option.map_eq_some_iff.mp hlive
    cases heq
    have hc := List.find?_some hfind
    simp only [Bool.and_eq_true] at hc
    exact ⟨ho, List.mem_of_find?_eq_some hfind, hc.1.1, (Bool.and_eq_true_iff.mp hexpired).2⟩
  · cases hlive

/-- 回収で変わるのは、貸与の切れた行だけである。 -/
theorem reclaimNextExpiredScheduledRun_rows {override : Option (Int × Int)} {outcome : ExpiredRunReclaimOutcome}
    (h : reclaimNextExpiredScheduledRun E at_ override s = .ok (outcome, s')) (ho : o ∈ s'.runs.rows) :
    KeptRow s o ∨ ∃ r ∈ s.runs.rows, r.SameNumbers o ∧ Abandoned E s at_ r := by
  unfold reclaimNextExpiredScheduledRun at h
  obtain ⟨_, h⟩ := Tx.require_bind_ok.mp h
  rw [Tx.read_bind_apply] at h
  cases hnext : nextExpired at_ s with
  | none =>
    rw [hnext] at h
    cases h
    exact .inl (.old ho)
  | some pair =>
    obtain ⟨r, a⟩ := pair
    obtain ⟨hr, ha, hcurrent, hexpired⟩ := nextExpired_spec hnext
    rw [hnext] at h
    dsimp only at h
    obtain ⟨safe, hsafe, h⟩ := Tx.check_bind_ok.mp h
    obtain ⟨_, s1, h1, h⟩ := Tx.bind_ok.mp h
    cases h
    rcases fencedTransition_rows h1 ho with ho | ⟨x, hx, howns, _, rfl⟩
    · exact .inl (.old ho)
    · have hxr : x = r := eq_of_runId hr hx (RunLeaseBinding.ownsRun_iff.mp howns).1
      subst hxr
      by_cases hbad : x.state = .executing ∧ safe = false
      · obtain ⟨hexec, rfl⟩ := hbad
        simp only [safeExecutionRetry, if_pos hexec] at hsafe
        exact .inr ⟨x, hx, ⟨rfl, rfl, rfl⟩, hexec, hexpired, not_recoverable ha hcurrent hsafe⟩
      · rcases expiredReclaimTransition_safe hbad with hstate | hstate
        · exact .inl (.inl (.inl hstate))
        · exact .inl (.inl (.inr (.inr (.inl hstate))))

/-- 確かめ終えた候補の移し替えは、候補の行だけを書き換える。そのとき、候補の行には同じ状態の試行がある。 -/
theorem applyReconcile_rows {c : ScheduledRunReconcileCandidate} {t : ExpiredReclaimTransition}
    {retryAt : Option Int} {outcome : ScheduledRunReconcileOutcome} (hr : r ∈ s.runs.rows)
    (hb : b.ownsRun r = true)
    (h : applyReconcile c b r t retryAt at_ s = .ok (outcome, s')) (ho : o ∈ s'.runs.rows) :
    o ∈ s.runs.rows ∨ o = reclaimedRun t retryAt at_ r ∧
      ∃ a ∈ s.attempts.rows, isCurrentAttempt r a = true ∧ sameLiveState r a = true := by
  unfold applyReconcile at h
  obtain ⟨n, s1, h1, h⟩ := Tx.bind_ok.mp h
  obtain ⟨R, hR, rfl, rfl⟩ := updateRuns_ok.mp h1
  have hone : ∀ x ∈ s.runs.rows, b.ownsRun x = true → x = r := by
    intro x hx hxb
    exact eq_of_runId hr hx ((RunLeaseBinding.ownsRun_iff.mp hxb).1.trans (RunLeaseBinding.ownsRun_iff.mp hb).1.symm)
  split at h
  · rename_i hcount
    cases h
    rcases hR.toRewrites.mem.mp ho with ⟨x, hx, hpx, rfl⟩ | ⟨ho, _⟩
    · -- 対象は高々一行なので、数が違えば一行も書き換えていない。
      exfalso
      have hle := s.runs.countP_eq_one_iff (p := fun o => b.ownsRun o && o.state == r.state
        && o.leaseExpiresAt == some c.leaseExpiresAt && o.leaseExpiresAt.any (· ≤ at_)
        && decide (o.updatedAt ≤ at_)) (by
          intro y hy z hz hpy hpz
          simp only [Bool.and_eq_true] at hpy hpz
          rw [hone y hy hpy.1.1.1.1, hone z hz hpz.1.1.1.1]
          simp [scheduledRuns])
      simp [hle.mpr ⟨x, hx, hpx⟩] at hcount
    · exact .inl ho
  · obtain ⟨m, s2, h2, h⟩ := Tx.bind_ok.mp h
    obtain ⟨A, hA, rfl, rfl⟩ := updateAttempts_ok.mp h2
    obtain ⟨hm, h⟩ := Tx.require_bind_ok.mp h
    cases h
    obtain ⟨a, ha, hpa⟩ := exists_of_countP hm
    simp only [Bool.and_eq_true] at hpa
    rcases hR.toRewrites.mem.mp ho with ⟨x, hx, hpx, rfl⟩ | ⟨ho, _⟩
    · simp only [Bool.and_eq_true] at hpx
      cases hone x hx hpx.1.1.1.1
      exact .inr ⟨rfl, a, ha, RunLeaseBinding.isCurrentAttempt hb hpa.1.1.1.1, hpa.1.1.1.2⟩
    · exact .inl ho

/-- 突き合わせの後の行は、前からの状態にあるか、見捨てられた実行の行である。 -/
theorem reconcileScheduledRunCandidate_rows {c : ScheduledRunReconcileCandidate}
    {outcome : ScheduledRunReconcileOutcome}
    (h : reconcileScheduledRunCandidate E c at_ s = .ok (outcome, s')) (ho : o ∈ s'.runs.rows) :
    KeptRow s o ∨ ∃ r ∈ s.runs.rows, r.SameNumbers o ∧ Abandoned E s at_ r := by
  unfold reconcileScheduledRunCandidate at h
  obtain ⟨_, _, h⟩ := Tx.check_bind_ok.mp h
  obtain ⟨_, _, h⟩ := Tx.check_bind_ok.mp h
  obtain ⟨_, h⟩ := Tx.require_bind_ok.mp h
  rw [Tx.read_bind_apply] at h
  cases hfind : s.runs.rows.find? fun r => r.runId == c.runId with
  | none =>
    rw [hfind] at h
    cases h
    exact .inl (.old ho)
  | some r =>
    have hr := List.mem_of_find?_eq_some hfind
    rw [hfind] at h
    dsimp only at h
    split at h
    · cases h
      exact .inl (.old ho)
    rename_i hseen
    split at h
    · cases h
      exact .inl (.old ho)
    rename_i hdue
    rw [Tx.read_bind_apply] at h
    obtain ⟨safe, hsafe, h⟩ := Tx.check_bind_ok.mp h
    split at h
    · cases h
      exact .inl (.old ho)
    simp only [Bool.not_eq_true', Bool.not_eq_false, ScheduledRunReconcileCandidate.observes,
      Bool.and_eq_true, beq_iff_eq] at hseen
    obtain ⟨⟨_, howner⟩, hlease⟩ := hseen
    simp only [gt_iff_lt, Bool.or_eq_true, decide_eq_true_eq, not_or, not_lt] at hdue
    have howns : (r.leaseBinding c.leaseOwner).ownsRun r = true :=
      RunLeaseBinding.ownsRun_iff.mpr ⟨rfl, rfl, rfl, rfl, howner⟩
    rcases applyReconcile_rows hr howns h ho with ho | ⟨rfl, a, ha, hcurrent, hlive⟩
    · exact .inl (.old ho)
    by_cases hbad : r.state = .executing ∧ safe = false
    · obtain ⟨hexec, rfl⟩ := hbad
      refine .inr ⟨r, hr, ⟨rfl, rfl, rfl⟩, hexec, by simp [hlease, hdue.1], ?_⟩
      have hsome : (s.attempts.rows.find? fun a => isCurrentAttempt r a && sameLiveState r a).isSome = true :=
        List.find?_isSome.mpr ⟨a, ha, by simp [hcurrent, hlive]⟩
      obtain ⟨a', hfound⟩ := Option.isSome_iff_exists.mp hsome
      have ha' := List.find?_some hfound
      simp only [Bool.and_eq_true] at ha'
      have heq := eq_of_isCurrentAttempt ha (List.mem_of_find?_eq_some hfound) hcurrent ha'.1
      subst heq
      have hbinding : r.leaseBinding c.leaseOwner = r.leaseBinding a'.leaseOwner := by
        rw [Option.some.inj (howner.symm.trans (isCurrentAttempt_iff.mp hcurrent).2.2.2.2)]
      simp only [hfound, Option.bind_some, safeExecutionRetry, if_pos hexec, hbinding] at hsafe
      exact not_recoverable ha hcurrent hsafe
    · rcases expiredReclaimTransition_safe hbad with hstate | hstate
      · exact .inl (.inl (.inl hstate))
      · exact .inl (.inl (.inr (.inr (.inl hstate))))

theorem Cancels.keepsRows {jobId : String} {generation : Int} {R : Table scheduledRuns}
    {A : Table scheduledRunAttempts} (h : Cancels s jobId generation at_ R A) (ho : o ∈ R.rows) : KeptRow s o := by
  rcases h.runs.mem.mp ho with ⟨r, _, _, rfl⟩ | ⟨ho, _⟩
  · exact .inl (.inr (.inr (.inr rfl)))
  · exact .old ho

/-- 作業者の操作のほかは、行を始まった状態へ進めない。 -/
theorem Effect.keepsRows {k : Origin} (h : Effect E now k s s') (hk : k ≠ .work) : KeepsRows s s' := by
  intro o ho
  cases h with
  | aside same => exact KeepsRows.of_runs same.runs o ho
  | updated time valid found jobId generation next jobs cancels schedules targets => exact cancels.keepsRows ho
  | stopped becomes jobs cancels schedules => exact cancels.keepsRows ho
  | materialized found active schedule jobId nextRunAt overdue readable coalesced baselines owner runs
      advances =>
      rcases runs.mem.mp ho with ho | rfl
      · exact .old ho
      · exact .inl (.inl rfl)
  | requeued retryable runs =>
    rcases runs.mem.mp ho with rfl | ⟨ho, _⟩
    · exact .inl (.inl rfl)
    · exact .old ho
  | prunedHistory settled => exact .old (List.mem_filter.mp ho).1
  | swept | leased | fenced | accepted | sending | prunedRun => exact absurd rfl hk
  | _ => exact .old ho

theorem keepsRows_of_effects {k : Origin} (h : Relation.ReflTransGen (Effect E now k) s s') (hk : k ≠ .work) :
    KeepsRows s s' := by
  induction h with
  | refl => exact .refl _
  | tail _ step ih => exact ih.trans (step.keepsRows hk)

theorem Op.keepsRows_of_origin {op : Op} (h : op.origin ≠ .work) : KeepsRows s (op.apply E s) :=
  keepsRows_of_effects (op.apply_effects s) h

end Codeoff.State
