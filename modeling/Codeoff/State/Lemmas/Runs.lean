import Codeoff.State.Lemmas.Jobs

/-!
# 発生と貸与の効果

実行者の許可の確認、発生、貸与、束縛による書き換え。
-/

namespace Codeoff.State

open Codeoff.Core Codeoff.Relational

variable {E : Env} {s s' : Store} {u : Unit}

theorem revalidateExecutorAdmission_ok {a : ScheduledExecutorAdmission} {now : Int}
    (h : revalidateExecutorAdmission a now s = .ok (u, s')) : s' = s := by
  unfold revalidateExecutorAdmission at h
  obtain ⟨_, h⟩ := Tx.require_bind_ok.mp h
  rw [Tx.read_bind_apply] at h
  exact (Tx.require_ok.mp h).2

theorem acquireExecutorAdmission_ok {admission : Option AdmissionGuard}
    (h : acquireExecutorAdmission admission s = .ok (u, s')) : s' = s := by
  cases admission with
  | none => cases h; rfl
  | some g =>
    obtain ⟨_, _, h⟩ := Tx.check_bind_ok.mp h
    rw [Tx.read_bind_apply] at h
    obtain ⟨_, h⟩ := Tx.require_bind_ok.mp h
    obtain ⟨_, s1, h1, h⟩ := Tx.bind_ok.mp h
    rw [(Tx.require_ok.mp h).2]
    exact revalidateExecutorAdmission_ok h1

theorem confirmExecutorAdmission_ok {admission : Option AdmissionGuard}
    (h : confirmExecutorAdmission admission s = .ok (u, s')) : s' = s := by
  cases admission with
  | none => cases h; rfl
  | some g =>
    obtain ⟨_, h⟩ := Tx.require_bind_ok.mp h
    exact revalidateExecutorAdmission_ok h

/-- 世代の登録は、世代を前にだけ進める。 -/
theorem registerScheduledExecutorEpoch_ok {a : ScheduledExecutorEpochAuthority} {now : Int}
    {outcome : ScheduledExecutorEpochRegistration}
    (h : registerScheduledExecutorEpoch a now s = .ok (outcome, s')) :
    s' = { s with epoch := some a.row } ∧ EpochAdvances s.epoch (some a.row) := by
  unfold registerScheduledExecutorEpoch at h
  obtain ⟨_, _, h⟩ := Tx.check_bind_ok.mp h
  obtain ⟨_, h⟩ := Tx.require_bind_ok.mp h
  rw [Tx.read_bind_apply, Tx.modify_bind_apply, Tx.read_bind_apply] at h
  obtain ⟨hcurrent, h⟩ := Tx.require_bind_ok.mp h
  cases h
  cases hepoch : s.epoch with
  | none =>
    refine ⟨by simp only, ?_⟩
    intro row hrow
    cases hrow
  | some row =>
    simp only [hepoch] at hcurrent ⊢
    split
    · rename_i hgt
      refine ⟨rfl, ?_⟩
      intro row' hrow'
      cases hrow'
      refine ⟨a.row, rfl, le_of_lt hgt, ?_⟩
      intro heq
      exact absurd heq (ne_of_gt hgt)
    · rename_i hle
      rw [if_neg hle, hepoch, beq_iff_eq] at hcurrent
      rw [← hcurrent, ← hepoch]
      exact ⟨rfl, .refl _⟩

theorem registerScheduledExecutorEpoch_effect {k : Origin} {a : ScheduledExecutorEpochAuthority} {now : Int}
    {outcome : ScheduledExecutorEpochRegistration}
    (h : registerScheduledExecutorEpoch a now s = .ok (outcome, s')) : Effect E now k s s' := by
  obtain ⟨rfl, hepoch⟩ := registerScheduledExecutorEpoch_ok h
  exact .aside ⟨rfl, rfl, rfl, rfl, rfl, rfl, rfl, rfl, rfl, rfl, rfl, fun _ h => h,
    fun _ _ => le_max_left _ _, hepoch⟩

/-! ## 発生 -/

theorem dueJob_eq_some {jobId : String} {generation now due : Int} {job : ScheduledJobRow}
    {row : ScheduleRow} :
    dueJob jobId generation now s = some (job, row, due) →
      (job ∈ s.jobs.rows ∧ job.jobId = jobId ∧ job.status = .active ∧ job.generation = generation) ∧
        row ∈ s.schedules.rows ∧ row.jobId = jobId ∧ row.nextRunAt = some due ∧ due ≤ now := by
  intro h
  unfold dueJob at h
  obtain ⟨j, hj, h⟩ := Option.bind_eq_some_iff.mp h
  obtain ⟨r, hr, h⟩ := Option.bind_eq_some_iff.mp h
  obtain ⟨d, hd, h⟩ := Option.bind_eq_some_iff.mp h
  split at h
  · rename_i hcond
    cases h
    have hpj := List.find?_some hj
    have hpr := List.find?_some hr
    rw [beq_iff_eq] at hpj hpr
    exact ⟨⟨List.mem_of_find?_eq_some hj, hpj, hcond.1, hcond.2.1⟩, List.mem_of_find?_eq_some hr, hpr,
      hd, hcond.2.2⟩
  · cases h

theorem loadMaterializationSnapshots_ok {jobId : String}
    {snapshots : List DeliveryTargetSnapshot × ExecutionBaselineSnapshot}
    (h : loadMaterializationSnapshots jobId s = .ok (snapshots, s')) :
    s' = s ∧ ∃ b ∈ s.baselines.rows, b.jobId = jobId ∧ snapshots = (jobTargets s jobId,
      { baselineVersion := b.baselineVersion, result := b.result,
        previousSuccessContext := b.previousSuccessContext }) := by
  unfold loadMaterializationSnapshots at h
  rw [Tx.read_bind_apply] at h
  obtain ⟨_, _, h⟩ := Tx.check_bind_ok.mp h
  rw [Tx.read_bind_apply] at h
  obtain ⟨b, hb, h⟩ := Tx.orElseFail_bind_ok.mp h
  cases h
  have hpb := List.find?_some hb
  rw [beq_iff_eq] at hpb
  exact ⟨rfl, b, List.mem_of_find?_eq_some hb, hpb, rfl⟩

/-- 発生の後、予定は次の時刻に進むか、終わる。 -/
theorem advanceSchedule_ok {job : ScheduledJobRow} {now : Int} {window : OccurrenceWindow}
    (hmem : job ∈ s.jobs.rows) (hactive : job.status = .active)
    (h : advanceSchedule job.jobId job.generation now window s = .ok (u, s')) :
    ∃ J C, Advances s job now window J C ∧ s' = { s with schedules := C, jobs := J } := by
  unfold advanceSchedule at h
  cases hnext : window.nextRunAt with
  | some next =>
    rw [hnext] at h
    dsimp only at h
    rw [Tx.read_bind_apply] at h
    have hany : (s.jobs.rows.any fun j => j.jobId == job.jobId && j.status == .active
        && j.generation == job.generation) = true :=
      List.any_eq_true.mpr ⟨job, hmem, by simp [hactive]⟩
    rw [hany] at h
    obtain ⟨n, s1, h1, h⟩ := Tx.bind_ok.mp h
    obtain ⟨C, hC, _, rfl⟩ := updateSchedules_ok.mp h1
    obtain ⟨_, rfl⟩ := Tx.require_ok.mp h
    simp only [Bool.and_true] at hC
    exact ⟨s.jobs, C, .next hnext hC.toRewrites, rfl⟩
  | none =>
    rw [hnext] at h
    dsimp only at h
    obtain ⟨_, s1, h1, h⟩ := Tx.bind_ok.mp h
    obtain ⟨C, hC, _, rfl⟩ := updateSchedules_ok.mp h1
    obtain ⟨_, s2, h2, h⟩ := Tx.bind_ok.mp h
    obtain ⟨J, hJ, _, rfl⟩ := updateJobs_ok.mp h2
    cases h
    exact ⟨J, C, .last hnext hC.toRewrites hJ.toRewrites, rfl⟩

theorem materializeOccurrence_effect {job : ScheduledJobRow} {row : ScheduleRow} {due now : Int}
    {run : Option ScheduledRunRow} (hmem : job ∈ s.jobs.rows) (hactive : job.status = .active)
    (hrow : row ∈ s.schedules.rows) (hid : row.jobId = job.jobId) (hdue : row.nextRunAt = some due)
    (hle : due ≤ now) (h : materializeOccurrence E job row due now s = .ok (run, s')) :
    Relation.ReflTransGen (Effect E now (.materialize job.jobId)) s s' := by
  unfold materializeOccurrence at h
  obtain ⟨spec, hspec, h⟩ := Tx.check_bind_ok.mp h
  obtain ⟨window, hwindow, h⟩ := Tx.check_bind_ok.mp h
  obtain ⟨⟨targets, baseline⟩, s1, h1, h⟩ := Tx.bind_ok.mp h
  obtain ⟨hs, b, hb, howner, hsnap⟩ := loadMaterializationSnapshots_ok h1
  cases hsnap
  rw [hs] at h
  obtain ⟨n, s2, h2, h⟩ := Tx.bind_ok.mp h
  obtain ⟨_, ⟨rfl, rfl, _⟩ | ⟨rfl, R, hR, rfl⟩⟩ := insertRunOrIgnore_ok.mp h2
  · cases h
    exact .refl
  · obtain ⟨_, s3, h3, h⟩ := Tx.bind_ok.mp h
    cases h
    obtain ⟨J, C, hadv, rfl⟩ := advanceSchedule_ok (s := { s with runs := R }) hmem hactive h3
    refine .single (.materialized hmem hactive hrow hid hdue hle hspec
      (invalidOccurrence_ok.mp hwindow) hb howner hR.toAppends ?_)
    cases hadv with
    | next hnext hC => exact .next hnext hC
    | last hnext hC hJ => exact .last hnext hC hJ

/-- 発生は、名指したジョブを由来とする効果の列である。 -/
theorem materializeDueSchedule_effects {jobId : String} {generation now : Int}
    {admission : Option AdmissionGuard} {outcome : MaterializationOutcome}
    (h : materializeDueSchedule E jobId generation now admission s = .ok (outcome, s')) :
    Relation.ReflTransGen (Effect E now (.materialize jobId)) s s' := by
  unfold materializeDueSchedule at h
  obtain ⟨_, s0, h0, h⟩ := Tx.bind_ok.mp h
  rw [acquireExecutorAdmission_ok h0, Tx.read_bind_apply] at h
  cases hdue : dueJob jobId generation now s with
  | none =>
    rw [hdue] at h
    cases h
    exact .refl
  | some found =>
    obtain ⟨job, row, due⟩ := found
    obtain ⟨⟨hmem, hid, hactive, _⟩, hrow, hrid, hnext, hle⟩ := dueJob_eq_some hdue
    rw [hdue] at h
    dsimp only at h
    rw [Tx.read_bind_apply] at h
    split at h
    · cases h
      exact .refl
    · obtain ⟨run, s1, h1, h⟩ := Tx.bind_ok.mp h
      have heffect := materializeOccurrence_effect hmem hactive hrow (hrid.trans hid.symm) hnext hle h1
      rw [hid] at heffect
      cases run with
      | none =>
        cases h
        exact heffect
      | some run =>
        obtain ⟨_, s2, h2, h⟩ := Tx.bind_ok.mp h
        cases h
        rw [confirmExecutorAdmission_ok h2]
        exact heffect

theorem runs_replaces {p : ScheduledRunRow → Bool} {f : ScheduledRunRow → ScheduledRunRow}
    {R : Table scheduledRuns} (runId : String) (hR : s.runs.Rewrites p f R)
    (hp : ∀ r, p r = true → r.runId = runId) {r : ScheduledRunRow} (hr : r ∈ s.runs.rows)
    (hpr : p r = true) : s.runs.Replaces r (f r) R := by
  refine hR.replaces hr hpr ?_
  intro o ho hpo
  exact s.runs.eq_of_conflict ho hr (by simp [scheduledRuns, hp o hpo, hp r hpr])

theorem leaseRun_effect {leaseOwner : String} {requested now at_ : Int} {r : ScheduledRunRow}
    {claimed : ClaimedScheduledRun} (hmem : r ∈ s.runs.rows) (hclaim : r.claimable at_ = true)
    (h : leaseRun leaseOwner requested at_ r s = .ok (claimed, s')) : Effect E now .work s s' := by
  unfold leaseRun at h
  obtain ⟨_, s1, h1, h⟩ := Tx.bind_ok.mp h
  obtain ⟨R, hR, _, rfl⟩ := updateRuns_ok.mp h1
  obtain ⟨_, h⟩ := Tx.require_bind_ok.mp h
  obtain ⟨_, s2, h2, h⟩ := Tx.bind_ok.mp h
  obtain ⟨A, hA, rfl⟩ := insertAttempt_ok.mp h2
  cases h
  refine .leased hclaim (runs_replaces r.runId hR.toRewrites ?_ hmem (by simp [hclaim])) hA.toAppends
  intro o ho
  simp only [Bool.and_eq_true, beq_iff_eq] at ho
  exact ho.1

theorem sweepExhausted_effect {now at_ : Int} (h : sweepExhausted at_ s = .ok (u, s')) :
    Effect E now .work s s' := by
  obtain ⟨_, s1, h1, h⟩ := Tx.bind_ok.mp h
  obtain ⟨R, hR, _, rfl⟩ := updateRuns_ok.mp h1
  cases h
  exact .swept hR.toRewrites

theorem claimNextScheduledRun_effects {leaseOwner : String} {now at_ : Int} {lease : Option Int}
    {admission : Option AdmissionGuard} {mutationNow : Int}
    {outcome : Except StateError (Option ClaimedScheduledRun)}
    (h : claimNextScheduledRun leaseOwner at_ lease admission mutationNow s = .ok (outcome, s')) :
    Relation.ReflTransGen (Effect E now .work) s s' := by
  unfold claimNextScheduledRun at h
  obtain ⟨_, _, h⟩ := Tx.check_bind_ok.mp h
  obtain ⟨_, h⟩ := Tx.require_bind_ok.mp h
  obtain ⟨_, s0, h0, h⟩ := Tx.bind_ok.mp h
  rw [acquireExecutorAdmission_ok h0] at h
  obtain ⟨_, s1, h1, h⟩ := Tx.bind_ok.mp h
  have hsweep : Relation.ReflTransGen (Effect E now .work) s s1 := by
    unfold sweepFirst at h1
    split at h1
    · exact .single (sweepExhausted_effect h1)
    · cases h1
      exact .refl
  refine hsweep.trans ?_
  rw [Tx.read_bind_apply] at h
  cases hfirst : first claimedBefore (s1.runs.rows.filter (·.claimable mutationNow)) with
  | none =>
    rw [hfirst] at h
    dsimp only at h
    rw [Tx.read_bind_apply] at h
    obtain ⟨_, s2, h2, h⟩ := Tx.bind_ok.mp h
    cases h
    rw [confirmExecutorAdmission_ok h2]
  | some r =>
    obtain ⟨hr, hclaim⟩ := List.mem_filter.mp (first_mem hfirst)
    rw [hfirst] at h
    dsimp only at h
    obtain ⟨_, s2, h2, h⟩ := Tx.bind_ok.mp h
    obtain ⟨_, s3, h3, h⟩ := Tx.bind_ok.mp h
    cases h
    rw [confirmExecutorAdmission_ok h3]
    exact .single (leaseRun_effect hr hclaim h2)

/-! ## 束縛による書き換え -/

theorem RunLeaseBinding.ownsRun_iff {b : RunLeaseBinding} {r : ScheduledRunRow} :
    b.ownsRun r = true ↔ r.runId = b.runId ∧ r.jobId = b.jobId ∧ r.attempt = b.attempt ∧
      r.fence = b.fence ∧ r.leaseOwner = some b.leaseOwner := by
  simp [RunLeaseBinding.ownsRun, and_assoc]

theorem RunLeaseBinding.ownsAttempt_iff {b : RunLeaseBinding} {a : RunAttemptRow} :
    b.ownsAttempt a = true ↔ a.runId = b.runId ∧ a.jobId = b.jobId ∧ a.attempt = b.attempt ∧
      a.fence = b.fence ∧ a.leaseOwner = b.leaseOwner := by
  simp [RunLeaseBinding.ownsAttempt, and_assoc]

theorem isCurrentAttempt_iff {r : ScheduledRunRow} {a : RunAttemptRow} :
    isCurrentAttempt r a = true ↔ a.runId = r.runId ∧ a.jobId = r.jobId ∧ a.attempt = r.attempt ∧
      a.fence = r.fence ∧ r.leaseOwner = some a.leaseOwner := by
  simp [isCurrentAttempt, and_assoc]

theorem RunLeaseBinding.isCurrentAttempt {b : RunLeaseBinding} {r : ScheduledRunRow} {a : RunAttemptRow}
    (hr : b.ownsRun r = true) (ha : b.ownsAttempt a = true) : State.isCurrentAttempt r a = true := by
  obtain ⟨h1, h2, h3, h4, h5⟩ := ownsRun_iff.mp hr
  obtain ⟨g1, g2, g3, g4, g5⟩ := ownsAttempt_iff.mp ha
  rw [isCurrentAttempt_iff, g1, g2, g3, g4, g5, h1, h2, h3, h4, h5]
  simp

theorem eq_of_runId {r o : ScheduledRunRow} (hr : r ∈ s.runs.rows) (ho : o ∈ s.runs.rows)
    (h : o.runId = r.runId) : o = r := s.runs.eq_of_conflict ho hr (by simp [scheduledRuns, h])

theorem eq_of_isCurrentAttempt {r : ScheduledRunRow} {a a' : RunAttemptRow} (ha : a ∈ s.attempts.rows)
    (ha' : a' ∈ s.attempts.rows) (h : isCurrentAttempt r a = true) (h' : isCurrentAttempt r a' = true) :
    a' = a := by
  obtain ⟨h1, _, h3, _⟩ := isCurrentAttempt_iff.mp h
  obtain ⟨g1, _, g3, _⟩ := isCurrentAttempt_iff.mp h'
  exact s.attempts.eq_of_conflict ha' ha (by simp [scheduledRunAttempts, h1, h3, g1, g3])

theorem attempts_replaces {p : RunAttemptRow → Bool} {f : RunAttemptRow → RunAttemptRow}
    {A : Table scheduledRunAttempts} (runId : String) (attempt : Int) (hA : s.attempts.Rewrites p f A)
    (hp : ∀ a, p a = true → a.runId = runId ∧ a.attempt = attempt) {a : RunAttemptRow}
    (ha : a ∈ s.attempts.rows) (hpa : p a = true) : s.attempts.Replaces a (f a) A := by
  refine hA.replaces ha hpa ?_
  intro o ho hpo
  exact s.attempts.eq_of_conflict ho ha (by
    simp [scheduledRunAttempts, (hp o hpo).1, (hp o hpo).2, (hp a hpa).1, (hp a hpa).2])

/-- 束縛の持つ行と試行だけを、対で書き換える。 -/
theorem fencedTransition_ok {b : RunLeaseBinding} {onRun : ScheduledRunRow → Bool}
    {toRun : ScheduledRunRow → ScheduledRunRow} {onAttempt : RunAttemptRow → Bool}
    {toAttempt : RunAttemptRow → RunAttemptRow}
    (h : fencedTransition b onRun toRun onAttempt toAttempt s = .ok (u, s')) :
    ∃ r a R A, (b.ownsRun r = true ∧ onRun r = true) ∧ (b.ownsAttempt a = true ∧ onAttempt a = true) ∧
      s.runs.Replaces r (toRun r) R ∧ s.attempts.Replaces a (toAttempt a) A ∧
      s' = { s with runs := R, attempts := A } := by
  unfold fencedTransition at h
  obtain ⟨n, s1, h1, h⟩ := Tx.bind_ok.mp h
  obtain ⟨R, hR, rfl, rfl⟩ := updateRuns_ok.mp h1
  obtain ⟨hn, h⟩ := Tx.require_bind_ok.mp h
  obtain ⟨m, s2, h2, h⟩ := Tx.bind_ok.mp h
  obtain ⟨A, hA, rfl, rfl⟩ := updateAttempts_ok.mp h2
  obtain ⟨hm, rfl⟩ := Tx.require_ok.mp h
  obtain ⟨r, hr, hpr⟩ := exists_of_countP hn
  obtain ⟨a, ha, hpa⟩ := exists_of_countP hm
  have hrep := runs_replaces b.runId hR.toRewrites
    (fun o ho => (RunLeaseBinding.ownsRun_iff.mp (Bool.and_eq_true_iff.mp ho).1).1) hr hpr
  have hrepA := attempts_replaces b.runId b.attempt hA.toRewrites
    (fun o ho => by
      obtain ⟨h1, _, h3, _⟩ := RunLeaseBinding.ownsAttempt_iff.mp (Bool.and_eq_true_iff.mp ho).1
      exact ⟨h1, h3⟩) ha hpa
  exact ⟨r, a, R, A, Bool.and_eq_true_iff.mp hpr, Bool.and_eq_true_iff.mp hpa, hrep, hrepA, rfl⟩

theorem fencedTransition_effect {b : RunLeaseBinding} {onRun : ScheduledRunRow → Bool}
    {toRun : ScheduledRunRow → ScheduledRunRow} {onAttempt : RunAttemptRow → Bool}
    {toAttempt : RunAttemptRow → RunAttemptRow} {now : Int}
    (hchange : ∀ r a, b.ownsRun r = true → onRun r = true → onAttempt a = true →
      RunChange r a (toRun r) (toAttempt a))
    (h : fencedTransition b onRun toRun onAttempt toAttempt s = .ok (u, s')) : Effect E now .work s s' := by
  obtain ⟨r, a, R, A, ⟨hr, hor⟩, ⟨ha, hoa⟩, hR, hA, rfl⟩ := fencedTransition_ok h
  exact .fenced (RunLeaseBinding.isCurrentAttempt hr ha) (hchange r a hr hor hoa) hR hA

theorem heartbeatScheduledRun_effect {b : RunLeaseBinding} {at_ expiresAt now : Int}
    (h : heartbeatScheduledRun b at_ expiresAt s = .ok (u, s')) : Effect E now .work s s' := by
  unfold heartbeatScheduledRun at h
  obtain ⟨_, _, h⟩ := Tx.check_bind_ok.mp h
  obtain ⟨_, h⟩ := Tx.require_bind_ok.mp h
  refine fencedTransition_effect ?_ h
  intro r a _ hr ha
  simp only [Bool.and_eq_true, Option.any_eq_true, decide_eq_true_eq] at hr ha
  obtain ⟨hlive, t, ht, hheld, hlater⟩ := hr
  exact .extended hlive ht hheld hlater ha.1.1

theorem markScheduledRunExecuting_effect {b : RunLeaseBinding}
    {profile : AttestedExecutionProfileSnapshot} {at_ now : Int}
    (h : markScheduledRunExecuting b profile at_ s = .ok (u, s')) : Effect E now .work s s' := by
  unfold markScheduledRunExecuting at h
  obtain ⟨_, hbound, h⟩ := Tx.check_bind_ok.mp h
  obtain ⟨_, hvalid, h⟩ := Tx.check_bind_ok.mp h
  refine fencedTransition_effect ?_ h
  intro r a howns hr ha
  simp only [Bool.and_eq_true, beq_iff_eq] at hr ha
  exact .started hbound howns (invalidValue_ok.mp hvalid) hr.1 ha.1

end Codeoff.State
