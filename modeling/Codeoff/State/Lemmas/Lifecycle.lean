import Codeoff.State.Lemmas.RunCoherence

/-!
# 停止と更新が確定する条件

停止・削除・更新が書く行の制約を、取り消しの条件に帰着する。
-/

namespace Codeoff.State

open Codeoff.Core Codeoff.Relational

variable {E : Env} {s s' : Store} {jobId : String} {generation now : Int}

def Commits {α : Type} (x : StoreTx α) (s : Store) : Prop := ∃ a, (commit x s).1 = .ok a

theorem commits_iff {α : Type} {x : StoreTx α} : Commits x s ↔ ∃ out, x s = .ok out := by
  unfold Commits commit
  constructor
  · rintro ⟨a, h⟩
    cases hx : x s with
    | error e => rw [hx] at h; cases h
    | ok out => exact ⟨out, rfl⟩
  · rintro ⟨out, h⟩
    rw [h]
    exact ⟨out.1, rfl⟩

theorem commits_bind {α β : Type} {x : StoreTx α} {f : α → StoreTx β}
    (hf : ∀ {a t t'}, x t = .ok (a, t') → Commits (f a) t') : Commits (x >>= f) s ↔ Commits x s := by
  rw [commits_iff, commits_iff]
  constructor
  · rintro ⟨out, h⟩
    obtain ⟨a, t, hx, _⟩ := Tx.bind_ok.mp h
    exact ⟨(a, t), hx⟩
  · rintro ⟨⟨a, t⟩, hx⟩
    obtain ⟨out, hout⟩ := commits_iff.mp (hf hx)
    exact ⟨out, Tx.bind_ok.mpr ⟨a, t, hx, hout⟩⟩

/-! ## 取り消し -/

def NoPendingRetry (s : Store) (jobId : String) (generation : Int) : Prop :=
  ∀ r ∈ s.runs.rows, r.jobId = jobId → r.jobGeneration = generation → r.state = .pending →
    r.nextAttemptAt = none

theorem attempt_check {a : RunAttemptRow} (h : a ∈ s.attempts.rows) : a.Check :=
  of_decide_eq_true (s.attempts.checked a h)

theorem overlapSlot_of_holdsSlot {r : ScheduledRunRow} (hr : r ∈ s.runs.rows)
    (h : r.state.holdsSlot = true) : r.overlapSlot = some 1 := by
  obtain ⟨_, _, _, _, _, _, _, _, _, hslot⟩ := run_check hr
  rcases hslot with ⟨_, hslot⟩ | ⟨hfree, _⟩
  · exact hslot
  · rw [h] at hfree
    cases hfree

theorem eq_of_holdsSlot {r o : ScheduledRunRow} (hr : r ∈ s.runs.rows) (ho : o ∈ s.runs.rows)
    (hjob : o.jobId = r.jobId) (hr' : r.state.holdsSlot = true) (ho' : o.state.holdsSlot = true) :
    o = r := by
  refine s.runs.eq_of_conflict ho hr ?_
  simp [scheduledRuns, hjob, overlapSlot_of_holdsSlot hr hr', overlapSlot_of_holdsSlot ho ho', sameKey]

theorem leasedOf_iff {r : ScheduledRunRow} : leasedOf jobId generation r = true ↔
    r.jobId = jobId ∧ r.jobGeneration = generation ∧ r.state = .leased := by
  simp [leasedOf, and_assoc]

theorem preExecutionOf_iff {r : ScheduledRunRow} : preExecutionOf jobId generation r = true ↔
    r.jobId = jobId ∧ r.jobGeneration = generation ∧ (r.state = .pending ∨ r.state = .leased) := by
  simp [preExecutionOf, ScheduledRunState.isPreExecution, and_assoc]

/-- 貸与の行は、それぞれ閉じるべき試行をちょうど一つ持つ。 -/
theorem countP_cancellable (hI : LiveBound s) :
    s.attempts.rows.countP (cancellableAttempt s.runs.rows jobId generation) =
      s.runs.rows.countP (leasedOf jobId generation) := by
  have hone : ∀ x ∈ s.runs.rows, ∀ y ∈ s.runs.rows, leasedOf jobId generation x = true →
      leasedOf jobId generation y = true → y = x := by
    intro x hx y hy hlx hly
    obtain ⟨hxj, _, hxs⟩ := leasedOf_iff.mp hlx
    obtain ⟨hyj, _, hys⟩ := leasedOf_iff.mp hly
    exact eq_of_holdsSlot hx hy (hyj.trans hxj.symm) (by simp [hxs, ScheduledRunState.holdsSlot])
      (by simp [hys, ScheduledRunState.holdsSlot])
  have hruns : s.runs.rows.countP (leasedOf jobId generation) ≤ 1 := by
    refine s.runs.countP_le_one ?_
    intro x hx y hy hlx hly
    rw [hone x hx y hy hlx hly]
    simp [scheduledRuns]
  have hattempts : s.attempts.rows.countP (cancellableAttempt s.runs.rows jobId generation) ≤ 1 := by
    refine s.attempts.countP_le_one ?_
    intro a ha c hc hca hcc
    obtain ⟨_, hany⟩ := Bool.and_eq_true_iff.mp hca
    obtain ⟨_, hany'⟩ := Bool.and_eq_true_iff.mp hcc
    obtain ⟨x, hx, hxa⟩ := List.any_eq_true.mp hany
    obtain ⟨y, hy, hyc⟩ := List.any_eq_true.mp hany'
    obtain ⟨hxcur, hxl⟩ := Bool.and_eq_true_iff.mp hxa
    obtain ⟨hycur, hyl⟩ := Bool.and_eq_true_iff.mp hyc
    obtain rfl := hone x hx y hy hxl hyl
    rw [eq_of_isCurrentAttempt ha hc hxcur hycur]
    simp [scheduledRunAttempts]
  have hiff : 0 < s.attempts.rows.countP (cancellableAttempt s.runs.rows jobId generation) ↔
      0 < s.runs.rows.countP (leasedOf jobId generation) := by
    rw [List.countP_pos_iff, List.countP_pos_iff]
    constructor
    · rintro ⟨a, _, hca⟩
      obtain ⟨_, hany⟩ := Bool.and_eq_true_iff.mp hca
      obtain ⟨x, hx, hxa⟩ := List.any_eq_true.mp hany
      exact ⟨x, hx, (Bool.and_eq_true_iff.mp hxa).2⟩
    · rintro ⟨r, hr, hl⟩
      obtain ⟨_, _, hleased⟩ := leasedOf_iff.mp hl
      obtain ⟨a, ha, hcurrent, hstate, _⟩ := hI r hr (isLive_iff.mpr (.inl hleased))
      refine ⟨a, ha, Bool.and_eq_true_iff.mpr ⟨?_, List.any_eq_true.mpr ⟨r, hr, by simp [hcurrent, hl]⟩⟩⟩
      rcases sameLiveState_iff.mp hstate with ⟨_, h⟩ | ⟨h, _⟩
      · simp [h]
      · rw [hleased] at h
        cases h
  omega

theorem cancelledAttempt_check {a : RunAttemptRow} (ha : a ∈ s.attempts.rows) (hleased : a.state = .leased) :
    scheduledRunAttempts.check (cancelledAttempt now a) = true := by
  obtain ⟨h1, h2, h3, h4, _, _, _, h7⟩ := attempt_check ha
  refine decide_eq_true ⟨h1, h2, h3, h4, ?_, ?_, ?_, ?_⟩
  · simp [cancelledAttempt]
  · simp [cancelledAttempt]
  · simp [cancelledAttempt, RunAttemptState.isOpen]
  · rcases h7 with h | ⟨_, hclosed⟩
    · exact .inl h
    · simp [hleased, RunAttemptState.isOpen] at hclosed

/-- 取り消した行が検査を通るのは、次の試みの時刻が残っていないときである。 -/
theorem cancelledRun_check {r : ScheduledRunRow} (hr : r ∈ s.runs.rows)
    (hpre : r.state = .pending ∨ r.state = .leased) :
    scheduledRuns.check (cancelledRun now r) = true ↔ r.nextAttemptAt = none := by
  obtain ⟨h1, h2, h3, h4, _, _, h7, h8, h9, _⟩ := run_check hr
  have hhash : r.resultHash = none := h7.resolve_right (by rcases hpre with h | h <;> simp [h])
  have hcontext : r.resultContext = none := h8.resolve_right (by rcases hpre with h | h <;> simp [h])
  have herror : r.errorKind = none ∧ r.errorMessage = none :=
    h9.resolve_right (by rcases hpre with h | h <;> simp [h])
  constructor
  · intro h
    obtain ⟨_, _, _, _, _, hnext, _⟩ := (of_decide_eq_true h : (cancelledRun now r).Check)
    exact hnext.resolve_right (by simp [cancelledRun])
  · intro hnext
    refine decide_eq_true ⟨h1, h2, h3, h4, ?_, .inl hnext, .inl hhash, .inl hcontext, .inl herror, ?_⟩
    · simp [cancelledRun, ScheduledRunState.isLive]
    · simp [cancelledRun, ScheduledRunState.holdsSlot]

theorem cancelledAttempts_exist (jobId : String) (generation now : Int) :
    ∃ A, s.attempts.Updates noTrigger (cancellableAttempt s.runs.rows jobId generation)
      (cancelledAttempt now) A := by
  refine Table.exists_updates (fun _ _ _ => rfl) ?_
    (s.attempts.pairwise_rewrite fun a _ c _ hac => by split <;> split <;> exact hac)
  intro a ha hc
  exact cancelledAttempt_check ha (beq_iff_eq.mp (Bool.and_eq_true_iff.mp hc).1)

theorem cancelledRun_conflict {x y : ScheduledRunRow} (h : scheduledRuns.conflict x y = false) :
    scheduledRuns.conflict (cancelledRun now x) y = false := by
  simp only [scheduledRuns, Bool.or_eq_false_iff] at h ⊢
  exact ⟨h.1, by simp [cancelledRun, sameKey]⟩

theorem cancelledRuns_exist (now : Int) (hnone : NoPendingRetry s jobId generation)
    (guard : ScheduledRunRow → ScheduledRunRow → Option String)
    (hguard : ∀ r, guard r (cancelledRun now r) = none) :
    ∃ R, s.runs.Updates guard (preExecutionOf jobId generation) (cancelledRun now) R := by
  refine Table.exists_updates (fun r _ _ => hguard r) ?_ (s.runs.pairwise_rewrite ?_)
  · intro r hr hp
    obtain ⟨hjob, hgen, hstate⟩ := preExecutionOf_iff.mp hp
    refine (cancelledRun_check hr hstate).mpr ?_
    rcases hstate with hpending | hleased
    · exact hnone r hr hjob hgen hpending
    · obtain ⟨_, _, _, _, _, hnext, _⟩ := run_check hr
      exact hnext.resolve_right (by simp [hleased])
  · intro a _ c _ hac
    have hright : scheduledRuns.conflict a (cancelledRun now c) = false := by
      rw [scheduledRuns.conflict_symm] at hac ⊢
      exact cancelledRun_conflict hac
    split <;> split
    · exact cancelledRun_conflict hright
    · exact cancelledRun_conflict hac
    · exact hright
    · exact hac

theorem cancelPreExecutionRuns_commits (hI : LiveBound s) :
    Commits (cancelPreExecutionRuns jobId generation now) s ↔ NoPendingRetry s jobId generation := by
  rw [commits_iff]
  constructor
  · rintro ⟨⟨_, s'⟩, h⟩ r hr hjob hgen hpending
    obtain ⟨A, R, _, _, hR, rfl⟩ := cancelPreExecutionRuns_ok.mp h
    have hpre : preExecutionOf jobId generation r = true :=
      preExecutionOf_iff.mpr ⟨hjob, hgen, .inl hpending⟩
    exact (cancelledRun_check hr (.inl hpending)).mp (hR.check hr hpre)
  · intro hnone
    obtain ⟨A, hA⟩ := cancelledAttempts_exist (s := s) jobId generation now
    obtain ⟨R, hR⟩ := cancelledRuns_exist now hnone (runTriggers { s with attempts := A })
      (fun _ => runTriggers_none (by simp [cancelledRun]) rfl rfl rfl)
    exact ⟨((), _), cancelPreExecutionRuns_ok.mpr ⟨A, R, hA, countP_cancellable hI, hR, rfl⟩⟩

theorem job_check {j : ScheduledJobRow} (h : j ∈ s.jobs.rows) : j.Check :=
  of_decide_eq_true (s.jobs.checked j h)

theorem schedule_check {r : ScheduleRow} (h : r ∈ s.schedules.rows) : r.Check :=
  of_decide_eq_true (s.schedules.checked r h)

theorem inactiveSchedules_exist (jobId : String) (now : Int) :
    ∃ C, s.schedules.Updates noTrigger (fun r => r.jobId == jobId) (inactiveSchedule now) C := by
  refine Table.exists_updates (fun _ _ _ => rfl) ?_
    (s.schedules.pairwise_rewrite fun a _ c _ hac => by split <;> split <;> exact hac)
  intro r hr _
  obtain ⟨h1, h2, h3⟩ := schedule_check hr
  exact decide_eq_true ⟨h1, by simp only [inactiveSchedule]; omega, h3⟩

theorem inactiveJobs_exist (jobId : String) (generation : Int) (status : InactiveStatus) (now : Int) :
    ∃ J, s.jobs.Updates noTrigger (fun j => j.jobId == jobId && j.generation == generation
      && canBecome status j.status) (inactiveJob status now) J := by
  refine Table.exists_updates (fun _ _ _ => rfl) ?_
    (s.jobs.pairwise_rewrite fun a _ c _ hac => by split <;> split <;> exact hac)
  intro j hj _
  obtain ⟨h1, h2, h3, h4, h5, h6, _⟩ := job_check hj
  refine decide_eq_true ⟨h1, h2, h3, h4, by simp only [inactiveJob]; omega, h6, ?_⟩
  cases status <;> simp [inactiveJob, InactiveStatus.status]

/-- 停止も削除も、やり直しを待つ行が残っているときに限って失敗する。 -/
theorem setJobInactive_commits {status : InactiveStatus} {job : ScheduledJobRow} (hI : LiveBound s)
    (hjob : job ∈ s.jobs.rows) (hbecome : canBecome status job.status = true) :
    Commits (setJobInactive job.jobId job.generation status now) s ↔
      NoPendingRetry s job.jobId job.generation := by
  have hreturn : Commits (setJobInactive job.jobId job.generation status now) s ↔
      Commits (applyInactive job.jobId job.generation status now) s :=
    commits_bind fun _ => ⟨job.generation + 1, rfl⟩
  rw [hreturn]
  obtain ⟨J, hJ⟩ := inactiveJobs_exist (s := s) job.jobId job.generation status now
  have hcount : s.jobs.rows.countP (fun j => j.jobId == job.jobId && j.generation == job.generation
      && canBecome status j.status) = 1 := by
    rw [s.jobs.countP_eq_one_iff]
    · exact ⟨job, hjob, by simp [hbecome]⟩
    · intro x _ y _ hx hy
      simp only [Bool.and_eq_true, beq_iff_eq] at hx hy
      simp [scheduledJobs, hx.1.1, hy.1.1]
  have hI' : LiveBound { s with jobs := J } := hI
  have hstart : ∀ out, (applyInactive job.jobId job.generation status now) s = .ok out ↔
      ((do
        cancelPreExecutionRuns job.jobId job.generation now
        let _ ← updateSchedules (fun r => r.jobId == job.jobId) (inactiveSchedule now) :
        StoreTx Unit) { s with jobs := J } = .ok out) := by
    intro out
    unfold applyInactive
    rw [Tx.bind_of_ok (updateJobs_ok.mpr ⟨J, hJ, rfl, rfl⟩), Tx.require_bind_ok, hcount]
    simp
  rw [commits_iff, exists_congr hstart, ← commits_iff]
  refine (commits_bind ?_).trans (cancelPreExecutionRuns_commits hI')
  intro _ t t' _
  obtain ⟨C, hC⟩ := inactiveSchedules_exist (s := t') job.jobId now
  exact commits_iff.mpr ⟨_, Tx.bind_ok.mpr ⟨_, _, updateSchedules_ok.mpr ⟨C, hC, rfl, rfl⟩, rfl⟩⟩

theorem insertTargets_frame {n : Nat} {ts : List DeliveryTargetSnapshot} {t : Store}
    (htargets : t.targets = s.targets) (h : Commits (insertTargets jobId n ts) s) :
    Commits (insertTargets jobId n ts) t := by
  induction ts generalizing n s t with
  | nil => exact commits_iff.mpr ⟨_, rfl⟩
  | cons x xs ih =>
    obtain ⟨out, h⟩ := commits_iff.mp h
    obtain ⟨_, s1, h1, h⟩ := Tx.bind_ok.mp h
    obtain ⟨T, hT, rfl⟩ := insertTarget_ok.mp h1
    obtain ⟨out', h'⟩ := commits_iff.mp
      (ih (s := { s with targets := T }) (t := { t with targets := T }) rfl (commits_iff.mpr ⟨_, h⟩))
    have hinsert : insertTarget ⟨jobId, n, x⟩ t = .ok ((), { t with targets := T }) :=
      insertTarget_ok.mpr ⟨T, htargets.symm ▸ hT, rfl⟩
    exact commits_iff.mpr ⟨out', Tx.bind_ok.mpr ⟨_, _, hinsert, h'⟩⟩

theorem replaceDeliveryTargets_frame {ts : List DeliveryTargetSnapshot} {t : Store}
    (htargets : t.targets = s.targets) (h : Commits (replaceDeliveryTargets jobId ts) s) :
    Commits (replaceDeliveryTargets jobId ts) t := by
  obtain ⟨out, h⟩ := commits_iff.mp h
  obtain ⟨n, s1, h1, h⟩ := Tx.bind_ok.mp h
  obtain ⟨_, rfl⟩ := deleteTargets_ok.mp h1
  have hdelete : deleteTargets (fun r => r.jobId == jobId) t =
      .ok (_, { t with targets := (t.targets.delete fun r => r.jobId == jobId).1 }) :=
    deleteTargets_ok.mpr ⟨rfl, rfl⟩
  obtain ⟨out', h'⟩ := commits_iff.mp (insertTargets_frame (s := _)
    (t := { t with targets := (t.targets.delete fun r => r.jobId == jobId).1 }) (by rw [htargets])
    (commits_iff.mpr ⟨_, h⟩))
  exact commits_iff.mpr ⟨out', Tx.bind_ok.mpr ⟨_, _, hdelete, h'⟩⟩

def OtherwiseValidUpdate (E : Env) (policy : Policy) (request : UpdateScheduledJob) (s : Store) : Prop :=
  validateUpdateRequest request policy = .ok () ∧ ∃ proof,
    generateCadenceProof E request.schedule request.now policy = .ok proof ∧
      Commits (applyUpdateWith E request policy proof (pure ())) s

theorem updateScheduledJob_commits {policy : Policy} {request : UpdateScheduledJob} (hI : LiveBound s)
    (hvalid : OtherwiseValidUpdate E policy request s) :
    Commits (updateScheduledJob E policy request) s ↔
      NoPendingRetry s request.jobId request.expectedGeneration := by
  obtain ⟨hrequest, proof, hproof, hrest⟩ := hvalid
  obtain ⟨out, hrest⟩ := commits_iff.mp hrest
  unfold applyUpdateWith at hrest
  obtain ⟨_, hverify, hrest⟩ := Tx.check_bind_ok.mp hrest
  rw [Tx.read_bind_apply] at hrest
  obtain ⟨job, hfind, hrest⟩ := Tx.orElseFail_bind_ok.mp hrest
  obtain ⟨nextRunAt, s0, hnext, hrest⟩ := Tx.bind_ok.mp hrest
  have hjob := List.find?_some hfind
  simp only [Bool.and_eq_true, Bool.or_eq_true, beq_iff_eq] at hjob
  rw [(updateOccurrence_ok hjob.2 hnext).2] at hrest hnext
  obtain ⟨n, s1, h1, hrest⟩ := Tx.bind_ok.mp hrest
  obtain ⟨J, hJ, hn, rfl⟩ := updateJobs_ok.mp h1
  obtain ⟨hone, hrest⟩ := Tx.require_bind_ok.mp hrest
  rw [Tx.pure_bind_apply] at hrest
  obtain ⟨m, s2, h2, hrest⟩ := Tx.bind_ok.mp hrest
  obtain ⟨C, hC, hm, rfl⟩ := updateSchedules_ok.mp h2
  have hI' : LiveBound { s with jobs := J } := hI
  rw [show NoPendingRetry s request.jobId request.expectedGeneration ↔
      Commits (cancelPreExecutionRuns request.jobId request.expectedGeneration request.now)
        { s with jobs := J } from (cancelPreExecutionRuns_commits hI').symm, commits_iff]
  constructor
  · rintro ⟨done, h⟩
    unfold updateScheduledJob at h
    obtain ⟨_, _, h⟩ := Tx.check_bind_ok.mp h
    obtain ⟨proof', hproof', h⟩ := Tx.check_bind_ok.mp h
    obtain ⟨_, t, h, _⟩ := Tx.bind_ok.mp h
    unfold applyUpdate applyUpdateWith at h
    obtain ⟨_, _, h⟩ := Tx.check_bind_ok.mp h
    rw [Tx.read_bind_apply, hfind] at h
    obtain ⟨job', hjob', h⟩ := Tx.orElseFail_bind_ok.mp h
    cases hjob'
    rw [Tx.bind_of_ok hnext, Tx.bind_of_ok h1] at h
    obtain ⟨_, h⟩ := Tx.require_bind_ok.mp h
    obtain ⟨_, t', h, _⟩ := Tx.bind_ok.mp h
    exact commits_iff.mpr ⟨_, h⟩
  · intro hcancel
    obtain ⟨⟨_, t⟩, hcancel⟩ := commits_iff.mp hcancel
    obtain ⟨A, R, _, rfl⟩ := Cancels.of_ok hcancel
    have hkept : Commits (replaceDeliveryTargets request.jobId request.targets)
        { s with jobs := J, schedules := C } := commits_iff.mpr ⟨_, hrest⟩
    obtain ⟨⟨_, t'⟩, htargets⟩ := commits_iff.mp (replaceDeliveryTargets_frame
      (s := { s with jobs := J, schedules := C })
      (t := { s with jobs := J, attempts := A, runs := R, schedules := C }) rfl hkept)
    refine ⟨(request.expectedGeneration + 1, t'), ?_⟩
    unfold updateScheduledJob
    refine Tx.check_bind_ok.mpr ⟨_, hrequest, Tx.check_bind_ok.mpr ⟨_, hproof, ?_⟩⟩
    refine Tx.bind_ok.mpr ⟨(), t', ?_, rfl⟩
    unfold applyUpdate applyUpdateWith
    refine Tx.check_bind_ok.mpr ⟨_, hverify, ?_⟩
    rw [Tx.read_bind_apply, hfind]
    refine Tx.orElseFail_bind_ok.mpr ⟨job, rfl, ?_⟩
    rw [Tx.bind_of_ok hnext, Tx.bind_of_ok h1]
    refine Tx.require_bind_ok.mpr ⟨hone, Tx.bind_ok.mpr ⟨_, _, hcancel, ?_⟩⟩
    exact Tx.bind_ok.mpr ⟨_, _, updateSchedules_ok.mpr ⟨C, hC, hm, rfl⟩, htargets⟩

end Codeoff.State
