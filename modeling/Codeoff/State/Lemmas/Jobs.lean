import Codeoff.State.Effect

/-!
# ジョブの操作の効果

作成・更新・停止・再開と、その識別子つきの適用。
-/

namespace Codeoff.State

open Codeoff.Core Codeoff.Relational

variable {E : Env} {s s' : Store} {u : Unit}

/-- 取り消しは、待ちと貸与の行と、貸与の行の試行だけを書き換える。 -/
theorem cancelPreExecutionRuns_ok {jobId : String} {generation now : Int} :
    cancelPreExecutionRuns jobId generation now s = .ok (u, s') ↔
      ∃ A R, s.attempts.Updates noTrigger (cancellableAttempt s.runs.rows jobId generation)
          (cancelledAttempt now) A ∧
        s.attempts.rows.countP (cancellableAttempt s.runs.rows jobId generation) =
          s.runs.rows.countP (leasedOf jobId generation) ∧
        s.runs.Updates (runTriggers { s with attempts := A }) (preExecutionOf jobId generation)
          (cancelledRun now) R ∧
        s' = { s with attempts := A, runs := R } := by
  unfold cancelPreExecutionRuns
  simp only [Tx.read_bind_apply]
  constructor
  · intro h
    obtain ⟨n, s1, h1, h⟩ := Tx.bind_ok.mp h
    obtain ⟨A, hA, rfl, rfl⟩ := updateAttempts_ok.mp h1
    obtain ⟨hcount, h⟩ := Tx.require_bind_ok.mp h
    obtain ⟨m, s2, h2, h⟩ := Tx.bind_ok.mp h
    obtain ⟨R, hR, rfl, rfl⟩ := updateRuns_ok.mp h2
    cases h
    exact ⟨A, R, hA, by simpa using hcount, hR, rfl⟩
  · rintro ⟨A, R, hA, hcount, hR, rfl⟩
    refine Tx.bind_ok.mpr ⟨_, _, updateAttempts_ok.mpr ⟨A, hA, rfl, rfl⟩, ?_⟩
    refine Tx.require_bind_ok.mpr ⟨by simpa using hcount, ?_⟩
    exact Tx.bind_ok.mpr ⟨_, _, updateRuns_ok.mpr ⟨R, hR, rfl, rfl⟩, rfl⟩

theorem Cancels.of_ok {jobId : String} {generation now : Int}
    (h : cancelPreExecutionRuns jobId generation now s = .ok (u, s')) :
    ∃ A R, Cancels s jobId generation now R A ∧ s' = { s with attempts := A, runs := R } := by
  obtain ⟨A, R, hA, _, hR, rfl⟩ := cancelPreExecutionRuns_ok.mp h
  exact ⟨A, R, ⟨hR.toRewrites, hA.toRewrites⟩, rfl⟩

theorem insertTargets_ok {jobId : String} {n : Nat} {ts : List DeliveryTargetSnapshot}
    (h : insertTargets jobId n ts s = .ok (u, s')) :
    ∃ T : Table scheduledJobDeliveryTargets, T.rows = s.targets.rows ++ targetRows jobId n ts ∧
      s' = { s with targets := T } := by
  induction ts generalizing n s with
  | nil =>
    cases h
    exact ⟨_, by simp [targetRows], rfl⟩
  | cons t ts ih =>
    obtain ⟨_, s1, h1, h⟩ := Tx.bind_ok.mp h
    obtain ⟨T, hT, rfl⟩ := insertTarget_ok.mp h1
    obtain ⟨T', hT', rfl⟩ := ih h
    refine ⟨T', ?_, rfl⟩
    rw [hT', show T.rows = _ from hT.rows]
    simp [targetRows]

theorem replaceDeliveryTargets_ok {jobId : String} {ts : List DeliveryTargetSnapshot}
    (h : replaceDeliveryTargets jobId ts s = .ok (u, s')) :
    ∃ T, ReplacesTargets s jobId ts T ∧ s' = { s with targets := T } := by
  obtain ⟨_, s1, h1, h⟩ := Tx.bind_ok.mp h
  obtain ⟨_, rfl⟩ := deleteTargets_ok.mp h1
  obtain ⟨T, hT, rfl⟩ := insertTargets_ok h
  exact ⟨T, ⟨hT⟩, rfl⟩

/-! ## 一つのトランザクションの中の変更 -/

theorem enforceActiveJobLimits_ok {policy : Policy} {owner : PrincipalKey} {excluded : Option String}
    (h : enforceActiveJobLimits policy owner excluded s = .ok (u, s')) : s' = s := by
  unfold enforceActiveJobLimits at h
  simp only [Tx.read_bind_apply, Tx.require_bind_ok] at h
  exact (Tx.require_ok.mp h.2).2

theorem invalidOccurrence_ok {α : Type} {r : Except OccurrenceError α} {a : α} :
    invalidOccurrence r = .ok a ↔ r = .ok a := by
  cases r <;> simp [invalidOccurrence]

theorem invalidValue_ok {α : Type} {r : Except StateValueError α} {a : α} :
    invalidValue r = .ok a ↔ r = .ok a := by
  cases r <;> simp [invalidValue]

theorem updateOccurrence_ok {request : UpdateScheduledJob} {policy : Policy} {job : ScheduledJobRow}
    {nextRunAt : Option Int} (hstatus : job.status = .active ∨ job.status = .paused)
    (h : updateOccurrence E request policy job s = .ok (nextRunAt, s')) :
    UpdateOccurrence E request job nextRunAt ∧ s' = s := by
  unfold updateOccurrence at h
  split at h
  · rename_i hactive
    obtain ⟨_, s1, h1, h⟩ := Tx.bind_ok.mp h
    rw [enforceActiveJobLimits_ok h1] at h
    obtain ⟨next, hocc, h⟩ := Tx.check_bind_ok.mp h
    cases h
    exact ⟨.inl ⟨hactive, next, rfl, invalidOccurrence_ok.mp hocc⟩, rfl⟩
  · rename_i hinactive
    cases h
    exact ⟨.inr ⟨hstatus.resolve_left hinactive, rfl⟩, rfl⟩

theorem jobs_replaces {p : ScheduledJobRow → Bool} {f : ScheduledJobRow → ScheduledJobRow}
    {J : Table scheduledJobs} (jobId : String) (hJ : s.jobs.Updates noTrigger p f J)
    (hp : ∀ j, p j = true → j.jobId = jobId) {j : ScheduledJobRow} (hj : j ∈ s.jobs.rows)
    (hpj : p j = true) : s.jobs.Replaces j (f j) J := by
  refine hJ.replaces hj hpj ?_
  intro o ho hpo
  exact s.jobs.eq_of_conflict ho hj (by simp [scheduledJobs, hp o hpo, hp j hpj])

theorem exists_of_countP {α : Type} {p : α → Bool} {rows : List α} (h : (rows.countP p == 1) = true) :
    ∃ r ∈ rows, p r = true := by
  rw [beq_iff_eq] at h
  exact List.countP_pos_iff.mp (by omega)

theorem applyInactive_ok {jobId : String} {generation now : Int} {status : InactiveStatus}
    (h : applyInactive jobId generation status now s = .ok (u, s')) :
    ∃ job J R A C, (job.jobId = jobId ∧ job.generation = generation) ∧
      canBecome status job.status = true ∧ s.jobs.Replaces job (inactiveJob status now job) J ∧
      Cancels s jobId generation now R A ∧
      s.schedules.Rewrites (fun r => r.jobId == jobId) (inactiveSchedule now) C ∧
      s' = { s with jobs := J, runs := R, attempts := A, schedules := C } := by
  unfold applyInactive at h
  obtain ⟨n, s1, h1, h⟩ := Tx.bind_ok.mp h
  obtain ⟨J, hJ, rfl, rfl⟩ := updateJobs_ok.mp h1
  obtain ⟨hn, h⟩ := Tx.require_bind_ok.mp h
  obtain ⟨_, s2, h2, h⟩ := Tx.bind_ok.mp h
  obtain ⟨A, R, hcancel, rfl⟩ := Cancels.of_ok h2
  obtain ⟨_, s3, h3, h⟩ := Tx.bind_ok.mp h
  obtain ⟨C, hC, _, rfl⟩ := updateSchedules_ok.mp h3
  cases h
  obtain ⟨job, hmem, hp⟩ := exists_of_countP hn
  have hrep := jobs_replaces jobId hJ
    (by intro j hj; simp only [Bool.and_eq_true, beq_iff_eq] at hj; exact hj.1.1) hmem hp
  simp only [Bool.and_eq_true, beq_iff_eq] at hp
  exact ⟨job, J, R, A, C, hp.1, hp.2, hrep, ⟨hcancel.runs, hcancel.attempts⟩, hC.toRewrites, rfl⟩

theorem applyInactive_effect {jobId : String} {generation now : Int} {status : InactiveStatus}
    (h : applyInactive jobId generation status now s = .ok (u, s')) : Effect E now .job s s' := by
  obtain ⟨job, J, R, A, C, ⟨rfl, rfl⟩, hbecome, hJ, hcancel, hC, rfl⟩ := applyInactive_ok h
  exact .stopped hbecome hJ hcancel hC

/-- 更新は、世代の一致するジョブを置き換え、前の世代の実行を取り消し、宛先を書き直す。 -/
theorem applyUpdate_ok {request : UpdateScheduledJob} {policy : Policy} {proof : CadenceProofArtifact}
    (h : applyUpdate E request policy proof s = .ok (u, s')) :
    ∃ job nextRunAt J R A C T, job ∈ s.jobs.rows ∧
      (job.jobId = request.jobId ∧ job.generation = request.expectedGeneration) ∧
      UpdateOccurrence E request job nextRunAt ∧
      s.jobs.Replaces job (updatedJob request policy job) J ∧
      Cancels s request.jobId request.expectedGeneration request.now R A ∧
      s.schedules.Rewrites (fun r => r.jobId == request.jobId) (updatedSchedule request nextRunAt) C ∧
      ReplacesTargets s request.jobId request.targets T ∧
      s' = { s with jobs := J, runs := R, attempts := A, schedules := C, targets := T } := by
  unfold applyUpdate applyUpdateWith at h
  obtain ⟨_, _, h⟩ := Tx.check_bind_ok.mp h
  rw [Tx.read_bind_apply] at h
  obtain ⟨job, hfind, h⟩ := Tx.orElseFail_bind_ok.mp h
  have hmem := List.mem_of_find?_eq_some hfind
  have hjob := List.find?_some hfind
  simp only [Bool.and_eq_true, Bool.or_eq_true, beq_iff_eq] at hjob
  obtain ⟨⟨hid, hgen⟩, hstatus⟩ := hjob
  obtain ⟨nextRunAt, s0, hnext, h⟩ := Tx.bind_ok.mp h
  obtain ⟨hoccurs, hs⟩ := updateOccurrence_ok hstatus hnext
  rw [hs] at h
  obtain ⟨n, s1, h1, h⟩ := Tx.bind_ok.mp h
  obtain ⟨J, hJ, rfl, rfl⟩ := updateJobs_ok.mp h1
  obtain ⟨_, h⟩ := Tx.require_bind_ok.mp h
  obtain ⟨_, s2, h2, h⟩ := Tx.bind_ok.mp h
  obtain ⟨A, R, hcancel, rfl⟩ := Cancels.of_ok h2
  obtain ⟨_, s3, h3, h⟩ := Tx.bind_ok.mp h
  obtain ⟨C, hC, _, rfl⟩ := updateSchedules_ok.mp h3
  obtain ⟨T, hT, rfl⟩ := replaceDeliveryTargets_ok h
  have hrep := jobs_replaces request.jobId hJ
    (by intro j hj; simp only [Bool.and_eq_true, beq_iff_eq] at hj; exact hj.1.1) hmem
    (by simp [hid, hgen])
  exact ⟨job, nextRunAt, J, R, A, C, T, hmem, ⟨hid, hgen⟩, hoccurs, hrep,
    ⟨hcancel.runs, hcancel.attempts⟩, hC.toRewrites, ⟨hT.rows⟩, rfl⟩

theorem applyUpdate_effect {request : UpdateScheduledJob} {policy : Policy}
    {proof : CadenceProofArtifact} (valid : validateUpdateRequest request policy = .ok ())
    (h : applyUpdate E request policy proof s = .ok (u, s')) : Effect E request.now .job s s' := by
  obtain ⟨job, nextRunAt, J, R, A, C, T, hmem, ⟨hid, hgen⟩, hoccurs, hJ, hcancel, hC, hT, rfl⟩ :=
    applyUpdate_ok h
  exact .updated rfl valid hmem hid hgen hoccurs hJ hcancel hC hT

theorem resumeOccurrence_ok {spec : ScheduleSpec} {now next : Int}
    (h : resumeOccurrence E spec now = .ok next) : spec.nextAfter E.cron now = .ok next := by
  unfold resumeOccurrence at h
  split at h
  · rename_i t hnext
    cases h
    exact hnext
  · cases h
  · cases h

theorem pausedJob_eq_some {jobId : String} {generation : Int} {job : ScheduledJobRow} {row : ScheduleRow}
    (h : pausedJob jobId generation s = some (job, row)) :
    (job ∈ s.jobs.rows ∧ job.jobId = jobId ∧ job.status = .paused ∧ job.generation = generation) ∧
      row ∈ s.schedules.rows ∧ row.jobId = jobId := by
  unfold pausedJob at h
  obtain ⟨j, hj, h⟩ := Option.bind_eq_some_iff.mp h
  obtain ⟨r, hr, h⟩ := Option.bind_eq_some_iff.mp h
  cases h
  have hpj := List.find?_some hj
  have hpr := List.find?_some hr
  simp only [Bool.and_eq_true, beq_iff_eq] at hpj hpr
  exact ⟨⟨List.mem_of_find?_eq_some hj, hpj.1.1, hpj.1.2, hpj.2⟩, List.mem_of_find?_eq_some hr, hpr⟩

/-- 再開は、停止中のジョブに次の時刻を与える。世代は進まない。 -/
theorem applyResume_ok {jobId : String} {generation now : Int} {policy : Policy}
    {proof : CadenceProofArtifact}
    (h : applyResume E jobId generation now policy proof s = .ok (u, s')) :
    ∃ job row spec next J C, (job.jobId = jobId ∧ job.generation = generation ∧ job.status = .paused) ∧
      (row ∈ s.schedules.rows ∧ row.jobId = job.jobId) ∧ scheduleFromRow E row = .ok spec ∧
      spec.nextAfter E.cron now = .ok next ∧ s.jobs.Replaces job (resumedJob policy now job) J ∧
      s.schedules.Rewrites (fun r => r.jobId == job.jobId) (resumedSchedule next now) C ∧
      s' = { s with jobs := J, schedules := C } := by
  unfold applyResume at h
  rw [Tx.read_bind_apply] at h
  obtain ⟨⟨job, row⟩, hfound, h⟩ := Tx.orElseFail_bind_ok.mp h
  obtain ⟨⟨hmem, hid, hpaused, hgen⟩, hrow, hrid⟩ := pausedJob_eq_some hfound
  obtain ⟨spec, hspec, h⟩ := Tx.check_bind_ok.mp h
  obtain ⟨_, _, h⟩ := Tx.check_bind_ok.mp h
  obtain ⟨_, s0, h0, h⟩ := Tx.bind_ok.mp h
  rw [enforceActiveJobLimits_ok h0] at h
  obtain ⟨next, hnext, h⟩ := Tx.check_bind_ok.mp h
  obtain ⟨_, s1, h1, h⟩ := Tx.bind_ok.mp h
  obtain ⟨J, hJ, _, rfl⟩ := updateJobs_ok.mp h1
  obtain ⟨_, s2, h2, h⟩ := Tx.bind_ok.mp h
  obtain ⟨C, hC, _, rfl⟩ := updateSchedules_ok.mp h2
  cases h
  have hrep := jobs_replaces jobId hJ
    (by intro j hj; simp only [Bool.and_eq_true, beq_iff_eq] at hj; exact hj.1.1) hmem
    (by simp [hid, hgen, hpaused])
  rw [← hid] at hC hrid
  exact ⟨job, row, spec, next, J, C, ⟨hid, hgen, hpaused⟩, ⟨hrow, hrid⟩, hspec,
    resumeOccurrence_ok hnext, hrep, hC.toRewrites, rfl⟩

theorem applyResume_effect {jobId : String} {generation now : Int} {policy : Policy}
    {proof : CadenceProofArtifact}
    (h : applyResume E jobId generation now policy proof s = .ok (u, s')) : Effect E now .job s s' := by
  obtain ⟨job, row, spec, next, J, C, ⟨_, _, hpaused⟩, ⟨hrow, hrid⟩, hspec, hnext, hJ, hC, rfl⟩ :=
    applyResume_ok h
  exact .resumed hpaused hrow hrid hspec hnext hJ hC

theorem insertScheduledJob_effect {request : CreateScheduledJob} {next : Int} {policy : Policy}
    {proof : CadenceProofArtifact} (valid : validateCreateRequest E request policy = .ok next)
    (h : insertScheduledJob request next policy proof s = .ok (u, s')) :
    Effect E request.now .job s s' := by
  unfold insertScheduledJob at h
  obtain ⟨_, _, h⟩ := Tx.check_bind_ok.mp h
  obtain ⟨_, s1, h1, h⟩ := Tx.bind_ok.mp h
  obtain ⟨J, hJ, rfl⟩ := insertJob_ok.mp h1
  obtain ⟨_, s2, h2, h⟩ := Tx.bind_ok.mp h
  obtain ⟨C, hC, rfl⟩ := insertSchedule_ok.mp h2
  obtain ⟨_, s3, h3, h⟩ := Tx.bind_ok.mp h
  obtain ⟨T, hT, rfl⟩ := replaceDeliveryTargets_ok h3
  obtain ⟨B, hB, rfl⟩ := insertBaseline_ok.mp h
  exact .created rfl valid hJ.toAppends hC.toAppends ⟨hT.rows⟩ hB.toAppends

theorem createScheduledJob_effect {policy : Policy} {request : CreateScheduledJob}
    (h : createScheduledJob E policy request s = .ok (u, s')) : Effect E request.now .job s s' := by
  unfold createScheduledJob at h
  obtain ⟨next, hvalid, h⟩ := Tx.check_bind_ok.mp h
  obtain ⟨_, _, h⟩ := Tx.check_bind_ok.mp h
  obtain ⟨_, s1, h1, h⟩ := Tx.bind_ok.mp h
  rw [enforceActiveJobLimits_ok h1] at h
  exact insertScheduledJob_effect hvalid h

theorem updateScheduledJob_effect {policy : Policy} {request : UpdateScheduledJob} {g : Int}
    (h : updateScheduledJob E policy request s = .ok (g, s')) : Effect E request.now .job s s' := by
  unfold updateScheduledJob at h
  obtain ⟨_, hvalid, h⟩ := Tx.check_bind_ok.mp h
  obtain ⟨_, _, h⟩ := Tx.check_bind_ok.mp h
  obtain ⟨_, s1, h1, h⟩ := Tx.bind_ok.mp h
  cases h
  exact applyUpdate_effect hvalid h1

theorem setJobInactive_effect {jobId : String} {generation now g : Int} {status : InactiveStatus}
    (h : setJobInactive jobId generation status now s = .ok (g, s')) : Effect E now .job s s' := by
  unfold setJobInactive at h
  obtain ⟨_, s1, h1, h⟩ := Tx.bind_ok.mp h
  cases h
  exact applyInactive_effect h1

theorem validateResumeCadence_ok {policy : Policy} {jobId : String} {generation now : Int}
    {proof : CadenceProofArtifact}
    (h : validateResumeCadence E policy jobId generation now s = .ok (proof, s')) : s' = s := by
  unfold validateResumeCadence at h
  rw [Tx.read_bind_apply] at h
  obtain ⟨_, _, h⟩ := Tx.orElseFail_bind_ok.mp h
  obtain ⟨_, _, h⟩ := Tx.check_bind_ok.mp h
  exact (Tx.check_ok.mp h).2

theorem resumeScheduledJob_effect {policy : Policy} {jobId : String} {generation now g : Int}
    (h : resumeScheduledJob E policy jobId generation now s = .ok (g, s')) : Effect E now .job s s' := by
  unfold resumeScheduledJob at h
  obtain ⟨proof, s1, h1, h⟩ := Tx.bind_ok.mp h
  rw [validateResumeCadence_ok h1] at h
  obtain ⟨_, s2, h2, h⟩ := Tx.bind_ok.mp h
  cases h
  exact applyResume_effect h2

/-! ## 二重適用の防止 -/

theorem prevalidateScheduleMutation_ok {policy : Policy} {mutation : ScheduledJobMutation}
    {proof : Option CadenceProofArtifact}
    (h : prevalidateScheduleMutation E policy mutation s = .ok (proof, s')) : s' = s := by
  cases mutation with
  | create request =>
    obtain ⟨_, _, h⟩ := Tx.check_bind_ok.mp h
    obtain ⟨_, _, h⟩ := Tx.check_bind_ok.mp h
    cases h
    rfl
  | update request =>
    obtain ⟨_, _, h⟩ := Tx.check_bind_ok.mp h
    obtain ⟨_, _, h⟩ := Tx.check_bind_ok.mp h
    cases h
    rfl
  | resume jobId generation now =>
    obtain ⟨_, _, h⟩ := Tx.check_bind_ok.mp h
    obtain ⟨_, s1, h1, h⟩ := Tx.bind_ok.mp h
    cases h
    exact validateResumeCadence_ok h1
  | pause jobId generation now =>
    obtain ⟨_, _, h⟩ := Tx.check_bind_ok.mp h
    cases h
    rfl
  | delete jobId generation now =>
    obtain ⟨_, _, h⟩ := Tx.check_bind_ok.mp h
    cases h
    rfl

/-- ジョブへの操作は、どれもジョブを由来とする一つの効果である。 -/
theorem applyTypedMutation_effect {policy : Policy} {mutation : ScheduledJobMutation}
    {proof : Option CadenceProofArtifact}
    (h : applyTypedMutation E policy mutation proof s = .ok (u, s')) : Effect E mutation.now .job s s' := by
  cases mutation with
  | create request =>
    obtain ⟨next, hvalid, h⟩ := Tx.check_bind_ok.mp h
    obtain ⟨_, _, h⟩ := Tx.orElseFail_bind_ok.mp h
    obtain ⟨_, s1, h1, h⟩ := Tx.bind_ok.mp h
    rw [enforceActiveJobLimits_ok h1] at h
    exact insertScheduledJob_effect hvalid h
  | update request =>
    obtain ⟨_, hvalid, h⟩ := Tx.check_bind_ok.mp h
    obtain ⟨_, _, h⟩ := Tx.orElseFail_bind_ok.mp h
    exact applyUpdate_effect hvalid h
  | resume jobId generation now =>
    obtain ⟨_, _, h⟩ := Tx.check_bind_ok.mp h
    obtain ⟨_, _, h⟩ := Tx.orElseFail_bind_ok.mp h
    exact applyResume_effect h
  | pause jobId generation now =>
    obtain ⟨_, _, h⟩ := Tx.check_bind_ok.mp h
    exact applyInactive_effect h
  | delete jobId generation now =>
    obtain ⟨_, _, h⟩ := Tx.check_bind_ok.mp h
    exact applyInactive_effect h

def claimedKey (principal : PrincipalKey) (operation requestId digestAlgorithm requestDigest : String) :
    IdempotencyKeyRow where
  scope := canonicalIdempotencyScope principal operation
  key := requestId
  status := .claimed
  requestDigest := requestDigest
  digestAlgorithm := digestAlgorithm
  responseJson := none

theorem readIdempotencyDecision_ok {scope requestId digestAlgorithm requestDigest : String}
    {decision : IdempotencyDecision}
    (h : readIdempotencyDecision scope requestId digestAlgorithm requestDigest s = .ok (decision, s')) :
    s' = s ∧ decision ≠ .claimed := by
  unfold readIdempotencyDecision at h
  rw [Tx.read_bind_apply] at h
  obtain ⟨row, _, h⟩ := Tx.orElseFail_bind_ok.mp h
  split at h
  · cases h
    exact ⟨rfl, by simp⟩
  · split at h
    · cases h
      exact ⟨rfl, by simp⟩
    · cases hresponse : row.responseJson with
      | some response =>
        rw [hresponse] at h
        cases h
        exact ⟨rfl, by simp⟩
      | none =>
        rw [hresponse] at h
        cases h

/-- 鍵の取得は、新しい行を加えるか、残っている判断を返す。 -/
theorem claimIdempotency_ok {principal : PrincipalKey}
    {operation requestId digestAlgorithm requestDigest : String} {now : Int}
    {decision : IdempotencyDecision}
    (h : claimIdempotency principal operation requestId digestAlgorithm requestDigest now s =
      .ok (decision, s')) :
    (decision = .claimed ∧ ∃ K, s.idempotency.Appends
        (claimedKey principal operation requestId digestAlgorithm requestDigest) K ∧
        s' = { s with idempotency := K }) ∨
      (decision ≠ .claimed ∧ s' = s) := by
  unfold claimIdempotency at h
  obtain ⟨_, h⟩ := Tx.require_bind_ok.mp h
  obtain ⟨n, s1, h1, h⟩ := Tx.bind_ok.mp h
  obtain ⟨K, hK, rfl⟩ := statement_ok.mp h1
  obtain ⟨_, ⟨rfl, rfl, _⟩ | ⟨rfl, hins⟩⟩ := Table.insertOrIgnore_ok.mp hK
  · obtain ⟨hs, hne⟩ := readIdempotencyDecision_ok h
    exact .inr ⟨hne, hs⟩
  · cases h
    exact .inl ⟨rfl, K, hins.toAppends, rfl⟩

theorem completeIdempotency_effect {k : Origin} {principal : PrincipalKey} {operation : String}
    {idempotency : ScheduleMutationIdempotency} {now : Int}
    (h : completeIdempotency principal operation idempotency now s = .ok (u, s')) :
    Effect E now k s s' := by
  unfold completeIdempotency at h
  obtain ⟨_, h⟩ := Tx.require_bind_ok.mp h
  obtain ⟨n, s1, h1, h⟩ := Tx.bind_ok.mp h
  obtain ⟨K, hK, rfl⟩ := statement_ok.mp h1
  obtain ⟨hupd, _⟩ := Table.update_ok.mp hK
  rw [(Tx.require_ok.mp h).2]
  refine .keyed ?_
  intro k hk hdone
  refine hupd.mem_of_not hk ?_
  simp [hdone]

theorem insertMutationAudit_effect {k : Origin} {audit : ScheduleMutationAudit} {now : Int}
    (h : insertMutationAudit audit s = .ok (u, s')) : Effect E now k s s' := by
  obtain ⟨T, _, rfl⟩ := statement_ok.mp h
  exact .aside ⟨rfl, rfl, rfl, rfl, rfl, rfl, rfl, rfl, rfl, rfl, rfl, fun _ h => h,
    fun _ _ => le_max_left _ _, .refl _⟩

theorem applyClaimedMutation_effects {policy : Policy} {mutation : ScheduledJobMutation}
    {idempotency : ScheduleMutationIdempotency} {audit : Option ScheduleMutationAudit}
    {proof : Option CadenceProofArtifact} {outcome : TransactionalMutationOutcome}
    (h : applyClaimedMutation E policy mutation idempotency audit proof s = .ok (outcome, s')) :
    Relation.ReflTransGen (Effect E mutation.now .job) s s' := by
  unfold applyClaimedMutation at h
  obtain ⟨_, s1, h1, h⟩ := Tx.bind_ok.mp h
  obtain ⟨_, s2, h2, h⟩ := Tx.bind_ok.mp h
  obtain ⟨_, s3, h3, h⟩ := Tx.bind_ok.mp h
  cases h
  have haudit : Relation.ReflTransGen (Effect E mutation.now .job) s1 s2 := by
    cases audit with
    | some audit => exact .single (insertMutationAudit_effect h2)
    | none =>
      cases h2
      exact .refl
  exact .trans (.single (applyTypedMutation_effect h1))
    (.trans haudit (.single (completeIdempotency_effect h3)))

theorem applyIdempotentScheduleMutationWithAudit_effects {policy : Policy}
    {mutation : ScheduledJobMutation} {idempotency : ScheduleMutationIdempotency}
    {audit : Option ScheduleMutationAudit} {outcome : TransactionalMutationOutcome}
    (h : applyIdempotentScheduleMutationWithAudit E policy mutation idempotency audit s =
      .ok (outcome, s')) :
    Relation.ReflTransGen (Effect E mutation.now .job) s s' := by
  unfold applyIdempotentScheduleMutationWithAudit at h
  obtain ⟨_, _, h⟩ := Tx.check_bind_ok.mp h
  obtain ⟨_, _, h⟩ := Tx.check_bind_ok.mp h
  obtain ⟨proof, s1, h1, h⟩ := Tx.bind_ok.mp h
  rw [prevalidateScheduleMutation_ok h1] at h
  obtain ⟨decision, s2, h2, h⟩ := Tx.bind_ok.mp h
  obtain ⟨rfl, K, hK, rfl⟩ | ⟨hne, hs⟩ := claimIdempotency_ok h2
  · refine .trans (.single (.keyed ?_)) (applyClaimedMutation_effects h)
    intro k hk _
    exact hK.mem.mpr (.inl hk)
  · rw [hs] at h
    cases decision with
    | claimed => exact absurd rfl hne
    | replay response => cases h; exact .refl
    | inProgress => cases h; exact .refl
    | conflict => cases h; exact .refl

theorem appendScheduleAudit_effect {k : Origin} {audit : ScheduleMutationAudit} {now : Int}
    (h : appendScheduleAudit audit s = .ok (u, s')) : Effect E now k s s' := by
  obtain ⟨_, _, h⟩ := Tx.check_bind_ok.mp h
  exact insertMutationAudit_effect h

end Codeoff.State
