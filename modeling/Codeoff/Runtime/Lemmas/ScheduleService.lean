import Codeoff.Json.Lemmas.RoundTrip
import Codeoff.Runtime.ScheduleService
import Codeoff.State.Lemmas.Idempotency

/-!
# 受付の呼び出しの性質

検査とトランザクションが離れていても、適用された呼び出しは、その場で検査をやり直した一つの操作と同じである。
-/

namespace Codeoff.Runtime

open Codeoff.Core Codeoff.Json Codeoff.Relational Codeoff.State

variable {E : Env} {s s' s₀ t : Store} {policy : Policy} {mutation : ScheduledJobMutation}
  {idempotency : ScheduleMutationIdempotency} {audit : Option ScheduleMutationAudit}
  {proof : Option CadenceProofArtifact}

/-! ## 検査とトランザクション -/

theorem pausedJob_congr {jobId : String} {generation : Int} (hjobs : t.jobs = s.jobs)
    (hschedules : t.schedules = s.schedules) : pausedJob jobId generation t = pausedJob jobId generation s := by
  unfold pausedJob
  rw [hjobs, hschedules]

theorem generateCadenceProof_ok {schedule : ScheduleSpec} {now : Int} {artifact : CadenceProofArtifact}
    (h : generateCadenceProof E schedule now policy = .ok artifact) : artifact = ⟨schedule, policy⟩ := by
  unfold generateCadenceProof at h
  obtain ⟨_, _, h⟩ := except_bind_ok.mp h
  cases h
  rfl

theorem verify_ok {artifact : CadenceProofArtifact} {schedule : ScheduleSpec} {u : Unit}
    (h : artifact.verify schedule policy = .ok u) : artifact = ⟨schedule, policy⟩ := by
  unfold CadenceProofArtifact.verify at h
  split at h
  · rename_i heq
    obtain ⟨hschedule, hpolicy⟩ := heq
    cases artifact
    simp_all
  · cases h

theorem validateResumeCadence_iff {jobId : String} {generation now : Int} {artifact : CadenceProofArtifact} :
    validateResumeCadence E policy jobId generation now s = .ok (artifact, s') ↔
      s' = s ∧ ∃ job row spec, pausedJob jobId generation s = some (job, row) ∧
        scheduleFromRow E row = .ok spec ∧ generateCadenceProof E spec now policy = .ok artifact := by
  unfold validateResumeCadence
  rw [Tx.read_bind_apply]
  constructor
  · intro h
    obtain ⟨⟨job, row⟩, hfound, h⟩ := Tx.orElseFail_bind_ok.mp h
    obtain ⟨spec, hspec, h⟩ := Tx.check_bind_ok.mp h
    obtain ⟨hproof, hs⟩ := Tx.check_ok.mp h
    exact ⟨hs, job, row, spec, hfound, hspec, hproof⟩
  · rintro ⟨rfl, job, row, spec, hfound, hspec, hproof⟩
    refine Tx.orElseFail_bind_ok.mpr ⟨(job, row), hfound, ?_⟩
    refine Tx.check_bind_ok.mpr ⟨spec, hspec, ?_⟩
    exact Tx.check_ok.mpr ⟨hproof, rfl⟩

theorem applyResume_verifies {jobId : String} {generation now : Int} {artifact : CadenceProofArtifact} {u : Unit}
    (h : applyResume E jobId generation now policy artifact s = .ok (u, s')) :
    ∃ job row spec, pausedJob jobId generation s = some (job, row) ∧ scheduleFromRow E row = .ok spec ∧
      artifact = ⟨spec, policy⟩ := by
  unfold applyResume at h
  rw [Tx.read_bind_apply] at h
  obtain ⟨⟨job, row⟩, hfound, h⟩ := Tx.orElseFail_bind_ok.mp h
  obtain ⟨spec, hspec, h⟩ := Tx.check_bind_ok.mp h
  obtain ⟨_, hverify, _⟩ := Tx.check_bind_ok.mp h
  exact ⟨job, row, spec, hfound, hspec, verify_ok hverify⟩

/-- 事前の検査と適用の間にジョブと予定が変わらなければ、検査は同じ答えになる。 -/
theorem prevalidates_again {u : Unit} (hjobs : t.jobs = s.jobs) (hschedules : t.schedules = s.schedules)
    (h₀ : prevalidateScheduleMutation E policy mutation s₀ = .ok (proof, s₀))
    (h : applyTypedMutation E policy mutation proof t = .ok (u, s')) :
    prevalidateScheduleMutation E policy mutation s = .ok (proof, s) := by
  cases mutation with
  | create request =>
    obtain ⟨next, hvalid, h₀⟩ := Tx.check_bind_ok.mp h₀
    obtain ⟨artifact, hproof, h₀⟩ := Tx.check_bind_ok.mp h₀
    cases h₀
    exact Tx.check_bind_ok.mpr ⟨next, hvalid, Tx.check_bind_ok.mpr ⟨artifact, hproof, rfl⟩⟩
  | update request =>
    obtain ⟨_, hvalid, h₀⟩ := Tx.check_bind_ok.mp h₀
    obtain ⟨artifact, hproof, h₀⟩ := Tx.check_bind_ok.mp h₀
    cases h₀
    exact Tx.check_bind_ok.mpr ⟨(), hvalid, Tx.check_bind_ok.mpr ⟨artifact, hproof, rfl⟩⟩
  | resume jobId generation now =>
    obtain ⟨_, hvalid, h₀⟩ := Tx.check_bind_ok.mp h₀
    obtain ⟨artifact, s1, hcheck, h₀⟩ := Tx.bind_ok.mp h₀
    cases h₀
    obtain ⟨_, _, _, spec₀, _, _, hproof⟩ := validateResumeCadence_iff.mp hcheck
    obtain ⟨_, _, h⟩ := Tx.check_bind_ok.mp h
    obtain ⟨artifact', hartifact, h⟩ := Tx.orElseFail_bind_ok.mp h
    cases hartifact
    obtain ⟨job, row, spec, hfound, hspec, hsame⟩ := applyResume_verifies h
    rw [pausedJob_congr hjobs hschedules] at hfound
    have hspecs : spec₀ = spec := by
      rw [generateCadenceProof_ok hproof] at hsame
      cases hsame
      rfl
    rw [hspecs] at hproof
    refine Tx.check_bind_ok.mpr ⟨(), hvalid, Tx.bind_ok.mpr ⟨artifact, s, ?_, rfl⟩⟩
    exact validateResumeCadence_iff.mpr ⟨rfl, job, row, spec, hfound, hspec, hproof⟩
  | pause jobId generation now =>
    obtain ⟨_, hvalid, h₀⟩ := Tx.check_bind_ok.mp h₀
    cases h₀
    exact Tx.check_bind_ok.mpr ⟨(), hvalid, rfl⟩
  | delete jobId generation now =>
    obtain ⟨_, hvalid, h₀⟩ := Tx.check_bind_ok.mp h₀
    cases h₀
    exact Tx.check_bind_ok.mpr ⟨(), hvalid, rfl⟩

/-- 前もって検査した変更は、適用して鍵を記すか、状態を変えずに前の答えを返すかである。 -/
theorem applyPrevalidatedMutation_ok {outcome : TransactionalMutationOutcome}
    (h : applyPrevalidatedMutation E policy mutation idempotency audit proof s = .ok (outcome, s')) :
    (outcome = .applied idempotency.responseJson ∧ ∃ K t T K',
      applyTypedMutation E policy mutation proof { s with idempotency := K } = .ok ((), t) ∧
      completedKey mutation.operation idempotency ∈ K'.rows ∧
      s' = { t with audit := T, idempotency := K' }) ∨
    ((∀ response, outcome ≠ .applied response) ∧ s' = s) := by
  unfold applyPrevalidatedMutation at h
  obtain ⟨decision, s1, hclaim, h⟩ := Tx.bind_ok.mp h
  obtain ⟨rfl, K, _, rfl⟩ | ⟨hne, hs⟩ := claimIdempotency_ok hclaim
  · obtain ⟨t, T, K', htyped, houtcome, hrow, rfl⟩ := applyClaimedMutation_ok h
    exact .inl ⟨houtcome, K, t, T, K', htyped, hrow, rfl⟩
  · rw [hs] at h
    cases decision with
    | claimed => exact absurd rfl hne
    | replay response => cases h; exact .inr ⟨by simp, rfl⟩
    | inProgress => cases h; exact .inr ⟨by simp, rfl⟩
    | conflict => cases h; exact .inr ⟨by simp, rfl⟩

theorem Prevalidated.mutates {outcome : TransactionalMutationOutcome}
    (hpre : Prevalidated E policy mutation idempotency audit proof s₀)
    (h : applyPrevalidatedMutation E policy mutation idempotency audit proof s = .ok (outcome, s'))
    {response : String} (happlied : outcome = .applied response) :
    applyIdempotentScheduleMutationWithAudit E policy mutation idempotency audit s = .ok (outcome, s') := by
  obtain ⟨_, K, t, _, _, htyped, _⟩ | ⟨hnot, _⟩ := applyPrevalidatedMutation_ok h
  · have hpasses : prevalidateScheduleMutation E policy mutation s = .ok (proof, s) :=
      prevalidates_again (t := { s with idempotency := K }) rfl rfl hpre.passes htyped
    rw [applyIdempotent_eq]
    refine Tx.check_bind_ok.mpr ⟨(), hpre.keyValid, Tx.check_bind_ok.mpr ⟨(), hpre.auditValid, ?_⟩⟩
    exact Tx.bind_ok.mpr ⟨proof, s, hpasses, h⟩
  · exact absurd happlied (hnot response)

theorem applyPrevalidatedMutation_recorded {row : IdempotencyKeyRow} {response : String}
    {outcome : TransactionalMutationOutcome} (hrow : row ∈ s.idempotency.rows)
    (hscope : row.scope = canonicalIdempotencyScope idempotency.principal mutation.operation)
    (hkey : row.key = idempotency.requestId) (hdone : row.status = .completed)
    (hresponse : row.responseJson = some response)
    (h : applyPrevalidatedMutation E policy mutation idempotency audit proof s = .ok (outcome, s')) :
    outcome = recordedOutcome row idempotency response := by
  unfold applyPrevalidatedMutation at h
  obtain ⟨decision, s1, hclaim, h⟩ := Tx.bind_ok.mp h
  have hnow : datetimeValid mutation.now = true := (Tx.require_bind_ok.mp hclaim).1
  rw [claimIdempotency_recorded hrow hscope hkey hdone hresponse hnow] at hclaim
  obtain ⟨rfl, rfl⟩ := Prod.mk.inj (Except.ok.inj hclaim)
  unfold recordedOutcome
  by_cases hsame : row.requestDigest = idempotency.requestDigest ∧
      row.digestAlgorithm = idempotency.digestAlgorithm
  · rw [if_pos hsame] at h ⊢
    cases h
    rfl
  · rw [if_neg hsame] at h ⊢
    cases h
    rfl

theorem ServiceStep.steps (h : ServiceStep E s s') : s' = s ∨ Step E s s' := by
  cases h with
  | operation step => exact .inr step
  | @transaction _ _ policy mutation idempotency audit proof hpre =>
    cases hrun : applyPrevalidatedMutation E policy mutation idempotency audit proof s with
    | error e => exact .inl (congrArg Prod.snd (commit_eq_error.mpr ⟨hrun, rfl⟩))
    | ok result =>
      obtain ⟨outcome, s1⟩ := result
      have hafter := congrArg Prod.snd (commit_eq_ok.mpr hrun)
      rw [hafter]
      obtain ⟨happlied, _⟩ | ⟨_, hs⟩ := applyPrevalidatedMutation_ok hrun
      · refine .inr ⟨.mutate policy mutation idempotency audit, ?_⟩
        have hmutate := hpre.mutates hrun happlied
        have hdiscard : Op.run E (.mutate policy mutation idempotency audit) s = .ok ((), s1) :=
          Tx.bind_ok.mpr ⟨outcome, s1, hmutate, rfl⟩
        exact congrArg Prod.snd (commit_eq_ok.mpr hdiscard)
      · exact .inl hs

/-- 任意に交わる実行も、状態の遷移の列である。 -/
theorem Interleaves.steps (h : Interleaves E s s') : Relation.ReflTransGen (Step E) s s' := by
  induction h with
  | refl => exact .refl
  | tail _ hstep ih =>
    rcases ServiceStep.steps hstep with hsame | hone
    · rw [hsame]
      exact ih
    · exact ih.tail hone

section Response

variable {jobId status : String} {generation : Int} {nextRunAt : Option Int}
  {targets : List DeliveryTargetSnapshot}

@[simp] theorem response_jobId :
    (mutationResponse jobId status generation nextRunAt targets).pointer ["data", "job_id"] =
      some (.str jobId) := by
  simp [mutationResponse, successEnvelope, Value.pointer, Value.object, get_insertMember]

@[simp] theorem response_status :
    (mutationResponse jobId status generation nextRunAt targets).pointer ["data", "status"] =
      some (.str status) := by
  simp [mutationResponse, successEnvelope, Value.pointer, Value.object, get_insertMember]

@[simp] theorem response_generation :
    (mutationResponse jobId status generation nextRunAt targets).pointer ["data", "generation"] =
      some (.int generation) := by
  simp [mutationResponse, successEnvelope, Value.pointer, Value.object, get_insertMember]

@[simp] theorem response_nextRunAt :
    (mutationResponse jobId status generation nextRunAt targets).pointer ["data", "next_run_at"] =
      some (.ofOption (nextRunAt.map .int)) := by
  simp [mutationResponse, successEnvelope, Value.pointer, Value.object, get_insertMember]

theorem targetItem_sorted (t : DeliveryTargetSnapshot) : (targetItem t).Sorted :=
  sorted_object (by simp [MembersSorted, Value.Sorted])

theorem targetItems_sorted (targets : List DeliveryTargetSnapshot) :
    ElementsSorted (targets.map targetItem) := by
  induction targets with
  | nil => trivial
  | cons t ts ih => exact ⟨targetItem_sorted t, ih⟩

theorem mutationResponse_sorted : (mutationResponse jobId status generation nextRunAt targets).Sorted := by
  have hsummary : (targetSummary targets).Sorted :=
    sorted_object (by simp [MembersSorted, Value.Sorted, targetItems_sorted])
  have hnext : (Value.ofOption (nextRunAt.map .int)).Sorted := by
    cases nextRunAt <;> simp [Value.ofOption, Value.Sorted]
  have hdata : (Value.object [("job_id", .str jobId), ("status", .str status), ("generation", .int generation),
      ("next_run_at", .ofOption (nextRunAt.map .int)), ("targets", targetSummary targets)]).Sorted :=
    sorted_object (by simp [MembersSorted, Value.Sorted, hsummary, hnext])
  exact sorted_object (by simp [MembersSorted, Value.Sorted, hdata])

theorem parse_response (hresponse : idempotency.responseJson =
      canonicalJson (mutationResponse jobId status generation nextRunAt targets))
    (hreadable : (mutationResponse jobId status generation nextRunAt targets).readable maxDepth = true) :
    parse idempotency.responseJson = some (mutationResponse jobId status generation nextRunAt targets) := by
  rw [hresponse, canonicalJson, parse_render mutationResponse_sorted hreadable]

/-- 上限に収まる答えは、鍵とともに記録の検査を通る。 -/
theorem storable_response
    (hkey : validateIdempotencyRequest mutation.operation idempotency.requestId idempotency.digestAlgorithm
      idempotency.requestDigest = .ok ())
    (hbound : byteLen idempotency.responseJson ≤ maxSnapshotBytes)
    (hresponse : idempotency.responseJson =
      canonicalJson (mutationResponse jobId status generation nextRunAt targets))
    (hreadable : (mutationResponse jobId status generation nextRunAt targets).readable maxDepth = true) :
    validateMutationIdempotency mutation idempotency = .ok () := by
  have hparse : parse idempotency.responseJson =
      some (mutationResponse jobId status generation nextRunAt targets) := parse_response hresponse hreadable
  have hstorable : ¬(byteLen idempotency.responseJson > maxSnapshotBytes ∨
      (parse idempotency.responseJson).isNone = true) := by
    rw [hparse]
    simpa using hbound
  unfold validateMutationIdempotency
  refine except_bind_ok.mpr ⟨(), hkey, ?_⟩
  rw [if_neg hstorable]
  rfl

end Response

/-! ## 写しと、それから作った変更 -/

/-- `current` は、状態 `s` のジョブ `job` と予定 `row` の写しである。 -/
structure IsSnapshot (E : Env) (s : Store) (jobId : String) (job : ScheduledJobRow) (row : ScheduleRow)
    (current : ScheduledJob) : Prop where
  stored : job ∈ s.jobs.rows ∧ row ∈ s.schedules.rows
  keyed : job.jobId = jobId ∧ row.jobId = jobId
  status : current.status = job.status
  schedule : scheduleFromRow E row = .ok current.schedule

theorem scheduledJobFromRow_ok {job : ScheduledJobRow} {row : ScheduleRow} {current : ScheduledJob}
    (h : scheduledJobFromRow E job row = .ok current) :
    current.status = job.status ∧ scheduleFromRow E row = .ok current.schedule := by
  unfold scheduledJobFromRow at h
  obtain ⟨_, _, h⟩ := except_bind_ok.mp h
  obtain ⟨_, _, h⟩ := except_bind_ok.mp h
  obtain ⟨_, _, h⟩ := except_bind_ok.mp h
  obtain ⟨_, _, h⟩ := except_bind_ok.mp h
  obtain ⟨_, _, h⟩ := except_bind_ok.mp h
  obtain ⟨_, _, h⟩ := except_bind_ok.mp h
  obtain ⟨schedule, hschedule, h⟩ := except_bind_ok.mp h
  cases h
  exact ⟨rfl, hschedule⟩

theorem orState_ok {α : Type} {r : Except StateError α} {a : α} : orState r = .ok a ↔ r = .ok a := by
  cases r <;> simp [orState]

theorem orInvalidOccurrence_ok {α : Type} {r : Except OccurrenceError α} {a : α} :
    orInvalidOccurrence r = .ok a ↔ r = .ok a := by
  cases r <;> simp [orInvalidOccurrence]

theorem getScheduledJobByOwner_ok {owner : PrincipalKey} {jobId : String} {current : ScheduledJob}
    (h : getScheduledJobByOwner E owner jobId s = .ok (some current)) :
    ∃ job row, IsSnapshot E s jobId job row current := by
  unfold getScheduledJobByOwner at h
  obtain ⟨_, _, h⟩ := except_bind_ok.mp h
  obtain ⟨_, _, h⟩ := except_bind_ok.mp h
  cases hfound : ownedJob owner jobId s with
  | none =>
    rw [hfound] at h
    cases h
  | some found =>
    obtain ⟨job, row⟩ := found
    rw [hfound] at h
    obtain ⟨read, hread, h⟩ := except_bind_ok.mp h
    cases h
    obtain ⟨hstatus, hschedule⟩ := scheduledJobFromRow_ok hread
    unfold ownedJob at hfound
    obtain ⟨j, hj, hfound⟩ := Option.bind_eq_some_iff.mp hfound
    obtain ⟨r, hr, hfound⟩ := Option.bind_eq_some_iff.mp hfound
    cases hfound
    have hpj := List.find?_some hj
    have hpr := List.find?_some hr
    simp only [Bool.and_eq_true, beq_iff_eq] at hpj hpr
    exact ⟨job, row, ⟨⟨List.mem_of_find?_eq_some hj, List.mem_of_find?_eq_some hr⟩,
      ⟨hpj.1, hpr.trans hpj.1⟩, hstatus, hschedule⟩⟩

variable {service : ScheduleService} {prepared : PreparedMutation}

theorem authorizeJob_ok {jobId : String} {owner : PrincipalKey} {current : ScheduledJob}
    (h : service.authorizeJob jobId s = .ok (owner, current)) :
    ∃ job row, IsSnapshot service.env s jobId job row current := by
  unfold ScheduleService.authorizeJob at h
  obtain ⟨_, _, h⟩ := except_bind_ok.mp h
  obtain ⟨_, _, h⟩ := except_bind_ok.mp h
  obtain ⟨found, hfound, h⟩ := except_bind_ok.mp h
  obtain ⟨job, hjob, h⟩ := except_bind_ok.mp h
  cases h
  cases found with
  | none => cases hjob
  | some read =>
    simp only [ScheduleService.authorizeExisting] at hjob
    split at hjob
    · cases hjob
      exact getScheduledJobByOwner_ok (orState_ok.mp hfound)
    · cases hjob

theorem nextGeneration_ok {generation next : Int} (h : nextGeneration generation = .ok next) :
    generation + 1 = next := by
  unfold nextGeneration at h
  split at h
  · rename_i hnext
    cases h
    exact (checkedAdd_eq_some.mp hnext).2
  · cases h

theorem prepareCreate_ok {request : CreateScheduleRequest} (h : service.prepareCreate request = .ok prepared) :
    ∃ create next targets, prepared.mutation = .create create ∧
      create.schedule.firstAfterCreate service.env.cron create.now = .ok next ∧
      prepared.response = mutationResponse create.jobId "active" 0 (some next) targets := by
  unfold ScheduleService.prepareCreate at h
  obtain ⟨_, _, h⟩ := except_bind_ok.mp h
  obtain ⟨_, _, h⟩ := except_bind_ok.mp h
  obtain ⟨_, _, h⟩ := except_bind_ok.mp h
  obtain ⟨_, _, h⟩ := except_bind_ok.mp h
  obtain ⟨_, _, h⟩ := except_bind_ok.mp h
  obtain ⟨_, _, h⟩ := except_bind_ok.mp h
  obtain ⟨targets, _, h⟩ := except_bind_ok.mp h
  obtain ⟨_, _, h⟩ := except_bind_ok.mp h
  obtain ⟨next, hnext, h⟩ := except_bind_ok.mp h
  obtain ⟨_, _, h⟩ := except_bind_ok.mp h
  cases h
  exact ⟨_, next, targets, rfl, orInvalidOccurrence_ok.mp hnext, rfl⟩

/-- 更新の答えは、読んだときのジョブの写しから作られる。 -/
theorem prepareUpdate_ok {request : UpdateScheduleRequest} (h : service.prepareUpdate request s = .ok prepared) :
    ∃ update job row current next targets, prepared.mutation = .update update ∧
      IsSnapshot service.env s update.jobId job row current ∧
      ((job.status = .active ∧ ∃ at_, next = some at_ ∧
          update.schedule.firstAfterCreate service.env.cron update.now = .ok at_) ∨
        (job.status ≠ .active ∧ next = none)) ∧
      prepared.response =
        mutationResponse update.jobId job.status.asStr (update.expectedGeneration + 1) next targets := by
  unfold ScheduleService.prepareUpdate at h
  obtain ⟨_, _, h⟩ := except_bind_ok.mp h
  obtain ⟨_, _, h⟩ := except_bind_ok.mp h
  obtain ⟨⟨owner, current⟩, hcurrent, h⟩ := except_bind_ok.mp h
  obtain ⟨_, _, h⟩ := except_bind_ok.mp h
  obtain ⟨_, _, h⟩ := except_bind_ok.mp h
  obtain ⟨_, _, h⟩ := except_bind_ok.mp h
  obtain ⟨targets, _, h⟩ := except_bind_ok.mp h
  obtain ⟨_, _, h⟩ := except_bind_ok.mp h
  obtain ⟨next, hnext, h⟩ := except_bind_ok.mp h
  obtain ⟨generation, hgeneration, h⟩ := except_bind_ok.mp h
  obtain ⟨_, _, h⟩ := except_bind_ok.mp h
  cases h
  obtain ⟨job, row, hsnapshot⟩ := authorizeJob_ok hcurrent
  refine ⟨_, job, row, current, next, targets, rfl, hsnapshot, ?_, ?_⟩
  · unfold ScheduleService.snapshotNextRunAt at hnext
    rw [hsnapshot.status] at hnext
    split at hnext
    · rename_i hactive
      cases hfirst : orInvalidOccurrence (request.schedule.firstAfterCreate service.env.cron request.now) with
      | error e =>
        rw [hfirst] at hnext
        cases hnext
      | ok at_ =>
        rw [hfirst] at hnext
        cases hnext
        exact .inl ⟨hactive, at_, rfl, orInvalidOccurrence_ok.mp hfirst⟩
    · rename_i hinactive
      cases hnext
      exact .inr ⟨hinactive, rfl⟩
  · simp only [nextGeneration_ok hgeneration, hsnapshot.status]

theorem snapshotResumeAt_ok {current : ScheduledJob} {now next : Int}
    (h : service.snapshotResumeAt current now = .ok next) :
    current.schedule.nextAfter service.env.cron now = .ok next := by
  unfold ScheduleService.snapshotResumeAt at h
  split at h
  · rename_i at_ hnext
    cases h
    exact hnext
  · cases h
  · cases h

/-- 停止、再開、削除の答えも、読んだときの写しから作られる。 -/
theorem prepareLifecycle_ok {operation : LifecycleOperation} {request : LifecycleScheduleRequest}
    (h : service.prepareLifecycle operation request s t = .ok prepared) :
    ∃ job row current status next targets, IsSnapshot service.env s request.jobId job row current ∧
      service.lifecycleOutcome operation current request.now = .ok (status, next) ∧
      prepared.mutation = ScheduleService.lifecycleMutation request operation ∧
      prepared.response =
        mutationResponse request.jobId status (request.expectedGeneration + 1) next targets := by
  unfold ScheduleService.prepareLifecycle at h
  obtain ⟨_, _, h⟩ := except_bind_ok.mp h
  obtain ⟨⟨owner, current⟩, hcurrent, h⟩ := except_bind_ok.mp h
  obtain ⟨targets, _, h⟩ := except_bind_ok.mp h
  obtain ⟨⟨status, next⟩, houtcome, h⟩ := except_bind_ok.mp h
  obtain ⟨generation, hgeneration, h⟩ := except_bind_ok.mp h
  cases h
  obtain ⟨job, row, hsnapshot⟩ := authorizeJob_ok hcurrent
  refine ⟨job, row, current, status, next, targets, hsnapshot, houtcome, rfl, ?_⟩
  simp only [nextGeneration_ok hgeneration]

def HasSchedule (jobId : String) (s : Store) : Prop := ∃ r ∈ s.schedules.rows, r.jobId = jobId

theorem HasSchedule.rewrites {jobId : String} {p : ScheduleRow → Bool} {f : ScheduleRow → ScheduleRow}
    {C : Table schedules} (h : HasSchedule jobId s) (hC : s.schedules.Rewrites p f C)
    (hf : ∀ r, (f r).jobId = r.jobId) : ∃ r ∈ C.rows, r.jobId = jobId := by
  obtain ⟨r, hr, hid⟩ := h
  rcases hC.kept hr with hmem | hmem
  · exact ⟨f r, hmem, (hf r).trans hid⟩
  · exact ⟨r, hmem, hid⟩

/-- 予定を持つ作業は、どの遷移の後にも予定を持つ。 -/
theorem HasSchedule.effect {jobId : String} {now : Int} {k : Origin} (h : HasSchedule jobId s)
    (heffect : Effect E now k s s') : HasSchedule jobId s' := by
  cases heffect with
  | aside same =>
    unfold HasSchedule
    rw [same.schedules]
    exact h
  | created time valid jobs schedules targets baselines =>
    obtain ⟨r, hr, hid⟩ := h
    exact ⟨r, schedules.mem.mpr (.inl hr), hid⟩
  | updated time valid found jobId generation next jobs cancels schedules targets =>
    exact h.rewrites schedules fun _ => rfl
  | stopped becomes jobs cancels schedules => exact h.rewrites schedules fun _ => rfl
  | resumed paused found jobId readable occurs jobs schedules => exact h.rewrites schedules fun _ => rfl
  | materialized found active schedule jobId nextRunAt overdue readable coalesced baselines owner runs advances =>
    cases advances with
    | next nextRunAt schedules => exact h.rewrites schedules fun _ => rfl
    | last nextRunAt schedules jobs => exact h.rewrites schedules fun _ => rfl
  | _ => exact h

theorem HasSchedule.steps {jobId : String} (h : HasSchedule jobId s)
    (hsteps : Relation.ReflTransGen (Step E) s s') : HasSchedule jobId s' := by
  refine invariant_of_steps ?_ h hsteps
  rintro a b ha ⟨op, rfl⟩
  exact invariant_of_steps (fun _ _ hI heffect => HasSchedule.effect hI heffect) ha (op.apply_effects a)

end Codeoff.Runtime
