import Codeoff.State.Lemmas.Idempotency

/-!
# 稼働中のジョブの数

稼働中のジョブは、作成と再開だけが一つ増やし、その前に上限を確かめる。
-/

namespace Codeoff.State

open Codeoff.Core Codeoff.Relational

variable {E : Env} {s s' : Store} {u : Unit} {policy : Policy} {owner : PrincipalKey}

def activeJobs (s : Store) : Nat := s.jobs.rows.countP fun j => j.status == .active

def ownerActiveJobs (s : Store) (owner : PrincipalKey) : Nat :=
  s.jobs.rows.countP fun j => j.status == .active && j.owner == owner

/-- 稼働中のジョブの数が、全体でも持ち主ごとでも上限を超えない。 -/
structure WithinActiveLimits (policy : Policy) (s : Store) : Prop where
  total : activeJobs s ≤ policy.1.maxActiveJobs
  perOwner : ∀ owner, ownerActiveJobs s owner ≤ policy.1.maxActiveJobsPerOwner

def WouldExceed (policy : Policy) (owner : PrincipalKey) (s : Store) : Prop :=
  policy.1.maxActiveJobs < activeJobs s + 1 ∨ policy.1.maxActiveJobsPerOwner < ownerActiveJobs s owner + 1

/-- 稼働中のジョブが、どの数え方でも増えない。 -/
structure KeepsActive (s s' : Store) : Prop where
  total : activeJobs s' ≤ activeJobs s
  perOwner : ∀ owner, ownerActiveJobs s' owner ≤ ownerActiveJobs s owner

theorem KeepsActive.of_jobs (h : s'.jobs = s.jobs) : KeepsActive s s' := by
  constructor
  · simp only [activeJobs, h, le_refl]
  · intro owner
    simp only [ownerActiveJobs, h, le_refl]

theorem WithinActiveLimits.keeps (h : WithinActiveLimits policy s) (hkeeps : KeepsActive s s') :
    WithinActiveLimits policy s' :=
  ⟨hkeeps.total.trans h.total, fun owner => (hkeeps.perOwner owner).trans (h.perOwner owner)⟩

theorem jobs_conflict_self (j : ScheduledJobRow) : scheduledJobs.conflict j j = true := by
  simp [scheduledJobs]

theorem KeepsActive.replaces {j j' : ScheduledJobRow} {J : Table scheduledJobs}
    (hJ : s.jobs.Replaces j j' J) (hid : j'.jobId = j.jobId) (howner : j'.owner = j.owner)
    (hstatus : j'.status = .active → j.status = .active) : KeepsActive s { s with jobs := J } := by
  have hkey : scheduledJobs.conflict j' j = true := by simp [scheduledJobs, hid]
  constructor
  · have := hJ.countP jobs_conflict_self hkey fun o => o.status == .active
    simp only [activeJobs]
    by_cases hactive : j'.status = .active
    · simp only [hactive, hstatus hactive, beq_self_eq_true, if_true] at this
      omega
    · simp only [hactive, beq_iff_eq, if_false] at this
      omega
  · intro owner
    have := hJ.countP jobs_conflict_self hkey fun o => o.status == .active && o.owner == owner
    simp only [ownerActiveJobs]
    by_cases hactive : j'.status = .active
    · simp only [hactive, hstatus hactive, howner] at this
      omega
    · simp only [hactive, Bool.and_eq_true, beq_iff_eq, false_and, if_false] at this
      omega

theorem KeepsActive.rewrites {p : ScheduledJobRow → Bool} {f : ScheduledJobRow → ScheduledJobRow}
    {J : Table scheduledJobs} (hJ : s.jobs.Rewrites p f J) (hf : ∀ j, (f j).status ≠ .active) :
    KeepsActive s { s with jobs := J } := by
  have hcount : ∀ q : ScheduledJobRow → Bool, (∀ j, q j = true → j.status = .active) →
      J.rows.countP q ≤ s.jobs.rows.countP q := by
    intro q hq
    rw [hJ.rows, Table.rewrite, List.countP_map]
    refine List.countP_mono_left ?_
    intro j _ hj
    simp only [Function.comp_apply] at hj
    split at hj
    · exact absurd (hq _ hj) (hf j)
    · exact hj
  constructor
  · exact hcount _ fun j hj => beq_iff_eq.mp hj
  · exact fun owner => hcount _ fun j hj => beq_iff_eq.mp (Bool.and_eq_true_iff.mp hj).1

/-- ジョブを由来としない効果は、動いているジョブを増やさない。 -/
theorem KeepsActive.effect {now : Int} {k : Origin} (hk : k ≠ .job) (h : Effect E now k s s') :
    KeepsActive s s' := by
  cases h with
  | aside same => exact .of_jobs same.jobs
  | created time valid jobs schedules targets baselines => exact absurd rfl hk
  | updated time valid found jobId generation next jobs cancels schedules targets => exact absurd rfl hk
  | stopped becomes jobs cancels schedules => exact absurd rfl hk
  | resumed paused found jobId readable occurs jobs schedules => exact absurd rfl hk
  | materialized found active schedule jobId nextRunAt overdue readable coalesced baselines owner runs
      advances =>
      cases advances with
      | next nextRunAt schedules => exact .of_jobs rfl
      | last nextRunAt schedules jobs =>
        have hkeeps := KeepsActive.rewrites jobs fun j => by simp [completedJob]
        exact ⟨hkeeps.total, hkeeps.perOwner⟩
  | _ => exact .of_jobs rfl

theorem KeepsActive.effects {now : Int} {k : Origin} (hk : k ≠ .job)
    (h : Relation.ReflTransGen (Effect E now k) s s') : KeepsActive s s' := by
  refine invariant_of_steps (I := fun t => KeepsActive s t) ?_ (.of_jobs rfl) h
  intro t t' hkeeps heffect
  have hstep := KeepsActive.effect hk heffect
  exact ⟨hstep.total.trans hkeeps.total, fun owner => (hstep.perOwner owner).trans (hkeeps.perOwner owner)⟩

theorem counted_eq (s : Store) :
    (s.jobs.rows.filter fun j => j.status == .active && (none : Option String) != some j.jobId) =
      s.jobs.rows.filter fun j => j.status == .active :=
  List.filter_congr fun _ _ => Bool.and_true _

theorem enforceActiveJobLimits_eq (policy : Policy) (owner : PrincipalKey) (s : Store) :
    enforceActiveJobLimits policy owner none s =
      (if activeJobs s < policy.1.maxActiveJobs then
        if ownerActiveJobs s owner < policy.1.maxActiveJobsPerOwner then .ok ((), s)
        else .error (.scheduledActiveJobLimitExceeded "owner")
      else .error (.scheduledActiveJobLimitExceeded "global")) := by
  have hglobal : (s.jobs.rows.filter fun j => j.status == .active).length = activeJobs s :=
    List.countP_eq_length_filter.symm
  have howner : ((s.jobs.rows.filter fun j => j.status == .active).countP fun j => j.owner == owner) =
      ownerActiveJobs s owner := by
    rw [List.countP_filter, ownerActiveJobs]
    exact List.countP_congr fun j _ => by rw [Bool.and_comm]
  unfold enforceActiveJobLimits
  rw [Tx.read_bind_apply, counted_eq, hglobal, howner]
  by_cases hg : activeJobs s < policy.1.maxActiveJobs
  · rw [Tx.require_bind_of (decide_eq_true hg), if_pos hg]
    by_cases ho : ownerActiveJobs s owner < policy.1.maxActiveJobsPerOwner
    · rw [if_pos ho]
      exact Tx.require_ok.mpr ⟨decide_eq_true ho, rfl⟩
    · rw [if_neg ho, decide_eq_false ho]
      rfl
  · rw [if_neg hg, decide_eq_false hg]
    rfl

theorem enforceActiveJobLimits_room (h : enforceActiveJobLimits policy owner none s = .ok (u, s')) :
    activeJobs s + 1 ≤ policy.1.maxActiveJobs ∧
      ownerActiveJobs s owner + 1 ≤ policy.1.maxActiveJobsPerOwner := by
  rw [enforceActiveJobLimits_eq] at h
  split at h
  · split at h
    · exact ⟨by omega, by omega⟩
    · cases h
  · cases h

theorem enforceActiveJobLimits_refused {e : StateError}
    (h : enforceActiveJobLimits policy owner none s = .error e) : WouldExceed policy owner s := by
  rw [enforceActiveJobLimits_eq] at h
  split at h
  · split at h
    · cases h
    · exact .inr (by omega)
  · exact .inl (by omega)

theorem WithinActiveLimits.activates (h : WithinActiveLimits policy s) (owner : PrincipalKey)
    (hroom : activeJobs s + 1 ≤ policy.1.maxActiveJobs ∧
      ownerActiveJobs s owner + 1 ≤ policy.1.maxActiveJobsPerOwner)
    (htotal : activeJobs s' ≤ activeJobs s + 1)
    (hother : ∀ other, other ≠ owner → ownerActiveJobs s' other ≤ ownerActiveJobs s other)
    (hown : ownerActiveJobs s' owner ≤ ownerActiveJobs s owner + 1) : WithinActiveLimits policy s' := by
  refine ⟨htotal.trans hroom.1, ?_⟩
  intro other
  by_cases howner : other = owner
  · rw [howner]
    exact hown.trans hroom.2
  · exact (hother other howner).trans (h.perOwner other)

theorem WithinActiveLimits.created {request : CreateScheduledJob} {next : Int}
    {proof : CadenceProofArtifact} {t : Store} (h : WithinActiveLimits policy s)
    (henforce : enforceActiveJobLimits policy request.owner none s = .ok (u, t))
    (hinsert : insertScheduledJob request next policy proof t = .ok (u, s')) :
    WithinActiveLimits policy s' := by
  have hroom := enforceActiveJobLimits_room henforce
  rw [enforceActiveJobLimits_ok henforce] at hinsert
  unfold insertScheduledJob at hinsert
  obtain ⟨_, _, hinsert⟩ := Tx.check_bind_ok.mp hinsert
  obtain ⟨_, s1, h1, hinsert⟩ := Tx.bind_ok.mp hinsert
  obtain ⟨J, hJ, rfl⟩ := insertJob_ok.mp h1
  obtain ⟨_, s2, h2, hinsert⟩ := Tx.bind_ok.mp hinsert
  obtain ⟨C, _, rfl⟩ := insertSchedule_ok.mp h2
  obtain ⟨_, s3, h3, hinsert⟩ := Tx.bind_ok.mp hinsert
  obtain ⟨T, _, rfl⟩ := replaceDeliveryTargets_ok h3
  obtain ⟨B, _, rfl⟩ := insertBaseline_ok.mp hinsert
  have hcount := hJ.toAppends.countP
  refine h.activates request.owner hroom ?_ ?_ ?_
  · simp only [activeJobs, hcount, createdJob, beq_self_eq_true, if_true, le_refl]
  · intro owner hne
    simp only [ownerActiveJobs, hcount, createdJob, Bool.and_eq_true, beq_iff_eq, true_and]
    rw [if_neg fun heq => hne heq.symm]
    exact le_refl _
  · simp only [ownerActiveJobs, hcount, createdJob, beq_self_eq_true, Bool.and_self, if_true, le_refl]

theorem WithinActiveLimits.updated {request : UpdateScheduledJob} {proof : CadenceProofArtifact}
    {p : Policy} (h : WithinActiveLimits policy s)
    (hupdate : applyUpdate E request p proof s = .ok (u, s')) : WithinActiveLimits policy s' := by
  obtain ⟨job, _, J, R, A, C, T, _, _, _, hJ, _, _, _, rfl⟩ := applyUpdate_ok hupdate
  have hkeeps := KeepsActive.replaces hJ rfl rfl id
  exact h.keeps ⟨hkeeps.total, hkeeps.perOwner⟩

theorem WithinActiveLimits.stopped {jobId : String} {generation now : Int} {status : InactiveStatus}
    (h : WithinActiveLimits policy s)
    (hstop : applyInactive jobId generation status now s = .ok (u, s')) : WithinActiveLimits policy s' := by
  obtain ⟨job, J, R, A, C, _, _, hJ, _, _, rfl⟩ := applyInactive_ok hstop
  have hkeeps := KeepsActive.replaces hJ rfl rfl fun hactive => by
    cases status <;> cases hactive
  exact h.keeps ⟨hkeeps.total, hkeeps.perOwner⟩

theorem applyResume_enforced {jobId : String} {generation now : Int} {proof : CadenceProofArtifact}
    (h : applyResume E jobId generation now policy proof s = .ok (u, s')) :
    ∃ job row, pausedJob jobId generation s = some (job, row) ∧
      enforceActiveJobLimits policy job.owner none s = .ok ((), s) := by
  unfold applyResume at h
  rw [Tx.read_bind_apply] at h
  obtain ⟨⟨job, row⟩, hfound, h⟩ := Tx.orElseFail_bind_ok.mp h
  obtain ⟨_, _, h⟩ := Tx.check_bind_ok.mp h
  obtain ⟨_, _, h⟩ := Tx.check_bind_ok.mp h
  obtain ⟨_, s0, h0, h⟩ := Tx.bind_ok.mp h
  obtain rfl := enforceActiveJobLimits_ok h0
  exact ⟨job, row, hfound, h0⟩

theorem WithinActiveLimits.resumed {jobId : String} {generation now : Int} {proof : CadenceProofArtifact}
    (h : WithinActiveLimits policy s)
    (hresume : applyResume E jobId generation now policy proof s = .ok (u, s')) :
    WithinActiveLimits policy s' := by
  obtain ⟨job, row, hfound, henforce⟩ := applyResume_enforced hresume
  obtain ⟨⟨hmem, hid, _⟩, _⟩ := pausedJob_eq_some hfound
  obtain ⟨job', _, _, _, J, C, ⟨hid', _, hpaused⟩, _, _, _, hJ, _, rfl⟩ := applyResume_ok hresume
  obtain rfl : job' = job := s.jobs.eq_of_conflict hJ.mem_old hmem (by simp [scheduledJobs, hid, hid'])
  have hkey : scheduledJobs.conflict (resumedJob policy now job') job' = true := by
    simp [scheduledJobs, resumedJob]
  refine h.activates job'.owner (enforceActiveJobLimits_room henforce)
    (hJ.countP_le jobs_conflict_self hkey _) ?_ (hJ.countP_le jobs_conflict_self hkey _)
  · intro owner hne
    have hold := hJ.countP jobs_conflict_self hkey fun j => j.status == .active && j.owner == owner
    have howner : (job'.owner == owner) = false := beq_eq_false_iff_ne.mpr fun heq => hne heq.symm
    simp only [resumedJob, howner, Bool.and_false, Bool.false_eq_true, if_false, Nat.add_zero] at hold
    simp only [ownerActiveJobs, hold, le_refl]

/-- 数を確かめてから動かすので、動いているジョブは全体の上限も持ち主の上限も超えない。 -/
theorem WithinActiveLimits.typed {mutation : ScheduledJobMutation} {proof : Option CadenceProofArtifact}
    (h : WithinActiveLimits policy s)
    (hrun : applyTypedMutation E policy mutation proof s = .ok (u, s')) : WithinActiveLimits policy s' := by
  cases mutation with
  | create request =>
    obtain ⟨_, _, hrun⟩ := Tx.check_bind_ok.mp hrun
    obtain ⟨_, _, hrun⟩ := Tx.orElseFail_bind_ok.mp hrun
    obtain ⟨_, t, henforce, hinsert⟩ := Tx.bind_ok.mp hrun
    exact h.created henforce hinsert
  | update request =>
    obtain ⟨_, _, hrun⟩ := Tx.check_bind_ok.mp hrun
    obtain ⟨_, _, hrun⟩ := Tx.orElseFail_bind_ok.mp hrun
    exact h.updated hrun
  | resume jobId generation now =>
    obtain ⟨_, _, hrun⟩ := Tx.check_bind_ok.mp hrun
    obtain ⟨_, _, hrun⟩ := Tx.orElseFail_bind_ok.mp hrun
    exact h.resumed hrun
  | pause jobId generation now =>
    obtain ⟨_, _, hrun⟩ := Tx.check_bind_ok.mp hrun
    exact h.stopped hrun
  | delete jobId generation now =>
    obtain ⟨_, _, hrun⟩ := Tx.check_bind_ok.mp hrun
    exact h.stopped hrun

theorem WithinActiveLimits.createdBy {request : CreateScheduledJob} (h : WithinActiveLimits policy s)
    (hrun : createScheduledJob E policy request s = .ok (u, s')) : WithinActiveLimits policy s' := by
  obtain ⟨_, _, hrun⟩ := Tx.check_bind_ok.mp hrun
  obtain ⟨_, _, hrun⟩ := Tx.check_bind_ok.mp hrun
  obtain ⟨_, t, henforce, hinsert⟩ := Tx.bind_ok.mp hrun
  exact h.created henforce hinsert

theorem WithinActiveLimits.updatedBy {request : UpdateScheduledJob} {p : Policy} {generation : Int}
    (h : WithinActiveLimits policy s)
    (hrun : updateScheduledJob E p request s = .ok (generation, s')) : WithinActiveLimits policy s' := by
  obtain ⟨_, _, hrun⟩ := Tx.check_bind_ok.mp hrun
  obtain ⟨_, _, hrun⟩ := Tx.check_bind_ok.mp hrun
  obtain ⟨_, t, hupdate, hrun⟩ := Tx.bind_ok.mp hrun
  cases hrun
  exact h.updated hupdate

theorem WithinActiveLimits.stoppedBy {jobId : String} {generation now next : Int} {status : InactiveStatus}
    (h : WithinActiveLimits policy s)
    (hrun : setJobInactive jobId generation status now s = .ok (next, s')) :
    WithinActiveLimits policy s' := by
  obtain ⟨_, t, hstop, hrun⟩ := Tx.bind_ok.mp hrun
  cases hrun
  exact h.stopped hstop

theorem WithinActiveLimits.resumedBy {jobId : String} {generation now next : Int}
    (h : WithinActiveLimits policy s)
    (hrun : resumeScheduledJob E policy jobId generation now s = .ok (next, s')) :
    WithinActiveLimits policy s' := by
  obtain ⟨proof, t, hcheck, hrun⟩ := Tx.bind_ok.mp hrun
  rw [validateResumeCadence_ok hcheck] at hrun
  obtain ⟨_, t', hresume, hrun⟩ := Tx.bind_ok.mp hrun
  cases hrun
  exact h.resumed hresume

theorem WithinActiveLimits.prevalidated {mutation : ScheduledJobMutation}
    {idempotency : ScheduleMutationIdempotency} {audit : Option ScheduleMutationAudit}
    {proof : Option CadenceProofArtifact} {outcome : TransactionalMutationOutcome}
    (h : WithinActiveLimits policy s)
    (hrun : applyPrevalidatedMutation E policy mutation idempotency audit proof s = .ok (outcome, s')) :
    WithinActiveLimits policy s' := by
  unfold applyPrevalidatedMutation at hrun
  obtain ⟨decision, s2, h2, hrun⟩ := Tx.bind_ok.mp hrun
  obtain ⟨rfl, K, _, rfl⟩ | ⟨hne, hs⟩ := claimIdempotency_ok h2
  · obtain ⟨t, T, K', htyped, _, _, rfl⟩ := applyClaimedMutation_ok hrun
    have hclaimed : WithinActiveLimits policy { s with idempotency := K } := h.keeps (.of_jobs rfl)
    exact (hclaimed.typed htyped).keeps (.of_jobs rfl)
  · rw [hs] at hrun
    cases decision with
    | claimed => exact absurd rfl hne
    | replay response => cases hrun; exact h
    | inProgress => cases hrun; exact h
    | conflict => cases hrun; exact h

theorem WithinActiveLimits.mutated {mutation : ScheduledJobMutation}
    {idempotency : ScheduleMutationIdempotency} {audit : Option ScheduleMutationAudit}
    {outcome : TransactionalMutationOutcome} (h : WithinActiveLimits policy s)
    (hrun : applyIdempotentScheduleMutationWithAudit E policy mutation idempotency audit s =
      .ok (outcome, s')) : WithinActiveLimits policy s' := by
  rw [applyIdempotent_eq] at hrun
  obtain ⟨_, _, hrun⟩ := Tx.check_bind_ok.mp hrun
  obtain ⟨_, _, hrun⟩ := Tx.check_bind_ok.mp hrun
  obtain ⟨proof, s1, h1, hrun⟩ := Tx.bind_ok.mp hrun
  rw [prevalidateScheduleMutation_ok h1] at hrun
  exact h.prevalidated hrun

/-!
## 稼働中のジョブの上限による拒否

上限の誤りは、上限の検査からだけ来る。作成と再開のほかの文と検査を一つずつ除いて、このことを示す。
-/

variable {E : Env} {s : Store} {policy : Policy} {e : StateError}

/-! ## 上限の誤りの出どころ -/

def IsActiveLimit (e : StateError) : Prop := ∃ scope, e = .scheduledActiveJobLimitExceeded scope

theorem not_isActiveLimit_invalid (reason : String) : ¬IsActiveLimit (.invalidSchedulerState reason) := by
  rintro ⟨_, h⟩
  cases h

theorem not_isActiveLimit_conflict : ¬IsActiveLimit .schedulerGenerationConflict := by
  rintro ⟨_, h⟩
  cases h

theorem avoids_statement {R α : Type} {S : Schema R} {get : Store → Table S}
    {set : Store → Table S → Store} {stmt : Store → Table S → Except Violation (Table S × α)} :
    Avoids IsActiveLimit (statement get set stmt) := by
  rintro s e h ⟨scope, rfl⟩
  obtain ⟨v, hv⟩ := statement_error h
  cases hv

theorem avoids_invalidValue {α : Type} {r : Except StateValueError α} :
    AvoidsError IsActiveLimit (invalidValue r) := by
  cases r with
  | ok a => exact .ok a
  | error e => exact .error (not_isActiveLimit_invalid _)

theorem avoids_invalidOccurrence {α : Type} {r : Except OccurrenceError α} :
    AvoidsError IsActiveLimit (invalidOccurrence r) := by
  cases r with
  | ok a => exact .ok a
  | error e => exact .error (not_isActiveLimit_invalid _)

theorem avoids_invalidState {α : Type} {reason : String} :
    AvoidsError IsActiveLimit (invalidState reason : Except StateError α) :=
  .error (not_isActiveLimit_invalid _)

theorem avoids_reject {α : Type} {c : Prop} [Decidable c] {reason : String} {r : Except StateError α}
    (hr : AvoidsError IsActiveLimit r) : AvoidsError IsActiveLimit (if c then invalidState reason else r) := by
  split
  · exact avoids_invalidState
  · exact hr

theorem avoids_validateEach (ts : List DeliveryTargetSnapshot) : AvoidsError IsActiveLimit (validateEach ts) := by
  induction ts with
  | nil => exact .ok ()
  | cons t ts ih => exact .bind avoids_invalidValue fun _ => ih

theorem avoids_validateSerializedTargets (ts : List DeliveryTargetSnapshot) :
    AvoidsError IsActiveLimit (validateSerializedTargets ts) := by
  refine avoids_reject ?_
  have hserialize : AvoidsError IsActiveLimit (serializeTargets ts) := by
    unfold serializeTargets
    split
    · exact avoids_invalidState
    · exact avoids_reject (.ok _)
  cases h : serializeTargets ts with
  | ok a => exact .ok ()
  | error e => exact .error (hserialize e h)

theorem avoids_validateDeliveryTargets (ts : List DeliveryTargetSnapshot) :
    AvoidsError IsActiveLimit (validateDeliveryTargets ts) := by
  unfold validateDeliveryTargets
  split
  · exact .bind avoids_invalidState fun _ => .bind (avoids_validateEach ts) fun _ =>
      avoids_validateSerializedTargets ts
  · exact .bind (avoids_validateEach ts) fun _ => avoids_validateSerializedTargets ts

theorem avoids_validateDefinitionPolicy (d : ScheduledJobDefinition) (p : Policy) :
    AvoidsError IsActiveLimit (validateDefinitionPolicy d p) := by
  unfold validateDefinitionPolicy
  split
  · exact avoids_invalidState
  · split
    · exact .ok ()
    · exact avoids_reject (.ok ())

theorem avoids_validateCreateRequest (request : CreateScheduledJob) (p : Policy) :
    AvoidsError IsActiveLimit (validateCreateRequest E request p) :=
  .bind avoids_invalidValue fun _ => .bind avoids_invalidValue fun _ => .bind avoids_invalidValue fun _ =>
    .bind avoids_invalidValue fun _ => .bind avoids_invalidValue fun _ => .bind avoids_invalidValue fun _ =>
      .bind avoids_invalidValue fun _ => .bind (avoids_validateDefinitionPolicy _ p) fun _ =>
        .bind (avoids_validateDeliveryTargets _) fun _ => avoids_invalidOccurrence

theorem avoids_validateUpdateRequest (request : UpdateScheduledJob) (p : Policy) :
    AvoidsError IsActiveLimit (validateUpdateRequest request p) := by
  refine .bind avoids_invalidValue fun _ => .bind avoids_invalidValue fun _ =>
    .bind avoids_invalidValue fun _ => .bind (avoids_validateDefinitionPolicy _ p) fun _ =>
    .bind avoids_invalidValue fun _ => ?_
  split
  · exact .bind avoids_invalidState fun _ => avoids_validateDeliveryTargets _
  · exact avoids_validateDeliveryTargets _

theorem avoids_generateCadenceProof (schedule : ScheduleSpec) (now : Int) (p : Policy) :
    AvoidsError IsActiveLimit (generateCadenceProof E schedule now p) :=
  .bind avoids_invalidValue fun _ => .ok _

theorem avoids_verify (proof : CadenceProofArtifact) (schedule : ScheduleSpec) (p : Policy) :
    AvoidsError IsActiveLimit (proof.verify schedule p) := by
  unfold CadenceProofArtifact.verify
  split
  · exact .ok ()
  · exact avoids_invalidState

theorem avoids_insertTargets (jobId : String) (n : Nat) (ts : List DeliveryTargetSnapshot) :
    Avoids IsActiveLimit (insertTargets jobId n ts) := by
  induction ts generalizing n with
  | nil => exact .pure ()
  | cons t ts ih => exact .bind avoids_statement fun _ => ih (n + 1)

theorem avoids_insertScheduledJob (request : CreateScheduledJob) (next : Int) (p : Policy)
    (proof : CadenceProofArtifact) : Avoids IsActiveLimit (insertScheduledJob request next p proof) :=
  .bind (.check (avoids_verify _ _ _)) fun _ => .bind avoids_statement fun _ =>
    .bind avoids_statement fun _ => .bind (.bind avoids_statement fun _ => avoids_insertTargets _ _ _)
      fun _ => avoids_statement

theorem avoids_scheduleFromRow (row : ScheduleRow) : AvoidsError IsActiveLimit (scheduleFromRow E row) := by
  unfold scheduleFromRow
  split
  · exact .ok _
  · exact avoids_invalidState

theorem avoids_resumeOccurrence (spec : ScheduleSpec) (now : Int) :
    AvoidsError IsActiveLimit (resumeOccurrence E spec now) := by
  unfold resumeOccurrence
  split
  · exact .ok _
  · refine .error ?_
    rintro ⟨_, h⟩
    cases h
  · exact .error (not_isActiveLimit_invalid _)

theorem avoids_validateResumeCadence (p : Policy) (jobId : String) (generation now : Int) :
    Avoids IsActiveLimit (validateResumeCadence E p jobId generation now) :=
  .bind (.read _) fun _ => .bind (.orElseFail not_isActiveLimit_conflict) fun _ =>
    .bind (.check (avoids_scheduleFromRow _)) fun _ => .check (avoids_generateCadenceProof _ _ _)

theorem avoids_claimIdempotency (principal : PrincipalKey) (operation requestId algorithm digest : String)
    (now : Int) : Avoids IsActiveLimit (claimIdempotency principal operation requestId algorithm digest now) := by
  refine .bind (.require ?_) fun _ => .bind avoids_statement fun n => ?_
  · rintro ⟨_, h⟩
    cases h
  · split
    · exact .pure _
    · refine .bind (.read _) fun found => .bind (.orElseFail (not_isActiveLimit_invalid _)) fun row => ?_
      split
      · exact .pure _
      · split
        · exact .pure _
        · split
          · exact .pure _
          · exact .fail (not_isActiveLimit_invalid _)

theorem avoids_completeIdempotency (principal : PrincipalKey) (operation : String)
    (k : ScheduleMutationIdempotency) (now : Int) :
    Avoids IsActiveLimit (completeIdempotency principal operation k now) := by
  refine .bind (.require ?_) fun _ => .bind avoids_statement fun _ => .require (not_isActiveLimit_invalid _)
  rintro ⟨_, h⟩
  cases h

theorem avoids_insertOptionalMutationAudit (audit : Option ScheduleMutationAudit) :
    Avoids IsActiveLimit (insertOptionalMutationAudit audit) := by
  cases audit with
  | none => exact .pure ()
  | some audit =>
    unfold insertOptionalMutationAudit insertMutationAudit
    exact avoids_statement

theorem avoids_validateLifecycleMutation (jobId : String) (generation : Int) :
    AvoidsError IsActiveLimit (validateLifecycleMutation jobId generation) :=
  .bind avoids_invalidValue fun _ => avoids_reject (.ok ())

theorem avoids_validateIdempotencyRequest (operation requestId algorithm digest : String) :
    AvoidsError IsActiveLimit (validateIdempotencyRequest operation requestId algorithm digest) :=
  .bind avoids_invalidValue fun _ => .bind avoids_invalidValue fun _ => .bind avoids_invalidValue fun _ =>
    avoids_invalidValue

theorem avoids_validateMutationIdempotency (m : ScheduledJobMutation) (k : ScheduleMutationIdempotency) :
    AvoidsError IsActiveLimit (validateMutationIdempotency m k) :=
  .bind (avoids_validateIdempotencyRequest _ _ _ _) fun _ => avoids_reject (.ok ())

theorem avoids_validateOptionalText (field : String) (value : Option String) :
    AvoidsError IsActiveLimit (validateOptionalText field value) := by
  cases value with
  | none => exact .ok ()
  | some value => exact avoids_invalidValue

theorem avoids_validateScheduleAudit (audit : ScheduleMutationAudit) :
    AvoidsError IsActiveLimit (validateScheduleAudit audit) := by
  refine .bind avoids_invalidValue fun _ => .bind avoids_invalidValue fun _ =>
    .bind avoids_invalidValue fun _ => .bind avoids_invalidValue fun _ =>
    .bind avoids_invalidValue fun _ => .bind avoids_invalidValue fun _ =>
    .bind (avoids_validateOptionalText _ _) fun _ => .bind (avoids_validateOptionalText _ _) fun _ =>
    .bind (avoids_validateOptionalText _ _) fun _ => ?_
  cases audit.principal with
  | none => exact avoids_reject (.ok ())
  | some principal => exact .bind avoids_invalidValue fun _ => avoids_reject (.ok ())

theorem avoids_validateOptionalMutationAudit (m : ScheduledJobMutation) (k : ScheduleMutationIdempotency)
    (audit : Option ScheduleMutationAudit) :
    AvoidsError IsActiveLimit (validateOptionalMutationAudit m k audit) := by
  cases audit with
  | none => exact .ok ()
  | some audit => exact .bind (avoids_validateScheduleAudit audit) fun _ => avoids_reject (.ok ())

theorem avoids_prevalidateScheduleMutation (m : ScheduledJobMutation) :
    Avoids IsActiveLimit (prevalidateScheduleMutation E policy m) := by
  cases m with
  | create request =>
    exact .bind (.check (avoids_validateCreateRequest request policy)) fun _ =>
      .bind (.check (avoids_generateCadenceProof _ _ _)) fun _ => .pure _
  | update request =>
    exact .bind (.check (avoids_validateUpdateRequest request policy)) fun _ =>
      .bind (.check (avoids_generateCadenceProof _ _ _)) fun _ => .pure _
  | resume jobId generation now =>
    exact .bind (.check (avoids_validateLifecycleMutation _ _)) fun _ =>
      .bind (avoids_validateResumeCadence _ _ _ _) fun _ => .pure _
  | pause jobId generation now =>
    exact .bind (.check (avoids_validateLifecycleMutation _ _)) fun _ => .pure _
  | delete jobId generation now =>
    exact .bind (.check (avoids_validateLifecycleMutation _ _)) fun _ => .pure _

/-! ## 上限による拒否 -/

theorem insert_refused {request : CreateScheduledJob} {next : Int} {proof : CadenceProofArtifact}
    (he : IsActiveLimit e)
    (h : (do enforceActiveJobLimits policy request.owner none
             insertScheduledJob request next policy proof) s = .error e) :
    WouldExceed policy request.owner s :=
  enforceActiveJobLimits_refused (Avoids.error_of_bind (fun _ => avoids_insertScheduledJob _ _ _ _) he h)

theorem createScheduledJob_refused {request : CreateScheduledJob} (he : IsActiveLimit e)
    (h : createScheduledJob E policy request s = .error e) : WouldExceed policy request.owner s := by
  unfold createScheduledJob at h
  obtain ⟨next, _, h1, h⟩ := Avoids.bind_error (.check (avoids_validateCreateRequest request policy)) he h
  rw [(Tx.check_ok.mp h1).2] at h
  obtain ⟨proof, _, h2, h⟩ := Avoids.bind_error (.check (avoids_generateCadenceProof _ _ _)) he h
  rw [(Tx.check_ok.mp h2).2] at h
  exact insert_refused he h

theorem applyResume_refused {jobId : String} {generation now : Int} {proof : CadenceProofArtifact}
    (he : IsActiveLimit e)
    (h : applyResume E jobId generation now policy proof s = .error e) :
    ∃ job row, pausedJob jobId generation s = some (job, row) ∧ WouldExceed policy job.owner s := by
  unfold applyResume at h
  rw [Tx.read_bind_apply] at h
  obtain ⟨⟨job, row⟩, _, h1, h⟩ := Avoids.bind_error (.orElseFail not_isActiveLimit_conflict) he h
  obtain ⟨hfound, hs⟩ := Tx.orElseFail_ok.mp h1
  rw [hs] at h
  dsimp only at h
  obtain ⟨spec, _, h2, h⟩ := Avoids.bind_error (.check (avoids_scheduleFromRow row)) he h
  rw [(Tx.check_ok.mp h2).2] at h
  obtain ⟨_, _, h3, h⟩ := Avoids.bind_error (.check (avoids_verify _ _ _)) he h
  rw [(Tx.check_ok.mp h3).2] at h
  refine ⟨job, row, hfound, enforceActiveJobLimits_refused (Avoids.error_of_bind ?_ he h)⟩
  exact fun _ => .bind (.check (avoids_resumeOccurrence spec now)) fun _ =>
    .bind avoids_statement fun _ => .bind avoids_statement fun _ => .pure ()

theorem resumeScheduledJob_refused {jobId : String} {generation now : Int} (he : IsActiveLimit e)
    (h : resumeScheduledJob E policy jobId generation now s = .error e) :
    ∃ job row, pausedJob jobId generation s = some (job, row) ∧ WouldExceed policy job.owner s := by
  unfold resumeScheduledJob at h
  obtain ⟨proof, t, h1, h⟩ := Avoids.bind_error (avoids_validateResumeCadence _ _ _ _) he h
  rw [validateResumeCadence_ok h1] at h
  exact applyResume_refused he (Avoids.error_of_bind (fun _ => .pure _) he h)

def ScheduledJobMutation.activatedOwner (s : Store) : ScheduledJobMutation → Option PrincipalKey
  | .create request => some request.owner
  | .resume jobId generation _ => (pausedJob jobId generation s).map fun found => found.1.owner
  | _ => none

def ScheduledJobMutation.activates : ScheduledJobMutation → Bool
  | .create _ | .resume .. => true
  | _ => false

/-- 変更 `m` が稼働させようとした持ち主のジョブが、もう一つで上限を超える。 -/
def ActivationExceeds (policy : Policy) (m : ScheduledJobMutation) (s : Store) : Prop :=
  ∃ owner, m.activatedOwner s = some owner ∧ WouldExceed policy owner s

/-- 上限の誤りは、動かせば上限を超えるときにだけ返る。 -/
theorem applyTypedMutation_refused {m : ScheduledJobMutation} {proof : Option CadenceProofArtifact}
    (hm : m.activates = true) (he : IsActiveLimit e)
    (h : applyTypedMutation E policy m proof s = .error e) : ActivationExceeds policy m s := by
  cases m with
  | create request =>
    obtain ⟨next, _, h1, h⟩ := Avoids.bind_error (.check (avoids_validateCreateRequest request policy)) he h
    rw [(Tx.check_ok.mp h1).2] at h
    obtain ⟨proof, _, h2, h⟩ := Avoids.bind_error (.orElseFail (not_isActiveLimit_invalid _)) he h
    rw [(Tx.orElseFail_ok.mp h2).2] at h
    exact ⟨request.owner, rfl, insert_refused he h⟩
  | resume jobId generation now =>
    obtain ⟨_, _, h1, h⟩ := Avoids.bind_error (.check (avoids_validateLifecycleMutation _ _)) he h
    rw [(Tx.check_ok.mp h1).2] at h
    obtain ⟨proof, _, h2, h⟩ := Avoids.bind_error (.orElseFail (not_isActiveLimit_invalid _)) he h
    rw [(Tx.orElseFail_ok.mp h2).2] at h
    obtain ⟨job, row, hfound, hexceed⟩ := applyResume_refused he h
    refine ⟨job.owner, ?_, hexceed⟩
    simp only [ScheduledJobMutation.activatedOwner, hfound, Option.map_some]
  | update request => cases hm
  | pause jobId generation now => cases hm
  | delete jobId generation now => cases hm

/-- 識別子つきの適用を上限で拒むのは、変更そのものである。識別子の記録は、持ち主のジョブを変えない。 -/
theorem applyPrevalidatedMutation_refused {m : ScheduledJobMutation} {k : ScheduleMutationIdempotency}
    {audit : Option ScheduleMutationAudit} {proof : Option CadenceProofArtifact}
    (hm : m.activates = true) (he : IsActiveLimit e)
    (h : applyPrevalidatedMutation E policy m k audit proof s = .error e) :
    ActivationExceeds policy m s := by
  unfold applyPrevalidatedMutation at h
  obtain ⟨decision, t, h1, h⟩ := Avoids.bind_error (avoids_claimIdempotency _ _ _ _ _ _) he h
  obtain ⟨rfl, K, _, rfl⟩ | ⟨hne, rfl⟩ := claimIdempotency_ok h1
  · have htyped := Avoids.error_of_bind (fun _ => .bind (avoids_insertOptionalMutationAudit audit)
      fun _ => .bind (avoids_completeIdempotency _ _ _ _) fun _ => .pure _) he h
    have hexceeds : ActivationExceeds policy m { s with idempotency := K } :=
      applyTypedMutation_refused hm he htyped
    cases m <;> exact hexceeds
  · cases decision with
    | claimed => exact absurd rfl hne
    | replay response => cases h
    | inProgress => cases h
    | conflict => cases h

theorem applyIdempotent_refused {m : ScheduledJobMutation} {k : ScheduleMutationIdempotency}
    {audit : Option ScheduleMutationAudit} (hm : m.activates = true) (he : IsActiveLimit e)
    (h : applyIdempotentScheduleMutationWithAudit E policy m k audit s = .error e) :
    ActivationExceeds policy m s := by
  rw [applyIdempotent_eq] at h
  obtain ⟨_, _, h1, h⟩ := Avoids.bind_error (.check (avoids_validateMutationIdempotency m k)) he h
  rw [(Tx.check_ok.mp h1).2] at h
  obtain ⟨_, _, h2, h⟩ := Avoids.bind_error (.check (avoids_validateOptionalMutationAudit m k audit)) he h
  rw [(Tx.check_ok.mp h2).2] at h
  obtain ⟨proof, t, h3, h⟩ := Avoids.bind_error (avoids_prevalidateScheduleMutation m) he h
  rw [prevalidateScheduleMutation_ok h3] at h
  exact applyPrevalidatedMutation_refused hm he h

end Codeoff.State
