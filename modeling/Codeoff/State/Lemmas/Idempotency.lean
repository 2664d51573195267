import Codeoff.State.Lemmas.System

/-!
# 適用の記録と再適用

適用が終わると完了の記録が残り、どの操作もそれを消さない。
-/

namespace Codeoff.State

open Codeoff.Core Codeoff.Relational

variable {E : Env} {s s' : Store} {policy : Policy} {mutation : ScheduledJobMutation}
  {idempotency : ScheduleMutationIdempotency} {audit : Option ScheduleMutationAudit}

def Prevalidates (E : Env) (policy : Policy) (s : Store) : ScheduledJobMutation → Prop
  | .create request => (∃ next, validateCreateRequest E request policy = .ok next) ∧
      ∃ proof, generateCadenceProof E request.schedule request.now policy = .ok proof
  | .update request => validateUpdateRequest request policy = .ok () ∧
      ∃ proof, generateCadenceProof E request.schedule request.now policy = .ok proof
  | .resume jobId generation now => validateLifecycleMutation jobId generation = .ok () ∧
      ∃ job row spec proof, pausedJob jobId generation s = some (job, row) ∧
        scheduleFromRow E row = .ok spec ∧ generateCadenceProof E spec now policy = .ok proof
  | .pause jobId generation _ => validateLifecycleMutation jobId generation = .ok ()
  | .delete jobId generation _ => validateLifecycleMutation jobId generation = .ok ()

theorem validateResumeCadence_commits {jobId : String} {generation now : Int} :
    (∃ proof, validateResumeCadence E policy jobId generation now s = .ok (proof, s)) ↔
      ∃ job row spec proof, pausedJob jobId generation s = some (job, row) ∧
        scheduleFromRow E row = .ok spec ∧ generateCadenceProof E spec now policy = .ok proof := by
  unfold validateResumeCadence
  constructor
  · rintro ⟨proof, h⟩
    rw [Tx.read_bind_apply] at h
    obtain ⟨⟨job, row⟩, hfound, h⟩ := Tx.orElseFail_bind_ok.mp h
    obtain ⟨spec, hspec, h⟩ := Tx.check_bind_ok.mp h
    exact ⟨job, row, spec, proof, hfound, hspec, (Tx.check_ok.mp h).1⟩
  · rintro ⟨job, row, spec, proof, hfound, hspec, hproof⟩
    refine ⟨proof, ?_⟩
    rw [Tx.read_bind_apply]
    exact Tx.orElseFail_bind_ok.mpr ⟨_, hfound, Tx.check_bind_ok.mpr ⟨spec, hspec,
      Tx.check_ok.mpr ⟨hproof, rfl⟩⟩⟩

/-- 事前の検査が通るのは、要求と状態についての条件が成り立つときに限る。 -/
theorem prevalidates_iff :
    (∃ proof, prevalidateScheduleMutation E policy mutation s = .ok (proof, s)) ↔
      Prevalidates E policy s mutation := by
  cases mutation with
  | create request =>
    constructor
    · rintro ⟨_, h⟩
      obtain ⟨next, hvalid, h⟩ := Tx.check_bind_ok.mp h
      obtain ⟨proof, hproof, _⟩ := Tx.check_bind_ok.mp h
      exact ⟨⟨next, hvalid⟩, proof, hproof⟩
    · rintro ⟨⟨next, hvalid⟩, proof, hproof⟩
      exact ⟨some proof, Tx.check_bind_ok.mpr ⟨next, hvalid, Tx.check_bind_ok.mpr ⟨proof, hproof, rfl⟩⟩⟩
  | update request =>
    constructor
    · rintro ⟨_, h⟩
      obtain ⟨_, hvalid, h⟩ := Tx.check_bind_ok.mp h
      obtain ⟨proof, hproof, _⟩ := Tx.check_bind_ok.mp h
      exact ⟨hvalid, proof, hproof⟩
    · rintro ⟨hvalid, proof, hproof⟩
      exact ⟨some proof, Tx.check_bind_ok.mpr ⟨(), hvalid, Tx.check_bind_ok.mpr ⟨proof, hproof, rfl⟩⟩⟩
  | resume jobId generation now =>
    show _ ↔ validateLifecycleMutation jobId generation = .ok () ∧ _
    rw [← validateResumeCadence_commits]
    constructor
    · rintro ⟨_, h⟩
      obtain ⟨_, hvalid, h⟩ := Tx.check_bind_ok.mp h
      obtain ⟨proof, t, h, _⟩ := Tx.bind_ok.mp h
      rw [validateResumeCadence_ok h] at h
      exact ⟨hvalid, proof, h⟩
    · rintro ⟨hvalid, proof, h⟩
      exact ⟨some proof, Tx.check_bind_ok.mpr ⟨(), hvalid, Tx.bind_ok.mpr ⟨proof, s, h, rfl⟩⟩⟩
  | pause jobId generation now =>
    constructor
    · rintro ⟨_, h⟩
      exact (Tx.check_bind_ok.mp h).choose_spec.1
    · intro hvalid
      exact ⟨none, Tx.check_bind_ok.mpr ⟨(), hvalid, rfl⟩⟩
  | delete jobId generation now =>
    constructor
    · rintro ⟨_, h⟩
      exact (Tx.check_bind_ok.mp h).choose_spec.1
    · intro hvalid
      exact ⟨none, Tx.check_bind_ok.mpr ⟨(), hvalid, rfl⟩⟩

def Admissible (mutation : ScheduledJobMutation) (idempotency : ScheduleMutationIdempotency)
    (audit : Option ScheduleMutationAudit) : Prop :=
  validateMutationIdempotency mutation idempotency = .ok () ∧
    validateOptionalMutationAudit mutation idempotency audit = .ok () ∧ datetimeValid mutation.now = true

/-! ## 完了の記録 -/

def completedKey (operation : String) (idempotency : ScheduleMutationIdempotency) : IdempotencyKeyRow :=
  { claimedKey idempotency.principal operation idempotency.requestId idempotency.digestAlgorithm
      idempotency.requestDigest with
    status := .completed, responseJson := some idempotency.responseJson }

theorem completeIdempotency_ok {operation : String} {now : Int} {u : Unit}
    (h : completeIdempotency idempotency.principal operation idempotency now s = .ok (u, s')) :
    ∃ K : Table idempotencyKeys, completedKey operation idempotency ∈ K.rows ∧
      s' = { s with idempotency := K } := by
  unfold completeIdempotency at h
  obtain ⟨_, h⟩ := Tx.require_bind_ok.mp h
  obtain ⟨n, s1, h1, h⟩ := Tx.bind_ok.mp h
  obtain ⟨K, hK, rfl⟩ := statement_ok.mp h1
  obtain ⟨hupd, rfl⟩ := Table.update_ok.mp hK
  obtain ⟨hone, hs⟩ := Tx.require_ok.mp h
  obtain ⟨row, hrow, hp⟩ := exists_of_countP hone
  have hmem := hupd.mem_image hrow hp
  simp only [Bool.and_eq_true, beq_iff_eq] at hp
  obtain ⟨⟨⟨⟨hscope, hkey⟩, _⟩, halg⟩, hdigest⟩ := hp
  refine ⟨K, ?_, hs⟩
  have hrecord : ({ row with status := .completed, responseJson := some idempotency.responseJson } :
      IdempotencyKeyRow) = completedKey operation idempotency := by
    simp [completedKey, claimedKey, ← hscope, ← hkey, ← halg, ← hdigest]
  exact hrecord ▸ hmem

/-- ジョブがあり、その世代は `generation` より進んでいる。 -/
def GenerationPast (jobId : String) (generation : Int) (s : Store) : Prop :=
  ∃ j ∈ s.jobs.rows, j.jobId = jobId ∧ generation < j.generation

def ResumePast (s : Store) : ScheduledJobMutation → Prop
  | .resume jobId generation _ => GenerationPast jobId generation s
  | _ => True

theorem applyTypedMutation_resumePast {proof : Option CadenceProofArtifact} {u : Unit}
    (h : applyTypedMutation E policy mutation proof s = .ok (u, s')) : ResumePast s' mutation := by
  cases mutation with
  | resume jobId generation now =>
    obtain ⟨_, _, h⟩ := Tx.check_bind_ok.mp h
    obtain ⟨_, _, h⟩ := Tx.orElseFail_bind_ok.mp h
    obtain ⟨job, _, _, _, J, C, ⟨hid, hgen, _⟩, _, _, _, hJ, _, rfl⟩ := applyResume_ok h
    refine ⟨_, hJ.mem.mpr (.inl rfl), hid, ?_⟩
    simp only [resumedJob]
    omega
  | _ => trivial

theorem ResumePast.of_jobs (hjobs : s'.jobs = s.jobs) (h : ResumePast s mutation) :
    ResumePast s' mutation := by
  cases mutation with
  | resume jobId generation now =>
    unfold ResumePast GenerationPast
    rw [hjobs]
    exact h
  | _ => trivial

theorem insertOptionalMutationAudit_ok {u : Unit}
    (h : insertOptionalMutationAudit audit s = .ok (u, s')) : ∃ T, s' = { s with audit := T } := by
  cases audit with
  | none =>
    cases h
    exact ⟨s.audit, rfl⟩
  | some audit =>
    have hinsert : insertMutationAudit audit s = .ok (u, s') := h
    obtain ⟨T, _, rfl⟩ := statement_ok.mp hinsert
    exact ⟨T, rfl⟩

theorem applyClaimedMutation_ok {proof : Option CadenceProofArtifact} {outcome : TransactionalMutationOutcome}
    (h : applyClaimedMutation E policy mutation idempotency audit proof s = .ok (outcome, s')) :
    ∃ t T K, applyTypedMutation E policy mutation proof s = .ok ((), t) ∧
      outcome = .applied idempotency.responseJson ∧
      completedKey mutation.operation idempotency ∈ K.rows ∧
      s' = { t with audit := T, idempotency := K } := by
  obtain ⟨_, t, htyped, h⟩ := Tx.bind_ok.mp h
  obtain ⟨_, s2, haudit, h⟩ := Tx.bind_ok.mp h
  obtain ⟨_, s3, hcomplete, h⟩ := Tx.bind_ok.mp h
  cases h
  obtain ⟨T, rfl⟩ := insertOptionalMutationAudit_ok haudit
  obtain ⟨K, hrow, rfl⟩ := completeIdempotency_ok hcomplete
  exact ⟨t, T, K, htyped, rfl, hrow, rfl⟩

theorem applyIdempotent_eq (mutation : ScheduledJobMutation) (idempotency : ScheduleMutationIdempotency)
    (audit : Option ScheduleMutationAudit) :
    applyIdempotentScheduleMutationWithAudit E policy mutation idempotency audit = (do
      Tx.check (validateMutationIdempotency mutation idempotency)
      Tx.check (validateOptionalMutationAudit mutation idempotency audit)
      let proof ← prevalidateScheduleMutation E policy mutation
      applyPrevalidatedMutation E policy mutation idempotency audit proof) := rfl

/-- 適用した要求は、鍵に答えを残す。 -/
theorem applied_completes {response : String}
    (h : applyIdempotentScheduleMutationWithAudit E policy mutation idempotency audit s =
      .ok (.applied response, s')) :
    response = idempotency.responseJson ∧
      completedKey mutation.operation idempotency ∈ s'.idempotency.rows ∧ ResumePast s' mutation := by
  unfold applyIdempotentScheduleMutationWithAudit at h
  obtain ⟨_, _, h⟩ := Tx.check_bind_ok.mp h
  obtain ⟨_, _, h⟩ := Tx.check_bind_ok.mp h
  obtain ⟨proof, s1, _, h⟩ := Tx.bind_ok.mp h
  obtain ⟨decision, s2, _, h⟩ := Tx.bind_ok.mp h
  cases decision with
  | replay r => cases h
  | inProgress => cases h
  | conflict => cases h
  | claimed =>
    obtain ⟨t, T, K, htyped, houtcome, hrow, rfl⟩ := applyClaimedMutation_ok h
    cases houtcome
    exact ⟨rfl, hrow, (applyTypedMutation_resumePast htyped).of_jobs rfl⟩

variable {now : Int} {k : Origin}

theorem completed_persists {row : IdempotencyKeyRow} (hrow : row ∈ s.idempotency.rows)
    (hdone : row.status = .completed) (h : Effect E now k s s') : row ∈ s'.idempotency.rows := by
  cases h with
  | aside same =>
    rw [same.idempotency]
    exact hrow
  | keyed kept => exact kept row hrow hdone
  | _ => exact hrow

theorem GenerationPast.replaces {jobId : String} {generation : Int} {a b : ScheduledJobRow}
    {J : Table scheduledJobs} (hI : GenerationPast jobId generation s) (hJ : s.jobs.Replaces a b J)
    (hid : b.jobId = a.jobId) (hgen : a.generation ≤ b.generation) :
    ∃ j ∈ J.rows, j.jobId = jobId ∧ generation < j.generation := by
  obtain ⟨j, hj, hjid, hjgen⟩ := hI
  by_cases hja : j = a
  · subst hja
    exact ⟨b, hJ.mem.mpr (.inl rfl), hid.trans hjid, by omega⟩
  · exact ⟨j, hJ.mem.mpr (.inr ⟨hj, hja⟩), hjid, hjgen⟩

theorem GenerationPast.step {jobId : String} {generation : Int} (hI : GenerationPast jobId generation s)
    (h : Effect E now k s s') : GenerationPast jobId generation s' := by
  cases h with
  | aside same =>
    unfold GenerationPast
    rw [same.jobs]
    exact hI
  | created time valid jobs schedules targets baselines =>
    obtain ⟨j, hj, hgen⟩ := hI
    exact ⟨j, jobs.mem.mpr (.inl hj), hgen⟩
  | updated time valid found jobId generation next jobs cancels schedules targets =>
    exact hI.replaces jobs rfl (by simp only [updatedJob]; omega)
  | stopped becomes jobs cancels schedules =>
    exact hI.replaces jobs rfl (by simp only [inactiveJob]; omega)
  | resumed paused found jobId readable occurs jobs schedules =>
    exact hI.replaces jobs rfl (by simp only [resumedJob]; omega)
  | materialized found active schedule rowId nextRunAt overdue readable coalesced baselines owner runs
      advances =>
      cases advances with
      | next hnext hC => exact hI
      | last hnext hC hJ =>
        obtain ⟨j, hj, hid, hgen⟩ := hI
        rcases hJ.kept hj with hj | hj
        · exact ⟨_, hj, hid, hgen⟩
        · exact ⟨j, hj, hid, hgen⟩
  | _ => exact hI

theorem completed_persists_path {row : IdempotencyKeyRow} (hrow : row ∈ s.idempotency.rows)
    (hdone : row.status = .completed) (h : Relation.ReflTransGen (Step E) s s') :
    row ∈ s'.idempotency.rows := by
  refine invariant_of_steps (I := fun t => row ∈ t.idempotency.rows) ?_ hrow h
  rintro a b ha ⟨op, rfl⟩
  exact invariant_of_steps (I := fun t => row ∈ t.idempotency.rows)
    (fun _ _ hI heffect => completed_persists hI hdone heffect) ha (op.apply_effects a)

theorem ResumePast.steps (hresume : ResumePast s mutation) (h : Relation.ReflTransGen (Step E) s s') :
    ResumePast s' mutation := by
  refine invariant_of_steps (I := fun t => ResumePast t mutation) ?_ hresume h
  rintro a b ha ⟨op, rfl⟩
  refine invariant_of_steps (I := fun t => ResumePast t mutation) ?_ ha (op.apply_effects a)
  intro c d hc heffect
  cases mutation with
  | resume jobId generation now => exact GenerationPast.step hc heffect
  | _ => trivial

/-! ## 完了の記録からの答え -/

def recordedOutcome (row : IdempotencyKeyRow) (idempotency : ScheduleMutationIdempotency)
    (response : String) : TransactionalMutationOutcome :=
  if row.requestDigest = idempotency.requestDigest ∧ row.digestAlgorithm = idempotency.digestAlgorithm then
    .replay response
  else .conflict

theorem claimIdempotency_recorded {row : IdempotencyKeyRow} {operation : String} {now : Int}
    {response : String} (hrow : row ∈ s.idempotency.rows)
    (hscope : row.scope = canonicalIdempotencyScope idempotency.principal operation)
    (hkey : row.key = idempotency.requestId) (hdone : row.status = .completed)
    (hresponse : row.responseJson = some response) (hnow : datetimeValid now = true) :
    claimIdempotency idempotency.principal operation idempotency.requestId idempotency.digestAlgorithm
        idempotency.requestDigest now s =
      .ok (if row.requestDigest = idempotency.requestDigest ∧
          row.digestAlgorithm = idempotency.digestAlgorithm then .replay response else .conflict, s) := by
  have hcheck : idempotencyKeys.check (claimedKey idempotency.principal operation idempotency.requestId
      idempotency.digestAlgorithm idempotency.requestDigest) = true := by
    have := s.idempotency.checked row hrow
    simpa [idempotencyKeys, claimedKey, hscope, hkey] using this
  have hconflict : idempotencyKeys.conflict (claimedKey idempotency.principal operation
      idempotency.requestId idempotency.digestAlgorithm idempotency.requestDigest) row = true := by
    simp [idempotencyKeys, claimedKey, hscope, hkey]
  have hinsert : s.idempotency.insertOrIgnore noInsertTrigger (claimedKey idempotency.principal operation
      idempotency.requestId idempotency.digestAlgorithm idempotency.requestDigest) =
        .ok (s.idempotency, 0) :=
    Table.insertOrIgnore_ok.mpr ⟨hcheck, .inl ⟨rfl, rfl, row, hrow, hconflict⟩⟩
  have hfind : s.idempotency.rows.find? (fun r => r.scope ==
      canonicalIdempotencyScope idempotency.principal operation && r.key == idempotency.requestId) =
      some row := by
    cases hfound : s.idempotency.rows.find? (fun r => r.scope ==
        canonicalIdempotencyScope idempotency.principal operation && r.key == idempotency.requestId) with
    | none =>
      have := List.find?_eq_none.mp hfound row hrow
      simp [hscope, hkey] at this
    | some o =>
      have ho := List.find?_some hfound
      simp only [Bool.and_eq_true, beq_iff_eq] at ho
      rw [s.idempotency.eq_of_conflict (List.mem_of_find?_eq_some hfound) hrow
        (by simp [idempotencyKeys, ho.1, ho.2, hscope, hkey])]
  unfold claimIdempotency
  refine Tx.require_bind_ok.mpr ⟨hnow, ?_⟩
  refine Tx.bind_ok.mpr ⟨0, s, statement_ok.mpr ⟨s.idempotency, hinsert, rfl⟩, ?_⟩
  show readIdempotencyDecision _ _ _ _ s = _
  unfold readIdempotencyDecision
  rw [Tx.read_bind_apply, hfind]
  refine Tx.orElseFail_bind_ok.mpr ⟨row, rfl, ?_⟩
  by_cases hsame : row.requestDigest = idempotency.requestDigest ∧
      row.digestAlgorithm = idempotency.digestAlgorithm
  · rw [if_pos hsame]
    simp [hsame.1, hsame.2, hdone, hresponse]
  · rw [if_neg hsame]
    have hdiffer : (row.requestDigest != idempotency.requestDigest
        || row.digestAlgorithm != idempotency.digestAlgorithm) = true := by
      simpa [imp_iff_not_or] using hsame
    simp [hdiffer]

/-- 答えの残る鍵の要求は、事前の検査を通れば、その答えを返すだけで何も書かない。 -/
theorem applyIdempotent_recorded {row : IdempotencyKeyRow} {response : String}
    (hrow : row ∈ s.idempotency.rows)
    (hscope : row.scope = canonicalIdempotencyScope idempotency.principal mutation.operation)
    (hkey : row.key = idempotency.requestId) (hdone : row.status = .completed)
    (hresponse : row.responseJson = some response) {outcome : TransactionalMutationOutcome} :
    applyIdempotentScheduleMutationWithAudit E policy mutation idempotency audit s = .ok (outcome, s') ↔
      Admissible mutation idempotency audit ∧ Prevalidates E policy s mutation ∧
        outcome = recordedOutcome row idempotency response ∧ s' = s := by
  have hclaim := fun hnow : datetimeValid mutation.now = true =>
    claimIdempotency_recorded hrow hscope hkey hdone hresponse hnow
  unfold applyIdempotentScheduleMutationWithAudit
  rw [Tx.check_bind_ok]
  constructor
  · rintro ⟨_, hidem, h⟩
    obtain ⟨_, haudit, h⟩ := Tx.check_bind_ok.mp h
    obtain ⟨proof, s1, hpre, hrest⟩ := Tx.bind_ok.mp h
    have hs := prevalidateScheduleMutation_ok hpre
    subst hs
    obtain ⟨decision, s2, hdecision, h⟩ := Tx.bind_ok.mp hrest
    have hnow : datetimeValid mutation.now = true := (Tx.require_bind_ok.mp hdecision).1
    rw [hclaim hnow] at hdecision
    obtain ⟨rfl, rfl⟩ := Prod.mk.inj (Except.ok.inj hdecision)
    refine ⟨⟨hidem, haudit, hnow⟩, prevalidates_iff.mp ⟨proof, hpre⟩, ?_⟩
    unfold recordedOutcome
    by_cases hsame : row.requestDigest = idempotency.requestDigest ∧
        row.digestAlgorithm = idempotency.digestAlgorithm
    · rw [if_pos hsame] at h ⊢
      cases h
      exact ⟨rfl, rfl⟩
    · rw [if_neg hsame] at h ⊢
      cases h
      exact ⟨rfl, rfl⟩
  · rintro ⟨⟨hidem, haudit, hnow⟩, hpre, rfl, rfl⟩
    obtain ⟨proof, hpre⟩ := prevalidates_iff.mpr hpre
    refine ⟨(), hidem, Tx.check_bind_ok.mpr ⟨(), haudit, Tx.bind_ok.mpr ⟨proof, _, hpre, ?_⟩⟩⟩
    refine Tx.bind_ok.mpr ⟨_, _, hclaim hnow, ?_⟩
    unfold recordedOutcome
    by_cases hsame : row.requestDigest = idempotency.requestDigest ∧
        row.digestAlgorithm = idempotency.digestAlgorithm
    · rw [if_pos hsame, if_pos hsame]
      rfl
    · rw [if_neg hsame, if_neg hsame]
      rfl

end Codeoff.State
