import Codeoff.Runtime.Lemmas.ScheduleService
import Codeoff.State.Theorems.Lifecycle

/-!
# 応答が本当のことを言うか

応答は、トランザクションの前に読んだジョブの写しから作る。
-/

namespace Codeoff.Runtime

open Codeoff.Core Codeoff.Json Codeoff.Relational Codeoff.State

variable {E : Env} {policy : Policy} {proof : Option CadenceProofArtifact} {s t : Store}

def reportsNextRun : ScheduledJobMutation → Bool
  | .create _ => true
  | .update _ => true
  | .resume .. => true
  | .pause .. => false
  | .delete .. => false

def Describes (v : Value) (mutation : ScheduledJobMutation) (s : Store) : Prop :=
  ∃ job ∈ s.jobs.rows, job.jobId = mutation.jobId ∧
    v.pointer ["data", "job_id"] = some (.str job.jobId) ∧
    v.pointer ["data", "status"] = some (.str job.status.asStr) ∧
    v.pointer ["data", "generation"] = some (.int job.generation) ∧
    (reportsNextRun mutation = true → ∃ row ∈ s.schedules.rows, row.jobId = job.jobId ∧
      v.pointer ["data", "next_run_at"] = some (.ofOption (row.nextRunAt.map .int)))

def Truthful (response : String) (mutation : ScheduledJobMutation) (s : Store) : Prop :=
  ∃ v, parse response = some v ∧ Describes v mutation s

/-- 予定の行の、`now` より後の最初の発生時刻。 -/
def nextOccurrence (E : Env) (row : ScheduleRow) (now : Int) : Option Int :=
  (scheduleFromRow E row).toOption.bind fun spec => (spec.nextAfter E.cron now).toOption

/-- 写しを読んだときからトランザクションまで、応答を決めるものが変わっていない。 -/
def SnapshotCurrent (E : Env) (read before : Store) : ScheduledJobMutation → Prop
  | .create _ => True
  | .update request => ∀ j ∈ read.jobs.rows, ∀ j' ∈ before.jobs.rows, j.jobId = request.jobId →
      j'.jobId = request.jobId → j.status = j'.status
  | .pause .. => True
  | .resume jobId _ now => ∀ r ∈ read.schedules.rows, ∀ r' ∈ before.schedules.rows, r.jobId = jobId →
      r'.jobId = jobId → nextOccurrence E r now = nextOccurrence E r' now
  | .delete .. => True

theorem asStr_injective {a b : ScheduledJobStatus} (h : a.asStr = b.asStr) : a = b := by
  cases a <;> cases b <;> first | rfl | (revert h; decide)

theorem ofOption_int_injective {a b : Option Int}
    (h : Value.ofOption (a.map .int) = Value.ofOption (b.map .int)) : a = b := by
  cases a <;> cases b <;> simp_all [Value.ofOption]

theorem nextOccurrence_eq {row : ScheduleRow} {spec : ScheduleSpec} {now next : Int}
    (hspec : scheduleFromRow E row = .ok spec) (hnext : spec.nextAfter E.cron now = .ok next) :
    nextOccurrence E row now = some next := by
  simp [nextOccurrence, hspec, hnext, Except.toOption]

/-! ## 変更ごとの応答 -/

section Mutations

variable {targets : List DeliveryTargetSnapshot} {u : Unit}

theorem validateCreateRequest_next {create : CreateScheduledJob} {next : Int}
    (h : validateCreateRequest E create policy = .ok next) :
    create.schedule.firstAfterCreate E.cron create.now = .ok next := by
  unfold validateCreateRequest at h
  obtain ⟨_, _, h⟩ := except_bind_ok.mp h
  obtain ⟨_, _, h⟩ := except_bind_ok.mp h
  obtain ⟨_, _, h⟩ := except_bind_ok.mp h
  obtain ⟨_, _, h⟩ := except_bind_ok.mp h
  obtain ⟨_, _, h⟩ := except_bind_ok.mp h
  obtain ⟨_, _, h⟩ := except_bind_ok.mp h
  obtain ⟨_, _, h⟩ := except_bind_ok.mp h
  obtain ⟨_, _, h⟩ := except_bind_ok.mp h
  obtain ⟨_, _, h⟩ := except_bind_ok.mp h
  exact invalidOccurrence_ok.mp h

theorem create_describes {create : CreateScheduledJob} {next : Int}
    (hnext : create.schedule.firstAfterCreate E.cron create.now = .ok next)
    (h : applyTypedMutation E policy (.create create) proof s = .ok (u, t)) :
    Describes (mutationResponse create.jobId "active" 0 (some next) targets) (.create create) t := by
  obtain ⟨next', hvalid, h⟩ := Tx.check_bind_ok.mp h
  obtain ⟨artifact, _, h⟩ := Tx.orElseFail_bind_ok.mp h
  obtain ⟨_, s1, hlimits, h⟩ := Tx.bind_ok.mp h
  rw [enforceActiveJobLimits_ok hlimits] at h
  have hsame : next' = next := by
    have hnext' := validateCreateRequest_next hvalid
    rw [hnext] at hnext'
    cases hnext'
    rfl
  rw [hsame] at h
  unfold insertScheduledJob at h
  obtain ⟨_, _, h⟩ := Tx.check_bind_ok.mp h
  obtain ⟨_, s2, hjob, h⟩ := Tx.bind_ok.mp h
  obtain ⟨J, hJ, rfl⟩ := insertJob_ok.mp hjob
  obtain ⟨_, s3, hschedule, h⟩ := Tx.bind_ok.mp h
  obtain ⟨C, hC, rfl⟩ := insertSchedule_ok.mp hschedule
  obtain ⟨_, s4, htargets, h⟩ := Tx.bind_ok.mp h
  obtain ⟨T, _, rfl⟩ := replaceDeliveryTargets_ok htargets
  obtain ⟨B, _, rfl⟩ := insertBaseline_ok.mp h
  refine ⟨createdJob create policy, hJ.mem.mpr (.inr rfl), rfl, response_jobId, response_status,
    response_generation, fun _ => ?_⟩
  exact ⟨createdSchedule create next, hC.mem.mpr (.inr rfl), rfl, response_nextRunAt⟩

theorem update_describes_iff {update : UpdateScheduledJob} {job : ScheduledJobRow} {next : Option Int}
    (hnext : (job.status = .active ∧ ∃ at_, next = some at_ ∧
        update.schedule.firstAfterCreate E.cron update.now = .ok at_) ∨ (job.status ≠ .active ∧ next = none))
    (hschedule : HasSchedule update.jobId s)
    (h : applyTypedMutation E policy (.update update) proof s = .ok (u, t)) :
    Describes (mutationResponse update.jobId job.status.asStr (update.expectedGeneration + 1) next targets)
        (.update update) t ↔
      ∀ j ∈ s.jobs.rows, j.jobId = update.jobId → job.status = j.status := by
  obtain ⟨_, _, h⟩ := Tx.check_bind_ok.mp h
  obtain ⟨artifact, _, h⟩ := Tx.orElseFail_bind_ok.mp h
  obtain ⟨row, at_, J, R, A, C, T, hrow, ⟨hid, hgeneration⟩, hoccurs, hJ, _, hC, _, rfl⟩ := applyUpdate_ok h
  constructor
  · rintro ⟨j', hj', hjid', _, hstatus, _⟩ j hj hjid
    have hwritten : j' = updatedJob update policy row := by
      refine J.eq_of_conflict hj' (hJ.mem.mpr (.inl rfl)) ?_
      simp [scheduledJobs, updatedJob, hjid', hid, ScheduledJobMutation.jobId]
    have hold : j = row := s.jobs.eq_of_conflict hj hrow (by simp [scheduledJobs, hjid, hid])
    rw [response_status, hwritten] at hstatus
    rw [hold]
    exact asStr_injective (by simpa [updatedJob] using hstatus)
  · intro hstable
    have hstatus : job.status = row.status := hstable row hrow hid
    refine ⟨updatedJob update policy row, hJ.mem.mpr (.inl rfl), hid, ?_, ?_, ?_, fun _ => ?_⟩
    · simp [updatedJob, hid]
    · simp [updatedJob, hstatus]
    · simp [updatedJob, hgeneration]
    · obtain ⟨r, hr, hrid⟩ := hschedule
      refine ⟨updatedSchedule update at_ r, hC.mem_image hr (by simp [hrid]), hrid.trans hid.symm, ?_⟩
      have hsame : next = at_ := by
        rcases hnext with ⟨hactive, n, rfl, hfirst⟩ | ⟨hinactive, rfl⟩
        · rcases hoccurs with ⟨_, n', rfl, hfirst'⟩ | ⟨hpaused, _⟩
          · rw [hfirst] at hfirst'
            cases hfirst'
            rfl
          · rw [← hstatus, hactive] at hpaused
            cases hpaused
        · rcases hoccurs with ⟨hactive, _⟩ | ⟨_, rfl⟩
          · exact absurd (hstatus.trans hactive) hinactive
          · rfl
      simp [updatedSchedule, hsame]

theorem stop_describes {jobId : String} {generation now : Int} (status : InactiveStatus) {next : Option Int}
    {m : ScheduledJobMutation} (hid : m.jobId = jobId) (hreports : reportsNextRun m = false)
    (h : applyInactive jobId generation status now s = .ok (u, t)) :
    Describes (mutationResponse jobId status.status.asStr (generation + 1) next targets) m t := by
  obtain ⟨job, J, R, A, C, ⟨hjid, hgeneration⟩, _, hJ, _, _, rfl⟩ := applyInactive_ok h
  refine ⟨inactiveJob status now job, hJ.mem.mpr (.inl rfl), hjid.trans hid.symm, ?_, ?_, ?_, ?_⟩
  · simp [inactiveJob, hjid]
  · simp [inactiveJob]
  · simp [inactiveJob, hgeneration]
  · simp [hreports]

/-- 写しの予定と保存した予定の次の発生時刻が同じならば、再開の応答は書いた行を言い表し、違えば言い表さない。 -/
theorem resume_describes_iff {jobId : String} {generation now next : Int}
    (h : applyTypedMutation E policy (.resume jobId generation now) proof s = .ok (u, t)) :
    Describes (mutationResponse jobId "active" (generation + 1) (some next) targets)
        (.resume jobId generation now) t ↔
      ∀ r ∈ s.schedules.rows, r.jobId = jobId → some next = nextOccurrence E r now := by
  obtain ⟨_, _, h⟩ := Tx.check_bind_ok.mp h
  obtain ⟨artifact, _, h⟩ := Tx.orElseFail_bind_ok.mp h
  obtain ⟨job, row, spec, at_, J, C, ⟨hid, hgeneration, _⟩, ⟨hrow, hrid⟩, hspec, hat, hJ, hC, rfl⟩ :=
    applyResume_ok h
  have honly : ∀ r ∈ s.schedules.rows, r.jobId = jobId → r = row := by
    intro r hr hrjob
    exact s.schedules.eq_of_conflict hr hrow (by simp [schedules, hrjob, hrid, hid])
  have hwritten : resumedSchedule at_ now row ∈ C.rows := hC.mem_image hrow (by simp [hrid])
  have hoccurs : nextOccurrence E row now = some at_ := nextOccurrence_eq hspec hat
  constructor
  · rintro ⟨j', _, hjid', _, _, _, hreports⟩ r hr hrjob
    obtain ⟨r', hr', hrid', hvalue⟩ := hreports rfl
    have hsame : r' = resumedSchedule at_ now row := by
      refine C.eq_of_conflict hr' hwritten ?_
      simp [schedules, resumedSchedule, hrid', hjid', hrid, hid, ScheduledJobMutation.jobId]
    rw [response_nextRunAt, hsame] at hvalue
    rw [honly r hr hrjob, hoccurs]
    exact ofOption_int_injective (Option.some.inj hvalue)
  · intro hstable
    have hsame : next = at_ := by
      have hnext := hstable row hrow (hrid.trans hid)
      rw [hoccurs] at hnext
      exact Option.some.inj hnext
    refine ⟨resumedJob policy now job, hJ.mem.mpr (.inl rfl), hid, ?_, ?_, ?_, fun _ => ?_⟩
    · simp [resumedJob, hid]
    · simp [resumedJob, ScheduledJobStatus.asStr]
    · simp [resumedJob, hgeneration]
    · exact ⟨_, hwritten, hrid, by simp [resumedSchedule, hsame]⟩

end Mutations

/-! ## 適用された呼び出し -/

section Calls

variable {service : ScheduleService} {request : ScheduleRequest} (call : AppliedCall service request)

/-- 適用された呼び出しは、その文面を応答とし、変更のほかに監査と完了の記録だけを書いている。 -/
theorem AppliedCall.applied : call.response = call.prepared.idempotency.responseJson ∧ ∃ K t T K',
    applyTypedMutation service.env service.policy call.prepared.mutation call.proof
      { call.before with idempotency := K } = .ok ((), t) ∧
    completedKey call.prepared.mutation.operation call.prepared.idempotency ∈ K'.rows ∧
    call.after = { t with audit := T, idempotency := K' } := by
  obtain ⟨houtcome, hwritten⟩ | ⟨hnot, _⟩ := applyPrevalidatedMutation_ok (commit_eq_ok.mp call.applies)
  · injection houtcome with hresponse
    exact ⟨hresponse, hwritten⟩
  · exact absurd rfl (hnot call.response)

theorem AppliedCall.path : Interleaves service.env call.read call.before :=
  call.toTargetsRead.trans (call.toChecked.trans call.toBefore)

theorem hasSchedule_snapshot {s : Store} {jobId : String} {job : ScheduledJobRow} {row : ScheduleRow}
    {current : ScheduledJob} (h : IsSnapshot E s jobId job row current) : HasSchedule jobId s :=
  ⟨row, h.stored.2, h.keyed.2⟩

/-- 書いた行を応答が言い表すのは、写しが応答を決めるものについて古くないとき、そのときに限る。 -/
theorem AppliedCall.describes_iff :
    Describes call.prepared.response call.prepared.mutation call.after ↔
      SnapshotCurrent service.env call.read call.before call.prepared.mutation := by
  obtain ⟨_, K, t, T, K', htyped, _, hafter⟩ := call.applied
  have hsame : Describes call.prepared.response call.prepared.mutation call.after ↔
      Describes call.prepared.response call.prepared.mutation t := by
    rw [hafter]
    exact Iff.rfl
  rw [hsame]
  have hprepares := call.prepares
  cases request with
  | create create =>
    obtain ⟨create, next, targets, hmutation, hnext, hresponse⟩ := prepareCreate_ok hprepares
    rw [hmutation] at htyped ⊢
    rw [hresponse]
    exact iff_of_true (create_describes hnext htyped) trivial
  | update update =>
    obtain ⟨update, job, row, current, next, targets, hmutation, hsnapshot, hnext, hresponse⟩ :=
      prepareUpdate_ok hprepares
    have hbefore : HasSchedule update.jobId call.before :=
      (hasSchedule_snapshot hsnapshot).steps call.path.steps
    have hschedule : HasSchedule update.jobId { call.before with idempotency := K } := hbefore
    rw [hmutation] at htyped ⊢
    rw [hresponse, update_describes_iff hnext hschedule htyped]
    constructor
    · intro hstable j hj j' hj' hid hid'
      have hread : j = job := call.read.jobs.eq_of_conflict hj hsnapshot.stored.1
        (by simp [scheduledJobs, hid, hsnapshot.keyed.1])
      rw [hread]
      exact hstable j' hj' hid'
    · intro hcurrent j hj hid
      exact hcurrent job hsnapshot.stored.1 j hj hsnapshot.keyed.1 hid
  | lifecycle operation request =>
    obtain ⟨job, row, current, status, next, targets, hsnapshot, houtcome, hmutation, hresponse⟩ :=
      prepareLifecycle_ok hprepares
    rw [hmutation] at htyped ⊢
    rw [hresponse]
    cases operation with
    | pause =>
      obtain ⟨rfl, rfl⟩ := Prod.mk.inj (Except.ok.inj houtcome)
      simp only [ScheduleService.lifecycleMutation] at htyped ⊢
      obtain ⟨_, _, hstop⟩ := Tx.check_bind_ok.mp htyped
      exact iff_of_true (stop_describes .paused rfl rfl hstop) trivial
    | delete =>
      obtain ⟨rfl, rfl⟩ := Prod.mk.inj (Except.ok.inj houtcome)
      simp only [ScheduleService.lifecycleMutation] at htyped ⊢
      obtain ⟨_, _, hstop⟩ := Tx.check_bind_ok.mp htyped
      exact iff_of_true (stop_describes .deleted rfl rfl hstop) trivial
    | resume =>
      simp only [ScheduleService.lifecycleOutcome] at houtcome
      cases hnext : service.snapshotResumeAt current request.now with
      | error e =>
        rw [hnext] at houtcome
        cases houtcome
      | ok at_ =>
        rw [hnext] at houtcome
        cases houtcome
        have hread : nextOccurrence service.env row request.now = some at_ :=
          nextOccurrence_eq hsnapshot.schedule (snapshotResumeAt_ok hnext)
        simp only [ScheduleService.lifecycleMutation] at htyped ⊢
        rw [resume_describes_iff htyped]
        constructor
        · intro hstable r hr r' hr' hid hid'
          have honly : r = row := call.read.schedules.eq_of_conflict hr hsnapshot.stored.2
            (by simp [schedules, hid, hsnapshot.keyed.2])
          rw [honly, hread]
          exact hstable r' hr' hid'
        · intro hcurrent r hr hid
          rw [← hread]
          exact hcurrent row hsnapshot.stored.2 r hr hsnapshot.keyed.2 hid

theorem AppliedCall.parses : parse call.response = some call.prepared.response := by
  obtain ⟨hresponse, _⟩ := call.applied
  have hreadable := call.representable
  rw [hresponse]
  have hprepares := call.prepares
  cases request with
  | create create =>
    obtain ⟨_, _, _, _, _, hshape⟩ := prepareCreate_ok hprepares
    rw [hshape] at hreadable ⊢
    exact parse_response (by rw [← hshape]; rfl) hreadable
  | update update =>
    obtain ⟨_, _, _, _, _, _, _, _, _, hshape⟩ := prepareUpdate_ok hprepares
    rw [hshape] at hreadable ⊢
    exact parse_response (by rw [← hshape]; rfl) hreadable
  | lifecycle operation request =>
    obtain ⟨_, _, _, _, _, _, _, _, _, hshape⟩ := prepareLifecycle_ok hprepares
    rw [hshape] at hreadable ⊢
    exact parse_response (by rw [← hshape]; rfl) hreadable

theorem AppliedCall.truthful_iff : Truthful call.response call.prepared.mutation call.after ↔
    SnapshotCurrent service.env call.read call.before call.prepared.mutation := by
  rw [← call.describes_iff]
  constructor
  · rintro ⟨v, hv, hdescribes⟩
    rw [call.parses] at hv
    cases hv
    exact hdescribes
  · exact fun hdescribes => ⟨call.prepared.response, call.parses, hdescribes⟩

/-- 適用された呼び出しの応答が、確定の直後の行を言い表すのは、写しが応答を決めるものについて古くないとき、そのときに
限る。同じ要求の後の呼び出しは、いつでもこの応答を返す。 -/
theorem response_truthful_iff :
    (Truthful call.response call.prepared.mutation call.after ↔
      SnapshotCurrent service.env call.read call.before call.prepared.mutation) ∧
    ∀ later later' policy m k audit proof outcome, Interleaves service.env call.after later →
      m.operation = call.prepared.mutation.operation → k.principal = call.prepared.owner →
      k.requestId = call.prepared.requestId → k.requestDigest = call.prepared.requestDigest →
      k.digestAlgorithm = digestAlgorithm →
      commit (applyPrevalidatedMutation service.env policy m k audit proof) later = (.ok outcome, later') →
      outcome = .replay call.response := by
  refine ⟨call.truthful_iff, ?_⟩
  intro later later' policy m k audit proof outcome hpath hoperation hprincipal hrequest hdigest halg hrun
  obtain ⟨hresponse, K, t, T, K', _, hrow, hafter⟩ := call.applied
  have hstored : completedKey call.prepared.mutation.operation call.prepared.idempotency ∈
      call.after.idempotency.rows := by
    rw [hafter]
    exact hrow
  have hkept := completed_persists_path hstored rfl hpath.steps
  rw [applyPrevalidatedMutation_recorded hkept (by rw [hoperation, hprincipal]; rfl) hrequest.symm rfl rfl
    (commit_eq_ok.mp hrun), hresponse]
  exact if_pos ⟨hdigest.symm, halg.symm⟩

end Calls

/-! ## 具体的な呼び出し -/

def resumeDigest : String := "ccbb016d71ad201a4e5e039d1c0bbafaf6784eb388d3856cbd6d6dda9b683b72"

def resumeTable : List (String × String) :=
  [("\x7b\"expected_generation\":2,\"job_id\":\"j\",\"operation\":\"resume\",\"owner\":\x7b\"kind\":\"user\"," ++
    "\"provider\":\"slack\",\"subject\":\"U1\",\"tenant\":\"T1\"\x7d\x7d", resumeDigest)]

def sampleService : ScheduleService where
  env := envOf resumeTable
  policy := defaultPolicy
  authenticate := .ok samplePrincipal
  authorizeCreate _ := .ok ()
  resolveCapability _ _ := .error .capabilityUnavailable
  resolveTargets _ _ _ := .error .resolverUnavailable

def pausedStore : Store := runOps sampleService.env [.create defaultPolicy sampleCreate, .pause "j" 0 50]

def sampleUpdate : UpdateScheduledJob where
  jobId := "j"
  expectedGeneration := 0
  definition := sampleCreate.definition
  schedule := sampleCreate.schedule
  targets := [sampleTarget]
  capability := sampleCreate.capability
  now := 110

def moveUpdate : UpdateScheduledJob :=
  { sampleUpdate with
    expectedGeneration := 1
    schedule := .fixedInterval 130 60
    now := 55 }

def movedStore : Store := (Op.update defaultPolicy moveUpdate).apply sampleService.env pausedStore

def resumeRequest : LifecycleScheduleRequest := ⟨"r", "j", 2, 60⟩

def pausedSnapshot : ScheduledJob where
  jobId := "j"
  definition := sampleCreate.definition
  creator := samplePrincipal
  owner := samplePrincipal
  capability := sampleCreate.capability
  status := .paused
  generation := 1
  scheduleId := "s"
  scheduleGeneration := 1
  schedule := .fixedInterval 100 60
  nextRunAt := some 100

def resumePrepared : PreparedMutation where
  mutation := .resume "j" 2 60
  owner := samplePrincipal
  requestId := "r"
  requestDigest := resumeDigest
  response := mutationResponse "j" "active" 3 (some 100) [sampleTarget]

def sampleAttempt : ScheduleAuditAttempt := ⟨"audit_1", 0⟩

def resumeProof : Option CadenceProofArtifact := some ⟨.fixedInterval 130 60, defaultPolicy⟩

def resumeTransaction : StoreTx TransactionalMutationOutcome :=
  applyPrevalidatedMutation sampleService.env sampleService.policy resumePrepared.mutation
    resumePrepared.idempotency (some (resumePrepared.audit sampleAttempt)) resumeProof

def isApplied : TransactionalMutationOutcome → Bool
  | .applied _ => true
  | _ => false

theorem resume_evaluates :
    validateRequestId "r" = .ok () ∧
    sampleService.lifecycleOutcome .resume pausedSnapshot 60 = .ok ("active", some 100) ∧
    nextGeneration 2 = .ok 3 ∧
    sampleService.authorizeJob "j" pausedStore = .ok (samplePrincipal, pausedSnapshot) ∧
    getScheduledJobDeliveryTargets "j" pausedStore = .ok [sampleTarget] ∧
    digestJson sampleService.env (lifecycleSemantics .resume samplePrincipal "j" 2) = resumeDigest ∧
    validateIdempotencyRequest "resume" "r" digestAlgorithm resumeDigest = .ok () ∧
    byteLen resumePrepared.idempotency.responseJson ≤ maxSnapshotBytes ∧
    validateOptionalMutationAudit resumePrepared.mutation resumePrepared.idempotency
      (some (resumePrepared.audit sampleAttempt)) = .ok () ∧
    (prevalidateScheduleMutation sampleService.env defaultPolicy resumePrepared.mutation).satisfies movedStore
      (fun proof _ => proof == resumeProof) = true ∧
    resumeTransaction.satisfies movedStore (fun outcome _ => isApplied outcome) = true ∧
    ∃ r ∈ pausedStore.schedules.rows, ∃ r' ∈ movedStore.schedules.rows, (r.jobId = "j" ∧ r'.jobId = "j") ∧
      nextOccurrence sampleService.env r 60 ≠ nextOccurrence sampleService.env r' 60 := by
  decide +kernel

theorem resume_prepares :
    sampleService.prepare (.lifecycle .resume resumeRequest) pausedStore pausedStore = .ok resumePrepared := by
  obtain ⟨hrequest, houtcome, hnext, hjob, htargets, hdigest, _⟩ := resume_evaluates
  have htargets' := orState_ok.mpr htargets
  show sampleService.prepareLifecycle .resume ⟨"r", "j", 2, 60⟩ pausedStore pausedStore = _
  unfold ScheduleService.prepareLifecycle
  simp only [hrequest, hjob, htargets', houtcome, hnext, hdigest, bind, Except.bind, pure, Except.pure]
  simp only [ScheduleService.lifecycleMutation, resumePrepared]

theorem resume_representable : resumePrepared.response.readable maxDepth = true := by decide +kernel

theorem resume_prevalidated : Prevalidated sampleService.env sampleService.policy resumePrepared.mutation
    resumePrepared.idempotency (some (resumePrepared.audit sampleAttempt)) resumeProof movedStore := by
  obtain ⟨_, _, _, _, _, _, hkey, hbound, haudit, hpasses, _⟩ := resume_evaluates
  obtain ⟨proof, after, hpasses, hproof⟩ := Tx.satisfies_iff.mp hpasses
  rw [prevalidateScheduleMutation_ok hpasses, beq_iff_eq.mp hproof] at hpasses
  have hresponse : resumePrepared.idempotency.responseJson =
      canonicalJson (mutationResponse "j" "active" 3 (some 100) [sampleTarget]) := by
    unfold resumePrepared PreparedMutation.idempotency
    exact Eq.refl _
  exact ⟨storable_response hkey hbound hresponse resume_representable, haudit, hpasses⟩

theorem resume_applies : commit resumeTransaction movedStore =
    (.ok (.applied resumePrepared.idempotency.responseJson), (commit resumeTransaction movedStore).2) := by
  obtain ⟨_, _, _, _, _, _, _, _, _, _, hruns, _⟩ := resume_evaluates
  obtain ⟨outcome, after, hruns, happlied⟩ := Tx.satisfies_iff.mp hruns
  obtain ⟨houtcome, _⟩ | ⟨hnot, _⟩ := applyPrevalidatedMutation_ok hruns
  · rw [commit_eq_ok.mpr hruns, houtcome]
  · cases outcome with
    | applied response => exact absurd rfl (hnot response)
    | _ => cases happlied

def resumeCall : AppliedCall sampleService (.lifecycle .resume resumeRequest) where
  prepared := resumePrepared
  attempt := sampleAttempt
  proof := resumeProof
  response := resumePrepared.idempotency.responseJson
  read := pausedStore
  targetsRead := pausedStore
  checked := movedStore
  before := movedStore
  after := (commit resumeTransaction movedStore).2
  reached := runOps_along _ fun op _ _ => .operation ⟨op, rfl⟩
  prepares := resume_prepares
  toTargetsRead := .refl
  toChecked := .single (.operation ⟨.update defaultPolicy moveUpdate, rfl⟩)
  prevalidated := resume_prevalidated
  toBefore := .refl
  applies := resume_applies
  representable := resume_representable

theorem resumeCall_stale : ¬SnapshotCurrent sampleService.env pausedStore movedStore (.resume "j" 2 60) := by
  intro hcurrent
  obtain ⟨_, _, _, _, _, _, _, _, _, _, _, r, hr, r', hr', ⟨hid, hid'⟩, hdiffer⟩ := resume_evaluates
  exact hdiffer (hcurrent r hr r' hr' hid hid')

/-- 更新の前の写しから作った応答は、更新の後の予定と違う次回時刻を言う。 -/
theorem stale_resume_misreports : ¬∀ (service : ScheduleService) (request : ScheduleRequest)
    (call : AppliedCall service request), Truthful call.response call.prepared.mutation call.after := by
  intro htruthful
  have hcurrent := resumeCall.truthful_iff.mp (htruthful sampleService _ resumeCall)
  simp only [resumeCall, resumePrepared] at hcurrent
  exact resumeCall_stale hcurrent

/-- 同じ呼び出しの応答は、書いた行を言い表していない。 -/
theorem resumeCall_misreports :
    ¬Truthful resumeCall.response resumeCall.prepared.mutation resumeCall.after := by
  intro htruthful
  have hcurrent := (response_truthful_iff resumeCall).1.mp htruthful
  simp only [resumeCall, resumePrepared] at hcurrent
  exact resumeCall_stale hcurrent

end Codeoff.Runtime
