import Codeoff.State.Lemmas.Idempotency
import Codeoff.State.Theorems.Lifecycle

/-!
# 要求の識別子による再適用

適用された変更と同じ要求をもう一度受けたとき、記録した応答を返す条件。
-/

namespace Codeoff.State

open Codeoff.Core Codeoff.Relational

variable {E : Env} {policy : Policy} {m : ScheduledJobMutation} {k : ScheduleMutationIdempotency}
  {audit : Option ScheduleMutationAudit} {response : String} {s₀ s₁ s₂ : Store}

def ScheduleMutationIdempotency.SameKey (a b : ScheduleMutationIdempotency) : Prop :=
  a.principal = b.principal ∧ a.requestId = b.requestId

def ScheduleMutationIdempotency.SameDigest (a b : ScheduleMutationIdempotency) : Prop :=
  a.requestDigest = b.requestDigest ∧ a.digestAlgorithm = b.digestAlgorithm

/-- 適用の後でも検査の通る変更。停止と削除はいつでも通り、再開はもう通らない。作成と更新は、新しい時刻でも
予定と内容が受け付けられるときに通る。 -/
def Revalidates (E : Env) (policy : Policy) : ScheduledJobMutation → Prop
  | .create request => (∃ next, validateCreateRequest E request policy = .ok next) ∧
      ∃ proof, generateCadenceProof E request.schedule request.now policy = .ok proof
  | .update request => validateUpdateRequest request policy = .ok () ∧
      ∃ proof, generateCadenceProof E request.schedule request.now policy = .ok proof
  | .resume .. => False
  | .pause .. => True
  | .delete .. => True

theorem ScheduledJobMutation.operation_withNow (m : ScheduledJobMutation) (now : Int) :
    (m.withNow now).operation = m.operation := by
  cases m <;> rfl

theorem GenerationPast.pausedJob_ne {jobId : String} {generation : Int} {s : Store}
    (h : GenerationPast jobId generation s) (job : ScheduledJobRow) (row : ScheduleRow) :
    pausedJob jobId generation s ≠ some (job, row) := by
  intro hfound
  obtain ⟨⟨hjob, hid, _, hgen⟩, _⟩ := pausedJob_eq_some hfound
  obtain ⟨j, hj, hjid, hlt⟩ := h
  have heq : job = j := s.jobs.eq_of_conflict hjob hj (by simp [scheduledJobs, hid, hjid])
  rw [← heq, hgen] at hlt
  omega

theorem applied_prevalidates
    (h : applyIdempotentScheduleMutationWithAudit E policy m k audit s₀ = .ok (.applied response, s₁)) :
    Prevalidates E policy s₀ m := by
  unfold applyIdempotentScheduleMutationWithAudit at h
  obtain ⟨_, _, h⟩ := Tx.check_bind_ok.mp h
  obtain ⟨_, _, h⟩ := Tx.check_bind_ok.mp h
  obtain ⟨proof, s, hpre, h⟩ := Tx.bind_ok.mp h
  rw [prevalidateScheduleMutation_ok hpre] at hpre
  exact prevalidates_iff.mp ⟨proof, hpre⟩

theorem prevalidates_withNow_iff {policy' : Policy} {now : Int}
    (hfirst : Prevalidates E policy s₀ m) (hpast : ResumePast s₂ m) :
    Prevalidates E policy' s₂ (m.withNow now) ↔ Revalidates E policy' (m.withNow now) := by
  cases m with
  | create request => exact Iff.rfl
  | update request => exact Iff.rfl
  | resume jobId generation at_ =>
    refine iff_of_false ?_ id
    rintro ⟨_, job, row, _, _, hfound, _⟩
    exact GenerationPast.pausedJob_ne hpast job row hfound
  | pause jobId generation at_ => exact iff_of_true hfirst trivial
  | delete jobId generation at_ => exact iff_of_true hfirst trivial

/-- 一度適用された変更を、どの操作の列の後でも、時刻だけを変えて同じ要求として受けたとき、記録した応答を返して何も
変えないのは、要求の形が正しく、変更の前の検査が新しい時刻でもう一度通るとき、そのときに限る。要約値の違う要求は、
その変更の検査が通るとき、そのときに限って衝突を返し、何も変えない。 -/
theorem mutation_replays_iff_revalidates
    (hfirst : applyIdempotentScheduleMutationWithAudit E policy m k audit s₀ =
      .ok (.applied response, s₁))
    (hpath : Relation.ReflTransGen (Step E) s₁ s₂) :
    (∀ policy' now k' audit', k'.SameKey k → k'.SameDigest k →
      (commit (applyIdempotentScheduleMutationWithAudit E policy' (m.withNow now) k' audit') s₂ =
          (.ok (.replay response), s₂) ↔
        Admissible (m.withNow now) k' audit' ∧ Revalidates E policy' (m.withNow now))) ∧
    (∀ policy' m' k' audit', m'.operation = m.operation → k'.SameKey k → ¬k'.SameDigest k →
      (commit (applyIdempotentScheduleMutationWithAudit E policy' m' k' audit') s₂ =
          (.ok .conflict, s₂) ↔
        Admissible m' k' audit' ∧ Prevalidates E policy' s₂ m')) ∧
    (∀ policy' m' k' audit' e,
      (commit (applyIdempotentScheduleMutationWithAudit E policy' m' k' audit') s₂).1 = .error e →
      (commit (applyIdempotentScheduleMutationWithAudit E policy' m' k' audit') s₂).2 = s₂) := by
  obtain ⟨rfl, hrow, hresume⟩ := applied_completes hfirst
  have hrow := completed_persists_path hrow rfl hpath
  have hresume := hresume.steps hpath
  refine ⟨?_, ?_, ?_⟩
  · rintro policy' now k' audit' ⟨hprincipal, hrequest⟩ ⟨hdigest, halg⟩
    rw [commit_eq_ok, applyIdempotent_recorded hrow
      (by rw [m.operation_withNow, hprincipal]; rfl) hrequest.symm rfl rfl,
      prevalidates_withNow_iff (applied_prevalidates hfirst) hresume]
    have houtcome : recordedOutcome (completedKey m.operation k) k' k.responseJson =
        .replay k.responseJson := if_pos ⟨hdigest.symm, halg.symm⟩
    simp [houtcome]
  · rintro policy' m' k' audit' hoperation ⟨hprincipal, hrequest⟩ hdigest
    rw [commit_eq_ok, applyIdempotent_recorded hrow
      (by rw [hoperation, hprincipal]; rfl) hrequest.symm rfl rfl]
    have houtcome : recordedOutcome (completedKey m.operation k) k' k.responseJson = .conflict :=
      if_neg fun h => hdigest ⟨h.1.symm, h.2.symm⟩
    simp [houtcome]
  · intro policy' m' k' audit' e herror
    exact (commit_eq_error.mp (Prod.ext herror rfl)).2

/-- 識別子 `id` の、要約値と応答の固定された要求。 -/
def sampleKey (id : String) : ScheduleMutationIdempotency where
  principal := samplePrincipal
  requestId := id
  digestAlgorithm := "sha256"
  requestDigest := "d1"
  responseJson := "1"

/-- 再開は、同じ要求をもう一度受けると、記録した応答でなく世代の食い違いを返す。 -/
theorem resume_replay_conflicts :
    ∃ s₀ s₁, Reachable (envOf []) s₀ ∧
      applyIdempotentScheduleMutationWithAudit (envOf []) defaultPolicy (.resume "j" 1 20) (sampleKey "r")
        none s₀ = .ok (.applied "1", s₁) ∧
      (commit (applyIdempotentScheduleMutationWithAudit (envOf []) defaultPolicy (.resume "j" 1 20)
        (sampleKey "r") none) s₁).1 = .error .schedulerGenerationConflict := by
  have hrun : (applyIdempotentScheduleMutationWithAudit (envOf []) defaultPolicy (.resume "j" 1 20)
      (sampleKey "r") none).satisfies
      (runOps (envOf []) [.create defaultPolicy sampleCreate, .pause "j" 0 10]) (fun out s₁ =>
        decide (out = .applied "1") && decide ((commit (applyIdempotentScheduleMutationWithAudit
          (envOf []) defaultPolicy (.resume "j" 1 20) (sampleKey "r") none) s₁).1 =
            .error .schedulerGenerationConflict)) = true := by
    rw [runOps_created]
    decide +kernel
  obtain ⟨out, s₁, hfirst, hout⟩ := Tx.satisfies_iff.mp hrun
  obtain ⟨happlied, hagain⟩ := Bool.and_eq_true_iff.mp hout
  rw [of_decide_eq_true happlied] at hfirst
  exact ⟨_, s₁, reachable_runOps _ _, hfirst, of_decide_eq_true hagain⟩

/-- 停止は、時刻が進んで同じ要求をもう一度受けても、記録した応答を返す。 -/
theorem pause_replays :
    ∃ s₁, applyIdempotentScheduleMutationWithAudit (envOf []) defaultPolicy (.pause "j" 0 10)
        (sampleKey "p") none (runOps (envOf []) [.create defaultPolicy sampleCreate]) =
          .ok (.applied "1", s₁) ∧
      commit (applyIdempotentScheduleMutationWithAudit (envOf []) defaultPolicy (.pause "j" 0 30)
        (sampleKey "p") none) s₁ = (.ok (.replay "1"), s₁) := by
  have hrun : (applyIdempotentScheduleMutationWithAudit (envOf []) defaultPolicy (.pause "j" 0 10)
      (sampleKey "p") none).satisfies (runOps (envOf []) [.create defaultPolicy sampleCreate])
      (fun out _ => decide (out = .applied "1")) = true := by
    rw [runOps_created]
    decide +kernel
  obtain ⟨out, s₁, hfirst, hout⟩ := Tx.satisfies_iff.mp hrun
  rw [of_decide_eq_true hout] at hfirst
  refine ⟨s₁, hfirst, ?_⟩
  refine ((mutation_replays_iff_revalidates hfirst .refl).1 defaultPolicy 30 (sampleKey "p") none
    ⟨rfl, rfl⟩ ⟨rfl, rfl⟩).mpr ⟨⟨?_, rfl, rfl⟩, trivial⟩
  decide +kernel

end Codeoff.State
