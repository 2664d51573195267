import Codeoff.State.Lemmas.ActiveJobs
import Codeoff.State.Theorems.Lifecycle

/-!
# 稼働中のジョブの上限

稼働中のジョブの数が、どの操作の列の後でも方針の上限を超えないこと。
-/

namespace Codeoff.State

open Codeoff.Core Codeoff.Relational

variable {E : Env} {s s' : Store} {policy : Policy}

/-! ## 一つの方針のもとでの呼び出し -/

/-- 操作の持つ方針は、あれば `policy` である。 -/
def Op.KeepsPolicy (policy : Policy) : Op → Prop
  | .create p _ | .update p _ | .resume p _ _ _ | .mutate p _ _ _ => p = policy
  | _ => True

/-- 保存領域への呼び出し。再開と識別子つきの適用は、検査をトランザクションの前に行うので、検査の後に他の
トランザクションが入ったものも並べる。 -/
inductive LimitedCall where
  | whole (op : Op)
  | checkedResume (jobId : String) (generation now : Int) (proof : CadenceProofArtifact)
  | checkedMutation (mutation : ScheduledJobMutation) (idempotency : ScheduleMutationIdempotency)
      (audit : Option ScheduleMutationAudit) (proof : Option CadenceProofArtifact)

def LimitedCall.KeepsPolicy (policy : Policy) : LimitedCall → Prop
  | .whole op => op.KeepsPolicy policy
  | .checkedResume .. | .checkedMutation .. => True

def LimitedCall.run (E : Env) (policy : Policy) : LimitedCall → StoreTx Unit
  | .whole op => op.run E
  | .checkedResume jobId generation now proof => applyResume E jobId generation now policy proof
  | .checkedMutation mutation idempotency audit proof =>
    discard (applyPrevalidatedMutation E policy mutation idempotency audit proof)

/-- 方針 `policy` のもとでの一歩。 -/
def PolicyStep (E : Env) (policy : Policy) (s s' : Store) : Prop :=
  ∃ call : LimitedCall, call.KeepsPolicy policy ∧ (commit (call.run E policy) s).2 = s'

def LimitedCall.activation : LimitedCall → Option ScheduledJobMutation
  | .whole (.create _ request) => some (.create request)
  | .whole (.resume _ jobId generation now) | .checkedResume jobId generation now _ =>
    some (.resume jobId generation now)
  | .whole (.mutate _ mutation _ _) | .checkedMutation mutation _ _ _ =>
    if mutation.activates then some mutation else none
  | _ => none

theorem discard_error {α : Type} {x : StoreTx α} {e : StateError} (h : discard x s = .error e) :
    x s = .error e := by
  unfold discard at h
  cases hx : x s with
  | ok r =>
    rw [Tx.bind_of_ok hx] at h
    cases h
  | error e' =>
    rw [Tx.bind_of_error hx] at h
    cases h
    rfl

theorem WithinActiveLimits.run {op : Op} {u : Unit} (h : WithinActiveLimits policy s)
    (hpolicy : op.KeepsPolicy policy) (hrun : op.run E s = .ok (u, s')) : WithinActiveLimits policy s' := by
  by_cases hk : op.origin = .job
  · cases op with
    | create p request =>
      cases hpolicy
      exact h.createdBy hrun
    | update p request =>
      obtain ⟨_, hrun⟩ := discard_ok hrun
      exact h.updatedBy hrun
    | pause jobId generation now =>
      obtain ⟨_, hrun⟩ := discard_ok hrun
      exact h.stoppedBy hrun
    | delete jobId generation now =>
      obtain ⟨_, hrun⟩ := discard_ok hrun
      exact h.stoppedBy hrun
    | resume p jobId generation now =>
      cases hpolicy
      obtain ⟨_, hrun⟩ := discard_ok hrun
      exact h.resumedBy hrun
    | mutate p mutation k audit =>
      cases hpolicy
      obtain ⟨_, hrun⟩ := discard_ok hrun
      exact h.mutated hrun
    | _ => cases hk
  · exact h.keeps (KeepsActive.effects hk (Op.run_effects hrun))

theorem WithinActiveLimits.called {call : LimitedCall} {u : Unit} (h : WithinActiveLimits policy s)
    (hpolicy : call.KeepsPolicy policy) (hrun : call.run E policy s = .ok (u, s')) :
    WithinActiveLimits policy s' := by
  cases call with
  | whole op => exact h.run hpolicy hrun
  | checkedResume jobId generation now proof => exact h.resumed hrun
  | checkedMutation mutation k audit proof =>
    obtain ⟨_, hrun⟩ := discard_ok hrun
    exact h.prevalidated hrun

theorem WithinActiveLimits.policyStep (h : WithinActiveLimits policy s) (hstep : PolicyStep E policy s s') :
    WithinActiveLimits policy s' := by
  obtain ⟨call, hpolicy, rfl⟩ := hstep
  unfold commit
  cases hrun : call.run E policy s with
  | error e => exact h
  | ok r => exact h.called hpolicy hrun

theorem activationExceeds_resume {jobId : String} {generation now : Int}
    (h : ∃ job row, pausedJob jobId generation s = some (job, row) ∧ WouldExceed policy job.owner s) :
    ActivationExceeds policy (.resume jobId generation now) s := by
  obtain ⟨job, row, hfound, hexceed⟩ := h
  refine ⟨job.owner, ?_, hexceed⟩
  simp only [ScheduledJobMutation.activatedOwner, hfound, Option.map_some]

theorem LimitedCall.refused {call : LimitedCall} {m : ScheduledJobMutation} {e : StateError}
    (hpolicy : call.KeepsPolicy policy) (hcall : call.activation = some m) (he : IsActiveLimit e)
    (h : call.run E policy s = .error e) : ActivationExceeds policy m s := by
  cases call with
  | checkedResume jobId generation now proof =>
    cases hcall
    exact activationExceeds_resume (applyResume_refused he h)
  | checkedMutation mutation k audit proof =>
    obtain ⟨hm, hcall⟩ := Option.ite_none_right_eq_some.mp hcall
    cases hcall
    exact applyPrevalidatedMutation_refused hm he (discard_error h)
  | whole op =>
    cases op with
    | create p request =>
      cases hpolicy
      cases hcall
      exact ⟨request.owner, rfl, createScheduledJob_refused he h⟩
    | resume p jobId generation now =>
      cases hpolicy
      cases hcall
      exact activationExceeds_resume (resumeScheduledJob_refused he (discard_error h))
    | mutate p mutation k audit =>
      cases hpolicy
      obtain ⟨hm, hcall⟩ := Option.ite_none_right_eq_some.mp hcall
      cases hcall
      exact applyIdempotent_refused hm he (discard_error h)
    | _ => cases hcall

/-- 上限の中にある保存領域から、一つの方針のもとでどの呼び出しをどう並べても、稼働中のジョブの数は全体でも持ち主
ごとでも上限を超えない。 -/
theorem activeJobs_within_limits (h : WithinActiveLimits policy s)
    (hpath : Relation.ReflTransGen (PolicyStep E policy) s s') :
    activeJobs s' ≤ policy.1.maxActiveJobs ∧
    (∀ owner, ownerActiveJobs s' owner ≤ policy.1.maxActiveJobsPerOwner) ∧
    ∀ call m e, LimitedCall.KeepsPolicy policy call → call.activation = some m → IsActiveLimit e →
      (commit (call.run E policy) s').1 = .error e → ActivationExceeds policy m s' := by
  have hlimits : WithinActiveLimits policy s' :=
    invariant_of_steps (fun _ _ hI hstep => hI.policyStep hstep) h hpath
  refine ⟨hlimits.total, hlimits.perOwner, ?_⟩
  intro call m e hpolicy hcall he herror
  exact LimitedCall.refused hpolicy hcall he (commit_eq_error.mp (Prod.ext herror rfl)).1

def singleJobPolicy : Policy := ⟨{ maxActiveJobs := 1, maxActiveJobsPerOwner := 1 }, by decide +kernel⟩

/-- 一つのジョブを作った後の二つ目の作成は、上限で拒まれ、確かにもう一つで上限を超える。 -/
theorem second_create_exceeds :
    ∃ s', Relation.ReflTransGen (PolicyStep (envOf []) singleJobPolicy) .empty s' ∧ activeJobs s' ≤ 1 ∧
      ActivationExceeds singleJobPolicy (.create { sampleCreate with jobId := "k", scheduleId := "t" }) s' := by
  have hstep : PolicyStep (envOf []) singleJobPolicy .empty
      ((Op.create singleJobPolicy sampleCreate).apply (envOf []) .empty) :=
    ⟨.whole (.create singleJobPolicy sampleCreate), rfl, rfl⟩
  have hempty : WithinActiveLimits singleJobPolicy .empty := ⟨by decide +kernel, fun _ => Nat.zero_le _⟩
  obtain ⟨htotal, _, hrefused⟩ := activeJobs_within_limits hempty (.single hstep)
  refine ⟨_, .single hstep, htotal, ?_⟩
  refine hrefused (.whole (.create singleJobPolicy { sampleCreate with jobId := "k", scheduleId := "t" })) _
    (.scheduledActiveJobLimitExceeded "global") rfl rfl ⟨_, rfl⟩ ?_
  decide +kernel

end Codeoff.State
