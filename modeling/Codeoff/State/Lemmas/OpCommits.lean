import Codeoff.State.Lemmas.DeliveryProgress

/-!
# 確定する操作

読み出しと検査の答えから、操作が確定した後の状態を定める。
-/

namespace Codeoff.State

open Codeoff.Core Codeoff.Relational

variable {E : Env} {s s₁ s₂ : Store} {now : Int}

def committed (x : StoreTx Unit) (s : Store) : Store := (commit x s).2

def commits (x : StoreTx Unit) (s : Store) : Bool := (commit x s).1.isOk

theorem ok_of_commits {x : StoreTx Unit} (h : commits x s = true) : x s = .ok ((), committed x s) := by
  unfold commits at h
  cases hx : (commit x s).1 with
  | error e => simp [hx, Except.isOk, Except.toBool] at h
  | ok a => exact commit_eq_ok.mp (Prod.ext hx rfl)

theorem Op.apply_of_ok {op : Op} (h : op.run E s = .ok ((), s₁)) : op.apply E s = s₁ := by
  rw [Op.apply, commit_eq_ok.mpr h]

theorem discard_of_ok {α : Type} {x : StoreTx α} {a : α} (h : x s = .ok (a, s₁)) :
    discard x s = .ok ((), s₁) := by
  rw [discard, Tx.bind_of_ok h]
  rfl

theorem create_apply {policy : Policy} {request : CreateScheduledJob} {nextRunAt : Int}
    {proof : CadenceProofArtifact} (hvalid : validateCreateRequest E request policy = .ok nextRunAt)
    (hproof : generateCadenceProof E request.schedule request.now policy = .ok proof)
    (hwrites : (do enforceActiveJobLimits policy request.owner none
                   insertScheduledJob request nextRunAt policy proof : StoreTx Unit) s = .ok ((), s₁)) :
    (Op.create policy request).apply E s = s₁ := by
  refine Op.apply_of_ok ?_
  simp only [Op.run, createScheduledJob]
  rw [Tx.check_bind_of hvalid, Tx.check_bind_of hproof]
  exact hwrites

structure DueOccurrence (E : Env) (s : Store) (now : Int) where
  job : ScheduledJobRow
  schedule : ScheduleRow
  at_ : Int
  window : OccurrenceWindow
  baseline : ExecutionBaselineRow
  due : dueJob job.jobId job.generation now s = some (job, schedule, at_)
  free : overlapBlocked s job.jobId = false
  next : (scheduleFromRow E schedule).bind (fun spec => invalidOccurrence
    (spec.coalesce E.cron at_ now job.policy.1.occurrenceSearchLimit)) = .ok window
  found : s.baselines.rows.find? (fun b => b.jobId == job.jobId) = some baseline

def DueOccurrence.run (o : DueOccurrence E s now) : ScheduledRunRow :=
  pendingRun o.job o.schedule o.window (jobTargets s o.job.jobId)
    ⟨o.baseline.baselineVersion, o.baseline.result, o.baseline.previousSuccessContext⟩ now

def DueOccurrence.record (o : DueOccurrence E s now) : StoreTx Unit := do
  let inserted ← insertRunOrIgnore o.run
  Tx.require (inserted == 1) .schedulerGenerationConflict
  advanceSchedule o.job.jobId o.job.generation now o.window

/-- 期限の来た予定の発生は、引き金にも検査にも断られずに一つの実行を加える。 -/
theorem materialize_apply (o : DueOccurrence E s now)
    (hvalid : validateSerializedTargets (jobTargets s o.job.jobId) = .ok ())
    (hwrites : o.record s = .ok ((), s₂)) :
    (Op.materialize o.job.jobId o.job.generation now none).apply E s = s₂ := by
  obtain ⟨n, s₁, hinsert, hrest⟩ := Tx.bind_ok.mp hwrites
  obtain ⟨hn, hadvance⟩ := Tx.require_bind_ok.mp hrest
  obtain rfl := beq_iff_eq.mp hn
  obtain ⟨spec, hspec, hwindow⟩ : ∃ spec, scheduleFromRow E o.schedule = .ok spec ∧ invalidOccurrence
      (spec.coalesce E.cron o.at_ now o.job.policy.1.occurrenceSearchLimit) = .ok o.window :=
    Relational.except_bind_ok.mp o.next
  have hload : loadMaterializationSnapshots o.job.jobId s = .ok ((jobTargets s o.job.jobId,
      ⟨o.baseline.baselineVersion, o.baseline.result, o.baseline.previousSuccessContext⟩), s) := by
    unfold loadMaterializationSnapshots
    rw [Tx.read_bind_apply, Tx.check_bind_of hvalid, Tx.read_bind_apply, o.found]
    rfl
  have hoccurrence : materializeOccurrence E o.job o.schedule o.at_ now s = .ok (some o.run, s₂) := by
    unfold materializeOccurrence
    rw [Tx.check_bind_of hspec, Tx.check_bind_of hwindow, Tx.bind_of_ok hload]
    dsimp only
    rw [DueOccurrence.run] at hinsert
    rw [Tx.bind_of_ok hinsert, if_neg (by decide), Tx.bind_of_ok hadvance]
    rfl
  refine Op.apply_of_ok (discard_of_ok (a := .created o.run.materialized) ?_)
  have hadmission : acquireExecutorAdmission none s = .ok ((), s) := rfl
  unfold materializeDueSchedule
  rw [Tx.bind_of_ok hadmission, Tx.read_bind_apply, o.due]
  dsimp only
  rw [Tx.read_bind_apply, o.free, if_neg (by decide), Tx.bind_of_ok hoccurrence]
  rfl

end Codeoff.State
