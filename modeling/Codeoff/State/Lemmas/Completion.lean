import Codeoff.State.Lemmas.Settlement

/-!
# 成功の受け入れの補題

受け入れが書く表を `Accepts` にまとめる。
-/

namespace Codeoff.State

open Codeoff.Core Codeoff.Relational

variable {E : Env} {s s' : Store} {u : Unit} {now : Int}

theorem orCompletionConflict_ok {α : Type} {x : StoreTx α} {out : α × Store} :
    orCompletionConflict x s = .ok out ↔ x s = .ok out := by
  unfold orCompletionConflict
  split
  · rename_i v hx
    simp [hx]
  · rfl

theorem intentTargetsFrom_ok {identities : List String} {ts : List DeliveryTargetSnapshot}
    {out : List DeliveryIntentTarget} (h : intentTargetsFrom E identities ts = .ok out) :
    out = ts.map (intentTarget E) := by
  induction ts generalizing identities out with
  | nil =>
    cases h
    rfl
  | cons t ts ih =>
    simp only [intentTargetsFrom] at h
    obtain ⟨_, _, h⟩ := except_bind_ok.mp h
    obtain ⟨_, h⟩ := reject_ok.mp h
    obtain ⟨rest, hrest, h⟩ := except_bind_ok.mp h
    cases h
    rw [ih hrest]
    rfl

theorem intentTargetsFrom_valid {identities : List String} {ts : List DeliveryTargetSnapshot}
    {out : List DeliveryIntentTarget} (h : intentTargetsFrom E identities ts = .ok out) :
    ∀ t ∈ ts, validateTargetFields t = .ok () := by
  induction ts generalizing identities out with
  | nil => simp
  | cons t ts ih =>
    simp only [intentTargetsFrom] at h
    obtain ⟨_, hvalid, h⟩ := except_bind_ok.mp h
    obtain ⟨_, h⟩ := reject_ok.mp h
    obtain ⟨rest, hrest, _⟩ := except_bind_ok.mp h
    intro o ho
    rcases List.mem_cons.mp ho with rfl | ho
    · exact hvalid
    · exact ih hrest o ho

theorem deliveryIntentTargets_ok {ts : List DeliveryTargetSnapshot} {out : List DeliveryIntentTarget}
    (h : deliveryIntentTargets E ts = .ok out) :
    out = ts.map (intentTarget E) ∧ ∀ t ∈ ts, validateTargetFields t = .ok () := by
  unfold deliveryIntentTargets at h
  exact ⟨intentTargetsFrom_ok (reject_ok.mp h).2, intentTargetsFrom_valid (reject_ok.mp h).2⟩

theorem deliveryIntentKey_ok {runId identityDigest key : String}
    (h : deliveryIntentKey runId identityDigest = .ok key) :
    key = deliveryIntentKeyText runId identityDigest := by
  unfold deliveryIntentKey at h
  obtain ⟨_, h⟩ := reject_ok.mp h
  obtain ⟨_, h⟩ := reject_ok.mp h
  cases h
  rfl

/-- 宛先ごとに一つの意図の行が、宛先の順に加わる。 -/
theorem insertIntents_ok {b : RunLeaseBinding} {policy : Policy} {completedAt : Int}
    {targets : List DeliveryTargetSnapshot}
    (h : insertIntents b (resultArtifactId E b) policy completedAt (targets.map (intentTarget E)) s =
      .ok (u, s')) :
    ∃ D, D.rows = s.deliveries.rows ++ targets.map (intentFor E b policy completedAt) ∧
      s' = { s with deliveries := D } := by
  induction targets generalizing s with
  | nil =>
    cases h
    exact ⟨s'.deliveries, by simp, rfl⟩
  | cons t ts ih =>
    obtain ⟨key, hkey, h⟩ := Tx.check_bind_ok.mp h
    obtain rfl := deliveryIntentKey_ok hkey
    obtain ⟨_, s1, h1, h⟩ := Tx.bind_ok.mp h
    obtain ⟨D1, hD1, rfl⟩ := insertDelivery_ok.mp (orCompletionConflict_ok.mp h1)
    obtain ⟨D, hD, rfl⟩ := ih h
    refine ⟨D, ?_, rfl⟩
    rw [hD, hD1.rows, List.append_assoc]
    rfl

/-! ## 受け入れ -/

structure Accepts (E : Env) (b : RunLeaseBinding) (r : ScheduledRunRow) (a : RunAttemptRow)
    (result : ScheduledRunResult) (completedAt : Int) (s s' : Store) : Prop where
  valid : validateCompletion r a result completedAt = .ok ()
  artifacts : s.artifacts.Appends (acceptedArtifact E b result completedAt) s'.artifacts
  baselines : ∃ x, (x.jobId = b.jobId ∧ x.baselineVersion = r.executionBaseline.baselineVersion ∧
      x.baselineVersion < i64Max) ∧
    s.baselines.Replaces x (swappedBaseline (acceptedBaseline E b r result completedAt) x) s'.baselines
  deliveries : s'.deliveries.rows =
    s.deliveries.rows ++ r.targets.map (intentFor E b r.policy completedAt)
  attempts : s.attempts.Replaces a (succeededAttempt completedAt a) s'.attempts
  runs : s.runs.Replaces r (succeededRun E b result completedAt r) s'.runs
  acceptable : Acceptable r result
  rest : s' = { s with
    artifacts := s'.artifacts
    baselines := s'.baselines
    deliveries := s'.deliveries
    attempts := s'.attempts
    runs := s'.runs }

theorem baselines_replaces {v : UpdateExecutionBaseline} {B : Table scheduledExecutionBaselines}
    (hB : s.baselines.Rewrites (fun b => b.jobId == v.jobId && b.baselineVersion == v.expectedVersion
      && b.baselineVersion < i64Max) (swappedBaseline v) B)
    (hone : (s.baselines.rows.countP (fun b => b.jobId == v.jobId
      && b.baselineVersion == v.expectedVersion && b.baselineVersion < i64Max) == 1) = true) :
    ∃ x, (x.jobId = v.jobId ∧ x.baselineVersion = v.expectedVersion ∧ x.baselineVersion < i64Max) ∧
      s.baselines.Replaces x (swappedBaseline v x) B := by
  obtain ⟨x, hx, hpx⟩ := exists_of_countP hone
  have hx' := hpx
  simp only [Bool.and_eq_true, beq_iff_eq, decide_eq_true_eq] at hx'
  refine ⟨x, ⟨hx'.1.1, hx'.1.2, hx'.2⟩, hB.replaces hx hpx ?_⟩
  intro o ho hpo
  simp only [Bool.and_eq_true, beq_iff_eq] at hpo
  exact s.baselines.eq_of_conflict ho hx (by simp [scheduledExecutionBaselines, hpo.1.1, hx'.1.1])

theorem acceptSuccess_ok {b : RunLeaseBinding} {r : ScheduledRunRow} {a : RunAttemptRow}
    {result : ScheduledRunResult} {completedAt : Int} (hr : r ∈ s.runs.rows) (hb : b.ownsRun r = true)
    (ha : a ∈ s.attempts.rows) (hcurrent : isCurrentAttempt r a = true)
    (hsummary : validateText "scheduled result summary" result.summary = .ok ())
    (h : acceptSuccess E b r a result completedAt s = .ok (u, s')) :
    Accepts E b r a result completedAt s s' := by
  unfold acceptSuccess at h
  obtain ⟨_, hvalid, h⟩ := Tx.check_bind_ok.mp h
  obtain ⟨targets, htargets, h⟩ := Tx.check_bind_ok.mp h
  obtain ⟨rfl, hfields⟩ := deliveryIntentTargets_ok htargets
  obtain ⟨_, h⟩ := Tx.require_bind_ok.mp h
  obtain ⟨_, s1, h1, h⟩ := Tx.bind_ok.mp h
  obtain ⟨X, hX, rfl⟩ := insertArtifact_ok.mp (orCompletionConflict_ok.mp h1)
  obtain ⟨swapped, s2, h2, h⟩ := Tx.bind_ok.mp h
  obtain ⟨B, hB, rfl, rfl⟩ := compareAndSwapExecutionBaseline_ok h2
  obtain ⟨hswapped, h⟩ := Tx.require_bind_ok.mp h
  obtain ⟨_, s3, h3, h⟩ := Tx.bind_ok.mp h
  obtain ⟨D, hD, rfl⟩ := insertIntents_ok h3
  obtain ⟨n, s4, h4, h⟩ := Tx.bind_ok.mp h
  obtain ⟨A, hA, rfl, rfl⟩ := updateAttempts_ok.mp h4
  obtain ⟨hn, h⟩ := Tx.require_bind_ok.mp h
  obtain ⟨m, s5, h5, h⟩ := Tx.bind_ok.mp h
  obtain ⟨R, hR, rfl, rfl⟩ := updateRuns_ok.mp (orCompletionConflict_ok.mp h5)
  obtain ⟨hm, rfl⟩ := Tx.require_ok.mp h
  obtain ⟨a', ha', hpa⟩ := exists_of_countP hn
  obtain ⟨r', hr', hpr⟩ := exists_of_countP hm
  have hrep := runs_replaces b.runId hR.toRewrites (by
    intro o ho
    simp only [Bool.and_eq_true] at ho
    exact (RunLeaseBinding.ownsRun_iff.mp ho.1.1).1) hr' hpr
  have hrepA := attempts_replaces b.runId b.attempt hA.toRewrites (by
    intro o ho
    simp only [Bool.and_eq_true] at ho
    obtain ⟨hid, _, hattempt, _⟩ := RunLeaseBinding.ownsAttempt_iff.mp ho.1.1
    exact ⟨hid, hattempt⟩) ha' hpa
  -- 束縛の持つ実行と試行は一つずつなので、書いた行は初めに読んだ行である。
  simp only [Bool.and_eq_true] at hpa hpr
  obtain rfl : r' = r := eq_of_runId hr hr'
    ((RunLeaseBinding.ownsRun_iff.mp hpr.1.1).1.trans (RunLeaseBinding.ownsRun_iff.mp hb).1.symm)
  obtain rfl : a' = a := eq_of_isCurrentAttempt ha ha' hcurrent
    (RunLeaseBinding.isCurrentAttempt hb hpa.1.1)
  exact ⟨hvalid, hX.toAppends, baselines_replaces hB hswapped, hD, hrepA, hrep, ⟨hsummary, hfields⟩, rfl⟩

theorem Accepts.effect {b : RunLeaseBinding} {r : ScheduledRunRow} {a : RunAttemptRow}
    {result : ScheduledRunResult} {completedAt : Int} (h : Accepts E b r a result completedAt s s')
    (hb : b.ownsRun r = true) (hexec : r.state = .executing) (hcurrent : isCurrentAttempt r a = true) :
    Effect E now .work s s' := by
  obtain ⟨x, hx, hB⟩ := h.baselines
  rw [h.rest]
  exact .accepted hb hexec hcurrent h.artifacts hx hB h.deliveries h.attempts h.runs h.acceptable

/-- 成功の記録は、生きている貸与の行を受け入れるか、遅れた証拠だけを残す。 -/
theorem completeScheduledRunSuccess_ok {evidenceId : String} {b : RunLeaseBinding}
    {result : ScheduledRunResult} {completedAt : Int} {outcome : ScheduledRunSuccessOutcome}
    (h : completeScheduledRunSuccess E evidenceId b result completedAt s = .ok (outcome, s')) :
    (outcome = .committed ∧ ∃ r a, liveExecution b completedAt s = some (r, a) ∧
        Accepts E b r a result completedAt s s') ∨
      (outcome ≠ .committed ∧ AppendsEvidence b s s') := by
  unfold completeScheduledRunSuccess at h
  obtain ⟨_, _, h⟩ := Tx.check_bind_ok.mp h
  obtain ⟨_, h⟩ := Tx.require_bind_ok.mp h
  obtain ⟨_, hsummary, h⟩ := Tx.check_bind_ok.mp h
  obtain ⟨_, h⟩ := Tx.require_bind_ok.mp h
  rw [Tx.read_bind_apply] at h
  cases hlive : liveExecution b completedAt s with
  | none =>
    rw [hlive] at h
    obtain ⟨_, s1, h1, h⟩ := Tx.bind_ok.mp h
    cases h
    exact .inr ⟨by simp, appendLateEvidence_ok h1⟩
  | some pair =>
    obtain ⟨r, a⟩ := pair
    obtain ⟨⟨hr, hb, _, _⟩, ha, hcurrent, _⟩ := liveExecution_eq_some hlive
    rw [hlive] at h
    rcases Tx.onError_ok.mp h with h | ⟨_, h⟩
    · obtain ⟨_, s1, h1, h⟩ := Tx.bind_ok.mp h
      cases h
      exact .inl ⟨rfl, r, a, rfl, acceptSuccess_ok hr hb ha hcurrent (invalidValue_ok.mp hsummary) h1⟩
    · unfold resolveCompletionConflict at h
      rw [Tx.read_bind_apply] at h
      obtain ⟨_, h⟩ := Tx.require_bind_ok.mp h
      obtain ⟨_, s1, h1, h⟩ := Tx.bind_ok.mp h
      cases h
      exact .inr ⟨by simp, appendLateEvidence_ok h1⟩

theorem completeScheduledRunSuccess_effect {evidenceId : String} {b : RunLeaseBinding}
    {result : ScheduledRunResult} {completedAt : Int} {outcome : ScheduledRunSuccessOutcome}
    (h : completeScheduledRunSuccess E evidenceId b result completedAt s = .ok (outcome, s')) :
    Effect E now .work s s' := by
  rcases completeScheduledRunSuccess_ok h with ⟨_, r, a, hlive, haccepts⟩ | ⟨_, happends⟩
  · obtain ⟨⟨_, hb, hexec, _⟩, _, hcurrent, _⟩ := liveExecution_eq_some hlive
    exact haccepts.effect hb hexec hcurrent
  · exact happends.effect

end Codeoff.State
