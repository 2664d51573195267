import Codeoff.State.Lemmas.ExecutionOutcome
import Codeoff.State.Theorems.Delivery

/-!
# 実行の決着

実行中の実行の結果をいつ記録できるか、成功の受け入れが何を残すか。
-/

namespace Codeoff.State

open Codeoff.Core Codeoff.Relational

variable {E : Env} {s s' : Store}

/-- 到達するどの状態でも、生きている実行中の束縛の結果は、処置が取り消しを書くものでないとき、そのときに限って記録でき、
実行と試行がそろって実行中の状態を離れる。 -/
theorem executionOutcome_commits_iff (h : Reachable E s) {b : RunLeaseBinding} {now : Int}
    {r : ScheduledRunRow} {a : RunAttemptRow} (hlive : liveExecution b now s = some (r, a))
    (evidenceId : String) {disposition : ScheduledExecutionDisposition} {errorKind errorMessage : String}
    (hkind : validateText "scheduled execution error kind" errorKind = .ok ())
    (hmessage : byteLen errorMessage ≤ maxContextBytes) (hretry : validRetryPolicy disposition now = true) :
    (∃ outcome s', recordScheduledRunExecutionOutcome E evidenceId b disposition errorKind errorMessage now
        s = .ok (outcome, s') ∧ LeavesExecuting b now s') ↔
      ¬RecordsCancelled E b disposition r a now := by
  obtain ⟨⟨hr, hb, hexec, _⟩, ha, _⟩ := liveExecution_eq_some hlive
  exact recordScheduledRunExecutionOutcome_commits_iff (h.executingBound.validate hr hexec hb)
    (h.numbered.profiles a ha) hlive hkind hmessage hretry

def executingStore : Store := runOps (envOf []) (leasedOps ++ [.markExecuting sampleBinding sampleProfile 100])

theorem executingRuns :
    (liveExecution sampleBinding 105 executingStore).isSome = true ∧
      (commit (recordScheduledRunExecutionOutcome (envOf []) "e" sampleBinding (.terminal .cancelled)
        "cancelled" "interrupted" 105) executingStore).1 = .error (.scheduler .check) := by
  rw [executingStore, leasedOps, List.cons_append, List.cons_append, runOps_occurred]
  decide +kernel

/-- 実行中の実行を取り消しで終わらせる記録は、CHECK に反して失敗する。 -/
theorem cancelled_outcome_fails :
    ∃ s b, Reachable (envOf []) s ∧ (liveExecution b 105 s).isSome = true ∧
      validateText "scheduled execution error kind" "cancelled" = .ok () ∧
      byteLen "interrupted" ≤ maxContextBytes ∧ validRetryPolicy (.terminal .cancelled) 105 = true ∧
      (commit (recordScheduledRunExecutionOutcome (envOf []) "e" b (.terminal .cancelled) "cancelled"
        "interrupted" 105) s).1 = .error (.scheduler .check) := by
  refine ⟨executingStore, sampleBinding, reachable_runOps _ _, executingRuns.1, rfl, ?_, rfl,
    executingRuns.2⟩
  decide

/-- 失敗の記録は確定する。 -/
theorem failed_outcome_commits :
    ∃ outcome s', recordScheduledRunExecutionOutcome (envOf []) "e" sampleBinding (.terminal .failed) "failed"
      "message" 105 executingStore = .ok (outcome, s') ∧ LeavesExecuting sampleBinding 105 s' := by
  obtain ⟨⟨r, a⟩, hlive⟩ := Option.isSome_iff_exists.mp executingRuns.1
  refine (executionOutcome_commits_iff (reachable_runOps _ _) hlive "e" rfl ?_ rfl).mpr ?_
  · decide
  · simp [RecordsCancelled]

/-! ## 成功の受け入れ -/

/-- 束縛の成功がすべて受け入れられた。実行 `r` と試行 `a` は成功し、成果は `x` だけで、基準が一つ進み、宛先ごとに一つの
配送の意図がある。 -/
structure SuccessAccepted (b : RunLeaseBinding) (s s' : Store) (r : ScheduledRunRow) (a : RunAttemptRow)
    (x : ResultArtifactRow) : Prop where
  run : r ∈ s'.runs.rows ∧ r.runId = b.runId ∧ r.attempt = b.attempt ∧ r.fence = b.fence ∧
    r.state = .succeeded
  attempt : a ∈ s'.attempts.rows ∧ a.runId = b.runId ∧ a.attempt = b.attempt ∧ a.fence = b.fence ∧
    a.state = .succeeded
  artifact : x ∈ s'.artifacts.rows ∧ x.runId = b.runId ∧ x.acceptedAttempt = b.attempt ∧
    x.acceptedFence = b.fence
  only : ∀ o ∈ s'.artifacts.rows, o.runId = b.runId → o = x
  hash : r.resultArtifactId = some x.artifactId ∧ r.resultHash = some (x.hashAlgorithm, x.resultHash)
  baseline : ∃ old ∈ s.baselines.rows, ∃ new ∈ s'.baselines.rows, old.jobId = b.jobId ∧
    new.jobId = b.jobId ∧ new.baselineVersion = old.baselineVersion + 1 ∧
    new.result.map BaselineResult.sourceRunId = some b.runId
  deliveries : (s'.deliveries.rows.filter (·.runId == b.runId)).map ScheduledDeliveryRow.target = r.targets
  pending : ∀ d ∈ s'.deliveries.rows, d.runId = b.runId → d.state = .pending
  distinct : (s'.deliveries.rows.map ScheduledDeliveryRow.deliveryId).Nodup

/-- 成功を受け入れる表が、どれも変わらない。 -/
structure KeepsResults (s s' : Store) : Prop where
  runs : s'.runs = s.runs
  attempts : s'.attempts = s.attempts
  artifacts : s'.artifacts = s.artifacts
  baselines : s'.baselines = s.baselines
  deliveries : s'.deliveries = s.deliveries

theorem AppendsEvidence.keepsResults {b : RunLeaseBinding} (h : AppendsEvidence b s s') :
    KeepsResults s s' := by
  rcases h with rfl | ⟨_, _, _, _, rfl⟩ <;> exact ⟨rfl, rfl, rfl, rfl, rfl⟩

theorem ResultsOwned.no_delivery {r : ScheduledRunRow} (h : ResultsOwned s) (hr : r ∈ s.runs.rows)
    (hstate : r.state ≠ .succeeded) : ∀ d ∈ s.deliveries.rows, d.runId ≠ r.runId := by
  intro d hd hid
  obtain ⟨x, hx, _, hxrun, _⟩ := h.deliveries d hd
  obtain ⟨o, ho, horun, hosucceeded⟩ := h.artifacts x hx
  rw [eq_of_runId hr ho (horun.trans (hxrun.trans hid))] at hosucceeded
  exact hstate hosucceeded

theorem deliveryIds_nodup (s : Store) : (s.deliveries.rows.map ScheduledDeliveryRow.deliveryId).Nodup := by
  refine List.pairwise_map.mpr (s.deliveries.unique.imp ?_)
  intro d o hfree heq
  simp [scheduledRunDeliveries, heq] at hfree

theorem Accepts.successAccepted {b : RunLeaseBinding} {r : ScheduledRunRow} {a : RunAttemptRow}
    {result : ScheduledRunResult} {completedAt : Int} (h : Accepts E b r a result completedAt s s')
    (hI : ResultsOwned s) (hb : b.ownsRun r = true) (hexec : r.state = .executing)
    (hcurrent : isCurrentAttempt r a = true) :
    SuccessAccepted b s s' (succeededRun E b result completedAt r) (succeededAttempt completedAt a)
      (acceptedArtifact E b result completedAt) := by
  obtain ⟨hrid, _, hrattempt, hrfence, _⟩ := RunLeaseBinding.ownsRun_iff.mp hb
  obtain ⟨haid, _, haattempt, hafence, _⟩ := isCurrentAttempt_iff.mp hcurrent
  have hartifact := h.artifacts.mem.mpr (.inr rfl)
  have hfilter : s'.deliveries.rows.filter (·.runId == b.runId) =
      r.targets.map (intentFor E b r.policy completedAt) := by
    rw [h.deliveries, List.filter_append, List.filter_eq_nil_iff.mpr, List.nil_append,
      List.filter_eq_self.mpr]
    · intro d hd
      obtain ⟨t, _, rfl⟩ := List.mem_map.mp hd
      exact beq_self_eq_true b.runId
    · intro d hd hrun
      refine hI.no_delivery h.runs.mem_old (by simp [hexec]) d hd ?_
      exact (beq_iff_eq.mp hrun).trans hrid.symm
  refine ⟨⟨h.runs.mem.mpr (.inl rfl), hrid, hrattempt, hrfence, rfl⟩, ?_, ?_, ?_, ⟨rfl, rfl⟩, ?_, ?_, ?_,
    deliveryIds_nodup s'⟩
  · exact ⟨h.attempts.mem.mpr (.inl rfl), haid.trans hrid, haattempt.trans hrattempt,
      hafence.trans hrfence, rfl⟩
  · exact ⟨hartifact, rfl, rfl, rfl⟩
  · intro o ho hid
    exact s'.artifacts.eq_of_conflict ho hartifact (by
      simp [scheduledRunResultArtifacts, acceptedArtifact, hid])
  · obtain ⟨x, ⟨hjob, _, _⟩, hB⟩ := h.baselines
    exact ⟨x, hB.mem_old, _, hB.mem.mpr (.inl rfl), hjob, hjob, rfl, rfl⟩
  · rw [hfilter, List.map_map]
    exact List.map_id'' (fun _ => rfl) r.targets
  · intro d hd hrun
    have hmem : d ∈ s'.deliveries.rows.filter (·.runId == b.runId) :=
      List.mem_filter.mpr ⟨hd, beq_iff_eq.mpr hrun⟩
    rw [hfilter] at hmem
    obtain ⟨t, _, rfl⟩ := List.mem_map.mp hmem
    rfl

/-- 到達するどの状態でも、どの束縛・成果・時刻の成功の記録も、受け入れたと返ったならすべてを残し、そうでなければ実行・
試行・成果・基準・配送のどの行も変えない。 -/
theorem success_all_or_nothing (h : Reachable E s) (evidenceId : String) (b : RunLeaseBinding)
    (result : ScheduledRunResult) (completedAt : Int) :
    ((commit (completeScheduledRunSuccess E evidenceId b result completedAt) s).1 = .ok .committed →
      ∃ r a x, SuccessAccepted b s
        (commit (completeScheduledRunSuccess E evidenceId b result completedAt) s).2 r a x) ∧
    ((commit (completeScheduledRunSuccess E evidenceId b result completedAt) s).1 ≠ .ok .committed →
      KeepsResults s (commit (completeScheduledRunSuccess E evidenceId b result completedAt) s).2) := by
  unfold commit
  cases hrun : completeScheduledRunSuccess E evidenceId b result completedAt s with
  | error e =>
    refine ⟨fun hok => ?_, fun _ => ⟨rfl, rfl, rfl, rfl, rfl⟩⟩
    cases hok
  | ok out =>
    obtain ⟨outcome, s'⟩ := out
    rcases completeScheduledRunSuccess_ok hrun with ⟨rfl, r, a, hlive, haccepts⟩ | ⟨hne, happends⟩
    · obtain ⟨⟨_, hb, hexec, _⟩, _, hcurrent, _⟩ := liveExecution_eq_some hlive
      exact ⟨fun _ => ⟨_, _, _, haccepts.successAccepted h.resultsOwned hb hexec hcurrent⟩,
        fun hother => absurd rfl hother⟩
    · refine ⟨fun hok => ?_, fun _ => happends.keepsResults⟩
      cases hok
      exact absurd rfl hne

def acceptingStore : Store := runOps (envOf deliveryTable)
  (leasedOps ++ [.markExecuting sampleBinding sampleProfile 100])

instance acceptingRun : Fact
    ((commit (completeScheduledRunSuccess (envOf deliveryTable) "e" sampleBinding ⟨"ok", "ok"⟩ 110)
      acceptingStore).1 = .ok .committed) := ⟨by
  rw [acceptingStore, leasedOps, List.cons_append, List.cons_append, runOps_occurred]
  decide +kernel⟩

/-- 実行中の行の成功が受け入れられ、三つの表に一度に書かれる。 -/
theorem success_accepted :
    ∃ r a x, SuccessAccepted sampleBinding acceptingStore
      (commit (completeScheduledRunSuccess (envOf deliveryTable) "e" sampleBinding ⟨"ok", "ok"⟩ 110)
        acceptingStore).2 r a x :=
  (success_all_or_nothing (reachable_runOps _ _) "e" sampleBinding ⟨"ok", "ok"⟩ 110).1 acceptingRun.out

end Codeoff.State
