import Codeoff.State.Lemmas.DeliveryInvariants
import Codeoff.State.Lemmas.RunCoherence

/-!
# 成果の持ち主

到達する状態では、成果は成功した実行のもので、配送は成果のものである。
-/

namespace Codeoff.State

open Codeoff.Core Codeoff.Relational

variable {E : Env} {s s' : Store} {now : Int} {k : Origin}

theorem ScheduledRunState.not_isLive_of_succeeded {state : ScheduledRunState} (h : state = .succeeded) :
    state.isLive ≠ true := by
  simp [ScheduledRunState.isLive, h]

theorem Cancels.succeeded {jobId : String} {generation at_ : Int} {R : Table scheduledRuns}
    {A : Table scheduledRunAttempts} (h : Cancels s jobId generation at_ R A) {r : ScheduledRunRow}
    (hr : r ∈ s.runs.rows) (hstate : r.state = .succeeded) : r ∈ R.rows := by
  refine h.runs.mem_of_not hr ?_
  simp [preExecutionOf, ScheduledRunState.isPreExecution, hstate]

/-- 成功した行は、刈り取りのほかでは変わらない。 -/
theorem Effect.succeeded {r : ScheduledRunRow} (h : Effect E now k s s') (hr : r ∈ s.runs.rows)
    (hstate : r.state = .succeeded) (hk : k ≠ .prune r.runId) : r ∈ s'.runs.rows := by
  cases h with
  | aside same =>
    rw [same.runs]
    exact hr
  | updated time valid found jobId generation next jobs cancels schedules targets =>
    exact cancels.succeeded hr hstate
  | stopped becomes jobs cancels schedules => exact cancels.succeeded hr hstate
  | materialized found active schedule jobId nextRunAt overdue readable coalesced baselines owner runs
      advances => exact runs.mem.mpr (.inl hr)
  | swept runs => exact runs.mem_of_not hr (by simp [ScheduledRunRow.exhausted, hstate])
  | leased claimable runs attempts =>
    refine runs.mem.mpr (.inr ⟨hr, ?_⟩)
    rintro rfl
    simp [ScheduledRunRow.claimable, hstate] at claimable
  | fenced current change runs attempts =>
    refine runs.mem.mpr (.inr ⟨hr, ?_⟩)
    rintro rfl
    exact ScheduledRunState.not_isLive_of_succeeded hstate change.live
  | requeued retryable runs =>
    refine runs.mem.mpr (.inr ⟨hr, ?_⟩)
    rintro rfl
    simp [ScheduledRunState.isRetryable, hstate] at retryable
  | accepted owns executing current artifacts baseline baselines deliveries attempts runs =>
    refine runs.mem.mpr (.inr ⟨hr, ?_⟩)
    rintro rfl
    rw [executing] at hstate
    cases hstate
  | @prunedRun _ runId settled undelivered =>
    refine List.mem_filter.mpr ⟨hr, ?_⟩
    simp only [Bool.not_eq_eq_eq_not, Bool.not_true, beq_eq_false_iff_ne]
    intro hid
    have hretryable := settled r hr hid
    simp [ScheduledRunState.isRetryable, hstate] at hretryable
  | @prunedHistory _ runId settled =>
    refine List.mem_filter.mpr ⟨hr, ?_⟩
    simp only [Bool.not_eq_eq_eq_not, Bool.not_true, beq_eq_false_iff_ne]
    rintro rfl
    exact hk rfl
  | _ => exact hr

theorem Effect.artifact_kept {x : ResultArtifactRow} (h : Effect E now k s s')
    (hx : x ∈ s.artifacts.rows) (hk : k ≠ .prune x.runId) : x ∈ s'.artifacts.rows := by
  cases h with
  | aside same =>
    rw [same.artifacts]
    exact hx
  | accepted owns executing current artifacts baseline baselines deliveries attempts runs =>
    exact artifacts.mem.mpr (.inl hx)
  | @prunedHistory _ runId settled =>
    refine List.mem_filter.mpr ⟨hx, ?_⟩
    simp only [Bool.not_eq_eq_eq_not, Bool.not_true, beq_eq_false_iff_ne]
    rintro rfl
    exact hk rfl
  | _ => exact hx

/-! ## 持ち主の対応 -/

structure ResultsOwned (s : Store) : Prop where
  artifacts : ∀ x ∈ s.artifacts.rows, ∃ r ∈ s.runs.rows, r.runId = x.runId ∧ r.state = .succeeded
  deliveries : ∀ d ∈ s.deliveries.rows, ∃ x ∈ s.artifacts.rows, x.artifactId = d.resultArtifactId ∧
    x.runId = d.runId ∧ x.jobId = d.jobId

theorem ResultsOwned.of_same (h : ResultsOwned s) (hx : s'.artifacts = s.artifacts)
    (hr : ∀ r ∈ s.runs.rows, r.state = .succeeded → r ∈ s'.runs.rows)
    (hd : ∀ d' ∈ s'.deliveries.rows, ∃ d ∈ s.deliveries.rows, d'.identity = d.identity) :
    ResultsOwned s' := by
  refine ⟨?_, ?_⟩
  · rw [hx]
    intro x hmem
    obtain ⟨r, hmemr, hid, hstate⟩ := h.artifacts x hmem
    exact ⟨r, hr r hmemr hstate, hid, hstate⟩
  · rw [hx]
    intro d' hd'
    obtain ⟨d, hmem, hsame⟩ := hd d' hd'
    obtain ⟨x, hmemx, hartifact, hrun, hjob⟩ := h.deliveries d hmem
    refine ⟨x, hmemx, ?_, ?_, ?_⟩
    · rw [hartifact]
      exact (congrArg DeliveryIdentity.resultArtifactId hsame).symm
    · rw [hrun]
      exact (congrArg DeliveryIdentity.runId hsame).symm
    · rw [hjob]
      exact (congrArg DeliveryIdentity.jobId hsame).symm

theorem replaces_identity {d d' : ScheduledDeliveryRow} {D : Table scheduledRunDeliveries}
    (hD : s.deliveries.Replaces d d' D) (hsame : d'.identity = d.identity) :
    ∀ o' ∈ D.rows, ∃ o ∈ s.deliveries.rows, o'.identity = o.identity := by
  intro o' ho'
  rcases hD.mem.mp ho' with rfl | ⟨ho, _⟩
  · exact ⟨d, hD.mem_old, hsame⟩
  · exact ⟨o', ho, rfl⟩

theorem ResultsOwned.accepted {b : RunLeaseBinding} {r : ScheduledRunRow} {result : ScheduledRunResult}
    {completedAt : Int} (h : ResultsOwned s) (owns : b.ownsRun r = true)
    (hkept : ∀ o ∈ s.runs.rows, o.state = .succeeded → o ∈ s'.runs.rows)
    (hX : s.artifacts.Appends (acceptedArtifact E b result completedAt) s'.artifacts)
    (hR : s.runs.Replaces r (succeededRun E b result completedAt r) s'.runs)
    (hD : s'.deliveries.rows =
      s.deliveries.rows ++ r.targets.map (intentFor E b r.policy completedAt)) :
    ResultsOwned s' := by
  refine ⟨?_, ?_⟩
  · intro x hx
    rcases hX.mem.mp hx with hx | rfl
    · obtain ⟨o, ho, hid, hstate⟩ := h.artifacts x hx
      exact ⟨o, hkept o ho hstate, hid, hstate⟩
    · exact ⟨_, hR.mem.mpr (.inl rfl), (RunLeaseBinding.ownsRun_iff.mp owns).1, rfl⟩
  · intro d hd
    rcases List.mem_append.mp (hD ▸ hd) with hd | hd
    · obtain ⟨x, hx, howner⟩ := h.deliveries d hd
      exact ⟨x, hX.mem.mpr (.inl hx), howner⟩
    · obtain ⟨t, _, rfl⟩ := List.mem_map.mp hd
      exact ⟨_, hX.mem.mpr (.inr rfl), rfl, rfl, rfl⟩

theorem ResultsOwned.prunedHistory {runId : String} (h : ResultsOwned s) :
    ResultsOwned (deleteRunHistory runId s) := by
  refine ⟨?_, ?_⟩
  · intro x hx
    obtain ⟨hx, hne⟩ := List.mem_filter.mp hx
    obtain ⟨r, hr, hid, hstate⟩ := h.artifacts x hx
    exact ⟨r, List.mem_filter.mpr ⟨hr, by simpa only [hid] using hne⟩, hid, hstate⟩
  · intro d hd
    obtain ⟨hd, hne⟩ := List.mem_filter.mp hd
    obtain ⟨x, hx, hartifact, hrun, hjob⟩ := h.deliveries d hd
    exact ⟨x, List.mem_filter.mpr ⟨hx, by simpa only [hrun] using hne⟩, hartifact, hrun, hjob⟩

/-- 成果と意図は、成功した行のものであり続ける。 -/
theorem ResultsOwned.step (h : ResultsOwned s) (heffect : Effect E now k s s') : ResultsOwned s' := by
  have hself : ∀ d ∈ s.deliveries.rows, ∃ o ∈ s.deliveries.rows, d.identity = o.identity :=
    fun d hd => ⟨d, hd, rfl⟩
  have hkept : (∀ runId, k ≠ .prune runId) → ∀ r ∈ s.runs.rows, r.state = .succeeded →
      r ∈ s'.runs.rows := fun hk r hr hstate => heffect.succeeded hr hstate (hk r.runId)
  cases heffect with
  | aside same =>
    refine h.of_same same.artifacts ?_ ?_
    · rw [same.runs]
      exact fun r hr _ => hr
    · rw [same.deliveries]
      exact hself
  | keyed kept => exact h.of_same rfl (fun r hr _ => hr) hself
  | accepted owns executing current artifacts baseline baselines deliveries attempts runs =>
    exact h.accepted owns (hkept (by simp)) artifacts runs deliveries
  | delivery rewrites change baselines =>
    refine h.of_same rfl (fun r hr _ => hr) ?_
    intro d' hd'
    rcases rewrites.mem.mp hd' with ⟨d, hd, hp, rfl⟩ | ⟨hd, _⟩
    · exact ⟨d, hd, (change d hd hp).identity⟩
    · exact ⟨d', hd, rfl⟩
  | sent owner time pending payload alone changed deliveries attempts =>
    exact h.of_same rfl (hkept (by simp)) (replaces_identity deliveries rfl)
  | sending owns state attempt change deliveries attempts baselines =>
    exact h.of_same rfl (hkept (by simp)) (replaces_identity deliveries change.same.identity)
  | resolved origin unknown state resend same deliveries attempts baselines =>
    exact h.of_same rfl (hkept (by simp [origin])) (replaces_identity deliveries same.identity)
  | prunedHistory settled => exact h.prunedHistory
  | _ => exact h.of_same rfl (hkept (by simp)) hself

theorem Reachable.resultsOwned (h : Reachable E s) : ResultsOwned s :=
  h.invariant ⟨by simp [Store.empty], by simp [Store.empty]⟩ fun hI heffect => hI.step heffect

def EvidenceBounded (s : Store) : Prop :=
  ∀ runId attempt, lateEvidenceCount s runId attempt ≤ maxLateEvidence

theorem EvidenceBounded.of_le (h : EvidenceBounded s)
    (hle : ∀ runId attempt, lateEvidenceCount s' runId attempt ≤ lateEvidenceCount s runId attempt) :
    EvidenceBounded s' := fun runId attempt => (hle runId attempt).trans (h runId attempt)

theorem lateEvidenceCount_deleteRunRows (runId : String) (s : Store) (id : String) (attempt : Int) :
    lateEvidenceCount (deleteRunRows runId s) id attempt ≤ lateEvidenceCount s id attempt := by
  unfold lateEvidenceCount
  exact List.filter_sublist.countP_le

theorem EvidenceBounded.step (h : EvidenceBounded s) (heffect : Effect E now k s s') :
    EvidenceBounded s' := by
  cases heffect with
  | aside same =>
    intro runId attempt
    exact (same.evidence runId attempt).trans (max_le (h runId attempt) le_rfl)
  | prunedRun settled undelivered => exact h.of_le (lateEvidenceCount_deleteRunRows _ s)
  | prunedHistory settled =>
    exact h.of_le fun runId attempt => lateEvidenceCount_deleteRunRows _ _ runId attempt
  | _ => exact h.of_le fun _ _ => le_rfl

theorem Reachable.evidenceBounded (h : Reachable E s) : EvidenceBounded s :=
  h.invariant (by simp [EvidenceBounded, lateEvidenceCount, Store.empty])
    fun hI heffect => hI.step heffect

end Codeoff.State
