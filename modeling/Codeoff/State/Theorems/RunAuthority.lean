import Codeoff.State.Lemmas.ResultInvariants
import Codeoff.State.Theorems.Lifecycle

/-!
# 実行の権限

実行の行と試行の行が、どの操作の列の後でも同じ貸与を述べること。
-/

namespace Codeoff.State

open Codeoff.Core Codeoff.Relational

variable {E : Env} {s s' : Store}

/-! ## 実行と試行の整合 -/

structure HoldsAs (r : ScheduledRunRow) (state : RunAttemptState) (a : RunAttemptRow) : Prop where
  runId : a.runId = r.runId
  jobId : a.jobId = r.jobId
  attempt : a.attempt = r.attempt
  fence : a.fence = r.fence
  state : a.state = state
  leaseOwner : r.leaseOwner = some a.leaseOwner
  leaseExpiresAt : r.leaseExpiresAt = some a.leaseExpiresAt

structure Coherent (s : Store) (r : ScheduledRunRow) : Prop where
  numbers : ∀ n, (∃ a ∈ s.attempts.rows, a.runId = r.runId ∧ a.attempt = n) ↔ 1 ≤ n ∧ n ≤ r.attempt
  single : ∀ a ∈ s.attempts.rows, ∀ o ∈ s.attempts.rows, a.runId = r.runId → o.runId = r.runId →
    a.attempt = o.attempt → a = o
  increasing : ∀ a ∈ s.attempts.rows, ∀ o ∈ s.attempts.rows, a.runId = r.runId → o.runId = r.runId →
    a.attempt < o.attempt → a.fence < o.fence
  newest : ∀ a ∈ s.attempts.rows, a.runId = r.runId → a.attempt = r.attempt → a.fence = r.fence
  leased : r.state = .leased ↔ ∃ a ∈ s.attempts.rows, HoldsAs r .leased a
  executing : r.state = .executing ↔ ∃ a ∈ s.attempts.rows, HoldsAs r .executing a
  closed : ∀ a ∈ s.attempts.rows, a.runId = r.runId → a.attempt ≠ r.attempt ∨ r.state.isLive = false →
    a.state.isOpen = false ∧ a.completedAt.isSome = true
  slot : r.overlapSlot = some 1 ↔
    r.state = .pending ∨ r.state = .leased ∨ r.state = .executing ∨ r.state = .outcomeUnknown

theorem Bound.holdsAs {r : ScheduledRunRow} {a : RunAttemptRow} (h : Bound r a) : HoldsAs r a.state a := by
  obtain ⟨hid, hjob, hattempt, hfence, howner⟩ := isCurrentAttempt_iff.mp h.current
  exact ⟨hid, hjob, hattempt, hfence, rfl, howner, h.lease⟩

theorem OpenBound.bound {r : ScheduledRunRow} {a : RunAttemptRow} (h : OpenBound s)
    (hr : r ∈ s.runs.rows) (ha : a ∈ s.attempts.rows) (hid : a.runId = r.runId)
    (hopen : a.state.isOpen = true) : Bound r a := by
  obtain ⟨o, ho, hbound⟩ := h a ha hopen
  rwa [eq_of_runId hr ho (hbound.runId.symm.trans hid)] at hbound

/-- 実行が貸与中の状態にあるのは、その状態の試行が同じ貸与を述べるとき、そのときに限る。 -/
theorem live_iff_holds {r : ScheduledRunRow} {run : ScheduledRunState} {attempt : RunAttemptState}
    (hlive : LiveBound s) (hopen : OpenBound s) (hr : r ∈ s.runs.rows)
    (hstates : (run = .leased ∧ attempt = .leased) ∨ (run = .executing ∧ attempt = .executing)) :
    r.state = run ↔ ∃ a ∈ s.attempts.rows, HoldsAs r attempt a := by
  constructor
  · intro hstate
    obtain ⟨a, ha, hbound⟩ := hlive r hr (by
      rcases hstates with ⟨rfl, _⟩ | ⟨rfl, _⟩ <;> simp [hstate, ScheduledRunState.isLive])
    have hsame := sameLiveState_iff.mp hbound.state
    refine ⟨a, ha, ?_⟩
    have hattempt : a.state = attempt := by
      rcases hstates with ⟨rfl, rfl⟩ | ⟨rfl, rfl⟩ <;> simpa [hstate] using hsame
    exact hattempt ▸ hbound.holdsAs
  · rintro ⟨a, ha, hholds⟩
    have hbound := hopen.bound hr ha hholds.runId (by
      rcases hstates with ⟨_, rfl⟩ | ⟨_, rfl⟩ <;> simp [hholds.state, RunAttemptState.isOpen])
    have hsame := sameLiveState_iff.mp hbound.state
    rcases hstates with ⟨rfl, rfl⟩ | ⟨rfl, rfl⟩ <;> simpa [hholds.state] using hsame

theorem overlapSlot_iff {r : ScheduledRunRow} (h : r.Check) :
    r.overlapSlot = some 1 ↔
      r.state = .pending ∨ r.state = .leased ∨ r.state = .executing ∨ r.state = .outcomeUnknown := by
  obtain ⟨_, _, _, _, _, _, _, _, _, hslot⟩ := h
  rcases hslot with ⟨hholds, hslot⟩ | ⟨hfree, hslot⟩
  · simpa [hslot, ScheduledRunState.holdsSlot, or_assoc] using hholds
  · simpa [hslot, ScheduledRunState.holdsSlot, and_assoc] using hfree

theorem Coherent.of_invariants {r : ScheduledRunRow} (hnumbers : Numbered s) (hlive : LiveBound s)
    (hopen : OpenBound s) (hr : r ∈ s.runs.rows) : Coherent s r where
  numbers n := by
    constructor
    · rintro ⟨a, ha, hid, rfl⟩
      obtain ⟨o, ho, hoid, _, hle⟩ := hnumbers.owned a ha
      rw [eq_of_runId hr ho (hoid.trans hid)] at hle
      exact ⟨(attempt_check ha).1.1, hle⟩
    · rintro ⟨hpos, hle⟩
      exact hnumbers.full r hr n hpos hle
  single a ha o ho hid hoid hattempt :=
    s.attempts.eq_of_conflict ha ho (by simp [scheduledRunAttempts, hid, hoid, hattempt])
  increasing a ha o ho _ _ hlt := by
    rw [hnumbers.aligned a ha, hnumbers.aligned o ho]
    exact hlt
  newest a ha _ hattempt := by
    rw [hnumbers.aligned a ha, hnumbers.fences r hr]
    exact hattempt
  leased := live_iff_holds hlive hopen hr (.inl ⟨rfl, rfl⟩)
  executing := live_iff_holds hlive hopen hr (.inr ⟨rfl, rfl⟩)
  closed a ha hid hother := by
    have hclosed : a.state.isOpen = false := by
      rw [Bool.eq_false_iff]
      intro hisOpen
      have hbound := hopen.bound hr ha hid hisOpen
      rcases hother with hne | hidle
      · exact hne (isCurrentAttempt_iff.mp hbound.current).2.2.1
      · rw [hbound.live] at hidle
        cases hidle
    refine ⟨hclosed, ?_⟩
    obtain ⟨_, _, _, _, _, _, hcompleted, _⟩ := attempt_check ha
    rw [Option.isSome_iff_ne_none]
    intro hnone
    rw [hcompleted.mpr hnone] at hclosed
    cases hclosed
  slot := overlapSlot_iff (run_check hr)

/-- 到達するどの状態でも、実行の試行は 1 から実行の番号までちょうど一つずつあり、世代は番号とともに増え、最新の
試行が実行の世代を持つ。実行が貸与中（実行中）であるのは、現在の試行が同じ所有者と期限で貸与中（実行中）であるとき、
そのときに限り、他の試行は終わっている。 -/
theorem authority_coherent (h : Reachable E s) :
    (∀ r ∈ s.runs.rows, Coherent s r) ∧
    ∀ r ∈ s.runs.rows, ∀ o ∈ s.runs.rows, r.jobId = o.jobId → r.overlapSlot = some 1 →
      o.overlapSlot = some 1 → r = o := by
  refine ⟨fun r hr => .of_invariants h.numbered h.liveBound h.openBound hr, ?_⟩
  intro r hr o ho hjob hslot hslot'
  exact s.runs.eq_of_conflict hr ho (by simp [scheduledRuns, hjob, hslot, hslot', sameKey])

/-! ## 貸与を失った束縛 -/

/-- 束縛が、時刻 `at_` に期限の切れていない現在の貸与を指す。 -/
def HoldsLease (b : RunLeaseBinding) (at_ : Int) (s : Store) : Prop :=
  ∃ r ∈ s.runs.rows, b.ownsRun r = true ∧ r.leaseExpiresAt.any (at_ < ·) = true

instance (b : RunLeaseBinding) (at_ : Int) (s : Store) : Decidable (HoldsLease b at_ s) := by
  unfold HoldsLease
  infer_instance

theorem leasedRuns :
    (∃ r ∈ (runOps (envOf []) leasedOps).runs.rows, r.state = .leased) ∧
      ¬HoldsLease sampleBinding 100000 (runOps (envOf []) leasedOps) := by
  rw [leasedOps, runOps_occurred]
  decide +kernel

/-- 貸与された行は、開いた試行を一つ持つ。 -/
theorem leased_run_coherent :
    ∃ r ∈ (runOps (envOf []) leasedOps).runs.rows, r.state = .leased ∧
      ∃ a ∈ (runOps (envOf []) leasedOps).attempts.rows, HoldsAs r .leased a := by
  obtain ⟨r, hr, hstate⟩ := leasedRuns.1
  have hcoherent := (authority_coherent (reachable_runOps (envOf []) leasedOps)).1 r hr
  exact ⟨r, hr, hstate, hcoherent.leased.mp hstate⟩

/-- 束縛の持ち主が時刻 `at_` に呼ぶ操作。 -/
inductive WorkerOp (b : RunLeaseBinding) (at_ : Int) : Op → Prop where
  | heartbeat (leaseExpiresAt : Int) : WorkerOp b at_ (.heartbeatRun b at_ leaseExpiresAt)
  | markExecuting (profile : AttestedExecutionProfileSnapshot) :
      WorkerOp b at_ (.markExecuting b profile at_)
  | preflightFailure (disposition : PreflightFailureDisposition ⊕ Bool) (errorKind errorMessage : String) :
      WorkerOp b at_ (.preflightFailure b disposition errorKind errorMessage at_)
  | executionOutcome (evidenceId : String) (disposition : ScheduledExecutionDisposition)
      (errorKind errorMessage : String) :
      WorkerOp b at_ (.executionOutcome evidenceId b disposition errorKind errorMessage at_)
  | completeSuccess (evidenceId : String) (result : ScheduledRunResult) :
      WorkerOp b at_ (.completeSuccess evidenceId b result at_)

theorem fencedTransition_lost {b : RunLeaseBinding} {at_ : Int} {onRun : ScheduledRunRow → Bool}
    {toRun : ScheduledRunRow → ScheduledRunRow} {onAttempt : RunAttemptRow → Bool}
    {toAttempt : RunAttemptRow → RunAttemptRow} {out : Unit × Store} (hlost : ¬HoldsLease b at_ s)
    (hon : ∀ r, onRun r = true → r.leaseExpiresAt.any (at_ < ·) = true) :
    fencedTransition b onRun toRun onAttempt toAttempt s ≠ .ok out := by
  intro h
  obtain ⟨r, a, R, A, ⟨howns, honRun⟩, _, hR, _, _⟩ := fencedTransition_ok h
  exact hlost ⟨r, hR.mem_old, howns, hon r honRun⟩

theorem liveExecution_lost {b : RunLeaseBinding} {at_ : Int} (hlost : ¬HoldsLease b at_ s) :
    liveExecution b at_ s = none := by
  cases hlive : liveExecution b at_ s with
  | none => rfl
  | some pair =>
    obtain ⟨⟨hr, howns, _, t, ht, hlt⟩, _⟩ := liveExecution_eq_some hlive
    exact absurd ⟨pair.1, hr, howns, by simp [ht, hlt]⟩ hlost

theorem recordScheduledRunPreflightFailure_lost {b : RunLeaseBinding} {at_ : Int}
    {disposition : PreflightFailureDisposition ⊕ Bool} {errorKind errorMessage : String}
    {out : Unit × Store} (hlost : ¬HoldsLease b at_ s) :
    recordScheduledRunPreflightFailure b disposition errorKind errorMessage at_ s ≠ .ok out := by
  intro h
  unfold recordScheduledRunPreflightFailure at h
  obtain ⟨_, _, h⟩ := Tx.check_bind_ok.mp h
  obtain ⟨_, _, h⟩ := Tx.check_bind_ok.mp h
  obtain ⟨_, h⟩ := Tx.require_bind_ok.mp h
  obtain ⟨d, s1, h1, h⟩ := Tx.bind_ok.mp h
  rw [preflightDisposition_ok h1] at h
  have hon : ∀ r : ScheduledRunRow, (r.state == .leased && r.leaseExpiresAt.any (at_ < ·)) = true →
      r.leaseExpiresAt.any (at_ < ·) = true := fun r hr => (Bool.and_eq_true_iff.mp hr).2
  cases d with
  | retryAt retryAt =>
    obtain ⟨_, h⟩ := Tx.require_bind_ok.mp h
    exact fencedTransition_lost hlost hon h
  | fail => exact fencedTransition_lost hlost hon h

theorem recordScheduledRunExecutionOutcome_lost {evidenceId : String} {b : RunLeaseBinding} {at_ : Int}
    {disposition : ScheduledExecutionDisposition} {errorKind errorMessage : String}
    {outcome : ScheduledRunExecutionOutcome} (hlost : ¬HoldsLease b at_ s)
    (h : recordScheduledRunExecutionOutcome E evidenceId b disposition errorKind errorMessage at_ s =
      .ok (outcome, s')) : AppendsEvidence b s s' := by
  unfold recordScheduledRunExecutionOutcome at h
  obtain ⟨_, _, h⟩ := Tx.check_bind_ok.mp h
  obtain ⟨_, _, h⟩ := Tx.check_bind_ok.mp h
  obtain ⟨_, h⟩ := Tx.require_bind_ok.mp h
  obtain ⟨_, h⟩ := Tx.require_bind_ok.mp h
  rw [Tx.read_bind_apply, liveExecution_lost hlost] at h
  obtain ⟨_, s1, h1, h⟩ := Tx.bind_ok.mp h
  cases h
  exact appendLateEvidence_ok h1

theorem completeScheduledRunSuccess_lost {evidenceId : String} {b : RunLeaseBinding} {at_ : Int}
    {result : ScheduledRunResult} {outcome : ScheduledRunSuccessOutcome} (hlost : ¬HoldsLease b at_ s)
    (h : completeScheduledRunSuccess E evidenceId b result at_ s = .ok (outcome, s')) :
    AppendsEvidence b s s' := by
  rcases completeScheduledRunSuccess_ok h with ⟨_, r, a, hlive, _⟩ | ⟨_, happends⟩
  · rw [liveExecution_lost hlost] at hlive
    cases hlive
  · exact happends

/-- 貸与を失った束縛の操作は、成功しても、束縛の試行の証拠を一行まで加えるだけである。 -/
theorem WorkerOp.run_lost {b : RunLeaseBinding} {at_ : Int} {op : Op} {u : Unit} (hop : WorkerOp b at_ op)
    (hlost : ¬HoldsLease b at_ s) (h : op.run E s = .ok (u, s')) : AppendsEvidence b s s' := by
  cases hop with
  | heartbeat leaseExpiresAt =>
    simp only [Op.run, heartbeatScheduledRun] at h
    obtain ⟨_, _, h⟩ := Tx.check_bind_ok.mp h
    obtain ⟨_, h⟩ := Tx.require_bind_ok.mp h
    refine absurd h (fencedTransition_lost hlost ?_)
    intro r hr
    simp only [Bool.and_eq_true, Option.any_eq_true, decide_eq_true_eq] at hr ⊢
    obtain ⟨_, t, ht, hheld, _⟩ := hr
    exact ⟨t, ht, hheld⟩
  | markExecuting profile =>
    simp only [Op.run, markScheduledRunExecuting] at h
    obtain ⟨_, _, h⟩ := Tx.check_bind_ok.mp h
    obtain ⟨_, _, h⟩ := Tx.check_bind_ok.mp h
    refine absurd h (fencedTransition_lost hlost ?_)
    intro r hr
    exact (Bool.and_eq_true_iff.mp hr).2
  | preflightFailure disposition errorKind errorMessage =>
    exact absurd h (recordScheduledRunPreflightFailure_lost hlost)
  | executionOutcome evidenceId disposition errorKind errorMessage =>
    obtain ⟨_, h⟩ := discard_ok h
    exact recordScheduledRunExecutionOutcome_lost hlost h
  | completeSuccess evidenceId result =>
    obtain ⟨_, h⟩ := discard_ok h
    exact completeScheduledRunSuccess_lost hlost h

theorem WorkerOp.apply_lost {b : RunLeaseBinding} {at_ : Int} {op : Op} (hop : WorkerOp b at_ op)
    (hlost : ¬HoldsLease b at_ s) : AppendsEvidence b s (op.apply E s) := by
  unfold Op.apply commit
  cases h : op.run E s with
  | error e => exact .inl rfl
  | ok out => exact hop.run_lost hlost h

def Op.PrunesHistory (runId : String) : Op → Prop
  | .pruneDelivery _ id _ _ _ _ => id = runId
  | _ => False

def KeepsHistory (E : Env) (runId : String) (s s' : Store) : Prop :=
  ∃ op : Op, op.apply E s = s' ∧ ¬op.PrunesHistory runId

theorem Op.origin_prune {op : Op} {runId : String} (h : op.origin = .prune runId) :
    op.PrunesHistory runId := by
  cases op with
  | pruneDelivery operationId id runCutoff deliveryCutoff now e =>
    cases h
    rfl
  | _ => cases h

theorem KeepsHistory.artifact {x : ResultArtifactRow} (hx : x ∈ s.artifacts.rows)
    (h : KeepsHistory E x.runId s s') : x ∈ s'.artifacts.rows := by
  obtain ⟨op, rfl, hkeeps⟩ := h
  have hk : op.origin ≠ .prune x.runId := fun hk => hkeeps (Op.origin_prune hk)
  exact invariant_of_steps (I := fun t => x ∈ t.artifacts.rows)
    (fun _ _ hmem heffect => heffect.artifact_kept hmem hk) hx (op.apply_effects s)

/-- 到達するどの状態でも、現在の貸与を指さないか期限の切れた束縛による五つの操作は、その束縛の試行の遅れた証拠を一行まで
加えるほか、何も変えない。 -/
theorem stale_binding_fenced (h : Reachable E s) :
    (∀ b at_ op, WorkerOp b at_ op → ¬HoldsLease b at_ s → AppendsEvidence b s (op.apply E s)) ∧
    (∀ runId attempt, lateEvidenceCount s runId attempt ≤ 32) ∧
    (∀ e ∈ s.lateEvidence.rows, ∀ o ∈ s.lateEvidence.rows, e.runId = o.runId → e.attempt = o.attempt →
      e.fence = o.fence → e.kind = o.kind → e.evidenceDigest = o.evidenceDigest → e = o) ∧
    ∀ evidenceId b result at_ s', completeScheduledRunSuccess E evidenceId b result at_ s =
        .ok (.committed, s') →
      ∀ t, Relation.ReflTransGen (KeepsHistory E b.runId) s' t →
      ∀ evidenceId' b' result' at' t', b'.runId = b.runId →
        completeScheduledRunSuccess E evidenceId' b' result' at' t ≠ .ok (.committed, t') := by
  refine ⟨fun b at_ op hop hlost => hop.apply_lost hlost, h.evidenceBounded, ?_, ?_⟩
  · intro e he o ho hrun hattempt hfence hkind hdigest
    exact s.lateEvidence.eq_of_conflict he ho (by
      simp [scheduledRunLateEvidence, hrun, hattempt, hfence, hkind, hdigest])
  · intro evidenceId b result at_ s' haccept t hpath evidenceId' b' result' at' t' hrun hagain
    rcases completeScheduledRunSuccess_ok haccept with ⟨_, r, a, _, haccepts⟩ | ⟨hne, _⟩
    · -- 受け入れた成果は残っているので、同じ実行の成果をもう一行加えることはできない。
      have hkept : acceptedArtifact E b result at_ ∈ t.artifacts.rows :=
        invariant_of_steps (I := fun w => acceptedArtifact E b result at_ ∈ w.artifacts.rows)
          (fun _ _ hmem hstep => hstep.artifact hmem) (haccepts.artifacts.mem.mpr (.inr rfl)) hpath
      rcases completeScheduledRunSuccess_ok hagain with ⟨_, r', a', _, hagain'⟩ | ⟨hne, _⟩
      · have hfresh := hagain'.artifacts.fresh hkept
        simp [scheduledRunResultArtifacts, acceptedArtifact, hrun] at hfresh
      · exact hne rfl
    · exact hne rfl

/-- 貸与の切れた後の生存の知らせは、遅れた証拠としてだけ残る。 -/
theorem late_heartbeat_fenced :
    AppendsEvidence sampleBinding (runOps (envOf []) leasedOps)
      ((Op.heartbeatRun sampleBinding 100000 100060).apply (envOf []) (runOps (envOf []) leasedOps)) :=
  (stale_binding_fenced (reachable_runOps (envOf []) leasedOps)).1 sampleBinding 100000 _
    (.heartbeat 100060) leasedRuns.2

end Codeoff.State
