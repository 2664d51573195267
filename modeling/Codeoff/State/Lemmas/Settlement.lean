import Codeoff.State.Lemmas.Runs

/-!
# 実行の決着の補題

準備の失敗・実行の結果・回収・再実行・成功の受け入れが、どれも決まった形の効果の並びであること。
-/

namespace Codeoff.State

open Codeoff.Core Codeoff.Relational

variable {E : Env} {s s' : Store} {u : Unit} {now at_ : Int}

/-- 引き金が 32 件を超える証拠を断るので、証拠が増えても件数は上限を超えない。 -/
theorem lateEvidenceCount_insert {e : LateEvidenceRow} {T : Table scheduledRunLateEvidence}
    (h : s.lateEvidence.Inserts (lateEvidenceTriggers s) e T) {runId : String} {attempt : Int} :
    lateEvidenceCount { s with lateEvidence := T } runId attempt ≤
      max (lateEvidenceCount s runId attempt) maxLateEvidence := by
  have hguard := h.guarded
  unfold lateEvidenceTriggers at hguard
  split at hguard
  · cases hguard
  split at hguard
  · cases hguard
  rename_i hquota
  simp only [lateEvidenceCount, h.rows, List.countP_append, List.countP_singleton]
  split
  · rename_i hsame
    simp only [Bool.and_eq_true, beq_iff_eq] at hsame
    rw [hsame.1, hsame.2] at hquota
    omega
  · omega

def AppendsEvidence (b : RunLeaseBinding) (s s' : Store) : Prop :=
  s' = s ∨ ∃ e T, (e.runId = b.runId ∧ e.attempt = b.attempt ∧ e.fence = b.fence) ∧
    s.lateEvidence.Inserts (lateEvidenceTriggers s) e T ∧ s' = { s with lateEvidence := T }

/-- 遅れた証拠の追加は、その試行の証拠の行のほかに何も変えない。 -/
theorem appendLateEvidence_ok {evidenceId : String} {b : RunLeaseBinding}
    {kind : ScheduledRunLateEvidenceKind} {digest : String} {outcome : LateEvidenceAppendOutcome}
    (h : appendLateEvidence evidenceId b kind digest at_ s = .ok (outcome, s')) :
    AppendsEvidence b s s' := by
  unfold appendLateEvidence at h
  rw [Tx.read_bind_apply] at h
  split at h
  · cases h
    exact .inl rfl
  rw [Tx.read_bind_apply] at h
  split at h
  · cases h
    exact .inl rfl
  obtain ⟨_, s1, h1, h⟩ := Tx.bind_ok.mp h
  obtain ⟨T, hT, rfl⟩ := statement_insert_ok.mp h1
  rw [Tx.read_bind_apply] at h
  obtain ⟨_, h⟩ := Tx.require_bind_ok.mp h
  cases h
  exact .inr ⟨_, T, ⟨rfl, rfl, rfl⟩, hT, rfl⟩

theorem AppendsEvidence.effect {k : Origin} {b : RunLeaseBinding} (h : AppendsEvidence b s s') :
    Effect E now k s s' := by
  rcases h with rfl | ⟨e, T, _, hT, rfl⟩
  · exact .aside (.refl s')
  · refine .aside ⟨rfl, rfl, rfl, rfl, rfl, rfl, rfl, rfl, rfl, rfl, rfl, fun _ h => h, ?_,
      .refl _⟩
    intro runId attempt
    exact lateEvidenceCount_insert hT

theorem appendScheduledRunLateEvidence_effect {k : Origin} {evidenceId : String} {b : RunLeaseBinding}
    {kind : ScheduledRunLateEvidenceKind} {digest : String} {outcome : LateEvidenceAppendOutcome}
    (h : appendScheduledRunLateEvidence evidenceId b kind digest at_ s = .ok (outcome, s')) :
    Effect E now k s s' := by
  unfold appendScheduledRunLateEvidence at h
  obtain ⟨_, _, h⟩ := Tx.check_bind_ok.mp h
  obtain ⟨_, h⟩ := Tx.require_bind_ok.mp h
  exact (appendLateEvidence_ok h).effect

theorem liveExecution_eq_some {b : RunLeaseBinding} {r : ScheduledRunRow} {a : RunAttemptRow}
    (h : liveExecution b at_ s = some (r, a)) :
    (r ∈ s.runs.rows ∧ b.ownsRun r = true ∧ r.state = .executing ∧
        ∃ t, r.leaseExpiresAt = some t ∧ at_ < t) ∧
      (a ∈ s.attempts.rows ∧ isCurrentAttempt r a = true ∧ a.state = .executing ∧
        at_ < a.leaseExpiresAt) := by
  unfold liveExecution at h
  obtain ⟨r', hr, h⟩ := Option.bind_eq_some_iff.mp h
  obtain ⟨a', ha, h⟩ := Option.bind_eq_some_iff.mp h
  cases h
  have hpr := List.find?_some hr
  have hpa := List.find?_some ha
  simp only [Bool.and_eq_true, beq_iff_eq, Option.any_eq_true, decide_eq_true_eq] at hpr hpa
  obtain ⟨⟨howns, hexec⟩, t, ht, hlt⟩ := hpr
  exact ⟨⟨List.mem_of_find?_eq_some hr, howns, hexec, t, ht, hlt⟩,
    List.mem_of_find?_eq_some ha, hpa.1.1, hpa.1.2, hpa.2⟩

theorem closedAttempt_closes {state : RunAttemptState} {errorKind errorMessage : String}
    {a : RunAttemptRow} (h : state.isOpen = false) :
    ClosesAttempt at_ a (closedAttempt state errorKind errorMessage at_ a) :=
  ⟨rfl, rfl, rfl, rfl, h, rfl, rfl⟩

theorem rejectedAttempt_closes {state : RunAttemptState} {errorKind errorMessage : String}
    {a : RunAttemptRow} (h : state.isOpen = false) :
    ClosesAttempt at_ a (rejectedAttempt state errorKind errorMessage at_ a) :=
  ⟨rfl, rfl, rfl, rfl, h, rfl, rfl⟩

theorem snapshotDisposition_ok {b : RunLeaseBinding} {retryable : Bool} {d : PreflightFailureDisposition}
    (h : snapshotDisposition b retryable at_ s = .ok (d, s')) : s' = s := by
  unfold snapshotDisposition at h
  split at h
  · cases h
    rfl
  rw [Tx.read_bind_apply] at h
  obtain ⟨_, _, h⟩ := Tx.orElseFail_bind_ok.mp h
  cases h
  rfl

theorem preflightDisposition_ok {b : RunLeaseBinding} {disposition : PreflightFailureDisposition ⊕ Bool}
    {d : PreflightFailureDisposition} (h : preflightDisposition b disposition at_ s = .ok (d, s')) :
    s' = s := by
  cases disposition with
  | inl d' =>
    cases h
    rfl
  | inr retryable => exact snapshotDisposition_ok h

theorem recordScheduledRunPreflightFailure_effect {b : RunLeaseBinding}
    {disposition : PreflightFailureDisposition ⊕ Bool} {errorKind errorMessage : String}
    (h : recordScheduledRunPreflightFailure b disposition errorKind errorMessage at_ s = .ok (u, s')) :
    Effect E now .work s s' := by
  unfold recordScheduledRunPreflightFailure at h
  obtain ⟨_, _, h⟩ := Tx.check_bind_ok.mp h
  obtain ⟨_, _, h⟩ := Tx.check_bind_ok.mp h
  obtain ⟨_, h⟩ := Tx.require_bind_ok.mp h
  obtain ⟨d, s1, h1, h⟩ := Tx.bind_ok.mp h
  rw [preflightDisposition_ok h1] at h
  cases d with
  | retryAt retryAt =>
    obtain ⟨_, h⟩ := Tx.require_bind_ok.mp h
    refine fencedTransition_effect ?_ h
    intro r a _ hr _
    simp only [Bool.and_eq_true, beq_iff_eq] at hr
    exact .retried (by simp [ScheduledRunState.isLive, hr.1]) (rejectedAttempt_closes rfl) rfl
  | fail =>
    refine fencedTransition_effect ?_ h
    intro r a _ hr _
    simp only [Bool.and_eq_true, beq_iff_eq] at hr
    exact .settled (by simp [ScheduledRunState.isLive, hr.1]) (.inl rfl) (rejectedAttempt_closes rfl)
      rfl

/-- 実行の結果の記録は、生きている貸与の行を決着させるか、遅れた証拠を残す。 -/
theorem recordScheduledRunExecutionOutcome_effect {evidenceId : String} {b : RunLeaseBinding}
    {disposition : ScheduledExecutionDisposition} {errorKind errorMessage : String}
    {outcome : ScheduledRunExecutionOutcome}
    (h : recordScheduledRunExecutionOutcome E evidenceId b disposition errorKind errorMessage at_ s =
      .ok (outcome, s')) : Effect E now .work s s' := by
  unfold recordScheduledRunExecutionOutcome at h
  obtain ⟨_, _, h⟩ := Tx.check_bind_ok.mp h
  obtain ⟨_, _, h⟩ := Tx.check_bind_ok.mp h
  obtain ⟨_, h⟩ := Tx.require_bind_ok.mp h
  obtain ⟨_, h⟩ := Tx.require_bind_ok.mp h
  rw [Tx.read_bind_apply] at h
  cases hlive : liveExecution b at_ s with
  | none =>
    rw [hlive] at h
    obtain ⟨_, s1, h1, h⟩ := Tx.bind_ok.mp h
    cases h
    exact (appendLateEvidence_ok h1).effect
  | some pair =>
    rw [hlive] at h
    obtain ⟨transition, _, h⟩ := Tx.check_bind_ok.mp h
    cases transition with
    | inl retryAt =>
      obtain ⟨_, s1, h1, h⟩ := Tx.bind_ok.mp h
      cases h
      refine fencedTransition_effect ?_ h1
      intro r a _ hr _
      simp only [Bool.and_eq_true, beq_iff_eq] at hr
      exact .retried (by simp [ScheduledRunState.isLive, hr.1]) (closedAttempt_closes rfl) rfl
    | inr t =>
      obtain ⟨_, s1, h1, h⟩ := Tx.bind_ok.mp h
      cases h
      refine fencedTransition_effect ?_ h1
      intro r a _ hr _
      simp only [Bool.and_eq_true, beq_iff_eq] at hr
      refine .settled (by simp [ScheduledRunState.isLive, hr.1]) ?_
        (closedAttempt_closes (by cases t <;> rfl)) (by cases t <;> rfl)
      cases t <;> simp [ScheduledExecutionTerminal.runState]

/-! ## 回収 -/

theorem expiredReclaimTransition_target (state : ScheduledRunState) (runId : String)
    (attempt fence maxAttempts : Int) (safe : Bool) :
    let t := expiredReclaimTransition state runId attempt fence maxAttempts safe
    (t.runState = .pending ∨ t.runState = .failed ∨ t.runState = .outcomeUnknown) ∧
      t.attemptState.isOpen = false ∧ t.runState.settledBy t.attemptState = true := by
  unfold expiredReclaimTransition
  split
  · exact ⟨.inr (.inr rfl), rfl, rfl⟩
  · split
    · exact ⟨.inl rfl, rfl, rfl⟩
    · exact ⟨.inr (.inl rfl), rfl, rfl⟩

theorem nextExpired_eq_some {r : ScheduledRunRow} {a : RunAttemptRow}
    (h : nextExpired at_ s = some (r, a)) : r.state.isLive = true := by
  obtain ⟨o, _, ho⟩ := List.mem_filterMap.mp (first_mem h)
  split at ho
  · rename_i hlive
    obtain ⟨_, _, heq⟩ := Option.map_eq_some_iff.mp ho
    cases heq
    exact (Bool.and_eq_true_iff.mp hlive).1
  · cases ho

theorem reclaimNextExpiredScheduledRun_effect {override : Option (Int × Int)}
    {outcome : ExpiredRunReclaimOutcome}
    (h : reclaimNextExpiredScheduledRun E at_ override s = .ok (outcome, s')) : Effect E now .work s s' := by
  unfold reclaimNextExpiredScheduledRun at h
  obtain ⟨_, h⟩ := Tx.require_bind_ok.mp h
  rw [Tx.read_bind_apply] at h
  cases hnext : nextExpired at_ s with
  | none =>
    rw [hnext] at h
    cases h
    exact .aside (.refl s)
  | some pair =>
    obtain ⟨r, a⟩ := pair
    have hlive := nextExpired_eq_some hnext
    rw [hnext] at h
    dsimp only at h
    obtain ⟨safe, _, h⟩ := Tx.check_bind_ok.mp h
    obtain ⟨_, s1, h1, h⟩ := Tx.bind_ok.mp h
    cases h
    refine fencedTransition_effect ?_ h1
    intro o c _ ho _
    simp only [Bool.and_eq_true, beq_iff_eq] at ho
    obtain ⟨htarget, hclosed, hsettles⟩ := expiredReclaimTransition_target r.state r.runId r.attempt r.fence
      (override.getD (snapshotReclaimPolicy r at_)).1 safe
    exact .reclaimed (ho.1 ▸ hlive) htarget (closedAttempt_closes hclosed) hsettles

/-- 期限切れの行の調停が通るのは、引き金の認める決着だけである。 -/
theorem applyReconcile_effect {c : ScheduledRunReconcileCandidate} {b : RunLeaseBinding}
    {r : ScheduledRunRow} {t : ExpiredReclaimTransition} {retryAt : Option Int}
    {outcome : ScheduledRunReconcileOutcome} (hlive : r.state.isLive = true)
    (htarget : t.runState = .pending ∨ t.runState = .failed ∨ t.runState = .outcomeUnknown)
    (hclosed : t.attemptState.isOpen = false)
    (hsettles : t.runState.settledBy t.attemptState = true) (hfound : r ∈ s.runs.rows)
    (hb : b.ownsRun r = true) (hseen : r.leaseExpiresAt = some c.leaseExpiresAt)
    (hdue : c.leaseExpiresAt ≤ at_) (hupd : r.updatedAt ≤ at_)
    (h : applyReconcile c b r t retryAt at_ s = .ok (outcome, s')) : Effect E now .work s s' := by
  unfold applyReconcile at h
  obtain ⟨n, s1, h1, h⟩ := Tx.bind_ok.mp h
  obtain ⟨R, hR, rfl, rfl⟩ := updateRuns_ok.mp h1
  have hrep := runs_replaces b.runId hR.toRewrites (by
    intro o ho
    simp only [Bool.and_eq_true] at ho
    exact (RunLeaseBinding.ownsRun_iff.mp ho.1.1.1.1).1) hfound (by simp [hb, hseen, hdue, hupd])
  split at h
  · rename_i hcount
    -- 直前に読んだ行が条件を満たすので、対象はちょうど一行である。
    have hone : s.runs.rows.countP (fun o => b.ownsRun o && o.state == r.state
        && o.leaseExpiresAt == some c.leaseExpiresAt && o.leaseExpiresAt.any (· ≤ at_)
        && decide (o.updatedAt ≤ at_)) = 1 := by
      rw [s.runs.countP_eq_one_iff]
      · exact ⟨r, hfound, by simp [hb, hseen, hdue, hupd]⟩
      · intro x _ y _ hx hy
        simp only [Bool.and_eq_true] at hx hy
        have hxid := (RunLeaseBinding.ownsRun_iff.mp hx.1.1.1.1).1
        have hyid := (RunLeaseBinding.ownsRun_iff.mp hy.1.1.1.1).1
        simp [scheduledRuns, hxid, hyid]
    simp [hone] at hcount
  · obtain ⟨m, s2, h2, h⟩ := Tx.bind_ok.mp h
    obtain ⟨A, hA, rfl, rfl⟩ := updateAttempts_ok.mp h2
    obtain ⟨hm, h⟩ := Tx.require_bind_ok.mp h
    cases h
    obtain ⟨a, ha, hpa⟩ := exists_of_countP hm
    have hrepA := attempts_replaces b.runId b.attempt hA.toRewrites (by
      intro o ho
      simp only [Bool.and_eq_true] at ho
      obtain ⟨hid, _, hattempt, _⟩ := RunLeaseBinding.ownsAttempt_iff.mp ho.1.1.1.1
      exact ⟨hid, hattempt⟩) ha hpa
    simp only [Bool.and_eq_true] at hpa
    exact .fenced (RunLeaseBinding.isCurrentAttempt hb hpa.1.1.1.1)
      (.reclaimed hlive htarget (closedAttempt_closes hclosed) hsettles) hrep hrepA

theorem reconcileScheduledRunCandidate_effect {c : ScheduledRunReconcileCandidate}
    {outcome : ScheduledRunReconcileOutcome}
    (h : reconcileScheduledRunCandidate E c at_ s = .ok (outcome, s')) : Effect E now .work s s' := by
  unfold reconcileScheduledRunCandidate at h
  obtain ⟨_, _, h⟩ := Tx.check_bind_ok.mp h
  obtain ⟨_, _, h⟩ := Tx.check_bind_ok.mp h
  obtain ⟨hauth, h⟩ := Tx.require_bind_ok.mp h
  rw [Tx.read_bind_apply] at h
  cases hfind : s.runs.rows.find? fun r => r.runId == c.runId with
  | none =>
    rw [hfind] at h
    cases h
    exact .aside (.refl s)
  | some r =>
    rw [hfind] at h
    dsimp only at h
    split at h
    · cases h
      exact .aside (.refl s)
    rename_i hseen
    split at h
    · cases h
      exact .aside (.refl s)
    rename_i hdue
    rw [Tx.read_bind_apply] at h
    obtain ⟨safe, _, h⟩ := Tx.check_bind_ok.mp h
    split at h
    · cases h
      exact .aside (.refl s)
    simp only [Bool.not_eq_true', Bool.not_eq_false, ScheduledRunReconcileCandidate.observes,
      Bool.and_eq_true, beq_iff_eq] at hseen
    obtain ⟨⟨⟨⟨hstate, hattempt⟩, hfence⟩, howner⟩, hlease⟩ := hseen
    simp only [gt_iff_lt, Bool.or_eq_true, decide_eq_true_eq, not_or, not_lt] at hdue
    simp only [Bool.and_eq_true] at hauth
    have ⟨htarget, hclosed, hsettles⟩ := expiredReclaimTransition_target r.state r.runId r.attempt r.fence
      (if (r.policy.1.runRetryAt r.runId r.attempt r.scheduledFor at_).isSome then
        (r.policy.1.runMaxAttempts : Int) else r.attempt) safe
    refine applyReconcile_effect (hstate ▸ hauth.1.1.1.1) htarget hclosed hsettles
      (List.mem_of_find?_eq_some hfind) ?_ hlease hdue.1 hdue.2 h
    rw [RunLeaseBinding.ownsRun_iff]
    exact ⟨rfl, rfl, rfl, rfl, howner⟩

/-! ## 運用者による再実行 -/

theorem insertOperatorActionOrIgnore_effect {a : OperatorActionRow} {n : Nat}
    (h : insertOperatorActionOrIgnore a s = .ok (n, s')) : SameCore s s' := by
  obtain ⟨T, hT, rfl⟩ := statement_ok.mp h
  refine ⟨rfl, rfl, rfl, rfl, rfl, rfl, rfl, rfl, rfl, rfl, rfl, ?_, fun _ _ => le_max_left _ _, .refl _⟩
  intro x hx
  split at hT
  · cases hT
  split at hT
  · cases hinsert : s.operatorActions.insert noInsertTrigger a with
    | error e =>
      rw [hinsert] at hT
      cases hT
    | ok U =>
      rw [hinsert] at hT
      cases hT
      exact (Table.insert_ok.mp hinsert).mem.mpr (.inl hx)
  · cases hT
    exact hx

theorem insertOperatorAction_effect {request : SchedulerOperatorRequest} {a : OperatorActionInsert}
    {outcome : OperatorActionInsertOutcome}
    (h : insertOperatorAction E request a s = .ok (outcome, s')) : SameCore s s' := by
  unfold insertOperatorAction at h
  obtain ⟨_, h⟩ := Tx.require_bind_ok.mp h
  obtain ⟨n, s1, h1, h⟩ := Tx.bind_ok.mp h
  have hsame := insertOperatorActionOrIgnore_effect h1
  split at h
  · cases h
    exact hsame
  · rw [Tx.read_bind_apply] at h
    cases h
    exact hsame

theorem consumeAction_effect {message : String} {kind : OperatorTargetKind} {targetId : String}
    {p : OperatorActionRow → Bool} (h : consumeAction message kind targetId at_ p s = .ok (u, s')) :
    SameCore s s' := by
  unfold consumeAction at h
  rw [Tx.read_bind_apply] at h
  generalize (s.operatorActions.rows.filter fun a => p a && !consumed s a) = matching at h
  rcases matching with _ | ⟨a, _ | ⟨_, _⟩⟩
  · cases h
  · obtain ⟨T, _, rfl⟩ := statement_insert_ok.mp h
    exact ⟨rfl, rfl, rfl, rfl, rfl, rfl, rfl, rfl, rfl, rfl, rfl, fun _ h => h,
      fun _ _ => le_max_left _ _, .refl _⟩
  · cases h

theorem consumeAction_ok {message : String} {kind : OperatorTargetKind} {targetId : String}
    {p : OperatorActionRow → Bool} (h : consumeAction message kind targetId at_ p s = .ok (u, s')) :
    ∃ a ∈ s.operatorActions.rows, p a = true := by
  unfold consumeAction at h
  rw [Tx.read_bind_apply] at h
  cases hmatch : s.operatorActions.rows.filter fun a => p a && !consumed s a with
  | nil =>
    rw [hmatch] at h
    cases h
  | cons a as =>
    have ha : a ∈ s.operatorActions.rows.filter fun a => p a && !consumed s a := by simp [hmatch]
    obtain ⟨hmem, hp⟩ := List.mem_filter.mp ha
    exact ⟨a, hmem, (Bool.and_eq_true_iff.mp hp).1⟩

theorem requeueRun_effects {request : SchedulerOperatorRequest} {r : ScheduledRunRow}
    {nextAttemptAt : Int} {outcome : SchedulerOperatorMutationOutcome} (hr : r.state.isRetryable = true)
    (h : requeueRun request r nextAttemptAt s = .ok (outcome, s')) :
    outcome = .conflict ∨ Relation.ReflTransGen (Effect E now (.retry r.runId)) s s' := by
  unfold requeueRun at h
  obtain ⟨n, s1, h1, h⟩ := Tx.bind_ok.mp h
  obtain ⟨R, hR, rfl, rfl⟩ := updateRuns_ok.mp h1
  split at h
  · cases h
    exact .inl rfl
  rename_i hcount
  simp only [bne_iff_ne, ne_eq, not_not] at hcount
  obtain ⟨o, ho, hpo⟩ := exists_of_countP (beq_iff_eq.mpr hcount)
  have hrep := runs_replaces r.runId hR.toRewrites (by
    intro x hx
    simp only [Bool.and_eq_true, beq_iff_eq] at hx
    exact hx.1.1.1.1) ho hpo
  simp only [Bool.and_eq_true, beq_iff_eq] at hpo
  obtain ⟨_, s2, h2, h⟩ := Tx.bind_ok.mp h
  cases h
  have hrequeued : Effect E now (.retry o.runId) s { s with runs := R } := .requeued (hpo.1.2 ▸ hr) hrep
  rw [hpo.1.1.1.1] at hrequeued
  exact .inr (.tail (.single hrequeued) (.aside (consumeAction_effect h2)))

/-- 運用者のやり直しは、名指した実行を待ちに戻す効果の列である。 -/
theorem operatorRetryScheduledRun_effects {request : SchedulerOperatorRequest} {runId : String}
    {attempt fence : Int} {reasonJson reasonDigest : String} {nextAttemptAt : Int}
    {outcome : SchedulerOperatorMutationOutcome}
    (h : operatorRetryScheduledRun E request runId attempt fence reasonJson reasonDigest nextAttemptAt s =
      .ok (outcome, s')) : Relation.ReflTransGen (Effect E now (.retry runId)) s s' := by
  unfold operatorRetryScheduledRun at h
  obtain ⟨t, ht, rfl⟩ := Tx.rollbackIf_ok.mp h
  clear h
  rename' ht => h
  obtain ⟨_, _, h⟩ := Tx.check_bind_ok.mp h
  obtain ⟨_, _, h⟩ := Tx.check_bind_ok.mp h
  obtain ⟨_, _, h⟩ := Tx.check_bind_ok.mp h
  obtain ⟨_, h⟩ := Tx.require_bind_ok.mp h
  obtain ⟨_, h⟩ := Tx.require_bind_ok.mp h
  rw [Tx.read_bind_apply] at h
  split
  · exact .refl
  rename_i hconflict
  cases hexisting : existingOperatorRequest request s with
  | some o =>
    rw [hexisting] at h
    cases h
    exact .refl
  | none =>
    rw [hexisting] at h
    dsimp only at h
    rw [Tx.read_bind_apply] at h
    cases hfind : s.runs.rows.find? fun r => r.runId == runId && r.attempt == attempt
        && r.fence == fence with
    | none =>
      rw [hfind] at h
      cases h
      exact .refl
    | some r =>
      have hid := List.find?_some hfind
      simp only [Bool.and_eq_true, beq_iff_eq] at hid
      rw [hfind] at h
      dsimp only at h
      split at h
      · cases h
        exact .refl
      rename_i hretry
      split at h
      · cases h
        exact .refl
      obtain ⟨done, s1, h1, h⟩ := Tx.bind_ok.mp h
      have haside : Effect E now (.retry runId) s s1 := .aside (insertOperatorAction_effect h1)
      cases done with
      | replay =>
        cases h
        exact .single haside
      | conflict =>
        cases h
        exact .single haside
      | inserted =>
        simp only [Bool.or_eq_true, not_or, Bool.not_eq_true', Bool.not_eq_true,
          Bool.not_eq_false] at hretry
        rcases requeueRun_effects hretry.1 h with rfl | heffect
        · simp at hconflict
        · rw [hid.1.1] at heffect
          exact .head haside heffect

theorem compareAndSwapExecutionBaseline_ok {v : UpdateExecutionBaseline} {swapped : Bool}
    (h : compareAndSwapExecutionBaseline v s = .ok (swapped, s')) :
    ∃ B, s.baselines.Rewrites (fun b => b.jobId == v.jobId && b.baselineVersion == v.expectedVersion
        && b.baselineVersion < i64Max) (swappedBaseline v) B ∧ s' = { s with baselines := B } ∧
      swapped = (s.baselines.rows.countP (fun b => b.jobId == v.jobId
        && b.baselineVersion == v.expectedVersion && b.baselineVersion < i64Max) == 1) := by
  unfold compareAndSwapExecutionBaseline at h
  obtain ⟨_, _, h⟩ := Tx.check_bind_ok.mp h
  obtain ⟨_, _, h⟩ := Tx.check_bind_ok.mp h
  obtain ⟨_, _, h⟩ := Tx.check_bind_ok.mp h
  obtain ⟨_, h⟩ := Tx.require_bind_ok.mp h
  obtain ⟨n, s1, h1, h⟩ := Tx.bind_ok.mp h
  obtain ⟨B, hB, rfl, rfl⟩ := updateBaselines_ok.mp h1
  cases h
  exact ⟨B, hB.toRewrites, rfl, rfl⟩

theorem compareAndSwapExecutionBaseline_effect {v : UpdateExecutionBaseline} {swapped : Bool}
    (h : compareAndSwapExecutionBaseline v s = .ok (swapped, s')) : Effect E now .swap s s' := by
  obtain ⟨B, hB, rfl, _⟩ := compareAndSwapExecutionBaseline_ok h
  exact .swapped hB

end Codeoff.State
