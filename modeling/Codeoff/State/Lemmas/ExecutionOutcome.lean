import Codeoff.State.Lemmas.Lifecycle
import Codeoff.State.Lemmas.ResultInvariants

/-!
# 実行の結果の記録が確定する条件

実行中の実行を決着させる文の、書く行の制約。
-/

namespace Codeoff.State

open Codeoff.Core Codeoff.Relational

variable {E : Env} {s s' : Store} {now : Int} {k : Origin} {b : RunLeaseBinding} {r : ScheduledRunRow}
  {a : RunAttemptRow}

/-- 実行の鍵の列が変わらず、実行枠を新たに占めない。 -/
structure SameRunKeys (r r' : ScheduledRunRow) : Prop where
  runId : r'.runId = r.runId
  jobId : r'.jobId = r.jobId
  scheduledFor : r'.scheduledFor = r.scheduledFor
  slot : r'.overlapSlot = r.overlapSlot ∨ r'.overlapSlot = none

theorem SameRunKeys.conflict {r' o : ScheduledRunRow} (h : SameRunKeys r r')
    (hfree : scheduledRuns.conflict r o = false) : scheduledRuns.conflict r' o = false := by
  simp only [scheduledRuns, Bool.or_eq_false_iff] at hfree ⊢
  rw [h.runId, h.jobId, h.scheduledFor]
  refine ⟨hfree.1, ?_⟩
  rcases h.slot with hslot | hslot
  · rw [hslot]
    exact hfree.2
  · simp [hslot, sameKey]

theorem updateRuns_one {p : ScheduledRunRow → Bool} {f : ScheduledRunRow → ScheduledRunRow}
    (hr : r ∈ s.runs.rows) (hp : p r = true) (hid : ∀ o, p o = true → o.runId = r.runId)
    (htrigger : runTriggers s r (f r) = none) (hcheck : (f r).Check) (hkeys : SameRunKeys r (f r)) :
    ∃ R, updateRuns p f s = .ok (1, { s with runs := R }) ∧ s.runs.Replaces r (f r) R := by
  obtain ⟨R, hR, hreplaces⟩ := s.runs.update_one (runTriggers s) hr hp
    (fun o ho hpo => eq_of_runId hr ho (hid o hpo)) (by simp [scheduledRuns]) htrigger
    (decide_eq_true hcheck) (fun o _ _ hfree => hkeys.conflict hfree)
  exact ⟨R, statement_ok.mpr ⟨R, hR, rfl⟩, hreplaces⟩

theorem updateAttempts_one {p : RunAttemptRow → Bool} {f : RunAttemptRow → RunAttemptRow}
    (ha : a ∈ s.attempts.rows) (hp : p a = true)
    (hid : ∀ o, p o = true → o.runId = a.runId ∧ o.attempt = a.attempt) (hcheck : (f a).Check)
    (hkeys : (f a).runId = a.runId ∧ (f a).attempt = a.attempt ∧ (f a).fence = a.fence) :
    ∃ A, updateAttempts p f s = .ok (1, { s with attempts := A }) ∧ s.attempts.Replaces a (f a) A := by
  obtain ⟨A, hA, hreplaces⟩ := s.attempts.update_one noTrigger ha hp (by
      intro o ho hpo
      exact s.attempts.eq_of_conflict ho ha (by simp [scheduledRunAttempts, (hid o hpo).1, (hid o hpo).2]))
    (by simp [scheduledRunAttempts]) rfl (decide_eq_true hcheck) (by
      intro o _ _ hfree
      simpa only [scheduledRunAttempts, hkeys.1, hkeys.2.1, hkeys.2.2] using hfree)
  exact ⟨A, statement_ok.mpr ⟨A, hA, rfl⟩, hreplaces⟩

theorem fencedTransition_commits {onRun : ScheduledRunRow → Bool}
    {toRun : ScheduledRunRow → ScheduledRunRow} {onAttempt : RunAttemptRow → Bool}
    {toAttempt : RunAttemptRow → RunAttemptRow} (hr : r ∈ s.runs.rows) (hb : b.ownsRun r = true)
    (hon : onRun r = true) (ha : a ∈ s.attempts.rows) (hba : b.ownsAttempt a = true)
    (hona : onAttempt a = true) (htrigger : runTriggers s r (toRun r) = none)
    (hcheck : (toRun r).Check) (hkeys : SameRunKeys r (toRun r)) (hcheckA : (toAttempt a).Check)
    (hkeysA : (toAttempt a).runId = a.runId ∧ (toAttempt a).attempt = a.attempt ∧
      (toAttempt a).fence = a.fence) :
    ∃ R A, fencedTransition b onRun toRun onAttempt toAttempt s =
        .ok ((), { s with runs := R, attempts := A }) ∧
      s.runs.Replaces r (toRun r) R ∧ s.attempts.Replaces a (toAttempt a) A := by
  obtain ⟨hrid, _, _⟩ := RunLeaseBinding.ownsRun_iff.mp hb
  obtain ⟨haid, _, haattempt, _⟩ := RunLeaseBinding.ownsAttempt_iff.mp hba
  obtain ⟨R, hR, hrep⟩ := updateRuns_one (p := fun r => b.ownsRun r && onRun r) (f := toRun) hr
    (by simp [hb, hon]) (by
      intro o ho
      rw [hrid]
      exact (RunLeaseBinding.ownsRun_iff.mp (Bool.and_eq_true_iff.mp ho).1).1) htrigger hcheck hkeys
  obtain ⟨A, hA, hrepA⟩ := updateAttempts_one (s := { s with runs := R })
    (p := fun a => b.ownsAttempt a && onAttempt a) (f := toAttempt) ha (by simp [hba, hona]) (by
      intro o ho
      rw [haid, haattempt]
      obtain ⟨h1, _, h3, _⟩ := RunLeaseBinding.ownsAttempt_iff.mp (Bool.and_eq_true_iff.mp ho).1
      exact ⟨h1, h3⟩) hcheckA hkeysA
  refine ⟨R, A, ?_, hrep, hrepA⟩
  unfold fencedTransition
  rw [Tx.bind_of_ok hR, Tx.require_bind_of (by rfl), Tx.bind_of_ok hA]
  exact Tx.require_ok.mpr ⟨by rfl, rfl⟩

def ExecutingBound (s : Store) : Prop :=
  ∀ r ∈ s.runs.rows, r.state = .executing → ∃ b : RunLeaseBinding, b.validate = .ok () ∧ b.ownsRun r = true

theorem RunChange.executingBound {r' : ScheduledRunRow} {a' : RunAttemptRow} (h : RunChange r a r' a')
    (hold : r.state = .executing → ∃ b : RunLeaseBinding, b.validate = .ok () ∧ b.ownsRun r = true)
    (hstate : r'.state = .executing) : ∃ b : RunLeaseBinding, b.validate = .ok () ∧ b.ownsRun r' = true := by
  cases h with
  | extended live lease held later isOpen => exact hold hstate
  | started bound owns valid leased attempt => exact ⟨_, bound, owns⟩
  | retried live closes outcome => cases hstate
  | settled live terminal closes outcome =>
    rcases terminal with rfl | rfl | rfl | rfl <;> cases hstate
  | reclaimed live target closes outcome =>
    simp only [reclaimedRun] at hstate
    rcases target with h | h | h <;> rw [h] at hstate <;> cases hstate

/-- 実行中の行とその試行の結びつきは、どの効果でも保たれる。 -/
theorem ExecutingBound.step (h : ExecutingBound s) (heffect : Effect E now k s s') :
    ExecutingBound s' := by
  have hcancels : ∀ {jobId : String} {generation at_ : Int} {R : Table scheduledRuns}
      {A : Table scheduledRunAttempts}, Cancels s jobId generation at_ R A → ∀ o ∈ R.rows,
      o.state = .executing → ∃ b : RunLeaseBinding, b.validate = .ok () ∧ b.ownsRun o = true := by
    intro jobId generation at_ R A hcancel o ho hstate
    rcases hcancel.runs.mem.mp ho with ⟨x, _, _, rfl⟩ | ⟨ho, _⟩
    · cases hstate
    · exact h o ho hstate
  cases heffect with
  | aside same =>
    unfold ExecutingBound
    rw [same.runs]
    exact h
  | updated time valid found jobId generation next jobs cancels schedules targets =>
    exact hcancels cancels
  | stopped becomes jobs cancels schedules => exact hcancels cancels
  | materialized found active schedule jobId nextRunAt overdue readable coalesced baselines owner runs
      advances =>
      intro o ho hstate
      rcases runs.mem.mp ho with ho | rfl
      · exact h o ho hstate
      · cases hstate
  | swept runs =>
    intro o ho hstate
    rcases runs.mem.mp ho with ⟨x, _, _, rfl⟩ | ⟨ho, _⟩
    · cases hstate
    · exact h o ho hstate
  | leased claimable runs attempts =>
    intro o ho hstate
    rcases runs.mem.mp ho with rfl | ⟨ho, _⟩
    · cases hstate
    · exact h o ho hstate
  | fenced current change runs attempts =>
    intro o ho hstate
    rcases runs.mem.mp ho with rfl | ⟨ho, _⟩
    · exact change.executingBound (h _ runs.mem_old) hstate
    · exact h o ho hstate
  | requeued retryable runs =>
    intro o ho hstate
    rcases runs.mem.mp ho with rfl | ⟨ho, _⟩
    · cases hstate
    · exact h o ho hstate
  | accepted owns executing current artifacts baseline baselines deliveries attempts runs =>
    intro o ho hstate
    rcases runs.mem.mp ho with rfl | ⟨ho, _⟩
    · cases hstate
    · exact h o ho hstate
  | prunedRun settled undelivered => exact fun o ho => h o (List.mem_filter.mp ho).1
  | prunedHistory settled => exact fun o ho => h o (List.mem_filter.mp ho).1
  | _ => exact h

theorem Reachable.executingBound (h : Reachable E s) : ExecutingBound s :=
  h.invariant (by simp [ExecutingBound, Store.empty]) ExecutingBound.step

theorem RunLeaseBinding.eq_of_owns {b' : RunLeaseBinding} (h : b.ownsRun r = true)
    (h' : b'.ownsRun r = true) : b' = b := by
  obtain ⟨h1, h2, h3, h4, h5⟩ := ownsRun_iff.mp h
  obtain ⟨g1, g2, g3, g4, g5⟩ := ownsRun_iff.mp h'
  have howner : b'.leaseOwner = b.leaseOwner := Option.some.inj (g5.symm.trans h5)
  cases b
  cases b'
  simp_all

theorem ExecutingBound.validate (h : ExecutingBound s) (hr : r ∈ s.runs.rows)
    (hstate : r.state = .executing) (hb : b.ownsRun r = true) : b.validate = .ok () := by
  obtain ⟨b', hvalid, howns⟩ := h r hr hstate
  rwa [RunLeaseBinding.eq_of_owns hb howns] at hvalid

theorem executing_clean (hr : r ∈ s.runs.rows) (hexec : r.state = .executing) :
    r.resultHash = none ∧ r.resultContext = none := by
  obtain ⟨_, _, _, _, _, _, h7, h8, _⟩ := run_check hr
  exact ⟨h7.resolve_right (by simp [hexec]), h8.resolve_right (by simp [hexec])⟩

theorem retriedRun_check {retryAt : Int} (hr : r ∈ s.runs.rows) (hexec : r.state = .executing) :
    (retriedRun retryAt now r).Check := by
  obtain ⟨h1, h2, h3, h4, _⟩ := run_check hr
  obtain ⟨hhash, hcontext⟩ := executing_clean hr hexec
  refine ⟨h1, h2, h3, h4, ?_, .inr rfl, .inl hhash, .inl hcontext, .inl ⟨rfl, rfl⟩, ?_⟩
  · exact .inr ⟨rfl, rfl, rfl⟩
  · exact .inl ⟨rfl, rfl⟩

theorem settledRun_check {state : ScheduledRunState} {errorKind errorMessage : String}
    (hr : r ∈ s.runs.rows) (hexec : r.state = .executing)
    (hstate : state = .failed ∨ state = .timedOut ∨ state = .outcomeUnknown) :
    (settledRun state errorKind errorMessage now r).Check := by
  obtain ⟨h1, h2, h3, h4, _⟩ := run_check hr
  obtain ⟨hhash, hcontext⟩ := executing_clean hr hexec
  refine ⟨h1, h2, h3, h4, ?_, .inl rfl, .inl hhash, .inl hcontext, .inr ⟨hstate, rfl⟩, ?_⟩
  · rcases hstate with rfl | rfl | rfl <;> exact .inr ⟨rfl, rfl, rfl⟩
  · rcases hstate with rfl | rfl | rfl
    · exact .inr ⟨rfl, rfl⟩
    · exact .inr ⟨rfl, rfl⟩
    · exact .inl ⟨rfl, rfl⟩

theorem settledRun_cancelled_check {errorKind errorMessage : String} :
    ¬(settledRun .cancelled errorKind errorMessage now r).Check := by
  rintro ⟨_, _, _, _, _, _, _, _, herror, _⟩
  rcases herror with ⟨hnone, _⟩ | ⟨hstate, _⟩
  · cases hnone
  · rcases hstate with h | h | h <;> cases h

theorem closedAttempt_check {state : RunAttemptState} {errorKind errorMessage : String}
    (ha : a ∈ s.attempts.rows) (hexec : a.state = .executing) (hclosed : state.isOpen = false) :
    (closedAttempt state errorKind errorMessage now a).Check := by
  obtain ⟨h1, h2, h3, h4, h5, _, _, _⟩ := attempt_check ha
  have hprofile : a.attestedProfile.isSome = true := h5.resolve_left (by simp [hexec])
  have hstate : state ≠ .executing := by
    rintro rfl
    cases hclosed
  refine ⟨h1, h2, h3, h4, .inr hprofile, .inl hstate, ?_, .inr ⟨rfl, hclosed⟩⟩
  simp [closedAttempt, hclosed]

/-! ## 結果の記録 -/

theorem persistedProfileAllows_ok {schemaVersion : Nat}
    {accepts : ScheduledPrepareAuthority → String → String → Bool}
    {profile : Option AttestedExecutionProfileSnapshot}
    (hvalid : ∀ p, profile = some p → p.validate = .ok ()) :
    ∃ v, persistedProfileAllows E schemaVersion accepts r b profile = .ok v := by
  unfold persistedProfileAllows
  cases profile with
  | none => exact ⟨false, rfl⟩
  | some p =>
    have hparse : ∃ value, Json.parse p.canonicalJson = some value := by
      obtain ⟨_, hsnapshot, _⟩ := except_bind_ok.mp (hvalid p rfl)
      unfold validateCanonicalSnapshot canonicalizeSnapshot at hsnapshot
      cases hjson : Json.parse p.canonicalJson with
      | some value => exact ⟨value, rfl⟩
      | none =>
        rw [hjson] at hsnapshot
        split at hsnapshot
        · cases hsnapshot
        · rename_i heq
          split at heq <;> [skip; split at heq] <;> cases heq
    obtain ⟨value, hjson⟩ := hparse
    simp only [hjson]
    split
    · exact ⟨false, rfl⟩
    · split
      · exact ⟨false, rfl⟩
      · split
        · exact ⟨false, rfl⟩
        · exact ⟨_, rfl⟩

def RetryExhausted (b : RunLeaseBinding) (r : ScheduledRunRow) (retryAt now : Int) : Prop :=
  (r.policy.1.runMaxAttempts : Int) ≤ b.attempt ∨
  ∀ deadline, r.policy.1.runDeadlineAt r.scheduledFor = some deadline → deadline ≤ now ∨ deadline ≤ retryAt

def RecordsCancelled (E : Env) (b : RunLeaseBinding) (disposition : ScheduledExecutionDisposition)
    (r : ScheduledRunRow) (a : RunAttemptRow) (now : Int) : Prop :=
  match disposition with
  | .terminal t => t = .cancelled
  | .retryAt retryAt _ _ exhausted => exhausted = .cancelled ∧
    persistedProfileAllowsRetry E r b a.attestedProfile = .ok true ∧ RetryExhausted b r retryAt now

section

variable {retryAt deadlineAt maxAttempts : Int} {exhausted : ScheduledExecutionTerminal}

theorem executionOutcomeTransition_exhausted
    (hallows : persistedProfileAllowsRetry E r b a.attestedProfile = .ok true)
    (h : RetryExhausted b r retryAt now) :
    executionOutcomeTransition E b (.retryAt retryAt deadlineAt maxAttempts exhausted) r a now =
      .ok (.inr exhausted) := by
  simp only [executionOutcomeTransition, hallows]
  by_cases hattempt : (r.policy.1.runMaxAttempts : Int) ≤ b.attempt
  · exact if_pos hattempt
  · refine (if_neg hattempt).trans ?_
    have hdeadline := h.resolve_left hattempt
    cases hd : r.policy.1.runDeadlineAt r.scheduledFor with
    | none => rfl
    | some deadline => exact if_pos (hdeadline deadline hd)

theorem executionOutcomeTransition_retries
    (hallows : persistedProfileAllowsRetry E r b a.attestedProfile = .ok true)
    (h : ¬RetryExhausted b r retryAt now) :
    executionOutcomeTransition E b (.retryAt retryAt deadlineAt maxAttempts exhausted) r a now =
      .ok (.inl retryAt) := by
  simp only [executionOutcomeTransition, hallows]
  obtain ⟨hattempt, hdeadline⟩ := not_or.mp h
  obtain ⟨deadline, hdeadline⟩ := not_forall.mp hdeadline
  obtain ⟨hd, hopen⟩ := Classical.not_imp.mp hdeadline
  refine (if_neg hattempt).trans ?_
  rw [hd]
  exact if_neg hopen

end

/-- 結果の種類は、生きている行と試行から必ず一つに決まる。 -/
theorem executionOutcomeTransition_ok (E : Env) (b : RunLeaseBinding)
    (disposition : ScheduledExecutionDisposition) (r : ScheduledRunRow) (now : Int)
    (hvalid : ∀ p, a.attestedProfile = some p → p.validate = .ok ()) :
    ∃ t, executionOutcomeTransition E b disposition r a now = .ok t ∧
      (t = .inr .cancelled ↔ RecordsCancelled E b disposition r a now) := by
  cases disposition with
  | terminal t => exact ⟨.inr t, rfl, by simp [RecordsCancelled]⟩
  | retryAt retryAt deadlineAt maxAttempts exhausted =>
    obtain ⟨v, hv⟩ := persistedProfileAllows_ok (E := E) (r := r) (b := b) hvalid
    have hallows : persistedProfileAllowsRetry E r b a.attestedProfile = .ok v := hv
    cases v with
    | false => exact ⟨.inr .outcomeUnknown, by simp only [executionOutcomeTransition, hallows]; rfl,
        by simp [RecordsCancelled, hallows]⟩
    | true =>
      by_cases hexhausted : RetryExhausted b r retryAt now
      · refine ⟨.inr exhausted, ?_, by simp [RecordsCancelled, hallows, hexhausted]⟩
        exact executionOutcomeTransition_exhausted hallows hexhausted
      · refine ⟨.inl retryAt, ?_, by simp [RecordsCancelled, hexhausted]⟩
        exact executionOutcomeTransition_retries hallows hexhausted

theorem ownsAttempt_of_current (hb : b.ownsRun r = true) (hcurrent : isCurrentAttempt r a = true) :
    b.ownsAttempt a = true := by
  obtain ⟨hrid, hrjob, hrattempt, hrfence, hrowner⟩ := RunLeaseBinding.ownsRun_iff.mp hb
  obtain ⟨haid, hajob, haattempt, hafence, haowner⟩ := isCurrentAttempt_iff.mp hcurrent
  refine RunLeaseBinding.ownsAttempt_iff.mpr ⟨haid.trans hrid, hajob.trans hrjob, haattempt.trans hrattempt,
    hafence.trans hrfence, ?_⟩
  exact Option.some.inj (haowner.symm.trans hrowner)

/-- 束縛の実行と試行が、時刻 `now` にそろって実行中の状態を離れた。書かれた行はどの CHECK も満たす。 -/
def LeavesExecuting (b : RunLeaseBinding) (now : Int) (s : Store) : Prop :=
  ∃ r ∈ s.runs.rows, ∃ a ∈ s.attempts.rows,
    (r.runId = b.runId ∧ r.attempt = b.attempt ∧ r.fence = b.fence ∧ r.leaseOwner = none) ∧
    (a.runId = b.runId ∧ a.attempt = b.attempt ∧ a.fence = b.fence ∧ a.completedAt = some now) ∧
    r.state.settledBy a.state = true ∧ r.Check ∧ a.Check

theorem settle_commits {onRun : ScheduledRunRow → Bool} {onAttempt : RunAttemptRow → Bool}
    {toRun : ScheduledRunRow → ScheduledRunRow} {toAttempt : RunAttemptRow → RunAttemptRow}
    (hlive : liveExecution b now s = some (r, a)) (hon : onRun r = true) (hona : onAttempt a = true)
    (hresult : (toRun r).resultArtifactId = r.resultArtifactId ∧ (toRun r).resultHash = r.resultHash ∧
      (toRun r).resultContext = r.resultContext)
    (hkeys : SameRunKeys r (toRun r)) (hcheck : (toRun r).Check)
    (hnumbers : (toRun r).attempt = r.attempt ∧ (toRun r).fence = r.fence ∧ (toRun r).leaseOwner = none)
    (hcloses : ClosesAttempt now a (toAttempt a)) (hcheckA : (toAttempt a).Check)
    (hsettled : (toRun r).state.settledBy (toAttempt a).state = true) :
    ∃ s', fencedTransition b onRun toRun onAttempt toAttempt s = .ok ((), s') ∧
      LeavesExecuting b now s' := by
  obtain ⟨⟨hr, hb, hexec, _⟩, ha, hcurrent, _, _⟩ := liveExecution_eq_some hlive
  obtain ⟨hrid, _, hrattempt, hrfence, _⟩ := RunLeaseBinding.ownsRun_iff.mp hb
  obtain ⟨haid, _, haattempt, hafence, _⟩ := isCurrentAttempt_iff.mp hcurrent
  have hba := ownsAttempt_of_current hb hcurrent
  have hstate : (toRun r).state ≠ .succeeded := by
    intro h
    rw [h] at hsettled
    cases hsettled
  obtain ⟨R, A, hok, hR, hA⟩ := fencedTransition_commits hr hb hon ha hba hona
    (runTriggers_none hstate hresult.1 hresult.2.1 hresult.2.2) hcheck hkeys hcheckA
    ⟨hcloses.runId, hcloses.attempt, hcloses.fence⟩
  refine ⟨_, hok, toRun r, hR.mem.mpr (.inl rfl), toAttempt a, hA.mem.mpr (.inl rfl), ?_, ?_, hsettled,
    hcheck, hcheckA⟩
  · exact ⟨hkeys.runId.trans hrid, hnumbers.1.trans hrattempt, hnumbers.2.1.trans hrfence, hnumbers.2.2⟩
  · exact ⟨hcloses.runId.trans (haid.trans hrid), hcloses.attempt.trans (haattempt.trans hrattempt),
      hcloses.fence.trans (hafence.trans hrfence), hcloses.completedAt⟩

theorem retries_commits (retryAt : Int) (errorKind errorMessage : String)
    (hlive : liveExecution b now s = some (r, a)) :
    ∃ s', fencedTransition b (fun r => r.state == .executing && r.leaseExpiresAt.any (now < ·))
        (retriedRun retryAt now) (fun a => a.state == .executing && decide (now < a.leaseExpiresAt))
        (closedAttempt .retryScheduled errorKind errorMessage now) s = .ok ((), s') ∧
      LeavesExecuting b now s' := by
  obtain ⟨⟨hr, _, hexec, t, ht, hlt⟩, ha, _, haexec, halt⟩ := liveExecution_eq_some hlive
  have hslot := overlapSlot_of_holdsSlot hr (by simp [hexec, ScheduledRunState.holdsSlot])
  refine settle_commits hlive (by simp [hexec, ht, hlt]) (by simp [haexec, halt]) ⟨rfl, rfl, rfl⟩
    ⟨rfl, rfl, rfl, .inl hslot.symm⟩ (retriedRun_check hr hexec) ⟨rfl, rfl, rfl⟩
    (closedAttempt_closes rfl) (closedAttempt_check ha haexec rfl) rfl

/-- 取り消し以外の決着は、表の検査を通る。取り消しだけが、誤りの種類の検査に反する。 -/
theorem settles_commits {t : ScheduledExecutionTerminal} (errorKind errorMessage : String)
    (hlive : liveExecution b now s = some (r, a)) (ht : t ≠ .cancelled) :
    ∃ s', fencedTransition b (fun r => r.state == .executing && r.leaseExpiresAt.any (now < ·))
        (settledRun t.runState errorKind errorMessage now)
        (fun a => a.state == .executing && decide (now < a.leaseExpiresAt))
        (closedAttempt t.attemptState errorKind errorMessage now) s = .ok ((), s') ∧
      LeavesExecuting b now s' := by
  obtain ⟨⟨hr, _, hexec, u, hu, hlt⟩, ha, _, haexec, halt⟩ := liveExecution_eq_some hlive
  have hslot := overlapSlot_of_holdsSlot hr (by simp [hexec, ScheduledRunState.holdsSlot])
  have hstate : t.runState = .failed ∨ t.runState = .timedOut ∨ t.runState = .outcomeUnknown := by
    cases t <;> simp [ScheduledExecutionTerminal.runState] at ht ⊢
  have hclosed : t.attemptState.isOpen = false := by cases t <;> rfl
  refine settle_commits hlive (by simp [hexec, hu, hlt]) (by simp [haexec, halt]) ⟨rfl, rfl, rfl⟩
    ⟨rfl, rfl, rfl, ?_⟩ (settledRun_check hr hexec hstate) ⟨rfl, rfl, rfl⟩
    (closedAttempt_closes hclosed) (closedAttempt_check ha haexec hclosed) ?_
  · cases t <;> simp [settledRun, ScheduledExecutionTerminal.runState, hslot]
  · cases t <;> rfl

theorem cancels_fails {onRun : ScheduledRunRow → Bool} {onAttempt : RunAttemptRow → Bool}
    {toAttempt : RunAttemptRow → RunAttemptRow} {errorKind errorMessage : String} {out : Unit × Store} :
    fencedTransition b onRun (settledRun .cancelled errorKind errorMessage now) onAttempt toAttempt s ≠
      .ok out := by
  intro h
  obtain ⟨r, a, R, A, _, _, hR, _, _⟩ := fencedTransition_ok h
  exact settledRun_cancelled_check (of_decide_eq_true (R.checked _ (hR.mem.mpr (.inl rfl))))

theorem recordScheduledRunExecutionOutcome_commits_iff {evidenceId : String}
    {disposition : ScheduledExecutionDisposition} {errorKind errorMessage : String} (hbound : b.validate = .ok ())
    (hprofiles : ∀ p, a.attestedProfile = some p → p.validate = .ok ())
    (hlive : liveExecution b now s = some (r, a))
    (hkind : validateText "scheduled execution error kind" errorKind = .ok ())
    (hmessage : byteLen errorMessage ≤ maxContextBytes) (hretry : validRetryPolicy disposition now = true) :
    (∃ outcome s', recordScheduledRunExecutionOutcome E evidenceId b disposition errorKind errorMessage now
        s = .ok (outcome, s') ∧ LeavesExecuting b now s') ↔
      ¬RecordsCancelled E b disposition r a now := by
  obtain ⟨t, htransition, hcancelled⟩ := executionOutcomeTransition_ok E b disposition r now hprofiles
  rw [← hcancelled]
  unfold recordScheduledRunExecutionOutcome
  rw [Tx.check_bind_of hbound, Tx.check_bind_of (by rw [hkind]; rfl),
    Tx.require_bind_of (decide_eq_true hmessage), Tx.require_bind_of hretry, Tx.read_bind_apply, hlive]
  dsimp only
  rw [Tx.check_bind_of htransition]
  cases t with
  | inl retryAt =>
    obtain ⟨s', hok, hleaves⟩ := retries_commits retryAt errorKind errorMessage hlive
    refine iff_of_true ⟨.retried, s', ?_, hleaves⟩ (by simp)
    exact Tx.bind_of_ok hok
  | inr t =>
    by_cases ht : t = .cancelled
    · subst ht
      refine iff_of_false ?_ (by simp)
      rintro ⟨outcome, s', hok, _⟩
      obtain ⟨_, s1, h1, _⟩ := Tx.bind_ok.mp hok
      exact cancels_fails h1
    · obtain ⟨s', hok, hleaves⟩ := settles_commits errorKind errorMessage hlive ht
      refine iff_of_true ⟨.terminal t, s', ?_, hleaves⟩ (by simpa using ht)
      exact Tx.bind_of_ok hok

end Codeoff.State
