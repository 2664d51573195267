import Codeoff.Control.Sequential
import Codeoff.Runtime.StartBoundary
import Codeoff.State.Lemmas.RunRows
import Codeoff.State.Theorems.Delivery

/-!
# 始まらなかった実行の結末

始まらなかった実行は、待ち、失敗、取り消しのどれかで終わるか。
-/

namespace Codeoff.Runtime

open Codeoff.Control Codeoff.Core Codeoff.Relational Codeoff.State

namespace SupervisedRun

variable {E : Env} {claim : ClaimedScheduledRun} {profile : AttestedExecutionProfileSnapshot}
  {backend : ExecutionBackend} {w w' : SupervisedRun} {now : Int}

/-- 貸与された実行の、貸与されたときの試行の行。 -/
abbrev IsAttempt (claim : ClaimedScheduledRun) (r : ScheduledRunRow) : Prop :=
  r.runId = claim.binding.runId ∧ r.attempt = claim.binding.attempt ∧ r.fence = claim.binding.fence

def Unstarted (state : ScheduledRunState) : Prop :=
  state = .executing ∨ state = .pending ∨ state = .leased ∨ state = .failed ∨ state = .cancelled

/-- 始まらなかった実行は、結果の分からないものにならず、終われば実行中のまま残らない。 -/
def Definite (claim : ClaimedScheduledRun) (backend : ExecutionBackend) (w : SupervisedRun) : Prop :=
  w.started backend = false → ∀ r ∈ w.store.runs.rows, IsAttempt claim r →
    Unstarted r.state ∧ (w.isOver = true → r.state ≠ .executing)

/-- 回収の時刻に、実行中の行の貸与が生きているか、やり直しが許される。 -/
def LeaseHeld (E : Env) (claim : ClaimedScheduledRun) (s : Store) (now : Int) : Prop :=
  ∀ r ∈ s.runs.rows, IsAttempt claim r → ¬Abandoned E s now r

/-- 移行が効いてから実行が始まるまでのあいだに、停止も期限も失敗も回収も起こらない。 -/
def Undisturbed (E : Env) (claim : ClaimedScheduledRun) (profile : AttestedExecutionProfileSnapshot)
    (backend : ExecutionBackend) (w : SupervisedRun) : SupervisedEvent → Prop
  | .shutdownWins | .deadlineWins => w.stage ≠ .marked (.ok ())
  | .orphanLands now => w.orphaned = true → (markExecuting claim profile now w.store).1 ≠ .ok ()
  | .findsDisconnected => w.started backend = false → w.execution = .invoked → w.connected = true
  | .startFails => w.started backend = false → w.execution ≠ .invoked
  | .graceExpires _ | .heartbeatHardDeadline => w.stage = .executing → w.started backend = true
  | .rival (.reclaimRun now _) => w.started backend = false → LeaseHeld E claim w.store now
  | .rival (.reconcileRun _ now) => w.started backend = false → LeaseHeld E claim w.store now
  | _ => True

/-- 始まっていないあいだの不変条件。実行中の行は、移行の答えか実行の始まりを待っている。 -/
structure Pending (claim : ClaimedScheduledRun) (w : SupervisedRun) : Prop where
  rows : ∀ r ∈ w.store.runs.rows, IsAttempt claim r → Unstarted r.state
  executing : ∀ r ∈ w.store.runs.rows, IsAttempt claim r → r.state = .executing →
    w.stage = .marked (.ok ()) ∨ w.execution = .invoked
  returned : ∀ result, w.stage ≠ .returned result
  execution : w.execution = .notInvoked ∨ w.execution = .invoked

def Inv (claim : ClaimedScheduledRun) (backend : ExecutionBackend) (w : SupervisedRun) : Prop :=
  w.started backend = false → Pending claim w

theorem Inv.definite (h : Inv claim backend w) : Definite claim backend w := by
  intro hstarted r hr hattempt
  refine ⟨(h hstarted).rows r hr hattempt, ?_⟩
  intro hover hexec
  simp only [isOver, Bool.and_eq_true, beq_iff_eq, bne_iff_ne] at hover
  rcases (h hstarted).executing r hr hattempt hexec with hstage | hinvoked
  · rw [hstage] at hover
    cases hover.1.1
  · exact hover.2 hinvoked

theorem unstarted_of_kept {s : Store} {o : ScheduledRunRow} (h : KeptRow s o)
    (hold : ∀ r ∈ s.runs.rows, IsAttempt claim r → Unstarted r.state) (ho : IsAttempt claim o) :
    Unstarted o.state := by
  rcases h with hstate | ⟨r, hr, hsame, hstate⟩
  · exact .inr hstate
  · rw [hstate]
    exact hold r hr ⟨hsame.1 ▸ ho.1, hsame.2.1 ▸ ho.2.1, hsame.2.2 ▸ ho.2.2⟩

theorem Pending.of_keeps (h : Pending claim w)
    (hrows : ∀ o ∈ w'.store.runs.rows, IsAttempt claim o → KeptRow w.store o)
    (hwaits : w.stage = .marked (.ok ()) ∨ w.execution = .invoked →
      w'.stage = .marked (.ok ()) ∨ w'.execution = .invoked)
    (hreturned : ∀ result, w'.stage ≠ .returned result)
    (hexecution : w'.execution = .notInvoked ∨ w'.execution = .invoked) : Pending claim w' := by
  refine ⟨fun r hr hattempt => unstarted_of_kept (hrows r hr hattempt) h.rows hattempt, ?_, hreturned, hexecution⟩
  intro r hr hattempt hexec
  rcases hrows r hr hattempt with hstate | ⟨x, hx, hsame, hstate⟩
  · rw [hexec] at hstate
    rcases hstate with hstate | hstate | hstate | hstate <;> cases hstate
  · refine hwaits (h.executing x hx ?_ (hstate ▸ hexec))
    exact ⟨hsame.1 ▸ hattempt.1, hsame.2.1 ▸ hattempt.2.1, hsame.2.2 ▸ hattempt.2.2⟩

theorem Pending.of_store (h : Pending claim w) (hstore : w'.store = w.store)
    (hwaits : w.stage = .marked (.ok ()) ∨ w.execution = .invoked →
      w'.stage = .marked (.ok ()) ∨ w'.execution = .invoked)
    (hreturned : ∀ result, w'.stage ≠ .returned result)
    (hexecution : w'.execution = .notInvoked ∨ w'.execution = .invoked) : Pending claim w' := by
  refine h.of_keeps ?_ hwaits hreturned hexecution
  intro o ho _
  rw [hstore] at ho
  exact .old ho

/-! ## 一歩 -/

theorem Pending.markLands (h : Pending claim w) : Pending claim (w.markLands claim profile now) := by
  unfold SupervisedRun.markLands
  by_cases hstage : w.stage = .marking
  · rw [if_pos hstage]
    cases hmark : markScheduledRunExecuting claim.binding profile now w.store with
    | error e =>
      simp only [markExecuting, commit, hmark]
      exact h.of_store rfl (by simp [hstage]) (by simp) h.execution
    | ok out =>
      simp only [markExecuting, commit, hmark]
      refine ⟨?_, fun _ _ _ _ => .inl rfl, by simp, h.execution⟩
      intro r hr hattempt
      rcases markScheduledRunExecuting_rows hmark hr with hr | hexec
      · exact h.rows r hr hattempt
      · exact .inl hexec
  · rwa [if_neg hstage]

theorem Pending.orphanLands (h : Pending claim w)
    (hfails : w.orphaned = true → (markExecuting claim profile now w.store).1 ≠ .ok ()) :
    Pending claim (w.orphanLands claim profile now) := by
  unfold SupervisedRun.orphanLands
  by_cases horphaned : w.orphaned = true
  · rw [if_pos horphaned]
    cases hmark : markScheduledRunExecuting claim.binding profile now w.store with
    | error e =>
      simp only [markExecuting, commit, hmark]
      exact h.of_store rfl id h.returned h.execution
    | ok out => simp [markExecuting, commit, hmark, horphaned] at hfails
  · rwa [if_neg horphaned]

theorem Pending.markAnswered (h : Pending claim w) : Pending claim w.markAnswered := by
  unfold SupervisedRun.markAnswered
  split
  · exact h.of_store rfl (fun _ => .inr rfl) (by simp) (.inr rfl)
  · rename_i hstage
    exact h.of_store rfl (by simp [hstage]) (by simp) h.execution
  · rename_i hstage
    exact h.of_store rfl (by simp [hstage]) (by simp) h.execution
  · exact h

theorem Pending.interrupts (h : Pending claim w) (failure : PrepareFailure) (hstage : w.stage ≠ .marked (.ok ())) :
    Pending claim (w.interrupts failure) := by
  unfold SupervisedRun.interrupts
  split
  · rename_i hmarking
    exact h.of_store rfl (by simp [hmarking]) (by simp) h.execution
  · exact h.of_store rfl (by simp [hstage]) (by simp) h.execution
  · exact h

theorem Pending.recordsFailure (h : Pending claim w) : Pending claim (w.recordsFailure claim now) := by
  unfold SupervisedRun.recordsFailure
  split
  · rename_i failure hstage
    have hkeeps : KeepsRows w.store (commit (recordScheduledRunPreflightFailure claim.binding
        (.inr failure.retryable) failure.kind failure.message now) w.store).2 :=
      .commit fun _ _ => recordScheduledRunPreflightFailure_keepsRows
    split
    · exact h.of_store rfl (by simp [hstage]) (by simp) h.execution
    · rename_i heq
      rw [heq] at hkeeps
      exact h.of_keeps (fun o ho _ => hkeeps o ho) (by simp [hstage]) (by simp) h.execution
  · exact h

theorem Pending.appendsEvidence (h : Pending claim w) (evidenceId : String) :
    Pending claim (w.appendsEvidence E claim evidenceId now) := by
  unfold SupervisedRun.appendsEvidence
  split
  · rename_i executed hstage
    have hkeeps : KeepsRows w.store (commit (appendScheduledRunLateEvidence evidenceId claim.binding
        (evidenceKind executed) (E.sha256Hex (utf8Bytes (evidenceText executed))) now) w.store).2 :=
      .commit fun _ _ => appendScheduledRunLateEvidence_keepsRows
    exact h.of_keeps (fun o ho _ => hkeeps o ho) (by simp [hstage]) (by simp) h.execution
  · exact h

theorem Pending.recordsResult (h : Pending claim w) (evidenceId : String) (request : Option RunCommit) :
    w.recordsResult E claim evidenceId now request = w := by
  unfold SupervisedRun.recordsResult
  split
  · rename_i result _ hstage
    exact absurd hstage (h.returned result)
  · rfl

theorem apply_rows {op : Op} {s : Store} {Q : ScheduledRunRow → Prop} (hold : ∀ o ∈ s.runs.rows, Q o)
    (hrun : ∀ u s', op.run E s = .ok (u, s') → ∀ o ∈ s'.runs.rows, Q o) : ∀ o ∈ (op.apply E s).runs.rows, Q o := by
  unfold Op.apply commit
  cases h : op.run E s with
  | error e => exact hold
  | ok out => exact hrun out.1 out.2 h

theorem keptRow_rival {op : Op} (hrivals : rivals op = true) (hstarted : w.started backend = false)
    (hmeets : Undisturbed E claim profile backend w (.rival op)) :
    ∀ o ∈ (op.apply E w.store).runs.rows, IsAttempt claim o → KeptRow w.store o := by
  have hheld {now : Int} {o : ScheduledRunRow} (hlease : LeaseHeld E claim w.store now) (ho : IsAttempt claim o)
      (h : KeptRow w.store o ∨ ∃ r ∈ w.store.runs.rows, r.SameNumbers o ∧ Abandoned E w.store now r) :
      KeptRow w.store o := by
    rcases h with h | ⟨r, hr, hsame, habandoned⟩
    · exact h
    · refine absurd habandoned (hlease r hr ?_)
      exact ⟨hsame.1 ▸ ho.1, hsame.2.1 ▸ ho.2.1, hsame.2.2 ▸ ho.2.2⟩
  cases op with
  | claimRun leaseOwner now lease admission mutationNow =>
    refine apply_rows (fun o ho _ => .old ho) ?_
    intro u s' h o ho _
    obtain ⟨_, h⟩ := discard_ok h
    exact claimNextScheduledRun_keepsRows h o ho
  | heartbeatRun b now leaseExpiresAt =>
    refine apply_rows (fun o ho _ => .old ho) ?_
    intro u s' h o ho _
    exact heartbeatScheduledRun_keepsRows h o ho
  | reclaimRun now override =>
    refine apply_rows (fun o ho _ => .old ho) ?_
    intro u s' h o ho hattempt
    obtain ⟨_, h⟩ := discard_ok h
    exact hheld (hmeets hstarted) hattempt (reclaimNextExpiredScheduledRun_rows h ho)
  | reconcileRun c now =>
    refine apply_rows (fun o ho _ => .old ho) ?_
    intro u s' h o ho hattempt
    obtain ⟨_, h⟩ := discard_ok h
    exact hheld (hmeets hstarted) hattempt (reconcileScheduledRunCandidate_rows h ho)
  | update | pause | delete | mutate | materialize | retryRun =>
    intro o ho _
    exact Op.keepsRows_of_origin (by simp [Op.origin]) o ho
  | _ => simp [rivals] at hrivals

theorem started_step (h : w.started backend = true) (e : SupervisedEvent) :
    (w.step E claim profile backend e).started backend = true := by
  cases e with
  | executionStarts =>
    simp only [step, executionStarts]
    split
    · cases backend <;> simp [started]
    · exact h
  | graceExpires shutdown =>
    cases shutdown <;> (simp only [step, settlesAs]; split <;> exact h)
  | _ =>
    simp only [step, markLands, orphanLands, markAnswered, interrupts, recordsFailure, givesUp,
      findsDisconnected, startFails, executionConcludes, executionReturns, settlesAs, recordsResult,
      appendsEvidence]
    repeat' split
    all_goals first | exact h | (cases backend <;> simp_all [started])

theorem Inv.step (h : Inv claim backend w) (e : SupervisedEvent)
    (hmeets : Undisturbed E claim profile backend w e) : Inv claim backend (w.step E claim profile backend e) := by
  intro hafter
  have hbefore : w.started backend = false := by
    by_contra hstarted
    rw [started_step (Bool.eq_true_of_not_eq_false hstarted) e] at hafter
    cases hafter
  have hp := h hbefore
  have hrunning : w.execution ≠ .running := by
    rcases hp.execution with h | h <;> simp [h]
  cases e with
  | rejects failure =>
    simp only [SupervisedRun.step]
    split
    · rename_i hstage
      exact hp.of_store rfl (by simp [hstage]) (by simp) hp.execution
    · exact hp
  | marks =>
    simp only [SupervisedRun.step]
    split
    · rename_i hstage
      exact hp.of_store rfl (by simp [hstage]) (by simp) hp.execution
    · exact hp
  | markLands now => exact hp.markLands
  | orphanLands now => exact hp.orphanLands hmeets
  | markAnswered => exact hp.markAnswered
  | shutdownWins => exact hp.interrupts _ hmeets
  | deadlineWins => exact hp.interrupts _ hmeets
  | recordsFailure now => exact hp.recordsFailure
  | givesUp =>
    simp only [SupervisedRun.step, givesUp]
    split
    · rename_i hstage
      exact hp.of_store rfl (by simp [hstage]) (by simp) hp.execution
    · rename_i result hstage
      exact absurd hstage (hp.returned result)
    · exact hp
  | disconnects => exact hp.of_store rfl id hp.returned hp.execution
  | executionStarts =>
    simp only [SupervisedRun.step, executionStarts] at hafter ⊢
    split
    · rename_i hstarts
      rw [if_pos hstarts] at hafter
      cases backend <;> simp [started] at hafter
    · exact hp
  | findsDisconnected =>
    simp only [SupervisedRun.step, findsDisconnected]
    split
    · rename_i hfinds
      simp [hmeets hbefore hfinds.2.1] at hfinds
    · exact hp
  | startFails =>
    simp only [SupervisedRun.step, startFails]
    split
    · rename_i hfails
      exact absurd hfails.2 (hmeets hbefore)
    · exact hp
  | executionConcludes result =>
    simp only [SupervisedRun.step, executionConcludes, if_neg hrunning]
    exact hp
  | executionReturns =>
    simp only [SupervisedRun.step, executionReturns]
    split
    · rename_i result _ hover
      rcases hp.execution with h | h <;> simp [h] at hover
    · exact hp
  | graceExpires shutdown =>
    have hstage : w.stage ≠ .executing := fun hstage => by simp [hmeets hstage] at hbefore
    cases shutdown <;> simpa only [SupervisedRun.step, settlesAs, if_neg hstage] using hp
  | heartbeatHardDeadline =>
    have hstage : w.stage ≠ .executing := fun hstage => by simp [hmeets hstage] at hbefore
    simpa only [SupervisedRun.step, settlesAs, if_neg hstage] using hp
  | leaseLost =>
    simp only [SupervisedRun.step]
    split
    · rename_i hstage
      exact hp.of_store rfl (by simp [hstage]) (by simp) hp.execution
    · exact hp
  | commitsResult evidenceId now =>
    simp only [SupervisedRun.step, hp.recordsResult]
    exact hp
  | fallsBack evidenceId now =>
    simp only [SupervisedRun.step, hp.recordsResult]
    exact hp
  | appendsEvidence evidenceId now => exact hp.appendsEvidence evidenceId
  | rival op =>
    simp only [SupervisedRun.step]
    split
    · rename_i hrivals
      exact hp.of_keeps (keptRow_rival hrivals hbefore hmeets) id hp.returned hp.execution
    · exact hp

variable (E claim profile backend) in
def run (s : Store) (events : List SupervisedEvent) : SupervisedRun :=
  events.foldl (step E claim profile backend) (prepared s)

/-- 乱されない列では、START を渡していない実行は、いつでも結果のわかるものである。 -/
theorem run_definite {s s' : Store} {leaseOwner : String} {lease : Option Int} {at_ mutationNow : Int}
    {admission : Option AdmissionGuard}
    (hclaim : claimNextScheduledRun leaseOwner at_ lease admission mutationNow s = .ok (.ok (some claim), s'))
    (events : List SupervisedEvent)
    (hmeets : StepsMeet (step E claim profile backend) (Undisturbed E claim profile backend) (prepared s') events) :
    Definite claim backend (run E claim profile backend s' events) := by
  have hstart : Inv claim backend (prepared s') := by
    intro _
    refine ⟨?_, ?_, by simp [prepared], .inl rfl⟩
    · intro r hr hattempt
      exact .inr (.inr (.inl (claimNextScheduledRun_leased hclaim hr hattempt.1)))
    · intro r hr hattempt hexec
      rw [claimNextScheduledRun_leased hclaim hr hattempt.1] at hexec
      cases hexec
  exact (hmeets.invariant (fun w e hw he => hw.step e he) hstart).definite

def claimedRun : Option (ClaimedScheduledRun × Store) :=
  match claimNextScheduledRun "w" 100 none none 100 (runOps (envOf []) (leasedOps.take 2)) with
  | .ok (.ok (some claim), s) => some (claim, s)
  | _ => none

def disconnectedEvents : List SupervisedEvent :=
  [.marks, .markLands 101, .markAnswered, .disconnects, .findsDisconnected, .executionReturns, .commitsResult "e" 102]

def shutdownEvents : List SupervisedEvent :=
  [.marks, .markLands 101, .shutdownWins, .recordsFailure 102, .appendsEvidence "e" 102,
    .rival (.reclaimRun 1000 none)]

/-- START のバイトを渡していない実行の行が、結果の分からないものになった。 -/
def lostBeforeStart (claim : ClaimedScheduledRun) (w : SupervisedRun) : Bool :=
  !w.started .remote && w.store.runs.rows.any fun r => decide (IsAttempt claim r) && r.state == .outcomeUnknown

theorem claimedRun_lost : claimedRun.any (fun p =>
    lostBeforeStart p.1 (run (envOf []) p.1 sampleProfile .remote p.2 disconnectedEvents) &&
      lostBeforeStart p.1 (run (envOf []) p.1 sampleProfile .remote p.2 shutdownEvents)) = true := by
  decide +kernel

theorem claimedRun_eq {p : ClaimedScheduledRun × Store} (h : claimedRun = some p) :
    claimNextScheduledRun "w" 100 none none 100 (runOps (envOf []) (leasedOps.take 2)) =
      .ok (.ok (some p.1), p.2) := by
  unfold claimedRun at h
  split at h
  · rename_i heq
    cases h
    exact heq
  · cases h

theorem not_definite_of_lost (h : lostBeforeStart claim w = true) : ¬Definite claim .remote w := by
  intro hdefinite
  simp only [lostBeforeStart, Bool.and_eq_true, Bool.not_eq_true', List.any_eq_true, decide_eq_true_eq,
    beq_iff_eq] at h
  obtain ⟨hstarted, r, hr, hattempt, hstate⟩ := h
  have hunstarted := (hdefinite hstarted r hr hattempt).1
  simp [Unstarted, hstate] at hunstarted

/-- 確定の答えの後に回線が切れる列と、確定が効いた後に停止が選ばれる列。どちらでも、渡していない実行が不明になる。 -/
theorem unstarted_run_lost :
    ∃ (claim : ClaimedScheduledRun) (s s' : Store), Reachable (envOf []) s ∧
      claimNextScheduledRun "w" 100 none none 100 s = .ok (.ok (some claim), s') ∧
      ¬Definite claim .remote (run (envOf []) claim sampleProfile .remote s' disconnectedEvents) ∧
      ¬Definite claim .remote (run (envOf []) claim sampleProfile .remote s' shutdownEvents) := by
  obtain ⟨p, hp, hlost⟩ := (Option.any_eq_true _ _).mp claimedRun_lost
  obtain ⟨hdisconnected, hshutdown⟩ := Bool.and_eq_true_iff.mp hlost
  exact ⟨p.1, _, p.2, reachable_runOps _ _, claimedRun_eq hp, not_definite_of_lost hdisconnected,
    not_definite_of_lost hshutdown⟩

/-- 確定が効く前に停止が選ばれた実行は、失敗として終わる。 -/
theorem interrupted_run_definite : ∃ (claim : ClaimedScheduledRun) (s' : Store),
    Definite claim .remote
      (run (envOf []) claim sampleProfile .remote s' [.marks, .shutdownWins, .recordsFailure 102]) := by
  obtain ⟨p, hp, _⟩ := (Option.any_eq_true _ _).mp claimedRun_lost
  refine ⟨p.1, p.2, run_definite (claimedRun_eq hp) _ ?_⟩
  simp [StepsMeet, Undisturbed, step, prepared]

end SupervisedRun

end Codeoff.Runtime
