import Codeoff.Runtime.ExecutorSession
import Codeoff.Runtime.Theorems.RemoteSession

/-!
# 見捨てられない実行

セッションが返るとき、実行は終わっているか、取り消しの旗が立っている。
-/

namespace Codeoff.Runtime

open Codeoff.Control

variable {binding : RunBinding} {sessionNonce : String}

/-! ## 一巡の種類 -/

def RemoteFrame.cancels (f : RemoteFrame) (binding : RunBinding) (sessionNonce : String) : Bool :=
  f.sessionNonce == sessionNonce &&
    match f.message with
    | .cancel c => decide (c.binding = binding)
    | _ => false

def SupervisionTurn.cancels (t : SupervisionTurn) (binding : RunBinding) (sessionNonce : String) : Bool :=
  match t.clock, t.selected with
  | .ok _, .incoming (.frame f) => f.cancels binding sessionNonce
  | _, _ => false

def SupervisionTurn.continues (t : SupervisionTurn) (binding : RunBinding) (sessionNonce : String) : Bool :=
  match t.clock, t.selected with
  | .ok _, .incoming .timeout => true
  | .ok _, .incoming (.frame f) => f.cancels binding sessionNonce
  | _, _ => false

def SupervisionTurn.abandons (t : SupervisionTurn) (binding : RunBinding) (sessionNonce : String) : Bool :=
  match t.clock, t.selected with
  | .error _, _ => true
  | .ok _, .incoming (.frame f) => f.sessionNonce == sessionNonce && !f.cancels binding sessionNonce
  | _, _ => false

def ExecutionTask.after (task : ExecutionTask) (t : SupervisionTurn) (binding : RunBinding) (sessionNonce : String) :
    ExecutionTask :=
  ⟨task.finished || t.ends, task.cancelled || t.cancels binding sessionNonce⟩

theorem receiveExecutionFrame_cancels {task : ExecutionTask} {t : SupervisionTurn} {f : RemoteFrame}
    (h : f.cancels binding sessionNonce = true) :
    receiveExecutionFrame binding sessionNonce task t f = .next task.cancel := by
  simp only [RemoteFrame.cancels, Bool.and_eq_true, beq_iff_eq] at h
  obtain ⟨hnonce, hmessage⟩ := h
  cases hkind : f.message with
  | cancel c =>
    rw [hkind] at hmessage
    simp [receiveExecutionFrame, hnonce, hkind, of_decide_eq_true hmessage]
  | _ => simp [hkind] at hmessage

theorem superviseExecution_continues {task : ExecutionTask} {t : SupervisionTurn}
    (h : t.continues binding sessionNonce = true) :
    superviseExecution binding sessionNonce task t = .next (task.after t binding sessionNonce) := by
  obtain ⟨clock, selected, cleanup, finished⟩ := t
  match clock, selected with
  | .error error, _ => cases h
  | .ok now, .completed result => cases h
  | .ok now, .incoming .closed => cases h
  | .ok now, .incoming .failed => cases h
  | .ok now, .incoming .timeout =>
    simp [superviseExecution, ExecutionTask.observe, ExecutionTask.after, SupervisionTurn.cancels]
  | .ok now, .incoming (.frame f) =>
    have hcancels : f.cancels binding sessionNonce = true := h
    simp only [superviseExecution, receiveExecutionFrame_cancels hcancels]
    simp [ExecutionTask.observe, ExecutionTask.cancel, ExecutionTask.after, SupervisionTurn.cancels, hcancels]

/-- 取り消しでない枠は、セッションの番号が同じなら断り、違えば制御を失ったとみなす。 -/
theorem receiveExecutionFrame_ends {task : ExecutionTask} {t : SupervisionTurn} {f : RemoteFrame}
    (h : f.cancels binding sessionNonce = false) :
    ∃ result task', receiveExecutionFrame binding sessionNonce task t f = .done result task' ∧
      if f.sessionNonce = sessionNonce then task' = task else task'.cancelled = true := by
  by_cases hnonce : f.sessionNonce = sessionNonce
  · simp only [receiveExecutionFrame, if_pos hnonce]
    cases hkind : f.message with
    | cancel c =>
      have hforeign : c.binding ≠ binding := by simpa [RemoteFrame.cancels, hnonce, hkind] using h
      exact ⟨.error "scheduled runner cancel binding mismatch", task, by simp [hforeign], rfl⟩
    | _ => exact ⟨_, task, rfl, rfl⟩
  · simp only [receiveExecutionFrame, if_neg hnonce]
    exact ⟨_, _, rfl, rfl⟩

theorem superviseExecution_ends {task : ExecutionTask} {t : SupervisionTurn}
    (h : t.continues binding sessionNonce = false) :
    ∃ result task', superviseExecution binding sessionNonce task t = .done result task' ∧
      (task'.stopped = true ↔ (t.abandons binding sessionNonce = true →
        task.cancelled = true ∨ task.finished = true ∨ t.ends = true)) := by
  obtain ⟨clock, selected, cleanup, finished⟩ := t
  match clock, selected with
  | .error error, selected =>
    refine ⟨_, _, rfl, ?_⟩
    simp [ExecutionTask.stopped, ExecutionTask.observe, SupervisionTurn.abandons, or_comm]
  | .ok now, .completed (.ok result) =>
    refine ⟨_, _, rfl, ?_⟩
    simp [ExecutionTask.stopped, ExecutionTask.observe, SupervisionTurn.abandons, SupervisionTurn.ends,
      Selected.isCompleted]
  | .ok now, .completed (.error ()) =>
    refine ⟨_, _, rfl, ?_⟩
    simp [ExecutionTask.stopped, ExecutionTask.observe, SupervisionTurn.abandons, SupervisionTurn.ends,
      Selected.isCompleted]
  | .ok now, .incoming .timeout => cases h
  | .ok now, .incoming .closed =>
    refine ⟨_, _, rfl, ?_⟩
    simp [ExecutionTask.stopped, ExecutionTask.cancel, SupervisionTurn.abandons]
  | .ok now, .incoming .failed =>
    refine ⟨_, _, rfl, ?_⟩
    simp [ExecutionTask.stopped, ExecutionTask.cancel, SupervisionTurn.abandons]
  | .ok now, .incoming (.frame f) =>
    have hcancels : f.cancels binding sessionNonce = false := h
    obtain ⟨result, task', hreceive, htask⟩ := @receiveExecutionFrame_ends binding sessionNonce
        (task.observe ⟨.ok now, .incoming (.frame f), cleanup, finished⟩)
        ⟨.ok now, .incoming (.frame f), cleanup, finished⟩ _ hcancels
    refine ⟨result, task', hreceive, ?_⟩
    by_cases hnonce : f.sessionNonce = sessionNonce
    · rw [if_pos hnonce] at htask
      subst htask
      simp [ExecutionTask.stopped, ExecutionTask.observe, SupervisionTurn.abandons, hnonce, hcancels, or_comm]
    · rw [if_neg hnonce] at htask
      simp [ExecutionTask.stopped, htask, SupervisionTurn.abandons, hnonce]

/-! ## セッション -/

theorem poll_continues {turns : List SupervisionTurn} {task : ExecutionTask}
    (h : ∀ t ∈ turns, t.continues binding sessionNonce = true) :
    poll (superviseExecution binding sessionNonce) task turns =
      .waiting ⟨task.finished || turns.any SupervisionTurn.ends,
        task.cancelled || turns.any (·.cancels binding sessionNonce)⟩ := by
  induction turns generalizing task with
  | nil => simp [poll]
  | cons t turns ih =>
    simp only [poll, superviseExecution_continues (h t (by simp))]
    rw [ih fun u hu => h u (by simp [hu])]
    simp [ExecutionTask.after, Bool.or_assoc]

theorem continues_of_waiting {turns : List SupervisionTurn} {task task' : ExecutionTask}
    (h : poll (superviseExecution binding sessionNonce) task turns = .waiting task') :
    ∀ t ∈ turns, t.continues binding sessionNonce = true := by
  induction turns generalizing task with
  | nil => simp
  | cons t turns ih =>
    cases ht : t.continues binding sessionNonce with
    | true =>
      simp only [poll, superviseExecution_continues ht] at h
      simpa [ht] using ih h
    | false =>
      obtain ⟨result, ended, hstep, -⟩ := @superviseExecution_ends _ _ task _ ht
      simp [poll, hstep] at h

/-- 見捨てる巡に至るのは、取り消しを読んだ後か、実行が終わった後に限る。 -/
def AbandonsOnlyStopped (binding : RunBinding) (sessionNonce : String) (turns : List SupervisionTurn) : Prop :=
  ∀ before t after, turns = before ++ t :: after → (∀ u ∈ before, u.continues binding sessionNonce = true) →
    t.abandons binding sessionNonce = true →
      (∃ u ∈ before, u.cancels binding sessionNonce = true) ∨ (∃ u ∈ before ++ [t], u.ends = true)

/-- セッションが返れば、始めた実行は終わっているか、取り消しの旗が立っている。 -/
def SessionInput.StopsOnReturn (session : SessionInput) : Prop :=
  ∀ result task, runExecutorSession session = .done result (some task) → task.stopped = true

def SessionInput.NeverAbandons : SessionInput → Prop
  | .refused _ => True
  | .started binding sessionNonce turns => AbandonsOnlyStopped binding sessionNonce turns

/-- 続く巡の後に `t` を読む。 -/
theorem runExecutorSession_ended {before after : List SupervisionTurn} {t : SupervisionTurn}
    (hbefore : ∀ u ∈ before, u.continues binding sessionNonce = true)
    (ht : t.continues binding sessionNonce = false) :
    ∃ result task, runExecutorSession (.started binding sessionNonce (before ++ t :: after)) = .done result (some task) ∧
      (task.stopped = true ↔ (t.abandons binding sessionNonce = true →
        (∃ u ∈ before, u.cancels binding sessionNonce = true) ∨ (∃ u ∈ before ++ [t], u.ends = true))) := by
  obtain ⟨result, task, hstep, hstopped⟩ := @superviseExecution_ends binding sessionNonce (⟨before.any SupervisionTurn.ends,
      before.any (·.cancels binding sessionNonce)⟩) t ht
  refine ⟨result, task, ?_, ?_⟩
  · have hpoll := poll_append_of_waiting (t :: after) (@poll_continues _ _ _ .spawned hbefore)
    simp only [ExecutionTask.spawned, Bool.false_or] at hpoll
    simp only [runExecutorSession, ExecutionTask.spawned, hpoll, poll, hstep]
  · rw [hstopped]
    simp only [List.any_eq_true, List.mem_append, List.mem_singleton]
    constructor
    · intro h habandons
      rcases h habandons with hcancelled | ⟨u, hu, hends⟩ | hends
      · exact .inl hcancelled
      · exact .inr ⟨u, .inl hu, hends⟩
      · exact .inr ⟨t, .inr rfl, hends⟩
    · intro h habandons
      rcases h habandons with hcancelled | ⟨u, hu | rfl, hends⟩
      · exact .inl hcancelled
      · exact .inr (.inl ⟨u, hu, hends⟩)
      · exact .inr (.inr hends)

theorem stopsOnReturn_iff (session : SessionInput) : session.StopsOnReturn ↔ session.NeverAbandons := by
  cases session with
  | refused error =>
    refine iff_of_true (fun result task hrun => ?_) trivial
    simp [runExecutorSession] at hrun
  | started binding sessionNonce turns =>
    constructor
    · intro h before t after hturns hbefore habandons
      subst hturns
      have ht : t.continues binding sessionNonce = false := by
        obtain ⟨clock, selected, cleanup, finished⟩ := t
        match clock, selected with
        | .error error, _ => rfl
        | .ok now, .completed result => rfl
        | .ok now, .incoming .closed => rfl
        | .ok now, .incoming .failed => rfl
        | .ok now, .incoming .timeout => cases habandons
        | .ok now, .incoming (.frame f) =>
          simp only [SupervisionTurn.abandons, Bool.and_eq_true, Bool.not_eq_true'] at habandons
          exact habandons.2
      obtain ⟨result, task, hrun, hstopped⟩ := @runExecutorSession_ended _ _ _ after _ hbefore ht
      exact hstopped.mp (h result task hrun) habandons
    · intro h result task hrun
      simp only [runExecutorSession] at hrun
      cases hpoll : poll (superviseExecution binding sessionNonce) .spawned turns with
      | waiting s => simp [hpoll] at hrun
      | ended r s rest =>
        obtain ⟨before, t, after, u, rfl, hbefore, hend⟩ := poll_ended hpoll
        have hcontinues := continues_of_waiting hbefore
        have ht : t.continues binding sessionNonce = false := by
          cases ht : t.continues binding sessionNonce with
          | false => rfl
          | true => simp [superviseExecution_continues ht] at hend
        obtain ⟨result', task', hrun', hstopped⟩ := @runExecutorSession_ended _ _ _ after _ hcontinues ht
        simp only [runExecutorSession, hpoll] at hrun'
        simp only [hpoll] at hrun
        cases hrun
        cases hrun'
        exact hstopped.mpr (h before t after rfl hcontinues)

/-! ## セッションの繰り返し -/

/-- どのセッションも実行を見捨てず、次のセッションを開くとき、前の実行はどれも終わったか取り消されている。 -/
def RunStops (sessions : List SessionInput) : Prop :=
  ∀ opened ∈ runExecutorLoop [] sessions,
    opened.1.StopsOnReturn ∧ ∀ task ∈ opened.2, task.stopped = true

/-- 返ったセッションが実行を見捨てなければ、開くときに残る実行も、見捨てられていない。 -/
theorem runExecutorLoop_left {left : List ExecutionTask} {sessions : List SessionInput}
    (hleft : ∀ task ∈ left, task.stopped = true)
    (h : ∀ opened ∈ runExecutorLoop left sessions, opened.1.StopsOnReturn) :
    ∀ opened ∈ runExecutorLoop left sessions, ∀ task ∈ opened.2, task.stopped = true := by
  induction sessions generalizing left with
  | nil => simp [runExecutorLoop]
  | cons session sessions ih =>
    intro opened hopened
    rcases List.mem_cons.mp hopened with rfl | hopened
    · exact hleft
    · cases hrun : runExecutorSession session with
      | waiting task => simp [hrun] at hopened
      | done result task =>
        simp only [hrun] at hopened
        have hstops : session.StopsOnReturn := h (session, left) (by simp [runExecutorLoop])
        refine ih (fun other hother => ?_) (fun next hnext => h next ?_) opened hopened
        · rcases List.mem_append.mp hother with hother | hother
          · exact hleft other hother
          · obtain rfl : task = some other := by simpa using hother
            exact hstops result other hrun
        · simp only [runExecutorLoop, hrun]
          exact List.mem_cons_of_mem _ hnext

def SessionInput.returns : SessionInput → Bool
  | .refused _ => true
  | .started binding sessionNonce turns => turns.any fun t => !t.continues binding sessionNonce

def openedSessions : List SessionInput → List SessionInput
  | [] => []
  | session :: sessions => session :: if session.returns then openedSessions sessions else []

theorem runExecutorSession_returns (session : SessionInput) :
    match runExecutorSession session with
    | .waiting _ => session.returns = false
    | .done _ _ => session.returns = true := by
  cases session with
  | refused error => rfl
  | started binding sessionNonce turns =>
    simp only [runExecutorSession]
    cases hpoll : poll (superviseExecution binding sessionNonce) .spawned turns with
    | waiting task =>
      simpa [SessionInput.returns] using continues_of_waiting hpoll
    | ended result task rest =>
      cases hreturns : (SessionInput.started binding sessionNonce turns).returns with
      | true => rfl
      | false =>
        have hall : ∀ t ∈ turns, t.continues binding sessionNonce = true := by
          simpa [SessionInput.returns] using hreturns
        rw [poll_continues hall] at hpoll
        cases hpoll

theorem runExecutorLoop_opened {left : List ExecutionTask} {sessions : List SessionInput} :
    (runExecutorLoop left sessions).map Prod.fst = openedSessions sessions := by
  induction sessions generalizing left with
  | nil => rfl
  | cons session sessions ih =>
    have hreturns := runExecutorSession_returns session
    simp only [runExecutorLoop, openedSessions, List.map_cons, List.cons.injEq, true_and]
    cases hrun : runExecutorSession session with
    | waiting task =>
      rw [hrun] at hreturns
      simp [hreturns]
    | done result task =>
      rw [hrun] at hreturns
      simp [hreturns, ih]

theorem mem_openedSessions {left : List ExecutionTask} {sessions : List SessionInput} {session : SessionInput} :
    session ∈ openedSessions sessions ↔ ∃ opened ∈ runExecutorLoop left sessions, opened.1 = session := by
  rw [← @runExecutorLoop_opened left _, List.mem_map]

/-- 開かれるどのセッションでも、見捨てる巡に至るのが取り消しの後か実行の終わった後に限るとき、またそのときに限り、実行は見捨てられない。 -/
theorem executions_never_abandoned (sessions : List SessionInput) :
    RunStops sessions ↔ ∀ session ∈ openedSessions sessions, session.NeverAbandons := by
  constructor
  · intro h session hsession
    obtain ⟨opened, hopened, rfl⟩ := (@mem_openedSessions [] _ _).mp hsession
    exact (stopsOnReturn_iff opened.1).mp (h opened hopened).1
  · intro h
    have hstops : ∀ opened ∈ runExecutorLoop [] sessions, opened.1.StopsOnReturn := fun opened hopened =>
      (stopsOnReturn_iff opened.1).mpr (h opened.1 (mem_openedSessions.mpr ⟨opened, hopened, rfl⟩))
    exact fun opened hopened => ⟨hstops opened hopened, runExecutorLoop_left (by simp) hstops opened hopened⟩

/-- 同じセッションの二つ目の START。 -/
def repeatedStart : SupervisionTurn where
  clock := .ok 0
  selected := .incoming (.frame ⟨2, hexOf '0', 5, .start ⟨sampleRunBinding, hexOf '2'⟩⟩)
  cleanup := none
  finished := false

/-- 実行は続いているのに、旗を立てずに返り、次のセッションが開く。 -/
theorem repeatedStart_abandons :
    ¬RunStops [.started sampleRunBinding (hexOf '0') [repeatedStart], .refused "accept timed out"] := by
  intro h
  have hleft : (SessionInput.refused "accept timed out", [(⟨false, false⟩ : ExecutionTask)]) ∈
      runExecutorLoop [] [.started sampleRunBinding (hexOf '0') [repeatedStart], .refused "accept timed out"] := by
    simp [runExecutorLoop, runExecutorSession, poll, superviseExecution, receiveExecutionFrame, repeatedStart,
      ExecutionTask.observe, ExecutionTask.spawned, SupervisionTurn.ends, Selected.isCompleted]
  exact absurd ((h _ hleft).2 ⟨false, false⟩ (by simp)) (by decide)

end Codeoff.Runtime
