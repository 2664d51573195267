import Codeoff.Serve.Lemmas.StatusSound

/-!
# 会話に出す状態の一歩

どの一歩も不変条件を保つ。
-/

namespace Codeoff.Serve

open Codeoff.Control

namespace AssistantStatusController

variable {c c' : AssistantStatusController} {τ : AssistantStatusTarget} {d s k : Nat}
  {f : ActiveAssistantStatus → ActiveAssistantStatus} {event : StatusEvent}

def passes (c : AssistantStatusController) : StatusEvent → Option Nat
  | .worker τ d _ =>
    match (c.dispatcher τ d).worker with
    | .checkingCurrent s _ =>
      if (c.dispatcher τ d).currentSessionId = s ∧ c.entry τ = some d then some s else none
    | _ => none
  | _ => none

def activates (c : AssistantStatusController) : StatusEvent → Option (Nat × Nat)
  | .guard s =>
    match (c.sessions s).guard with
    | .activating d => some (s, d)
    | _ => none
  | _ => none

/-- 送ると決めたセッションの番人は、消すものはないと読んでいず、消す命令も取り出されていない。 -/
def Timely (c : AssistantStatusController) (event : StatusEvent) : Prop :=
  ∀ s ∈ c.passes event, (c.sessions s).silent = false ∧ (c.sessions s).cleared = false

instance : Decidable (c.Timely event) := inferInstanceAs (Decidable (∀ s ∈ c.passes event, _ ∧ _))

theorem Sound.current_new (h : Sound c) (τ : AssistantStatusTarget) :
    (c.dispatcher τ (c.next τ)).currentSessionId = 0 := by
  by_contra hne
  have hco := h.coherent τ (c.next τ) (c.dispatcher τ (c.next τ)).currentSessionId
  have hτ := hco.target (.inl ⟨hne, rfl⟩)
  have hlt := h.activatedBound _ _ (hco.activated (.inl ⟨hne, rfl⟩))
  rw [show c.target _ = τ from hτ] at hlt
  exact absurd hlt (Nat.lt_irrefl _)

/-! ## 番人 -/

theorem Sound.phase (h : Sound c) (htarget : (f (c.sessions s)).target = (c.sessions s).target)
    (hactivated : (f (c.sessions s)).activatedOn = (c.sessions s).activatedOn)
    (hfinish : (f (c.sessions s)).finish = (c.sessions s).finish)
    (hcleared : (f (c.sessions s)).cleared = (c.sessions s).cleared)
    (htext : (c.sessions s).shouldClear = true → (f (c.sessions s)).shouldClear = true)
    (hsilent : (f (c.sessions s)).silent = (c.sessions s).silent ∨ (c.sessions s).shouldClear = false)
    (hok : SessionOk (f (c.sessions s)))
    (hbegun : (f (c.sessions s)).guard ≠ .absent → (c.sessions s).guard ≠ .absent)
    (hactivating : ∀ d, (f (c.sessions s)).guard = .activating d → d < c.next (c.target s))
    (hretires : ∀ d ∈ c.entry (c.target s), ∀ d' ∈ (f (c.sessions s)).guard.holds,
      (c.sessions s).activatedOn = some d → d' = d) : Sound (c.onSession s f) := by
  apply h.onSession ⟨htarget, fun d hd => hactivated.trans hd, htext⟩ hok hbegun
  · rw [hactivated]
    exact h.activatedBound s
  · exact hactivating
  · intro τ d
    apply (h.coherent τ d s).of_session htarget hactivated hfinish hcleared htext
    · intro _ hshows
      rcases hsilent with hsame | hsilent
      · exact hsame
      · rw [(h.coherent τ d s).texts (.inr hshows)] at hsilent
        cases hsilent
    · intro hd hτ hon d' hd'
      exact hretires d (show c.entry (c.sessions s).target = some d from hτ ▸ hd) d' hd' hon

theorem Sound.setGuard (h : Sound c) {p : GuardPhase} (hearly : p.early = (c.sessions s).guard.early)
    (hsilent : p.retires = true → (c.sessions s).silent = true)
    (hheard : (p.retires = true ∨ p = .dropped) ∨
      (c.sessions s).guard.retires = false ∧ (c.sessions s).guard ≠ .dropped)
    (hdropped : p = .dropped → (c.sessions s).silent = true ∨ (c.sessions s).finish ≠ .notQueued)
    (hread : p = .finishing ∨ p = .dropped → (c.sessions s).silent = true ∨ (c.sessions s).shouldClear = true)
    (hbegun : (c.sessions s).guard ≠ .absent) (hactivating : ∀ d, p = .activating d → d < c.next (c.target s))
    (hretires : ∀ d ∈ c.entry (c.target s), ∀ d' ∈ p.holds, (c.sessions s).activatedOn = some d → d' = d) :
    Sound (c.setGuard s p) := by
  have hok := h.session s
  have hnot := hok.not_silent
  apply h.phase rfl rfl rfl rfl id (.inl rfl) _ (fun _ => hbegun) hactivating hretires
  refine ⟨hearly ▸ hok.activated, hok.finish, hok.timer, hsilent, ?_, hok.received, hdropped, hread⟩
  intro hx
  rcases hheard with hp | hguard
  · exact hp
  · rw [show (c.sessions s).silent = true from hx] at hnot
    cases hnot hguard

theorem Sound.lookupId_lt (h : Sound c) (hs : s < c.nextSessionId) :
    c.lookupId (c.target s) < (c.dispatcherFor (c.target s)).next (c.target s) :=
  (h.dispatcherFor hs).entryBound _ _ (by simp)

/-- 係を得た会話は、その係のいまの会話になる。 -/
theorem Sound.activate (h : Sound c) (hguard : (c.sessions s).guard = .activating d) : Sound (c.activate s d) := by
  have hok := h.session s
  have hactivated : (c.sessions s).activatedOn = none := by
    rw [hok.activated, hguard]
    rfl
  have hfinish : (c.sessions s).finish = .notQueued := by
    by_contra hne
    exact hok.finish hne hactivated
  have hinactive : ∀ τ d', Coherent (c.entry τ) τ d' (c.dispatcher τ d') s
      { c.sessions s with activatedOn := some d, guard := .registering } :=
    fun τ d' => (h.coherent τ d' s).of_inactive hactivated hfinish hfinish rfl
  apply h.change
  · constructor <;> simp [hactivated]
  · have hsilent : (c.sessions s).silent = false := hok.not_silent (by simp [hguard, GuardPhase.retires])
    have hcleared : (c.sessions s).cleared ≠ true := fun hcleared => hok.received hcleared hfinish
    constructor <;> simp [hfinish, hsilent, hcleared, GuardPhase.early, GuardPhase.retires]
  · simp [hguard]
  · simpa using h.activatingBound s d hguard
  · simp
  · intro s' hs'
    have hco := h.coherent (c.target s) d s'
    exact hco.of_dispatcher (fun _ hx => absurd hx.symm hs') .inl .inl .rfl id (fun _ hx => hx) hco.visible
  · intro τ' d' _
    exact hinactive τ' d'
  · have hco := hinactive (c.target s) d
    exact hco.of_dispatcher (fun _ _ => .inr ⟨rfl, rfl⟩) .inl .inl .rfl id (fun _ hx => hx) hco.visible

theorem Sound.register (h : Sound c) (hguard : (c.sessions s).guard = .registering) : Sound (c.register s) := by
  have hok := h.session s
  have hactivated : (c.sessions s).activatedOn ≠ none := by
    rw [Ne, hok.activated, hguard]
    simp [GuardPhase.early]
  have hactive : Sound
      { c with activeSessions := Function.update c.activeSessions (c.sessions s).thread (some s) } := by
    apply h.withActive
    intro thread s' hs'
    by_cases hthread : thread = (c.sessions s).thread
    · rw [hthread, Function.update_self] at hs'
      cases hs'
      exact hactivated
    · rw [Function.update_of_ne hthread] at hs'
      exact h.active thread s' hs'
  apply hactive.phase rfl rfl rfl rfl id (.inl rfl)
  · have hsilent : (c.sessions s).silent = false := hok.not_silent (by simp [hguard, GuardPhase.retires])
    refine ⟨?_, hok.finish, fun _ => hactivated, ?_, ?_, hok.received, ?_, ?_⟩
    · simpa [GuardPhase.early] using hactivated
    all_goals simp [hsilent, GuardPhase.retires]
  · simp [hguard]
  · simp
  · simp [GuardPhase.holds]

theorem Sound.unregister (h : Sound c) (hguard : (c.sessions s).guard = .unregistering) :
    Sound (c.unregister s) := by
  apply Sound.setGuard
  · apply h.withActive
    intro thread s' hs'
    split at hs'
    · by_cases hthread : thread = (c.sessions s).thread
      · rw [hthread, Function.update_self] at hs'
        cases hs'
      · rw [Function.update_of_ne hthread] at hs'
        exact h.active thread s' hs'
    · exact h.active thread s' hs'
  all_goals simp [hguard, GuardPhase.early, GuardPhase.retires, GuardPhase.holds]

theorem Sound.readShouldClear (h : Sound c) (hguard : (c.sessions s).guard = .readingShouldClear) :
    Sound (c.readShouldClear s) := by
  have hok := h.session s
  have hactivated := hok.activated
  unfold AssistantStatusController.readShouldClear
  by_cases htext : (c.sessions s).shouldClear = true
  · rw [if_pos htext]
    apply h.setGuard <;> simp [hguard, htext, GuardPhase.early, GuardPhase.retires, GuardPhase.holds]
  · rw [if_neg htext]
    apply h.phase rfl rfl rfl rfl id (.inr (by simpa using htext))
    · refine ⟨?_, hok.finish, hok.timer, fun _ => rfl, fun _ => .inl rfl, hok.received, ?_, ?_⟩
      · rw [hactivated, hguard]
        simp [GuardPhase.early]
      all_goals simp
    all_goals simp [hguard, GuardPhase.holds]

theorem Sound.retire (h : Sound c) (hguard : (c.sessions s).guard = .retiring d) : Sound (c.retire s d) := by
  have hok := h.session s
  have hsilent : (c.sessions s).silent = true := hok.silent (by simp [hguard, GuardPhase.retires])
  unfold AssistantStatusController.retire
  dsimp only
  by_cases hcurrent : (c.dispatcher (c.target s) d).currentSessionId = s
  · rw [if_pos hcurrent]
    have hdetached : Sound (c.onDispatcher (c.target s) d fun x => { x with currentSessionId := 0 }) := by
      apply h.onDispatcher
      intro s'
      have hco := h.coherent (c.target s) d s'
      exact hco.of_dispatcher (fun hs' hx => absurd hx.symm hs') .inl .inl .rfl id (fun _ hx => hx) hco.visible
    by_cases hvisible : (c.dispatcher (c.target s) d).visibleSessionId = 0
    · rw [if_pos hvisible]
      apply hdetached.setGuard <;> simp [hguard, hsilent, GuardPhase.early, GuardPhase.retires, GuardPhase.holds]
    · rw [if_neg hvisible]
      apply hdetached.setGuard <;> simp [hguard, hsilent, GuardPhase.early, GuardPhase.holds, GuardPhase.retires]
  · rw [if_neg hcurrent]
    apply h.setGuard <;> simp [hguard, hsilent, GuardPhase.early, GuardPhase.retires, GuardPhase.holds]

theorem Sound.finishing (h : Sound c) {p : FinishPhase} {closed : Bool}
    (hf : f (c.sessions s) = { c.sessions s with closed, finish := p })
    (hactivated : (c.sessions s).activatedOn ≠ none) (hold : ∀ d, (c.sessions s).finish ≠ .sent d)
    (hnew : ∀ d, p ≠ .sent d) (hqueued : p ≠ .notQueued)
    (hholds : ∀ d ∈ c.entry (c.target s), ∀ d' ∈ p.holds, (c.sessions s).activatedOn = some d → d' = d) :
    Sound (c.onSession s f) := by
  have hok := h.session s
  apply h.onSession <;> rw [hf]
  · exact ⟨rfl, fun _ hd => hd, id⟩
  · exact ⟨hok.activated, fun _ => hactivated, hok.timer, hok.silent, hok.heard, fun _ => hqueued, fun _ => .inr hqueued, hok.read⟩
  · exact id
  · exact h.activatedBound s
  · exact h.activatingBound s
  · intro τ d
    refine (h.coherent τ d s).of_finish rfl rfl rfl rfl rfl rfl hold hnew ?_
    intro hd hτ hon d' hd'
    exact hholds d (show c.entry (c.sessions s).target = some d from hτ ▸ hd) d' hd' hon

theorem Sound.swapQueued (h : Sound c) (hactivated : (c.sessions s).activatedOn ≠ none) : Sound (c.swapQueued s) := by
  unfold AssistantStatusController.swapQueued
  split
  · exact h
  · next hqueued =>
    have hfinish : (c.sessions s).finish = .notQueued := by
      simpa [ActiveAssistantStatus.terminalClearQueued] using hqueued
    exact h.finishing rfl hactivated (by simp [hfinish]) (by simp) (by simp)
      (by simp [FinishPhase.holds])

theorem Sound.sending (h : Sound c) (hfinish : (c.sessions s).finish = .sending d) :
    Sound ((c.send (c.target s) d (.clear s)).onSession s fun a => { a with finish := .sent d }) := by
  have hok := h.session s
  have hactivated := hok.finish (by simp [hfinish])
  apply h.change ⟨rfl, fun _ hd => hd, id⟩
  · exact ⟨hok.activated, fun _ => hactivated, hok.timer, hok.silent, hok.heard, by simp, by simp, hok.read⟩
  · exact id
  · exact h.activatedBound s
  · exact h.activatingBound s
  · intro s' hs'
    have hco := h.coherent (c.target s) d s'
    exact hco.of_dispatcher (fun _ => .inl) .inl .inl (by simp [hs']) id (fun _ hx => hx) hco.visible
  · intro τ d' hne
    exact (h.coherent τ d' s).of_sent_elsewhere hfinish fun hτ => hne ⟨hτ.1.symm, hτ.2⟩
  · exact (h.coherent (c.target s) d s).of_sent_here hfinish rfl

/-- 片付けの一歩は、命令を一度だけ送る。 -/
theorem Sound.finishStep (h : Sound c) : Sound (c.finishStep s) := by
  unfold AssistantStatusController.finishStep
  split
  · next hfinish =>
    have hactivated := (h.session s).finish (by simp [hfinish])
    have hlookup := h.dispatcherFor (h.pos hactivated).2
    apply hlookup.finishing (p := .closing (c.lookupId (c.target s))) rfl <;> simp [hfinish, FinishPhase.holds]
    exact hactivated
  · next d hfinish =>
    apply h.finishing rfl ((h.session s).finish (by simp [hfinish])) (by simp [hfinish]) (by simp) (by simp)
    intro d' hd' d'' hd'' hon
    exact (h.coherent (c.target s) d' s).finishes hd' rfl hon d'' (by simpa [hfinish, FinishPhase.holds] using hd'')
  · next d hfinish => exact h.sending hfinish
  · exact h
  · exact h

theorem Sound.guardStep (h : Sound c) : Sound (c.guardStep s) := by
  have hok := h.session s
  unfold AssistantStatusController.guardStep
  split
  · next hguard =>
    apply (h.dispatcherFor (h.begun s (by simp [hguard])).2).setGuard <;>
      simp [hguard, GuardPhase.early, GuardPhase.retires, GuardPhase.holds]
    simpa using h.lookupId_lt (h.begun s (by simp [hguard])).2
  · next d hguard => exact h.activate hguard
  · next hguard => exact h.register hguard
  · next hguard => exact h.unregister hguard
  · next hguard => exact h.readShouldClear hguard
  · next hguard =>
    apply (h.dispatcherFor (h.begun s (by simp [hguard])).2).setGuard <;>
      simp [hguard, GuardPhase.early, GuardPhase.retires, GuardPhase.holds]
    exact hok.silent (by simp [hguard, GuardPhase.retires])
  · next d hguard =>
    have hsilent := hok.silent (by simp [hguard, GuardPhase.retires])
    have hactivated := hok.activated
    apply h.phase rfl rfl rfl rfl id (.inl rfl)
    · refine ⟨?_, hok.finish, hok.timer, fun _ => hsilent, fun _ => .inl rfl, hok.received, ?_, ?_⟩
      · rw [hactivated, hguard]
        simp [GuardPhase.early]
      all_goals simp
    · simp [hguard]
    · simp
    · intro d' hd' d'' hd'' hon
      exact (h.coherent (c.target s) d' s).retires hd' rfl hon d'' (by simpa [hguard, GuardPhase.holds] using hd'')
  · next d hguard => exact h.retire hguard
  · next d hguard =>
    have hsilent := hok.silent (by simp [hguard, GuardPhase.retires])
    apply (h.remove (c.target s) d).setGuard <;>
      simp [hguard, hsilent, GuardPhase.early, GuardPhase.retires, GuardPhase.holds]
  · next hguard =>
    have hactivated : (c.sessions s).activatedOn ≠ none := by
      rw [Ne, hok.activated, hguard]
      simp [GuardPhase.early]
    have hsame : ((c.swapQueued s).sessions s).guard = .finishing := by
      unfold AssistantStatusController.swapQueued
      split <;> simp [hguard]
    have hqueued : ((c.swapQueued s).sessions s).finish ≠ .notQueued := by
      unfold AssistantStatusController.swapQueued
      split
      · next hq => simpa [ActiveAssistantStatus.terminalClearQueued] using hq
      · simp
    have hswapped := h.swapQueued hactivated
    have hread := (hswapped.session s).read (.inl hsame)
    apply hswapped.setGuard <;> simp [hsame, hqueued, GuardPhase.early, GuardPhase.retires, GuardPhase.holds]
    simpa using hread
  all_goals exact h

/-! ## 更新 -/

theorem TaskOk.of_sessions {c c' : AssistantStatusController} (hsame : c'.sessions = c.sessions) {t : StatusTask}
    (h : TaskOk c.sessions t) : TaskOk c'.sessions t := hsame ▸ h

theorem Sound.storeText (h : Sound c) : Sound (c.onSession s fun a => { a with shouldClear := true }) := by
  have hok := h.session s
  apply h.phase rfl rfl rfl rfl (fun _ => rfl) (.inl rfl)
  · exact ⟨hok.activated, hok.finish, hok.timer, hok.silent, hok.heard, hok.received, hok.dropped, fun _ => .inr rfl⟩
  · exact id
  · exact h.activatingBound s
  · intro d hd d' hd' hon
    exact (h.coherent (c.target s) d s).retires hd rfl hon d' hd'

theorem Sound.setPending (h : Sound c) {state : AssistantState} (hs : (c.sessions s).activatedOn ≠ none)
    (htext : (c.sessions s).shouldClear = true) : Sound (c.setPending s state d) := by
  unfold AssistantStatusController.setPending
  split
  · next hcurrent =>
    apply h.onDispatcher
    intro s'
    have hco := h.coherent (c.target s) d s'
    refine hco.of_dispatcher (fun _ => .inl) ?_ .inl .rfl id (fun _ hx => hx) hco.visible
    rintro (hx | hx)
    · cases hx
      exact .inr ⟨Nat.ne_of_gt (h.pos hs).1, hcurrent, htext⟩
    · exact .inl (.inr hx)
  · exact h

theorem Sound.send (h : Sound c) : Sound (c.send τ d .flushSet) := by
  apply h.onDispatcher
  intro s'
  have hco := h.coherent τ d s'
  exact hco.of_dispatcher (fun _ => .inl) .inl .inl (by simp) id (fun _ hx => hx) hco.visible

theorem Sound.taskStep (h : Sound c) {t : StatusTask} (ht : TaskOk c.sessions t) :
    Sound (c.taskStep t).1 ∧ ∀ next ∈ (c.taskStep t).2, TaskOk (c.taskStep t).1.sessions next := by
  cases t with
  | storingShouldClear s state =>
    have hs := ht.activated s rfl
    constructor
    · exact h.storeText
    · rintro next ⟨⟩
      constructor
      · rintro s' ⟨⟩
        simpa [AssistantStatusController.taskStep] using hs
      · rintro s' ⟨⟩
        simp [AssistantStatusController.taskStep]
  | lookup s state =>
    refine ⟨h.dispatcherFor (h.pos (ht.activated s rfl)).2, ?_⟩
    rintro next ⟨⟩
    refine TaskOk.of_sessions (dispatcherFor_sessions) ⟨?_, ?_⟩
    · exact ht.activated
    · exact ht.text
  | checkingClosed s state d =>
    refine ⟨h, ?_⟩
    intro next hnext
    simp only [AssistantStatusController.taskStep] at hnext
    split at hnext
    · cases hnext
    · cases hnext
      exact ⟨ht.activated, ht.text⟩
  | settingPending s state d =>
    refine ⟨h.setPending (ht.activated s rfl) (ht.text s rfl), ?_⟩
    intro next hnext
    simp only [AssistantStatusController.taskStep] at hnext
    split at hnext
    · cases hnext
      exact ⟨by simp [StatusTask.sessionId], by simp [StatusTask.textId]⟩
    · cases hnext
  | sendingFlush τ d => exact ⟨h.send, by simp [AssistantStatusController.taskStep]⟩
  | swappingQueued s => exact ⟨h.swapQueued (ht.activated s rfl), by simp [AssistantStatusController.taskStep]⟩

@[simp] theorem setPending_sessions {state : AssistantState} : (c.setPending s state d).sessions = c.sessions := by
  unfold setPending
  split <;> rfl

theorem grows_swapQueued (s s' : Nat) : Grows (c.sessions s') ((c.swapQueued s).sessions s') := by
  unfold swapQueued
  split
  · exact Grows.refl _
  · exact grows_onSession ⟨rfl, fun _ hd => hd, id⟩ s'

theorem grows_taskStep (c : AssistantStatusController) (t : StatusTask) (s : Nat) :
    Grows (c.sessions s) ((c.taskStep t).1.sessions s) := by
  cases t with
  | storingShouldClear s' state =>
    exact grows_onSession (f := fun a => { a with shouldClear := true }) ⟨rfl, fun _ hd => hd, fun _ => rfl⟩ s
  | lookup s' state => simpa [taskStep] using Grows.refl _
  | checkingClosed s' state d => exact Grows.refl _
  | settingPending s' state d => simpa [taskStep] using Grows.refl _
  | sendingFlush τ d => exact Grows.refl _
  | swappingQueued s' => exact grows_swapQueued s' s

theorem Sound.runTask (h : Sound c) : Sound (c.runTask k) := by
  unfold AssistantStatusController.runTask
  split
  · next t ht =>
    obtain ⟨hstep, hnext⟩ := h.taskStep (h.tasks t (List.mem_of_getElem? ht))
    have htasks : ∀ t' ∈ c.tasks, TaskOk (c.taskStep t).1.sessions t' := by
      intro t' ht'
      exact (h.tasks t' ht').grows (c.grows_taskStep t)
    apply hstep.withTasks
    intro t' ht'
    split at ht'
    · next t'' heq =>
      rcases List.mem_or_eq_of_mem_set ht' with hmem | rfl
      · exact htasks t' hmem
      · exact hnext _ heq
    · exact htasks t' (List.mem_of_mem_eraseIdx ht')
  · exact h

/-! ## 係の作業 -/

theorem Sound.receive (h : Sound c) (hworker : (c.dispatcher τ d).worker = .idle) : Sound (c.receive τ d) := by
  unfold AssistantStatusController.receive
  split
  · next rest hqueue =>
    apply h.onDispatcher
    intro s
    have hco := h.coherent τ d s
    refine hco.of_dispatcher (fun _ => .inl) ?_ ?_ ?_ ?_ ?_ ?_
    · rintro (hx | hx)
      · exact .inl (.inl hx)
      · cases hx
    · rintro (hx | hx)
      · exact .inl (.inl hx)
      · cases hx
    · simp [hqueue]
    · intro hx
      cases hx
    · intro _ hx
      rw [hworker] at hx
      cases hx
    · intro hx
      cases hx
  · next s rest hqueue =>
    have hok := h.session s
    have hmention : .clear s ∈ (c.dispatcher τ d).queue := by simp [hqueue]
    have hfinish := (h.coherent τ d s).queued hmention
    have hτ := (h.coherent τ d s).target (.inr (.inr (.inr (.inr hmention))))
    apply h.change ⟨rfl, fun _ hd => hd, id⟩
    · exact ⟨hok.activated, hok.finish, hok.timer, hok.silent, hok.heard, by simp [hfinish], hok.dropped, hok.read⟩
    · exact id
    · exact h.activatedBound s
    · exact h.activatingBound s
    · intro s' hs'
      have hco := h.coherent τ d s'
      refine hco.of_dispatcher (fun _ => .inl) ?_ ?_ ?_ ?_ ?_ ?_
      · rintro (hx | hx)
        · exact .inl (.inl hx)
        · cases hx
      · rintro (hx | hx)
        · exact .inl (.inl hx)
        · cases hx
      · simp [hqueue, hs']
      · intro hx
        cases hx
        exact absurd rfl hs'
      · intro _ hx
        rw [hworker] at hx
        cases hx
      · intro hx
        cases hx
    · intro τ' d' hne
      have hco := h.coherent τ' d' s
      apply hco.of_received_elsewhere
      intro hd hshows
      -- 出している係は、このセッションが現在になった係で、消す命令もそこに送られる。
      have hτ' := hco.target (.inr (.inr (.inl hshows)))
      have hon := hco.activated (.inr (.inr hshows))
      have hplace := hco.finishes hd hτ' hon d (by simp [hfinish, FinishPhase.holds])
      exact hne ⟨hτ'.symm.trans hτ, hplace.symm⟩
    · exact (h.coherent τ d s).of_received_here hqueue
  · exact h

theorem Sound.settle (h : Sound c) (hworker : (c.dispatcher τ d).worker = .settling s) : Sound (c.settle τ d s) := by
  have hvisible : (c.dispatcher τ d).visibleSessionId = s :=
    (h.coherent τ d s).visible (by simp [hworker, StatusWorker.passedId])
  apply h.onDispatcher
  intro s'
  have hco := h.coherent τ d s'
  simp only [hvisible, if_true, and_true]
  refine hco.of_dispatcher ?_ ?_ ?_ .rfl ?_ ?_ ?_
  · intro hs' hx
    dsimp only at hx
    split at hx
    · exact absurd hx.symm hs'
    · exact .inl hx
  · rintro (hx | hx)
    · exact .inl (.inl hx)
    · dsimp only at hx
      split at hx <;> split at hx <;> cases hx
  · rintro (⟨hs', hx⟩ | hx)
    · exact absurd hx.symm hs'
    · dsimp only at hx
      split at hx <;> split at hx <;> cases hx
  · intro hx
    dsimp only at hx
    split at hx <;> split at hx <;> cases hx
  · rintro (⟨hs', hx⟩ | hx)
    · exact absurd hx.symm hs'
    · dsimp only at hx
      split at hx <;> split at hx <;> cases hx
  · intro hx
    dsimp only at hx
    split at hx <;> split at hx <;> cases hx

/-- 係の一歩は、取り出した命令の会話がいまの会話であるときにだけ状態を置く。 -/
theorem Sound.workerStep {ok : Bool} (h : Sound c) (htimely : c.Timely (.worker τ d ok)) :
    Sound (c.workerStep τ d ok) := by
  unfold AssistantStatusController.workerStep
  split
  · next hworker => exact h.receive hworker
  · next hworker =>
    apply h.onDispatcher
    intro s
    have hco := h.coherent τ d s
    refine hco.of_dispatcher (fun _ => .inl) ?_ ?_ .rfl ?_ ?_ ?_
    · rintro (hx | hx)
      · cases hx
      · refine .inl (.inl ?_)
        dsimp only at hx
        split at hx
        · next hpending => simpa [hpending, StatusWorker.checkingId] using hx
        · cases hx
    · rintro (hx | hx)
      · exact .inl (.inl hx)
      · dsimp only at hx
        split at hx <;> cases hx
    · intro hx
      dsimp only at hx
      split at hx <;> cases hx
    · intro _ hx
      rw [hworker] at hx
      cases hx
    · intro hx
      dsimp only at hx
      split at hx <;> cases hx
  · next s state hworker =>
    apply h.onDispatcher
    intro s'
    have hco := h.coherent τ d s'
    split
    · next hcurrent =>
      apply hco.of_worker <;> simp [hworker, StatusWorker.checkingId, StatusWorker.settingId,
        StatusWorker.clearingId, StatusWorker.passedId]
      rintro rfl
      refine .inr ⟨.inr (by simp [hworker, StatusWorker.checkingId]), ?_⟩
      intro hd
      exact htimely s (by simp [passes, hworker, hcurrent, hd])
    · apply hco.of_worker <;>
        simp [hworker, StatusWorker.checkingId, StatusWorker.settingId, StatusWorker.clearingId, StatusWorker.passedId]
  · next s state hworker =>
    have hset : ∀ c' : AssistantStatusController, Sound c' → (c'.dispatcher τ d).worker = .setting s state →
        ∀ worker, worker = .recordingVisible s ∨ worker = .idle → Sound (c'.setWorker τ d worker) := by
      rintro c' hc' hworker' worker hcases
      apply hc'.onDispatcher
      intro s'
      have hshows : s = s' → (c'.dispatcher τ d).Shows s' := fun hs => .inr (by simp [hworker', hs, StatusWorker.settingId])
      apply (hc'.coherent τ d s').of_worker <;> rcases hcases with rfl | rfl <;>
        simp [hworker', StatusWorker.checkingId, StatusWorker.settingId, StatusWorker.clearingId,
          StatusWorker.passedId]
      exact fun hs => .inl (hshows hs)
    split
    · exact hset _ (h.record τ (.set s state)) (by simpa using hworker) _ (.inl rfl)
    · exact hset c h hworker _ (.inr rfl)
  · next s hworker =>
    apply h.onDispatcher
    intro s'
    have hco := h.coherent τ d s'
    refine hco.of_dispatcher (fun _ => .inl) ?_ ?_ .rfl ?_ ?_ ?_
    · rintro (hx | hx)
      · exact .inl (.inl hx)
      · cases hx
    · rintro (⟨-, rfl⟩ | hx)
      · exact .inl (.inr (by simp [hworker, StatusWorker.settingId]))
      · cases hx
    · intro hx
      cases hx
    · intro _ hx
      rw [hworker] at hx
      cases hx
    · intro hx
      cases hx
  · next s hworker =>
    apply h.onDispatcher
    intro s'
    have hco := h.coherent τ d s'
    split
    · next hvisible =>
      apply hco.of_worker <;> simp [hworker, StatusWorker.checkingId, StatusWorker.settingId, StatusWorker.clearingId,
        StatusWorker.passedId]
      rintro rfl
      exact hvisible
    · next hvisible =>
      apply hco.of_worker <;> simp [hworker, StatusWorker.checkingId, StatusWorker.settingId, StatusWorker.clearingId,
        StatusWorker.passedId]
      rintro rfl rfl
      exact hvisible rfl
  · next s hworker =>
    have hclear : ∀ c' : AssistantStatusController, Sound c' → (c'.dispatcher τ d).worker = .clearing s →
        Sound (c'.setWorker τ d (.settling s)) := by
      intro c' hc' hworker'
      apply hc'.onDispatcher
      intro s'
      have hpassed := (hc'.coherent τ d s').visible
      apply (hc'.coherent τ d s').of_worker <;>
        simp [hworker', StatusWorker.checkingId, StatusWorker.settingId, StatusWorker.clearingId,
          StatusWorker.passedId]
      rintro rfl
      exact hpassed (by simp [hworker', StatusWorker.passedId])
    split
    · exact hclear _ (h.record τ (.clear s)) (by simpa using hworker)
    · exact hclear c h hworker
  · next s hworker => exact h.settle hworker
  · next hworker =>
    apply (h.remove τ d).onDispatcher
    intro s
    apply ((h.remove τ d).coherent τ d s).of_worker <;>
      simp [hworker, StatusWorker.checkingId, StatusWorker.settingId, StatusWorker.clearingId, StatusWorker.passedId]

/-! ## 一歩 -/

theorem Sound.fresh (h : Sound c) : (c.sessions c.nextSessionId).guard = .absent := by
  by_contra hguard
  exact absurd (h.begun _ hguard).2 (Nat.lt_irrefl _)

theorem Sound.begin {thread : Nat} {target : AssistantStatusTarget} (h : Sound c) : Sound (c.begin thread target) := by
  have hfresh := h.fresh
  have hok := h.session c.nextSessionId
  have hactivated : (c.sessions c.nextSessionId).activatedOn = none := by
    rw [hok.activated, hfresh]
    rfl
  have hfinish : (c.sessions c.nextSessionId).finish = .notQueued := by
    by_contra hne
    exact hok.finish hne hactivated
  have hsessions : ∀ s, s ≠ c.nextSessionId → (c.begin thread target).sessions s = c.sessions s := by
    intro s hs
    simp [AssistantStatusController.begin, hs]
  have hnew : (c.begin thread target).sessions c.nextSessionId =
      { ActiveAssistantStatus.absent with target, thread, guard := .starting } := by
    simp [AssistantStatusController.begin]
  have htarget : ∀ s, s ≠ c.nextSessionId → (c.begin thread target).target s = c.target s :=
    fun s hs => congrArg ActiveAssistantStatus.target (hsessions s hs)
  have hother : ∀ s, (c.sessions s).activatedOn ≠ none → s ≠ c.nextSessionId := by
    rintro s hs rfl
    exact hs hactivated
  constructor
  · exact Nat.succ_pos _
  · intro s hs
    by_cases heq : s = c.nextSessionId
    · exact heq ▸ ⟨h.positive, Nat.lt_succ_self _⟩
    · rw [hsessions s heq] at hs
      exact ⟨(h.begun s hs).1, Nat.lt_succ_of_lt (h.begun s hs).2⟩
  · intro s
    by_cases heq : s = c.nextSessionId
    · rw [heq, hnew]
      constructor <;> simp [ActiveAssistantStatus.absent, GuardPhase.early, GuardPhase.retires]
    · rw [hsessions s heq]
      exact h.session s
  · intro s d hd
    by_cases heq : s = c.nextSessionId
    · rw [heq, hnew] at hd
      cases hd
    · rw [hsessions s heq] at hd
      rw [htarget s heq]
      exact h.activatedBound s d hd
  · intro s d hd
    by_cases heq : s = c.nextSessionId
    · rw [heq, hnew] at hd
      cases hd
    · rw [hsessions s heq] at hd
      rw [htarget s heq]
      exact h.activatingBound s d hd
  · exact h.entryBound
  · intro τ hτ
    obtain ⟨s, hs, heq⟩ := h.known τ hτ
    exact ⟨s, Nat.lt_succ_of_lt hs, (htarget s (Nat.ne_of_lt hs)).trans heq⟩
  · intro thread' s hs
    have hs' := h.active thread' s hs
    rw [hsessions s (hother s hs')]
    exact hs'
  · intro t ht
    obtain ⟨hactive, htext⟩ := h.tasks t ht
    constructor
    · intro s hs
      rw [hsessions s (hother s (hactive s hs))]
      exact hactive s hs
    · intro s hs
      rw [hsessions s (hother s (hactive s (t.sessionId_of_textId hs)))]
      exact htext s hs
  · intro τ d s
    by_cases heq : s = c.nextSessionId
    · rw [heq, hnew]
      exact (h.coherent τ d c.nextSessionId).of_inactive hactivated hfinish rfl rfl
    · rw [hsessions s heq]
      exact h.coherent τ d s

theorem Sound.drop (h : Sound c) (hguard : (c.sessions s).guard = .held) : Sound (c.setGuard s .unregistering) := by
  apply h.setGuard <;> simp [hguard, GuardPhase.early, GuardPhase.retires, GuardPhase.holds]

theorem Sound.spawn {t : StatusTask} (h : Sound c) (ht : TaskOk c.sessions t) : Sound (c.spawn t) := by
  apply h.withTasks
  intro t' ht'
  rcases List.mem_append.mp ht' with hmem | hmem
  · exact h.tasks t' hmem
  · exact List.mem_singleton.mp hmem ▸ ht

theorem Sound.timerEnds (h : Sound c) (armed : ActiveAssistantStatus → Bool)
    (harmed : ∀ a, armed a = true → a.timerArmed = true) :
    Sound (c.onSession s fun a => { a with timerArmed := armed a }) := by
  have hok := h.session s
  apply h.phase rfl rfl rfl rfl id (.inl rfl)
  · exact ⟨hok.activated, hok.finish, fun ht => hok.timer (harmed _ ht), hok.silent, hok.heard, hok.received, hok.dropped,
      hok.read⟩
  · exact id
  · exact h.activatingBound s
  · intro d hd d' hd' hon
    exact (h.coherent (c.target s) d s).retires hd rfl hon d' hd'

/-- どの出来事も整合を保つ。出来事の種類で場合を分ける。 -/
theorem Sound.step (h : Sound c) (htimely : c.Timely event) : Sound (c.step event) := by
  cases event with
  | start thread target => exact h.begin
  | guard s => exact h.guardStep
  | drop s =>
    simp only [AssistantStatusController.step]
    split
    · next hguard => exact h.drop hguard
    · exact h
  | finish s => exact h.finishStep
  | timer s =>
    simp only [AssistantStatusController.step]
    split
    · next harmed =>
      have hs := (h.session s).timer harmed
      apply (h.timerEnds (fun _ => false) (by simp)).spawn
      constructor
      · rintro s' ⟨⟩
        simpa using hs
      · simp [StatusTask.textId]
    · exact h
  | timerCancelled s => exact h.timerEnds (fun a => a.timerArmed && a.guard == .held) (by simp +contextual)
  | update thread state =>
    simp only [AssistantStatusController.step]
    split
    · next s hs =>
      apply h.spawn
      exact ⟨fun s' hs' => by cases hs'; exact h.active thread s hs, by simp [StatusTask.textId]⟩
    · exact h
  | clearActiveNow thread =>
    simp only [AssistantStatusController.step]
    split
    · next s hs =>
      apply h.spawn
      exact ⟨fun s' hs' => by cases hs'; exact h.active thread s hs, by simp [StatusTask.textId]⟩
    · exact h
  | task k => exact h.runTask
  | worker τ d ok => exact h.workerStep htimely

theorem sound_new : Sound new := by
  constructor
  · exact Nat.one_pos
  · simp [new, ActiveAssistantStatus.absent]
  · intro s
    constructor <;> simp [new, ActiveAssistantStatus.absent, GuardPhase.early, GuardPhase.retires]
  · simp [new, ActiveAssistantStatus.absent]
  · simp [new, ActiveAssistantStatus.absent]
  · simp [new, entry]
  · simp [new, entry]
  · simp [new]
  · simp [new]
  · intro τ d s
    constructor <;>
      simp [new, dispatcher, entry, ActiveAssistantStatus.absent, AssistantStatusDispatcher.new,
        AssistantStatusDispatcher.Carries, AssistantStatusDispatcher.Shows, AssistantStatusDispatcher.Mentions,
        StatusWorker.checkingId, StatusWorker.settingId, StatusWorker.clearingId, StatusWorker.passedId]
    all_goals intro hs heq; exact absurd heq.symm hs

theorem Sound.guard_dropped (h : Sound c) (hquiescent : c.Quiescent) (hs : (c.sessions s).activatedOn ≠ none) :
    (c.sessions s).guard = .dropped := by
  rcases hquiescent.guards s (h.pos hs).2 with hguard | hguard
  · refine absurd ?_ hs
    rw [(h.session s).activated, hguard]
    rfl
  · exact hguard

theorem Sound.cleared (h : Sound c) (hquiescent : c.Quiescent) (hd : c.entry τ = some d)
    (hτ : (c.sessions s).target = τ) (hon : (c.sessions s).activatedOn = some d) (hheard : (c.sessions s).silent = false) :
    (c.sessions s).cleared = true := by
  have hs : (c.sessions s).activatedOn ≠ none := by simp [hon]
  have hlt := (h.pos hs).2
  have hqueued : (c.sessions s).finish ≠ .notQueued := by
    have hdropped := (h.session s).dropped (h.guard_dropped hquiescent hs)
    rw [hheard] at hdropped
    simpa using hdropped
  cases hfinish : (c.sessions s).finish with
  | notQueued => exact absurd hfinish hqueued
  | sent d' =>
    obtain rfl : d' = d := (h.coherent τ d s).finishes hd hτ hon d' (by simp [hfinish, FinishPhase.holds])
    have hbound : d' < (c.targets (c.target s)).nextDispatcher := h.activatedBound s d' hon
    have hempty := (hquiescent.dispatchers s hlt d' hbound).1
    rw [show c.target s = τ from hτ] at hempty
    rcases (h.coherent τ d' s).sent hfinish hτ with hmem | hcleared
    · rw [hempty] at hmem
      cases hmem
    · exact hcleared
  | lookup | closing d' | sending d' =>
    have hover := hquiescent.finishes s hlt
    rw [hfinish] at hover
    cases hover

/-- すべてが済んだとき、表に残る係は何も表示していない。 -/
theorem Sound.not_shows (h : Sound c) (hquiescent : c.Quiescent) (hd : c.entry τ = some d) :
    ¬(c.dispatcher τ d).Shows s := by
  intro hshows
  have hco := h.coherent τ d s
  have hτ := hco.target (.inr (.inr (.inl hshows)))
  have hon := hco.activated (.inr (.inr hshows))
  have hlt := (h.pos (s := s) (by simp [hon])).2
  have hbound : d < (c.targets (c.target s)).nextDispatcher := h.activatedBound s d hon
  have hidle := (hquiescent.dispatchers s hlt d hbound).2
  rw [show c.target s = τ from hτ] at hidle
  rcases hco.ahead hd hshows with ⟨hheard, hcleared⟩ | hclearing
  · rw [h.cleared hquiescent hd hτ hon hheard] at hcleared
    cases hcleared
  · rw [hidle] at hclearing
    cases hclearing

end AssistantStatusController

end Codeoff.Serve
