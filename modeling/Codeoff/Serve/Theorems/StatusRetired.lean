import Codeoff.Serve.Theorems.StatusCleared

/-!
# 係の引退

番人がすべて落ち、命令がすべて済んだ後、係の表は空か。
-/

namespace Codeoff.Serve

open Codeoff.Control

namespace AssistantStatusController

variable {c c' : AssistantStatusController} {τ τ₀ : AssistantStatusTarget} {d d₀ s s₀ k : Nat}
  {f : ActiveAssistantStatus → ActiveAssistantStatus} {g : AssistantStatusDispatcher → AssistantStatusDispatcher}
  {event : StatusEvent}

def looksUp (c : AssistantStatusController) : StatusEvent → Option Nat
  | .guard s => if (c.sessions s).guard = .retireLookup then some s else none
  | .finish s => if (c.sessions s).finish = .lookup then some s else none
  | .task k =>
    match c.tasks[k]? with
    | some (.lookup s _) => some s
    | _ => none
  | _ => none

def startsLookup (c : AssistantStatusController) : StatusEvent → Option Nat
  | .guard s => if (c.sessions s).guard = .starting then some s else none
  | _ => none

def ignores (c : AssistantStatusController) : StatusEvent → Option Nat
  | .worker τ d _ =>
    match (c.dispatcher τ d).worker with
    | .checkingVisible s =>
      if (c.dispatcher τ d).visibleSessionId ≠ s ∧ (c.dispatcher τ d).currentSessionId = s ∧ c.entry τ = some d then
        some s
      else none
    | _ => none
  | _ => none

def stores (c : AssistantStatusController) : StatusEvent → Option Nat
  | .task k =>
    match c.tasks[k]? with
    | some (.storingShouldClear s _) => some s
    | _ => none
  | _ => none

/-- 送ると決めたセッションは消す命令を後に残す。 -/
def Retires (c : AssistantStatusController) (event : StatusEvent) : Prop :=
  c.Timely event ∧ (∀ s ∈ c.looksUp event, (c.entry (c.target s)).isSome = true) ∧
    (∀ s ∈ c.ignores event, (c.sessions s).shouldClear = false) ∧
    ∀ s ∈ c.stores event, ∀ d ∈ c.entry (c.target s), (c.sessions s).cleared = true →
      (c.dispatcher (c.target s) d).currentSessionId = s →
        (c.dispatcher (c.target s) d).worker.clearingId = some s

instance : Decidable (c.Retires event) := inferInstanceAs (Decidable (_ ∧ _ ∧ _ ∧ _))

/-- 始まりが係を新しく作るのは、より新しいセッションが現在になっていない会話に限り、セッションは表にある係で現在になる。 -/
def Reaches (c : AssistantStatusController) (event : StatusEvent) : Prop :=
  (∀ s ∈ c.startsLookup event, c.entry (c.target s) = none →
    ∀ s' < c.nextSessionId, c.target s' = c.target s → (c.sessions s').activatedOn ≠ none → s' < s) ∧
    ∀ p ∈ c.activates event, c.entry (c.target p.1) = some p.2

instance : Decidable (c.Reaches event) := inferInstanceAs (Decidable (_ ∧ _))

/-! ## 引退の不変条件 -/

/-- 現在のセッションは、番人が現在でなくそうとしているか、消す命令を後に残す。 -/
structure Ends (d : Nat) (x : AssistantStatusDispatcher) (s : Nat) (a : ActiveAssistantStatus) : Prop where
  silent : a.silent = true → a.guard = .retireLookup ∨ a.guard.holds = some d
  cleared : a.cleared = true → a.shouldClear = false ∨ x.worker.clearingId = some s

/-- 番人が、この係を表から外そうとしているか、その現在のセッションになろうとしている。 -/
def Pursued (c : AssistantStatusController) (τ : AssistantStatusTarget) (d : Nat) : Prop :=
  ∃ s, c.target s = τ ∧ ((c.sessions s).guard = .activating d ∨ (c.sessions s).guard = .retireRemoving d)

structure Retiring (c : AssistantStatusController) : Prop where
  ends : ∀ τ d s, c.entry τ = some d → s ≠ 0 → (c.dispatcher τ d).currentSessionId = s →
    Ends d (c.dispatcher τ d) s (c.sessions s)
  waits : ∀ τ d, c.entry τ = some d → (c.dispatcher τ d).currentSessionId = 0 →
    (c.dispatcher τ d).visibleSessionId = 0 → (c.dispatcher τ d).worker = .removing ∨ c.Pursued τ d

theorem Pursued.onSession (h : c.Pursued τ d) (htarget : (f (c.sessions s₀)).target = (c.sessions s₀).target)
    (hguard : c.target s₀ = τ → (c.sessions s₀).guard = .activating d ∨ (c.sessions s₀).guard = .retireRemoving d →
      (f (c.sessions s₀)).guard = (c.sessions s₀).guard) : (c.onSession s₀ f).Pursued τ d := by
  obtain ⟨s, hτ, hs⟩ := h
  refine ⟨s, ?_⟩
  by_cases heq : s = s₀
  · subst heq
    simp only [target, onSession_sessions, if_true, htarget]
    rw [hguard hτ hs]
    exact ⟨hτ, hs⟩
  · simp only [target, onSession_sessions, if_neg heq]
    exact ⟨hτ, hs⟩

theorem Sound.target_of_current (h : Sound c) (hs : s ≠ 0) (hcurrent : (c.dispatcher τ d).currentSessionId = s) :
    c.target s = τ :=
  (h.coherent τ d s).target (.inl ⟨hs, hcurrent⟩)

theorem Sound.activated_of_current (h : Sound c) (hs : s ≠ 0) (hcurrent : (c.dispatcher τ d).currentSessionId = s) :
    (c.sessions s).activatedOn = some d :=
  (h.coherent τ d s).activated (.inl ⟨hs, hcurrent⟩)

theorem Retiring.onSession (hr : Retiring c)
    (hcurrents : ∀ τ d, s₀ ≠ 0 → (c.dispatcher τ d).currentSessionId = s₀ → c.target s₀ = τ)
    (htarget : (f (c.sessions s₀)).target = (c.sessions s₀).target)
    (hends : ∀ d, c.entry (c.target s₀) = some d → (c.dispatcher (c.target s₀) d).currentSessionId = s₀ →
      Ends d (c.dispatcher (c.target s₀) d) s₀ (c.sessions s₀) →
        Ends d (c.dispatcher (c.target s₀) d) s₀ (f (c.sessions s₀)))
    (hguard : ∀ d, c.entry (c.target s₀) = some d → (c.dispatcher (c.target s₀) d).currentSessionId = 0 →
      (c.sessions s₀).guard = .activating d ∨ (c.sessions s₀).guard = .retireRemoving d →
        (f (c.sessions s₀)).guard = (c.sessions s₀).guard) : Retiring (c.onSession s₀ f) := by
  constructor
  · intro τ d s hd hs hcurrent
    have hold := hr.ends τ d s hd hs hcurrent
    by_cases heq : s = s₀
    · subst heq
      have hτ := hcurrents τ d hs hcurrent
      subst hτ
      simpa using hends d hd hcurrent hold
    · simpa [heq] using hold
  · intro τ d hd hcurrent hvisible
    rcases hr.waits τ d hd hcurrent hvisible with hworker | hpursued
    · exact .inl hworker
    · refine .inr (hpursued.onSession htarget ?_)
      rintro rfl
      exact hguard d hd hcurrent

theorem Retiring.onDispatcher (hr : Retiring c)
    (hends : ∀ s, c.entry τ₀ = some d₀ → s ≠ 0 → (g (c.dispatcher τ₀ d₀)).currentSessionId = s →
      Ends d₀ (g (c.dispatcher τ₀ d₀)) s (c.sessions s))
    (hwaits : c.entry τ₀ = some d₀ → (g (c.dispatcher τ₀ d₀)).currentSessionId = 0 →
      (g (c.dispatcher τ₀ d₀)).visibleSessionId = 0 →
        (g (c.dispatcher τ₀ d₀)).worker = .removing ∨ c.Pursued τ₀ d₀) : Retiring (c.onDispatcher τ₀ d₀ g) := by
  constructor
  · intro τ d s hd hs
    rw [onDispatcher_entry] at hd
    rw [onDispatcher_dispatcher, onDispatcher_sessions]
    split
    · next heq =>
      obtain ⟨rfl, rfl⟩ := heq
      exact hends s hd hs
    · exact hr.ends τ d s hd hs
  · intro τ d hd
    rw [onDispatcher_entry] at hd
    rw [onDispatcher_dispatcher]
    split
    · next heq =>
      obtain ⟨rfl, rfl⟩ := heq
      exact hwaits hd
    · exact hr.waits τ d hd

theorem Retiring.still (hr : Retiring c)
    (hcurrent : (g (c.dispatcher τ₀ d₀)).currentSessionId = (c.dispatcher τ₀ d₀).currentSessionId)
    (hvisible : (g (c.dispatcher τ₀ d₀)).visibleSessionId = (c.dispatcher τ₀ d₀).visibleSessionId)
    (hclearing : ∀ s, (c.dispatcher τ₀ d₀).worker.clearingId = some s →
      (g (c.dispatcher τ₀ d₀)).worker.clearingId = some s)
    (hremoving : (c.dispatcher τ₀ d₀).worker = .removing → (g (c.dispatcher τ₀ d₀)).worker = .removing) :
    Retiring (c.onDispatcher τ₀ d₀ g) := by
  apply hr.onDispatcher
  · intro s hd hs hx
    obtain ⟨hsilent, hcleared⟩ := hr.ends τ₀ d₀ s hd hs (hcurrent.symm.trans hx)
    exact ⟨hsilent, fun hx => (hcleared hx).imp_right (hclearing s)⟩
  · intro hd hx hy
    exact (hr.waits τ₀ d₀ hd (hcurrent.symm.trans hx) (hvisible.symm.trans hy)).imp_left hremoving

theorem Retiring.send {command : AssistantStatusCommand} (hr : Retiring c) : Retiring (c.send τ₀ d₀ command) :=
  hr.still rfl rfl (fun _ hx => hx) (fun hx => hx)

theorem Retiring.withTasks (hr : Retiring c) (tasks : List StatusTask) : Retiring { c with tasks } := ⟨hr.ends, hr.waits⟩

theorem Retiring.withActive (hr : Retiring c) (activeSessions : Nat → Option Nat) :
    Retiring { c with activeSessions } := ⟨hr.ends, hr.waits⟩

theorem Retiring.record (hr : Retiring c) {call : StatusCall} : Retiring (c.record τ₀ call) := by
  constructor
  · simpa using hr.ends
  · simpa [Pursued, target] using hr.waits

theorem Retiring.setGuard {p : GuardPhase} (h : Sound c) (hr : Retiring c)
    (hguard : ∀ d, c.entry (c.target s) = some d → (c.dispatcher (c.target s) d).currentSessionId = 0 →
      (c.sessions s).guard ≠ .activating d ∧ (c.sessions s).guard ≠ .retireRemoving d)
    (hsilent : (c.sessions s).silent = false ∨ ∀ d, c.entry (c.target s) = some d →
      (c.dispatcher (c.target s) d).currentSessionId = s → (c.sessions s).guard = .retireLookup ∨
        (c.sessions s).guard.holds = some d → p = .retireLookup ∨ p.holds = some d) : Retiring (c.setGuard s p) := by
  apply hr.onSession (fun τ d => h.target_of_current) rfl
  · intro d hd hcurrent hends
    refine ⟨?_, hends.cleared⟩
    intro hx
    rcases hsilent with hnot | hholds
    · rw [show (c.sessions s).silent = true from hx] at hnot
      cases hnot
    · exact hholds d hd hcurrent (hends.silent hx)
  · intro d hd hcurrent hx
    rcases hx with hx | hx
    · exact absurd hx (hguard d hd hcurrent).1
    · exact absurd hx (hguard d hd hcurrent).2

theorem Retiring.remove (hr : Retiring c) : Retiring (c.removeDispatcherIfCurrent τ₀ d₀) := by
  have hentry : ∀ τ d, (c.removeDispatcherIfCurrent τ₀ d₀).entry τ = some d → c.entry τ = some d := by
    intro τ d hd
    rw [remove_entry] at hd
    split at hd
    · cases hd
    · exact hd
  constructor
  · intro τ d s hd
    rw [remove_dispatcher, remove_sessions]
    exact hr.ends τ d s (hentry τ d hd)
  · intro τ d hd
    rw [remove_dispatcher]
    simpa [Pursued] using hr.waits τ d (hentry τ d hd)

/-! ## 番人 -/

/-- 始まりは、係を求め、そのセッションを現在にしに行く。 -/
theorem Retiring.starting (h : Sound c) (hr : Retiring c) (hguard : (c.sessions s).guard = .starting) :
    Retiring ((c.dispatcherFor (c.target s)).setGuard s (.activating (c.lookupId (c.target s)))) := by
  have hends : ∀ τ d s', (c.dispatcherFor (c.target s)).entry τ = some d → s' ≠ 0 →
      (c.dispatcher τ d).currentSessionId = s' → Ends d (c.dispatcher τ d) s' (c.sessions s') := by
    intro τ d s' hd hs' hcurrent
    cases hentry : c.entry (c.target s) with
    | some e =>
      rw [dispatcherFor_of_some hentry] at hd
      exact hr.ends τ d s' hd hs' hcurrent
    | none =>
      rw [dispatcherFor_entry] at hd
      split at hd
      · next hτ =>
        rw [lookupId_of_none hentry] at hd
        cases hd
        subst hτ
        exact absurd (hcurrent.symm.trans (h.current_new _)) hs'
      · exact hr.ends τ d s' hd hs' hcurrent
  have hsilent : (c.sessions s).silent = false := (h.session s).not_silent (by simp [hguard, GuardPhase.retires])
  constructor
  · intro τ d s' hd hs' hcurrent
    obtain ⟨hsilent', hcleared⟩ := hends τ d s' hd hs' (by simpa [AssistantStatusController.setGuard] using hcurrent)
    by_cases heq : s' = s
    · subst heq
      constructor
      · simp [AssistantStatusController.setGuard, hsilent]
      · simpa [AssistantStatusController.setGuard] using hcleared
    · exact ⟨by simpa [AssistantStatusController.setGuard, heq] using hsilent',
        by simpa [AssistantStatusController.setGuard, heq] using hcleared⟩
  · intro τ d hd hcurrent hvisible
    by_cases hτ : τ = c.target s
    · subst hτ
      simp only [AssistantStatusController.setGuard, onSession_entry, dispatcherFor_entry, if_true] at hd
      cases hd
      exact .inr ⟨s, by simp [target, AssistantStatusController.setGuard]⟩
    · have hd' : c.entry τ = some d := by
        simpa [AssistantStatusController.setGuard, hτ] using hd
      rcases hr.waits τ d hd' (by simpa [AssistantStatusController.setGuard] using hcurrent)
        (by simpa [AssistantStatusController.setGuard] using hvisible) with hworker | hpursued
      · exact .inl (by simpa [AssistantStatusController.setGuard] using hworker)
      · have hpursued' : (c.dispatcherFor (c.target s)).Pursued τ d := by simpa [Pursued] using hpursued
        refine .inr (hpursued'.onSession rfl ?_)
        simp [hguard]

theorem Retiring.activate (h : Sound c) (hr : Retiring c) (hguard : (c.sessions s).guard = .activating d) :
    Retiring (c.activate s d) := by
  have hok := h.session s
  have hs := Nat.ne_of_gt (h.begun s (by simp [hguard])).1
  have hactivated : (c.sessions s).activatedOn = none := by
    rw [hok.activated, hguard]
    rfl
  have hsilent : (c.sessions s).silent ≠ true := by
    simp [hok.not_silent (by simp [hguard, GuardPhase.retires])]
  have hcleared : (c.sessions s).cleared ≠ true := fun hcleared => hok.finish (hok.received hcleared) hactivated
  apply Retiring.onSession
  · apply hr.onDispatcher
    · rintro s' - - rfl
      exact ⟨fun hx => absurd hx hsilent, fun hx => absurd hx hcleared⟩
    · exact fun _ hx => absurd hx hs
  · intro τ d' _ hcurrent
    rw [onDispatcher_dispatcher] at hcurrent
    split at hcurrent
    · next heq => exact heq.1.symm
    · rw [h.activated_of_current hs hcurrent] at hactivated
      cases hactivated
  · rfl
  · intro d' hd' _ _
    exact ⟨fun hx => absurd hx hsilent, fun hx => absurd hx hcleared⟩
  · intro d' _ hcurrent hx
    rw [onDispatcher_sessions, hguard] at hx
    rcases hx with hx | hx
    · cases hx
      have hcurrent' : s = 0 := by simpa [target] using hcurrent
      exact absurd hcurrent' hs
    · cases hx

/-- 番人が現在のセッションを退かせれば、消す命令が送られるか、番人が係を外しに行く。 -/
theorem Retiring.retire (h : Sound c) (hr : Retiring c) (hguard : (c.sessions s).guard = .retiring d) :
    Retiring (c.retire s d) := by
  have hs := Nat.ne_of_gt (h.begun s (by simp [hguard])).1
  unfold AssistantStatusController.retire
  dsimp only
  by_cases hcurrent : (c.dispatcher (c.target s) d).currentSessionId = s
  · rw [if_pos hcurrent]
    have hon := h.activated_of_current hs hcurrent
    constructor
    · intro τ d' s' hd' hs' hcurrent'
      simp only [AssistantStatusController.setGuard, onSession_dispatcher, onDispatcher_dispatcher] at hcurrent' ⊢
      by_cases hplace : τ = c.target s ∧ d' = d
      · rw [if_pos hplace] at hcurrent'
        exact absurd hcurrent'.symm hs'
      · rw [if_neg hplace] at hcurrent' ⊢
        have hne : s' ≠ s := by
          rintro rfl
          have hon' := h.activated_of_current hs hcurrent'
          rw [hon] at hon'
          cases hon'
          exact hplace ⟨(h.target_of_current hs hcurrent').symm, rfl⟩
        have hold := hr.ends τ d' s' (by simpa [AssistantStatusController.setGuard] using hd') hs' hcurrent'
        simpa [hne] using hold
    · intro τ d' hd' hcurrent' hvisible'
      by_cases hplace : τ = c.target s ∧ d' = d
      · obtain ⟨rfl, rfl⟩ := hplace
        have hvisible : (c.dispatcher (c.target s) d').visibleSessionId = 0 := by
          simpa [AssistantStatusController.setGuard] using hvisible'
        refine .inr ⟨s, ?_⟩
        rw [if_pos hvisible]
        simp [target, AssistantStatusController.setGuard]
      · simp only [AssistantStatusController.setGuard, onSession_dispatcher, onDispatcher_dispatcher, if_neg hplace]
          at hcurrent' hvisible' ⊢
        rcases hr.waits τ d' (by simpa [AssistantStatusController.setGuard] using hd') hcurrent' hvisible' with
          hworker | hpursued
        · exact .inl hworker
        · have hpursued' : (c.onDispatcher (c.target s) d fun x => { x with currentSessionId := 0 }).Pursued τ d' :=
            hpursued
          refine .inr (hpursued'.onSession rfl ?_)
          simp [hguard]
  · rw [if_neg hcurrent]
    apply hr.setGuard h
    · simp [hguard]
    · refine .inr fun d' _ hcurrent' hholds => ?_
      rcases hholds with hx | hx
      · rw [hguard] at hx
        cases hx
      · rw [hguard] at hx
        cases hx
        exact absurd hcurrent' hcurrent

theorem Retiring.onSession_same (h : Sound c) (hr : Retiring c)
    (htarget : (f (c.sessions s)).target = (c.sessions s).target) (hguard : (f (c.sessions s)).guard = (c.sessions s).guard)
    (hsilent : (f (c.sessions s)).silent = (c.sessions s).silent)
    (hcleared : (f (c.sessions s)).cleared = (c.sessions s).cleared)
    (htext : (f (c.sessions s)).shouldClear = (c.sessions s).shouldClear) : Retiring (c.onSession s f) := by
  apply hr.onSession (fun τ d => h.target_of_current) htarget
  · rintro d - - ⟨hends, hends'⟩
    constructor
    · rwa [hsilent, hguard]
    · rwa [hcleared, htext]
  · exact fun _ _ _ _ => hguard

theorem Retiring.swapQueued (h : Sound c) (hr : Retiring c) : Retiring (c.swapQueued s) := by
  unfold AssistantStatusController.swapQueued
  split
  · exact hr
  · exact hr.onSession_same h rfl rfl rfl rfl rfl

theorem dispatcherFor_of_isSome (hentry : (c.entry τ).isSome = true) : c.dispatcherFor τ = c := by
  obtain ⟨d, hd⟩ := Option.isSome_iff_exists.mp hentry
  exact dispatcherFor_of_some hd

/-- 条件を満たす番人の一歩の後も、係はいずれ表から外される。 -/
theorem Retiring.guardStep (h : Sound c) (hr : Retiring c) (hretires : c.Retires (.guard s)) :
    Retiring (c.guardStep s) := by
  have hok := h.session s
  unfold AssistantStatusController.guardStep
  split
  · next hguard => exact hr.starting h hguard
  · next d hguard => exact hr.activate h hguard
  · next hguard =>
    have hsilent := hok.not_silent (by simp [hguard, GuardPhase.retires])
    have hr' : Retiring
        { c with activeSessions := Function.update c.activeSessions (c.sessions s).thread (some s) } := hr.withActive _
    apply hr'.onSession (fun τ d => h.target_of_current) rfl
    · rintro d - - hends
      exact ⟨fun hx => absurd hx (by simp [hsilent]), hends.cleared⟩
    · simp [hguard]
  · next hguard =>
    have hsilent := hok.not_silent (by simp [hguard, GuardPhase.retires])
    unfold AssistantStatusController.unregister AssistantStatusController.setGuard
    apply Retiring.onSession
    · exact hr.withActive _
    · exact fun τ d => h.target_of_current
    · rfl
    · rintro d - - hends
      exact ⟨fun hx => absurd hx (by simp [hsilent]), hends.cleared⟩
    · simp [hguard]
  · next hguard =>
    have hsilent := hok.not_silent (by simp [hguard, GuardPhase.retires])
    unfold AssistantStatusController.readShouldClear
    split
    · apply hr.setGuard h
      · simp [hguard]
      · exact .inl hsilent
    · apply hr.onSession (fun τ d => h.target_of_current) rfl
      · rintro d - - hends
        exact ⟨fun _ => .inl rfl, hends.cleared⟩
      · simp [hguard]
  · next hguard =>
    have hentry := hretires.2.1 s (by simp [looksUp, hguard])
    rw [dispatcherFor_of_isSome hentry]
    apply hr.setGuard h
    · simp [hguard]
    · refine .inr fun d hd _ _ => .inr ?_
      rw [lookupId_of_some hd]
      rfl
  · next d hguard =>
    apply hr.onSession (fun τ d => h.target_of_current) rfl
    · rintro d' - - hends
      refine ⟨fun hx => .inr ?_, hends.cleared⟩
      rcases hends.silent hx with hx | hx
      · rw [hguard] at hx
        cases hx
      · rwa [hguard] at hx
    · simp [hguard]
  · next d hguard => exact hr.retire h hguard
  · next d hguard =>
    have hr' : Retiring (c.removeDispatcherIfCurrent (c.target s) d) := hr.remove
    apply hr'.setGuard (h.remove _ _)
    · intro d' hd' _
      rw [remove_target, remove_entry] at hd'
      rw [remove_sessions, hguard]
      refine ⟨by simp, ?_⟩
      rintro ⟨⟩
      split at hd'
      · cases hd'
      · next hnot => exact hnot ⟨rfl, hd'⟩
    · refine .inr fun d' _ _ hx => ?_
      rw [remove_sessions, hguard] at hx
      rcases hx with hx | hx <;> cases hx
  · next hguard =>
    have hactivated : (c.sessions s).activatedOn ≠ none := by
      rw [Ne, hok.activated, hguard]
      simp [GuardPhase.early]
    have hsame : ((c.swapQueued s).sessions s).guard = .finishing := by
      unfold AssistantStatusController.swapQueued
      split <;> simp [hguard]
    have hswapped := h.swapQueued hactivated
    apply (hr.swapQueued h).setGuard hswapped
    · simp [hsame]
    · exact .inl ((hswapped.session s).not_silent (by simp [hsame, GuardPhase.retires]))
  all_goals exact hr

theorem Retiring.finishStep (h : Sound c) (hr : Retiring c) (hretires : c.Retires (.finish s)) :
    Retiring (c.finishStep s) := by
  unfold AssistantStatusController.finishStep
  split
  · next hfinish =>
    have hentry := hretires.2.1 s (by simp [looksUp, hfinish])
    rw [dispatcherFor_of_isSome hentry]
    exact hr.onSession_same h rfl rfl rfl rfl rfl
  · exact hr.onSession_same h rfl rfl rfl rfl rfl
  · next d hfinish =>
    have hsend : Retiring (c.send (c.target s) d (.clear s)) := hr.send
    apply hsend.onSession
    · intro τ d' hs hcurrent
      have hcurrent' : (c.dispatcher τ d').currentSessionId = s := by
        unfold AssistantStatusController.send at hcurrent
        rw [onDispatcher_dispatcher] at hcurrent
        split at hcurrent
        · next heq =>
          obtain ⟨rfl, rfl⟩ := heq
          exact hcurrent
        · exact hcurrent
      exact h.target_of_current hs hcurrent'
    · rfl
    · rintro d' - - hends
      exact ⟨hends.silent, hends.cleared⟩
    · exact fun _ _ _ _ => rfl
  all_goals exact hr

theorem Retiring.runTask (h : Sound c) (hr : Retiring c) (hretires : c.Retires (.task k)) : Retiring (c.runTask k) := by
  unfold AssistantStatusController.runTask
  split
  · next t ht =>
    apply Retiring.withTasks
    cases t with
    | storingShouldClear s state =>
      simp only [taskStep]
      apply hr.onSession (fun τ d => h.target_of_current)
      · rfl
      · rintro d hd hcurrent ⟨hsilent, hcleared⟩
        refine ⟨hsilent, fun hx => .inr ?_⟩
        exact hretires.2.2.2 s (by simp [stores, ht]) d hd hx hcurrent
      · exact fun _ _ _ _ => rfl
    | lookup s state =>
      have hentry := hretires.2.1 s (by simp [looksUp, ht])
      simpa [taskStep, dispatcherFor_of_isSome hentry] using hr
    | checkingClosed s state d => exact hr
    | settingPending s state d =>
      simp only [taskStep, setPending]
      split
      · exact hr.still rfl rfl (fun _ hx => hx) (fun hx => hx)
      · exact hr
    | sendingFlush τ d => exact hr.send
    | swappingQueued s => exact hr.swapQueued h
  · exact hr

/-! ## 係の作業 -/

theorem Ends.of_not_clearing {x x' : AssistantStatusDispatcher} {a : ActiveAssistantStatus} (h : Ends d x s a)
    (hworker : x.worker.clearingId = none) : Ends d x' s a := by
  refine ⟨h.silent, fun hx => .inl ?_⟩
  rcases h.cleared hx with htext | hclearing
  · exact htext
  · rw [hworker] at hclearing
    cases hclearing

/-- 係が命令を受け取っても、係はいずれ表から外される。 -/
theorem Retiring.receive (h : Sound c) (hr : Retiring c) (hworker : (c.dispatcher τ d).worker = .idle) :
    Retiring (c.receive τ d) := by
  have hidle : ∀ rest worker,
      Retiring (c.onDispatcher τ d fun x => { x with queue := rest, worker }) := by
    intro rest worker
    apply hr.onDispatcher
    · intro s hd hs hcurrent
      exact (hr.ends τ d s hd hs hcurrent).of_not_clearing (by simp [hworker, StatusWorker.clearingId])
    · intro hd hcurrent hvisible
      rcases hr.waits τ d hd hcurrent hvisible with hremoving | hpursued
      · rw [hworker] at hremoving
        cases hremoving
      · exact .inr hpursued
  unfold AssistantStatusController.receive
  split
  · next rest _ => exact hidle rest .takingPending
  · next s rest hqueue =>
    have hmention : .clear s ∈ (c.dispatcher τ d).queue := by simp [hqueue]
    have hfinish := (h.coherent τ d s).queued hmention
    have hcurrents : ∀ τ' d', s ≠ 0 → ((c.onDispatcher τ d fun x =>
        { x with queue := rest, worker := .checkingVisible s }).dispatcher τ' d').currentSessionId = s →
          (c.dispatcher τ' d').currentSessionId = s := by
      intro τ' d' _ hcurrent
      rw [onDispatcher_dispatcher] at hcurrent
      split at hcurrent
      · next heq =>
        obtain ⟨rfl, rfl⟩ := heq
        exact hcurrent
      · exact hcurrent
    have hs := Nat.ne_of_gt (h.pos_of_finish (s := s) (by simp [hfinish]))
    apply (hidle rest (.checkingVisible s)).onSession
    · exact fun τ' d' hs hcurrent => h.target_of_current hs (hcurrents τ' d' hs hcurrent)
    · rfl
    · intro d' hd' hcurrent hends
      refine ⟨hends.silent, fun _ => .inr ?_⟩
      -- 消す命令は、セッションが現在である係に送られている。
      have hτ : c.target s = τ := (h.coherent τ d s).target (.inr (.inr (.inr (.inr hmention))))
      have hd : c.entry (c.target s) = some d' := by simpa [target] using hd'
      have hon := h.activated_of_current hs (hcurrents _ _ hs hcurrent)
      obtain rfl : d = d' :=
        (h.coherent (c.target s) d' s).finishes hd rfl hon d (by simp [hfinish, FinishPhase.holds])
      simp [target, show (c.sessions s).target = τ from hτ, StatusWorker.clearingId]
    · exact fun _ _ _ _ => rfl
  · exact hr

theorem Retiring.recordVisible (h : Sound c) (hr : Retiring c)
    (hworker : (c.dispatcher τ d).worker = .recordingVisible s) :
    Retiring (c.onDispatcher τ d fun x => { x with visibleSessionId := s, worker := .idle }) := by
  have hshows : (c.dispatcher τ d).Shows s := .inr (by simp [hworker, StatusWorker.settingId])
  have hpos := h.pos (s := s) (by rw [(h.coherent τ d s).activated (.inr (.inr hshows))]; simp)
  apply hr.onDispatcher
  · intro s' hd hs hcurrent
    exact (hr.ends τ d s' hd hs hcurrent).of_not_clearing (by simp [hworker, StatusWorker.clearingId])
  · exact fun _ _ hvisible => absurd hvisible (Nat.ne_of_gt hpos.1)

theorem Retiring.settle (h : Sound c) (hr : Retiring c) (hworker : (c.dispatcher τ d).worker = .settling s) :
    Retiring (c.settle τ d s) := by
  have hvisible : (c.dispatcher τ d).visibleSessionId = s :=
    (h.coherent τ d s).visible (by simp [hworker, StatusWorker.passedId])
  apply hr.onDispatcher
  · intro s' hd hs' hcurrent
    dsimp only at hcurrent
    split at hcurrent
    · exact absurd hcurrent.symm hs'
    · next hne =>
      have hold := hr.ends τ d s' hd hs' hcurrent
      refine ⟨hold.silent, fun hx => .inl ?_⟩
      rcases hold.cleared hx with htext | hclearing
      · exact htext
      · rw [hworker] at hclearing
        cases hclearing
        exact absurd hcurrent hne
  · intro _ hcurrent hvisible'
    dsimp only at hcurrent hvisible' ⊢
    rw [if_pos ⟨hcurrent, hvisible'⟩]
    exact .inl rfl

theorem Retiring.workerStep {ok : Bool} (h : Sound c) (hr : Retiring c) (hretires : c.Retires (.worker τ d ok)) :
    Retiring (c.workerStep τ d ok) := by
  unfold AssistantStatusController.workerStep
  split
  · next hworker => exact hr.receive h hworker
  · next hworker =>
    apply hr.still rfl rfl <;> simp [hworker, StatusWorker.clearingId]
  · next s state hworker =>
    apply hr.still rfl rfl <;> simp [hworker, StatusWorker.clearingId]
  · next s state hworker =>
    split
    · have hrecord : Retiring (c.record τ (.set s state)) := hr.record
      apply hrecord.still rfl rfl <;> simp [hworker, StatusWorker.clearingId]
    · apply hr.still rfl rfl <;> simp [hworker, StatusWorker.clearingId]
  · next s hworker => exact hr.recordVisible h hworker
  · next s hworker =>
    split
    · apply hr.still rfl rfl <;> simp [hworker, StatusWorker.clearingId]
    · next hvisible =>
      apply hr.onDispatcher
      · intro s' hd hs' hcurrent
        have hold := hr.ends τ d s' hd hs' hcurrent
        refine ⟨hold.silent, fun hx => .inl ?_⟩
        rcases hold.cleared hx with htext | hclearing
        · exact htext
        · rw [hworker] at hclearing
          cases hclearing
          have hcurrent' : (c.dispatcher τ d).currentSessionId = s := hcurrent
          exact hretires.2.2.1 s (by simp [ignores, hworker, hvisible, hd, hcurrent'])
      · intro hd hcurrent hvisible
        rcases hr.waits τ d hd hcurrent hvisible with hremoving | hpursued
        · rw [hworker] at hremoving
          cases hremoving
        · exact .inr hpursued
  · next s hworker =>
    split
    · have hrecord : Retiring (c.record τ (.clear s)) := hr.record
      apply hrecord.still rfl rfl <;> simp [hworker, StatusWorker.clearingId]
    · apply hr.still rfl rfl <;> simp [hworker, StatusWorker.clearingId]
  · next s hworker => exact hr.settle h hworker
  · next hworker =>
    have hremove : Retiring (c.removeDispatcherIfCurrent τ d) := hr.remove
    have hnone : (c.removeDispatcherIfCurrent τ d).entry τ ≠ some d := by
      rw [remove_entry]
      split
      · simp
      · next hnot => exact fun hd => hnot ⟨rfl, hd⟩
    apply hremove.onDispatcher
    · exact fun _ hd => absurd hd hnone
    · exact fun hd => absurd hd hnone

theorem Retiring.begin {thread : Nat} {target : AssistantStatusTarget} (h : Sound c) (hr : Retiring c) :
    Retiring (c.begin thread target) := by
  have hsessions : ∀ s, s ≠ c.nextSessionId → (c.begin thread target).sessions s = c.sessions s := by
    intro s hs
    simp [AssistantStatusController.begin, hs]
  constructor
  · intro τ d s hd hs hcurrent
    have hon := h.activated_of_current hs hcurrent
    have hlt := (h.pos (s := s) (by simp [hon])).2
    rw [hsessions s (Nat.ne_of_lt hlt)]
    exact hr.ends τ d s hd hs hcurrent
  · intro τ d hd hcurrent hvisible
    rcases hr.waits τ d hd hcurrent hvisible with hworker | ⟨s, hτ, hs⟩
    · exact .inl hworker
    · have hlt := (h.begun s (by rcases hs with hs | hs <;> simp [hs])).2
      refine .inr ⟨s, ?_⟩
      rw [AssistantStatusController.target, hsessions s (Nat.ne_of_lt hlt)]
      exact ⟨hτ, hs⟩

theorem Retiring.step (h : Sound c) (hr : Retiring c) (hretires : c.Retires event) : Retiring (c.step event) := by
  cases event with
  | start thread target => exact hr.begin h
  | guard s => exact hr.guardStep h hretires
  | drop s =>
    simp only [AssistantStatusController.step]
    split
    · next hguard =>
      apply hr.setGuard h
      · simp [hguard]
      · exact .inl ((h.session s).not_silent (by simp [hguard, GuardPhase.retires]))
    · exact hr
  | finish s => exact hr.finishStep h hretires
  | timer s =>
    simp only [AssistantStatusController.step]
    split
    · exact Retiring.withTasks (hr.onSession_same h rfl rfl rfl rfl rfl) _
    · exact hr
  | timerCancelled s =>
    exact hr.onSession_same (f := fun a => { a with timerArmed := a.timerArmed && a.guard == .held }) h rfl rfl rfl rfl
      rfl
  | update thread state =>
    simp only [AssistantStatusController.step]
    split
    · exact hr.withTasks _
    · exact hr
  | clearActiveNow thread =>
    simp only [AssistantStatusController.step]
    split
    · exact hr.withTasks _
    · exact hr
  | task k => exact hr.runTask h hretires
  | worker τ d ok => exact hr.workerStep h hretires

theorem retiring_new : Retiring new := by
  constructor <;> simp [new, entry]

theorem Retiring.empty (h : Sound c) (hr : Retiring c) (hquiescent : c.Quiescent) (τ : AssistantStatusTarget) :
    c.entry τ = none := by
  by_contra hentry
  obtain ⟨d, hd⟩ := Option.ne_none_iff_exists'.mp hentry
  have hvisible : (c.dispatcher τ d).visibleSessionId = 0 := by
    by_contra hne
    exact h.not_shows hquiescent hd (.inl ⟨hne, rfl⟩)
  by_cases hcurrent : (c.dispatcher τ d).currentSessionId = 0
  · obtain ⟨s, hs, rfl⟩ := h.known τ hentry
    rcases hr.waits _ d hd hcurrent hvisible with hworker | ⟨s', -, hguard⟩
    · rw [(hquiescent.dispatchers s hs d (h.entryBound _ d hd)).2] at hworker
      cases hworker
    · have hlt := (h.begun s' (by rcases hguard with hguard | hguard <;> simp [hguard])).2
      rcases hquiescent.guards s' hlt with hover | hover <;> rw [hover] at hguard <;>
        rcases hguard with hguard | hguard <;> cases hguard
  · -- 現在のセッションの番人は落ち、消す命令は取り出されている。
    obtain ⟨hsilent, hcleared⟩ := hr.ends τ d _ hd hcurrent rfl
    have hon := h.activated_of_current hcurrent rfl
    have hτ := h.target_of_current hcurrent rfl
    have hne : (c.sessions (c.dispatcher τ d).currentSessionId).activatedOn ≠ none := by simp [hon]
    have hdropped := h.guard_dropped hquiescent hne
    have hheard : (c.sessions (c.dispatcher τ d).currentSessionId).silent = false := by
      by_contra hx
      rcases hsilent (by simpa using hx) with hguard | hguard <;> rw [hdropped] at hguard <;> cases hguard
    rcases hcleared (h.cleared hquiescent hd hτ hon hheard) with htext | hclearing
    · have hread := (h.session (c.dispatcher τ d).currentSessionId).read (.inr hdropped)
      rw [hheard, htext] at hread
      simp at hread
    · have hlt := (h.pos hne).2
      have hidle := (hquiescent.dispatchers _ hlt d (h.activatedBound _ d hon)).2
      rw [hτ] at hidle
      rw [hidle] at hclearing
      cases hclearing

/-! ## 更新の届く係 -/

def Newest (c : AssistantStatusController) (s : Nat) : Prop :=
  ∀ s' < c.nextSessionId, c.target s' = c.target s → s' ≤ s

instance : Decidable (c.Newest s) :=
  inferInstanceAs (Decidable (∀ s' < c.nextSessionId, c.target s' = c.target s → s' ≤ s))

/-- 最も新しいセッションの会話の係は、あれば、そのセッションが現在になった係である。 -/
structure Reaching (c : AssistantStatusController) : Prop where
  entry : ∀ s d, c.Newest s → (c.sessions s).activatedOn = some d → ∀ d' ∈ c.entry (c.target s), d' = d
  holds : ∀ t ∈ c.tasks, ∀ p ∈ t.holds, c.Newest p.1 → (c.sessions p.1).activatedOn = some p.2

theorem Reaching.of_same (hr : Reaching c) (hnext : c'.nextSessionId = c.nextSessionId)
    (hsessions : ∀ s, (c'.sessions s).target = (c.sessions s).target ∧
      (c'.sessions s).activatedOn = (c.sessions s).activatedOn)
    (hentry : ∀ τ d, c'.entry τ = some d → c.entry τ = some d)
    (hholds : ∀ t ∈ c'.tasks, ∀ p ∈ t.holds, c.Newest p.1 → (c.sessions p.1).activatedOn = some p.2) :
    Reaching c' := by
  have htarget : ∀ s, c'.target s = c.target s := fun s => (hsessions s).1
  have hnewest : ∀ s, c'.Newest s → c.Newest s := by
    intro s hs s' hlt hτ
    exact hs s' (hnext ▸ hlt) (by rw [htarget, htarget, hτ])
  constructor
  · intro s d hs hon d' hd'
    rw [htarget] at hd'
    exact hr.entry s d (hnewest s hs) ((hsessions s).2.symm.trans hon) d' (hentry _ d' hd')
  · intro t ht p hp hs
    rw [(hsessions p.1).2]
    exact hholds t ht p hp (hnewest p.1 hs)

theorem Reaching.begin {thread : Nat} {target : AssistantStatusTarget} (h : Sound c) (hr : Reaching c) :
    Reaching (c.begin thread target) := by
  have hsessions : ∀ s, s ≠ c.nextSessionId → (c.begin thread target).sessions s = c.sessions s := by
    intro s hs
    simp [AssistantStatusController.begin, hs]
  have htarget : ∀ s, s ≠ c.nextSessionId → (c.begin thread target).target s = c.target s :=
    fun s hs => congrArg ActiveAssistantStatus.target (hsessions s hs)
  have hnewest : ∀ s, s ≠ c.nextSessionId → (c.begin thread target).Newest s → c.Newest s := by
    intro s hs hnew s' hlt hτ
    exact hnew s' (Nat.lt_succ_of_lt hlt) (by rw [htarget s hs, htarget s' (Nat.ne_of_lt hlt), hτ])
  constructor
  · intro s d hs hon d' hd'
    by_cases heq : s = c.nextSessionId
    · subst heq
      have hnone : ((c.begin thread target).sessions c.nextSessionId).activatedOn = none := by
        simp [AssistantStatusController.begin, ActiveAssistantStatus.absent]
      rw [hnone] at hon
      cases hon
    · rw [hsessions s heq] at hon
      rw [htarget s heq] at hd'
      exact hr.entry s d (hnewest s heq hs) hon d' hd'
  · intro t ht p hp hs
    have hne := Nat.ne_of_lt (h.pos ((h.tasks t ht).activated p.1 (t.sessionId_of_holds hp))).2
    rw [hsessions p.1 hne]
    exact hr.holds t ht p hp (hnewest p.1 hne hs)

/-- 最も新しいセッションが現在になった会話には、古いセッションの始まりが係を新しく作らない。 -/
theorem Reaching.starting (h : Sound c) (hr : Reaching c) (hguard : (c.sessions s).guard = .starting)
    (hcreates : c.entry (c.target s) = none →
      ∀ s' < c.nextSessionId, c.target s' = c.target s → (c.sessions s').activatedOn ≠ none → s' < s) :
    Reaching (c.dispatcherFor (c.target s)) := by
  cases hentry : c.entry (c.target s) with
  | some d => exact (dispatcherFor_of_some hentry).symm ▸ hr
  | none =>
    have hnewest : ∀ s', (c.dispatcherFor (c.target s)).Newest s' → c.Newest s' := by
      intro s' hs' s'' hlt hτ
      exact hs' s'' (by simpa using hlt) (by simpa using hτ)
    constructor
    · intro s' d hs' hon d' hd'
      rw [dispatcherFor_sessions] at hon
      rw [dispatcherFor_target, dispatcherFor_entry] at hd'
      split at hd'
      · next hτ =>
        have hne : (c.sessions s').activatedOn ≠ none := by simp [hon]
        have hlt := hcreates hentry s' (h.pos hne).2 hτ hne
        have hle := hnewest s' hs' s (h.begun s (by simp [hguard])).2 hτ.symm
        omega
      · exact hr.entry s' d (hnewest s' hs') hon d' hd'
    · intro t ht p hp hs'
      rw [dispatcherFor_tasks] at ht
      rw [dispatcherFor_sessions]
      exact hr.holds t ht p hp (hnewest p.1 hs')

theorem Reaching.activate (h : Sound c) (hr : Reaching c) (hguard : (c.sessions s).guard = .activating d)
    (hd : c.entry (c.target s) = some d) : Reaching (c.activate s d) := by
  have hsessions : ∀ s', s' ≠ s → (c.activate s d).sessions s' = c.sessions s' := by
    intro s' hs'
    simp [AssistantStatusController.activate, hs']
  have htarget : ∀ s', (c.activate s d).target s' = c.target s' := by
    intro s'
    by_cases heq : s' = s <;> simp [AssistantStatusController.activate, target, heq]
  have hnewest : ∀ s', (c.activate s d).Newest s' → c.Newest s' := by
    intro s' hs' s'' hlt hτ
    exact hs' s'' hlt (by rw [htarget, htarget, hτ])
  constructor
  · intro s' d₁ hs' hon d₂ hd₂
    have hentry : c.entry (c.target s') = some d₂ := by
      rw [htarget] at hd₂
      simpa [AssistantStatusController.activate] using hd₂
    by_cases heq : s' = s
    · subst heq
      have hd₁ : d = d₁ := by simpa [AssistantStatusController.activate] using hon
      rw [hd] at hentry
      exact (Option.some.inj hentry).symm.trans hd₁
    · rw [hsessions s' heq] at hon
      exact hr.entry s' d₁ (hnewest s' hs') hon d₂ hentry
  · intro t ht p hp hs'
    have hne : p.1 ≠ s := by
      rintro rfl
      have hactivated := (h.tasks t ht).activated p.1 (t.sessionId_of_holds hp)
      rw [Ne, (h.session p.1).activated, hguard] at hactivated
      exact hactivated rfl
    rw [hsessions p.1 hne]
    exact hr.holds t ht p hp (hnewest p.1 hs')

theorem Reaching.onSession (hr : Reaching c) (htarget : (f (c.sessions s)).target = (c.sessions s).target)
    (hactivated : (f (c.sessions s)).activatedOn = (c.sessions s).activatedOn) : Reaching (c.onSession s f) := by
  refine hr.of_same rfl ?_ ?_ ?_
  · intro s'
    by_cases heq : s' = s
    · subst heq
      simp [htarget, hactivated]
    · simp [heq]
  · exact fun _ _ hd => hd
  · exact hr.holds

theorem Reaching.setGuard {p : GuardPhase} (hr : Reaching c) : Reaching (c.setGuard s p) := hr.onSession rfl rfl

theorem Reaching.onDispatcher (hr : Reaching c) : Reaching (c.onDispatcher τ d g) :=
  hr.of_same rfl (fun _ => ⟨rfl, rfl⟩) (fun _ _ hd => by simpa using hd) hr.holds

theorem Reaching.send {command : AssistantStatusCommand} (hr : Reaching c) : Reaching (c.send τ d command) :=
  hr.onDispatcher

theorem Reaching.remove (hr : Reaching c) : Reaching (c.removeDispatcherIfCurrent τ d) := by
  apply hr.of_same (remove_nextSessionId)
  · simp
  · intro τ' d' hd'
    rw [remove_entry] at hd'
    split at hd'
    · cases hd'
    · exact hd'
  · simpa using hr.holds

theorem Reaching.record {call : StatusCall} (hr : Reaching c) : Reaching (c.record τ call) :=
  hr.of_same rfl (fun _ => ⟨rfl, rfl⟩) (fun _ _ hd => by simpa using hd) hr.holds

theorem Reaching.withActive (hr : Reaching c) (activeSessions : Nat → Option Nat) :
    Reaching { c with activeSessions } := ⟨hr.entry, hr.holds⟩

theorem Reaching.swapQueued (hr : Reaching c) : Reaching (c.swapQueued s) := by
  unfold AssistantStatusController.swapQueued
  split
  · exact hr
  · exact hr.onSession rfl rfl

theorem Reaching.guardStep (h : Sound c) (hr : Reaching c) (hretires : c.Retires (.guard s))
    (hreaches : c.Reaches (.guard s)) : Reaching (c.guardStep s) := by
  unfold AssistantStatusController.guardStep
  split
  · next hguard =>
    apply Reaching.setGuard
    exact hr.starting h hguard (hreaches.1 s (by simp [startsLookup, hguard]))
  · next d hguard => exact hr.activate h hguard (hreaches.2 (s, d) (by simp [activates, hguard]))
  · exact (hr.withActive _).onSession rfl rfl
  · exact (hr.withActive _).setGuard
  · unfold AssistantStatusController.readShouldClear
    split
    · exact hr.setGuard
    · exact hr.onSession rfl rfl
  · next hguard =>
    rw [dispatcherFor_of_isSome (hretires.2.1 s (by simp [looksUp, hguard]))]
    exact hr.setGuard
  · exact hr.onSession rfl rfl
  · unfold AssistantStatusController.retire
    dsimp only
    split
    · exact hr.onDispatcher.setGuard
    · exact hr.setGuard
  · exact hr.remove.setGuard
  · exact hr.swapQueued.setGuard
  all_goals exact hr

theorem Reaching.finishStep (hr : Reaching c) (hretires : c.Retires (.finish s)) : Reaching (c.finishStep s) := by
  unfold AssistantStatusController.finishStep
  split
  · next hfinish =>
    rw [dispatcherFor_of_isSome (hretires.2.1 s (by simp [looksUp, hfinish]))]
    exact hr.onSession rfl rfl
  · exact hr.onSession rfl rfl
  · exact Reaching.onSession hr.onDispatcher rfl rfl
  all_goals exact hr

/-- 更新が求めた係は、最も新しいセッションなら、そのセッションが現在になった係である。 -/
theorem Reaching.taskStep (h : Sound c) (hr : Reaching c) {t : StatusTask} (ht : t ∈ c.tasks)
    (hlookup : ∀ s state, t = .lookup s state → (c.entry (c.target s)).isSome = true) :
    Reaching (c.taskStep t).1 ∧ (c.taskStep t).1.tasks = c.tasks ∧
      ∀ next ∈ (c.taskStep t).2, ∀ p ∈ next.holds, (c.taskStep t).1.Newest p.1 →
        ((c.taskStep t).1.sessions p.1).activatedOn = some p.2 := by
  cases t with
  | storingShouldClear s state =>
    refine ⟨?_, rfl, ?_⟩
    · exact hr.onSession (f := fun a => { a with shouldClear := true }) rfl rfl
    · rintro next ⟨⟩ p ⟨⟩
  | lookup s state =>
    obtain ⟨d, hd⟩ := Option.isSome_iff_exists.mp (hlookup s state rfl)
    have hsame : (c.taskStep (.lookup s state)).1 = c := dispatcherFor_of_some hd
    rw [hsame]
    refine ⟨hr, rfl, ?_⟩
    rintro next ⟨⟩ p ⟨⟩ hnewest
    obtain ⟨d', hd'⟩ := Option.ne_none_iff_exists'.mp ((h.tasks _ ht).activated s rfl)
    rw [lookupId_of_some hd, hr.entry s d' hnewest hd' d hd]
    exact hd'
  | checkingClosed s state d =>
    refine ⟨hr, rfl, ?_⟩
    intro next hnext p hp
    simp only [AssistantStatusController.taskStep] at hnext
    split at hnext
    · cases hnext
    · cases hnext
      exact hr.holds _ ht p hp
  | settingPending s state d =>
    refine ⟨?_, ?_, ?_⟩
    · simp only [AssistantStatusController.taskStep, setPending]
      split
      · exact hr.onDispatcher
      · exact hr
    · simp only [AssistantStatusController.taskStep, setPending]
      split <;> rfl
    · intro next hnext p hp
      simp only [AssistantStatusController.taskStep] at hnext
      split at hnext
      · cases hnext
        cases hp
      · cases hnext
  | sendingFlush τ d => exact ⟨hr.send, rfl, by simp [AssistantStatusController.taskStep]⟩
  | swappingQueued s =>
    refine ⟨hr.swapQueued, ?_, by simp [AssistantStatusController.taskStep]⟩
    simp only [AssistantStatusController.taskStep, AssistantStatusController.swapQueued]
    split <;> rfl

theorem Reaching.runTask (h : Sound c) (hr : Reaching c) (hretires : c.Retires (.task k)) : Reaching (c.runTask k) := by
  unfold AssistantStatusController.runTask
  split
  · next t ht =>
    have hlookup : ∀ s state, t = .lookup s state → (c.entry (c.target s)).isSome = true := by
      rintro s state rfl
      exact hretires.2.1 s (by simp [looksUp, ht])
    obtain ⟨hstep, htasks, hnext⟩ := hr.taskStep h (List.mem_of_getElem? ht) hlookup
    refine ⟨hstep.entry, ?_⟩
    intro t' ht'
    dsimp only at ht'
    split at ht'
    · next t'' heq =>
      rcases List.mem_or_eq_of_mem_set ht' with hmem | rfl
      · exact hstep.holds t' (htasks ▸ hmem)
      · exact hnext _ heq
    · exact hstep.holds t' (htasks ▸ List.mem_of_mem_eraseIdx ht')
  · exact hr

theorem Reaching.workerStep {ok : Bool} (hr : Reaching c) : Reaching (c.workerStep τ d ok) := by
  unfold AssistantStatusController.workerStep
  split
  · unfold receive
    split
    · exact hr.onDispatcher
    · exact Reaching.onSession hr.onDispatcher rfl rfl
    · exact hr
  · exact hr.onDispatcher
  · exact hr.onDispatcher
  · split
    · exact hr.record.onDispatcher
    · exact hr.onDispatcher
  · exact hr.onDispatcher
  · exact hr.onDispatcher
  · split
    · exact hr.record.onDispatcher
    · exact hr.onDispatcher
  · exact hr.onDispatcher
  · exact hr.remove.onDispatcher

theorem Reaching.spawn {t : StatusTask} (hr : Reaching c) (ht : t.holds = none) : Reaching (c.spawn t) := by
  refine ⟨hr.entry, ?_⟩
  intro t' ht' p hp
  rcases List.mem_append.mp ht' with hmem | hmem
  · exact hr.holds t' hmem p hp
  · rw [List.mem_singleton.mp hmem, ht] at hp
    cases hp

theorem Reaching.step (h : Sound c) (hr : Reaching c) (hretires : c.Retires event) (hreaches : c.Reaches event) :
    Reaching (c.step event) := by
  cases event with
  | start thread target => exact hr.begin h
  | guard s => exact hr.guardStep h hretires hreaches
  | drop s =>
    simp only [AssistantStatusController.step]
    split
    · exact hr.setGuard
    · exact hr
  | finish s => exact hr.finishStep hretires
  | timer s =>
    simp only [AssistantStatusController.step]
    split
    · exact Reaching.spawn (hr.onSession rfl rfl) rfl
    · exact hr
  | timerCancelled s =>
    exact hr.onSession (f := fun a => { a with timerArmed := a.timerArmed && a.guard == .held }) rfl rfl
  | update thread state =>
    simp only [AssistantStatusController.step]
    split
    · exact hr.spawn rfl
    · exact hr
  | clearActiveNow thread =>
    simp only [AssistantStatusController.step]
    split
    · exact hr.spawn rfl
    · exact hr
  | task k => exact hr.runTask h hretires
  | worker τ d ok => exact hr.workerStep

theorem reaching_new : Reaching new := by
  constructor <;> simp [new, ActiveAssistantStatus.absent]

/-- どの一歩も条件を満たすなら、静まった後の係の表は空である。さらに、始まりが条件を満たすなら、最も新しいセッションの更新は、その
セッションが現在になった係に届く。 -/
theorem dispatchers_retired {events : List StatusEvent} (hmeets : StepsMeet step Retires new events) :
    ((events.foldl step new).Quiescent → ∀ τ, (events.foldl step new).entry τ = none) ∧
      (StepsMeet step Reaches new events → ∀ t ∈ (events.foldl step new).tasks, ∀ p ∈ t.holds,
        (events.foldl step new).Newest p.1 → ((events.foldl step new).sessions p.1).activatedOn = some p.2) := by
  constructor
  · have hinv : Sound (events.foldl step new) ∧ Retiring (events.foldl step new) := by
      apply hmeets.invariant (I := fun c => Sound c ∧ Retiring c)
      · rintro c event ⟨h, hr⟩ hretires
        exact ⟨h.step hretires.1, hr.step h hretires⟩
      · exact ⟨sound_new, retiring_new⟩
    exact fun hquiescent τ => hinv.2.empty hinv.1 hquiescent τ
  · intro hreaches
    have hinv : Sound (events.foldl step new) ∧ Reaching (events.foldl step new) := by
      apply (hmeets.and hreaches).invariant (I := fun c => Sound c ∧ Reaching c)
      · rintro c event ⟨h, hr⟩ ⟨hretires, hreaches⟩
        exact ⟨h.step hretires.1, hr.step h hretires hreaches⟩
      · exact ⟨sound_new, reaching_new⟩
    exact hinv.2.holds

def retiredRun : List StatusEvent := timerChecked ++ updateSent ++ workerRuns 5 ++ guardDropped ++ workerRuns 5

def failedRun : List StatusEvent :=
  timerChecked ++ updateSent ++ workerRuns 3 ++ [.worker sampleTarget 0 false] ++ guardDropped ++ workerRuns 2

/-- 更新が係を求め、そのセッションは最も新しい。 -/
theorem retiredRun_empty :
    (∀ τ, (retiredRun.foldl step new).entry τ = none) ∧
      ((timerChecked.foldl step new).sessions 1).activatedOn = some 0 :=
  ⟨(dispatchers_retired (by decide +kernel)).1 (by decide +kernel),
    (dispatchers_retired (by decide +kernel)).2 (by decide +kernel) (.settingPending 1 .reviewingFindings 0)
      (by decide +kernel) (1, 0) rfl (by decide +kernel)⟩

/-- 失敗した呼び出しの後、消す命令は無視され、係は表に残る。 -/
theorem failedRun_left :
    (failedRun.foldl step new).Quiescent ∧ (failedRun.foldl step new).entry sampleTarget = some 0 := by
  decide +kernel

end AssistantStatusController

end Codeoff.Serve
