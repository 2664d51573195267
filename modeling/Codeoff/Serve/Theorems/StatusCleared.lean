import Codeoff.Serve.Lemmas.StatusSteps

/-!
# 出したままの状態

どの呼び出しも成功するとき、会話に出した状態は消えるか。
-/

namespace Codeoff.Serve

open Codeoff.Control

def StatusCall.setId : StatusCall → Option Nat
  | .set s _ => some s
  | .clear _ => none

def StatusEvent.succeeds : StatusEvent → Bool
  | .worker _ _ ok => ok
  | _ => true

namespace AssistantStatusController

variable {c : AssistantStatusController} {τ τ₀ : AssistantStatusTarget} {d d₀ s s₀ k : Nat}
  {f : ActiveAssistantStatus → ActiveAssistantStatus} {g : AssistantStatusDispatcher → AssistantStatusDispatcher}
  {event : StatusEvent} {call : StatusCall}

def setIds (c : AssistantStatusController) (τ : AssistantStatusTarget) : List Nat := (c.calls τ).filterMap StatusCall.setId

def removes (c : AssistantStatusController) : StatusEvent → Option (AssistantStatusTarget × Nat)
  | .guard s =>
    match (c.sessions s).guard with
    | .retireRemoving d => if c.entry (c.target s) = some d then some (c.target s, d) else none
    | _ => none
  | .worker τ d _ =>
    match (c.dispatcher τ d).worker with
    | .removing => if c.entry τ = some d then some (τ, d) else none
    | _ => none
  | _ => none

/-- 送ると決めたセッションは消す命令を後に残し、外される係には現在のセッションも出ている状態もなく、現在になるセッションは、
その会話でそれまでに現在になったどのセッションよりも新しい。 -/
def Orderly (c : AssistantStatusController) (event : StatusEvent) : Prop :=
  c.Timely event ∧ (∀ p ∈ c.removes event, (c.dispatcher p.1 p.2).Idle) ∧
    ∀ p ∈ c.activates event, ∀ s < c.nextSessionId,
      c.target s = c.target p.1 → (c.sessions s).activatedOn ≠ none → s < p.1

instance : Decidable (c.Orderly event) := inferInstanceAs (Decidable (_ ∧ _ ∧ _))

/-! ## 不変条件 -/

/-- 状態を送る係は表にあるもの一つで、終わった呼び出しのセッションは、その現在のセッションより新しくない。 -/
structure Ordered (c : AssistantStatusController) : Prop where
  carries : ∀ τ d s, (c.dispatcher τ d).Carries s → (c.dispatcher τ d).currentSessionId = s → c.entry τ = some d
  shows : ∀ τ d s, (c.dispatcher τ d).Shows s → c.entry τ = some d
  holds : ∀ t ∈ c.tasks, ∀ p ∈ t.holds,
    (c.dispatcher (c.target p.1) p.2).currentSessionId = p.1 → c.entry (c.target p.1) = some p.2
  logged : ∀ τ, ∀ i ∈ c.setIds τ, (c.sessions i).activatedOn ≠ none ∧ c.target i = τ
  newest : ∀ τ, ∀ d ∈ c.entry τ, (c.dispatcher τ d).currentSessionId ≠ 0 →
    ∀ i ∈ c.setIds τ, i ≤ (c.dispatcher τ d).currentSessionId
  setting : ∀ τ d s state, (c.dispatcher τ d).worker = .setting s state → (∀ i ∈ c.setIds τ, i ≤ s) ∧
    ((c.dispatcher τ d).currentSessionId ≠ 0 → s ≤ (c.dispatcher τ d).currentSessionId)
  sorted : ∀ τ, (c.setIds τ).Pairwise (· ≤ ·)
  last : ∀ τ s state, (c.calls τ).getLast? = some (.set s state) → ∃ d s', (c.dispatcher τ d).Shows s'
  settled : ∀ τ d s, (c.dispatcher τ d).worker = .settling s →
    ∀ s' state, (c.calls τ).getLast? ≠ some (.set s' state)

theorem Ordered.onSession (ho : Ordered c) (hgrows : Grows (c.sessions s₀) (f (c.sessions s₀))) :
    Ordered (c.onSession s₀ f) := by
  have hgrows' := grows_onSession hgrows
  have htarget : ∀ s, (c.onSession s₀ f).target s = c.target s := fun s => (hgrows' s).target
  refine ⟨ho.carries, ho.shows, ?_, ?_, ho.newest, ho.setting, ho.sorted, ho.last, ho.settled⟩
  · intro t ht p hp
    rw [htarget]
    exact ho.holds t ht p hp
  · intro τ i hi
    obtain ⟨hactivated, hτ⟩ := ho.logged τ i hi
    obtain ⟨d, hd⟩ := Option.ne_none_iff_exists'.mp hactivated
    rw [htarget, (hgrows' i).activated d hd]
    exact ⟨by simp, hτ⟩

theorem Ordered.withTasks (ho : Ordered c) {tasks : List StatusTask}
    (hholds : ∀ t ∈ tasks, ∀ p ∈ t.holds,
      (c.dispatcher (c.target p.1) p.2).currentSessionId = p.1 → c.entry (c.target p.1) = some p.2) :
    Ordered { c with tasks } :=
  ⟨ho.carries, ho.shows, hholds, ho.logged, ho.newest, ho.setting, ho.sorted, ho.last, ho.settled⟩

theorem Ordered.withActive (ho : Ordered c) (activeSessions : Nat → Option Nat) :
    Ordered { c with activeSessions } :=
  ⟨ho.carries, ho.shows, ho.holds, ho.logged, ho.newest, ho.setting, ho.sorted, ho.last, ho.settled⟩

/-- 会話の係を表に用意しても、順序は保たれる。 -/
theorem Ordered.dispatcherFor (h : Sound c) (ho : Ordered c) (τ₀ : AssistantStatusTarget) :
    Ordered (c.dispatcherFor τ₀) := by
  cases hentry : c.entry τ₀ with
  | some d => exact (dispatcherFor_of_some hentry).symm ▸ ho
  | none =>
    have hgrows : ∀ τ d, c.entry τ = some d → (c.dispatcherFor τ₀).entry τ = some d := by
      intro τ d hd
      rw [dispatcherFor_entry, if_neg]
      · exact hd
      · rintro rfl
        rw [hentry] at hd
        cases hd
    constructor
    · intro τ d s hcarries hcurrent
      rw [dispatcherFor_dispatcher] at hcarries hcurrent
      exact hgrows τ d (ho.carries τ d s hcarries hcurrent)
    · intro τ d s hshows
      rw [dispatcherFor_dispatcher] at hshows
      exact hgrows τ d (ho.shows τ d s hshows)
    · intro t ht p hp hcurrent
      rw [dispatcherFor_tasks] at ht
      rw [dispatcherFor_target, dispatcherFor_dispatcher] at hcurrent
      rw [dispatcherFor_target]
      exact hgrows _ _ (ho.holds t ht p hp hcurrent)
    · simpa [setIds] using ho.logged
    · intro τ d hd hne
      rw [dispatcherFor_dispatcher] at hne ⊢
      simp only [setIds, dispatcherFor_calls]
      rw [dispatcherFor_entry] at hd
      split at hd
      · next heq =>
        rw [lookupId_of_none hentry] at hd
        cases hd
        subst heq
        exact absurd (h.current_new τ) hne
      · exact ho.newest τ d hd hne
    · simpa [setIds] using ho.setting
    · simpa [setIds] using ho.sorted
    · simpa using ho.last
    · simpa using ho.settled

theorem Ordered.remove (h : Sound c) (ho : Ordered c) (hidle : c.entry τ₀ = some d₀ → (c.dispatcher τ₀ d₀).Idle) :
    Ordered (c.removeDispatcherIfCurrent τ₀ d₀) := by
  have hkeeps : ∀ τ d, c.entry τ = some d → ¬(c.dispatcher τ d).Idle →
      (c.removeDispatcherIfCurrent τ₀ d₀).entry τ = some d := by
    intro τ d hd hbusy
    rw [remove_entry, if_neg]
    · exact hd
    · rintro ⟨rfl, heq⟩
      rw [heq] at hd
      cases hd
      exact hbusy (hidle heq)
  constructor
  · intro τ d s hcarries hcurrent
    rw [remove_dispatcher] at hcarries hcurrent
    apply hkeeps τ d (ho.carries τ d s hcarries hcurrent)
    intro hidle
    have hs := (h.pos (by rw [(h.coherent τ d s).activated (.inr (.inl hcarries))]; simp)).1
    rw [← hcurrent, hidle.1] at hs
    exact absurd hs (Nat.lt_irrefl _)
  · intro τ d s hshows
    rw [remove_dispatcher] at hshows
    apply hkeeps τ d (ho.shows τ d s hshows)
    intro hidle
    rcases hshows with ⟨hs, hvisible⟩ | hsetting
    · exact hs (hvisible.symm.trans hidle.2.1)
    · rw [hidle.2.2] at hsetting
      cases hsetting
  · intro t ht p hp hcurrent
    rw [remove_tasks] at ht
    rw [remove_target, remove_dispatcher] at hcurrent
    rw [remove_target]
    apply hkeeps _ _ (ho.holds t ht p hp hcurrent)
    intro hidle
    have hs := (h.pos ((h.tasks t ht).activated p.1 (t.sessionId_of_holds hp))).1
    rw [← hcurrent, hidle.1] at hs
    exact absurd hs (Nat.lt_irrefl _)
  · simpa [setIds] using ho.logged
  · intro τ d hd hne
    rw [remove_entry] at hd
    rw [remove_dispatcher] at hne ⊢
    simp only [setIds, remove_calls]
    split at hd
    · cases hd
    · exact ho.newest τ d hd hne
  · simpa [setIds] using ho.setting
  · simpa [setIds] using ho.sorted
  · simpa using ho.last
  · simpa using ho.settled

theorem Ordered.onDispatcher (ho : Ordered c)
    (hcarries : ∀ s, (g (c.dispatcher τ₀ d₀)).Carries s → (g (c.dispatcher τ₀ d₀)).currentSessionId = s →
      c.entry τ₀ = some d₀)
    (hshows : ∀ s, (g (c.dispatcher τ₀ d₀)).Shows s → c.entry τ₀ = some d₀)
    (hholds : ∀ t ∈ c.tasks, ∀ p ∈ t.holds, c.target p.1 = τ₀ → p.2 = d₀ →
      (g (c.dispatcher τ₀ d₀)).currentSessionId = p.1 → c.entry τ₀ = some d₀)
    (hnewest : (g (c.dispatcher τ₀ d₀)).currentSessionId ≠ 0 → c.entry τ₀ = some d₀ →
      ∀ i ∈ c.setIds τ₀, i ≤ (g (c.dispatcher τ₀ d₀)).currentSessionId)
    (hsetting : ∀ s state, (g (c.dispatcher τ₀ d₀)).worker = .setting s state → (∀ i ∈ c.setIds τ₀, i ≤ s) ∧
      ((g (c.dispatcher τ₀ d₀)).currentSessionId ≠ 0 → s ≤ (g (c.dispatcher τ₀ d₀)).currentSessionId))
    (hlast : ∀ s, (c.dispatcher τ₀ d₀).Shows s → (∃ i state, (c.calls τ₀).getLast? = some (.set i state)) →
      ∃ s', (g (c.dispatcher τ₀ d₀)).Shows s')
    (hsettled : ∀ s, (g (c.dispatcher τ₀ d₀)).worker = .settling s →
      ∀ i state, (c.calls τ₀).getLast? ≠ some (.set i state)) : Ordered (c.onDispatcher τ₀ d₀ g) := by
  constructor
  · intro τ d s
    rw [onDispatcher_dispatcher, onDispatcher_entry]
    split
    · next heq =>
      obtain ⟨rfl, rfl⟩ := heq
      exact hcarries s
    · exact ho.carries τ d s
  · intro τ d s
    rw [onDispatcher_dispatcher, onDispatcher_entry]
    split
    · next heq =>
      obtain ⟨rfl, rfl⟩ := heq
      exact hshows s
    · exact ho.shows τ d s
  · intro t ht p hp
    rw [onDispatcher_dispatcher, onDispatcher_entry]
    split
    · next heq =>
      intro hcurrent
      rw [show (c.onDispatcher τ₀ d₀ g).target p.1 = τ₀ from heq.1, heq.2]
      exact hholds t ht p hp heq.1 heq.2 hcurrent
    · exact ho.holds t ht p hp
  · simpa [setIds, target] using ho.logged
  · intro τ d
    rw [onDispatcher_dispatcher, onDispatcher_entry]
    simp only [setIds, onDispatcher_calls]
    split
    · next heq =>
      obtain ⟨rfl, rfl⟩ := heq
      exact fun hd hne => hnewest hne hd
    · exact ho.newest τ d
  · intro τ d s state
    rw [onDispatcher_dispatcher]
    simp only [setIds, onDispatcher_calls]
    split
    · next heq =>
      obtain ⟨rfl, rfl⟩ := heq
      exact hsetting s state
    · exact ho.setting τ d s state
  · simpa [setIds] using ho.sorted
  · intro τ s state hlast'
    rw [onDispatcher_calls] at hlast'
    obtain ⟨d, s', hshows'⟩ := ho.last τ s state hlast'
    by_cases heq : τ = τ₀ ∧ d = d₀
    · obtain ⟨rfl, rfl⟩ := heq
      obtain ⟨s'', hs''⟩ := hlast s' hshows' ⟨s, state, hlast'⟩
      exact ⟨d, s'', by simpa using hs''⟩
    · exact ⟨d, s', by simpa [heq] using hshows'⟩
  · intro τ d s
    rw [onDispatcher_dispatcher, onDispatcher_calls]
    split
    · next heq =>
      obtain ⟨rfl, rfl⟩ := heq
      exact hsettled s
    · exact ho.settled τ d s

structure Tame (x x' : AssistantStatusDispatcher) : Prop where
  current : x'.currentSessionId = x.currentSessionId ∨ x'.currentSessionId = 0
  carries : ∀ s, x'.Carries s → x.Carries s
  shows : ∀ s, x'.Shows s ↔ x.Shows s
  setting : ∀ s state, x'.worker = .setting s state → x.worker = .setting s state
  settling : ∀ s, x'.worker = .settling s → x.worker = .settling s

/-- 係の変化が新しいセッションの状態を運ばなければ、順序は保たれる。 -/
theorem Ordered.tame (h : Sound c) (ho : Ordered c) (htame : Tame (c.dispatcher τ₀ d₀) (g (c.dispatcher τ₀ d₀))) :
    Ordered (c.onDispatcher τ₀ d₀ g) := by
  have hcurrent : ∀ s, s ≠ 0 → (g (c.dispatcher τ₀ d₀)).currentSessionId = s →
      (c.dispatcher τ₀ d₀).currentSessionId = s := by
    rintro s hs rfl
    rcases htame.current with heq | heq
    · exact heq.symm
    · exact absurd heq hs
  apply ho.onDispatcher
  · intro s hcarries hs
    have hpos := h.pos (s := s)
      (by rw [(h.coherent τ₀ d₀ s).activated (.inr (.inl (htame.carries s hcarries)))]; simp)
    exact ho.carries τ₀ d₀ s (htame.carries s hcarries) (hcurrent s (Nat.ne_of_gt hpos.1) hs)
  · exact fun s hshows => ho.shows τ₀ d₀ s ((htame.shows s).mp hshows)
  · intro t ht p hp hτ hd hs
    have hpos := h.pos ((h.tasks t ht).activated p.1 (t.sessionId_of_holds hp))
    have hheld := ho.holds t ht p hp
    rw [hτ, hd] at hheld
    exact hheld (hcurrent p.1 (Nat.ne_of_gt hpos.1) hs)
  · intro hne hd
    have heq := hcurrent _ hne rfl
    rw [← heq] at hne ⊢
    exact ho.newest τ₀ d₀ hd hne
  · intro s state hworker
    obtain ⟨hlogged, hle⟩ := ho.setting τ₀ d₀ s state (htame.setting s state hworker)
    refine ⟨hlogged, fun hne => ?_⟩
    have heq := hcurrent _ hne rfl
    rw [← heq] at hne ⊢
    exact hle hne
  · exact fun s hshows _ => ⟨s, (htame.shows s).mpr hshows⟩
  · exact fun s hworker => ho.settled τ₀ d₀ s (htame.settling s hworker)

/-- 最も新しいセッションが現在になっても、順序は保たれる。 -/
theorem Ordered.activate (h : Sound c) (ho : Ordered c) (hguard : (c.sessions s).guard = .activating d)
    (hnewest : ∀ s' < c.nextSessionId, c.target s' = c.target s → (c.sessions s').activatedOn ≠ none → s' < s) :
    Ordered (c.activate s d) := by
  have hok := h.session s
  have hactivated : (c.sessions s).activatedOn = none := by
    rw [hok.activated, hguard]
    rfl
  have hlt : ∀ s', (c.sessions s').activatedOn ≠ none → c.target s' = c.target s → s' < s :=
    fun s' hs' hτ => hnewest s' (h.pos hs').2 hτ hs'
  have hlogged : ∀ i ∈ c.setIds (c.target s), i ≤ s := by
    intro i hi
    obtain ⟨hi', hτ⟩ := ho.logged _ i hi
    exact Nat.le_of_lt (hlt i hi' hτ)
  apply Ordered.onSession
  · apply ho.onDispatcher
    · rintro s' hcarries rfl
      have hon := (h.coherent (c.target s) d s).activated (.inr (.inl hcarries))
      rw [hactivated] at hon
      cases hon
    · exact fun s' hshows => ho.shows _ d s' hshows
    · rintro t ht p hp - - hcurrent
      have hp' := (h.tasks t ht).activated p.1 (t.sessionId_of_holds hp)
      rw [← show s = p.1 from hcurrent] at hp'
      exact absurd hactivated hp'
    · exact fun _ _ => hlogged
    · intro s' state hworker
      have hshows : (c.dispatcher (c.target s) d).Shows s' := .inr (by
        rw [show (c.dispatcher (c.target s) d).worker = _ from hworker]
        rfl)
      have hco := h.coherent (c.target s) d s'
      refine ⟨(ho.setting _ d s' state hworker).1, fun _ => Nat.le_of_lt (hlt s' ?_ ?_)⟩
      · rw [hco.activated (.inr (.inr hshows))]
        simp
      · exact hco.target (.inr (.inr (.inl hshows)))
    · exact fun s' hshows _ => ⟨s', hshows⟩
    · exact fun s' hworker => ho.settled _ d s' hworker
  · constructor
    · rfl
    · intro d' hd'
      rw [onDispatcher_sessions, hactivated] at hd'
      cases hd'
    · exact id

theorem Ordered.setGuard (ho : Ordered c) {p : GuardPhase} : Ordered (c.setGuard s p) :=
  ho.onSession ⟨rfl, fun _ hd => hd, id⟩

theorem Ordered.swapQueued (ho : Ordered c) : Ordered (c.swapQueued s) := by
  unfold AssistantStatusController.swapQueued
  split
  · exact ho
  · exact ho.onSession ⟨rfl, fun _ hd => hd, id⟩

theorem Ordered.retire (h : Sound c) (ho : Ordered c) : Ordered (c.retire s d) := by
  unfold AssistantStatusController.retire
  dsimp only
  split
  · apply Ordered.setGuard
    exact ho.tame h ⟨.inr rfl, fun _ hx => hx, fun _ => .rfl, fun _ _ hx => hx, fun _ hx => hx⟩
  · exact ho.setGuard

theorem Ordered.send {command : AssistantStatusCommand} (h : Sound c) (ho : Ordered c) :
    Ordered (c.send τ d command) :=
  ho.tame h ⟨.inl rfl, fun _ hx => hx, fun _ => .rfl, fun _ _ hx => hx, fun _ hx => hx⟩

theorem Ordered.guardStep (h : Sound c) (ho : Ordered c) (horderly : c.Orderly (.guard s)) :
    Ordered (c.guardStep s) := by
  unfold AssistantStatusController.guardStep
  split
  · exact (ho.dispatcherFor h _).setGuard
  · next d hguard =>
    apply ho.activate h hguard
    exact horderly.2.2 (s, d) (by simp [activates, hguard])
  · exact (ho.withActive _).onSession ⟨rfl, fun _ hd => hd, id⟩
  · exact (ho.withActive _).setGuard
  · unfold AssistantStatusController.readShouldClear
    split
    · exact ho.setGuard
    · exact ho.onSession ⟨rfl, fun _ hd => hd, id⟩
  · exact (ho.dispatcherFor h _).setGuard
  · exact ho.onSession ⟨rfl, fun _ hd => hd, id⟩
  · exact ho.retire h
  · next d hguard =>
    apply Ordered.setGuard
    apply ho.remove h
    intro hd
    exact horderly.2.1 (c.target s, d) (by simp [removes, hguard, hd])
  · exact ho.swapQueued.setGuard
  all_goals exact ho

theorem Ordered.finishStep (h : Sound c) (ho : Ordered c) : Ordered (c.finishStep s) := by
  unfold AssistantStatusController.finishStep
  split
  · exact (ho.dispatcherFor h _).onSession ⟨rfl, fun _ hd => hd, id⟩
  · exact ho.onSession ⟨rfl, fun _ hd => hd, id⟩
  · exact (ho.send h).onSession ⟨rfl, fun _ hd => hd, id⟩
  all_goals exact ho

theorem Ordered.setPending {state : AssistantState} (ho : Ordered c)
    (hholds : (c.dispatcher (c.target s) d).currentSessionId = s → c.entry (c.target s) = some d) :
    Ordered (c.setPending s state d) := by
  unfold AssistantStatusController.setPending
  split
  · next hcurrent =>
    apply ho.onDispatcher
    · rintro s' (hx | hx) heq
      · cases hx
        exact hholds heq
      · exact ho.carries _ d s' (.inr hx) heq
    · exact fun s' hshows => ho.shows _ d s' hshows
    · intro t ht p hp hτ hd hp'
      rw [← hτ, ← hd]
      apply ho.holds t ht p hp
      rw [hτ, hd]
      exact hp'
    · exact fun hne hd => ho.newest _ d hd hne
    · exact fun s' state' => ho.setting _ d s' state'
    · exact fun s' hshows _ => ⟨s', hshows⟩
    · exact fun s' => ho.settled _ d s'
  · exact ho

/-- 作業の一歩は、順序を保ち、ほかの作業を変えない。 -/
theorem Ordered.taskStep (h : Sound c) (ho : Ordered c) {t : StatusTask} (ht : t ∈ c.tasks) :
    Ordered (c.taskStep t).1 ∧ (c.taskStep t).1.tasks = c.tasks ∧
      ∀ next ∈ (c.taskStep t).2, ∀ p ∈ next.holds,
        ((c.taskStep t).1.dispatcher ((c.taskStep t).1.target p.1) p.2).currentSessionId = p.1 →
          (c.taskStep t).1.entry ((c.taskStep t).1.target p.1) = some p.2 := by
  cases t with
  | storingShouldClear s state =>
    refine ⟨?_, rfl, ?_⟩
    · exact ho.onSession (f := fun a => { a with shouldClear := true }) ⟨rfl, fun _ hd => hd, fun _ => rfl⟩
    · rintro next ⟨⟩ p ⟨⟩
  | lookup s state =>
    refine ⟨ho.dispatcherFor h _, by simp [AssistantStatusController.taskStep], ?_⟩
    rintro next ⟨⟩ p ⟨⟩ -
    simp [AssistantStatusController.taskStep]
  | checkingClosed s state d =>
    refine ⟨ho, rfl, ?_⟩
    intro next hnext p hp
    simp only [AssistantStatusController.taskStep] at hnext
    split at hnext
    · cases hnext
    · cases hnext
      exact ho.holds _ ht p hp
  | settingPending s state d =>
    refine ⟨ho.setPending (ho.holds _ ht (s, d) rfl), ?_, ?_⟩
    · simp only [AssistantStatusController.taskStep, AssistantStatusController.setPending]
      split <;> rfl
    · intro next hnext p hp
      simp only [AssistantStatusController.taskStep] at hnext
      split at hnext
      · cases hnext
        cases hp
      · cases hnext
  | sendingFlush τ d => exact ⟨ho.send h, rfl, by simp [AssistantStatusController.taskStep]⟩
  | swappingQueued s =>
    refine ⟨ho.swapQueued, ?_, by simp [AssistantStatusController.taskStep]⟩
    simp only [AssistantStatusController.taskStep, AssistantStatusController.swapQueued]
    split <;> rfl

theorem Ordered.runTask (h : Sound c) (ho : Ordered c) : Ordered (c.runTask k) := by
  unfold AssistantStatusController.runTask
  split
  · next t ht =>
    obtain ⟨hstep, htasks, hnext⟩ := ho.taskStep h (List.mem_of_getElem? ht)
    apply hstep.withTasks
    intro t' ht'
    split at ht'
    · next t'' heq =>
      rcases List.mem_or_eq_of_mem_set ht' with hmem | rfl
      · exact hstep.holds t' (htasks ▸ hmem)
      · exact hnext _ heq
    · exact hstep.holds t' (htasks ▸ List.mem_of_mem_eraseIdx ht')
  · exact ho

/-! ## 係の作業 -/

theorem Tame.of_worker {x : AssistantStatusDispatcher} {worker : StatusWorker}
    (hchecking : worker.checkingId = none) (hsetting : worker.settingId = x.worker.settingId)
    (hset : ∀ s state, worker ≠ .setting s state) (hsettling : ∀ s, worker ≠ .settling s) :
    Tame x { x with worker } := by
  refine ⟨.inl rfl, ?_, ?_, fun s state hx => absurd hx (hset s state), fun s hx => absurd hx (hsettling s)⟩
  · rintro s (hx | hx)
    · exact .inl hx
    · rw [hchecking] at hx
      cases hx
  · intro s
    simp [AssistantStatusDispatcher.Shows, hsetting]

theorem Ordered.receive (h : Sound c) (ho : Ordered c) (hworker : (c.dispatcher τ d).worker = .idle) :
    Ordered (c.receive τ d) := by
  have htame : ∀ rest worker, worker = .takingPending ∨ (∃ s, worker = .checkingVisible s) →
      Tame (c.dispatcher τ d) { c.dispatcher τ d with queue := rest, worker } := by
    rintro rest worker (rfl | ⟨s, rfl⟩)
    all_goals
      refine ⟨.inl rfl, ?_, fun s => ?_, by simp, by simp⟩
      · rintro s (hx | hx)
        · exact .inl hx
        · cases hx
      · simp [AssistantStatusDispatcher.Shows, hworker, StatusWorker.settingId]
  unfold AssistantStatusController.receive
  split
  · next rest _ => exact ho.tame h (htame rest _ (.inl rfl))
  · next s rest _ => exact (ho.tame h (htame rest _ (.inr ⟨s, rfl⟩))).onSession ⟨rfl, fun _ hd => hd, id⟩
  · exact ho

theorem Ordered.takePending (h : Sound c) (ho : Ordered c) (hworker : (c.dispatcher τ d).worker = .takingPending) :
    Ordered (c.takePending τ d) := by
  apply ho.tame h
  cases hpending : (c.dispatcher τ d).pendingSet with
  | none =>
    refine ⟨.inl rfl, ?_, fun s => ?_, by simp [hpending], by simp [hpending]⟩
    · rintro s (hx | hx) <;> simp [hpending, StatusWorker.checkingId] at hx
    · simp [AssistantStatusDispatcher.Shows, hworker, hpending, StatusWorker.settingId]
  | some pending =>
    refine ⟨.inl rfl, ?_, fun s => ?_, by simp [hpending], by simp [hpending]⟩
    · rintro s (hx | hx)
      · cases hx
      · exact .inl (by simpa [hpending, StatusWorker.checkingId] using hx)
    · simp [AssistantStatusDispatcher.Shows, hworker, hpending, StatusWorker.settingId]

theorem Ordered.pass {state : AssistantState} (h : Sound c) (ho : Ordered c)
    (hworker : (c.dispatcher τ d).worker = .checkingCurrent s state)
    (hcurrent : (c.dispatcher τ d).currentSessionId = s) : Ordered (c.setWorker τ d (.setting s state)) := by
  have hcarries : (c.dispatcher τ d).Carries s := .inr (by simp [hworker, StatusWorker.checkingId])
  have hd := ho.carries τ d s hcarries hcurrent
  have hne : (c.dispatcher τ d).currentSessionId ≠ 0 := by
    have hpos := h.pos (s := s) (by rw [(h.coherent τ d s).activated (.inr (.inl hcarries))]; simp)
    rw [hcurrent]
    exact Nat.ne_of_gt hpos.1
  apply ho.onDispatcher
  · exact fun _ _ _ => hd
  · exact fun _ _ => hd
  · exact fun _ _ _ _ _ _ _ => hd
  · exact fun hne hd => ho.newest τ d hd hne
  · intro s' state' heq
    cases heq
    refine ⟨?_, fun _ => Nat.le_of_eq hcurrent.symm⟩
    rw [← hcurrent]
    exact ho.newest τ d hd hne
  · intro s' hshows _
    rcases hshows with hvisible | hsetting
    · exact ⟨s', .inl hvisible⟩
    · rw [hworker] at hsetting
      cases hsetting
  · intro s' heq
    cases heq

theorem mem_setIds_record {i : Nat} {state : AssistantState} :
    i ∈ (c.record τ (.set s state)).setIds τ₀ ↔ i ∈ c.setIds τ₀ ∨ τ₀ = τ ∧ i = s := by
  by_cases hτ : τ₀ = τ
  · subst hτ
    simp [setIds, List.filterMap_append, StatusCall.setId]
  · simp [setIds, hτ]

/-- 状態を置いた呼び出しの後も、順序は保たれる。 -/
theorem Ordered.recordSet {state : AssistantState} (h : Sound c) (ho : Ordered c)
    (hworker : (c.dispatcher τ d).worker = .setting s state) : Ordered (c.record τ (.set s state)) := by
  have hshows : (c.dispatcher τ d).Shows s := .inr (by simp [hworker, StatusWorker.settingId])
  have hd := ho.shows τ d s hshows
  have hco := h.coherent τ d s
  obtain ⟨hlogged, hle⟩ := ho.setting τ d s state hworker
  constructor
  · simpa using ho.carries
  · simpa using ho.shows
  · simpa [target] using ho.holds
  · intro τ' i hi
    rcases mem_setIds_record.mp hi with hi | ⟨rfl, rfl⟩
    · exact ho.logged τ' i hi
    · refine ⟨?_, hco.target (.inr (.inr (.inl hshows)))⟩
      rw [record_sessions, hco.activated (.inr (.inr hshows))]
      simp
  · intro τ' d' hd' hne i hi
    rw [record_entry] at hd'
    rw [record_dispatcher] at hne ⊢
    rcases mem_setIds_record.mp hi with hi | ⟨rfl, rfl⟩
    · exact ho.newest τ' d' hd' hne i hi
    · rw [hd] at hd'
      cases hd'
      exact hle hne
  · intro τ' d' s' state' hworker'
    rw [record_dispatcher] at hworker' ⊢
    refine ⟨?_, (ho.setting τ' d' s' state' hworker').2⟩
    intro i hi
    rcases mem_setIds_record.mp hi with hi | ⟨rfl, rfl⟩
    · exact (ho.setting τ' d' s' state' hworker').1 i hi
    · have hd' := ho.shows τ' d' s' (.inr (by simp [hworker', StatusWorker.settingId]))
      rw [hd] at hd'
      cases hd'
      rw [hworker] at hworker'
      cases hworker'
      exact Nat.le_refl _
  · intro τ'
    by_cases hτ : τ' = τ
    · subst hτ
      have happend : (c.record τ' (.set s state)).setIds τ' = c.setIds τ' ++ [s] := by
        simp [setIds, List.filterMap_append, StatusCall.setId]
      rw [happend, List.pairwise_append]
      exact ⟨ho.sorted τ', by simp, by simpa using hlogged⟩
    · simpa [setIds, hτ] using ho.sorted τ'
  · intro τ' s' state' hlast
    by_cases hτ : τ' = τ
    · subst hτ
      exact ⟨d, s, by simpa using hshows⟩
    · simp only [record_calls, if_neg hτ] at hlast
      simpa using ho.last τ' s' state' hlast
  · intro τ' d' s' hworker' i state'
    rw [record_dispatcher] at hworker'
    by_cases hτ : τ' = τ
    · subst hτ
      -- 消している係には、消すセッションがまだ出ている。
      have hco' := h.coherent τ' d' s'
      have hvisible := hco'.visible (by simp [hworker', StatusWorker.passedId])
      have hfinish := (hco'.clears (by simp [hworker', StatusWorker.clearingId])).1
      have hpos := h.pos_of_finish (s := s') (by simp [hfinish])
      have hd' := ho.shows τ' d' s' (.inl ⟨Nat.ne_of_gt hpos, hvisible⟩)
      rw [hd] at hd'
      cases hd'
      rw [hworker] at hworker'
      cases hworker'
    · rw [record_calls, if_neg hτ]
      exact ho.settled τ' d' s' hworker' i state'

theorem setIds_record_clear : (c.record τ (.clear s)).setIds τ₀ = c.setIds τ₀ := by
  by_cases hτ : τ₀ = τ
  · subst hτ
    simp [setIds, List.filterMap_append, StatusCall.setId]
  · simp [setIds, hτ]

theorem Ordered.recordClear (ho : Ordered c) : Ordered (c.record τ (.clear s)) := by
  constructor
  · simpa using ho.carries
  · simpa using ho.shows
  · simpa [target] using ho.holds
  · simpa [setIds_record_clear, target] using ho.logged
  · simpa [setIds_record_clear] using ho.newest
  · simpa [setIds_record_clear] using ho.setting
  · simpa [setIds_record_clear] using ho.sorted
  · intro τ' s' state hlast
    by_cases hτ : τ' = τ
    · simp [hτ] at hlast
    · simp only [record_calls, if_neg hτ] at hlast
      simpa using ho.last τ' s' state hlast
  · intro τ' d' s' hworker i state
    by_cases hτ : τ' = τ
    · simp [hτ]
    · rw [record_dispatcher] at hworker
      rw [record_calls, if_neg hτ]
      exact ho.settled τ' d' s' hworker i state

theorem Ordered.recordVisible (h : Sound c) (ho : Ordered c)
    (hworker : (c.dispatcher τ d).worker = .recordingVisible s) :
    Ordered (c.onDispatcher τ d fun x => { x with visibleSessionId := s, worker := .idle }) := by
  have hshows : (c.dispatcher τ d).Shows s := .inr (by simp [hworker, StatusWorker.settingId])
  have hpos := h.pos (s := s) (by rw [(h.coherent τ d s).activated (.inr (.inr hshows))]; simp)
  apply ho.onDispatcher
  · exact fun _ _ _ => ho.shows τ d s hshows
  · exact fun _ _ => ho.shows τ d s hshows
  · exact fun _ _ _ _ _ _ _ => ho.shows τ d s hshows
  · exact fun hne hd => ho.newest τ d hd hne
  · intro s' state heq
    cases heq
  · exact fun _ _ _ => ⟨s, .inl ⟨Nat.ne_of_gt hpos.1, rfl⟩⟩
  · intro s' heq
    cases heq

theorem Ordered.settling (ho : Ordered c)
    (hlast : ∀ i state, (c.calls τ).getLast? ≠ some (.set i state)) : Ordered (c.setWorker τ d (.settling s)) := by
  apply ho.onDispatcher
  · rintro s' (hx | hx) heq
    · exact ho.carries τ d s' (.inl hx) heq
    · cases hx
  · rintro s' (hx | hx)
    · exact ho.shows τ d s' (.inl hx)
    · cases hx
  · intro t ht p hp hτ hd hp'
    rw [← hτ, ← hd]
    apply ho.holds t ht p hp
    rw [hτ, hd]
    exact hp'
  · exact fun hne hd => ho.newest τ d hd hne
  · intro s' state heq
    cases heq
  · rintro s' - ⟨i, state, heq⟩
    exact absurd heq (hlast i state)
  · exact fun _ _ => hlast

theorem Ordered.settle (h : Sound c) (ho : Ordered c) (hworker : (c.dispatcher τ d).worker = .settling s) :
    Ordered (c.settle τ d s) := by
  have hvisible : (c.dispatcher τ d).visibleSessionId = s :=
    (h.coherent τ d s).visible (by simp [hworker, StatusWorker.passedId])
  have hfinish := ((h.coherent τ d s).clears (by simp [hworker, StatusWorker.clearingId])).1
  have hpos := h.pos_of_finish (s := s) (by simp [hfinish])
  have hd := ho.shows τ d s (.inl ⟨Nat.ne_of_gt hpos, hvisible⟩)
  apply ho.onDispatcher
  · exact fun _ _ _ => hd
  · exact fun _ _ => hd
  · exact fun _ _ _ _ _ _ _ => hd
  · intro hne _
    dsimp only at hne ⊢
    split at hne
    · exact absurd rfl hne
    · rw [if_neg (by assumption)]
      exact ho.newest τ d hd hne
  · intro s' state heq
    dsimp only at heq
    split at heq <;> split at heq <;> cases heq
  · rintro s' - ⟨i, state, hlast⟩
    exact absurd hlast (ho.settled τ d s hworker i state)
  · intro s' heq
    dsimp only at heq
    split at heq <;> split at heq <;> cases heq

theorem Ordered.workerStep (h : Sound c) (ho : Ordered c) (horderly : c.Orderly (.worker τ d true)) :
    Ordered (c.workerStep τ d true) := by
  unfold AssistantStatusController.workerStep
  split
  · next hworker => exact ho.receive h hworker
  · next hworker => exact ho.takePending h hworker
  · next s state hworker =>
    split
    · next hcurrent => exact ho.pass h hworker hcurrent
    · apply ho.tame h
      apply Tame.of_worker <;> simp [hworker, StatusWorker.checkingId, StatusWorker.settingId]
  · next s state hworker =>
    rw [if_pos rfl]
    apply (ho.recordSet h hworker).tame (h.record _ _)
    apply Tame.of_worker <;> simp [hworker, StatusWorker.checkingId, StatusWorker.settingId]
  · next s hworker => exact ho.recordVisible h hworker
  · next s hworker =>
    apply ho.tame h
    apply Tame.of_worker <;> split <;> simp [hworker, StatusWorker.checkingId, StatusWorker.settingId]
  · next s hworker =>
    rw [if_pos rfl]
    exact ho.recordClear.settling (by simp)
  · next s hworker => exact ho.settle h hworker
  · next hworker =>
    have hremove : Ordered (c.removeDispatcherIfCurrent τ d) := ho.remove h fun hd =>
      horderly.2.1 (τ, d) (by simp [removes, hworker, hd])
    apply hremove.tame (h.remove _ _)
    apply Tame.of_worker <;> simp [hworker, StatusWorker.checkingId, StatusWorker.settingId]

/-! ## 一歩と実行 -/

theorem Ordered.begin {thread : Nat} {target : AssistantStatusTarget} (h : Sound c) (ho : Ordered c) :
    Ordered (c.begin thread target) := by
  have hsessions : ∀ s, (c.sessions s).activatedOn ≠ none →
      (c.begin thread target).sessions s = c.sessions s := by
    intro s hs
    have hlt := (h.pos hs).2
    simp [AssistantStatusController.begin, Nat.ne_of_lt hlt]
  have htarget : ∀ s, (c.sessions s).activatedOn ≠ none → (c.begin thread target).target s = c.target s :=
    fun s hs => congrArg ActiveAssistantStatus.target (hsessions s hs)
  refine ⟨ho.carries, ho.shows, ?_, ?_, ho.newest, ho.setting, ho.sorted, ho.last, ho.settled⟩
  · intro t ht p hp
    rw [htarget p.1 ((h.tasks t ht).activated p.1 (t.sessionId_of_holds hp))]
    exact ho.holds t ht p hp
  · intro τ i hi
    obtain ⟨hactivated, hτ⟩ := ho.logged τ i hi
    rw [htarget i hactivated, hsessions i hactivated]
    exact ⟨hactivated, hτ⟩

theorem Ordered.spawn {t : StatusTask} (ho : Ordered c) (ht : t.holds = none) : Ordered (c.spawn t) := by
  apply ho.withTasks
  intro t' ht' p hp
  rcases List.mem_append.mp ht' with hmem | hmem
  · exact ho.holds t' hmem p hp
  · rw [List.mem_singleton.mp hmem, ht] at hp
    cases hp

/-- 呼び出しが成功し、条件を満たす一歩は、順序を保つ。 -/
theorem Ordered.step (h : Sound c) (ho : Ordered c) (hsucceeds : event.succeeds = true)
    (horderly : c.Orderly event) : Ordered (c.step event) := by
  cases event with
  | start thread target => exact ho.begin h
  | guard s => exact ho.guardStep h horderly
  | drop s =>
    simp only [AssistantStatusController.step]
    split
    · exact ho.setGuard
    · exact ho
  | finish s => exact ho.finishStep h
  | timer s =>
    simp only [AssistantStatusController.step]
    split
    · exact (ho.onSession ⟨rfl, fun _ hd => hd, id⟩).spawn rfl
    · exact ho
  | timerCancelled s =>
    exact ho.onSession (f := fun a => { a with timerArmed := a.timerArmed && a.guard == .held })
      ⟨rfl, fun _ hd => hd, id⟩
  | update thread state =>
    simp only [AssistantStatusController.step]
    split
    · exact ho.spawn rfl
    · exact ho
  | clearActiveNow thread =>
    simp only [AssistantStatusController.step]
    split
    · exact ho.spawn rfl
    · exact ho
  | task k => exact ho.runTask h
  | worker τ d ok =>
    obtain rfl : ok = true := hsucceeds
    exact ho.workerStep h horderly

theorem ordered_new : Ordered new := by
  have hcarries : ∀ s, ¬AssistantStatusDispatcher.new.Carries s := by
    rintro s (hx | hx) <;> cases hx
  have hshows : ∀ s, ¬AssistantStatusDispatcher.new.Shows s := by
    rintro s (⟨hs, hx⟩ | hx)
    · exact hs hx.symm
    · cases hx
  refine ⟨?_, ?_, ?_, ?_, ?_, ?_, ?_, ?_, ?_⟩
  · exact fun τ d s hx => absurd hx (hcarries s)
  · exact fun τ d s hx => absurd hx (hshows s)
  all_goals simp [new, dispatcher, entry, calls, setIds, AssistantStatusDispatcher.new]

theorem Ordered.cleared (h : Sound c) (ho : Ordered c) (hquiescent : c.Quiescent) (hcall : call ∈ (c.calls τ).getLast?) :
    ∃ s, call = .clear s := by
  cases call with
  | clear s => exact ⟨s, rfl⟩
  | set s state =>
    obtain ⟨d, s', hshows⟩ := ho.last τ s state hcall
    exact absurd hshows (h.not_shows hquiescent (ho.shows τ d s' hshows))

/-- 呼び出しがすべて成功し、どの一歩も条件を満たすなら、新しいセッションの状態の後に古いセッションの状態が出ることはなく、静まった
後に最後に終わった呼び出しは、状態を消すものである。 -/
theorem statuses_cleared {events : List StatusEvent}
    (hmeets : StepsMeet step (fun c event => event.succeeds = true ∧ c.Orderly event) new events) :
    (∀ τ, ((events.foldl step new).setIds τ).Pairwise (· ≤ ·)) ∧
      ((events.foldl step new).Quiescent →
        ∀ τ, ∀ call ∈ ((events.foldl step new).calls τ).getLast?, ∃ s, call = .clear s) := by
  have hinv : Sound (events.foldl step new) ∧ Ordered (events.foldl step new) := by
    apply hmeets.invariant (I := fun c => Sound c ∧ Ordered c)
    · rintro c event ⟨h, ho⟩ ⟨hsucceeds, horderly⟩
      exact ⟨h.step horderly.1, ho.step h hsucceeds horderly⟩
    · exact ⟨sound_new, ordered_new⟩
  exact ⟨hinv.2.sorted, fun hquiescent τ call hcall => hinv.2.cleared hinv.1 hquiescent hcall⟩

def sampleTarget : AssistantStatusTarget := ⟨"C1", "1.0"⟩

/-- タイマーが満ち、閉じられていないと確かめるまで。 -/
def timerChecked : List StatusEvent :=
  [.start 0 sampleTarget, .guard 1, .guard 1, .guard 1, .timer 1, .task 0, .task 0, .task 0]

/-- 番人が落ちて片付けるまで。 -/
def guardDropped : List StatusEvent :=
  [.drop 1, .guard 1, .guard 1, .guard 1, .finish 1, .finish 1, .finish 1]

/-- 確かめた後、状態を置く命令を送る。 -/
def updateSent : List StatusEvent := [.task 0, .task 0]

def workerRuns (n : Nat) : List StatusEvent := List.replicate n (.worker sampleTarget 0 true)

def shownThenDropped : List StatusEvent := timerChecked ++ updateSent ++ workerRuns 5 ++ guardDropped ++ workerRuns 5

/-- 閉じられていないと確かめてから、状態を置くまでに、番人が落ちて消す命令が取り出される。 -/
def droppedThenShown : List StatusEvent := timerChecked ++ guardDropped ++ workerRuns 2 ++ updateSent ++ workerRuns 5

/-- 状態を置いてから番人が落ちれば、最後の呼び出しは消すことである。 -/
theorem shownThenDropped_cleared : (shownThenDropped.foldl step new).Quiescent ∧
    ∀ τ, ∀ call ∈ ((shownThenDropped.foldl step new).calls τ).getLast?, ∃ s, call = .clear s := by
  have hquiescent : (shownThenDropped.foldl step new).Quiescent := by decide +kernel
  exact ⟨hquiescent, (statuses_cleared (by decide +kernel)).2 hquiescent⟩

/-- 消す命令が先に取り出されると、状態は出たままになる。 -/
theorem droppedThenShown_left :
    (∀ event ∈ droppedThenShown, event.succeeds = true) ∧ (droppedThenShown.foldl step new).Quiescent ∧
      ((droppedThenShown.foldl step new).calls sampleTarget).getLast? = some (.set 1 .reviewingFindings) := by
  decide +kernel

end AssistantStatusController

end Codeoff.Serve
