import Codeoff.Control.Sequential
import Codeoff.Serve.Lemmas.AssistantStatus

/-!
# 会話に出す状態の不変条件

どの一歩でも保たれる条件。
-/

namespace Codeoff.Serve

open Codeoff.Control

def GuardPhase.early : GuardPhase → Bool
  | .absent | .starting | .activating _ => true
  | _ => false

def GuardPhase.retires : GuardPhase → Bool
  | .retireLookup | .retireClosing _ | .retiring _ | .retireRemoving _ => true
  | _ => false

def GuardPhase.holds : GuardPhase → Option Nat
  | .retireClosing d | .retiring d => some d
  | _ => none

structure SessionOk (a : ActiveAssistantStatus) : Prop where
  activated : a.activatedOn = none ↔ a.guard.early = true
  finish : a.finish ≠ .notQueued → a.activatedOn ≠ none
  timer : a.timerArmed = true → a.activatedOn ≠ none
  silent : a.guard.retires = true → a.silent = true
  heard : a.silent = true → a.guard.retires = true ∨ a.guard = .dropped
  received : a.cleared = true → a.finish ≠ .notQueued
  dropped : a.guard = .dropped → a.silent = true ∨ a.finish ≠ .notQueued
  read : a.guard = .finishing ∨ a.guard = .dropped → a.silent = true ∨ a.shouldClear = true

/-- 退く途中でも、落ちた後でもない番人は、消すものはないと読んでいない。 -/
theorem SessionOk.not_silent {a : ActiveAssistantStatus} (h : SessionOk a)
    (hguard : a.guard.retires = false ∧ a.guard ≠ .dropped) : a.silent = false := by
  cases hsilent : a.silent with
  | false => rfl
  | true =>
    rcases h.heard hsilent with hretires | hdropped
    · rw [hguard.1] at hretires
      cases hretires
    · exact absurd hdropped hguard.2

/-- 会話も、現在のセッションになった係も、消すものがあるという印も、失われない。 -/
structure Grows (a b : ActiveAssistantStatus) : Prop where
  target : b.target = a.target
  activated : ∀ d, a.activatedOn = some d → b.activatedOn = some d
  text : a.shouldClear = true → b.shouldClear = true

/-! ## 係とセッションの組 -/

structure Coherent (e : Option Nat) (τ : AssistantStatusTarget) (d : Nat) (x : AssistantStatusDispatcher) (s : Nat)
    (a : ActiveAssistantStatus) : Prop where
  target : x.Mentions s → a.target = τ
  activated : s ≠ 0 ∧ x.currentSessionId = s ∨ x.Carries s ∨ x.Shows s → a.activatedOn = some d
  texts : x.Carries s ∨ x.Shows s → a.shouldClear = true
  queued : .clear s ∈ x.queue → a.finish = .sent d
  sent : a.finish = .sent d → a.target = τ → .clear s ∈ x.queue ∨ a.cleared = true
  clears : x.worker.clearingId = some s → a.finish = .sent d ∧ a.cleared = true
  visible : x.worker.passedId = some s → x.visibleSessionId = s
  finishes : e = some d → a.target = τ → a.activatedOn = some d → ∀ d' ∈ a.finish.holds, d' = d
  retires : e = some d → a.target = τ → a.activatedOn = some d → ∀ d' ∈ a.guard.holds, d' = d
  ahead : e = some d → x.Shows s → a.silent = false ∧ a.cleared = false ∨ x.worker.clearingId = some s

namespace Coherent

variable {e : Option Nat} {τ : AssistantStatusTarget} {d s : Nat} {x x' : AssistantStatusDispatcher}
  {a a' : ActiveAssistantStatus}

theorem entry_new {n : Nat}
    (h : Coherent none τ d x s a) (hbound : a.target = τ → a.activatedOn ≠ some n) : Coherent (some n) τ d x s a := by
  have hnew : some n = some d → a.target = τ → a.activatedOn ≠ some d := by
    intro hd htarget
    cases hd
    exact hbound htarget
  refine ⟨h.target, h.activated, h.texts, h.queued, h.sent, h.clears, h.visible, ?_, ?_, ?_⟩
  · intro hd htarget hactivated
    exact absurd hactivated (hnew hd htarget)
  · intro hd htarget hactivated
    exact absurd hactivated (hnew hd htarget)
  · intro hd hshows
    exact absurd (h.activated (.inr (.inr hshows))) (hnew hd (h.target (.inr (.inr (.inl hshows)))))

theorem entry_none  (h : Coherent e τ d x s a) : Coherent none τ d x s a :=
  ⟨h.target, h.activated, h.texts, h.queued, h.sent, h.clears, h.visible, by simp, by simp, by simp⟩

/-- 係の変化は、いまの会話、命令の列、表示の三つについてだけ確かめればよい。 -/
theorem of_dispatcher (h : Coherent e τ d x s a)
    (hcurrent : s ≠ 0 → x'.currentSessionId = s → x.currentSessionId = s ∨ a.activatedOn = some d ∧ a.target = τ)
    (hcarries : x'.Carries s → x.Carries s ∨ s ≠ 0 ∧ x.currentSessionId = s ∧ a.shouldClear = true)
    (hshows : x'.Shows s → x.Shows s ∨ x.Carries s ∧ (e = some d → a.silent = false ∧ a.cleared = false))
    (hqueue : .clear s ∈ x'.queue ↔ .clear s ∈ x.queue)
    (hclearing : x'.worker.clearingId = some s → x.worker.clearingId = some s)
    (hahead : x'.Shows s → x.worker.clearingId = some s → x'.worker.clearingId = some s)
    (hvisible : x'.worker.passedId = some s → x'.visibleSessionId = s) : Coherent e τ d x' s a := by
  have hcurrent' : s ≠ 0 → x'.currentSessionId = s → a.target = τ ∧ a.activatedOn = some d := by
    intro hs hx
    rcases hcurrent hs hx with hx | hx
    · exact ⟨h.target (.inl ⟨hs, hx⟩), h.activated (.inl ⟨hs, hx⟩)⟩
    · exact ⟨hx.2, hx.1⟩
  have hcarries' : x'.Carries s → a.target = τ ∧ a.activatedOn = some d ∧ a.shouldClear = true := by
    intro hx
    rcases hcarries hx with hx | ⟨hs, hx, htext⟩
    · exact ⟨h.target (.inr (.inl hx)), h.activated (.inr (.inl hx)), h.texts (.inl hx)⟩
    · exact ⟨h.target (.inl ⟨hs, hx⟩), h.activated (.inl ⟨hs, hx⟩), htext⟩
  have hshows' : x'.Shows s → a.target = τ ∧ a.activatedOn = some d ∧ a.shouldClear = true := by
    intro hx
    rcases hshows hx with hx | ⟨hx, -⟩
    · exact ⟨h.target (.inr (.inr (.inl hx))), h.activated (.inr (.inr hx)), h.texts (.inr hx)⟩
    · exact ⟨h.target (.inr (.inl hx)), h.activated (.inr (.inl hx)), h.texts (.inl hx)⟩
  constructor
  · rintro (⟨hs, hx⟩ | hx | hx | hx | hx)
    · exact (hcurrent' hs hx).1
    · exact (hcarries' hx).1
    · exact (hshows' hx).1
    · exact h.target (.inr (.inr (.inr (.inl (hclearing hx)))))
    · exact h.target (.inr (.inr (.inr (.inr (hqueue.mp hx)))))
  · rintro (⟨hs, hx⟩ | hx | hx)
    · exact (hcurrent' hs hx).2
    · exact (hcarries' hx).2.1
    · exact (hshows' hx).2.1
  · rintro (hx | hx)
    · exact (hcarries' hx).2.2
    · exact (hshows' hx).2.2
  · intro hx
    exact h.queued (hqueue.mp hx)
  · intro hfinish htarget
    rw [hqueue]
    exact h.sent hfinish htarget
  · intro hx
    exact h.clears (hclearing hx)
  · exact hvisible
  · exact h.finishes
  · exact h.retires
  · intro hd hx
    rcases hshows hx with hold | ⟨-, hahead'⟩
    · rcases h.ahead hd hold with hleft | hright
      · exact .inl hleft
      · exact .inr (hahead hx hright)
    · exact .inl (hahead' hd)

theorem of_worker (h : Coherent e τ d x s a) {worker : StatusWorker}
    (hchecking : worker.checkingId = some s → x.Carries s)
    (hsetting : worker.settingId = some s →
      x.Shows s ∨ x.Carries s ∧ (e = some d → a.silent = false ∧ a.cleared = false))
    (hclearing : worker.clearingId = some s → x.worker.clearingId = some s)
    (hahead : x.visibleSessionId = s ∨ worker.settingId = some s → x.worker.clearingId = some s →
      worker.clearingId = some s)
    (hpassed : worker.passedId = some s → x.visibleSessionId = s) : Coherent e τ d { x with worker } s a := by
  refine h.of_dispatcher (fun _ => .inl) ?_ ?_ .rfl hclearing ?_ hpassed
  · rintro (hx | hx)
    · exact .inl (.inl hx)
    · exact .inl (hchecking hx)
  · rintro (hx | hx)
    · exact .inl (.inl hx)
    · exact hsetting hx
  · rintro (⟨-, hx⟩ | hx)
    · exact hahead (.inl hx)
    · exact hahead (.inr hx)

theorem of_session (h : Coherent e τ d x s a) (htarget : a'.target = a.target)
    (hactivated : a'.activatedOn = a.activatedOn) (hfinish : a'.finish = a.finish) (hcleared : a'.cleared = a.cleared)
    (htext : a.shouldClear = true → a'.shouldClear = true)
    (hsilent : e = some d → x.Shows s → a'.silent = a.silent)
    (hretires : e = some d → a.target = τ → a.activatedOn = some d → ∀ d' ∈ a'.guard.holds, d' = d) :
    Coherent e τ d x s a' := by
  constructor
  · rw [htarget]
    exact h.target
  · rw [hactivated]
    exact h.activated
  · intro hx
    exact htext (h.texts hx)
  · rw [hfinish]
    exact h.queued
  · rw [hfinish, htarget, hcleared]
    exact h.sent
  · rw [hfinish, hcleared]
    exact h.clears
  · exact h.visible
  · rw [hfinish, htarget, hactivated]
    exact h.finishes
  · rw [htarget, hactivated]
    exact hretires
  · intro hd hx
    rw [hsilent hd hx, hcleared]
    exact h.ahead hd hx

theorem of_finish (h : Coherent e τ d x s a) (htarget : a'.target = a.target)
    (hactivated : a'.activatedOn = a.activatedOn) (hcleared : a'.cleared = a.cleared)
    (htext : a'.shouldClear = a.shouldClear) (hsilent : a'.silent = a.silent) (hguard : a'.guard = a.guard)
    (hold : ∀ d', a.finish ≠ .sent d') (hnew : ∀ d', a'.finish ≠ .sent d')
    (hfinishes : e = some d → a.target = τ → a.activatedOn = some d → ∀ d' ∈ a'.finish.holds, d' = d) :
    Coherent e τ d x s a' := by
  constructor
  · rw [htarget]
    exact h.target
  · rw [hactivated]
    exact h.activated
  · rw [htext]
    exact h.texts
  · intro hx
    exact absurd (h.queued hx) (hold d)
  · intro hx
    exact absurd hx (hnew d)
  · intro hx
    exact absurd (h.clears hx).1 (hold d)
  · exact h.visible
  · rw [htarget, hactivated]
    exact hfinishes
  · rw [htarget, hactivated, hguard]
    exact h.retires
  · rw [hsilent, hcleared]
    exact h.ahead

theorem of_sent_elsewhere {d₀ : Nat} (h : Coherent e τ d x s a) (hfinish : a.finish = .sending d₀)
    (hplace : ¬(a.target = τ ∧ d = d₀)) : Coherent e τ d x s { a with finish := .sent d₀ } := by
  refine ⟨h.target, h.activated, h.texts, ?_, ?_, ?_, h.visible, ?_, h.retires, h.ahead⟩
  · intro hx
    have hold := h.queued hx
    rw [hfinish] at hold
    cases hold
  · intro heq hτ
    cases heq
    exact absurd ⟨hτ, rfl⟩ hplace
  · intro hx
    have hold := (h.clears hx).1
    rw [hfinish] at hold
    cases hold
  · intro hd hτ hon d' hd'
    exact h.finishes hd hτ hon d' (by simpa [hfinish, FinishPhase.holds] using hd')

theorem of_sent_here (h : Coherent e τ d x s a) (hfinish : a.finish = .sending d) (hτ : a.target = τ) :
    Coherent e τ d { x with queue := x.queue ++ [.clear s] } s { a with finish := .sent d } := by
  refine ⟨fun _ => hτ, h.activated, h.texts, fun _ => rfl, ?_, ?_, h.visible, ?_, h.retires, h.ahead⟩
  · intro _ _
    simp
  · intro hx
    have hold := (h.clears hx).1
    rw [hfinish] at hold
    cases hold
  · intro hd _ hon d' hd'
    exact h.finishes hd hτ hon d' (by simpa [hfinish, FinishPhase.holds] using hd')

/-- 消す命令を受け取った係は、消すものがあるかを確かめに行き、整合は保たれる。 -/
theorem of_received_here {rest : List AssistantStatusCommand} (h : Coherent e τ d x s a)
    (hqueue : x.queue = .clear s :: rest) :
    Coherent e τ d { x with queue := rest, worker := .checkingVisible s } s { a with cleared := true } := by
  have hmention : .clear s ∈ x.queue := by simp [hqueue]
  have hcarries : ∀ y : AssistantStatusDispatcher, y = { x with queue := rest, worker := .checkingVisible s } →
      y.Carries s → x.Carries s := by
    rintro y rfl (hx | hx)
    · exact .inl hx
    · cases hx
  have hshows : ∀ y : AssistantStatusDispatcher, y = { x with queue := rest, worker := .checkingVisible s } →
      y.Shows s → x.Shows s := by
    rintro y rfl (hx | hx)
    · exact .inl hx
    · cases hx
  constructor
  · exact fun _ => h.target (.inr (.inr (.inr (.inr hmention))))
  · rintro (hx | hx | hx)
    · exact h.activated (.inl hx)
    · exact h.activated (.inr (.inl (hcarries _ rfl hx)))
    · exact h.activated (.inr (.inr (hshows _ rfl hx)))
  · rintro (hx | hx)
    · exact h.texts (.inl (hcarries _ rfl hx))
    · exact h.texts (.inr (hshows _ rfl hx))
  · exact fun _ => h.queued hmention
  · exact fun _ _ => .inr rfl
  · exact fun _ => ⟨h.queued hmention, rfl⟩
  · exact fun hx => by cases hx
  · exact h.finishes
  · exact h.retires
  · exact fun _ _ => .inr rfl

theorem of_received_elsewhere (h : Coherent e τ d x s a) (hnot : e = some d → ¬x.Shows s) :
    Coherent e τ d x s { a with cleared := true } := by
  refine ⟨h.target, h.activated, h.texts, h.queued, fun _ _ => .inr rfl, fun hx => ⟨(h.clears hx).1, rfl⟩, h.visible,
    h.finishes, h.retires, ?_⟩
  intro hd hx
  exact absurd hx (hnot hd)

theorem of_inactive (h : Coherent e τ d x s a) (hactivated : a.activatedOn = none) (hfinish : a.finish = .notQueued)
    (hfinish' : a'.finish = .notQueued) (hguard : a'.guard.holds = none) : Coherent e τ d x s a' := by
  have hnone : ¬(s ≠ 0 ∧ x.currentSessionId = s ∨ x.Carries s ∨ x.Shows s) := by
    intro hx
    rw [h.activated hx] at hactivated
    cases hactivated
  have hqueue : .clear s ∉ x.queue := by
    intro hx
    rw [h.queued hx] at hfinish
    cases hfinish
  have hclearing : x.worker.clearingId ≠ some s := by
    intro hx
    rw [(h.clears hx).1] at hfinish
    cases hfinish
  push Not at hnone
  constructor
  · rintro (⟨hs, hx⟩ | hx | hx | hx | hx)
    · exact absurd hx (hnone.1 hs)
    · exact absurd hx hnone.2.1
    · exact absurd hx hnone.2.2
    · exact absurd hx hclearing
    · exact absurd hx hqueue
  · rintro (⟨hs, hx⟩ | hx | hx)
    · exact absurd hx (hnone.1 hs)
    · exact absurd hx hnone.2.1
    · exact absurd hx hnone.2.2
  · rintro (hx | hx)
    · exact absurd hx hnone.2.1
    · exact absurd hx hnone.2.2
  · intro hx
    exact absurd hx hqueue
  · simp [hfinish']
  · intro hx
    exact absurd hx hclearing
  · exact h.visible
  · simp [hfinish', FinishPhase.holds]
  · simp [hguard]
  · intro _ hx
    exact absurd hx hnone.2.2

end Coherent

structure TaskOk (sessions : Nat → ActiveAssistantStatus) (t : StatusTask) : Prop where
  activated : ∀ s ∈ t.sessionId, (sessions s).activatedOn ≠ none
  text : ∀ s ∈ t.textId, (sessions s).shouldClear = true

theorem StatusTask.sessionId_of_textId {t : StatusTask} {s : Nat} (h : s ∈ t.textId) : s ∈ t.sessionId := by
  cases t <;> first | exact h | cases h

theorem StatusTask.sessionId_of_holds {t : StatusTask} {p : Nat × Nat} (h : p ∈ t.holds) : p.1 ∈ t.sessionId := by
  cases t <;> cases h <;> rfl

theorem Grows.refl (a : ActiveAssistantStatus) : Grows a a := ⟨rfl, fun _ h => h, fun h => h⟩

theorem TaskOk.grows {sessions : Nat → ActiveAssistantStatus} {t : StatusTask} (h : TaskOk sessions t)
    {sessions' : Nat → ActiveAssistantStatus} (hgrows : ∀ s, Grows (sessions s) (sessions' s)) : TaskOk sessions' t := by
  constructor
  · intro s hs hnone
    obtain ⟨d, hd⟩ := Option.ne_none_iff_exists'.mp (h.activated s hs)
    rw [(hgrows s).activated d hd] at hnone
    cases hnone
  · intro s hs
    exact (hgrows s).text (h.text s hs)

namespace AssistantStatusController

structure Sound (c : AssistantStatusController) : Prop where
  positive : 0 < c.nextSessionId
  begun : ∀ s, (c.sessions s).guard ≠ .absent → 0 < s ∧ s < c.nextSessionId
  session : ∀ s, SessionOk (c.sessions s)
  activatedBound : ∀ s, ∀ d ∈ (c.sessions s).activatedOn, d < c.next (c.target s)
  activatingBound : ∀ s d, (c.sessions s).guard = .activating d → d < c.next (c.target s)
  entryBound : ∀ τ, ∀ d ∈ c.entry τ, d < c.next τ
  known : ∀ τ, c.entry τ ≠ none → ∃ s < c.nextSessionId, c.target s = τ
  active : ∀ thread, ∀ s ∈ c.activeSessions thread, (c.sessions s).activatedOn ≠ none
  tasks : ∀ t ∈ c.tasks, TaskOk c.sessions t
  coherent : ∀ τ d s, Coherent (c.entry τ) τ d (c.dispatcher τ d) s (c.sessions s)

variable {c : AssistantStatusController} {τ τ₀ : AssistantStatusTarget} {d d₀ s s₀ : Nat}
  {f : ActiveAssistantStatus → ActiveAssistantStatus} {g : AssistantStatusDispatcher → AssistantStatusDispatcher}

/-! ## 替える部分ごとの保存 -/

theorem Sound.pos (h : Sound c) (hs : (c.sessions s).activatedOn ≠ none) : 0 < s ∧ s < c.nextSessionId := by
  apply h.begun s
  intro hguard
  apply hs
  rw [(h.session s).activated, hguard]
  rfl

theorem Sound.pos_of_finish (h : Sound c) (hs : (c.sessions s).finish ≠ .notQueued) : 0 < s :=
  (h.pos ((h.session s).finish hs)).1

theorem grows_onSession (hgrows : Grows (c.sessions s₀) (f (c.sessions s₀))) (s : Nat) :
    Grows (c.sessions s) ((c.onSession s₀ f).sessions s) := by
  rw [onSession_sessions]
  split
  · next heq => exact heq ▸ hgrows
  · exact Grows.refl _

/-- 会話の変化は、ほかの会話の整合に及ばない。 -/
theorem Sound.change (h : Sound c) (hgrows : Grows (c.sessions s₀) (f (c.sessions s₀)))
    (hok : SessionOk (f (c.sessions s₀)))
    (hbegun : (f (c.sessions s₀)).guard ≠ .absent → (c.sessions s₀).guard ≠ .absent)
    (hactivated : ∀ d ∈ (f (c.sessions s₀)).activatedOn, d < c.next (c.target s₀))
    (hactivating : ∀ d, (f (c.sessions s₀)).guard = .activating d → d < c.next (c.target s₀))
    (hother : ∀ s, s ≠ s₀ → Coherent (c.entry τ₀) τ₀ d₀ (g (c.dispatcher τ₀ d₀)) s (c.sessions s))
    (hself : ∀ τ d, ¬(τ = τ₀ ∧ d = d₀) → Coherent (c.entry τ) τ d (c.dispatcher τ d) s₀ (f (c.sessions s₀)))
    (hboth : Coherent (c.entry τ₀) τ₀ d₀ (g (c.dispatcher τ₀ d₀)) s₀ (f (c.sessions s₀))) :
    Sound ((c.onDispatcher τ₀ d₀ g).onSession s₀ f) := by
  have hgrows' := grows_onSession (c := c.onDispatcher τ₀ d₀ g) hgrows
  constructor
  · exact h.positive
  · intro s hs
    by_cases heq : s = s₀
    · subst heq
      simp only [onSession_sessions, if_true] at hs
      exact h.begun s (hbegun hs)
    · simp only [onSession_sessions, if_neg heq] at hs
      exact h.begun s hs
  · intro s
    by_cases heq : s = s₀
    · subst heq
      simpa using hok
    · simpa [heq] using h.session s
  · intro s d hd
    have htarget : ((c.onDispatcher τ₀ d₀ g).onSession s₀ f).target s = c.target s := (hgrows' s).target
    rw [htarget, onSession_next, onDispatcher_next]
    by_cases heq : s = s₀
    · subst heq
      simp only [onSession_sessions, if_true] at hd
      exact hactivated d hd
    · simp only [onSession_sessions, if_neg heq] at hd
      exact h.activatedBound s d hd
  · intro s d hd
    have htarget : ((c.onDispatcher τ₀ d₀ g).onSession s₀ f).target s = c.target s := (hgrows' s).target
    rw [htarget, onSession_next, onDispatcher_next]
    by_cases heq : s = s₀
    · subst heq
      simp only [onSession_sessions, if_true] at hd
      exact hactivating d hd
    · simp only [onSession_sessions, if_neg heq] at hd
      exact h.activatingBound s d hd
  · simpa using h.entryBound
  · intro τ hτ
    obtain ⟨s, hs, htarget⟩ := h.known τ (by simpa using hτ)
    exact ⟨s, hs, (hgrows' s).target.trans htarget⟩
  · intro thread s hs hnone
    obtain ⟨d, hd⟩ := Option.ne_none_iff_exists'.mp (h.active thread s hs)
    rw [(hgrows' s).activated d hd] at hnone
    cases hnone
  · intro t ht
    exact (h.tasks t ht).grows hgrows'
  · intro τ d s
    simp only [onSession_entry, onDispatcher_entry, onSession_dispatcher, onDispatcher_dispatcher,
      onSession_sessions, onDispatcher_sessions]
    by_cases hd : τ = τ₀ ∧ d = d₀ <;> by_cases hs : s = s₀
    · obtain ⟨rfl, rfl⟩ := hd
      subst hs
      simpa using hboth
    · obtain ⟨rfl, rfl⟩ := hd
      simpa [hs] using hother s hs
    · subst hs
      simpa [hd] using hself τ d hd
    · simpa [hd, hs] using h.coherent τ d s

theorem Sound.onSession (h : Sound c) (hgrows : Grows (c.sessions s₀) (f (c.sessions s₀)))
    (hok : SessionOk (f (c.sessions s₀)))
    (hbegun : (f (c.sessions s₀)).guard ≠ .absent → (c.sessions s₀).guard ≠ .absent)
    (hactivated : ∀ d ∈ (f (c.sessions s₀)).activatedOn, d < c.next (c.target s₀))
    (hactivating : ∀ d, (f (c.sessions s₀)).guard = .activating d → d < c.next (c.target s₀))
    (hself : ∀ τ d, Coherent (c.entry τ) τ d (c.dispatcher τ d) s₀ (f (c.sessions s₀))) :
    Sound (c.onSession s₀ f) := by
  have hsame : (c.onDispatcher ⟨"", ""⟩ 0 id).onSession s₀ f = c.onSession s₀ f := by
    simp [onDispatcher, onTarget]
  rw [← hsame]
  exact h.change hgrows hok hbegun hactivated hactivating (fun s _ => h.coherent _ _ s) (fun τ d _ => hself τ d)
    (hself _ _)

theorem Sound.onDispatcher (h : Sound c)
    (hother : ∀ s, Coherent (c.entry τ₀) τ₀ d₀ (g (c.dispatcher τ₀ d₀)) s (c.sessions s)) :
    Sound (c.onDispatcher τ₀ d₀ g) := by
  have hsame : (c.onDispatcher τ₀ d₀ g).onSession 0 id = c.onDispatcher τ₀ d₀ g := by
    simp only [AssistantStatusController.onSession, id, Function.update_eq_self]
  rw [← hsame]
  exact h.change (Grows.refl _) (h.session 0) (fun h => h) (h.activatedBound 0) (h.activatingBound 0)
    (fun s _ => hother s) (fun τ d _ => h.coherent τ d 0) (hother 0)

/-! ## 表の欄 -/

/-- 会話の係を表に用意しても、整合は保たれる。 -/
theorem Sound.dispatcherFor (h : Sound c) (hs₀ : s₀ < c.nextSessionId) : Sound (c.dispatcherFor (c.target s₀)) := by
  generalize hτ₀ : c.target s₀ = τ₀
  cases hentry : c.entry τ₀ with
  | some d => exact (dispatcherFor_of_some hentry).symm ▸ h
  | none =>
    have hnext : ∀ τ d, d < c.next τ → d < (c.dispatcherFor τ₀).next τ := by
      intro τ d hd
      rw [dispatcherFor_next]
      split
      · next heq => exact heq.1 ▸ Nat.lt_succ_of_lt hd
      · exact hd
    constructor
    · simpa using h.positive
    · simpa using h.begun
    · simpa using h.session
    · intro s d hd
      rw [dispatcherFor_sessions] at hd
      simpa only [target, dispatcherFor_sessions] using hnext _ _ (h.activatedBound s d hd)
    · intro s d hd
      rw [dispatcherFor_sessions] at hd
      simpa only [target, dispatcherFor_sessions] using hnext _ _ (h.activatingBound s d hd)
    · intro τ d hd
      rw [dispatcherFor_entry] at hd
      split at hd
      · next heq =>
        rw [lookupId_of_none hentry] at hd
        cases hd
        simp [dispatcherFor_next, heq, hentry]
      · exact hnext _ _ (h.entryBound τ d hd)
    · intro τ hτ
      rw [dispatcherFor_nextSessionId]
      simp only [dispatcherFor_target]
      by_cases heq : τ = τ₀
      · exact ⟨s₀, hs₀, hτ₀.trans heq.symm⟩
      · exact h.known τ (by simpa [heq] using hτ)
    · simpa using h.active
    · simpa using h.tasks
    · intro τ d s
      rw [dispatcherFor_entry, dispatcherFor_dispatcher, dispatcherFor_sessions]
      split
      · next heq =>
        subst heq
        rw [lookupId_of_none hentry]
        apply (hentry ▸ h.coherent τ d s).entry_new
        intro htarget hactivated
        have hlt := h.activatedBound s _ hactivated
        rw [show c.target s = τ from htarget] at hlt
        exact absurd hlt (Nat.lt_irrefl _)
      · exact h.coherent τ d s

/-- 係を表から外しても、整合は保たれる。 -/
theorem Sound.remove (h : Sound c) (τ₀ : AssistantStatusTarget) (d₀ : Nat) :
    Sound (c.removeDispatcherIfCurrent τ₀ d₀) := by
  constructor
  · simpa using h.positive
  · simpa using h.begun
  · simpa using h.session
  · simpa [target] using h.activatedBound
  · simpa [target] using h.activatingBound
  · intro τ d hd
    rw [remove_entry] at hd
    split at hd
    · cases hd
    · simpa using h.entryBound τ d hd
  · intro τ hτ
    rw [remove_entry] at hτ
    rw [remove_nextSessionId]
    simp only [remove_target]
    split at hτ
    · exact absurd rfl hτ
    · exact h.known τ hτ
  · simpa using h.active
  · simpa using h.tasks
  · intro τ d s
    rw [remove_entry, remove_dispatcher, remove_sessions]
    split
    · exact (h.coherent τ d s).entry_none
    · exact h.coherent τ d s

theorem Sound.record (h : Sound c) (τ₀ : AssistantStatusTarget) (call : StatusCall) : Sound (c.record τ₀ call) := by
  constructor
  · exact h.positive
  · exact h.begun
  · exact h.session
  · simpa [target] using h.activatedBound
  · simpa [target] using h.activatingBound
  · simpa using h.entryBound
  · intro τ hτ
    exact h.known τ (by simpa using hτ)
  · exact h.active
  · exact h.tasks
  · simpa using h.coherent

theorem Sound.withTasks (h : Sound c) {tasks : List StatusTask} (htasks : ∀ t ∈ tasks, TaskOk c.sessions t) :
    Sound { c with tasks } :=
  ⟨h.positive, h.begun, h.session, h.activatedBound, h.activatingBound, h.entryBound, h.known, h.active, htasks,
    h.coherent⟩

theorem Sound.withActive (h : Sound c) {activeSessions : Nat → Option Nat}
    (hactive : ∀ thread, ∀ s ∈ activeSessions thread, (c.sessions s).activatedOn ≠ none) :
    Sound { c with activeSessions } :=
  ⟨h.positive, h.begun, h.session, h.activatedBound, h.activatingBound, h.entryBound, h.known, hactive, h.tasks,
    h.coherent⟩

end AssistantStatusController

end Codeoff.Serve
