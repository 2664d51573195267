import Codeoff.Serve.AssistantStatus

/-!
# 会話に出す状態の補題

一歩が替えるのは、一つのセッション、一つの係、一つの会話の表の欄のどれかである。
-/

namespace Codeoff.Serve

def StatusWorker.settingId : StatusWorker → Option Nat
  | .setting s _ | .recordingVisible s => some s
  | _ => none

def StatusWorker.checkingId : StatusWorker → Option Nat
  | .checkingCurrent s _ => some s
  | _ => none

def StatusWorker.clearingId : StatusWorker → Option Nat
  | .checkingVisible s | .clearing s | .settling s => some s
  | _ => none

def StatusWorker.passedId : StatusWorker → Option Nat
  | .clearing s | .settling s => some s
  | _ => none

def StatusTask.sessionId : StatusTask → Option Nat
  | .storingShouldClear s _ | .lookup s _ | .checkingClosed s _ _ | .settingPending s _ _ | .swappingQueued s => some s
  | .sendingFlush _ _ => none

def StatusTask.textId : StatusTask → Option Nat
  | .lookup s _ | .checkingClosed s _ _ | .settingPending s _ _ => some s
  | _ => none

def StatusTask.holds : StatusTask → Option (Nat × Nat)
  | .checkingClosed s _ d | .settingPending s _ d => some (s, d)
  | _ => none

def FinishPhase.holds : FinishPhase → Option Nat
  | .closing d | .sending d | .sent d => some d
  | _ => none

namespace AssistantStatusDispatcher

variable (x : AssistantStatusDispatcher) (s : Nat)

def Carries : Prop := x.pendingSet.map Prod.fst = some s ∨ x.worker.checkingId = some s

def Shows : Prop := s ≠ 0 ∧ x.visibleSessionId = s ∨ x.worker.settingId = some s

def Mentions : Prop :=
  s ≠ 0 ∧ x.currentSessionId = s ∨ x.Carries s ∨ x.Shows s ∨ x.worker.clearingId = some s ∨ .clear s ∈ x.queue

def Idle : Prop := x.currentSessionId = 0 ∧ x.visibleSessionId = 0 ∧ x.worker.settingId = none

instance : Decidable x.Idle := inferInstanceAs (Decidable (_ ∧ _ ∧ _))

end AssistantStatusDispatcher

namespace AssistantStatusController

variable {c : AssistantStatusController} {τ τ' : AssistantStatusTarget} {d d' s s' : Nat}
  {f : ActiveAssistantStatus → ActiveAssistantStatus} {g : AssistantStatusDispatcher → AssistantStatusDispatcher}
  {call : StatusCall}

def entry (c : AssistantStatusController) (τ : AssistantStatusTarget) : Option Nat := (c.targets τ).entry

def next (c : AssistantStatusController) (τ : AssistantStatusTarget) : Nat := (c.targets τ).nextDispatcher

def calls (c : AssistantStatusController) (τ : AssistantStatusTarget) : List StatusCall := (c.targets τ).calls

/-! ## 替わらない部分 -/

section Frame

@[simp] theorem onSession_sessions :
    (c.onSession s f).sessions s' = if s' = s then f (c.sessions s) else c.sessions s' := by
  simp [onSession, Function.update_apply]

@[simp] theorem onSession_targets : (c.onSession s f).targets = c.targets := rfl

@[simp] theorem onSession_dispatcher : (c.onSession s f).dispatcher τ d = c.dispatcher τ d := rfl

@[simp] theorem onSession_entry : (c.onSession s f).entry τ = c.entry τ := rfl

@[simp] theorem onSession_calls : (c.onSession s f).calls τ = c.calls τ := rfl

@[simp] theorem onSession_tasks : (c.onSession s f).tasks = c.tasks := rfl

@[simp] theorem onDispatcher_sessions : (c.onDispatcher τ d g).sessions = c.sessions := rfl

@[simp] theorem onDispatcher_dispatcher : (c.onDispatcher τ d g).dispatcher τ' d' =
    if τ' = τ ∧ d' = d then g (c.dispatcher τ d) else c.dispatcher τ' d' := by
  by_cases hτ : τ' = τ
  · subst hτ
    by_cases hd : d' = d
    · subst hd
      simp [onDispatcher, onTarget, dispatcher]
    · simp [onDispatcher, onTarget, dispatcher, hd]
  · simp [onDispatcher, onTarget, dispatcher, hτ]

@[simp] theorem onDispatcher_entry : (c.onDispatcher τ d g).entry τ' = c.entry τ' := by
  by_cases hτ : τ' = τ
  · subst hτ
    simp [onDispatcher, onTarget, entry]
  · simp [onDispatcher, onTarget, entry, hτ]

@[simp] theorem onDispatcher_calls : (c.onDispatcher τ d g).calls τ' = c.calls τ' := by
  by_cases hτ : τ' = τ
  · subst hτ
    simp [onDispatcher, onTarget, calls]
  · simp [onDispatcher, onTarget, calls, hτ]

@[simp] theorem onDispatcher_next : (c.onDispatcher τ d g).next τ' = c.next τ' := by
  by_cases hτ : τ' = τ
  · subst hτ
    simp [onDispatcher, onTarget, next]
  · simp [onDispatcher, onTarget, next, hτ]

@[simp] theorem onDispatcher_tasks : (c.onDispatcher τ d g).tasks = c.tasks := rfl

@[simp] theorem onSession_next : (c.onSession s f).next τ = c.next τ := rfl

@[simp] theorem record_sessions : (c.record τ call).sessions = c.sessions := rfl

@[simp] theorem record_tasks : (c.record τ call).tasks = c.tasks := rfl

@[simp] theorem record_entry : (c.record τ call).entry τ' = c.entry τ' := by
  by_cases hτ : τ' = τ
  · subst hτ
    simp [record, onTarget, entry]
  · simp [record, onTarget, entry, hτ]

@[simp] theorem record_next : (c.record τ call).next τ' = c.next τ' := by
  by_cases hτ : τ' = τ
  · subst hτ
    simp [record, onTarget, next]
  · simp [record, onTarget, next, hτ]

@[simp] theorem record_dispatcher : (c.record τ call).dispatcher τ' d = c.dispatcher τ' d := by
  by_cases hτ : τ' = τ
  · subst hτ
    simp [record, onTarget, dispatcher]
  · simp [record, onTarget, dispatcher, hτ]

@[simp] theorem record_calls :
    (c.record τ call).calls τ' = if τ' = τ then c.calls τ ++ [call] else c.calls τ' := by
  by_cases hτ : τ' = τ
  · subst hτ
    simp [record, onTarget, calls]
  · simp [record, onTarget, calls, hτ]

theorem lookupId_of_some (h : c.entry τ = some d) : c.lookupId τ = d := by
  simp only [entry] at h
  simp [lookupId, h]

theorem lookupId_of_none (h : c.entry τ = none) : c.lookupId τ = c.next τ := by
  simp only [entry] at h
  simp [lookupId, next, h]

theorem dispatcherFor_of_some (h : c.entry τ = some d) : c.dispatcherFor τ = c := by
  simp only [entry] at h
  simp [dispatcherFor, h]

@[simp] theorem dispatcherFor_nextSessionId : (c.dispatcherFor τ).nextSessionId = c.nextSessionId := by
  unfold dispatcherFor
  split <;> rfl

@[simp] theorem dispatcherFor_activeSessions : (c.dispatcherFor τ).activeSessions = c.activeSessions := by
  unfold dispatcherFor
  split <;> rfl

@[simp] theorem dispatcherFor_sessions : (c.dispatcherFor τ).sessions = c.sessions := by
  unfold dispatcherFor
  split <;> rfl

@[simp] theorem dispatcherFor_target : (c.dispatcherFor τ).target s = c.target s := by simp [target]

@[simp] theorem dispatcherFor_tasks : (c.dispatcherFor τ).tasks = c.tasks := by
  unfold dispatcherFor
  split <;> rfl

@[simp] theorem dispatcherFor_dispatcher : (c.dispatcherFor τ).dispatcher τ' d = c.dispatcher τ' d := by
  unfold dispatcherFor
  split
  · rfl
  · by_cases hτ : τ' = τ
    · subst hτ
      simp [onTarget, dispatcher]
    · simp [onTarget, dispatcher, hτ]

@[simp] theorem dispatcherFor_calls : (c.dispatcherFor τ).calls τ' = c.calls τ' := by
  unfold dispatcherFor
  split
  · rfl
  · by_cases hτ : τ' = τ
    · subst hτ
      simp [onTarget, calls]
    · simp [onTarget, calls, hτ]

@[simp] theorem dispatcherFor_entry :
    (c.dispatcherFor τ).entry τ' = if τ' = τ then some (c.lookupId τ) else c.entry τ' := by
  unfold dispatcherFor lookupId
  by_cases hτ : τ' = τ
  · subst hτ
    cases hentry : (c.targets τ').entry <;> simp [onTarget, entry, hentry]
  · cases hentry : (c.targets τ).entry <;> simp [onTarget, entry, hτ]

@[simp] theorem dispatcherFor_next : (c.dispatcherFor τ).next τ' =
    if τ' = τ ∧ c.entry τ = none then c.next τ + 1 else c.next τ' := by
  unfold dispatcherFor entry next
  by_cases hτ : τ' = τ
  · subst hτ
    cases hentry : (c.targets τ').entry <;> simp [onTarget]
  · cases hentry : (c.targets τ).entry <;> simp [onTarget, hτ]

@[simp] theorem remove_nextSessionId : (c.removeDispatcherIfCurrent τ d).nextSessionId = c.nextSessionId := by
  unfold removeDispatcherIfCurrent
  split <;> rfl

@[simp] theorem remove_activeSessions : (c.removeDispatcherIfCurrent τ d).activeSessions = c.activeSessions := by
  unfold removeDispatcherIfCurrent
  split <;> rfl

@[simp] theorem remove_sessions : (c.removeDispatcherIfCurrent τ d).sessions = c.sessions := by
  unfold removeDispatcherIfCurrent
  split <;> rfl

@[simp] theorem remove_target : (c.removeDispatcherIfCurrent τ d).target s = c.target s := by simp [target]

@[simp] theorem remove_tasks : (c.removeDispatcherIfCurrent τ d).tasks = c.tasks := by
  unfold removeDispatcherIfCurrent
  split <;> rfl

@[simp] theorem remove_dispatcher : (c.removeDispatcherIfCurrent τ d).dispatcher τ' d' = c.dispatcher τ' d' := by
  unfold removeDispatcherIfCurrent
  split
  · by_cases hτ : τ' = τ
    · subst hτ
      simp [onTarget, dispatcher]
    · simp [onTarget, dispatcher, hτ]
  · rfl

@[simp] theorem remove_next : (c.removeDispatcherIfCurrent τ d).next τ' = c.next τ' := by
  unfold removeDispatcherIfCurrent next
  split
  · by_cases hτ : τ' = τ
    · subst hτ
      simp [onTarget]
    · simp [onTarget, hτ]
  · rfl

@[simp] theorem remove_calls : (c.removeDispatcherIfCurrent τ d).calls τ' = c.calls τ' := by
  unfold removeDispatcherIfCurrent
  split
  · by_cases hτ : τ' = τ
    · subst hτ
      simp [onTarget, calls]
    · simp [onTarget, calls, hτ]
  · rfl

@[simp] theorem remove_entry : (c.removeDispatcherIfCurrent τ d).entry τ' =
    if τ' = τ ∧ c.entry τ = some d then none else c.entry τ' := by
  unfold removeDispatcherIfCurrent entry
  by_cases hd : (c.targets τ).entry = some d
  · by_cases hτ : τ' = τ
    · subst hτ
      simp [onTarget, hd]
    · simp [onTarget, hτ, hd]
  · simp [hd]

end Frame

end AssistantStatusController

end Codeoff.Serve
