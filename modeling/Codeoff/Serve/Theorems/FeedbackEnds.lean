import Codeoff.Serve.Lemmas.LoadingLoop
import Codeoff.Serve.Theorems.ReplySurvives

/-!
# 表示は発話とともに終わる

文脈を取るときに出された表示は、発話の終わりに片付けられるか。
-/

namespace Codeoff.Serve.FeedbackEnds

open Codeoff.Channel Codeoff.Control SlackCodexStreams SlackCodexStreamController
open ReplySurvives (messageController)

variable {c : SlackCodexStreamController} {config : ServeFeedbackConfig} {s : SlackCodexStreams} {d : Dispatch}

def Opens (c : SlackCodexStreamController) (config : ServeFeedbackConfig) (d : Dispatch) : Prop :=
  c.directMessageFeedback = .message ∧ ((d.contextTarget config).bind directMessageChannel).isSome = true

/-- 表示を出したなら発話に至り、ガードが作られる。表示が動いているなら、発話はそれを引き継ぐ。 -/
def Covered (c : SlackCodexStreamController) (config : ServeFeedbackConfig) (d : Dispatch) : Prop :=
  match d.outcome with
  | .endsEarly => True
  | .storageError => ¬ Opens c config d
  | .invalidTask => ¬ Opens c config d
  | .turn _ _ _ => Opens c config d → ∃ target, d.streamTarget c config = some target ∧
      (c.hasClient = true → d.posted.isSome = true → target.kind = .directMessageUpdate)

def showsNew (c : SlackCodexStreamController) (s : SlackCodexStreams) : WorkerEvent → Bool
  | .contextFetched target _ => c.directMessageFeedback == .message && (directMessageChannel target).any fun channelId =>
    !reuseExistingDirectMessageLoading ⟨channelId, .directMessageUpdate⟩ s
  | .turnStarted target _ => target.kind == .directMessageUpdate && !reuseExistingDirectMessageLoading target s
  | _ => false

/-- 新しい表示を出すとき、取り消しを確かめてからまだ表示を読んでいない処理はない。 -/
abbrev NoneBetween (c : SlackCodexStreamController) (s : SlackCodexStreams) (event : WorkerEvent) : Prop :=
  showsNew c s event = true → ∀ l ∈ s.loops, l.phase ≠ .checked

/-- 処理が表示を読んで文面を決めるとき、書くのは表示の出ているメッセージである。 -/
def WritesOwn (s : SlackCodexStreams) : WorkerEvent → Prop
  | .during (.loopReads n) => ∀ l, s.loops[n]? = some l → l.phase = .checked →
      ∀ a, s.active = some a → showsLoading a = true → l.Writes a
  | _ => True

/-! ## 表示を出す、片付ける -/

def AllCancelled (s : SlackCodexStreams) : Prop := ∀ l ∈ s.loops, l.cancelled = true

theorem AllCancelled.kept {s' : SlackCodexStreams} (h : AllCancelled s) (hkept : LoopsKept s s') : AllCancelled s' := by
  intro l' hl'
  obtain ⟨n, hn⟩ := List.mem_iff_getElem?.mp hl'
  obtain ⟨l, hl, _, _, hcancelled, _⟩ := hkept.loops n l' hn
  by_contra hnot
  rw [h l (List.mem_of_getElem? hl)] at hcancelled
  exact absurd (hcancelled (by simpa using hnot)) (by simp)

theorem held_of_allCancelled {s' : SlackCodexStreams} (hcancelled : AllCancelled s) (hloops : s'.loops = s.loops)
    (hshows : ∀ a, s'.active = some a → showsLoading a = false ∨ ∀ l ∈ s.loops, l.phase ≠ .checked) :
    LoopsHeld s' where
  held n l hl hnot := by
    rw [hloops] at hl
    rw [hcancelled l (List.mem_of_getElem? hl)] at hnot
    cases hnot
  own n l hl hread a ha hshow := by
    rw [hloops] at hl
    have hmem := List.mem_of_getElem? hl
    have hchecked : l.phase = .checked := hread.resolve_right fun hnot => by
      rw [hcancelled l hmem] at hnot
      cases hnot
    rcases hshows a ha with hhidden | hnone
    · rw [hhidden] at hshow
      cases hshow
    · exact absurd hchecked (hnone l hmem)

/-- どの処理も取り消されていて、確かめを終えた処理がなければ、新しい表示を出しても、生きた処理はその表示のものである。 -/
theorem held_openPlaceholder (channelId : String) (state : AssistantState) (posted : Option String)
    (hcancelled : AllCancelled s) (hnone : ∀ l ∈ s.loops, l.phase ≠ .checked) :
    LoopsHeld (c.openPlaceholder channelId state posted s) := by
  unfold openPlaceholder
  by_cases hclient : (!c.hasClient) = true
  · rw [if_pos hclient]
    exact held_of_allCancelled hcancelled rfl fun _ _ => .inr hnone
  · rw [if_neg hclient]
    cases posted with
    | none => exact held_of_allCancelled hcancelled rfl fun _ _ => .inr hnone
    | some messageTs =>
      have hloop (n : Nat) (l : LoadingLoop)
          (hl : (s.loops ++ [⟨channelId, messageTs, false, .waiting⟩])[n]? = some l) :
          l ∈ s.loops ∨ n = s.loops.length ∧ l = ⟨channelId, messageTs, false, .waiting⟩ := by
        rw [List.getElem?_append] at hl
        split at hl
        · exact .inl (List.mem_of_getElem? hl)
        · rename_i hlt
          rw [List.getElem?_singleton] at hl
          obtain ⟨hzero, hsame⟩ := Option.ite_none_right_eq_some.mp hl
          exact .inr ⟨by omega, (Option.some.inj hsame).symm⟩
      constructor
      · intro n l hl hnot
        rcases hloop n l hl with hold | ⟨rfl, _⟩
        · rw [hcancelled l hold] at hnot
          cases hnot
        · exact ⟨_, rfl, rfl⟩
      · intro n l hl hread a ha _
        rcases hloop n l hl with hold | ⟨_, rfl⟩
        · refine absurd hread ?_
          rw [LoadingLoop.MayRead, hcancelled l hold]
          simp [hnone l hold]
        · cases ha
          exact ⟨rfl, rfl⟩

theorem held_start (target : SlackCodexStreamTarget) (posted : Option String) (h : LoopsHeld s)
    (hready : reuseExistingDirectMessageLoading target s = true ∨ AllCancelled s)
    (hnone : NoneBetween c s (.turnStarted target posted)) : LoopsHeld (c.start target posted s) := by
  unfold start
  by_cases hreuse : reuseExistingDirectMessageLoading target s = true
  · rw [if_pos hreuse]
    exact h.kept (kept_loadingState _ s)
  · rw [if_neg hreuse]
    have hcancelled := hready.resolve_left hreuse
    cases hkind : target.kind with
    | directMessageUpdate =>
      exact held_openPlaceholder _ _ _ hcancelled (hnone (by simpa [showsNew, hkind] using hreuse))
    | threadStream threadTs =>
      refine held_of_allCancelled (s := s) hcancelled rfl fun a ha => .inl ?_
      cases ha
      simp [showsLoading, newStream, hkind]

/-- 番人が片付けると、表示はなくなり、どの処理も取り消される。 -/
theorem quiet_dropGuard (h : LoopsHeld s) : Quiet (dropGuard s) := by
  unfold dropGuard
  cases hactive : s.active with
  | none => exact h.quiet hactive
  | some a =>
    refine ⟨active_cancelLoop .., fun l hl => ?_⟩
    obtain ⟨n, hn⟩ := List.mem_iff_getElem?.mp hl
    by_contra hnot
    -- 取り消されていない処理は、片付けた表示のものであった
    cases hcancel : a.loadingCancel with
    | none =>
      simp only [hcancel, cancelLoop] at hn
      obtain ⟨b, hb, hheld⟩ := h.held n l hn (by simpa using hnot)
      cases hactive.symm.trans hb
      rw [hcancel] at hheld
      cases hheld
    | some m =>
      simp only [hcancel, cancelLoop, List.getElem?_modify] at hn
      obtain ⟨l₀, hl₀, rfl⟩ := Option.map_eq_some_iff.mp hn
      by_cases hm : m = n
      · simp [hm] at hnot
      · simp only [if_neg hm] at hnot
        obtain ⟨b, hb, hheld⟩ := h.held n l₀ hl₀ (by simpa using hnot)
        cases hactive.symm.trans hb
        exact hm (Option.some.inj (hcancel.symm.trans hheld))

theorem writesOwn_of_held (h : LoopsHeld s) (event : WorkerEvent) : WritesOwn s event := by
  cases event with
  | during event =>
    cases event with
    | loopReads n => exact fun l hl hchecked => h.own n l hl (.inl hchecked)
    | _ => trivial
  | _ => trivial

theorem during_kept {I : SlackCodexStreams → Prop} (events : List TurnEvent)
    (hinv : ∀ s, ∀ event ∈ events, LoopsHeld s → I s → I (c.runEvent s event)) (h : LoopsHeld s) (hI : I s) :
    (LoopsHeld ((events.map WorkerEvent.during).foldl c.runWorker s) ∧
        I ((events.map WorkerEvent.during).foldl c.runWorker s)) ∧
      StepsMeet c.runWorker WritesOwn s (events.map .during) := by
  refine stepsMeet_of_inv (I := fun s => LoopsHeld s ∧ I s) (fun s e he hs => ?_) ⟨h, hI⟩
  obtain ⟨event, hevent, rfl⟩ := List.mem_map.mp he
  exact ⟨⟨hs.1.kept (kept_event s event), hinv s event hevent hs.1 hs.2⟩, writesOwn_of_held hs.1 _⟩

theorem detached_eq (steps : List DetachedStep) : detached steps = (steps.map DetachedStep.toTurn).map .during := by
  simp [detached]

theorem during_quiet (events : List TurnEvent) (h : Quiet s) :
    Quiet ((events.map WorkerEvent.during).foldl c.runWorker s) ∧
      StepsMeet c.runWorker WritesOwn s (events.map .during) := by
  obtain ⟨⟨hheld, hnone⟩, hown⟩ := during_kept (c := c) (I := fun s => s.active = none) events
    (fun s event _ _ hnone => (kept_event s event).none hnone) h.held h.1
  exact ⟨hheld.quiet hnone, hown⟩

def Shown (target : SlackCodexStreamTarget) (messageTs : String) (s : SlackCodexStreams) : Prop :=
  ∃ a, s.active = some a ∧ a.target = target ∧ a.messageTs = some messageTs ∧ a.failed = false

theorem shown_detached {target : SlackCodexStreamTarget} {messageTs : String} (step : DetachedStep)
    (h : Shown target messageTs s) : Shown target messageTs (c.runEvent s step.toTurn) := by
  obtain ⟨a, ha, htarget, hts, hfailed⟩ := h
  cases step with
  | updateLands n landed =>
    simp only [DetachedStep.toTurn, runEvent, landUpdate]
    split
    · exact ⟨a, ha, htarget, hts, hfailed⟩
    · exact ⟨a, (active_record ..).trans ha, htarget, hts, hfailed⟩
  | loopChecks n =>
    simp only [DetachedStep.toTurn, runEvent, checkLoop]
    split <;> exact ⟨a, ha, htarget, hts, hfailed⟩
  | loopReads n =>
    simp only [DetachedStep.toTurn, runEvent, readLoop, ha]
    split
    · split
      · exact ⟨_, rfl, htarget, hts, hfailed⟩
      · exact ⟨a, ha, htarget, hts, hfailed⟩
    · exact ⟨a, ha, htarget, hts, hfailed⟩
  | loopLands n answer =>
    simp only [DetachedStep.toTurn, runEvent, landLoop]
    split
    · exact ⟨a, (active_record ..).trans ha, htarget, hts, hfailed⟩
    · exact ⟨a, ha, htarget, hts, hfailed⟩

theorem waiting_cancelled (steps : List DetachedStep) (h : LoopsHeld s) (hcancelled : AllCancelled s) :
    (LoopsHeld ((detached steps).foldl c.runWorker s) ∧ AllCancelled ((detached steps).foldl c.runWorker s)) ∧
      StepsMeet c.runWorker WritesOwn s (detached steps) := by
  rw [detached_eq]
  exact during_kept _ (fun s event _ _ hI => hI.kept (kept_event s event)) h hcancelled

theorem waiting_shown {target : SlackCodexStreamTarget} {messageTs : String} (steps : List DetachedStep)
    (h : LoopsHeld s) (hshown : Shown target messageTs s) :
    (LoopsHeld ((detached steps).foldl c.runWorker s) ∧
        Shown target messageTs ((detached steps).foldl c.runWorker s)) ∧
      StepsMeet c.runWorker WritesOwn s (detached steps) := by
  rw [detached_eq]
  refine during_kept _ (fun s event hevent _ hI => ?_) h hshown
  obtain ⟨step, _, rfl⟩ := List.mem_map.mp hevent
  exact shown_detached step hI

/-! ## 文脈を取る -/

theorem contextTarget_channel {target : ChannelReplyTarget} {channelId : String}
    (h : d.contextTarget config = some target) (hdm : directMessageChannel target = some channelId) :
    contextChannelId d.event d.source = some channelId := by
  have hboot : bootstrapTarget d.event d.source = some target := (Option.filter_eq_some_iff.mp h).1
  unfold bootstrapTarget at hboot
  cases hchannel : contextChannelId d.event d.source with
  | none => simp [hchannel] at hboot
  | some found =>
    simp only [hchannel] at hboot
    split at hboot
    · cases hboot
      simp only [directMessageChannel, Option.ite_none_right_eq_some] at hdm
      rw [hdm.2]
    · cases hboot
      simp only [directMessageChannel, Option.ite_none_right_eq_some] at hdm
      rw [hdm.2]

theorem streamTarget_channel {target : SlackCodexStreamTarget} (h : d.streamTarget c config = some target) :
    contextChannelId d.event d.source = some target.channelId := by
  unfold Dispatch.streamTarget slackCodexStreamTarget feedbackTarget at h
  split at h
  · cases h
  · cases hchannel : contextChannelId d.event d.source with
    | none => simp [hchannel] at h
    | some found =>
      simp only [hchannel, Option.map_some] at h
      split at h
      · cases h
      · split at h
        · cases h
        · split at h
          · split at h <;> cases h <;> rfl
          · cases h
            rfl

/-- 文脈を取った後。表示を出していなければ静かなまま。出したなら、動く処理がないか、その表示が出ている。 -/
inductive Fetched (c : SlackCodexStreamController) (config : ServeFeedbackConfig) (d : Dispatch)
    (s : SlackCodexStreams) : Prop where
  | quiet (hopens : ¬ Opens c config d) (hquiet : Quiet s)
  | still (hopens : Opens c config d) (held : LoopsHeld s) (hcancelled : AllCancelled s)
  | moving {channelId messageTs : String} (hopens : Opens c config d) (held : LoopsHeld s)
      (hchannel : contextChannelId d.event d.source = some channelId) (hclient : c.hasClient = true)
      (hposted : d.posted.isSome = true) (hshown : Shown ⟨channelId, .directMessageUpdate⟩ messageTs s)

theorem openPlaceholder_cases (channelId : String) (state : AssistantState) (posted : Option String)
    (hcancelled : AllCancelled s) :
    AllCancelled (c.openPlaceholder channelId state posted s) ∨
      c.hasClient = true ∧ posted.isSome = true ∧
        ∃ messageTs, Shown ⟨channelId, .directMessageUpdate⟩ messageTs (c.openPlaceholder channelId state posted s) := by
  unfold openPlaceholder
  cases hclient : c.hasClient with
  | false => exact .inl hcancelled
  | true =>
    cases posted with
    | none => exact .inl hcancelled
    | some messageTs => exact .inr ⟨rfl, rfl, messageTs, _, rfl, rfl, rfl, rfl⟩

theorem reuse_of_none {target : SlackCodexStreamTarget} (h : s.active = none) :
    reuseExistingDirectMessageLoading target s = false := by simp [reuseExistingDirectMessageLoading, h]

theorem reuse_of_shown {channelId messageTs : String} (h : Shown ⟨channelId, .directMessageUpdate⟩ messageTs s) :
    reuseExistingDirectMessageLoading ⟨channelId, .directMessageUpdate⟩ s = true := by
  obtain ⟨a, ha, htarget, hts, hfailed⟩ := h
  simp [reuseExistingDirectMessageLoading, ha, htarget, hts, hfailed]

/-- 静かな状態から文脈を取れば `Fetched` になり、その間の書き込みは、いまの表示のものである。 -/
theorem fetch_spec (hquiet : Quiet s) (hnone : StepsMeet c.runWorker (NoneBetween c) s (d.fetch config)) :
    Fetched c config d ((d.fetch config).foldl c.runWorker s) ∧
      StepsMeet c.runWorker WritesOwn s (d.fetch config) := by
  have hstays (hnot : ¬ Opens c config d) :
      Fetched c config d ((detached d.waiting).foldl c.runWorker s) ∧
        StepsMeet c.runWorker WritesOwn s (detached d.waiting) := by
    rw [detached_eq]
    exact ⟨.quiet hnot (during_quiet _ hquiet).1, (during_quiet _ hquiet).2⟩
  unfold Dispatch.fetch at hnone ⊢
  cases htarget : d.contextTarget config with
  | none => exact hstays (by simp [Opens, htarget])
  | some target =>
    simp only [htarget, Option.map_some, Option.toList_some, List.singleton_append, StepsMeet] at hnone ⊢
    simp only [List.foldl_cons]
    cases hchannel : directMessageChannel target with
    | none =>
      have hsame : c.runWorker s (.contextFetched target d.posted) = s := by simp [runWorker, hchannel]
      rw [hsame]
      obtain ⟨hfetched, hown⟩ := hstays (by simp [Opens, htarget, hchannel])
      exact ⟨hfetched, trivial, hown⟩
    | some channelId =>
      by_cases hmode : c.directMessageFeedback = .message
      · have hopens : Opens c config d := ⟨hmode, by simp [htarget, hchannel]⟩
        have hreuse := @reuse_of_none _ ⟨channelId, .directMessageUpdate⟩ hquiet.1
        have hrun : c.runWorker s (.contextFetched target d.posted) =
            c.openPlaceholder channelId .searching d.posted s := by
          simp [runWorker, hchannel, ensureDirectMessageLoading, hmode, hreuse]
        rw [hrun] at hnone ⊢
        have hheld := held_openPlaceholder (c := c) channelId .searching d.posted hquiet.2
          (hnone.1 (by simp [showsNew, hmode, hchannel, hreuse]))
        rcases openPlaceholder_cases (c := c) channelId .searching d.posted hquiet.2 with
          hcancelled | ⟨hclient, hposted, messageTs, hshown⟩
        · obtain ⟨⟨hheld', hcancelled'⟩, hown⟩ := waiting_cancelled (c := c) d.waiting hheld hcancelled
          exact ⟨.still hopens hheld' hcancelled', trivial, hown⟩
        · obtain ⟨⟨hheld', hshown'⟩, hown⟩ := waiting_shown (c := c) d.waiting hheld hshown
          exact ⟨.moving hopens hheld' (contextTarget_channel htarget hchannel) hclient hposted hshown', trivial, hown⟩
      · have hsame : c.runWorker s (.contextFetched target d.posted) = s := by
          simp [runWorker, hchannel, ensureDirectMessageLoading, hmode]
        rw [hsame]
        obtain ⟨hfetched, hown⟩ := hstays fun hopens => hmode hopens.1
        exact ⟨hfetched, trivial, hown⟩

/-! ## 発話 -/

/-- 表示を使い回すか、生きた処理のない発話は、静かな状態で終わる。 -/
theorem turn_spec {target : Option SlackCodexStreamTarget} {posted : Option String} {events : List TurnEvent}
    {draft : Option (String × UpdateAnswer)} (h : LoopsHeld s)
    (hready : ∀ t, target = some t → reuseExistingDirectMessageLoading t s = true ∨ AllCancelled s)
    (hidle : target = none → Quiet s)
    (hnone : StepsMeet c.runWorker (NoneBetween c) s (turnEvents target posted events draft)) :
    Quiet ((turnEvents target posted events draft).foldl c.runWorker s) ∧
      StepsMeet c.runWorker WritesOwn s (turnEvents target posted events draft) := by
  cases target with
  | none => exact during_quiet _ (hidle rfl)
  | some t =>
    simp only [turnEvents, List.cons_append] at hnone ⊢
    have hstart : LoopsHeld (c.runWorker s (.turnStarted t posted)) := held_start t posted h (hready t rfl) hnone.1
    obtain ⟨⟨hheld, _⟩, hown⟩ := during_kept (c := c) (I := fun _ => True)
      (events ++ (draft.map fun d => TurnEvent.result d.1 d.2).toList) (fun _ _ _ _ _ => trivial) hstart trivial
    rw [List.foldl_cons, List.foldl_append, StepsMeet, stepsMeet_append]
    exact ⟨quiet_dropGuard hheld, trivial, hown, trivial, trivial⟩

theorem fetched_turn {posted : Option String} {events : List TurnEvent} {draft : Option (String × UpdateAnswer)}
    (hfetched : Fetched c config d s)
    (hcovered : Opens c config d → ∃ target, d.streamTarget c config = some target ∧
      (c.hasClient = true → d.posted.isSome = true → target.kind = .directMessageUpdate))
    (hnone : StepsMeet c.runWorker (NoneBetween c) s (turnEvents (d.streamTarget c config) posted events draft)) :
    Quiet ((turnEvents (d.streamTarget c config) posted events draft).foldl c.runWorker s) ∧
      StepsMeet c.runWorker WritesOwn s (turnEvents (d.streamTarget c config) posted events draft) := by
  cases hfetched with
  | quiet _ hquiet => exact turn_spec hquiet.held (fun _ _ => .inr hquiet.2) (fun _ => hquiet) hnone
  | still hopens hheld hcancelled =>
    obtain ⟨target, htarget, _⟩ := hcovered hopens
    exact turn_spec hheld (fun _ _ => .inr hcancelled) (by simp [htarget]) hnone
  | moving hopens hheld hchannel hclient hposted hshown =>
    obtain ⟨target, htarget, hkind⟩ := hcovered hopens
    refine turn_spec hheld (fun t ht => .inl ?_) (by simp [htarget]) hnone
    cases htarget.symm.trans ht
    -- 発話の表示は、文脈を取るときに出した表示と同じチャネルである
    have hsame := Option.some.inj (hchannel.symm.trans (streamTarget_channel htarget))
    have hdirect := hkind hclient hposted
    obtain ⟨found, kind⟩ := target
    subst hsame hdirect
    exact reuse_of_shown hshown

/-- 条件を満たす一回の捌きは、静かな状態で始まれば、静かな状態で終わる。 -/
theorem dispatch_spec (hcovered : Covered c config d) (hquiet : Quiet s)
    (hnone : StepsMeet c.runWorker (NoneBetween c) s (d.events c config)) :
    Quiet ((d.events c config).foldl c.runWorker s) ∧ StepsMeet c.runWorker WritesOwn s (d.events c config) := by
  unfold Dispatch.events at hnone ⊢
  rw [stepsMeet_append, detached_eq] at hnone ⊢
  rw [List.foldl_append]
  obtain ⟨hquiet', hown⟩ := during_quiet (c := c) (d.before.map DetachedStep.toTurn) hquiet
  generalize ((d.before.map DetachedStep.toTurn).map WorkerEvent.during).foldl c.runWorker s = t at hnone hquiet' ⊢
  unfold Covered at hcovered
  have hunopened (hnot : ¬ Opens c config d) (hfetched : Fetched c config d ((d.fetch config).foldl c.runWorker t)) :
      Quiet ((d.fetch config).foldl c.runWorker t) := by
    cases hfetched with
    | quiet _ hquiet => exact hquiet
    | still hopens => exact absurd hopens hnot
    | moving hopens => exact absurd hopens hnot
  cases houtcome : d.outcome with
  | endsEarly => exact ⟨hquiet', hown, trivial⟩
  | storageError =>
    simp only [houtcome] at hcovered hnone ⊢
    obtain ⟨hfetched, hown'⟩ := fetch_spec hquiet' hnone.2
    exact ⟨hunopened hcovered hfetched, hown, hown'⟩
  | invalidTask =>
    simp only [houtcome] at hcovered hnone ⊢
    obtain ⟨hfetched, hown'⟩ := fetch_spec hquiet' hnone.2
    exact ⟨hunopened hcovered hfetched, hown, hown'⟩
  | turn posted events draft =>
    simp only [houtcome] at hcovered hnone ⊢
    rw [stepsMeet_append] at hnone ⊢
    rw [List.foldl_append]
    obtain ⟨hfetched, hown'⟩ := fetch_spec hquiet' hnone.2.1
    obtain ⟨hquiet'', hown''⟩ := fetched_turn hfetched hcovered hnone.2.2
    exact ⟨hquiet'', hown, hown', hown''⟩

theorem quiet_idle : Quiet .idle := ⟨rfl, by simp [SlackCodexStreams.idle]⟩

/-- どの出来事の列でも、どの回も表示の後を引き受け、新しい表示が読みかけの処理と重ならなければ、各回の終わりには表示がなく、どの
処理も取り消されていて、処理はいまの表示のメッセージだけを書く。 -/
theorem feedback_ends_with_turn (c : SlackCodexStreamController) (config : ServeFeedbackConfig) (ds : List Dispatch)
    (hcovered : ∀ d ∈ ds, Covered c config d)
    (hnone : StepsMeet c.runWorker (NoneBetween c) .idle (dispatchAll c config ds)) :
    (∀ done, done <+: ds → Quiet ((dispatchAll c config done).foldl c.runWorker .idle)) ∧
      StepsMeet c.runWorker WritesOwn .idle (dispatchAll c config ds) := by
  have hrun (ds : List Dispatch) : ∀ s, Quiet s → (∀ d ∈ ds, Covered c config d) →
      StepsMeet c.runWorker (NoneBetween c) s (dispatchAll c config ds) →
      Quiet ((dispatchAll c config ds).foldl c.runWorker s) ∧
        StepsMeet c.runWorker WritesOwn s (dispatchAll c config ds) := by
    induction ds with
    | nil => exact fun s hquiet _ _ => ⟨hquiet, trivial⟩
    | cons d ds ih =>
      intro s hquiet hcovered hnone
      rw [dispatchAll, List.flatMap_cons, stepsMeet_append] at hnone ⊢
      rw [List.foldl_append]
      obtain ⟨hquiet', hown⟩ := dispatch_spec (hcovered d (by simp)) hquiet hnone.1
      obtain ⟨hquiet'', hown'⟩ := ih _ hquiet' (fun d hd => hcovered d (by simp [hd])) hnone.2
      exact ⟨hquiet'', hown, hown'⟩
  refine ⟨fun done hdone => ?_, (hrun ds .idle quiet_idle hcovered hnone).2⟩
  obtain ⟨rest, rfl⟩ := hdone
  rw [dispatchAll, List.flatMap_append, stepsMeet_append] at hnone
  exact (hrun done .idle quiet_idle (fun d hd => hcovered d (by simp [hd])) hnone.1).1

def directMessage : ChannelEvent where
  provider := "slack"
  connectorId := "slack-default"
  workspaceId := "T1"
  eventId := "e1"
  dedupeKey := "k1"
  kind := .directMessageReceived
  text := some "hi"
  replyTarget := some (.channel "D1")
  sourceReference := none

def directMessageSource : SlackSourceReferences := ⟨true, some "D1", none, some "1.0", some "U1"⟩

def draftDispatch : Dispatch :=
  ⟨directMessage, directMessageSource, [], some "2.0", [], .turn (some "3.0") [] (some ("done", .ok))⟩

/-- 表示の設定は `assistant_status` で、直接メッセージの設定は既定のままである。 -/
theorem placeholder_outlives_turn :
    ¬ ∀ (c : SlackCodexStreamController) (config : ServeFeedbackConfig) (ds : List Dispatch),
      (∀ done, done <+: ds → Quiet ((dispatchAll c config done).foldl c.runWorker .idle)) ∧
        StepsMeet c.runWorker WritesOwn .idle (dispatchAll c config ds) := by
  intro hclaim
  have hactive : ((dispatchAll messageController ⟨.assistantStatus, 20⟩ [draftDispatch]).foldl
      messageController.runWorker .idle).active ≠ none := by decide +kernel
  exact hactive ((hclaim messageController ⟨.assistantStatus, 20⟩ [draftDispatch]).1 _ List.prefix_rfl).1

/-- 次の出来事の発話。前の発話の表示を動かしていた処理は、その前に取り消しを確かめて終わる。 -/
def nextDispatch : Dispatch :=
  ⟨{ directMessage with eventId := "e2", dedupeKey := "k2" }, directMessageSource, [.loopChecks 0], some "4.0",
    [.loopChecks 1], .turn none [.loopReads 1, .agentMessageStarted (some "final_answer"), .reply "yes" .ok] none⟩

/-- 既定の設定では、続く二つの発話が、それぞれの表示を引き継いで片付ける。 -/
theorem adaptive_turns_end_quiet :
    Quiet ((dispatchAll messageController ⟨.adaptive, 20⟩ [draftDispatch, nextDispatch]).foldl
      messageController.runWorker .idle) := by
  refine (feedback_ends_with_turn messageController ⟨.adaptive, 20⟩ [draftDispatch, nextDispatch] ?_ ?_).1 _
    List.prefix_rfl
  · intro d hd
    simp only [List.mem_cons, List.not_mem_nil, or_false] at hd
    rcases hd with rfl | rfl <;> exact fun _ => ⟨⟨"D1", .directMessageUpdate⟩, by decide +kernel, fun _ _ => rfl⟩
  · decide +kernel

end Codeoff.Serve.FeedbackEnds
