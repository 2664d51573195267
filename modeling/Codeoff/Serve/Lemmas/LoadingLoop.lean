import Codeoff.Serve.Dispatch
import Codeoff.Serve.Lemmas.CodexStream

/-!
# 表示を動かす処理の持ち主

取り消されていない処理は、いまの表示のものである。
-/

namespace Codeoff.Serve

open SlackCodexStreams SlackCodexStreamController

variable {c : SlackCodexStreamController} {s s' s'' : SlackCodexStreams} {a : ActiveSlackCodexStream} {text : String}

def LoadingLoop.MayRead (l : LoadingLoop) : Prop := l.phase = .checked ∨ l.cancelled = false

def LoadingLoop.Writes (l : LoadingLoop) (a : ActiveSlackCodexStream) : Prop :=
  l.channelId = a.target.channelId ∧ a.messageTs = some l.messageTs

structure LoopsHeld (s : SlackCodexStreams) : Prop where
  held : ∀ (n : Nat) (l : LoadingLoop), s.loops[n]? = some l → l.cancelled = false → ∃ a, s.active = some a ∧ a.loadingCancel = some n
  own : ∀ (n : Nat) (l : LoadingLoop), s.loops[n]? = some l → l.MayRead → ∀ a, s.active = some a → showsLoading a = true → l.Writes a

def Quiet (s : SlackCodexStreams) : Prop := s.active = none ∧ ∀ l ∈ s.loops, l.cancelled = true

theorem Quiet.held (h : Quiet s) : LoopsHeld s where
  held n l hl hnot := by
    rw [h.2 l (List.mem_of_getElem? hl)] at hnot
    cases hnot
  own _ _ _ _ a ha := by
    rw [h.1] at ha
    cases ha

theorem LoopsHeld.quiet (h : LoopsHeld s) (hnone : s.active = none) : Quiet s := by
  refine ⟨hnone, fun l hl => ?_⟩
  obtain ⟨n, hn⟩ := List.mem_iff_getElem?.mp hl
  by_contra hnot
  obtain ⟨a, ha, _⟩ := h.held n l hn (by simpa using hnot)
  rw [hnone] at ha
  cases ha

/-! ## 新しい表示を出さない一歩 -/

/-- 処理は増えず、取り消しは戻らない。表示のメッセージは替わらず、表示を動かす処理は、持たれたままか取り消される。 -/
structure LoopsKept (s s' : SlackCodexStreams) : Prop where
  loops : ∀ (n : Nat) (l' : LoadingLoop), s'.loops[n]? = some l' → ∃ l : LoadingLoop, s.loops[n]? = some l ∧ l'.channelId = l.channelId ∧
    l'.messageTs = l.messageTs ∧ (l'.cancelled = false → l.cancelled = false) ∧ (l'.phase = .checked → l.MayRead)
  shows : ∀ a', s'.active = some a' → ∃ a, s.active = some a ∧ (showsLoading a' = true →
    showsLoading a = true ∧ a'.target = a.target ∧ a'.messageTs = a.messageTs)
  held : ∀ a, s.active = some a → ∃ a', s'.active = some a' ∧ ∀ n : Nat, a.loadingCancel = some n →
    a'.loadingCancel = some n ∨ ∀ l' : LoadingLoop, s'.loops[n]? = some l' → l'.cancelled = true

/-- 新しい表示を出さない一歩の後も、取り消されていない処理は、いまの表示のものである。 -/
theorem LoopsHeld.kept (h : LoopsHeld s) (hkept : LoopsKept s s') : LoopsHeld s' where
  held n l' hl' hnot := by
    obtain ⟨l, hl, _, _, hcancelled, _⟩ := hkept.loops n l' hl'
    obtain ⟨a, ha, hn⟩ := h.held n l hl (hcancelled hnot)
    obtain ⟨a', ha', hcancel⟩ := hkept.held a ha
    refine ⟨a', ha', (hcancel n hn).resolve_right fun hall => ?_⟩
    rw [hall l' hl'] at hnot
    cases hnot
  own n l' hl' hread a' ha' hshows := by
    obtain ⟨l, hl, hchannel, hts, hcancelled, hchecked⟩ := hkept.loops n l' hl'
    obtain ⟨a, ha, hsame⟩ := hkept.shows a' ha'
    obtain ⟨hshows', htarget, hmessage⟩ := hsame hshows
    have hread' : l.MayRead := hread.elim hchecked fun hnot => .inr (hcancelled hnot)
    obtain ⟨hl_channel, hl_ts⟩ := h.own n l hl hread' a ha hshows'
    exact ⟨hchannel.trans (hl_channel.trans (htarget ▸ rfl)), hmessage.trans (hl_ts.trans (hts ▸ rfl))⟩

theorem LoopsKept.refl (s : SlackCodexStreams) : LoopsKept s s where
  loops _ l hl := ⟨l, hl, rfl, rfl, fun h => h, .inl⟩
  shows a ha := ⟨a, ha, fun h => ⟨h, rfl, rfl⟩⟩
  held a ha := ⟨a, ha, fun _ h => .inl h⟩

theorem LoopsKept.trans (h : LoopsKept s s') (h' : LoopsKept s' s'') : LoopsKept s s'' where
  loops n l'' hl'' := by
    obtain ⟨l', hl', hchannel', hts', hcancelled', hchecked'⟩ := h'.loops n l'' hl''
    obtain ⟨l, hl, hchannel, hts, hcancelled, hchecked⟩ := h.loops n l' hl'
    refine ⟨l, hl, hchannel'.trans hchannel, hts'.trans hts, fun hnot => hcancelled (hcancelled' hnot), fun hphase => ?_⟩
    exact (hchecked' hphase).elim hchecked fun hnot => .inr (hcancelled hnot)
  shows a'' ha'' := by
    obtain ⟨a', ha', hsame'⟩ := h'.shows a'' ha''
    obtain ⟨a, ha, hsame⟩ := h.shows a' ha'
    refine ⟨a, ha, fun hshows => ?_⟩
    obtain ⟨hshows', htarget', hts'⟩ := hsame' hshows
    obtain ⟨hshows, htarget, hts⟩ := hsame hshows'
    exact ⟨hshows, htarget'.trans htarget, hts'.trans hts⟩
  held a ha := by
    obtain ⟨a', ha', hcancel⟩ := h.held a ha
    obtain ⟨a'', ha'', hcancel'⟩ := h'.held a' ha'
    refine ⟨a'', ha'', fun n hn => ?_⟩
    rcases hcancel n hn with hn' | hall
    · exact hcancel' n hn'
    · refine .inr fun l'' hl'' => ?_
      obtain ⟨l', hl', _, _, hcancelled, _⟩ := h'.loops n l'' hl''
      by_contra hnot
      rw [hall l' hl'] at hcancelled
      exact absurd (hcancelled (by simpa using hnot)) (by simp)

theorem LoopsKept.none (h : LoopsKept s s') (hnone : s.active = none) : s'.active = none := by
  by_contra hsome
  obtain ⟨a', ha'⟩ := Option.ne_none_iff_exists'.mp hsome
  obtain ⟨a, ha, _⟩ := h.shows a' ha'
  rw [hnone] at ha
  cases ha

theorem kept_of_active {a' : ActiveSlackCodexStream} (hloops : s'.loops = s.loops) (ha : s.active = some a)
    (ha' : s'.active = some a') (hcancel : a'.loadingCancel = a.loadingCancel)
    (hshows : showsLoading a' = true → showsLoading a = true ∧ a'.target = a.target ∧ a'.messageTs = a.messageTs) :
    LoopsKept s s' where
  loops n l hl := ⟨l, hloops ▸ hl, rfl, rfl, fun h => h, .inl⟩
  shows b hb := by
    cases ha'.symm.trans hb
    exact ⟨a, ha, hshows⟩
  held b hb := by
    cases ha.symm.trans hb
    exact ⟨a', ha', fun n hn => .inl (hcancel.trans hn)⟩

theorem kept_of_modify {n : Nat} {f : LoadingLoop → LoadingLoop} (hactive : s'.active = s.active)
    (hloops : s'.loops = s.loops.modify n f)
    (hf : ∀ l, s.loops[n]? = some l → (f l).channelId = l.channelId ∧ (f l).messageTs = l.messageTs ∧
      (f l).cancelled = l.cancelled ∧ ((f l).phase = .checked → l.MayRead)) : LoopsKept s s' where
  loops m l' hl' := by
    rw [hloops, List.getElem?_modify] at hl'
    obtain ⟨l, hl, heq⟩ := Option.map_eq_some_iff.mp hl'
    by_cases hm : n = m
    · subst hm
      obtain ⟨hchannel, hts, hcancelled, hchecked⟩ := hf l hl
      simp only [if_true] at heq
      subst heq
      exact ⟨l, hl, hchannel, hts, fun h => hcancelled ▸ h, hchecked⟩
    · simp only [if_neg hm] at heq
      subst heq
      exact ⟨l, hl, rfl, rfl, fun h => h, .inl⟩
  shows a ha := ⟨a, hactive ▸ ha, fun h => ⟨h, rfl, rfl⟩⟩
  held a ha := ⟨a, hactive ▸ ha, fun _ h => .inl h⟩

/-- 表示を動かす処理を取り消して文面を替える一歩は、新しい表示を出さない。 -/
theorem kept_of_take {a' : ActiveSlackCodexStream} (ha : s.active = some a)
    (hloops : s'.loops = (cancelLoop a.loadingCancel s).loops) (ha' : s'.active = some a')
    (hshows : showsLoading a' = true → showsLoading a = true ∧ a'.target = a.target ∧ a'.messageTs = a.messageTs) :
    LoopsKept s s' := by
  constructor
  · intro n l' hl'
    rw [hloops] at hl'
    cases hcancel : a.loadingCancel with
    | none =>
      rw [hcancel] at hl'
      exact ⟨l', hl', rfl, rfl, fun h => h, .inl⟩
    | some m =>
      simp only [hcancel, cancelLoop, List.getElem?_modify] at hl'
      obtain ⟨l, hl, heq⟩ := Option.map_eq_some_iff.mp hl'
      by_cases hm : m = n
      · simp only [if_pos hm] at heq
        subst heq
        exact ⟨l, hl, rfl, rfl, by simp, .inl⟩
      · simp only [if_neg hm] at heq
        subst heq
        exact ⟨l, hl, rfl, rfl, fun h => h, .inl⟩
  · intro b hb
    cases ha'.symm.trans hb
    exact ⟨a, ha, hshows⟩
  · intro b hb
    cases ha.symm.trans hb
    refine ⟨a', ha', fun n hn => .inr fun l' hl' => ?_⟩
    simp only [hloops, hn, cancelLoop, List.getElem?_modify] at hl'
    obtain ⟨l, _, rfl⟩ := Option.map_eq_some_iff.mp hl'
    simp

theorem loops_record (update : MessageUpdate) (landed acknowledged : Bool) (s : SlackCodexStreams) :
    (record update landed acknowledged s).loops = s.loops := by
  cases landed <;> rfl

/-! ## 発話の間の一歩 -/

theorem kept_loadingState (state : AssistantState) (s : SlackCodexStreams) :
    LoopsKept s (c.updateDirectMessageLoadingState state s) := by
  unfold updateDirectMessageLoadingState
  cases hactive : s.active with
  | none => exact .refl s
  | some a =>
    simp only
    split
    · exact .refl s
    · rename_i hshows
      have hshown : showsLoading a = true := by simpa using hshows
      split
      · exact kept_of_active rfl hactive rfl rfl fun _ => ⟨hshown, rfl, rfl⟩
      · exact kept_of_active rfl hactive rfl rfl fun _ => ⟨hshown, rfl, rfl⟩

theorem kept_tool (tool : String) (s : SlackCodexStreams) : LoopsKept s (c.updateForTool tool s) := by
  unfold updateForTool
  cases assistantStateForTool tool with
  | none => exact .refl s
  | some state => exact kept_loadingState state s

theorem kept_phase (phase : Option String) (s : SlackCodexStreams) : LoopsKept s (c.updateForAgentPhase phase s) := by
  unfold updateForAgentPhase
  cases assistantStateForAgentPhase phase with
  | none => exact .refl s
  | some state => exact kept_loadingState state s

theorem showsLoading_of_text (h : a.finalText.isEmpty = false) : showsLoading a = false := by simp [showsLoading, h]

/-- 途中の答えの書き込みは、文面も処理も替えない。 -/
theorem flushDelta_active (a : ActiveSlackCodexStream) (messageTs : String) (answer : UpdateAnswer)
    (s : SlackCodexStreams) : ∃ a', (c.flushDelta a messageTs answer s).active = some a' ∧ a'.finalText = a.finalText ∧
      (c.flushDelta a messageTs answer s).loops = s.loops := by
  unfold flushDelta
  cases a.target.kind with
  | directMessageUpdate =>
    simp only
    split
    · cases answer with
      | ok => exact ⟨_, active_record .., rfl, loops_record ..⟩
      | failed landed => exact ⟨_, active_record .., rfl, loops_record ..⟩
    · exact ⟨a, rfl, rfl, rfl⟩
  | threadStream threadTs =>
    cases answer with
    | ok => exact ⟨a, active_record .., rfl, loops_record ..⟩
    | failed landed => exact ⟨_, active_record .., rfl, loops_record ..⟩

theorem openMessage_active (a : ActiveSlackCodexStream) (delta : String) (opened : Option String)
    (s : SlackCodexStreams) : ∃ a', (openMessage a delta opened s).active = some a' ∧ a'.finalText = a.finalText ∧
      (openMessage a delta opened s).loops = s.loops := by
  cases opened with
  | none => exact ⟨_, rfl, rfl, rfl⟩
  | some messageTs => exact ⟨_, active_record .., rfl, loops_record ..⟩

/-- 答えの断片が届けば、待ちの表示の処理は取り消される。 -/
theorem kept_appendFinalDelta (delta : String) (answer : DeltaAnswer) (s : SlackCodexStreams) :
    LoopsKept s (c.appendFinalDelta delta answer s) := by
  unfold appendFinalDelta
  by_cases hskip : (delta.isEmpty || !c.hasClient) = true
  · rw [if_pos hskip]
    exact .refl s
  · rw [if_neg hskip]
    cases hactive : s.active with
    | none => exact .refl s
    | some a =>
      simp only
      split
      · exact .refl s
      · have hdelta : (a.finalText ++ delta).isEmpty = false := by
          have hnonempty : delta ≠ "" := by simpa using fun h => hskip (by simp [h])
          simp [hnonempty]
        have hgrown (s' : SlackCodexStreams) (h : ∃ a', s'.active = some a' ∧ a'.finalText = a.finalText ++ delta ∧
            s'.loops = (cancelLoop a.loadingCancel s).loops) : LoopsKept s s' := by
          obtain ⟨a', ha', htext, hloops⟩ := h
          refine kept_of_take hactive hloops ha' fun hshows => ?_
          rw [showsLoading_of_text (htext ▸ hdelta)] at hshows
          cases hshows
        split
        · exact hgrown _ (flushDelta_active _ _ _ _)
        · exact hgrown _ (openMessage_active _ _ _ _)

theorem kept_settle (hactive : s.active = some a) (messageTs text : String) (acknowledges : Bool)
    (answer : UpdateAnswer) (htext : a.finalText.isEmpty = false → text.isEmpty = false) :
    LoopsKept s (settle a messageTs text acknowledges answer s).2 := by
  cases answer with
  | ok =>
    refine kept_of_take hactive (loops_record ..) (active_record ..) fun hshows => ?_
    refine ⟨?_, rfl, rfl⟩
    simp only [showsLoading, Bool.and_eq_true, Bool.not_eq_true'] at hshows ⊢
    refine ⟨hshows.1, ?_⟩
    by_contra hnot
    rw [htext (by simpa using hnot)] at hshows
    exact absurd hshows.2 (by simp)
  | failed landed =>
    refine kept_of_take hactive (loops_record ..) (active_record ..) fun hshows => ?_
    simp [showsLoading] at hshows

theorem kept_reply (text : String) (answer : UpdateAnswer) (s : SlackCodexStreams) :
    LoopsKept s (c.replyInline text answer s).2 := by
  unfold replyInline
  refine (kept_tool (c := c) "channel_reply_to_event" s).trans ?_
  by_cases hempty : text.isEmpty = true
  · rw [if_pos hempty]
    exact .refl _
  · rw [if_neg hempty]
    rcases finishActiveDirectMessageReply_cases c (c.updateForTool "channel_reply_to_event" s) text answer with
      ⟨a, messageTs, hready, _, hrun⟩ | ⟨_, hrun⟩
    · rw [hrun]
      exact kept_settle hready.active messageTs text true answer fun _ => by simpa using hempty
    · rw [hrun]
      exact .refl _

theorem kept_result (content : String) (answer : UpdateAnswer) (s : SlackCodexStreams) :
    LoopsKept s (c.finishFinalAnswer content answer s).2 := by
  rcases finishFinalAnswer_cases c s content answer with ⟨a, messageTs, hready, hrun⟩ | ⟨_, hrun⟩
  · rw [hrun]
    refine kept_settle hready.active messageTs _ false answer fun hold => ?_
    split
    · exact hold
    · rename_i hblank
      by_contra hempty
      rw [Bool.not_eq_false, String.isEmpty_iff] at hempty
      exact hblank (hempty ▸ by decide)
  · rw [hrun]
    exact .refl s

theorem kept_readLoop (n : Nat) (s : SlackCodexStreams) : LoopsKept s (readLoop n s) := by
  have hphase (phase : LoadingPhase) (hnot : phase ≠ .checked) (s : SlackCodexStreams) :
      LoopsKept s (setPhase n phase s) :=
    kept_of_modify rfl rfl fun l _ => ⟨rfl, rfl, rfl, fun hchecked => absurd hchecked hnot⟩
  unfold readLoop
  split
  · cases hactive : s.active with
    | none => exact hphase .ended (by simp) s
    | some a =>
      simp only
      split
      · rename_i hshows
        refine LoopsKept.trans (@kept_of_active _ ({ s with
          active := some { a with loadingTick := a.loadingTick + 1 } }) _ _ rfl hactive rfl rfl
          fun _ => ⟨hshows, rfl, rfl⟩) ?_
        exact hphase _ (by simp) _
      · exact hphase .ended (by simp) s
  · exact .refl s

theorem kept_of_same (hactive : s'.active = s.active) (hloops : s'.loops = s.loops) : LoopsKept s s' where
  loops n l hl := ⟨l, hloops ▸ hl, rfl, rfl, fun h => h, .inl⟩
  shows a ha := ⟨a, hactive ▸ ha, fun h => ⟨h, rfl, rfl⟩⟩
  held a ha := ⟨a, hactive.trans ha, fun _ h => .inl h⟩

/-- 発話の出来事は、確かめを終えた処理を新たに生まない。 -/
theorem kept_event (s : SlackCodexStreams) (event : TurnEvent) : LoopsKept s (c.runEvent s event) := by
  cases event with
  | agentMessageStarted phase => exact kept_phase phase s
  | agentMessageDelta phase delta answer =>
    refine (kept_phase (c := c) phase s).trans ?_
    simp only [runEvent, observeDelta]
    split
    · exact kept_appendFinalDelta delta answer _
    · exact .refl _
  | toolCall tool => exact kept_tool tool s
  | reply text answer => exact kept_reply text answer s
  | result content answer => exact kept_result content answer s
  | updateLands n landed =>
    simp only [runEvent, landUpdate]
    cases s.updates[n]? with
    | none => exact .refl s
    | some update => exact kept_of_same (active_record ..) (loops_record ..)
  | loopChecks n =>
    simp only [runEvent, checkLoop]
    split
    · rename_i hloop
      refine kept_of_modify rfl rfl fun l hl => ⟨rfl, rfl, rfl, fun hchecked => ?_⟩
      cases hl.symm.trans hloop
      split at hchecked
      · cases hchecked
      · rename_i hnot
        exact .inr (by simpa using hnot)
    · exact .refl s
  | loopReads n => exact kept_readLoop n s
  | loopLands n answer =>
    simp only [runEvent, landLoop]
    split
    · rename_i channelId messageTs cancelled text hloop
      refine LoopsKept.trans (@kept_of_modify _ (setPhase n _ s) _ _ rfl rfl fun l hl => ?_)
        (kept_of_same (active_record ..) (loops_record ..))
      refine ⟨rfl, rfl, rfl, fun hchecked => ?_⟩
      split at hchecked <;> cases hchecked
    · exact .refl s

end Codeoff.Serve
