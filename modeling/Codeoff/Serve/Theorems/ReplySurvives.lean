import Codeoff.Control.Sequential
import Codeoff.Serve.Lemmas.LoadingLoop

/-!
# 返信は発話の終わりまで残る

成功を答えた返信は、その後の書き換えにも含まれるか。
-/

namespace Codeoff.Serve.ReplySurvives

open Codeoff.Core Codeoff.Control SlackCodexStreams SlackCodexStreamController

variable {c : SlackCodexStreamController} {s : SlackCodexStreams} {a : ActiveSlackCodexStream} {text : String}

/-- 成功を答えた返信 `w` の文面は、同じメッセージの後の書き換えに含まれる。 -/
def Survives (w later : MessageWrite) : Prop :=
  w.acknowledged = true → w.update.channelId = later.update.channelId → w.update.messageTs = later.update.messageTs →
    w.update.text.toList <:+: later.update.text.toList

def KeepsReplies (s : SlackCodexStreams) (update : MessageUpdate) : Prop :=
  ∀ w ∈ s.log, Survives w ⟨update, false⟩

def Compatible (c : SlackCodexStreamController) (s : SlackCodexStreams) : TurnEvent → Prop
  | .reply text answer => ∀ a messageTs, Writable c s a messageTs → a.target.kind = .directMessageUpdate →
      text.isEmpty = false → answer.landed = true → KeepsReplies s ⟨a.target.channelId, messageTs, text⟩
  | .result content answer => ∀ a messageTs, Writable c s a messageTs → (trim content).isEmpty = false →
      answer.landed = true → KeepsReplies s ⟨a.target.channelId, messageTs, content⟩
  | .updateLands n landed => ∀ update, s.updates[n]? = some update → landed = true → KeepsReplies s update
  | .loopLands n answer => ∀ l, s.loops[n]? = some l → ∀ text, l.phase = .sending text → answer.landed = true →
      KeepsReplies s ⟨l.channelId, l.messageTs, text⟩
  | _ => True

def Carries (log : List MessageWrite) (a : ActiveSlackCodexStream) : Prop :=
  ∀ w ∈ log, w.acknowledged = true → a.messageTs = some w.update.messageTs ∧
    a.target.channelId = w.update.channelId ∧ (a.failed = false → w.update.text.toList <:+: a.finalText.toList)

def RepliesCarried (s : SlackCodexStreams) : Prop := ∀ a ∈ s.active, Carries s.log a

/-- 履歴が高々一件伸び、それまでの返信を保つのは `C` のときである。そのとき、出ているメッセージも返信を含む。 -/
structure Extends (s s' : SlackCodexStreams) (C : Prop) : Prop where
  log : ∃ emitted : Option MessageWrite, s'.log = s.log ++ emitted.toList ∧
    ((∀ w ∈ emitted, KeepsReplies s w.update) ↔ C)
  carried : C → RepliesCarried s'

variable {s' : SlackCodexStreams} {a' : ActiveSlackCodexStream} {update : MessageUpdate} {landed : Bool} {C : Prop}

theorem extends_silent (hlog : s'.log = s.log)
    (hactive : ∀ a' ∈ s'.active, Carries s.log a') : Extends s s' True where
  log := ⟨none, by simp [hlog], by simp⟩
  carried _ := by
    rw [RepliesCarried, hlog]
    exact hactive

theorem log_landed (acknowledged : Bool)
    (hlog : s'.log = s.log ++ (if landed = true then some (⟨update, acknowledged⟩ : MessageWrite) else none).toList) :
    ∃ emitted : Option MessageWrite, s'.log = s.log ++ emitted.toList ∧
      ((∀ w ∈ emitted, KeepsReplies s w.update) ↔ (landed = true → KeepsReplies s update)) := by
  refine ⟨_, hlog, ?_⟩
  cases landed <;> simp

theorem Carries.record (h : Carries s.log a) : Carries (record update landed false s).log a := by
  intro w hw hacknowledged
  rw [log_record] at hw
  rcases List.mem_append.mp hw with hw | hw
  · exact h w hw hacknowledged
  · cases landed with
    | false => simp at hw
    | true =>
      rw [List.mem_singleton.mp hw] at hacknowledged
      cases hacknowledged

theorem Carries.grow (h : Carries s.log a) (hts : a'.messageTs = a.messageTs) (htarget : a'.target = a.target)
    (hfailed : a'.failed = false → a.failed = false) (htext : a.finalText.toList <:+: a'.finalText.toList) :
    Carries s.log a' := by
  intro w hw hacknowledged
  obtain ⟨hw_ts, hw_channel, hw_text⟩ := h w hw hacknowledged
  exact ⟨hts.trans hw_ts, htarget ▸ hw_channel, fun hf => (hw_text (hfailed hf)).trans htext⟩

theorem Extends.of_iff (h : Extends s s' C) {C' : Prop} (hiff : C ↔ C') : Extends s s' C' where
  log := by
    obtain ⟨emitted, hlog, hkeeps⟩ := h.log
    exact ⟨emitted, hlog, hkeeps.trans hiff⟩
  carried hC' := h.carried (hiff.mpr hC')

theorem Extends.since {s₀ : SlackCodexStreams} (h : Extends s₀ s' C) (heq : s₀.log = s.log) : Extends s s' C where
  log := by
    obtain ⟨emitted, hlog, hkeeps⟩ := h.log
    refine ⟨emitted, heq ▸ hlog, ?_⟩
    simpa only [KeepsReplies, heq] using hkeeps
  carried := h.carried

theorem keepsReplies_of_carries (h : Carries s.log a) (hfailed : a.failed = false) {channelId messageTs : String}
    (htext : a.finalText.toList <:+: text.toList) : KeepsReplies s ⟨channelId, messageTs, text⟩ :=
  fun w hw hacknowledged _ _ => ((h w hw hacknowledged).2.2 hfailed).trans htext

theorem carried_of_redrawn (hdrawn : Redrawn s s') (h : RepliesCarried s) : RepliesCarried s' := by
  obtain ⟨hlog, f, hf, hactive⟩ := hdrawn
  intro a' ha'
  rw [hactive] at ha'
  obtain ⟨a, ha, rfl⟩ := Option.map_eq_some_iff.mp ha'
  obtain ⟨hts, htarget, hfailed, htext⟩ := hf a
  rw [hlog]
  exact (h a ha).grow hts htarget (fun hnot => hfailed ▸ hnot) (htext ▸ List.infix_rfl)

theorem extends_of_redrawn (hdrawn : Redrawn s s') (h : RepliesCarried s) : Extends s s' True where
  log := ⟨none, by simp [hdrawn.1], by simp⟩
  carried _ := carried_of_redrawn hdrawn h

theorem extends_after_redrawn {s'' : SlackCodexStreams} (hdrawn : Redrawn s s') (h : Extends s' s'' C) : Extends s s'' C :=
  h.since hdrawn.1

/-! ## 途中の答え -/

theorem extends_flushDelta (h : Carries s.log a) (hfailed : a.failed = false) (messageTs : String)
    (answer : UpdateAnswer) : Extends s (c.flushDelta a messageTs answer s) True := by
  have hkeeps : KeepsReplies s ⟨a.target.channelId, messageTs, a.finalText⟩ :=
    keepsReplies_of_carries h hfailed List.infix_rfl
  have hlanded (landed : Bool) (a' : ActiveSlackCodexStream) (hts : a'.messageTs = a.messageTs)
      (htarget : a'.target = a.target) (htext : a'.finalText = a.finalText) :
      Extends s (record ⟨a.target.channelId, messageTs, a.finalText⟩ landed false { s with active := some a' }) True := by
    constructor
    · obtain ⟨emitted, hlog, hiff⟩ := log_landed false (log_record _ landed false { s with active := some a' })
      exact ⟨emitted, hlog, hiff.trans (iff_true_intro fun _ => hkeeps)⟩
    · intro _ b hb
      simp only [active_record, Option.mem_def, Option.some.injEq] at hb
      subst hb
      exact Carries.record (s := { s with active := some a' })
        (h.grow hts htarget (fun _ => hfailed) (htext ▸ List.infix_rfl))
  unfold flushDelta
  cases a.target.kind with
  | directMessageUpdate =>
    simp only
    split
    · cases answer with
      | ok => exact hlanded true _ rfl rfl rfl
      | failed landed => exact hlanded landed _ rfl rfl rfl
    · refine ⟨⟨none, by simp, by simp⟩, fun _ b hb => ?_⟩
      cases hb
      exact h
  | threadStream threadTs =>
    cases answer with
    | ok => exact hlanded true _ rfl rfl rfl
    | failed landed => exact hlanded landed _ rfl rfl rfl

theorem extends_openMessage (h : Carries s.log a) (hts : a.messageTs = none) (delta : String) (opened : Option String) :
    Extends s (openMessage a delta opened s) True := by
  have hnone (w : MessageWrite) (hw : w ∈ s.log) : w.acknowledged ≠ true := by
    intro hacknowledged
    have hsome := (h w hw hacknowledged).1
    rw [hts] at hsome
    cases hsome
  cases opened with
  | none =>
    refine ⟨⟨none, by simp [openMessage], by simp⟩, fun _ b hb => ?_⟩
    cases hb
    exact h.grow rfl rfl (by simp) List.infix_rfl
  | some messageTs =>
    constructor
    · obtain ⟨emitted, hlog, hiff⟩ := log_landed false (log_record ⟨a.target.channelId, messageTs, delta⟩ true false
        { s with active := some { a with messageTs := some messageTs } })
      exact ⟨emitted, hlog, hiff.trans (iff_true_intro fun _ w hw hacknowledged => absurd hacknowledged (hnone w hw))⟩
    · intro _ b hb
      simp only [openMessage, active_record, Option.mem_def, Option.some.injEq] at hb
      subst hb
      exact Carries.record (s := { s with active := some { a with messageTs := some messageTs } })
        fun w hw hacknowledged => absurd hacknowledged (hnone w hw)

/-- 途中の答えは、それまでの文面に継ぎ足されるので、返信を含み続ける。 -/
theorem extends_appendFinalDelta (h : RepliesCarried s) (delta : String) (answer : DeltaAnswer) :
    Extends s (c.appendFinalDelta delta answer s) True := by
  have hsame : Extends s s True := extends_silent rfl h
  unfold appendFinalDelta
  split
  · exact hsame
  · cases hactive : s.active with
    | none => exact hsame
    | some a =>
      simp only
      split
      · exact hsame
      · rename_i hfailed
        simp only [Bool.not_eq_true] at hfailed
        have hcarries : Carries (cancelLoop a.loadingCancel s).log { a with
            loadingCancel := none
            finalText := a.finalText ++ delta } := by
          rw [log_cancelLoop]
          refine (h a hactive).grow rfl rfl (fun hnot => hnot) ?_
          rw [String.toList_append]
          exact (List.prefix_append ..).isInfix
        have hredrawn : ∀ {s''}, Extends (cancelLoop a.loadingCancel s) s'' True → Extends s s'' True := by
          intro s'' hext
          refine ⟨?_, hext.carried⟩
          obtain ⟨emitted, hlog, hiff⟩ := hext.log
          rw [log_cancelLoop] at hlog
          exact ⟨emitted, hlog, by simpa only [KeepsReplies, log_cancelLoop] using hiff⟩
        generalize hgrown : { a with
          loadingCancel := none
          finalText := a.finalText ++ delta } = grown at hcarries
        have hgrownTs : grown.messageTs = a.messageTs := by rw [← hgrown]
        have hgrownFailed : grown.failed = false := by rw [← hgrown, hfailed]
        cases hts : a.messageTs with
        | some messageTs => exact hredrawn (extends_flushDelta hcarries hgrownFailed messageTs answer.update)
        | none => exact hredrawn (extends_openMessage hcarries (hgrownTs.trans hts) delta answer.opened)

/-- 文面を置き換える書き込みは、置き換えた文面が返信を含むときにだけ、返信を保つ。 -/
theorem extends_settle (h : Carries s.log a) {messageTs : String} (hts : a.messageTs = some messageTs)
    (acknowledges : Bool) (answer : UpdateAnswer) :
    Extends s (settle a messageTs text acknowledges answer s).2
      (answer.landed = true → KeepsReplies s ⟨a.target.channelId, messageTs, text⟩) := by
  refine ⟨log_landed _ (log_settle messageTs acknowledges answer), fun hkeeps b hb w hw hacknowledged => ?_⟩
  obtain ⟨failed, hactive, hok⟩ := @active_settle s a text messageTs acknowledges answer
  rw [hactive] at hb
  cases hb
  rw [log_settle] at hw
  rcases List.mem_append.mp hw with hw | hw
  · obtain ⟨hw_ts, hw_channel, _⟩ := h w hw hacknowledged
    refine ⟨hw_ts, hw_channel, fun hnot => ?_⟩
    have hlanded : answer.landed = true := by rw [hok hnot, UpdateAnswer.landed]
    exact hkeeps hlanded w hw hacknowledged hw_channel.symm (Option.some.inj (hw_ts.symm.trans hts))
  · -- いま書いた文面
    by_cases hlanded : answer.landed = true
    · rw [if_pos hlanded] at hw
      rw [List.mem_singleton.mp hw]
      exact ⟨hts, rfl, fun _ => List.infix_rfl⟩
    · simp [hlanded] at hw

theorem extends_landed (s' : SlackCodexStreams) (hlog : s'.log = s.log) (hactive : ∀ b ∈ s'.active, Carries s.log b)
    (update : MessageUpdate) (landed : Bool) :
    Extends s (record update landed false s') (landed = true → KeepsReplies s update) := by
  constructor
  · refine log_landed false ?_
    rw [log_record, hlog]
  · intro _ b hb
    rw [active_record] at hb
    exact Carries.record (hlog ▸ hactive b hb)

/-! ## 一歩 -/

theorem extends_reply (h : RepliesCarried s) (text : String) (answer : UpdateAnswer) :
    Extends s (c.replyInline text answer s).2 (Compatible c s (.reply text answer)) := by
  have hdrawn := redrawn_tool (c := c) "channel_reply_to_event" s
  unfold replyInline
  simp only
  split
  · rename_i hempty
    exact (extends_of_redrawn hdrawn h).of_iff (iff_of_true trivial fun _ _ _ _ hnot => by simp [hempty] at hnot)
  · rename_i hnonempty
    simp only [Bool.not_eq_true] at hnonempty
    rcases finishActiveDirectMessageReply_cases c (c.updateForTool "channel_reply_to_event" s) text answer with
      ⟨a', messageTs, hready, hkind, hrun⟩ | ⟨hnone, hrun⟩
    · have hcarries := carried_of_redrawn hdrawn h a' hready.active
      obtain ⟨a, hready', htarget⟩ := hdrawn.writable hready
      rw [hrun]
      refine (extends_after_redrawn hdrawn (extends_settle hcarries hready.opened true answer)).of_iff ?_
      have hkeeps : KeepsReplies (c.updateForTool "channel_reply_to_event" s) ⟨a'.target.channelId, messageTs, text⟩ ↔
          KeepsReplies s ⟨a.target.channelId, messageTs, text⟩ := by
        rw [KeepsReplies, hdrawn.1, htarget, KeepsReplies]
      rw [hkeeps]
      constructor
      · intro hkeeps b other hother _ _ hlanded
        obtain ⟨rfl, rfl⟩ := hready'.unique hother
        exact hkeeps hlanded
      · exact fun hcompatible => hcompatible a messageTs hready' (htarget ▸ hkind) hnonempty
    · rw [hrun]
      refine (extends_of_redrawn hdrawn h).of_iff (iff_of_true trivial fun a messageTs hready hkind => ?_)
      obtain ⟨a', hready', htarget⟩ := hdrawn.writable_of hready
      exact absurd (htarget ▸ hkind) (hnone a' messageTs hready')

theorem extends_result (h : RepliesCarried s) (content : String) (answer : UpdateAnswer) :
    Extends s (c.finishFinalAnswer content answer s).2 (Compatible c s (.result content answer)) := by
  rcases finishFinalAnswer_cases c s content answer with ⟨a, messageTs, hready, hrun⟩ | ⟨hnone, hrun⟩
  · have hcarries := h a hready.active
    rw [hrun]
    refine (extends_settle hcarries hready.opened false answer).of_iff ?_
    by_cases hblank : (trim content).isEmpty = true
    · -- それまでの文面で終わる
      rw [if_pos hblank]
      refine iff_of_true (fun _ => keepsReplies_of_carries hcarries hready.healthy List.infix_rfl) ?_
      exact fun _ _ _ hnot => by simp [hblank] at hnot
    · rw [if_neg hblank]
      constructor
      · intro hkeeps b other hother _ hlanded
        obtain ⟨rfl, rfl⟩ := hready.unique hother
        exact hkeeps hlanded
      · exact fun hcompatible => hcompatible a messageTs hready (by simpa using hblank)
  · rw [hrun]
    exact (extends_silent rfl h).of_iff (iff_of_true trivial fun a messageTs hready => absurd hready (hnone a messageTs))

/-- どの出来事も、履歴を高々一件伸ばし、返信を保つのは `Compatible` のときである。 -/
theorem extends_event (h : RepliesCarried s) (event : TurnEvent) :
    Extends s (c.runEvent s event) (Compatible c s event) := by
  cases event with
  | agentMessageStarted phase => exact extends_of_redrawn (redrawn_phase phase s) h
  | agentMessageDelta phase delta answer =>
    have hdrawn := redrawn_phase (c := c) phase s
    simp only [runEvent, observeDelta]
    split
    · exact extends_after_redrawn hdrawn (extends_appendFinalDelta (carried_of_redrawn hdrawn h) delta answer)
    · exact extends_of_redrawn hdrawn h
  | toolCall tool => exact extends_of_redrawn (redrawn_tool tool s) h
  | reply text answer => exact extends_reply h text answer
  | result content answer => exact extends_result h content answer
  | updateLands n landed =>
    simp only [runEvent, landUpdate]
    cases hupdate : s.updates[n]? with
    | none => exact (extends_silent rfl h).of_iff (by simp [Compatible, hupdate])
    | some update =>
      have hiff : (landed = true → KeepsReplies s update) ↔ Compatible c s (.updateLands n landed) := by
        simp [Compatible, hupdate]
      simp only
      have hlanded := extends_landed { s with updates := s.updates.eraseIdx n } rfl h update landed
      exact (hlanded.since (s := s) rfl).of_iff hiff
  | loopChecks n =>
    simp only [runEvent, checkLoop]
    split
    · exact extends_silent rfl h
    · exact extends_silent rfl h
  | loopReads n =>
    simp only [runEvent, readLoop]
    split
    · cases hactive : s.active with
      | none => exact extends_silent rfl h
      | some a =>
        simp only
        split
        · refine extends_silent rfl fun b hb => ?_
          cases hb
          exact (h a hactive).grow rfl rfl (fun hnot => hnot) List.infix_rfl
        · exact extends_silent rfl h
    · exact extends_silent rfl h
  | loopLands n answer =>
    simp only [runEvent, landLoop]
    cases hloop : s.loops[n]? with
    | none => exact (extends_silent rfl h).of_iff (by simp [Compatible, hloop])
    | some l =>
      obtain ⟨channelId, messageTs, cancelled, phase⟩ := l
      cases phase with
      | waiting => exact (extends_silent rfl h).of_iff (by simp [Compatible, hloop])
      | checked => exact (extends_silent rfl h).of_iff (by simp [Compatible, hloop])
      | ended => exact (extends_silent rfl h).of_iff (by simp [Compatible, hloop])
      | sending text =>
        have hiff : (answer.landed = true → KeepsReplies s ⟨channelId, messageTs, text⟩)
            ↔ Compatible c s (.loopLands n answer) := by
          simp [Compatible, hloop]
        simp only
        have hlanded := extends_landed (setPhase n (if answer = .ok then .waiting else .ended) s) rfl h
          ⟨channelId, messageTs, text⟩ answer.landed
        exact (hlanded.since (s := s) rfl).of_iff hiff

/-!
## 途中の表示

返信が成功を答えた後に、新しい表示は読まれない。後から届く表示の書き換えは、答えたときに届いていなかったものだけである。
-/

/-- 表示の文面をもう読まない。 -/
def Quieted (s : SlackCodexStreams) : Prop := ∀ a ∈ s.active, showsLoading a = false

def loopSends (l : LoadingLoop) : Option MessageUpdate :=
  match l.phase with
  | .sending text => some ⟨l.channelId, l.messageTs, text⟩
  | _ => none

/-- まだ届いていない表示の書き換え。 -/
def inFlight (s : SlackCodexStreams) : List MessageUpdate := s.updates ++ s.loops.filterMap loopSends

theorem Quieted.kept (h : Quieted s) (hkept : LoopsKept s s') : Quieted s' := by
  intro a' ha'
  obtain ⟨a, ha, hsame⟩ := hkept.shows a' ha'
  by_contra hshows
  have hshown := (hsame (by simpa using hshows)).1
  rw [h a ha] at hshown
  cases hshown

theorem quieted_of_reply (hreply : (c.replyInline text answer s).1 = true) : Quieted (c.replyInline text answer s).2 := by
  unfold replyInline at hreply ⊢
  simp only at hreply ⊢
  split at hreply
  · cases hreply
  · rename_i hnonempty
    rw [if_neg hnonempty]
    rcases finishActiveDirectMessageReply_cases c (c.updateForTool "channel_reply_to_event" s) text answer with
      ⟨a, messageTs, _, _, hrun⟩ | ⟨_, hrun⟩
    · obtain ⟨failed, hactive, _⟩ :=
        @active_settle (c.updateForTool "channel_reply_to_event" s) a text messageTs true answer
      rw [hrun]
      intro b hb
      rw [hactive] at hb
      cases hb
      exact showsLoading_of_text (by simpa using hnonempty)
    · rw [hrun] at hreply
      cases hreply

theorem updateDirectMessageLoadingState_of_quieted (h : Quieted s) (state : AssistantState) :
    c.updateDirectMessageLoadingState state s = s := by
  unfold updateDirectMessageLoadingState
  cases hactive : s.active with
  | none => rfl
  | some a => simp [h a hactive]

theorem updateForTool_of_quieted (h : Quieted s) (tool : String) : c.updateForTool tool s = s := by
  unfold updateForTool
  split
  · rfl
  · exact updateDirectMessageLoadingState_of_quieted h _

theorem updateForAgentPhase_of_quieted (h : Quieted s) (phase : Option String) : c.updateForAgentPhase phase s = s := by
  unfold updateForAgentPhase
  split
  · rfl
  · exact updateDirectMessageLoadingState_of_quieted h _

theorem loopSends_modify_subset {f : LoadingLoop → LoadingLoop}
    (hf : ∀ l, loopSends (f l) = none ∨ loopSends (f l) = loopSends l) (n : Nat) (loops : List LoadingLoop) :
    (loops.modify n f).filterMap loopSends ⊆ loops.filterMap loopSends := by
  intro u hu
  obtain ⟨l, hl, hsends⟩ := List.mem_filterMap.mp hu
  obtain ⟨i, hi, hget⟩ := List.mem_iff_getElem.mp hl
  have hlength : i < loops.length := by simpa using hi
  refine List.mem_filterMap.mpr ⟨loops[i], List.getElem_mem hlength, ?_⟩
  rw [List.getElem_modify] at hget
  split at hget
  · rw [← hget] at hsends
    rcases hf loops[i] with hnone | hsame
    · rw [hnone] at hsends
      cases hsends
    · rw [← hsame, hsends]
  · rw [hget, hsends]

theorem inFlight_record (update : MessageUpdate) (landed acknowledged : Bool) (s : SlackCodexStreams) :
    inFlight (record update landed acknowledged s) = inFlight s := by
  cases landed <;> rfl

theorem inFlight_cancelLoop (loop : Option Nat) (s : SlackCodexStreams) : inFlight (cancelLoop loop s) ⊆ inFlight s := by
  cases loop with
  | none => exact List.Subset.refl _
  | some n =>
    exact List.append_subset.mpr ⟨List.subset_append_left .., List.subset_append_of_subset_right _
      (loopSends_modify_subset (f := fun l => { l with cancelled := true }) (fun _ => .inr rfl) n s.loops)⟩

theorem inFlight_setPhase {phase : LoadingPhase} (hphase : ∀ text, phase ≠ .sending text) (n : Nat)
    (s : SlackCodexStreams) : inFlight (setPhase n phase s) ⊆ inFlight s := by
  refine List.append_subset.mpr ⟨List.subset_append_left .., List.subset_append_of_subset_right _
    (loopSends_modify_subset (fun l => .inl ?_) n s.loops)⟩
  cases phase with
  | sending text => exact absurd rfl (hphase text)
  | _ => rfl

theorem inFlight_settle (messageTs : String) (acknowledges : Bool) (answer : UpdateAnswer) :
    inFlight (settle a messageTs text acknowledges answer s).2 ⊆ inFlight s := by
  cases answer <;> rw [settle, inFlight_record] <;> exact inFlight_cancelLoop a.loadingCancel s

theorem inFlight_flushDelta (messageTs : String) (answer : UpdateAnswer) :
    inFlight (c.flushDelta a messageTs answer s) = inFlight s := by
  unfold flushDelta
  cases a.target.kind with
  | directMessageUpdate =>
    simp only
    split
    · cases answer <;> rw [inFlight_record] <;> rfl
    · rfl
  | threadStream threadTs => cases answer <;> rw [inFlight_record] <;> rfl

theorem inFlight_openMessage (delta : String) (opened : Option String) :
    inFlight (openMessage a delta opened s) = inFlight s := by
  cases opened with
  | none => rfl
  | some messageTs =>
    rw [openMessage, inFlight_record]
    rfl

theorem inFlight_appendFinalDelta (delta : String) (answer : DeltaAnswer) (s : SlackCodexStreams) :
    inFlight (c.appendFinalDelta delta answer s) ⊆ inFlight s := by
  unfold appendFinalDelta
  split
  · exact List.Subset.refl _
  · cases s.active with
    | none => exact List.Subset.refl _
    | some a =>
      simp only
      split
      · exact List.Subset.refl _
      · split
        · rw [inFlight_flushDelta]
          exact inFlight_cancelLoop a.loadingCancel s
        · rw [inFlight_openMessage]
          exact inFlight_cancelLoop a.loadingCancel s

/-- 表示をもう読まない状態では、どの出来事も、届いていない書き換えを増やさない。 -/
theorem inFlight_event (h : Quieted s) (event : TurnEvent) : inFlight (c.runEvent s event) ⊆ inFlight s := by
  cases event with
  | agentMessageStarted phase =>
    rw [runEvent, updateForAgentPhase_of_quieted h]
    exact List.Subset.refl _
  | agentMessageDelta phase delta answer =>
    simp only [runEvent, observeDelta, updateForAgentPhase_of_quieted h]
    split
    · exact inFlight_appendFinalDelta delta answer s
    · exact List.Subset.refl _
  | toolCall tool =>
    rw [runEvent, updateForTool_of_quieted h]
    exact List.Subset.refl _
  | reply text answer =>
    simp only [runEvent, replyInline, updateForTool_of_quieted h]
    split
    · exact List.Subset.refl _
    · rcases finishActiveDirectMessageReply_cases c s text answer with ⟨a, messageTs, _, _, hrun⟩ | ⟨_, hrun⟩
      · rw [hrun]
        exact inFlight_settle messageTs true answer
      · rw [hrun]
        exact List.Subset.refl _
  | result content answer =>
    rw [runEvent]
    rcases finishFinalAnswer_cases c s content answer with ⟨a, messageTs, _, hrun⟩ | ⟨_, hrun⟩
    · rw [hrun]
      exact inFlight_settle messageTs false answer
    · rw [hrun]
      exact List.Subset.refl _
  | updateLands n landed =>
    simp only [runEvent, landUpdate]
    split
    · exact List.Subset.refl _
    · rw [inFlight_record]
      exact List.append_subset.mpr ⟨List.subset_append_of_subset_left _ (List.eraseIdx_subset ..),
        List.subset_append_right ..⟩
  | loopChecks n =>
    simp only [runEvent, checkLoop]
    split
    · refine inFlight_setPhase (fun text => ?_) n s
      split <;> simp
    · exact List.Subset.refl _
  | loopReads n =>
    simp only [runEvent, readLoop]
    split
    · cases hactive : s.active with
      | none => exact inFlight_setPhase (by simp) n s
      | some a =>
        simp only [h a hactive, Bool.false_eq_true, if_false]
        exact inFlight_setPhase (by simp) n s
    · exact List.Subset.refl _
  | loopLands n answer =>
    simp only [runEvent, landLoop]
    split
    · rw [inFlight_record]
      refine inFlight_setPhase (fun text => ?_) n s
      split <;> simp
    · exact List.Subset.refl _

theorem inFlight_turn (h : Quieted s) (events : List TurnEvent) : inFlight (c.runTurn s events) ⊆ inFlight s := by
  induction events generalizing s with
  | nil => exact List.Subset.refl _
  | cons event events ih => exact List.Subset.trans (ih (h.kept (kept_event s event))) (inFlight_event h event)

/-- 返信が成功を答えた後は、どの発話でも、届きうる表示の書き換えは、答えたときに届いていなかったものに限る。 -/
theorem no_loading_read_after_reply (c : SlackCodexStreamController) (s : SlackCodexStreams) (text : String)
    (answer : UpdateAnswer) (hreply : (c.replyInline text answer s).1 = true) (events : List TurnEvent) :
    inFlight (c.runTurn (c.replyInline text answer s).2 events) ⊆ inFlight (c.replyInline text answer s).2 :=
  inFlight_turn (quieted_of_reply hreply) events

/-! ## 全体 -/

theorem log_record_grows (update : MessageUpdate) (landed acknowledged : Bool) (s : SlackCodexStreams) :
    s.log <+: (record update landed acknowledged s).log := by
  rw [log_record]
  exact List.prefix_append ..

theorem log_appendFinalDelta_grows (delta : String) (answer : DeltaAnswer) (s : SlackCodexStreams) :
    s.log <+: (c.appendFinalDelta delta answer s).log := by
  have hflush (a : ActiveSlackCodexStream) (messageTs : String) (s : SlackCodexStreams) :
      s.log <+: (c.flushDelta a messageTs answer.update s).log := by
    unfold flushDelta
    cases a.target.kind with
    | directMessageUpdate =>
      simp only
      split
      · cases answer.update <;> exact log_record_grows _ _ _ { s with active := some _ }
      · exact List.prefix_rfl
    | threadStream threadTs => cases answer.update <;> exact log_record_grows _ _ _ { s with active := some _ }
  have hopen (a : ActiveSlackCodexStream) (s : SlackCodexStreams) :
      s.log <+: (openMessage a delta answer.opened s).log := by
    cases answer.opened with
    | none => exact List.prefix_rfl
    | some messageTs => exact log_record_grows _ _ _ { s with active := some _ }
  unfold appendFinalDelta
  split
  · exact List.prefix_rfl
  · cases s.active with
    | none => exact List.prefix_rfl
    | some a =>
      simp only
      split
      · exact List.prefix_rfl
      · rw [← log_cancelLoop a.loadingCancel s]
        split
        · exact hflush _ _ _
        · exact hopen _ _

/-- 履歴は、後ろに伸びるだけである。 -/
theorem log_grows (s : SlackCodexStreams) (event : TurnEvent) : s.log <+: (c.runEvent s event).log := by
  cases event with
  | agentMessageStarted phase => exact (redrawn_phase phase s).1 ▸ List.prefix_rfl
  | agentMessageDelta phase delta answer =>
    simp only [runEvent, observeDelta, ← (redrawn_phase (c := c) phase s).1]
    split
    · exact log_appendFinalDelta_grows delta answer _
    · exact List.prefix_rfl
  | toolCall tool => exact (redrawn_tool tool s).1 ▸ List.prefix_rfl
  | reply text answer =>
    simp only [runEvent, replyInline, ← (redrawn_tool (c := c) "channel_reply_to_event" s).1]
    split
    · exact List.prefix_rfl
    · rcases finishActiveDirectMessageReply_cases c (c.updateForTool "channel_reply_to_event" s) text answer with
        ⟨a, messageTs, _, _, hrun⟩ | ⟨_, hrun⟩
      · rw [hrun, log_settle]
        exact List.prefix_append ..
      · exact hrun ▸ List.prefix_rfl
  | result content answer =>
    rcases finishFinalAnswer_cases c s content answer with ⟨a, messageTs, _, hrun⟩ | ⟨_, hrun⟩
    · rw [runEvent, hrun, log_settle]
      exact List.prefix_append ..
    · simp only [runEvent, hrun, List.prefix_rfl]
  | updateLands n landed =>
    simp only [runEvent, landUpdate]
    split
    · exact List.prefix_rfl
    · exact log_record_grows _ _ _ { s with updates := s.updates.eraseIdx n }
  | loopChecks n =>
    simp only [runEvent, checkLoop]
    split <;> exact List.prefix_rfl
  | loopReads n =>
    simp only [runEvent, readLoop]
    split
    · split
      · exact List.prefix_rfl
      · split <;> exact List.prefix_rfl
    · exact List.prefix_rfl
  | loopLands n answer =>
    simp only [runEvent, landLoop]
    split
    · exact log_record_grows _ _ _ (setPhase n _ s)
    · exact List.prefix_rfl

theorem pairwise_iff_of_extends (h : Extends s s' C) (hlog : s.log.Pairwise Survives) :
    s'.log.Pairwise Survives ↔ C := by
  obtain ⟨emitted, hgrown, hkeeps⟩ := h.log
  rw [hgrown, List.pairwise_append, ← hkeeps, and_iff_right hlog]
  cases emitted with
  | none => simp
  | some w =>
    simp only [Option.toList_some, List.pairwise_singleton, List.mem_singleton, forall_eq, true_and,
      Option.mem_def, Option.some.injEq, forall_eq', KeepsReplies]
    exact Iff.rfl

/-- どの発話でも、成功を答えた返信が後の書き換えに残るのは、次の返信、空白でない最後の答え、届く表示の書き換えが、どれも
それまでの返信を含むときである。 -/
theorem reply_survives_iff (c : SlackCodexStreamController) (s : SlackCodexStreams) (events : List TurnEvent) :
    (c.runTurn { s with log := [] } events).log.Pairwise Survives ↔
      StepsMeet c.runEvent (Compatible c) { s with log := [] } events := by
  refine pairwise_run_iff (I := RepliesCarried) log_grows ?_ ?_ (by simp [RepliesCarried, Carries]) .nil events
  · exact fun s event h hlog => pairwise_iff_of_extends (extends_event h event) hlog
  · exact fun s event h => (extends_event h event).carried

def shownMessage : ActiveSlackCodexStream where
  target := ⟨"D1", .directMessageUpdate⟩
  messageTs := some "1.0"
  finalText := ""
  lastUpdateLen := 0
  assistantState := .reviewingFindings
  loadingTick := 0
  loadingCancel := none
  failed := false

def messageController : SlackCodexStreamController where
  hasClient := true
  directUpdateMinChars := 300
  directMessageFeedback := .message

/-- 返信の後、エージェントは別の文面を下書きとして返す。 -/
theorem draft_overwrites_reply :
    ¬ ∀ (c : SlackCodexStreamController) (s : SlackCodexStreams) (events : List TurnEvent),
      (c.runTurn { s with log := [] } events).log.Pairwise Survives := by
  intro hclaim
  have hlog : (messageController.runTurn ⟨some shownMessage, [], [], []⟩
      [.reply "yes" .ok, .result "done" .ok]).log =
        [⟨⟨"D1", "1.0", "yes"⟩, true⟩, ⟨⟨"D1", "1.0", "done"⟩, false⟩] := by decide +kernel
  have hpair := hclaim messageController ⟨some shownMessage, [], [], []⟩ [.reply "yes" .ok, .result "done" .ok]
  rw [hlog] at hpair
  have hinfix := List.rel_of_pairwise_cons hpair (List.mem_singleton.mpr rfl) rfl rfl rfl
  revert hinfix
  decide

end Codeoff.Serve.ReplySurvives
