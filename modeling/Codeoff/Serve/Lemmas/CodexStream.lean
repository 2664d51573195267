import Codeoff.Serve.CodexStream

/-!
# 表示の操作の効果
-/

namespace Codeoff.Serve

open Codeoff.Core SlackCodexStreams SlackCodexStreamController

variable {c : SlackCodexStreamController} {s s' : SlackCodexStreams} {a a' : ActiveSlackCodexStream}
  {text messageTs : String}

theorem log_record (update : MessageUpdate) (landed acknowledged : Bool) (s : SlackCodexStreams) :
    (record update landed acknowledged s).log =
      s.log ++ (if landed = true then some (⟨update, acknowledged⟩ : MessageWrite) else none).toList := by
  cases landed <;> simp [record]

@[simp] theorem active_record (update : MessageUpdate) (landed acknowledged : Bool) (s : SlackCodexStreams) :
    (record update landed acknowledged s).active = s.active := by
  cases landed <;> rfl

@[simp] theorem log_cancelLoop (loop : Option Nat) (s : SlackCodexStreams) : (cancelLoop loop s).log = s.log := by
  cases loop <;> rfl

@[simp] theorem active_cancelLoop (loop : Option Nat) (s : SlackCodexStreams) :
    (cancelLoop loop s).active = s.active := by
  cases loop <;> rfl

theorem log_settle (messageTs : String) (acknowledges : Bool) (answer : UpdateAnswer) :
    (settle a messageTs text acknowledges answer s).2.log = s.log ++ (if answer.landed = true then
      some (⟨⟨a.target.channelId, messageTs, text⟩, acknowledges && answer == .ok⟩ : MessageWrite) else none).toList := by
  cases answer with
  | ok => simp [settle, log_record, UpdateAnswer.landed]
  | failed landed =>
    have hnot : (UpdateAnswer.failed landed == .ok) = false := by cases landed <;> rfl
    simp [settle, log_record, UpdateAnswer.landed, hnot]

theorem active_settle (messageTs : String) (acknowledges : Bool) (answer : UpdateAnswer) :
    ∃ failed, (settle a messageTs text acknowledges answer s).2.active = some { a with
      loadingCancel := none
      finalText := text
      failed := failed } ∧ (failed = false → answer = .ok) := by
  cases answer with
  | ok => exact ⟨a.failed, by simp [settle], fun _ => rfl⟩
  | failed landed => exact ⟨true, by simp [settle], by simp⟩

structure Writable (c : SlackCodexStreamController) (s : SlackCodexStreams) (a : ActiveSlackCodexStream)
    (messageTs : String) : Prop where
  active : s.active = some a
  opened : a.messageTs = some messageTs
  client : c.hasClient = true
  healthy : a.failed = false

theorem Writable.unique {b : ActiveSlackCodexStream} {other : String} (h : Writable c s a messageTs)
    (h' : Writable c s b other) : a = b ∧ messageTs = other := by
  have hab : a = b := Option.some.inj (h.active.symm.trans h'.active)
  subst hab
  exact ⟨rfl, Option.some.inj (h.opened.symm.trans h'.opened)⟩

/-- 最後の答えは、書けるメッセージがあれば書き換え、なければ何もしない。空白の答えは、それまでの文面で終わる。 -/
theorem finishFinalAnswer_cases (c : SlackCodexStreamController) (s : SlackCodexStreams) (text : String)
    (answer : UpdateAnswer) :
    (∃ a messageTs, Writable c s a messageTs ∧ c.finishFinalAnswer text answer s =
        settle a messageTs (if (trim text).isEmpty then a.finalText else text) false answer s) ∨
      ((∀ a messageTs, ¬ Writable c s a messageTs) ∧ c.finishFinalAnswer text answer s = (false, s)) := by
  by_cases hready : ∃ a messageTs, Writable c s a messageTs
  · obtain ⟨a, messageTs, h⟩ := hready
    refine .inl ⟨a, messageTs, h, ?_⟩
    simp [finishFinalAnswer, h.active, h.opened, h.client, h.healthy]
  · refine .inr ⟨fun a messageTs h => hready ⟨a, messageTs, h⟩, ?_⟩
    unfold finishFinalAnswer
    cases hactive : s.active with
    | none => rfl
    | some a =>
      cases hopened : a.messageTs with
      | none => simp only [hopened]
      | some messageTs =>
        simp only [hopened]
        refine if_pos (Classical.byContradiction fun hnot => hready ⟨a, messageTs, hactive, hopened, ?_, ?_⟩)
        · simp_all
        · simp_all

/-- 返信が書き換えるのは、直接メッセージの表示だけである。 -/
theorem finishActiveDirectMessageReply_cases (c : SlackCodexStreamController) (s : SlackCodexStreams) (text : String)
    (answer : UpdateAnswer) :
    (∃ a messageTs, Writable c s a messageTs ∧ a.target.kind = .directMessageUpdate ∧
        c.finishActiveDirectMessageReply text answer s = settle a messageTs text true answer s) ∨
      ((∀ a messageTs, Writable c s a messageTs → a.target.kind ≠ .directMessageUpdate) ∧
        c.finishActiveDirectMessageReply text answer s = (false, s)) := by
  by_cases hready : ∃ a messageTs, Writable c s a messageTs ∧ a.target.kind = .directMessageUpdate
  · obtain ⟨a, messageTs, h, hkind⟩ := hready
    refine .inl ⟨a, messageTs, h, hkind, ?_⟩
    simp [finishActiveDirectMessageReply, h.active, h.opened, h.client, h.healthy, hkind]
  · refine .inr ⟨fun a messageTs h hkind => hready ⟨a, messageTs, h, hkind⟩, ?_⟩
    unfold finishActiveDirectMessageReply
    cases hactive : s.active with
    | none => rfl
    | some a =>
      cases hopened : a.messageTs with
      | none => simp only [hopened]
      | some messageTs =>
        simp only [hopened]
        refine if_pos (Classical.byContradiction fun hnot =>
          hready ⟨a, messageTs, ⟨hactive, hopened, ?_, ?_⟩, ?_⟩)
        · simp_all
        · simp_all
        · simp_all

def Redrawn (s s' : SlackCodexStreams) : Prop :=
  s'.log = s.log ∧ ∃ f : ActiveSlackCodexStream → ActiveSlackCodexStream,
    (∀ a, (f a).messageTs = a.messageTs ∧ (f a).target = a.target ∧ (f a).failed = a.failed ∧
      (f a).finalText = a.finalText) ∧ s'.active = s.active.map f

theorem redrawn_refl (s : SlackCodexStreams) : Redrawn s s := ⟨rfl, id, by simp, by simp⟩

theorem redrawn_loadingState (state : AssistantState) (s : SlackCodexStreams) :
    Redrawn s (c.updateDirectMessageLoadingState state s) := by
  unfold updateDirectMessageLoadingState
  cases hactive : s.active with
  | none => exact redrawn_refl s
  | some a =>
    simp only
    split
    · exact redrawn_refl s
    · refine ⟨?_, fun a => { a with
        assistantState := state
        loadingTick := 0 }, by simp, ?_⟩
      · split <;> rfl
      · split <;> simp [hactive]

theorem redrawn_tool (tool : String) (s : SlackCodexStreams) : Redrawn s (c.updateForTool tool s) := by
  unfold updateForTool
  cases assistantStateForTool tool with
  | none => exact redrawn_refl s
  | some state => exact redrawn_loadingState state s

theorem redrawn_phase (phase : Option String) (s : SlackCodexStreams) :
    Redrawn s (c.updateForAgentPhase phase s) := by
  unfold updateForAgentPhase
  cases assistantStateForAgentPhase phase with
  | none => exact redrawn_refl s
  | some state => exact redrawn_loadingState state s

theorem Redrawn.writable (hdrawn : Redrawn s s') (h : Writable c s' a' messageTs) :
    ∃ a, Writable c s a messageTs ∧ a'.target = a.target := by
  obtain ⟨_, f, hf, hactive⟩ := hdrawn
  have hold := h.active
  rw [hactive] at hold
  obtain ⟨a, ha, rfl⟩ := Option.map_eq_some_iff.mp hold
  obtain ⟨hts, htarget, hfailed, _⟩ := hf a
  exact ⟨a, ⟨ha, hts ▸ h.opened, h.client, hfailed ▸ h.healthy⟩, htarget⟩

theorem Redrawn.writable_of (hdrawn : Redrawn s s') (h : Writable c s a messageTs) :
    ∃ a', Writable c s' a' messageTs ∧ a'.target = a.target := by
  obtain ⟨_, f, hf, hactive⟩ := hdrawn
  obtain ⟨hts, htarget, hfailed, _⟩ := hf a
  refine ⟨f a, ⟨?_, hts.trans h.opened, h.client, hfailed.trans h.healthy⟩, htarget⟩
  rw [hactive, h.active, Option.map_some]

end Codeoff.Serve
