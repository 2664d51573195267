import Codeoff.Agent.Task
import Codeoff.Core.Identity

/-!
# 処理中の表示と下書きの流し込み

一つの作業の列が持つ `SlackCodexStreamController`。ある出来事のための一つのメッセージ（
`active`）を、動く表示、途中の答え、道具による返信、最後の答えが書き換える。
-/

namespace Codeoff.Serve

open Codeoff.Core

inductive AssistantState where
  | reviewingFindings
  | searching
  | processing
  | summarizingFindings
deriving DecidableEq, Repr

def AssistantState.statusText : AssistantState → String
  | .reviewingFindings => "Reviewing findings..."
  | .searching => "Searching..."
  | .processing => "Processing..."
  | .summarizingFindings => "Summarizing findings..."

def directMessageLoadingMaxDots : Nat := 6

def AssistantState.loadingText (state : AssistantState) (loadingTick : Nat) : String :=
  let stem := (state.statusText.toList.reverse.dropWhile (· == '.')).reverse
  String.ofList (stem ++ List.replicate (loadingTick % directMessageLoadingMaxDots + 1) '.')

def assistantStateForTool (tool : String) : Option AssistantState :=
  if tool = "channel_get_thread_context" ∨ tool = "channel_get_recent_messages" then some .searching
  else if tool = "channel_get_delivery_status" then some .processing
  else if tool = "channel_reply_to_event" ∨ tool = "channel_send_message" then some .summarizingFindings
  else none

def assistantStateForAgentPhase (phase : Option String) : Option AssistantState :=
  if phase = some "commentary" then some .processing
  else if phase = some "final_answer" then some .summarizingFindings
  else none

/-! ## 状態 -/

inductive SlackDirectMessageFeedbackMode where
  | message
  | assistantStatus
deriving DecidableEq, Repr

inductive SlackCodexStreamTargetKind where
  | directMessageUpdate
  | threadStream (threadTs : String)
deriving DecidableEq, Repr

structure SlackCodexStreamTarget where
  channelId : String
  kind : SlackCodexStreamTargetKind
deriving DecidableEq, Repr

/-- `loadingCancel` は、表示を動かす処理の番号。 -/
structure ActiveSlackCodexStream where
  target : SlackCodexStreamTarget
  messageTs : Option String
  finalText : String
  lastUpdateLen : Nat
  assistantState : AssistantState
  loadingTick : Nat
  loadingCancel : Option Nat
  failed : Bool
deriving DecidableEq, Repr

structure MessageUpdate where
  channelId : String
  messageTs : String
  text : String
deriving DecidableEq, Repr

/-- 表示を動かす処理の段階。刻みを待つ、取り消しを確かめた後、要求の途中、終わり。 -/
inductive LoadingPhase where
  | waiting
  | checked
  | sending (text : String)
  | ended
deriving DecidableEq, Repr

structure LoadingLoop where
  channelId : String
  messageTs : String
  cancelled : Bool
  phase : LoadingPhase
deriving DecidableEq, Repr

/-- 届いた書き換え。`acknowledged` は、道具による返信として成功を答えたか。 -/
structure MessageWrite where
  update : MessageUpdate
  acknowledged : Bool
deriving DecidableEq, Repr

/-- `updates` は、まだ届いていない表示の書き換え。`log` は履歴で、本体は読まない。 -/
structure SlackCodexStreams where
  active : Option ActiveSlackCodexStream
  loops : List LoadingLoop
  updates : List MessageUpdate
  log : List MessageWrite
deriving DecidableEq, Repr

structure SlackCodexStreamController where
  hasClient : Bool
  directUpdateMinChars : Nat
  directMessageFeedback : SlackDirectMessageFeedbackMode

inductive UpdateAnswer where
  | ok
  | failed (landed : Bool)
deriving DecidableEq, Repr

def UpdateAnswer.landed : UpdateAnswer → Bool
  | .ok => true
  | .failed landed => landed

namespace SlackCodexStreams

def record (update : MessageUpdate) (landed acknowledged : Bool) (s : SlackCodexStreams) : SlackCodexStreams :=
  if landed then { s with log := s.log ++ [⟨update, acknowledged⟩] } else s

def cancelLoop (loop : Option Nat) (s : SlackCodexStreams) : SlackCodexStreams :=
  match loop with
  | none => s
  | some n => { s with loops := s.loops.modify n fun l => { l with cancelled := true } }

end SlackCodexStreams

open SlackCodexStreams

namespace SlackCodexStreamController

def showsLoading (active : ActiveSlackCodexStream) : Bool :=
  !active.failed && active.target.kind == .directMessageUpdate && active.finalText.isEmpty

def updateDirectMessageLoadingState (c : SlackCodexStreamController) (state : AssistantState) (s : SlackCodexStreams) :
    SlackCodexStreams :=
  match s.active with
  | none => s
  | some active =>
    if !showsLoading active then s
    else
      let shown := { active with
        assistantState := state
        loadingTick := 0 }
      match active.messageTs, c.hasClient with
      | some messageTs, true => { s with
          active := some shown
          updates := s.updates ++ [⟨active.target.channelId, messageTs, state.loadingText 0⟩] }
      | _, _ => { s with active := some shown }

def updateForTool (c : SlackCodexStreamController) (tool : String) (s : SlackCodexStreams) : SlackCodexStreams :=
  match assistantStateForTool tool with
  | none => s
  | some state => c.updateDirectMessageLoadingState state s

def updateForAgentPhase (c : SlackCodexStreamController) (phase : Option String) (s : SlackCodexStreams) :
    SlackCodexStreams :=
  match assistantStateForAgentPhase phase with
  | none => s
  | some state => c.updateDirectMessageLoadingState state s

/-! ## 途中の答え -/

def shouldFlushDirectMessageUpdate (currentLen lastUpdateLen minContentChars : Nat) : Bool :=
  max minContentChars 1 ≤ currentLen - lastUpdateLen

/-- 途中の答えへの答え。`opened` は、新しく作ったメッセージの時刻である。 -/
structure DeltaAnswer where
  update : UpdateAnswer
  opened : Option String

def flushDelta (c : SlackCodexStreamController) (active : ActiveSlackCodexStream) (messageTs : String)
    (answer : UpdateAnswer) (s : SlackCodexStreams) : SlackCodexStreams :=
  let update : MessageUpdate := ⟨active.target.channelId, messageTs, active.finalText⟩
  match active.target.kind with
  | .directMessageUpdate =>
    if shouldFlushDirectMessageUpdate (byteLen active.finalText) active.lastUpdateLen c.directUpdateMinChars then
      match answer with
      | .ok => record update true false
          { s with active := some { active with lastUpdateLen := byteLen active.finalText } }
      | .failed landed => record update landed false { s with active := some { active with failed := true } }
    else { s with active := some active }
  | .threadStream _ =>
    match answer with
    | .ok => record update true false { s with active := some active }
    | .failed landed => record update landed false { s with active := some { active with failed := true } }

def openMessage (active : ActiveSlackCodexStream) (delta : String) (opened : Option String) (s : SlackCodexStreams) :
    SlackCodexStreams :=
  match opened with
  | some messageTs => record ⟨active.target.channelId, messageTs, delta⟩ true false
      { s with active := some { active with messageTs := some messageTs } }
  | none => { s with active := some { active with failed := true } }

def appendFinalDelta (c : SlackCodexStreamController) (delta : String) (answer : DeltaAnswer) (s : SlackCodexStreams) :
    SlackCodexStreams :=
  if delta.isEmpty || !c.hasClient then s
  else
    match s.active with
    | none => s
    | some active =>
      if active.failed then s
      else
        let cancelled := cancelLoop active.loadingCancel s
        let grown := { active with
          loadingCancel := none
          finalText := active.finalText ++ delta }
        match active.messageTs with
        | some messageTs => c.flushDelta grown messageTs answer.update cancelled
        | none => openMessage grown delta answer.opened cancelled

def settle (active : ActiveSlackCodexStream) (messageTs text : String) (acknowledges : Bool) (answer : UpdateAnswer)
    (s : SlackCodexStreams) : Bool × SlackCodexStreams :=
  let cancelled := cancelLoop active.loadingCancel s
  let settled := { active with
    loadingCancel := none
    finalText := text }
  let update : MessageUpdate := ⟨active.target.channelId, messageTs, text⟩
  match answer with
  | .ok => (true, record update true acknowledges { cancelled with active := some settled })
  | .failed landed =>
    (false, record update landed false { cancelled with active := some { settled with failed := true } })

def finishFinalAnswer (c : SlackCodexStreamController) (finalAnswer : String) (answer : UpdateAnswer)
    (s : SlackCodexStreams) : Bool × SlackCodexStreams :=
  match s.active with
  | none => (false, s)
  | some active =>
    match active.messageTs with
    | none => (false, s)
    | some messageTs =>
      if !c.hasClient || active.failed then (false, s)
      else settle active messageTs (if (trim finalAnswer).isEmpty then active.finalText else finalAnswer) false answer s

def finishActiveDirectMessageReply (c : SlackCodexStreamController) (finalAnswer : String) (answer : UpdateAnswer)
    (s : SlackCodexStreams) : Bool × SlackCodexStreams :=
  match s.active with
  | none => (false, s)
  | some active =>
    match active.messageTs with
    | none => (false, s)
    | some messageTs =>
      if !c.hasClient || active.failed || active.target.kind != .directMessageUpdate then (false, s)
      else settle active messageTs finalAnswer true answer s

def landUpdate (n : Nat) (landed : Bool) (s : SlackCodexStreams) : SlackCodexStreams :=
  match s.updates[n]? with
  | none => s
  | some update => record update landed false { s with updates := s.updates.eraseIdx n }

def setPhase (n : Nat) (phase : LoadingPhase) (s : SlackCodexStreams) : SlackCodexStreams :=
  { s with loops := s.loops.modify n fun l => { l with phase := phase } }

def checkLoop (n : Nat) (s : SlackCodexStreams) : SlackCodexStreams :=
  match s.loops[n]? with
  | some ⟨_, _, cancelled, .waiting⟩ => setPhase n (if cancelled then .ended else .checked) s
  | _ => s

def readLoop (n : Nat) (s : SlackCodexStreams) : SlackCodexStreams :=
  match s.loops[n]? with
  | some ⟨_, _, _, .checked⟩ =>
    match s.active with
    | none => setPhase n .ended s
    | some active =>
      if showsLoading active then
        setPhase n (.sending (active.assistantState.loadingText (active.loadingTick + 1)))
          { s with active := some { active with loadingTick := active.loadingTick + 1 } }
      else setPhase n .ended s
  | _ => s

def landLoop (n : Nat) (answer : UpdateAnswer) (s : SlackCodexStreams) : SlackCodexStreams :=
  match s.loops[n]? with
  | some ⟨channelId, messageTs, _, .sending text⟩ =>
    record ⟨channelId, messageTs, text⟩ answer.landed false
      (setPhase n (if answer = .ok then .waiting else .ended) s)
  | _ => s

end SlackCodexStreamController

/-!
## 一回の発話の間の出来事

`FeedbackAgentBackend::run` の間に起こること。エージェントの発話、道具の呼び出し、最後の結果と、その間に別に進む処理の一歩が、
任意の順に並ぶ。
-/

open SlackCodexStreamController

inductive TurnEvent where
  | agentMessageStarted (phase : Option String)
  | agentMessageDelta (phase : Option String) (delta : String) (answer : DeltaAnswer)
  | toolCall (tool : String)
  /-- `channel_reply_to_event` の呼び出し。 -/
  | reply (text : String) (answer : UpdateAnswer)
  | result (content : String) (answer : UpdateAnswer)
  | updateLands (n : Nat) (landed : Bool)
  | loopChecks (n : Nat)
  | loopReads (n : Nat)
  | loopLands (n : Nat) (answer : UpdateAnswer)

namespace SlackCodexStreamController

/-- `SlackCodexStreamObserver::observe_codex_turn_event` の、断片を受けたとき。 -/
def observeDelta (c : SlackCodexStreamController) (phase : Option String) (delta : String) (answer : DeltaAnswer)
    (s : SlackCodexStreams) : SlackCodexStreams :=
  let shown := c.updateForAgentPhase phase s
  if phase = some "final_answer" then c.appendFinalDelta delta answer shown else shown

def replyInline (c : SlackCodexStreamController) (text : String) (answer : UpdateAnswer) (s : SlackCodexStreams) :
    Bool × SlackCodexStreams :=
  let shown := c.updateForTool "channel_reply_to_event" s
  if text.isEmpty then (false, shown) else c.finishActiveDirectMessageReply text answer shown

def runEvent (c : SlackCodexStreamController) (s : SlackCodexStreams) : TurnEvent → SlackCodexStreams
  | .agentMessageStarted phase => c.updateForAgentPhase phase s
  | .agentMessageDelta phase delta answer => c.observeDelta phase delta answer s
  | .toolCall tool => c.updateForTool tool s
  | .reply text answer => (c.replyInline text answer s).2
  | .result content answer => (c.finishFinalAnswer content answer s).2
  | .updateLands n landed => landUpdate n landed s
  | .loopChecks n => checkLoop n s
  | .loopReads n => readLoop n s
  | .loopLands n answer => landLoop n answer s

def runTurn (c : SlackCodexStreamController) (s : SlackCodexStreams) (events : List TurnEvent) : SlackCodexStreams :=
  events.foldl c.runEvent s

end SlackCodexStreamController

end Codeoff.Serve
