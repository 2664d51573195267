import Codeoff.Channel.Conversation
import Codeoff.Channel.ReplyToEvent
import Codeoff.Serve.CodexStream

/-!
# 一つの作業の列が出来事を捌く

一つの出来事ごとに、文脈を取り、発話を始め、終える。直接メッセージの表示は、文脈を取るときにも発話を始めるときにも出され、発
話の終わりに片付けられる。
-/

namespace Codeoff.Serve

open Codeoff.Channel Codeoff.Json
open Codeoff.Agent (FeedbackTarget)
open SlackCodexStreams

inductive SlackResponseFeedbackMode where
  | off
  | adaptive
  | assistantStatus
  | streamMessage
deriving DecidableEq, Repr

def slackCodexStreamTarget (c : SlackCodexStreamController) (mode : SlackResponseFeedbackMode)
    (feedback : Option FeedbackTarget) : Option SlackCodexStreamTarget :=
  if mode = .off ∨ mode = .assistantStatus then none
  else
    match feedback with
    | none => none
    | some (.channel conversationKind channelId threadId messageTs) =>
      if conversationKind ≠ .directMessage then none
      else if c.directMessageFeedback = .assistantStatus then none
      else
        match threadId, messageTs with
        | some threadTs, some messageTs =>
          if threadTs ≠ messageTs then some ⟨channelId, .threadStream threadTs⟩
          else some ⟨channelId, .directMessageUpdate⟩
        | _, _ => some ⟨channelId, .directMessageUpdate⟩

def newStream (target : SlackCodexStreamTarget) (state : AssistantState) : ActiveSlackCodexStream where
  target := target
  messageTs := none
  finalText := ""
  lastUpdateLen := 0
  assistantState := state
  loadingTick := 0
  loadingCancel := none
  failed := false

namespace SlackCodexStreamController

/-- `posted` は、投稿したメッセージの時刻。投稿に失敗すれば `none`。 -/
def openPlaceholder (c : SlackCodexStreamController) (channelId : String) (state : AssistantState)
    (posted : Option String) (s : SlackCodexStreams) : SlackCodexStreams :=
  let active := newStream ⟨channelId, .directMessageUpdate⟩ state
  if !c.hasClient then { s with active := some active }
  else
    match posted with
    | none => { s with active := some { active with failed := true } }
    | some messageTs => { s with
        active := some { active with
          messageTs := some messageTs
          loadingCancel := some s.loops.length }
        loops := s.loops ++ [⟨channelId, messageTs, false, .waiting⟩] }

def reuseExistingDirectMessageLoading (target : SlackCodexStreamTarget) (s : SlackCodexStreams) : Bool :=
  target.kind == .directMessageUpdate &&
    match s.active with
    | none => false
    | some active => active.target.channelId == target.channelId && active.target.kind == .directMessageUpdate
        && active.messageTs.isSome && !active.failed

def ensureDirectMessageLoading (c : SlackCodexStreamController) (channelId : String) (state : AssistantState)
    (posted : Option String) (s : SlackCodexStreams) : SlackCodexStreams :=
  if c.directMessageFeedback ≠ .message then s
  else if reuseExistingDirectMessageLoading ⟨channelId, .directMessageUpdate⟩ s then
    c.updateDirectMessageLoadingState state s
  else c.openPlaceholder channelId state posted s

def start (c : SlackCodexStreamController) (target : SlackCodexStreamTarget) (posted : Option String)
    (s : SlackCodexStreams) : SlackCodexStreams :=
  if reuseExistingDirectMessageLoading target s then c.updateDirectMessageLoadingState .reviewingFindings s
  else
    match target.kind with
    | .directMessageUpdate => c.openPlaceholder target.channelId .reviewingFindings posted s
    | .threadStream _ => { s with active := some (newStream target .reviewingFindings) }

/-- `SlackCodexStreamGuard` の片付け。 -/
def dropGuard (s : SlackCodexStreams) : SlackCodexStreams :=
  match s.active with
  | none => s
  | some active => cancelLoop active.loadingCancel { s with active := none }

end SlackCodexStreamController

open SlackCodexStreamController

inductive DetachedStep where
  | updateLands (n : Nat) (landed : Bool)
  | loopChecks (n : Nat)
  | loopReads (n : Nat)
  | loopLands (n : Nat) (answer : UpdateAnswer)

def DetachedStep.toTurn : DetachedStep → TurnEvent
  | .updateLands n landed => .updateLands n landed
  | .loopChecks n => .loopChecks n
  | .loopReads n => .loopReads n
  | .loopLands n answer => .loopLands n answer

inductive WorkerEvent where
  /-- `ServeDispatchContextProvider::fetch_context`。 -/
  | contextFetched (target : ChannelReplyTarget) (posted : Option String)
  | turnStarted (target : SlackCodexStreamTarget) (posted : Option String)
  | during (event : TurnEvent)
  | turnEnded

def directMessageChannel : ChannelReplyTarget → Option String
  | .channel channelId => if isSlackDirectMessageChannel channelId then some channelId else none
  | .thread channelId _ => if isSlackDirectMessageChannel channelId then some channelId else none
  | _ => none

namespace SlackCodexStreamController

def runWorker (c : SlackCodexStreamController) (s : SlackCodexStreams) : WorkerEvent → SlackCodexStreams
  | .contextFetched target posted =>
    match directMessageChannel target with
    | some channelId => c.ensureDirectMessageLoading channelId .searching posted s
    | none => s
  | .turnStarted target posted => c.start target posted s
  | .during event => c.runEvent s event
  | .turnEnded => dropGuard s

end SlackCodexStreamController

/-- 一つの出来事がどう終わるか。`draft` は、下書きの結果と、それを書いたときの Slack の答え。 -/
inductive DispatchOutcome where
  /-- 文脈を取る前に終わる。取る出来事がない、捌かない種類である、錠が取れない、保存領域が失敗する。 -/
  | endsEarly
  /-- 文脈を取った後に、保存領域が失敗する。 -/
  | storageError
  /-- `AgentTask::validate` が断る。 -/
  | invalidTask
  | turn (posted : Option String) (events : List TurnEvent) (draft : Option (String × UpdateAnswer))

/-- 一回の `run_channel_dispatch_tick`。`before` は前の回からの間に、`waiting` は文脈を取ってから発話までの間に進む一歩。 -/
structure Dispatch where
  event : ChannelEvent
  source : SlackSourceReferences
  before : List DetachedStep
  posted : Option String
  waiting : List DetachedStep
  outcome : DispatchOutcome

structure ServeFeedbackConfig where
  mode : SlackResponseFeedbackMode
  contextLimit : Nat

def Dispatch.contextTarget (d : Dispatch) (config : ServeFeedbackConfig) : Option ChannelReplyTarget :=
  (bootstrapTarget d.event d.source).filter fun target => validContextRequest d.event target config.contextLimit

def detached (steps : List DetachedStep) : List WorkerEvent := steps.map fun step => .during step.toTurn

def Dispatch.fetch (d : Dispatch) (config : ServeFeedbackConfig) : List WorkerEvent :=
  ((d.contextTarget config).map fun target => WorkerEvent.contextFetched target d.posted).toList ++ detached d.waiting

/-- エージェントの発話。`observe_codex_turn_event` が受ける。 -/
def isAgentMessage : TurnEvent → Bool
  | .agentMessageStarted _ => true
  | .agentMessageDelta .. => true
  | _ => false

/-- `FeedbackAgentBackend::run`。表示の宛先がなければ、始めも片付けもせず、エージェントの発話は観測されない。 -/
def turnEvents (target : Option SlackCodexStreamTarget) (posted : Option String) (events : List TurnEvent)
    (draft : Option (String × UpdateAnswer)) : List WorkerEvent :=
  match target with
  | none => (events.filter fun event => !isAgentMessage event).map .during
  | some target => .turnStarted target posted ::
      (events ++ (draft.map fun d => TurnEvent.result d.1 d.2).toList).map .during ++ [.turnEnded]

def Dispatch.streamTarget (d : Dispatch) (c : SlackCodexStreamController) (config : ServeFeedbackConfig) :
    Option SlackCodexStreamTarget :=
  slackCodexStreamTarget c config.mode (feedbackTarget d.event d.source)

def Dispatch.events (c : SlackCodexStreamController) (config : ServeFeedbackConfig) (d : Dispatch) : List WorkerEvent :=
  detached d.before ++
    match d.outcome with
    | .endsEarly => []
    | .storageError => d.fetch config
    | .invalidTask => d.fetch config
    | .turn posted events draft => d.fetch config ++ turnEvents (d.streamTarget c config) posted events draft

def dispatchAll (c : SlackCodexStreamController) (config : ServeFeedbackConfig) (ds : List Dispatch) : List WorkerEvent :=
  ds.flatMap (Dispatch.events c config)

def SlackCodexStreams.idle : SlackCodexStreams := ⟨none, [], [], []⟩

/-!
## 常駐時の道具の呼び出し

`ServeCodexDynamicToolHandler` は、返信の道具に近道を持つ。直接メッセージの表示が出ていれば、返信をその場に書き、待ち行列を
通らない。
-/

structure ServeToolState where
  streams : SlackCodexStreams
  channels : ChannelStore

/-- `inner` は、返信のほかの道具（予定の道具を含む）。 -/
structure ServeCodexDynamicToolHandler where
  slackStreams : SlackCodexStreamController
  inner : String → Value → ServeToolState → DynamicToolAnswer × ServeToolState

/-- 近道の引数。待ち行列を通る返信より、調べる欄が少ない。 -/
def directMessageReplyToEventOverride (tool : String) (arguments : Value) : Option (String × String) :=
  if tool ≠ "channel_reply_to_event" then none
  else
    match stringField arguments "request_dedupe_key", stringField arguments "text" with
    | some requestDedupeKey, some text =>
      if requestDedupeKey.isEmpty || text.isEmpty then none else some (requestDedupeKey, text)
    | _, _ => none

def directMessageReplyToEventOverrideSuccess (requestDedupeKey : String) : DynamicToolAnswer :=
  dynamicToolSuccess (QueuedDelivery.toValue ⟨requestDedupeKey, false⟩)

namespace ServeCodexDynamicToolHandler

def handleInner (h : ServeCodexDynamicToolHandler) (env : ReplyToolEnv) (tool : String) (arguments : Value)
    (s : ServeToolState) : DynamicToolAnswer × ServeToolState :=
  if tool = "channel_reply_to_event" then
    ((handleReplyToEvent env arguments s.channels).1,
      { s with channels := (handleReplyToEvent env arguments s.channels).2 })
  else h.inner tool arguments s

/-- `answer` は、近道で書いたときの Slack の答え。 -/
def handleToolCall (h : ServeCodexDynamicToolHandler) (env : ReplyToolEnv) (answer : UpdateAnswer) (tool : String)
    (arguments : Value) (s : ServeToolState) : DynamicToolAnswer × ServeToolState :=
  let shown := { s with streams := h.slackStreams.updateForTool tool s.streams }
  match directMessageReplyToEventOverride tool arguments with
  | none => h.handleInner env tool arguments shown
  | some (requestDedupeKey, text) =>
    let inline := h.slackStreams.finishActiveDirectMessageReply text answer shown.streams
    if inline.1 then
      (directMessageReplyToEventOverrideSuccess requestDedupeKey, { shown with streams := inline.2 })
    else h.handleInner env tool arguments { shown with streams := inline.2 }

end ServeCodexDynamicToolHandler

end Codeoff.Serve
