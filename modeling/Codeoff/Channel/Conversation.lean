import Codeoff.Channel.Store
import Codeoff.Runtime.ScheduleResolution

/-!
# 出来事の会話

出来事と保存した参照から、会話の鍵、表示の宛先、文脈を取る宛先を決める。
-/

namespace Codeoff.Channel

open Codeoff.Agent (ConversationKind FeedbackTarget)

def isDispatchableSlackEvent : ChannelEventKind → Bool
  | .messageReceived => true
  | .mentionReceived => true
  | .directMessageReceived => true
  | _ => false

def sourceChannelId (event : ChannelEvent) : Option String :=
  match event.replyTarget with
  | some (.channel channelId) => some channelId
  | some (.thread channelId _) => some channelId
  | _ => none

def sourceThreadId (event : ChannelEvent) : Option String :=
  match event.replyTarget with
  | some (.thread _ threadId) => some threadId
  | _ => none

def contextChannelId (event : ChannelEvent) (source : SlackSourceReferences) : Option String :=
  source.channelId.or (sourceChannelId event)

def contextThreadId (event : ChannelEvent) (source : SlackSourceReferences) : Option String :=
  source.threadId.or (sourceThreadId event)

def channelConversationKey (event : ChannelEvent) (source : SlackSourceReferences) :
    Option (String × ChannelConversationKey) :=
  if event.provider ≠ "slack" then none
  else
    match contextChannelId event source with
    | none => none
    | some channelId =>
      match (if event.kind = .directMessageReceived then source.userId else none), contextThreadId event source with
      | some userId, _ => some ("slack:" ++ event.workspaceId ++ ":dm:" ++ channelId ++ ":" ++ userId,
          ⟨event.provider, event.workspaceId, "dm", some channelId, none, some userId⟩)
      | none, some threadId => some ("slack:" ++ event.workspaceId ++ ":thread:" ++ channelId ++ ":" ++ threadId,
          ⟨event.provider, event.workspaceId, "thread", some channelId, some threadId, none⟩)
      | none, none => some ("slack:" ++ event.workspaceId ++ ":channel:" ++ channelId,
          ⟨event.provider, event.workspaceId, "channel", some channelId, none, none⟩)

def fallbackConversationKey (event : ChannelEvent) : String × ChannelConversationKey :=
  (event.provider ++ ":" ++ event.workspaceId ++ ":" ++ event.dedupeKey,
    ⟨event.provider, event.workspaceId, "channel", sourceChannelId event, none, none⟩)

def dispatchConversation (event : ChannelEvent) (source : SlackSourceReferences) : String × ChannelConversationKey :=
  (channelConversationKey event source).getD (fallbackConversationKey event)

def conversationKindOf (key : ChannelConversationKey) : ConversationKind :=
  if key.conversationKind = "dm" then .directMessage
  else if key.conversationKind = "thread" then .thread
  else .channel

/-- `build_slack_agent_task` の `feedback_target`。 -/
def feedbackTarget (event : ChannelEvent) (source : SlackSourceReferences) : Option FeedbackTarget :=
  (contextChannelId event source).map fun channelId =>
    .channel (conversationKindOf (dispatchConversation event source).2) channelId (contextThreadId event source)
      source.messageTs

/-- `bootstrap_slack_context` が文脈を取る宛先。 -/
def bootstrapTarget (event : ChannelEvent) (source : SlackSourceReferences) : Option ChannelReplyTarget :=
  match contextChannelId event source with
  | none => none
  | some channelId =>
    match (if event.kind = .directMessageReceived then none else contextThreadId event source) with
    | some threadId => some (.thread channelId threadId)
    | none => some (.channel channelId)

/-- `ChannelContextRequest::new` の検査。 -/
def validContextRequest (event : ChannelEvent) (target : ChannelReplyTarget) (limit : Nat) : Bool :=
  (requireNonEmpty event.connectorId "connector_id").isOk && (requireNonEmpty event.workspaceId "workspace_id").isOk
    && target.validate.isOk && limit ≠ 0

end Codeoff.Channel
