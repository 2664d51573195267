import Codeoff.Core.Identity
import Codeoff.State.Theorems.AttestedCapability
import Codeoff.State.Theorems.Execution
import Codeoff.State.Theorems.OperatorRetry
import Codeoff.State.Theorems.RunHistory

/-!
# エージェントの作業

作業の由来、道具の方針、前回の成功の写し、そして作業の結果。
-/

namespace Codeoff.Agent

open Codeoff.Core

inductive InvocationSource where
  | channelEvent (provider workspaceId eventId dedupeKey : String) (sourceReference : Option String)
  | scheduledRun (jobId runId scheduledFor : String)
  | trustedOperator (requestId : String)
  | internalService (service requestId : String)
deriving DecidableEq, Repr

inductive InvocationPrincipal where
  | channelActor (provider workspaceId actorId : String)
  | service (service : String)
deriving DecidableEq, Repr

inductive SessionMode where
  | fresh
  | resume (threadId : String)
deriving DecidableEq, Repr

inductive ConversationKind where
  | channel
  | thread
  | directMessage
deriving DecidableEq, Repr

inductive ChannelReplyStrategy where
  | dynamicTool
  | finalAnswer
deriving DecidableEq, Repr

structure ChannelTaskContext where
  provider : String
  workspaceId : String
  conversationKey : String
  conversationKind : ConversationKind
  replyStrategy : ChannelReplyStrategy
  messageText : Option String
  channelId : Option String
  threadId : Option String
  messageTs : Option String
  userId : Option String
  recentContext : Option String
  conversationSummary : Option String
deriving DecidableEq, Repr

structure PreviousSuccessContext where
  content : String
  wasTruncated : Bool
deriving DecidableEq, Repr

inductive ToolPolicy where
  | none
  | namedSet (requested : List String)
deriving DecidableEq, Repr

inductive FeedbackTarget where
  | channel (conversationKind : ConversationKind) (channelId : String) (threadId messageTs : Option String)
deriving DecidableEq, Repr

structure AgentTask where
  taskId : String
  instruction : String
  source : InvocationSource
  principal : InvocationPrincipal
  session : SessionMode
  channel : Option ChannelTaskContext
  previousSuccess : Option PreviousSuccessContext
  toolPolicy : ToolPolicy
  feedbackTarget : Option FeedbackTarget
deriving DecidableEq, Repr

def AgentTask.validate (task : AgentTask) : Except String Unit :=
  match task.source with
  | .scheduledRun _ _ _ =>
    if task.session ≠ .fresh then .error "scheduled_run_requires_fresh_session"
    else if task.channel.isSome then .error "scheduled_run_disallows_channel_context"
    else if task.feedbackTarget.isSome then .error "scheduled_run_disallows_feedback_target"
    else .ok ()
  | _ => .ok ()

inductive AgentTaskResult where
  | draft (content : String) (codexThreadId : Option String)
  | acceptedDispatch (codexThreadId : Option String)
deriving DecidableEq, Repr

def AgentTaskResult.withCodexThreadId (threadId : String) : AgentTaskResult → AgentTaskResult
  | .draft content _ => .draft content (some threadId)
  | .acceptedDispatch _ => .acceptedDispatch (some threadId)

end Codeoff.Agent
