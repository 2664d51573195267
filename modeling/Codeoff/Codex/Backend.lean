import Codeoff.Codex.AppServer
import Codeoff.State.Authority

/-!
# 会話の発話を頼む

作業を検査し、文面を組み立てて、App Server に頼む。文面に必ず入る部分が上限を越えれば断り、ほかの部分は、入る分だけを添える。
-/

namespace Codeoff.Codex

open Codeoff.Agent Codeoff.Control Codeoff.Core Codeoff.Json Codeoff.State

def truncationMarker : String := "\n[truncated]"

def truncateUtf8WithMarker (content : String) (maxBytes : Nat) : String × Bool :=
  if byteLen content ≤ maxBytes then (content, false)
  else if maxBytes < byteLen truncationMarker then ("", true)
  else (boundedUtf8 content (maxBytes - byteLen truncationMarker) ++ truncationMarker, true)

def appendBoundedSection (maxBytes : Nat) (prompt : String) (entry : String × String) : String :=
  let heading := "\n\n" ++ entry.1 ++ ":\n"
  let available := maxBytes - byteLen prompt
  if available ≤ byteLen heading then prompt
  else prompt ++ heading ++ (truncateUtf8WithMarker entry.2 (available - byteLen heading)).1

/-! ## 会話と由来 -/

def conversationKindText : ConversationKind → String
  | .channel => "Channel"
  | .thread => "Thread"
  | .directMessage => "DirectMessage"

def replyInstruction : ChannelReplyStrategy → String
  | .finalAnswer =>
    "For direct messages, return the reply as your final answer; Codeoff will deliver it to the channel."
  | .dynamicTool => "If a reply is needed, call the channel_reply_to_event dynamic tool."

def answerQualityContract : String :=
  "\n\nAnswer Quality Contract:\n- Classify the incoming message as standalone or context-dependent before answering."
    ++ "\n- context-dependent indicators include follow-ups, pronouns, omitted subjects, references such as "
    ++ "this/that/above/previous, and requests to inspect code, files, links, screenshots, or implementation details."
    ++ "\n- If the message is context-dependent, use the available channel context or tools before answering."
    ++ "\n- Prefer exact source message data, then thread or direct-message history, then the conversation summary."
    ++ "\n- Use channel_get_message to inspect the exact source message when text, blocks, attachments, or file "
    ++ "references matter."
    ++ "\n- Use channel_get_thread_context or channel_get_recent_messages when the recent context is insufficient or "
    ++ "has a next_cursor."
    ++ "\n- Use channel_get_resource_info first for files, channel_read_resource_text for text-like files, and "
    ++ "channel_download_resource only when a local artifact is necessary."
    ++ "\n- Do not ask the user to resend channel context before trying the available channel tools."
    ++ "\n- If context remains incomplete after tool use, state the missing context and answer from explicit "
    ++ "assumptions."

def sourceReferences (channel : ChannelTaskContext) : String :=
  "\n\nSource references:\n- provider: " ++ channel.provider ++ "\n- workspace_id: " ++ channel.workspaceId
    ++ "\n- conversation_key: " ++ channel.conversationKey
    ++ "\n- conversation_kind: " ++ conversationKindText channel.conversationKind
    ++ "\n- channel_id: " ++ channel.channelId.getD "none" ++ "\n- thread_id: " ++ channel.threadId.getD "none"
    ++ "\n- message_ts: " ++ channel.messageTs.getD "none" ++ "\n- user_id: " ++ channel.userId.getD "none"

def channelPrompt (channel : ChannelTaskContext) : String :=
  "\n\nYou are handling a live channel event through Codeoff.\n" ++ replyInstruction channel.replyStrategy
    ++ answerQualityContract ++ sourceReferences channel

def channelSections (channel : ChannelTaskContext) : List (String × String) :=
  (channel.messageText.map fun text => ("Incoming channel message text", text)).toList
    ++ (channel.recentContext.map fun context => ("Recent channel conversation context", context)).toList
    ++ (channel.conversationSummary.map fun summary => ("Conversation summary", summary)).toList

def invocationSourceText : InvocationSource → String
  | .channelEvent _ _ eventId dedupeKey sourceReference =>
    "\n- event_id: " ++ eventId ++ "\n- dedupe_key: " ++ dedupeKey
      ++ "\n- source_reference: " ++ sourceReference.getD "none"
  | .scheduledRun jobId runId scheduledFor =>
    "\n\nExecution context: independent scheduled run. This run has no live channel and must return a non-empty "
      ++ "final result.\n- job_id: " ++ jobId ++ "\n- run_id: " ++ runId ++ "\n- scheduled_for: " ++ scheduledFor
  | .trustedOperator requestId => "\n\nExecution source: trusted operator request " ++ requestId ++ "."
  | .internalService service requestId =>
    "\n\nExecution source: internal service " ++ service ++ ", request " ++ requestId ++ "."

def toolPolicyText : ToolPolicy → String
  | .none => "\n\nAllowed Codeoff dynamic tools: none."
  | .namedSet names => "\n\nAllowed Codeoff dynamic tools: " ++ ", ".intercalate names ++ "."

def requiredPrompt (task : AgentTask) : String :=
  "You are executing a bounded task through Codeoff.\nReturn a concise final result or use only the dynamic tools "
    ++ "allowed for this task.\n\nObjective: " ++ task.instruction ++ toolPolicyText task.toolPolicy
    ++ (task.channel.map channelPrompt).getD "" ++ invocationSourceText task.source

def previousSuccessSection (maxBytes : Nat) (previous : PreviousSuccessContext) : String × String :=
  let source :=
    if previous.wasTruncated ∧ !truncationMarker.toList.isSuffixOf previous.content.toList then
      previous.content ++ truncationMarker
    else previous.content
  let truncated := truncateUtf8WithMarker source maxBytes
  if previous.wasTruncated || truncated.2 then ("Previous successful result (bounded snapshot)", truncated.1)
  else ("Previous successful result", truncated.1)

def renderPrompt (task : AgentTask) (maxPromptBytes previousSuccessContextMaxBytes : Nat) : Except String String :=
  if trim task.instruction = "" then .error "agent task instruction must not be empty"
  else if maxPromptBytes < byteLen (requiredPrompt task) then
    .error "codex prompt required content exceeds max_prompt_bytes"
  else
    .ok ((((task.channel.map channelSections).getD []
      ++ (task.previousSuccess.map (previousSuccessSection previousSuccessContextMaxBytes)).toList).foldl
        (appendBoundedSection maxPromptBytes) (requiredPrompt task)))

/-- `CodexAppServerBackend`。文面の長さの上限を持つ。 -/
structure CodexAppServerBackend where
  maxPromptBytes : Nat
  previousSuccessContextMaxBytes : Nat

namespace CodexAppServerBackend

def request (backend : CodexAppServerBackend) (task : AgentTask) : Except String CodexAppServerRequest := do
  task.validate
  let prompt ← renderPrompt task backend.maxPromptBytes backend.previousSuccessContextMaxBytes
  return {
    conversationId := (task.channel.map ChannelTaskContext.conversationKey).getD task.taskId
    resumeThreadId :=
      match task.session with
      | .fresh => none
      | .resume threadId => some threadId
    prompt := prompt
    toolPolicy := task.toolPolicy
    dynamicToolContext := ⟨task.source, task.principal, task.channel⟩ }

def run (env : AppServerEnv) (backend : CodexAppServerBackend) (task : AgentTask) : Talk AgentTaskResult :=
  match backend.request task with
  | .error error => throw error
  | .ok request => startJsonlTurn env request

end CodexAppServerBackend

end Codeoff.Codex
