import Codeoff.Agent.Task
import Codeoff.Core.Identity

/-!
# チャネルの契約

どの提供元にも共通の、正規化された出来事と返信の宛先。
-/

namespace Codeoff.Channel

open Codeoff.Core

inductive ChannelContractError where
  | emptyField (field : String)
deriving DecidableEq, Repr

def ChannelContractError.message : ChannelContractError → String
  | .emptyField field => field ++ " must not be empty"

def requireNonEmpty (value field : String) : Except ChannelContractError Unit :=
  if (trim value).isEmpty then .error (.emptyField field) else .ok ()

inductive ChannelReplyTarget where
  | channel (channelId : String)
  | thread (channelId threadId : String)
  | directMessage (userAccountId : String)
  | ephemeral (channelId userAccountId : String)
deriving DecidableEq, Repr

def ChannelReplyTarget.validate : ChannelReplyTarget → Except ChannelContractError Unit
  | .channel channelId => requireNonEmpty channelId "channel_id"
  | .thread channelId threadId => do
    requireNonEmpty channelId "channel_id"
    requireNonEmpty threadId "thread_id"
  | .directMessage userAccountId => requireNonEmpty userAccountId "user_account_id"
  | .ephemeral channelId userAccountId => do
    requireNonEmpty channelId "channel_id"
    requireNonEmpty userAccountId "user_account_id"

inductive ChannelEventKind where
  | messageReceived
  | mentionReceived
  | directMessageReceived
  | slashCommandReceived
  | interactionReceived
  | reactionReceived
deriving DecidableEq, Repr

/-- `{:?}` の文面。 -/
def ChannelEventKind.debugName : ChannelEventKind → String
  | .messageReceived => "MessageReceived"
  | .mentionReceived => "MentionReceived"
  | .directMessageReceived => "DirectMessageReceived"
  | .slashCommandReceived => "SlashCommandReceived"
  | .interactionReceived => "InteractionReceived"
  | .reactionReceived => "ReactionReceived"

structure ChannelEvent where
  provider : String
  connectorId : String
  workspaceId : String
  eventId : String
  dedupeKey : String
  kind : ChannelEventKind
  text : Option String
  replyTarget : Option ChannelReplyTarget
  sourceReference : Option String
deriving DecidableEq, Repr

namespace ChannelEvent

def new (provider connectorId workspaceId eventId dedupeKey : String) (kind : ChannelEventKind) :
    Except ChannelContractError ChannelEvent := do
  requireNonEmpty provider "provider"
  requireNonEmpty connectorId "connector_id"
  requireNonEmpty workspaceId "workspace_id"
  requireNonEmpty eventId "event_id"
  requireNonEmpty dedupeKey "dedupe_key"
  return {
    provider
    connectorId
    workspaceId
    eventId
    dedupeKey
    kind
    text := none
    replyTarget := none
    sourceReference := none }

def maxTextChars : Nat := 4000

def boundedText (text : String) : Option String :=
  if text.isEmpty then none else some (String.ofList (text.toList.take maxTextChars))

def withText (text : Option String) (event : ChannelEvent) : ChannelEvent :=
  { event with text := text.bind boundedText }

def withSourceDetails (replyTarget : ChannelReplyTarget) (sourceReference : String) (event : ChannelEvent) :
    Except ChannelContractError ChannelEvent := do
  replyTarget.validate
  requireNonEmpty sourceReference "source_reference"
  return { event with
    replyTarget := some replyTarget
    sourceReference := some sourceReference }

end ChannelEvent

end Codeoff.Channel
