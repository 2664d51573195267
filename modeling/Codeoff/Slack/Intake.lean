import Codeoff.Channel.Store

/-!
# 受け取りの境界

封筒を正規化し、許された相手のものだけを保存して待ち行列に入れる。
-/

/-!
## Socket Mode の封筒の正規化

受け取った封筒を、出来事と、その Slack の参照に正規化する。読み取り（`serde_json`）は引数で、封筒の中身と、それを書き出した
文面を返す。中身の小数は、どの欄としても読まれないので、null として現れる。
-/

namespace Codeoff.Slack

open Codeoff.Core Codeoff.Json Codeoff.Channel Codeoff.Relational

structure SlackMentionFilter where
  userIds : List String

/-- `<@` で区切った部分。 -/
def splitMentions : List Char → List (List Char)
  | '<' :: '@' :: cs => [] :: splitMentions cs
  | c :: cs =>
    match splitMentions cs with
    | [] => [[c]]
    | part :: parts => (c :: part) :: parts
  | [] => [[]]

/-- 設定された利用者への `<@USERID>` の形の言及があるか。 -/
def SlackMentionFilter.matchesText (filter : SlackMentionFilter) (text : String) : Bool :=
  (splitMentions text.toList).tail.any fun mention =>
    mention.contains '>' && filter.userIds.contains (String.ofList (mention.takeWhile (· ≠ '>')))

structure SocketModeEnvelope where
  envelopeId : Option String
  envelopeType : String
  payload : Value
  /-- `payload` を書き出した文面。 -/
  payloadText : String

inductive SlackNormalizeError where
  | invalidEnvelope (source : String)
  | unsupportedPayload (payloadType : String)
  | missingField (payloadType field : String)
  | channelEvent (source : ChannelContractError)
deriving DecidableEq, Repr

structure NormalizedSlackEvent where
  event : ChannelEvent
  sourceEvent : SlackSourceEvent

abbrev Normalizes := Except SlackNormalizeError

def optionalString (value : Value) (field : String) : Option String := (value.get field).bind Value.asStr

def field (value : Value) (name payloadType : String) : Normalizes Value :=
  match value.get name with
  | some v => .ok v
  | none => .error (.missingField payloadType name)

def string (value : Value) (name payloadType : String) : Normalizes String :=
  match (optionalString value name).filter (!·.isEmpty) with
  | some s => .ok s
  | none => .error (.missingField payloadType name)

def nestedString (value : Value) (parent child payloadType : String) : Normalizes String := do
  string (← field value parent payloadType) child payloadType

def asArray : Value → Option (List Value)
  | .arr values => some values
  | _ => none

def dedupeKey (envelopeId eventId commandFallback interactionFallback : Option String) : Normalizes String :=
  match envelopeId.filter (!·.isEmpty) with
  | some value => .ok ("slack:envelope:" ++ value)
  | none =>
    match eventId.filter (!·.isEmpty) with
    | some value => .ok ("slack:event:" ++ value)
    | none =>
      match commandFallback with
      | some value => .ok ("slack:" ++ value)
      | none =>
        match interactionFallback with
        | some value => .ok ("slack:" ++ value)
        | none => .error (.missingField "socket_mode" "dedupe identifier")

def refuseIf (condition : Bool) (error : SlackNormalizeError) : Normalizes Unit :=
  if condition then .error error else .ok ()

def channelEvent {α : Type} : Except ChannelContractError α → Normalizes α
  | .ok a => .ok a
  | .error e => .error (.channelEvent e)

def eventUserMatchesAuthorizedUser (payload event : Value) : Bool :=
  match optionalString event "user" with
  | none => false
  | some eventUser =>
    ((payload.get "authorizations").bind asArray).any fun authorizations =>
      authorizations.any fun authorization => optionalString authorization "user_id" == some eventUser

def isIgnoredEventsApiEvent (payload event : Value) : Bool :=
  ((event.get "hidden").bind Value.asBool).getD false
    || (optionalString event "bot_id").isSome
    || (optionalString event "subtype").isSome
    || eventUserMatchesAuthorizedUser payload event

def normalizeMessageEvent (event : Value) (mentionFilter : Option SlackMentionFilter)
    (channelId userId threadTs : String) : ChannelEventKind × ChannelReplyTarget :=
  let isTargetMention := mentionFilter.any fun filter =>
    (optionalString event "text").any fun text => filter.matchesText text
  if isTargetMention then (.mentionReceived, .thread channelId threadTs)
  else if optionalString event "channel_type" = some "im" then (.directMessageReceived, .directMessage userId)
  else (.messageReceived, .thread channelId threadTs)

def classifyEvent (eventType : String) (event : Value) (mentionFilter : Option SlackMentionFilter)
    (channelId userId threadTs : String) : Normalizes (ChannelEventKind × ChannelReplyTarget) :=
  if eventType = "app_mention" then .ok (.mentionReceived, .thread channelId threadTs)
  else if eventType = "message" then .ok (normalizeMessageEvent event mentionFilter channelId userId threadTs)
  else .error (.unsupportedPayload ("events_api:" ++ eventType))

def normalizeEventApi (envelope : SocketModeEnvelope) (connectorId : String)
    (mentionFilter : Option SlackMentionFilter) : Normalizes NormalizedSlackEvent := do
  let payload := envelope.payload
  let event ← field payload "event" "events_api"
  let eventType ← string event "type" "events_api"
  let workspaceId ← string payload "team_id" "events_api"
  let eventId := optionalString payload "event_id"
  refuseIf (isIgnoredEventsApiEvent payload event) (.unsupportedPayload ("events_api:" ++ eventType))
  let channelId ← string event "channel" "events_api"
  let userId ← string event "user" "events_api"
  let messageTs ← string event "ts" "events_api"
  let threadTs := (optionalString event "thread_ts").getD messageTs
  let (kind, replyTarget) ← classifyEvent eventType event mentionFilter channelId userId threadTs
  let dedupe ← dedupeKey envelope.envelopeId eventId none none
  let created ← channelEvent (ChannelEvent.new "slack" connectorId workspaceId (eventId.getD messageTs) dedupe kind)
  let normalized ← channelEvent ((created.withText (optionalString event "text")).withSourceDetails replyTarget
    ("slack://" ++ workspaceId ++ "/" ++ channelId ++ "/" ++ messageTs))
  return {
    event := normalized
    sourceEvent := {
      workspaceId
      eventKind := eventType
      dedupeKey := dedupe
      envelopeId := envelope.envelopeId
      eventId
      channelId := some channelId
      threadTs := some threadTs
      messageTs := some messageTs
      userId := some userId
      rawPayloadJson := envelope.payloadText } }

/-! ## 命令と操作 -/

def normalizeSlashCommand (envelope : SocketModeEnvelope) (connectorId : String) : Normalizes NormalizedSlackEvent := do
  let payload := envelope.payload
  let workspaceId ← string payload "team_id" "slash_commands"
  let channelId ← string payload "channel_id" "slash_commands"
  let userId ← string payload "user_id" "slash_commands"
  let triggerId ← string payload "trigger_id" "slash_commands"
  let timestamp := (optionalString payload "trigger_ts").getD triggerId
  let fallback := "command:" ++ triggerId ++ ":" ++ workspaceId ++ ":" ++ channelId ++ ":" ++ userId ++ ":" ++ timestamp
  let dedupe ← dedupeKey envelope.envelopeId none (some fallback) none
  let created ← channelEvent (ChannelEvent.new "slack" connectorId workspaceId triggerId dedupe .slashCommandReceived)
  let normalized ← channelEvent (created.withSourceDetails (.ephemeral channelId userId)
    ("slack://" ++ workspaceId ++ "/" ++ channelId ++ "/" ++ timestamp))
  return {
    event := normalized
    sourceEvent := {
      workspaceId
      eventKind := "slash_command"
      dedupeKey := dedupe
      envelopeId := envelope.envelopeId
      eventId := none
      channelId := some channelId
      threadTs := none
      messageTs := some timestamp
      userId := some userId
      rawPayloadJson := envelope.payloadText } }

def firstAction (actions : Value) : Normalizes Value :=
  match (asArray actions).bind List.head? with
  | some action => .ok action
  | none => .error (.missingField "interactive" "actions[0]")

def normalizeInteraction (envelope : SocketModeEnvelope) (connectorId : String) : Normalizes NormalizedSlackEvent := do
  let payload := envelope.payload
  let workspaceId ← nestedString payload "team" "id" "interactive"
  let channelId ← nestedString payload "channel" "id" "interactive"
  let userId ← nestedString payload "user" "id" "interactive"
  let action ← firstAction (← field payload "actions" "interactive")
  let actionId ← string action "action_id" "interactive"
  let messageTs ← nestedString payload "message" "ts" "interactive"
  let callbackId := optionalString payload "callback_id"
  let fallback := "interaction:" ++ actionId ++ ":" ++ callbackId.getD messageTs
  let dedupe ← dedupeKey envelope.envelopeId none none (some fallback)
  let created ← channelEvent (ChannelEvent.new "slack" connectorId workspaceId messageTs dedupe .interactionReceived)
  let normalized ← channelEvent (created.withSourceDetails (.thread channelId messageTs)
    ("slack://" ++ workspaceId ++ "/" ++ channelId ++ "/" ++ messageTs))
  return {
    event := normalized
    sourceEvent := {
      workspaceId
      eventKind := "interaction"
      dedupeKey := dedupe
      envelopeId := envelope.envelopeId
      eventId := callbackId
      channelId := some channelId
      threadTs := some messageTs
      messageTs := some messageTs
      userId := some userId
      rawPayloadJson := envelope.payloadText } }

/-- `normalize_socket_mode_envelope_with_mention_filter` の、封筒を読んだ後。 -/
def normalizeEnvelope (envelope : SocketModeEnvelope) (connectorId : String)
    (mentionFilter : Option SlackMentionFilter) : Normalizes NormalizedSlackEvent :=
  if envelope.envelopeType = "events_api" then normalizeEventApi envelope connectorId mentionFilter
  else if envelope.envelopeType = "slash_commands" then normalizeSlashCommand envelope connectorId
  else if envelope.envelopeType = "interactive" then normalizeInteraction envelope connectorId
  else .error (.unsupportedPayload envelope.envelopeType)

inductive SlackIntakeError where
  | normalize (source : SlackNormalizeError)
  | state (source : Violation)
deriving DecidableEq, Repr

inductive SlackIntakeResult where
  | queued
  | duplicate
  | ignored
deriving DecidableEq, Repr

/-- `serde_json` の読み取り。読めなければ誤りの文面を返す。 -/
abbrev ReadEnvelope := String → Except String SocketModeEnvelope

structure SlackIntake where
  connectorId : String
  mentionFilter : SlackMentionFilter
  allowedDmUserIds : List String

namespace SlackIntake

def allowsDirectMessageSender (intake : SlackIntake) (normalized : NormalizedSlackEvent) : Bool :=
  normalized.event.kind ≠ .directMessageReceived
    || intake.allowedDmUserIds.isEmpty
    || normalized.sourceEvent.userId.any intake.allowedDmUserIds.contains

def normalize (intake : SlackIntake) (read : ReadEnvelope) (rawEnvelope : String) : Normalizes NormalizedSlackEvent :=
  match read rawEnvelope with
  | .error source => .error (.invalidEnvelope source)
  | .ok envelope => normalizeEnvelope envelope intake.connectorId (some intake.mentionFilter)

def accept (intake : SlackIntake) (read : ReadEnvelope) (rawEnvelope : String) (now : Int) (s : ChannelStore) :
    Except SlackIntakeError SlackIntakeResult × ChannelStore :=
  match intake.normalize read rawEnvelope with
  | .error (.unsupportedPayload _) => (.ok .ignored, s)
  | .error error => (.error (.normalize error), s)
  | .ok normalized =>
    if !intake.allowsDirectMessageSender normalized then (.ok .ignored, s)
    else
      match commit (persistSlackSourceEvent now normalized.sourceEvent normalized.event) s with
      | (.ok true, s') => (.ok .queued, s')
      | (.ok false, s') => (.ok .duplicate, s')
      | (.error v, s') => (.error (.state v), s')

def Blocks (intake : SlackIntake) (read : ReadEnvelope) (rawEnvelope : String) (now : Int) (s : ChannelStore) : Prop :=
  ((intake.accept read rawEnvelope now s).1 = .ok .ignored ∨ ∃ e, (intake.accept read rawEnvelope now s).1 = .error e) ∧
    (intake.accept read rawEnvelope now s).2.sourceEvents = s.sourceEvents ∧
    (intake.accept read rawEnvelope now s).2.queue = s.queue

end SlackIntake

/-- 直接メッセージのチャネルの出来事でも、直接メッセージに分類されない。言及とされる出来事と、出来事ではない封筒。 -/
def EvadesDmAllowlist (filter : SlackMentionFilter) (envelope : SocketModeEnvelope) (event : Value) : Prop :=
  (envelope.envelopeType = "events_api" ∧ optionalString event "type" = some "app_mention") ∨
  (envelope.envelopeType = "events_api" ∧ optionalString event "type" = some "message" ∧
    (optionalString event "text").any filter.matchesText = true) ∨
  envelope.envelopeType = "slash_commands" ∨ envelope.envelopeType = "interactive"

def Storable (connectorId : String) (filter : SlackMentionFilter) (envelope : SocketModeEnvelope) : Prop :=
  ∃ normalized, normalizeEnvelope envelope connectorId (some filter) = .ok normalized ∧
    normalized.sourceEvent.Check

end Codeoff.Slack
