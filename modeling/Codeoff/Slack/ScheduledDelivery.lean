import Codeoff.Channel.Contract
import Codeoff.Slack.WebApi
import Codeoff.State.Schema

/-!
# 予定された配送の宛先

配送のときに、保存された宛先の文面を読む。型の定めに従う読み取りで、知らない欄があれば読まない。
-/

namespace Codeoff.Slack.ScheduledDelivery

open Codeoff.Core Codeoff.Json Codeoff.State
open Codeoff.Slack.WebApi (SlackPostedMessage SlackWebApiError)

structure RoutingAuthority where
  team : String
  enterprise : Option String
  contextTeam : String
  conversationHost : String
deriving DecidableEq, Repr

structure SlackCoordinates where
  channelId : String
  threadTs : Option String
deriving DecidableEq, Repr

structure AuthorizationEvidence where
  version : Nat
  digest : String
deriving DecidableEq, Repr

structure SlackAddress where
  schemaVersion : Nat
  workspaceId : String
  routingAuthority : RoutingAuthority
  coordinates : SlackCoordinates
  authorizationEvidence : AuthorizationEvidence
  requestedIdentityDigest : String
  createdAt : Int
deriving DecidableEq, Repr

structure TargetSnapshot where
  provider : String
  connector : String
  tenant : String
  kind : String
  address : SlackAddress
  resolverVersion : Nat
  resolverDigest : String
  identityDigest : String
deriving DecidableEq, Repr

/-- `deny_unknown_fields` の付いた、オブジェクトの読み取り。 -/
def knownFields (fields : List String) : Value → Option Unit
  | .obj members => if members.all fun m => fields.contains m.1 then some () else none
  | _ => none

def text (value : Value) (field : String) : Option String := (value.get field).bind Value.asStr

def optionalText (value : Value) (field : String) : Option (Option String) :=
  match value.get field with
  | none => some none
  | some .null => some none
  | some v => v.asStr.map some

def u32 (value : Value) (field : String) : Option Nat :=
  ((value.get field).bind Value.asU64).filter (· < 2 ^ 32)

def i64 (value : Value) (field : String) : Option Int :=
  ((value.get field).bind Value.asInt).filter inI64

def RoutingAuthority.fromValue (value : Value) : Option RoutingAuthority := do
  knownFields ["team_id", "enterprise_id", "context_team_id", "conversation_host_id"] value
  return {
    team := ← text value "team_id"
    enterprise := ← optionalText value "enterprise_id"
    contextTeam := ← text value "context_team_id"
    conversationHost := ← text value "conversation_host_id" }

def SlackCoordinates.fromValue (value : Value) : Option SlackCoordinates := do
  knownFields ["channel_id", "thread_ts"] value
  return { channelId := ← text value "channel_id", threadTs := ← optionalText value "thread_ts" }

def AuthorizationEvidence.fromValue (value : Value) : Option AuthorizationEvidence := do
  knownFields ["version", "digest"] value
  return { version := ← u32 value "version", digest := ← text value "digest" }

def SlackAddress.fromValue (value : Value) : Option SlackAddress := do
  knownFields ["schema_version", "workspace_id", "routing_authority", "coordinates",
    "authorization_evidence", "requested_identity_digest", "created_at"] value
  return {
    schemaVersion := ← u32 value "schema_version"
    workspaceId := ← text value "workspace_id"
    routingAuthority := ← (value.get "routing_authority").bind RoutingAuthority.fromValue
    coordinates := ← (value.get "coordinates").bind SlackCoordinates.fromValue
    authorizationEvidence := ← (value.get "authorization_evidence").bind AuthorizationEvidence.fromValue
    requestedIdentityDigest := ← text value "requested_identity_digest"
    createdAt := ← i64 value "created_at" }

def TargetSnapshot.fromValue (value : Value) : Option TargetSnapshot := do
  knownFields ["provider", "connector", "tenant", "kind", "address", "resolver_version", "resolver_digest",
    "identity_digest"] value
  return {
    provider := ← text value "provider"
    connector := ← text value "connector"
    tenant := ← text value "tenant"
    kind := ← text value "kind"
    address := ← (value.get "address").bind SlackAddress.fromValue
    resolverVersion := ← u32 value "resolver_version"
    resolverDigest := ← text value "resolver_digest"
    identityDigest := ← text value "identity_digest" }

def validSlackId (value : String) : Bool :=
  1 < byteLen value && (utf8Bytes value).all fun b => isAsciiUppercase b || isAsciiDigit b

def validSlackTimestamp (value : String) : Bool :=
  match value.toList.span (· != '.') with
  | (_, []) => false
  | (seconds, _ :: micros) =>
    !seconds.isEmpty && (utf8Bytes (String.ofList seconds)).all isAsciiDigit
      && byteLen (String.ofList micros) == 6 && (utf8Bytes (String.ofList micros)).all isAsciiDigit

/-- `valid_sha256`。小文字の 16 進 64 桁であり、保存の側の検査と同じである。 -/
def validSha256 (value : String) : Bool := isLowercaseSha256 value

def validProviderAuthority (authority : RoutingAuthority) : Bool :=
  authority.enterprise.all (startsWith 'E')
    && (startsWith 'T' authority.conversationHost || startsWith 'E' authority.conversationHost)

inductive SlackCanonicalTargetKind where
  | channel
  | directMessage
  | thread
deriving DecidableEq, Repr

def SlackCanonicalTargetKind.asStr : SlackCanonicalTargetKind → String
  | .channel => "channel"
  | .directMessage => "direct_message"
  | .thread => "thread"

structure SlackCanonicalTarget where
  kind : SlackCanonicalTargetKind
  channelId : String
  threadTs : Option String
deriving DecidableEq, Repr

def routeKind (kind channelId : String) (threadTs : Option String) : Except String SlackCanonicalTargetKind :=
  if kind = "channel" ∧ startsWith 'C' channelId ∧ threadTs = none ∧ validSlackId channelId then .ok .channel
  else if kind = "direct_message" ∧ startsWith 'D' channelId ∧ threadTs = none ∧ validSlackId channelId then
    .ok .directMessage
  else if kind = "thread" ∧ startsWith 'C' channelId ∧ threadTs.any validSlackTimestamp
      ∧ validSlackId channelId then .ok .thread
  else .error "invalid_slack_target_route"

def matchesAuthority (target : TargetSnapshot) (connectorId workspaceId : String) : Bool :=
  target.provider == "slack" && target.connector == connectorId && target.tenant == workspaceId
    && target.resolverVersion != 0 && target.resolverDigest != "" && validSha256 target.identityDigest
    && target.address.schemaVersion != 0 && target.address.workspaceId == workspaceId
    && target.address.routingAuthority.team == workspaceId
    && target.address.routingAuthority.contextTeam == workspaceId && 0 ≤ target.address.createdAt
    && target.address.authorizationEvidence.version != 0
    && validSha256 target.address.authorizationEvidence.digest
    && validSha256 target.address.requestedIdentityDigest
    && validProviderAuthority target.address.routingAuthority

def parseTarget (targetJson connectorId workspaceId : String) : Except String SlackCanonicalTarget :=
  match (Json.parse targetJson).bind TargetSnapshot.fromValue with
  | none => .error "invalid_slack_target"
  | some target =>
    if matchesAuthority target connectorId workspaceId then do
      let coordinates := target.address.coordinates
      let kind ← routeKind target.kind coordinates.channelId coordinates.threadTs
      return { kind, channelId := coordinates.channelId, threadTs := coordinates.threadTs }
    else .error "slack_target_authority_mismatch"

/-!
## 予定された配送の送信

送信は、本文の文字数、宛先、投稿の応答の順に調べる。長すぎる本文は、投稿せずに断る。
-/

def slackMessageMaxCharacters : Nat := 40000

structure ProviderMessageIdentity where
  provider : String
  tenant : String
  conversationId : String
  threadId : Option String
  messageId : String
deriving DecidableEq, Repr

inductive DeliveryProviderOutcome where
  | confirmedSuccess (message : ProviderMessageIdentity)
  | confirmedNoWriteRetryable (retryAfterSeconds : Option Nat) (errorKind : String)
  | confirmedNoWriteTerminal (errorKind : String)
  | ambiguousPostWrite (errorKind : String)
deriving DecidableEq, Repr

def validPostedRoute (posted : SlackPostedMessage) (target : SlackCanonicalTarget) (workspaceId : String) :
    Bool :=
  posted.channelId == target.channelId && validSlackId posted.channelId
    && validSlackTimestamp posted.messageTs && posted.responseMessageTs == some posted.messageTs
    && posted.threadTs == target.threadTs && posted.responseTeamId.all (· == workspaceId)

def classifyError : SlackWebApiError → DeliveryProviderOutcome
  | .rateLimited retryAfterSeconds => .confirmedNoWriteRetryable retryAfterSeconds "slack_rate_limited"
  | .api .invalid _ | .api .unauthorized _ | .api .targetUnavailable _ | .unavailable | .unsupportedTarget =>
    .confirmedNoWriteTerminal "slack_request_rejected"
  | .deferred _ => .confirmedNoWriteRetryable none "slack_deferred"
  | .request _ | .invalidResponse _ | .provider _ | .api .transient _ =>
    .ambiguousPostWrite "slack_write_outcome_unknown"

/-- `post` は、会話とスレッドと本文を投稿したときの Slack の応答である。 -/
def send (connectorId workspaceId : String)
    (post : String → Option String → String → Except SlackWebApiError SlackPostedMessage)
    (payload : DeliveryPayloadSnapshot) (targetJson : String) : DeliveryProviderOutcome :=
  if payload.body.length > slackMessageMaxCharacters then .confirmedNoWriteTerminal "payload_too_long"
  else
    match parseTarget targetJson connectorId workspaceId with
    | .error kind => .confirmedNoWriteTerminal kind
    | .ok target =>
      match post target.channelId target.threadTs payload.body with
      | .error e => classifyError e
      | .ok posted =>
        if validPostedRoute posted target workspaceId then
          .confirmedSuccess
            { provider := "slack", tenant := workspaceId, conversationId := posted.channelId,
              threadId := posted.threadTs, messageId := posted.messageTs }
        else .ambiguousPostWrite "slack_response_route_mismatch"

end Codeoff.Slack.ScheduledDelivery
