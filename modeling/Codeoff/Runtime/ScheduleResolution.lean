import Codeoff.Agent.Task
import Codeoff.Runtime.ScheduleService

/-!
# 宛先の解決

要求された Slack の宛先を検証者に問い合わせ、答えを検査して、保存する宛先の写しを作る。検証者は差し替えられる部品で、答え
だけを受け取る。
-/

namespace Codeoff.Runtime.ScheduleResolution

open Codeoff.Core Codeoff.Json Codeoff.State
open Codeoff.Agent (ChannelTaskContext InvocationPrincipal)

def slackConnector : String := "slack-default"

def slackResolverDigest : String := "slack-web-api-v2"

structure ScheduleInvocation where
  principal : InvocationPrincipal
  channel : Option ChannelTaskContext
deriving DecidableEq, Repr

inductive SlackTargetResolutionRequest where
  | channel (channelId : String)
  | directMessageUser (userId : String)
  | directMessageConversation (channelId : String)
  | thread (channelId threadTs : String)
deriving DecidableEq, Repr

structure VerifiedSlackTarget where
  workspaceId : String
  teamId : String
  enterpriseId : Option String
  contextTeamId : String
  conversationHostId : String
  kind : String
  channelId : String
  threadTs : Option String
  authorizationEvidenceVersion : UInt32
  authorizationEvidenceDigest : String
deriving DecidableEq, Repr

inductive TargetVerificationError where
  | invalid
  | unauthorized
  | unavailable
  | transient
deriving DecidableEq, Repr

/-- `ChannelTargetVerifier::resolve_target` の答えか、時間切れ。 -/
inductive VerifierAnswer where
  | timeout
  | refused (error : TargetVerificationError)
  | verified (target : VerifiedSlackTarget)
deriving DecidableEq, Repr

/-- `split_once('.')`。 -/
def splitOnceDot (value : String) : Option (String × String) :=
  match value.toList.span (· != '.') with
  | (seconds, _ :: fraction) => some (String.ofList seconds, String.ofList fraction)
  | (_, []) => none

def isUpperOrDigit (b : UInt8) : Bool := isAsciiUppercase b || isAsciiDigit b

def require (condition : Bool) (error : ScheduleServiceError) : Except ScheduleServiceError Unit :=
  if condition then .ok () else .error error

/-- `bounded(field, value.unwrap_or_default())`。 -/
def required (field : String) (value : Option String) : Except ScheduleServiceError String := do
  bounded field (value.getD "")
  return value.getD ""

def strictSlackUserId (value : String) : Except ScheduleServiceError String := do
  bounded "user_id" value
  require ((startsWith 'U' value || startsWith 'W' value) && 2 ≤ byteLen value
    && (utf8Bytes value).all isUpperOrDigit) (.invalidRequest "user_id must be a canonical Slack user id")
  return value

def strictChannelId (value : String) (directMessage : Bool) : Except ScheduleServiceError String := do
  bounded "channel_id" value
  require ((if directMessage then startsWith 'D' value else startsWith 'C' value || startsWith 'G' value)
    && 2 ≤ byteLen value && (utf8Bytes value).all isUpperOrDigit)
    (.invalidRequest "channel_id must be a canonical Slack conversation id")
  return value

def isTimestampPair : String × String → Bool
  | (seconds, fraction) => seconds != "" && byteLen fraction == 6 && (utf8Bytes seconds).all isAsciiDigit
      && (utf8Bytes fraction).all isAsciiDigit

def strictSlackTimestamp (field value : String) : Except ScheduleServiceError String := do
  bounded field value
  require ((splitOnceDot value).any isTimestampPair)
    (.invalidRequest (field ++ " must be a canonical Slack timestamp"))
  return value

def originResolutionRequest (context : ChannelTaskContext) :
    Except ScheduleServiceError SlackTargetResolutionRequest := do
  require (context.provider == "slack") .resolverNotAllowed
  match context.conversationKind with
  | .channel => return .channel (← strictChannelId (← required "channel_id" context.channelId) false)
  | .directMessage =>
    return .directMessageConversation (← strictChannelId (← required "channel_id" context.channelId) true)
  | .thread =>
    return .thread (← strictChannelId (← required "channel_id" context.channelId) false)
      (← strictSlackTimestamp "thread_id" (← required "thread_id" context.threadId))

/-- `resolve` と `validate_address_against_request` に共通の、要求の読み替え。宛先なしは呼び手が除いている。 -/
def resolutionRequest (invocation : ScheduleInvocation) :
    DeliveryTargetRequest → Except ScheduleServiceError SlackTargetResolutionRequest
  | .none => .error .resolverNotAllowed
  | .origin =>
    match invocation.channel with
    | none => .error .resolverNotAllowed
    | some context => originResolutionRequest context
  | .channel channelId => do return .channel (← strictChannelId channelId false)
  | .directMessage userId => do return .directMessageUser (← strictSlackUserId userId)
  | .thread channelId threadId => do
    return .thread (← strictChannelId channelId false) (← strictSlackTimestamp "thread_id" threadId)

def resolutionRequestJson : SlackTargetResolutionRequest → Value
  | .channel channelId => .object [("kind", .str "channel"), ("channel_id", .str channelId)]
  | .directMessageUser userId => .object [("kind", .str "direct_message_user"), ("user_id", .str userId)]
  | .directMessageConversation channelId =>
    .object [("kind", .str "direct_message_conversation"), ("channel_id", .str channelId)]
  | .thread channelId threadTs =>
    .object [("kind", .str "thread"), ("channel_id", .str channelId), ("thread_ts", .str threadTs)]

def isTargetKind (kind : String) : Bool := kind == "channel" || kind == "direct_message" || kind == "thread"

def validateVerifiedSlackTarget (target : VerifiedSlackTarget) (expectedWorkspaceId : Option String) :
    Except ScheduleServiceError Unit := do
  bounded "workspace_id" target.workspaceId
  bounded "team_id" target.teamId
  bounded "context_team_id" target.contextTeamId
  bounded "conversation_host_id" target.conversationHostId
  let _ ← strictChannelId target.channelId (target.kind == "direct_message")
  require (expectedWorkspaceId.all (· == target.workspaceId) && target.workspaceId == target.teamId
    && target.contextTeamId == target.teamId && startsWith 'T' target.teamId
    && (startsWith 'T' target.conversationHostId || startsWith 'E' target.conversationHostId)
    && target.enterpriseId.all (startsWith 'E') && isTargetKind target.kind
    && ((target.kind == "thread") == target.threadTs.isSome) && target.authorizationEvidenceVersion != 0
    && isLowercaseSha256 target.authorizationEvidenceDigest) .resolverUnavailable
  match target.threadTs with
  | none => return ()
  | some threadTs => do
    let _ ← strictSlackTimestamp "thread_ts" threadTs
    return ()

def matchesRequest (kind channelId : String) (threadTs : Option String) : SlackTargetResolutionRequest → Bool
  | .channel requested => kind == "channel" && channelId == requested && threadTs.isNone
  | .directMessageUser _ => kind == "direct_message" && threadTs.isNone
  | .directMessageConversation requested => kind == "direct_message" && channelId == requested && threadTs.isNone
  | .thread requested requestedTs => kind == "thread" && channelId == requested && threadTs == some requestedTs

def validateVerifiedTargetMatchesRequest (target : VerifiedSlackTarget)
    (requested : SlackTargetResolutionRequest) : Except ScheduleServiceError Unit :=
  require (matchesRequest target.kind target.channelId target.threadTs requested) .resolverUnavailable

def okOrUnavailable {α : Type} (o : Option α) : Except ScheduleServiceError α :=
  match o with
  | some a => .ok a
  | none => .error .resolverUnavailable

def orUnavailable {α : Type} : Except StateValueError α → Except ScheduleServiceError α
  | .ok a => .ok a
  | .error _ => .error .resolverUnavailable

def identityAddress (address : Value) : Except ScheduleServiceError Value :=
  if (address.get "schema_version").isSome then do
    return .object [("workspace_id", ← okOrUnavailable (address.get "workspace_id")),
      ("routing_authority", ← okOrUnavailable (address.get "routing_authority")),
      ("coordinates", ← okOrUnavailable (address.get "coordinates"))]
  else .ok address

def routeTarget (t : DeliveryTargetSnapshot) (address : Value) : Value :=
  .object [("address", address), ("connector", .str t.connector), ("identity_digest", .str t.identityDigest),
    ("kind", .str t.kind), ("provider", .str t.provider), ("resolver_digest", .str t.resolverDigest),
    ("resolver_version", .int t.resolverVersion.toNat), ("tenant", .str t.tenant)]

def deliveryRoute (E : Env) (t : DeliveryTargetSnapshot) : Except StateValueError DeliveryTargetRoute := do
  let address ← orInvalidJson routeField (Json.parse t.addressJson)
  DeliveryTargetRoute.fromCanonicalTargetJson E (routeTarget t address).render

def buildTargetSnapshot (E : Env) (provider connector tenant kind : String) (address : Value)
    (resolverVersion : UInt32) (resolverDigest : String) : Except ScheduleServiceError DeliveryTargetSnapshot := do
  let addressJson := canonicalJson address
  let identity := Value.object [("provider", .str provider), ("connector", .str connector),
    ("tenant", .str tenant), ("kind", .str kind), ("address", ← identityAddress address)]
  let identityDigest := digestJson E identity
  -- `DeliveryTargetSnapshot::new` は、保存した写しを読み直すときと同じ検査である
  let snapshot ← orInvalidValue (DeliveryTargetSnapshot.reload
    { targetId := "target_" ++ shortDigest E identity, provider, connector, tenant, kind, addressJson,
      resolverVersion, resolverDigest, identityDigest })
  let _ ← orUnavailable (deliveryRoute E snapshot)
  return snapshot

def verifiedAddress (verified : VerifiedSlackTarget) (requestedIdentityDigest : String) (now : Int) : Value :=
  .object [
    ("schema_version", .int snapshotVersion),
    ("workspace_id", .str verified.workspaceId),
    ("routing_authority", .object [
      ("team_id", .str verified.teamId),
      ("enterprise_id", .ofOption (verified.enterpriseId.map .str)),
      ("context_team_id", .str verified.contextTeamId),
      ("conversation_host_id", .str verified.conversationHostId)]),
    ("coordinates", match verified.threadTs with
      | some threadTs => .object [("channel_id", .str verified.channelId), ("thread_ts", .str threadTs)]
      | none => .object [("channel_id", .str verified.channelId)]),
    ("authorization_evidence", .object [
      ("version", .int verified.authorizationEvidenceVersion.toNat),
      ("digest", .str verified.authorizationEvidenceDigest)]),
    ("requested_identity_digest", .str requestedIdentityDigest),
    ("created_at", .int now)]

def verifiedSnapshot (E : Env) (verified : VerifiedSlackTarget) (requestedIdentityDigest : String) (now : Int) :
    Except ScheduleServiceError DeliveryTargetSnapshot :=
  buildTargetSnapshot E "slack" slackConnector verified.workspaceId verified.kind
    (verifiedAddress verified requestedIdentityDigest now) (UInt32.ofNat snapshotVersion) slackResolverDigest

def validateAddressAgainstRequest (E : Env) (invocation : ScheduleInvocation) (requested : DeliveryTargetRequest)
    (target : DeliveryTargetSnapshot) (address : Value) : Except ScheduleServiceError Unit :=
  if requested = .none then require (address.beq (.object [])) .resolverUnavailable
  else do
    let route ← orUnavailable (deliveryRoute E target)
    let request ← resolutionRequest invocation requested
    require (route.requestedIdentityDigest == digestJson E (resolutionRequestJson request)) .resolverUnavailable
    require (matchesRequest route.kind route.conversationId route.threadId request) .resolverUnavailable

def requestingActor : InvocationPrincipal → Except ScheduleServiceError (Option String × Option String)
  | .channelActor provider workspaceId actorId =>
    if provider = "slack" then .ok (some workspaceId, some actorId) else .error .resolverNotAllowed
  | .service _ => .ok (none, none)

def verifiedTarget : VerifierAnswer → Except ScheduleServiceError VerifiedSlackTarget
  | .timeout => .error .resolverTimeout
  | .refused .invalid => .error (.invalidRequest "Slack target is invalid")
  | .refused .unauthorized => .error .resolverNotAllowed
  | .refused .unavailable => .error .targetUnavailable
  | .refused .transient => .error .resolverUnavailable
  | .verified target => .ok target

def resolve (E : Env) (verifier : Option String → Option String → SlackTargetResolutionRequest → VerifierAnswer)
    (invocation : ScheduleInvocation) (target : DeliveryTargetRequest) (now : Int) :
    Except ScheduleServiceError (List DeliveryTargetSnapshot) := do
  require (0 ≤ now) (.invalidRequest "target resolution time must be nonnegative")
  let (workspaceId, actorId) ← requestingActor invocation.principal
  let requested ← resolutionRequest invocation target
  let verified ← verifiedTarget (verifier workspaceId actorId requested)
  validateVerifiedSlackTarget verified workspaceId
  validateVerifiedTargetMatchesRequest verified requested
  return [← verifiedSnapshot E verified (digestJson E (resolutionRequestJson requested)) now]

end Codeoff.Runtime.ScheduleResolution
