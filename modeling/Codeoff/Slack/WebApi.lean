import Codeoff.Channel.Contract
import Codeoff.Control.Iteration
import Codeoff.Json.Value

/-!
# Slack の Web API の読み取り

頁をめくる読み取りと、会話の文脈の取得。HTTP の応答はサーバーが要求から決め、本文の読み取りは `SerdeJson` が与える。
-/

namespace Codeoff.Slack.WebApi

open Codeoff.Core Codeoff.Json Codeoff.Channel Codeoff.Control

def conversationTypes : String := "public_channel,private_channel,im"

def resourceThreadReplyLimit : Nat := 50

def membershipPageLimit : Nat := 1000

structure SlackHttpRequest where
  path : String
  query : List (String × String)
  jsonBody : Option String
  authorization : String
deriving DecidableEq, Repr

structure SlackHttpResponse where
  status : Nat
  headers : List (String × String)
  body : String
deriving DecidableEq, Repr

/-- 十進の u64。先頭の `+` は許す。 -/
def parseU64 (digits : List Char) : Option Nat :=
  let digits := if digits.head? = some '+' then digits.tail else digits
  if digits.isEmpty then none
  else if digits.all Char.isDigit then
    let n := digits.foldl (fun acc c => acc * 10 + (c.toNat - 48)) 0
    if n ≤ Json.u64Max then some n else none
  else none

def toAsciiLowercase (s : String) : String := String.ofList (s.toList.map Char.toLower)

def SlackHttpResponse.retryAfterSeconds (response : SlackHttpResponse) : Option Nat :=
  (response.headers.find? fun header => toAsciiLowercase header.1 == "retry-after").bind fun header =>
    parseU64 header.2.toList

inductive SlackApiErrorClass where
  | invalid
  | unauthorized
  | targetUnavailable
  | transient
deriving DecidableEq, Repr

inductive SlackApiErrorScope where
  | target
  | globalProvider
  | unknown
deriving DecidableEq, Repr

inductive SlackWebApiError where
  | request (message : String)
  | rateLimited (retryAfterSeconds : Option Nat)
  | unavailable
  | invalidResponse (message : String)
  | provider (message : String)
  | api (classification : SlackApiErrorClass) (scope : SlackApiErrorScope)
  | unsupportedTarget
  | deferred (availableAt : Nat)
deriving DecidableEq, Repr

structure SlackPostedMessage where
  channelId : String
  threadTs : Option String
  responseMessageTs : Option String
  responseTeamId : Option String
  messageTs : String
  responseBody : String
deriving DecidableEq, Repr

def isAsciiWhitespace (c : Char) : Bool :=
  c = ' ' || c = '\t' || c = '\n' || c = Char.ofNat 12 || c = '\r'

def firstAsciiWord (s : String) : Option String :=
  let word := (s.toList.dropWhile isAsciiWhitespace).takeWhile fun c => !isAsciiWhitespace c
  if word.isEmpty then none else some (String.ofList word)

def classifySlackApiError (error : Option String) : SlackApiErrorClass × SlackApiErrorScope :=
  let code := (error.bind firstAsciiWord).getD "unknown_error"
  if ["invalid_arg_name", "invalid_arguments", "invalid_array_arg", "invalid_charset", "invalid_cursor",
      "invalid_form_data", "invalid_post_type", "invalid_ts_latest", "invalid_ts_oldest",
      "method_not_supported_for_channel_type", "missing_post_type", "not_enough_users", "too_many_users",
      "users_list_not_supplied", "user_not_found", "channel_not_found",
      "thread_not_found"].contains code then (.invalid, .target)
  else if ["no_permission", "not_in_channel", "user_not_visible"].contains code then (.unauthorized, .target)
  else if ["access_denied", "account_inactive", "enterprise_is_restricted", "invalid_auth", "missing_scope",
      "not_allowed_token_type", "not_authed", "restricted_action", "team_access_not_granted", "token_expired",
      "token_revoked", "two_factor_setup_required", "user_disabled"].contains code then
    (.unauthorized, .globalProvider)
  else if ["fatal_error", "internal_error", "ratelimited", "request_timeout", "service_unavailable",
      "team_added_to_org"].contains code then (.transient, .unknown)
  else if code = "is_archived" then (.targetUnavailable, .target)
  else if ["accesslimited", "deprecated_endpoint", "ekm_access_denied", "method_deprecated",
      "org_login_required"].contains code then (.targetUnavailable, .globalProvider)
  else (.targetUnavailable, .unknown)

def classifyHttpStatus (status : Nat) : SlackApiErrorClass :=
  if status = 401 ∨ status = 403 then .unauthorized
  else if status = 400 ∨ status = 404 ∨ status = 405 ∨ status = 409 ∨ status = 422 then .invalid
  else if status = 408 ∨ status = 425 ∨ 500 ≤ status ∧ status ≤ 599 then .transient
  else .targetUnavailable

def classifyHttpStatusScope (status : Nat) : SlackApiErrorScope :=
  if status = 401 ∨ status = 403 then .globalProvider
  else if status = 400 ∨ status = 404 ∨ status = 405 ∨ status = 409 ∨ status = 422 then .target
  else .unknown

structure SlackChannel where
  id : String
  name : Option String
  isPrivate : Bool
  isIm : Bool
  isMpim : Bool
  isArchived : Bool
  isMember : Bool
  contextTeamId : Option String
  enterpriseId : Option String
  conversationHostId : Option String
  sharedTeamIds : List String
  connectedTeamIds : List String
  isShared : Bool
  isExtShared : Bool
  isOrgShared : Bool

structure SlackEnterpriseUser where
  enterpriseId : Option String
  teams : List String

structure SlackUserProfile where
  displayName : Option String
  realName : Option String
  email : Option String

structure SlackUser where
  id : String
  name : Option String
  realName : Option String
  deleted : Bool
  teamId : Option String
  isBot : Bool
  isAppUser : Bool
  isRestricted : Bool
  isUltraRestricted : Bool
  enterpriseUser : Option SlackEnterpriseUser
  profile : SlackUserProfile

structure SlackMessage where
  ts : Option String
  threadTs : Option String
  text : Option String
  blocks : List Value
  attachments : List Value
  files : List Value

structure ResponseMetadata where
  nextCursor : Option String

structure SlackApiResponse where
  ok : Bool
  error : Option String
  channels : List SlackChannel
  members : List SlackUser
  messages : List SlackMessage
  responseMetadata : ResponseMetadata

structure SlackConversationMembersResponse where
  ok : Bool
  error : Option String
  members : List String
  responseMetadata : ResponseMetadata

structure SerdeJson where
  apiResponse : String → Except String SlackApiResponse
  membersResponse : String → Except String SlackConversationMembersResponse

def ResponseMetadata.cursor (metadata : ResponseMetadata) : Option String :=
  metadata.nextCursor.filter fun cursor => !cursor.isEmpty

structure SlackConfig where
  workspaceId : String
  recentMessageLimit : Nat
  threadMessageLimit : Nat
  historyLookbackHours : Nat

/-- `http` は GET の要求への応答、`nowUnixSeconds` は組み立てたときの時刻である。 -/
structure SlackWebApiClient where
  http : SlackHttpRequest → Except String SlackHttpResponse
  connectorId : String
  botToken : String
  config : SlackConfig
  nowUnixSeconds : Nat

/-- 構成から、現在の時刻 `now` にクライアントを組み立てる。 -/
def buildSlackWebApiClient (http : SlackHttpRequest → Except String SlackHttpResponse) (config : SlackConfig)
    (botToken : String) (now : Nat) : SlackWebApiClient :=
  { http, connectorId := "slack-default", botToken, config, nowUnixSeconds := now }

/-- `Bearer ` に続く語を伏せる。`n` は残りの長さの上限。 -/
def redactBearerChars : Nat → List Char → List Char
  | 0, cs => cs
  | _, [] => []
  | n + 1, c :: cs =>
    if "Bearer ".toList.isPrefixOf (c :: cs) then
      let token := (c :: cs).drop 7
      let rest := token.dropWhile fun d => !(isAsciiWhitespace d || ['"', '\'', ',', ')', ']'].contains d)
      "Bearer <redacted>".toList ++ redactBearerChars n rest
    else c :: redactBearerChars n cs

def slackTokenHeads : List String := ["xoxb-", "xoxp-", "xapp-", "xoxa-", "xoxr-", "xoxs-", "xoxe-"]

def redactTokenChars : Nat → List Char → List Char
  | 0, cs => cs
  | _, [] => []
  | n + 1, c :: cs =>
    if slackTokenHeads.any fun head => head.toList.isPrefixOf (c :: cs) then
      let rest := (c :: cs).dropWhile fun d => d.isAlphanum || d = '-' || d = '_'
      "<redacted>".toList ++ redactTokenChars n rest
    else c :: redactTokenChars n cs

def redactSecrets (value : String) : String :=
  let bearer := redactBearerChars value.length value.toList
  String.ofList (redactTokenChars bearer.length bearer)

/-- Rust の `str::replace`。空の `pattern` は、すべての文字の境に当たる。`n` は残りの長さの上限に一を足したもの。 -/
def replaceChars (pattern replacement : List Char) : Nat → List Char → List Char
  | 0, cs => cs
  | _ + 1, [] => if pattern = [] then replacement else []
  | n + 1, c :: cs =>
    if pattern = [] then replacement ++ c :: replaceChars pattern replacement n cs
    else if pattern.isPrefixOf (c :: cs) then
      replacement ++ replaceChars pattern replacement n ((c :: cs).drop pattern.length)
    else c :: replaceChars pattern replacement n cs

def replaceText (value pattern replacement : String) : String :=
  String.ofList (replaceChars pattern.toList replacement.toList (value.length + 1) value.toList)

/-- `redact_secrets` に `authorization` を渡したもの。 -/
def redactSecretsWith (value : String) (authorization : Option String) : String :=
  match authorization with
  | some authorization => redactSecrets (replaceText value authorization "<redacted>")
  | none => redactSecrets value

namespace SlackWebApiClient

def redact (client : SlackWebApiClient) (value : String) : String :=
  redactSecrets (value.replace client.botToken "<redacted>")

def request (client : SlackWebApiClient) (path : String) (query : List (String × String)) :
    Except SlackWebApiError SlackHttpResponse :=
  match client.http { path, query, jsonBody := none, authorization := "Bearer " ++ client.botToken } with
  | .error message => .error (.request (client.redact message))
  | .ok response =>
    if response.status = 429 then .error (.rateLimited response.retryAfterSeconds)
    else if ¬(200 ≤ response.status ∧ response.status < 300) then
      .error (.api (classifyHttpStatus response.status) (classifyHttpStatusScope response.status))
    else .ok response

def parseApiResponse (client : SlackWebApiClient) (serde : SerdeJson) (response : SlackHttpResponse) :
    Except SlackWebApiError SlackApiResponse :=
  match serde.apiResponse response.body with
  | .error source => .error (.invalidResponse (client.redact source))
  | .ok parsed =>
    if parsed.ok then .ok parsed
    else .error (.api (classifySlackApiError parsed.error).1 (classifySlackApiError parsed.error).2)

def parseConversationMembersResponse (client : SlackWebApiClient) (serde : SerdeJson)
    (response : SlackHttpResponse) : Except SlackWebApiError SlackConversationMembersResponse :=
  match serde.membersResponse response.body with
  | .error source => .error (.invalidResponse (client.redact source))
  | .ok parsed =>
    if parsed.ok then .ok parsed
    else .error (.api (classifySlackApiError parsed.error).1 (classifySlackApiError parsed.error).2)

def page (client : SlackWebApiClient) (serde : SerdeJson) (path : String) (query : List (String × String)) :
    Except SlackWebApiError SlackApiResponse := do
  client.parseApiResponse serde (← client.request path query)

end SlackWebApiClient

/-! ## 利用者と会話の要約 -/

def nonEmptyString (value : Option String) : Option String := (value.map trim).filter fun s => !s.isEmpty

def normalizedLookup (value : String) : String := toAsciiLowercase (trim value)

def containsText (value needle : String) : Bool :=
  value.toList.tails.any fun rest => needle.toList.isPrefixOf rest

structure SlackUserAddress where
  connectorId : String
  workspaceId : String
  userId : String
  handle : Option String
  displayName : Option String
  realName : Option String
  email : Option String
  teamId : Option String
  enterpriseId : Option String
  enterpriseTeamIds : List String
  deleted : Bool
  isBot : Bool
  isAppUser : Bool
  isRestricted : Bool
  isUltraRestricted : Bool

namespace SlackUserAddress

def searchValues (user : SlackUserAddress) : List String :=
  [some user.userId, user.handle, user.displayName, user.realName, user.email].reduceOption

def matchesQuery (user : SlackUserAddress) (needle : String) : Bool :=
  needle.isEmpty || user.searchValues.any fun value => containsText (normalizedLookup value) needle

end SlackUserAddress

structure SlackChannelAddress where
  connectorId : String
  workspaceId : String
  channelId : String
  name : Option String
  isPrivate : Bool
  isIm : Bool
  isMpim : Bool
  isArchived : Bool
  isMember : Bool
  contextTeamId : Option String
  enterpriseId : Option String
  conversationHostId : Option String
  sharedTeamIds : List String
  connectedTeamIds : List String
  isShared : Bool
  isExtShared : Bool
  isOrgShared : Bool

namespace SlackChannelAddress

def searchValues (channel : SlackChannelAddress) : List String :=
  [some channel.channelId, channel.name].reduceOption

def matchesQuery (channel : SlackChannelAddress) (needle : String) : Bool :=
  needle.isEmpty || channel.searchValues.any fun value => containsText (normalizedLookup value) needle

end SlackChannelAddress

structure ChannelMessageFetchRequest where
  channelId : String
  threadId : Option String
  messageTs : String

namespace SlackWebApiClient

def toUserAddress (client : SlackWebApiClient) (user : SlackUser) : Option SlackUserAddress := do
  let _ ← nonEmptyString (some user.id)
  return {
    connectorId := client.connectorId
    workspaceId := client.config.workspaceId
    userId := user.id
    handle := nonEmptyString user.name
    displayName := nonEmptyString user.profile.displayName
    realName := (nonEmptyString user.realName).or (nonEmptyString user.profile.realName)
    email := nonEmptyString user.profile.email
    teamId := nonEmptyString user.teamId
    enterpriseId := user.enterpriseUser.bind fun enterprise => nonEmptyString enterprise.enterpriseId
    enterpriseTeamIds := (user.enterpriseUser.map SlackEnterpriseUser.teams).getD []
    deleted := user.deleted
    isBot := user.isBot
    isAppUser := user.isAppUser
    isRestricted := user.isRestricted
    isUltraRestricted := user.isUltraRestricted }

def toChannelAddress (client : SlackWebApiClient) (channel : SlackChannel) : SlackChannelAddress where
  connectorId := client.connectorId
  workspaceId := client.config.workspaceId
  channelId := channel.id
  name := nonEmptyString channel.name
  isPrivate := channel.isPrivate
  isIm := channel.isIm
  isMpim := channel.isMpim
  isArchived := channel.isArchived
  isMember := channel.isMember
  contextTeamId := channel.contextTeamId
  enterpriseId := channel.enterpriseId
  conversationHostId := channel.conversationHostId
  sharedTeamIds := channel.sharedTeamIds
  connectedTeamIds := channel.connectedTeamIds
  isShared := channel.isShared
  isExtShared := channel.isExtShared
  isOrgShared := channel.isOrgShared

/-- 二つ目以降の頁の要求には `cursor` が付く。 -/
def withCursor (query : List (String × String)) (cursor : Option String) : List (String × String) :=
  query ++ (cursor.map fun value => ("cursor", value)).toList

/-- 頁をめくる繰り返しの一歩。`found` は頁の中で読み取りを終えるとき、`collect` は頁から集めるもの、
`finish` は最後の頁の後の結果である。 -/
def pageStep {α ρ : Type} (client : SlackWebApiClient) (serde : SerdeJson) (path : String)
    (query : List (String × String)) (found : SlackApiResponse → Option ρ) (collect : α → SlackApiResponse → α)
    (finish : α → Except SlackWebApiError ρ) :
    α × Option String → (α × Option String) ⊕ Except SlackWebApiError ρ
  | (acc, cursor) =>
    match client.page serde path (withCursor query cursor) with
    | .error e => .inr (.error e)
    | .ok page =>
      match found page with
      | some r => .inr (.ok r)
      | none =>
        match page.responseMetadata.cursor with
        | none => .inr (finish (collect acc page))
        | some next => .inl (collect acc page, some next)

def visibleUsers (client : SlackWebApiClient) (needle : String) (page : SlackApiResponse) :
    List SlackUserAddress :=
  ((page.members.filter fun user => !user.deleted).filterMap client.toUserAddress).filter
    fun user => user.matchesQuery needle

/-- 以下、`fuel` は読む頁の数の上限で、そのうちに終わらなければ `none` である。 -/
def searchUsers (client : SlackWebApiClient) (serde : SerdeJson) (query : String) (fuel : Nat) :
    Option (Except SlackWebApiError (List SlackUserAddress)) :=
  iterate (client.pageStep serde "users.list" [] (fun _ => none)
    (fun users page => users ++ client.visibleUsers (normalizedLookup query) page) .ok) fuel ([], none)

def visibleChannels (client : SlackWebApiClient) (needle : String) (page : SlackApiResponse) :
    List SlackChannelAddress :=
  ((page.channels.filter fun channel => !channel.isArchived).map client.toChannelAddress).filter
    fun channel => channel.matchesQuery needle

/-- 前後の空白と、先頭の `#` を除いた検索語。 -/
def channelNeedle (query : String) : String :=
  normalizedLookup (String.ofList ((trimChars query.toList).dropWhile (· = '#')))

def searchChannels (client : SlackWebApiClient) (serde : SerdeJson) (query : String) (fuel : Nat) :
    Option (Except SlackWebApiError (List SlackChannelAddress)) :=
  iterate (client.pageStep serde "conversations.list" [("types", conversationTypes)] (fun _ => none)
    (fun channels page => channels ++ client.visibleChannels (channelNeedle query) page) .ok) fuel ([], none)

def listsChannel (channelId : String) (page : SlackApiResponse) : Option Unit :=
  if page.channels.any fun channel => channel.id == channelId then some () else none

def ensureChannelIsAvailable (client : SlackWebApiClient) (serde : SerdeJson) (channelId : String)
    (fuel : Nat) : Option (Except SlackWebApiError Unit) :=
  iterate (client.pageStep serde "conversations.list" [("types", conversationTypes)] (listsChannel channelId)
    (fun () _ => ()) fun () => .error .unavailable) fuel ((), none)

def threadQuery (request : ChannelMessageFetchRequest) (threadId : String) : List (String × String) :=
  [("channel", request.channelId), ("ts", threadId), ("limit", toString resourceThreadReplyLimit)]

def findMessage (messageTs : String) (page : SlackApiResponse) : Option SlackMessage :=
  page.messages.find? fun message => message.ts == some messageTs

def fetchThreadedMessage (client : SlackWebApiClient) (serde : SerdeJson)
    (request : ChannelMessageFetchRequest) (fuel : Nat) : Option (Except SlackWebApiError SlackMessage) :=
  match request.threadId with
  | none => some (.error .unavailable)
  | some threadId =>
    iterate (client.pageStep serde "conversations.replies" (threadQuery request threadId)
      (findMessage request.messageTs) (fun () _ => ()) fun () => .error .unavailable) fuel ((), none)

def membersStep (client : SlackWebApiClient) (serde : SerdeJson) (actorId channelId : String) :
    Nat × Option String → (Nat × Option String) ⊕ Except SlackWebApiError Bool
  | (0, _) => .inr (.error (.invalidResponse "conversations.members exceeded the pagination bound"))
  | (left + 1, cursor) =>
    match client.request "conversations.members" (withCursor [("channel", channelId)] cursor) with
    | .error e => .inr (.error e)
    | .ok response =>
      match client.parseConversationMembersResponse serde response with
      | .error e => .inr (.error e)
      | .ok page =>
        if page.members.any (· == actorId) then .inr (.ok true)
        else
          match page.responseMetadata.cursor with
          | none => .inr (.ok false)
          | some next =>
            if some next = cursor then
              .inr (.error (.invalidResponse "conversations.members returned a repeated cursor"))
            else .inl (left, some next)

def actorIsChannelMember (client : SlackWebApiClient) (serde : SerdeJson) (actorId channelId : String)
    (fuel : Nat) : Option (Except SlackWebApiError Bool) :=
  iterate (client.membersStep serde actorId channelId) fuel (membershipPageLimit, none)

end SlackWebApiClient

def valueString (value : Value) (key : String) : Option String :=
  nonEmptyString ((value.get key).bind Value.asStr)

def joinNonEmpty (parts : List String) : Option String :=
  let text := "\n".intercalate ((parts.map trim).filter fun part => !part.isEmpty)
  if text.isEmpty then none else some text

def ownText (value : Value) : List String :=
  let field (key : String) := (value.get key).bind Value.asStr
  match field "type" with
  | some "link" =>
    match field "text", field "url" with
    | some text, some url => [text ++ " <" ++ url ++ ">"]
    | none, some url => [url]
    | some text, none => [text]
    | none, none => []
  | some "user" => ((field "user_id").map fun userId => "<@" ++ userId ++ ">").toList
  | some "channel" => ((field "channel_id").map fun channelId => "<#" ++ channelId ++ ">").toList
  | _ => (field "text").toList

mutual
def collectSlackText : Value → List String
  | .obj members =>
    ownText (.obj members) ++ memberTexts "elements" members ++ memberTexts "blocks" members
      ++ memberTexts "fields" members
  | .arr values => valueTexts values
  | _ => []

def valueTexts : List Value → List String
  | [] => []
  | value :: values => collectSlackText value ++ valueTexts values

/-- 鍵が `key` である配列の中の文面。 -/
def memberTexts (key : String) : List (String × Value) → List String
  | [] => []
  | (name, value) :: members =>
    if name == key then
      match value with
      | .arr values => valueTexts values
      | _ => []
    else memberTexts key members
end

def slackBlockText (block : Value) : Option String :=
  nonEmptyString (some (String.join (collectSlackText block)))

def attachmentFieldText (field : Value) : Option String :=
  match valueString field "title", valueString field "value" with
  | some title, some value => some (title ++ ": " ++ value)
  | some title, none => some title
  | none, some value => some value
  | none, none => none

def slackAttachmentText (attachment : Value) : Option String :=
  let fields := match attachment.get "fields" with
    | some (.arr fields) => fields
    | _ => []
  joinNonEmpty ((["title", "text", "fallback", "pretext", "author_name", "image_url"].filterMap
    (valueString attachment)) ++ fields.filterMap attachmentFieldText)

def slackFileText (file : Value) : Option String := do
  let name ← ((valueString file "name").or (valueString file "title")).or (valueString file "id")
  let details := ["mimetype", "filetype", "id"].filterMap fun key =>
    (valueString file key).map fun value => key ++ "=" ++ value
  let size := ((file.get "size").bind Value.asU64).map fun size => "size=" ++ toString size
  joinNonEmpty (name :: details ++ size.toList)

def labeledPart (label : String) (value : Option String) : List String :=
  ((nonEmptyString value).map fun value => label ++ ": " ++ value).toList

namespace SlackMessage

def timestamp (message : SlackMessage) : Option Nat :=
  message.ts.bind fun ts => parseU64 (ts.toList.takeWhile (· ≠ '.'))

def summaryText (message : SlackMessage) : Option String :=
  joinNonEmpty ((nonEmptyString message.text).toList
    ++ message.blocks.flatMap (fun block => labeledPart "block" (slackBlockText block))
    ++ message.attachments.flatMap (fun attachment => labeledPart "attachment" (slackAttachmentText attachment))
    ++ message.files.flatMap fun file => labeledPart "file" (slackFileText file))

end SlackMessage

structure ChannelContextRequest where
  connectorId : String
  workspaceId : String
  target : ChannelReplyTarget
  limit : Nat
  cursor : Option String

structure ChannelContextPage where
  events : List ChannelEvent
  nextCursor : Option String

namespace SlackWebApiClient

def toEvent (client : SlackWebApiClient) (channelId workspaceId : String) (message : SlackMessage) :
    Except SlackWebApiError ChannelEvent :=
  match message.ts with
  | none => .error (.invalidResponse "message is missing ts")
  | some timestamp =>
    match ChannelEvent.new "slack" client.connectorId workspaceId timestamp
        ("slack:" ++ channelId ++ ":" ++ timestamp) .messageReceived with
    | .error source => .error (.invalidResponse source.message)
    | .ok event => .ok (event.withText message.summaryText)

def contextTarget : ChannelReplyTarget → Option (String × Option String)
  | .channel channelId => some (channelId, none)
  | .thread channelId threadId => some (channelId, some threadId)
  | .directMessage _ => none
  | .ephemeral _ _ => none

def configuredLimit (client : SlackWebApiClient) (threadId : Option String) : Nat :=
  if threadId.isSome then client.config.threadMessageLimit else client.config.recentMessageLimit

def lookbackSeconds (client : SlackWebApiClient) : Nat := client.config.historyLookbackHours * 60 * 60

/-- これより古い投稿は返さない。時刻は、クライアントが組み立てられたときのものである。 -/
def cutoff (client : SlackWebApiClient) : Nat := client.nowUnixSeconds - client.lookbackSeconds

def contextPath (threadId : Option String) : String :=
  if threadId.isSome then "conversations.replies" else "conversations.history"

def contextQuery (client : SlackWebApiClient) (request : ChannelContextRequest) (channelId : String)
    (threadId : Option String) : List (String × String) :=
  withCursor [("channel", channelId), ("limit", toString (min request.limit (client.configuredLimit threadId))),
      ("oldest", toString client.cutoff)] request.cursor
    ++ (threadId.map fun ts => ("ts", ts)).toList

def recentMessages (client : SlackWebApiClient) (limit : Nat) (page : SlackApiResponse) : List SlackMessage :=
  (page.messages.filter fun message => message.timestamp.any fun timestamp => client.cutoff ≤ timestamp).take limit

def fetchContext (client : SlackWebApiClient) (serde : SerdeJson) (request : ChannelContextRequest)
    (fuel : Nat) : Option (Except SlackWebApiError ChannelContextPage) :=
  match contextTarget request.target with
  | none => some (.error .unsupportedTarget)
  | some (channelId, threadId) =>
    match client.ensureChannelIsAvailable serde channelId fuel with
    | none => none
    | some (.error e) => some (.error e)
    | some (.ok ()) => some do
      let page ← client.page serde (contextPath threadId) (client.contextQuery request channelId threadId)
      let limit := min request.limit (client.configuredLimit threadId)
      let events ← (client.recentMessages limit page).mapM (client.toEvent channelId request.workspaceId)
      return { events, nextCursor := page.responseMetadata.cursor }

end SlackWebApiClient

end Codeoff.Slack.WebApi
