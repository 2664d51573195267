import Codeoff.Channel.Store
import Codeoff.Control.Interleaving

/-!
# 出来事への返信

返信は、出来事の参照を引き、処理中の表示が出ていればそれを止める行を、なければ投稿の行を、待ち行列に加える。
-/

namespace Codeoff.Channel

open Codeoff.Control Codeoff.Json Codeoff.Relational Codeoff.Slack

inductive ReplyStatement where
  | source
  | indicator
  | stop
  | complete
  | post
deriving DecidableEq, Repr

abbrev ReplyFaults := ReplyStatement → Option SlackStoreError

structure ProcessingStreamFinishRequest where
  connectorId : String
  workspaceId : String
  eventDedupeKey : String
  requestDedupeKey : String
  text : String
  sender : SlackDeliverySender
  nowUnixSeconds : Nat
deriving DecidableEq, Repr

structure ProcessingStreamFinishOutcome where
  requestDedupeKey : String
  queued : Bool
  completedExistingStream : Bool
deriving DecidableEq, Repr

/-- 止める行を加えようとしたこと。`store` は直前の保存領域、`fresh` は呼び出しが始まったときに鍵が空いていたか。 -/
structure StopAttempt where
  delivery : SlackDeliveryRequest
  store : DeliveryStore
  fresh : Bool

/-- `completed_existing_stream` を返した呼び出し。 -/
structure StreamCompletion where
  request : ProcessingStreamFinishRequest
  fresh : Bool

/-- `attempts` と `completions` は履歴で、本体は読まない。 -/
structure ReplyState where
  store : ChannelStore
  attempts : List StopAttempt
  completions : List StreamCompletion

def ReplyState.new (store : ChannelStore) : ReplyState := ⟨store, [], []⟩

abbrev ReplyThread := Thread ReplyState

/-- 送信の保存領域への一つの文。`fault` があれば何も書かずに失敗する。 -/
def onDeliveries {α : Type} (fault : Option SlackStoreError) (tx : DeliveryTx α) (s : ReplyState) :
    Except SlackStoreError α × ReplyState :=
  match fault with
  | some error => (.error error, s)
  | none => ((commit tx s.store.deliveries).1,
      { s with store := { s.store with deliveries := (commit tx s.store.deliveries).2 } })

def ofEvent (workspaceId eventDedupeKey : String) (r : SlackProcessingIndicatorRow) : Bool :=
  r.workspaceId == workspaceId && r.eventDedupeKey == eventDedupeKey

def slackProcessingIndicator (workspaceId eventDedupeKey : String) (s : DeliveryStore) :
    Option SlackProcessingIndicatorRow := s.indicators.rows.find? (ofEvent workspaceId eventDedupeKey)

def completeSlackProcessingIndicator (workspaceId eventDedupeKey : String) : DeliveryTx Unit := do
  let _ ← onTable DeliveryStore.indicators (fun s T => { s with indicators := T }) .rejected fun T =>
    T.update (fun _ _ => none) (ofEvent workspaceId eventDedupeKey) fun r => { r with status := .completed }
  return ()

def stopRequest (request : ProcessingStreamFinishRequest) (indicator : SlackProcessingIndicatorRow) :
    SlackDeliveryRequest where
  connectorId := request.connectorId
  workspaceId := request.workspaceId
  requestDedupeKey := request.requestDedupeKey
  channelId := indicator.channelId
  threadTs := indicator.threadTs
  text := request.text
  sender := request.sender
  operation := .stopStream indicator.messageTs

def keyUnused (key : DeliveryKey) (s : DeliveryStore) : Bool := s.queue.rows.all fun r => r.request.key != key

section Finish

variable (faults : ReplyFaults) (createdAt : Int) (request : ProcessingStreamFinishRequest)

def lookUpIndicator (s : ReplyState) :
    (Except SlackStoreError (Option SlackProcessingIndicatorRow) × Bool) × ReplyState :=
  (((onDeliveries (faults .indicator) (Tx.read
      (slackProcessingIndicator request.workspaceId request.eventDedupeKey)) s).1,
    keyUnused (request.workspaceId, request.requestDedupeKey) s.store.deliveries), s)

/-- 止める行を加える。鍵がすでに使われていれば、何も加えない。 -/
def enqueueStop (indicator : SlackProcessingIndicatorRow) (fresh : Bool) (s : ReplyState) :
    Except SlackStoreError Bool × ReplyState :=
  let attempted := if faults .stop = none then
      { s with attempts := s.attempts ++ [⟨stopRequest request indicator, s.store.deliveries, fresh⟩] } else s
  onDeliveries (faults .stop)
    (enqueueSlackDelivery (stopRequest request indicator) request.nowUnixSeconds createdAt) attempted

def completeIndicator (fresh : Bool) (s : ReplyState) : Except SlackStoreError Unit × ReplyState :=
  let result := onDeliveries (faults .complete)
    (completeSlackProcessingIndicator request.workspaceId request.eventDedupeKey) s
  match result.1 with
  | .ok () => (.ok (), { result.2 with completions := result.2.completions ++ [⟨request, fresh⟩] })
  | .error error => (.error error, result.2)

def completeStream (fresh queued : Bool) : ReplyThread (Except SlackStoreError ProcessingStreamFinishOutcome) :=
  .atomic (completeIndicator faults request fresh) fun
    | .error error => .done (.error error)
    | .ok () => .done (.ok ⟨request.requestDedupeKey, queued, true⟩)

def stopStream (indicator : SlackProcessingIndicatorRow) (fresh : Bool) :
    ReplyThread (Except SlackStoreError ProcessingStreamFinishOutcome) :=
  .atomic (enqueueStop faults createdAt request indicator fresh) fun
    | .error error => .done (.error error)
    | .ok queued => completeStream faults request fresh queued

def finishProcessingStream : ReplyThread (Except SlackStoreError ProcessingStreamFinishOutcome) :=
  .atomic (lookUpIndicator faults request) fun
    | (.error error, _) => .done (.error error)
    | (.ok none, _) => .done (.ok ⟨request.requestDedupeKey, false, false⟩)
    | (.ok (some indicator), fresh) =>
      if indicator.status = .started then stopStream faults createdAt request indicator fresh
      else .done (.ok ⟨request.requestDedupeKey, false, false⟩)

end Finish

/-! ## 返信 -/

structure ReplyToEventRequest where
  connectorId : String
  workspaceId : String
  eventDedupeKey : String
  requestDedupeKey : String
  text : String
  sendAs : Option String
  nowUnixSeconds : Nat
deriving DecidableEq, Repr

structure QueuedDelivery where
  requestDedupeKey : String
  queued : Bool
deriving DecidableEq, Repr

inductive ChannelToolError where
  | missingSourceEvent
  | missingReplyTarget
  | invalidSender (value : String)
  | state (error : SlackStoreError)
deriving DecidableEq, Repr

def isSlackDirectMessageChannel (channelId : String) : Bool := channelId.toList.head? == some 'D'

/-- `user:` に続く鍵の文字。 -/
def isSenderKeyChar (c : Char) : Bool := c.isAlphanum || c == '_' || c == '-'

def parseSendAs (sendAs : Option String) : Except ChannelToolError SlackDeliverySender :=
  match sendAs with
  | none => .ok .bot
  | some value =>
    if value = "bot" then .ok .bot
    else
      match "user:".toList.isPrefixOf? value.toList with
      | none => .error (.invalidSender value)
      | some key =>
        if key.isEmpty || !key.all isSenderKeyChar then .error (.invalidSender value)
        else .ok (.user (String.ofList key))

/-- 出来事のチャネルと、返信を付けるスレッド。直接メッセージは、スレッドの中の出来事にだけスレッドで返す。 -/
def replyTarget (source : SlackSourceReferences) : Except ChannelToolError (String × Option String) :=
  if !source.found then .error .missingSourceEvent
  else
    match source.channelId, source.threadId.or source.messageTs with
    | none, _ => .error .missingReplyTarget
    | some _, none => .error .missingReplyTarget
    | some channelId, some replyThreadTs =>
      if isSlackDirectMessageChannel channelId then
        match source.threadId, source.messageTs with
        | some threadTs, some messageTs => .ok (channelId, if threadTs ≠ messageTs then some threadTs else none)
        | _, _ => .ok (channelId, none)
      else .ok (channelId, some replyThreadTs)

section Reply

variable (faults : ReplyFaults) (createdAt : Int) (request : ReplyToEventRequest)

def finishRequest (sender : SlackDeliverySender) : ProcessingStreamFinishRequest where
  connectorId := request.connectorId
  workspaceId := request.workspaceId
  eventDedupeKey := request.eventDedupeKey
  requestDedupeKey := request.requestDedupeKey
  text := request.text
  sender := sender
  nowUnixSeconds := request.nowUnixSeconds

def postRequest (channelId : String) (threadTs : Option String) (sender : SlackDeliverySender) :
    SlackDeliveryRequest where
  connectorId := request.connectorId
  workspaceId := request.workspaceId
  requestDedupeKey := request.requestDedupeKey
  channelId := channelId
  threadTs := threadTs
  text := request.text
  sender := sender
  operation := .postMessage

def postReply (delivery : SlackDeliveryRequest) : ReplyThread (Except ChannelToolError QueuedDelivery) :=
  .atomic (onDeliveries (faults .post) (enqueueSlackDelivery delivery request.nowUnixSeconds createdAt)) fun
    | .error error => .done (.error (.state error))
    | .ok queued => .done (.ok ⟨request.requestDedupeKey, queued⟩)

def replyToEvent : ReplyThread (Except ChannelToolError QueuedDelivery) :=
  .atomic (fun s => ((faults .source, slackSourceReferences request.workspaceId request.eventDedupeKey s.store), s)) fun
    | (some error, _) => .done (.error (.state error))
    | (none, source) =>
      match replyTarget source, parseSendAs request.sendAs with
      | .error error, _ => .done (.error error)
      | .ok _, .error error => .done (.error error)
      | .ok (channelId, threadTs), .ok sender =>
        (finishProcessingStream faults createdAt (finishRequest request sender)).bind fun
          | .error error => .done (.error (.state error))
          | .ok outcome =>
            if outcome.completedExistingStream then .done (.ok ⟨outcome.requestDedupeKey, outcome.queued⟩)
            else postReply faults createdAt request (postRequest request channelId threadTs sender)

end Reply

/-!
## 返信の道具の呼び出し

`ChannelDynamicToolHandler` の `channel_reply_to_event`。引数の欄を読み、返信を待ち行列に加え、答えを文面にする。
-/

def stringField (arguments : Value) (field : String) : Option String := (arguments.get field).bind Value.asStr

def missingField (field : String) : String := "missing or invalid string field: " ++ field

def requiredString (arguments : Value) (field : String) : Except String String :=
  match stringField arguments field with
  | none => .error (missingField field)
  | some value => if value.isEmpty then .error (missingField field) else .ok value

def optionalString (arguments : Value) (field : String) : Except String (Option String) :=
  match arguments.get field with
  | none => .ok none
  | some .null => .ok none
  | some _ => (requiredString arguments field).map some

def replyToEventRequest (arguments : Value) (nowUnixSeconds : Nat) : Except String ReplyToEventRequest := do
  let connectorId ← requiredString arguments "connector_id"
  let workspaceId ← requiredString arguments "workspace_id"
  let eventDedupeKey ← requiredString arguments "event_dedupe_key"
  let requestDedupeKey ← requiredString arguments "request_dedupe_key"
  let text ← requiredString arguments "text"
  let sendAs ← optionalString arguments "send_as"
  return { connectorId, workspaceId, eventDedupeKey, requestDedupeKey, text, sendAs, nowUnixSeconds }

structure DynamicToolAnswer where
  success : Bool
  text : String
deriving DecidableEq, Repr

def dynamicToolSuccess (content : Value) : DynamicToolAnswer := ⟨true, content.render⟩

def dynamicToolFailure (message : String) : DynamicToolAnswer := ⟨false, message⟩

def QueuedDelivery.toValue (result : QueuedDelivery) : Value :=
  .object [("request_dedupe_key", .str result.requestDedupeKey), ("queued", .bool result.queued)]

/-- `stateText` は保存領域の失敗の文面。 -/
def ChannelToolError.text (stateText : SlackStoreError → String) : ChannelToolError → String
  | .missingSourceEvent => "source event was not found"
  | .missingReplyTarget => "source event does not include a Slack channel/message target"
  | .invalidSender value => "invalid channel sender: " ++ value
  | .state error => "state operation failed: " ++ stateText error

/-- 呼び出しのときの時計、保存領域の失敗とその文面。 -/
structure ReplyToolEnv where
  nowUnixSeconds : Nat
  createdAt : Int
  faults : ReplyFaults
  stateText : SlackStoreError → String

def handleReplyToEvent (env : ReplyToolEnv) (arguments : Value) (store : ChannelStore) :
    DynamicToolAnswer × ChannelStore :=
  match replyToEventRequest arguments env.nowUnixSeconds with
  | .error message => (dynamicToolFailure message, store)
  | .ok request =>
    let replied := (replyToEvent env.faults env.createdAt request).alone (.new store)
    match replied.1 with
    | .ok result => (dynamicToolSuccess result.toValue, replied.2.store)
    | .error error => (dynamicToolFailure (error.text env.stateText), replied.2.store)

/-- `nowUnixSeconds` があれば、呼び出しのときの時計の代わりに使う。 -/
structure ChannelDynamicToolHandler where
  hasResourceProvider : Bool
  hasAddressProviders : Bool
  nowUnixSeconds : Option Nat
deriving DecidableEq, Repr

/-- 起動したときの時刻 `now` に道具を組み立てる。資料と宛先の提供元は、無いことがある。 -/
def buildServeChannelDynamicToolHandler (resourceProvider addressProvider : Bool) (now : Nat) :
    ChannelDynamicToolHandler :=
  match resourceProvider with
  | true =>
    match addressProvider with
    | true => ⟨true, true, some now⟩
    | false => ⟨true, false, some now⟩
  | false => ⟨false, false, none⟩

namespace ChannelDynamicToolHandler

/-- 道具の使う時刻。`current` は呼び出しのときの時計である。 -/
def clock (handler : ChannelDynamicToolHandler) (current : Nat) : Nat := handler.nowUnixSeconds.getD current

structure GetDeliveryStatusRequest where
  workspaceId : String
  requestDedupeKey : String
  nowUnixSeconds : Nat

def getDeliveryStatusRequest (handler : ChannelDynamicToolHandler) (current : Nat) (arguments : Value) :
    Except String GetDeliveryStatusRequest := do
  let workspaceId ← requiredString arguments "workspace_id"
  let requestDedupeKey ← requiredString arguments "request_dedupe_key"
  return { workspaceId, requestDedupeKey, nowUnixSeconds := handler.clock current }

def getDeliveryStatus (store : DeliveryStore) (request : GetDeliveryStatusRequest) :
    Option SlackDeliveryStatusReport :=
  slackDeliveryStatus (request.workspaceId, request.requestDedupeKey) request.nowUnixSeconds store

def statusKindName : SlackDeliveryStatusKind → String
  | .pending => "pending"
  | .deferred => "deferred"
  | .processing => "processing"
  | .delivered => "delivered"
  | .failed => "failed"

def optionalText (value : Option String) : Value := .ofOption (value.map .str)

def deliveryStatusJson (status : SlackDeliveryStatusReport) : Value :=
  .object [
    ("connector_id", .str status.connectorId),
    ("workspace_id", .str status.workspaceId),
    ("channel_id", .str status.channelId),
    ("thread_ts", optionalText status.threadTs),
    ("message_ts", optionalText status.messageTs),
    ("request_dedupe_key", .str status.requestDedupeKey),
    ("status", .str (statusKindName status.status)),
    ("available_at", .ofOption (status.availableAt.map fun t => .int t)),
    ("attempt_count", .ofOption (status.attemptCount.map .int)),
    ("sender_kind", .str status.sender.kind),
    ("sender_key", optionalText status.sender.key)]

def handleGetDeliveryStatus (handler : ChannelDynamicToolHandler) (current : Nat) (arguments : Value)
    (store : DeliveryStore) : DynamicToolAnswer :=
  match handler.getDeliveryStatusRequest current arguments with
  | .error message => dynamicToolFailure message
  | .ok request =>
    dynamicToolSuccess (.object [("delivery", .ofOption ((getDeliveryStatus store request).map deliveryStatusJson))])

end ChannelDynamicToolHandler

end Codeoff.Channel
