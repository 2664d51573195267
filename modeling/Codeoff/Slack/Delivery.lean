import Codeoff.Channel.Contract
import Codeoff.Control.Sequential
import Codeoff.Slack.DeliveryStore
import Codeoff.Slack.WebApi

/-!
# Slack への送信

一つのプロセスの送信の処理。共有するのは、保存領域、まだ記録できていない成功、チャネルごとの送信間隔の控えである。
-/

namespace Codeoff.Slack

open Codeoff.Control Codeoff.Relational
open Codeoff.Channel (ChannelReplyTarget)
open Codeoff.Slack.WebApi (SlackPostedMessage)

structure PendingSlackCompletion where
  receipt : SlackDeliveryReceipt
  responseJson : String
  nextAttemptAt : Nat
  retryDelaySeconds : Nat
  nextAvailableAt : Nat
deriving DecidableEq, Repr

/-- 送信の要求の結果。`unsent` は、要求を送る前に失敗したこと。 -/
inductive SlackAnswer where
  | posted (message : SlackPostedMessage)
  | rateLimited (retryAfterSeconds : Option Nat)
  | failed
  | unsent
deriving DecidableEq, Repr

structure SlackWrite where
  request : SlackDeliveryRequest
  time : Nat
  answer : SlackAnswer
deriving DecidableEq, Repr

/-- `writes` はこれまでの書き込みの履歴で、本体は読まない。 -/
structure SlackDeliveryQueue where
  store : DeliveryStore
  pendingCompletions : List PendingSlackCompletion
  inMemoryChannelThrottles : String × String → Option Nat
  writes : List SlackWrite

def SlackDeliveryQueue.new (store : DeliveryStore) : SlackDeliveryQueue where
  store := store
  pendingCompletions := []
  inMemoryChannelThrottles _ := none
  writes := []

structure ChannelMessageRequest where
  connectorId : String
  workspaceId : String
  dedupeKey : String
  target : ChannelReplyTarget
  text : String
deriving DecidableEq, Repr

/-- `request_to_delivery`。スレッドと直接のメッセージだけを送れる。 -/
def requestToDelivery (request : ChannelMessageRequest) : Option SlackDeliveryRequest :=
  let delivery (channelId : String) (threadTs : Option String) : SlackDeliveryRequest := {
    connectorId := request.connectorId
    workspaceId := request.workspaceId
    requestDedupeKey := request.dedupeKey
    channelId
    threadTs
    text := request.text
    sender := .bot
    operation := .postMessage }
  match request.target with
  | .thread channelId threadId => some (delivery channelId (some threadId))
  | .directMessage userAccountId => some (delivery userAccountId none)
  | .channel _ => none
  | .ephemeral _ _ => none

inductive StorageCall where
  | enqueue
  | claim
  | retry
  | complete
  | completePending
deriving DecidableEq, Repr

inductive SlackOperation where
  | enqueue (request : SlackDeliveryRequest) (createdAt : Int)
  | deliver (request : ChannelMessageRequest) (createdAt : Int)
  | drainDueOnce
deriving DecidableEq, Repr

/-- 呼び出しと、その前提。`now` は呼び出しの初めに読んだ時計、`faults` は保存領域の失敗である。 -/
structure SlackCall where
  operation : SlackOperation
  now : Nat
  answer : SlackAnswer
  faults : StorageCall → Option SlackStoreError

inductive SlackDeliveryResult where
  | enqueued (inserted : Bool)
  | receipt (receipt : SlackDeliveryReceipt)
  | nothing
  | deferred (availableAt : Nat)
  | unsupportedTarget
  | slack (answer : SlackAnswer)
  | state (error : SlackStoreError)
deriving DecidableEq, Repr

abbrev SlackThread := Thread SlackDeliveryQueue

namespace SlackDeliveryQueue

/-- 保存領域への一つのトランザクション。`fault` があれば何も書かずに失敗する。 -/
def transact {α : Type} (fault : Option SlackStoreError) (tx : DeliveryTx α) (q : SlackDeliveryQueue) :
    Except SlackStoreError α × SlackDeliveryQueue :=
  match fault with
  | some error => (.error error, q)
  | none => ((commit tx q.store).1, { q with store := (commit tx q.store).2 })

def inMemoryChannelAvailableAt (channel : String × String) (now : Nat) (q : SlackDeliveryQueue) : Option Nat :=
  (q.inMemoryChannelThrottles channel).filter (now < ·)

def setInMemoryChannelThrottle (channel : String × String) (nextAvailableAt : Nat) (q : SlackDeliveryQueue) :
    SlackDeliveryQueue :=
  { q with
    inMemoryChannelThrottles := Function.update q.inMemoryChannelThrottles channel
      (some (max ((q.inMemoryChannelThrottles channel).getD nextAvailableAt) nextAvailableAt)) }

def clearInMemoryChannelThrottle (channel : String × String) (persisted : Nat) (q : SlackDeliveryQueue) :
    SlackDeliveryQueue :=
  if (q.inMemoryChannelThrottles channel).any (· ≤ persisted) then
    { q with inMemoryChannelThrottles := Function.update q.inMemoryChannelThrottles channel none }
  else q

def takeDuePending (now : Nat) (q : SlackDeliveryQueue) : Option PendingSlackCompletion × SlackDeliveryQueue :=
  match q.pendingCompletions.findIdx? (·.nextAttemptAt ≤ now) with
  | none => (none, q)
  | some position =>
    (q.pendingCompletions[position]?, { q with pendingCompletions := q.pendingCompletions.eraseIdx position })

def pushPending (completion : PendingSlackCompletion) (q : SlackDeliveryQueue) : SlackDeliveryQueue :=
  { q with pendingCompletions := q.pendingCompletions ++ [completion] }

def callSlack (delivery : SlackDeliveryRequest) (now : Nat) (answer : SlackAnswer) (q : SlackDeliveryQueue) :
    SlackDeliveryQueue :=
  if answer = .unsent then q else { q with writes := q.writes ++ [⟨delivery, now, answer⟩] }

end SlackDeliveryQueue

open SlackDeliveryQueue

def initialCompletionPersistenceRetryDelaySeconds : Nat := 1

def maxCompletionPersistenceRetryDelaySeconds : Nat := 60

def perform {ρ : Type} (op : SlackDeliveryQueue → SlackDeliveryQueue) (next : SlackThread ρ) : SlackThread ρ :=
  .atomic (fun q => ((), op q)) fun _ => next

section Calls

variable (interval : Nat) (c : SlackCall)

def retryLater (delivery : SlackDeliveryRequest) (availableAt : Nat) : SlackThread SlackDeliveryResult :=
  .atomic (transact (c.faults .retry) (retrySlackDelivery delivery.key availableAt)) fun
    | .ok _ => .done (.slack c.answer)
    | .error error => .done (.state error)

/-- `persist_or_defer_completion` と、その後の控えの整理。 -/
def recordCompletion (receipt : SlackDeliveryReceipt) (responseJson : String) (nextAvailableAt : Nat) :
    SlackThread SlackDeliveryResult :=
  .atomic (transact (c.faults .complete) (completeSlackDelivery receipt responseJson nextAvailableAt)) fun
    | .ok _ =>
      perform (clearInMemoryChannelThrottle receipt.channel nextAvailableAt) (.done (.receipt receipt))
    | .error error =>
      if error.isTransientStorageContention then
        perform (pushPending {
          receipt
          responseJson
          nextAttemptAt := saturatingAdd c.now initialCompletionPersistenceRetryDelaySeconds
          retryDelaySeconds := initialCompletionPersistenceRetryDelaySeconds
          nextAvailableAt }) (.done (.receipt receipt))
      else .done (.state error)

def receiptOf (delivery : SlackDeliveryRequest) (posted : SlackPostedMessage) : SlackDeliveryReceipt where
  connectorId := delivery.connectorId
  workspaceId := delivery.workspaceId
  channelId := posted.channelId
  threadTs := posted.threadTs.or delivery.threadTs
  messageTs := posted.messageTs
  requestDedupeKey := delivery.requestDedupeKey
  sender := delivery.sender

def afterAnswer (delivery : SlackDeliveryRequest) : SlackAnswer → SlackThread SlackDeliveryResult
  | .posted posted =>
    let receipt := receiptOf delivery posted
    let nextAvailableAt := saturatingAdd c.now interval
    perform (setInMemoryChannelThrottle receipt.channel nextAvailableAt)
      (recordCompletion c receipt posted.responseBody nextAvailableAt)
  | .rateLimited retryAfterSeconds => retryLater c delivery (saturatingAdd c.now (retryAfterSeconds.getD 1))
  | .failed => retryLater c delivery (saturatingAdd c.now 1)
  | .unsent => retryLater c delivery (saturatingAdd c.now 1)

/-- `post_and_record` と `stop_stream_and_record`。呼ぶ API だけが違う。 -/
def sendAndRecord (delivery : SlackDeliveryRequest) : SlackThread SlackDeliveryResult :=
  perform (callSlack delivery c.now c.answer) (afterAnswer interval c delivery c.answer)

inductive Selection where
  | finished (result : SlackDeliveryResult)
  | ready (delivery : SlackDeliveryRequest)

def selectEnqueue (request : SlackDeliveryRequest) (createdAt : Int) : SlackThread Selection :=
  .atomic (transact (c.faults .enqueue) (enqueueSlackDelivery request c.now createdAt)) fun
    | .ok inserted => .done (.finished (.enqueued inserted))
    | .error error => .done (.finished (.state error))

/-- `deliver` の、送る前まで。控えは要求のチャネルで引く。 -/
def selectDeliver (queued : SlackDeliveryRequest) (createdAt : Int) : SlackThread Selection :=
  .atomic (transact (c.faults .enqueue) (enqueueSlackDelivery queued c.now createdAt)) fun
    | .error error => .done (.finished (.state error))
    | .ok _ =>
      .atomic (fun q => (inMemoryChannelAvailableAt queued.channel c.now q, q)) fun
        | some availableAt => .done (.finished (.deferred availableAt))
        | none =>
          .atomic (transact (c.faults .claim) (claimSlackDelivery queued.key c.now)) fun
            | .ok (.delivered receipt) => .done (.finished (.receipt receipt))
            | .ok (.deferred availableAt) => .done (.finished (.deferred availableAt))
            | .ok (.ready delivery) => .done (.ready delivery)
            | .error error => .done (.finished (.state error))

/-- `drain_due_once` の、次の行を取るところ。投稿だけが、行のチャネルで控えを引く。 -/
def selectNextDue : SlackThread Selection :=
  .atomic (transact (c.faults .claim) (claimNextDue c.now)) fun
    | .error error => .done (.finished (.state error))
    | .ok none => .done (.finished .nothing)
    | .ok (some delivery) =>
      if delivery.operation = .postMessage then
        .atomic (fun q => (inMemoryChannelAvailableAt delivery.channel c.now q, q)) fun
          | none => .done (.ready delivery)
          | some availableAt =>
            .atomic (transact (c.faults .retry) (retrySlackDelivery delivery.key availableAt)) fun
              | .ok _ => .done (.finished .nothing)
              | .error error => .done (.finished (.state error))
      else .done (.ready delivery)

def backedOff (completion : PendingSlackCompletion) (now : Nat) : PendingSlackCompletion :=
  let delay := min (min (completion.retryDelaySeconds * 2) u64Max) maxCompletionPersistenceRetryDelaySeconds
  { completion with
    retryDelaySeconds := delay
    nextAttemptAt := saturatingAdd now delay }

/-- `drain_due_once` の、送る前まで。記録できていない成功を先に片づける。 -/
def selectDrain : SlackThread Selection :=
  .atomic (takeDuePending c.now) fun
    | none => selectNextDue c
    | some completion =>
      .atomic (transact (c.faults .completePending) (completeSlackDelivery completion.receipt
          completion.responseJson completion.nextAvailableAt)) fun
        | .ok _ =>
          perform (clearInMemoryChannelThrottle completion.receipt.channel completion.nextAvailableAt)
            (.done (.finished (.receipt completion.receipt)))
        | .error error =>
          if error.isTransientStorageContention then
            perform (pushPending (backedOff completion c.now)) (selectNextDue c)
          else .done (.finished (.state error))

def select : SlackThread Selection :=
  match c.operation with
  | .enqueue request createdAt => selectEnqueue c request createdAt
  | .deliver request createdAt =>
    match requestToDelivery request with
    | none => .done (.finished .unsupportedTarget)
    | some queued => selectDeliver c queued createdAt
  | .drainDueOnce => selectDrain c

def program : SlackThread SlackDeliveryResult :=
  (select c).bind fun
    | .finished result => .done result
    | .ready delivery => sendAndRecord interval c delivery

end Calls

def runCall (interval : Nat) (q : SlackDeliveryQueue) (c : SlackCall) : SlackDeliveryQueue :=
  ((program interval c).alone q).2

def runCalls (interval : Nat) (q : SlackDeliveryQueue) (calls : List SlackCall) : SlackDeliveryQueue :=
  calls.foldl (runCall interval) q

def nextSend (c : SlackCall) (q : SlackDeliveryQueue) : Option SlackDeliveryRequest :=
  match ((select c).alone q).1 with
  | .finished _ => none
  | .ready delivery => some delivery

/-!
## 送信の途中での停止

`run_slack_delivery_loop` は、停止の知らせを待つ枝を先に見て、知らせが来れば、動いている `drain_due_once` をその場で捨てる。
捨てられた後に残るのは、保存領域と、Slack に届いた書き込みだけである。起動のとき、待ち行列の行を直す処理はない。
-/

def SlackDeliveryQueue.restart (q : SlackDeliveryQueue) : SlackDeliveryQueue :=
  { SlackDeliveryQueue.new q.store with writes := q.writes }

/-- `shutdown` は、`drain_due_once` が `steps` 歩進んだところで捨てられ、次のプロセスが始まること。 -/
inductive SlackEvent where
  | call (c : SlackCall)
  | shutdown (now : Nat) (answer : SlackAnswer) (faults : StorageCall → Option SlackStoreError) (steps : Nat)

def drainDueOnce (now : Nat) (answer : SlackAnswer) (faults : StorageCall → Option SlackStoreError) : SlackCall where
  operation := .drainDueOnce
  now := now
  answer := answer
  faults := faults

def runEvent (interval : Nat) (q : SlackDeliveryQueue) : SlackEvent → SlackDeliveryQueue
  | .call c => runCall interval q c
  | .shutdown now answer faults steps =>
    ((program interval (drainDueOnce now answer faults)).cut steps q).restart

def runEvents (interval : Nat) (q : SlackDeliveryQueue) (events : List SlackEvent) : SlackDeliveryQueue :=
  events.foldl (runEvent interval) q

section Drain

variable (c : SlackCall) (q : SlackDeliveryQueue)

/-- `drain_due_once` が行を取りに行くまでの歩数。記録できていない成功を片づけて終われば `none` である。 -/
def stepsBeforeClaim : Option Nat :=
  if q.pendingCompletions.any (·.nextAttemptAt ≤ c.now) then
    if c.faults .completePending = some .contention then some 3 else none
  else some 1

/-- `drain_due_once` が取る行。 -/
def dueRow : Option SlackDeliveryRow := if c.faults .claim = none then firstDue c.now q.store else none

def heldBack (row : SlackDeliveryRow) : Bool :=
  row.request.operation == .postMessage && (inMemoryChannelAvailableAt row.request.channel c.now q).isSome

def returns (row : SlackDeliveryRow) : Bool := heldBack c q row || c.answer == .unsent

/-- 行を取る一歩から、書き込みを出すか、待ち行列へ戻すまでの歩数。 -/
def stepsToSettle (row : SlackDeliveryRow) : Nat :=
  1 + (if row.request.operation = .postMessage then 1 else 0) +
    (if heldBack c q row then 1 else if c.answer = .unsent then 2 else 1)

end Drain

end Codeoff.Slack
