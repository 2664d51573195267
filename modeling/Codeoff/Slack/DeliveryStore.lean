import Codeoff.Relational.Upsert
import Codeoff.State.Schema

/-!
# 送信の待ち行列への操作

行を加える、送る行を取る、待ち直させる、成功を記録する。どれも一つのトランザクションである。
-/

/-!
## 送信の表の宣言

Slack への送信の待ち行列、成功の受領記録、チャネルごとの送信間隔、処理中の表示。
-/

namespace Codeoff.Slack

open Codeoff.Core Codeoff.Relational
open Codeoff.State (sqlLength)

def i64Max : Nat := 9223372036854775807
def u64Max : Nat := 18446744073709551615

/-- `i64::try_from(n).unwrap_or(i64::MAX)`。 -/
def toI64 (n : Nat) : Int := if n ≤ i64Max then n else i64Max

/-- `u64::saturating_add`。 -/
def saturatingAdd (a b : Nat) : Nat := min (a + b) u64Max

inductive SlackDeliverySender where
  | bot
  | user (key : String)
deriving DecidableEq, Repr

/-- `sender_key` の CHECK。 -/
def SlackDeliverySender.keyed : SlackDeliverySender → Bool
  | .bot => true
  | .user key => 0 < sqlLength key

inductive SlackDeliveryStatus where
  | pending
  | processing
  | delivered
  | failed
deriving DecidableEq, Repr

inductive SlackDeliveryOperation where
  | postMessage
  | stopStream (messageTs : String)
deriving DecidableEq, Repr

/-- `message_ts` の CHECK。 -/
def SlackDeliveryOperation.timed : SlackDeliveryOperation → Bool
  | .postMessage => true
  | .stopStream messageTs => 0 < sqlLength messageTs

structure SlackDeliveryRequest where
  connectorId : String
  workspaceId : String
  requestDedupeKey : String
  channelId : String
  threadTs : Option String
  text : String
  sender : SlackDeliverySender
  operation : SlackDeliveryOperation
deriving DecidableEq, Repr

structure SlackDeliveryRow where
  id : Nat
  request : SlackDeliveryRequest
  status : SlackDeliveryStatus
  availableAt : Int
  attemptCount : Int
  createdAt : Int
deriving DecidableEq, Repr

abbrev SlackDeliveryRow.Check (r : SlackDeliveryRow) : Prop :=
  (0 < sqlLength r.request.connectorId ∧ 0 < sqlLength r.request.workspaceId ∧
    0 < sqlLength r.request.requestDedupeKey ∧ 0 < sqlLength r.request.channelId ∧ 0 < sqlLength r.request.text) ∧
  r.request.sender.keyed = true ∧ r.request.operation.timed = true ∧ 0 ≤ r.attemptCount

/-- 待ち行列と受領記録の鍵。 -/
abbrev DeliveryKey := String × String

def SlackDeliveryRequest.key (r : SlackDeliveryRequest) : DeliveryKey := (r.workspaceId, r.requestDedupeKey)

def SlackDeliveryRequest.channel (r : SlackDeliveryRequest) : String × String := (r.workspaceId, r.channelId)

def slackDeliveryQueue : Schema SlackDeliveryRow where
  check r := decide r.Check
  conflict a b := a.id == b.id || a.request.key == b.request.key
  conflict_symm a b := by simp only [BEq.comm]

structure SlackDeliveryReceipt where
  connectorId : String
  workspaceId : String
  channelId : String
  threadTs : Option String
  messageTs : String
  requestDedupeKey : String
  sender : SlackDeliverySender
deriving DecidableEq, Repr

def SlackDeliveryReceipt.key (r : SlackDeliveryReceipt) : DeliveryKey := (r.workspaceId, r.requestDedupeKey)

def SlackDeliveryReceipt.channel (r : SlackDeliveryReceipt) : String × String := (r.workspaceId, r.channelId)

structure SlackDeliveryReceiptRow where
  receipt : SlackDeliveryReceipt
  slackResponseJson : String
deriving DecidableEq, Repr

abbrev SlackDeliveryReceiptRow.Check (r : SlackDeliveryReceiptRow) : Prop :=
  (0 < sqlLength r.receipt.connectorId ∧ 0 < sqlLength r.receipt.workspaceId ∧ 0 < sqlLength r.receipt.channelId ∧
    0 < sqlLength r.receipt.messageTs ∧ 0 < sqlLength r.receipt.requestDedupeKey) ∧
  r.receipt.sender.keyed = true

def slackDeliveryReceipts : Schema SlackDeliveryReceiptRow where
  check r := decide r.Check
  conflict a b := a.receipt.key == b.receipt.key
  conflict_symm a b := by simp only [BEq.comm]

structure SlackChannelThrottleRow where
  workspaceId : String
  channelId : String
  nextAvailableAt : Int
deriving DecidableEq, Repr

def SlackChannelThrottleRow.channel (r : SlackChannelThrottleRow) : String × String := (r.workspaceId, r.channelId)

abbrev SlackChannelThrottleRow.Check (r : SlackChannelThrottleRow) : Prop :=
  0 < sqlLength r.workspaceId ∧ 0 < sqlLength r.channelId

def slackChannelThrottles : Schema SlackChannelThrottleRow where
  check r := decide r.Check
  conflict a b := a.channel == b.channel
  conflict_symm a b := by simp only [BEq.comm]

inductive SlackProcessingIndicatorStatus where
  | started
  | completed
  | failed
deriving DecidableEq, Repr

structure SlackProcessingIndicatorRow where
  workspaceId : String
  eventDedupeKey : String
  channelId : String
  threadTs : Option String
  messageTs : String
  status : SlackProcessingIndicatorStatus
deriving DecidableEq, Repr

abbrev SlackProcessingIndicatorRow.Check (r : SlackProcessingIndicatorRow) : Prop :=
  0 < sqlLength r.workspaceId ∧ 0 < sqlLength r.eventDedupeKey ∧ 0 < sqlLength r.channelId ∧
    (∀ threadTs ∈ r.threadTs, 0 < sqlLength threadTs) ∧ 0 < sqlLength r.messageTs

def slackProcessingIndicators : Schema SlackProcessingIndicatorRow where
  check r := decide r.Check
  conflict a b := a.workspaceId == b.workspaceId && a.eventDedupeKey == b.eventDedupeKey
  conflict_symm a b := by simp only [BEq.comm]

structure DeliveryStore where
  queue : Table slackDeliveryQueue
  receipts : Table slackDeliveryReceipts
  throttles : Table slackChannelThrottles
  indicators : Table slackProcessingIndicators

def DeliveryStore.empty : DeliveryStore where
  queue := .empty _
  receipts := .empty _
  throttles := .empty _
  indicators := .empty _

/-- 保存領域の誤り。`contention` は、待てば消える競合である。 -/
inductive SlackStoreError where
  | contention
  | storage
  | rowNotFound
  | rejected (violation : Violation)
deriving DecidableEq, Repr

def SlackStoreError.isTransientStorageContention : SlackStoreError → Bool
  | .contention => true
  | _ => false

abbrev DeliveryTx := Tx DeliveryStore SlackStoreError

def onQueue {α : Type}
    (stmt : Table slackDeliveryQueue → Except Violation (Table slackDeliveryQueue × α)) : DeliveryTx α :=
  onTable DeliveryStore.queue (fun s T => { s with queue := T }) .rejected stmt

def enqueuedRow (request : SlackDeliveryRequest) (now : Nat) (createdAt : Int) (T : Table slackDeliveryQueue) :
    SlackDeliveryRow where
  id := T.nextRowId SlackDeliveryRow.id
  request := request
  status := .pending
  availableAt := toI64 now
  attemptCount := 0
  createdAt := createdAt

/-- `enqueue_slack_delivery` と `enqueue_slack_stop_stream_delivery`。新しい行なら `true`。 -/
def enqueueSlackDelivery (request : SlackDeliveryRequest) (now : Nat) (createdAt : Int) : DeliveryTx Bool := do
  let inserted ← onQueue fun T => T.insertOrIgnore (fun _ => none) (enqueuedRow request now createdAt T)
  return inserted == 1

inductive SlackDeliveryClaim where
  | ready (delivery : SlackDeliveryRequest)
  | delivered (receipt : SlackDeliveryReceipt)
  | deferred (availableAt : Nat)
deriving DecidableEq, Repr

def throttleOf (channel : String × String) (s : DeliveryStore) : Int :=
  ((s.throttles.rows.find? fun t => t.channel == channel).map SlackChannelThrottleRow.nextAvailableAt).getD 0

def readyAt (s : DeliveryStore) (r : SlackDeliveryRow) : Int := max r.availableAt (throttleOf r.request.channel s)

def updateDelivery (p : SlackDeliveryRow → Bool) (f : SlackDeliveryRow → SlackDeliveryRow) : DeliveryTx Nat :=
  onQueue fun T => T.update (fun _ _ => none) p f

def markProcessing (key : DeliveryKey) : DeliveryTx Nat :=
  updateDelivery (fun r => r.request.key == key && r.status == .pending) fun r =>
    { r with
      status := .processing
      attemptCount := r.attemptCount + 1 }

def findPost (key : DeliveryKey) (s : DeliveryStore) : Option SlackDeliveryRow :=
  s.queue.rows.find? fun r => r.request.key == key && r.request.operation == .postMessage

def claimPending (row : SlackDeliveryRow) (now : Nat) : DeliveryTx SlackDeliveryClaim := do
  let availableAt ← Tx.read fun s => readyAt s row
  if toI64 now < availableAt then return .deferred availableAt.toNat
  else
    let claimed ← markProcessing row.request.key
    return if claimed = 0 then .deferred (saturatingAdd now 1) else .ready row.request

def claimRow (key : DeliveryKey) (now : Nat) : DeliveryTx SlackDeliveryClaim := do
  let found ← Tx.read (findPost key)
  let row ← Tx.orElseFail found .rowNotFound
  if row.status = .pending then claimPending row now else return .deferred (saturatingAdd now 1)

def findReceipt (key : DeliveryKey) (s : DeliveryStore) : Option SlackDeliveryReceiptRow :=
  s.receipts.rows.find? fun r => r.receipt.key == key

def claimSlackDelivery (key : DeliveryKey) (now : Nat) : DeliveryTx SlackDeliveryClaim := do
  match ← Tx.read (findReceipt key) with
  | some row => return .delivered row.receipt
  | none => claimRow key now

/-- `order by max(available_at, …), created_at, id` の順で先に来るか。 -/
def isBefore (s : DeliveryStore) (a b : SlackDeliveryRow) : Bool :=
  readyAt s a < readyAt s b || (readyAt s a == readyAt s b
    && (a.createdAt < b.createdAt || (a.createdAt == b.createdAt && a.id < b.id)))

def firstDue (now : Nat) (s : DeliveryStore) : Option SlackDeliveryRow :=
  (s.queue.rows.filter fun r => r.status == .pending && readyAt s r ≤ toI64 now).foldl
    (fun best r => match best with
      | none => some r
      | some b => if isBefore s r b then some r else some b) none

/-- `claim_next_due_slack_delivery_operation`。 -/
def claimNextDue (now : Nat) : DeliveryTx (Option SlackDeliveryRequest) := do
  match ← Tx.read (firstDue now) with
  | none => return none
  | some row =>
    let claimed ← markProcessing row.request.key
    return if claimed = 0 then none else some row.request

/-! ## 状態を問う -/

inductive SlackDeliveryStatusKind where
  | pending
  | deferred
  | processing
  | delivered
  | failed
deriving DecidableEq, Repr

def SlackDeliverySender.kind : SlackDeliverySender → String
  | .bot => "bot"
  | .user _ => "user"

def SlackDeliverySender.key : SlackDeliverySender → Option String
  | .bot => none
  | .user key => some key

def SlackDeliveryOperation.messageTs : SlackDeliveryOperation → Option String
  | .postMessage => none
  | .stopStream messageTs => some messageTs

structure SlackDeliveryStatusReport where
  connectorId : String
  workspaceId : String
  channelId : String
  threadTs : Option String
  messageTs : Option String
  requestDedupeKey : String
  status : SlackDeliveryStatusKind
  availableAt : Option Nat
  attemptCount : Option Int
  sender : SlackDeliverySender
deriving DecidableEq, Repr

def findDelivery (key : DeliveryKey) (s : DeliveryStore) : Option SlackDeliveryRow :=
  s.queue.rows.find? fun r => r.request.key == key

def reportReceipt (receipt : SlackDeliveryReceipt) : SlackDeliveryStatusReport where
  connectorId := receipt.connectorId
  workspaceId := receipt.workspaceId
  channelId := receipt.channelId
  threadTs := receipt.threadTs
  messageTs := some receipt.messageTs
  requestDedupeKey := receipt.requestDedupeKey
  status := .delivered
  availableAt := none
  attemptCount := none
  sender := receipt.sender

def statusKind (status : SlackDeliveryStatus) (availableAt now : Int) : SlackDeliveryStatusKind :=
  match status with
  | .pending => if now < availableAt then .deferred else .pending
  | .processing => .processing
  | .failed => .failed
  | .delivered => .delivered

def reportRow (s : DeliveryStore) (row : SlackDeliveryRow) (now : Nat) : SlackDeliveryStatusReport where
  connectorId := row.request.connectorId
  workspaceId := row.request.workspaceId
  channelId := row.request.channelId
  threadTs := row.request.threadTs
  messageTs := row.request.operation.messageTs
  requestDedupeKey := row.request.requestDedupeKey
  status := statusKind row.status (readyAt s row) (toI64 now)
  availableAt := some (readyAt s row).toNat
  attemptCount := some row.attemptCount
  sender := row.request.sender

def slackDeliveryStatus (key : DeliveryKey) (now : Nat) (s : DeliveryStore) : Option SlackDeliveryStatusReport :=
  match findReceipt key s with
  | some row => some (reportReceipt row.receipt)
  | none => (findDelivery key s).map fun row => reportRow s row now

def retrySlackDelivery (key : DeliveryKey) (availableAt : Nat) : DeliveryTx Unit := do
  let _ ← updateDelivery (fun r => r.request.key == key) fun r =>
    { r with
      status := .pending
      availableAt := toI64 availableAt }
  return ()

def insertReceipt (row : SlackDeliveryReceiptRow) : DeliveryTx Nat :=
  onTable DeliveryStore.receipts (fun s T => { s with receipts := T }) .rejected
    fun T => T.insertOrIgnore (fun _ => none) row

def markDelivered (key : DeliveryKey) : DeliveryTx Nat :=
  updateDelivery (fun r => r.request.key == key) fun r => { r with status := .delivered }

def advanceThrottle (channel : String × String) (nextAvailableAt : Nat) : DeliveryTx Unit :=
  onTable DeliveryStore.throttles (fun s T => { s with throttles := T }) .rejected fun T =>
    (T.upsert (fun r => { r with nextAvailableAt := max r.nextAvailableAt (toI64 nextAvailableAt) })
      ⟨channel.1, channel.2, toI64 nextAvailableAt⟩).map (·, ())

def completeSlackDelivery (receipt : SlackDeliveryReceipt) (responseJson : String) (nextAvailableAt : Nat) :
    DeliveryTx Unit := do
  let _ ← insertReceipt ⟨receipt, responseJson⟩
  let _ ← markDelivered receipt.key
  advanceThrottle receipt.channel nextAvailableAt

end Codeoff.Slack
