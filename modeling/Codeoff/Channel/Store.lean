import Codeoff.Channel.Contract
import Codeoff.Slack.DeliveryStore

/-!
# チャネルの保存領域

受け取った出来事と待ち行列、下書き、会話、文脈の取得の記録への操作。どれも一つのトランザクションである。
-/

/-!
## チャネルの表の宣言

受け取った出来事の表と、それを処理する待ち行列の表。CHECK と UNIQUE は移行の宣言のとおりに書く。`payload_json` は、本体が
書き出して読み戻す出来事のまま持つ。`json_valid` は、`serde_json` が書き出した文面なのでいつも成り立つ。
-/

namespace Codeoff.Channel

open Codeoff.Core Codeoff.Relational Codeoff.Slack
open Codeoff.State (sqlLength)

structure SlackSourceEvent where
  workspaceId : String
  eventKind : String
  dedupeKey : String
  envelopeId : Option String
  eventId : Option String
  channelId : Option String
  threadTs : Option String
  messageTs : Option String
  userId : Option String
  rawPayloadJson : String
deriving DecidableEq, Repr

abbrev SlackSourceEvent.Check (r : SlackSourceEvent) : Prop :=
  0 < sqlLength r.workspaceId ∧ 0 < sqlLength r.eventKind ∧ 0 < sqlLength r.dedupeKey

def slackSourceEvents : Schema SlackSourceEvent where
  check r := decide r.Check
  conflict a b := a.workspaceId == b.workspaceId && a.dedupeKey == b.dedupeKey
  conflict_symm a b := by simp only [BEq.comm]

inductive ChannelEventStatus where
  | pending
  | processing
  | processed
  | failed
deriving DecidableEq, Repr

structure ChannelEventRow where
  id : Nat
  provider : String
  workspaceId : String
  dedupeKey : String
  eventKind : String
  payload : ChannelEvent
  status : ChannelEventStatus
  availableAt : Int
  attemptCount : Int
  lastError : Option String
deriving DecidableEq, Repr

abbrev ChannelEventRow.Check (r : ChannelEventRow) : Prop :=
  (0 < sqlLength r.provider ∧ 0 < sqlLength r.workspaceId ∧ 0 < sqlLength r.dedupeKey ∧
    0 < sqlLength r.eventKind) ∧
  0 ≤ r.attemptCount

def channelEventQueue : Schema ChannelEventRow where
  check r := decide r.Check
  conflict a b := a.id == b.id ||
    (a.provider == b.provider && a.workspaceId == b.workspaceId && a.dedupeKey == b.dedupeKey)
  conflict_symm a b := by simp only [BEq.comm]

structure AgentDraft where
  provider : String
  channelId : Option String
  threadId : Option String
  messageTs : Option String
  userId : Option String
  eventId : String
  dedupeKey : String
  content : String
deriving DecidableEq, Repr

structure AgentDraftRow where
  channelEventQueueId : Nat
  draft : AgentDraft
deriving DecidableEq, Repr

abbrev AgentDraftRow.Check (r : AgentDraftRow) : Prop :=
  0 < sqlLength r.draft.provider ∧ 0 < sqlLength r.draft.eventId ∧ 0 < sqlLength r.draft.dedupeKey ∧
    0 < sqlLength r.draft.content

def agentDrafts : Schema AgentDraftRow where
  check r := decide r.Check
  conflict a b := a.channelEventQueueId == b.channelEventQueueId
  conflict_symm a b := by simp only [BEq.comm]

structure ChannelConversationKey where
  provider : String
  workspaceId : String
  conversationKind : String
  channelId : Option String
  threadId : Option String
  userId : Option String
deriving DecidableEq, Repr

structure ConversationRowKey where
  provider : String
  workspaceId : String
  conversationKind : String
  channelId : String
  threadId : String
  userId : String
deriving DecidableEq, Repr

def normalizedKeyPart (value : Option String) : String := value.getD ""

def ChannelConversationKey.normalized (key : ChannelConversationKey) : ConversationRowKey where
  provider := key.provider
  workspaceId := key.workspaceId
  conversationKind := key.conversationKind
  channelId := normalizedKeyPart key.channelId
  threadId := normalizedKeyPart key.threadId
  userId := normalizedKeyPart key.userId

/-- 種別ごとに、どの部分が空でどの部分が空でないか。 -/
abbrev ConversationRowKey.Check (k : ConversationRowKey) : Prop :=
  (0 < sqlLength k.provider ∧ 0 < sqlLength k.workspaceId ∧ k.conversationKind ∈ ["thread", "dm", "channel"]) ∧
  (k.conversationKind ≠ "thread" ∨
    (0 < sqlLength k.channelId ∧ 0 < sqlLength k.threadId ∧ sqlLength k.userId = 0)) ∧
  (k.conversationKind ≠ "dm" ∨
    (0 < sqlLength k.channelId ∧ sqlLength k.threadId = 0 ∧ 0 < sqlLength k.userId)) ∧
  (k.conversationKind ≠ "channel" ∨
    (0 < sqlLength k.channelId ∧ sqlLength k.threadId = 0 ∧ sqlLength k.userId = 0))

structure ConversationRow where
  key : ConversationRowKey
  value : String
deriving DecidableEq, Repr

abbrev ConversationRow.Check (r : ConversationRow) : Prop := r.key.Check ∧ 0 < sqlLength r.value

def conversationTable : Schema ConversationRow where
  check r := decide r.Check
  conflict a b := a.key == b.key
  conflict_symm a b := by simp only [BEq.comm]

/-- `channel_conversations` の値は `codex_thread_id`。 -/
abbrev channelConversations : Schema ConversationRow := conversationTable

/-- `channel_conversation_summaries` の値は `summary`。 -/
abbrev channelConversationSummaries : Schema ConversationRow := conversationTable

inductive ContextFetchStatus where
  | success
  | failed
deriving DecidableEq, Repr

structure ContextFetchAttemptRecord where
  operation : String
  provider : String
  workspaceId : String
  connectorId : String
  dedupeKey : String
  channelId : Option String
  threadId : Option String
  messageTs : Option String
  status : ContextFetchStatus
  errorKind : Option String
  errorMessage : Option String
deriving DecidableEq, Repr

abbrev ContextFetchAttemptRecord.Check (r : ContextFetchAttemptRecord) : Prop :=
  0 < sqlLength r.provider ∧ 0 < sqlLength r.workspaceId ∧ 0 < sqlLength r.connectorId ∧
    0 < sqlLength r.dedupeKey ∧ 0 < sqlLength r.operation

def contextFetchAttempts : Schema ContextFetchAttemptRecord where
  check r := decide r.Check
  conflict _ _ := false
  conflict_symm _ _ := rfl

structure ChannelStore where
  sourceEvents : Table slackSourceEvents
  queue : Table channelEventQueue
  drafts : Table agentDrafts
  conversations : Table channelConversations
  summaries : Table channelConversationSummaries
  contextAttempts : Table contextFetchAttempts
  deliveries : DeliveryStore

def ChannelStore.empty : ChannelStore where
  sourceEvents := .empty _
  queue := .empty _
  drafts := .empty _
  conversations := .empty _
  summaries := .empty _
  contextAttempts := .empty _
  deliveries := .empty

abbrev ChannelTx := Tx ChannelStore Violation

def queuedRow (now : Int) (event : ChannelEvent) (T : Table channelEventQueue) : ChannelEventRow where
  id := T.nextRowId ChannelEventRow.id
  provider := event.provider
  workspaceId := event.workspaceId
  dedupeKey := event.dedupeKey
  eventKind := event.kind.debugName
  payload := event
  status := .pending
  availableAt := now
  attemptCount := 0
  lastError := none

/-- `persist_slack_source_event`。新しい出来事なら `true`。 -/
def persistSlackSourceEvent (now : Int) (source : SlackSourceEvent) (event : ChannelEvent) : ChannelTx Bool := do
  let inserted ← onTable ChannelStore.sourceEvents (fun s T => { s with sourceEvents := T }) id
    fun T => T.insertOrIgnore (fun _ => none) source
  if inserted = 1 then
    let _ ← onTable ChannelStore.queue (fun s T => { s with queue := T }) id
      fun T => T.insertOrIgnore (fun _ => none) (queuedRow now event T)
    return true
  else return false

structure ClaimedChannelEvent where
  id : Nat
  attemptCount : Int
  event : ChannelEvent

/-- `order by available_at, id` の順で先に来るか。 -/
def ChannelEventRow.before (a b : ChannelEventRow) : Bool :=
  a.availableAt < b.availableAt || (a.availableAt == b.availableAt && a.id < b.id)

def nextDueEvent (now : Int) (T : Table channelEventQueue) : Option ChannelEventRow :=
  (T.rows.filter fun r => r.status == .pending && r.availableAt ≤ now).foldl
    (fun best r => match best with
      | none => some r
      | some b => if r.before b then some r else some b) none

def updateQueue (p : ChannelEventRow → Bool) (f : ChannelEventRow → ChannelEventRow) : ChannelTx Nat :=
  onTable ChannelStore.queue (fun s T => { s with queue := T }) id fun T => T.update (fun _ _ => none) p f

def claimNextChannelEvent (now : Int) : ChannelTx (Option ClaimedChannelEvent) := do
  match nextDueEvent now (← Tx.read ChannelStore.queue) with
  | none => return none
  | some row =>
    let _ ← updateQueue (fun r => r.id == row.id && r.status == .pending) fun r =>
      { r with
        status := .processing
        attemptCount := r.attemptCount + 1 }
    return some {
      id := row.id
      attemptCount := row.attemptCount + 1
      event := row.payload }

/-- `where id = ?1 and status = 'processing'` の更新。 -/
def updateClaimed (id : Nat) (f : ChannelEventRow → ChannelEventRow) : ChannelTx Unit := do
  let _ ← updateQueue (fun r => r.id == id && r.status == .processing) f
  return ()

def completeChannelEvent (id : Nat) : ChannelTx Unit :=
  updateClaimed id fun r => { r with status := .processed }

def releaseChannelEvent (id : Nat) (delaySeconds : Nat) (now : Int) : ChannelTx Unit :=
  updateClaimed id fun r =>
    { r with
      status := .pending
      attemptCount := max (r.attemptCount - 1) 0
      availableAt := now + max delaySeconds 1 }

def failChannelEvent (id : Nat) (error : String) : ChannelTx Unit :=
  updateClaimed id fun r =>
    { r with
      status := .failed
      lastError := some error }

/-- 出来事に対応する Slack の参照。見つからなければ、どれも無い。 -/
structure SlackSourceReferences where
  found : Bool
  channelId : Option String
  threadId : Option String
  messageTs : Option String
  userId : Option String
deriving DecidableEq, Repr

def slackSourceReferences (workspaceId dedupeKey : String) (s : ChannelStore) : SlackSourceReferences :=
  match s.sourceEvents.rows.find? fun r => r.workspaceId == workspaceId && r.dedupeKey == dedupeKey with
  | none => ⟨false, none, none, none, none⟩
  | some r => ⟨true, r.channelId, r.threadTs, r.messageTs, r.userId⟩

def conversationValue (key : ChannelConversationKey) (T : Table conversationTable) : Option String :=
  (T.rows.find? fun r => r.key == key.normalized).map ConversationRow.value

def channelConversationThreadId (key : ChannelConversationKey) (s : ChannelStore) : Option String :=
  conversationValue key s.conversations

def channelConversationSummary (key : ChannelConversationKey) (s : ChannelStore) : Option String :=
  conversationValue key s.summaries

def upsertConversation (key : ChannelConversationKey) (value : String) (T : Table conversationTable) :
    Except Violation (Table conversationTable × Unit) :=
  (T.upsert (fun r => { r with value }) ⟨key.normalized, value⟩).map (·, ())

def upsertChannelConversationThreadId (key : ChannelConversationKey) (codexThreadId : String) : ChannelTx Unit :=
  onTable ChannelStore.conversations (fun s T => { s with conversations := T }) id (upsertConversation key codexThreadId)

def upsertChannelConversationSummary (key : ChannelConversationKey) (summary : String) : ChannelTx Unit :=
  onTable ChannelStore.summaries (fun s T => { s with summaries := T }) id (upsertConversation key summary)

def saveAgentDraft (queueEventId : Nat) (draft : AgentDraft) : ChannelTx Unit := do
  let _ ← onTable ChannelStore.drafts (fun s T => { s with drafts := T }) id
    fun T => T.insertOrIgnore (fun _ => none) ⟨queueEventId, draft⟩
  return ()

def recordContextFetchAttempt (attempt : ContextFetchAttemptRecord) : ChannelTx Unit :=
  onTable ChannelStore.contextAttempts (fun s T => { s with contextAttempts := T }) id
    fun T => (T.insert (fun _ => none) attempt).map (·, ())

end Codeoff.Channel
