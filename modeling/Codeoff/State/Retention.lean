import Codeoff.State.DeliveryOutcome

/-!
# 履歴の整理

終わった実行の履歴を、実行・試行・成果・証拠・配送の全体について一度に消す。監査のトリガと削除の番人が
確かめる条件は、ここで行を選ぶ条件と同じなので、選択の条件だけを書く。
-/

namespace Codeoff.State

open Codeoff.Core Codeoff.Relational

def validateDeliveryRetentionRequest (operationId runId : String) (now : Int) :
    Except StateError Unit := do
  invalidValue (validateText "scheduled delivery retention operation" operationId)
  invalidValue (validateText "scheduled delivery retention run id" runId)
  if now < 0 then invalidState "scheduled delivery retention timestamp must be nonnegative"

def isBaselineSource (s : Store) (r : ScheduledRunRow) : Bool :=
  s.baselines.rows.any fun b => b.jobId == r.jobId
    && (b.result.map BaselineResult.sourceRunId) == some r.runId

def ScheduledDeliveryState.isSettled (s : ScheduledDeliveryState) : Bool :=
  s == .delivered || s == .failedTerminal || s == .skippedNone || s == .skippedUnchanged

def isLatestAttempt (r : ScheduledRunRow) (a : RunAttemptRow) : Bool :=
  a.runId == r.runId && a.jobId == r.jobId && a.attempt == r.attempt && a.fence == r.fence

/-- 期待する世代と終わりの時刻。`none` は問わない。 -/
structure RetentionExpectation where
  jobGeneration : Option Int
  scheduleGeneration : Option Int
  terminalAt : Option Int
deriving DecidableEq, Repr

def RetentionExpectation.any : RetentionExpectation := ⟨none, none, none⟩

def prunableSuccess (s : Store) (e : RetentionExpectation) (runCutoff : Int) (r : ScheduledRunRow) :
    Bool :=
  r.state == .succeeded && r.updatedAt ≤ runCutoff && e.jobGeneration.all (r.jobGeneration == ·)
    && e.scheduleGeneration.all (r.scheduleGeneration == ·) && !isBaselineSource s r
    && s.attempts.rows.any (fun a => isLatestAttempt r a && a.state == .succeeded
      && a.completedAt.any (· ≤ runCutoff) && e.terminalAt.all (a.completedAt == some ·)
      && s.artifacts.rows.any fun t => artifactBinds t r && a.completedAt == some t.completedAt
        && r.resultHash == some (t.hashAlgorithm, t.resultHash)
        && r.resultContext == some t.previousSuccessContext)

def prunableDelivery (deliveryCutoff : Int) (d : ScheduledDeliveryRow) : Bool :=
  d.payload.isSome && d.state.isSettled && d.updatedAt ≤ deliveryCutoff

def claimRetention (operationId runId : String) (now : Int) :
    List ScheduledDeliveryRow → StoreTx Unit
  | [] => pure ()
  | d :: ds => do
    let prior ← Tx.read fun s => s.deliveryRetention.rows.find? fun l => l.deliveryId == d.deliveryId
    match prior with
    | some l =>
      if l.operationId = operationId then Tx.fail (.scheduler .unique)
      else Tx.fail .scheduledDeliveryRetentionConflict
    | none => do
      statement Store.deliveryRetention (fun s T => { s with deliveryRetention := T }) fun _ T =>
        inserted (T.insert noInsertTrigger ⟨operationId, d.deliveryId, runId, d.jobId, now⟩)
      claimRetention operationId runId now ds

def deleteRunRows (runId : String) (s : Store) : Store :=
  { s with
    lateEvidence := (s.lateEvidence.delete fun e => e.runId == runId).1
    attempts := (s.attempts.delete fun a => a.runId == runId).1
    runs := (s.runs.delete fun r => r.runId == runId).1 }

def deleteRunHistory (runId : String) (s : Store) : Store :=
  let deliveryIds := (s.deliveries.rows.filter fun d => d.runId == runId).map
    ScheduledDeliveryRow.deliveryId
  deleteRunRows runId { s with
    deliveryAttempts := (s.deliveryAttempts.delete fun a => deliveryIds.contains a.deliveryId).1
    deliveries := (s.deliveries.delete fun d => d.runId == runId).1
    artifacts := (s.artifacts.delete fun a => a.runId == runId).1 }

def pruneScheduledDeliveryHistory (operationId runId : String) (runCutoff deliveryCutoff now : Int)
    (e : RetentionExpectation) : StoreTx Unit := do
  Tx.check (validateDeliveryRetentionRequest operationId runId now)
  Tx.require (0 ≤ runCutoff && 0 ≤ deliveryCutoff && runCutoff ≤ now && deliveryCutoff ≤ now)
    (.invalidSchedulerState
      "scheduled retention cutoffs must be nonnegative and not after authorization")
  let eligible ← Tx.read fun s => s.runs.rows.any fun r => r.runId == runId
    && prunableSuccess s e runCutoff r
  let deliveries ← Tx.read fun s => (s.deliveries.rows.filter fun d => d.runId == runId).insertionSort
    fun a b => a.deliveryId ≤ b.deliveryId
  Tx.require (eligible && !deliveries.isEmpty && deliveries.all (prunableDelivery deliveryCutoff))
    .scheduledDeliveryRetentionConflict
  claimRetention operationId runId now deliveries
  Tx.modify (deleteRunHistory runId)

def settlesRun (r : ScheduledRunRow) (a : RunAttemptRow) : Bool :=
  match r.state, a.state with
  | .failed, .failed => true
  | .failed, .preflightRejected => true
  | .failed, .leaseExpired => true
  | .timedOut, .timedOut => true
  | .cancelled, .cancelled => true
  | _, _ => false

/-- 成功でない終わりの実行で、`terminalAt` に終わったもの。 -/
def prunableTerminal (s : Store) (jobGeneration scheduleGeneration : Int) (state : ScheduledRunState)
    (terminalAt cutoffAt : Int) (r : ScheduledRunRow) : Bool :=
  r.jobGeneration == jobGeneration && r.scheduleGeneration == scheduleGeneration && r.state == state
    && r.state.isRetryable && r.resultArtifactId.isNone && r.updatedAt ≤ cutoffAt
    && !s.deliveries.rows.any (fun d => d.runId == r.runId) && !isBaselineSource s r
    && ((r.attempt == 0 && r.state == .cancelled && r.updatedAt == terminalAt)
      || s.attempts.rows.any fun a => isLatestAttempt r a && settlesRun r a
        && a.completedAt == some terminalAt)

def pruneTerminalScheduledRunHistory (operationId runId : String)
    (jobGeneration scheduleGeneration : Int) (state : ScheduledRunState)
    (terminalAt cutoffAt now : Int) : StoreTx Unit := do
  Tx.check (validateDeliveryRetentionRequest operationId runId now)
  let found ← Tx.read fun s => s.runs.rows.find? fun r => r.runId == runId
    && prunableTerminal s jobGeneration scheduleGeneration state terminalAt cutoffAt r
  Tx.require (terminalAt ≤ cutoffAt && cutoffAt ≤ now) .scheduledRunRetentionConflict
  let r ← Tx.orElseFail found .scheduledRunRetentionConflict
  statement Store.runRetention (fun s T => { s with runRetention := T }) fun _ T =>
    inserted (T.insert noInsertTrigger ⟨operationId, runId, r.jobId, terminalAt, cutoffAt, now⟩)
  Tx.modify (deleteRunRows runId)

end Codeoff.State
