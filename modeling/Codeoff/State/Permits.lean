import Codeoff.State.System

/-!
# 実行の許可の消費

実行者の一つの世代のもとで、実行の一回の試行を始める許可。許可は一度だけ消費でき、消費の記録は、世代が替わり期限が
過ぎて試行が終わった後に、番人の列を開いて整理される。
-/

namespace Codeoff.State

open Codeoff.Core Codeoff.Relational

/-- `length(x) = 64 and x = lower(x)`。 -/
def isDigestColumn (s : String) : Bool :=
  sqlLength s == 64 && (utf8Bytes s).all fun b => !(65 ≤ b && b ≤ 90)

structure PermitConsumptionRow where
  permitId : String
  deploymentEpoch : Int
  attestationId : String
  profileDigest : String
  runId : String
  jobId : String
  attempt : Int
  fence : Int
  authorityDigest : String
  nonce : String
  consumedAt : Int
  authorityExpiresAt : Option Int
deriving DecidableEq

abbrev PermitConsumptionRow.Check (r : PermitConsumptionRow) : Prop :=
  (0 < r.deploymentEpoch ∧ 0 < r.attempt ∧ 0 < r.fence ∧ 0 < r.consumedAt) ∧
  ([r.attestationId, r.profileDigest, r.authorityDigest, r.nonce, r.permitId].all isDigestColumn) ∧
  0 < sqlLength r.runId ∧ 0 < sqlLength r.jobId

/-- 許可そのもの、実行の試行、世代の中の nonce は、それぞれ一度だけ現れる。 -/
def scheduledExecutionPermitConsumptions : Schema PermitConsumptionRow where
  check r := decide r.Check
  conflict a b := a.permitId == b.permitId || (a.runId, a.attempt, a.fence) == (b.runId, b.attempt, b.fence)
    || (a.deploymentEpoch, a.nonce) == (b.deploymentEpoch, b.nonce)
  conflict_symm a b := by simp only [BEq.comm]

structure PermitStore where
  base : Store
  consumptions : Table scheduledExecutionPermitConsumptions
  /-- `scheduled_execution_permit_retention_guard` の `enabled`。 -/
  retentionEnabled : Bool

def PermitStore.empty : PermitStore := ⟨.empty, .empty _, false⟩

abbrev PermitTx := Tx PermitStore StateError

/-! ## 消費 -/

structure ConsumeScheduledExecutionPermit where
  deploymentEpoch : Int
  attestationId : String
  profileDigest : String
  runId : String
  jobId : String
  attempt : Int
  fence : Int
  authorityDigest : String
  nonce : String
  permitId : String
  consumedAt : Int
deriving DecidableEq

def ConsumeScheduledExecutionPermit.validate (p : ConsumeScheduledExecutionPermit) :
    Except StateValueError Unit := do
  if p.deploymentEpoch ≤ 0 ∨ p.attempt ≤ 0 ∨ p.fence ≤ 0 ∨ p.consumedAt ≤ 0 ∨ p.runId = ""
      ∨ p.jobId = "" then
    throw (.invalidValue "scheduled execution permit binding")
  validateLowercaseSha256 "scheduled execution attestation id" p.attestationId
  validateLowercaseSha256 "scheduled execution profile digest" p.profileDigest
  validateLowercaseSha256 "scheduled execution authority digest" p.authorityDigest
  validateLowercaseSha256 "scheduled execution permit nonce" p.nonce
  validateLowercaseSha256 "scheduled execution permit id" p.permitId

def ConsumeScheduledExecutionPermit.isCurrent (p : ConsumeScheduledExecutionPermit)
    (row : ExecutorEpochRow) : Bool :=
  row.deploymentEpoch == p.deploymentEpoch && row.attestationId == p.attestationId
    && row.profileDigest == p.profileDigest && row.expiresAt > p.consumedAt

def ConsumeScheduledExecutionPermit.row (p : ConsumeScheduledExecutionPermit) (expiresAt : Int) :
    PermitConsumptionRow where
  permitId := p.permitId
  deploymentEpoch := p.deploymentEpoch
  attestationId := p.attestationId
  profileDigest := p.profileDigest
  runId := p.runId
  jobId := p.jobId
  attempt := p.attempt
  fence := p.fence
  authorityDigest := p.authorityDigest
  nonce := p.nonce
  consumedAt := p.consumedAt
  authorityExpiresAt := some expiresAt

def insertConsumption (r : PermitConsumptionRow) : PermitTx Unit := fun s =>
  match s.consumptions.insert noInsertTrigger r with
  | .ok T => .ok ((), { s with consumptions := T })
  | .error .unique =>
    .error (.invalidSchedulerState "scheduled execution permit was already consumed or replayed")
  | .error v => .error (.scheduler v)

/-- 世代の行を読んで、その行が許可と一致するときだけ挿入する。 -/
def consumeScheduledExecutionPermit (p : ConsumeScheduledExecutionPermit) : PermitTx Unit := do
  Tx.check (invalidValue p.validate)
  let authority ← Tx.read fun s => s.base.epoch.filter p.isCurrent
  let row ← Tx.orElseFail authority
    (.invalidSchedulerState "scheduled execution permit deployment epoch is not current")
  insertConsumption (p.row row.expiresAt)

def attemptEnded (s : Store) (r : PermitConsumptionRow) : Bool :=
  !(s.runs.rows.any fun run => run.runId == r.runId)
    || s.runs.rows.any (fun run => run.runId == r.runId && (run.state == .succeeded || run.state == .failed
      || run.state == .timedOut || run.state == .cancelled || run.state == .outcomeUnknown))
    || s.attempts.rows.any fun a => a.runId == r.runId && a.attempt == r.attempt && a.fence == r.fence
      && !a.state.isOpen

/-- 整理してよい記録。世代の行がなければ、比較が NULL になって何も選ばれない。 -/
def expiredConsumption (s : Store) (now : Int) (r : PermitConsumptionRow) : Bool :=
  r.authorityExpiresAt.any (· ≤ now)
    && s.epoch.any (fun row => r.deploymentEpoch != row.deploymentEpoch) && attemptEnded s r

/-- `order by authority_expires_at, consumed_at, permit_id`。 -/
def expiresBefore (a b : PermitConsumptionRow) : Bool :=
  let expiry (r : PermitConsumptionRow) : Int := r.authorityExpiresAt.getD 0
  expiry a < expiry b || (expiry a == expiry b && (a.consumedAt < b.consumedAt
    || (a.consumedAt == b.consumedAt && a.permitId ≤ b.permitId)))

def setRetentionGuard (enabled : Bool) (message : String) : PermitTx Unit := do
  let current ← Tx.read PermitStore.retentionEnabled
  Tx.require (current != enabled) (.invalidSchedulerState message)
  Tx.modify fun s => { s with retentionEnabled := enabled }

/-- `delete`。番人が閉じていれば、トリガが拒む。 -/
def deleteConsumptions (p : PermitConsumptionRow → Bool) : PermitTx Nat := do
  let refused ← Tx.read fun s => s.consumptions.rows.any p && !s.retentionEnabled
  Tx.require (!refused) (.scheduler
    (.trigger "scheduled execution permit consumption requires retention authority"))
  let deleted ← Tx.read fun s => (s.consumptions.delete p).2
  Tx.modify fun s => { s with consumptions := (s.consumptions.delete p).1 }
  return deleted

def cleanupScheduledExecutionPermits (now : Int) (limit : Nat) : PermitTx Nat := do
  setRetentionGuard true "scheduled execution permit retention authority is unavailable"
  let selected ← Tx.read fun s =>
    ((s.consumptions.rows.filter (expiredConsumption s.base now)).insertionSort
      fun a b => expiresBefore a b).take limit
  let deleted ← deleteConsumptions fun r => selected.any fun o => o.permitId == r.permitId
  setRetentionGuard false "scheduled execution permit retention authority did not close"
  return deleted

/-- 保存領域の操作と、許可の消費と整理。世代の登録は保存領域の操作である。 -/
inductive PermitOp where
  | store (op : Op)
  | consume (permit : ConsumeScheduledExecutionPermit)
  | cleanup (now : Int) (limit : Nat)

def PermitOp.apply (E : Env) (op : PermitOp) (s : PermitStore) : PermitStore :=
  match op with
  | .store op => { s with base := op.apply E s.base }
  | .consume permit => (commit (consumeScheduledExecutionPermit permit) s).2
  | .cleanup now limit => (commit (cleanupScheduledExecutionPermits now limit) s).2

def PermitOp.accepted (op : PermitOp) (s : PermitStore) : List ConsumeScheduledExecutionPermit :=
  match op with
  | .consume permit =>
    match (commit (consumeScheduledExecutionPermit permit) s).1 with
    | .ok _ => [permit]
    | .error _ => []
  | _ => []

/-- 保存領域と、これまでに受け入れられた許可の並び。新しいものが前にある。 -/
structure PermitHistory where
  store : PermitStore
  accepted : List ConsumeScheduledExecutionPermit

def PermitHistory.initial : PermitHistory := ⟨.empty, []⟩

def PermitHistory.next (E : Env) (op : PermitOp) (h : PermitHistory) : PermitHistory :=
  ⟨op.apply E h.store, op.accepted h.store ++ h.accepted⟩

def PermitStep (E : Env) (h h' : PermitHistory) : Prop := ∃ op : PermitOp, h.next E op = h'

end Codeoff.State
