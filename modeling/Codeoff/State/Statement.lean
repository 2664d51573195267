import Codeoff.Relational.Transaction
import Codeoff.State.Schema

/-!
# 表への文

各表への insert・update・delete と、その BEFORE / AFTER トリガ。トリガの条件は移行の文言のとおりで、
計数（scheduler_transition_totals）だけを行うトリガは、どの操作も読まないので省く。
-/

namespace Codeoff.State

open Codeoff.Core Codeoff.Relational

abbrev StoreTx := Tx Store StateError

def statement {R α : Type} {S : Schema R} (get : Store → Table S) (set : Store → Table S → Store)
    (stmt : Store → Table S → Except Violation (Table S × α)) : StoreTx α := fun s =>
  match stmt s (get s) with
  | .ok (T, a) => .ok (a, set s T)
  | .error v => .error (.scheduler v)

theorem statement_ok {R α : Type} {S : Schema R} {get : Store → Table S}
    {set : Store → Table S → Store} {stmt : Store → Table S → Except Violation (Table S × α)}
    {s s' : Store} {a : α} :
    statement get set stmt s = .ok (a, s') ↔ ∃ T, stmt s (get s) = .ok (T, a) ∧ s' = set s T := by
  unfold statement
  cases h : stmt s (get s) with
  | error v => simp
  | ok p =>
    obtain ⟨T, b⟩ := p
    simp only [Except.ok.injEq, Prod.mk.injEq]
    constructor
    · rintro ⟨rfl, rfl⟩
      exact ⟨T, ⟨rfl, rfl⟩, rfl⟩
    · rintro ⟨T', ⟨rfl, rfl⟩, rfl⟩
      exact ⟨rfl, rfl⟩

theorem statement_error {R α : Type} {S : Schema R} {get : Store → Table S}
    {set : Store → Table S → Store} {stmt : Store → Table S → Except Violation (Table S × α)}
    {s : Store} {e : StateError} (h : statement get set stmt s = .error e) : ∃ v, e = .scheduler v := by
  unfold statement at h
  split at h
  · cases h
  · cases h
    exact ⟨_, rfl⟩

def inserted {R : Type} {S : Schema R} (r : Except Violation (Table S)) :
    Except Violation (Table S × Unit) := r.map (·, ())

theorem inserted_ok {R : Type} {S : Schema R} {r : Except Violation (Table S)} {T : Table S} {u : Unit} :
    inserted r = .ok (T, u) ↔ r = .ok T := by
  cases r with
  | error v => simp [inserted, Except.map]
  | ok T' => simp [inserted, Except.map]

def noTrigger {R : Type} (_ _ : R) : Option String := none

def noInsertTrigger {R : Type} (_ : R) : Option String := none

def updateJobs (p : ScheduledJobRow → Bool) (f : ScheduledJobRow → ScheduledJobRow) : StoreTx Nat :=
  statement Store.jobs (fun s T => { s with jobs := T }) fun _ T => T.update noTrigger p f

def insertJob (r : ScheduledJobRow) : StoreTx Unit :=
  statement Store.jobs (fun s T => { s with jobs := T }) fun _ T => inserted (T.insert noInsertTrigger r)

def updateSchedules (p : ScheduleRow → Bool) (f : ScheduleRow → ScheduleRow) : StoreTx Nat :=
  statement Store.schedules (fun s T => { s with schedules := T }) fun _ T => T.update noTrigger p f

def insertSchedule (r : ScheduleRow) : StoreTx Unit :=
  statement Store.schedules (fun s T => { s with schedules := T })
    fun _ T => inserted (T.insert noInsertTrigger r)

def deleteTargets (p : DeliveryTargetRow → Bool) : StoreTx Nat :=
  statement Store.targets (fun s T => { s with targets := T }) fun _ T => .ok (T.delete p)

/-- `scheduled_job_delivery_targets` の BEFORE INSERT トリガ。 -/
def targetTrigger (r : DeliveryTargetRow) : Option String :=
  if isLowercaseSha256 r.target.identityDigest then none
  else some "scheduled job target identity must be lowercase sha256"

def insertTarget (r : DeliveryTargetRow) : StoreTx Unit :=
  statement Store.targets (fun s T => { s with targets := T })
    fun _ T => inserted (T.insert targetTrigger r)

def insertBaseline (r : ExecutionBaselineRow) : StoreTx Unit :=
  statement Store.baselines (fun s T => { s with baselines := T })
    fun _ T => inserted (T.insert noInsertTrigger r)

def updateBaselines (p : ExecutionBaselineRow → Bool)
    (f : ExecutionBaselineRow → ExecutionBaselineRow) : StoreTx Nat :=
  statement Store.baselines (fun s T => { s with baselines := T }) fun _ T => T.update noTrigger p f

/-! ## 実行と試行 -/

def artifactBinds (a : ResultArtifactRow) (r : ScheduledRunRow) : Bool :=
  r.resultArtifactId == some a.artifactId && a.runId == r.runId && a.jobId == r.jobId
    && a.acceptedAttempt == r.attempt && a.acceptedFence == r.fence

/-- `scheduled_runs` の BEFORE UPDATE トリガ。 -/
def runTriggers (s : Store) (old new : ScheduledRunRow) : Option String :=
  if new.resultArtifactId.isSome && new.resultArtifactId != old.resultArtifactId
      && !s.artifacts.rows.any (artifactBinds · new) then
    some "scheduled run result artifact binding mismatch"
  else if old.resultArtifactId.isSome && new.resultArtifactId != old.resultArtifactId then
    some "scheduled run result artifact reference is immutable"
  else if new.state == .succeeded && old.state != .succeeded
      && !s.artifacts.rows.any (fun a => artifactBinds a new
        && new.resultHash == some (a.hashAlgorithm, a.resultHash)
        && new.resultContext == some a.previousSuccessContext
        && s.attempts.rows.any fun t => t.runId == a.runId && t.attempt == a.acceptedAttempt
          && t.fence == a.acceptedFence && t.state == .succeeded && t.completedAt.isSome) then
    some "scheduled run success requires its accepted result artifact"
  else if old.state == .succeeded && (new.resultArtifactId != old.resultArtifactId
      || new.resultHash != old.resultHash || new.resultContext != old.resultContext) then
    some "scheduled run accepted result is immutable"
  else none

theorem runTriggers_none {s : Store} {old new : ScheduledRunRow} (hs : new.state ≠ .succeeded)
    (ha : new.resultArtifactId = old.resultArtifactId) (hh : new.resultHash = old.resultHash)
    (hc : new.resultContext = old.resultContext) : runTriggers s old new = none := by
  simp [runTriggers, hs, ha, hh, hc]

def updateRuns (p : ScheduledRunRow → Bool) (f : ScheduledRunRow → ScheduledRunRow) : StoreTx Nat :=
  statement Store.runs (fun s T => { s with runs := T }) fun s T => T.update (runTriggers s) p f

/-- `scheduled_runs` の BEFORE INSERT トリガ。成果を持つ行を入れる文はない。 -/
def runInsertTrigger (r : ScheduledRunRow) : Option String :=
  if r.targets ≠ [] ∧ ∀ t ∈ r.targets, isLowercaseSha256 t.identityDigest = true then none
  else some "scheduled run target identity must be lowercase sha256"

/-- `on conflict(job_id, scheduled_for) do nothing` の挿入。他の衝突は誤りになる。 -/
def insertRunOrIgnore (r : ScheduledRunRow) : StoreTx Nat :=
  statement Store.runs (fun s T => { s with runs := T }) fun _ T =>
    match runInsertTrigger r with
    | some message => .error (.trigger message)
    | none =>
      if scheduledRuns.check r = false then .error .check
      else if T.rows.any fun o => o.jobId == r.jobId && o.scheduledFor == r.scheduledFor then .ok (T, 0)
      else (T.insert noInsertTrigger r).map (·, 1)

def updateAttempts (p : RunAttemptRow → Bool) (f : RunAttemptRow → RunAttemptRow) : StoreTx Nat :=
  statement Store.attempts (fun s T => { s with attempts := T }) fun _ T => T.update noTrigger p f

def insertAttempt (r : RunAttemptRow) : StoreTx Unit :=
  statement Store.attempts (fun s T => { s with attempts := T })
    fun _ T => inserted (T.insert noInsertTrigger r)

/-- `scheduled_run_result_artifacts` の BEFORE INSERT トリガ。 -/
def artifactTriggers (s : Store) (a : ResultArtifactRow) : Option String :=
  if !s.runs.rows.any (fun r => r.runId == a.runId && r.jobId == a.jobId
      && r.attempt == a.acceptedAttempt && r.fence == a.acceptedFence && r.state == .executing
      && s.attempts.rows.any fun t => t.runId == r.runId && t.attempt == r.attempt
        && t.fence == r.fence && t.state == .executing) then
    some "scheduled run result acceptance binding mismatch"
  else if s.artifacts.rows.any (fun o => o.artifactId == a.artifactId || o.runId == a.runId) then
    some "scheduled run result artifact already exists"
  else none

def insertArtifact (a : ResultArtifactRow) : StoreTx Unit :=
  statement Store.artifacts (fun s T => { s with artifacts := T })
    fun s T => inserted (T.insert (artifactTriggers s) a)

def maxLateEvidence : Nat := 32

def lateEvidenceTriggers (s : Store) (e : LateEvidenceRow) : Option String :=
  if byteLen e.evidenceId > 128 || !isLowercaseSha256 e.evidenceDigest then
    some "invalid scheduled run late evidence"
  else if (s.lateEvidence.rows.countP fun o => o.runId == e.runId && o.attempt == e.attempt)
      ≥ maxLateEvidence then
    some "scheduled run late evidence quota exceeded"
  else none

def consumed (s : Store) (a : OperatorActionRow) : Bool :=
  s.consumptions.rows.any (·.actionId == a.actionId)

/-- `insert or ignore`。CHECK に反する行も黙って捨てる。トリガは先に働く。 -/
def insertOperatorActionOrIgnore (r : OperatorActionRow) : StoreTx Nat :=
  statement Store.operatorActions (fun s T => { s with operatorActions := T }) fun _ T =>
    if (r.action == .retryRun || r.action == .forceDeliveryResend) != r.reason.isSome then
      .error (.trigger "operator action reason authority is invalid")
    else if schedulerOperatorActions.check r && !T.rows.any (schedulerOperatorActions.conflict r) then
      (T.insert noInsertTrigger r).map (·, 1)
    else .ok (T, 0)

def consumeAction (message : String) (kind : OperatorTargetKind) (targetId : String) (now : Int)
    (p : OperatorActionRow → Bool) : StoreTx Unit := do
  let matching ← Tx.read fun s => s.operatorActions.rows.filter fun a => p a && !consumed s a
  match matching with
  | [a] =>
    statement Store.consumptions (fun s T => { s with consumptions := T })
      fun _ T => inserted (T.insert noInsertTrigger ⟨a.actionId, kind, targetId, now⟩)
  | _ => Tx.fail (.scheduler (.trigger message))

end Codeoff.State
