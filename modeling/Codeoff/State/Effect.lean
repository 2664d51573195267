import Codeoff.State.Retention

/-!
# 操作の効果

一つのトランザクションが表に残す変化を、操作によらない少数の形にまとめる。実行と配送の状態機械の遷移は`RunChange`
 と `DeliveryChange` に、表どうしにまたがる書き込みは `Effect` に並べる。
-/

/-!
## 文の逆転の補題

成功した文の前後の保存領域を、書いた表だけを置き換えた形で述べる。以後の補題は、文の定義を開かずにこれらを使う。
-/

namespace Codeoff.State

open Codeoff.Core Codeoff.Relational

variable {s s' : Store} {n : Nat} {u : Unit}

section Generic

variable {R : Type} {S : Schema R} {get : Store → Table S} {set : Store → Table S → Store}

theorem statement_update_ok {guard : Store → R → R → Option String} {p : R → Bool} {f : R → R} :
    statement get set (fun s T => T.update (guard s) p f) s = .ok (n, s') ↔
      ∃ T, (get s).Updates (guard s) p f T ∧ n = (get s).rows.countP p ∧ s' = set s T := by
  simp only [statement_ok, Table.update_ok, and_assoc]

theorem statement_insert_ok {guard : Store → R → Option String} {r : R} :
    statement get set (fun s T => inserted (T.insert (guard s) r)) s = .ok (u, s') ↔
      ∃ T, (get s).Inserts (guard s) r T ∧ s' = set s T := by
  simp only [statement_ok, inserted_ok, Table.insert_ok]

end Generic

theorem updateJobs_ok {p : ScheduledJobRow → Bool} {f : ScheduledJobRow → ScheduledJobRow} :
    updateJobs p f s = .ok (n, s') ↔
      ∃ J, s.jobs.Updates noTrigger p f J ∧ n = s.jobs.rows.countP p ∧ s' = { s with jobs := J } :=
  statement_update_ok

theorem insertJob_ok {r : ScheduledJobRow} :
    insertJob r s = .ok (u, s') ↔
      ∃ J, s.jobs.Inserts noInsertTrigger r J ∧ s' = { s with jobs := J } := statement_insert_ok

theorem updateSchedules_ok {p : ScheduleRow → Bool} {f : ScheduleRow → ScheduleRow} :
    updateSchedules p f s = .ok (n, s') ↔
      ∃ C, s.schedules.Updates noTrigger p f C ∧ n = s.schedules.rows.countP p ∧
        s' = { s with schedules := C } := statement_update_ok

theorem insertSchedule_ok {r : ScheduleRow} :
    insertSchedule r s = .ok (u, s') ↔
      ∃ C, s.schedules.Inserts noInsertTrigger r C ∧ s' = { s with schedules := C } :=
  statement_insert_ok

theorem insertTarget_ok {r : DeliveryTargetRow} :
    insertTarget r s = .ok (u, s') ↔
      ∃ T, s.targets.Inserts targetTrigger r T ∧ s' = { s with targets := T } := statement_insert_ok

theorem deleteTargets_ok {p : DeliveryTargetRow → Bool} :
    deleteTargets p s = .ok (n, s') ↔
      n = s.targets.rows.countP p ∧ s' = { s with targets := (s.targets.delete p).1 } := by
  unfold deleteTargets
  rw [statement_ok]
  constructor
  · rintro ⟨T, hT, rfl⟩
    cases hT
    exact ⟨rfl, rfl⟩
  · rintro ⟨rfl, rfl⟩
    exact ⟨_, rfl, rfl⟩

theorem insertBaseline_ok {r : ExecutionBaselineRow} :
    insertBaseline r s = .ok (u, s') ↔
      ∃ B, s.baselines.Inserts noInsertTrigger r B ∧ s' = { s with baselines := B } :=
  statement_insert_ok

theorem updateBaselines_ok {p : ExecutionBaselineRow → Bool}
    {f : ExecutionBaselineRow → ExecutionBaselineRow} :
    updateBaselines p f s = .ok (n, s') ↔
      ∃ B, s.baselines.Updates noTrigger p f B ∧ n = s.baselines.rows.countP p ∧
        s' = { s with baselines := B } := statement_update_ok

/-! ## 実行・試行・成果 -/

theorem updateRuns_ok {p : ScheduledRunRow → Bool} {f : ScheduledRunRow → ScheduledRunRow} :
    updateRuns p f s = .ok (n, s') ↔
      ∃ R, s.runs.Updates (runTriggers s) p f R ∧ n = s.runs.rows.countP p ∧
        s' = { s with runs := R } := statement_update_ok

theorem updateAttempts_ok {p : RunAttemptRow → Bool} {f : RunAttemptRow → RunAttemptRow} :
    updateAttempts p f s = .ok (n, s') ↔
      ∃ A, s.attempts.Updates noTrigger p f A ∧ n = s.attempts.rows.countP p ∧
        s' = { s with attempts := A } := statement_update_ok

theorem insertAttempt_ok {r : RunAttemptRow} :
    insertAttempt r s = .ok (u, s') ↔
      ∃ A, s.attempts.Inserts noInsertTrigger r A ∧ s' = { s with attempts := A } :=
  statement_insert_ok

theorem insertArtifact_ok {a : ResultArtifactRow} :
    insertArtifact a s = .ok (u, s') ↔
      ∃ T, s.artifacts.Inserts (artifactTriggers s) a T ∧ s' = { s with artifacts := T } :=
  statement_insert_ok

theorem insertRunOrIgnore_ok {r : ScheduledRunRow} :
    insertRunOrIgnore r s = .ok (n, s') ↔
      runInsertTrigger r = none ∧
      ((n = 0 ∧ s' = s ∧ scheduledRuns.check r = true ∧
          ∃ o ∈ s.runs.rows, o.jobId = r.jobId ∧ o.scheduledFor = r.scheduledFor) ∨
        (n = 1 ∧ ∃ R, s.runs.Inserts noInsertTrigger r R ∧ s' = { s with runs := R })) := by
  unfold insertRunOrIgnore
  rw [statement_ok]
  have hany : (s.runs.rows.any fun o => o.jobId == r.jobId && o.scheduledFor == r.scheduledFor) = true ↔
      ∃ o ∈ s.runs.rows, o.jobId = r.jobId ∧ o.scheduledFor = r.scheduledFor := by
    simp
  cases htrig : runInsertTrigger r with
  | some message => simp
  | none =>
    simp only [true_and]
    cases hchk : scheduledRuns.check r with
    | false =>
      simp only [if_true, reduceCtorEq, false_and, exists_false, false_iff, not_or, not_and,
        Bool.false_eq_true, not_false_eq_true, true_and, and_false]
      rintro _ ⟨R, hR, _⟩
      have := hR.check
      rw [hchk] at this
      cases this
    | true =>
      simp only [Bool.true_eq_false, if_false]
      by_cases hex : ∃ o ∈ s.runs.rows, o.jobId = r.jobId ∧ o.scheduledFor = r.scheduledFor
      · rw [if_pos (hany.mpr hex)]
        constructor
        · rintro ⟨T, hT, rfl⟩
          cases hT
          exact .inl ⟨rfl, rfl, trivial, hex⟩
        · rintro (⟨rfl, rfl, _, _⟩ | ⟨rfl, R, hR, rfl⟩)
          · exact ⟨_, rfl, rfl⟩
          · obtain ⟨o, ho, hj, hf⟩ := hex
            have := hR.fresh ho
            simp [scheduledRuns, hj, hf] at this
      · rw [if_neg (fun h => hex (hany.mp h))]
        constructor
        · rintro ⟨T, hT, rfl⟩
          cases hins : s.runs.insert noInsertTrigger r with
          | error v => rw [hins] at hT; cases hT
          | ok R =>
            rw [hins] at hT
            cases hT
            exact .inr ⟨rfl, T, Table.insert_ok.mp hins, rfl⟩
        · rintro (⟨_, _, _, h⟩ | ⟨rfl, R, hR, rfl⟩)
          · exact absurd h hex
          · exact ⟨R, by rw [Table.insert_ok.mpr hR]; rfl, rfl⟩

theorem insertDelivery_ok {d : ScheduledDeliveryRow} :
    insertDelivery d s = .ok (u, s') ↔
      ∃ D, s.deliveries.Inserts (deliveryInsertTriggers s) d D ∧ s' = { s with deliveries := D } :=
  statement_insert_ok

theorem updateDeliveries_ok {kind : DeliveryUpdateKind} {p : ScheduledDeliveryRow → Bool}
    {f : ScheduledDeliveryRow → ScheduledDeliveryRow} :
    updateDeliveries kind p f s = .ok (n, s') ↔
      ∃ D, s.deliveries.Updates (deliveryTriggers s kind) p f D ∧ n = s.deliveries.rows.countP p ∧
        s' = { s with deliveries := D } :=
  statement_update_ok

theorem insertDeliveryAttempt_ok {a : DeliveryAttemptRow} :
    insertDeliveryAttempt a s = .ok (u, s') ↔
      ∃ T, s.deliveryAttempts.Inserts noInsertTrigger a T ∧ s' = { s with deliveryAttempts := T } :=
  statement_insert_ok

theorem updateDeliveryAttempts_ok {p : DeliveryAttemptRow → Bool}
    {f : DeliveryAttemptRow → DeliveryAttemptRow} :
    updateDeliveryAttempts p f s = .ok (n, s') ↔
      ∃ T, s.deliveryAttempts.Updates noTrigger p f T ∧ n = s.deliveryAttempts.rows.countP p ∧
        s' = { s with deliveryAttempts := T } := statement_update_ok

/-- 効果を起こす操作の種類。どの種類にも、他の種類の起こさない効果がある。 -/
inductive Origin where
  | job
  | materialize (jobId : String)
  | retry (runId : String)
  | swap
  | queue
  | prepare (deliveryId : String) (renderVersion : Nat) (accept : Bool)
  | resolve (deliveryId : String) (delivered : Bool)
  | prune (runId : String)
  | work
deriving DecidableEq, Repr

def lateEvidenceCount (s : Store) (runId : String) (attempt : Int) : Nat :=
  s.lateEvidence.rows.countP fun e => e.runId == runId && e.attempt == attempt

/-- 実行者の世代の記録は消えず、世代は下がらず、同じ世代の中身は変わらない。 -/
def EpochAdvances (e e' : Option ExecutorEpochRow) : Prop :=
  ∀ row, e = some row → ∃ row', e' = some row' ∧ row.deploymentEpoch ≤ row'.deploymentEpoch ∧
    (row'.deploymentEpoch = row.deploymentEpoch → row' = row)

theorem EpochAdvances.refl (e : Option ExecutorEpochRow) : EpochAdvances e e :=
  fun row h => ⟨row, h, le_refl _, fun _ => rfl⟩

theorem EpochAdvances.trans {e e' e'' : Option ExecutorEpochRow} (h : EpochAdvances e e')
    (g : EpochAdvances e' e'') : EpochAdvances e e'' := by
  intro row hrow
  obtain ⟨row', hrow', hle, hsame⟩ := h row hrow
  obtain ⟨row'', hrow'', hle', hsame'⟩ := g row' hrow'
  refine ⟨row'', hrow'', hle.trans hle', ?_⟩
  intro heq
  rw [hsame' (by omega), hsame (by omega)]

/-- 状態機械の読む表が変わらない。証拠、監査、運用者の操作、整理の記録、実行者の世代だけが変わりうる。運用者の操作は
消えず、証拠は上限までしか増えず、世代は戻らない。 -/
structure SameCore (s s' : Store) : Prop where
  jobs : s'.jobs = s.jobs
  schedules : s'.schedules = s.schedules
  targets : s'.targets = s.targets
  baselines : s'.baselines = s.baselines
  runs : s'.runs = s.runs
  attempts : s'.attempts = s.attempts
  artifacts : s'.artifacts = s.artifacts
  deliveries : s'.deliveries = s.deliveries
  deliveryAttempts : s'.deliveryAttempts = s.deliveryAttempts
  deliveryBaselines : s'.deliveryBaselines = s.deliveryBaselines
  idempotency : s'.idempotency = s.idempotency
  actions : ∀ a ∈ s.operatorActions.rows, a ∈ s'.operatorActions.rows
  evidence : ∀ runId attempt,
    lateEvidenceCount s' runId attempt ≤ max (lateEvidenceCount s runId attempt) maxLateEvidence
  epoch : EpochAdvances s.epoch s'.epoch

theorem SameCore.refl (s : Store) : SameCore s s :=
  ⟨rfl, rfl, rfl, rfl, rfl, rfl, rfl, rfl, rfl, rfl, rfl, fun _ h => h, fun _ _ => le_max_left _ _,
    .refl _⟩

theorem SameCore.trans {s t w : Store} (h : SameCore s t) (g : SameCore t w) : SameCore s w where
  jobs := g.jobs.trans h.jobs
  schedules := g.schedules.trans h.schedules
  targets := g.targets.trans h.targets
  baselines := g.baselines.trans h.baselines
  runs := g.runs.trans h.runs
  attempts := g.attempts.trans h.attempts
  artifacts := g.artifacts.trans h.artifacts
  deliveries := g.deliveries.trans h.deliveries
  deliveryAttempts := g.deliveryAttempts.trans h.deliveryAttempts
  deliveryBaselines := g.deliveryBaselines.trans h.deliveryBaselines
  idempotency := g.idempotency.trans h.idempotency
  actions a ha := g.actions a (h.actions a ha)
  evidence runId attempt :=
    (g.evidence runId attempt).trans (max_le (h.evidence runId attempt) (le_max_right _ _))
  epoch := h.epoch.trans g.epoch

theorem SameCore.withDeliveryBaselines {s t : Store} (h : SameCore s t)
    (B : Table scheduledDeliveryBaselines) :
    SameCore { s with deliveryBaselines := B } { t with deliveryBaselines := B } :=
  { h with deliveryBaselines := rfl }

structure ClosesAttempt (now : Int) (a a' : RunAttemptRow) : Prop where
  runId : a'.runId = a.runId
  jobId : a'.jobId = a.jobId
  attempt : a'.attempt = a.attempt
  fence : a'.fence = a.fence
  closed : a'.state.isOpen = false
  completedAt : a'.completedAt = some now
  profile : a'.attestedProfile = a.attestedProfile

def ScheduledRunState.settledBy : ScheduledRunState → RunAttemptState → Bool
  | .failed, .failed | .failed, .preflightRejected | .failed, .leaseExpired => true
  | .timedOut, .timedOut | .cancelled, .cancelled | .outcomeUnknown, .outcomeUnknown => true
  | .pending, .retryScheduled | .pending, .leaseExpired => true
  | _, _ => false

inductive RunChange : ScheduledRunRow → RunAttemptRow → ScheduledRunRow → RunAttemptRow → Prop where
  | extended {r : ScheduledRunRow} {a : RunAttemptRow} {now expiresAt t : Int}
      (live : r.state.isLive = true) (lease : r.leaseExpiresAt = some t) (held : now < t)
      (later : t < expiresAt) (isOpen : a.state.isOpen = true) :
      RunChange r a (extendedRun expiresAt now r) (extendedAttempt expiresAt a)
  | started {b : RunLeaseBinding} {r : ScheduledRunRow} {a : RunAttemptRow}
      {profile : AttestedExecutionProfileSnapshot} {now : Int} (bound : b.validate = .ok ())
      (owns : b.ownsRun r = true) (valid : profile.validate = .ok ()) (leased : r.state = .leased)
      (attempt : a.state = .leased) :
      RunChange r a (executingRun now r) (executingAttempt profile now a)
  | retried {r : ScheduledRunRow} {a a' : RunAttemptRow} {retryAt now : Int}
      (live : r.state.isLive = true) (closes : ClosesAttempt now a a')
      (outcome : a'.state = .retryScheduled) :
      RunChange r a (retriedRun retryAt now r) a'
  | settled {r : ScheduledRunRow} {a a' : RunAttemptRow} {state : ScheduledRunState}
      {errorKind errorMessage : String} {now : Int} (live : r.state.isLive = true)
      (terminal : state = .failed ∨ state = .timedOut ∨ state = .cancelled ∨ state = .outcomeUnknown)
      (closes : ClosesAttempt now a a') (outcome : state.settledBy a'.state = true) :
      RunChange r a (settledRun state errorKind errorMessage now r) a'
  | reclaimed {r : ScheduledRunRow} {a a' : RunAttemptRow} {t : ExpiredReclaimTransition}
      {nextAttemptAt : Option Int} {now : Int} (live : r.state.isLive = true)
      (target : t.runState = .pending ∨ t.runState = .failed ∨ t.runState = .outcomeUnknown)
      (closes : ClosesAttempt now a a') (outcome : t.runState.settledBy a'.state = true) :
      RunChange r a (reclaimedRun t nextAttemptAt now r) a'

structure Cancels (s : Store) (jobId : String) (generation now : Int) (R : Table scheduledRuns)
    (A : Table scheduledRunAttempts) : Prop where
  runs : s.runs.Rewrites (preExecutionOf jobId generation) (cancelledRun now) R
  attempts : s.attempts.Rewrites (cancellableAttempt s.runs.rows jobId generation)
    (cancelledAttempt now) A

/-- 配送の同一性と本文と方針と鍵と試行の番号が変わらない。 -/
structure SameDelivery (d d' : ScheduledDeliveryRow) : Prop where
  identity : d'.identity = d.identity
  payload : d'.payload = d.payload
  policy : d'.policy = d.policy
  key : d'.idempotencyKey = d.idempotencyKey
  attempt : d'.attempt = d.attempt
  fence : d'.fence = d.fence

/-- 配送の行だけの遷移。 -/
inductive DeliveryChange (E : Env) (k : Origin) (s : Store) :
    ScheduledDeliveryRow → ScheduledDeliveryRow → Prop where
  | prepared {d : ScheduledDeliveryRow} {p : DeliveryPayloadSnapshot} {skippedNone : Bool} {now : Int}
      (pending : d.state = .pending) (fresh : d.payload = none) (readable : payloadFromRow E d p = .ok ()) :
      DeliveryChange E k s d (preparedRow p skippedNone now d)
  | skipped {d d' : ScheduledDeliveryRow} (queue : k = .queue) (pending : d.state = .pending)
      (unchanged : (unchangedBaseline s d).isSome = true)
      (state : d'.state = .skippedUnchanged) (same : SameDelivery d d') : DeliveryChange E k s d d'
  | failed {d d' : ScheduledDeliveryRow} (source : d.state = .pending ∨ d.state = .failedRetryable)
      (state : d'.state = .failedTerminal) (same : SameDelivery d d') : DeliveryChange E k s d d'
  | requeued {d d' : ScheduledDeliveryRow} (source : d.state = .failedRetryable)
      (state : d'.state = .pending) (claim : d'.claimedBaselineVersion = none)
      (same : SameDelivery d d') : DeliveryChange E k s d d'

def DeliveryAttemptState.delivery : DeliveryAttemptState → ScheduledDeliveryState
  | .sending => .sending
  | .delivered => .delivered
  | .failedRetryable => .failedRetryable
  | .failedTerminal => .failedTerminal
  | .deliveryUnknown => .deliveryUnknown

/-- 結果の分からない配送への、重複の危険を認めた再送の操作。 -/
structure IsForceResend (d : ScheduledDeliveryRow) (x : OperatorActionRow) : Prop where
  action : x.action = .forceDeliveryResend
  acknowledged : x.duplicateRiskAcknowledged = true
  target : x.targetKind = .delivery ∧ x.targetId = d.deliveryId
  attempt : x.expectedAttempt = d.attempt
  before : x.beforeState = .delivery .deliveryUnknown

inductive SendChange : ScheduledDeliveryRow → DeliveryAttemptRow → ScheduledDeliveryRow →
    DeliveryAttemptRow → Prop where
  | extended {d : ScheduledDeliveryRow} {a : DeliveryAttemptRow} {now expiresAt : Int}
      (updated : d.updatedAt ≤ now) :
      SendChange d a (extendedDelivery expiresAt now d) (extendedDeliveryAttempt expiresAt a)
  | settled {d d' : ScheduledDeliveryRow} {a a' : DeliveryAttemptRow} (same : SameDelivery d d')
      (state : d'.state ≠ .sending ∧ d'.state ≠ .pending)
      (retry : d'.state = .failedRetryable → ∃ n p, d'.nextAttemptAt = some n ∧ d.payload = some p ∧
        d'.updatedAt ≤ n ∧ d.policy.1.deliveryCanRetryAt d.attempt p.createdAt n = true)
      (id : a'.deliveryId = a.deliveryId ∧ a'.attempt = a.attempt ∧ a'.fence = a.fence)
      (outcome : a'.state.delivery = d'.state) :
      SendChange d a d' a'

/-- 結果の分からない試行を、配送とともに決着させる。 -/
structure ResolvesAttempt (d d' : ScheduledDeliveryRow) (a a' : DeliveryAttemptRow) : Prop where
  unknown : a.state = .deliveryUnknown
  target : a.deliveryId = d.deliveryId ∧ a.attempt = d.attempt
  id : a'.deliveryId = a.deliveryId ∧ a'.attempt = a.attempt ∧ a'.fence = a.fence
  outcome : a'.state.delivery = d'.state

def ScheduledDeliveryRow.renderedKey (d : ScheduledDeliveryRow) (renderVersion : Nat) : BaselineKey :=
  (d.jobId, d.targetIdentityDigest, d.targetSnapshotDigest, d.deliveryPolicyVersion, renderVersion,
    deliveryPayloadHashAlgorithm)

def AdvancesOnly (s : Store) (key : Option BaselineKey) (B : Table scheduledDeliveryBaselines) : Prop :=
  ∀ other, key ≠ some other →
    B.rows.find? (·.key == other) = s.deliveryBaselines.rows.find? (·.key == other)

structure IsUnsentNone (d : ScheduledDeliveryRow) : Prop where
  pending : d.state = .pending
  fresh : d.payload = none
  none : d.target.kind = "none"

inductive AcceptsNone (k : Origin) (s : Store) (B : Table scheduledDeliveryBaselines) : Prop where
  | intro {d : ScheduledDeliveryRow} {renderVersion : Nat} (source : d ∈ s.deliveries.rows)
      (unsent : IsUnsentNone d) (origin : k = .prepare d.deliveryId renderVersion true)
      (advances : AdvancesOnly s (some (d.renderedKey renderVersion)) B)

/-! ## 効果 -/

structure Acceptable (r : ScheduledRunRow) (result : ScheduledRunResult) : Prop where
  summary : validateText "scheduled result summary" result.summary = .ok ()
  targets : ∀ t ∈ r.targets, validateTargetFields t = .ok ()

/-- 宛先の並び。`ordinal` は `n` から数える。 -/
def targetRows (jobId : String) : Nat → List DeliveryTargetSnapshot → List DeliveryTargetRow
  | _, [] => []
  | n, t :: ts => ⟨jobId, n, t⟩ :: targetRows jobId (n + 1) ts

structure ReplacesTargets (s : Store) (jobId : String) (targets : List DeliveryTargetSnapshot)
    (T : Table scheduledJobDeliveryTargets) : Prop where
  rows : T.rows = (s.targets.rows.filter fun r => !(r.jobId == jobId)) ++ targetRows jobId 0 targets

def UpdateOccurrence (E : Env) (request : UpdateScheduledJob) (job : ScheduledJobRow)
    (nextRunAt : Option Int) : Prop :=
  (job.status = .active ∧ ∃ next, nextRunAt = some next ∧
    request.schedule.firstAfterCreate E.cron request.now = .ok next) ∨
  (job.status = .paused ∧ nextRunAt = none)

inductive Advances (s : Store) (job : ScheduledJobRow) (now : Int) (window : OccurrenceWindow) :
    Table scheduledJobs → Table schedules → Prop where
  | next {C : Table schedules} {next : Int} (nextRunAt : window.nextRunAt = some next)
      (schedules : s.schedules.Rewrites
        (fun r => r.jobId == job.jobId && r.nextRunAt == some window.scheduledFor)
        (advancedSchedule (some next) now) C) :
      Advances s job now window s.jobs C
  | last {J : Table scheduledJobs} {C : Table schedules} (nextRunAt : window.nextRunAt = none)
      (schedules : s.schedules.Rewrites (fun r => r.jobId == job.jobId) (advancedSchedule none now) C)
      (jobs : s.jobs.Rewrites
        (fun j => j.jobId == job.jobId && j.generation == job.generation && j.status == .active)
        (completedJob now) J) :
      Advances s job now window J C

def intentTarget (E : Env) (t : DeliveryTargetSnapshot) : DeliveryIntentTarget :=
  ⟨t, E.sha256Hex (utf8Bytes (targetJson t))⟩

def intentFor (E : Env) (b : RunLeaseBinding) (policy : Policy) (completedAt : Int)
    (t : DeliveryTargetSnapshot) : ScheduledDeliveryRow :=
  deliveryIntent b (resultArtifactId E b) policy (intentTarget E t)
    (deliveryIntentKeyText b.runId t.identityDigest) completedAt

/-- 時刻 `now` の操作が、その種類に応じて残す変化。 -/
inductive Effect (E : Env) (now : Int) : Origin → Store → Store → Prop where
  | aside {k : Origin} {s s' : Store} (same : SameCore s s') : Effect E now k s s'
  | keyed {k : Origin} {s : Store} {K : Table idempotencyKeys}
      (kept : ∀ k ∈ s.idempotency.rows, k.status = .completed → k ∈ K.rows) :
      Effect E now k s { s with idempotency := K }
  | created {s : Store} {request : CreateScheduledJob} {policy : Policy} {next : Int}
      {J : Table scheduledJobs} {C : Table schedules} {T : Table scheduledJobDeliveryTargets}
      {B : Table scheduledExecutionBaselines} (time : request.now = now)
      (valid : validateCreateRequest E request policy = .ok next)
      (jobs : s.jobs.Appends (createdJob request policy) J)
      (schedules : s.schedules.Appends (createdSchedule request next) C)
      (targets : ReplacesTargets s request.jobId request.targets T)
      (baselines : s.baselines.Appends (initialBaseline request.jobId) B) :
      Effect E now .job s { s with jobs := J, schedules := C, targets := T, baselines := B }
  | updated {s : Store} {request : UpdateScheduledJob} {policy : Policy} {job : ScheduledJobRow}
      {nextRunAt : Option Int} {J : Table scheduledJobs} {R : Table scheduledRuns}
      {A : Table scheduledRunAttempts} {C : Table schedules} {T : Table scheduledJobDeliveryTargets}
      (time : request.now = now) (valid : validateUpdateRequest request policy = .ok ())
      (found : job ∈ s.jobs.rows) (jobId : job.jobId = request.jobId)
      (generation : job.generation = request.expectedGeneration)
      (next : UpdateOccurrence E request job nextRunAt)
      (jobs : s.jobs.Replaces job (updatedJob request policy job) J)
      (cancels : Cancels s request.jobId request.expectedGeneration request.now R A)
      (schedules : s.schedules.Rewrites (fun r => r.jobId == request.jobId)
        (updatedSchedule request nextRunAt) C)
      (targets : ReplacesTargets s request.jobId request.targets T) :
      Effect E now .job s { s with jobs := J, runs := R, attempts := A, schedules := C, targets := T }
  | stopped {s : Store} {job : ScheduledJobRow} {status : InactiveStatus} {J : Table scheduledJobs}
      {R : Table scheduledRuns} {A : Table scheduledRunAttempts} {C : Table schedules}
      (becomes : canBecome status job.status = true)
      (jobs : s.jobs.Replaces job (inactiveJob status now job) J)
      (cancels : Cancels s job.jobId job.generation now R A)
      (schedules : s.schedules.Rewrites (fun r => r.jobId == job.jobId) (inactiveSchedule now) C) :
      Effect E now .job s { s with jobs := J, runs := R, attempts := A, schedules := C }
  | resumed {s : Store} {job : ScheduledJobRow} {row : ScheduleRow} {spec : ScheduleSpec}
      {policy : Policy} {next : Int} {J : Table scheduledJobs} {C : Table schedules}
      (paused : job.status = .paused) (found : row ∈ s.schedules.rows) (jobId : row.jobId = job.jobId)
      (readable : scheduleFromRow E row = .ok spec) (occurs : spec.nextAfter E.cron now = .ok next)
      (jobs : s.jobs.Replaces job (resumedJob policy now job) J)
      (schedules : s.schedules.Rewrites (fun r => r.jobId == job.jobId) (resumedSchedule next now) C) :
      Effect E now .job s { s with jobs := J, schedules := C }
  | materialized {s : Store} {job : ScheduledJobRow} {row : ScheduleRow} {spec : ScheduleSpec} {due : Int}
      {window : OccurrenceWindow} {baseline : ExecutionBaselineRow} {R : Table scheduledRuns}
      {J : Table scheduledJobs} {C : Table schedules} (found : job ∈ s.jobs.rows)
      (active : job.status = .active) (schedule : row ∈ s.schedules.rows) (jobId : row.jobId = job.jobId)
      (nextRunAt : row.nextRunAt = some due) (overdue : due ≤ now)
      (readable : scheduleFromRow E row = .ok spec)
      (coalesced : spec.coalesce E.cron due now job.policy.1.occurrenceSearchLimit = .ok window)
      (baselines : baseline ∈ s.baselines.rows) (owner : baseline.jobId = job.jobId)
      (runs : s.runs.Appends (pendingRun job row window (jobTargets s job.jobId)
        { baselineVersion := baseline.baselineVersion, result := baseline.result,
          previousSuccessContext := baseline.previousSuccessContext } now) R)
      (advances : Advances s job now window J C) :
      Effect E now (.materialize job.jobId) s { s with runs := R, schedules := C, jobs := J }
  | swept {s : Store} {at_ : Int} {R : Table scheduledRuns}
      (runs : s.runs.Rewrites (·.exhausted at_) (exhaustedRun at_) R) :
      Effect E now .work s { s with runs := R }
  | leased {s : Store} {leaseOwner : String} {requested at_ : Int} {r : ScheduledRunRow}
      {R : Table scheduledRuns} {A : Table scheduledRunAttempts} (claimable : r.claimable at_ = true)
      (runs : s.runs.Replaces r (leasedRow leaseOwner requested at_ r) R)
      (attempts : s.attempts.Appends (leasedAttempt leaseOwner (leaseExpiry r requested at_) at_ r) A) :
      Effect E now .work s { s with runs := R, attempts := A }
  | fenced {s : Store} {r r' : ScheduledRunRow} {a a' : RunAttemptRow} {R : Table scheduledRuns}
      {A : Table scheduledRunAttempts} (current : isCurrentAttempt r a = true)
      (change : RunChange r a r' a') (runs : s.runs.Replaces r r' R)
      (attempts : s.attempts.Replaces a a' A) : Effect E now .work s { s with runs := R, attempts := A }
  | requeued {s : Store} {r : ScheduledRunRow} {nextAttemptAt at_ : Int} {R : Table scheduledRuns}
      (retryable : r.state.isRetryable = true)
      (runs : s.runs.Replaces r (retriedRun nextAttemptAt at_ r) R) :
      Effect E now (.retry r.runId) s { s with runs := R }
  | swapped {s : Store} {u : UpdateExecutionBaseline} {B : Table scheduledExecutionBaselines}
      (baselines : s.baselines.Rewrites (fun b => b.jobId == u.jobId
        && b.baselineVersion == u.expectedVersion && b.baselineVersion < i64Max) (swappedBaseline u) B) :
      Effect E now .swap s { s with baselines := B }
  | accepted {s : Store} {b : RunLeaseBinding} {r : ScheduledRunRow} {a : RunAttemptRow}
      {result : ScheduledRunResult} {completedAt : Int} {x : ExecutionBaselineRow}
      {X : Table scheduledRunResultArtifacts} {B : Table scheduledExecutionBaselines}
      {D : Table scheduledRunDeliveries} {A : Table scheduledRunAttempts} {R : Table scheduledRuns}
      (owns : b.ownsRun r = true) (executing : r.state = .executing)
      (current : isCurrentAttempt r a = true)
      (artifacts : s.artifacts.Appends (acceptedArtifact E b result completedAt) X)
      (baseline : x.jobId = b.jobId ∧ x.baselineVersion = r.executionBaseline.baselineVersion ∧
        x.baselineVersion < i64Max)
      (baselines : s.baselines.Replaces x
        (swappedBaseline (acceptedBaseline E b r result completedAt) x) B)
      (deliveries : D.rows = s.deliveries.rows ++ r.targets.map (intentFor E b r.policy completedAt))
      (attempts : s.attempts.Replaces a (succeededAttempt completedAt a) A)
      (runs : s.runs.Replaces r (succeededRun E b result completedAt r) R)
      (acceptable : Acceptable r result) :
      Effect E now .work s { s with artifacts := X, baselines := B, deliveries := D, attempts := A, runs := R }
  | delivery {k : Origin} {s : Store} {D : Table scheduledRunDeliveries} {p : ScheduledDeliveryRow → Bool}
      {f : ScheduledDeliveryRow → ScheduledDeliveryRow} {B : Table scheduledDeliveryBaselines}
      (rewrites : s.deliveries.Rewrites p f D)
      (change : ∀ d ∈ s.deliveries.rows, p d = true → DeliveryChange E k s d (f d))
      (baselines : B = s.deliveryBaselines ∨ AcceptsNone k s B) :
      Effect E now k s { s with deliveries := D, deliveryBaselines := B }
  | sent {s : Store} {leaseOwner : String} {leaseExpiresAt at_ : Int} {d : ScheduledDeliveryRow}
      {D : Table scheduledRunDeliveries} {A : Table scheduledDeliveryAttempts}
      (owner : validateText "scheduled delivery lease owner" leaseOwner = .ok ()) (time : 0 ≤ at_)
      (pending : d.state = .pending) (payload : d.payload.isSome = true)
      (alone : activeSibling s d = false) (changed : unchangedBaseline s d = none)
      (deliveries : s.deliveries.Replaces d (sendingRow s leaseOwner leaseExpiresAt at_ d) D)
      (attempts : s.deliveryAttempts.Appends (sendingAttempt s leaseOwner leaseExpiresAt at_ d) A) :
      Effect E now .queue s { s with deliveries := D, deliveryAttempts := A }
  | sending {s : Store} {b : ScheduledDeliveryBinding} {d d' : ScheduledDeliveryRow}
      {a a' : DeliveryAttemptRow} {D : Table scheduledRunDeliveries} {A : Table scheduledDeliveryAttempts}
      {B : Table scheduledDeliveryBaselines} (owns : b.ownsDelivery d = true)
      (state : d.state = .sending) (attempt : b.ownsAttempt a = true) (change : SendChange d a d' a')
      (deliveries : s.deliveries.Replaces d d' D) (attempts : s.deliveryAttempts.Replaces a a' A)
      (baselines : B = s.deliveryBaselines ∨
        (d'.state = .delivered ∧ AdvancesOnly s d.baselineKey B)) :
      Effect E now .work s { s with deliveries := D, deliveryAttempts := A, deliveryBaselines := B }
  | resolved {k : Origin} {s : Store} {d d' : ScheduledDeliveryRow} {D : Table scheduledRunDeliveries}
      {A : Table scheduledDeliveryAttempts} {B : Table scheduledDeliveryBaselines}
      (origin : k = .resolve d.deliveryId (d'.state == .delivered)) (unknown : d.state = .deliveryUnknown)
      (state : d'.state = .delivered ∨ d'.state = .failedTerminal ∨
        (d'.state = .pending ∧ d'.claimedBaselineVersion = none))
      (resend : d'.state = .pending → ∃ x ∈ s.operatorActions.rows, IsForceResend d x)
      (same : SameDelivery d d') (deliveries : s.deliveries.Replaces d d' D)
      (attempts : (d'.state = .pending ∧ A = s.deliveryAttempts) ∨ ∃ a a',
        s.deliveryAttempts.Replaces a a' A ∧ ResolvesAttempt d d' a a')
      (baselines : B = s.deliveryBaselines ∨
        (d'.state = .delivered ∧ AdvancesOnly s d.baselineKey B)) :
      Effect E now k s { s with deliveries := D, deliveryAttempts := A, deliveryBaselines := B }
  | prunedRun {s : Store} {runId : String} (settled : ∀ r ∈ s.runs.rows, r.runId = runId →
        r.state.isRetryable = true) (undelivered : ∀ d ∈ s.deliveries.rows, d.runId ≠ runId) :
      Effect E now .work s (deleteRunRows runId s)
  | prunedHistory {s : Store} {runId : String}
      (settled : ∀ r ∈ s.runs.rows, r.runId = runId → r.state = .succeeded) :
      Effect E now (.prune runId) s (deleteRunHistory runId s)

end Codeoff.State
