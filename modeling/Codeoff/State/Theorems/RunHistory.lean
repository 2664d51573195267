import Codeoff.State.Lemmas.ResultInvariants
import Codeoff.State.Theorems.Cadence
import Codeoff.State.Theorems.RunAuthority

/-!
# 実行の履歴

実行は、作られたときの写しのまま終わりまで進み、終わった行は変わらない。一つのジョブの実行が受け持つ発生時刻の窓は重ならず、次回
時刻はどの窓よりも後にある。
-/

namespace Codeoff.State

open Codeoff.Core Codeoff.Relational

variable {E : Env} {s s' : Store} {now t : Int} {k : Origin} {r o q : ScheduledRunRow}

/-! ## 終わった行 -/

def ScheduledRunState.isFinished (state : ScheduledRunState) : Bool := state != .pending && !state.isLive

/-- 作られたときの写し。状態機械の書き換える列を除く。 -/
def ScheduledRunRow.snapshot (r : ScheduledRunRow) : ScheduledRunRow :=
  { r with
    state := .pending
    attempt := 0
    fence := 0
    nextAttemptAt := none
    leaseOwner := none
    leaseExpiresAt := none
    overlapSlot := none
    resultArtifactId := none
    resultContext := none
    resultHash := none
    errorKind := none
    errorMessage := none
    updatedAt := r.createdAt }

/-- 行 `o` は行 `r` の後の姿である。終わった行が変わるのは、運用者の再試行に限る。 -/
structure LaterRun (k : Origin) (r o : ScheduledRunRow) : Prop where
  snapshot : o.snapshot = r.snapshot
  finished : r.state.isFinished = true → o = r ∨ (k = .retry r.runId ∧ r.state.isRetryable = true)

theorem LaterRun.refl (k : Origin) (r : ScheduledRunRow) : LaterRun k r r := ⟨rfl, fun _ => .inl rfl⟩

theorem LaterRun.jobId (h : LaterRun k r o) : o.jobId = r.jobId := (congrArg ScheduledRunRow.jobId h.snapshot :)

theorem LaterRun.trans (h : LaterRun k r q) (g : LaterRun k q o) : LaterRun k r o := by
  refine ⟨g.snapshot.trans h.snapshot, fun hr => ?_⟩
  rcases h.finished hr with rfl | hretried
  · exact g.finished hr
  · exact .inr hretried

theorem LaterRun.of_unfinished (hsnapshot : o.snapshot = r.snapshot) (hr : r.state.isFinished = false) :
    LaterRun k r o := by
  refine ⟨hsnapshot, fun h => ?_⟩
  rw [hr] at h
  cases h

theorem isFinished_of_isLive {state : ScheduledRunState} (h : state.isLive = true) : state.isFinished = false := by
  simp [ScheduledRunState.isFinished, h]

theorem RunChange.snapshot {r' : ScheduledRunRow} {a a' : RunAttemptRow} (h : RunChange r a r' a') :
    r'.snapshot = r.snapshot := by
  cases h <;> rfl

theorem Cancels.follows {jobId : String} {generation : Int} {R : Table scheduledRuns}
    {A : Table scheduledRunAttempts} (h : Cancels s jobId generation now R A) (ho : o ∈ R.rows) :
    ∃ r ∈ s.runs.rows, LaterRun k r o := by
  rcases h.runs.mem.mp ho with ⟨r, hr, hp, rfl⟩ | ⟨ho, _⟩
  · refine ⟨r, hr, .of_unfinished rfl ?_⟩
    simp only [preExecutionOf, ScheduledRunState.isPreExecution, Bool.and_eq_true, Bool.or_eq_true, beq_iff_eq] at hp
    rcases hp.2 with hstate | hstate <;> simp [ScheduledRunState.isFinished, ScheduledRunState.isLive, hstate]
  · exact ⟨o, ho, .refl k o⟩

theorem replaces_follows {r' : ScheduledRunRow} {R : Table scheduledRuns} (h : s.runs.Replaces r r' R)
    (hr : LaterRun k r r') (ho : o ∈ R.rows) : ∃ r ∈ s.runs.rows, LaterRun k r o := by
  rcases h.mem.mp ho with rfl | ⟨ho, _⟩
  · exact ⟨r, h.mem_old, hr⟩
  · exact ⟨o, ho, .refl k o⟩

/-- 効果の後の行の由来。 -/
def RunAccounted (now : Int) (k : Origin) (s : Store) (o : ScheduledRunRow) : Prop :=
  (∃ r ∈ s.runs.rows, LaterRun k r o) ∨ (k = .materialize o.jobId ∧ o.createdAt = now)

theorem Effect.accounted (h : Effect E now k s s') (ho : o ∈ s'.runs.rows) : RunAccounted now k s o := by
  have hself (ho : o ∈ s.runs.rows) : RunAccounted now k s o := .inl ⟨o, ho, .refl k o⟩
  cases h with
  | aside same => exact hself (same.runs ▸ ho)
  | updated time valid found jobId generation next jobs cancels schedules targets => exact .inl (cancels.follows ho)
  | stopped becomes jobs cancels schedules => exact .inl (cancels.follows ho)
  | materialized found active schedule jobId nextRunAt overdue readable coalesced baselines owner runs advances =>
    rcases runs.mem.mp ho with ho | rfl
    · exact hself ho
    · exact .inr ⟨rfl, rfl⟩
  | swept runs =>
    rcases runs.mem.mp ho with ⟨r, hr, hp, rfl⟩ | ⟨ho, _⟩
    · simp only [ScheduledRunRow.exhausted, Bool.and_eq_true, beq_iff_eq] at hp
      exact .inl ⟨r, hr, .of_unfinished rfl (by simp [ScheduledRunState.isFinished, hp.1.1])⟩
    · exact hself ho
  | leased claimable runs attempts =>
    simp only [ScheduledRunRow.claimable, Bool.and_eq_true, beq_iff_eq] at claimable
    exact .inl (replaces_follows runs
      (.of_unfinished rfl (by simp [ScheduledRunState.isFinished, claimable.1.1.1])) ho)
  | fenced current change runs attempts =>
    exact .inl (replaces_follows runs (.of_unfinished change.snapshot (isFinished_of_isLive change.live)) ho)
  | requeued retryable runs => exact .inl (replaces_follows runs ⟨rfl, fun _ => .inr ⟨rfl, retryable⟩⟩ ho)
  | accepted owns executing current artifacts baseline baselines deliveries attempts runs =>
    exact .inl (replaces_follows runs
      (.of_unfinished rfl (isFinished_of_isLive (by simp [ScheduledRunState.isLive, executing]))) ho)
  | prunedRun settled undelivered => exact hself (List.mem_filter.mp ho).1
  | prunedHistory settled => exact hself (List.mem_filter.mp ho).1
  | _ => exact hself ho

theorem accounted_of_effects (h : Relation.ReflTransGen (Effect E now k) s s') (ho : o ∈ s'.runs.rows) :
    RunAccounted now k s o := by
  induction h generalizing o with
  | refl => exact .inl ⟨o, ho, .refl k o⟩
  | tail _ heffect ih =>
    rcases heffect.accounted ho with ⟨q, hq, hfollows⟩ | hcreated
    · rcases ih hq with ⟨r, hr, hfirst⟩ | ⟨hk, hcreated⟩
      · exact .inl ⟨r, hr, hfirst.trans hfollows⟩
      · rw [← hfollows.jobId] at hk
        exact .inr ⟨hk, (congrArg ScheduledRunRow.createdAt hfollows.snapshot :).trans hcreated⟩
    · exact .inr hcreated

/-- どの操作の後の実行も、操作の前の実行の後の姿か、その操作がそのジョブに作った実行である。どの実行も作られたときの写しを保ち、
終わった行が変わるのは運用者の再試行に限る。 -/
theorem run_rows_accounted (E : Env) (op : Op) (s : Store) :
    (∀ o ∈ (op.apply E s).runs.rows, (∃ r ∈ s.runs.rows, LaterRun op.origin r o) ∨
      (op.origin = .materialize o.jobId ∧ o.createdAt = op.clock)) ∧
    (∀ r ∈ s.runs.rows, r.state = .succeeded → op.PrunesHistory r.runId ∨ r ∈ (op.apply E s).runs.rows) ∧
    ∀ x ∈ s.artifacts.rows, op.PrunesHistory x.runId ∨ x ∈ (op.apply E s).artifacts.rows := by
  refine ⟨fun o ho => accounted_of_effects (op.apply_effects s) ho, ?_, ?_⟩
  · intro r hr hstate
    by_cases hk : op.origin = .prune r.runId
    · exact .inl (Op.origin_prune hk)
    · exact .inr (invariant_of_steps (I := fun t => r ∈ t.runs.rows)
        (fun _ _ hmem heffect => heffect.succeeded hmem hstate hk) hr (op.apply_effects s))
  · intro x hx
    by_cases hk : op.origin = .prune x.runId
    · exact .inl (Op.origin_prune hk)
    · exact .inr (invariant_of_steps (I := fun t => x ∈ t.artifacts.rows)
        (fun _ _ hmem heffect => heffect.artifact_kept hmem hk) hx (op.apply_effects s))

/-! ## 発生時刻 -/

theorem nextFixedInterval_gt {anchor everySeconds reference next : Int} (hpos : 0 < everySeconds)
    (h : nextFixedInterval anchor everySeconds reference = .ok next) : reference < next := by
  unfold nextFixedInterval at h
  split at h
  · cases h
    assumption
  obtain ⟨elapsed, helapsed, h⟩ := except_bind_ok.mp h
  obtain ⟨_, rfl⟩ := checkedSub_eq_some.mp (orOverflow_ok.mp helapsed)
  obtain ⟨steps, hsteps, h⟩ := except_bind_ok.mp h
  obtain ⟨quotient, hquotient, hsteps⟩ := Option.bind_eq_some_iff.mp (orOverflow_ok.mp hsteps)
  obtain ⟨_, rfl⟩ := (checkedDiv_eq_some hpos).mp hquotient
  obtain ⟨_, rfl⟩ := checkedAdd_eq_some.mp hsteps
  obtain ⟨offset, hoffset, h⟩ := except_bind_ok.mp h
  obtain ⟨_, rfl⟩ := checkedMul_eq_some.mp (orOverflow_ok.mp hoffset)
  obtain ⟨_, rfl⟩ := checkedAdd_eq_some.mp (orOverflow_ok.mp h)
  rw [Int.tdiv_eq_ediv_of_nonneg (by omega)]
  exact (div_bounds anchor reference hpos).2

theorem nextCron_gt {lib : CronLibrary} {expression timezone : String} {reference next : Int}
    (h : nextCron lib expression timezone reference = .ok next) : reference < next := by
  unfold nextCron at h
  obtain ⟨_, _, h⟩ := except_bind_ok.mp h
  simp only [bind, Except.bind, pure, Except.pure, throw, throwThe, MonadExceptOf.throw] at h
  grind

namespace ScheduleSpec

variable {lib : CronLibrary} {spec : ScheduleSpec} {reference next : Int}

theorem nextAfter_gt (hpos : spec.intervalPositive = true) (h : spec.nextAfter lib reference = .ok next) :
    reference < next := by
  cases spec with
  | once at_ => grind [nextAfter]
  | fixedInterval anchor everySeconds => exact nextFixedInterval_gt (of_decide_eq_true hpos) h
  | cron expression timezone => exact nextCron_gt h

theorem firstAfterCreate_gt (hpos : spec.intervalPositive = true) (hvalid : spec.validateForCreate now = .ok ())
    (h : spec.firstAfterCreate lib now = .ok next) : now < next := by
  have hnext (h : spec.nextAfter lib now = .ok next) : now < next := nextAfter_gt hpos h
  cases spec <;> grind [firstAfterCreate, validateForCreate]

end ScheduleSpec

/-- 期限 `due` の過ぎた予定を、時刻 `now` にまとめた窓。 -/
structure WindowAt (due now : Int) (w : OccurrenceWindow) : Prop where
  scheduledFor : w.scheduledFor = due
  ordered : due ≤ w.coalescedThrough
  past : w.coalescedThrough ≤ now
  next : ∀ n, w.nextRunAt = some n → now < n

theorem coalesceSteps_window {next : Int → Except OccurrenceError Int} {due current : Int} {steps skipped : Nat}
    {w : OccurrenceWindow} (hnext : ∀ c n, next c = .ok n → c < n) (hdue : due ≤ current) (hnow : current ≤ now)
    (h : coalesceSteps next due now steps current skipped = .ok w) : WindowAt due now w := by
  induction steps generalizing current skipped with
  | zero => cases h
  | succ steps ih =>
    unfold coalesceSteps at h
    split at h
    · cases h
      exact ⟨rfl, hdue, hnow, by simp⟩
    · cases h
    · rename_i n hstep
      split at h
      · cases h
        exact ⟨rfl, hdue, hnow, by simpa using ‹n > now›⟩
      · exact ih (hdue.trans (hnext _ _ hstep).le) (by omega) h

theorem ScheduleSpec.coalesce_window {lib : CronLibrary} {spec : ScheduleSpec} {due : Int} {steps : Nat}
    {w : OccurrenceWindow} (hpos : spec.intervalPositive = true) (hdue : due ≤ now)
    (h : spec.coalesce lib due now steps = .ok w) : WindowAt due now w := by
  unfold coalesce at h
  rw [if_neg (by omega)] at h
  cases spec with
  | once at_ =>
    cases h
    exact ⟨rfl, le_rfl, hdue, by simp⟩
  | fixedInterval anchor everySeconds =>
    have hpos := of_decide_eq_true hpos
    obtain ⟨hfor, hthrough, hnext, _, _⟩ := coalesceFixedInterval_ok hpos hdue h
    obtain ⟨hle, hlt⟩ := div_bounds due now hpos
    have hnonneg : 0 ≤ (now - due) / everySeconds * everySeconds :=
      mul_nonneg (Int.ediv_nonneg (by omega) hpos.le) hpos.le
    exact ⟨hfor, by omega, by omega, by simpa [hnext] using hlt⟩
  | cron expression timezone => exact coalesceSteps_window (fun _ _ => nextCron_gt) le_rfl hdue h

theorem scheduleFromRow_positive {row : ScheduleRow} {spec : ScheduleSpec} (h : scheduleFromRow E row = .ok spec) :
    spec.intervalPositive = true := by
  unfold scheduleFromRow ScheduleSpec.fromStorage ScheduleSpec.ofCron at h
  simp only [bind, Except.bind, pure, Except.pure, throw, throwThe, MonadExceptOf.throw, Except.toOption] at h
  grind [ScheduleSpec.intervalPositive, invalidState]

theorem schedule_positive {c : ScheduleRow} {C : Table schedules} (hc : c ∈ C.rows) :
    c.spec.intervalPositive = true := (of_decide_eq_true (C.checked c hc) : c.Check).2.2

theorem validateCreateRequest_occurs {request : CreateScheduledJob} {policy : Policy} {next : Int}
    (h : validateCreateRequest E request policy = .ok next) :
    request.schedule.validateForCreate request.now = .ok () ∧
      request.schedule.firstAfterCreate E.cron request.now = .ok next := by
  simp only [validateCreateRequest, except_bind_ok, invalidValue_ok, invalidOccurrence_ok] at h
  grind

theorem validateUpdateRequest_future {request : UpdateScheduledJob} {policy : Policy}
    (h : validateUpdateRequest request policy = .ok ()) :
    request.schedule.validateForCreate request.now = .ok () := by
  obtain ⟨_, _, h⟩ := except_bind_ok.mp h
  obtain ⟨_, hfuture, h⟩ := except_bind_ok.mp h
  exact invalidValue_ok.mp hfuture

/-! ## 窓の並び -/

def Store.snapshots (s : Store) : Set ScheduledRunRow := {p | ∃ r ∈ s.runs.rows, r.snapshot = p}

theorem mem_snapshots (hr : r ∈ s.runs.rows) : r.snapshot ∈ s.snapshots := ⟨r, hr, rfl⟩

/-- 二つの実行の窓は重ならない。 -/
def Apart (p q : ScheduledRunRow) : Prop :=
  p.coalescedThrough < q.scheduledFor ∨ q.coalescedThrough < p.scheduledFor

/-- `made` は、今ある実行の写しをすべて含む。その窓は時刻 `t` までにあり、一つのジョブの窓は重ならず、次回時刻はどの窓よりも後に
ある。 -/
structure Windows (t : Int) (made : Set ScheduledRunRow) (s : Store) : Prop where
  holds : s.snapshots ⊆ made
  ordered : ∀ p ∈ made, p.scheduledFor ≤ p.coalescedThrough
  past : ∀ p ∈ made, p.coalescedThrough ≤ t
  next : ∀ c ∈ s.schedules.rows, ∀ n, c.nextRunAt = some n → ∀ p ∈ made, p.jobId = c.jobId → p.coalescedThrough < n
  apart : ∀ p ∈ made, ∀ q ∈ made, p.jobId = q.jobId → p ≠ q → Apart p q

/-- `s'` に新しく現れた写しを加えても窓は並び、新しい写しは前にはない。 -/
structure WindowsFollow (now : Int) (made : Set ScheduledRunRow) (s s' : Store) : Prop where
  windows : Windows now (made ∪ s'.snapshots) s'
  fresh : ∀ p ∈ s'.snapshots, p ∈ s.snapshots ∨ p ∉ made

variable {made made' : Set ScheduledRunRow}

theorem Windows.mono (h : Windows now made s) (hle : now ≤ t) : Windows t made s :=
  { h with past := fun p hp => (h.past p hp).trans hle }

theorem Windows.antitone (h : Windows now made s) (hsub : made' ⊆ made) (hholds : s.snapshots ⊆ made') :
    Windows now made' s where
  holds := hholds
  ordered p hp := h.ordered p (hsub hp)
  past p hp := h.past p (hsub hp)
  next c hc n hn p hp := h.next c hc n hn p (hsub hp)
  apart p hp q hq := h.apart p (hsub hp) q (hsub hq)

theorem Windows.of_subset (h : Windows now made s) (hruns : s'.snapshots ⊆ s.snapshots)
    (hnext : ∀ c' ∈ s'.schedules.rows, ∀ n, c'.nextRunAt = some n →
      now < n ∨ ∃ c ∈ s.schedules.rows, c.jobId = c'.jobId ∧ c.nextRunAt = some n) : WindowsFollow now made s s' := by
  refine ⟨?_, fun p hp => .inl (hruns hp)⟩
  rw [Set.union_eq_self_of_subset_right (hruns.trans h.holds)]
  refine ⟨hruns.trans h.holds, h.ordered, h.past, ?_, h.apart⟩
  intro c' hc' n hn p hp howner
  rcases hnext c' hc' n hn with hlt | ⟨c, hc, hjob, hcn⟩
  · exact (h.past p hp).trans_lt hlt
  · exact h.next c hc n hcn p hp (howner.trans hjob.symm)

/-- 進めた予定の次回時刻は後にあり、ほかのジョブの予定は変わらない。 -/
theorem Advances.next_gt {job : ScheduledJobRow} {row c : ScheduleRow} {due n : Int} {w : OccurrenceWindow}
    {J : Table scheduledJobs} {C : Table schedules} (h : Advances s job now w J C) (hw : WindowAt due now w)
    (hrow : row ∈ s.schedules.rows) (hjob : row.jobId = job.jobId) (hdue : row.nextRunAt = some due)
    (hc : c ∈ C.rows) (hn : c.nextRunAt = some n) : now < n ∨ (c ∈ s.schedules.rows ∧ c.jobId ≠ job.jobId) := by
  cases h with
  | next hnext advanced =>
    rcases advanced.mem.mp hc with ⟨_, _, _, rfl⟩ | ⟨hc, hrest⟩
    · cases hn
      exact .inl (hw.next _ hnext)
    · refine .inr ⟨hc, fun hsame => ?_⟩
      rw [s.schedules.eq_of_conflict hc hrow (by simp [schedules, hsame, hjob])] at hrest
      simp [hjob, hdue, hw.scheduledFor] at hrest
  | last hnone advanced jobs =>
    rcases advanced.mem.mp hc with ⟨_, _, _, rfl⟩ | ⟨hc, hrest⟩
    · cases hn
    · exact .inr ⟨hc, by simpa using hrest⟩

theorem Windows.materialized {job : ScheduledJobRow} {row : ScheduleRow} {due : Int} {w : OccurrenceWindow}
    {targets : List DeliveryTargetSnapshot} {baseline : ExecutionBaselineSnapshot} {R : Table scheduledRuns}
    {J : Table scheduledJobs} {C : Table schedules} (h : Windows now made s) (hw : WindowAt due now w)
    (hrow : row ∈ s.schedules.rows) (hjob : row.jobId = job.jobId) (hdue : row.nextRunAt = some due)
    (hR : s.runs.Appends (pendingRun job row w targets baseline now) R) (hadvances : Advances s job now w J C) :
    WindowsFollow now made s { s with runs := R, schedules := C, jobs := J } := by
  have hordered : w.scheduledFor ≤ w.coalescedThrough := hw.scheduledFor.trans_le hw.ordered
  have hold (p) (hp : p ∈ made) (howner : p.jobId = job.jobId) : p.coalescedThrough < w.scheduledFor := by
    rw [hw.scheduledFor]
    exact h.next row hrow due hdue p hp (howner.trans hjob.symm)
  -- 新しい窓は、作られたことのあるどの窓よりも後にある
  have hunmade : (pendingRun job row w targets baseline now).snapshot ∉ made := fun hmem =>
    absurd (hold _ hmem rfl) (not_lt.mpr hordered)
  have hsnapshots (p) (hp : p ∈ Store.snapshots { s with runs := R, schedules := C, jobs := J }) :
      p ∈ s.snapshots ∨ p = (pendingRun job row w targets baseline now).snapshot := by
    obtain ⟨r, hr, rfl⟩ := hp
    rcases hR.mem.mp hr with hr | rfl
    · exact .inl ⟨r, hr, rfl⟩
    · exact .inr rfl
  have hcases (p) (hp : p ∈ made ∪ Store.snapshots { s with runs := R, schedules := C, jobs := J }) :
      p ∈ made ∨ p = (pendingRun job row w targets baseline now).snapshot := by
    rcases hp with hp | hp
    · exact .inl hp
    · exact (hsnapshots p hp).imp_left fun hp => h.holds hp
  have hpast (p) (hp : p ∈ made ∪ Store.snapshots { s with runs := R, schedules := C, jobs := J }) :
      p.coalescedThrough ≤ now := by
    rcases hcases p hp with hp | rfl
    · exact h.past p hp
    · exact hw.past
  refine ⟨⟨Set.subset_union_right, ?_, hpast, ?_, ?_⟩, fun p hp => ?_⟩
  · intro p hp
    rcases hcases p hp with hp | rfl
    · exact h.ordered p hp
    · exact hordered
  · intro c hc n hn p hp howner
    rcases hadvances.next_gt hw hrow hjob hdue hc hn with hlt | ⟨hc, hne⟩
    · exact (hpast p hp).trans_lt hlt
    · rcases hcases p hp with hp | rfl
      · exact h.next c hc n hn p hp howner
      · exact absurd howner.symm hne
  · intro p hp q hq howner hne
    rcases hcases p hp with hp | rfl <;> rcases hcases q hq with hq | rfl
    · exact h.apart p hp q hq howner hne
    · exact .inl (hold p hp howner)
    · exact .inr (hold q hq howner.symm)
    · exact absurd rfl hne
  · rcases hsnapshots p hp with hp | rfl
    · exact .inl hp
    · exact .inr hunmade

theorem Windows.step (h : Windows now made s) (heffect : Effect E now k s s') : WindowsFollow now made s s' := by
  have hkept {C : Table schedules} {f : ScheduleRow → ScheduleRow} {p : ScheduleRow → Bool}
      (hC : s.schedules.Rewrites p f C) (hf : ∀ c ∈ s.schedules.rows, f c ∈ C.rows → ∀ n, (f c).nextRunAt = some n →
        now < n ∨ ((f c).jobId = c.jobId ∧ c.nextRunAt = some n)) (c') (hc' : c' ∈ C.rows) (n) (hn : c'.nextRunAt = some n) :
      now < n ∨ ∃ c ∈ s.schedules.rows, c.jobId = c'.jobId ∧ c.nextRunAt = some n := by
    rcases hC.mem.mp hc' with ⟨c, hc, _, rfl⟩ | ⟨hc, _⟩
    · exact (hf c hc hc' n hn).imp_right fun ⟨hjob, hcn⟩ => ⟨c, hc, hjob.symm, hcn⟩
    · exact .inr ⟨c', hc, rfl, hn⟩
  have hsame (c) (hc : c ∈ s.schedules.rows) (n) (hn : c.nextRunAt = some n) :
      now < n ∨ ∃ c₀ ∈ s.schedules.rows, c₀.jobId = c.jobId ∧ c₀.nextRunAt = some n := .inr ⟨c, hc, rfl, hn⟩
  have hruns (hk : ∀ jobId, k ≠ .materialize jobId) : s'.snapshots ⊆ s.snapshots := by
    rintro _ ⟨o, ho, rfl⟩
    rcases heffect.accounted ho with ⟨r, hr, hfollows⟩ | ⟨hmaterialized, _⟩
    · exact ⟨r, hr, hfollows.snapshot.symm⟩
    · exact absurd hmaterialized (hk _)
  cases heffect with
  | aside same => exact h.of_subset (by simp [Store.snapshots, same.runs]) (same.schedules ▸ hsame)
  | keyed kept => exact h.of_subset subset_rfl hsame
  | delivery rewrites change baselines => exact h.of_subset subset_rfl hsame
  | created time valid jobs schedules targets baselines =>
    refine h.of_subset (hruns (by simp)) fun c hc n hn => ?_
    rcases schedules.mem.mp hc with hc | rfl
    · exact hsame c hc n hn
    · cases hn
      obtain ⟨hfuture, hfirst⟩ := validateCreateRequest_occurs valid
      exact .inl (ScheduleSpec.firstAfterCreate_gt (schedule_positive hc) (time ▸ hfuture) (time ▸ hfirst))
  | updated time valid found jobId generation next jobs cancels schedules targets =>
    refine h.of_subset (hruns (by simp)) (hkept schedules fun c _ hc n hn => ?_)
    rcases next with ⟨_, next, rfl, hfirst⟩ | ⟨_, rfl⟩
    · cases hn
      exact .inl (ScheduleSpec.firstAfterCreate_gt (schedule_positive hc)
        (time ▸ validateUpdateRequest_future valid) (time ▸ hfirst))
    · cases hn
  | stopped becomes jobs cancels schedules =>
    exact h.of_subset (hruns (by simp)) (hkept schedules fun _ _ _ n hn => .inr ⟨rfl, hn⟩)
  | resumed paused found jobId readable occurs jobs schedules =>
    refine h.of_subset (hruns (by simp)) (hkept schedules fun _ _ _ n hn => ?_)
    cases hn
    exact .inl (ScheduleSpec.nextAfter_gt (scheduleFromRow_positive readable) occurs)
  | materialized found active schedule jobId nextRunAt overdue readable coalesced baselines owner runs advances =>
    exact h.materialized (ScheduleSpec.coalesce_window (scheduleFromRow_positive readable) overdue coalesced)
      schedule jobId nextRunAt runs advances
  | _ => exact h.of_subset (hruns (by simp_all)) hsame

/-! ## 作られた実行の台帳 -/

/-- `s` から `s'` までに作られた実行の、作られたときの写し。 -/
def Store.createdSince (s s' : Store) : List ScheduledRunRow :=
  (s'.runs.rows.map ScheduledRunRow.snapshot).filter fun p => !s.runs.rows.any fun r => r.snapshot == p

/-- 保存領域と、これまでに作られた実行の写し。整理で消えた実行も残る。 -/
structure RunLedger where
  store : Store
  made : List ScheduledRunRow

def RunLedger.next (E : Env) (l : RunLedger) (op : Op) : RunLedger where
  store := op.apply E l.store
  made := l.store.createdSince (op.apply E l.store) ++ l.made

/-- 時刻が後戻りしない実行の台帳と、最後に読んだ時刻。 -/
inductive RecordedAt (E : Env) : RunLedger → Int → Prop where
  | start (t : Int) : RecordedAt E ⟨.empty, []⟩ t
  | step {l : RunLedger} {t : Int} (op : Op) (recorded : RecordedAt E l t) (le : t ≤ op.clock) :
      RecordedAt E (l.next E op) op.clock

variable {l : RunLedger} {p : ScheduledRunRow}

theorem mem_createdSince : p ∈ s.createdSince s' ↔ p ∈ s'.snapshots ∧ p ∉ s.snapshots := by
  simp [Store.createdSince, Store.snapshots]

theorem createdSince_apart (h : Windows now made s') :
    (s.createdSince s').Pairwise fun p q => p.jobId = q.jobId → Apart p q := by
  refine List.Pairwise.filter _ (List.pairwise_map.mpr (s'.runs.unique.imp_of_mem ?_))
  intro r o hr ho hconflict howner
  refine h.apart _ (h.holds (mem_snapshots hr)) _ (h.holds (mem_snapshots ho)) howner fun hsame => ?_
  have hid : r.runId = o.runId := (congrArg ScheduledRunRow.runId hsame :)
  simp [scheduledRuns, hid] at hconflict

theorem Op.windows_follow {op : Op} (h : Windows op.clock made s) :
    ∃ seen, made ⊆ seen ∧ Windows op.clock seen (op.apply E s) ∧
      ∀ p ∈ (op.apply E s).snapshots, p ∈ s.snapshots ∨ p ∉ made := by
  refine invariant_of_steps (I := fun u => ∃ seen, made ⊆ seen ∧ Windows op.clock seen u ∧
    ∀ p ∈ u.snapshots, p ∈ s.snapshots ∨ p ∉ made) ?_ ⟨made, subset_rfl, h, fun p hp => .inl hp⟩ (op.apply_effects s)
  rintro u v ⟨seen, hsub, hwindows, hfresh⟩ heffect
  have hfollow := hwindows.step heffect
  refine ⟨seen ∪ v.snapshots, hsub.trans Set.subset_union_left, hfollow.windows, fun p hp => ?_⟩
  rcases hfollow.fresh p hp with hp | hp
  · exact hfresh p hp
  · exact .inr fun hmem => hp (hsub hmem)

/-- 台帳の窓は並び、一つのジョブの窓は、消えた実行のものも重ならない。 -/
structure LedgerApart (l : RunLedger) (t : Int) : Prop where
  windows : Windows t {p | p ∈ l.made} l.store
  apart : l.made.Pairwise fun p q => p.jobId = q.jobId → Apart p q

theorem LedgerApart.step {op : Op} (h : LedgerApart l t) (hle : t ≤ op.clock) : LedgerApart (l.next E op) op.clock := by
  obtain ⟨seen, hsub, hseen, hfresh⟩ := Op.windows_follow (E := E) (h.windows.mono hle)
  have hwindows : Windows op.clock {p | p ∈ (l.next E op).made} (op.apply E l.store) := by
    refine hseen.antitone (fun p hp => ?_) fun p hp => List.mem_append.mpr ?_
    · rcases List.mem_append.mp hp with hp | hp
      · exact hseen.holds (mem_createdSince.mp hp).1
      · exact hsub hp
    · by_cases hmade : p ∈ l.store.snapshots
      · exact .inr (h.windows.holds hmade)
      · exact .inl (mem_createdSince.mpr ⟨hp, hmade⟩)
  refine ⟨hwindows, List.pairwise_append.mpr ⟨createdSince_apart hwindows, h.apart, fun p hp q hq howner => ?_⟩⟩
  -- 新しい写しは台帳になかったので、前の写しと違う
  obtain ⟨hnew, hunstored⟩ := mem_createdSince.mp hp
  have hne : p ≠ q := by
    rintro rfl
    exact ((hfresh p hnew).resolve_left hunstored) hq
  exact hwindows.apart p (List.mem_append_left _ hp) q (List.mem_append_right _ hq) howner hne

theorem RecordedAt.ledgerApart (h : RecordedAt E l t) : LedgerApart l t := by
  induction h with
  | start t =>
    refine ⟨?_, .nil⟩
    constructor <;> simp [Store.empty, Store.snapshots]
  | step op _ hle ih => exact ih.step hle

theorem ReachableAt.recorded (h : ReachableAt E s t) : ∃ made, RecordedAt E ⟨s, made⟩ t := by
  induction h with
  | start t => exact ⟨[], .start t⟩
  | step op _ hle ih =>
    obtain ⟨made, hmade⟩ := ih
    exact ⟨_, .step op hmade hle⟩

/-- 時刻の戻らないどの実行でも、これまでに作られた実行は、整理で消えたものも含めて、一つのジョブの窓が重ならない。どの窓も過ぎた時刻
で終わり、ジョブの次回時刻はその実行のどの窓よりも後にある。今ある実行は、どれもそのうちにある。 -/
theorem occurrence_claimed_once (h : RecordedAt E l t) :
    (l.made.Pairwise fun p q => p.jobId = q.jobId →
      ∀ x, ¬((p.scheduledFor ≤ x ∧ x ≤ p.coalescedThrough) ∧ q.scheduledFor ≤ x ∧ x ≤ q.coalescedThrough)) ∧
    (∀ p ∈ l.made, (p.scheduledFor ≤ p.coalescedThrough ∧ p.coalescedThrough ≤ t) ∧
      ∀ c ∈ l.store.schedules.rows, c.jobId = p.jobId → ∀ n, c.nextRunAt = some n → p.coalescedThrough < n) ∧
    ∀ r ∈ l.store.runs.rows, r.snapshot ∈ l.made := by
  obtain ⟨hwindows, hapart⟩ := h.ledgerApart
  refine ⟨hapart.imp fun hpq howner x hx => ?_, fun p hp => ⟨⟨hwindows.ordered p hp, hwindows.past p hp⟩, ?_⟩,
    fun r hr => hwindows.holds (mem_snapshots hr)⟩
  · rcases hpq howner with hlt | hlt <;> omega
  · exact fun c hc howner n hn => hwindows.next c hc n hn p hp howner.symm

def createdStore : Store := (Op.create defaultPolicy sampleCreate).apply (envOf []) .empty

def windowStore : Store := (Op.materialize "j" 0 250 none).apply (envOf []) createdStore

theorem createdStore_reached : ReachableAt (envOf []) createdStore 0 :=
  .step (.create defaultPolicy sampleCreate) (.start 0) (by decide)

theorem windowStore_reached : ReachableAt (envOf []) windowStore 250 :=
  .step (.materialize "j" 0 250 none) createdStore_reached (by decide)

/-- 発生した実行を取り消して消し、再開してもう一度発生させる。 -/
def prunedOps : List Op :=
  [.create defaultPolicy sampleCreate, .materialize "j" 0 250 none, .pause "j" 0 300,
    .pruneRun "op" "scheduled:j:100" 0 0 .cancelled 300 300 400, .resume defaultPolicy "j" 1 450,
    .materialize "j" 2 600 none]

def prunedLedger : RunLedger := prunedOps.foldl (RunLedger.next (envOf [])) ⟨.empty, []⟩

theorem prunedLedger_recorded : RecordedAt (envOf []) prunedLedger 600 := by
  refine .step (.materialize "j" 2 600 none) (.step (.resume defaultPolicy "j" 1 450) (.step (.pruneRun "op"
    "scheduled:j:100" 0 0 .cancelled 300 300 400) (.step (.pause "j" 0 300) (.step (.materialize "j" 0 250 none)
    (.step (.create defaultPolicy sampleCreate) (.start 0) ?_) ?_) ?_) ?_) ?_) ?_ <;> decide

/-- 消えた実行の窓は、後で発生した実行の窓と重ならない。 -/
theorem pruned_window_kept :
    prunedLedger.made.map (fun p => (p.scheduledFor, p.coalescedThrough)) = [(460, 580), (100, 220)] ∧
      prunedLedger.store.runs.rows.map (·.scheduledFor) = [460] ∧
      prunedLedger.made.Pairwise fun p q => p.jobId = q.jobId →
        ∀ x, ¬((p.scheduledFor ≤ x ∧ x ≤ p.coalescedThrough) ∧ q.scheduledFor ≤ x ∧ x ≤ q.coalescedThrough) := by
  have hruns : prunedLedger.made.map (fun p => (p.scheduledFor, p.coalescedThrough)) = [(460, 580), (100, 220)] ∧
      prunedLedger.store.runs.rows.map (·.scheduledFor) = [460] := by decide +kernel
  exact ⟨hruns.1, hruns.2, (occurrence_claimed_once prunedLedger_recorded).1⟩

/-! ## 期限の来たジョブ -/

theorem listed_due {jobId : String} {limit : Nat} (h : jobId ∈ listDueScheduledJobs s now limit) :
    ∃ job row due, dueJob jobId job.generation now s = some (job, row, due) ∧ overlapBlocked s jobId = false := by
  obtain ⟨row, hlisted, rfl⟩ := List.mem_map.mp h
  have hlisted := (List.mem_insertionSort _).mp (List.mem_of_mem_take hlisted)
  obtain ⟨hrow, hdue⟩ := List.mem_filter.mp hlisted
  simp only [isDue, Bool.and_eq_true, List.any_eq_true, beq_iff_eq, Option.any_eq_true, decide_eq_true_eq,
    Bool.not_eq_true'] at hdue
  obtain ⟨⟨⟨job, hjob, hid, hactive⟩, due, hnext, hle⟩, hfree⟩ := hdue
  have hfound : s.jobs.rows.find? (fun j => j.jobId == row.jobId) = some job := by
    refine find?_of_unique hjob fun j hj => ⟨fun hsame => ?_, fun hsame => by simp [hsame, hid]⟩
    exact s.jobs.eq_of_conflict hj hjob (by simpa [scheduledJobs, hid] using hsame)
  have hschedule : s.schedules.rows.find? (fun r => r.jobId == row.jobId) = some row := by
    refine find?_of_unique hrow fun c hc => ⟨fun hsame => ?_, fun hsame => by simp [hsame]⟩
    refine s.schedules.eq_of_conflict hc hrow ?_
    simp [schedules, beq_iff_eq.mp hsame]
  exact ⟨job, row, due, by simp [dueJob, hfound, hschedule, hnext, hactive, hle], hfree⟩

/-- 期限の来た予定から作った実行。予定の時刻を受け持ち、前の窓と重ならず、その予定の次回時刻は `now` より後になる。 -/
structure MaterializesDue (s : Store) (now : Int) (jobId : String) (run : ScheduledRunRow) (s' : Store) : Prop where
  rows : s'.runs.rows = s.runs.rows ++ [run]
  owner : run.jobId = jobId
  due : run.scheduledFor ≤ now ∧ ∃ c ∈ s.schedules.rows, c.jobId = jobId ∧ c.nextRunAt = some run.scheduledFor
  fresh : ∀ r ∈ s.runs.rows, r.jobId = jobId → r.coalescedThrough < run.scheduledFor
  next : ∀ c ∈ s'.schedules.rows, c.jobId = jobId → ∀ n, c.nextRunAt = some n → now < n

/-- 期限が来たと並べたジョブを、その世代で発生させて失敗しなければ、必ず新しい実行が一つできる。期限前とも、塞がれているとも、
発生済みとも答えない。 -/
theorem listed_job_materializes (h : ReachableAt E s t) {jobId : String} {limit : Nat}
    (hlisted : jobId ∈ listDueScheduledJobs s now limit) (admission : Option AdmissionGuard) :
    ∃ job ∈ s.jobs.rows, job.jobId = jobId ∧ ∀ outcome s',
      materializeDueSchedule E jobId job.generation now admission s = .ok (outcome, s') →
        ∃ run, outcome = .created run.materialized ∧ MaterializesDue s now jobId run s' := by
  obtain ⟨job, row, due, hdue, hfree⟩ := listed_due hlisted
  obtain ⟨⟨hjob, hid, hactive, _⟩, hrow, hrid, hnext, hle⟩ := dueJob_eq_some hdue
  subst hid
  refine ⟨job, hjob, rfl, fun outcome s' hrun => ?_⟩
  unfold materializeDueSchedule at hrun
  obtain ⟨_, s0, hacquired, hrun⟩ := Tx.bind_ok.mp hrun
  rw [acquireExecutorAdmission_ok hacquired, Tx.read_bind_apply, hdue] at hrun
  dsimp only at hrun
  rw [Tx.read_bind_apply, hfree, if_neg (by decide)] at hrun
  obtain ⟨run, s1, hoccurrence, hrun⟩ := Tx.bind_ok.mp hrun
  obtain ⟨_, hrecorded⟩ := h.recorded
  have hwindows := hrecorded.ledgerApart.windows
  have hfresh (r) (hr : r ∈ s.runs.rows) (howner : r.jobId = job.jobId) : r.coalescedThrough < due :=
    hwindows.next row hrow due hnext r.snapshot (hwindows.holds (mem_snapshots hr)) (howner.trans hrid.symm)
  unfold materializeOccurrence at hoccurrence
  obtain ⟨spec, hspec, hoccurrence⟩ := Tx.check_bind_ok.mp hoccurrence
  obtain ⟨window, hwindow, hoccurrence⟩ := Tx.check_bind_ok.mp hoccurrence
  obtain ⟨⟨targets, baseline⟩, s2, hload, hoccurrence⟩ := Tx.bind_ok.mp hoccurrence
  rw [(loadMaterializationSnapshots_ok hload).1] at hoccurrence
  obtain ⟨n, s3, hinsert, hoccurrence⟩ := Tx.bind_ok.mp hoccurrence
  have hw := ScheduleSpec.coalesce_window (scheduleFromRow_positive hspec) hle (invalidOccurrence_ok.mp hwindow)
  obtain ⟨_, ⟨_, _, _, o, ho, howner, hfor⟩ | ⟨rfl, R, hR, rfl⟩⟩ := insertRunOrIgnore_ok.mp hinsert
  -- 予定の時刻は前のどの窓よりも後なので、同じ発生はまだない。
  · have hclaimed := hfresh o ho howner
    have hcheck : o.Check := of_decide_eq_true (s.runs.checked o ho)
    have hordered : o.scheduledFor ≤ o.coalescedThrough := hcheck.1.2.2
    have hsame : o.scheduledFor = due := hfor.trans hw.scheduledFor
    omega
  · obtain ⟨_, s4, hadvance, hoccurrence⟩ := Tx.bind_ok.mp hoccurrence
    cases hoccurrence
    obtain ⟨_, s5, hconfirmed, hrun⟩ := Tx.bind_ok.mp hrun
    cases hrun
    obtain ⟨J, C, hadvances, rfl⟩ := advanceSchedule_ok (s := { s with runs := R }) hjob hactive hadvance
    cases confirmExecutorAdmission_ok hconfirmed
    refine ⟨_, rfl, hR.rows, rfl, ?_, ?_, ?_⟩
    · exact ⟨hw.scheduledFor.trans_le hle, row, hrow, hrid, hnext.trans (congrArg some hw.scheduledFor.symm)⟩
    · exact fun r hr howner => (hfresh r hr howner).trans_eq hw.scheduledFor.symm
    · intro c hc howner n hn
      rcases hadvances.next_gt hw hrow hrid hnext hc hn with hlt | ⟨_, hne⟩
      · exact hlt
      · exact absurd howner hne

/-- 一覧に載った `j` は、断られずに発生する。 -/
theorem due_job_materializes :
    ∃ job ∈ createdStore.jobs.rows, job.jobId = "j" ∧ ∀ outcome s',
      materializeDueSchedule (envOf []) "j" job.generation 250 none createdStore = .ok (outcome, s') →
        ∃ run, outcome = .created run.materialized ∧ MaterializesDue createdStore 250 "j" run s' := by
  have hlisted : "j" ∈ listDueScheduledJobs createdStore 250 1 := by decide +kernel
  exact listed_job_materializes createdStore_reached hlisted none

/-! ## ジョブの世代 -/

/-- ジョブ `j'` は `j` の後の姿である。定義を変えると世代が進み、消したジョブは変わらない。 -/
structure JobAdvances (j j' : ScheduledJobRow) : Prop where
  jobId : j'.jobId = j.jobId
  origin : j'.owner = j.owner ∧ j'.creator = j.creator ∧ j'.createdAt = j.createdAt
  generation : j.generation ≤ j'.generation
  frozen : j'.generation = j.generation →
    j'.definition = j.definition ∧ j'.capability = j.capability ∧ j'.policy = j.policy
  deleted : j.status = .deleted → j' = j
  completed : j.status = .completed → j'.status = .completed ∨ j'.status = .deleted

theorem JobAdvances.refl (j : ScheduledJobRow) : JobAdvances j j :=
  ⟨rfl, ⟨rfl, rfl, rfl⟩, le_rfl, fun _ => ⟨rfl, rfl, rfl⟩, fun _ => rfl, .inl⟩

theorem JobAdvances.trans {j j' j'' : ScheduledJobRow} (h : JobAdvances j j') (g : JobAdvances j' j'') :
    JobAdvances j j'' := by
  obtain ⟨hid, horigin, hgeneration, hfrozen, hdeleted, hcompleted⟩ := h
  obtain ⟨gid, gorigin, ggeneration, gfrozen, gdeleted, gcompleted⟩ := g
  constructor <;> grind

def JobsAdvance (s s' : Store) : Prop := ∀ j ∈ s.jobs.rows, ∃ j' ∈ s'.jobs.rows, JobAdvances j j'

theorem JobsAdvance.refl (s : Store) : JobsAdvance s s := fun j hj => ⟨j, hj, .refl j⟩

theorem JobsAdvance.trans {s'' : Store} (h : JobsAdvance s s') (g : JobsAdvance s' s'') : JobsAdvance s s'' := by
  intro j hj
  obtain ⟨j₁, hj₁, hfirst⟩ := h j hj
  obtain ⟨j₂, hj₂, hlater⟩ := g j₁ hj₁
  exact ⟨j₂, hj₂, hfirst.trans hlater⟩

theorem Effect.jobsAdvance (h : Effect E now k s s') : JobsAdvance s s' := by
  cases h with
  | aside same => exact fun j hj => ⟨j, same.jobs ▸ hj, .refl j⟩
  | created time valid jobs schedules targets baselines =>
    exact fun j hj => ⟨j, jobs.mem.mpr (.inl hj), .refl j⟩
  | updated time valid found jobId generation next jobs cancels schedules targets =>
    refine (replaces_same JobAdvances.refl jobs ?_).2
    unfold UpdateOccurrence at next
    constructor <;> grind [updatedJob]
  | stopped becomes jobs cancels schedules =>
    refine (replaces_same JobAdvances.refl jobs ?_).2
    constructor <;> grind [inactiveJob, canBecome, InactiveStatus.status]
  | resumed paused found jobId readable occurs jobs schedules =>
    refine (replaces_same JobAdvances.refl jobs ?_).2
    constructor <;> grind [resumedJob]
  | materialized found active schedule jobId nextRunAt overdue readable coalesced baselines owner runs advances =>
    cases advances with
    | next hnext schedules => exact .refl s
    | last hnone schedules jobs =>
      refine (rewrites_same JobAdvances.refl jobs fun j _ hj => ?_).2
      constructor <;> grind [completedJob]
  | _ => exact .refl _

/-- どの操作の列でも、ジョブは消えず、所有者を変えず、世代を戻さない。定義と能力と方針が変わるのは世代が進むときだけで、消した
ジョブは二度と変わらず、終わったジョブは消されるほかない。 -/
theorem jobs_advance_along (E : Env) (ops : List Op) (s : Store) :
    JobsAdvance s (ops.foldl (fun s op => op.apply E s) s) := by
  induction ops generalizing s with
  | nil => exact .refl s
  | cons op ops ih =>
    have hop : JobsAdvance s (op.apply E s) := invariant_of_steps (I := JobsAdvance s)
      (fun _ _ hprior heffect => hprior.trans heffect.jobsAdvance) (.refl s) (op.apply_effects s)
    exact hop.trans (ih _)

/-- 実行は、ジョブのその世代の写しである。 -/
def CarriesJob (s : Store) (r : ScheduledRunRow) : Prop :=
  ∃ j ∈ s.jobs.rows, j.jobId = r.jobId ∧ r.jobGeneration ≤ j.generation ∧ (r.jobGeneration = j.generation →
    r.definition = j.definition ∧ r.capability = j.capability ∧ r.policy = j.policy)

theorem CarriesJob.advance (h : CarriesJob s r) (hjobs : JobsAdvance s s') (hsame : o.snapshot = r.snapshot) :
    CarriesJob s' o := by
  obtain ⟨j, hj, hcarries⟩ := h
  obtain ⟨j', hj', hadvances⟩ := hjobs j hj
  obtain ⟨hid, horigin, hgeneration, hfrozen, hdeleted, hcompleted⟩ := hadvances
  simp only [ScheduledRunRow.snapshot, ScheduledRunRow.mk.injEq] at hsame
  exact ⟨j', hj', by grind⟩

theorem Effect.carries (h : Effect E now k s s') (hs : ∀ r ∈ s.runs.rows, CarriesJob s r) (ho : o ∈ s'.runs.rows) :
    CarriesJob s' o := by
  have hjobs := h.jobsAdvance
  have hold {r : ScheduledRunRow} (hr : r ∈ s.runs.rows) (hsame : o.snapshot = r.snapshot) : CarriesJob s' o :=
    (hs r hr).advance hjobs hsame
  rcases h.accounted ho with ⟨r, hr, hfollows⟩ | ⟨hk, _⟩
  · exact hold hr hfollows.snapshot
  · cases h with
    | aside same => exact hold (same.runs ▸ ho) rfl
    | materialized found active schedule jobId nextRunAt overdue readable coalesced baselines owner runs advances =>
      rcases runs.mem.mp ho with ho | rfl
      · exact hold ho rfl
      · refine CarriesJob.advance ?_ hjobs rfl
        exact ⟨_, found, rfl, le_rfl, fun _ => ⟨rfl, rfl, rfl⟩⟩
    | keyed | delivery | resolved => exact hold ho rfl
    | _ => cases hk

/-- 到達するどの状態でも、どの実行にもジョブがあり、その世代を超えない。世代がジョブと同じ実行は、その定義と能力と方針を持つ。 -/
theorem runs_carry_generation (h : Reachable E s) : ∀ r ∈ s.runs.rows, CarriesJob s r :=
  h.invariant (by simp [Store.empty]) fun hs heffect _ ho => heffect.carries hs ho

/-- 枠の実行は、そのジョブの写しを持つ。 -/
theorem window_run_carries : ∃ r ∈ windowStore.runs.rows, CarriesJob windowStore r := by
  have hruns : ∃ r ∈ windowStore.runs.rows, r.jobGeneration = 0 := by decide +kernel
  obtain ⟨r, hr, _⟩ := hruns
  exact ⟨r, hr, runs_carry_generation windowStore_reached.reachable r hr⟩

/-! ## 整理 -/

/-- 実行 `runId` の行だけがすべて消え、整理の記録のほかの表は変わらない。 -/
structure ErasesRun (runId : String) (s s' : Store) : Prop where
  runs : ∀ r, r ∈ s'.runs.rows ↔ r ∈ s.runs.rows ∧ r.runId ≠ runId
  attempts : ∀ a, a ∈ s'.attempts.rows ↔ a ∈ s.attempts.rows ∧ a.runId ≠ runId
  artifacts : ∀ x, x ∈ s'.artifacts.rows ↔ x ∈ s.artifacts.rows ∧ x.runId ≠ runId
  evidence : ∀ x, x ∈ s'.lateEvidence.rows ↔ x ∈ s.lateEvidence.rows ∧ x.runId ≠ runId
  deliveries : ∀ d, d ∈ s'.deliveries.rows ↔ d ∈ s.deliveries.rows ∧ d.runId ≠ runId
  deliveryAttempts : ∀ a, a ∈ s'.deliveryAttempts.rows ↔ a ∈ s.deliveryAttempts.rows ∧
    ∀ d ∈ s.deliveries.rows, d.runId = runId → d.deliveryId ≠ a.deliveryId
  rest : { s' with
    runs := s.runs
    attempts := s.attempts
    artifacts := s.artifacts
    lateEvidence := s.lateEvidence
    deliveries := s.deliveries
    deliveryAttempts := s.deliveryAttempts
    deliveryRetention := s.deliveryRetention
    runRetention := s.runRetention } = s

theorem claimRetention_ok {operationId runId : String} {ds : List ScheduledDeliveryRow} {u : Unit}
    (h : claimRetention operationId runId now ds s = .ok (u, s')) :
    ∃ L, s' = { s with deliveryRetention := L } ∧ ∀ l, l ∈ L.rows ↔ l ∈ s.deliveryRetention.rows ∨
      ∃ d ∈ ds, l = ⟨operationId, d.deliveryId, runId, d.jobId, now⟩ := by
  induction ds generalizing s with
  | nil =>
    cases h
    exact ⟨_, rfl, by simp⟩
  | cons d ds ih =>
    unfold claimRetention at h
    rw [Tx.read_bind_apply] at h
    cases hprior : s.deliveryRetention.rows.find? fun l => l.deliveryId == d.deliveryId with
    | some l =>
      rw [hprior] at h
      dsimp only at h
      split at h <;> cases h
    | none =>
      rw [hprior] at h
      obtain ⟨_, s1, h1, h⟩ := Tx.bind_ok.mp h
      obtain ⟨T, hT, rfl⟩ := statement_insert_ok.mp h1
      obtain ⟨L, rfl, hL⟩ := ih h
      refine ⟨L, rfl, fun l => ?_⟩
      rw [hL, hT.mem]
      simp [or_assoc]

/-- 成功した実行の整理は、何も変えないか、配送がすべて済んで基準の元でない一つの実行の履歴をすべて消し、その配送をすべて台帳に
記す。成功しなかった実行の整理は、何も変えないか、配送も成果もない一つの実行を消し、一行を記す。 -/
theorem retention_erases_one_run (h : Reachable E s) (operationId runId : String) (now : Int) :
    (∀ runCutoff deliveryCutoff e,
      let s' := (Op.pruneDelivery operationId runId runCutoff deliveryCutoff now e).apply E s
      s' = s ∨ (ErasesRun runId s s' ∧
        (∃ r ∈ s.runs.rows, r.runId = runId ∧ r.state = .succeeded ∧ isBaselineSource s r = false) ∧
        (∀ d ∈ s.deliveries.rows, d.runId = runId → prunableDelivery deliveryCutoff d = true) ∧
        s'.runRetention = s.runRetention ∧ ∀ l, l ∈ s'.deliveryRetention.rows ↔ l ∈ s.deliveryRetention.rows ∨
          ∃ d ∈ s.deliveries.rows, d.runId = runId ∧ l = ⟨operationId, d.deliveryId, runId, d.jobId, now⟩)) ∧
    ∀ jobGeneration scheduleGeneration state terminalAt cutoffAt,
      let s' := (Op.pruneRun operationId runId jobGeneration scheduleGeneration state terminalAt cutoffAt now).apply E s
      s' = s ∨ (ErasesRun runId s s' ∧ s'.deliveryRetention = s.deliveryRetention ∧
        ∃ r ∈ s.runs.rows, r.runId = runId ∧ r.state.isRetryable = true ∧ isBaselineSource s r = false ∧
          (∀ d ∈ s.deliveries.rows, d.runId ≠ runId) ∧ (∀ x ∈ s.artifacts.rows, x.runId ≠ runId) ∧
          s'.runRetention.rows =
            s.runRetention.rows ++ [⟨operationId, runId, r.jobId, terminalAt, cutoffAt, now⟩]) := by
  constructor
  · intro runCutoff deliveryCutoff e
    dsimp only [Op.apply, commit]
    split
    · rename_i _ s' hrun
      refine .inr ?_
      change pruneScheduledDeliveryHistory operationId runId runCutoff deliveryCutoff now e s = .ok (_, s') at hrun
      obtain ⟨_, _, hrun⟩ := Tx.check_bind_ok.mp hrun
      obtain ⟨_, hrun⟩ := Tx.require_bind_ok.mp hrun
      rw [Tx.read_bind_apply, Tx.read_bind_apply] at hrun
      obtain ⟨heligible, hrun⟩ := Tx.require_bind_ok.mp hrun
      obtain ⟨_, s1, hclaim, hrun⟩ := Tx.bind_ok.mp hrun
      obtain ⟨L, rfl, hL⟩ := claimRetention_ok hclaim
      cases hrun
      simp only [Bool.and_eq_true, List.any_eq_true, beq_iff_eq, prunableSuccess, Bool.not_eq_true',
        List.all_eq_true, List.mem_insertionSort, List.mem_filter] at heligible
      obtain ⟨⟨⟨r, hr, hid, ⟨⟨⟨⟨hstate, _⟩, _⟩, _⟩, hsource⟩, _⟩, _⟩, hsettled⟩ := heligible
      refine ⟨?_, ⟨r, hr, hid, hstate, hsource⟩, fun d hd hrun => hsettled d ⟨hd, hrun⟩, rfl, ?_⟩
      · constructor <;> simp [deleteRunHistory, deleteRunRows]
      · simp [deleteRunHistory, deleteRunRows, hL, and_assoc]
    · exact .inl rfl
  · intro jobGeneration scheduleGeneration state terminalAt cutoffAt
    dsimp only [Op.apply, commit]
    split
    · rename_i _ s' hrun
      refine .inr ?_
      change pruneTerminalScheduledRunHistory operationId runId jobGeneration scheduleGeneration state terminalAt
        cutoffAt now s = .ok (_, s') at hrun
      obtain ⟨_, _, hrun⟩ := Tx.check_bind_ok.mp hrun
      rw [Tx.read_bind_apply] at hrun
      obtain ⟨_, hrun⟩ := Tx.require_bind_ok.mp hrun
      obtain ⟨r, hr, hrun⟩ := Tx.orElseFail_bind_ok.mp hrun
      obtain ⟨_, s1, hinsert, hrun⟩ := Tx.bind_ok.mp hrun
      obtain ⟨T, hT, rfl⟩ := statement_insert_ok.mp hinsert
      cases hrun
      have hmem := List.mem_of_find?_eq_some hr
      have hprune := List.find?_some hr
      simp only [prunableTerminal, Bool.and_eq_true, beq_iff_eq, Bool.not_eq_true', List.any_eq_false] at hprune
      obtain ⟨hid, ⟨⟨⟨⟨⟨_, hretryable⟩, _⟩, _⟩, hundelivered⟩, hsource⟩, _⟩ := hprune
      have hnone (d) (hd : d ∈ s.deliveries.rows) : d.runId ≠ runId := fun hrun => hundelivered d hd (hrun.trans hid.symm)
      -- 成果を持つのは成功した実行だけなので、消える成果はない。
      have hresult (x) (hx : x ∈ s.artifacts.rows) : x.runId ≠ runId := by
        rintro rfl
        obtain ⟨o, ho, hsame, hstate⟩ := h.resultsOwned.artifacts x hx
        rw [eq_of_runId hmem ho (hsame.trans hid.symm)] at hstate
        simp [ScheduledRunState.isRetryable, hstate] at hretryable
      refine ⟨?_, rfl, r, hmem, hid, hretryable, hsource, hnone, hresult, hT.rows⟩
      constructor <;> simp [deleteRunRows] <;> grind
    · exact .inl rfl

def stoppedStore : Store := (Op.pause "j" 0 300).apply (envOf []) windowStore

/-- 停止で取り消された実行は、期限が過ぎれば消える。 -/
theorem cancelled_run_erased :
    ErasesRun "scheduled:j:100" stoppedStore
      ((Op.pruneRun "op" "scheduled:j:100" 0 0 .cancelled 300 300 400).apply (envOf []) stoppedStore) := by
  have hreached : Reachable (envOf []) stoppedStore := windowStore_reached.reachable.tail ⟨.pause "j" 0 300, rfl⟩
  rcases (retention_erases_one_run hreached "op" "scheduled:j:100" 400).2 0 0 .cancelled 300 300 with hsame | herased
  · have hpruned : ((Op.pruneRun "op" "scheduled:j:100" 0 0 .cancelled 300 300 400).apply (envOf []) stoppedStore).runs.rows ≠
        stoppedStore.runs.rows := by decide +kernel
    exact absurd (congrArg (·.runs.rows) hsame) hpruned
  · exact herased.1

end Codeoff.State
