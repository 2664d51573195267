import Codeoff.State.Lemmas.System

/-!
# 実行と試行の整合

到達する状態では、実行の試行は 1 から実行の番号までちょうど一つずつあり、開いている試行は貸与中の実行の現在の試行だけ
である。
-/

/-!
## 実行の不変条件

到達する状態では、貸与中の実行は、同じ状態で同じ期限の現在の試行を持つ。
-/

namespace Codeoff.State

open Codeoff.Core Codeoff.Relational

variable {E : Env} {s s' : Store} {now : Int} {k : Origin}

theorem run_check {r : ScheduledRunRow} (h : r ∈ s.runs.rows) : r.Check :=
  of_decide_eq_true (s.runs.checked r h)

/-! ## 貸与中の実行と試行 -/

structure Bound (r : ScheduledRunRow) (a : RunAttemptRow) : Prop where
  current : isCurrentAttempt r a = true
  state : sameLiveState r a = true
  lease : r.leaseExpiresAt = some a.leaseExpiresAt

def LiveBound (s : Store) : Prop :=
  ∀ r ∈ s.runs.rows, r.state.isLive = true → ∃ a ∈ s.attempts.rows, Bound r a

theorem isLive_iff {state : ScheduledRunState} :
    state.isLive = true ↔ state = .leased ∨ state = .executing := by
  simp [ScheduledRunState.isLive]

theorem sameLiveState_iff {r : ScheduledRunRow} {a : RunAttemptRow} :
    sameLiveState r a = true ↔
      (r.state = .leased ∧ a.state = .leased) ∨ (r.state = .executing ∧ a.state = .executing) := by
  simp [sameLiveState]

theorem Bound.runId {r : ScheduledRunRow} {a : RunAttemptRow} (h : Bound r a) : a.runId = r.runId :=
  (isCurrentAttempt_iff.mp h.current).1

theorem LiveBound.cancels {jobId : String} {generation at_ : Int} {R : Table scheduledRuns}
    {A : Table scheduledRunAttempts} (hI : LiveBound s) (h : Cancels s jobId generation at_ R A) :
    ∀ r ∈ R.rows, r.state.isLive = true → ∃ a ∈ A.rows, Bound r a := by
  intro r hr hlive
  rcases h.runs.mem.mp hr with ⟨o, _, _, rfl⟩ | ⟨hr, hkept⟩
  · cases hlive
  obtain ⟨a, ha, hbound⟩ := hI r hr hlive
  refine ⟨a, h.attempts.mem_of_not ha ?_, hbound⟩
  rw [Bool.eq_false_iff]
  intro hcancel
  unfold cancellableAttempt at hcancel
  obtain ⟨_, hany⟩ := Bool.and_eq_true_iff.mp hcancel
  obtain ⟨q, hq, hqa⟩ := List.any_eq_true.mp hany
  obtain ⟨hcurrent, hleased⟩ := Bool.and_eq_true_iff.mp hqa
  -- 試行の指す実行は一つなので、取り消される実行は `r` 自身になってしまう。
  obtain rfl : q = r := eq_of_runId hr hq
    ((isCurrentAttempt_iff.mp hcurrent).1.symm.trans hbound.runId)
  simp only [leasedOf, Bool.and_eq_true, beq_iff_eq] at hleased
  simp [preExecutionOf, hleased, ScheduledRunState.isPreExecution] at hkept

theorem LiveBound.replaces {r r' : ScheduledRunRow} {a a' : RunAttemptRow} {R : Table scheduledRuns}
    {A : Table scheduledRunAttempts} (hI : LiveBound s) (hcurrent : isCurrentAttempt r a = true)
    (hR : s.runs.Replaces r r' R) (hA : s.attempts.Replaces a a' A)
    (hnew : r'.state.isLive = true → Bound r' a') :
    ∀ o ∈ R.rows, o.state.isLive = true → ∃ x ∈ A.rows, Bound o x := by
  intro o ho hlive
  rcases hR.mem.mp ho with rfl | ⟨ho, hne⟩
  · exact ⟨a', hA.mem.mpr (.inl rfl), hnew hlive⟩
  · obtain ⟨x, hx, hbound⟩ := hI o ho hlive
    refine ⟨x, hA.mem.mpr (.inr ⟨hx, ?_⟩), hbound⟩
    rintro rfl
    exact hne (eq_of_runId hR.mem_old ho
      (hbound.runId.symm.trans (isCurrentAttempt_iff.mp hcurrent).1))

theorem LiveBound.deletes {runId : String} (hI : LiveBound s) :
    ∀ r ∈ (s.runs.delete fun r => r.runId == runId).1.rows, r.state.isLive = true →
      ∃ a ∈ (s.attempts.delete fun a => a.runId == runId).1.rows, Bound r a := by
  intro r hr hlive
  simp only [Table.rows_delete, List.mem_filter] at hr ⊢
  obtain ⟨a, ha, hbound⟩ := hI r hr.1 hlive
  refine ⟨a, ⟨ha, ?_⟩, hbound⟩
  rw [hbound.runId]
  exact hr.2

theorem RunChange.live {r r' : ScheduledRunRow} {a a' : RunAttemptRow} (h : RunChange r a r' a') :
    r.state.isLive = true := by
  cases h with
  | extended live lease held later isOpen => exact live
  | started bound owns valid leased attempt => exact isLive_iff.mpr (.inl leased)
  | retried live closes outcome => exact live
  | settled live terminal closes outcome => exact live
  | reclaimed live target closes outcome => exact live

/-- 行と試行を対で書き換える効果は、番号の一致を保つ。 -/
theorem RunChange.bound {r r' : ScheduledRunRow} {a a' : RunAttemptRow} (h : RunChange r a r' a')
    (hbound : r.state.isLive = true → Bound r a) (hlive : r'.state.isLive = true) : Bound r' a' := by
  cases h with
  | extended live lease held later isOpen =>
    obtain ⟨hcurrent, hstate, _⟩ := hbound live
    exact ⟨hcurrent, hstate, rfl⟩
  | started bound owns valid leased attempt =>
    obtain ⟨hcurrent, _, hlease⟩ := hbound (by simp [leased, ScheduledRunState.isLive])
    exact ⟨hcurrent, sameLiveState_iff.mpr (.inr ⟨rfl, rfl⟩), hlease⟩
  | retried live closes outcome => cases hlive
  | settled live terminal closes outcome =>
    rcases terminal with rfl | rfl | rfl | rfl <;> cases hlive
  | reclaimed live target closes outcome =>
    rw [isLive_iff] at hlive
    simp only [reclaimedRun] at hlive
    rcases target with h | h | h <;> simp [h] at hlive

/-- 生きている行は、どの効果の後も、同じ番号の開いた試行を持つ。 -/
theorem LiveBound.step (hI : LiveBound s) (h : Effect E now k s s') : LiveBound s' := by
  cases h with
  | aside same =>
    unfold LiveBound
    rw [same.runs, same.attempts]
    exact hI
  | keyed kept => exact hI
  | created time valid jobs schedules targets baselines => exact hI
  | updated time valid found jobId generation next jobs cancels schedules targets =>
    exact hI.cancels cancels
  | stopped becomes jobs cancels schedules => exact hI.cancels cancels
  | resumed paused found jobId readable occurs jobs schedules => exact hI
  | materialized found active schedule jobId nextRunAt overdue readable coalesced baselines owner runs
      advances =>
      intro r hr hlive
      rcases runs.mem.mp hr with hr | rfl
      · exact hI r hr hlive
      · cases hlive
  | swept runs =>
    intro r hr hlive
    rcases runs.mem.mp hr with ⟨o, _, _, rfl⟩ | ⟨hr, _⟩
    · cases hlive
    · exact hI r hr hlive
  | leased claimable runs attempts =>
    intro o ho hlive
    rcases runs.mem.mp ho with rfl | ⟨ho, _⟩
    · refine ⟨_, attempts.mem.mpr (.inr rfl), ?_, ?_, rfl⟩
      · simp [isCurrentAttempt, leasedRow, leasedAttempt]
      · simp [sameLiveState, leasedRow, leasedAttempt]
    · obtain ⟨a, ha, hbound⟩ := hI o ho hlive
      exact ⟨a, attempts.mem.mpr (.inl ha), hbound⟩
  | fenced current change runs attempts =>
    refine hI.replaces current runs attempts (change.bound ?_)
    intro hlive
    obtain ⟨x, hx, hbound⟩ := hI _ runs.mem_old hlive
    rwa [eq_of_isCurrentAttempt attempts.mem_old hx current hbound.current] at hbound
  | requeued retryable runs =>
    intro o ho hlive
    rcases runs.mem.mp ho with rfl | ⟨ho, _⟩
    · cases hlive
    · exact hI o ho hlive
  | swapped baselines => exact hI
  | accepted owns executing current artifacts baseline baselines deliveries attempts runs =>
    exact hI.replaces current runs attempts (fun hlive => by cases hlive)
  | delivery rewrites change baselines => exact hI
  | sent owner time pending payload alone changed deliveries attempts => exact hI
  | sending owns state attempt change deliveries attempts baselines => exact hI
  | resolved origin unknown state resend same deliveries attempts baselines => exact hI
  | prunedRun settled undelivered => exact hI.deletes
  | prunedHistory settled => exact hI.deletes

theorem Reachable.liveBound (h : Reachable E s) : LiveBound s :=
  h.invariant (by intro r hr; cases hr) LiveBound.step

variable {E : Env} {s s' : Store} {now : Int} {k : Origin}

/-! ## 番号の対応 -/

/-- 実行の同一性と番号が変わらない。 -/
structure SameRunNumbers (r r' : ScheduledRunRow) : Prop where
  runId : r'.runId = r.runId
  jobId : r'.jobId = r.jobId
  attempt : r'.attempt = r.attempt
  fence : r'.fence = r.fence

theorem SameRunNumbers.refl (r : ScheduledRunRow) : SameRunNumbers r r := ⟨rfl, rfl, rfl, rfl⟩

/-- 試行の同一性と番号と証明が変わらない。証明は、書かれるなら正しい。 -/
structure SameAttemptNumbers (a a' : RunAttemptRow) : Prop where
  runId : a'.runId = a.runId
  jobId : a'.jobId = a.jobId
  attempt : a'.attempt = a.attempt
  fence : a'.fence = a.fence
  profile : a'.attestedProfile = a.attestedProfile ∨
    ∀ p, a'.attestedProfile = some p → p.validate = .ok ()

theorem SameAttemptNumbers.refl (a : RunAttemptRow) : SameAttemptNumbers a a :=
  ⟨rfl, rfl, rfl, rfl, .inl rfl⟩

structure Numbered (s : Store) : Prop where
  fences : ∀ r ∈ s.runs.rows, r.fence = r.attempt
  aligned : ∀ a ∈ s.attempts.rows, a.fence = a.attempt
  owned : ∀ a ∈ s.attempts.rows, ∃ r ∈ s.runs.rows, r.runId = a.runId ∧ r.jobId = a.jobId ∧
    a.attempt ≤ r.attempt
  full : ∀ r ∈ s.runs.rows, ∀ n, 1 ≤ n → n ≤ r.attempt →
    ∃ a ∈ s.attempts.rows, a.runId = r.runId ∧ a.attempt = n
  profiles : ∀ a ∈ s.attempts.rows, ∀ p, a.attestedProfile = some p → p.validate = .ok ()

theorem Numbered.of_same {R : Table scheduledRuns} {A : Table scheduledRunAttempts} (h : Numbered s)
    (hruns : ∀ r' ∈ R.rows, (r'.attempt = 0 ∧ r'.fence = 0) ∨
      ∃ r ∈ s.runs.rows, SameRunNumbers r r')
    (hkeptRuns : ∀ r ∈ s.runs.rows, ∃ r' ∈ R.rows, SameRunNumbers r r')
    (hattempts : ∀ a' ∈ A.rows, ∃ a ∈ s.attempts.rows, SameAttemptNumbers a a')
    (hkeptAttempts : ∀ a ∈ s.attempts.rows, ∃ a' ∈ A.rows, SameAttemptNumbers a a') :
    Numbered { s with runs := R, attempts := A } := by
  refine ⟨?_, ?_, ?_, ?_, ?_⟩
  · intro r' hr'
    rcases hruns r' hr' with ⟨hattempt, hfence⟩ | ⟨r, hr, hsame⟩
    · rw [hattempt, hfence]
    · rw [hsame.attempt, hsame.fence]
      exact h.fences r hr
  · intro a' ha'
    obtain ⟨a, ha, hsame⟩ := hattempts a' ha'
    rw [hsame.attempt, hsame.fence]
    exact h.aligned a ha
  · intro a' ha'
    obtain ⟨a, ha, hsame⟩ := hattempts a' ha'
    obtain ⟨r, hr, hid, hjob, hle⟩ := h.owned a ha
    obtain ⟨r', hr', hsameR⟩ := hkeptRuns r hr
    refine ⟨r', hr', ?_, ?_, ?_⟩
    · rw [hsameR.runId, hsame.runId, hid]
    · rw [hsameR.jobId, hsame.jobId, hjob]
    · rw [hsameR.attempt, hsame.attempt]
      exact hle
  · intro r' hr' n hpos hle
    rcases hruns r' hr' with ⟨hattempt, _⟩ | ⟨r, hr, hsame⟩
    · omega
    · rw [hsame.attempt] at hle
      obtain ⟨a, ha, hid, hn⟩ := h.full r hr n hpos hle
      obtain ⟨a', ha', hsameA⟩ := hkeptAttempts a ha
      exact ⟨a', ha', by rw [hsameA.runId, hsame.runId, hid], hsameA.attempt.trans hn⟩
  · intro a' ha' p hp
    obtain ⟨a, ha, hsame⟩ := hattempts a' ha'
    rcases hsame.profile with hprofile | hvalid
    · exact h.profiles a ha p (hprofile ▸ hp)
    · exact hvalid p hp

theorem rewrites_same {R : Type} {S : Schema R} {T T' : Table S} {p : R → Bool} {f : R → R}
    {Same : R → R → Prop} (hrefl : ∀ r, Same r r) (hT : T.Rewrites p f T')
    (hsame : ∀ r ∈ T.rows, p r = true → Same r (f r)) :
    (∀ r' ∈ T'.rows, ∃ r ∈ T.rows, Same r r') ∧ ∀ r ∈ T.rows, ∃ r' ∈ T'.rows, Same r r' := by
  constructor
  · intro r' hr'
    rcases hT.mem.mp hr' with ⟨r, hr, hp, rfl⟩ | ⟨hr, _⟩
    · exact ⟨r, hr, hsame r hr hp⟩
    · exact ⟨r', hr, hrefl r'⟩
  · intro r hr
    cases hp : p r with
    | true => exact ⟨f r, hT.mem_image hr hp, hsame r hr hp⟩
    | false => exact ⟨r, hT.mem_of_not hr hp, hrefl r⟩

theorem replaces_same {R : Type} {S : Schema R} {T T' : Table S} {a b : R} {Same : R → R → Prop}
    (hrefl : ∀ r, Same r r) (hT : T.Replaces a b T') (hsame : Same a b) :
    (∀ r' ∈ T'.rows, ∃ r ∈ T.rows, Same r r') ∧ ∀ r ∈ T.rows, ∃ r' ∈ T'.rows, Same r r' := by
  constructor
  · intro r' hr'
    rcases hT.mem.mp hr' with rfl | ⟨hr, _⟩
    · exact ⟨a, hT.mem_old, hsame⟩
    · exact ⟨r', hr, hrefl r'⟩
  · intro r hr
    by_cases hra : r = a
    · subst hra
      exact ⟨b, hT.mem.mpr (.inl rfl), hsame⟩
    · exact ⟨r, hT.mem.mpr (.inr ⟨hr, hra⟩), hrefl r⟩

theorem Numbered.of_runs {R : Table scheduledRuns} (h : Numbered s)
    (hruns : ∀ r' ∈ R.rows, (r'.attempt = 0 ∧ r'.fence = 0) ∨
      ∃ r ∈ s.runs.rows, SameRunNumbers r r')
    (hkept : ∀ r ∈ s.runs.rows, ∃ r' ∈ R.rows, SameRunNumbers r r') :
    Numbered { s with runs := R } :=
  h.of_same (A := s.attempts) hruns hkept (fun a ha => ⟨a, ha, .refl a⟩) (fun a ha => ⟨a, ha, .refl a⟩)

theorem Numbered.cancels {jobId : String} {generation at_ : Int} {R : Table scheduledRuns}
    {A : Table scheduledRunAttempts} (h : Numbered s) (hcancel : Cancels s jobId generation at_ R A) :
    Numbered { s with runs := R, attempts := A } := by
  obtain ⟨hR, hkeptR⟩ := rewrites_same SameRunNumbers.refl hcancel.runs
    fun r _ _ => ⟨rfl, rfl, rfl, rfl⟩
  obtain ⟨hA, hkeptA⟩ := rewrites_same SameAttemptNumbers.refl hcancel.attempts
    fun a _ _ => ⟨rfl, rfl, rfl, rfl, .inl rfl⟩
  exact h.of_same (fun r hr => .inr (hR r hr)) hkeptR hA hkeptA

theorem Numbered.replaces {r r' : ScheduledRunRow} {a a' : RunAttemptRow} {R : Table scheduledRuns}
    {A : Table scheduledRunAttempts} (h : Numbered s) (hR : s.runs.Replaces r r' R)
    (hA : s.attempts.Replaces a a' A) (hrun : SameRunNumbers r r') (hattempt : SameAttemptNumbers a a') :
    Numbered { s with runs := R, attempts := A } := by
  obtain ⟨hbackR, hkeptR⟩ := replaces_same SameRunNumbers.refl hR hrun
  obtain ⟨hbackA, hkeptA⟩ := replaces_same SameAttemptNumbers.refl hA hattempt
  exact h.of_same (fun r hr => .inr (hbackR r hr)) hkeptR hbackA hkeptA

theorem RunChange.numbers {r r' : ScheduledRunRow} {a a' : RunAttemptRow} (h : RunChange r a r' a') :
    SameRunNumbers r r' ∧ SameAttemptNumbers a a' := by
  have hcloses : ∀ {at_ : Int} {x : RunAttemptRow}, ClosesAttempt at_ a x → SameAttemptNumbers a x :=
    fun h => ⟨h.runId, h.jobId, h.attempt, h.fence, .inl h.profile⟩
  cases h with
  | extended live lease held later isOpen =>
    exact ⟨⟨rfl, rfl, rfl, rfl⟩, rfl, rfl, rfl, rfl, .inl rfl⟩
  | started bound owns valid leased attempt =>
    refine ⟨⟨rfl, rfl, rfl, rfl⟩, rfl, rfl, rfl, rfl, .inr ?_⟩
    intro p hp
    cases hp
    exact valid
  | retried live closes outcome => exact ⟨⟨rfl, rfl, rfl, rfl⟩, hcloses closes⟩
  | settled live terminal closes outcome => exact ⟨⟨rfl, rfl, rfl, rfl⟩, hcloses closes⟩
  | reclaimed live target closes outcome => exact ⟨⟨rfl, rfl, rfl, rfl⟩, hcloses closes⟩

theorem Numbered.leased {leaseOwner : String} {requested at_ : Int} {r : ScheduledRunRow}
    {R : Table scheduledRuns} {A : Table scheduledRunAttempts} (h : Numbered s)
    (hR : s.runs.Replaces r (leasedRow leaseOwner requested at_ r) R)
    (hA : s.attempts.Appends (leasedAttempt leaseOwner (leaseExpiry r requested at_) at_ r) A) :
    Numbered { s with runs := R, attempts := A } := by
  have hnew : leasedRow leaseOwner requested at_ r ∈ R.rows := hR.mem.mpr (.inl rfl)
  have hfence := h.fences r hR.mem_old
  refine ⟨?_, ?_, ?_, ?_, ?_⟩
  · intro o ho
    rcases hR.mem.mp ho with rfl | ⟨ho, _⟩
    · simp only [leasedRow, hfence]
    · exact h.fences o ho
  · intro a ha
    rcases hA.mem.mp ha with ha | rfl
    · exact h.aligned a ha
    · simp only [leasedAttempt, hfence]
  · intro a ha
    rcases hA.mem.mp ha with ha | rfl
    · obtain ⟨o, ho, hid, hjob, hle⟩ := h.owned a ha
      by_cases hor : o = r
      · subst hor
        exact ⟨_, hnew, hid, hjob, by simp only [leasedRow]; omega⟩
      · exact ⟨o, hR.mem.mpr (.inr ⟨ho, hor⟩), hid, hjob, hle⟩
    · exact ⟨_, hnew, rfl, rfl, le_refl _⟩
  · intro o ho n hpos hle
    rcases hR.mem.mp ho with rfl | ⟨ho, _⟩
    · by_cases hn : n ≤ r.attempt
      · obtain ⟨a, ha, hid, han⟩ := h.full r hR.mem_old n hpos hn
        exact ⟨a, hA.mem.mpr (.inl ha), hid, han⟩
      · simp only [leasedRow] at hle
        exact ⟨_, hA.mem.mpr (.inr rfl), rfl, by simp only [leasedAttempt]; omega⟩
    · obtain ⟨a, ha, hid, han⟩ := h.full o ho n hpos hle
      exact ⟨a, hA.mem.mpr (.inl ha), hid, han⟩
  · intro a ha p hp
    rcases hA.mem.mp ha with ha | rfl
    · exact h.profiles a ha p hp
    · cases hp

theorem Numbered.deletes {runId : String} (h : Numbered s) : Numbered (deleteRunRows runId s) := by
  have hruns : ∀ {r}, r ∈ (deleteRunRows runId s).runs.rows ↔ r ∈ s.runs.rows ∧ r.runId ≠ runId := by
    intro r
    simp [deleteRunRows]
  have hattempts : ∀ {a}, a ∈ (deleteRunRows runId s).attempts.rows ↔
      a ∈ s.attempts.rows ∧ a.runId ≠ runId := by
    intro a
    simp [deleteRunRows]
  refine ⟨?_, ?_, ?_, ?_, ?_⟩
  · intro r hr
    exact h.fences r (hruns.mp hr).1
  · intro a ha
    exact h.aligned a (hattempts.mp ha).1
  · intro a ha
    obtain ⟨ha, hother⟩ := hattempts.mp ha
    obtain ⟨r, hr, hid, hcovers⟩ := h.owned a ha
    exact ⟨r, hruns.mpr ⟨hr, hid ▸ hother⟩, hid, hcovers⟩
  · intro r hr n hpos hle
    obtain ⟨hr, hother⟩ := hruns.mp hr
    obtain ⟨a, ha, hid, hn⟩ := h.full r hr n hpos hle
    exact ⟨a, hattempts.mpr ⟨ha, hid ▸ hother⟩, hid, hn⟩
  · intro a ha
    exact h.profiles a (hattempts.mp ha).1

/-- 試行の番号は、1 から行の番号まで欠けずに並ぶ。 -/
theorem Numbered.step (h : Numbered s) (heffect : Effect E now k s s') : Numbered s' := by
  cases heffect with
  | aside same =>
    refine ⟨?_, ?_, ?_, ?_, ?_⟩ <;> simp only [same.runs, same.attempts]
    · exact h.fences
    · exact h.aligned
    · exact h.owned
    · exact h.full
    · exact h.profiles
  | keyed kept => exact ⟨h.fences, h.aligned, h.owned, h.full, h.profiles⟩
  | created time valid jobs schedules targets baselines =>
    exact ⟨h.fences, h.aligned, h.owned, h.full, h.profiles⟩
  | updated time valid found jobId generation next jobs cancels schedules targets =>
    obtain ⟨h1, h2, h3, h4, h5⟩ := h.cancels cancels
    exact ⟨h1, h2, h3, h4, h5⟩
  | stopped becomes jobs cancels schedules =>
    obtain ⟨h1, h2, h3, h4, h5⟩ := h.cancels cancels
    exact ⟨h1, h2, h3, h4, h5⟩
  | resumed paused found jobId readable occurs jobs schedules =>
    exact ⟨h.fences, h.aligned, h.owned, h.full, h.profiles⟩
  | materialized found active schedule jobId nextRunAt overdue readable coalesced baselines owner runs
      advances =>
      obtain ⟨h1, h2, h3, h4, h5⟩ := h.of_runs (fun r' hr' => by
        rcases runs.mem.mp hr' with hr | rfl
        · exact .inr ⟨r', hr, .refl r'⟩
        · exact .inl ⟨rfl, rfl⟩) (fun r hr => ⟨r, runs.mem.mpr (.inl hr), .refl r⟩)
      exact ⟨h1, h2, h3, h4, h5⟩
  | swept runs =>
    obtain ⟨hback, hkept⟩ := rewrites_same SameRunNumbers.refl runs fun r _ _ => ⟨rfl, rfl, rfl, rfl⟩
    exact h.of_runs (fun r hr => .inr (hback r hr)) hkept
  | leased claimable runs attempts => exact h.leased runs attempts
  | fenced current change runs attempts =>
    exact h.replaces runs attempts change.numbers.1 change.numbers.2
  | requeued retryable runs =>
    obtain ⟨hback, hkept⟩ := replaces_same SameRunNumbers.refl runs ⟨rfl, rfl, rfl, rfl⟩
    exact h.of_runs (fun r hr => .inr (hback r hr)) hkept
  | swapped baselines => exact ⟨h.fences, h.aligned, h.owned, h.full, h.profiles⟩
  | accepted owns executing current artifacts baseline baselines deliveries attempts runs =>
    obtain ⟨h1, h2, h3, h4, h5⟩ := h.replaces runs attempts ⟨rfl, rfl, rfl, rfl⟩
      ⟨rfl, rfl, rfl, rfl, .inl rfl⟩
    exact ⟨h1, h2, h3, h4, h5⟩
  | delivery rewrites change baselines => exact ⟨h.fences, h.aligned, h.owned, h.full, h.profiles⟩
  | sent owner time pending payload alone changed deliveries attempts =>
    exact ⟨h.fences, h.aligned, h.owned, h.full, h.profiles⟩
  | sending owns state attempt change deliveries attempts baselines =>
    exact ⟨h.fences, h.aligned, h.owned, h.full, h.profiles⟩
  | resolved origin unknown state resend same deliveries attempts baselines =>
    exact ⟨h.fences, h.aligned, h.owned, h.full, h.profiles⟩
  | prunedRun settled undelivered => exact h.deletes
  | prunedHistory settled =>
    obtain ⟨h1, h2, h3, h4, h5⟩ := h.deletes
    exact ⟨h1, h2, h3, h4, h5⟩

theorem Reachable.numbered (h : Reachable E s) : Numbered s :=
  h.invariant ⟨by simp [Store.empty], by simp [Store.empty], by simp [Store.empty],
    by simp [Store.empty], by simp [Store.empty]⟩ Numbered.step

/-! ## 開いている試行 -/

def OpenBound (s : Store) : Prop :=
  ∀ a ∈ s.attempts.rows, a.state.isOpen = true → ∃ r ∈ s.runs.rows, Bound r a

theorem Bound.live {r : ScheduledRunRow} {a : RunAttemptRow} (h : Bound r a) : r.state.isLive = true := by
  rcases sameLiveState_iff.mp h.state with ⟨hr, _⟩ | ⟨hr, _⟩
  · exact isLive_iff.mpr (.inl hr)
  · exact isLive_iff.mpr (.inr hr)

theorem OpenBound.cancels {jobId : String} {generation at_ : Int} {R : Table scheduledRuns}
    {A : Table scheduledRunAttempts} (h : OpenBound s) (hcancel : Cancels s jobId generation at_ R A) :
    ∀ a ∈ A.rows, a.state.isOpen = true → ∃ r ∈ R.rows, Bound r a := by
  intro a ha hopen
  rcases hcancel.attempts.mem.mp ha with ⟨o, _, _, rfl⟩ | ⟨ha, hkept⟩
  · cases hopen
  obtain ⟨r, hr, hbound⟩ := h a ha hopen
  refine ⟨r, hcancel.runs.mem_of_not hr ?_, hbound⟩
  rw [Bool.eq_false_iff]
  intro hpre
  simp only [preExecutionOf, Bool.and_eq_true, beq_iff_eq] at hpre
  obtain ⟨⟨hjob, hgeneration⟩, hstate⟩ := hpre
  rcases sameLiveState_iff.mp hbound.state with ⟨hleased, hattempt⟩ | ⟨hexecuting, _⟩
  · rw [Bool.eq_false_iff] at hkept
    refine hkept ?_
    simp only [cancellableAttempt, Bool.and_eq_true, beq_iff_eq]
    refine ⟨hattempt, List.any_eq_true.mpr ⟨r, hr, ?_⟩⟩
    simp [hbound.current, leasedOf, hjob, hgeneration, hleased]
  · rw [hexecuting] at hstate
    cases hstate

theorem OpenBound.of_runs {R : Table scheduledRuns} (h : OpenBound s)
    (hkept : ∀ r ∈ s.runs.rows, r.state.isLive = true → r ∈ R.rows) :
    ∀ a ∈ s.attempts.rows, a.state.isOpen = true → ∃ r ∈ R.rows, Bound r a := by
  intro a ha hopen
  obtain ⟨r, hr, hbound⟩ := h a ha hopen
  exact ⟨r, hkept r hr hbound.live, hbound⟩

theorem OpenBound.replaces {r r' : ScheduledRunRow} {a a' : RunAttemptRow} {R : Table scheduledRuns}
    {A : Table scheduledRunAttempts} (h : OpenBound s) (hcurrent : isCurrentAttempt r a = true)
    (hR : s.runs.Replaces r r' R) (hA : s.attempts.Replaces a a' A)
    (hnew : a'.state.isOpen = true → Bound r' a') :
    ∀ x ∈ A.rows, x.state.isOpen = true → ∃ o ∈ R.rows, Bound o x := by
  intro x hx hopen
  rcases hA.mem.mp hx with rfl | ⟨hx, hne⟩
  · exact ⟨r', hR.mem.mpr (.inl rfl), hnew hopen⟩
  · obtain ⟨o, ho, hbound⟩ := h x hx hopen
    refine ⟨o, hR.mem.mpr (.inr ⟨ho, ?_⟩), hbound⟩
    rintro rfl
    exact hne (eq_of_isCurrentAttempt hA.mem_old hx hcurrent hbound.current)

theorem OpenBound.deletes {runId : String} (h : OpenBound s) :
    ∀ a ∈ (s.attempts.delete fun a => a.runId == runId).1.rows, a.state.isOpen = true →
      ∃ r ∈ (s.runs.delete fun r => r.runId == runId).1.rows, Bound r a := by
  intro a ha hopen
  simp only [Table.rows_delete, List.mem_filter] at ha ⊢
  obtain ⟨r, hr, hbound⟩ := h a ha.1 hopen
  exact ⟨r, ⟨hr, hbound.runId ▸ ha.2⟩, hbound⟩

theorem RunChange.isLive_of_isOpen {r r' : ScheduledRunRow} {a a' : RunAttemptRow}
    (h : RunChange r a r' a') (hopen : a'.state.isOpen = true) : r'.state.isLive = true := by
  have hcloses : ∀ {at_ : Int}, ¬ ClosesAttempt at_ a a' := by
    intro at_ hc
    rw [hc.closed] at hopen
    cases hopen
  cases h with
  | extended live lease held later isOpen => exact live
  | started bound owns valid leased attempt => rfl
  | retried live closes outcome => exact absurd closes hcloses
  | settled live terminal closes outcome => exact absurd closes hcloses
  | reclaimed live target closes outcome => exact absurd closes hcloses

/-- 開いている試行は、生きている行のいまの試行に限る。 -/
theorem OpenBound.step (hlive : LiveBound s) (h : OpenBound s) (heffect : Effect E now k s s') :
    OpenBound s' := by
  cases heffect with
  | aside same =>
    unfold OpenBound
    rw [same.runs, same.attempts]
    exact h
  | keyed kept => exact h
  | created time valid jobs schedules targets baselines => exact h
  | updated time valid found jobId generation next jobs cancels schedules targets =>
    exact h.cancels cancels
  | stopped becomes jobs cancels schedules => exact h.cancels cancels
  | resumed paused found jobId readable occurs jobs schedules => exact h
  | materialized found active schedule jobId nextRunAt overdue readable coalesced baselines owner runs
      advances => exact h.of_runs fun r hr _ => runs.mem.mpr (.inl hr)
  | swept runs =>
    refine h.of_runs fun r hr hr' => runs.mem_of_not hr ?_
    rcases isLive_iff.mp hr' with hs | hs <;> simp [ScheduledRunRow.exhausted, hs]
  | leased claimable runs attempts =>
    intro a ha hopen
    rcases attempts.mem.mp ha with ha | rfl
    · obtain ⟨r, hr, hbound⟩ := h a ha hopen
      refine ⟨r, runs.mem.mpr (.inr ⟨hr, ?_⟩), hbound⟩
      rintro rfl
      rcases isLive_iff.mp hbound.live with hs | hs <;> simp [ScheduledRunRow.claimable, hs] at claimable
    · refine ⟨_, runs.mem.mpr (.inl rfl), ?_, ?_, rfl⟩
      · simp [isCurrentAttempt, leasedRow, leasedAttempt]
      · simp [sameLiveState, leasedRow, leasedAttempt]
  | fenced current change runs attempts =>
    refine h.replaces current runs attempts fun hopen => change.bound ?_ (change.isLive_of_isOpen hopen)
    intro hr
    obtain ⟨x, hx, hbound⟩ := hlive _ runs.mem_old hr
    rwa [eq_of_isCurrentAttempt attempts.mem_old hx current hbound.current] at hbound
  | requeued retryable runs =>
    refine h.of_runs fun r hr hr' => runs.mem.mpr (.inr ⟨hr, ?_⟩)
    rintro rfl
    rcases isLive_iff.mp hr' with hs | hs <;> simp [ScheduledRunState.isRetryable, hs] at retryable
  | swapped baselines => exact h
  | accepted owns executing current artifacts baseline baselines deliveries attempts runs =>
    exact h.replaces current runs attempts (fun hopen => by cases hopen)
  | delivery rewrites change baselines => exact h
  | sent owner time pending payload alone changed deliveries attempts => exact h
  | sending owns state attempt change deliveries attempts baselines => exact h
  | resolved origin unknown state resend same deliveries attempts baselines => exact h
  | prunedRun settled undelivered => exact h.deletes
  | prunedHistory settled => exact h.deletes

theorem Reachable.openBound (h : Reachable E s) : OpenBound s := by
  have hboth : LiveBound s ∧ OpenBound s := h.invariant
    (I := fun s => LiveBound s ∧ OpenBound s)
    ⟨by simp [LiveBound, Store.empty], by simp [OpenBound, Store.empty]⟩
    (fun ⟨hlive, hopen⟩ he => ⟨hlive.step he, hopen.step hlive he⟩)
  exact hboth.2

end Codeoff.State
