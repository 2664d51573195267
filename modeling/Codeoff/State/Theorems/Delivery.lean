import Codeoff.State.Lemmas.DeliveryClaim
import Codeoff.State.Theorems.Lifecycle

/-!
# 配送の待ち行列

下見が先頭に選んだ配送が、続く一歩で必ず動くか。
-/

namespace Codeoff.State

open Codeoff.Core Codeoff.Relational

variable {E : Env} {s s' : Store} {now : Int} {d : ScheduledDeliveryRow} {p : DeliveryPayloadSnapshot}
  {a : ScheduledDeliveryAuthority} {leaseOwner : String}

/-! ## 下見 -/

theorem deliveryHead_payload (h : deliveryHead s now = some d) : ∃ p, d.payload = some p := by
  obtain ⟨_, heligible⟩ := List.mem_filter.mp (first_mem h)
  simp only [deliveryEligible, Bool.and_eq_true] at heligible
  exact Option.isSome_iff_exists.mp heligible.1.2

theorem peek_overdue (hI : DeliveriesWf E s) (h0 : 0 ≤ now) (hhead : deliveryHead s now = some d)
    (hoverdue : d.pastDeadline now = true) :
    ∃ v, peekScheduledDeliveryWork E now s = .error (.scheduler v) := by
  obtain ⟨p, hp⟩ := deliveryHead_payload hhead
  have hrow := EligibleRow.of_head hI hhead hp
  have hoverdue' : (rowAuthority E d p).overdue now = true :=
    (rowAuthority_overdue hp hrow.readable.createdAt).trans hoverdue
  have hrejected : ∀ out, updateDeliveries .state
      (fun o => o.deliveryId == (rowAuthority E d p).deliveryId
        && o.state == (rowAuthority E d p).sourceState)
      (unsentRow "delivery_deadline_exceeded" now) s ≠ .ok out := by
    rintro ⟨n, t⟩ hok
    obtain ⟨D, hD, _, _⟩ := updateDeliveries_ok.mp hok
    have hpass := hD.guarded d hrow.mem (by simp [rowAuthority])
    rw [unsentRow_triggers hrow.source] at hpass
    cases hpass
  unfold peekScheduledDeliveryWork
  rw [Tx.require_bind_of (by simpa using h0), Tx.read_bind_apply, hhead]
  simp only [Option.bind_some, hp, Option.map_some]
  rw [Tx.check_bind_of hrow.authority, if_pos hoverdue']
  cases hrun : updateDeliveries .state (fun o => o.deliveryId == (rowAuthority E d p).deliveryId
      && o.state == (rowAuthority E d p).sourceState) (unsentRow "delivery_deadline_exceeded" now) s with
  | ok out => exact absurd hrun (hrejected out)
  | error e =>
    obtain ⟨v, rfl⟩ := statement_error hrun
    exact ⟨v, Tx.bind_of_error (Tx.bind_of_error hrun)⟩

theorem peek_timely (hI : DeliveriesWf E s) (h0 : 0 ≤ now) (hhead : deliveryHead s now = some d)
    (hp : d.payload = some p) (htimely : d.pastDeadline now = false) :
    peekScheduledDeliveryWork E now s =
      .ok (if d.state = .pending ∧ (unchangedBaseline s d).isSome = true then
          .skipUnchanged (rowAuthority E d p) else .providerRequired (rowAuthority E d p), s) := by
  have hrow := EligibleRow.of_head hI hhead hp
  have htimely' : ¬(rowAuthority E d p).overdue now = true := by
    rw [rowAuthority_overdue hp hrow.readable.createdAt, htimely]
    simp
  unfold peekScheduledDeliveryWork
  rw [Tx.require_bind_of (by simpa using h0), Tx.read_bind_apply, hhead]
  simp only [Option.bind_some, hp, Option.map_some]
  rw [Tx.check_bind_of hrow.authority, if_neg htimely', Tx.read_bind_apply]
  rfl

theorem peek_idle (h0 : 0 ≤ now) (hhead : deliveryHead s now = none) :
    peekScheduledDeliveryWork E now s = .ok (.idle, s) := by
  unfold peekScheduledDeliveryWork
  rw [Tx.require_bind_of (by simpa using h0), Tx.read_bind_apply, hhead]
  rfl

theorem peek_ok (hI : DeliveriesWf E s) {work : ScheduledDeliveryWork}
    (h : peekScheduledDeliveryWork E now s = .ok (work, s')) :
    s' = s ∧ (work = .idle ∨ ∃ d p, deliveryHead s now = some d ∧ EligibleRow E s now d p ∧ 0 ≤ now ∧
      d.pastDeadline now = false ∧
      work = if d.state = .pending ∧ (unchangedBaseline s d).isSome = true then
        .skipUnchanged (rowAuthority E d p) else .providerRequired (rowAuthority E d p)) := by
  have h0 : 0 ≤ now := by
    unfold peekScheduledDeliveryWork at h
    simpa using (Tx.require_bind_ok.mp h).1
  cases hhead : deliveryHead s now with
  | none =>
    rw [peek_idle h0 hhead] at h
    cases h
    exact ⟨rfl, .inl rfl⟩
  | some d =>
    obtain ⟨p, hp⟩ := deliveryHead_payload hhead
    cases hdeadline : d.pastDeadline now with
    | true =>
      obtain ⟨v, herror⟩ := peek_overdue hI h0 hhead hdeadline
      rw [herror] at h
      cases h
    | false =>
      rw [peek_timely hI h0 hhead hp hdeadline] at h
      cases h
      exact ⟨rfl, .inr ⟨d, p, rfl, EligibleRow.of_head hI hhead hp, h0, hdeadline, rfl⟩⟩

def artifactText (runId : String) : String :=
  "\x00\x00\x00\x00\x00\x00\x00\x1cscheduled-result-artifact-v1\x00\x00\x00\x00\x00\x00\x00\x0f" ++ runId ++
    "\x00\x00\x00\x00\x00\x00\x00\x011\x00\x00\x00\x00\x00\x00\x00\x011"

def deliveryTable : List (String × String) :=
  [("hello", "2cf24dba5fb0a30e26e83b2ac5b9e29e1b161e5c1fa7425e73043362938b9824"),
    (resultJson "ok", "33d73158bfc2391fd3673bc275e82e95d8952901ee67b14e7bab98800e9ac08c"),
    (targetJson sampleTarget, "a2594cf0a6d17ed3014d6121432f09a4cdbd266e71c4d7364c1373f014a0820d"),
    (artifactText "scheduled:j:100", "e9227f9979d8004d07558399f7400acc40d3aeee7fecb63546a9a0db5a2437bf"),
    (artifactText "scheduled:j:160", "5f7c37daebc606355836a23289aff5ec030bb41151acc593dc2bff8cd7b22065"),
    (deliveryIntentKeyText "scheduled:j:100" sampleTarget.identityDigest,
      "2a62b4971e336653c1a73f78bb6450352296a6b353310111ab0a6a65ecf556c9"),
    (deliveryIntentKeyText "scheduled:j:160" sampleTarget.identityDigest,
      "a86e104bf18fbb8c8793537c161f7ddd70347b54cebfe726d20882cd203d819e")]

def sampleProfile : AttestedExecutionProfileSnapshot := ⟨1, "\x7b\x7d", "sha256-v1", "d"⟩

def deliveryIdOf (runId : String) : String :=
  "intent:" ++ deliveryIntentKeyText runId sampleTarget.identityDigest

/-- 時刻 `at_` に発生した実行が 10 秒で成功し、その配送の本文が定まるまで。 -/
def preparedOps (runId : String) (at_ : Int) : List Op :=
  [.materialize "j" 0 at_ none, .claimRun "w" at_ none none at_,
    .markExecuting ⟨runId, "j", 1, 1, "w"⟩ sampleProfile at_,
    .completeSuccess "e" ⟨runId, "j", 1, 1, "w"⟩ ⟨"ok", "ok"⟩ (at_ + 10),
    .prepareDelivery (deliveryIdOf runId) "text/plain" "hello" 1 (at_ + 10) .doNotAdvance]

def preparedStore : Store := runOps (envOf deliveryTable)
  (.create defaultPolicy sampleCreate :: preparedOps "scheduled:j:100" 100)

/-! ## 先頭の前進 -/

theorem claimScheduledDelivery_owner (first second third : Int)
    (howner : validateText "scheduled delivery lease owner" leaseOwner ≠ .ok ()) :
    ∃ reason, claimScheduledDelivery E a leaseOwner now first second third s =
      .error (.invalidSchedulerState reason) := by
  unfold claimScheduledDelivery
  cases hvalid : validateText "scheduled delivery lease owner" leaseOwner with
  | ok u => exact absurd hvalid howner
  | error e => exact ⟨e.message, Tx.bind_of_error rfl⟩

theorem claimScheduledDelivery_eq (h : EligibleRow E s now d p) (h0 : 0 ≤ now) (first second third : Int)
    (howner : validateText "scheduled delivery lease owner" leaseOwner = .ok ()) :
    claimScheduledDelivery E (rowAuthority E d p) leaseOwner now first second third s =
      Tx.orRestart (claimExactDelivery E (rowAuthority E d p) leaseOwner (max first now)
        (max second (max first now)) (max third (max second (max first now))))
        (abandonClaim (rowAuthority E d p) (max third (max second (max first now)))) s := by
  unfold claimScheduledDelivery
  rw [Tx.check_bind_of (invalidValue_ok.mpr howner),
    Tx.check_bind_of (rowAuthority_validate h.wf h.payload h.source),
    Tx.require_bind_of (by simpa using h0)]

def ClaimMoves (s : Store) (now : Int) (leaseOwner : String) (d : ScheduledDeliveryRow) : Prop :=
  validateText "scheduled delivery lease owner" leaseOwner = .ok () ∧
    (d.outOfAttempts = true ∨
      (¬(d.state = .failedRetryable ∧ (unchangedBaseline s d).isSome = true) ∧
        now + d.policy.1.deliveryLeaseSeconds ≤ i64Max ∧ 0 < sqlLength leaseOwner))

instance (s : Store) (now : Int) (leaseOwner : String) (d : ScheduledDeliveryRow) :
    Decidable (ClaimMoves s now leaseOwner d) := by
  unfold ClaimMoves
  infer_instance

/-- 下見が送信を求め、その権限が `p` を満たすか。 -/
def requiresProvider (E : Env) (now : Int) (s : Store) (p : ScheduledDeliveryAuthority → Store → Bool) : Bool :=
  (peekScheduledDeliveryWork E now).satisfies s fun work s' =>
    match work with
    | .providerRequired a => p a s'
    | _ => false

instance preparedRuns : Fact
    (requiresProvider (envOf deliveryTable) 120 preparedStore (fun _ s' =>
      decide (∀ d ∈ s'.deliveries.rows, ClaimMoves s' 120 "w" d)) = true ∧
    (commit (peekScheduledDeliveryWork (envOf deliveryTable) 100000) preparedStore).1 =
      .error (.scheduler (.trigger "readiness rejection requires exact unclaimed delivery authority")) ∧
    (deliveryHead preparedStore 120).all (fun d => !d.pastDeadline 120) = true) := ⟨by
  simp only [preparedStore, preparedOps, runOps_occurred]
  decide +kernel⟩

/-! ## 期限の過ぎた配送 -/

def Ended (deliveryId : String) (s : Store) : Prop :=
  ∃ d ∈ s.deliveries.rows, d.deliveryId = deliveryId ∧ d.state = .failedTerminal

def StorageSafe {α : Type} (x : StoreTx α) (s : Store) : Prop :=
  ∀ v, (commit x s).1 ≠ .error (.scheduler v)

theorem storageSafe_of_ok {α : Type} {x : StoreTx α} {out : α × Store} (h : x s = .ok out) :
    StorageSafe x s := by
  intro v
  rw [commit, h]
  simp

def PeekSettles (E : Env) (s : Store) (now : Int) : Prop :=
  StorageSafe (peekScheduledDeliveryWork E now) s ∧
    ∀ d, deliveryHead s now = some d → d.pastDeadline now = true →
      Ended d.deliveryId (commit (peekScheduledDeliveryWork E now) s).2

theorem peekSettles_iff (hI : DeliveriesWf E s) (h0 : 0 ≤ now) :
    PeekSettles E s now ↔ ∀ d, deliveryHead s now = some d → d.pastDeadline now = false := by
  constructor
  · rintro ⟨hsafe, _⟩ d hhead
    rw [Bool.eq_false_iff]
    intro hoverdue
    obtain ⟨v, herror⟩ := peek_overdue hI h0 hhead hoverdue
    exact hsafe v (by rw [commit, herror])
  · intro htimely
    refine ⟨?_, ?_⟩
    · cases hhead : deliveryHead s now with
      | none => exact storageSafe_of_ok (peek_idle h0 hhead)
      | some d =>
        obtain ⟨p, hp⟩ := deliveryHead_payload hhead
        exact storageSafe_of_ok (peek_timely hI h0 hhead hp (htimely d hhead))
    · intro d hhead hoverdue
      rw [htimely d hhead] at hoverdue
      cases hoverdue

/-- 再試行の時刻は試行と期限の内にあるので、再投入が使い切りとして終わりにする行はない。 -/
theorem retryExhausted_false (hwf : DeliveryWf E d) (hretry : d.state = .failedRetryable) :
    retryExhausted d = false := by
  obtain ⟨n, p, hnext, hp, _, hcan⟩ := hwf.retry hretry
  simp only [SchedulerOperationalPolicy.deliveryCanRetryAt] at hcan
  have hread := payloadFromRow_ok (hwf.payload p hp)
  have hbounds := d.policy.deliveryBounds.deadline
  rcases checkedAdd_none_or hread.createdAt (b := (d.policy.1.deliveryDeadlineSeconds : Int))
    (by omega) with ⟨hnone, _⟩ | ⟨hsome, hle⟩
  · rw [SchedulerOperationalPolicy.deliveryDeadlineAt, hnone] at hcan
    cases hcan
  · rw [SchedulerOperationalPolicy.deliveryDeadlineAt, hsome] at hcan
    simp only [canRetry, Bool.and_eq_true, decide_eq_true_eq] at hcan
    simp only [retryExhausted, ScheduledDeliveryRow.outOfAttempts, ScheduledDeliveryRow.pastDeadline, hp,
      hnext, Option.any_some, Option.getD_some]
    simp
    omega

theorem requeueDue_commits {limit : Nat} (hI : DeliveriesWf E s) (hlimit : 0 < limit) :
    ∃ out, requeueDueScheduledDeliveries now limit s = .ok out := by
  have hnone : ∀ o ∈ s.deliveries.rows, (retryDue now o && retryExhausted o) = false := by
    intro o ho
    cases hdue : retryDue now o with
    | false => rfl
    | true =>
      simp only [retryDue, Bool.and_eq_true, beq_iff_eq] at hdue
      rw [retryExhausted_false (hI.rows o ho) hdue.1]
      rfl
  unfold requeueDueScheduledDeliveries
  rw [Tx.require_bind_of (by simpa using hlimit), Tx.bind_of_ok (updateDeliveries_zero hnone),
    Tx.read_bind_apply]
  generalize hdue : ((s.deliveries.rows.filter (retryDue now)).insertionSort fun a b =>
    decide (a.nextAttemptAt.getD 0 < b.nextAttemptAt.getD 0)
      || (a.nextAttemptAt == b.nextAttemptAt && a.deliveryId ≤ b.deliveryId)).take limit = due
  have hmem : ∀ o ∈ due, o ∈ s.deliveries.rows ∧ o.state = .failedRetryable := by
    intro o ho
    rw [← hdue] at ho
    have ho := (List.mem_insertionSort _).mp (List.mem_of_mem_take ho)
    obtain ⟨ho, hq⟩ := List.mem_filter.mp ho
    simp only [retryDue, Bool.and_eq_true, beq_iff_eq] at hq
    exact ⟨ho, hq.1⟩
  have hselected : ∀ o ∈ s.deliveries.rows, (due.any fun x => x.deliveryId == o.deliveryId) = true →
      o.state = .failedRetryable := by
    intro o ho hany
    obtain ⟨x, hx, hid⟩ := List.any_eq_true.mp hany
    obtain ⟨hxmem, hxstate⟩ := hmem x hx
    rw [eq_of_deliveryId hxmem ho (beq_iff_eq.mp hid).symm]
    exact hxstate
  obtain ⟨D, hD⟩ : ∃ D, s.deliveries.Updates (deliveryTriggers s .stateAndClaim)
      (fun o => due.any fun x => x.deliveryId == o.deliveryId) requeuedRow D :=
    updateDeliveries_exists (fun _ _ _ => rfl) (fun o _ _ => by simp [requeuedRow])
      (fun o ho hq => requeuedRow_triggers ho (hselected o ho hq))
      (fun o ho hq => requeuedRow_check ho (hI.rows o ho) (hselected o ho hq))
  obtain ⟨t, hafter⟩ : ∃ t, afterRequeue due { s with deliveries := D } = .ok ((), t) := by
    refine afterRequeue_commits ?_
    intro o ho
    obtain ⟨n, _, hn, _⟩ := (hI.rows o (hmem o ho).1).retry (hmem o ho).2
    simp [hn]
  exact ⟨(_, t), Tx.bind_ok.mpr ⟨_, _, updateDeliveries_ok.mpr ⟨D, hD, rfl, rfl⟩,
    Tx.bind_ok.mpr ⟨(), t, hafter, rfl⟩⟩⟩

/-- 貸与が拒まれず、試行か期限を使い切った行はその貸与で終わりになる。 -/
def ClaimSettles (E : Env) (s : Store) (a : ScheduledDeliveryAuthority) (leaseOwner : String)
    (now first second third : Int) (d : ScheduledDeliveryRow) : Prop :=
  StorageSafe (claimScheduledDelivery E a leaseOwner now first second third) s ∧
    ((d.outOfAttempts || d.pastDeadline (max first now)) = true → Ended d.deliveryId
      (commit (claimScheduledDelivery E a leaseOwner now first second third) s).2)

theorem abandonClaim_ok (h : EligibleRow E s now d p) :
    ∃ t, abandonClaim (rowAuthority E d p) now s = .ok (.ok none, t) := by
  unfold abandonClaim
  split
  · rcases terminalizeExactDelivery_eligible (a := rowAuthority E d p) h
      fun o ho => rowAuthority_selects h.mem h.payload ho with ⟨_, D, hrun, _⟩ | ⟨_, hrun⟩
    · exact ⟨_, Tx.bind_ok.mpr ⟨true, _, hrun, rfl⟩⟩
    · exact ⟨s, Tx.bind_ok.mpr ⟨false, _, hrun, rfl⟩⟩
  · exact ⟨s, rfl⟩

theorem claimSettles_iff (hI : DeliveriesWf E s) (h : EligibleRow E s now d p) (h0 : 0 ≤ now)
    (first second third : Int) :
    ClaimSettles E s (rowAuthority E d p) leaseOwner now first second third d ↔
      (validateText "scheduled delivery lease owner" leaseOwner = .ok () →
        Leasable s (max first now) (max second (max first now)) d → 0 < sqlLength leaseOwner) ∧
      ((d.outOfAttempts || d.pastDeadline (max first now)) = true →
        validateText "scheduled delivery lease owner" leaseOwner = .ok ()) := by
  have hobserved := h.mono (le_max_right first now)
  by_cases howner : validateText "scheduled delivery lease owner" leaseOwner = .ok ()
  · have heq := claimScheduledDelivery_eq h h0 first second third howner
    generalize hobs : max first now = observed at heq hobserved ⊢
    generalize hclm : max second observed = claimAt at heq ⊢
    generalize hcmt : max third claimAt = commitAt at heq
    have hle : observed ≤ claimAt := by omega
    have hresult : ClaimResult s d leaseOwner observed claimAt commitAt
        (claimExactDelivery E (rowAuthority E d p) leaseOwner observed claimAt commitAt s) :=
      claimExactDelivery_result hI hobserved (by omega) hle
    obtain ⟨t, habandon⟩ := abandonClaim_ok (h.mono (by omega : now ≤ commitAt))
    unfold ClaimSettles StorageSafe commit
    rw [heq, hobs]
    unfold Tx.orRestart
    generalize claimExactDelivery E (rowAuthority E d p) leaseOwner observed claimAt commitAt s = x
      at hresult ⊢
    simp only [howner, forall_const, implies_true, and_true]
    cases hresult with
    | terminal spent replaces =>
      refine iff_of_true ⟨by simp, fun _ => ⟨_, replaces.mem.mpr (.inl rfl), rfl, rfl⟩⟩ ?_
      intro hleasable
      rw [hleasable.unspent] at spent
      cases spent
    | blocked unspent retry unchanged =>
      refine iff_of_true ⟨by simp, fun hspent => ?_⟩ ?_
      · rw [unspent] at hspent
        cases hspent
      · intro hleasable
        rw [hleasable.changed] at unchanged
        cases unchanged
    | overflow unspent beyond =>
      refine iff_of_true ⟨by simp, fun hspent => ?_⟩ fun hleasable => absurd hleasable.fits beyond
      rw [unspent] at hspent
      cases hspent
    | withheld unspent free reason =>
      refine iff_of_true ⟨by simp, fun hspent => ?_⟩ ?_
      · rw [unspent] at hspent
        cases hspent
      · intro hleasable
        rcases reason with hpast | hsame
        · rw [hleasable.inTime] at hpast
          cases hpast
        · rw [hleasable.changed] at hsame
          cases hsame
    | blank leasable owner =>
      refine iff_of_false ?_ fun hpos => absurd (hpos leasable) (by omega)
      rintro ⟨hsafe, _⟩
      exact hsafe _ rfl
    | leased leasable owner row deliveryId state =>
      refine iff_of_true ⟨?_, fun hspent => ?_⟩ fun _ => owner
      · by_cases hdrop : (decide (claimAt + d.policy.1.deliveryLeaseSeconds ≤ commitAt)
            || d.pastDeadline commitAt) = true
        · rw [if_pos hdrop]
          simp [habandon]
        · rw [if_neg hdrop]
          simp
      · rw [leasable.unspent] at hspent
        cases hspent
  · obtain ⟨reason, herror⟩ := claimScheduledDelivery_owner (E := E) (a := rowAuthority E d p) (s := s)
      first second third howner
    simp only [howner, false_implies, true_and, imp_false]
    unfold ClaimSettles StorageSafe commit
    rw [herror]
    simp only [ne_eq, Except.error.injEq, reduceCtorEq, not_false_eq_true, implies_true, true_and]
    refine imp_congr_right fun _ => iff_of_false ?_ id
    rintro ⟨o, ho, hid, hstate⟩
    rw [eq_of_deliveryId h.mem ho hid] at hstate
    rcases h.source with hs | hs <;> simp [hs] at hstate

/-- 到達するどの状態でも、下見が拒まれずに期限の過ぎた先頭を終わりにするのは、先頭の期限が過ぎていないとき、その
ときに限る。 -/
theorem queue_settles_iff (h : Reachable E s) (h0 : 0 ≤ now) :
    (PeekSettles E s now ↔ ∀ d, deliveryHead s now = some d → d.pastDeadline now = false) ∧
    (∀ limit, StorageSafe (requeueDueScheduledDeliveries now limit) s) ∧
    (∀ work s' a, peekScheduledDeliveryWork E now s = .ok (work, s') →
      (work = .skipUnchanged a ∨ work = .providerRequired a) →
      ∃ d ∈ s'.deliveries.rows, d.deliveryId = a.deliveryId ∧
        ∀ leaseOwner first second third,
          ClaimSettles E s' a leaseOwner now first second third d ↔
            (validateText "scheduled delivery lease owner" leaseOwner = .ok () →
              Leasable s' (max first now) (max second (max first now)) d → 0 < sqlLength leaseOwner) ∧
            ((d.outOfAttempts || d.pastDeadline (max first now)) = true →
              validateText "scheduled delivery lease owner" leaseOwner = .ok ())) := by
  have hI := h.deliveriesWf
  refine ⟨peekSettles_iff hI h0, ?_, ?_⟩
  · intro limit
    rcases Nat.eq_zero_or_pos limit with rfl | hlimit
    · intro v
      simp [commit, requeueDueScheduledDeliveries, Tx.require, Tx.bind_of_error (Tx.fail_apply _ s)]
    · obtain ⟨out, hrun⟩ := requeueDue_commits hI hlimit
      exact storageSafe_of_ok hrun
  · intro work s' a hpeek hwork
    obtain ⟨rfl, rfl | ⟨d, p, _, hrow, _, _, rfl⟩⟩ := peek_ok hI hpeek
    · rcases hwork with hw | hw <;> cases hw
    · have ha : a = rowAuthority E d p := by
        split at hwork <;> rcases hwork with hw | hw <;> cases hw <;> rfl
      subst ha
      exact ⟨d, hrow.mem, rfl, fun leaseOwner first second third =>
        claimSettles_iff hI hrow h0 first second third⟩

/-- 期限の過ぎた先頭があると、下見はトリガに拒まれる。 -/
theorem overdue_head_blocks_peek :
    Reachable (envOf deliveryTable) preparedStore ∧
      (commit (peekScheduledDeliveryWork (envOf deliveryTable) 100000) preparedStore).1 =
        .error (.scheduler (.trigger "readiness rejection requires exact unclaimed delivery authority")) ∧
      ¬PeekSettles (envOf deliveryTable) preparedStore 100000 := by
  have hrun := preparedRuns.out.2.1
  exact ⟨reachable_runOps _ _, hrun, fun hsettles => hsettles.1 _ hrun⟩

/-- 期限の前の下見は拒まれない。 -/
theorem prepared_peek_settles : PeekSettles (envOf deliveryTable) preparedStore 120 := by
  have hhead := preparedRuns.out.2.2
  refine (queue_settles_iff (s := preparedStore) (reachable_runOps _ _) (by decide)).1.mpr ?_
  intro d hd
  rw [hd] at hhead
  simpa using hhead

end Codeoff.State
