import Codeoff.State.Lemmas.System

/-!
# 運用者の操作の記録

運用者の操作は、その要求の記録がまだないときにだけ適用され、適用とともに記録を残す。
-/

namespace Codeoff.State

open Codeoff.Core Codeoff.Relational

variable {E : Env} {s s' : Store}

inductive OperatorCall where
  | retryRun (request : SchedulerOperatorRequest) (runId : String) (expectedAttempt expectedFence : Int)
      (reasonJson reasonDigest : String) (nextAttemptAt : Int)
  | retryDelivery (request : SchedulerOperatorRequest) (deliveryId : String)
      (expectedAttempt expectedFence : Int) (reasonJson reasonDigest : String)
  | actOnUnknown (request : SchedulerOperatorRequest) (deliveryId : String)
      (expectedAttempt expectedFence : Int) (action : ScheduledDeliveryUnknownAction)

namespace OperatorCall

def request : OperatorCall → SchedulerOperatorRequest
  | retryRun request .. | retryDelivery request .. | actOnUnknown request .. => request

def run (E : Env) : OperatorCall → StoreTx SchedulerOperatorMutationOutcome
  | retryRun request runId attempt fence reasonJson reasonDigest nextAttemptAt =>
    operatorRetryScheduledRun E request runId attempt fence reasonJson reasonDigest nextAttemptAt
  | retryDelivery request deliveryId attempt fence reasonJson reasonDigest =>
    operatorRetryScheduledDelivery E request deliveryId attempt fence reasonJson reasonDigest
  | actOnUnknown request deliveryId attempt fence action =>
    operatorActOnUnknownDelivery E request deliveryId attempt fence action

def SameKey (a b : OperatorCall) : Prop :=
  a.request.principal = b.request.principal ∧ a.request.requestId = b.request.requestId

def Targets (E : Env) (s : Store) : OperatorCall → Prop
  | retryRun request runId attempt fence reasonJson reasonDigest nextAttemptAt =>
    ∃ r ∈ s.runs.rows, (r.runId = runId ∧ r.attempt = attempt ∧ r.fence = fence) ∧
      r.state.isRetryable = true ∧ request.requestDigest = operatorActionDigest E
        (runRetryAction runId attempt fence r.state reasonJson reasonDigest nextAttemptAt)
  | retryDelivery request deliveryId attempt fence reasonJson reasonDigest =>
    ∃ d ∈ s.deliveries.rows, (d.deliveryId = deliveryId ∧ d.attempt = attempt ∧ d.fence = fence) ∧
      d.state = .failedRetryable ∧ ∃ effectiveAt, request.requestDigest = operatorActionDigest E
        (deliveryRetryAction deliveryId attempt fence (reasonJson, reasonDigest) effectiveAt)
  | actOnUnknown request deliveryId attempt fence action =>
    ∃ d ∈ s.deliveries.rows, (d.deliveryId = deliveryId ∧ d.attempt = attempt ∧ d.fence = fence) ∧
      d.state = .deliveryUnknown ∧ request.requestDigest = operatorActionDigest E
        (action.insert deliveryId attempt fence request.occurredAt)

end OperatorCall

variable {request : SchedulerOperatorRequest}

def Recorded (request : SchedulerOperatorRequest) (s : Store) : Prop :=
  ∃ a ∈ s.operatorActions.rows, a.principal = request.principal ∧ a.requestId = request.requestId

def RecordedExactly (request : SchedulerOperatorRequest) (s : Store) : Prop :=
  ∃ a ∈ s.operatorActions.rows, (a.principal = request.principal ∧ a.requestId = request.requestId) ∧
    a.requestDigest = request.requestDigest ∧ a.occurredAt = request.occurredAt

theorem persistedRequest_some {a : OperatorActionRow} (h : persistedRequest request s = some a) :
    a ∈ s.operatorActions.rows ∧ a.principal = request.principal ∧ a.requestId = request.requestId := by
  have hfound := List.find?_some h
  simp only [Bool.and_eq_true, beq_iff_eq] at hfound
  exact ⟨List.mem_of_find?_eq_some h, hfound⟩

theorem persistedRequest_none : persistedRequest request s = none ↔ ¬Recorded request s := by
  simp [persistedRequest, Recorded, List.find?_eq_none]

theorem existingOperatorRequest_none (h : existingOperatorRequest request s = none) :
    ¬Recorded request s :=
  persistedRequest_none.mp (Option.map_eq_none_iff.mp h)

theorem existingOperatorRequest_some {outcome : SchedulerOperatorMutationOutcome}
    (h : existingOperatorRequest request s = some outcome) :
    outcome = .conflict ∨ (outcome = .replay ∧ RecordedExactly request s) := by
  obtain ⟨a, ha, houtcome⟩ := Option.map_eq_some_iff.mp h
  obtain ⟨hmem, hkey⟩ := persistedRequest_some ha
  split at houtcome
  · rename_i hexact
    exact .inr ⟨houtcome.symm, a, hmem, hkey, hexact⟩
  · exact .inl houtcome.symm

inductive InsertsAction (E : Env) (request : SchedulerOperatorRequest) (a : OperatorActionInsert)
    (s : Store) : OperatorActionInsertOutcome → Store → Prop where
  | inserted {row : OperatorActionRow} {T : Table schedulerOperatorActions}
      (key : row.principal = request.principal ∧ row.requestId = request.requestId)
      (appends : s.operatorActions.Appends row T) :
      InsertsAction E request a s .inserted { s with operatorActions := T }
  | replay (recorded : Recorded request s) : InsertsAction E request a s .replay s
  | conflict : InsertsAction E request a s .conflict s

theorem insertOperatorActionOrIgnore_ok {row : OperatorActionRow} {n : Nat}
    (h : insertOperatorActionOrIgnore row s = .ok (n, s')) :
    (n = 1 ∧ ∃ T, s.operatorActions.Appends row T ∧ s' = { s with operatorActions := T }) ∨
      (n = 0 ∧ s' = s) := by
  obtain ⟨T, hT, rfl⟩ := statement_ok.mp h
  split at hT
  · cases hT
  split at hT
  · cases hinsert : s.operatorActions.insert noInsertTrigger row with
    | error e =>
      rw [hinsert] at hT
      cases hT
    | ok U =>
      rw [hinsert] at hT
      cases hT
      exact .inl ⟨rfl, _, (Table.insert_ok.mp hinsert).toAppends, rfl⟩
  · cases hT
    exact .inr ⟨rfl, rfl⟩

/-- 運用者の操作の記録は、要約が合えば加わるか、同じものがあれば加わらない。 -/
theorem insertOperatorAction_ok {a : OperatorActionInsert} {outcome : OperatorActionInsertOutcome}
    (h : insertOperatorAction E request a s = .ok (outcome, s')) :
    request.requestDigest = operatorActionDigest E a ∧ InsertsAction E request a s outcome s' := by
  unfold insertOperatorAction at h
  obtain ⟨hdigest, hrun⟩ := Tx.require_bind_ok.mp h
  refine ⟨beq_iff_eq.mp hdigest, ?_⟩
  obtain ⟨n, s1, h1, hrest⟩ := Tx.bind_ok.mp hrun
  rcases insertOperatorActionOrIgnore_ok h1 with ⟨hn, T, hT, hs⟩ | ⟨hn, hs⟩
  · rw [hn, if_pos (beq_self_eq_true 1), hs] at hrest
    cases hrest
    exact .inserted ⟨rfl, rfl⟩ hT
  · rw [hn, if_neg (by decide), Tx.read_bind_apply, hs] at hrest
    cases hrest
    split
    · rename_i hfound
      simp only [beq_iff_eq, Option.map_eq_some_iff] at hfound
      obtain ⟨row, hrow, _⟩ := hfound
      exact .replay ⟨row, persistedRequest_some hrow⟩
    · exact .conflict

theorem InsertsAction.of_fresh {a : OperatorActionInsert} {outcome : OperatorActionInsertOutcome}
    (h : InsertsAction E request a s outcome s') (hfresh : ¬Recorded request s) :
    (outcome = .inserted ∧ Recorded request s') ∨ (outcome = .conflict ∧ s' = s) := by
  cases h with
  | inserted key appends => exact .inl ⟨rfl, _, appends.mem.mpr (.inr rfl), key⟩
  | replay recorded => exact absurd recorded hfresh
  | conflict => exact .inr ⟨rfl, rfl⟩

/-! ## 呼び出しの結果 -/

theorem Recorded.step {now : Int} {k : Origin} (h : Recorded request s) (heffect : Effect E now k s s') :
    Recorded request s' := by
  obtain ⟨a, ha, hkey⟩ := h
  cases heffect with
  | aside same => exact ⟨a, same.actions a ha, hkey⟩
  | _ => exact ⟨a, ha, hkey⟩

theorem Recorded.steps {now : Int} {k : Origin} (h : Recorded request s)
    (heffects : Relation.ReflTransGen (Effect E now k) s s') : Recorded request s' :=
  invariant_of_steps (fun _ _ hI heffect => hI.step heffect) h heffects

inductive Settles (E : Env) (call : OperatorCall) (s : Store) :
    SchedulerOperatorMutationOutcome → Store → Prop where
  | applied {s' : Store} (fresh : ¬Recorded call.request s) (recorded : Recorded call.request s')
      (targets : call.Targets E s) : Settles E call s .applied s'
  | replay (recorded : RecordedExactly call.request s) : Settles E call s .replay s
  | conflict : Settles E call s .conflict s

theorem requeueRun_outcome {r : ScheduledRunRow} {nextAttemptAt : Int}
    {outcome : SchedulerOperatorMutationOutcome}
    (h : requeueRun request r nextAttemptAt s = .ok (outcome, s')) (hother : outcome ≠ .conflict) :
    outcome = .applied := by
  unfold requeueRun at h
  obtain ⟨n, s1, _, hrun⟩ := Tx.bind_ok.mp h
  split at hrun
  · cases hrun
    exact absurd rfl hother
  · obtain ⟨_, s2, _, hrun⟩ := Tx.bind_ok.mp hrun
    cases hrun
    rfl

theorem Settles.existing {call : OperatorCall} {outcome : SchedulerOperatorMutationOutcome}
    (h : existingOperatorRequest call.request s = some outcome) : Settles E call s outcome s := by
  rcases existingOperatorRequest_some h with rfl | ⟨rfl, hexact⟩
  · exact .conflict
  · exact .replay hexact

/-- 実行のやり直しは、適用、再生、衝突のどれかに終わり、適用は記録と対で書かれる。 -/
theorem operatorRetryScheduledRun_settles {runId : String} {attempt fence : Int}
    {reasonJson reasonDigest : String} {nextAttemptAt : Int} {outcome : SchedulerOperatorMutationOutcome}
    (h : operatorRetryScheduledRun E request runId attempt fence reasonJson reasonDigest nextAttemptAt s =
      .ok (outcome, s')) :
    Settles E (.retryRun request runId attempt fence reasonJson reasonDigest nextAttemptAt) s outcome s' := by
  obtain ⟨t, hrun, rfl⟩ := Tx.rollbackIf_ok.mp h
  split
  · rename_i hconflict
    rw [beq_iff_eq.mp hconflict]
    exact .conflict
  rename_i hother
  obtain ⟨_, _, hrun⟩ := Tx.check_bind_ok.mp hrun
  obtain ⟨_, _, hrun⟩ := Tx.check_bind_ok.mp hrun
  obtain ⟨_, _, hrun⟩ := Tx.check_bind_ok.mp hrun
  obtain ⟨_, hrun⟩ := Tx.require_bind_ok.mp hrun
  obtain ⟨_, hrun⟩ := Tx.require_bind_ok.mp hrun
  rw [Tx.read_bind_apply] at hrun
  cases hexisting : existingOperatorRequest request s with
  | some o =>
    rw [hexisting] at hrun
    cases hrun
    exact .existing hexisting
  | none =>
    have hfresh := existingOperatorRequest_none hexisting
    rw [hexisting] at hrun
    dsimp only at hrun
    rw [Tx.read_bind_apply] at hrun
    cases hfind : s.runs.rows.find? fun r => r.runId == runId && r.attempt == attempt
        && r.fence == fence with
    | none =>
      rw [hfind] at hrun
      cases hrun
      exact absurd rfl hother
    | some r =>
      have hid := List.find?_some hfind
      simp only [Bool.and_eq_true, beq_iff_eq] at hid
      rw [hfind] at hrun
      dsimp only at hrun
      split at hrun
      · cases hrun
        exact absurd rfl hother
      rename_i hretry
      simp only [Bool.or_eq_true, not_or, Bool.not_eq_true', Bool.not_eq_true, Bool.not_eq_false]
        at hretry
      split at hrun
      · cases hrun
        exact absurd rfl hother
      obtain ⟨done, s1, h1, hrest⟩ := Tx.bind_ok.mp hrun
      obtain ⟨hdigest, hinsert⟩ := insertOperatorAction_ok h1
      rcases hinsert.of_fresh hfresh with ⟨hdone, hrecorded⟩ | ⟨hdone, _⟩
      · rw [hdone] at hrest
        have houtcome : outcome ≠ .conflict := by simpa using hother
        rw [requeueRun_outcome hrest houtcome]
        have heffects := ((requeueRun_effects hretry.1 hrest).resolve_left houtcome :
          Relation.ReflTransGen (Effect E 0 _) _ _)
        exact .applied hfresh (hrecorded.steps heffects)
          ⟨r, List.mem_of_find?_eq_some hfind, ⟨hid.1.1, hid.1.2, hid.2⟩, hretry.1, hdigest⟩
      · rw [hdone] at hrest
        cases hrest
        exact absurd rfl hother

theorem applyDeliveryRetry_settles {d : ScheduledDeliveryRow} {reasonJson reasonDigest : String}
    {next : Int} {outcome : SchedulerOperatorMutationOutcome} (hmem : d ∈ s.deliveries.rows)
    (hstate : d.state = .failedRetryable) (hfresh : ¬Recorded request s) (hother : outcome ≠ .conflict)
    (h : applyDeliveryRetry E request d (reasonJson, reasonDigest) next s = .ok (outcome, s')) :
    Settles E (.retryDelivery request d.deliveryId d.attempt d.fence reasonJson reasonDigest) s outcome
      s' := by
  unfold applyDeliveryRetry at h
  obtain ⟨done, s1, h1, hrest⟩ := Tx.bind_ok.mp h
  obtain ⟨hdigest, hinsert⟩ := insertOperatorAction_ok h1
  rcases hinsert.of_fresh hfresh with ⟨hdone, hrecorded⟩ | ⟨hdone, _⟩
  · rw [hdone] at hrest
    obtain ⟨n, s2, h2, hrest⟩ := Tx.bind_ok.mp hrest
    obtain ⟨D, _, _, hs2⟩ := updateDeliveries_ok.mp h2
    have hrecorded2 : Recorded request s2 := by
      rw [hs2]
      exact hrecorded
    split at hrest
    · cases hrest
      exact absurd rfl hother
    · obtain ⟨_, s3, h3, hrest⟩ := Tx.bind_ok.mp hrest
      cases hrest
      obtain ⟨x, hx, hkey⟩ := hrecorded2
      exact .applied hfresh ⟨x, (afterDeliveryRetry_effect h3).actions x hx, hkey⟩
        ⟨d, hmem, ⟨rfl, rfl, rfl⟩, hstate, next, hdigest⟩
  · rw [hdone] at hrest
    cases hrest
    exact absurd rfl hother

def retryableDelivery (deliveryId : String) (attempt fence occurredAt : Int) (s : Store) :
    Option (ScheduledDeliveryRow × Int) := do
  let d ← s.deliveries.rows.find? fun d => d.deliveryId == deliveryId && d.attempt == attempt
    && d.fence == fence && d.state == .failedRetryable
  let p ← d.payload
  let next ← d.policy.1.deliveryRetryAt deliveryId attempt p.createdAt occurredAt none
  return (d, next)

theorem retryableDelivery_some {deliveryId : String} {attempt fence occurredAt : Int}
    {found : ScheduledDeliveryRow × Int}
    (h : retryableDelivery deliveryId attempt fence occurredAt s = some found) :
    found.1 ∈ s.deliveries.rows ∧
      (found.1.deliveryId = deliveryId ∧ found.1.attempt = attempt ∧ found.1.fence = fence) ∧
      found.1.state = .failedRetryable := by
  unfold retryableDelivery at h
  obtain ⟨d, hfind, h⟩ := Option.bind_eq_some_iff.mp h
  obtain ⟨p, _, h⟩ := Option.bind_eq_some_iff.mp h
  obtain ⟨n, _, h⟩ := Option.bind_eq_some_iff.mp h
  cases h
  have hid := List.find?_some hfind
  simp only [Bool.and_eq_true, beq_iff_eq] at hid
  exact ⟨List.mem_of_find?_eq_some hfind, ⟨hid.1.1.1, hid.1.1.2, hid.1.2⟩, hid.2⟩

theorem operatorRetryScheduledDelivery_settles {deliveryId : String} {attempt fence : Int}
    {reasonJson reasonDigest : String} {outcome : SchedulerOperatorMutationOutcome}
    (h : operatorRetryScheduledDelivery E request deliveryId attempt fence reasonJson reasonDigest s =
      .ok (outcome, s')) :
    Settles E (.retryDelivery request deliveryId attempt fence reasonJson reasonDigest) s outcome s' := by
  obtain ⟨t, hrun, rfl⟩ := Tx.rollbackIf_ok.mp h
  split
  · rename_i hconflict
    rw [beq_iff_eq.mp hconflict]
    exact .conflict
  rename_i hconflict
  have hother : outcome ≠ .conflict := by simpa using hconflict
  obtain ⟨_, _, hrun⟩ := Tx.check_bind_ok.mp hrun
  obtain ⟨_, _, hrun⟩ := Tx.check_bind_ok.mp hrun
  obtain ⟨_, _, hrun⟩ := Tx.check_bind_ok.mp hrun
  obtain ⟨_, hrun⟩ := Tx.require_bind_ok.mp hrun
  rw [Tx.read_bind_apply] at hrun
  cases hpersisted : persistedRequest request s with
  | some a =>
    obtain ⟨hmem, hkey⟩ := persistedRequest_some hpersisted
    rw [hpersisted] at hrun
    dsimp only at hrun
    split at hrun
    · cases hrun
      exact absurd rfl hother
    · rename_i hexact
      obtain ⟨_, hrun⟩ := Tx.require_bind_ok.mp hrun
      cases hrun
      simp only [Bool.or_eq_true, bne_iff_ne, ne_eq, not_or, not_not] at hexact
      exact .replay ⟨a, hmem, hkey, hexact⟩
  | none =>
    have hfresh := persistedRequest_none.mp hpersisted
    rw [hpersisted] at hrun
    dsimp only at hrun
    rw [Tx.read_bind_apply] at hrun
    have hcontinue : ∀ found, found = retryableDelivery deliveryId attempt fence request.occurredAt s →
        (match found with
          | none => (return .conflict : StoreTx SchedulerOperatorMutationOutcome)
          | some (d, next) => applyDeliveryRetry E request d (reasonJson, reasonDigest) next) s =
          .ok (outcome, t) →
        Settles E (.retryDelivery request deliveryId attempt fence reasonJson reasonDigest) s outcome t := by
      intro found hfound hrun
      cases found with
      | none =>
        cases hrun
        exact absurd rfl hother
      | some dn =>
        obtain ⟨hmem, ⟨hid, hattempt, hfence⟩, hstate⟩ := retryableDelivery_some hfound.symm
        have hsettles := applyDeliveryRetry_settles hmem hstate hfresh hother hrun
        rwa [hid, hattempt, hfence] at hsettles
    exact hcontinue _ rfl hrun

/-- 不明の配送への操作も、同じ三つのどれかに終わる。 -/
theorem operatorActOnUnknownDelivery_settles {deliveryId : String} {attempt fence : Int}
    {action : ScheduledDeliveryUnknownAction} {outcome : SchedulerOperatorMutationOutcome}
    (h : operatorActOnUnknownDelivery E request deliveryId attempt fence action s = .ok (outcome, s')) :
    Settles E (.actOnUnknown request deliveryId attempt fence action) s outcome s' := by
  obtain ⟨t, hrun, rfl⟩ := Tx.rollbackIf_ok.mp h
  split
  · rename_i hconflict
    rw [beq_iff_eq.mp hconflict]
    exact .conflict
  rename_i hconflict
  have hother : outcome ≠ .conflict := by simpa using hconflict
  obtain ⟨_, _, hrun⟩ := Tx.check_bind_ok.mp hrun
  obtain ⟨_, _, hrun⟩ := Tx.check_bind_ok.mp hrun
  obtain ⟨_, hrun⟩ := Tx.require_bind_ok.mp hrun
  obtain ⟨_, _, hrun⟩ := Tx.check_bind_ok.mp hrun
  obtain ⟨_, hrun⟩ := Tx.require_bind_ok.mp hrun
  rw [Tx.read_bind_apply] at hrun
  cases hfind : s.deliveries.rows.find? fun d => d.deliveryId == deliveryId && d.attempt == attempt
      && d.fence == fence && d.payload.isSome with
  | none =>
    rw [hfind] at hrun
    cases hrun
    exact absurd rfl hother
  | some d =>
    have hid := List.find?_some hfind
    simp only [Bool.and_eq_true, beq_iff_eq] at hid
    rw [hfind] at hrun
    dsimp only at hrun
    obtain ⟨_, _, hrun⟩ := Tx.check_bind_ok.mp hrun
    rw [Tx.read_bind_apply] at hrun
    cases hexisting : existingOperatorRequest request s with
    | some o =>
      rw [hexisting] at hrun
      cases hrun
      exact .existing hexisting
    | none =>
      have hfresh := existingOperatorRequest_none hexisting
      rw [hexisting] at hrun
      dsimp only at hrun
      split at hrun
      · cases hrun
        exact absurd rfl hother
      rename_i hunknown
      obtain ⟨done, s1, h1, hrest⟩ := Tx.bind_ok.mp hrun
      obtain ⟨hdigest, hinsert⟩ := insertOperatorAction_ok h1
      have htargets : OperatorCall.Targets E s (.actOnUnknown request deliveryId attempt fence action) :=
        ⟨d, List.mem_of_find?_eq_some hfind, ⟨hid.1.1.1, hid.1.1.2, hid.1.2⟩, by simpa using hunknown,
          hdigest⟩
      rcases hinsert.of_fresh hfresh with ⟨hdone, hrecorded⟩ | ⟨hdone, _⟩
      · rw [hdone] at hrest
        dsimp only at hrest
        split at hrest
        · cases hrest
          exact .applied hfresh hrecorded htargets
        · rename_i haction
          obtain ⟨_, s2, h2, hrest⟩ := Tx.bind_ok.mp hrest
          cases hrest
          have heffects := (applyUnknownDeliveryOperatorAction_effects haction h2 :
            Relation.ReflTransGen (Effect E 0 _) _ _)
          exact .applied hfresh (hrecorded.steps heffects) htargets
      · rw [hdone] at hrest
        cases hrest
        exact absurd rfl hother

theorem OperatorCall.run_settles {call : OperatorCall} {outcome : SchedulerOperatorMutationOutcome}
    (h : call.run E s = .ok (outcome, s')) : Settles E call s outcome s' := by
  cases call with
  | retryRun request runId attempt fence reasonJson reasonDigest nextAttemptAt =>
    exact operatorRetryScheduledRun_settles h
  | retryDelivery request deliveryId attempt fence reasonJson reasonDigest =>
    exact operatorRetryScheduledDelivery_settles h
  | actOnUnknown request deliveryId attempt fence action =>
    exact operatorActOnUnknownDelivery_settles h

end Codeoff.State
