import Codeoff.Slack.Lemmas.DeliveryOwnership
import Codeoff.Slack.Lemmas.DeliveryRun

/-!
# 送信の呼び出しと持ち物

どの呼び出しも、持ち物を替えながら `DeliveryInv` を保つ。
-/

namespace Codeoff.Slack

open Codeoff.Control Codeoff.Relational
open Codeoff.State (sqlLength)
open SlackDeliveryQueue

/-- 保存領域の失敗は、成功の記録での一時の競合だけである。 -/
structure NoOtherStorageError (c : SlackCall) : Prop where
  faults : ∀ call error, c.faults call = some error →
    error = .contention ∧ (call = .complete ∨ call = .completePending)
  recordable : ∀ posted, c.answer = .posted posted → 0 < sqlLength posted.channelId ∧ 0 < sqlLength posted.messageTs

variable {ρ α : Type} {lost : Prop} {c : SlackCall} {interval : Nat} {d : SlackDeliveryRequest}
  {receipt : SlackDeliveryReceipt} {responseJson : String} {p p' : Option DeliveryClaim}
  {Q : ρ → Option DeliveryClaim → Prop} {fault : Option SlackStoreError} {tx : DeliveryTx α}

/-! ## 一歩の規則 -/

theorem owned_transact {next : Except SlackStoreError α → SlackThread ρ}
    (hok : ∀ q own i, DeliveryInv lost q own → own i = p → ∀ a s', tx q.store = .ok (a, s') →
      ∃ p', DeliveryInv lost { q with store := s' } (Function.update own i p') ∧
        Thread.Owned (DeliveryInv lost) Q p' (next (.ok a)))
    (hdrop : ∀ q own i, DeliveryInv lost q own → own i = p → DeliveryInv lost q (Function.update own i p'))
    (herror : ∀ error, Thread.Owned (DeliveryInv lost) Q p' (next (.error error))) :
    Thread.Owned (DeliveryInv lost) Q p (.atomic (transact fault tx) next) := by
  refine Thread.owned_atomic fun q own i hinv hown => ?_
  rcases transact_cases fault tx q with ⟨error, h⟩ | ⟨a, s', htx, h⟩
  · rw [h]
    exact ⟨p', hdrop q own i hinv hown, herror error⟩
  · rw [h]
    exact hok q own i hinv hown a s' htx

theorem owned_perform {op : SlackDeliveryQueue → SlackDeliveryQueue} {next : SlackThread ρ}
    (hop : ∀ q own i, DeliveryInv lost q own → own i = p → DeliveryInv lost (op q) (Function.update own i p'))
    (hnext : Thread.Owned (DeliveryInv lost) Q p' next) :
    Thread.Owned (DeliveryInv lost) Q p (perform op next) :=
  Thread.owned_atomic fun q own i hinv hown => ⟨p', hop q own i hinv hown, hnext⟩

theorem owned_read {read : SlackDeliveryQueue → α} {next : α → SlackThread ρ}
    (hnext : ∀ a, Thread.Owned (DeliveryInv lost) Q p (next a)) :
    Thread.Owned (DeliveryInv lost) Q p (.atomic (fun q => (read q, q)) next) :=
  Thread.owned_atomic fun q _ _ hinv hown => ⟨p, hinv.keep hown, hnext (read q)⟩

theorem inv_clearMap {channel : String × String} {next : Nat} {q : SlackDeliveryQueue}
    {own : Ownership DeliveryClaim} (h : DeliveryInv lost q own) :
    DeliveryInv lost (clearInMemoryChannelThrottle channel next q) own := by
  unfold clearInMemoryChannelThrottle
  split
  · exact h.memory rfl rfl rfl
  · exact h

theorem owned_complete {call : StorageCall} {next : Nat} {finish : Except SlackStoreError Unit → SlackThread ρ}
    (hc : lost ∨ NoOtherStorageError c) (hok : Thread.Owned (DeliveryInv lost) Q none (finish (.ok ())))
    (hcontention : ∀ error, error.isTransientStorageContention = true →
      Thread.Owned (DeliveryInv lost) Q (some (.recording receipt responseJson)) (finish (.error error)))
    (hfailed : ∀ error, error.isTransientStorageContention ≠ true →
      Thread.Owned (DeliveryInv lost) Q none (finish (.error error))) :
    Thread.Owned (DeliveryInv lost) Q (some (.recording receipt responseJson))
      (.atomic (transact (c.faults call) (completeSlackDelivery receipt responseJson next)) finish) := by
  refine Thread.owned_atomic fun q own i hinv hown => ?_
  rcases transact_cases (c.faults call) (completeSlackDelivery receipt responseJson next) q with
    ⟨error, h⟩ | ⟨a, s', htx, h⟩
  · rw [h]
    by_cases htransient : error.isTransientStorageContention = true
    · exact ⟨_, hinv.keep hown, hcontention error htransient⟩
    · refine ⟨none, hinv.forgotten ?_ hown, hfailed error htransient⟩
      -- 競合でない失敗は、記録を失いうるときにだけ起こる
      by_contra hlost
      have hcalm := hc.resolve_left hlost
      have hcheck := (hinv.claims i _ _ hown).resolve_left hlost
      cases hfault : c.faults call with
      | some fault =>
        obtain ⟨rfl, _⟩ := hcalm.faults call fault hfault
        rw [hfault] at h
        cases h
        exact htransient rfl
      | none =>
        obtain ⟨s', hrun⟩ := completeSlackDelivery_run hcheck next q.store
        rw [hfault] at h
        simp [transact, commit, hrun] at h
  · rw [h]
    exact ⟨none, hinv.completed hown (completeSlackDelivery_ok htx), hok⟩

theorem retryLater_owned (availableAt : Nat) :
    Thread.Owned (DeliveryInv lost) (fun _ p => p = none) (some (.sending d)) (retryLater c d availableAt) := by
  refine @owned_transact _ _ _ _ none _ _ _ _ ?_ ?_ ?_
  · intro q own i hinv hown _ s' hrun
    exact ⟨none, hinv.returned hown hrun, Thread.owned_done rfl⟩
  · exact fun q own i hinv hown => hinv.abandoned hown
  · intro error
    exact Thread.owned_done rfl

theorem recordCompletion_owned {next : Nat} (hc : lost ∨ NoOtherStorageError c) :
    Thread.Owned (DeliveryInv lost) (fun _ p => p = none) (some (.recording receipt responseJson))
      (recordCompletion c receipt responseJson next) := by
  refine owned_complete hc ?_ ?_ ?_
  · refine @owned_perform _ _ _ none _ _ _ ?_ (Thread.owned_done rfl)
    exact fun q own i hinv hown => (inv_clearMap hinv).keep hown
  · intro error htransient
    simp only [if_pos htransient]
    refine @owned_perform _ _ _ none _ _ _ ?_ (Thread.owned_done rfl)
    exact fun q own i hinv hown => hinv.pushed hown
  · intro error htransient
    simp only [if_neg htransient]
    exact Thread.owned_done rfl

/-- 送る呼び出しは、どこで割り込まれても鍵を離さず、終わるときに離す。 -/
theorem sendAndRecord_owned (hc : lost ∨ NoOtherStorageError c) :
    Thread.Owned (DeliveryInv lost) (fun _ p => p = none) (some (.sending d)) (sendAndRecord interval c d) := by
  unfold sendAndRecord
  cases hanswer : c.answer with
  | posted posted =>
    refine @owned_perform _ _ _ (some (.recording (receiptOf d posted) posted.responseBody)) _ _ _ ?_ ?_
    · exact fun q own i hinv hown => hinv.calledPosted hown (hc.imp id fun hc => hc.recordable posted hanswer)
    · refine owned_perform ?_ (recordCompletion_owned hc)
      exact fun q own i hinv hown => DeliveryInv.keep (hinv.memory rfl rfl rfl) hown
  | rateLimited retryAfterSeconds =>
    refine owned_perform ?_ (retryLater_owned _)
    exact fun q own i hinv hown => hinv.called hown rfl
  | failed =>
    refine owned_perform ?_ (retryLater_owned _)
    exact fun q own i hinv hown => hinv.called hown rfl
  | unsent =>
    refine owned_perform ?_ (retryLater_owned _)
    exact fun q own i hinv hown => hinv.called hown rfl

/-! ## 送る行を選ぶ -/

def SelectedBy : Selection → Option DeliveryClaim → Prop
  | .finished _, p => p = none
  | .ready d, p => p = some (.sending d)

theorem owned_enqueue {request : SlackDeliveryRequest} {createdAt : Int} {Q : ρ → Option DeliveryClaim → Prop}
    {next : Except SlackStoreError Bool → SlackThread ρ}
    (hnext : ∀ result, Thread.Owned (DeliveryInv lost) Q none (next result)) :
    Thread.Owned (DeliveryInv lost) Q none
      (.atomic (transact fault (enqueueSlackDelivery request c.now createdAt)) next) := by
  refine @owned_transact _ _ _ _ none _ _ _ _ ?_ ?_ ?_
  · intro q own i hinv hown inserted s' hrun
    exact ⟨none, hinv.enqueued hown (enqueueSlackDelivery_ok hrun), hnext _⟩
  · exact fun q own i hinv hown => hinv.keep hown
  · exact fun error => hnext _

theorem selectDeliver_owned {queued : SlackDeliveryRequest} {createdAt : Int} :
    Thread.Owned (DeliveryInv lost) SelectedBy none (selectDeliver c queued createdAt) := by
  refine owned_enqueue fun result => ?_
  cases result with
  | error error => exact Thread.owned_done rfl
  | ok inserted =>
    refine owned_read fun found => ?_
    cases found with
    | some availableAt => exact Thread.owned_done rfl
    | none =>
      refine @owned_transact _ _ _ _ none _ _ _ _ ?_ ?_ ?_
      · intro q own i hinv hown claim s' hrun
        rcases claimSlackDelivery_ok hrun with ⟨d, rfl, _, _, hclaims⟩ | ⟨hother, rfl⟩
        · exact ⟨_, hinv.claimed hown hclaims, Thread.owned_done rfl⟩
        · refine ⟨none, hinv.keep hown, ?_⟩
          cases claim with
          | ready d => exact absurd rfl (hother d)
          | delivered receipt => exact Thread.owned_done rfl
          | deferred availableAt => exact Thread.owned_done rfl
      · exact fun q own i hinv hown => hinv.keep hown
      · exact fun error => Thread.owned_done rfl

theorem selectNextDue_owned : Thread.Owned (DeliveryInv lost) SelectedBy none (selectNextDue c) := by
  refine @owned_transact _ _ _ _ none _ _ _ _ ?_ ?_ ?_
  · intro q own i hinv hown claimed s' hrun
    rcases claimNextDue_ok hrun with ⟨d, rfl, hclaims⟩ | ⟨rfl, rfl⟩
    · refine ⟨_, hinv.claimed hown hclaims, ?_⟩
      by_cases hpost : d.operation = .postMessage
      · simp only [if_pos hpost]
        refine owned_read fun found => ?_
        cases found with
        | none => exact Thread.owned_done rfl
        | some availableAt =>
          refine @owned_transact _ _ _ _ none _ _ _ _ ?_ ?_ ?_
          · intro q own i hinv hown _ s' hrun
            exact ⟨none, hinv.returned hown hrun, Thread.owned_done rfl⟩
          · exact fun q own i hinv hown => hinv.abandoned hown
          · exact fun error => Thread.owned_done rfl
      · simp only [if_neg hpost]
        exact Thread.owned_done rfl
    · exact ⟨none, hinv.keep hown, Thread.owned_done rfl⟩
  · exact fun q own i hinv hown => hinv.keep hown
  · exact fun error => Thread.owned_done rfl

theorem selectDrain_owned (hc : lost ∨ NoOtherStorageError c) :
    Thread.Owned (DeliveryInv lost) SelectedBy none (selectDrain c) := by
  refine Thread.owned_atomic fun q own i hinv hown => ?_
  cases htake : takeDuePending c.now q with
  | mk found q' =>
    cases found with
    | none =>
      have hsame : q' = q := by
        unfold takeDuePending at htake
        split at htake
        · exact (Prod.mk.inj htake).2.symm
        · rename_i position hposition
          obtain ⟨hlt, _⟩ := List.findIdx?_eq_some_iff_getElem.mp hposition
          simp [hlt] at htake
      exact ⟨none, hsame ▸ hinv.keep hown, selectNextDue_owned⟩
    | some completion =>
      refine ⟨_, hinv.taken hown htake, owned_complete hc ?_ ?_ ?_⟩
      · refine @owned_perform _ _ _ none _ _ _ ?_ (Thread.owned_done rfl)
        exact fun q own i hinv hown => (inv_clearMap hinv).keep hown
      · intro error htransient
        simp only [if_pos htransient]
        refine @owned_perform _ _ _ none _ _ _ ?_ selectNextDue_owned
        exact fun q own i hinv hown => hinv.pushed (e := backedOff completion c.now) hown
      · intro error htransient
        simp only [if_neg htransient]
        exact Thread.owned_done rfl

/-- 呼び出しは、持つ鍵について不変条件を保ち、何も持たずに終わる。 -/
theorem program_owned (hc : lost ∨ NoOtherStorageError c) :
    Thread.Owned (DeliveryInv lost) (fun _ p => p = none) none (program interval c) := by
  refine Thread.owned_bind (Q := SelectedBy) ?_ ?_
  · unfold select
    cases c.operation with
    | enqueue request createdAt =>
      refine owned_enqueue fun result => ?_
      cases result with
      | ok inserted => exact Thread.owned_done rfl
      | error error => exact Thread.owned_done rfl
    | deliver request createdAt =>
      cases hqueued : requestToDelivery request with
      | none =>
        simp only [hqueued]
        exact Thread.owned_done rfl
      | some queued =>
        simp only [hqueued]
        exact selectDeliver_owned
    | drainDueOnce => exact selectDrain_owned hc
  · intro selection p hselected
    cases selection with
    | finished result =>
      cases hselected
      exact Thread.owned_done rfl
    | ready d =>
      cases hselected
      exact sendAndRecord_owned hc

theorem free_perform {op : SlackDeliveryQueue → SlackDeliveryQueue} {next : SlackThread ρ} (h : next.Free) :
    (perform op next).Free := Thread.free_atomic fun _ => h

theorem retryLater_free (availableAt : Nat) : (retryLater c d availableAt).Free := by
  refine Thread.free_atomic fun r => ?_
  cases r <;> trivial

theorem sendAndRecord_free : (sendAndRecord interval c d).Free := by
  refine free_perform ?_
  cases c.answer with
  | posted posted =>
    refine free_perform (Thread.free_atomic fun r => ?_)
    cases r with
    | ok _ => exact free_perform trivial
    | error error =>
      by_cases htransient : error.isTransientStorageContention = true
      · simp only [if_pos htransient]
        exact free_perform trivial
      · simp only [if_neg htransient]
        trivial
  | rateLimited retryAfterSeconds => exact retryLater_free _
  | failed => exact retryLater_free _
  | unsent => exact retryLater_free _

theorem selectDeliver_free {queued : SlackDeliveryRequest} {createdAt : Int} :
    (selectDeliver c queued createdAt).Free := by
  refine Thread.free_atomic fun r => ?_
  cases r with
  | error error => trivial
  | ok inserted =>
    refine Thread.free_atomic fun found => ?_
    cases found with
    | some availableAt => trivial
    | none =>
      refine Thread.free_atomic fun claim => ?_
      rcases claim with error | claim
      · trivial
      · cases claim <;> trivial

theorem selectNextDue_free : (selectNextDue c).Free := by
  refine Thread.free_atomic fun r => ?_
  rcases r with error | claimed
  · trivial
  · cases claimed with
    | none => trivial
    | some d =>
      by_cases hpost : d.operation = .postMessage
      · simp only [if_pos hpost]
        refine Thread.free_atomic fun found => ?_
        cases found with
        | none => trivial
        | some availableAt =>
          refine Thread.free_atomic fun r => ?_
          cases r <;> trivial
      · simp only [if_neg hpost]
        trivial

theorem selectDrain_free : (selectDrain c).Free := by
  refine Thread.free_atomic fun found => ?_
  cases found with
  | none => exact selectNextDue_free
  | some completion =>
    refine Thread.free_atomic fun r => ?_
    cases r with
    | ok _ => exact free_perform trivial
    | error error =>
      by_cases htransient : error.isTransientStorageContention = true
      · simp only [if_pos htransient]
        exact free_perform selectNextDue_free
      · simp only [if_neg htransient]
        trivial

theorem program_free : (program interval c).Free := by
  refine Thread.free_bind ?_ fun selection => ?_
  · unfold select
    cases c.operation with
    | enqueue request createdAt =>
      refine Thread.free_atomic fun r => ?_
      cases r <;> trivial
    | deliver request createdAt =>
      cases hqueued : requestToDelivery request with
      | none =>
        simp only [hqueued]
        trivial
      | some queued =>
        simp only [hqueued]
        exact selectDeliver_free
    | drainDueOnce => exact selectDrain_free
  · cases selection with
    | finished result => trivial
    | ready d => exact sendAndRecord_free

end Codeoff.Slack
