import Codeoff.Channel.Lemmas.ProcessingStream

/-!
# 返信が加える行

返信だけが動くときの結果。
-/

namespace Codeoff.Channel

open Codeoff.Control Codeoff.Relational Codeoff.Slack

variable {s s' : DeliveryStore} {d : SlackDeliveryRequest} {now : Nat} {createdAt : Int} {faults : ReplyFaults}

def shownIndicator (request : ReplyToEventRequest) (s : DeliveryStore) : Option SlackProcessingIndicatorRow :=
  (slackProcessingIndicator request.workspaceId request.eventDedupeKey s).filter fun i => i.status == .started

def plannedDelivery (request : ReplyToEventRequest) (channelId : String) (threadTs : Option String)
    (sender : SlackDeliverySender) (s : DeliveryStore) : SlackDeliveryRequest :=
  match shownIndicator request s with
  | some indicator => stopRequest (finishRequest request sender) indicator
  | none => postRequest request channelId threadTs sender

structure Accepts (faults : ReplyFaults) (createdAt : Int) (request : ReplyToEventRequest) (d : SlackDeliveryRequest)
    (s : DeliveryStore) : Prop where
  source : faults .source = none
  indicator : faults .indicator = none
  shown : (shownIndicator request s).isSome → faults .stop = none ∧ faults .complete = none
  unshown : shownIndicator request s = none → faults .post = none
  check : (enqueuedRow d request.nowUnixSeconds createdAt s.queue).Check

def Queued (d : SlackDeliveryRequest) (now : Nat) (createdAt : Int) (s s' : DeliveryStore) : Prop :=
  s'.queue.rows = s.queue.rows ∧ (rowOf d.key s).isSome ∨
    rowOf d.key s = none ∧ s'.queue.rows = s.queue.rows ++ [enqueuedRow d now createdAt s.queue]

theorem enqueueSlackDelivery_run (h : (enqueuedRow d now createdAt s.queue).Check) :
    ∃ inserted s', enqueueSlackDelivery d now createdAt s = .ok (inserted, s') := by
  obtain ⟨T, n, hT⟩ := Table.insertOrIgnore_ok_of_check s.queue
    (S := slackDeliveryQueue) (r := enqueuedRow d now createdAt s.queue) (decide_eq_true h)
  exact ⟨n == 1, { s with queue := T }, Tx.bind_ok.mpr ⟨n, _, onTable_ok.mpr ⟨T, hT, rfl⟩, rfl⟩⟩

theorem completeSlackProcessingIndicator_run (workspaceId eventDedupeKey : String) (s : DeliveryStore) :
    ∃ s', completeSlackProcessingIndicator workspaceId eventDedupeKey s = .ok ((), s') := by
  have hconflict : ∀ a b : SlackProcessingIndicatorRow, slackProcessingIndicators.conflict
      (if ofEvent workspaceId eventDedupeKey a then { a with status := .completed } else a)
      (if ofEvent workspaceId eventDedupeKey b then { b with status := .completed } else b) =
        slackProcessingIndicators.conflict a b := by
    intro a b
    split <;> split <;> rfl
  obtain ⟨T, hT⟩ := @Table.exists_updates _ _ s.indicators (fun _ _ => none)
      (ofEvent workspaceId eventDedupeKey) (fun r => { r with status := .completed }) (fun _ _ _ => rfl)
      (fun r hr _ => s.indicators.checked r hr)
      (List.pairwise_map.mpr (s.indicators.unique.imp fun {a b} hab => (hconflict a b).trans hab))
  exact ⟨_, Tx.bind_ok.mpr ⟨_, _, onTable_ok.mpr ⟨T, Table.update_ok.mpr ⟨hT, rfl⟩, rfl⟩, rfl⟩⟩

theorem onDeliveries_enqueue (fault : Option SlackStoreError) (x : ReplyState) :
    ((fault = none ∧ (enqueuedRow d now createdAt x.store.deliveries.queue).Check) ∧
      ∃ inserted x', onDeliveries fault (enqueueSlackDelivery d now createdAt) x = (.ok inserted, x') ∧
        Queued d now createdAt x.store.deliveries x'.store.deliveries) ∨
    (¬ (fault = none ∧ (enqueuedRow d now createdAt x.store.deliveries.queue).Check) ∧
      ∃ error, onDeliveries fault (enqueueSlackDelivery d now createdAt) x = (.error error, x)) := by
  rcases onDeliveries_cases fault (enqueueSlackDelivery d now createdAt) x with ⟨error, h⟩ | ⟨inserted, s', hfault, hrun, h⟩
  · refine .inr ⟨fun ⟨hfault, hcheck⟩ => ?_, error, h⟩
    obtain ⟨inserted, s', hrun⟩ := enqueueSlackDelivery_run hcheck
    simp [onDeliveries, hfault, commit_eq_ok.mpr hrun] at h
  · obtain ⟨hcheck, hcases⟩ := enqueueSlackDelivery_cases hrun
    refine .inl ⟨⟨hfault, hcheck⟩, inserted, _, h, ?_⟩
    rcases hcases with ⟨_, rfl, hsome⟩ | ⟨_, hnone, _, hrows⟩
    · exact .inl ⟨rfl, hsome⟩
    · exact .inr ⟨hnone, hrows⟩

/-! ## 返信だけが動くとき -/

variable {request : ReplyToEventRequest} {channelId : String} {threadTs : Option String} {sender : SlackDeliverySender}
  {x : ReplyState} {i : SlackProcessingIndicatorRow}

theorem stopStream_alone (faults : ReplyFaults) (createdAt : Int) (request : ProcessingStreamFinishRequest)
    (i : SlackProcessingIndicatorRow) (fresh : Bool) (x : ReplyState) :
    ((faults .stop = none ∧ faults .complete = none ∧
        (enqueuedRow (stopRequest request i) request.nowUnixSeconds createdAt x.store.deliveries.queue).Check) ∧
      ∃ queued x', (stopStream faults createdAt request i fresh).alone x =
          (.ok ⟨request.requestDedupeKey, queued, true⟩, x') ∧
        Queued (stopRequest request i) request.nowUnixSeconds createdAt x.store.deliveries x'.store.deliveries) ∨
    (¬ (faults .stop = none ∧ faults .complete = none ∧
        (enqueuedRow (stopRequest request i) request.nowUnixSeconds createdAt x.store.deliveries.queue).Check) ∧
      ∃ error x', (stopStream faults createdAt request i fresh).alone x = (.error error, x')) := by
  simp only [stopStream, Thread.alone_atomic, enqueueStop]
  generalize hattempted : (if faults .stop = none then
    { x with attempts := x.attempts ++ [⟨stopRequest request i, x.store.deliveries, fresh⟩] } else x) = attempted
  have hstore : attempted.store = x.store := by
    rw [← hattempted]
    split <;> rfl
  rcases @onDeliveries_enqueue (stopRequest request i) request.nowUnixSeconds createdAt (faults .stop) attempted
      with ⟨⟨hstop, hcheck⟩, queued, x', h, hqueued⟩ | ⟨hnot, error, h⟩
  · rw [hstore] at hcheck hqueued
    simp only [h, completeStream, Thread.alone_atomic, completeIndicator]
    obtain ⟨s', hrun⟩ := completeSlackProcessingIndicator_run request.workspaceId request.eventDedupeKey
      x'.store.deliveries
    cases hcomplete : faults .complete with
    | none =>
      refine .inl ⟨⟨hstop, rfl, hcheck⟩, queued, _, by simp [onDeliveries, commit_eq_ok.mpr hrun]; rfl, ?_⟩
      have hqueue := (completeSlackProcessingIndicator_ok hrun).1
      simpa only [Queued, hqueue] using hqueued
    | some error => exact .inr ⟨by simp, error, x', by simp [onDeliveries]⟩
  · rw [hstore] at hnot
    refine .inr ⟨fun hall => hnot ⟨hall.1, hall.2.2⟩, error, attempted, ?_⟩
    simp only [h, Thread.alone_done]

theorem postReply_alone (faults : ReplyFaults) (createdAt : Int) (request : ReplyToEventRequest)
    (d : SlackDeliveryRequest) (x : ReplyState) :
    ((faults .post = none ∧ (enqueuedRow d request.nowUnixSeconds createdAt x.store.deliveries.queue).Check) ∧
      ∃ queued x', (postReply faults createdAt request d).alone x = (.ok ⟨request.requestDedupeKey, queued⟩, x') ∧
        Queued d request.nowUnixSeconds createdAt x.store.deliveries x'.store.deliveries) ∨
    (¬ (faults .post = none ∧ (enqueuedRow d request.nowUnixSeconds createdAt x.store.deliveries.queue).Check) ∧
      ∃ error x', (postReply faults createdAt request d).alone x = (.error error, x')) := by
  simp only [postReply, Thread.alone_atomic]
  rcases @onDeliveries_enqueue d request.nowUnixSeconds createdAt (faults .post) x with
    ⟨haccepted, queued, x', h, hqueued⟩ | ⟨hnot, error, h⟩
  · exact .inl ⟨haccepted, queued, x', by simp only [h, Thread.alone_done], hqueued⟩
  · exact .inr ⟨hnot, .state error, x, by simp only [h, Thread.alone_done]⟩

/-- 返信の行は、鍵が空いていて検査を通れば加わる。表示が出ていれば、止める行として加わる。 -/
theorem finish_alone (faults : ReplyFaults) (createdAt : Int) (request : ReplyToEventRequest) (channelId : String)
    (threadTs : Option String) (sender : SlackDeliverySender) (hsource : faults .source = none) (x : ReplyState) :
    let d := plannedDelivery request channelId threadTs sender x.store.deliveries
    let replied := ((finishProcessingStream faults createdAt (finishRequest request sender)).bind fun
        | .error error => Thread.done (.error (.state error))
        | .ok outcome =>
          if outcome.completedExistingStream then .done (.ok ⟨outcome.requestDedupeKey, outcome.queued⟩)
          else postReply faults createdAt request (postRequest request channelId threadTs sender)).alone x
    (Accepts faults createdAt request d x.store.deliveries ∧ ∃ queued x',
        replied = (.ok ⟨request.requestDedupeKey, queued⟩, x') ∧
          Queued d request.nowUnixSeconds createdAt x.store.deliveries x'.store.deliveries) ∨
      (¬ Accepts faults createdAt request d x.store.deliveries ∧ ∃ error x', replied = (.error error, x')) := by
  intro d replied
  have hpost (hindicator : faults .indicator = none) (hunshown : shownIndicator request x.store.deliveries = none)
      (h : replied = (postReply faults createdAt request (postRequest request channelId threadTs sender)).alone x) :
      (Accepts faults createdAt request d x.store.deliveries ∧ ∃ queued x',
          replied = (.ok ⟨request.requestDedupeKey, queued⟩, x') ∧
            Queued d request.nowUnixSeconds createdAt x.store.deliveries x'.store.deliveries) ∨
        (¬ Accepts faults createdAt request d x.store.deliveries ∧ ∃ error x', replied = (.error error, x')) := by
    have hd : d = postRequest request channelId threadTs sender := by simp only [d, plannedDelivery, hunshown]
    rw [h, hd]
    rcases postReply_alone faults createdAt request (postRequest request channelId threadTs sender) x with
      ⟨⟨hfault, hcheck⟩, hreplied⟩ | ⟨hnot, hreplied⟩
    · exact .inl ⟨⟨hsource, hindicator, by simp [hunshown], fun _ => hfault, hcheck⟩, hreplied⟩
    · exact .inr ⟨fun haccepts => hnot ⟨haccepts.unshown hunshown, haccepts.check⟩, hreplied⟩
  cases hindicator : faults .indicator with
  | some error =>
    refine .inr ⟨fun haccepts => absurd haccepts.indicator (by simp [hindicator]), .state error, x, ?_⟩
    simp [replied, finishProcessingStream, lookUpIndicator, onDeliveries, hindicator]
  | none =>
    have hlookUp : lookUpIndicator faults (finishRequest request sender) x =
        ((.ok (slackProcessingIndicator request.workspaceId request.eventDedupeKey x.store.deliveries),
          keyUnused (request.workspaceId, request.requestDedupeKey) x.store.deliveries), x) := by
      simp [lookUpIndicator, onDeliveries, hindicator, Tx.read, commit, finishRequest]
    cases hfound : slackProcessingIndicator request.workspaceId request.eventDedupeKey x.store.deliveries with
    | none =>
      refine hpost hindicator (by simp [shownIndicator, hfound]) ?_
      simp [replied, finishProcessingStream, hlookUp, hfound]
    | some i =>
      by_cases hstarted : i.status = .started
      · have hshown : shownIndicator request x.store.deliveries = some i := by
          simp [shownIndicator, hfound, hstarted]
        have hd : d = stopRequest (finishRequest request sender) i := by simp only [d, plannedDelivery, hshown]
        simp only [replied, finishProcessingStream, Thread.bind_atomic, Thread.alone_atomic, hlookUp, hfound,
          if_pos hstarted, Thread.alone_bind, hd]
        rcases stopStream_alone faults createdAt (finishRequest request sender) i
            (keyUnused (request.workspaceId, request.requestDedupeKey) x.store.deliveries) x with
          ⟨⟨hstop, hcomplete, hcheck⟩, queued, x', h, hqueued⟩ | ⟨hnot, error, x', h⟩
        · refine .inl ⟨⟨hsource, hindicator, fun _ => ⟨hstop, hcomplete⟩, by simp [hshown], hcheck⟩, queued, x', ?_,
            hqueued⟩
          rw [h]
          rfl
        · refine .inr ⟨fun haccepts => hnot ?_, .state error, x', by simp [h]⟩
          have hfaults := haccepts.shown (by simp [hshown])
          exact ⟨hfaults.1, hfaults.2, haccepts.check⟩
      · refine hpost hindicator (by simp [shownIndicator, hfound, hstarted]) ?_
        simp [replied, finishProcessingStream, hlookUp, hfound, if_neg hstarted]

/-- 返信は、参照と名義が読めたときにだけ行を加える。 -/
theorem replyToEvent_alone (faults : ReplyFaults) (createdAt : Int) (request : ReplyToEventRequest) (x : ReplyState) :
    (∃ channelId threadTs sender,
      replyTarget (slackSourceReferences request.workspaceId request.eventDedupeKey x.store) = .ok (channelId, threadTs) ∧
      parseSendAs request.sendAs = .ok sender ∧
      Accepts faults createdAt request (plannedDelivery request channelId threadTs sender x.store.deliveries)
        x.store.deliveries ∧
      ∃ queued x', (replyToEvent faults createdAt request).alone x = (.ok ⟨request.requestDedupeKey, queued⟩, x') ∧
        Queued (plannedDelivery request channelId threadTs sender x.store.deliveries) request.nowUnixSeconds createdAt
          x.store.deliveries x'.store.deliveries) ∨
    ((∀ channelId threadTs sender,
      replyTarget (slackSourceReferences request.workspaceId request.eventDedupeKey x.store) = .ok (channelId, threadTs) →
      parseSendAs request.sendAs = .ok sender →
      ¬ Accepts faults createdAt request (plannedDelivery request channelId threadTs sender x.store.deliveries)
        x.store.deliveries) ∧
      ∃ error x', (replyToEvent faults createdAt request).alone x = (.error error, x')) := by
  cases hsource : faults .source with
  | some error =>
    refine .inr ⟨fun _ _ _ _ _ haccepts => absurd haccepts.source (by simp [hsource]), .state error, x, ?_⟩
    simp [replyToEvent, hsource]
  | none =>
    simp only [replyToEvent, Thread.alone_atomic, hsource]
    cases htarget : replyTarget (slackSourceReferences request.workspaceId request.eventDedupeKey x.store) with
    | error error => exact .inr ⟨by simp, error, x, rfl⟩
    | ok target =>
      cases hsender : parseSendAs request.sendAs with
      | error error => exact .inr ⟨by simp, error, x, rfl⟩
      | ok sender =>
        rcases finish_alone faults createdAt request target.1 target.2 sender hsource x with
          ⟨haccepts, hreplied⟩ | ⟨hnot, hreplied⟩
        · exact .inl ⟨target.1, target.2, sender, rfl, rfl, haccepts, hreplied⟩
        · refine .inr ⟨fun channelId threadTs sender' htarget' hsender' => ?_, hreplied⟩
          cases htarget'
          cases hsender'
          exact hnot

end Codeoff.Channel
