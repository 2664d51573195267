import Codeoff.Channel.Lemmas.ProcessingStream

/-!
# 処理中の表示は一度だけ止まる

止める行を加える試みが、どれもほかの呼び出しと重ならなければ、済みになった表示には止める行がちょうど一つあり、空いた鍵の
文面は待ち行列に残る。
-/

namespace Codeoff.Channel.ProcessingStream

open Codeoff.Control Codeoff.Relational Codeoff.Slack

inductive StreamCall where
  | finish (faults : ReplyFaults) (createdAt : Int) (request : ProcessingStreamFinishRequest)
  | reply (faults : ReplyFaults) (createdAt : Int) (request : ReplyToEventRequest)
  | send (fault : Option SlackStoreError) (createdAt : Int) (now : Nat) (delivery : SlackDeliveryRequest)

def sendMessage (fault : Option SlackStoreError) (createdAt : Int) (now : Nat) (delivery : SlackDeliveryRequest) :
    ReplyThread (Except SlackStoreError Bool) :=
  .atomic (onDeliveries fault (enqueueSlackDelivery { delivery with operation := .postMessage } now createdAt)) .done

def streamProgram : StreamCall → ReplyThread Unit
  | .finish faults createdAt request => (finishProcessingStream faults createdAt request).bind fun _ => .done ()
  | .reply faults createdAt request => (replyToEvent faults createdAt request).bind fun _ => .done ()
  | .send fault createdAt now delivery => (sendMessage fault createdAt now delivery).bind fun _ => .done ()

def StoppedOnce (s₀ : DeliveryStore) (s : ReplyState) : Prop :=
  ∀ i ∈ s.store.deliveries.indicators.rows, i.status = .completed →
    ∀ o ∈ s₀.indicators.rows, SameEvent o i → o.status = .started →
      (stopRows (messageOf i) s.store.deliveries).length = 1

def AnswersQueued (s : ReplyState) : Prop :=
  ∀ c ∈ s.completions, c.fresh = true → ∃ row ∈ s.store.deliveries.queue.rows,
    row.request.key = (c.request.workspaceId, c.request.requestDedupeKey) ∧ row.request.text = c.request.text

variable {s₀ : DeliveryStore} {ρ : Type} {Q : ρ → Option StreamClaim → Prop} {p : Option StreamClaim}
  {fault : Option SlackStoreError} {faults : ReplyFaults} {createdAt : Int} {now : Nat}
  {request : ProcessingStreamFinishRequest} {i : SlackProcessingIndicatorRow} {fresh queued : Bool}
  {d : SlackDeliveryRequest}

theorem kept_release {x : ReplyState} {own : Ownership StreamClaim} {j : Nat} (h : StreamsKept s₀ x own) :
    StreamsKept s₀ x (Function.update own j none) := fun hlone => (h hlone).release

theorem owned_post {next : Except SlackStoreError Bool → ReplyThread ρ} (hpost : d.operation = .postMessage)
    (hnext : ∀ result, Thread.Owned (StreamsKept s₀) Q none (next result)) :
    Thread.Owned (StreamsKept s₀) Q none (.atomic (onDeliveries fault (enqueueSlackDelivery d now createdAt)) next) := by
  refine Thread.owned_atomic fun x own j hkept hown => ⟨none, kept_release ?_, hnext _⟩
  rcases onDeliveries_cases fault (enqueueSlackDelivery d now createdAt) x with ⟨error, h⟩ | ⟨inserted, s', _, hrun, h⟩
  · rw [h]
    exact hkept
  · rw [h]
    exact fun hlone => (hkept hlone).posted hpost hrun

/-! ## 表示を止める -/

theorem completeStream_owned (hevent : ofEvent request.workspaceId request.eventDedupeKey i = true) :
    Thread.Owned (StreamsKept s₀) (fun _ p => p = none) (some (.stopped i (stopRequest request i) fresh))
      (completeStream faults request fresh queued) := by
  refine Thread.owned_atomic fun x own j hkept hown => ⟨none, ?_, ?_⟩
  · unfold completeIndicator
    rcases onDeliveries_cases (faults .complete)
        (completeSlackProcessingIndicator request.workspaceId request.eventDedupeKey) x with
      ⟨error, h⟩ | ⟨_, s', _, hrun, h⟩
    · rw [h]
      exact kept_release hkept
    · rw [h]
      exact fun hlone => ((hkept hlone).completed hown hevent hrun).release
  · generalize (completeIndicator faults request fresh x).1 = result
    cases result <;> exact Thread.owned_done rfl

theorem stopStream_owned (hevent : ofEvent request.workspaceId request.eventDedupeKey i = true) :
    Thread.Owned (StreamsKept s₀) (fun _ p => p = none) (some (.found i))
      (stopStream faults createdAt request i fresh) := by
  have hworkspace : request.workspaceId = i.workspaceId := by
    simp only [ofEvent, Bool.and_eq_true, beq_iff_eq] at hevent
    exact hevent.1.symm
  refine Thread.owned_atomic fun x own j hkept hown => ?_
  unfold enqueueStop
  cases hfault : faults .stop with
  | some error => exact ⟨none, kept_release hkept, Thread.owned_done rfl⟩
  | none =>
    simp only [if_true]
    rcases onDeliveries_cases none (enqueueSlackDelivery (stopRequest request i) request.nowUnixSeconds createdAt)
        { x with attempts := x.attempts ++ [⟨stopRequest request i, x.store.deliveries, fresh⟩] } with
      ⟨error, h⟩ | ⟨inserted, s', _, hrun, h⟩
    · rw [h]
      refine ⟨none, fun hlone => ?_, Thread.owned_done rfl⟩
      have hold := (hkept fun a ha => hlone a (List.mem_append_left _ ha)).release (j := j)
      exact ⟨hold.start, hold.once, hold.claims, hold.stopped, hold.answered⟩
    · rw [h]
      refine ⟨some (.stopped i (stopRequest request i) fresh), fun hlone => ?_, completeStream_owned hevent⟩
      have hinv := hkept fun a ha => hlone a (List.mem_append_left _ ha)
      have hthis := hlone ⟨stopRequest request i, x.store.deliveries, fresh⟩ (by simp)
      obtain ⟨hnew, hlength, hcarries⟩ := hinv.attempted hthis stoppedMessage_stopRequest hrun
      have hhold := @StreamInv.hold _ _ _ j (some (.stopped i (stopRequest request i) fresh)) hnew
        (fun c hc => by cases hc; exact hinv.claims j (.found i) hown)
        (fun i' d' fresh' hc => by
          cases hc
          exact ⟨by rw [messageOf, ← hworkspace]; exact hlength, hcarries⟩)
      exact ⟨hhold.start, hhold.once, hhold.claims, hhold.stopped, hhold.answered⟩

theorem finish_owned : Thread.Owned (StreamsKept s₀) (fun _ p => p = none) none
    (finishProcessingStream faults createdAt request) := by
  refine Thread.owned_atomic fun x own j hkept hown => ?_
  unfold lookUpIndicator
  rcases onDeliveries_cases (faults .indicator)
      (Tx.read (slackProcessingIndicator request.workspaceId request.eventDedupeKey)) x with
    ⟨error, h⟩ | ⟨found, s', _, hrun, h⟩
  · rw [h]
    exact ⟨none, kept_release hkept, Thread.owned_done rfl⟩
  · cases hrun
    rw [h]
    cases hfound : slackProcessingIndicator request.workspaceId request.eventDedupeKey x.store.deliveries with
    | none => exact ⟨none, kept_release hkept, Thread.owned_done rfl⟩
    | some i =>
      have hmem := List.mem_of_find?_eq_some hfound
      have hevent : ofEvent request.workspaceId request.eventDedupeKey i = true := List.find?_some hfound
      by_cases hstarted : i.status = .started
      · simp only [if_pos hstarted]
        refine ⟨some (.found i), fun hlone => (hkept hlone).hold ?_ (by simp), stopStream_owned hevent⟩
        intro c hc
        cases hc
        exact (hkept hlone).start i hmem
      · simp only [if_neg hstarted]
        exact ⟨none, kept_release hkept, Thread.owned_done rfl⟩

theorem reply_owned {request : ReplyToEventRequest} :
    Thread.Owned (StreamsKept s₀) (fun _ p => p = none) none (replyToEvent faults createdAt request) := by
  refine Thread.owned_atomic fun x own j hkept hown => ⟨none, kept_release hkept, ?_⟩
  cases faults .source with
  | some error => exact Thread.owned_done rfl
  | none =>
    generalize slackSourceReferences request.workspaceId request.eventDedupeKey x.store = source
    dsimp only
    cases replyTarget source with
    | error error => exact Thread.owned_done rfl
    | ok target =>
      cases parseSendAs request.sendAs with
      | error error => exact Thread.owned_done rfl
      | ok sender =>
        refine Thread.owned_bind finish_owned fun result p hp => ?_
        subst hp
        cases result with
        | error error => exact Thread.owned_done rfl
        | ok outcome =>
          dsimp only
          split
          · exact Thread.owned_done rfl
          · refine owned_post rfl fun result => ?_
            cases result <;> exact Thread.owned_done rfl

theorem program_owned (call : StreamCall) :
    Thread.Owned (StreamsKept s₀) (fun _ p => p = none) none (streamProgram call) := by
  cases call with
  | finish faults createdAt request => exact Thread.owned_bind finish_owned fun _ _ hp => Thread.owned_done hp
  | reply faults createdAt request => exact Thread.owned_bind reply_owned fun _ _ hp => Thread.owned_done hp
  | send fault createdAt now delivery =>
    exact Thread.owned_bind (Q := fun _ p => p = none) (owned_post rfl fun _ => Thread.owned_done rfl)
      fun _ _ hp => Thread.owned_done hp

/-- どの交わり方でも、止める行を加える試みがどれもほかの呼び出しと重ならなければ、済みになった表示には止める行がちょうど
一つあり、空いた鍵の文面は待ち行列に残る。 -/
theorem stream_stopped_once (store : ChannelStore) (w : World StreamCall ReplyState Unit)
    (hreach : World.Reachable streamProgram (.new store) w) (hlone : ∀ a ∈ w.state.attempts, a.Lone) :
    StoppedOnce store.deliveries w.state ∧ AnswersQueued w.state := by
  obtain ⟨own, howns⟩ := owns_of_reachable program_owned (fun _ => StreamInv.new store) hreach
  have hinv := howns.inv hlone
  exact ⟨hinv.once, hinv.answered⟩

def startedIndicator : SlackProcessingIndicatorRow where
  workspaceId := "T1"
  eventDedupeKey := "e1"
  channelId := "C1"
  threadTs := some "1.0"
  messageTs := "2.0"
  status := .started

def startedStore : ChannelStore :=
  { ChannelStore.empty with
    deliveries := { DeliveryStore.empty with
      indicators := ⟨[startedIndicator], by decide +kernel, List.pairwise_singleton ..⟩ } }

def finishWith (requestDedupeKey : String) : StreamCall :=
  .finish (fun _ => none) 0 ⟨"slack", "T1", "e1", requestDedupeKey, "done", .bot, 100⟩

def completedIndicator : SlackProcessingIndicatorRow := { startedIndicator with status := .completed }

def outcomeOf (w : World StreamCall ReplyState Unit) : List SlackProcessingIndicatorRow × Nat :=
  (w.state.store.deliveries.indicators.rows,
    (stopRows (messageOf startedIndicator) w.state.store.deliveries).length)

/-- 二つの呼び出しが、どちらも表示を済みにする前に読む。 -/
def racingSchedule : List (World.Choice StreamCall) :=
  [.spawn 0 (finishWith "a"), .spawn 1 (finishWith "b"), .run 0, .run 1, .run 0, .run 1, .run 0, .run 1]

/-- 表示が済みになる前に読んだ二つの呼び出しは、それぞれに止める行を加える。 -/
theorem racing_finishers_stop_twice :
    ¬ ∀ (store : ChannelStore) (w : World StreamCall ReplyState Unit),
      World.Reachable streamProgram (.new store) w → StoppedOnce store.deliveries w.state ∧ AnswersQueued w.state := by
  intro hclaim
  have hrun : ((World.schedule streamProgram (World.idle (.new startedStore)) racingSchedule).map outcomeOf) =
      some ([completedIndicator], 2) := by decide +kernel
  obtain ⟨w, hrun, hresult⟩ := Option.map_eq_some_iff.mp hrun
  obtain ⟨hindicators, hlength⟩ := Prod.mk.inj hresult
  have honce := (hclaim startedStore w (World.steps_of_schedule hrun)).1 completedIndicator
    (hindicators ▸ List.mem_singleton.mpr rfl) rfl startedIndicator (List.mem_singleton.mpr rfl) ⟨rfl, rfl⟩ rfl
  have htwo : (stopRows (messageOf completedIndicator) w.state.store.deliveries).length = 2 := hlength
  omega

/-- 表示を止めた呼び出しの後で、別の鍵の呼び出しが同じ表示を止めようとする。 -/
theorem successive_finishers_stop_once : ∃ w : World StreamCall ReplyState Unit,
    w.state.store.deliveries.indicators.rows = [completedIndicator] ∧
      StoppedOnce startedStore.deliveries w.state ∧ AnswersQueued w.state := by
  have hrun : ((World.schedule streamProgram (World.idle (.new startedStore))
      [.spawn 0 (finishWith "a"), .run 0, .run 0, .run 0, .spawn 1 (finishWith "b"), .run 1]).map fun w =>
        (w.state.store.deliveries.indicators.rows, w.state.attempts.map fun a =>
          ((rowOf a.delivery.key a.store).isNone && a.store.queue.rows.isEmpty))) =
      some ([completedIndicator], [true]) := by decide +kernel
  obtain ⟨w, hrun, hresult⟩ := Option.map_eq_some_iff.mp hrun
  obtain ⟨hindicators, hattempts⟩ := Prod.mk.inj hresult
  refine ⟨w, hindicators, stream_stopped_once startedStore w (World.steps_of_schedule hrun) ?_⟩
  intro a ha _ m _
  have hfree : ((rowOf a.delivery.key a.store).isNone && a.store.queue.rows.isEmpty) = true := by
    have hmem := List.mem_map_of_mem (f := fun a : StopAttempt =>
      ((rowOf a.delivery.key a.store).isNone && a.store.queue.rows.isEmpty)) ha
    rw [hattempts] at hmem
    exact List.mem_singleton.mp hmem
  simp only [Bool.and_eq_true, Option.isNone_iff_eq_none, List.isEmpty_iff] at hfree
  exact .inl ⟨hfree.1, by rw [stopRows, hfree.2, List.filter_nil]⟩

end Codeoff.Channel.ProcessingStream
