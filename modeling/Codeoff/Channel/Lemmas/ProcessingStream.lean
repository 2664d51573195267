import Codeoff.Channel.ReplyToEvent
import Codeoff.Control.Sequential
import Codeoff.Slack.Lemmas.DeliveryStore

/-!
# 処理中の表示を止める呼び出しの不変条件

止める行は、止めるメッセージ（`StreamMessage`）ごとに数える。
-/

namespace Codeoff.Channel

open Codeoff.Control Codeoff.Relational Codeoff.Slack

structure StreamMessage where
  workspaceId : String
  channelId : String
  messageTs : String
deriving DecidableEq, Repr

def messageOf (i : SlackProcessingIndicatorRow) : StreamMessage := ⟨i.workspaceId, i.channelId, i.messageTs⟩

def stoppedMessage (d : SlackDeliveryRequest) : Option StreamMessage :=
  match d.operation with
  | .postMessage => none
  | .stopStream messageTs => some ⟨d.workspaceId, d.channelId, messageTs⟩

def stopRows (m : StreamMessage) (s : DeliveryStore) : List SlackDeliveryRow :=
  s.queue.rows.filter fun r => stoppedMessage r.request == some m

def SameEvent (a b : SlackProcessingIndicatorRow) : Prop :=
  a.workspaceId = b.workspaceId ∧ a.eventDedupeKey = b.eventDedupeKey

def Accepted (d : SlackDeliveryRequest) : Prop :=
  ∀ row : SlackDeliveryRow, row.request = d → 0 ≤ row.attemptCount → row.Check

/-- 止める行がまだなく、鍵も空いている。あるいは、ただ一つの止める行がすでにその鍵を使っていて、初めに鍵が空いていた呼び出しの
文面を持つ。 -/
def StopAttempt.Lone (a : StopAttempt) : Prop :=
  Accepted a.delivery → ∀ m, stoppedMessage a.delivery = some m →
    (rowOf a.delivery.key a.store = none ∧ stopRows m a.store = []) ∨
      ∃ row, rowOf a.delivery.key a.store = some row ∧ stopRows m a.store = [row] ∧
        (a.fresh = true → row.request.text = a.delivery.text)

variable {s s' : DeliveryStore} {request : ProcessingStreamFinishRequest} {i : SlackProcessingIndicatorRow}
  {d : SlackDeliveryRequest} {m : StreamMessage} {now : Nat} {createdAt : Int}

theorem accepted_of_check {T : Table slackDeliveryQueue} (h : (enqueuedRow d now createdAt T).Check) : Accepted d := by
  rintro row rfl hattempts
  exact ⟨h.1, h.2.1, h.2.2.1, hattempts⟩

theorem stoppedMessage_stopRequest : stoppedMessage (stopRequest request i) =
    some ⟨request.workspaceId, i.channelId, i.messageTs⟩ := rfl

theorem stopRows_append {T : Table slackDeliveryQueue}
    (h : s'.queue.rows = s.queue.rows ++ [enqueuedRow d now createdAt T]) :
    stopRows m s' = stopRows m s ++ if stoppedMessage d = some m then [enqueuedRow d now createdAt T] else [] := by
  rw [stopRows, h, List.filter_append, stopRows]
  congr 1
  by_cases hm : stoppedMessage d = some m <;> simp [enqueuedRow, hm]

theorem onDeliveries_cases {α : Type} (fault : Option SlackStoreError) (tx : DeliveryTx α) (x : ReplyState) :
    (∃ error, onDeliveries fault tx x = (.error error, x)) ∨
      ∃ a s', fault = none ∧ tx x.store.deliveries = .ok (a, s') ∧
        onDeliveries fault tx x = (.ok a, { x with store := { x.store with deliveries := s' } }) := by
  cases fault with
  | some error => exact .inl ⟨error, rfl⟩
  | none =>
    cases hrun : tx x.store.deliveries with
    | error error => exact .inl ⟨error, by simp only [onDeliveries, commit_eq_error.mpr ⟨hrun, rfl⟩]⟩
    | ok result =>
      exact .inr ⟨result.1, result.2, rfl, rfl, by simp only [onDeliveries, commit_eq_ok.mpr hrun]⟩

theorem completeSlackProcessingIndicator_ok {workspaceId eventDedupeKey : String}
    (h : completeSlackProcessingIndicator workspaceId eventDedupeKey s = .ok ((), s')) :
    s'.queue = s.queue ∧ ∀ i ∈ s'.indicators.rows, (∃ o ∈ s.indicators.rows, ofEvent workspaceId eventDedupeKey o = true ∧
      i = { o with status := .completed }) ∨ i ∈ s.indicators.rows ∧ ofEvent workspaceId eventDedupeKey i = false := by
  obtain ⟨n, s₁, hrun, h⟩ := Tx.bind_ok.mp h
  cases h
  obtain ⟨T, hT, rfl⟩ := onTable_ok.mp hrun
  refine ⟨rfl, fun i hi => ?_⟩
  rcases (Table.update_ok.mp hT).1.mem.mp hi with ⟨o, ho, hevent, rfl⟩ | hold
  · exact .inl ⟨o, ho, hevent, rfl⟩
  · exact .inr hold

/-! ## 不変条件 -/

inductive StreamClaim where
  | found (i : SlackProcessingIndicatorRow)
  | stopped (i : SlackProcessingIndicatorRow) (delivery : SlackDeliveryRequest) (fresh : Bool)

def StreamClaim.indicator : StreamClaim → SlackProcessingIndicatorRow
  | .found i => i
  | .stopped i _ _ => i

def FromStart (s₀ : DeliveryStore) (i : SlackProcessingIndicatorRow) : Prop :=
  ∃ o ∈ s₀.indicators.rows, SameEvent o i ∧ messageOf o = messageOf i

def Carries (d : SlackDeliveryRequest) (s : DeliveryStore) : Prop :=
  ∃ row ∈ s.queue.rows, row.request.key = d.key ∧ row.request.text = d.text

structure StreamInv (s₀ : DeliveryStore) (s : ReplyState) (own : Ownership StreamClaim) : Prop where
  start : ∀ i ∈ s.store.deliveries.indicators.rows, FromStart s₀ i
  once : ∀ i ∈ s.store.deliveries.indicators.rows, i.status = .completed →
    ∀ o ∈ s₀.indicators.rows, SameEvent o i → o.status = .started →
      (stopRows (messageOf i) s.store.deliveries).length = 1
  claims : ∀ j c, own j = some c → FromStart s₀ c.indicator
  stopped : ∀ j i d fresh, own j = some (.stopped i d fresh) →
    (stopRows (messageOf i) s.store.deliveries).length = 1 ∧ (fresh = true → Carries d s.store.deliveries)
  answered : ∀ c ∈ s.completions, c.fresh = true →
    ∃ row ∈ s.store.deliveries.queue.rows,
      row.request.key = (c.request.workspaceId, c.request.requestDedupeKey) ∧ row.request.text = c.request.text

def StreamsKept (s₀ : DeliveryStore) (s : ReplyState) (own : Ownership StreamClaim) : Prop :=
  (∀ a ∈ s.attempts, a.Lone) → StreamInv s₀ s own

section Invariant

variable {s₀ : DeliveryStore} {x x' : ReplyState} {own : Ownership StreamClaim} {j : Nat} {p' : Option StreamClaim}
  {fresh : Bool} {a b : SlackProcessingIndicatorRow}

theorem FromStart.messageOf_eq (ha : FromStart s₀ a) (hb : FromStart s₀ b) (hsame : SameEvent a b) :
    messageOf a = messageOf b := by
  obtain ⟨o, ho, hoa, hmessage⟩ := ha
  obtain ⟨o', ho', hob, hmessage'⟩ := hb
  have hconflict : slackProcessingIndicators.conflict o o' = true := by
    simp [slackProcessingIndicators, hoa.1, hoa.2, hob.1, hob.2, hsame.1, hsame.2]
  rw [← hmessage, ← hmessage', s₀.indicators.eq_of_conflict ho ho' hconflict]

theorem StreamInv.new (store : ChannelStore) : StreamInv store.deliveries (.new store) fun _ => none where
  start i hi := ⟨i, hi, ⟨rfl, rfl⟩, rfl⟩
  once i hi hcompleted o ho hsame hstarted := by
    have hconflict : slackProcessingIndicators.conflict o i = true := by
      simp [slackProcessingIndicators, hsame.1, hsame.2]
    rw [store.deliveries.indicators.eq_of_conflict ho hi hconflict, hcompleted] at hstarted
    cases hstarted
  claims := by simp
  stopped := by simp
  answered := by simp [ReplyState.new]

/-- 持つものの変化は、始めの表示と止めた行についてだけ確かめればよい。 -/
theorem StreamInv.hold (h : StreamInv s₀ x own) (hclaims : ∀ c, p' = some c → FromStart s₀ c.indicator)
    (hstopped : ∀ i d fresh, p' = some (.stopped i d fresh) →
      (stopRows (messageOf i) x.store.deliveries).length = 1 ∧ (fresh = true → Carries d x.store.deliveries)) :
    StreamInv s₀ x (Function.update own j p') where
  start := h.start
  once := h.once
  claims k c hk := by
    by_cases hkj : k = j
    · subst hkj
      rw [Function.update_self] at hk
      exact hclaims c hk
    · rw [Function.update_of_ne hkj] at hk
      exact h.claims k c hk
  stopped k i d fresh hk := by
    by_cases hkj : k = j
    · subst hkj
      rw [Function.update_self] at hk
      exact hstopped i d fresh hk
    · rw [Function.update_of_ne hkj] at hk
      exact h.stopped k i d fresh hk
  answered := h.answered

theorem StreamInv.release (h : StreamInv s₀ x own) : StreamInv s₀ x (Function.update own j none) :=
  h.hold (by simp) (by simp)

theorem StreamInv.appended (h : StreamInv s₀ x own)
    (hindicators : x'.store.deliveries.indicators = x.store.deliveries.indicators)
    (hcompletions : x'.completions = x.completions)
    (hrows : ∀ row ∈ x.store.deliveries.queue.rows, row ∈ x'.store.deliveries.queue.rows)
    (hstops : ∀ m, (stopRows m x.store.deliveries).length = 1 → (stopRows m x'.store.deliveries).length = 1) :
    StreamInv s₀ x' own where
  start := hindicators ▸ h.start
  once := by
    rw [hindicators]
    exact fun i hi hcompleted o ho hsame hstarted => hstops _ (h.once i hi hcompleted o ho hsame hstarted)
  claims := h.claims
  stopped k i d fresh hk := by
    obtain ⟨hlength, hcarries⟩ := h.stopped k i d fresh hk
    refine ⟨hstops _ hlength, fun hfresh => ?_⟩
    obtain ⟨row, hrow, hsame⟩ := hcarries hfresh
    exact ⟨row, hrows row hrow, hsame⟩
  answered c hc hfresh := by
    obtain ⟨row, hrow, hsame⟩ := h.answered c (hcompletions ▸ hc) hfresh
    exact ⟨row, hrows row hrow, hsame⟩

theorem mem_append_of {T : Table slackDeliveryQueue}
    (h : s'.queue.rows = s.queue.rows ++ [enqueuedRow d now createdAt T]) (row : SlackDeliveryRow)
    (hrow : row ∈ s.queue.rows) : row ∈ s'.queue.rows := by
  rw [h]
  exact List.mem_append_left _ hrow

theorem StreamInv.posted {inserted : Bool} (h : StreamInv s₀ x own) (hpost : d.operation = .postMessage)
    (hrun : enqueueSlackDelivery d now createdAt x.store.deliveries = .ok (inserted, s')) :
    StreamInv s₀ { x with store := { x.store with deliveries := s' } } own := by
  obtain ⟨_, ⟨_, rfl, _⟩ | ⟨_, _, hindicators, hrows⟩⟩ := enqueueSlackDelivery_cases hrun
  · exact h
  · refine h.appended hindicators rfl (mem_append_of hrows) fun m hlength => ?_
    have hother : stoppedMessage d ≠ some m := by simp [stoppedMessage, hpost]
    rw [stopRows_append hrows, if_neg hother, List.append_nil]
    exact hlength

/-- 止める行を加えた呼び出しは、その表示のただ一つの止める行を持つ。 -/
theorem StreamInv.attempted {inserted : Bool} (h : StreamInv s₀ x own)
    (hlone : (⟨d, x.store.deliveries, fresh⟩ : StopAttempt).Lone) (hm : stoppedMessage d = some m)
    (hrun : enqueueSlackDelivery d now createdAt x.store.deliveries = .ok (inserted, s')) :
    StreamInv s₀ { x with store := { x.store with deliveries := s' } } own ∧
      (stopRows m s').length = 1 ∧ (fresh = true → Carries d s') := by
  obtain ⟨hcheck, hcases⟩ := enqueueSlackDelivery_cases hrun
  rcases hlone (accepted_of_check hcheck) m hm with ⟨hunused, hempty⟩ | ⟨row, hrow, hsole, htext⟩
  · -- 最初の止める行が加わる
    obtain ⟨_, _, hused⟩ | ⟨_, _, hindicators, hrows⟩ := hcases
    · simp [hunused] at hused
    have hnew : enqueuedRow d now createdAt x.store.deliveries.queue ∈ s'.queue.rows := by simp [hrows]
    refine ⟨h.appended hindicators rfl (mem_append_of hrows) fun other hlength => ?_, ?_, fun _ => ?_⟩
    · have hother : m ≠ other := by
        rintro rfl
        simp [hempty] at hlength
      rw [stopRows_append hrows, hm, if_neg (by simpa using hother), List.append_nil]
      exact hlength
    · rw [stopRows_append hrows, hempty, if_pos hm]
      rfl
    · exact ⟨_, hnew, rfl, rfl⟩
  · -- その鍵の行が、ただ一つの止める行である
    obtain ⟨_, rfl, _⟩ | ⟨_, hunused, _⟩ := hcases
    · obtain ⟨hmem, hkey⟩ := mem_of_rowOf hrow
      exact ⟨h, by rw [hsole]; rfl, fun hfresh => ⟨row, hmem, hkey, htext hfresh⟩⟩
    · simp [hrow] at hunused

/-- 表示を済みにするのは、止める行を加えた後である。 -/
theorem StreamInv.completed (h : StreamInv s₀ x own) {i : SlackProcessingIndicatorRow}
    (hown : own j = some (.stopped i (stopRequest request i) fresh))
    (hevent : ofEvent request.workspaceId request.eventDedupeKey i = true)
    (hrun : completeSlackProcessingIndicator request.workspaceId request.eventDedupeKey x.store.deliveries =
      .ok ((), s')) :
    StreamInv s₀ { x with
      store := { x.store with deliveries := s' }
      completions := x.completions ++ [⟨request, fresh⟩] } own := by
  obtain ⟨hqueue, hindicators⟩ := completeSlackProcessingIndicator_ok hrun
  obtain ⟨hlength, hcarries⟩ := h.stopped j _ _ _ hown
  have hstops (m : StreamMessage) : stopRows m s' = stopRows m x.store.deliveries := by
    rw [stopRows, hqueue, stopRows]
  have hcarried {d : SlackDeliveryRequest} (hd : Carries d x.store.deliveries) : Carries d s' := by
    rw [Carries, hqueue]
    exact hd
  constructor
  · intro k hk
    rcases hindicators k hk with ⟨o, ho, _, rfl⟩ | ⟨hold, _⟩
    · exact h.start o ho
    · exact h.start k hold
  · intro k hk hcompleted o ho hsame hstarted
    rw [hstops]
    rcases hindicators k hk with ⟨old, hold, hthis, rfl⟩ | ⟨hold, _⟩
    · -- この出来事の表示のメッセージには、止める行が一つある
      simp only [ofEvent, Bool.and_eq_true, beq_iff_eq] at hevent hthis
      have hmessage : messageOf old = messageOf i := (h.start old hold).messageOf_eq (h.claims j _ hown)
        ⟨hthis.1.trans hevent.1.symm, hthis.2.trans hevent.2.symm⟩
      exact hmessage ▸ hlength
    · exact h.once k hold hcompleted o ho hsame hstarted
  · exact h.claims
  · intro k i d fresh hk
    obtain ⟨hlength, hcarries⟩ := h.stopped k i d fresh hk
    exact ⟨by rw [hstops]; exact hlength, fun hfresh => hcarried (hcarries hfresh)⟩
  · intro c hc hfresh
    rcases List.mem_append.mp hc with hc | hc
    · simpa only [hqueue] using h.answered c hc hfresh
    · rw [List.mem_singleton.mp hc] at hfresh ⊢
      obtain ⟨row, hrow, hkey, htext⟩ := hcarried (hcarries hfresh)
      exact ⟨row, hrow, hkey, htext⟩

end Invariant

end Codeoff.Channel
