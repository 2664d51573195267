import Codeoff.Slack.Delivery
import Codeoff.Slack.Lemmas.DeliveryStore

/-!
# 順に行う送信の台帳

これまでの書き込みについて、行と控えと送信間隔に残っていること（`Ledger`）。
-/

namespace Codeoff.Slack

open Codeoff.Control Codeoff.Relational
open SlackDeliveryQueue

variable {ρ α : Type}

theorem transact_cases (fault : Option SlackStoreError) (tx : DeliveryTx α) (q : SlackDeliveryQueue) :
    (∃ error, transact fault tx q = (.error error, q)) ∨
      ∃ a s', tx q.store = .ok (a, s') ∧ transact fault tx q = (.ok a, { q with store := s' }) := by
  cases fault with
  | some error => exact .inl ⟨error, rfl⟩
  | none =>
    cases htx : tx q.store with
    | error error =>
      refine .inl ⟨error, ?_⟩
      simp only [transact, commit, htx]
    | ok result =>
      refine .inr ⟨result.1, result.2, rfl, ?_⟩
      simp only [transact, commit, htx]

theorem ensures_transact {fault : Option SlackStoreError} {tx : DeliveryTx α}
    {next : Except SlackStoreError α → SlackThread ρ} {P : SlackDeliveryQueue → Prop}
    {M : α → SlackDeliveryQueue → Prop} {Q : ρ → SlackDeliveryQueue → Prop}
    (hop : ∀ q, P q → ∀ a s', tx q.store = .ok (a, s') → M a { q with store := s' })
    (hok : ∀ a, Thread.Ensures (M a) (next (.ok a)) Q)
    (herror : ∀ error, Thread.Ensures P (next (.error error)) Q) :
    Thread.Ensures P (.atomic (transact fault tx) next) Q := by
  refine Thread.ensures_atomic (M := fun result q => match result with
    | .ok a => M a q
    | .error _ => P q) ?_ ?_
  · intro q hq
    rcases transact_cases fault tx q with ⟨error, h⟩ | ⟨a, s', htx, h⟩
    · rw [h]
      exact hq
    · rw [h]
      exact hop q hq a s' htx
  · intro result
    cases result with
    | ok a => exact hok a
    | error error => exact herror error

theorem ensures_perform {op : SlackDeliveryQueue → SlackDeliveryQueue} {next : SlackThread ρ}
    {P M : SlackDeliveryQueue → Prop} {Q : ρ → SlackDeliveryQueue → Prop} (hop : ∀ q, P q → M (op q))
    (hnext : Thread.Ensures M next Q) : Thread.Ensures P (perform op next) Q :=
  Thread.ensures_atomic (M := fun _ => M) hop fun _ => hnext

/-! ## 台帳 -/

def Covered (channel : String × String) (nextAvailableAt : Nat) (q : SlackDeliveryQueue) : Prop :=
  (∃ v, q.inMemoryChannelThrottles channel = some v ∧ nextAvailableAt ≤ v) ∨
    toI64 nextAvailableAt ≤ throttleOf channel q.store

/-- これまでの書き込み `ws` について残っていること。行は消えず、待っている行は Retry-After の後でしか送れない。 -/
structure Ledger (interval : Nat) (ws : List SlackWrite) (q : SlackDeliveryQueue) : Prop where
  writes : q.writes = ws
  kept : ∀ w ∈ ws, (rowOf w.request.key q.store).isSome
  held : ∀ w ∈ ws, ∀ r, w.answer = .rateLimited (some r) → ∀ row, rowOf w.request.key q.store = some row →
    row.status = .pending → toI64 (saturatingAdd w.time r) ≤ row.availableAt
  spaced : ∀ w ∈ ws, ∀ posted, w.answer = .posted posted →
    Covered (receiptOf w.request posted).channel (saturatingAdd w.time interval) q

/-- 時刻 `t` は、行 `key` の Retry-After の後にある。 -/
def Due (t : Nat) (ws : List SlackWrite) (key : DeliveryKey) : Prop :=
  ∀ w ∈ ws, w.request.key = key → ∀ r, w.answer = .rateLimited (some r) →
    toI64 (saturatingAdd w.time r) ≤ toI64 t

theorem Due.mono {t t' : Nat} {ws : List SlackWrite} {key : DeliveryKey} (h : Due t ws key)
    (hle : toI64 t ≤ toI64 t') : Due t' ws key :=
  fun w hw hkey r hanswer => Int.le_trans (h w hw hkey r hanswer) hle

variable {interval : Nat} {ws : List SlackWrite} {q : SlackDeliveryQueue} {s' : DeliveryStore} {c : SlackCall}
  {d : SlackDeliveryRequest}

theorem Covered.of_throttle {channel : String × String} {next : Nat} (h : Covered channel next q)
    (hgrows : throttleOf channel q.store ≤ throttleOf channel s') : Covered channel next { q with store := s' } :=
  h.imp id fun h => Int.le_trans h hgrows

theorem Ledger.new (interval : Nat) (store : DeliveryStore) : Ledger interval [] (.new store) where
  writes := rfl
  kept := by simp
  held := by simp
  spaced := by simp

theorem Ledger.store (h : Ledger interval ws q) (hkept : ∀ k, (rowOf k q.store).isSome → (rowOf k s').isSome)
    (hheld : ∀ w ∈ ws, ∀ r, w.answer = .rateLimited (some r) → ∀ row, rowOf w.request.key s' = some row →
      row.status = .pending → toI64 (saturatingAdd w.time r) ≤ row.availableAt)
    (hgrows : ∀ channel, throttleOf channel q.store ≤ throttleOf channel s') :
    Ledger interval ws { q with store := s' } where
  writes := h.writes
  kept w hw := hkept _ (h.kept w hw)
  held := hheld
  spaced w hw posted hposted := (h.spaced w hw posted hposted).of_throttle (hgrows _)

theorem Ledger.memory {q' : SlackDeliveryQueue} (h : Ledger interval ws q) (hwrites : q'.writes = q.writes)
    (hstore : q'.store = q.store) (hspaced : ∀ channel next, Covered channel next q → Covered channel next q') :
    Ledger interval ws q' where
  writes := hwrites.trans h.writes
  kept := by simpa only [hstore] using h.kept
  held := by simpa only [hstore] using h.held
  spaced w hw posted hposted := hspaced _ _ (h.spaced w hw posted hposted)

theorem Ledger.enqueued {request : SlackDeliveryRequest} {now : Nat} {createdAt : Int} (h : Ledger interval ws q)
    (heffect : Enqueued request now createdAt q.store s') : Ledger interval ws { q with store := s' } := by
  refine h.store ?_ ?_ fun channel => ?_
  · intro k hk
    obtain ⟨row, hrow⟩ := Option.isSome_iff_exists.mp hk
    rw [heffect.kept k row hrow]
    rfl
  · intro w hw r hanswer row hrow
    obtain ⟨old, hold⟩ := Option.isSome_iff_exists.mp (h.kept w hw)
    rw [heffect.kept _ old hold] at hrow
    cases hrow
    exact h.held w hw r hanswer row hold
  · rw [throttleOf, throttleOf, heffect.throttles]

theorem Ledger.rewritten {f : SlackDeliveryRow → SlackDeliveryRow} (h : Ledger interval ws q)
    (hrows : ∀ k, rowOf k s' = (rowOf k q.store).map f)
    (hgrows : ∀ channel, throttleOf channel q.store ≤ throttleOf channel s')
    (hf : ∀ w ∈ ws, ∀ r, w.answer = .rateLimited (some r) → ∀ row, row.request.key = w.request.key →
      (row.status = .pending → toI64 (saturatingAdd w.time r) ≤ row.availableAt) → (f row).status = .pending →
      toI64 (saturatingAdd w.time r) ≤ (f row).availableAt) : Ledger interval ws { q with store := s' } := by
  refine h.store ?_ ?_ hgrows
  · intro k hk
    rw [hrows, Option.isSome_map]
    exact hk
  · intro w hw r hanswer row hrow
    rw [hrows] at hrow
    obtain ⟨old, hold, rfl⟩ := Option.map_eq_some_iff.mp hrow
    exact hf w hw r hanswer old (mem_of_rowOf hold).2 (h.held w hw r hanswer old hold)

theorem QueueRewrite.throttleOf_eq {f : SlackDeliveryRow → SlackDeliveryRow} {s s' : DeliveryStore}
    (h : QueueRewrite f s s') (channel : String × String) : throttleOf channel s' = throttleOf channel s := by
  rw [throttleOf, throttleOf, h.throttles]

theorem Ledger.claimed {now : Nat} (h : Ledger interval ws q) (hclaims : Claims d now q.store s') :
    Ledger interval ws { q with store := s' } := by
  refine h.rewritten hclaims.effect.rows (fun channel => (hclaims.effect.throttleOf_eq channel).ge) ?_
  intro w hw r hanswer row _ hold hpending
  by_cases hmatch : (row.request.key == d.key && row.status == .pending) = true
  · rw [if_pos hmatch] at hpending
    cases hpending
  · rw [if_neg hmatch] at hpending ⊢
    exact hold hpending

theorem Ledger.retried {availableAt : Nat} {key : DeliveryKey} (h : Ledger interval ws q)
    (hdue : Due availableAt ws key) (hretry : retrySlackDelivery key availableAt q.store = .ok ((), s')) :
    Ledger interval ws { q with store := s' } := by
  obtain ⟨s₁, hrun, heffect⟩ := retrySlackDelivery_run key availableAt q.store
  rw [hrun] at hretry
  cases hretry
  refine h.rewritten heffect.rows (fun channel => (heffect.throttleOf_eq channel).ge) ?_
  intro w hw r hanswer row hkey hold hpending
  by_cases hmatch : (row.request.key == key) = true
  · rw [if_pos hmatch]
    exact hdue w hw (hkey ▸ eq_of_beq hmatch) r hanswer
  · rw [if_neg hmatch] at hpending ⊢
    exact hold hpending

theorem Ledger.completed {receipt : SlackDeliveryReceipt} {next : Nat} (h : Ledger interval ws q)
    (hcompleted : Completed receipt next q.store s') : Ledger interval ws { q with store := s' } := by
  refine h.rewritten hcompleted.rows hcompleted.grows ?_
  intro w hw r hanswer row _ hold hpending
  by_cases hmatch : (row.request.key == receipt.key) = true
  · rw [if_pos hmatch] at hpending
    cases hpending
  · rw [if_neg hmatch] at hpending ⊢
    exact hold hpending

theorem Ledger.setMap (h : Ledger interval ws q) (channel : String × String) (next : Nat) :
    Ledger interval ws (setInMemoryChannelThrottle channel next q) := by
  refine h.memory rfl rfl ?_
  intro other bound hcovered
  rcases hcovered with ⟨v, hv, hbound⟩ | hthrottle
  · refine .inl ?_
    by_cases hsame : other = channel
    · subst hsame
      exact ⟨max v next, by simp [setInMemoryChannelThrottle, hv], le_max_of_le_left hbound⟩
    · exact ⟨v, by simpa [setInMemoryChannelThrottle, hsame] using hv, hbound⟩
  · exact .inr hthrottle

theorem covered_setMap (channel : String × String) (next : Nat) (q : SlackDeliveryQueue) :
    Covered channel next (setInMemoryChannelThrottle channel next q) :=
  .inl ⟨_, by simp [setInMemoryChannelThrottle]; rfl, le_max_right _ _⟩

/-- 控えを消すのは、同じ間隔が表に残っているときだけである。 -/
theorem Ledger.clearMap {channel : String × String} {next : Nat} (h : Ledger interval ws q)
    (hpersisted : toI64 next ≤ throttleOf channel q.store) :
    Ledger interval ws (clearInMemoryChannelThrottle channel next q) := by
  unfold clearInMemoryChannelThrottle
  split
  · rename_i hany
    refine h.memory rfl rfl ?_
    intro other bound hcovered
    rcases hcovered with ⟨v, hv, hbound⟩ | hthrottle
    · by_cases hsame : other = channel
      · subst hsame
        rw [hv] at hany
        have hnext : v ≤ next := by simpa using hany
        exact .inr (Int.le_trans (toI64_mono (hbound.trans hnext)) hpersisted)
      · exact .inl ⟨v, by simpa [hsame] using hv, hbound⟩
    · exact .inr hthrottle
  · exact h

theorem Ledger.pending (h : Ledger interval ws q) (pending : List PendingSlackCompletion) :
    Ledger interval ws { q with pendingCompletions := pending } :=
  h.memory rfl rfl fun _ _ hcovered => hcovered

theorem Ledger.taken {now : Nat} (h : Ledger interval ws q) : Ledger interval ws (takeDuePending now q).2 := by
  unfold takeDuePending
  split
  · exact h
  · exact h.pending _

/-! ## 送る行を選ぶ -/

/-- 送る行を取った後の状態。`s₀` は呼び出しの初めの保存領域である。 -/
structure Taken (interval : Nat) (ws : List SlackWrite) (now : Nat) (s₀ : DeliveryStore) (d : SlackDeliveryRequest)
    (q : SlackDeliveryQueue) : Prop where
  ledger : Ledger interval ws q
  row : ∃ row, rowOf d.key q.store = some row ∧ row.status = .processing
  due : Due now ws d.key
  spaced : throttleOf d.channel s₀ ≤ toI64 now

/-- 呼び出しが、行 `d` のチャネルの控えを引くか。 -/
def consults (c : SlackCall) (d : SlackDeliveryRequest) : Bool :=
  match c.operation with
  | .enqueue _ _ => false
  | .deliver request _ => (requestToDelivery request).any (·.channel == d.channel)
  | .drainDueOnce => d.operation == .postMessage

def MemoryPassed (channel : String × String) (now : Nat) (q : SlackDeliveryQueue) : Prop :=
  ∀ v, q.inMemoryChannelThrottles channel = some v → v ≤ now

def Selected (interval : Nat) (ws : List SlackWrite) (c : SlackCall) (q₀ : SlackDeliveryQueue) :
    Selection → SlackDeliveryQueue → Prop
  | .finished _, q => Ledger interval ws q
  | .ready d, q => Taken interval ws c.now q₀.store d q ∧ (consults c d = true → MemoryPassed d.channel c.now q₀)

/-- 送る行を選ぶ途中の状態。控えと送信間隔は、呼び出しの初めと同じである。 -/
structure Choosing (interval : Nat) (ws : List SlackWrite) (q₀ q : SlackDeliveryQueue) : Prop where
  ledger : Ledger interval ws q
  memory : q.inMemoryChannelThrottles = q₀.inMemoryChannelThrottles
  throttles : q.store.throttles = q₀.store.throttles

variable {q₀ : SlackDeliveryQueue}

theorem memoryPassed_of_none {channel : String × String} {now : Nat}
    (h : inMemoryChannelAvailableAt channel now q = none) : MemoryPassed channel now q := by
  intro v hv
  simpa [inMemoryChannelAvailableAt, hv] using h

theorem Choosing.taken (h : Choosing interval ws q₀ q) (hclaims : Claims d c.now q.store s') :
    Taken interval ws c.now q₀.store d { q with store := s' } := by
  obtain ⟨row, hrow, rfl, hpending, hready⟩ := hclaims.row
  refine ⟨h.ledger.claimed hclaims, ?_, ?_, ?_⟩
  · rw [hclaims.effect.rows, hrow]
    exact ⟨_, rfl, by simp [hpending, processing]⟩
  · intro w hw hkey r hanswer
    have hheld := h.ledger.held w hw r hanswer row (hkey ▸ hrow) hpending
    exact Int.le_trans hheld (Int.le_trans (Int.le_max_left ..) hready)
  · rw [throttleOf, ← h.throttles]
    exact Int.le_trans (Int.le_max_right ..) hready

theorem selectEnqueue_ensures (request : SlackDeliveryRequest) (createdAt : Int) :
    Thread.Ensures (Choosing interval ws q₀) (selectEnqueue c request createdAt) (Selected interval ws c q₀) := by
  refine ensures_transact (M := fun _ => Ledger interval ws) ?_ ?_ ?_
  · intro q hq inserted s' hrun
    exact hq.ledger.enqueued (enqueueSlackDelivery_ok hrun)
  · intro inserted
    exact Thread.ensures_done fun _ hq => hq
  · intro error
    exact Thread.ensures_done fun _ hq => hq.ledger

theorem selectDeliver_ensures {request : ChannelMessageRequest} {createdAt : Int} {queued : SlackDeliveryRequest}
    (hop : c.operation = .deliver request createdAt) (hqueued : requestToDelivery request = some queued) :
    Thread.Ensures (Choosing interval ws q₀) (selectDeliver c queued createdAt) (Selected interval ws c q₀) := by
  refine ensures_transact (M := fun _ => Choosing interval ws q₀) ?_ ?_ ?_
  · intro q hq inserted s' hrun
    have heffect := enqueueSlackDelivery_ok hrun
    exact ⟨hq.ledger.enqueued heffect, hq.memory, heffect.throttles.trans hq.throttles⟩
  · intro inserted
    refine Thread.ensures_atomic (M := fun found q => Choosing interval ws q₀ q ∧
      (found = none → MemoryPassed queued.channel c.now q₀)) ?_ ?_
    · intro q hq
      refine ⟨hq, fun hnone => ?_⟩
      have hpassed := memoryPassed_of_none hnone
      rwa [MemoryPassed, hq.memory] at hpassed
    · intro found
      cases found with
      | some availableAt => exact Thread.ensures_done fun _ hq => hq.1.ledger
      | none =>
        refine ensures_transact (M := fun claim q => match claim with
          | .ready d => Selected interval ws c q₀ (.ready d) q
          | _ => Ledger interval ws q) ?_ ?_ ?_
        · intro q hq claim s' hrun
          rcases claimSlackDelivery_ok hrun with ⟨d, rfl, _, _, hclaims⟩ | ⟨hother, rfl⟩
          · refine ⟨hq.1.taken hclaims, fun hconsults => ?_⟩
            have hsame : queued.channel = d.channel := by simpa [consults, hop, hqueued] using hconsults
            exact hsame ▸ hq.2 rfl
          · cases claim with
            | ready d => exact absurd rfl (hother d)
            | delivered receipt => exact hq.1.ledger
            | deferred availableAt => exact hq.1.ledger
        · intro claim
          cases claim with
          | ready d => exact Thread.ensures_done fun _ hq => hq
          | delivered receipt => exact Thread.ensures_done fun _ hq => hq
          | deferred availableAt => exact Thread.ensures_done fun _ hq => hq
        · intro error
          exact Thread.ensures_done fun _ hq => hq.1.ledger
  · intro error
    exact Thread.ensures_done fun _ hq => hq.ledger

/-- 行を取る文の後。 -/
def Drawn (interval : Nat) (ws : List SlackWrite) (c : SlackCall) (q₀ : SlackDeliveryQueue)
    (claimed : Option SlackDeliveryRequest) (q : SlackDeliveryQueue) : Prop :=
  match claimed with
  | none => Ledger interval ws q
  | some d => Taken interval ws c.now q₀.store d q ∧ q.inMemoryChannelThrottles = q₀.inMemoryChannelThrottles

/-- 覚えている待ちを見た後。 -/
def Waits (c : SlackCall) (q₀ : SlackDeliveryQueue) (d : SlackDeliveryRequest) (found : Option Nat) : Prop :=
  match found with
  | none => MemoryPassed d.channel c.now q₀
  | some availableAt => c.now < availableAt

theorem selectNextDue_ensures (hop : c.operation = .drainDueOnce) :
    Thread.Ensures (Choosing interval ws q₀) (selectNextDue c) (Selected interval ws c q₀) := by
  refine ensures_transact (M := Drawn interval ws c q₀) ?_ ?_ ?_
  · intro q hq claimed s' hrun
    rcases claimNextDue_ok hrun with ⟨d, rfl, hclaims⟩ | ⟨rfl, rfl⟩
    · exact ⟨hq.taken hclaims, hq.memory⟩
    · exact hq.ledger
  · intro claimed
    cases claimed with
    | none => exact Thread.ensures_done fun _ hq => hq
    | some d =>
      by_cases hpost : d.operation = .postMessage
      · simp only [if_pos hpost]
        refine Thread.ensures_atomic (M := fun found q => Taken interval ws c.now q₀.store d q ∧
          Waits c q₀ d found) ?_ ?_
        · intro q hq
          refine ⟨hq.1, ?_⟩
          cases hfound : inMemoryChannelAvailableAt d.channel c.now q with
          | none =>
            have hpassed := memoryPassed_of_none hfound
            rwa [MemoryPassed, hq.2] at hpassed
          | some availableAt => simpa [Waits] using (Option.filter_eq_some_iff.mp hfound).2
        · intro found
          cases found with
          | none => exact Thread.ensures_done fun _ hq => ⟨hq.1, fun _ => hq.2⟩
          | some availableAt =>
            refine ensures_transact (M := fun _ => Ledger interval ws) ?_ ?_ ?_
            · intro q hq _ s' hrun
              exact hq.1.ledger.retried (hq.1.due.mono (toI64_mono hq.2.le)) hrun
            · intro _
              exact Thread.ensures_done fun _ hq => hq
            · intro error
              exact Thread.ensures_done fun _ hq => hq.1.ledger
      · simp only [if_neg hpost]
        refine Thread.ensures_done fun q hq => ⟨hq.1, fun hconsults => ?_⟩
        exact absurd (by simpa [consults, hop] using hconsults) hpost
  · intro error
    exact Thread.ensures_done fun _ hq => hq.ledger

/-- 行を選ぶまでは、書き込みも間隔の記録も減らない。 -/
theorem selectDrain_ensures (hop : c.operation = .drainDueOnce) :
    Thread.Ensures (Choosing interval ws q₀) (selectDrain c) (Selected interval ws c q₀) := by
  have hpush (pending : PendingSlackCompletion) (q : SlackDeliveryQueue) (hq : Choosing interval ws q₀ q) :
      Choosing interval ws q₀ (pushPending pending q) := ⟨hq.ledger.pending _, hq.memory, hq.throttles⟩
  refine Thread.ensures_atomic (M := fun _ => Choosing interval ws q₀) ?_ ?_
  · intro q hq
    refine ⟨hq.ledger.taken, ?_, ?_⟩
    · rw [← hq.memory, takeDuePending]
      split <;> rfl
    · rw [← hq.throttles, takeDuePending]
      split <;> rfl
  · intro found
    cases found with
    | none => exact selectNextDue_ensures hop
    | some completion =>
      refine ensures_transact (M := fun _ q => Ledger interval ws q ∧
        toI64 completion.nextAvailableAt ≤ throttleOf completion.receipt.channel q.store) ?_ ?_ ?_
      · intro q hq _ s' hrun
        have hcompleted := completeSlackDelivery_ok hrun
        exact ⟨hq.ledger.completed hcompleted, hcompleted.throttle⟩
      · intro _
        exact ensures_perform (fun q hq => hq.1.clearMap hq.2) (Thread.ensures_done fun _ hq => hq)
      · intro error
        by_cases hcontention : error.isTransientStorageContention = true
        · simp only [if_pos hcontention]
          exact ensures_perform (hpush _) (selectNextDue_ensures hop)
        · simp only [if_neg hcontention]
          exact Thread.ensures_done fun _ hq => hq.ledger

theorem select_ensures : Thread.Ensures (Choosing interval ws q₀) (select c) (Selected interval ws c q₀) := by
  unfold select
  cases hop : c.operation with
  | enqueue request createdAt => exact selectEnqueue_ensures request createdAt
  | deliver request createdAt =>
    cases hqueued : requestToDelivery request with
    | none =>
      simp only [hqueued]
      exact Thread.ensures_done fun _ hq => hq.ledger
    | some queued =>
      simp only [hqueued]
      exact selectDeliver_ensures hop hqueued
  | drainDueOnce => exact selectDrain_ensures hop

theorem retryLater_ensures {availableAt : Nat} :
    Thread.Ensures (fun q => Ledger interval ws q ∧ Due availableAt ws d.key) (retryLater c d availableAt)
      fun _ => Ledger interval ws := by
  refine ensures_transact (M := fun _ => Ledger interval ws) ?_ ?_ ?_
  · intro q hq _ s' hrun
    exact hq.1.retried hq.2 hrun
  · intro _
    exact Thread.ensures_done fun _ hq => hq
  · intro error
    exact Thread.ensures_done fun _ hq => hq.1

theorem recordCompletion_ensures (receipt : SlackDeliveryReceipt) (responseJson : String) (next : Nat) :
    Thread.Ensures (Ledger interval ws) (recordCompletion c receipt responseJson next) fun _ => Ledger interval ws := by
  refine ensures_transact (M := fun _ q => Ledger interval ws q ∧
    toI64 next ≤ throttleOf receipt.channel q.store) ?_ ?_ ?_
  · intro q hq _ s' hrun
    have hcompleted := completeSlackDelivery_ok hrun
    exact ⟨hq.completed hcompleted, hcompleted.throttle⟩
  · intro _
    exact ensures_perform (fun q hq => hq.1.clearMap hq.2) (Thread.ensures_done fun _ hq => hq)
  · intro error
    by_cases hcontention : error.isTransientStorageContention = true
    · simp only [if_pos hcontention]
      exact ensures_perform (fun q hq => hq.pending _) (Thread.ensures_done fun _ hq => hq)
    · simp only [if_neg hcontention]
      exact Thread.ensures_done fun _ hq => hq

/-- 書き込みの履歴が伸びても、成功の間隔は表か控えに残っている。 -/
theorem Ledger.append {w : SlackWrite} (h : Ledger interval ws q)
    (hrow : ∃ row, rowOf w.request.key q.store = some row ∧ row.status = .processing)
    (hspaced : ∀ posted, w.answer = .posted posted →
      Covered (receiptOf w.request posted).channel (saturatingAdd w.time interval) q) :
    Ledger interval (ws ++ [w]) { q with writes := q.writes ++ [w] } := by
  obtain ⟨sent, hsent, hstatus⟩ := hrow
  constructor
  · rw [h.writes]
  · simp only [List.forall_mem_append, List.forall_mem_singleton]
    exact ⟨h.kept, by simp [hsent]⟩
  · simp only [List.forall_mem_append, List.forall_mem_singleton]
    refine ⟨h.held, fun r _ row hrow hpending => ?_⟩
    rw [hsent] at hrow
    cases hrow
    rw [hstatus] at hpending
    cases hpending
  · simp only [List.forall_mem_append, List.forall_mem_singleton]
    exact ⟨h.spaced, hspaced⟩

theorem Due.append {t : Nat} {w : SlackWrite} {key : DeliveryKey} (h : Due t ws key)
    (hw : ∀ r, w.answer = .rateLimited (some r) → toI64 (saturatingAdd w.time r) ≤ toI64 t) :
    Due t (ws ++ [w]) key := by
  simp only [Due, List.forall_mem_append, List.forall_mem_singleton]
  exact ⟨h, fun _ => hw⟩

theorem toI64_le_saturatingAdd (now x : Nat) : toI64 now ≤ toI64 (saturatingAdd now x) := by
  have hmax : i64Max < u64Max := by decide
  unfold toI64 saturatingAdd
  split <;> split <;> omega

/-- 呼び出しが行 `d` について Slack に加える書き込み。 -/
def written (c : SlackCall) (d : SlackDeliveryRequest) : Option SlackWrite :=
  if c.answer = .unsent then none else some ⟨d, c.now, c.answer⟩

/-- 選ばれた行は、高々一度書き込まれる。 -/
theorem sendAndRecord_ensures {s₀ : DeliveryStore} :
    Thread.Ensures (Taken interval ws c.now s₀ d) (sendAndRecord interval c d)
      fun _ => Ledger interval (ws ++ (written c d).toList) := by
  have hdue (x : Nat) {q : SlackDeliveryQueue} (hq : Taken interval ws c.now s₀ d q) :
      Due (saturatingAdd c.now x) ws d.key := hq.due.mono (toI64_le_saturatingAdd c.now x)
  unfold sendAndRecord
  cases hanswer : c.answer with
  | unsent =>
    rw [written, if_pos hanswer, Option.toList_none, List.append_nil]
    exact ensures_perform (fun q hq => ⟨hq.ledger, hdue 1 hq⟩) retryLater_ensures
  | failed =>
    rw [written, if_neg (by simp [hanswer]), hanswer]
    refine ensures_perform (fun q hq => ⟨hq.ledger.append hq.row ?_, (hdue 1 hq).append ?_⟩) retryLater_ensures
    · simp
    · simp
  | rateLimited retryAfterSeconds =>
    rw [written, if_neg (by simp [hanswer]), hanswer]
    refine ensures_perform (fun q hq => ⟨hq.ledger.append hq.row ?_, (hdue _ hq).append ?_⟩) retryLater_ensures
    · simp
    · intro r hr
      cases hr
      exact Int.le_refl _
  | posted posted =>
    rw [written, if_neg (by simp [hanswer]), hanswer]
    refine ensures_perform (M := fun q => Ledger interval (ws ++ [⟨d, c.now, .posted posted⟩])
      (setInMemoryChannelThrottle (receiptOf d posted).channel (saturatingAdd c.now interval) q)) ?_ ?_
    · intro q hq
      refine (hq.ledger.setMap _ _).append hq.row ?_
      intro answer hanswer
      cases hanswer
      exact covered_setMap _ _ _
    · exact ensures_perform (fun _ hq => hq) (recordCompletion_ensures _ _ _)

def emitted (c : SlackCall) (q : SlackDeliveryQueue) : Option SlackWrite := (nextSend c q).bind (written c)

theorem runCall_ledger (h : Ledger interval ws q) :
    Ledger interval (ws ++ (emitted c q).toList) (runCall interval q c) := by
  have hchoosing : Choosing interval ws q q := ⟨h, rfl, rfl⟩
  have hselected := select_ensures (c := c) q hchoosing
  unfold runCall emitted nextSend program
  rw [Thread.alone_bind]
  generalize hresult : (select c).alone q = result at hselected
  obtain ⟨selection, q₁⟩ := result
  cases selection with
  | finished result =>
    have hledger : Ledger interval ws q₁ := hselected
    simpa using hledger
  | ready d => exact sendAndRecord_ensures q₁ hselected.1

theorem nextSend_taken (h : Ledger interval ws q) (hsend : nextSend c q = some d) :
    Due c.now ws d.key ∧ throttleOf d.channel q.store ≤ toI64 c.now ∧
      (consults c d = true → MemoryPassed d.channel c.now q) := by
  have hchoosing : Choosing interval ws q q := ⟨h, rfl, rfl⟩
  have hselected := select_ensures (c := c) q hchoosing
  unfold nextSend at hsend
  generalize (select c).alone q = result at hselected hsend
  obtain ⟨selection, q₁⟩ := result
  cases selection with
  | finished result => cases hsend
  | ready delivery =>
    cases hsend
    exact ⟨hselected.1.due, hselected.1.spaced, hselected.2⟩

theorem mem_emitted {w : SlackWrite} :
    w ∈ emitted c q ↔ ∃ d, nextSend c q = some d ∧ c.answer ≠ .unsent ∧ w = ⟨d, c.now, c.answer⟩ := by
  unfold emitted written
  cases nextSend c q with
  | none => simp
  | some d =>
    by_cases hanswer : c.answer = .unsent
    · simp [hanswer]
    · simp [hanswer, eq_comm]

theorem Ledger.self (h : Ledger interval ws q) : Ledger interval q.writes q := by
  rw [h.writes]
  exact h

theorem runCalls_pairwise_iff {P : SlackWrite → SlackWrite → Prop} {C : SlackDeliveryQueue → SlackCall → Prop}
    (hstep : ∀ q c, Ledger interval q.writes q → ((∀ later ∈ emitted c q, ∀ w ∈ q.writes, P w later) ↔ C q c))
    (store : DeliveryStore) (calls : List SlackCall) :
    (runCalls interval (.new store) calls).writes.Pairwise P ↔
      StepsMeet (runCall interval) C (.new store) calls := by
  have hruns := pairwise_log_iff (f := runCall interval) (l := SlackDeliveryQueue.writes)
    (e := fun q c => emitted c q) (I := fun q => Ledger interval q.writes q) (P := P) (C := C)
    (fun q c h => (runCall_ledger h).writes) (fun q c h => (runCall_ledger h).self) hstep
    (s := .new store) (Ledger.new interval store).self calls
  simpa [runCalls, SlackDeliveryQueue.new] using hruns

end Codeoff.Slack
