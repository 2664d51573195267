import Codeoff.Slack.Theorems.Delivery

/-!
# 停止と送信

停止で捨てられた `drain_due_once` は、取った行を書き込みの前に手放さないかぎり、処理中のまま残す。
-/

namespace Codeoff.Slack.Shutdown

open Codeoff.Control Codeoff.Relational
open SlackDeliveryQueue

variable {interval now p n m : Nat} {answer : SlackAnswer} {faults : StorageCall → Option SlackStoreError}
  {q q' q₁ : SlackDeliveryQueue} {key : DeliveryKey} {c : SlackCall} {d : SlackDeliveryRequest}
  {row : SlackDeliveryRow} {s' : DeliveryStore} {ρ : Type}

def Waits (key : DeliveryKey) (q : SlackDeliveryQueue) : Prop :=
  ∃ row, rowOf key q.store = some row ∧ row.status = .pending

def Unstranded (q q' : SlackDeliveryQueue) : Prop :=
  ∀ key, Waits key q → (∀ w ∈ q'.writes.drop q.writes.length, w.request.key ≠ key) → Waits key q'

structure Kept (q q' : SlackDeliveryQueue) : Prop where
  writes : q'.writes = q.writes
  waits : ∀ key, Waits key q → Waits key q'

theorem Kept.same (hstore : q'.store = q.store) (hwrites : q'.writes = q.writes) : Kept q q' where
  writes := hwrites
  waits key h := by rwa [Waits, hstore]

theorem Kept.unstranded (h : Kept q q') : Unstranded q q' := fun key hwaits _ => h.waits key hwaits

theorem not_unstranded (hwaits : Waits key q) (hwrites : q'.writes = q.writes)
    (hrow : ∃ row, rowOf key q'.store = some row ∧ row.status = .processing) : ¬ Unstranded q q' := by
  intro h
  obtain ⟨row, hfound, hstatus⟩ := hrow
  obtain ⟨other, hother, hpending⟩ := h key hwaits (by simp [hwrites])
  rw [hfound] at hother
  cases hother
  rw [hstatus] at hpending
  cases hpending

/-- 鍵 `k` の行のほかは変わらず、書き込みは加わるだけである。 -/
structure Beside (k : DeliveryKey) (q q' : SlackDeliveryQueue) : Prop where
  rows : ∀ key, key ≠ k → rowOf key q'.store = rowOf key q.store
  writes : q.writes <+: q'.writes

theorem Beside.refl (q : SlackDeliveryQueue) : Beside key q q := ⟨fun _ _ => rfl, List.prefix_rfl⟩

theorem Beside.trans {q'' : SlackDeliveryQueue} (h : Beside key q q') (h' : Beside key q' q'') : Beside key q q'' where
  rows k hk := (h'.rows k hk).trans (h.rows k hk)
  writes := h.writes.trans h'.writes

/-- 取った行 `d` の書き込みが出ていれば、ほかの行は待ったままである。 -/
theorem unstranded_of_write {w : SlackWrite} (hkey : w.request.key = key) (hbeside : Beside key q q')
    (hwrite : q.writes ++ [w] <+: q'.writes) : Unstranded q q' := by
  intro k hwaits hnone
  have hmem : w ∈ q'.writes.drop q.writes.length := by
    obtain ⟨rest, hrest⟩ := hwrite
    rw [← hrest, List.append_assoc, List.drop_left]
    simp
  have hother : k ≠ key := fun hsame => hnone w hmem (hkey.trans hsame.symm)
  obtain ⟨row, hrow, hpending⟩ := hwaits
  exact ⟨row, (hbeside.rows k hother).trans hrow, hpending⟩

/-! ## 行を取る前 -/

section BeforeClaim

variable {f : Selection → SlackThread ρ}

theorem takeDuePending_of_none (h : q.pendingCompletions.any (·.nextAttemptAt ≤ now) = false) :
    takeDuePending now q = (none, q) := by
  have hnone : q.pendingCompletions.findIdx? (·.nextAttemptAt ≤ now) = none := by
    rw [List.findIdx?_eq_none_iff]
    exact fun e he => List.any_eq_false.mp h e he |> (by simpa using ·)
  rw [takeDuePending, hnone]

theorem takeDuePending_of_some (h : q.pendingCompletions.any (·.nextAttemptAt ≤ now) = true) :
    ∃ e ∈ q.pendingCompletions, ∃ pending, takeDuePending now q = (some e, { q with pendingCompletions := pending }) := by
  obtain ⟨e, he, hdue⟩ := List.any_eq_true.mp h
  cases hfind : q.pendingCompletions.findIdx? (·.nextAttemptAt ≤ now) with
  | none =>
    rw [List.findIdx?_eq_none_iff] at hfind
    simp [hfind e he] at hdue
  | some i =>
    obtain ⟨hlt, _⟩ := List.findIdx?_eq_some_iff_getElem.mp hfind
    refine ⟨q.pendingCompletions[i], List.getElem_mem hlt, q.pendingCompletions.eraseIdx i, ?_⟩
    rw [takeDuePending, hfind]
    simp [hlt]

theorem not_pending_of_entry (h : DeliveryInv True q fun _ => none) {e : PendingSlackCompletion}
    (he : e ∈ q.pendingCompletions) (hrow : rowOf e.receipt.key q.store = some row) : row.status ≠ .pending := by
  intro hpending
  obtain ⟨_, _, hentries⟩ := (h.keys e.receipt.key).of_pending hrow hpending
  exact List.countP_eq_zero.mp hentries e he (beq_self_eq_true _)

theorem kept_of_completed {receipt : SlackDeliveryReceipt} {next : Nat} (h : Completed receipt next q.store s')
    (hentry : ∀ row, rowOf receipt.key q.store = some row → row.status ≠ .pending) (hstore : q'.store = s')
    (hwrites : q'.writes = q.writes) : Kept q q' where
  writes := hwrites
  waits key hwaits := by
    obtain ⟨row, hrow, hpending⟩ := hwaits
    have hkey := (mem_of_rowOf hrow).2
    have hother : key ≠ receipt.key := fun hsame => hentry row (hsame ▸ hrow) hpending
    refine ⟨row, ?_, hpending⟩
    rw [hstore, h.rows, hrow]
    simp [hkey, hother]

/-- `p` 歩までのどこで捨てられても、待っていた行は待っている。 -/
def KeptUntil (q : SlackDeliveryQueue) (p : Nat) (t : SlackThread ρ) (x : SlackDeliveryQueue) : Prop :=
  ∀ n ≤ p, Kept q (t.cut n x)

theorem keptUntil_zero {t : SlackThread ρ} (h : Kept q q') : KeptUntil q 0 t q' := by
  intro n hn
  rw [Nat.le_zero.mp hn]
  exact h

theorem keptUntil_done {r : ρ} (h : Kept q q') : KeptUntil q p (.done r) q' := by
  intro n _
  rw [Thread.cut_done]
  exact h

theorem keptUntil_atomic {α : Type} {op : SlackDeliveryQueue → α × SlackDeliveryQueue}
    {next : α → SlackThread Selection} {f : Selection → SlackThread ρ} (h : Kept q q')
    (hnext : KeptUntil q p ((next (op q').1).bind f) (op q').2) :
    KeptUntil q (p + 1) ((Thread.atomic op next).bind f) q' := by
  intro n hn
  cases n with
  | zero => exact h
  | succ n =>
    rw [Thread.bind_atomic, Thread.cut_atomic]
    exact hnext n (by omega)

theorem not_transient_of_complete {fault : Option SlackStoreError} {receipt : SlackDeliveryReceipt}
    {responseJson : String} {next : Nat} {error : SlackStoreError} (hfault : fault ≠ some .contention)
    (h : (transact fault (completeSlackDelivery receipt responseJson next) q).1 = .error error) :
    error.isTransientStorageContention ≠ true := by
  intro htransient
  have hcontention : error = .contention := by
    cases error with
    | contention => rfl
    | storage => cases htransient
    | rowNotFound => cases htransient
    | rejected violation => cases htransient
  subst hcontention
  cases fault with
  | some fault =>
    cases h
    exact hfault rfl
  | none =>
    cases hrun : completeSlackDelivery receipt responseJson next q.store with
    | ok result => simp [transact, commit, hrun] at h
    | error e =>
      simp only [transact, commit, hrun, Except.error.injEq] at h
      exact completeSlackDelivery_avoids receipt responseJson next q.store e hrun h

theorem beforeClaim_cases (f : Selection → SlackThread ρ) (hf : ∀ result, ∃ r, f (.finished result) = .done r)
    (c : SlackCall) (h : DeliveryInv True q fun _ => none) :
    (stepsBeforeClaim c q = none ∧ ∀ p, KeptUntil q (p + 3) ((selectDrain c).bind f) q) ∨
      ∃ p q₁, stepsBeforeClaim c q = some p ∧ q₁.store = q.store ∧ q₁.writes = q.writes ∧
        q₁.inMemoryChannelThrottles = q.inMemoryChannelThrottles ∧ KeptUntil q p ((selectDrain c).bind f) q ∧
        ∀ n, ((selectDrain c).bind f).cut (n + p) q = ((selectNextDue c).bind f).cut n q₁ := by
  have hself : Kept q q := .same rfl rfl
  unfold selectDrain stepsBeforeClaim
  by_cases hany : q.pendingCompletions.any (·.nextAttemptAt ≤ c.now) = true
  · obtain ⟨e, he, pending, htake⟩ := takeDuePending_of_some hany
    have hentry := fun row => @not_pending_of_entry _ row h _ he
    have htaken : Kept q { q with pendingCompletions := pending } := .same rfl rfl
    rw [if_pos hany]
    rcases transact_cases (c.faults .completePending) (completeSlackDelivery e.receipt e.responseJson e.nextAvailableAt)
        { q with pendingCompletions := pending } with ⟨error, hrun⟩ | ⟨_, s', htx, hrun⟩
    · by_cases hcontention : c.faults .completePending = some .contention
      · -- 控えを戻して、行を取りに行く
        have herror : error = .contention := by
          rw [hcontention] at hrun
          exact (Except.error.inj (Prod.mk.inj hrun).1).symm
        subst herror
        rw [if_pos hcontention]
        refine .inr ⟨3, pushPending (backedOff e c.now) { q with pendingCompletions := pending }, rfl, rfl, rfl, rfl,
          ?_, fun n => ?_⟩
        · refine keptUntil_atomic hself ?_
          rw [htake]
          refine keptUntil_atomic htaken ?_
          rw [hrun]
          simp only [SlackStoreError.isTransientStorageContention, if_true]
          exact keptUntil_atomic htaken (keptUntil_zero (.same rfl rfl))
        · simp only [Thread.bind_atomic, Thread.cut_atomic, htake, hrun]
          rfl
      · -- 競合でない誤りで終わる
        have herror : error.isTransientStorageContention ≠ true :=
          not_transient_of_complete hcontention (congrArg Prod.fst hrun)
        rw [if_neg hcontention]
        refine .inl ⟨rfl, fun p => keptUntil_atomic hself ?_⟩
        rw [htake]
        refine keptUntil_atomic htaken ?_
        rw [hrun]
        simp only [if_neg herror, Thread.bind_done]
        obtain ⟨r, hr⟩ := hf (.state error)
        rw [hr]
        exact keptUntil_done htaken
    · -- 記録して終わる
      have hcompleted (memory) : Kept q { q with
          store := s'
          pendingCompletions := pending
          inMemoryChannelThrottles := memory } := kept_of_completed (completeSlackDelivery_ok htx) hentry rfl rfl
      have hfault : c.faults .completePending ≠ some .contention := by
        intro hfault
        rw [hfault] at hrun
        cases hrun
      rw [if_neg hfault]
      refine .inl ⟨rfl, fun p => keptUntil_atomic hself ?_⟩
      rw [htake]
      refine keptUntil_atomic htaken ?_
      rw [hrun]
      refine keptUntil_atomic (hcompleted _) ?_
      obtain ⟨r, hr⟩ := hf (.receipt e.receipt)
      rw [Thread.bind_done, hr]
      refine keptUntil_done ?_
      simp only [clearInMemoryChannelThrottle]
      split
      · exact hcompleted _
      · exact hcompleted _
  · have htake := takeDuePending_of_none (Bool.not_eq_true _ ▸ hany)
    rw [if_neg hany]
    refine .inr ⟨1, q, rfl, rfl, rfl, rfl, ?_, fun n => ?_⟩
    · refine keptUntil_atomic hself ?_
      rw [htake]
      exact keptUntil_zero hself
    · rw [Thread.bind_atomic, Thread.cut_atomic, htake]

end BeforeClaim

/-- 待っていた行 `d` を取り、まだ何も書いていない状態。 -/
structure Held (q : SlackDeliveryQueue) (d : SlackDeliveryRequest) (x : SlackDeliveryQueue) : Prop where
  waits : Waits d.key q
  row : ∃ row, rowOf d.key x.store = some row ∧ row.status = .processing
  beside : Beside d.key q x
  writes : x.writes = q.writes

variable {x : SlackDeliveryQueue} {k : DeliveryKey}

theorem Held.stuck (h : Held q d x) : ¬ Unstranded q x := not_unstranded h.waits h.writes h.row

theorem Held.retried {availableAt : Nat} (h : Held q d x)
    (hrun : retrySlackDelivery d.key availableAt x.store = .ok ((), s')) : Kept q { x with store := s' } where
  writes := h.writes
  waits key hwaits := by
    obtain ⟨s₁, hrun', heffect⟩ := retrySlackDelivery_run d.key availableAt x.store
    rw [hrun'] at hrun
    cases hrun
    by_cases hkey : key = d.key
    · obtain ⟨row, hrow, _⟩ := h.row
      rw [Waits, hkey, heffect.rows, hrow]
      exact ⟨_, rfl, by simp [(mem_of_rowOf hrow).2]⟩
    · obtain ⟨row, hrow, hpending⟩ := hwaits
      refine ⟨row, ?_, hpending⟩
      rw [heffect.rowOf_other (fun r hr => by simp [hr]) hkey, h.beside.rows key hkey]
      exact hrow

theorem unstranded_retry_iff {availableAt : Nat} {next : Except SlackStoreError Unit → SlackThread ρ}
    (h : Held q d x) (hnext : ∀ r, ∃ result, next r = .done result) :
    Unstranded q ((Thread.atomic (transact (c.faults .retry) (retrySlackDelivery d.key availableAt)) next).cut n x) ↔
      1 ≤ n ∧ c.faults .retry = none := by
  cases n with
  | zero => simpa using h.stuck
  | succ n =>
    rw [Thread.cut_atomic]
    obtain ⟨result, hresult⟩ := hnext (transact (c.faults .retry) (retrySlackDelivery d.key availableAt) x).1
    rw [hresult, Thread.cut_done]
    cases hfault : c.faults .retry with
    | some error => simpa [transact] using h.stuck
    | none =>
      obtain ⟨s', hrun, _⟩ := retrySlackDelivery_run d.key availableAt x.store
      simpa [transact, commit_eq_ok.mpr hrun] using (h.retried hrun).unstranded

theorem beside_transact {fault : Option SlackStoreError} {α : Type} {tx : DeliveryTx α}
    (h : ∀ a s', tx x.store = .ok (a, s') → ∀ key, key ≠ k → rowOf key s' = rowOf key x.store) :
    Beside k x (transact fault tx x).2 := by
  rcases transact_cases fault tx x with ⟨error, hrun⟩ | ⟨a, s', htx, hrun⟩
  · rw [hrun]
    exact .refl x
  · rw [hrun]
    exact ⟨h a s' htx, List.prefix_rfl⟩

theorem beside_clear {channel : String × String} {next : Nat} :
    Beside k x (clearInMemoryChannelThrottle channel next x) := by
  unfold clearInMemoryChannelThrottle
  split
  · exact ⟨fun _ _ => rfl, List.prefix_rfl⟩
  · exact .refl x

theorem keeps_beside_atomic {α : Type} {op : SlackDeliveryQueue → α × SlackDeliveryQueue} {next : α → SlackThread ρ}
    (hop : ∀ x, Beside k x (op x).2) (hnext : ∀ a, Thread.Keeps (Beside k) (next a)) :
    Thread.Keeps (Beside k) (.atomic op next) :=
  Thread.keeps_atomic Beside.refl (fun _ _ _ => Beside.trans) hop hnext

theorem keeps_beside_perform {op : SlackDeliveryQueue → SlackDeliveryQueue} {next : SlackThread ρ}
    (hop : ∀ x, Beside k x (op x)) (hnext : Thread.Keeps (Beside k) next) : Thread.Keeps (Beside k) (perform op next) :=
  keeps_beside_atomic hop fun _ => hnext

theorem keeps_beside_done {result : ρ} : Thread.Keeps (Beside k) (.done result : SlackThread ρ) :=
  Thread.keeps_done Beside.refl

theorem retryLater_beside {availableAt : Nat} : Thread.Keeps (Beside d.key) (retryLater c d availableAt) := by
  refine keeps_beside_atomic (fun x => beside_transact fun _ s' hrun key hkey => ?_) fun r => ?_
  · obtain ⟨s₁, hrun', heffect⟩ := retrySlackDelivery_run d.key availableAt x.store
    rw [hrun'] at hrun
    cases hrun
    exact heffect.rowOf_other (fun r hr => by simp [hr]) hkey
  · cases r with
    | ok _ => exact keeps_beside_done
    | error error => exact keeps_beside_done

theorem recordCompletion_beside {receipt : SlackDeliveryReceipt} {responseJson : String} {next : Nat} :
    Thread.Keeps (Beside receipt.key) (recordCompletion c receipt responseJson next) := by
  refine keeps_beside_atomic (fun x => beside_transact fun _ s' hrun key hkey => ?_) fun r => ?_
  · rw [(completeSlackDelivery_ok hrun).rows]
    cases hrow : rowOf key x.store with
    | none => rfl
    | some row =>
      have hother : row.request.key ≠ receipt.key := (mem_of_rowOf hrow).2 ▸ hkey
      simp [hother]
  · cases r with
    | ok _ => exact keeps_beside_perform (fun _ => beside_clear) keeps_beside_done
    | error error =>
      by_cases htransient : error.isTransientStorageContention = true
      · simp only [if_pos htransient]
        exact keeps_beside_perform (fun x => ⟨fun _ _ => rfl, List.prefix_rfl⟩) keeps_beside_done
      · simp only [if_neg htransient]
        exact keeps_beside_done

theorem afterAnswer_beside {answer : SlackAnswer} :
    Thread.Keeps (Beside d.key) (afterAnswer interval c d answer) := by
  cases answer with
  | posted posted =>
    have hkey : (receiptOf d posted).key = d.key := rfl
    exact keeps_beside_perform (fun x => ⟨fun _ _ => rfl, List.prefix_rfl⟩) (hkey ▸ recordCompletion_beside)
  | rateLimited retryAfterSeconds => exact retryLater_beside
  | failed => exact retryLater_beside
  | unsent => exact retryLater_beside

/-- 待ち行列へ戻した後。 -/
def afterRetry (c : SlackCall) (r : Except SlackStoreError Unit) : SlackThread SlackDeliveryResult :=
  match r with
  | .ok _ => .done (.slack c.answer)
  | .error error => .done (.state error)

theorem unstranded_send_iff (h : Held q d x) :
    Unstranded q ((sendAndRecord interval c d).cut n x) ↔
      if c.answer = .unsent then 2 ≤ n ∧ c.faults .retry = none else 1 ≤ n := by
  cases n with
  | zero => simpa using h.stuck
  | succ n =>
    have hcut : (sendAndRecord interval c d).cut (n + 1) x =
        (afterAnswer interval c d c.answer).cut n (callSlack d c.now c.answer x) := rfl
    rw [hcut]
    by_cases hanswer : c.answer = .unsent
    · rw [if_pos hanswer, hanswer, callSlack, if_pos rfl]
      have hretry := @unstranded_retry_iff n _ c _ _ _ (saturatingAdd c.now 1) (afterRetry c) h
        (fun r => by cases r <;> exact ⟨_, rfl⟩)
      exact hretry.trans (and_congr_left' (by omega))
    · rw [if_neg hanswer, callSlack, if_neg hanswer]
      have hrest := @afterAnswer_beside interval c d c.answer n
        { x with writes := x.writes ++ [⟨d, c.now, c.answer⟩] }
      have hbeside : Beside d.key q { x with writes := x.writes ++ [⟨d, c.now, c.answer⟩] } :=
        h.beside.trans ⟨fun _ _ => rfl, List.prefix_append ..⟩
      have hwrite := hrest.writes
      simp only [h.writes] at hwrite hbeside hrest ⊢
      simpa using unstranded_of_write rfl (hbeside.trans hrest) hwrite

/-! ## 一回の停止 -/

/-- 捨てられた `drain_due_once` は、行を取る前にあるか、取った行の書き込みを出したか、待ち行列へ戻している。 -/
def Settled (c : SlackCall) (steps : Nat) (q : SlackDeliveryQueue) : Prop :=
  ∀ p, stepsBeforeClaim c q = some p → ∀ row, dueRow c q = some row →
    steps ≤ p ∨ (p + stepsToSettle c q row ≤ steps ∧ (returns c q row = true → c.faults .retry = none))

theorem claim_cases (c : SlackCall) (x : SlackDeliveryQueue) :
    (dueRow c x = none ∧ ((transact (c.faults .claim) (claimNextDue c.now) x).1 = .ok none ∨
        ∃ error, (transact (c.faults .claim) (claimNextDue c.now) x).1 = .error error) ∧
      (transact (c.faults .claim) (claimNextDue c.now) x).2 = x) ∨
    ∃ row s', dueRow c x = some row ∧ Claims row.request c.now x.store s' ∧
      transact (c.faults .claim) (claimNextDue c.now) x = (.ok (some row.request), { x with store := s' }) := by
  unfold dueRow
  cases hfault : c.faults .claim with
  | some error => exact .inl ⟨by simp, .inr ⟨error, rfl⟩, rfl⟩
  | none =>
    have hrun := claimNextDue_run c.now x.store
    rw [if_pos rfl]
    cases hdue : firstDue c.now x.store with
    | none =>
      simp only [hdue] at hrun
      have htransact : transact none (claimNextDue c.now) x = (.ok none, x) := by
        simp only [transact, commit_eq_ok.mpr hrun]
      rw [htransact]
      exact .inl ⟨rfl, .inl rfl, rfl⟩
    | some row =>
      simp only [hdue] at hrun
      obtain ⟨s', hrun, hclaims⟩ := hrun
      refine .inr ⟨row, s', rfl, hclaims, ?_⟩
      simp only [transact, commit_eq_ok.mpr hrun]

theorem Held.of_claims (hclaims : Claims d c.now q₁.store s') (hstore : q₁.store = q.store)
    (hwrites : q₁.writes = q.writes) : Held q d { q₁ with store := s' } := by
  obtain ⟨row, hrow, rfl, hpending, _⟩ := hclaims.row
  refine ⟨⟨row, hstore ▸ hrow, hpending⟩, ⟨processing row, ?_, rfl⟩, ⟨fun key hkey => ?_, ?_⟩, hwrites⟩
  · rw [hclaims.effect.rows, hrow]
    simp [hpending, processing]
  · rw [← hstore]
    exact hclaims.effect.rowOf_other (fun r hr => by simp [hr]) hkey
  · exact hwrites ▸ List.prefix_rfl

def sendSelected (interval : Nat) (c : SlackCall) : Selection → SlackThread SlackDeliveryResult
  | .finished result => .done result
  | .ready delivery => sendAndRecord interval c delivery

theorem program_drain (interval now : Nat) (answer : SlackAnswer) (faults : StorageCall → Option SlackStoreError) :
    program interval (drainDueOnce now answer faults) =
      (selectDrain (drainDueOnce now answer faults)).bind (sendSelected interval (drainDueOnce now answer faults)) := by
  have hselect : select (drainDueOnce now answer faults) = selectDrain (drainDueOnce now answer faults) := rfl
  rw [program, hselect]
  refine congrArg _ (funext fun selection => ?_)
  cases selection with
  | finished result => rfl
  | ready delivery => rfl

def afterClaim (interval : Nat) (c : SlackCall) (d : SlackDeliveryRequest) : SlackThread SlackDeliveryResult :=
  if d.operation = .postMessage then
    .atomic (fun q => (inMemoryChannelAvailableAt d.channel c.now q, q)) fun
      | none => sendAndRecord interval c d
      | some availableAt =>
        .atomic (transact (c.faults .retry) (retrySlackDelivery d.key availableAt)) fun
          | .ok _ => .done .nothing
          | .error error => .done (.state error)
  else sendAndRecord interval c d

theorem cut_selectNextDue (n : Nat) (h : transact (c.faults .claim) (claimNextDue c.now) x = (.ok (some d), q₁)) :
    ((selectNextDue c).bind (sendSelected interval c)).cut (n + 1) x = (afterClaim interval c d).cut n q₁ := by
  rw [selectNextDue, Thread.bind_atomic, Thread.cut_atomic, h]
  congr 1
  unfold afterClaim
  by_cases hpost : d.operation = .postMessage
  · simp only [if_pos hpost, Thread.bind_atomic]
    congr 1
    funext found
    cases found with
    | none => rfl
    | some availableAt =>
      simp only [Thread.bind_atomic]
      congr 1
      funext r
      cases r <;> rfl
  · simp only [if_neg hpost]
    rfl

theorem unstranded_afterClaim_iff {row : SlackDeliveryRow} (h : Held q row.request x)
    (hmemory : x.inMemoryChannelThrottles = q.inMemoryChannelThrottles) (n : Nat) :
    Unstranded q ((afterClaim interval c row.request).cut n x) ↔
      stepsToSettle c q row ≤ n + 1 ∧ (returns c q row = true → c.faults .retry = none) := by
  have hread : inMemoryChannelAvailableAt row.request.channel c.now x =
      inMemoryChannelAvailableAt row.request.channel c.now q := by
    rw [inMemoryChannelAvailableAt, hmemory, inMemoryChannelAvailableAt]
  unfold afterClaim stepsToSettle returns
  by_cases hpost : row.request.operation = .postMessage
  · rw [if_pos hpost, if_pos hpost]
    cases n with
    | zero =>
      refine iff_of_false h.stuck fun hsteps => ?_
      have := hsteps.1
      split at this <;> omega
    | succ n =>
      rw [Thread.cut_atomic, hread]
      cases hfound : inMemoryChannelAvailableAt row.request.channel c.now q with
      | none =>
        have hheld : heldBack c q row = false := by simp [heldBack, hfound]
        simp only [hheld, Bool.false_or, beq_iff_eq, Bool.false_eq_true, if_false]
        rw [unstranded_send_iff h]
        by_cases hanswer : c.answer = .unsent
        · simp only [hanswer, if_true, forall_const]
          exact and_congr_left' (by omega)
        · simp only [hanswer, if_false, false_implies, and_true]
          omega
      | some availableAt =>
        have hheld : heldBack c q row = true := by simp [heldBack, hfound, hpost]
        simp only [hheld, Bool.true_or, if_true, forall_const]
        exact (unstranded_retry_iff h fun r => by cases r <;> exact ⟨_, rfl⟩).trans (and_congr_left' (by omega))
  · have hheld : heldBack c q row = false := by simp [heldBack, hpost]
    rw [if_neg hpost, if_neg hpost]
    simp only [hheld, Bool.false_or, beq_iff_eq, Bool.false_eq_true, if_false]
    rw [unstranded_send_iff h]
    by_cases hanswer : c.answer = .unsent
    · simp only [hanswer, if_true, forall_const]
      exact and_congr_left' (by omega)
    · simp only [hanswer, if_false, false_implies, and_true]
      omega

theorem dueRow_congr (h : q₁.store = q.store) : dueRow c q₁ = dueRow c q := by rw [dueRow, h, dueRow]

/-- 捨てられた `drain_due_once` が待っていた行を失わないのは、行を手放していたときである。 -/
theorem unstranded_iff (h : DeliveryInv True q fun _ => none) (c : SlackCall) (n : Nat) :
    Unstranded q (((selectDrain c).bind (sendSelected interval c)).cut n q) ↔ Settled c n q := by
  unfold Settled
  rcases beforeClaim_cases (sendSelected interval c) (fun result => ⟨result, rfl⟩) c h with
    ⟨hnone, hkept⟩ | ⟨p, q₁, hp, hstore, hwrites, hmemory, hkept, hrest⟩
  · simpa [hnone] using (hkept n n (by omega)).unstranded
  simp only [hp, Option.some.injEq, forall_eq']
  by_cases hle : n ≤ p
  · simpa [hle] using (hkept n hle).unstranded
  · obtain ⟨m, rfl⟩ : ∃ m, n = m + 1 + p := ⟨n - p - 1, by omega⟩
    rw [hrest, ← dueRow_congr hstore]
    rcases claim_cases c q₁ with ⟨hnone, hfinished, hsame⟩ | ⟨row, s', hdue, hclaims, hrun⟩
    · -- 取る行がなければ、そこで終わる
      have hidle : ((selectNextDue c).bind (sendSelected interval c)).cut (m + 1) q₁ = q₁ := by
        rw [selectNextDue, Thread.bind_atomic, Thread.cut_atomic, hsame]
        rcases hfinished with hresult | ⟨error, hresult⟩
        · rw [hresult]
          exact Thread.cut_done ..
        · rw [hresult]
          exact Thread.cut_done ..
      rw [hidle]
      simpa [hnone] using (Kept.same hstore hwrites).unstranded
    · rw [cut_selectNextDue m hrun]
      simp only [hdue, Option.some.injEq, forall_eq']
      rw [unstranded_afterClaim_iff (.of_claims hclaims hstore hwrites) hmemory]
      constructor
      · exact fun hsettled => .inr ⟨by omega, hsettled.2⟩
      · exact fun hsettled => (hsettled.resolve_left hle).imp (by omega) id

theorem runEvent_inv (h : DeliveryInv True q fun _ => none) (event : SlackEvent) :
    DeliveryInv True (runEvent interval q event) fun _ => none := by
  cases event with
  | call c =>
    obtain ⟨p, hinv, hnone⟩ := (@program_owned _ c interval (.inl trivial)).alone program_free
      (i := 0) h rfl
    rw [hnone, Function.update_eq_self_iff.mpr rfl] at hinv
    exact hinv
  | shutdown now answer faults steps =>
    obtain ⟨own, hinv⟩ := (@program_owned _ (drainDueOnce now answer faults) interval (.inl trivial)).cut (i := 0) h rfl steps
    exact hinv.restart

def LosesNothing (interval : Nat) (q : SlackDeliveryQueue) : SlackEvent → Prop
  | .call _ => True
  | .shutdown now answer faults steps => Unstranded q (runEvent interval q (.shutdown now answer faults steps))

def SettledShutdown (q : SlackDeliveryQueue) : SlackEvent → Prop
  | .call _ => True
  | .shutdown now answer faults steps => Settled (drainDueOnce now answer faults) steps q

theorem losesNothing_iff (h : DeliveryInv True q fun _ => none) (event : SlackEvent) :
    LosesNothing interval q event ↔ SettledShutdown q event := by
  cases event with
  | call c => exact Iff.rfl
  | shutdown now answer faults steps =>
    have hiff := @unstranded_iff interval _ h (drainDueOnce now answer faults) steps
    rw [← program_drain] at hiff
    exact hiff

theorem stepsMeet_iff (h : DeliveryInv True q fun _ => none) (events : List SlackEvent) :
    StepsMeet (runEvent interval) (LosesNothing interval) q events ↔
      StepsMeet (runEvent interval) SettledShutdown q events := by
  induction events generalizing q with
  | nil => exact Iff.rfl
  | cons event events ih => exact and_congr (losesNothing_iff h event) (ih (runEvent_inv h event))

theorem runEvents_inv (h : DeliveryInv True q fun _ => none) (events : List SlackEvent) :
    DeliveryInv True (runEvents interval q events) fun _ => none := by
  induction events generalizing q with
  | nil => exact h
  | cons event events ih => exact ih (runEvent_inv h event)

/-- どこで停止しても待っていた行が失われず、成功した送信が二度行われないのは、どの停止も、行を手放した `drain_due_once` を
捨てるときである。 -/
theorem graceful_shutdown_iff (interval : Nat) (store : DeliveryStore) (events : List SlackEvent) :
    (StepsMeet (runEvent interval) (LosesNothing interval) (.new store) events ∧
      (runEvents interval (.new store) events).writes.Pairwise NotRepeated) ↔
      StepsMeet (runEvent interval) SettledShutdown (.new store) events := by
  have hinv := DeliveryInv.new True store
  rw [stepsMeet_iff hinv]
  exact and_iff_left (runEvents_inv hinv events).once

/-- 行を取った後、送る前に停止する。 -/
def droppedEvents : List SlackEvent := [
  .call (callAt 100 (.enqueue (queuedText "C1" "a") 0) .unsent),
  .shutdown 100 .unsent (fun _ => none) 2]

def statusOf (key : DeliveryKey) (q : SlackDeliveryQueue) : Option SlackDeliveryStatus :=
  (rowOf key q.store).map SlackDeliveryRow.status

/-- 取られた行は、次のプロセスが始まっても処理中のままで、二度と送られない。 -/
theorem claimed_row_stranded :
    ¬ ∀ (interval : Nat) (store : DeliveryStore) (events : List SlackEvent),
      StepsMeet (runEvent interval) (LosesNothing interval) (.new store) events ∧
        (runEvents interval (.new store) events).writes.Pairwise NotRepeated := by
  intro hclaim
  obtain ⟨⟨_, hloses, _⟩, _⟩ := hclaim 1 .empty droppedEvents
  have hrun : (statusOf ("T1", "a") (runEvents 1 (.new .empty) (droppedEvents.take 1)),
      statusOf ("T1", "a") (runEvents 1 (.new .empty) droppedEvents),
      (runEvents 1 (.new .empty) (droppedEvents.take 1)).writes, (runEvents 1 (.new .empty) droppedEvents).writes) =
        (some .pending, some .processing, [], []) := by decide +kernel
  simp only [Prod.mk.injEq] at hrun
  obtain ⟨hbefore, hafter, hwrites, hwrites'⟩ := hrun
  have hwaits : Waits ("T1", "a") (runEvents 1 (.new .empty) (droppedEvents.take 1)) :=
    Option.map_eq_some_iff.mp hbefore
  exact not_unstranded hwaits (hwrites'.trans hwrites.symm) (Option.map_eq_some_iff.mp hafter) hloses

end Codeoff.Slack.Shutdown
