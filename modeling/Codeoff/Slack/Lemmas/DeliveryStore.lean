import Codeoff.Slack.DeliveryStore

/-!
# 送信の待ち行列への操作の効果

鍵ごとの行（`rowOf`）、受領記録、送信間隔が、操作でどう変わるか。
-/

namespace Codeoff.Slack

open Codeoff.Core Codeoff.Relational
open Codeoff.State (sqlLength)

variable {s s' : DeliveryStore} {row : SlackDeliveryRow} {key k : DeliveryKey} {request : SlackDeliveryRequest}
  {now : Nat} {createdAt : Int}

theorem toI64_mono {a b : Nat} (h : a ≤ b) : toI64 a ≤ toI64 b := by
  unfold toI64
  split <;> split <;> omega

theorem toI64_of_lt {n : Nat} (h : n < i64Max) : toI64 n = n := if_pos h.le

theorem toI64_nonneg (n : Nat) : 0 ≤ toI64 n := by
  unfold toI64
  split <;> omega

theorem le_of_toI64_le {a b now : Nat} (hnow : now < i64Max) (h : toI64 (saturatingAdd a b) ≤ toI64 now) :
    a + b ≤ now := by
  have hmax : i64Max < u64Max := by decide
  rw [toI64_of_lt hnow] at h
  unfold toI64 saturatingAdd at h
  split at h <;> omega

def rowOf (key : DeliveryKey) (s : DeliveryStore) : Option SlackDeliveryRow :=
  s.queue.rows.find? fun r => r.request.key == key

theorem mem_of_rowOf (h : rowOf key s = some row) : row ∈ s.queue.rows ∧ row.request.key = key :=
  ⟨List.mem_of_find?_eq_some h, by simpa using List.find?_some h⟩

theorem rowOf_of_mem (h : row ∈ s.queue.rows) : rowOf row.request.key s = some row := by
  cases hfind : rowOf row.request.key s with
  | none =>
    have hnone := List.find?_eq_none.mp hfind row h
    simp at hnone
  | some other =>
    obtain ⟨hother, hkey⟩ := mem_of_rowOf hfind
    have hconflict : slackDeliveryQueue.conflict other row = true := by simp [slackDeliveryQueue, hkey]
    rw [s.queue.eq_of_conflict hother h hconflict]

theorem rowOf_iff : rowOf key s = some row ↔ row ∈ s.queue.rows ∧ row.request.key = key :=
  ⟨mem_of_rowOf, fun ⟨h, hkey⟩ => hkey ▸ rowOf_of_mem h⟩

/-- 行が `f` で書き換わり、ほかの表は変わらない。 -/
structure QueueRewrite (f : SlackDeliveryRow → SlackDeliveryRow) (s s' : DeliveryStore) : Prop where
  rows : ∀ k, rowOf k s' = (rowOf k s).map f
  receipts : s'.receipts = s.receipts
  throttles : s'.throttles = s.throttles

theorem updateDelivery_run (p : SlackDeliveryRow → Bool) (f : SlackDeliveryRow → SlackDeliveryRow)
    (hrequest : ∀ r, (f r).request = r.request) (hid : ∀ r, (f r).id = r.id)
    (hattempts : ∀ r, 0 ≤ r.attemptCount → 0 ≤ (f r).attemptCount) (s : DeliveryStore) :
    ∃ s', updateDelivery p f s = .ok (s.queue.rows.countP p, s') ∧
      QueueRewrite (fun r => if p r then f r else r) s s' := by
  have hcheck : ∀ r ∈ s.queue.rows, p r = true → slackDeliveryQueue.check (f r) = true := by
    intro r hr _
    have hold : r.Check := of_decide_eq_true (s.queue.checked r hr)
    refine decide_eq_true ?_
    rw [SlackDeliveryRow.Check, hrequest]
    exact ⟨hold.1, hold.2.1, hold.2.2.1, hattempts r hold.2.2.2⟩
  have hconflict : ∀ a b, slackDeliveryQueue.conflict (if p a then f a else a) (if p b then f b else b) =
      slackDeliveryQueue.conflict a b := by
    intro a b
    split <;> split <;> simp [slackDeliveryQueue, hrequest, hid]
  have hunique : (Table.rewrite p f s.queue.rows).Pairwise fun a b => slackDeliveryQueue.conflict a b = false :=
    List.pairwise_map.mpr (s.queue.unique.imp fun {a b} hab => (hconflict a b).trans hab)
  obtain ⟨T, hT⟩ : ∃ T, s.queue.Updates (fun _ _ => none) p f T :=
    Table.exists_updates (fun _ _ _ => rfl) hcheck hunique
  have hrun : updateDelivery p f s = .ok (s.queue.rows.countP p, { s with queue := T }) := by
    unfold updateDelivery onQueue
    exact onTable_ok.mpr ⟨T, Table.update_ok.mpr ⟨hT, rfl⟩, rfl⟩
  refine ⟨_, hrun, ?_, rfl, rfl⟩
  intro k
  have hkey : ((fun r : SlackDeliveryRow => r.request.key == k) ∘ fun r => if p r then f r else r) =
      fun r => r.request.key == k := by
    funext r
    simp only [Function.comp_apply]
    split <;> simp [hrequest]
  rw [rowOf, rowOf, hT.rows, Table.rewrite, List.find?_map, hkey]

def processing (r : SlackDeliveryRow) : SlackDeliveryRow :=
  { r with
    status := .processing
    attemptCount := r.attemptCount + 1 }

theorem markProcessing_run (h : rowOf key s = some row) (hpending : row.status = .pending) :
    ∃ n s', markProcessing key s = .ok (n, s') ∧ n ≠ 0 ∧
      QueueRewrite (fun r => if r.request.key == key && r.status == .pending then processing r else r) s s' := by
  obtain ⟨s', hrun, heffect⟩ := updateDelivery_run (fun r => r.request.key == key && r.status == .pending)
    processing (fun _ => rfl) (fun _ => rfl) (fun r hr => Int.le_trans hr (Int.le_add_one (Int.le_refl _))) s
  obtain ⟨hmem, hkey⟩ := mem_of_rowOf h
  refine ⟨_, s', hrun, ?_, heffect⟩
  rw [Ne, List.countP_eq_zero]
  intro hnone
  simpa [hkey, hpending] using hnone row hmem

theorem retrySlackDelivery_run (key : DeliveryKey) (availableAt : Nat) (s : DeliveryStore) :
    ∃ s', retrySlackDelivery key availableAt s = .ok ((), s') ∧
      QueueRewrite (fun r => if r.request.key == key then
        { r with
          status := .pending
          availableAt := toI64 availableAt } else r) s s' := by
  obtain ⟨s', hrun, heffect⟩ := updateDelivery_run (fun r => r.request.key == key)
    (fun r => { r with
      status := .pending
      availableAt := toI64 availableAt }) (fun _ => rfl) (fun _ => rfl) (fun _ hr => hr) s
  exact ⟨s', Tx.bind_ok.mpr ⟨_, s', hrun, rfl⟩, heffect⟩

theorem markDelivered_run (key : DeliveryKey) (s : DeliveryStore) :
    ∃ n s', markDelivered key s = .ok (n, s') ∧
      QueueRewrite (fun r => if r.request.key == key then { r with status := .delivered } else r) s s' := by
  obtain ⟨s', hrun, heffect⟩ := updateDelivery_run (fun r => r.request.key == key)
    (fun r => { r with status := .delivered }) (fun _ => rfl) (fun _ => rfl) (fun _ hr => hr) s
  exact ⟨_, s', hrun, heffect⟩

/-- 行を加える操作の効果。同じ鍵の行があれば何も変わらない。 -/
structure Enqueued (request : SlackDeliveryRequest) (now : Nat) (createdAt : Int) (s s' : DeliveryStore) : Prop where
  kept : ∀ k row, rowOf k s = some row → rowOf k s' = some row
  fresh : ∀ k, rowOf k s = none → rowOf k s' =
    if k = request.key then some (enqueuedRow request now createdAt s.queue) else none
  receipts : s'.receipts = s.receipts
  throttles : s'.throttles = s.throttles

theorem enqueueSlackDelivery_ok {inserted : Bool}
    (h : enqueueSlackDelivery request now createdAt s = .ok (inserted, s')) :
    Enqueued request now createdAt s s' := by
  obtain ⟨n, s₁, hrun, h⟩ := Tx.bind_ok.mp h
  cases h
  unfold onQueue at hrun
  obtain ⟨T, hT, rfl⟩ := onTable_ok.mp hrun
  obtain ⟨_, ⟨rfl, rfl, other, hother, hconflict⟩ | ⟨rfl, hins⟩⟩ := Table.insertOrIgnore_ok.mp hT
  · have hkey : other.request.key = request.key := by
      simp only [slackDeliveryQueue, Bool.or_eq_true, beq_iff_eq] at hconflict
      rcases hconflict with hid | hkey
      · have hlt : other.id < s.queue.nextRowId SlackDeliveryRow.id := s.queue.lt_nextRowId hother
        exact absurd hid hlt.ne'
      · exact hkey.symm
    refine ⟨fun _ _ h => h, fun k hk => ?_, rfl, rfl⟩
    split
    · rename_i hsame
      have hsome := rowOf_of_mem hother
      rw [hkey, ← hsame, hk] at hsome
      cases hsome
    · exact hk
  · have hrow (k : DeliveryKey) : rowOf k { s with queue := T } = (rowOf k s).or
        (if request.key = k then some (enqueuedRow request now createdAt s.queue) else none) := by
      rw [rowOf, hins.rows, List.find?_append]
      congr 1
      by_cases hk : request.key = k <;> simp [enqueuedRow, hk]
    refine ⟨fun k row h => by rw [hrow, h, Option.some_or], fun k h => ?_, rfl, rfl⟩
    rw [hrow, h, Option.none_or]
    simp only [eq_comm]

/-- 行が加わるのは、その鍵の行がないときだけである。 -/
theorem enqueueSlackDelivery_cases {inserted : Bool}
    (h : enqueueSlackDelivery request now createdAt s = .ok (inserted, s')) :
    (enqueuedRow request now createdAt s.queue).Check ∧
      ((inserted = false ∧ s' = s ∧ (rowOf request.key s).isSome) ∨
        (inserted = true ∧ rowOf request.key s = none ∧ s'.indicators = s.indicators ∧
          s'.queue.rows = s.queue.rows ++ [enqueuedRow request now createdAt s.queue])) := by
  obtain ⟨n, s₁, hrun, h⟩ := Tx.bind_ok.mp h
  cases h
  unfold onQueue at hrun
  obtain ⟨T, hT, rfl⟩ := onTable_ok.mp hrun
  obtain ⟨hcheck, ⟨rfl, rfl, other, hother, hconflict⟩ | ⟨rfl, hins⟩⟩ := Table.insertOrIgnore_ok.mp hT
  · refine ⟨of_decide_eq_true hcheck, .inl ⟨rfl, rfl, ?_⟩⟩
    have hkey : other.request.key = request.key := by
      simp only [slackDeliveryQueue, Bool.or_eq_true, beq_iff_eq] at hconflict
      rcases hconflict with hid | hkey
      · have hlt : other.id < s.queue.nextRowId SlackDeliveryRow.id := s.queue.lt_nextRowId hother
        exact absurd hid hlt.ne'
      · exact hkey.symm
    rw [← hkey, rowOf_of_mem hother]
    rfl
  · refine ⟨of_decide_eq_true hcheck, .inr ⟨rfl, ?_, rfl, hins.rows⟩⟩
    cases hrow : rowOf request.key s with
    | none => rfl
    | some row =>
      obtain ⟨hmem, hkey⟩ := mem_of_rowOf hrow
      have hfresh := hins.fresh hmem
      simp only [slackDeliveryQueue, Bool.or_eq_false_iff, beq_eq_false_iff_ne] at hfresh
      exact absurd hkey hfresh.2

/-! ## 取る -/

theorem findPost_iff : findPost key s = some row ↔ rowOf key s = some row ∧ row.request.operation = .postMessage := by
  constructor
  · intro h
    have hmatch : row.request.key = key ∧ row.request.operation = .postMessage := by simpa using List.find?_some h
    exact ⟨rowOf_iff.mpr ⟨List.mem_of_find?_eq_some h, hmatch.1⟩, hmatch.2⟩
  · rintro ⟨hrow, hpost⟩
    obtain ⟨hmem, hkey⟩ := mem_of_rowOf hrow
    cases hfind : findPost key s with
    | none =>
      have hnone := List.find?_eq_none.mp hfind row hmem
      simp [hkey, hpost] at hnone
    | some other =>
      have hmatch : other.request.key = key ∧ other.request.operation = .postMessage := by
        simpa using List.find?_some hfind
      have hother := rowOf_iff.mpr ⟨List.mem_of_find?_eq_some hfind, hmatch.1⟩
      rw [hrow] at hother
      rw [hother]

/-- 行 `d` を取る操作の効果。行は待っていて、送ってよい時刻が来ていた。 -/
structure Claims (d : SlackDeliveryRequest) (now : Nat) (s s' : DeliveryStore) : Prop where
  row : ∃ row, rowOf d.key s = some row ∧ row.request = d ∧ row.status = .pending ∧ readyAt s row ≤ toI64 now
  effect : QueueRewrite (fun r => if r.request.key == d.key && r.status == .pending then processing r else r) s s'

theorem markProcessing_claims {n : Nat} (hrow : rowOf row.request.key s = some row) (hpending : row.status = .pending)
    (hready : readyAt s row ≤ toI64 now) (h : markProcessing row.request.key s = .ok (n, s')) :
    n ≠ 0 ∧ Claims row.request now s s' := by
  obtain ⟨m, s₁, hrun, hm, heffect⟩ := markProcessing_run hrow hpending
  rw [hrun] at h
  cases h
  exact ⟨hm, ⟨row, hrow, rfl, hpending, hready⟩, heffect⟩

theorem claimPending_ok {claim : SlackDeliveryClaim} (hrow : rowOf row.request.key s = some row)
    (hpending : row.status = .pending) (h : claimPending row now s = .ok (claim, s')) :
    (claim = .ready row.request ∧ Claims row.request now s s') ∨ (∃ t, claim = .deferred t) ∧ s' = s := by
  obtain ⟨availableAt, s₁, hread, h⟩ := Tx.bind_ok.mp h
  cases hread
  by_cases hlt : toI64 now < readyAt s row
  · rw [if_pos hlt] at h
    cases h
    exact .inr ⟨⟨_, rfl⟩, rfl⟩
  · rw [if_neg hlt] at h
    obtain ⟨n, s₁, hmark, h⟩ := Tx.bind_ok.mp h
    obtain ⟨hn, hclaims⟩ := markProcessing_claims hrow hpending (not_lt.mp hlt) hmark
    rw [if_neg hn] at h
    cases h
    exact .inl ⟨rfl, hclaims⟩

/-- 鍵で取れるのは、待っている投稿の行だけで、取れば処理中になる。 -/
theorem claimSlackDelivery_ok {claim : SlackDeliveryClaim} (h : claimSlackDelivery key now s = .ok (claim, s')) :
    (∃ d, claim = .ready d ∧ d.key = key ∧ d.operation = .postMessage ∧ Claims d now s s') ∨
      (∀ d, claim ≠ .ready d) ∧ s' = s := by
  obtain ⟨found, s₁, hread, h⟩ := Tx.bind_ok.mp h
  cases hread
  cases hreceipt : findReceipt key s with
  | some receipt =>
    rw [hreceipt] at h
    cases h
    exact .inr ⟨by simp, rfl⟩
  | none =>
    rw [hreceipt] at h
    obtain ⟨post, s₁, hread, h⟩ := Tx.bind_ok.mp h
    cases hread
    obtain ⟨row, s₁, hrow, hclaim⟩ := Tx.bind_ok.mp h
    obtain ⟨hfind, hsame⟩ := Tx.orElseFail_ok.mp hrow
    subst hsame
    have hmem := List.mem_of_find?_eq_some hfind
    have hmatch : row.request.key = key ∧ row.request.operation = .postMessage := by
      simpa using List.find?_some hfind
    by_cases hpending : row.status = .pending
    · rw [if_pos hpending] at hclaim
      rcases claimPending_ok (rowOf_of_mem hmem) hpending hclaim with ⟨rfl, hclaims⟩ | ⟨⟨t, rfl⟩, rfl⟩
      · exact .inl ⟨row.request, rfl, hmatch.1, hmatch.2, hclaims⟩
      · exact .inr ⟨by simp, rfl⟩
    · rw [if_neg hpending] at hclaim
      cases hclaim
      exact .inr ⟨by simp, rfl⟩

/-- 先に送るほうの行。 -/
def earlierRow (s : DeliveryStore) (best : Option SlackDeliveryRow) (r : SlackDeliveryRow) : Option SlackDeliveryRow :=
  match best with
  | none => some r
  | some b => if isBefore s r b then some r else some b

theorem firstDue_mem (h : firstDue now s = some row) :
    row ∈ s.queue.rows ∧ row.status = .pending ∧ readyAt s row ≤ toI64 now := by
  have hfold : ∀ (rows : List SlackDeliveryRow) (best : Option SlackDeliveryRow),
      (∀ b ∈ best, b.status = .pending ∧ readyAt s b ≤ toI64 now ∧ b ∈ s.queue.rows) →
      (∀ r ∈ rows, r.status = .pending ∧ readyAt s r ≤ toI64 now ∧ r ∈ s.queue.rows) →
      ∀ r ∈ rows.foldl (earlierRow s) best,
        r.status = .pending ∧ readyAt s r ≤ toI64 now ∧ r ∈ s.queue.rows := by
    intro rows
    induction rows with
    | nil => exact fun best hbest _ => hbest
    | cons x rows ih =>
      intro best hbest hrows
      obtain ⟨hx, hrows⟩ := List.forall_mem_cons.mp hrows
      refine ih _ ?_ hrows
      cases best with
      | none => simpa [earlierRow] using hx
      | some b =>
        have hb := hbest b rfl
        intro r hr
        simp only [Option.mem_def, earlierRow] at hr
        split at hr <;> cases hr
        · exact hx
        · exact hb
  obtain ⟨hpending, hready, hmem⟩ := hfold _ none (by simp) (fun r hr => by
    simp only [List.mem_filter, Bool.and_eq_true, beq_iff_eq, decide_eq_true_eq] at hr
    exact ⟨hr.2.1, hr.2.2, hr.1⟩) row h
  exact ⟨hmem, hpending, hready⟩

/-- 期限の来た行が一つ処理中になるか、何も変わらない。 -/
theorem claimNextDue_ok {claimed : Option SlackDeliveryRequest} (h : claimNextDue now s = .ok (claimed, s')) :
    (∃ d, claimed = some d ∧ Claims d now s s') ∨ claimed = none ∧ s' = s := by
  obtain ⟨found, s₁, hread, h⟩ := Tx.bind_ok.mp h
  cases hread
  cases hdue : firstDue now s with
  | none =>
    rw [hdue] at h
    cases h
    exact .inr ⟨rfl, rfl⟩
  | some row =>
    rw [hdue] at h
    obtain ⟨hmem, hpending, hready⟩ := firstDue_mem hdue
    obtain ⟨n, s₁, hmark, h⟩ := Tx.bind_ok.mp h
    obtain ⟨hn, hclaims⟩ := markProcessing_claims (rowOf_of_mem hmem) hpending hready hmark
    rw [if_neg hn] at h
    cases h
    exact .inl ⟨row.request, rfl, hclaims⟩

theorem claimNextDue_run (now : Nat) (s : DeliveryStore) :
    match firstDue now s with
    | none => claimNextDue now s = .ok (none, s)
    | some row => ∃ s', claimNextDue now s = .ok (some row.request, s') ∧ Claims row.request now s s' := by
  cases hdue : firstDue now s with
  | none => simp only [claimNextDue, Tx.read_bind_apply, hdue, Tx.pure_apply]
  | some row =>
    obtain ⟨hmem, hpending, hready⟩ := firstDue_mem hdue
    obtain ⟨n, s', hrun, hn, heffect⟩ := markProcessing_run (rowOf_of_mem hmem) hpending
    refine ⟨s', ?_, ⟨row, rowOf_of_mem hmem, rfl, hpending, hready⟩, heffect⟩
    simp only [claimNextDue, Tx.read_bind_apply, hdue]
    exact Tx.bind_ok.mpr ⟨n, s', hrun, by simp [hn]⟩

/-! ## 記録する -/

structure Completed (receipt : SlackDeliveryReceipt) (nextAvailableAt : Nat) (s s' : DeliveryStore) : Prop where
  rows : ∀ k, rowOf k s' =
    (rowOf k s).map fun r => if r.request.key == receipt.key then { r with status := .delivered } else r
  recorded : (findReceipt receipt.key s').isSome
  others : ∀ k, k ≠ receipt.key → findReceipt k s' = findReceipt k s
  throttle : toI64 nextAvailableAt ≤ throttleOf receipt.channel s'
  grows : ∀ channel, throttleOf channel s ≤ throttleOf channel s'

/-- 受領記録は鍵ごとに一つで、ほかの鍵の記録は変わらない。 -/
theorem insertReceipt_ok {new : SlackDeliveryReceiptRow} {n : Nat} (h : insertReceipt new s = .ok (n, s')) :
    s'.queue = s.queue ∧ s'.throttles = s.throttles ∧ (findReceipt new.receipt.key s').isSome ∧
      ∀ k, k ≠ new.receipt.key → findReceipt k s' = findReceipt k s := by
  unfold insertReceipt at h
  obtain ⟨T, hT, rfl⟩ := onTable_ok.mp h
  refine ⟨rfl, rfl, ?_⟩
  obtain ⟨_, ⟨rfl, rfl, other, hother, hconflict⟩ | ⟨rfl, hins⟩⟩ := Table.insertOrIgnore_ok.mp hT
  · refine ⟨?_, fun _ _ => rfl⟩
    refine List.find?_isSome.mpr ⟨other, hother, ?_⟩
    simp only [slackDeliveryReceipts, beq_iff_eq] at hconflict ⊢
    exact hconflict.symm
  · have hfind (k : DeliveryKey) : findReceipt k { s with receipts := T } = (findReceipt k s).or
        (if new.receipt.key = k then some new else none) := by
      rw [findReceipt, hins.rows, List.find?_append]
      congr 1
      by_cases hk : new.receipt.key = k <;> simp [hk]
    refine ⟨by rw [hfind]; simp, fun k hk => ?_⟩
    rw [hfind, if_neg (Ne.symm hk), Option.or_none]

theorem advanceThrottle_ok {channel : String × String} {next : Nat} (h : advanceThrottle channel next s = .ok ((), s')) :
    s'.queue = s.queue ∧ s'.receipts = s.receipts ∧ toI64 next ≤ throttleOf channel s' ∧
      ∀ c, throttleOf c s ≤ throttleOf c s' := by
  unfold advanceThrottle at h
  obtain ⟨T, hT, rfl⟩ := onTable_ok.mp h
  refine ⟨rfl, rfl, ?_⟩
  obtain ⟨T₁, hupsert, hpair⟩ := except_map_ok.mp hT
  cases hpair
  have hnonneg := toI64_nonneg next
  rcases Table.upsert_cases hupsert with ⟨hany, hrows⟩ | ⟨hany, hrows⟩
  · -- 同じチャネルの行が書き換わる
    have hfind (c : String × String) : throttleOf c { s with throttles := T } =
        ((s.throttles.rows.find? fun t => t.channel == c).map fun t =>
          if channel = t.channel then max t.nextAvailableAt (toI64 next) else t.nextAvailableAt).getD 0 := by
      have hkey : ((fun t : SlackChannelThrottleRow => t.channel == c) ∘ fun t =>
          if slackChannelThrottles.conflict ⟨channel.1, channel.2, toI64 next⟩ t then
            { t with nextAvailableAt := max t.nextAvailableAt (toI64 next) } else t) =
          fun t => t.channel == c := by
        funext t
        simp only [Function.comp_apply]
        split <;> rfl
      rw [throttleOf, hrows, Table.rewrite, List.find?_map, hkey, Option.map_map]
      congr 2
      funext t
      have hconflict : slackChannelThrottles.conflict ⟨channel.1, channel.2, toI64 next⟩ t =
          (channel == t.channel) := rfl
      simp only [Function.comp_apply, hconflict, beq_iff_eq]
      by_cases hc : channel = t.channel <;> simp [hc]
    constructor
    · obtain ⟨t, ht, hconflict⟩ := List.any_eq_true.mp hany
      have hsome : (s.throttles.rows.find? fun t => t.channel == channel).isSome :=
        List.find?_isSome.mpr ⟨t, ht, by
          simp only [slackChannelThrottles, beq_iff_eq] at hconflict ⊢
          exact hconflict.symm⟩
      obtain ⟨t', ht'⟩ := Option.isSome_iff_exists.mp hsome
      have hsame : t'.channel = channel := by simpa using List.find?_some ht'
      rw [hfind, ht', Option.map_some, Option.getD_some, if_pos hsame.symm]
      exact le_max_right _ _
    · intro c
      rw [hfind, throttleOf]
      cases s.throttles.rows.find? fun t => t.channel == c with
      | none => exact le_refl _
      | some t =>
        simp only [Option.map_some, Option.getD_some]
        split
        · exact le_max_left _ _
        · exact le_refl _
  · -- チャネルの最初の行が加わる
    have hfind (c : String × String) : throttleOf c { s with throttles := T } =
        (((s.throttles.rows.find? fun t => t.channel == c).or
          (if channel = c then some ⟨channel.1, channel.2, toI64 next⟩ else none)).map
            SlackChannelThrottleRow.nextAvailableAt).getD 0 := by
      rw [throttleOf, hrows, List.find?_append]
      congr 3
      by_cases hc : channel = c <;> simp [SlackChannelThrottleRow.channel, hc]
    have hnone : (s.throttles.rows.find? fun t => t.channel == channel) = none := by
      refine List.find?_eq_none.mpr fun t ht hsame => ?_
      have hconflict := List.any_eq_false.mp hany t ht
      simp only [slackChannelThrottles, SlackChannelThrottleRow.channel, beq_iff_eq] at hconflict hsame
      exact hconflict hsame.symm
    constructor
    · rw [hfind, hnone, if_pos rfl]
      exact le_refl _
    · intro c
      rw [hfind, throttleOf]
      cases s.throttles.rows.find? fun t => t.channel == c with
      | some t => exact le_refl _
      | none =>
        by_cases hc : channel = c
        · simpa [hc] using hnonneg
        · simp [hc]

/-- 成功の記録は、行を済みにし、受領記録と間隔を残す。 -/
theorem completeSlackDelivery_ok {receipt : SlackDeliveryReceipt} {responseJson : String} {next : Nat}
    (h : completeSlackDelivery receipt responseJson next s = .ok ((), s')) : Completed receipt next s s' := by
  obtain ⟨_, s₁, hinsert, h⟩ := Tx.bind_ok.mp h
  obtain ⟨_, s₂, hmark, h⟩ := Tx.bind_ok.mp h
  obtain ⟨_, s₃, hrun, heffect⟩ := markDelivered_run receipt.key s₁
  rw [hrun] at hmark
  cases hmark
  obtain ⟨hqueue, hthrottles, hrecorded, hothers⟩ := insertReceipt_ok hinsert
  obtain ⟨hqueue', hreceipts', hadvanced, hgrows⟩ := advanceThrottle_ok h
  have hreceipts : s'.receipts = s₁.receipts := hreceipts'.trans heffect.receipts
  constructor
  · intro k
    have hlast : rowOf k s' = rowOf k s₂ := by rw [rowOf, rowOf, hqueue']
    have hfirst : rowOf k s₁ = rowOf k s := by rw [rowOf, rowOf, hqueue]
    rw [hlast, heffect.rows, hfirst]
  · rw [findReceipt, hreceipts]
    exact hrecorded
  · intro k hk
    rw [← hothers k hk, findReceipt, findReceipt, hreceipts]
  · exact hadvanced
  · intro c
    have hsame : throttleOf c s₂ = throttleOf c s := by rw [throttleOf, throttleOf, heffect.throttles, hthrottles]
    exact hsame ▸ hgrows c

theorem completeSlackDelivery_avoids (receipt : SlackDeliveryReceipt) (responseJson : String) (next : Nat) :
    Avoids (· = .contention) (completeSlackDelivery receipt responseJson next) := by
  refine Avoids.bind ?_ fun _ => Avoids.bind ?_ fun _ => ?_
  · unfold insertReceipt
    exact Avoids.onTable (by simp)
  · unfold markDelivered updateDelivery onQueue
    exact Avoids.onTable (by simp)
  · unfold advanceThrottle
    exact Avoids.onTable (by simp)

theorem completeSlackDelivery_run {receipt : SlackDeliveryReceipt} {responseJson : String}
    (hcheck : (⟨receipt, responseJson⟩ : SlackDeliveryReceiptRow).Check) (next : Nat) (s : DeliveryStore) :
    ∃ s', completeSlackDelivery receipt responseJson next s = .ok ((), s') := by
  have hfields : (0 < sqlLength receipt.connectorId ∧ 0 < sqlLength receipt.workspaceId ∧
    0 < sqlLength receipt.channelId ∧ 0 < sqlLength receipt.messageTs ∧ 0 < sqlLength receipt.requestDedupeKey) :=
    hcheck.1
  obtain ⟨T, n, hinsert⟩ := s.receipts.insertOrIgnore_ok_of_check (decide_eq_true hcheck)
  have hfirst : insertReceipt ⟨receipt, responseJson⟩ s = .ok (n, { s with receipts := T }) := by
    unfold insertReceipt
    exact onTable_ok.mpr ⟨T, hinsert, rfl⟩
  obtain ⟨m, s₂, hmark, _⟩ := markDelivered_run receipt.key { s with receipts := T }
  have hthrottle : slackChannelThrottles.check ⟨receipt.channel.1, receipt.channel.2, toI64 next⟩ = true :=
    decide_eq_true ⟨hfields.2.1, hfields.2.2.1⟩
  obtain ⟨U, hupsert⟩ := Table.upsert_ok_of_check (T := s₂.throttles)
    (f := fun r => { r with nextAvailableAt := max r.nextAvailableAt (toI64 next) }) hthrottle
    (fun o ho _ => s₂.throttles.checked o ho) (fun _ _ => rfl)
  have hlast : advanceThrottle receipt.channel next s₂ = .ok ((), { s₂ with throttles := U }) := by
    unfold advanceThrottle
    exact onTable_ok.mpr ⟨U, except_map_ok.mpr ⟨U, hupsert, rfl⟩, rfl⟩
  exact ⟨_, Tx.bind_ok.mpr ⟨n, _, hfirst, Tx.bind_ok.mpr ⟨m, s₂, hmark, hlast⟩⟩⟩

end Codeoff.Slack
