import Codeoff.Slack.Delivery
import Codeoff.Slack.Lemmas.DeliveryStore

/-!
# 送信の持ち主

行を取った呼び出しは、送って記録するか待ち行列へ戻すまで、その鍵を持つ（`DeliveryClaim`）。
-/

namespace Codeoff.Slack

open Codeoff.Control Codeoff.Relational
open Codeoff.Slack.WebApi (SlackPostedMessage)
open Codeoff.State (sqlLength)
open SlackDeliveryQueue

def SlackAnswer.isPosted : SlackAnswer → Bool
  | .posted _ => true
  | _ => false

def postedCount (key : DeliveryKey) (ws : List SlackWrite) : Nat :=
  ws.countP fun w => w.request.key == key && w.answer.isPosted

def entryCount (key : DeliveryKey) (entries : List PendingSlackCompletion) : Nat :=
  entries.countP fun e => e.receipt.key == key

def NotRepeated (w later : SlackWrite) : Prop := w.answer.isPosted = true → later.request.key ≠ w.request.key

theorem postedCount_append {key : DeliveryKey} {ws : List SlackWrite} {w : SlackWrite} :
    postedCount key (ws ++ [w]) =
      postedCount key ws + if w.request.key = key ∧ w.answer.isPosted = true then 1 else 0 := by
  rw [postedCount, postedCount, List.countP_append, List.countP_singleton]
  simp only [Bool.and_eq_true, beq_iff_eq]

theorem entryCount_append {key : DeliveryKey} {entries : List PendingSlackCompletion} {e : PendingSlackCompletion} :
    entryCount key (entries ++ [e]) = entryCount key entries + if e.receipt.key = key then 1 else 0 := by
  rw [entryCount, entryCount, List.countP_append, List.countP_singleton]
  simp only [beq_iff_eq]

theorem entryCount_eraseIdx {key : DeliveryKey} {entries : List PendingSlackCompletion} {n : Nat}
    {e : PendingSlackCompletion} (h : entries[n]? = some e) :
    entryCount key (entries.eraseIdx n) + (if e.receipt.key = key then 1 else 0) = entryCount key entries := by
  induction entries generalizing n with
  | nil => simp at h
  | cons x entries ih =>
    cases n with
    | zero =>
      simp only [List.getElem?_cons_zero, Option.some.injEq] at h
      subst h
      simp [entryCount, List.countP_cons]
    | succ n =>
      simp only [List.getElem?_cons_succ] at h
      have hrest := ih h
      simp only [entryCount, List.eraseIdx_cons_succ, List.countP_cons] at hrest ⊢
      omega

theorem postedCount_eq_zero {key : DeliveryKey} {ws : List SlackWrite} (h : postedCount key ws = 0) :
    ∀ w ∈ ws, w.answer.isPosted = true → key ≠ w.request.key := by
  intro w hw hposted hkey
  have hnot := List.countP_eq_zero.mp h w hw
  simp [hkey, hposted] at hnot

inductive DeliveryClaim where
  | sending (delivery : SlackDeliveryRequest)
  | recording (receipt : SlackDeliveryReceipt) (responseJson : String)

def DeliveryClaim.key : DeliveryClaim → DeliveryKey
  | .sending delivery => delivery.key
  | .recording receipt _ => receipt.key

def Unowned (key : DeliveryKey) (own : Ownership DeliveryClaim) : Prop := ∀ i p, own i = some p → p.key ≠ key

def Sole (key : DeliveryKey) (own : Ownership DeliveryClaim) (i : Nat) : Prop :=
  ∀ j p, own j = some p → p.key = key → j = i

/-- 鍵の場面。`orphaned` は、控えを失った成功で、控えが失われうる（`lost`）ときだけある。 -/
inductive KeyState (lost : Prop) (key : DeliveryKey) (q : SlackDeliveryQueue) (own : Ownership DeliveryClaim) :
    Prop where
  | idle (hnone : Unowned key own) (hsent : postedCount key q.writes = 0)
      (hentries : entryCount key q.pendingCompletions = 0)
  | sending (i : Nat) (row : SlackDeliveryRow) (hown : own i = some (.sending row.request)) (hsole : Sole key own i)
      (hrow : rowOf key q.store = some row) (hstatus : row.status = .processing)
      (hsent : postedCount key q.writes = 0) (hentries : entryCount key q.pendingCompletions = 0)
  | recording (i : Nat) (receipt : SlackDeliveryReceipt) (responseJson : String) (row : SlackDeliveryRow)
      (hown : own i = some (.recording receipt responseJson)) (hkey : receipt.key = key) (hsole : Sole key own i)
      (hrow : rowOf key q.store = some row) (hstatus : row.status = .processing)
      (hsent : postedCount key q.writes = 1) (hentries : entryCount key q.pendingCompletions = 0)
  | deferred (row : SlackDeliveryRow) (hnone : Unowned key own) (hrow : rowOf key q.store = some row)
      (hstatus : row.status = .processing) (hsent : postedCount key q.writes = 1)
      (hentries : entryCount key q.pendingCompletions = 1)
  | delivered (row : SlackDeliveryRow) (hnone : Unowned key own) (hrow : rowOf key q.store = some row)
      (hstatus : row.status = .delivered) (hsent : postedCount key q.writes = 1)
      (hentries : entryCount key q.pendingCompletions = 0) (hrecorded : (findReceipt key q.store).isSome)
  | orphaned (row : SlackDeliveryRow) (hlost : lost) (hnone : Unowned key own) (hrow : rowOf key q.store = some row)
      (hstatus : row.status = .processing) (hsent : postedCount key q.writes = 1)
      (hentries : entryCount key q.pendingCompletions = 0)

def Recordable (lost : Prop) (receipt : SlackDeliveryReceipt) (responseJson : String) : Prop :=
  lost ∨ (⟨receipt, responseJson⟩ : SlackDeliveryReceiptRow).Check

structure DeliveryInv (lost : Prop) (q : SlackDeliveryQueue) (own : Ownership DeliveryClaim) : Prop where
  keys : ∀ key, KeyState lost key q own
  entries : ∀ e ∈ q.pendingCompletions, Recordable lost e.receipt e.responseJson
  claims : ∀ i receipt responseJson, own i = some (.recording receipt responseJson) → Recordable lost receipt responseJson
  once : q.writes.Pairwise NotRepeated

variable {lost : Prop} {key : DeliveryKey} {q q' : SlackDeliveryQueue} {own own' : Ownership DeliveryClaim}
  {i : Nat} {s' : DeliveryStore} {d : SlackDeliveryRequest} {receipt : SlackDeliveryReceipt} {responseJson : String}
  {p p' : Option DeliveryClaim}

theorem KeyState.congr (h : KeyState lost key q own)
    (hown : ∀ i p, p.key = key → (own' i = some p ↔ own i = some p)) (hrow : rowOf key q'.store = rowOf key q.store)
    (hreceipt : findReceipt key q'.store = findReceipt key q.store)
    (hsent : postedCount key q'.writes = postedCount key q.writes)
    (hentries : entryCount key q'.pendingCompletions = entryCount key q.pendingCompletions) :
    KeyState lost key q' own' := by
  have hunowned (hnone : Unowned key own) : Unowned key own' := fun i p hp hkey => hnone i p ((hown i p hkey).mp hp) hkey
  have hsole {i : Nat} (hsole : Sole key own i) : Sole key own' i :=
    fun j p hp hkey => hsole j p ((hown j p hkey).mp hp) hkey
  cases h with
  | idle hnone hs he => exact .idle (hunowned hnone) (hsent.trans hs) (hentries.trans he)
  | sending i row ho hso hr hst hs he =>
    have hkey : row.request.key = key := (mem_of_rowOf hr).2
    exact .sending i row ((hown i (.sending row.request) hkey).mpr ho) (hsole hso) (hrow.trans hr) hst (hsent.trans hs) (hentries.trans he)
  | recording i receipt json row ho hkey hso hr hst hs he =>
    exact .recording i receipt json row ((hown i (.recording receipt json) hkey).mpr ho) hkey (hsole hso)
      (hrow.trans hr) hst (hsent.trans hs) (hentries.trans he)
  | deferred row hnone hr hst hs he =>
    exact .deferred row (hunowned hnone) (hrow.trans hr) hst (hsent.trans hs) (hentries.trans he)
  | delivered row hnone hr hst hs he hre =>
    exact .delivered row (hunowned hnone) (hrow.trans hr) hst (hsent.trans hs) (hentries.trans he) (hreceipt ▸ hre)
  | orphaned row hlost hnone hr hst hs he =>
    exact .orphaned row hlost (hunowned hnone) (hrow.trans hr) hst (hsent.trans hs) (hentries.trans he)

theorem update_own_iff (hold : ∀ x, own i = some x → x.key ≠ key) (hnew : ∀ x, p' = some x → x.key ≠ key) (j : Nat)
    (x : DeliveryClaim) (hkey : x.key = key) : Function.update own i p' j = some x ↔ own j = some x := by
  by_cases hji : j = i
  · subst hji
    rw [Function.update_self]
    exact ⟨fun h => absurd hkey (hnew x h), fun h => absurd hkey (hold x h)⟩
  · rw [Function.update_of_ne hji]

theorem unowned_update (hsole : Sole key own i) (hnew : ∀ x, p' = some x → x.key ≠ key) :
    Unowned key (Function.update own i p') := by
  intro j x hx hkey
  by_cases hji : j = i
  · subst hji
    rw [Function.update_self] at hx
    exact hnew x hx hkey
  · rw [Function.update_of_ne hji] at hx
    exact hji (hsole j x hx hkey)

theorem sole_update (hothers : ∀ j x, j ≠ i → own j = some x → x.key ≠ key) : Sole key (Function.update own i p') i := by
  intro j x hx hkey
  by_contra hji
  rw [Function.update_of_ne hji] at hx
  exact hothers j x hji hx hkey

theorem Unowned.sole_update (hnone : Unowned key own) : Sole key (Function.update own i p') i :=
  Codeoff.Slack.sole_update fun j x _ => hnone j x

theorem Sole.update (hsole : Sole key own i) : Sole key (Function.update own i p') i :=
  sole_update fun j x hji hx hkey => hji (hsole j x hx hkey)

/-! ### 一つの鍵についての一歩 -/

/-- 持ち主の変化が一つの鍵に限られれば、ほかの鍵は確かめ直さなくてよい。 -/
theorem DeliveryInv.move (h : DeliveryInv lost q own) (k : DeliveryKey) (hold : ∀ x, own i = some x → x.key = k)
    (hnew : ∀ x, p' = some x → x.key = k) (hkey : KeyState lost k q' (Function.update own i p'))
    (hrows : ∀ key, key ≠ k → rowOf key q'.store = rowOf key q.store)
    (hreceipts : ∀ key, key ≠ k → findReceipt key q'.store = findReceipt key q.store)
    (hsent : ∀ key, key ≠ k → postedCount key q'.writes = postedCount key q.writes)
    (hentries : ∀ key, key ≠ k → entryCount key q'.pendingCompletions = entryCount key q.pendingCompletions)
    (hchecked : ∀ e ∈ q'.pendingCompletions, Recordable lost e.receipt e.responseJson)
    (hclaims : ∀ receipt json, p' = some (.recording receipt json) → Recordable lost receipt json)
    (honce : q'.writes.Pairwise NotRepeated) : DeliveryInv lost q' (Function.update own i p') where
  keys key := by
    by_cases hsame : key = k
    · exact hsame ▸ hkey
    · refine (h.keys key).congr (update_own_iff ?_ ?_) (hrows key hsame) (hreceipts key hsame) (hsent key hsame)
        (hentries key hsame)
      · exact fun x hx hxk => hsame (hxk.symm.trans (hold x hx))
      · exact fun x hx hxk => hsame (hxk.symm.trans (hnew x hx))
  entries := hchecked
  claims j receipt json hj := by
    by_cases hji : j = i
    · subst hji
      rw [Function.update_self] at hj
      exact hclaims receipt json hj
    · rw [Function.update_of_ne hji] at hj
      exact h.claims j receipt json hj
  once := honce

theorem DeliveryInv.moveStore (h : DeliveryInv lost q own) (k : DeliveryKey) (hold : ∀ x, own i = some x → x.key = k)
    (hnew : ∀ x, p' = some x → x.key = k)
    (hkey : KeyState lost k { q with store := s' } (Function.update own i p'))
    (hrows : ∀ key, key ≠ k → rowOf key s' = rowOf key q.store)
    (hreceipts : ∀ key, key ≠ k → findReceipt key s' = findReceipt key q.store)
    (hclaims : ∀ receipt json, p' = some (.recording receipt json) → Recordable lost receipt json) :
    DeliveryInv lost { q with store := s' } (Function.update own i p') :=
  h.move k hold hnew hkey hrows hreceipts (fun _ _ => rfl) (fun _ _ => rfl) h.entries hclaims h.once

theorem DeliveryInv.keep (h : DeliveryInv lost q own) (hown : own i = p) :
    DeliveryInv lost q (Function.update own i p) := by
  rw [← hown, Function.update_eq_self]
  exact h

theorem DeliveryInv.memory (h : DeliveryInv lost q own) (hstore : q'.store = q.store) (hwrites : q'.writes = q.writes)
    (hpending : q'.pendingCompletions = q.pendingCompletions) : DeliveryInv lost q' own where
  keys key := (h.keys key).congr (fun _ _ _ => Iff.rfl) (by rw [hstore]) (by rw [hstore]) (by rw [hwrites])
    (by rw [hpending])
  entries := hpending ▸ h.entries
  claims := h.claims
  once := hwrites ▸ h.once

theorem QueueRewrite.rowOf_other {f : SlackDeliveryRow → SlackDeliveryRow} {s s' : DeliveryStore} {k : DeliveryKey}
    (h : QueueRewrite f s s') (hf : ∀ r, r.request.key ≠ k → f r = r) (hkey : key ≠ k) :
    rowOf key s' = rowOf key s := by
  rw [h.rows]
  cases hrow : rowOf key s with
  | none => rfl
  | some row =>
    have hother : row.request.key ≠ k := fun hsame => hkey ((mem_of_rowOf hrow).2.symm.trans hsame)
    rw [Option.map_some, hf row hother]

theorem QueueRewrite.findReceipt_eq {f : SlackDeliveryRow → SlackDeliveryRow} {s s' : DeliveryStore}
    (h : QueueRewrite f s s') : findReceipt key s' = findReceipt key s := by
  rw [findReceipt, findReceipt, h.receipts]

/-- 行を加えても、どの鍵の持ち主も変わらない。 -/
theorem DeliveryInv.enqueued {request : SlackDeliveryRequest} {now : Nat} {createdAt : Int}
    (h : DeliveryInv lost q own) (hown : own i = none) (heffect : Enqueued request now createdAt q.store s') :
    DeliveryInv lost { q with store := s' } (Function.update own i none) := by
  have hreceipt (key : DeliveryKey) : findReceipt key s' = findReceipt key q.store := by
    rw [findReceipt, findReceipt, heffect.receipts]
  have hsame {key : DeliveryKey} {row : SlackDeliveryRow} (hrow : rowOf key q.store = some row) :
      rowOf key s' = rowOf key q.store := by rw [heffect.kept key row hrow, hrow]
  refine h.moveStore request.key (by simp [hown]) (by simp) ?_ ?_ (fun key _ => hreceipt key) (by simp)
  · rw [← hown, Function.update_eq_self]
    have hstate := h.keys request.key
    cases hrow : rowOf request.key q.store with
    | some row =>
      exact hstate.congr (fun _ _ _ => Iff.rfl) (hsame hrow) (hreceipt _) rfl rfl
    | none =>
      -- 行のない鍵は、誰も持っていない
      cases hstate with
      | idle hnone hsent hentries => exact .idle hnone hsent hentries
      | sending _ _ _ _ hr => simp [hrow] at hr
      | recording _ _ _ _ _ _ _ hr => simp [hrow] at hr
      | deferred _ _ hr => simp [hrow] at hr
      | delivered _ _ hr => simp [hrow] at hr
      | orphaned _ _ _ hr => simp [hrow] at hr
  · intro key hkey
    cases hrow : rowOf key q.store with
    | some row => exact (hsame hrow).trans hrow
    | none => rw [heffect.fresh key hrow, if_neg hkey]

theorem KeyState.of_pending (h : KeyState lost key q own) {row : SlackDeliveryRow} (hrow : rowOf key q.store = some row)
    (hpending : row.status = .pending) :
    Unowned key own ∧ postedCount key q.writes = 0 ∧ entryCount key q.pendingCompletions = 0 := by
  cases h with
  | idle hnone hsent hentries => exact ⟨hnone, hsent, hentries⟩
  | sending _ other _ _ hr hst => simp_all
  | recording _ _ _ other _ _ _ hr hst => simp_all
  | deferred other _ hr hst => simp_all
  | delivered other _ hr hst => simp_all
  | orphaned other _ _ hr hst => simp_all

theorem DeliveryInv.claimed {now : Nat} (h : DeliveryInv lost q own) (hown : own i = none)
    (hclaims : Claims d now q.store s') :
    DeliveryInv lost { q with store := s' } (Function.update own i (some (.sending d))) := by
  obtain ⟨row, hrow, rfl, hpending, _⟩ := hclaims.row
  obtain ⟨hnone, hsent, hentries⟩ := (h.keys row.request.key).of_pending hrow hpending
  refine h.moveStore row.request.key (by simp [hown]) (by simp [DeliveryClaim.key]) ?_ ?_ ?_ (by simp)
  · have hnew : rowOf row.request.key s' = some (processing row) := by
      rw [hclaims.effect.rows, hrow]
      simp [hpending]
    exact .sending i (processing row) (Function.update_self ..) hnone.sole_update hnew rfl hsent hentries
  · exact fun key hkey => hclaims.effect.rowOf_other (fun r hr => by simp [hr]) hkey
  · exact fun key _ => hclaims.effect.findReceipt_eq

/-- 送ろうとしている呼び出しは、その鍵のただ一人の持ち主で、まだ送っていない。 -/
theorem KeyState.of_sending (h : KeyState lost d.key q own) (hown : own i = some (.sending d)) :
    ∃ row, row.request = d ∧ rowOf d.key q.store = some row ∧ row.status = .processing ∧ Sole d.key own i ∧
      postedCount d.key q.writes = 0 ∧ entryCount d.key q.pendingCompletions = 0 := by
  cases h with
  | idle hnone => exact absurd rfl (hnone i _ hown)
  | sending j row ho hsole hrow hstatus hsent hentries =>
    have hij : i = j := hsole i _ hown rfl
    subst hij
    rw [hown] at ho
    cases ho
    exact ⟨row, rfl, hrow, hstatus, hsole, hsent, hentries⟩
  | recording j receipt json row ho _ hsole =>
    have hij : i = j := hsole i _ hown rfl
    subst hij
    rw [hown] at ho
    cases ho
  | deferred _ hnone => exact absurd rfl (hnone i _ hown)
  | delivered _ hnone => exact absurd rfl (hnone i _ hown)
  | orphaned _ _ hnone => exact absurd rfl (hnone i _ hown)

theorem KeyState.of_recording (h : KeyState lost receipt.key q own)
    (hown : own i = some (.recording receipt responseJson)) :
    ∃ row, rowOf receipt.key q.store = some row ∧ row.status = .processing ∧ Sole receipt.key own i ∧
      postedCount receipt.key q.writes = 1 ∧ entryCount receipt.key q.pendingCompletions = 0 := by
  cases h with
  | idle hnone => exact absurd rfl (hnone i _ hown)
  | sending j row ho hsole =>
    have hij : i = j := hsole i _ hown rfl
    subst hij
    rw [hown] at ho
    cases ho
  | recording j other json row ho _ hsole hrow hstatus hsent hentries =>
    exact ⟨row, hrow, hstatus, (hsole i _ hown rfl) ▸ hsole, hsent, hentries⟩
  | deferred _ hnone => exact absurd rfl (hnone i _ hown)
  | delivered _ hnone => exact absurd rfl (hnone i _ hown)
  | orphaned _ _ hnone => exact absurd rfl (hnone i _ hown)

theorem DeliveryInv.returned {availableAt : Nat} (h : DeliveryInv lost q own) (hown : own i = some (.sending d))
    (hretry : retrySlackDelivery d.key availableAt q.store = .ok ((), s')) :
    DeliveryInv lost { q with store := s' } (Function.update own i none) := by
  obtain ⟨s₁, hrun, heffect⟩ := retrySlackDelivery_run d.key availableAt q.store
  rw [hrun] at hretry
  cases hretry
  obtain ⟨_, _, _, _, hsole, hsent, hentries⟩ := (h.keys d.key).of_sending hown
  refine h.moveStore d.key (by simp [hown, DeliveryClaim.key]) (by simp) ?_ ?_ ?_ (by simp)
  · exact .idle (unowned_update hsole (by simp)) hsent hentries
  · exact fun key hkey => heffect.rowOf_other (fun r hr => by simp [hr]) hkey
  · exact fun key _ => heffect.findReceipt_eq

/-- 記録が済めば、鍵は持ち主を離れ、受領記録が残る。 -/
theorem DeliveryInv.completed {next : Nat} (h : DeliveryInv lost q own)
    (hown : own i = some (.recording receipt responseJson)) (heffect : Completed receipt next q.store s') :
    DeliveryInv lost { q with store := s' } (Function.update own i none) := by
  obtain ⟨row, hrow, _, hsole, hsent, hentries⟩ := (h.keys receipt.key).of_recording hown
  refine h.moveStore receipt.key (by simp [hown, DeliveryClaim.key]) (by simp) ?_ ?_ (fun key => heffect.others key)
    (by simp)
  · have hnew : rowOf receipt.key s' = some { row with status := .delivered } := by
      rw [heffect.rows, hrow]
      simp [(mem_of_rowOf hrow).2]
    exact .delivered _ (unowned_update hsole (by simp)) hnew rfl hsent hentries heffect.recorded
  · intro key hkey
    rw [heffect.rows]
    cases hold : rowOf key q.store with
    | none => rfl
    | some other =>
      have hother : other.request.key ≠ receipt.key := fun hsame => hkey ((mem_of_rowOf hold).2.symm.trans hsame)
      simp [hother]

theorem DeliveryInv.pushed {e : PendingSlackCompletion} (h : DeliveryInv lost q own)
    (hown : own i = some (.recording e.receipt e.responseJson)) :
    DeliveryInv lost (pushPending e q) (Function.update own i none) := by
  obtain ⟨row, hrow, hstatus, hsole, hsent, hentries⟩ := (h.keys e.receipt.key).of_recording hown
  refine h.move e.receipt.key (by simp [hown, DeliveryClaim.key]) (by simp) ?_ (fun _ _ => rfl) (fun _ _ => rfl)
    (fun _ _ => rfl) ?_ ?_ (by simp) h.once
  · refine .deferred row (unowned_update hsole (by simp)) hrow hstatus hsent ?_
    simp [pushPending, entryCount_append, hentries]
  · intro key hkey
    simp [pushPending, entryCount_append, hkey.symm]
  · simp only [pushPending, List.forall_mem_append, List.forall_mem_singleton]
    exact ⟨h.entries, h.claims i _ _ hown⟩

theorem DeliveryInv.taken {now : Nat} {e : PendingSlackCompletion} (h : DeliveryInv lost q own) (hown : own i = none)
    (htake : takeDuePending now q = (some e, q')) :
    DeliveryInv lost q' (Function.update own i (some (.recording e.receipt e.responseJson))) := by
  unfold takeDuePending at htake
  split at htake
  · cases htake
  rename_i n _
  obtain ⟨he, rfl⟩ := Prod.mk.inj htake
  have hcount (key : DeliveryKey) : entryCount key (q.pendingCompletions.eraseIdx n) +
      (if e.receipt.key = key then 1 else 0) = entryCount key q.pendingCompletions := entryCount_eraseIdx he
  have hmem := List.mem_of_getElem? he
  refine h.move e.receipt.key (by simp [hown]) (by simp [DeliveryClaim.key]) ?_ (fun _ _ => rfl) (fun _ _ => rfl)
    (fun _ _ => rfl) ?_ ?_ ?_ h.once
  · -- 控えのある鍵は、後回しの場面にある
    have hpos := hcount e.receipt.key
    rw [if_pos rfl] at hpos
    cases h.keys e.receipt.key with
    | idle _ _ hentries => omega
    | sending _ _ _ _ _ _ _ hentries => omega
    | recording _ _ _ _ _ _ _ _ _ _ hentries => omega
    | deferred row hnone hrow hstatus hsent hentries =>
      exact .recording i e.receipt e.responseJson row (Function.update_self ..) rfl hnone.sole_update hrow hstatus
        hsent (by simp only; omega)
    | delivered _ _ _ _ _ hentries => omega
    | orphaned _ _ _ _ _ _ hentries => omega
  · intro key hkey
    have hsame := hcount key
    rw [if_neg hkey.symm] at hsame
    simpa using hsame
  · exact fun x hx => h.entries x (List.mem_of_mem_eraseIdx hx)
  · intro receipt json hclaim
    cases hclaim
    exact h.entries e hmem

theorem callSlack_writes {now : Nat} {answer : SlackAnswer} (h : answer ≠ .unsent) :
    (callSlack d now answer q).writes = q.writes ++ [⟨d, now, answer⟩] := by
  rw [callSlack, if_neg h]

theorem DeliveryInv.once_call {now : Nat} {answer : SlackAnswer} (h : DeliveryInv lost q own)
    (hown : own i = some (.sending d)) : (q.writes ++ [(⟨d, now, answer⟩ : SlackWrite)]).Pairwise NotRepeated := by
  obtain ⟨_, _, _, _, _, hsent, _⟩ := (h.keys d.key).of_sending hown
  refine List.pairwise_append.mpr ⟨h.once, List.pairwise_singleton .., fun w hw later hlater => ?_⟩
  rw [List.mem_singleton.mp hlater]
  exact fun hposted => postedCount_eq_zero hsent w hw hposted

theorem DeliveryInv.called {now : Nat} {answer : SlackAnswer} (h : DeliveryInv lost q own)
    (hown : own i = some (.sending d)) (hanswer : answer.isPosted = false) :
    DeliveryInv lost (callSlack d now answer q) (Function.update own i (some (.sending d))) := by
  rw [← hown, Function.update_eq_self]
  by_cases hsent : answer = .unsent
  · rwa [callSlack, if_pos hsent]
  · rw [callSlack, if_neg hsent]
    refine ⟨fun key => ?_, h.entries, h.claims, h.once_call hown⟩
    refine (h.keys key).congr (fun _ _ _ => Iff.rfl) rfl rfl ?_ rfl
    simp [postedCount_append, hanswer]

/-- 成功の答えを受けた呼び出しは、記録するまで鍵を持ち続ける。 -/
theorem DeliveryInv.calledPosted {now : Nat} {posted : SlackPostedMessage} (h : DeliveryInv lost q own)
    (hown : own i = some (.sending d))
    (hposted : lost ∨ 0 < sqlLength posted.channelId ∧ 0 < sqlLength posted.messageTs) :
    DeliveryInv lost (callSlack d now (.posted posted) q)
      (Function.update own i (some (.recording (receiptOf d posted) posted.responseBody))) := by
  obtain ⟨row, rfl, hrow, hstatus, hsole, hsent, hentries⟩ := (h.keys d.key).of_sending hown
  have hwrites : (callSlack row.request now (.posted posted) q).writes =
      q.writes ++ [(⟨row.request, now, .posted posted⟩ : SlackWrite)] := callSlack_writes (by simp)
  have hcount (key : DeliveryKey) : postedCount key (q.writes ++ [(⟨row.request, now, .posted posted⟩ : SlackWrite)]) =
      postedCount key q.writes + if row.request.key = key ∧ (SlackAnswer.posted posted).isPosted = true then 1 else 0 :=
    postedCount_append
  have hstore : (callSlack row.request now (.posted posted) q).store = q.store := by rw [callSlack, if_neg (by simp)]
  have hpending : (callSlack row.request now (.posted posted) q).pendingCompletions = q.pendingCompletions := by
    rw [callSlack, if_neg (by simp)]
  have hkey : (receiptOf row.request posted).key = row.request.key := rfl
  refine h.move row.request.key (by simp [hown, DeliveryClaim.key]) (by simp [DeliveryClaim.key, hkey]) ?_
    (fun _ _ => by rw [hstore]) (fun _ _ => by rw [hstore]) ?_ (fun _ _ => by rw [hpending]) ?_ ?_ ?_
  · refine .recording i _ _ row (Function.update_self ..) hkey hsole.update (by rw [hstore, hrow]) hstatus ?_ ?_
    · rw [hwrites, hcount]
      simp [hsent, SlackAnswer.isPosted]
    · rw [hpending, hentries]
  · intro key hother
    rw [hwrites, hcount]
    simp [hother.symm]
  · rw [hpending]
    exact h.entries
  · intro receipt json hclaim
    cases hclaim
    refine hposted.imp id fun hposted => ?_
    have hcheck : row.Check := of_decide_eq_true (q.store.queue.checked row (mem_of_rowOf hrow).1)
    obtain ⟨⟨hconnector, hworkspace, hdedupe, _, _⟩, hsender, _, _⟩ := hcheck
    exact ⟨⟨hconnector, hworkspace, hposted.1, hposted.2, hdedupe⟩, hsender⟩
  · rw [hwrites]
    exact h.once_call hown

theorem DeliveryInv.abandoned (h : DeliveryInv lost q own) (hown : own i = some (.sending d)) :
    DeliveryInv lost q (Function.update own i none) := by
  obtain ⟨_, _, _, _, hsole, hsent, hentries⟩ := (h.keys d.key).of_sending hown
  exact h.move d.key (by simp [hown, DeliveryClaim.key]) (by simp)
    (.idle (unowned_update hsole (by simp)) hsent hentries) (fun _ _ => rfl) (fun _ _ => rfl) (fun _ _ => rfl)
    (fun _ _ => rfl) h.entries (by simp) h.once

theorem DeliveryInv.forgotten (h : DeliveryInv lost q own) (hlost : lost)
    (hown : own i = some (.recording receipt responseJson)) : DeliveryInv lost q (Function.update own i none) := by
  obtain ⟨row, hrow, hstatus, hsole, hsent, hentries⟩ := (h.keys receipt.key).of_recording hown
  exact h.move receipt.key (by simp [hown, DeliveryClaim.key]) (by simp)
    (.orphaned row hlost (unowned_update hsole (by simp)) hrow hstatus hsent hentries) (fun _ _ => rfl)
    (fun _ _ => rfl) (fun _ _ => rfl) (fun _ _ => rfl) h.entries (by simp) h.once

/-- プロセスが変わると、記録できていない成功の控えは失われる。 -/
theorem DeliveryInv.restart (h : DeliveryInv True q own) : DeliveryInv True q.restart fun _ => none where
  keys key := by
    have hnone : Unowned key fun _ => none := by simp [Unowned]
    have hentries : entryCount key q.restart.pendingCompletions = 0 := by
      simp [SlackDeliveryQueue.restart, SlackDeliveryQueue.new, entryCount]
    cases h.keys key with
    | idle _ hsent => exact .idle hnone hsent hentries
    | sending _ _ _ _ _ _ hsent => exact .idle hnone hsent hentries
    | recording _ _ _ row _ _ _ hrow hstatus hsent => exact .orphaned row trivial hnone hrow hstatus hsent hentries
    | deferred row _ hrow hstatus hsent => exact .orphaned row trivial hnone hrow hstatus hsent hentries
    | delivered row _ hrow hstatus hsent _ hrecorded =>
      exact .delivered row hnone hrow hstatus hsent hentries hrecorded
    | orphaned row _ _ hrow hstatus hsent => exact .orphaned row trivial hnone hrow hstatus hsent hentries
  entries := by simp [SlackDeliveryQueue.restart, SlackDeliveryQueue.new]
  claims := by simp
  once := h.once

theorem DeliveryInv.new (lost : Prop) (store : DeliveryStore) :
    DeliveryInv lost (SlackDeliveryQueue.new store) fun _ => none where
  keys _ := .idle (by simp [Unowned]) rfl rfl
  entries := by simp [SlackDeliveryQueue.new]
  claims := by simp
  once := .nil

end Codeoff.Slack
