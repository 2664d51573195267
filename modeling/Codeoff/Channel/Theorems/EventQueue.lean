import Codeoff.Channel.Store

/-!
# 待ち行列の出来事

加える、取る、終える、失敗を記す、戻すのどの並びでも、取られていない出来事の試行は 0、取られた出来事の試行は 1 である。
-/

namespace Codeoff.Channel

open Codeoff.Relational Codeoff.Slack

inductive QueueCall where
  | persist (now : Int) (source : SlackSourceEvent) (event : ChannelEvent)
  | claim (now : Int)
  | complete (id : Nat)
  | release (id delaySeconds : Nat) (now : Int)
  | fail (id : Nat) (error : String)

/-- 取れた出来事を返す。 -/
def QueueCall.run : QueueCall → ChannelTx (Option ClaimedChannelEvent)
  | .persist now source event => do
    let _ ← persistSlackSourceEvent now source event
    return none
  | .claim now => claimNextChannelEvent now
  | .complete id => do
    completeChannelEvent id
    return none
  | .release id delaySeconds now => do
    releaseChannelEvent id delaySeconds now
    return none
  | .fail id error => do
    failChannelEvent id error
    return none

/-- 取られている出来事 `id` を戻す呼び出しか。 -/
def QueueCall.returns (id : Nat) (s : ChannelStore) : QueueCall → Bool
  | .release i _ _ => i == id && s.queue.rows.any fun r => r.id == id && r.status == .processing
  | _ => false

/-- 保存領域と、出来事 `id` の取られた回数と戻された回数。 -/
structure QueueHistory where
  store : ChannelStore
  claims : Nat
  returned : Nat

def QueueHistory.after (id : Nat) (h : QueueHistory) (c : QueueCall) : QueueHistory :=
  match c.run h.store with
  | .error _ => h
  | .ok (claimed, store) =>
    { store
      claims := h.claims + if claimed.any (·.id == id) then 1 else 0
      returned := h.returned + if c.returns id h.store then 1 else 0 }

/-- 待っている出来事は、取られるたびに戻されていて、試行は 0 である。ほかの出来事は、戻されずに一度取られていて、試行は 1 である。 -/
def Tally (claims returned : Nat) (r : ChannelEventRow) : Prop :=
  if r.status = .pending then r.attemptCount = 0 ∧ claims = returned
  else r.attemptCount = 1 ∧ claims = returned + 1

structure Counted (id : Nat) (h : QueueHistory) : Prop where
  rows : ∀ r ∈ h.store.queue.rows, r.id = id → Tally h.claims h.returned r
  absent : (∀ r ∈ h.store.queue.rows, r.id ≠ id) → h.claims = 0 ∧ h.returned = 0

variable {id : Nat} {h h' : QueueHistory} {T : Table channelEventQueue} {s s' : ChannelStore} {u : Unit}
  {p : ChannelEventRow → Bool} {f : ChannelEventRow → ChannelEventRow}

/-- 先に来たほうの行。 -/
def earlierEvent (best : Option ChannelEventRow) (r : ChannelEventRow) : Option ChannelEventRow :=
  match best with
  | none => some r
  | some b => if r.before b then some r else some b

theorem nextDueEvent_mem {now : Int} {row : ChannelEventRow} (hdue : nextDueEvent now T = some row) :
    row ∈ T.rows ∧ row.status = .pending := by
  have hfold (rows : List ChannelEventRow) (best : Option ChannelEventRow)
      (h : rows.foldl earlierEvent best = some row) : row ∈ rows ∨ best = some row := by
    induction rows generalizing best with
    | nil => exact .inr h
    | cons r rows ih =>
      rcases ih _ h with hmem | hbest
      · exact .inl (List.mem_cons_of_mem _ hmem)
      · unfold earlierEvent at hbest
        grind
  rcases hfold _ _ hdue with hmem | hnone
  · obtain ⟨hmem, hp⟩ := List.mem_filter.mp hmem
    simp only [Bool.and_eq_true, beq_iff_eq] at hp
    exact ⟨hmem, hp.1⟩
  · cases hnone

theorem eq_of_eventId {a b : ChannelEventRow} (ha : a ∈ T.rows) (hb : b ∈ T.rows) (h : a.id = b.id) : a = b :=
  T.eq_of_conflict ha hb (by simp [channelEventQueue, h])

theorem updateQueue_ok {n : Nat} (hrun : updateQueue p f s = .ok (n, s')) : s.queue.Rewrites p f s'.queue := by
  obtain ⟨T, hT, rfl⟩ := onTable_ok.mp hrun
  exact (Table.update_ok.mp hT).1.toRewrites

theorem updateClaimed_ok {i : Nat} (hrun : updateClaimed i f s = .ok (u, s')) :
    s.queue.Rewrites (fun r => r.id == i && r.status == .processing) f s'.queue := by
  obtain ⟨_, _, hrun, hdone⟩ := Tx.bind_ok.mp hrun
  cases hdone
  exact updateQueue_ok hrun

/-- 番号を変えない書き換えは、番号 `id` の行の数え方が合えば、回数の関係を保つ。 -/
theorem Counted.rewritten (hc : Counted id h) (hT : h.store.queue.Rewrites p f h'.store.queue)
    (hid : ∀ r, (f r).id = r.id)
    (hrow : ∀ r ∈ h.store.queue.rows, r.id = id → Tally h.claims h.returned r →
      Tally h'.claims h'.returned (if p r then f r else r))
    (hcounts : (∀ r ∈ h.store.queue.rows, r.id ≠ id) → h'.claims = h.claims ∧ h'.returned = h.returned) :
    Counted id h' := by
  refine ⟨fun r' hr' hsame => ?_, fun hnone => ?_⟩
  · rcases hT.mem.mp hr' with ⟨r, hr, hp, rfl⟩ | ⟨hr, hp⟩
    · have hold := (hid r).symm.trans hsame
      simpa [hp] using hrow r hr hold (hc.rows r hr hold)
    · simpa [hp] using hrow r' hr hsame (hc.rows r' hr hsame)
  · have hold (r) (hr : r ∈ h.store.queue.rows) : r.id ≠ id := by
      cases hp : p r with
      | true => exact hid r ▸ hnone _ (hT.mem_image hr hp)
      | false => exact hnone r (hT.mem_of_not hr hp)
    obtain ⟨hclaims, hreturned⟩ := hcounts hold
    rw [hclaims, hreturned]
    exact hc.absent hold

theorem Counted.claimed {now : Int} {claimed : Option ClaimedChannelEvent} (hc : Counted id h)
    (hrun : claimNextChannelEvent now h.store = .ok (claimed, s')) :
    Counted id ⟨s', h.claims + if claimed.any (·.id == id) then 1 else 0, h.returned⟩ := by
  unfold claimNextChannelEvent at hrun
  rw [Tx.read_bind_apply] at hrun
  cases hdue : nextDueEvent now h.store.queue with
  | none =>
    rw [hdue] at hrun
    cases hrun
    exact hc
  | some row =>
    rw [hdue] at hrun
    obtain ⟨_, _, hupdate, hdone⟩ := Tx.bind_ok.mp hrun
    cases hdone
    obtain ⟨hrow, hpending⟩ := nextDueEvent_mem hdue
    refine hc.rewritten (updateQueue_ok hupdate) (fun _ => rfl) (fun r hr hid htally => ?_) fun hnone => ?_
    · by_cases hsame : row.id = id
      · rw [eq_of_eventId hr hrow (hid.trans hsame.symm)] at htally ⊢
        simp_all [Tally]
      · have hother : r.id ≠ row.id := fun h => hsame (h.symm.trans hid)
        simpa [hsame, hother] using htally
    · simp [hnone row hrow]

theorem Counted.persisted {now : Int} {source : SlackSourceEvent} {event : ChannelEvent} {b : Bool}
    (hc : Counted id h) (hrun : persistSlackSourceEvent now source event h.store = .ok (b, s')) :
    Counted id ⟨s', h.claims, h.returned⟩ := by
  obtain ⟨_, s1, hsource, hrun⟩ := Tx.bind_ok.mp hrun
  obtain ⟨_, _, rfl⟩ := onTable_ok.mp hsource
  split at hrun
  · obtain ⟨_, s2, hqueue, hrun⟩ := Tx.bind_ok.mp hrun
    cases hrun
    obtain ⟨T, hT, rfl⟩ := onTable_ok.mp hqueue
    obtain ⟨_, ⟨_, rfl, _⟩ | ⟨_, hT⟩⟩ := Table.insertOrIgnore_ok.mp hT
    · exact ⟨hc.rows, hc.absent⟩
    · refine ⟨fun r' hr' hid => ?_, fun hnone => hc.absent fun r hr => hnone r (hT.mem.mpr (.inl hr))⟩
      rcases hT.mem.mp hr' with hr | rfl
      · exact hc.rows r' hr hid
      -- 新しい番号の出来事は、まだ取られていない。
      · have hfresh := hc.absent fun r hr hsame => by
          have hlt : r.id < h.store.queue.nextRowId ChannelEventRow.id := h.store.queue.lt_nextRowId hr
          simp only [queuedRow] at hid
          omega
        simp [Tally, queuedRow, hfresh]
  · cases hrun
    exact ⟨hc.rows, hc.absent⟩

theorem Counted.after (hc : Counted id h) (c : QueueCall) : Counted id (h.after id c) := by
  unfold QueueHistory.after
  cases hrun : c.run h.store with
  | error v => exact hc
  | ok p =>
    obtain ⟨claimed, s'⟩ := p
    cases c with
    | claim now => exact hc.claimed hrun
    | persist now source event =>
      obtain ⟨b, _, hrun, hdone⟩ := Tx.bind_ok.mp hrun
      cases hdone
      exact hc.persisted hrun
    | complete i | fail i error =>
      obtain ⟨_, _, hrun, hdone⟩ := Tx.bind_ok.mp hrun
      cases hdone
      refine hc.rewritten (updateClaimed_ok hrun) (fun _ => rfl) (fun r hr hid htally => ?_) fun _ => ⟨rfl, rfl⟩
      grind [Tally, QueueCall.returns]
    | release i delaySeconds now =>
      obtain ⟨_, _, hrun, hdone⟩ := Tx.bind_ok.mp hrun
      cases hdone
      refine hc.rewritten (updateClaimed_ok hrun) (fun _ => rfl) (fun r hr hid htally => ?_) fun hnone => ?_
      · have hany : (h.store.queue.rows.any fun o => o.id == id && o.status == .processing) = (r.status == .processing) := by
          rw [Bool.eq_iff_iff, List.any_eq_true]
          constructor
          · rintro ⟨o, ho, hp⟩
            simp only [Bool.and_eq_true, beq_iff_eq] at hp
            rw [← eq_of_eventId ho hr (hp.1.trans hid.symm)]
            simpa using hp.2
          · exact fun hp => ⟨r, hr, by simpa [hid] using hp⟩
        simp only [QueueCall.returns, hany]
        grind [Tally]
      · simp only [QueueCall.returns]
        grind

/-- どの呼び出しの並びでも、一つの出来事が取られる回数は、取られてから戻された回数より高々一つ多い。 -/
theorem events_claimed_once (calls : List QueueCall) (id : Nat) :
    let h := calls.foldl (QueueHistory.after id) ⟨.empty, 0, 0⟩
    h.claims ≤ h.returned + 1 ∧ ∀ r ∈ h.store.queue.rows, r.id = id → Tally h.claims h.returned r := by
  have hrun (h : QueueHistory) (hc : Counted id h) : Counted id (calls.foldl (QueueHistory.after id) h) := by
    induction calls generalizing h with
    | nil => exact hc
    | cons c calls ih => exact ih _ (hc.after c)
  have hc := hrun ⟨.empty, 0, 0⟩ ⟨by simp [ChannelStore.empty], fun _ => ⟨rfl, rfl⟩⟩
  refine ⟨?_, hc.rows⟩
  by_cases hfound : ∃ r ∈ (calls.foldl (QueueHistory.after id) ⟨.empty, 0, 0⟩).store.queue.rows, r.id = id
  · obtain ⟨r, hr, hid⟩ := hfound
    grind [Tally, hc.rows r hr hid]
  · grind [hc.absent (by simpa using hfound)]

end Codeoff.Channel
