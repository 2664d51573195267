import Codeoff.Slack.Lemmas.DeliveryThreads

/-!
# 送信についての約束

間隔と、待てという答えと、一度だけの送信。
-/

/-! ## 例で使う呼び出し -/

namespace Codeoff.Slack

def queuedText (channelId key : String) : SlackDeliveryRequest where
  connectorId := "slack"
  workspaceId := "T1"
  requestDedupeKey := key
  channelId := channelId
  threadTs := none
  text := "done"
  sender := .bot
  operation := .postMessage

def postedTo (channelId messageTs : String) : SlackAnswer :=
  .posted {
    channelId
    threadTs := none
    responseMessageTs := some messageTs
    responseTeamId := some "T1"
    messageTs
    responseBody := "\x7b\x7d" }

def callAt (now : Nat) (operation : SlackOperation) (answer : SlackAnswer) : SlackCall where
  operation := operation
  now := now
  answer := answer
  faults _ := none

end Codeoff.Slack

/-!
## 同じ宛先への送信の間隔

間隔は、Slack の答えたチャネルの名で、送信間隔の表か控えに残る。
-/

namespace Codeoff.Slack.ChannelSpacing

open Codeoff.Control Codeoff.Relational
open Codeoff.Slack.WebApi (SlackPostedMessage)

variable {interval : Nat} {q : SlackDeliveryQueue} {c : SlackCall} {d : SlackDeliveryRequest} {w : SlackWrite}
  {posted : SlackPostedMessage}

/-- 同じチャネルの行の二つの成功は、`interval` 秒以上離れている。 -/
def Spaced (interval : Nat) (w later : SlackWrite) : Prop :=
  ∀ posted, w.answer = .posted posted → ∀ answer, later.answer = .posted answer →
    later.request.channel = w.request.channel → w.time + interval ≤ later.time

/-- 成功 `w` の間隔が、行 `d` を送るときに見られる場所にある。Slack は行のチャネルの名で答え、間隔は表に記録されたか、呼び出しが
引く控えにあり、時計は符号つき 64 ビットの上限より前にある。 -/
def Visible (interval : Nat) (q : SlackDeliveryQueue) (c : SlackCall) (d : SlackDeliveryRequest) (w : SlackWrite)
    (posted : SlackPostedMessage) : Prop :=
  posted.channelId = w.request.channelId ∧ c.now < i64Max ∧
    (toI64 (saturatingAdd w.time interval) ≤ throttleOf d.channel q.store ∨ consults c d = true)

/-- 呼び出しが送る行のチャネルで、間隔の見えない成功からは、間隔が過ぎている。 -/
def InvisiblePassed (interval : Nat) (q : SlackDeliveryQueue) (c : SlackCall) : Prop :=
  ∀ d, nextSend c q = some d → ∀ answer, c.answer = .posted answer → ∀ w ∈ q.writes, ∀ posted,
    w.answer = .posted posted → d.channel = w.request.channel → ¬ Visible interval q c d w posted →
    w.time + interval ≤ c.now

theorem le_of_saturatingAdd_le {a b now : Nat} (hnow : now < i64Max) (h : saturatingAdd a b ≤ now) : a + b ≤ now := by
  have hmax : i64Max < u64Max := by decide
  unfold saturatingAdd at h
  omega

theorem visible_passed (h : Ledger interval q.writes q) (hsend : nextSend c q = some d) (hw : w ∈ q.writes)
    (hposted : w.answer = .posted posted) (hchannel : d.channel = w.request.channel)
    (hvisible : Visible interval q c d w posted) : w.time + interval ≤ c.now := by
  obtain ⟨hsame, hnow, hplace⟩ := hvisible
  obtain ⟨_, hthrottle, hmemory⟩ := nextSend_taken h hsend
  have hanswered : (receiptOf w.request posted).channel = d.channel := by
    rw [hchannel]
    exact congrArg (w.request.workspaceId, ·) hsame
  by_cases hrecorded : toI64 (saturatingAdd w.time interval) ≤ throttleOf d.channel q.store
  · exact le_of_toI64_le hnow (Int.le_trans hrecorded hthrottle)
  · have hconsults := hplace.resolve_left hrecorded
    have hcovered := h.spaced w hw posted hposted
    rw [hanswered] at hcovered
    obtain ⟨v, hv, hbound⟩ := hcovered.resolve_right hrecorded
    exact le_of_saturatingAdd_le hnow (hbound.trans (hmemory hconsults v hv))

theorem emitted_spaced_iff (h : Ledger interval q.writes q) :
    (∀ later ∈ emitted c q, ∀ w ∈ q.writes, Spaced interval w later) ↔ InvisiblePassed interval q c := by
  constructor
  · intro hspaced d hsend answer hanswer w hw posted hposted hchannel _
    have hlater : (⟨d, c.now, c.answer⟩ : SlackWrite) ∈ emitted c q :=
      mem_emitted.mpr ⟨d, hsend, by simp [hanswer], rfl⟩
    exact hspaced _ hlater w hw posted hposted answer hanswer hchannel
  · intro hpassed later hlater w hw posted hposted answer hanswer hchannel
    obtain ⟨d, hsend, _, rfl⟩ := mem_emitted.mp hlater
    by_cases hvisible : Visible interval q c d w posted
    · exact visible_passed h hsend hw hposted hchannel hvisible
    · exact hpassed d hsend answer hanswer w hw posted hposted hchannel hvisible

/-- どの呼び出しの列でも、同じ宛先への成功が間隔を守るのは、どの呼び出しも、間隔の見えない成功から間隔の過ぎた行だけを送る
ときである。 -/
theorem sends_spaced_iff (interval : Nat) (store : DeliveryStore) (calls : List SlackCall) :
    (runCalls interval (.new store) calls).writes.Pairwise (Spaced interval) ↔
      StepsMeet (runCall interval) (InvisiblePassed interval) (.new store) calls :=
  runCalls_pairwise_iff (fun _ _ h => emitted_spaced_iff h) store calls

/-- 利用者 `U1` 宛ての二行に、Slack は直接のメッセージのチャネル `D9` で答える。 -/
def directCalls : List SlackCall := [
  callAt 100 (.enqueue (queuedText "U1" "a") 0) .unsent,
  callAt 100 (.enqueue (queuedText "U1" "b") 0) .unsent,
  callAt 100 .drainDueOnce (postedTo "D9" "1.1"),
  callAt 100 .drainDueOnce (postedTo "D9" "1.2")]

/-- 答えのチャネルの名で残した間隔は、利用者の名で待つ次の行からは見えない。 -/
theorem direct_messages_not_spaced :
    ¬ ∀ (interval : Nat) (store : DeliveryStore) (calls : List SlackCall),
      calls.Pairwise (fun a b => a.now ≤ b.now) →
        (runCalls interval (.new store) calls).writes.Pairwise (Spaced interval) := by
  intro hclaim
  have hwrites : (runCalls 1 (.new .empty) directCalls).writes =
      [⟨queuedText "U1" "a", 100, postedTo "D9" "1.1"⟩, ⟨queuedText "U1" "b", 100, postedTo "D9" "1.2"⟩] := by
    decide +kernel
  have hpair := hclaim 1 .empty directCalls (by simp [directCalls, callAt])
  rw [hwrites] at hpair
  have hspaced := List.rel_of_pairwise_cons hpair (List.mem_singleton.mpr rfl) _ rfl _ rfl rfl
  simp at hspaced

end Codeoff.Slack.ChannelSpacing

/-!
## Retry-After の効く範囲

429 を受けた時刻は、その行の `available_at` にだけ残る。
-/

namespace Codeoff.Slack.RetryAfter

open Codeoff.Control Codeoff.Relational

variable {interval : Nat} {q : SlackDeliveryQueue} {c : SlackCall}

/-- `w` が 429 と Retry-After を受けていれば、同じチャネルへの `later` はその後にある。 -/
def HeldBack (w later : SlackWrite) : Prop :=
  ∀ r, w.answer = .rateLimited (some r) → later.request.channel = w.request.channel → w.time + r ≤ later.time

/-- 呼び出しが送る行のチャネルで、ほかの行が受けた Retry-After は過ぎている。時計が符号つき 64 ビットの上限にあれば、同じ行が
受けたものも過ぎている。 -/
def OtherRowsPassed (q : SlackDeliveryQueue) (c : SlackCall) : Prop :=
  ∀ d, nextSend c q = some d → c.answer ≠ .unsent → ∀ w ∈ q.writes, ∀ r, w.answer = .rateLimited (some r) →
    d.channel = w.request.channel → (w.request.key ≠ d.key ∨ i64Max ≤ c.now) → w.time + r ≤ c.now

theorem same_row_passed {ws : List SlackWrite} (h : Ledger interval ws q) {d : SlackDeliveryRequest}
    (hsend : nextSend c q = some d) (hnow : c.now < i64Max) {w : SlackWrite} (hw : w ∈ ws)
    (hkey : w.request.key = d.key) {r : Nat} (hanswer : w.answer = .rateLimited (some r)) : w.time + r ≤ c.now := by
  obtain ⟨hdue, _, _⟩ := nextSend_taken h hsend
  exact le_of_toI64_le hnow (hdue w hw hkey r hanswer)

theorem emitted_heldBack_iff (h : Ledger interval q.writes q) :
    (∀ later ∈ emitted c q, ∀ w ∈ q.writes, HeldBack w later) ↔ OtherRowsPassed q c := by
  constructor
  · intro hheld d hsend hsent w hw r hanswer hchannel _
    exact hheld _ (mem_emitted.mpr ⟨d, hsend, hsent, rfl⟩) w hw r hanswer hchannel
  · intro hpassed later hlater w hw r hanswer hchannel
    obtain ⟨d, hsend, hsent, rfl⟩ := mem_emitted.mp hlater
    by_cases hother : w.request.key ≠ d.key ∨ i64Max ≤ c.now
    · exact hpassed d hsend hsent w hw r hanswer hchannel hother
    · simp only [not_or, not_not, not_le] at hother
      exact same_row_passed h hsend hother.2 hw hother.1 hanswer

/-- どの呼び出しの列でも、Retry-After がチャネル全体に効くのは、どの呼び出しも、ほかの行の Retry-After の過ぎた行だけを送る
ときである。 -/
theorem channel_held_back_iff (interval : Nat) (store : DeliveryStore) (calls : List SlackCall) :
    (runCalls interval (.new store) calls).writes.Pairwise HeldBack ↔
      StepsMeet (runCall interval) OtherRowsPassed (.new store) calls :=
  runCalls_pairwise_iff (fun _ _ h => emitted_heldBack_iff h) store calls

def limitedCalls : List SlackCall := [
  callAt 100 (.enqueue (queuedText "C1" "a") 0) .unsent,
  callAt 100 (.enqueue (queuedText "C1" "b") 0) .unsent,
  callAt 100 .drainDueOnce (.rateLimited (some 60)),
  callAt 101 .drainDueOnce .failed]

/-- 429 を受けた行だけが待ち直し、同じチャネルの次の行は一秒後に送られる。 -/
theorem other_row_not_held_back :
    ¬ ∀ (interval : Nat) (store : DeliveryStore) (calls : List SlackCall),
      calls.Pairwise (fun a b => a.now ≤ b.now) → (runCalls interval (.new store) calls).writes.Pairwise HeldBack := by
  intro hclaim
  have hwrites : (runCalls 1 (.new .empty) limitedCalls).writes =
      [⟨queuedText "C1" "a", 100, .rateLimited (some 60)⟩, ⟨queuedText "C1" "b", 101, .failed⟩] := by
    decide +kernel
  have hpair := hclaim 1 .empty limitedCalls (by simp [limitedCalls, callAt])
  rw [hwrites] at hpair
  have hheld := List.rel_of_pairwise_cons hpair (List.mem_singleton.mpr rfl) 60 rfl rfl
  simp at hheld

end Codeoff.Slack.RetryAfter

/-!
## 成功した送信は一度だけ

いくつもの呼び出しがどう交わっても、鍵ごとの成功は高々一つで、その行は待っている状態に戻らない。
-/

namespace Codeoff.Slack.DeliveryOnce

open Codeoff.Control Codeoff.Relational

variable {lost : Prop} {key : DeliveryKey} {q : SlackDeliveryQueue} {own : Ownership DeliveryClaim}

def receiptCount (key : DeliveryKey) (s : DeliveryStore) : Nat :=
  s.receipts.rows.countP fun r => r.receipt.key == key

theorem countP_le_one {α : Type} {p : α → Bool} {xs : List α}
    (h : xs.Pairwise fun a b => ¬ (p a = true ∧ p b = true)) : xs.countP p ≤ 1 := by
  induction h with
  | nil => simp
  | @cons x xs hx _ ih =>
    rw [List.countP_cons]
    by_cases hp : p x = true
    · have hnone : xs.countP p = 0 := List.countP_eq_zero.mpr fun y hy hpy => hx y hy ⟨hp, hpy⟩
      simp [hp, hnone]
    · simpa [hp] using ih

theorem receiptCount_of_recorded {s : DeliveryStore} (h : (findReceipt key s).isSome) : receiptCount key s = 1 := by
  have hle : receiptCount key s ≤ 1 := by
    refine countP_le_one (s.receipts.unique.imp fun {a b} hab hboth => ?_)
    have ha := eq_of_beq hboth.1
    have hb := eq_of_beq hboth.2
    simp [slackDeliveryReceipts, ha, hb] at hab
  have hpos : 0 < receiptCount key s := by
    obtain ⟨row, hmem, hrow⟩ := List.find?_isSome.mp h
    exact List.countP_pos_iff.mpr ⟨row, hmem, hrow⟩
  omega

theorem KeyState.sent_le_one (h : KeyState lost key q own) : postedCount key q.writes ≤ 1 := by
  cases h <;> omega

theorem KeyState.not_pending (h : KeyState lost key q own) (hsent : postedCount key q.writes = 1) :
    ∃ row, rowOf key q.store = some row ∧ row.status ≠ .pending := by
  cases h with
  | idle _ hs => omega
  | sending _ _ _ _ _ _ hs => omega
  | recording _ _ _ row _ _ _ hrow hstatus => exact ⟨row, hrow, by simp [hstatus]⟩
  | deferred row _ hrow hstatus => exact ⟨row, hrow, by simp [hstatus]⟩
  | delivered row _ hrow hstatus => exact ⟨row, hrow, by simp [hstatus]⟩
  | orphaned row _ _ hrow hstatus => exact ⟨row, hrow, by simp [hstatus]⟩

def Kept (key : DeliveryKey) (row : SlackDeliveryRow) (q : SlackDeliveryQueue) : Prop :=
  (row.status = .processing ∧ entryCount key q.pendingCompletions = 1) ∨
    (row.status = .delivered ∧ receiptCount key q.store = 1 ∧ entryCount key q.pendingCompletions = 0)

theorem KeyState.kept (h : KeyState False key q own) (hunowned : own = fun _ => none)
    (hsent : postedCount key q.writes = 1) {row : SlackDeliveryRow} (hrow : rowOf key q.store = some row) :
    Kept key row q := by
  cases h with
  | idle _ hs => omega
  | sending _ _ _ _ _ _ hs => omega
  | recording i _ _ _ hown => simp [hunowned] at hown
  | deferred other _ hother hstatus _ hentries =>
    rw [hrow] at hother
    cases hother
    exact .inl ⟨hstatus, hentries⟩
  | delivered other _ hother hstatus _ hentries hrecorded =>
    rw [hrow] at hother
    cases hother
    exact .inr ⟨hstatus, receiptCount_of_recorded hrecorded, hentries⟩
  | orphaned _ hlost => exact hlost.elim

/-- 競合のほかに保存領域の失敗のない呼び出し。 -/
abbrev CalmCall := { c : SlackCall // NoOtherStorageError c }

def calmProgram (interval : Nat) (c : CalmCall) : SlackThread SlackDeliveryResult := program interval c.1

/-- どの交わり方でも、鍵ごとの成功は高々一つで、その行は待っておらず、呼び出しがすべて終われば、処理中の行に控えが一つか、
済んだ行に受領記録が一つある。 -/
theorem confirmed_message_once (interval : Nat) (store : DeliveryStore)
    (w : World CalmCall SlackDeliveryQueue SlackDeliveryResult)
    (hreach : World.Reachable (calmProgram interval) (.new store) w) (key : DeliveryKey) :
    postedCount key w.state.writes ≤ 1 ∧
      (postedCount key w.state.writes = 1 → ∃ row, rowOf key w.state.store = some row ∧ row.status ≠ .pending ∧
        (w.Finished → Kept key row w.state)) := by
  obtain ⟨own, howns⟩ := owns_of_reachable (fun c => program_owned (.inr c.2)) (DeliveryInv.new False store) hreach
  have hstate := howns.inv.keys key
  refine ⟨KeyState.sent_le_one hstate, fun hsent => ?_⟩
  obtain ⟨row, hrow, hpending⟩ := KeyState.not_pending hstate hsent
  exact ⟨row, hrow, hpending, fun hfinished => KeyState.kept hstate (howns.unowned hfinished) hsent hrow⟩

def contended (call : StorageCall) : Option SlackStoreError := if call = .complete then some .contention else none

def queueCall : CalmCall :=
  ⟨⟨.enqueue (queuedText "C1" "a") 0, 100, .unsent, fun _ => none⟩, by simp, by simp⟩

def drainCall : CalmCall := by
  refine ⟨⟨.drainDueOnce, 100, postedTo "C1" "1.1", contended⟩, ?_, ?_⟩
  · intro call error herror
    simp only [contended, Option.ite_none_right_eq_some, Option.some.injEq] at herror
    exact ⟨herror.2.symm, .inl herror.1⟩
  · intro posted hposted
    cases hposted
    decide

def contendedSchedule : List (World.Choice CalmCall) :=
  [.spawn 0 queueCall, .run 0, .spawn 1 drainCall] ++ List.replicate 7 (.run 1)

/-- 記録が競合で失敗した送信も、控えとともに残る。 -/
theorem contended_send_kept : ∃ w : World CalmCall SlackDeliveryQueue SlackDeliveryResult,
    postedCount ("T1", "a") w.state.writes = 1 ∧
      ∃ row, rowOf ("T1", "a") w.state.store = some row ∧ row.status ≠ .pending := by
  have hresult : ((World.schedule (calmProgram 1) (World.idle (.new .empty)) contendedSchedule).map fun w =>
      postedCount ("T1", "a") w.state.writes) = some 1 := by decide +kernel
  obtain ⟨w, hrun, hsent⟩ := Option.map_eq_some_iff.mp hresult
  obtain ⟨row, hrow, hpending, _⟩ :=
    (confirmed_message_once 1 .empty w (World.steps_of_schedule hrun) ("T1", "a")).2 hsent
  exact ⟨w, hsent, row, hrow, hpending⟩

end Codeoff.Slack.DeliveryOnce
