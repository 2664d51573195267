import Codeoff.Channel.ReplyToEvent
import Codeoff.Slack.Lemmas.DeliveryStore

/-!
# 送信の状態の答えと、待ち行列

状態の道具は、資料の提供元があれば、起動したときの時刻で行の送れる時刻を比べる。
-/

namespace Codeoff.Channel

open Codeoff.Slack Codeoff.Relational

variable {s : DeliveryStore} {key : DeliveryKey} {row : SlackDeliveryRow} {now : Nat}

/-- 時刻 `now` に行を取ろうとしたときの答え。 -/
def claimAnswer (key : DeliveryKey) (now : Nat) (s : DeliveryStore) : Except SlackStoreError SlackDeliveryClaim :=
  (commit (claimSlackDelivery key now) s).1

theorem claimAnswer_receipt {receipt : SlackDeliveryReceiptRow} (h : findReceipt key s = some receipt) :
    claimAnswer key now s = .ok (.delivered receipt.receipt) := by
  simp [claimAnswer, commit, claimSlackDelivery, Tx.read_bind_apply, h]

theorem claimSlackDelivery_row (h : findReceipt key s = none) : claimSlackDelivery key now s = claimRow key now s := by
  simp [claimSlackDelivery, Tx.read_bind_apply, h]

theorem claimRow_found (hpost : findPost key s = some row) :
    claimRow key now s = (if row.status = .pending then claimPending row now
      else (return .deferred (saturatingAdd now 1) : DeliveryTx SlackDeliveryClaim)) s := by
  rw [claimRow, Tx.read_bind_apply, hpost]
  exact Tx.bind_of_ok rfl

theorem claimAnswer_missing (h : findReceipt key s = none) (hpost : findPost key s = none) :
    claimAnswer key now s = .error .rowNotFound := by
  have hrow : claimRow key now s = .error .rowNotFound := by
    rw [claimRow, Tx.read_bind_apply, hpost]
    exact Tx.bind_of_error rfl
  simp [claimAnswer, commit, claimSlackDelivery_row h, hrow]

theorem claimAnswer_idle (h : findReceipt key s = none) (hpost : findPost key s = some row)
    (hidle : row.status ≠ .pending) : claimAnswer key now s = .ok (.deferred (saturatingAdd now 1)) := by
  simp [claimAnswer, commit, claimSlackDelivery_row h, claimRow_found hpost, hidle]

theorem claimAnswer_waiting (h : findReceipt key s = none) (hpost : findPost key s = some row)
    (hpending : row.status = .pending) (hwait : toI64 now < readyAt s row) :
    claimAnswer key now s = .ok (.deferred (readyAt s row).toNat) := by
  have hclaim : claimPending row now s = .ok (.deferred (readyAt s row).toNat, s) := by
    rw [claimPending, Tx.read_bind_apply, if_pos hwait]
    rfl
  simp [claimAnswer, commit, claimSlackDelivery_row h, claimRow_found hpost, hpending, hclaim]

theorem claimAnswer_due (h : findReceipt key s = none) (hpost : findPost key s = some row)
    (hpending : row.status = .pending) (hdue : readyAt s row ≤ toI64 now) :
    claimAnswer key now s = .ok (.ready row.request) := by
  obtain ⟨n, s', hmark, hn, _⟩ := markProcessing_run (rowOf_of_mem (mem_of_rowOf (findPost_iff.mp hpost).1).1) hpending
  have hclaim : claimPending row now s = .ok (.ready row.request, s') := by
    rw [claimPending, Tx.read_bind_apply, if_neg (not_lt.mpr hdue), Tx.bind_of_ok hmark, if_neg hn]
    rfl
  simp [claimAnswer, commit, claimSlackDelivery_row h, claimRow_found hpost, hpending, hclaim]

/-! ## 道具の答え -/

/-- 時刻 `current` に呼び出された道具が答える状態。 -/
def reportedStatus (handler : ChannelDynamicToolHandler) (current : Nat) (key : DeliveryKey) (s : DeliveryStore) :
    Option SlackDeliveryStatusKind :=
  (ChannelDynamicToolHandler.getDeliveryStatus s
    { workspaceId := key.1, requestDedupeKey := key.2, nowUnixSeconds := handler.clock current }).map
      SlackDeliveryStatusReport.status

variable {handler : ChannelDynamicToolHandler} {current : Nat}

theorem reportedStatus_receipt {receipt : SlackDeliveryReceiptRow} (h : findReceipt key s = some receipt) :
    reportedStatus handler current key s = some .delivered := by
  simp [reportedStatus, ChannelDynamicToolHandler.getDeliveryStatus, slackDeliveryStatus, h, reportReceipt]

theorem reportedStatus_row (h : findReceipt key s = none) :
    reportedStatus handler current key s = (findDelivery key s).map fun row =>
      statusKind row.status (readyAt s row) (toI64 (handler.clock current)) := by
  simp only [reportedStatus, ChannelDynamicToolHandler.getDeliveryStatus, slackDeliveryStatus, h, Option.map_map]
  rfl

/-- 答えが、時刻 `current` の待ち行列の振る舞いと合っている。 -/
structure StatusMatches (handler : ChannelDynamicToolHandler) (current : Nat) (key : DeliveryKey)
    (s : DeliveryStore) : Prop where
  deferred : reportedStatus handler current key s = some .deferred ↔
    ∃ row, findPost key s = some row ∧ row.status = .pending ∧
      claimAnswer key current s = .ok (.deferred (readyAt s row).toNat)
  pending : reportedStatus handler current key s = some .pending ↔
    ∃ delivery, claimAnswer key current s = .ok (.ready delivery)
  processing : reportedStatus handler current key s = some .processing ↔
    ∃ row, findDelivery key s = some row ∧ row.status = .processing
  delivered : reportedStatus handler current key s = some .delivered ↔
    ∃ row, findDelivery key s = some row ∧ row.status = .delivered

/-- 待っている行は投稿の行で、道具の時刻では送れないなら、今も送れない。受領記録の行は、送信済みである。 -/
structure ClockAgrees (handler : ChannelDynamicToolHandler) (current : Nat) (key : DeliveryKey)
    (s : DeliveryStore) : Prop where
  receipt : findReceipt key s ≠ none → ∃ row, findDelivery key s = some row ∧ row.status = .delivered
  operation : findReceipt key s = none → ∀ row, findDelivery key s = some row → row.status = .pending →
    row.request.operation = .postMessage
  clock : findReceipt key s = none → ∀ row, findDelivery key s = some row → row.status = .pending →
    toI64 (handler.clock current) < readyAt s row → toI64 current < readyAt s row

theorem statusMatches_receipt {receipt : SlackDeliveryReceiptRow} (h : findReceipt key s = some receipt) :
    StatusMatches handler current key s ↔ ∃ row, findDelivery key s = some row ∧ row.status = .delivered := by
  have hreported : reportedStatus handler current key s = some .delivered := reportedStatus_receipt h
  have hclaim : claimAnswer key current s = .ok (.delivered receipt.receipt) := claimAnswer_receipt h
  constructor
  · intro hmatches
    exact hmatches.delivered.mp hreported
  · rintro ⟨row, hrow, hdelivered⟩
    exact {
      deferred := by simp [hreported, hclaim]
      pending := by simp [hreported, hclaim]
      processing := by simp [hreported, hrow, hdelivered]
      delivered := by simp [hreported, hrow, hdelivered] }

theorem findPost_none (h : ∀ row, findDelivery key s = some row → row.request.operation ≠ .postMessage) :
    findPost key s = none := by
  cases hpost : findPost key s with
  | none => rfl
  | some row =>
    obtain ⟨hrow, hoperation⟩ := findPost_iff.mp hpost
    exact absurd hoperation (h row hrow)

theorem statusMatches_missing (h : findReceipt key s = none) (hrow : findDelivery key s = none) :
    StatusMatches handler current key s := by
  have hreported : reportedStatus handler current key s = none := by simp [reportedStatus_row h, hrow]
  have hpost : findPost key s = none := findPost_none (by simp [hrow])
  have hclaim : claimAnswer key current s = .error .rowNotFound := claimAnswer_missing h hpost
  exact {
    deferred := by simp [hreported, hclaim]
    pending := by simp [hreported, hclaim]
    processing := by simp [hreported, hrow]
    delivered := by simp [hreported, hrow] }

theorem statusMatches_idle (h : findReceipt key s = none) (hrow : findDelivery key s = some row)
    (hidle : row.status ≠ .pending) : StatusMatches handler current key s := by
  have hreported : reportedStatus handler current key s =
      some (statusKind row.status (readyAt s row) (toI64 (handler.clock current))) := by
    simp [reportedStatus_row h, hrow]
  have hready : ∀ delivery, claimAnswer key current s ≠ .ok (.ready delivery) := by
    intro delivery
    cases hpost : findPost key s with
    | none => simp [claimAnswer_missing h hpost]
    | some other =>
      have hother : row = other := Option.some.inj (hrow.symm.trans (findPost_iff.mp hpost).1)
      subst hother
      simp [claimAnswer_idle h hpost hidle]
  have hdeferred : ¬∃ other, findPost key s = some other ∧ other.status = .pending ∧
      claimAnswer key current s = .ok (.deferred (readyAt s other).toNat) := by
    rintro ⟨other, hpost, hpending, _⟩
    have hother : row = other := Option.some.inj (hrow.symm.trans (findPost_iff.mp hpost).1)
    exact hidle (hother ▸ hpending)
  cases hstatus : row.status with
  | pending => exact absurd hstatus hidle
  | processing =>
    rw [hstatus] at hreported
    exact ⟨by simp [hreported, statusKind, hdeferred], by simp [hreported, statusKind, hready],
      by simp [hreported, statusKind, hrow, hstatus], by simp [hreported, statusKind, hrow, hstatus]⟩
  | delivered =>
    rw [hstatus] at hreported
    exact ⟨by simp [hreported, statusKind, hdeferred], by simp [hreported, statusKind, hready],
      by simp [hreported, statusKind, hrow, hstatus], by simp [hreported, statusKind, hrow, hstatus]⟩
  | failed =>
    rw [hstatus] at hreported
    exact ⟨by simp [hreported, statusKind, hdeferred], by simp [hreported, statusKind, hready],
      by simp [hreported, statusKind, hrow, hstatus], by simp [hreported, statusKind, hrow, hstatus]⟩

theorem statusMatches_pending (h : findReceipt key s = none) (hrow : findDelivery key s = some row)
    (hpending : row.status = .pending) : StatusMatches handler current key s ↔
      row.request.operation = .postMessage ∧
        (toI64 (handler.clock current) < readyAt s row ↔ toI64 current < readyAt s row) := by
  have hreported : reportedStatus handler current key s =
      some (if toI64 (handler.clock current) < readyAt s row then .deferred else .pending) := by
    simp [reportedStatus_row h, hrow, statusKind, hpending]
  have hstates : (reportedStatus handler current key s = some .processing ↔
        ∃ row, findDelivery key s = some row ∧ row.status = .processing) ∧
      (reportedStatus handler current key s = some .delivered ↔
        ∃ row, findDelivery key s = some row ∧ row.status = .delivered) := by
    rw [hreported]
    constructor <;> split <;> simp [hrow, hpending]
  by_cases hoperation : row.request.operation = .postMessage
  · have hpost : findPost key s = some row := findPost_iff.mpr ⟨hrow, hoperation⟩
    simp only [hoperation, true_and]
    by_cases hwait : toI64 current < readyAt s row
    · have hclaim := claimAnswer_waiting h hpost hpending hwait
      constructor
      · intro hmatches
        have hdeferred := hmatches.deferred.mpr ⟨row, hpost, hpending, hclaim⟩
        rw [hreported] at hdeferred
        simpa [hwait] using hdeferred
      · intro hclock
        rw [if_pos (hclock.mpr hwait)] at hreported
        exact ⟨by simp [hreported, hpost, hpending, hclaim], by simp [hreported, hclaim], hstates.1, hstates.2⟩
    · have hclaim := claimAnswer_due h hpost hpending (not_lt.mp hwait)
      constructor
      · intro hmatches
        have hdue := hmatches.pending.mpr ⟨_, hclaim⟩
        rw [hreported] at hdue
        simpa [hwait] using hdue
      · intro hclock
        rw [if_neg (mt hclock.mp hwait)] at hreported
        exact ⟨by simp [hreported, hpost, hclaim], by simp [hreported, hclaim], hstates.1, hstates.2⟩
  · have hpost : findPost key s = none := findPost_none fun other hother => by
      rw [hrow] at hother
      cases hother
      exact hoperation
    have hclaim : claimAnswer key current s = .error .rowNotFound := claimAnswer_missing h hpost
    refine iff_of_false (fun hmatches => ?_) (fun hboth => hoperation hboth.1)
    have hdeferred := hmatches.deferred
    have hdue := hmatches.pending
    rw [hreported] at hdeferred hdue
    simp only [hpost, hclaim] at hdeferred hdue
    by_cases hclock : toI64 (handler.clock current) < readyAt s row
    · simp [hclock] at hdeferred
    · simp [hclock] at hdue

/-- 道具の答えが待ち行列の振る舞いと合うのは、待っている行が投稿の行で、起動から呼び出しまでの間に送れる時刻が来ておらず、
受領記録の行が送信済みであるときに限る。 -/
theorem delivery_status_matches_iff (resourceProvider addressProvider : Bool) {startedAt : Nat}
    (hstarted : startedAt ≤ current) (key : DeliveryKey) (s : DeliveryStore) :
    StatusMatches (buildServeChannelDynamicToolHandler resourceProvider addressProvider startedAt) current key s ↔
      ClockAgrees (buildServeChannelDynamicToolHandler resourceProvider addressProvider startedAt) current key s := by
  generalize hhandler : buildServeChannelDynamicToolHandler resourceProvider addressProvider startedAt = handler
  have hclock : toI64 (handler.clock current) ≤ toI64 current := by
    apply toI64_mono
    subst hhandler
    cases resourceProvider <;> cases addressProvider <;>
      simp [buildServeChannelDynamicToolHandler, ChannelDynamicToolHandler.clock, hstarted]
  cases hreceipt : findReceipt key s with
  | some receipt =>
    rw [statusMatches_receipt hreceipt]
    constructor
    · intro hrow
      exact ⟨fun _ => hrow, by simp [hreceipt], by simp [hreceipt]⟩
    · intro h
      exact h.receipt (by simp [hreceipt])
  | none =>
    cases hrow : findDelivery key s with
    | none =>
      refine iff_of_true (statusMatches_missing hreceipt hrow) ⟨by simp [hreceipt], ?_, ?_⟩ <;> simp [hrow]
    | some row =>
      by_cases hpending : row.status = .pending
      · rw [statusMatches_pending hreceipt hrow hpending]
        constructor
        · rintro ⟨hoperation, hsame⟩
          refine ⟨by simp [hreceipt], ?_, ?_⟩ <;> simp_all
        · intro h
          refine ⟨h.operation hreceipt row hrow hpending, h.clock hreceipt row hrow hpending, ?_⟩
          exact hclock.trans_lt
      · refine iff_of_true (statusMatches_idle hreceipt hrow hpending) ⟨by simp [hreceipt], ?_, ?_⟩ <;>
          simp [hrow, hpending]

def queuedReply : SlackDeliveryRequest where
  connectorId := "slack-default"
  workspaceId := "T00000000"
  requestDedupeKey := "reply-1"
  channelId := "C1"
  threadTs := some "1784606407.000100"
  text := "done"
  sender := .bot
  operation := .postMessage

def queuedStore : DeliveryStore := (commit (enqueueSlackDelivery queuedReply 200 0) DeliveryStore.empty).2

def waitingReply : SlackDeliveryRow where
  id := 1
  request := queuedReply
  status := .pending
  availableAt := 200
  attemptCount := 0
  createdAt := 0

theorem queuedStore_facts : findReceipt queuedReply.key queuedStore = none ∧
    findDelivery queuedReply.key queuedStore = some waitingReply ∧ readyAt queuedStore waitingReply = 200 := by
  decide +kernel

/-- 加えた時刻に起動した道具の答えは合う。 -/
theorem fresh_handler_matches :
    StatusMatches (buildServeChannelDynamicToolHandler true true 200) 200 queuedReply.key queuedStore := by
  apply (delivery_status_matches_iff true true (Nat.le_refl 200) queuedReply.key queuedStore).mpr
  obtain ⟨hreceipt, hrow, hready⟩ := queuedStore_facts
  refine ⟨by simp [hreceipt], ?_, ?_⟩ <;> intro _ row hfound hpending <;> rw [hrow] at hfound <;> cases hfound
  · rfl
  · exact id

/-- 時刻 100 に起動した道具は、時刻 200 に加えた、すぐに送れる行を、待たされていると答える。 -/
theorem started_handler_reports_deferred :
    reportedStatus (buildServeChannelDynamicToolHandler true true 100) 200 queuedReply.key queuedStore =
        some .deferred ∧
      claimAnswer queuedReply.key 200 queuedStore = .ok (.ready queuedReply) ∧
      ¬StatusMatches (buildServeChannelDynamicToolHandler true true 100) 200 queuedReply.key queuedStore := by
  obtain ⟨hreceipt, hrow, hready⟩ := queuedStore_facts
  have hreported : reportedStatus (buildServeChannelDynamicToolHandler true true 100) 200 queuedReply.key
      queuedStore = some .deferred := by
    simp only [reportedStatus_row hreceipt, hrow, Option.map_some, hready]
    rfl
  have hclaim : claimAnswer queuedReply.key 200 queuedStore = .ok (.ready queuedReply) :=
    claimAnswer_due hreceipt (findPost_iff.mpr ⟨hrow, rfl⟩) rfl (hready.trans_le (by decide))
  refine ⟨hreported, hclaim, fun hmatches => ?_⟩
  have hpending := hmatches.pending.mpr ⟨_, hclaim⟩
  rw [hreported] at hpending
  cases hpending

end Codeoff.Channel
