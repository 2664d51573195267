import Codeoff.State.Lemmas.DeliveryProgress
import Codeoff.State.Lemmas.ResultInvariants
import Codeoff.State.Lemmas.SendHistory
import Codeoff.State.Theorems.Delivery
import Codeoff.State.Theorems.RunAuthority

/-!
# 送信の安全性

同じ本文を知らないうちに二度送らないこと。
-/

namespace Codeoff.State

open Codeoff.Core Codeoff.Relational

variable {E : Env} {s : Store}

theorem Op.queued (E : Env) {op : Op} (h : op.origin = .queue) (s : Store) : Queued s (op.apply E s) := by
  have heffects := op.apply_effects (E := E) s
  rw [h] at heffects
  exact invariant_of_steps (fun _ _ hI heffect => hI.step heffect) (.refl s) heffects

theorem Op.notQueued (E : Env) {op : Op} (h : op.origin ≠ .queue) (s : Store) :
    NotQueued s (op.apply E s) :=
  invariant_of_steps (fun _ _ hI heffect => hI.trans (heffect.notQueued h)) (.of_same rfl)
    (op.apply_effects s)

theorem Op.final_kept {d : ScheduledDeliveryRow} (op : Op) (hd : d ∈ s.deliveries.rows)
    (hfinal : d.state.isFinal = true) (hop : ¬op.PrunesHistory d.runId) :
    d ∈ (op.apply E s).deliveries.rows := by
  have hk : op.origin ≠ .prune d.runId := fun hk => hop (Op.origin_prune hk)
  exact invariant_of_steps (I := fun t => d ∈ t.deliveries.rows)
    (fun _ _ hmem heffect => heffect.final_kept hmem hfinal hk) hd (op.apply_effects s)

/-- 到達するどの状態からのどの操作でも、配送が送信中になるのは、もともと同じ番号で送信中だったか、待ちの行が次の番号へ
進むときで、後者は初めての送信か、前の試行が書き込みなしの失敗に終わったか、結果の分からないまま運用者が重複の危険を認めて
再送を命じたときに限る。 -/
theorem no_silent_resend (h : Reachable E s) :
    (∀ op : Op, ∀ d' ∈ (op.apply E s).deliveries.rows, d'.state = .sending →
      ∃ d ∈ s.deliveries.rows, d.deliveryId = d'.deliveryId ∧
        ((d.state = .sending ∧ d'.attempt = d.attempt) ∨
          (d.state.isWaiting = true ∧ d'.attempt = d.attempt + 1 ∧ MaySend s d))) ∧
    (∀ a ∈ s.deliveryAttempts.rows, ∀ d ∈ s.deliveries.rows, d.deliveryId = a.deliveryId →
      a.attempt < d.attempt → Resendable s a) ∧
    ∀ op : Op, ∀ d ∈ s.deliveries.rows, d.state.isFinal = true →
      op.PrunesHistory d.runId ∨ d ∈ (op.apply E s).deliveries.rows := by
  refine ⟨?_, h.sendHistory.past, ?_⟩
  · intro op d' hd' hsending
    by_cases hk : op.origin = .queue
    · rcases (Op.queued E hk s).sending d' hd' hsending with hmem | ⟨_, d, hd, hid, hattempt, hwaits⟩
      · exact ⟨d', hmem, rfl, .inl ⟨hsending, rfl⟩⟩
      · exact ⟨d, hd, hid, .inr ⟨hwaits, hattempt, h.sendHistory.waiting d hd hwaits⟩⟩
    · obtain ⟨d, hd, hid, hattempt, hstate, _⟩ := (Op.notQueued E hk s).sending d' hd' hsending
      exact ⟨d, hd, hid, .inl ⟨hstate, hattempt.symm⟩⟩
  · intro op d hd hfinal
    by_cases hop : op.PrunesHistory d.runId
    · exact .inl hop
    · exact .inr (op.final_kept hd hfinal hop)

/-- 本文の定まった配送がどの操作で送信中になっても、待ちの配送が次の番号へ進むときに限る。 -/
theorem prepared_send_justified : Reachable (envOf deliveryTable) preparedStore ∧
    ∀ op : Op, ∀ d' ∈ (op.apply (envOf deliveryTable) preparedStore).deliveries.rows, d'.state = .sending →
      ∃ d ∈ preparedStore.deliveries.rows, d.deliveryId = d'.deliveryId ∧
        ((d.state = .sending ∧ d'.attempt = d.attempt) ∨
          (d.state.isWaiting = true ∧ d'.attempt = d.attempt + 1 ∧ MaySend preparedStore d)) := by
  have hreachable : Reachable (envOf deliveryTable) preparedStore := reachable_runOps _ _
  exact ⟨hreachable, (no_silent_resend hreachable).1⟩

/-- 配送の基準の同一性で受け入れた本文が、その配送の本文と同じである。 -/
def SameAsAccepted (s : Store) (d : ScheduledDeliveryRow) : Prop :=
  ∃ x ∈ s.deliveryBaselines.rows, d.baselineKey = some x.key ∧
    ∃ p, d.payload = some p ∧ p.digest = x.acceptedPayloadDigest

theorem unchangedBaseline_isSome {d : ScheduledDeliveryRow} :
    (unchangedBaseline s d).isSome = true ↔ SameAsAccepted s d := by
  simp only [unchangedBaseline, List.find?_isSome, SameAsAccepted, sameKey, Bool.and_eq_true, beq_iff_eq,
    Option.any_eq_true]
  constructor
  · rintro ⟨x, hx, ⟨_, hkey⟩, hpayload⟩
    exact ⟨x, hx, hkey, hpayload⟩
  · rintro ⟨x, hx, hkey, hpayload⟩
    exact ⟨x, hx, ⟨by simp [hkey], hkey⟩, hpayload⟩

/-- どの保存領域でも、同じ基準の同一性の送信中の配送は一つしかない。 -/
theorem exclusive_change_only (E : Env) (s : Store) :
    (∀ d ∈ s.deliveries.rows, ∀ o ∈ s.deliveries.rows, d.state = .sending → o.state = .sending →
      d.baselineKey = o.baselineKey → d = o) ∧
    (∀ op : Op, ∀ d' ∈ (op.apply E s).deliveries.rows, d'.state = .sending →
      (∀ d ∈ s.deliveries.rows, d.deliveryId = d'.deliveryId → d.state ≠ .sending) →
      ¬SameAsAccepted s d') ∧
    ∀ op : Op, ∀ d' ∈ (op.apply E s).deliveries.rows, d'.state = .skippedUnchanged →
      d' ∉ s.deliveries.rows → SameAsAccepted s d' ∧ NoNewAttempt s (op.apply E s) d'.deliveryId ∧
        (op.apply E s).deliveryBaselines = s.deliveryBaselines := by
  refine ⟨?_, ?_, ?_⟩
  · intro d hd o ho hsending hsending' hkey
    -- 送信中の行は本文を持つので、鍵は空でない。
    obtain ⟨_, _, ⟨_, _, _, _, _, _, _, _, _, _, hpayload⟩, _⟩ := delivery_check hd
    have hsome : d.payload.isSome = true := by simpa [hsending] using hpayload
    have hkeyed : o.baselineKey.isSome = true := by
      rw [← hkey]
      simpa [ScheduledDeliveryRow.baselineKey] using hsome
    refine s.deliveries.eq_of_conflict hd ho ?_
    simp [scheduledRunDeliveries, ScheduledDeliveryRow.sendingKey, hsending, hsending', hkey, sameKey, hkeyed]
  · intro op d' hd' hsending hnew hsame
    by_cases hk : op.origin = .queue
    · rcases (Op.queued E hk s).sending d' hd' hsending with hmem | ⟨hchanged, _⟩
      · exact hnew d' hmem rfl hsending
      · rw [← unchangedBaseline_isSome, hchanged] at hsame
        cases hsame
    · obtain ⟨d, hd, hid, _, hstate, _⟩ := (Op.notQueued E hk s).sending d' hd' hsending
      exact hnew d hd hid hstate
  · intro op d' hd' hskipped hnew
    by_cases hk : op.origin = .queue
    · have hqueued := Op.queued E hk s
      rcases hqueued.skipped d' hd' hskipped with hmem | ⟨hunchanged, hnone⟩
      · exact absurd hmem hnew
      · exact ⟨unchangedBaseline_isSome.mp hunchanged, hnone, hqueued.baselines⟩
    · exact absurd ((Op.notQueued E hk s).skipped d' hd' hskipped) hnew

end Codeoff.State
