import Codeoff.Runtime.RunnerBroker

/-!
# 予約の一歩

どの呼び出しの一歩も、予約を `SlotChange` のどれかとして変え、留めた予約があるあいだ `current` を変えない。
-/

namespace Codeoff.Runtime

open Codeoff.Control RegisteredRunnerSession

variable {s s' : BrokerState} {c : BrokerCall} {id : SessionId} {lease : ReservationLease}

/-- セッション `id` の予約は、実行の確定に向けて留めてある。 -/
def Pinned (s : BrokerState) (id : SessionId) : Prop :=
  ∃ r, (s.sessions id).slot = some r ∧ r.phase ≠ .preStart

structure BrokerInv (s : BrokerState) : Prop where
  pinned : ∀ id, Pinned s id → s.current = some id
  drawn : ∀ id r, (s.sessions id).slot = some r → r.nonce ∈ s.drawn
  apart : ∀ id id' r r', (s.sessions id).slot = some r → (s.sessions id').slot = some r' →
    r.nonce = r'.nonce → id = id'
  ungranted : ∀ id r, (s.sessions id).slot = some r → r.grantIssued = false → r.nonce ∉ s.granted
  grantedDrawn : ∀ nonce ∈ s.granted, nonce ∈ s.drawn
  grantedOnce : s.granted.Nodup
  drawnOnce : s.drawn.Nodup

structure BrokerRely (s s' : BrokerState) : Prop where
  current : s'.current = s.current
  pinned : ∀ id, Pinned s' id → Pinned s id

namespace ReservationPhase

def rank : ReservationPhase → Nat
  | preStart => 0
  | pinnedForCas => 1
  | attemptingStart => 2
  | outcomeUnknown => 3
  | started => 4

end ReservationPhase

/-- 呼び出し `c` の一歩による、セッション `id` の予約の変化。 -/
inductive SlotChange (c : BrokerCall) (s : BrokerState) (id : SessionId) : Slot → Slot → Prop where
  | same (slot : Slot) : SlotChange c s id slot slot
  | reserved {old : Slot} {r : ProtocolAdmission} (noLease : c.lease? = none)
      (free : ∀ r₀, old = some r₀ → r₀.phase = .preStart) (fresh : r.nonce ∉ s.drawn)
      (phase : r.phase = .preStart) (ungranted : r.grantIssued = false) : SlotChange c s id old (some r)
  | granted {r : ProtocolAdmission} (noLease : c.lease? = none) (phase : r.phase = .preStart)
      (ungranted : r.grantIssued = false) (grantId : Option String) :
      SlotChange c s id (some r) (some { r with grantIssued := true, grantId })
  | advanced {r : ProtocolAdmission} {phase : ReservationPhase} (lease : ReservationLease)
      (throughLease : c.lease? = some lease) (session : lease.session = id)
      (nonce : r.nonce = lease.admissionNonce) (advances : r.phase.rank < phase.rank) :
      SlotChange c s id (some r) (some { r with phase })
  | dropped {r : ProtocolAdmission} (noLease : c.lease? = none) (phase : r.phase = .preStart) :
      SlotChange c s id (some r) none
  | released {r : ProtocolAdmission} (lease : ReservationLease) (throughLease : c.lease? = some lease)
      (session : lease.session = id) (nonce : r.nonce = lease.admissionNonce)
      (allowed : c = .releaseAfterSignedCleanup lease ∨ r.phase ≠ .outcomeUnknown ∧ r.phase ≠ .started) :
      SlotChange c s id (some r) none

structure BrokerGuarantee (c : BrokerCall) (s s' : BrokerState) : Prop where
  slots : ∀ id, SlotChange c s id (s.sessions id).slot (s'.sessions id).slot
  current : (∃ id, Pinned s id) → s'.current = s.current
  drawn : ∀ nonce ∈ s.drawn, nonce ∈ s'.drawn

abbrev SafeCall (c : BrokerCall) : Option (BrokerState → Prop) → BrokerThread → Prop :=
  Safe BrokerState.locked BrokerInv BrokerRely BrokerGuarantee c

/-! ## 更新の性質 -/

namespace BrokerState

@[simp] theorem setSlot_self (slot : Slot) : ((s.setSlot id slot).sessions id).slot = slot := by
  simp [setSlot]

theorem setSlot_of_ne {other : SessionId} (h : other ≠ id) (slot : Slot) :
    (s.setSlot id slot).sessions other = s.sessions other := by
  simp [setSlot, Function.update_of_ne h]

theorem setConnected_slot (connected : Bool) (other : SessionId) :
    ((s.setConnected id connected).sessions other).slot = (s.sessions other).slot := by
  by_cases h : other = id
  · simp [setConnected, h]
  · simp [setConnected, Function.update_of_ne h]

end BrokerState

theorem pinned_congr (h : ∀ id, (s'.sessions id).slot = (s.sessions id).slot) (id : SessionId) :
    Pinned s' id ↔ Pinned s id := by
  unfold Pinned
  rw [h id]

/-- 席が変わらなければ、不変条件は接続中の実行者についてだけ確かめればよい。 -/
theorem BrokerInv.of_slots (hI : BrokerInv s) (hslots : ∀ id, (s'.sessions id).slot = (s.sessions id).slot)
    (hdrawn : s'.drawn = s.drawn) (hgranted : s'.granted = s.granted)
    (hcurrent : ∀ id, Pinned s id → s'.current = some id) : BrokerInv s' := by
  constructor
  · intro id hpinned
    exact hcurrent id ((pinned_congr hslots id).mp hpinned)
  · intro id r hr
    rw [hdrawn]
    exact hI.drawn id r (hslots id ▸ hr)
  · intro id id' r r' hr hr' hnonce
    exact hI.apart id id' r r' (hslots id ▸ hr) (hslots id' ▸ hr') hnonce
  · intro id r hr hissued
    rw [hgranted]
    exact hI.ungranted id r (hslots id ▸ hr) hissued
  · rw [hdrawn, hgranted]
    exact hI.grantedDrawn
  · rw [hgranted]
    exact hI.grantedOnce
  · rw [hdrawn]
    exact hI.drawnOnce

theorem BrokerGuarantee.of_slots (hslots : ∀ id, (s'.sessions id).slot = (s.sessions id).slot)
    (hdrawn : s'.drawn = s.drawn) (hcurrent : (∃ id, Pinned s id) → s'.current = s.current) :
    BrokerGuarantee c s s' := by
  refine ⟨fun id => ?_, hcurrent, fun nonce hnonce => hdrawn ▸ hnonce⟩
  rw [hslots id]
  exact .same _

theorem BrokerGuarantee.setSlot {slot : Slot} (hchange : SlotChange c s id (s.sessions id).slot slot)
    (hslots : ∀ other, (s'.sessions other).slot = ((s.setSlot id slot).sessions other).slot)
    (hcurrent : s'.current = s.current) (hdrawn : ∀ nonce ∈ s.drawn, nonce ∈ s'.drawn) :
    BrokerGuarantee c s s' := by
  refine ⟨fun other => ?_, fun _ => hcurrent, hdrawn⟩
  rw [hslots other]
  by_cases h : other = id
  · subst h
    rw [BrokerState.setSlot_self]
    exact hchange
  · rw [BrokerState.setSlot_of_ne h]
    exact .same _

theorem BrokerInv.setSlot (hI : BrokerInv s) {slot : Slot}
    (hpin : ∀ r, slot = some r → r.phase ≠ .preStart → s.current = some id)
    (hold : ∀ r, slot = some r → ∃ r₀, (s.sessions id).slot = some r₀ ∧ r₀.nonce = r.nonce ∧
      (r.grantIssued = false → r₀.grantIssued = false)) : BrokerInv (s.setSlot id slot) := by
  have hback : ∀ other r, ((s.setSlot id slot).sessions other).slot = some r →
      ∃ r₀, (s.sessions other).slot = some r₀ ∧ r₀.nonce = r.nonce ∧
        (r.grantIssued = false → r₀.grantIssued = false) := by
    intro other r hr
    by_cases h : other = id
    · subst h
      rw [BrokerState.setSlot_self] at hr
      exact hold r hr
    · rw [BrokerState.setSlot_of_ne h] at hr
      exact ⟨r, hr, rfl, fun hissued => hissued⟩
  constructor
  · rintro other ⟨r, hr, hphase⟩
    by_cases h : other = id
    · subst h
      rw [BrokerState.setSlot_self] at hr
      exact hpin r hr hphase
    · rw [BrokerState.setSlot_of_ne h] at hr
      exact hI.pinned other ⟨r, hr, hphase⟩
  · intro other r hr
    obtain ⟨r₀, hr₀, hnonce, _⟩ := hback other r hr
    exact hnonce ▸ hI.drawn other r₀ hr₀
  · intro other other' r r' hr hr' hnonce
    obtain ⟨r₀, hr₀, h₀, _⟩ := hback other r hr
    obtain ⟨r₁, hr₁, h₁, _⟩ := hback other' r' hr'
    exact hI.apart other other' r₀ r₁ hr₀ hr₁ (h₀.trans (hnonce.trans h₁.symm))
  · intro other r hr hissued
    obtain ⟨r₀, hr₀, hnonce, hback⟩ := hback other r hr
    exact hnonce ▸ hI.ungranted other r₀ hr₀ (hback hissued)
  · exact hI.grantedDrawn
  · exact hI.grantedOnce
  · exact hI.drawnOnce

/-! ## `slot` の仕事の結果 -/

theorem expired_phase {r : ProtocolAdmission} {now : Nat} (h : r.expired now = true) : r.phase = .preStart := by
  unfold ProtocolAdmission.expired at h
  simp only [Bool.and_eq_true, beq_iff_eq] at h
  exact h.1

theorem slotAvailable_change {now : Nat} (hlease : c.lease? = none) (slot : Slot) :
    SlotChange c s id slot (slotAvailable now slot).2 := by
  unfold slotAvailable
  cases slot with
  | none => exact .same _
  | some r =>
    cases hexpired : r.expired now with
    | false =>
      have hsame : SlotChange c s id (some r) (some r) := .same _
      simpa [hexpired] using hsame
    | true =>
      have hdropped : SlotChange c s id (some r) none := .dropped hlease (expired_phase hexpired)
      simpa [hexpired] using hdropped

theorem slotAvailable_some {now : Nat} {slot : Slot} {r : ProtocolAdmission}
    (h : (slotAvailable now slot).2 = some r) : slot = some r := by
  unfold slotAvailable at h
  simp only at h
  split at h
  · cases h
  · exact h

/-- 予約は、断られるか、新しい nonce の予約を開始の前の段階に置く。 -/
theorem reserve_cases (session : RegisteredRunnerSession) (now expiresAt : Nat) (random : Option String)
    (slot : Slot) :
    (∃ e, reserve session now expiresAt random slot = (.error e, slot)) ∨
      ∃ r : ProtocolAdmission, random = some r.nonce ∧ (∀ r₀, slot = some r₀ → r₀.phase = .preStart) ∧
        r.phase = .preStart ∧ r.grantIssued = false ∧
        reserve session now expiresAt random slot = (.ok r, some r) := by
  unfold reserve
  split
  · exact .inl ⟨_, rfl⟩
  · rename_i hbusy
    cases random with
    | none => exact .inl ⟨_, rfl⟩
    | some nonce =>
      refine .inr ⟨_, rfl, ?_, rfl, rfl, rfl⟩
      rintro r₀ rfl
      simp only [Option.any_some, Bool.not_eq_true', Bool.not_eq_false] at hbusy
      exact expired_phase hbusy

/-- 許しの発行は、予約を見送るか、期限切れとして外すか、許しを一度だけ付ける。 -/
inductive GrantOutcome (nonce : String) :
    Slot → Except ScheduledRunnerBrokerError ProtocolAdmission × Slot → Prop where
  | refused (slot : Slot) (e : ScheduledRunnerBrokerError) : GrantOutcome nonce slot (.error e, slot)
  | expired {r : ProtocolAdmission} (phase : r.phase = .preStart) (e : ScheduledRunnerBrokerError) :
      GrantOutcome nonce (some r) (.error e, none)
  | unsigned {r : ProtocolAdmission} (phase : r.phase = .preStart) (ungranted : r.grantIssued = false)
      (e : ScheduledRunnerBrokerError) :
      GrantOutcome nonce (some r) (.error e, some { r with grantIssued := true, grantId := r.grantId })
  | issued {r : ProtocolAdmission} (phase : r.phase = .preStart) (ungranted : r.grantIssued = false)
      (grantId : Option String) :
      GrantOutcome nonce (some r) (.ok { r with grantIssued := true, grantId },
        some { r with grantIssued := true, grantId })

/-- 許可証の取り置きは、始まった予約を替えない。 -/
theorem reserveGrant_outcome (connected : Bool) (now : Nat) (nonce : String) (random : Option String)
    (slot : Slot) : GrantOutcome nonce slot (reserveGrant connected now nonce random slot) := by
  unfold reserveGrant
  cases slot with
  | none => exact .refused none _
  | some r =>
    simp only
    split
    · exact .refused _ _
    · rename_i hmatches
      obtain ⟨_, hphase⟩ := not_or.mp hmatches
      have hphase : r.phase = .preStart := not_not.mp hphase
      split
      · exact .expired hphase _
      · split
        · exact .refused _ _
        · rename_i hissued
          have hissued : r.grantIssued = false := by simpa using hissued
          cases random with
          | none => exact .unsigned hphase hissued _
          | some grantId => exact .issued hphase hissued (some grantId)

/-- 段階を進める呼び出しは、貸与の予約の段階を上げるだけである。 -/
theorem advance_change {allowed : ProtocolAdmission → Bool} {phase : ReservationPhase}
    (hlease : c.lease? = some lease)
    (hallowed : ∀ r, allowed r = true → r.nonce = lease.admissionNonce ∧ r.phase.rank < phase.rank)
    (slot : Slot) : SlotChange c s lease.session slot (advance allowed phase slot).2 := by
  unfold advance
  cases slot with
  | none => exact .same _
  | some r =>
    cases hr : allowed r with
    | false =>
      have hsame : SlotChange c s lease.session (some r) (some r) := .same _
      simpa [hr] using hsame
    | true =>
      obtain ⟨hnonce, hadvances⟩ := hallowed r hr
      have hadvanced : SlotChange c s lease.session (some r) (some { r with phase }) :=
        .advanced lease hlease rfl hnonce hadvances
      simpa [hr] using hadvanced

theorem advance_some {allowed : ProtocolAdmission → Bool} {phase : ReservationPhase} {slot : Slot}
    {r : ProtocolAdmission} (h : (advance allowed phase slot).2 = some r) :
    ∃ r₀, slot = some r₀ ∧ r₀.nonce = r.nonce ∧ r₀.grantIssued = r.grantIssued := by
  unfold advance at h
  cases slot with
  | none => cases h
  | some r₀ =>
    cases hr : allowed r₀ with
    | false =>
      simp only [hr] at h
      cases h
      exact ⟨_, rfl, rfl, rfl⟩
    | true =>
      simp only [hr] at h
      cases h
      exact ⟨r₀, rfl, rfl, rfl⟩

/-- 予約を放す呼び出しが枠にする変化は、貸与の許すものに限る。 -/
theorem releaseReservation_change {allowAttempting allowStarted : Bool} (hlease : c.lease? = some lease)
    (hcleanup : allowStarted = true → c = .releaseAfterSignedCleanup lease) (slot : Slot) :
    SlotChange c s lease.session slot
      (releaseReservation lease.admissionNonce allowAttempting allowStarted slot).2 := by
  unfold releaseReservation
  cases slot with
  | none => exact .same _
  | some r =>
    split
    · rename_i hallowed
      simp only [Option.any_some, Bool.and_eq_true, Bool.or_eq_true, beq_iff_eq] at hallowed
      obtain ⟨hnonce, hallowed⟩ := hallowed
      refine .released lease hlease rfl hnonce ?_
      rcases hallowed with ((hstarted | ⟨_, hphase⟩) | hphase) | hphase
      · exact .inl (hcleanup hstarted)
      · exact .inr (by simp [hphase])
      · exact .inr (by simp [hphase])
      · exact .inr (by simp [hphase])
    · exact .same _

theorem releaseReservation_some {nonce : String} {allowAttempting allowStarted : Bool} {slot : Slot}
    {r : ProtocolAdmission} (h : (releaseReservation nonce allowAttempting allowStarted slot).2 = some r) :
    slot = some r := by
  unfold releaseReservation at h
  split at h
  · cases h
  · exact h

theorem releaseReservation_released {nonce : String} {allowAttempting allowStarted : Bool} {slot : Slot}
    (h : (releaseReservation nonce allowAttempting allowStarted slot).1 = true) :
    (releaseReservation nonce allowAttempting allowStarted slot).2 = none := by
  unfold releaseReservation at h ⊢
  split
  · rfl
  · rename_i hno
    simp [hno] at h

end Codeoff.Runtime
