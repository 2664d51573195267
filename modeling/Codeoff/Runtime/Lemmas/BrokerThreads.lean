import Codeoff.Runtime.Lemmas.RunnerBroker

/-!
# 呼び出しの安全

`current` の錠を持つ処理の主張は、登録されたセッションと、留めた予約がないこと、のどちらかである。
-/

namespace Codeoff.Runtime

open Codeoff.Control RegisteredRunnerSession

variable {s s' : BrokerState} {c : BrokerCall} {id : SessionId} {lease : ReservationLease}
  {P : BrokerState → Prop} {next : BrokerThread}

abbrev StableClaim (P : BrokerState → Prop) : Prop := Stable BrokerInv BrokerRely P

def NoPins (s : BrokerState) : Prop := ∀ id, ¬Pinned s id

theorem stable_true : StableClaim fun _ => True := fun _ _ _ _ _ => trivial

theorem stable_current (current : Option SessionId) : StableClaim fun s => s.current = current :=
  fun _ _ _ hrely h => hrely.current.trans h

theorem stable_noPins : StableClaim NoPins := fun _ _ _ hrely h id hpinned =>
  h id (hrely.pinned id hpinned)

theorem noPins_of_current (hI : BrokerInv s) (h : ∀ id, s.current = some id → ¬Pinned s id) : NoPins s :=
  fun id hpinned => h id (hI.pinned id hpinned) hpinned

/-! ## 一歩ごとの規則 -/

theorem safe_lockCurrent {next : Option SessionId → BrokerThread}
    (hnext : ∀ current, SafeCall c (some fun s => s.current = current) (next current)) :
    SafeCall c none (lockCurrent next) := by
  refine .acquire (P := fun s t => t.current = s.current) ?_ ?_ ?_ ?_
  · intro s hguard
    simpa using hguard
  · intro s hI _
    exact ⟨hI.of_slots (fun _ => rfl) rfl rfl hI.pinned, .of_slots (fun _ => rfl) rfl fun _ => rfl, rfl, rfl⟩
  · intro s
    exact stable_current s.current
  · intro s _ _
    exact hnext s.current

theorem safe_unlockCurrent (result : Except ScheduledRunnerBrokerError BrokerReply) :
    SafeCall c (some P) (unlockCurrent result) := by
  refine .release ?_ fun _ _ _ _ => .done result
  intro s hI _ _
  exact ⟨hI.of_slots (fun _ => rfl) rfl rfl hI.pinned, .of_slots (fun _ => rfl) rfl fun _ => rfl, rfl⟩

theorem safe_storeCurrent (current : Option SessionId) (hnext : SafeCall c (some fun _ => True) next) :
    SafeCall c (some NoPins) (storeCurrent current next) := by
  refine .hold (Q := fun _ _ => True) ?_ (fun _ => stable_true) fun _ _ _ _ => hnext
  intro s hI hnone _
  refine ⟨hI.of_slots (fun _ => rfl) rfl rfl fun id hpinned => absurd hpinned (hnone id), ?_, rfl, trivial⟩
  exact .of_slots (fun _ => rfl) rfl fun ⟨id, hpinned⟩ => absurd hpinned (hnone id)

theorem safe_loadConnected {next : Bool → BrokerThread} (hstable : StableClaim P)
    (hnext : ∀ connected, SafeCall c (some P) (next connected)) :
    SafeCall c (some P) (loadConnected id next) := by
  refine .hold (Q := fun _ => P) ?_ (fun _ => hstable) fun s _ _ _ => hnext _
  intro s hI hP _
  exact ⟨hI, .of_slots (fun _ => rfl) rfl fun _ => rfl, rfl, hP⟩

theorem safe_loadConnected_free {next : Bool → BrokerThread} (hnext : ∀ connected, SafeCall c none (next connected)) :
    SafeCall c none (loadConnected id next) := by
  refine .free ?_ fun s _ _ => hnext _
  intro s hI _
  exact ⟨hI, ⟨rfl, fun _ h => h⟩, .of_slots (fun _ => rfl) rfl fun _ => rfl, rfl⟩

theorem safe_disconnectSession (hnext : SafeCall c none next) : SafeCall c none (disconnectSession id next) := by
  refine .free ?_ fun _ _ _ => hnext
  intro s hI _
  have hslots := @BrokerState.setConnected_slot s id false
  exact ⟨hI.of_slots hslots rfl rfl hI.pinned, ⟨rfl, fun id h => (pinned_congr hslots id).mp h⟩,
    .of_slots hslots rfl fun _ => rfl, rfl⟩

theorem safe_hasPinned {next : Bool → BrokerThread} (hcurrent : ∀ s, P s → s.current = some id)
    (hstable : StableClaim P) (hpinned : SafeCall c (some P) (next true))
    (hfree : SafeCall c (some NoPins) (next false)) :
    SafeCall c (some P) (withSlot id (fun _ slot => (hasPinnedReservation slot, slot)) next) := by
  refine .hold (Q := fun s t => if hasPinnedReservation (s.sessions id).slot then P t else NoPins t) ?_ ?_ ?_
  · intro s hI hP _
    have hsame : s.setSlot id (s.sessions id).slot = s := by simp [BrokerState.setSlot]
    simp only [hsame]
    refine ⟨hI, .of_slots (fun _ => rfl) rfl fun _ => rfl, trivial, ?_⟩
    split
    · exact hP
    · rename_i hno
      refine noPins_of_current hI fun other hother => ?_
      obtain rfl : id = other := Option.some.inj ((hcurrent s hP).symm.trans hother)
      rintro ⟨r, hr, hphase⟩
      exact hno (by simpa [hasPinnedReservation, hr] using hphase)
  · intro s
    split
    · exact hstable
    · exact stable_noPins
  · intro s _ _ _
    cases hpins : hasPinnedReservation (s.sessions id).slot with
    | true => simpa [hpins] using hpinned
    | false => simpa [hpins] using hfree

theorem safe_clearSlot (id : SessionId) {next : Unit → BrokerThread} (hlease : c.lease? = none)
    (hnext : SafeCall c (some NoPins) (next ())) :
    SafeCall c (some NoPins) (withSlot id (fun _ _ => ((), none)) next) := by
  refine .hold (Q := fun _ => NoPins) ?_ (fun _ => stable_noPins) fun _ _ _ _ => hnext
  intro s hI hnone _
  have hchange : SlotChange c s id (s.sessions id).slot none := by
    cases hslot : (s.sessions id).slot with
    | none => exact .same _
    | some r =>
      refine .dropped hlease ?_
      by_contra hphase
      exact hnone id ⟨r, hslot, hphase⟩
  refine ⟨hI.setSlot (fun r hr => nomatch hr) (fun r hr => nomatch hr),
    .setSlot hchange (fun _ => rfl) rfl fun _ h => h, rfl, ?_⟩
  rintro other ⟨r, hr, hphase⟩
  by_cases h : other = id
  · subst h
    simp at hr
  · simp only [BrokerState.setSlot_of_ne h] at hr
    exact hnone other ⟨r, hr, hphase⟩

/-- 段階を進めるのは、その予約を持つ呼び出しだけである。 -/
theorem safe_advance (lease : ReservationLease) {next : Except ScheduledRunnerBrokerError Unit → BrokerThread}
    {allowed : RegisteredRunnerSession → ProtocolAdmission → Bool} {phase : ReservationPhase}
    (hlease : c.lease? = some lease)
    (hallowed : ∀ session r, allowed session r = true →
      r.nonce = lease.admissionNonce ∧ r.phase.rank < phase.rank)
    (hnext : ∀ result, SafeCall c (some fun _ => True) (next result)) :
    SafeCall c (some fun s => s.current = some lease.session)
      (withSlot lease.session (fun session => advance (allowed session) phase) next) := by
  refine .hold (Q := fun _ _ => True) ?_ (fun _ => stable_true) fun _ _ _ _ => hnext _
  intro s hI hcurrent _
  refine ⟨hI.setSlot (fun r _ _ => hcurrent) ?_, .setSlot ?_ (fun _ => rfl) rfl fun _ h => h, rfl, trivial⟩
  · intro r hr
    obtain ⟨r₀, hr₀, hnonce, hissued⟩ := advance_some hr
    exact ⟨r₀, hr₀, hnonce, fun hfalse => hissued.trans hfalse⟩
  · exact advance_change hlease (hallowed _) _

/-- 予約を放す一段は、放さなければ今の会話を保ち、放せば、その会話に始まった予約がない状態で続く。 -/
theorem safe_release {next : Bool → BrokerThread} {allowAttempting allowStarted : Bool} {current : Option SessionId}
    (hlease : c.lease? = some lease)
    (hcleanup : allowStarted = true → c = .releaseAfterSignedCleanup lease)
    (hkept : SafeCall c (some fun s => s.current = current) (next false))
    (hreleased : SafeCall c (some fun s => s.current = current ∧ ¬Pinned s lease.session) (next true)) :
    SafeCall c (some fun s => s.current = current)
      (withSlot lease.session
        (fun _ => releaseReservation lease.admissionNonce allowAttempting allowStarted) next) := by
  refine .hold (Q := fun s t => if (releaseReservation lease.admissionNonce allowAttempting allowStarted
    (s.sessions lease.session).slot).1 then t.current = current ∧ ¬Pinned t lease.session
    else t.current = current) ?_ ?_ ?_
  · intro s hI hcurrent _
    refine ⟨hI.setSlot ?_ ?_, .setSlot (releaseReservation_change hlease hcleanup _) (fun _ => rfl) rfl
      fun _ h => h, rfl, ?_⟩
    · intro r hr hphase
      exact hI.pinned lease.session ⟨r, releaseReservation_some hr, hphase⟩
    · intro r hr
      exact ⟨r, releaseReservation_some hr, rfl, fun h => h⟩
    · split
      · rename_i hreleased
        refine ⟨hcurrent, ?_⟩
        rintro ⟨r, hr, _⟩
        rw [BrokerState.setSlot_self, releaseReservation_released hreleased] at hr
        cases hr
      · exact hcurrent
  · intro s
    split
    · exact fun t t' hI hrely h => ⟨hrely.current.trans h.1, fun hp => h.2 (hrely.pinned _ hp)⟩
    · exact stable_current current
  · intro s _ _ _
    cases hresult : (releaseReservation lease.admissionNonce allowAttempting allowStarted
        (s.sessions lease.session).slot).1 with
    | true => simpa [hresult] using hreleased
    | false => simpa [hresult] using hkept

/-! ## `slot` の錠だけを取る仕事 -/

theorem BrokerRely.setSlot {slot : Slot} (hslots : ∀ other, (s'.sessions other).slot =
    ((s.setSlot id slot).sessions other).slot) (hcurrent : s'.current = s.current)
    (hpin : ∀ r, slot = some r → r.phase ≠ .preStart → (s.sessions id).slot = some r) : BrokerRely s s' := by
  refine ⟨hcurrent, ?_⟩
  rintro other ⟨r, hr, hphase⟩
  rw [hslots other] at hr
  by_cases h : other = id
  · subst h
    rw [BrokerState.setSlot_self] at hr
    exact ⟨r, hpin r hr hphase, hphase⟩
  · rw [BrokerState.setSlot_of_ne h] at hr
    exact ⟨r, hr, hphase⟩

theorem safe_slotAvailable {now : Nat} {next : Bool → BrokerThread} (hlease : c.lease? = none)
    (hnext : ∀ free, SafeCall c none (next free)) :
    SafeCall c none (withSlot id (fun _ => slotAvailable now) next) := by
  refine .free ?_ fun _ _ _ => hnext _
  intro s hI _
  refine ⟨hI.setSlot ?_ ?_, .setSlot (fun _ => rfl) rfl fun r hr _ => slotAvailable_some hr,
    .setSlot (slotAvailable_change hlease _) (fun _ => rfl) rfl fun _ h => h, rfl⟩
  · intro r hr hphase
    exact hI.pinned id ⟨r, slotAvailable_some hr, hphase⟩
  · intro r hr
    exact ⟨r, slotAvailable_some hr, rfl, fun h => h⟩

/-- 新しい乱数で予約しても、不変条件は保たれる。 -/
theorem BrokerInv.reserved (hI : BrokerInv s) {r : ProtocolAdmission} (hfresh : r.nonce ∉ s.drawn)
    (hphase : r.phase = .preStart) :
    BrokerInv { s.setSlot id (some r) with drawn := r.nonce :: s.drawn } := by
  have hslot : ∀ other r', ((s.setSlot id (some r)).sessions other).slot = some r' →
      (other = id ∧ r' = r) ∨ (other ≠ id ∧ (s.sessions other).slot = some r') := by
    intro other r' hr'
    by_cases h : other = id
    · subst h
      rw [BrokerState.setSlot_self] at hr'
      exact .inl ⟨rfl, (Option.some.inj hr').symm⟩
    · rw [BrokerState.setSlot_of_ne h] at hr'
      exact .inr ⟨h, hr'⟩
  constructor
  · rintro other ⟨r', hr', hpinned⟩
    obtain ⟨_, rfl⟩ | ⟨_, hold⟩ := hslot other r' hr'
    · exact absurd hphase hpinned
    · exact hI.pinned other ⟨r', hold, hpinned⟩
  · intro other r' hr'
    obtain ⟨_, rfl⟩ | ⟨_, hold⟩ := hslot other r' hr'
    · exact List.mem_cons_self
    · exact List.mem_cons_of_mem _ (hI.drawn other r' hold)
  · intro other other' r₁ r₂ hr₁ hr₂ hnonce
    obtain ⟨h₁, rfl⟩ | ⟨_, hold₁⟩ := hslot other r₁ hr₁
    · obtain ⟨h₂, _⟩ | ⟨_, hold₂⟩ := hslot other' r₂ hr₂
      · exact h₁.trans h₂.symm
      · exact absurd (hnonce ▸ hI.drawn other' r₂ hold₂) hfresh
    · obtain ⟨_, rfl⟩ | ⟨_, hold₂⟩ := hslot other' r₂ hr₂
      · exact absurd (hnonce ▸ hI.drawn other r₁ hold₁) hfresh
      · exact hI.apart other other' r₁ r₂ hold₁ hold₂ hnonce
  · intro other r' hr' hissued
    obtain ⟨_, rfl⟩ | ⟨_, hold⟩ := hslot other r' hr'
    · exact fun hgranted => hfresh (hI.grantedDrawn _ hgranted)
    · exact hI.ungranted other r' hold hissued
  · intro nonce hnonce
    exact List.mem_cons_of_mem _ (hI.grantedDrawn nonce hnonce)
  · exact hI.grantedOnce
  · exact List.nodup_cons.mpr ⟨hfresh, hI.drawnOnce⟩

/-- 予約は、新しい nonce を引いて、空いた席に置かれる。 -/
theorem safe_reserve {now expiresAt : Nat} {random : Option String}
    {next : Except ScheduledRunnerBrokerError ProtocolAdmission → BrokerThread} (hlease : c.lease? = none)
    (hnext : ∀ result, SafeCall c none (next result)) :
    SafeCall c none (withReserve id now expiresAt random next) := by
  refine .free ?_ fun _ _ _ => hnext _
  intro s hI hguard
  obtain ⟨e, hresult⟩ | ⟨r, hrandom, hfree, hphase, hissued, hresult⟩ :=
    reserve_cases (s.sessions id) now expiresAt random (s.sessions id).slot
  · have hsame : s.setSlot id (s.sessions id).slot = s := by simp [BrokerState.setSlot]
    simp only [hresult, nonceOf, Except.toOption, Option.map_none, Option.toList_none, List.nil_append, hsame]
    exact ⟨hI, ⟨rfl, fun _ h => h⟩, .of_slots (fun _ => rfl) rfl fun _ => rfl, trivial⟩
  · have hfresh : r.nonce ∉ s.drawn := by simpa [hrandom] using hguard
    simp only [hresult, nonceOf, Except.toOption, Option.map_some, Option.toList_some, List.cons_append,
      List.nil_append]
    have hslots : ∀ other, (({ s.setSlot id (some r) with drawn := r.nonce :: s.drawn } : BrokerState).sessions
        other).slot = ((s.setSlot id (some r)).sessions other).slot := fun _ => rfl
    refine ⟨hI.reserved hfresh hphase, .setSlot hslots rfl ?_,
      .setSlot (.reserved hlease hfree hfresh hphase hissued) hslots rfl ?_, rfl⟩
    · rintro r' hr' hpinned
      cases hr'
      exact absurd hphase hpinned
    · exact fun nonce hnonce => List.mem_cons_of_mem _ hnonce

/-- まだ出していない許可証を出しても、不変条件は保たれる。 -/
theorem BrokerInv.issued (hI : BrokerInv s) {r : ProtocolAdmission} (hslot : (s.sessions id).slot = some r)
    (hphase : r.phase = .preStart) (hissued : r.grantIssued = false) (grantId : Option String) :
    BrokerInv { s.setSlot id (some { r with grantIssued := true, grantId }) with
      granted := r.nonce :: s.granted } := by
  have hkept : BrokerInv (s.setSlot id (some { r with grantIssued := true, grantId })) := by
    refine hI.setSlot ?_ ?_
    · rintro r' hr' hpinned
      cases hr'
      exact absurd hphase hpinned
    · rintro r' hr'
      cases hr'
      exact ⟨r, hslot, rfl, fun h => nomatch h⟩
  refine ⟨hkept.pinned, hkept.drawn, hkept.apart, ?_, ?_, ?_, hkept.drawnOnce⟩
  · intro other r' hr' hungranted hmem
    rcases List.mem_cons.mp hmem with hnonce | hold
    · obtain rfl : other = id := hkept.apart other id r' _ hr' (BrokerState.setSlot_self _) hnonce
      rw [BrokerState.setSlot_self] at hr'
      cases hr'
      cases hungranted
    · exact hkept.ungranted other r' hr' hungranted hold
  · intro nonce hmem
    rcases List.mem_cons.mp hmem with rfl | hold
    · exact hI.drawn id r hslot
    · exact hI.grantedDrawn nonce hold
  · exact List.nodup_cons.mpr ⟨hI.ungranted id r hslot hissued, hI.grantedOnce⟩

/-- 枠を予約して許可証を出す一段は、不変条件を保つ。 -/
theorem safe_reserveGrant {now : Nat} {nonce : String} {random : Option String}
    {next : Except ScheduledRunnerBrokerError ProtocolAdmission → BrokerThread} (hlease : c.lease? = none)
    (hnext : ∀ result, SafeCall c none (next result)) :
    SafeCall c none (withReserveGrant id now nonce random next) := by
  refine .free ?_ fun _ _ _ => hnext _
  intro s hI _
  have houtcome := reserveGrant_outcome (s.sessions id).connected now nonce random (s.sessions id).slot
  generalize hresult : reserveGrant (s.sessions id).connected now nonce random (s.sessions id).slot = result
    at houtcome
  generalize hslot : (s.sessions id).slot = slot at houtcome
  cases houtcome with
  | refused slot e =>
    have hsame : s.setSlot id slot = s := by simp [BrokerState.setSlot, ← hslot]
    simp only [hresult, nonceOf, Except.toOption, Option.map_none, Option.toList_none, List.nil_append,
      hsame]
    exact ⟨hI, ⟨rfl, fun _ h => h⟩, .of_slots (fun _ => rfl) rfl fun _ => rfl, trivial⟩
  | expired phase e =>
    simp only [hresult, nonceOf, Except.toOption, Option.map_none, Option.toList_none, List.nil_append]
    refine ⟨hI.setSlot (fun r hr => by cases hr) (fun r hr => by cases hr),
      .setSlot (fun _ => rfl) rfl (fun r hr => by cases hr), .setSlot ?_ (fun _ => rfl) rfl fun _ h => h, rfl⟩
    rw [hslot]
    exact .dropped hlease phase
  | @unsigned r phase ungranted e =>
    simp only [hresult, nonceOf, Except.toOption, Option.map_none, Option.toList_none, List.nil_append]
    refine ⟨hI.setSlot ?_ ?_, .setSlot (fun _ => rfl) rfl ?_, .setSlot ?_ (fun _ => rfl) rfl fun _ h => h,
      rfl⟩
    · rintro r' hr' hpinned
      cases hr'
      exact absurd phase hpinned
    · rintro r' hr'
      cases hr'
      exact ⟨r, hslot, rfl, fun h => by cases h⟩
    · rintro r' hr' hpinned
      cases hr'
      exact absurd phase hpinned
    · rw [hslot]
      exact .granted hlease phase ungranted r.grantId
  | @issued r phase ungranted grantId =>
    simp only [hresult, nonceOf, Except.toOption, Option.map_some, Option.toList_some, List.cons_append,
      List.nil_append]
    have hslots : ∀ other, ((s.setSlot id (some { r with grantIssued := true, grantId })).sessions other).slot =
        ((s.setSlot id (some { r with grantIssued := true, grantId })).sessions other).slot := fun _ => rfl
    refine ⟨hI.issued hslot phase ungranted grantId, .setSlot hslots rfl ?_,
      .setSlot ?_ hslots rfl fun _ h => h, rfl⟩
    · rintro r' hr' hpinned
      cases hr'
      exact absurd phase hpinned
    · rw [hslot]
      exact .granted hlease phase ungranted grantId

/-! ## 呼び出し -/

theorem safe_store_and_unlock (current : Option SessionId) :
    SafeCall c (some NoPins) (storeCurrent current (unlockCurrent (.ok .unit))) :=
  safe_storeCurrent current (safe_unlockCurrent _)

theorem safe_register (session : SessionId) :
    SafeCall (.register session) none (ScheduledRunnerBroker.register session) := by
  refine safe_lockCurrent fun current => ?_
  cases current with
  | none =>
    refine .hold (Q := fun _ _ => True) ?_ (fun _ => stable_true) fun _ _ _ _ => safe_unlockCurrent _
    intro s hI hcurrent _
    have hnone : NoPins s := noPins_of_current hI fun id hid => by rw [hcurrent] at hid; cases hid
    refine ⟨hI.of_slots (fun _ => rfl) rfl rfl fun id hpinned => absurd hpinned (hnone id), ?_, rfl, trivial⟩
    exact .of_slots (fun _ => rfl) rfl fun ⟨id, hpinned⟩ => absurd hpinned (hnone id)
  | some registered =>
    refine safe_loadConnected (stable_current _) fun connected => ?_
    cases connected with
    | true => exact safe_unlockCurrent _
    | false =>
      rw [if_neg Bool.false_ne_true]
      refine safe_hasPinned (fun _ h => h) (stable_current _) ?_ ?_
      · exact safe_unlockCurrent _
      · exact safe_store_and_unlock (some session)

theorem safe_unregister (session : SessionId) :
    SafeCall (.unregister session) none (ScheduledRunnerBroker.unregister session) := by
  refine safe_disconnectSession (safe_lockCurrent fun current => ?_)
  by_cases hcurrent : current = some session
  · simp only [hcurrent, if_true]
    refine safe_hasPinned (fun _ h => h) (stable_current _) ?_ ?_
    · exact safe_unlockCurrent _
    · rw [if_neg Bool.false_ne_true]
      refine safe_clearSlot session ?_ ?_
      · rfl
      · exact safe_store_and_unlock none
  · simp only [hcurrent, if_false]
    exact safe_unlockCurrent _

theorem safe_pin {body : BrokerThread}
    (hbody : SafeCall c (some fun s => s.current = some lease.session) body) :
    SafeCall c none (lockCurrent fun current =>
      if current = some lease.session then
        loadConnected lease.session fun connected =>
          if connected then body else unlockCurrent (.error .sessionUnavailable)
      else unlockCurrent (.error .sessionUnavailable)) := by
  refine safe_lockCurrent fun current => ?_
  by_cases hcurrent : current = some lease.session
  · simp only [hcurrent, if_true]
    refine safe_loadConnected (stable_current _) fun connected => ?_
    cases connected with
    | true => exact hbody
    | false => exact safe_unlockCurrent _
  · simp only [hcurrent, if_false]
    exact safe_unlockCurrent _

theorem safe_validateAndPin (lease : ReservationLease) (now : Nat) :
    SafeCall (.validateAndPin lease now) none
      (ScheduledRunnerBroker.validateAndPinReservation lease now) := by
  refine safe_pin (safe_advance lease rfl ?_ fun _ => safe_unlockCurrent _)
  intro session r hallowed
  simp only [holdsGrant, Bool.and_eq_true, beq_iff_eq] at hallowed
  obtain ⟨⟨⟨⟨⟨⟨⟨hnonce, _⟩, _⟩, _⟩, _⟩, _⟩, _⟩, hphase⟩ := hallowed
  exact ⟨hnonce, by simp [hphase, ReservationPhase.rank]⟩

theorem safe_beginStartAttempt (lease : ReservationLease) :
    SafeCall (.beginStartAttempt lease) none (ScheduledRunnerBroker.beginStartAttempt lease) := by
  refine safe_pin (safe_advance lease rfl ?_ fun _ => safe_unlockCurrent _)
  intro session r hallowed
  simp only [holdsGrant, Bool.and_eq_true, beq_iff_eq] at hallowed
  obtain ⟨⟨⟨⟨⟨⟨hnonce, _⟩, _⟩, _⟩, _⟩, _⟩, hphase⟩ := hallowed
  exact ⟨hnonce, by simp [hphase, ReservationPhase.rank]⟩

theorem safe_current {body : BrokerThread}
    (hbody : SafeCall c (some fun s => s.current = some lease.session) body) :
    SafeCall c none (lockCurrent fun current =>
      if current = some lease.session then body else unlockCurrent (.error .sessionUnavailable)) := by
  refine safe_lockCurrent fun current => ?_
  by_cases hcurrent : current = some lease.session
  · simp only [hcurrent, if_true]
    exact hbody
  · simp only [hcurrent, if_false]
    exact safe_unlockCurrent _

theorem safe_confirmStartByte (lease : ReservationLease) :
    SafeCall (.confirmStartByte lease) none (ScheduledRunnerBroker.confirmStartByte lease) := by
  refine safe_current (safe_advance lease rfl ?_ fun _ => safe_unlockCurrent _)
  intro session r hallowed
  simp only [holdsGrant, Bool.and_eq_true, Bool.or_eq_true, beq_iff_eq] at hallowed
  obtain ⟨⟨⟨⟨⟨⟨hnonce, _⟩, _⟩, _⟩, _⟩, _⟩, hphase⟩ := hallowed
  refine ⟨hnonce, ?_⟩
  rcases hphase with hphase | hphase <;> simp [hphase, ReservationPhase.rank]

theorem safe_markStartUncertain (lease : ReservationLease) :
    SafeCall (.markStartUncertain lease) none (ScheduledRunnerBroker.markStartUncertain lease) := by
  refine safe_current (safe_advance lease rfl ?_ fun _ => safe_unlockCurrent _)
  intro _ r hallowed
  simp only [Bool.and_eq_true, beq_iff_eq] at hallowed
  exact ⟨hallowed.1, by simp [hallowed.2, ReservationPhase.rank]⟩

theorem safe_releaseReservation {allowAttempting allowStarted : Bool} (hlease : c.lease? = some lease)
    (hcleanup : allowStarted = true → c = .releaseAfterSignedCleanup lease) :
    SafeCall c none (ScheduledRunnerBroker.releaseReservation lease allowAttempting allowStarted) := by
  refine safe_lockCurrent fun current => safe_release hlease hcleanup ?_ ?_
  · refine safe_loadConnected (stable_current _) fun connected => ?_
    simp only [Bool.false_eq_true, false_and, and_false, if_false]
    exact safe_unlockCurrent _
  · have hstable : StableClaim fun s => s.current = current ∧ ¬Pinned s lease.session :=
      fun t t' _ hrely h => ⟨hrely.current.trans h.1, fun hp => h.2 (hrely.pinned _ hp)⟩
    refine safe_loadConnected hstable fun connected => ?_
    split
    · rename_i hclear
      obtain ⟨_, _, rfl⟩ := hclear
      refine .hold (Q := fun _ _ => True) ?_ (fun _ => stable_true) fun _ _ _ _ => safe_unlockCurrent _
      intro s hI hclaim _
      have hnone : NoPins s := noPins_of_current hI fun id hid => by
        obtain rfl : lease.session = id := Option.some.inj (hclaim.1.symm.trans hid)
        exact hclaim.2
      refine ⟨hI.of_slots (fun _ => rfl) rfl rfl fun id hpinned => absurd hpinned (hnone id), ?_, rfl, trivial⟩
      exact .of_slots (fun _ => rfl) rfl fun ⟨id, hpinned⟩ => absurd hpinned (hnone id)
    · exact safe_unlockCurrent _

/-- どの呼び出しも、ほかの呼び出しがどこで割り込んでも、不変条件と約束を守る。 -/
theorem safe_thread (c : BrokerCall) : SafeCall c none c.thread := by
  cases c with
  | register session => exact safe_register session
  | unregister session => exact safe_unregister session
  | slotAvailable session now =>
    show SafeCall _ none (slotAvailableCall session now)
    exact safe_slotAvailable rfl fun _ => .done _
  | reserve session now expiresAt random =>
    show SafeCall _ none (reserveCall session now expiresAt random)
    refine safe_loadConnected_free fun connected => ?_
    split
    · exact .done _
    · exact safe_reserve rfl fun _ => .done _
  | reserveGrant session now nonce random =>
    show SafeCall _ none (reserveGrantCall session now nonce random)
    exact safe_reserveGrant rfl fun _ => .done _
  | validateAndPin lease now => exact safe_validateAndPin lease now
  | beginStartAttempt lease => exact safe_beginStartAttempt lease
  | confirmStartByte lease => exact safe_confirmStartByte lease
  | markStartUncertain lease => exact safe_markStartUncertain lease
  | releaseAfterNoStart lease => exact safe_releaseReservation rfl fun h => nomatch h
  | releaseAfterZeroByteStartFailure lease => exact safe_releaseReservation rfl fun h => nomatch h
  | releaseAfterSignedCleanup lease => exact safe_releaseReservation rfl fun _ => rfl
  | drop lease => exact safe_releaseReservation rfl fun h => nomatch h

end Codeoff.Runtime
