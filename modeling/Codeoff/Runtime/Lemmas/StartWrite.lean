import Codeoff.Runtime.Lemmas.BrokerThreads
import Codeoff.Runtime.StartWrite

/-!
# START の書き込みと予約の段階

書き込みの途中の予約の段階は、残っている観測で決まる。
-/

namespace Codeoff.Runtime

open Codeoff.Control RegisteredRunnerSession

variable {s s' : BrokerState} {lease : ReservationLease}

/-! ## セッションの変わらない部分 -/

def sessionIdentity (s : BrokerState) (id : SessionId) : Nat × String × String :=
  ((s.sessions id).generation, (s.sessions id).sessionNonce, (s.sessions id).challenge)

theorem sessionIdentity_setSlot (id : SessionId) (slot : Slot) :
    sessionIdentity (s.setSlot id slot) = sessionIdentity s := by
  funext other
  by_cases h : other = id
  · simp [sessionIdentity, BrokerState.setSlot, h]
  · simp [sessionIdentity, BrokerState.setSlot, Function.update_of_ne h]

theorem sessionIdentity_setConnected (id : SessionId) (connected : Bool) :
    sessionIdentity (s.setConnected id connected) = sessionIdentity s := by
  funext other
  by_cases h : other = id
  · simp [sessionIdentity, BrokerState.setConnected, h]
  · simp [sessionIdentity, BrokerState.setConnected, Function.update_of_ne h]

theorem sessionIdentity_congr (h : s'.sessions = s.sessions) : sessionIdentity s' = sessionIdentity s := by
  funext id
  simp [sessionIdentity, h]

section Fixes

variable {id : SessionId}

abbrev FixesIdentity (t : BrokerThread) : Prop := t.Fixes sessionIdentity

theorem fixes_unlock (result : Except ScheduledRunnerBrokerError BrokerReply) :
    FixesIdentity (unlockCurrent result) := fun _ => ⟨rfl, trivial⟩

theorem fixes_lock {next : Option SessionId → BrokerThread} (h : ∀ current, FixesIdentity (next current)) :
    FixesIdentity (lockCurrent next) := fun s => ⟨rfl, h s.current⟩

theorem fixes_load {next : Bool → BrokerThread} (h : ∀ connected, FixesIdentity (next connected)) :
    FixesIdentity (loadConnected id next) := fun _ => ⟨rfl, h _⟩

theorem fixes_store {next : BrokerThread} (current : Option SessionId) (h : FixesIdentity next) :
    FixesIdentity (storeCurrent current next) := fun _ => ⟨rfl, h⟩

theorem fixes_slot {α : Type} {work : RegisteredRunnerSession → Slot → α × Slot} {next : α → BrokerThread}
    (h : ∀ a, FixesIdentity (next a)) : FixesIdentity (withSlot id work next) :=
  fun _ => ⟨sessionIdentity_setSlot _ _, h _⟩

theorem fixes_ite {p : Prop} [Decidable p] {t u : BrokerThread} (ht : FixesIdentity t) (hu : FixesIdentity u) :
    FixesIdentity (if p then t else u) := by
  split
  · exact ht
  · exact hu

theorem fixes_register (session : SessionId) : FixesIdentity (ScheduledRunnerBroker.register session) := by
  refine fixes_lock fun current => ?_
  cases current with
  | none => exact fixes_store _ (fixes_unlock _)
  | some registered =>
    refine fixes_load fun connected => fixes_ite (fixes_unlock _) (fixes_slot fun pinned => ?_)
    exact fixes_ite (fixes_unlock _) (fixes_store _ (fixes_unlock _))

theorem fixes_unregister (session : SessionId) : FixesIdentity (ScheduledRunnerBroker.unregister session) := by
  refine fun s => ⟨sessionIdentity_setConnected _ _, fixes_lock (fun current => ?_)⟩
  refine fixes_ite (fixes_slot fun pinned => fixes_ite (fixes_unlock _) ?_) (fixes_unlock _)
  exact fixes_slot fun _ => fixes_store _ (fixes_unlock _)

theorem fixes_release (allowAttempting allowStarted : Bool) :
    FixesIdentity (ScheduledRunnerBroker.releaseReservation lease allowAttempting allowStarted) := by
  refine fixes_lock fun current => fixes_slot fun released => fixes_load fun connected => ?_
  exact fixes_ite (fixes_store _ (fixes_unlock _)) (fixes_unlock _)

theorem fixes_current {body : BrokerThread} (hbody : FixesIdentity body) :
    FixesIdentity (lockCurrent fun current =>
      if current = some lease.session then body else unlockCurrent (.error .sessionUnavailable)) :=
  fixes_lock fun _ => fixes_ite hbody (fixes_unlock _)

theorem fixes_connected {body : BrokerThread} (hbody : FixesIdentity body) :
    FixesIdentity (loadConnected id fun connected =>
      if connected then body else unlockCurrent (.error .sessionUnavailable)) :=
  fixes_load fun _ => fixes_ite hbody (fixes_unlock _)

theorem fixes_reserve (session : SessionId) (now expiresAt : Nat) (random : Option String) :
    FixesIdentity (reserveCall session now expiresAt random) := by
  refine fixes_load fun connected => fixes_ite ?_ ?_
  · trivial
  · exact fun s => ⟨(sessionIdentity_congr rfl).trans (sessionIdentity_setSlot _ _), trivial⟩

/-- どの呼び出しも、実行者の身元を変えない。 -/
theorem fixes_thread (c : BrokerCall) : FixesIdentity c.thread := by
  cases c with
  | register session => exact fixes_register session
  | unregister session => exact fixes_unregister session
  | slotAvailable session now => exact fun s => ⟨sessionIdentity_setSlot _ _, trivial⟩
  | reserve session now expiresAt random => exact fixes_reserve session now expiresAt random
  | reserveGrant session now nonce random =>
    exact fun s => ⟨(sessionIdentity_congr rfl).trans (sessionIdentity_setSlot _ _), trivial⟩
  | validateAndPin lease now =>
    show FixesIdentity (ScheduledRunnerBroker.validateAndPinReservation lease now)
    exact fixes_current (fixes_connected (fixes_slot fun _ => fixes_unlock _))
  | beginStartAttempt lease =>
    show FixesIdentity (ScheduledRunnerBroker.beginStartAttempt lease)
    exact fixes_current (fixes_connected (fixes_slot fun _ => fixes_unlock _))
  | confirmStartByte lease =>
    show FixesIdentity (ScheduledRunnerBroker.confirmStartByte lease)
    exact fixes_current (fixes_slot fun _ => fixes_unlock _)
  | markStartUncertain lease =>
    show FixesIdentity (ScheduledRunnerBroker.markStartUncertain lease)
    exact fixes_current (fixes_slot fun _ => fixes_unlock _)
  | releaseAfterNoStart lease => exact fixes_release _ _
  | releaseAfterZeroByteStartFailure lease => exact fixes_release _ _
  | releaseAfterSignedCleanup lease => exact fixes_release _ _
  | drop lease => exact fixes_release _ _

end Fixes

/-! ## 約束 -/

/-- どの一歩も、同じ貸与の呼び出しの約束を守り、セッションの変わらない部分を変えない。 -/
def StartGuarantee (c : StartCall) (s s' : BrokerState) : Prop :=
  ∃ call : BrokerCall, call.lease? = c.lease? ∧ BrokerGuarantee call s s' ∧ sessionIdentity s' = sessionIdentity s

abbrev SafeStart (c : StartCall) : StartThread → Prop :=
  Safe BrokerState.locked BrokerInv BrokerRely StartGuarantee c none

theorem safe_call (call : BrokerCall) {c : StartCall} (hlease : call.lease? = c.lease?)
    {next : Except ScheduledRunnerBrokerError BrokerReply → StartThread} (hnext : ∀ reply, SafeStart c (next reply)) :
    SafeStart c (call.thread.bind next) := by
  refine Safe.bind (((safe_thread call).fixing (fixes_thread call)).imp ?_) hnext
  rintro s s' ⟨hguarantee, hidentity⟩
  exact ⟨call, hlease, hguarantee, hidentity⟩

section Safe

variable {c : StartCall}

theorem safe_observe (call : BrokerCall) (hlease : call.lease? = c.lease?) {next : Bool → StartThread}
    (hnext : ∀ called, SafeStart c (next called)) (armed : Bool) : SafeStart c (observe armed call.thread next) := by
  cases armed with
  | true => exact safe_call call hlease fun reply => hnext reply.toBool
  | false => exact hnext true

/-- 書き込みは、最初のバイトを渡す前に、開始の試みを席に残している。 -/
theorem safe_writeAllObserved (hlease : c.lease? = some lease)
    {next : List WritePoll → WriteProgress → WriteEnd → StartThread}
    (hnext : ∀ polls p outcome, SafeStart c (next polls p outcome)) (polls : List WritePoll) (buffer : List UInt8)
    (p : WriteProgress) : SafeStart c (writeAllObserved lease next polls buffer p) := by
  induction polls generalizing buffer p with
  | nil => cases buffer <;> exact hnext _ _ _
  | cons poll polls ih =>
    cases buffer with
    | nil => exact hnext _ _ _
    | cons byte rest =>
      rw [writeAllObserved]
      refine safe_observe (.beginStartAttempt lease) hlease.symm (fun attempted => ?_) _
      cases attempted with
      | false => exact hnext _ _ _
      | true =>
        simp only [if_true]
        rcases poll with _ | (message | _ | n)
        · refine safe_observe (.markStartUncertain lease) hlease.symm (fun uncertain => ?_) _
          cases uncertain with
          | false => exact hnext _ _ _
          | true => exact ih _ _
        · exact hnext _ _ _
        · exact hnext _ _ _
        · refine safe_observe (.confirmStartByte lease) hlease.symm (fun started => ?_) _
          cases started with
          | false => exact hnext _ _ _
          | true =>
            simp only [if_true]
            split
            · exact ih _ _
            · exact hnext _ _ _

theorem safe_flush {next : WriteEnd → StartThread} (hnext : ∀ outcome, SafeStart c (next outcome))
    (polls : List WritePoll) : SafeStart c (flushStart next polls) := by
  induction polls with
  | nil => exact hnext _
  | cons poll polls ih =>
    rcases poll with _ | (message | n)
    · exact ih
    · exact hnext _
    · exact hnext _

theorem safe_writeFrameObserved (hlease : c.lease? = some lease) (encoded : Except RemoteProtocolError (List UInt8))
    (polls : List WritePoll) (ending : WriteEnding)
    {next : WriteProgress → Option (Except ScheduledRunnerTlsError Unit) → StartThread}
    (hnext : ∀ p result, SafeStart c (next p result)) :
    SafeStart c (writeFrameObserved lease encoded polls ending next) := by
  unfold writeFrameObserved
  cases encoded with
  | error error => exact hnext _ _
  | ok bytes =>
    dsimp only
    split
    · refine safe_writeAllObserved hlease (fun polls p outcome => ?_) _ _ _
      cases outcome with
      | written =>
        refine safe_writeAllObserved hlease (fun polls p outcome => ?_) _ _ _
        cases outcome with
        | written => exact safe_flush (fun _ => hnext _ _) _
        | _ => exact hnext _ _
      | _ => exact hnext _ _
    · exact hnext _ _

/-- 開始の書き込みは、どこで捨てられても、約束した変化だけを残す。 -/
theorem safe_start (c : StartCall) : SafeStart c c.thread := by
  cases c with
  | broker call => exact safe_call call rfl fun reply => .done _
  | writeStart lease encoded polls ending =>
    have hlease : (StartCall.writeStart lease encoded polls ending).lease? = some lease := rfl
    show SafeStart _ (writeStartFrame lease encoded polls ending)
    unfold writeStartFrame
    refine safe_writeFrameObserved hlease encoded polls ending fun p result => ?_
    rcases result with _ | (error | _)
    · exact .done _
    · exact safe_call (.releaseAfterZeroByteStartFailure lease) rfl fun _ => .done _
    · exact .done _

end Safe

/-- 留めたこの貸与の予約は変わらない。 -/
structure Untouched (lease : ReservationLease) (s s' : BrokerState) : Prop where
  slot : ∀ r, (s.sessions lease.session).slot = some r → r.nonce = lease.admissionNonce → r.phase ≠ .preStart →
    (s'.sessions lease.session).slot = some r
  identity : sessionIdentity s' = sessionIdentity s

/-- ほかの貸与の呼び出しは、留めた予約を変えない。 -/
theorem StartGuarantee.untouched {c : StartCall} (hc : c.lease? ≠ some lease) (h : StartGuarantee c s s') :
    Untouched lease s s' := by
  obtain ⟨call, hlease, hguarantee, hidentity⟩ := h
  refine ⟨fun r hr hnonce hpinned => ?_, hidentity⟩
  have hforeign : ∀ own : ReservationLease, call.lease? = some own → own.session = lease.session →
      r.nonce = own.admissionNonce → False := by
    intro own hown hsession hsame
    have hsame : own.admissionNonce = lease.admissionNonce := hsame.symm.trans hnonce
    obtain rfl : own = lease := by
      cases own
      cases lease
      simp_all
    exact hc (hlease.symm.trans hown)
  have hchange := hguarantee.slots lease.session
  rw [hr] at hchange
  generalize (s'.sessions lease.session).slot = new at hchange
  cases hchange with
  | same => rfl
  | reserved _ free _ _ _ => exact absurd (free r rfl) hpinned
  | granted _ phase _ _ => exact absurd phase hpinned
  | advanced own throughLease session nonce _ => exact (hforeign own throughLease session nonce).elim
  | dropped _ phase => exact absurd phase hpinned
  | released own throughLease session nonce _ => exact (hforeign own throughLease session nonce).elim

/-- 許しを得た予約が、`A` を満たす段階にある。 -/
def AtPhase (lease : ReservationLease) (A : ReservationPhase → Prop) (s : BrokerState) : Prop :=
  ∃ r, (s.sessions lease.session).slot = some r ∧ A r.phase ∧ holdsGrant (s.sessions lease.session) lease r = true

abbrev UpholdsStart {ρ : Type} (lease : ReservationLease) (Q : ρ → BrokerState → Prop) (P : BrokerState → Prop)
    (t : Thread BrokerState ρ) : Prop := Upholds BrokerInv (Untouched lease) Q P t

section Claims

variable {A B : ReservationPhase → Prop}

theorem holdsGrant_nonce {session : RegisteredRunnerSession} {r : ProtocolAdmission}
    (h : holdsGrant session lease r = true) : r.nonce = lease.admissionNonce := by
  simp only [holdsGrant, Bool.and_eq_true, beq_iff_eq] at h
  exact h.1.1.1.1.1

theorem holdsGrant_congr (h : sessionIdentity s' = sessionIdentity s) (r : ProtocolAdmission) :
    holdsGrant (s'.sessions lease.session) lease r = holdsGrant (s.sessions lease.session) lease r := by
  have hsession := congrFun h lease.session
  simp only [sessionIdentity, Prod.mk.injEq] at hsession
  obtain ⟨hgeneration, hnonce, hchallenge⟩ := hsession
  simp only [holdsGrant, hgeneration, hnonce, hchallenge]

theorem AtPhase.imp (h : AtPhase lease A s) (himp : ∀ phase, A phase → B phase) : AtPhase lease B s := by
  obtain ⟨r, hr, hphase, hgrant⟩ := h
  exact ⟨r, hr, himp _ hphase, hgrant⟩

theorem stable_atPhase (hA : ∀ phase, A phase → phase ≠ .preStart) :
    Stable BrokerInv (Untouched lease) (AtPhase lease A) := by
  rintro s s' _ huntouched ⟨r, hr, hphase, hgrant⟩
  refine ⟨r, huntouched.slot r hr (holdsGrant_nonce hgrant) (hA _ hphase), hphase, ?_⟩
  rw [holdsGrant_congr huntouched.identity]
  exact hgrant

theorem stable_always : Stable BrokerInv (Untouched lease) fun _ => True := fun _ _ _ _ _ => trivial

theorem AtPhase.current (hI : BrokerInv s) (hA : ∀ phase, A phase → phase ≠ .preStart) (h : AtPhase lease A s) :
    s.current = some lease.session := by
  obtain ⟨r, hr, hphase, _⟩ := h
  exact hI.pinned _ ⟨r, hr, hA _ hphase⟩

theorem atPhase_congr (h : s'.sessions = s.sessions) (hA : AtPhase lease A s) : AtPhase lease A s' := by
  obtain ⟨r, hr, hphase, hgrant⟩ := hA
  rw [← h] at hr hgrant
  exact ⟨r, hr, hphase, hgrant⟩

/-! ### 呼び出しごとの主張 -/

theorem upholds_unlock {P : BrokerState → Prop} {Q : Except ScheduledRunnerBrokerError BrokerReply → BrokerState → Prop}
    (hstable : Stable BrokerInv (Untouched lease) P) (hcongr : ∀ s, P s → P { s with locked := false })
    (result : Except ScheduledRunnerBrokerError BrokerReply) (hpost : ∀ s, P s → Q result s) :
    UpholdsStart lease Q P (unlockCurrent result) :=
  .step (M := fun _ => P) hstable (fun s _ hs => hcongr s hs) fun _ _ _ => .done result hstable hpost

theorem upholds_current (hA : ∀ phase, A phase → phase ≠ .preStart)
    {Q : Except ScheduledRunnerBrokerError BrokerReply → BrokerState → Prop} {body other : BrokerThread}
    (hbody : UpholdsStart lease Q (AtPhase lease A) body) :
    UpholdsStart lease Q (AtPhase lease A)
      (lockCurrent fun current => if current = some lease.session then body else other) := by
  refine .step (M := fun _ => AtPhase lease A) (stable_atPhase hA) (fun s _ hs => atPhase_congr rfl hs) ?_
  intro s hI hs
  dsimp only
  rw [if_pos (hs.current hI hA)]
  exact hbody

theorem upholds_advance (hA : ∀ phase, A phase → phase ≠ .preStart) {phase : ReservationPhase}
    (hpinned : phase ≠ .preStart) {allowed : RegisteredRunnerSession → ProtocolAdmission → Bool}
    (hallowed : ∀ session r, holdsGrant session lease r = true → A r.phase → allowed session r = true) :
    UpholdsStart lease (fun result s => result.toBool = true ∧ AtPhase lease (· = phase) s) (AtPhase lease A)
      (withSlot lease.session (fun session => advance (allowed session) phase)
        fun result => unlockCurrent (result.map fun _ => .unit)) := by
  have hnew : ∀ p, p = phase → p ≠ .preStart := by
    rintro _ rfl
    exact hpinned
  refine .step (M := fun _ => AtPhase lease (· = phase)) (stable_atPhase hA) ?_ ?_
  · rintro s _ ⟨r, hr, hphase, hgrant⟩
    refine ⟨{ r with phase }, ?_, rfl, ?_⟩
    · simp [BrokerState.setSlot_self, advance, hr, hallowed _ r hgrant hphase]
    · rw [holdsGrant_congr (sessionIdentity_setSlot _ _)]
      exact hgrant
  · rintro s _ ⟨r, hr, hphase, hgrant⟩
    have hok : (advance (allowed (s.sessions lease.session)) phase (s.sessions lease.session).slot).1 = .ok () := by
      simp [advance, hr, hallowed _ r hgrant hphase]
    rw [hok]
    exact upholds_unlock (stable_atPhase hnew) (fun s hs => atPhase_congr rfl hs) _ fun s hs => ⟨rfl, hs⟩

theorem upholds_refused (hA : ∀ phase, A phase → phase ≠ .preStart) {phase : ReservationPhase}
    {allowed : RegisteredRunnerSession → ProtocolAdmission → Bool}
    (hrefused : ∀ session r, A r.phase → allowed session r = false) :
    UpholdsStart lease (fun _ => AtPhase lease A) (AtPhase lease A)
      (withSlot lease.session (fun session => advance (allowed session) phase)
        fun result => unlockCurrent (result.map fun _ => .unit)) := by
  refine .step (M := fun _ => AtPhase lease A) (stable_atPhase hA) ?_ fun _ _ _ => ?_
  · rintro s _ ⟨r, hr, hphase, hgrant⟩
    refine ⟨r, ?_, hphase, ?_⟩
    · simp [BrokerState.setSlot_self, advance, hr, hrefused _ r hphase]
    · rw [holdsGrant_congr (sessionIdentity_setSlot _ _)]
      exact hgrant
  · exact upholds_unlock (stable_atPhase hA) (fun s hs => atPhase_congr rfl hs) _ fun s hs => hs

theorem upholds_confirmStartByte (hA : ∀ phase, A phase → phase = .attemptingStart ∨ phase = .outcomeUnknown) :
    UpholdsStart lease (fun result s => result.toBool = true ∧ AtPhase lease (· = .started) s) (AtPhase lease A)
      (ScheduledRunnerBroker.confirmStartByte lease) := by
  have hpinned : ∀ phase, A phase → phase ≠ .preStart := by
    intro phase hphase
    rcases hA phase hphase with h | h <;> simp [h]
  refine upholds_current hpinned (upholds_advance hpinned (by simp) fun session r hgrant hphase => ?_)
  rcases hA _ hphase with h | h <;> simp [hgrant, h]

theorem upholds_markStartUncertain :
    UpholdsStart lease (fun result s => result.toBool = true ∧ AtPhase lease (· = .outcomeUnknown) s)
      (AtPhase lease (· = .attemptingStart)) (ScheduledRunnerBroker.markStartUncertain lease) := by
  have hpinned : ∀ phase : ReservationPhase, phase = .attemptingStart → phase ≠ .preStart := by simp
  refine upholds_current hpinned (upholds_advance hpinned (by simp) fun session r hgrant hphase => ?_)
  simp [holdsGrant_nonce hgrant, hphase]

theorem upholds_markStartUncertain_started :
    UpholdsStart lease (fun _ => AtPhase lease (· = .started)) (AtPhase lease (· = .started))
      (ScheduledRunnerBroker.markStartUncertain lease) := by
  have hpinned : ∀ phase : ReservationPhase, phase = .started → phase ≠ .preStart := by simp
  refine upholds_current hpinned (upholds_refused hpinned fun session r hphase => ?_)
  simp [hphase]

theorem stable_attempted (result : Except ScheduledRunnerBrokerError Unit) :
    Stable BrokerInv (Untouched lease) fun s =>
      result.toBool = true → AtPhase lease (· = .attemptingStart) s :=
  fun s s' hI hstep hs hok => stable_atPhase (by simp) s s' hI hstep (hs hok)

/-- 開始を試みる呼び出しが成功すれば、枠は開始を試みる段階にある。 -/
theorem upholds_beginStartAttempt :
    UpholdsStart lease (fun result s => result.toBool = true → AtPhase lease (· = .attemptingStart) s)
      (fun _ => True) (ScheduledRunnerBroker.beginStartAttempt lease) := by
  have hrefused : UpholdsStart lease (fun result s => result.toBool = true → AtPhase lease (· = .attemptingStart) s)
      (fun _ => True) (unlockCurrent (.error .sessionUnavailable)) :=
    upholds_unlock stable_always (fun _ _ => trivial) _ fun _ _ hok => nomatch hok
  refine .step (M := fun _ _ => True) stable_always (fun _ _ _ => trivial) fun s _ _ => ?_
  dsimp only
  split
  · refine .step (M := fun _ _ => True) stable_always (fun _ _ _ => trivial) fun s _ _ => ?_
    dsimp only
    split
    · let work (session : RegisteredRunnerSession) := advance (fun r => holdsGrant session lease r
        && r.phase == .pinnedForCas) .attemptingStart
      refine .step (M := fun s t => (work (s.sessions lease.session) (s.sessions lease.session).slot).1.toBool = true →
        AtPhase lease (· = .attemptingStart) t) stable_always ?_ ?_
      · intro s _ _ hok
        cases hslot : (s.sessions lease.session).slot with
        | none => simp [work, advance, hslot, Except.toBool] at hok
        | some r =>
          simp only [work, advance, hslot] at hok
          split at hok
          · rename_i hallowed
            have hgrant : holdsGrant (s.sessions lease.session) lease r = true := by
              simp only [Bool.and_eq_true] at hallowed
              exact hallowed.1
            refine ⟨{ r with phase := .attemptingStart }, ?_, rfl, ?_⟩
            · simp [BrokerState.setSlot_self, advance, hslot, hallowed]
            · rw [holdsGrant_congr (sessionIdentity_setSlot _ _)]
              exact hgrant
          · cases hok
      · intro s _ _
        refine upholds_unlock (stable_attempted _) (fun t ht hok => atPhase_congr rfl (ht hok)) _ ?_
        intro t ht hok
        refine ht ?_
        cases hresult : (work (s.sessions lease.session) (s.sessions lease.session).slot).1 with
        | error e => simp [work] at hresult; simp [hresult, Except.map, Except.toBool] at hok
        | ok u => rfl
    · exact hrefused
  · exact hrefused

/-- 開始を試みた後の予約は、署名された後始末のほかでは手放されない。 -/
theorem upholds_releaseReservation (hA : ∀ phase, A phase → phase = .started ∨ phase = .outcomeUnknown) :
    UpholdsStart lease (fun _ => AtPhase lease A) (AtPhase lease A)
      (ScheduledRunnerBroker.releaseReservation lease true false) := by
  have hpinned : ∀ phase, A phase → phase ≠ .preStart := by
    intro phase hphase
    rcases hA phase hphase with h | h <;> simp [h]
  have hkept : ∀ s, AtPhase lease A s → releaseReservation lease.admissionNonce true false
      (s.sessions lease.session).slot = (false, (s.sessions lease.session).slot) := by
    rintro s ⟨r, hr, hphase, _⟩
    rcases hA _ hphase with h | h <;> simp [releaseReservation, hr, h]
  refine .step (M := fun _ => AtPhase lease A) (stable_atPhase hpinned) (fun s _ hs => atPhase_congr rfl hs) ?_
  intro _ _ _
  refine .step (M := fun _ => AtPhase lease A) (stable_atPhase hpinned) ?_ fun s _ hs => ?_
  · intro s _ hs
    dsimp only
    rw [hkept s hs]
    exact atPhase_congr (by simp [BrokerState.setSlot]) hs
  · dsimp only
    rw [hkept s hs]
    refine .step (M := fun _ => AtPhase lease A) (stable_atPhase hpinned) (fun s _ hs => hs) fun _ _ _ => ?_
    simp only [Bool.false_eq_true, false_and, and_false, if_false]
    exact upholds_unlock (stable_atPhase hpinned) (fun s hs => atPhase_congr rfl hs) _ fun s hs => hs

end Claims

end Codeoff.Runtime
