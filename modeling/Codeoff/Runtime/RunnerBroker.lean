import Codeoff.Control.Interleaving
import Mathlib.Data.List.Basic

/-!
# 実行者のセッションの予約

仲介者は、登録された一つのセッションを `current` の錠で守り、各セッションは、一つの予約を自分の錠で守る。
-/

namespace Codeoff.Runtime

open Codeoff.Control

inductive ScheduledRunnerBrokerError where
  | duplicateSession
  | sessionUnavailable
  | sessionExpired
  | sessionBusy
  | randomnessUnavailable
deriving DecidableEq, Repr

inductive ReservationPhase where
  | preStart
  | pinnedForCas
  | attemptingStart
  | outcomeUnknown
  | started
deriving DecidableEq, Repr

structure ProtocolAdmission where
  generation : Nat
  sessionNonce : String
  challenge : String
  nonce : String
  expiresAtUnixMillis : Nat
  grantIssued : Bool
  grantId : Option String
  phase : ReservationPhase
deriving DecidableEq, Repr

/-- `Arc<RegisteredRunnerSession>` の同一性。 -/
abbrev SessionId := Nat

structure RegisteredRunnerSession where
  generation : Nat
  sessionNonce : String
  /-- `ready.challenge`。 -/
  challenge : String
  connected : Bool
  slot : Option ProtocolAdmission
deriving DecidableEq, Repr

structure ReservationLease where
  session : SessionId
  admissionNonce : String
deriving DecidableEq, Repr

abbrev Slot := Option ProtocolAdmission

def ProtocolAdmission.expired (r : ProtocolAdmission) (now : Nat) : Bool :=
  r.phase == .preStart && r.expiresAtUnixMillis ≤ now

namespace RegisteredRunnerSession

def slotAvailable (now : Nat) (slot : Slot) : Bool × Slot :=
  let slot := if slot.any (·.expired now) then none else slot
  (slot.isNone, slot)

/-- `random` は `random_sha256` の結果である。 -/
def reserve (session : RegisteredRunnerSession) (now expiresAt : Nat) (random : Option String) (slot : Slot) :
    Except ScheduledRunnerBrokerError ProtocolAdmission × Slot :=
  if slot.any fun r => !r.expired now then (.error .sessionBusy, slot)
  else
    match random with
    | none => (.error .randomnessUnavailable, slot)
    | some nonce =>
      let reservation : ProtocolAdmission :=
        { generation := session.generation, sessionNonce := session.sessionNonce,
          challenge := session.challenge, nonce, expiresAtUnixMillis := expiresAt, grantIssued := false,
          grantId := none, phase := .preStart }
      (.ok reservation, some reservation)

def reserveGrant (connected : Bool) (now : Nat) (admissionNonce : String) (random : Option String)
    (slot : Slot) : Except ScheduledRunnerBrokerError ProtocolAdmission × Slot :=
  match slot with
  | none => (.error .sessionUnavailable, none)
  | some r =>
    if r.nonce ≠ admissionNonce ∨ r.phase ≠ .preStart then (.error .sessionUnavailable, some r)
    else if r.expiresAtUnixMillis ≤ now ∨ connected = false then (.error .sessionExpired, none)
    else if r.grantIssued then (.error .sessionBusy, some r)
    else
      match random with
      | none => (.error .randomnessUnavailable, some { r with grantIssued := true })
      | some grantId =>
        let issued := { r with grantIssued := true, grantId := some grantId }
        (.ok issued, some issued)

def hasPinnedReservation (slot : Slot) : Bool := slot.any (·.phase != .preStart)

def releaseReservation (admissionNonce : String) (allowAttempting allowStarted : Bool) (slot : Slot) :
    Bool × Slot :=
  if slot.any fun r => r.nonce == admissionNonce && (allowStarted
      || (allowAttempting && r.phase == .attemptingStart)
      || r.phase == .preStart || r.phase == .pinnedForCas) then
    (true, none)
  else (false, slot)

def holdsGrant (session : RegisteredRunnerSession) (lease : ReservationLease) (r : ProtocolAdmission) : Bool :=
  r.nonce == lease.admissionNonce && r.generation == session.generation
    && r.sessionNonce == session.sessionNonce && r.challenge == session.challenge
    && r.grantIssued && r.grantId.isSome

def advance (allowed : ProtocolAdmission → Bool) (phase : ReservationPhase) (slot : Slot) :
    Except ScheduledRunnerBrokerError Unit × Slot :=
  match slot with
  | none => (.error .sessionUnavailable, none)
  | some r =>
    if allowed r then (.ok (), some { r with phase }) else (.error .sessionUnavailable, some r)

end RegisteredRunnerSession

open RegisteredRunnerSession

structure BrokerState where
  /-- `current` の錠が取られているか。 -/
  locked : Bool
  current : Option SessionId
  sessions : SessionId → RegisteredRunnerSession
  /-- `reserve` がこれまでに得た nonce。 -/
  drawn : List String
  /-- 実行の許しを返した予約の nonce。 -/
  granted : List String

namespace BrokerState

def setSlot (s : BrokerState) (id : SessionId) (slot : Slot) : BrokerState :=
  { s with sessions := Function.update s.sessions id { s.sessions id with slot } }

def setConnected (s : BrokerState) (id : SessionId) (connected : Bool) : BrokerState :=
  { s with sessions := Function.update s.sessions id { s.sessions id with connected } }

end BrokerState

inductive BrokerReply where
  | unit
  | available (free : Bool)
  | reservation (admission : ProtocolAdmission)
deriving DecidableEq, Repr

abbrev BrokerThread := Thread BrokerState (Except ScheduledRunnerBrokerError BrokerReply)

/-- `current` の錠を取り、登録されたセッションを読む。 -/
def lockCurrent (next : Option SessionId → BrokerThread) : BrokerThread :=
  .step (fun s => !s.locked) (fun s => { s with locked := true }) fun s => next s.current

def unlockCurrent (result : Except ScheduledRunnerBrokerError BrokerReply) : BrokerThread :=
  .step (fun _ => true) (fun s => { s with locked := false }) fun _ => .done result

def storeCurrent (current : Option SessionId) (next : BrokerThread) : BrokerThread :=
  .step (fun _ => true) (fun s => { s with current }) fun _ => next

def loadConnected (id : SessionId) (next : Bool → BrokerThread) : BrokerThread :=
  .step (fun _ => true) (fun s => s) fun s => next (s.sessions id).connected

def disconnectSession (id : SessionId) (next : BrokerThread) : BrokerThread :=
  .step (fun _ => true) (fun s => s.setConnected id false) fun _ => next

/-- セッション `id` の `slot` の錠を取って `work` をし、放す。 -/
def withSlot {α : Type} (id : SessionId) (work : RegisteredRunnerSession → Slot → α × Slot)
    (next : α → BrokerThread) : BrokerThread :=
  .step (fun _ => true) (fun s => s.setSlot id (work (s.sessions id) (s.sessions id).slot).2)
    fun s => next (work (s.sessions id) (s.sessions id).slot).1

def nonceOf (result : Except ScheduledRunnerBrokerError ProtocolAdmission) : List String :=
  (result.toOption.map ProtocolAdmission.nonce).toList

/-- `random_sha256` は、以前に返した値を返さない。 -/
def withReserve (id : SessionId) (now expiresAt : Nat) (random : Option String)
    (next : Except ScheduledRunnerBrokerError ProtocolAdmission → BrokerThread) : BrokerThread :=
  let work (s : BrokerState) := reserve (s.sessions id) now expiresAt random (s.sessions id).slot
  .step (fun s => random.all fun nonce => decide (nonce ∉ s.drawn))
    (fun s => { s.setSlot id (work s).2 with drawn := nonceOf (work s).1 ++ s.drawn })
    fun s => next (work s).1

def withReserveGrant (id : SessionId) (now : Nat) (nonce : String) (random : Option String)
    (next : Except ScheduledRunnerBrokerError ProtocolAdmission → BrokerThread) : BrokerThread :=
  let work (s : BrokerState) :=
    reserveGrant (s.sessions id).connected now nonce random (s.sessions id).slot
  .step (fun _ => true)
    (fun s => { s.setSlot id (work s).2 with granted := nonceOf (work s).1 ++ s.granted })
    fun s => next (work s).1

/-! ## 呼び出し -/

namespace ScheduledRunnerBroker

def register (session : SessionId) : BrokerThread :=
  lockCurrent fun current =>
    match current with
    | none => storeCurrent (some session) (unlockCurrent (.ok .unit))
    | some registered =>
      loadConnected registered fun connected =>
        if connected then unlockCurrent (.error .duplicateSession)
        else withSlot registered (fun _ slot => (hasPinnedReservation slot, slot)) fun pinned =>
          if pinned then unlockCurrent (.error .duplicateSession)
          else storeCurrent (some session) (unlockCurrent (.ok .unit))

def unregister (session : SessionId) : BrokerThread :=
  disconnectSession session <|
    lockCurrent fun current =>
      if current = some session then
        withSlot session (fun _ slot => (hasPinnedReservation slot, slot)) fun pinned =>
          if pinned then unlockCurrent (.ok .unit)
          else withSlot session (fun _ _ => ((), none)) fun _ =>
            storeCurrent none (unlockCurrent (.ok .unit))
      else unlockCurrent (.ok .unit)

def validateAndPinReservation (lease : ReservationLease) (now : Nat) : BrokerThread :=
  lockCurrent fun current =>
    if current = some lease.session then
      loadConnected lease.session fun connected =>
        if connected then
          withSlot lease.session (fun session => advance (fun r => holdsGrant session lease r
              && now < r.expiresAtUnixMillis && r.phase == .preStart) .pinnedForCas)
            fun result => unlockCurrent (result.map fun _ => .unit)
        else unlockCurrent (.error .sessionUnavailable)
    else unlockCurrent (.error .sessionUnavailable)

def beginStartAttempt (lease : ReservationLease) : BrokerThread :=
  lockCurrent fun current =>
    if current = some lease.session then
      loadConnected lease.session fun connected =>
        if connected then
          withSlot lease.session (fun session => advance (fun r => holdsGrant session lease r
              && r.phase == .pinnedForCas) .attemptingStart)
            fun result => unlockCurrent (result.map fun _ => .unit)
        else unlockCurrent (.error .sessionUnavailable)
    else unlockCurrent (.error .sessionUnavailable)

def confirmStartByte (lease : ReservationLease) : BrokerThread :=
  lockCurrent fun current =>
    if current = some lease.session then
      withSlot lease.session (fun session => advance (fun r => holdsGrant session lease r
          && (r.phase == .attemptingStart || r.phase == .outcomeUnknown)) .started)
        fun result => unlockCurrent (result.map fun _ => .unit)
    else unlockCurrent (.error .sessionUnavailable)

def markStartUncertain (lease : ReservationLease) : BrokerThread :=
  lockCurrent fun current =>
    if current = some lease.session then
      withSlot lease.session (fun _ => advance (fun r => r.nonce == lease.admissionNonce
          && r.phase == .attemptingStart) .outcomeUnknown)
        fun result => unlockCurrent (result.map fun _ => .unit)
    else unlockCurrent (.error .sessionUnavailable)

def releaseReservation (lease : ReservationLease) (allowAttempting allowStarted : Bool) : BrokerThread :=
  lockCurrent fun current =>
    withSlot lease.session (fun _ => RegisteredRunnerSession.releaseReservation lease.admissionNonce
        allowAttempting allowStarted) fun released =>
      loadConnected lease.session fun connected =>
        if connected = false ∧ released = true ∧ current = some lease.session then
          storeCurrent none (unlockCurrent (.ok .unit))
        else unlockCurrent (.ok .unit)

end ScheduledRunnerBroker

namespace RegisteredRunnerSession

def slotAvailableCall (session : SessionId) (now : Nat) : BrokerThread :=
  withSlot session (fun _ => slotAvailable now) fun free => .done (.ok (.available free))

def reserveCall (session : SessionId) (now expiresAt : Nat) (random : Option String) : BrokerThread :=
  loadConnected session fun connected =>
    if connected = false ∨ expiresAt ≤ now then .done (.error .sessionUnavailable)
    else withReserve session now expiresAt random fun result => .done (result.map .reservation)

def reserveGrantCall (session : SessionId) (now : Nat) (nonce : String) (random : Option String) :
    BrokerThread :=
  withReserveGrant session now nonce random fun result => .done (result.map .reservation)

end RegisteredRunnerSession

inductive BrokerCall where
  | register (session : SessionId)
  | unregister (session : SessionId)
  | slotAvailable (session : SessionId) (now : Nat)
  | reserve (session : SessionId) (now expiresAt : Nat) (random : Option String)
  | reserveGrant (session : SessionId) (now : Nat) (nonce : String) (random : Option String)
  | validateAndPin (lease : ReservationLease) (now : Nat)
  | beginStartAttempt (lease : ReservationLease)
  | confirmStartByte (lease : ReservationLease)
  | markStartUncertain (lease : ReservationLease)
  | releaseAfterNoStart (lease : ReservationLease)
  | releaseAfterZeroByteStartFailure (lease : ReservationLease)
  | releaseAfterSignedCleanup (lease : ReservationLease)
  | drop (lease : ReservationLease)
deriving DecidableEq

namespace BrokerCall

def thread : BrokerCall → BrokerThread
  | register session => ScheduledRunnerBroker.register session
  | unregister session => ScheduledRunnerBroker.unregister session
  | slotAvailable session now => slotAvailableCall session now
  | reserve session now expiresAt random => reserveCall session now expiresAt random
  | reserveGrant session now nonce random => reserveGrantCall session now nonce random
  | validateAndPin lease now => ScheduledRunnerBroker.validateAndPinReservation lease now
  | beginStartAttempt lease => ScheduledRunnerBroker.beginStartAttempt lease
  | confirmStartByte lease => ScheduledRunnerBroker.confirmStartByte lease
  | markStartUncertain lease => ScheduledRunnerBroker.markStartUncertain lease
  | releaseAfterNoStart lease => ScheduledRunnerBroker.releaseReservation lease false false
  | releaseAfterZeroByteStartFailure lease => ScheduledRunnerBroker.releaseReservation lease true false
  | releaseAfterSignedCleanup lease => ScheduledRunnerBroker.releaseReservation lease true true
  | drop lease => ScheduledRunnerBroker.releaseReservation lease false false

def lease? : BrokerCall → Option ReservationLease
  | validateAndPin lease _ => some lease
  | beginStartAttempt lease => some lease
  | confirmStartByte lease => some lease
  | markStartUncertain lease => some lease
  | releaseAfterNoStart lease => some lease
  | releaseAfterZeroByteStartFailure lease => some lease
  | releaseAfterSignedCleanup lease => some lease
  | drop lease => some lease
  | _ => none

end BrokerCall

def BrokerState.init (sessions : SessionId → RegisteredRunnerSession) : BrokerState where
  locked := false
  current := none
  sessions id := { sessions id with slot := none }
  drawn := []
  granted := []

abbrev BrokerWorld := World BrokerCall BrokerState (Except ScheduledRunnerBrokerError BrokerReply)

end Codeoff.Runtime
