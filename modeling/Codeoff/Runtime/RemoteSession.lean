import Codeoff.Control.Mutation
import Codeoff.Runtime.RemoteProtocol
import Codeoff.State.Authority

/-!
# 遠隔実行のセッション

一つの遠隔実行について、両側から届く枠を役割と局面に照らして受け入れる状態機械。`expect` と `debug_assert!` が破れる
ことは、誤りとは別の結果（`panic`）で表す。
-/

namespace Codeoff.Runtime

open Codeoff.Core Codeoff.Control Codeoff.State

inductive RemoteSessionRole where
  | gateway
  | runner
deriving DecidableEq

inductive RemoteSessionAcceptance where
  | accepted
  | exactDuplicate
deriving DecidableEq

inductive RemoteTerminalDisposition where
  | completed
  | failedBeforeStart
  | outcomeUnknown
deriving DecidableEq

inductive RemoteDisconnectOutcome where
  | preflightNoExecution
  | outcomeUnknown
  | alreadyConclusive (disposition : RemoteTerminalDisposition)
deriving DecidableEq

inductive SessionPhase where
  | waitingReady
  | waitingAdmission
  | waitingPrepare
  | waitingPrepared
  | waitingStart
  | waitingResult
  | terminal
deriving DecidableEq

inductive RemoteSessionError where
  | protocol (error : RemoteProtocolError)
  | wrongSender
  | invalidPhase
  | sessionIdentityMismatch
  | admissionExpired
  | admissionTtlInvalid
  | admissionConsumed
  | runBindingMismatch
  | preparationNonceMismatch
  | attestedProfileDigestMismatch
  | heartbeatPhaseRegression
  | heartbeatAheadOfSession
  | terminal
  | evidenceReplay
deriving DecidableEq, Repr

inductive SessionFault where
  | error (error : RemoteSessionError)
  | panic (message : String)
deriving DecidableEq, Repr

structure ReadyIdentity where
  challenge : String
  readyUntilUnixMillis : Nat
  deploymentEpoch : Nat
  profileDigest : String
  credentialRevision : String
deriving DecidableEq

def ReadyFrame.identity (f : ReadyFrame) : ReadyIdentity where
  challenge := f.challenge
  readyUntilUnixMillis := f.readyUntilUnixMillis
  deploymentEpoch := f.deploymentEpoch
  profileDigest := f.profileDigest
  credentialRevision := f.credentialRevision

structure AdmissionState where
  nonce : String
  effectiveExpiresAtUnixMillis : Nat
  consumed : Bool
deriving DecidableEq

structure TerminalState where
  disposition : RemoteTerminalDisposition
  conclusiveResult : Bool
deriving DecidableEq

structure RemoteSessionState where
  gatewaySequencer : RemoteFrameSequencer
  runnerSequencer : RemoteFrameSequencer
  expectedAuthority : ScheduledPrepareAuthority
  phase : SessionPhase
  ready : Option ReadyIdentity
  admission : Option AdmissionState
  binding : Option RunBinding
  preparationNonce : Option String
  heartbeatPhase : Option RemoteHeartbeatPhase
  started : Bool
  terminal : Option TerminalState
deriving DecidableEq

abbrev SessionCall := EStateM SessionFault RemoteSessionState

def expect {α : Type} (message : String) : Option α → Except SessionFault α
  | some a => .ok a
  | none => .error (.panic message)

def debugAssert (holds : Bool) : Except SessionFault Unit :=
  if holds then .ok () else .error (.panic "assertion failed")

def ensure (holds : Bool) (error : RemoteSessionError) : Except SessionFault Unit :=
  if holds then .ok () else .error (.error error)

def heartbeatRank : RemoteHeartbeatPhase → Nat
  | .preparing => 0
  | .prepared => 1
  | .started => 2

namespace RemoteSessionState

def new (sessionNonce : String) (expectedAuthority : ScheduledPrepareAuthority) :
    Except RemoteSessionError RemoteSessionState :=
  match RemoteFrameSequencer.new sessionNonce, RemoteFrameSequencer.new sessionNonce with
  | .ok gatewaySequencer, .ok runnerSequencer =>
    .ok { gatewaySequencer, runnerSequencer, expectedAuthority, phase := .waitingReady, ready := none,
          admission := none, binding := none, preparationNonce := none, heartbeatPhase := none,
          started := false, terminal := none }
  | .error e, _ => .error (.protocol e)
  | .ok _, .error e => .error (.protocol e)

def disconnect (s : RemoteSessionState) : RemoteDisconnectOutcome :=
  match s.terminal.filter TerminalState.conclusiveResult with
  | some terminal => .alreadyConclusive terminal.disposition
  | none => if s.started then .outcomeUnknown else .preflightNoExecution

def terminalDisposition (s : RemoteSessionState) : Option RemoteTerminalDisposition :=
  s.terminal.map TerminalState.disposition

def require (actualSender expectedSender : RemoteSessionRole) (expectedPhase : SessionPhase)
    (s : RemoteSessionState) : Except SessionFault Unit := do
  ensure (actualSender == expectedSender) .wrongSender
  ensure (s.phase == expectedPhase) .invalidPhase

def validateAdmission (admission : AdmissionFrame) (now : Nat) (s : RemoteSessionState) :
    Except SessionFault Nat := do
  let ready ← expect "ready is present" s.ready
  ensure (admission.challenge == ready.challenge && admission.deploymentEpoch == ready.deploymentEpoch
    && admission.profileDigest == ready.profileDigest) .sessionIdentityMismatch
  ensure (now + maxAdmissionTtlMillis ≤ u64Max) .admissionTtlInvalid
  ensure (now < ready.readyUntilUnixMillis) .admissionExpired
  ensure (now < admission.expiresAtUnixMillis) .admissionExpired
  return min (min ready.readyUntilUnixMillis admission.expiresAtUnixMillis) (now + maxAdmissionTtlMillis)

def requireLiveAdmission (now : Nat) (mustBeConsumed : Bool) (s : RemoteSessionState) :
    Except SessionFault Unit := do
  let admission ← expect "admission is present" s.admission
  debugAssert (admission.nonce != "")
  ensure (now < admission.effectiveExpiresAtUnixMillis) .admissionExpired
  ensure (admission.consumed == mustBeConsumed) .admissionConsumed

def validateBinding (binding : RunBinding) (s : RemoteSessionState) : Except SessionFault Unit := do
  let ready ← expect "ready is present" s.ready
  ensure (binding.deploymentEpoch == ready.deploymentEpoch && binding.profileDigest == ready.profileDigest
    && binding.credentialRevision == ready.credentialRevision) .sessionIdentityMismatch
  ensure (s.expectedAuthority.matchesRemoteBinding binding.runId binding.jobId binding.attempt
    binding.fenceToken binding.authorityDigest) .runBindingMismatch

def requireBinding (binding : RunBinding) (s : RemoteSessionState) : Except SessionFault Unit :=
  ensure (s.binding == some binding) .runBindingMismatch

def requirePreparationNonce (nonce : String) (s : RemoteSessionState) : Except SessionFault Unit :=
  ensure (s.preparationNonce == some nonce) .preparationNonceMismatch

def validateErrorBinding (binding : Option RunBinding) (preparationNonce : Option String)
    (s : RemoteSessionState) : Except SessionFault Unit := do
  ensure (s.binding == binding) .runBindingMismatch
  ensure (s.preparationNonce == preparationNonce) .preparationNonceMismatch

def validateAttestation (E : RemoteEnv) (prepared : PreparedFrame) (s : RemoteSessionState) :
    Except SessionFault Unit := do
  let ready ← expect "ready is present" s.ready
  ensure (E.sha256Hex (utf8Bytes prepared.attestedProfileJson) == prepared.attestedProfileDigest)
    .attestedProfileDigestMismatch
  debugAssert (ready.profileDigest != "")

def maximumHeartbeat : SessionPhase → Option RemoteHeartbeatPhase
  | .waitingPrepared => some .preparing
  | .waitingStart => some .prepared
  | .waitingResult => some .started
  | _ => none

def validateHeartbeat (phase : RemoteHeartbeatPhase) (s : RemoteSessionState) :
    Except SessionFault Unit := do
  match maximumHeartbeat s.phase with
  | none => throw (.error .invalidPhase)
  | some maximum =>
    ensure (heartbeatRank phase ≤ heartbeatRank maximum) .heartbeatAheadOfSession
    ensure (!s.heartbeatPhase.any fun previous => heartbeatRank phase < heartbeatRank previous)
      .heartbeatPhaseRegression

/-! ## 枠ごとの受け入れ -/

def acceptReady (sender : RemoteSessionRole) (ready : ReadyFrame) : SessionCall Unit := do
  inspect (require sender .runner .waitingReady)
  modify fun s => { s with ready := some ready.identity }
  modify fun s => { s with phase := .waitingAdmission }

def acceptAdmission (sender : RemoteSessionRole) (admission : AdmissionFrame) (now : Nat) :
    SessionCall Unit := do
  inspect (require sender .gateway .waitingAdmission)
  let effectiveExpiry ← inspect (validateAdmission admission now)
  modify fun s => { s with
    admission := some
      { nonce := admission.admissionNonce
        effectiveExpiresAtUnixMillis := effectiveExpiry
        consumed := false } }
  modify fun s => { s with phase := .waitingPrepare }

def acceptPrepare (sender : RemoteSessionRole) (prepare : PrepareFrame) (now : Nat) : SessionCall Unit := do
  inspect fun _ => ensure (sender == .gateway) .wrongSender
  inspect fun s => ensure (s.phase != .waitingPrepared) .admissionConsumed
  inspect fun s => ensure (s.phase == .waitingPrepare) .invalidPhase
  inspect (requireLiveAdmission now false)
  inspect (validateBinding prepare.binding)
  let admission ← inspect fun s => expect "admission is present" s.admission
  modify fun s => { s with admission := some { admission with consumed := true } }
  modify fun s => { s with binding := some prepare.binding }
  modify fun s => { s with phase := .waitingPrepared }

def acceptPrepared (E : RemoteEnv) (sender : RemoteSessionRole) (prepared : PreparedFrame) :
    SessionCall Unit := do
  inspect (require sender .runner .waitingPrepared)
  inspect (requireBinding prepared.binding)
  inspect (validateAttestation E prepared)
  modify fun s => { s with preparationNonce := some prepared.preparationNonce }
  modify fun s => { s with phase := .waitingStart }

def acceptStart (sender : RemoteSessionRole) (start : StartFrame) (now : Nat) : SessionCall Unit := do
  inspect (require sender .gateway .waitingStart)
  inspect (requireLiveAdmission now true)
  inspect (requireBinding start.binding)
  inspect (requirePreparationNonce start.preparationNonce)
  modify fun s => { s with started := true }
  modify fun s => { s with phase := .waitingResult }

def resultPhase : RemoteResultKind → SessionPhase
  | .failedBeforeStart => .waitingStart
  | .completed => .waitingResult
  | .outcomeUnknown => .waitingResult

def resultDisposition : RemoteResultKind → RemoteTerminalDisposition
  | .completed => .completed
  | .failedBeforeStart => .failedBeforeStart
  | .outcomeUnknown => .outcomeUnknown

def acceptResult (sender : RemoteSessionRole) (result : ResultFrame) : SessionCall Unit := do
  inspect fun _ => ensure (sender == .runner) .wrongSender
  inspect fun s => ensure (s.phase == resultPhase result.kind) .invalidPhase
  inspect (requireBinding result.binding)
  inspect (requirePreparationNonce result.preparationNonce)
  modify fun s => { s with
    terminal := some { disposition := resultDisposition result.kind, conclusiveResult := true } }
  modify fun s => { s with phase := .terminal }

def acceptHeartbeat (sender : RemoteSessionRole) (heartbeat : HeartbeatFrame) : SessionCall Unit := do
  inspect fun _ => ensure (sender == .runner) .wrongSender
  inspect (requireBinding heartbeat.binding)
  inspect (validateHeartbeat heartbeat.phase)
  modify fun s => { s with heartbeatPhase := some heartbeat.phase }

/-- 結果によらない終わり方。始まっていれば、結果は分からない。 -/
def terminate : SessionCall Unit := do
  modify fun s => { s with
    terminal := some
      { disposition := if s.started then .outcomeUnknown else .failedBeforeStart
        conclusiveResult := false } }
  modify fun s => { s with phase := .terminal }

def acceptCancel (sender : RemoteSessionRole) (cancel : CancelFrame) : SessionCall Unit := do
  inspect fun _ => ensure (sender == .gateway) .wrongSender
  inspect (requireBinding cancel.binding)
  terminate

def acceptError (sender : RemoteSessionRole) (error : ErrorFrame) : SessionCall Unit := do
  inspect fun _ => ensure (sender == .runner) .wrongSender
  inspect (validateErrorBinding error.binding error.preparationNonce)
  terminate

def acceptMessage (E : RemoteEnv) (sender : RemoteSessionRole) (message : RemoteMessage) (now : Nat) :
    SessionCall Unit :=
  match message with
  | .readinessRequest _ => throw (.error .invalidPhase)
  | .ready ready => acceptReady sender ready
  | .admission admission => acceptAdmission sender admission now
  | .prepare prepare => acceptPrepare sender prepare now
  | .prepared prepared => acceptPrepared E sender prepared
  | .start start => acceptStart sender start now
  | .result result => acceptResult sender result
  | .heartbeat heartbeat => acceptHeartbeat sender heartbeat
  | .cancel cancel => acceptCancel sender cancel
  | .error error => acceptError sender error

def sequencer (s : RemoteSessionState) : RemoteSessionRole → RemoteFrameSequencer
  | .gateway => s.gatewaySequencer
  | .runner => s.runnerSequencer

def setSequencer (sender : RemoteSessionRole) (q : RemoteFrameSequencer) (s : RemoteSessionState) :
    RemoteSessionState :=
  match sender with
  | .gateway => { s with gatewaySequencer := q }
  | .runner => { s with runnerSequencer := q }

def isEvidence : RemoteMessage → Bool
  | .prepared _ => true
  | .result _ => true
  | _ => false

def sequence (E : RemoteEnv) (sender : RemoteSessionRole) (frame : RemoteFrame) (now : Nat)
    (s : RemoteSessionState) : Except SessionFault (SequenceAcceptance × RemoteFrameSequencer) :=
  ((s.sequencer sender).accept E frame now).mapError fun e => .error (.protocol e)

def accept (E : RemoteEnv) (sender : RemoteSessionRole) (frame : RemoteFrame) (now : Nat) :
    SessionCall RemoteSessionAcceptance := do
  let (sequenced, nextSequencer) ← inspect (sequence E sender frame now)
  match sequenced with
  | .exactDuplicate =>
    inspect fun _ => ensure (!isEvidence frame.message) .evidenceReplay
    return .exactDuplicate
  | .accepted =>
    inspect fun s => ensure (s.phase != .terminal) .terminal
    acceptMessage E sender frame.message now
    modify (setSequencer sender nextSequencer)
    return .accepted

end RemoteSessionState

/-- 一度の `accept` の引数。 -/
structure RemoteCall where
  sender : RemoteSessionRole
  frame : RemoteFrame
  now : Nat
deriving DecidableEq

structure RemoteSessionHistory where
  state : RemoteSessionState
  accepted : List RemoteCall
deriving DecidableEq

namespace RemoteSessionHistory

def call (E : RemoteEnv) (h : RemoteSessionHistory) (c : RemoteCall) : RemoteSessionHistory :=
  match RemoteSessionState.accept E c.sender c.frame c.now h.state with
  | .ok .accepted s => ⟨s, h.accepted ++ [c]⟩
  | .ok .exactDuplicate s => ⟨s, h.accepted⟩
  | .error _ s => ⟨s, h.accepted⟩

def run (E : RemoteEnv) (s : RemoteSessionState) (calls : List RemoteCall) : RemoteSessionHistory :=
  calls.foldl (call E) ⟨s, []⟩

end RemoteSessionHistory

end Codeoff.Runtime
