import Codeoff.Agent.Task
import Codeoff.Core.Identity

/-!
# 遠隔の実行者との枠

版のついた、大きさに上限のある枠と、その検査。u64 と u32 の値は自然数で表し、上限で飽和する加算だけを上限とともに書く。
-/

namespace Codeoff.Runtime

open Codeoff.Core

def remoteProtocolVersion : Nat := 2
def maxReadyTtlMillis : Nat := 30000
def maxAdmissionTtlMillis : Nat := 30000
def maxJsonFieldBytes : Nat := 32 * 1024
def maxErrorBytes : Nat := 2 * 1024
def u64Max : Nat := 18446744073709551615

structure RemoteEnv where
  /-- 入力のバイト列の SHA-256 を、小文字の 16 進 64 桁で返す。 -/
  sha256Hex : List UInt8 → String
  /-- 文面を JSON として読み、読めれば、その値が null かを返す。 -/
  jsonIsNull : String → Option Bool

/-! ## 枠 -/

structure ReadinessRequestFrame where
  challenge : String
  readyUntilUnixMillis : Nat
deriving DecidableEq

structure ReadyFrame where
  signedEvidenceJson : String
  challenge : String
  readyUntilUnixMillis : Nat
  attestedProfileJson : String
  attestedProfileDigest : String
  deploymentEpoch : Nat
  profileDigest : String
  gatewayImageDigest : String
  runnerImageDigest : String
  runnerWorkloadIdentity : String
  runnerClientCertPublicKeyFingerprint : String
  credentialRevision : String
  githubMcpAccessAuthMode : String
  githubMcpAccessTokenRevision : String
deriving DecidableEq

structure AdmissionFrame where
  challenge : String
  admissionNonce : String
  expiresAtUnixMillis : Nat
  deploymentEpoch : Nat
  profileDigest : String
deriving DecidableEq

structure RunBinding where
  runId : String
  jobId : String
  attempt : Nat
  fenceToken : Nat
  authorityDigest : String
  profileDigest : String
  deploymentEpoch : Nat
  credentialRevision : String
deriving DecidableEq

structure PrepareFrame where
  binding : RunBinding
  executionGrantJson : String
  isolationPermitEnvelopeJson : String
  taskJson : String
  definitionJson : String
  capabilityJson : String
  targetsJson : String
deriving DecidableEq

structure PreparedFrame where
  signedEvidenceJson : String
  binding : RunBinding
  preparationNonce : String
  attestedProfileJson : String
  attestedProfileDigest : String
  githubMcpAccessAuthMode : String
  githubMcpAccessTokenRevision : String
deriving DecidableEq

structure StartFrame where
  binding : RunBinding
  preparationNonce : String
deriving DecidableEq

inductive RemoteResultKind where
  | completed
  | failedBeforeStart
  | outcomeUnknown
deriving DecidableEq

structure ResultFrame where
  signedEvidenceJson : String
  signedCleanupEvidenceJson : String
  binding : RunBinding
  preparationNonce : String
  kind : RemoteResultKind
  resultJson : String
deriving DecidableEq

structure CancelFrame where
  binding : RunBinding
  reason : String
deriving DecidableEq

inductive RemoteHeartbeatPhase where
  | preparing
  | prepared
  | started
deriving DecidableEq

structure HeartbeatFrame where
  binding : RunBinding
  phase : RemoteHeartbeatPhase
deriving DecidableEq

structure ErrorFrame where
  binding : Option RunBinding
  preparationNonce : Option String
  code : String
  message : String
  retryable : Bool
deriving DecidableEq

inductive RemoteMessage where
  | readinessRequest (frame : ReadinessRequestFrame)
  | ready (frame : ReadyFrame)
  | admission (frame : AdmissionFrame)
  | prepare (frame : PrepareFrame)
  | prepared (frame : PreparedFrame)
  | start (frame : StartFrame)
  | result (frame : ResultFrame)
  | cancel (frame : CancelFrame)
  | heartbeat (frame : HeartbeatFrame)
  | error (frame : ErrorFrame)
deriving DecidableEq

structure RemoteFrame where
  version : Nat
  sessionNonce : String
  sequence : Nat
  message : RemoteMessage
deriving DecidableEq

inductive RemoteProtocolError where
  | frameTooLarge
  | invalidJson
  | nonCanonicalJson
  | invalidShape (label : String)
  | invalidField (field : String)
  | versionMismatch
  | sessionMismatch
  | sequenceStartsAfterOne
  | sequenceGap
  | sequenceReplay
  | sequenceConflict
deriving DecidableEq, Repr

def orError (holds : Bool) (error : RemoteProtocolError) : Except RemoteProtocolError Unit :=
  if holds then .ok () else .error error

def requireField (field : String) (holds : Bool) : Except RemoteProtocolError Unit :=
  orError holds (.invalidField field)

def requireCriticalId (field value : String) : Except RemoteProtocolError Unit :=
  requireField field (CriticalId.parse value).toBool

def requireCredentialRevision (field value : String) : Except RemoteProtocolError Unit :=
  requireField field (CredentialRevision.parse value).toBool

def requireGithubMcpAccessAuthMode (field value : String) : Except RemoteProtocolError Unit :=
  requireField field (value == "supervisor-dynamic-tools-v1")

def requireBounded (field value : String) (maximum : Nat) : Except RemoteProtocolError Unit :=
  requireField field !(value == "" || value != trim value || byteLen value > maximum)

def requireHex (field value : String) (len : Nat) : Except RemoteProtocolError Unit :=
  requireField field (byteLen value == len && (utf8Bytes value).all isLowerHexDigit)

/-- `sha256:` に続く 64 桁。 -/
def requireImageDigest (field value : String) : Except RemoteProtocolError Unit :=
  requireField field (((utf8Bytes value).dropPrefix? (utf8Bytes "sha256:")).any fun digest =>
    digest.length == 64 && digest.all isLowerHexDigit)

variable (E : RemoteEnv)

def requireJsonField (field value : String) : Except RemoteProtocolError Unit := do
  requireBounded field value maxJsonFieldBytes
  requireField field (E.jsonIsNull value == some false)

/-! ## 枠の検査 -/

def validUntil (readyUntil now : Nat) : Bool :=
  now == 0 || (now < readyUntil && readyUntil - now ≤ maxReadyTtlMillis)

def ReadinessRequestFrame.validateAt (f : ReadinessRequestFrame) (now : Nat) :
    Except RemoteProtocolError Unit := do
  requireHex "readiness_request.challenge" f.challenge 64
  requireField "readiness_request.validity" (validUntil f.readyUntilUnixMillis now)

def ReadyFrame.validateAt (f : ReadyFrame) (now : Nat) : Except RemoteProtocolError Unit := do
  requireHex "ready.challenge" f.challenge 64
  requireJsonField E "ready.attested_profile_json" f.attestedProfileJson
  requireJsonField E "ready.signed_evidence_json" f.signedEvidenceJson
  requireHex "ready.attested_profile_digest" f.attestedProfileDigest 64
  requireHex "ready.profile_digest" f.profileDigest 64
  requireImageDigest "ready.gateway_image_digest" f.gatewayImageDigest
  requireImageDigest "ready.runner_image_digest" f.runnerImageDigest
  requireField "ready.runner_workload_identity"
    (RunnerWorkloadIdentity.parse f.runnerWorkloadIdentity).toBool
  requireHex "ready.runner_client_cert_public_key_fingerprint" f.runnerClientCertPublicKeyFingerprint 64
  requireCredentialRevision "ready.credential_revision" f.credentialRevision
  requireGithubMcpAccessAuthMode "ready.github_mcp_access_auth_mode" f.githubMcpAccessAuthMode
  requireCredentialRevision "ready.github_mcp_access_token_revision" f.githubMcpAccessTokenRevision
  requireField "ready.validity" (f.deploymentEpoch != 0 && validUntil f.readyUntilUnixMillis now)

def AdmissionFrame.validateAt (f : AdmissionFrame) (now : Nat) : Except RemoteProtocolError Unit := do
  requireHex "admission.challenge" f.challenge 64
  requireHex "admission.admission_nonce" f.admissionNonce 64
  requireHex "admission.profile_digest" f.profileDigest 64
  requireField "admission.validity"
    (f.deploymentEpoch != 0 && (now == 0 || decide (now < f.expiresAtUnixMillis)))

def RunBinding.validate (b : RunBinding) : Except RemoteProtocolError Unit := do
  requireCriticalId "binding.run_id" b.runId
  requireCriticalId "binding.job_id" b.jobId
  requireHex "binding.authority_digest" b.authorityDigest 64
  requireHex "binding.profile_digest" b.profileDigest 64
  requireCredentialRevision "binding.credential_revision" b.credentialRevision
  requireField "binding.authority" (b.attempt != 0 && b.fenceToken != 0 && b.deploymentEpoch != 0)

def PrepareFrame.validate (f : PrepareFrame) : Except RemoteProtocolError Unit := do
  f.binding.validate
  requireJsonField E "prepare.execution_grant_json" f.executionGrantJson
  requireJsonField E "prepare.isolation_permit_envelope_json" f.isolationPermitEnvelopeJson
  requireJsonField E "prepare.task_json" f.taskJson
  requireJsonField E "prepare.definition_json" f.definitionJson
  requireJsonField E "prepare.capability_json" f.capabilityJson
  requireJsonField E "prepare.targets_json" f.targetsJson

def PreparedFrame.validate (f : PreparedFrame) : Except RemoteProtocolError Unit := do
  f.binding.validate
  requireHex "prepared.preparation_nonce" f.preparationNonce 64
  requireJsonField E "prepared.attested_profile_json" f.attestedProfileJson
  requireHex "prepared.attested_profile_digest" f.attestedProfileDigest 64
  requireGithubMcpAccessAuthMode "prepared.github_mcp_access_auth_mode" f.githubMcpAccessAuthMode
  requireCredentialRevision "prepared.github_mcp_access_token_revision" f.githubMcpAccessTokenRevision
  requireJsonField E "prepared.signed_evidence_json" f.signedEvidenceJson

def StartFrame.validate (f : StartFrame) : Except RemoteProtocolError Unit := do
  f.binding.validate
  requireHex "start.preparation_nonce" f.preparationNonce 64

def ResultFrame.validate (f : ResultFrame) : Except RemoteProtocolError Unit := do
  f.binding.validate
  requireHex "result.preparation_nonce" f.preparationNonce 64
  requireField "result.result_json" (byteLen f.resultJson ≤ maxJsonFieldBytes)
  requireJsonField E "result.signed_evidence_json" f.signedEvidenceJson
  requireJsonField E "result.signed_cleanup_evidence_json" f.signedCleanupEvidenceJson

def CancelFrame.validate (f : CancelFrame) : Except RemoteProtocolError Unit := do
  f.binding.validate
  requireBounded "cancel.reason" f.reason maxErrorBytes

def ErrorFrame.validate (f : ErrorFrame) : Except RemoteProtocolError Unit := do
  if let some binding := f.binding then
    binding.validate
  if let some nonce := f.preparationNonce then
    requireHex "error.preparation_nonce" nonce 64
  requireCredentialRevision "error.code" f.code
  requireBounded "error.message" f.message maxErrorBytes

def RemoteMessage.validateAt (now : Nat) : RemoteMessage → Except RemoteProtocolError Unit
  | .readinessRequest f => f.validateAt now
  | .ready f => f.validateAt E now
  | .admission f => f.validateAt now
  | .prepare f => f.validate E
  | .prepared f => f.validate E
  | .start f => f.validate
  | .result f => f.validate E
  | .cancel f => f.validate
  | .heartbeat f => f.binding.validate
  | .error f => f.validate

def RemoteFrame.validateAt (f : RemoteFrame) (now : Nat) : Except RemoteProtocolError Unit := do
  orError (f.version == remoteProtocolVersion) .versionMismatch
  requireHex "session_nonce" f.sessionNonce 64
  requireField "sequence" (f.sequence != 0)
  f.message.validateAt E now

inductive SequenceAcceptance where
  | accepted
  | exactDuplicate
deriving DecidableEq

structure RemoteFrameSequencer where
  sessionNonce : String
  last : Option RemoteFrame
deriving DecidableEq

namespace RemoteFrameSequencer

def new (sessionNonce : String) : Except RemoteProtocolError RemoteFrameSequencer := do
  requireHex "session_nonce" sessionNonce 64
  return { sessionNonce, last := none }

def accept (q : RemoteFrameSequencer) (frame : RemoteFrame) (now : Nat) :
    Except RemoteProtocolError (SequenceAcceptance × RemoteFrameSequencer) := do
  frame.validateAt E now
  orError (frame.sessionNonce == q.sessionNonce) .sessionMismatch
  match q.last with
  | none =>
    orError (frame.sequence == 1) .sequenceStartsAfterOne
    return (.accepted, { q with last := some frame })
  | some last =>
    if frame.sequence = last.sequence then
      if frame = last then return (.exactDuplicate, q) else throw .sequenceConflict
    else
      orError (last.sequence < frame.sequence) .sequenceReplay
      orError (frame.sequence == min (last.sequence + 1) u64Max) .sequenceGap
      return (.accepted, { q with last := some frame })

end RemoteFrameSequencer

end Codeoff.Runtime
