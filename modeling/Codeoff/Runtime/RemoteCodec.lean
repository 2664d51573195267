import Codeoff.Json.Value
import Codeoff.Runtime.RemoteProtocol

/-!
# 枠の文面

枠を JSON の値にし、空白のない文面のバイト列にする。読み取りは形と値を検査したうえで、書き出しと同じバイト列だけを受け入れる。
-/

namespace Codeoff.Runtime

open Codeoff.Core Codeoff.Json

def maxRemoteFrameBytes : Nat := 64 * 1024
def u32Max : Nat := 4294967295

/-- 成員が `fields` とちょうど一致するオブジェクト。 -/
def exactObject (value : Value) (fields : List String) (label : String) :
    Except RemoteProtocolError Value :=
  match value with
  | .obj members =>
    if members.length ≠ fields.length ∨ fields.any fun field => (Value.get field (.obj members)).isNone then
      .error (.invalidShape label)
    else .ok (.obj members)
  | _ => .error (.invalidShape label)

def okOr {α : Type} (o : Option α) (error : RemoteProtocolError) : Except RemoteProtocolError α :=
  match o with
  | some a => .ok a
  | none => .error error

def required (object : Value) (field : String) : Except RemoteProtocolError Value :=
  okOr (object.get field) (.invalidField field)

def requiredString (object : Value) (field : String) : Except RemoteProtocolError String := do
  okOr (← required object field).asStr (.invalidField field)

def requiredU64 (object : Value) (field : String) : Except RemoteProtocolError Nat := do
  okOr (← required object field).asU64 (.invalidField field)

def optionalString (object : Value) (field : String) : Except RemoteProtocolError (Option String) := do
  match ← required object field with
  | .null => return none
  | .str value => return some value
  | _ => throw (.invalidField field)

def optionalObject {α : Type} (object : Value) (field : String)
    (parse : Value → Except RemoteProtocolError α) : Except RemoteProtocolError (Option α) := do
  match ← required object field with
  | .null => return none
  | value => return some (← parse value)

/-! ## 枠ごとの文面 -/

def ReadinessRequestFrame.toValue (f : ReadinessRequestFrame) : Value :=
  .object [
    ("challenge", .str f.challenge),
    ("ready_until_unix_millis", .int f.readyUntilUnixMillis)]

def ReadinessRequestFrame.fromValue (value : Value) : Except RemoteProtocolError ReadinessRequestFrame := do
  let object ← exactObject value ["challenge", "ready_until_unix_millis"] "readiness_request"
  return {
    challenge := ← requiredString object "challenge"
    readyUntilUnixMillis := ← requiredU64 object "ready_until_unix_millis" }

def ReadyFrame.toValue (f : ReadyFrame) : Value :=
  .object [
    ("challenge", .str f.challenge),
    ("ready_until_unix_millis", .int f.readyUntilUnixMillis),
    ("attested_profile_json", .str f.attestedProfileJson),
    ("attested_profile_digest", .str f.attestedProfileDigest),
    ("deployment_epoch", .int f.deploymentEpoch),
    ("profile_digest", .str f.profileDigest),
    ("gateway_image_digest", .str f.gatewayImageDigest),
    ("runner_image_digest", .str f.runnerImageDigest),
    ("runner_workload_identity", .str f.runnerWorkloadIdentity),
    ("runner_client_cert_public_key_fingerprint", .str f.runnerClientCertPublicKeyFingerprint),
    ("credential_revision", .str f.credentialRevision),
    ("github_mcp_access_auth_mode", .str f.githubMcpAccessAuthMode),
    ("github_mcp_access_token_revision", .str f.githubMcpAccessTokenRevision),
    ("signed_evidence_json", .str f.signedEvidenceJson)]

def ReadyFrame.fromValue (value : Value) : Except RemoteProtocolError ReadyFrame := do
  let object ← exactObject value [
    "challenge", "ready_until_unix_millis", "attested_profile_json", "attested_profile_digest",
    "deployment_epoch", "profile_digest", "gateway_image_digest", "runner_image_digest",
    "runner_workload_identity", "runner_client_cert_public_key_fingerprint", "credential_revision",
    "github_mcp_access_auth_mode", "github_mcp_access_token_revision", "signed_evidence_json"] "ready"
  return {
    challenge := ← requiredString object "challenge"
    readyUntilUnixMillis := ← requiredU64 object "ready_until_unix_millis"
    attestedProfileJson := ← requiredString object "attested_profile_json"
    attestedProfileDigest := ← requiredString object "attested_profile_digest"
    deploymentEpoch := ← requiredU64 object "deployment_epoch"
    profileDigest := ← requiredString object "profile_digest"
    gatewayImageDigest := ← requiredString object "gateway_image_digest"
    runnerImageDigest := ← requiredString object "runner_image_digest"
    runnerWorkloadIdentity := ← requiredString object "runner_workload_identity"
    runnerClientCertPublicKeyFingerprint := ←
      requiredString object "runner_client_cert_public_key_fingerprint"
    credentialRevision := ← requiredString object "credential_revision"
    githubMcpAccessAuthMode := ← requiredString object "github_mcp_access_auth_mode"
    githubMcpAccessTokenRevision := ← requiredString object "github_mcp_access_token_revision"
    signedEvidenceJson := ← requiredString object "signed_evidence_json" }

def AdmissionFrame.toValue (f : AdmissionFrame) : Value :=
  .object [
    ("challenge", .str f.challenge),
    ("admission_nonce", .str f.admissionNonce),
    ("expires_at_unix_millis", .int f.expiresAtUnixMillis),
    ("deployment_epoch", .int f.deploymentEpoch),
    ("profile_digest", .str f.profileDigest)]

def AdmissionFrame.fromValue (value : Value) : Except RemoteProtocolError AdmissionFrame := do
  let object ← exactObject value
    ["challenge", "admission_nonce", "expires_at_unix_millis", "deployment_epoch", "profile_digest"]
    "admission"
  return {
    challenge := ← requiredString object "challenge"
    admissionNonce := ← requiredString object "admission_nonce"
    expiresAtUnixMillis := ← requiredU64 object "expires_at_unix_millis"
    deploymentEpoch := ← requiredU64 object "deployment_epoch"
    profileDigest := ← requiredString object "profile_digest" }

def RunBinding.toValue (b : RunBinding) : Value :=
  .object [
    ("run_id", .str b.runId),
    ("job_id", .str b.jobId),
    ("attempt", .int b.attempt),
    ("fence_token", .int b.fenceToken),
    ("authority_digest", .str b.authorityDigest),
    ("profile_digest", .str b.profileDigest),
    ("deployment_epoch", .int b.deploymentEpoch),
    ("credential_revision", .str b.credentialRevision)]

/-- `u32::try_from`。 -/
def attemptOf (n : Nat) : Except RemoteProtocolError Nat :=
  if n ≤ u32Max then .ok n else .error (.invalidField "binding.attempt")

def RunBinding.fromValue (value : Value) : Except RemoteProtocolError RunBinding := do
  let object ← exactObject value
    ["run_id", "job_id", "attempt", "fence_token", "authority_digest", "profile_digest",
      "deployment_epoch", "credential_revision"]
    "binding"
  return {
    runId := ← requiredString object "run_id"
    jobId := ← requiredString object "job_id"
    attempt := ← attemptOf (← requiredU64 object "attempt")
    fenceToken := ← requiredU64 object "fence_token"
    authorityDigest := ← requiredString object "authority_digest"
    profileDigest := ← requiredString object "profile_digest"
    deploymentEpoch := ← requiredU64 object "deployment_epoch"
    credentialRevision := ← requiredString object "credential_revision" }

def PrepareFrame.toValue (f : PrepareFrame) : Value :=
  .object [
    ("binding", f.binding.toValue),
    ("execution_grant_json", .str f.executionGrantJson),
    ("isolation_permit_envelope_json", .str f.isolationPermitEnvelopeJson),
    ("task_json", .str f.taskJson),
    ("definition_json", .str f.definitionJson),
    ("capability_json", .str f.capabilityJson),
    ("targets_json", .str f.targetsJson)]

def PrepareFrame.fromValue (value : Value) : Except RemoteProtocolError PrepareFrame := do
  let object ← exactObject value
    ["binding", "execution_grant_json", "isolation_permit_envelope_json", "task_json", "definition_json",
      "capability_json", "targets_json"]
    "prepare"
  return {
    binding := ← RunBinding.fromValue (← required object "binding")
    executionGrantJson := ← requiredString object "execution_grant_json"
    isolationPermitEnvelopeJson := ← requiredString object "isolation_permit_envelope_json"
    taskJson := ← requiredString object "task_json"
    definitionJson := ← requiredString object "definition_json"
    capabilityJson := ← requiredString object "capability_json"
    targetsJson := ← requiredString object "targets_json" }

def PreparedFrame.toValue (f : PreparedFrame) : Value :=
  .object [
    ("binding", f.binding.toValue),
    ("preparation_nonce", .str f.preparationNonce),
    ("attested_profile_json", .str f.attestedProfileJson),
    ("attested_profile_digest", .str f.attestedProfileDigest),
    ("github_mcp_access_auth_mode", .str f.githubMcpAccessAuthMode),
    ("github_mcp_access_token_revision", .str f.githubMcpAccessTokenRevision),
    ("signed_evidence_json", .str f.signedEvidenceJson)]

def PreparedFrame.fromValue (value : Value) : Except RemoteProtocolError PreparedFrame := do
  let object ← exactObject value
    ["binding", "preparation_nonce", "attested_profile_json", "attested_profile_digest",
      "github_mcp_access_auth_mode", "github_mcp_access_token_revision", "signed_evidence_json"]
    "prepared"
  return {
    binding := ← RunBinding.fromValue (← required object "binding")
    preparationNonce := ← requiredString object "preparation_nonce"
    attestedProfileJson := ← requiredString object "attested_profile_json"
    attestedProfileDigest := ← requiredString object "attested_profile_digest"
    githubMcpAccessAuthMode := ← requiredString object "github_mcp_access_auth_mode"
    githubMcpAccessTokenRevision := ← requiredString object "github_mcp_access_token_revision"
    signedEvidenceJson := ← requiredString object "signed_evidence_json" }

def StartFrame.toValue (f : StartFrame) : Value :=
  .object [("binding", f.binding.toValue), ("preparation_nonce", .str f.preparationNonce)]

def StartFrame.fromValue (value : Value) : Except RemoteProtocolError StartFrame := do
  let object ← exactObject value ["binding", "preparation_nonce"] "start"
  return {
    binding := ← RunBinding.fromValue (← required object "binding")
    preparationNonce := ← requiredString object "preparation_nonce" }

def RemoteResultKind.asStr : RemoteResultKind → String
  | .completed => "completed"
  | .failedBeforeStart => "failed_before_start"
  | .outcomeUnknown => "outcome_unknown"

def RemoteResultKind.parse (text : String) : Except RemoteProtocolError RemoteResultKind :=
  match text with
  | "completed" => .ok .completed
  | "failed_before_start" => .ok .failedBeforeStart
  | "outcome_unknown" => .ok .outcomeUnknown
  | _ => .error (.invalidField "result.kind")

def ResultFrame.toValue (f : ResultFrame) : Value :=
  .object [
    ("binding", f.binding.toValue),
    ("preparation_nonce", .str f.preparationNonce),
    ("kind", .str f.kind.asStr),
    ("result_json", .str f.resultJson),
    ("signed_cleanup_evidence_json", .str f.signedCleanupEvidenceJson),
    ("signed_evidence_json", .str f.signedEvidenceJson)]

def ResultFrame.fromValue (value : Value) : Except RemoteProtocolError ResultFrame := do
  let object ← exactObject value
    ["binding", "preparation_nonce", "kind", "result_json", "signed_cleanup_evidence_json",
      "signed_evidence_json"]
    "result"
  let kind ← RemoteResultKind.parse (← requiredString object "kind")
  return {
    binding := ← RunBinding.fromValue (← required object "binding")
    preparationNonce := ← requiredString object "preparation_nonce"
    kind := kind
    resultJson := ← requiredString object "result_json"
    signedCleanupEvidenceJson := ← requiredString object "signed_cleanup_evidence_json"
    signedEvidenceJson := ← requiredString object "signed_evidence_json" }

def CancelFrame.toValue (f : CancelFrame) : Value :=
  .object [("binding", f.binding.toValue), ("reason", .str f.reason)]

def CancelFrame.fromValue (value : Value) : Except RemoteProtocolError CancelFrame := do
  let object ← exactObject value ["binding", "reason"] "cancel"
  return {
    binding := ← RunBinding.fromValue (← required object "binding")
    reason := ← requiredString object "reason" }

def RemoteHeartbeatPhase.asStr : RemoteHeartbeatPhase → String
  | .preparing => "preparing"
  | .prepared => "prepared"
  | .started => "started"

def RemoteHeartbeatPhase.parse (text : String) : Except RemoteProtocolError RemoteHeartbeatPhase :=
  match text with
  | "preparing" => .ok .preparing
  | "prepared" => .ok .prepared
  | "started" => .ok .started
  | _ => .error (.invalidField "heartbeat.phase")

def HeartbeatFrame.toValue (f : HeartbeatFrame) : Value :=
  .object [("binding", f.binding.toValue), ("phase", .str f.phase.asStr)]

def HeartbeatFrame.fromValue (value : Value) : Except RemoteProtocolError HeartbeatFrame := do
  let object ← exactObject value ["binding", "phase"] "heartbeat"
  let phase ← RemoteHeartbeatPhase.parse (← requiredString object "phase")
  return {
    binding := ← RunBinding.fromValue (← required object "binding")
    phase := phase }

def ErrorFrame.toValue (f : ErrorFrame) : Value :=
  .object [
    ("binding", .ofOption (f.binding.map RunBinding.toValue)),
    ("preparation_nonce", .ofOption (f.preparationNonce.map .str)),
    ("code", .str f.code),
    ("message", .str f.message),
    ("retryable", .bool f.retryable)]

def ErrorFrame.fromValue (value : Value) : Except RemoteProtocolError ErrorFrame := do
  let object ← exactObject value ["binding", "preparation_nonce", "code", "message", "retryable"] "error"
  return {
    binding := ← optionalObject object "binding" RunBinding.fromValue
    preparationNonce := ← optionalString object "preparation_nonce"
    code := ← requiredString object "code"
    message := ← requiredString object "message"
    retryable := ← okOr (← required object "retryable").asBool (.invalidField "error.retryable") }

def RemoteMessage.kind : RemoteMessage → String
  | .readinessRequest _ => "readiness_request"
  | .ready _ => "ready"
  | .admission _ => "admission"
  | .prepare _ => "prepare"
  | .prepared _ => "prepared"
  | .start _ => "start"
  | .result _ => "result"
  | .cancel _ => "cancel"
  | .heartbeat _ => "heartbeat"
  | .error _ => "error"

def RemoteMessage.payload : RemoteMessage → Value
  | .readinessRequest f => f.toValue
  | .ready f => f.toValue
  | .admission f => f.toValue
  | .prepare f => f.toValue
  | .prepared f => f.toValue
  | .start f => f.toValue
  | .result f => f.toValue
  | .cancel f => f.toValue
  | .heartbeat f => f.toValue
  | .error f => f.toValue

def RemoteMessage.toValue (m : RemoteMessage) : Value :=
  .object [("kind", .str m.kind), ("payload", m.payload)]

def RemoteMessage.fromValue (value : Value) : Except RemoteProtocolError RemoteMessage := do
  let object ← exactObject value ["kind", "payload"] "message"
  let kind ← requiredString object "kind"
  let payload ← required object "payload"
  match kind with
  | "readiness_request" => return .readinessRequest (← ReadinessRequestFrame.fromValue payload)
  | "ready" => return .ready (← ReadyFrame.fromValue payload)
  | "admission" => return .admission (← AdmissionFrame.fromValue payload)
  | "prepare" => return .prepare (← PrepareFrame.fromValue payload)
  | "prepared" => return .prepared (← PreparedFrame.fromValue payload)
  | "start" => return .start (← StartFrame.fromValue payload)
  | "result" => return .result (← ResultFrame.fromValue payload)
  | "cancel" => return .cancel (← CancelFrame.fromValue payload)
  | "heartbeat" => return .heartbeat (← HeartbeatFrame.fromValue payload)
  | "error" => return .error (← ErrorFrame.fromValue payload)
  | _ => throw (.invalidField "message.kind")

namespace RemoteFrame

def toValue (f : RemoteFrame) : Value :=
  .object [
    ("version", .int f.version),
    ("session_nonce", .str f.sessionNonce),
    ("sequence", .int f.sequence),
    ("message", f.message.toValue)]

variable (E : RemoteEnv)

def encode (f : RemoteFrame) : Except RemoteProtocolError (List UInt8) := do
  f.validateAt E 0
  let encoded := utf8Bytes f.toValue.render
  orError (encoded.length ≤ maxRemoteFrameBytes) .frameTooLarge
  return encoded

def parseBytes (bytes : List UInt8) : Option Value :=
  (String.fromUTF8? ⟨bytes.toArray⟩).bind parse

def decode (bytes : List UInt8) (now : Nat) : Except RemoteProtocolError RemoteFrame := do
  orError (bytes.length ≤ maxRemoteFrameBytes) .frameTooLarge
  let value ← okOr (parseBytes bytes) .invalidJson
  let object ← exactObject value ["version", "session_nonce", "sequence", "message"] "frame"
  let frame : RemoteFrame := {
    version := ← requiredU64 object "version"
    sessionNonce := ← requiredString object "session_nonce"
    sequence := ← requiredU64 object "sequence"
    message := ← RemoteMessage.fromValue (← required object "message") }
  frame.validateAt E now
  orError ((← frame.encode E) == bytes) .nonCanonicalJson
  return frame

end RemoteFrame

end Codeoff.Runtime
