import Codeoff.Runtime.RemoteSession
import Codeoff.Runtime.RunnerGrant
import Codeoff.Runtime.ScheduledExecution

/-!
# 実行者の証拠

実行者が、信用できない中継の向こうから署名して送る四種の証拠と、仲介者による照合。署名するのは、証拠の領域の名、種類の名、中
身の正準形の文面を、NUL で区切って並べたバイト列である。
-/

namespace Codeoff.Runtime

open Codeoff.Core Codeoff.Json

def evidenceSchemaVersion : Nat := 1
def evidenceAlgorithmVersion : String := "ed25519-v1"
def evidenceDomain : List UInt8 := utf8Bytes "codeoff-scheduled-runner-evidence-v1"
def maxEvidenceBytes : Nat := 64 * 1024

inductive RunnerEvidenceKind where
  | ready
  | prepared
  | result
  | cleanup
deriving DecidableEq, Repr

def RunnerEvidenceKind.name : RunnerEvidenceKind → String
  | .ready => "ready"
  | .prepared => "prepared"
  | .result => "result"
  | .cleanup => "cleanup"

inductive RunnerEvidenceError where
  | invalidClaims
  | invalidKey
  | invalidSignature
  | expired
  | notYetValid
  | tooLarge
deriving DecidableEq, Repr

/-! ## 証拠の中身 -/

structure RunnerEvidenceClaims where
  kind : RunnerEvidenceKind
  algorithmVersion : String
  signerIdentity : String
  keyRevision : String
  sessionNonce : String
  challenge : String
  sequence : Nat
  issuedAtUnixMillis : Nat
  expiresAtUnixMillis : Nat
  deploymentEpoch : Nat
  deploymentProfileDigest : String
  observedProfileDigest : String
  executorIdentity : String
  credentialRevision : String
  payloadDigest : String
deriving DecidableEq

def orEvidenceError {α : Type} (o : Option α) (error : RunnerEvidenceError) : Except RunnerEvidenceError α :=
  match o with
  | some a => .ok a
  | none => .error error

namespace RunnerEvidenceClaims

def members (c : RunnerEvidenceClaims) : List (String × Value) := [
  ("schema_version", .int evidenceSchemaVersion),
  ("kind", .str c.kind.name),
  ("algorithm_version", .str c.algorithmVersion),
  ("signer_identity", .str c.signerIdentity),
  ("key_revision", .str c.keyRevision),
  ("session_nonce", .str c.sessionNonce),
  ("challenge", .str c.challenge),
  ("sequence", .int c.sequence),
  ("issued_at_unix_millis", .int c.issuedAtUnixMillis),
  ("expires_at_unix_millis", .int c.expiresAtUnixMillis),
  ("deployment_epoch", .int c.deploymentEpoch),
  ("deployment_profile_digest", .str c.deploymentProfileDigest),
  ("observed_profile_digest", .str c.observedProfileDigest),
  ("executor_identity", .str c.executorIdentity),
  ("credential_revision", .str c.credentialRevision),
  ("payload_digest", .str c.payloadDigest)]

def canonicalJson (c : RunnerEvidenceClaims) : String := (Value.object c.members).render

def fields : List String := [
  "algorithm_version", "challenge", "credential_revision", "deployment_epoch", "deployment_profile_digest",
  "executor_identity", "expires_at_unix_millis", "issued_at_unix_millis", "key_revision", "kind",
  "observed_profile_digest", "payload_digest", "schema_version", "sequence", "session_nonce", "signer_identity"]

def kindOf (text : String) : Except RunnerEvidenceError RunnerEvidenceKind :=
  match text with
  | "ready" => .ok .ready
  | "prepared" => .ok .prepared
  | "result" => .ok .result
  | "cleanup" => .ok .cleanup
  | _ => .error .invalidClaims

def parseClaims (encoded : String) : Except RunnerEvidenceError RunnerEvidenceClaims := do
  let value ← orEvidenceError (parse encoded) .invalidClaims
  if value.render ≠ encoded then throw .invalidClaims
  let object ← (exactObject value fields "evidence").mapError fun _ => .invalidClaims
  let string (field : String) := orEvidenceError ((object.get field).bind Value.asStr) .invalidClaims
  let number (field : String) := orEvidenceError ((object.get field).bind Value.asU64) .invalidClaims
  if (← number "schema_version") ≠ evidenceSchemaVersion then throw .invalidClaims
  let kind ← kindOf (← string "kind")
  return {
    kind
    algorithmVersion := ← string "algorithm_version"
    signerIdentity := ← string "signer_identity"
    keyRevision := ← string "key_revision"
    sessionNonce := ← string "session_nonce"
    challenge := ← string "challenge"
    sequence := ← number "sequence"
    issuedAtUnixMillis := ← number "issued_at_unix_millis"
    expiresAtUnixMillis := ← number "expires_at_unix_millis"
    deploymentEpoch := ← number "deployment_epoch"
    deploymentProfileDigest := ← string "deployment_profile_digest"
    observedProfileDigest := ← string "observed_profile_digest"
    executorIdentity := ← string "executor_identity"
    credentialRevision := ← string "credential_revision"
    payloadDigest := ← string "payload_digest" }

def digests (c : RunnerEvidenceClaims) : List String :=
  [c.sessionNonce, c.challenge, c.deploymentProfileDigest, c.observedProfileDigest, c.payloadDigest]

/-- `validate_claims`。 -/
def validate (c : RunnerEvidenceClaims) (now : Nat) : Except RunnerEvidenceError Unit :=
  if c.algorithmVersion ≠ evidenceAlgorithmVersion ∨ c.signerIdentity = "" ∨ c.keyRevision = "" ∨ c.sequence = 0
      ∨ c.deploymentEpoch = 0 ∨ c.expiresAtUnixMillis ≤ now then .error .invalidClaims
  else if c.digests.all isLowercaseSha256 = false then .error .invalidClaims
  else if c.executorIdentity = "" ∨ c.credentialRevision = "" then .error .invalidClaims
  else .ok ()

def signingInput (kind : RunnerEvidenceKind) (claimsJson : String) : List UInt8 :=
  evidenceDomain ++ 0 :: (utf8Bytes kind.name ++ 0 :: utf8Bytes claimsJson)

end RunnerEvidenceClaims

structure SignedRunnerEvidence where
  claimsJson : String
  keyId : String
  signatureHex : String
deriving DecidableEq

namespace SignedRunnerEvidence

def members (e : SignedRunnerEvidence) : List (String × Value) :=
  [("claims_json", .str e.claimsJson), ("key_id", .str e.keyId), ("signature_hex", .str e.signatureHex)]

def canonicalJson (e : SignedRunnerEvidence) : String := (Value.object e.members).render

def validateOuterFields (e : SignedRunnerEvidence) : Except RunnerEvidenceError Unit :=
  if (EvidenceKeyId.parse e.keyId).toBool = false then .error .invalidKey
  else if isSignatureHex e.signatureHex = false then .error .invalidSignature
  else .ok ()

def parseCanonicalJson (encoded : String) : Except RunnerEvidenceError SignedRunnerEvidence := do
  if maxEvidenceBytes < byteLen encoded then throw .tooLarge
  let value ← orEvidenceError (parse encoded) .invalidClaims
  if value.render ≠ encoded then throw .invalidClaims
  let object ← (exactObject value ["claims_json", "key_id", "signature_hex"] "evidence").mapError
    fun _ => .invalidClaims
  let string (field : String) := orEvidenceError ((object.get field).bind Value.asStr) .invalidClaims
  let evidence : SignedRunnerEvidence := {
    claimsJson := ← string "claims_json"
    keyId := ← string "key_id"
    signatureHex := ← string "signature_hex" }
  evidence.validateOuterFields
  return evidence

def decodeHex (value : String) : Except RunnerEvidenceError (List UInt8) :=
  if isSignatureHex value = false then .error .invalidSignature
  else orEvidenceError (hexPairs (utf8Bytes value)) .invalidSignature

end SignedRunnerEvidence

def signWithKeyPair (claims : RunnerEvidenceClaims) (keyId : String) (keyPair : Ed25519KeyPair) :
    Except RunnerEvidenceError SignedRunnerEvidence :=
  if (EvidenceKeyId.parse keyId).toBool = false then .error .invalidKey
  else do
    claims.validate claims.issuedAtUnixMillis
    if maxEvidenceBytes < byteLen claims.canonicalJson then throw .tooLarge
    return {
      claimsJson := claims.canonicalJson
      keyId
      signatureHex := hex (keyPair.sign (RunnerEvidenceClaims.signingInput claims.kind claims.canonicalJson)) }

variable (E : SignatureEnv)

def verifyRunnerEvidence (evidence : SignedRunnerEvidence) (publicKey : List UInt8) (nowUnixMillis : Nat) :
    Except RunnerEvidenceError RunnerEvidenceClaims := do
  evidence.validateOuterFields
  if maxEvidenceBytes < byteLen evidence.claimsJson then throw .tooLarge
  let claims ← RunnerEvidenceClaims.parseClaims evidence.claimsJson
  let signature ← SignedRunnerEvidence.decodeHex evidence.signatureHex
  if E.verify publicKey (RunnerEvidenceClaims.signingInput claims.kind evidence.claimsJson) signature = false then
    throw .invalidSignature
  if nowUnixMillis < claims.issuedAtUnixMillis then throw .notYetValid
  if claims.expiresAtUnixMillis ≤ nowUnixMillis then throw .expired
  claims.validate claims.issuedAtUnixMillis
  return claims

def evidencePayloadDigest (bytes : List UInt8) : String := E.sha256Hex bytes

def bindingValue (b : RunBinding) : Value :=
  .object [
    ("attempt", .int b.attempt),
    ("authority_digest", .str b.authorityDigest),
    ("credential_revision", .str b.credentialRevision),
    ("deployment_epoch", .int b.deploymentEpoch),
    ("fence_token", .int b.fenceToken),
    ("job_id", .str b.jobId),
    ("profile_digest", .str b.profileDigest),
    ("run_id", .str b.runId)]

def readyPayload (f : ReadyFrame) : List (String × Value) := [
  ("attested_profile_digest", .str f.attestedProfileDigest),
  ("attested_profile_json", .str f.attestedProfileJson),
  ("challenge", .str f.challenge),
  ("credential_revision", .str f.credentialRevision),
  ("deployment_epoch", .int f.deploymentEpoch),
  ("gateway_image_digest", .str f.gatewayImageDigest),
  ("github_mcp_access_auth_mode", .str f.githubMcpAccessAuthMode),
  ("github_mcp_access_token_revision", .str f.githubMcpAccessTokenRevision),
  ("kind", .str "ready"),
  ("profile_digest", .str f.profileDigest),
  ("ready_until_unix_millis", .int f.readyUntilUnixMillis),
  ("runner_client_cert_public_key_fingerprint", .str f.runnerClientCertPublicKeyFingerprint),
  ("runner_image_digest", .str f.runnerImageDigest),
  ("runner_workload_identity", .str f.runnerWorkloadIdentity),
  ("schema_version", .int 1)]

def preparedPayload (f : PreparedFrame) : List (String × Value) := [
  ("attested_profile_digest", .str f.attestedProfileDigest),
  ("attested_profile_json", .str f.attestedProfileJson),
  ("binding", bindingValue f.binding),
  ("kind", .str "prepared"),
  ("github_mcp_access_auth_mode", .str f.githubMcpAccessAuthMode),
  ("github_mcp_access_token_revision", .str f.githubMcpAccessTokenRevision),
  ("preparation_nonce", .str f.preparationNonce),
  ("schema_version", .int 1)]

def resultPayload (f : ResultFrame) : List (String × Value) := [
  ("binding", bindingValue f.binding),
  ("kind", .str "result"),
  ("preparation_nonce", .str f.preparationNonce),
  ("result_json", .str f.resultJson),
  ("result_kind", .str f.kind.asStr),
  ("schema_version", .int 1)]

def readyEvidencePayloadDigest (f : ReadyFrame) : String :=
  evidencePayloadDigest E (utf8Bytes (Value.object (readyPayload f)).render)

def preparedEvidencePayloadDigest (f : PreparedFrame) : String :=
  evidencePayloadDigest E (utf8Bytes (Value.object (preparedPayload f)).render)

def resultEvidencePayloadDigest (f : ResultFrame) : String :=
  evidencePayloadDigest E (utf8Bytes (Value.object (resultPayload f)).render)

def cleanupPayload (f : ResultFrame) : List (String × Value) := [
  ("binding", bindingValue f.binding),
  ("kind", .str "cleanup"),
  ("preparation_nonce", .str f.preparationNonce),
  ("result_json", .str f.resultJson),
  ("result_kind", .str f.kind.asStr),
  ("result_payload_digest", .str (resultEvidencePayloadDigest E f)),
  ("schema_version", .int 1),
  ("signed_result_evidence_json", .str f.signedEvidenceJson)]

def cleanupEvidencePayloadDigest (f : ResultFrame) : String :=
  evidencePayloadDigest E (utf8Bytes (Value.object (cleanupPayload E f)).render)

/-! ## 仲介者の照合 -/

structure RunnerEvidenceConfig where
  deploymentEpoch : Nat
  profileDigest : String
  signedNotAfterUnixSeconds : Int
  gatewayImageDigest : String
  runnerImageDigest : String
  runnerWorkloadIdentity : String
  runnerClientSpkiSha256 : String
  credentialRevision : String
  githubMcpConfiguredArtifactSha256 : String
  githubMcpConfiguredEndpointIdentity : String
  githubMcpAccessAuthMode : String
  githubMcpAccessTokenRevision : String
  executorEvidencePublicKey : List UInt8
  executorEvidenceKeyId : String
  executorEvidenceKeyRevision : String
  executorEvidenceSignerIdentity : String
  executorIdentity : String
  admissionTtlMillis : Nat

structure ScheduledRunnerAuthorizedPeer where
  runnerIdentity : String
  clientSpkiSha256 : String

inductive EvidenceRejection where
  | sessionBindingMismatch
  | sessionExpired
  | staleSession
  | readyIdentityMismatch
  | protocolRejected
deriving DecidableEq, Repr

structure ExpectedRunnerEvidence where
  kind : RunnerEvidenceKind
  sequence : Nat
  observedProfileDigest : String
  payloadDigest : String

def u64SaturatingMul (a b : Nat) : Nat := min (a * b) u64Max

def u64SaturatingAdd (a b : Nat) : Nat := min (a + b) u64Max

def rejectIf (c : Prop) [Decidable c] (rejection : EvidenceRejection) : Except EvidenceRejection Unit :=
  if c then .error rejection else .ok ()

def verifiedClaims (config : RunnerEvidenceConfig) (encoded : String) (now : Nat) (rejection : EvidenceRejection) :
    Except EvidenceRejection RunnerEvidenceClaims := do
  let evidence ← (SignedRunnerEvidence.parseCanonicalJson encoded).mapError fun _ => rejection
  rejectIf (evidence.keyId ≠ config.executorEvidenceKeyId) rejection
  (verifyRunnerEvidence E evidence config.executorEvidencePublicKey now).mapError fun _ => rejection

def validateReady (config : RunnerEvidenceConfig) (peer : ScheduledRunnerAuthorizedPeer) (frame : RemoteFrame)
    (ready : ReadyFrame) (expectedSessionNonce expectedChallenge : String) (now : Nat) :
    Except EvidenceRejection Unit := do
  rejectIf (frame.version ≠ remoteProtocolVersion ∨ frame.sequence ≠ 1 ∨ frame.sessionNonce ≠ expectedSessionNonce
      ∨ ready.challenge ≠ expectedChallenge) .sessionBindingMismatch
  rejectIf (ready.readyUntilUnixMillis ≤ now
      ∨ u64SaturatingAdd now config.admissionTtlMillis < ready.readyUntilUnixMillis
      ∨ u64SaturatingMul config.signedNotAfterUnixSeconds.toNat 1000 < ready.readyUntilUnixMillis) .sessionExpired
  rejectIf (ready.deploymentEpoch < config.deploymentEpoch) .staleSession
  rejectIf (ready.deploymentEpoch ≠ config.deploymentEpoch ∨ ready.profileDigest ≠ config.profileDigest
      ∨ ready.gatewayImageDigest ≠ config.gatewayImageDigest ∨ ready.runnerImageDigest ≠ config.runnerImageDigest
      ∨ ready.runnerWorkloadIdentity ≠ config.runnerWorkloadIdentity
      ∨ ready.runnerClientCertPublicKeyFingerprint ≠ config.runnerClientSpkiSha256
      ∨ ready.credentialRevision ≠ config.credentialRevision
      ∨ ready.githubMcpAccessAuthMode ≠ config.githubMcpAccessAuthMode
      ∨ ready.githubMcpAccessTokenRevision ≠ config.githubMcpAccessTokenRevision
      ∨ peer.runnerIdentity ≠ config.runnerWorkloadIdentity ∨ peer.clientSpkiSha256 ≠ config.runnerClientSpkiSha256)
    .readyIdentityMismatch
  let attested ← (AttestedCapabilityProfile.parseCanonicalJson E.sha256Hex ready.attestedProfileJson).mapError
    fun _ => .readyIdentityMismatch
  rejectIf (E.sha256Hex (utf8Bytes ready.attestedProfileJson) ≠ ready.attestedProfileDigest
      ∨ attested.gatewayImageDigest ≠ config.gatewayImageDigest ∨ attested.runnerImageDigest ≠ config.runnerImageDigest
      ∨ attested.runnerWorkloadIdentity ≠ config.runnerWorkloadIdentity
      ∨ attested.runnerClientCertPublicKeyFingerprint ≠ config.runnerClientSpkiSha256
      ∨ attested.credentialRevision ≠ config.credentialRevision
      ∨ attested.githubMcpConfiguredArtifactSha256 ≠ config.githubMcpConfiguredArtifactSha256
      ∨ attested.githubMcpConfiguredEndpointIdentity ≠ config.githubMcpConfiguredEndpointIdentity
      ∨ attested.githubMcpAccessAuthMode ≠ config.githubMcpAccessAuthMode
      ∨ attested.githubMcpAccessTokenRevision ≠ config.githubMcpAccessTokenRevision) .readyIdentityMismatch
  let claims ← verifiedClaims E config ready.signedEvidenceJson now .readyIdentityMismatch
  rejectIf (claims.kind ≠ .ready ∨ claims.sessionNonce ≠ expectedSessionNonce ∨ claims.challenge ≠ expectedChallenge
      ∨ claims.sequence ≠ frame.sequence ∨ claims.expiresAtUnixMillis ≠ ready.readyUntilUnixMillis
      ∨ claims.deploymentEpoch ≠ config.deploymentEpoch ∨ claims.deploymentProfileDigest ≠ config.profileDigest
      ∨ claims.observedProfileDigest ≠ ready.attestedProfileDigest
      ∨ claims.signerIdentity ≠ config.executorEvidenceSignerIdentity
      ∨ claims.executorIdentity ≠ config.executorIdentity ∨ claims.keyRevision ≠ config.executorEvidenceKeyRevision
      ∨ claims.credentialRevision ≠ config.credentialRevision
      ∨ claims.payloadDigest ≠ readyEvidencePayloadDigest E ready) .readyIdentityMismatch

def validateExecutorEvidence (config : RunnerEvidenceConfig) (readyFrame : RemoteFrame)
    (expected : ExpectedRunnerEvidence) (encoded : String) (now : Nat) : Except EvidenceRejection Unit := do
  match readyFrame.message with
  | .ready ready =>
    let claims ← verifiedClaims E config encoded now .protocolRejected
    rejectIf (claims.kind ≠ expected.kind ∨ claims.sessionNonce ≠ readyFrame.sessionNonce
        ∨ claims.challenge ≠ ready.challenge ∨ claims.sequence ≠ expected.sequence
        ∨ claims.deploymentEpoch ≠ config.deploymentEpoch ∨ claims.deploymentProfileDigest ≠ config.profileDigest
        ∨ claims.observedProfileDigest ≠ expected.observedProfileDigest
        ∨ claims.signerIdentity ≠ config.executorEvidenceSignerIdentity
        ∨ claims.keyRevision ≠ config.executorEvidenceKeyRevision ∨ claims.executorIdentity ≠ config.executorIdentity
        ∨ claims.credentialRevision ≠ config.credentialRevision ∨ claims.payloadDigest ≠ expected.payloadDigest)
      .protocolRejected
  | _ => throw .protocolRejected

abbrev EvidenceCall := EStateM EvidenceRejection RemoteSessionState

def checked (result : Except EvidenceRejection Unit) : EvidenceCall Unit := fun s =>
  match result with
  | .ok () => .ok () s
  | .error e => .error e s

def acceptFrame (R : RemoteEnv) (frame : RemoteFrame) (now : Nat) : EvidenceCall Unit := fun s =>
  match RemoteSessionState.accept R .runner frame now s with
  | .ok _ s' => .ok () s'
  | .error _ s' => .error .protocolRejected s'

def preparedEvidence (config : RunnerEvidenceConfig) (ready frame : RemoteFrame) (prepared : PreparedFrame)
    (now : Nat) : Except EvidenceRejection Unit := do
  rejectIf (prepared.githubMcpAccessAuthMode ≠ config.githubMcpAccessAuthMode
      ∨ prepared.githubMcpAccessTokenRevision ≠ config.githubMcpAccessTokenRevision) .protocolRejected
  let attested ← (AttestedCapabilityProfile.parseCanonicalJson E.sha256Hex prepared.attestedProfileJson).mapError
    fun _ => .protocolRejected
  rejectIf (attested.githubMcpAccessAuthMode ≠ config.githubMcpAccessAuthMode
      ∨ attested.githubMcpAccessTokenRevision ≠ config.githubMcpAccessTokenRevision
      ∨ attested.githubMcpConfiguredArtifactSha256 ≠ config.githubMcpConfiguredArtifactSha256
      ∨ attested.githubMcpConfiguredEndpointIdentity ≠ config.githubMcpConfiguredEndpointIdentity) .protocolRejected
  validateExecutorEvidence E config ready
    ⟨.prepared, frame.sequence, prepared.attestedProfileDigest, preparedEvidencePayloadDigest E prepared⟩
    prepared.signedEvidenceJson now

def acceptAuthenticatedPrepared (R : RemoteEnv) (config : RunnerEvidenceConfig) (ready frame : RemoteFrame)
    (now : Nat) : EvidenceCall Unit := do
  match frame.message with
  | .prepared prepared =>
    checked (preparedEvidence E config ready frame prepared now)
    acceptFrame R frame now
  | _ => throw .protocolRejected

def resultEvidence (config : RunnerEvidenceConfig) (ready : ReadyFrame) (executorObservedProfileDigest : String)
    (frame : RemoteFrame) (result : ResultFrame) (now : Nat) : Except EvidenceRejection Unit := do
  let readyFrame : RemoteFrame := ⟨remoteProtocolVersion, frame.sessionNonce, 1, .ready ready⟩
  validateExecutorEvidence E config readyFrame
    ⟨.result, frame.sequence, executorObservedProfileDigest, resultEvidencePayloadDigest E result⟩
    result.signedEvidenceJson now
  validateExecutorEvidence E config readyFrame
    ⟨.cleanup, frame.sequence, executorObservedProfileDigest, cleanupEvidencePayloadDigest E result⟩
    result.signedCleanupEvidenceJson now

def acceptAuthenticatedResult (R : RemoteEnv) (config : RunnerEvidenceConfig) (ready : ReadyFrame)
    (executorObservedProfileDigest : String) (frame : RemoteFrame) (now : Nat) : EvidenceCall Unit := do
  match frame.message with
  | .result result =>
    checked (resultEvidence E config ready executorObservedProfileDigest frame result now)
    acceptFrame R frame now
  | _ => throw .protocolRejected

/-!
## 実行者の署名

実行の結果の枠に添える二つの証拠の中身は、実行者の設定、プロセスの資格、準備の枠のセッション、結果の枠の要約値から作る。
-/

/-- `ScheduledRunnerExecutorConfig` のうち、証拠に書く値。 -/
structure ScheduledRunnerExecutorConfig where
  evidenceKeyRevision : String
  evidenceSignerIdentity : String
deriving DecidableEq

def isBoundedCanonicalText (value : String) : Bool :=
  !(value == "" || value != trim value || byteLen value > 128)

/-- `validate` のうち、証拠に書く値の検査。 -/
def ScheduledRunnerExecutorConfig.validate (role : ScheduledRunnerExecutorConfig) : Bool :=
  isBoundedCanonicalText role.evidenceKeyRevision && isBoundedCanonicalText role.evidenceSignerIdentity

structure ProcessCredentials where
  uid : Nat
  gid : Nat
deriving DecidableEq

structure ExecutorSession where
  keyPair : Ed25519KeyPair
  keyId : String
  role : ScheduledRunnerExecutorConfig
  credentials : ProcessCredentials
  sessionNonce : String
  challenge : String
  observedProfileDigest : String
  nowUnixMillis : Nat

namespace ExecutorSession

variable (x : ExecutorSession)

def resultSequence : Nat := 3

def runnerEvidenceClaims (kind : RunnerEvidenceKind) (binding : RunBinding) (payloadDigest : String) :
    RunnerEvidenceClaims where
  kind
  algorithmVersion := evidenceAlgorithmVersion
  signerIdentity := x.role.evidenceSignerIdentity
  keyRevision := x.role.evidenceKeyRevision
  sessionNonce := x.sessionNonce
  challenge := x.challenge
  sequence := resultSequence
  issuedAtUnixMillis := x.nowUnixMillis
  expiresAtUnixMillis := u64SaturatingAdd x.nowUnixMillis maxReadyTtlMillis
  deploymentEpoch := binding.deploymentEpoch
  deploymentProfileDigest := binding.profileDigest
  observedProfileDigest := x.observedProfileDigest
  executorIdentity := "uid:" ++ toString x.credentials.uid ++ ":gid:" ++ toString x.credentials.gid
  credentialRevision := binding.credentialRevision
  payloadDigest

def sign (claims : RunnerEvidenceClaims) : Option String :=
  (signWithKeyPair claims x.keyId x.keyPair).toOption.map SignedRunnerEvidence.canonicalJson

def signer : RunnerEvidenceSigner where
  result frame := x.sign (x.runnerEvidenceClaims .result frame.binding (resultEvidencePayloadDigest E frame))
  cleanup frame := x.sign (x.runnerEvidenceClaims .cleanup frame.binding (cleanupEvidencePayloadDigest E frame))

def executionResult (binding : RunBinding) (preparationNonce : String) (result : ScheduledExecutionResult) :
    Option RemoteMessage := runnerExecutionResult binding preparationNonce (x.signer E) result

def runnerFrame (message : RemoteMessage) : RemoteFrame :=
  ⟨remoteProtocolVersion, x.sessionNonce, resultSequence, message⟩

end ExecutorSession

end Codeoff.Runtime
