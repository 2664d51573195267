import Codeoff.Codex.ScheduledPrepare
import Codeoff.Runtime.RunnerGrant

/-!
# 実行環境の隔離の証明と許可

配備の署名した証明と、信頼する鍵の束から、配備の権限を得る。実行への許可は、権限と実行の識別から作り、遠隔の実行者へは正準形の
文面で渡す。
-/

namespace Codeoff.Codex

open Codeoff.Core Codeoff.Json Codeoff.Runtime Codeoff.Agent

def orPreflight {α : Type} (o : Option α) (message : String) : Except ScheduledFailure α :=
  match o with
  | some a => .ok a
  | none => .error (preflight message)

/-- `p` のときに退ける。 -/
def refuse (p : Prop) [Decidable p] (message : String) : Except ScheduledFailure Unit :=
  if p then .error (preflight message) else .ok ()

def maxI64 : Nat := 9223372036854775807

def hasExactFields (value : Value) (expected : List String) : Bool :=
  match value with
  | .obj members => members.length == expected.length && expected.all fun field => (value.get field).isSome
  | _ => false

def valueAsI64 : Value → Option Int
  | .int n => if -(2 ^ 63) ≤ n ∧ n ≤ maxI64 then some n else none
  | _ => none

/-- `i64` に収まる正の整数。 -/
def positiveEpoch (value : Value) : Option Nat := value.asU64.filter fun n => n ≤ maxI64 && 0 < n

def isLowercaseHex (value : String) (expectedLen : Nat) : Bool :=
  byteLen value == expectedLen && (utf8Bytes value).all isLowerHexDigit

def nibble (b : UInt8) : UInt8 := if 48 ≤ b && b ≤ 57 then b - 48 else b - 97 + 10

def nibblePairs : List UInt8 → List UInt8
  | high :: low :: rest => (nibble high <<< 4 ||| nibble low) :: nibblePairs rest
  | _ => []

def decodeLowercaseHex (value : String) (expectedBytes : Nat) (error : String) :
    Except ScheduledFailure (List UInt8) :=
  if isLowercaseHex value (expectedBytes * 2) then .ok (nibblePairs (utf8Bytes value)) else .error (preflight error)

def codexCliVersion : String := "0.144.6"
def codexAppServerSchemaSha256 : String := "2bc9867446f03c818018ee33c249f4d1da22c3e19a68d606b0e435faba04f1d1"
def negativeTestRevision : String := "scheduled-secret-falsifier-v1"

/-- OS の経路。UTF-8 とは限らない。 -/
structure PathBuf where
  bytes : List UInt8
deriving DecidableEq

def PathBuf.toStr (p : PathBuf) : Option String := String.fromUTF8? ⟨p.bytes.toArray⟩

structure RequestedCapabilityProfile where
  codexProgram : PathBuf
  codexProgramSha256 : String
  codexHome : PathBuf
  cwd : PathBuf
  githubMcpUrl : String
  githubMcpConfiguredArtifactSha256 : String
  githubMcpConfiguredEndpointIdentity : String
  githubMcpAccessAuthMode : String
  githubMcpAccessTokenRevision : String
  credentialReference : String
  permissionPolicyRevision : String
  configRevision : String
  configSha256 : String
  gatewayImageDigest : String
  runnerImageDigest : String
  runnerWorkloadIdentity : String
  runnerClientCertPublicKeyFingerprint : String
  credentialRevision : String
deriving DecidableEq

namespace RequestedCapabilityProfile

def bindingMembers (p : RequestedCapabilityProfile) (codexHome codexProgram cwd : String) : List (String × Value) := [
  ("app_server_schema_sha256", .str codexAppServerSchemaSha256),
  ("child_environment", .object [("LANG", .str childLocale), ("LC_ALL", .str childLocale), ("PATH", .str childPath)]),
  ("codex_home", .str codexHome),
  ("codex_program", .str codexProgram),
  ("codex_program_sha256", .str p.codexProgramSha256),
  ("codex_version", .str codexCliVersion),
  ("config_revision", .str p.configRevision),
  ("config_sha256", .str p.configSha256),
  ("credential_reference", .str p.credentialReference),
  ("credential_revision", .str p.credentialRevision),
  ("cwd", .str cwd),
  ("execution_surface", .object [("approval_policy", .str "never"), ("dynamic_tools", .bool false),
    ("network_access", .bool false), ("sandbox", .str "read-only"), ("web_search", .str "disabled")]),
  ("github_mcp_configured_artifact_sha256", .str p.githubMcpConfiguredArtifactSha256),
  ("github_mcp_access_auth_mode", .str p.githubMcpAccessAuthMode),
  ("github_mcp_access_token_revision", .str p.githubMcpAccessTokenRevision),
  ("github_mcp_configured_endpoint_identity", .str p.githubMcpConfiguredEndpointIdentity),
  ("github_mcp_url", .str p.githubMcpUrl),
  ("github_mcp_version", .str githubMcpServerVersion),
  ("github_tools", .arr (expectedGithubTools.map .str)),
  ("gateway_image_digest", .str p.gatewayImageDigest),
  ("negative_test_revision", .str negativeTestRevision),
  ("permission_policy_revision", .str p.permissionPolicyRevision),
  ("runner_client_cert_public_key_fingerprint", .str p.runnerClientCertPublicKeyFingerprint),
  ("runner_image_digest", .str p.runnerImageDigest),
  ("runner_workload_identity", .str p.runnerWorkloadIdentity)]

def bindingText (p : RequestedCapabilityProfile) : Except ScheduledFailure String := do
  let codexHome ← orPreflight p.codexHome.toStr "scheduled_codex_home_must_be_utf8"
  let codexProgram ← orPreflight p.codexProgram.toStr "scheduled_codex_program_must_be_utf8"
  let cwd ← orPreflight p.cwd.toStr "scheduled_cwd_must_be_utf8"
  return (Value.object (p.bindingMembers codexHome codexProgram cwd)).render

end RequestedCapabilityProfile

variable (E : SignatureEnv)

def isolationProfileBindingDigest (profile : RequestedCapabilityProfile) : Except ScheduledFailure String := do
  return E.sha256Hex (utf8Bytes (← profile.bindingText))

def maxIsolationTrustKeys : Nat := 16

def trustKeyFields : List String := [
  "key_id", "not_after_deployment_epoch", "not_before_deployment_epoch", "public_key"]

def trustKeyIdentity (key : Value) : Except ScheduledFailure (String × String × List UInt8) := do
  refuse (hasExactFields key trustKeyFields = false) "scheduled_isolation_trust_bundle_key_fields_mismatch"
  let keyId ← orPreflight (((key.get "key_id").bind Value.asStr).filter isLowercaseSha256)
    "scheduled_isolation_trust_bundle_key_id_invalid"
  let publicKeyHex ← orPreflight ((key.get "public_key").bind Value.asStr)
    "scheduled_isolation_trust_bundle_public_key_invalid"
  let publicKey ← decodeLowercaseHex publicKeyHex 32 "scheduled_isolation_trust_bundle_public_key_invalid"
  refuse (keyId ≠ E.sha256Hex publicKey) "scheduled_isolation_trust_bundle_key_id_mismatch"
  return (keyId, publicKeyHex, publicKey)

def trustKeyWindow (key : Value) : Except ScheduledFailure (Nat × Option Nat) := do
  let notBefore ← orPreflight ((key.get "not_before_deployment_epoch").bind positiveEpoch)
    "scheduled_isolation_trust_bundle_not_before_invalid"
  match key.get "not_after_deployment_epoch" with
  | some .null => return (notBefore, none)
  | some value =>
    let notAfter ← orPreflight (value.asU64.filter fun n => n ≤ maxI64 && notBefore ≤ n)
      "scheduled_isolation_trust_bundle_not_after_invalid"
    return (notBefore, some notAfter)
  | none => throw (preflight "scheduled_isolation_trust_bundle_not_after_invalid")

def inWindow (deploymentEpoch : Nat) (window : Nat × Option Nat) : Bool :=
  window.1 ≤ deploymentEpoch && window.2.all (deploymentEpoch ≤ ·)

/-- 鍵を一つずつ確かめ、世代に使えるものを残す。`keyIds` と `publicKeys` はここまでに現れたもの。 -/
def trustKeysFrom (deploymentEpoch : Nat) : List String → List String → List Value →
    Except ScheduledFailure (List (String × List UInt8))
  | _, _, [] => return []
  | keyIds, publicKeys, key :: keys => do
    let (keyId, publicKeyHex, publicKey) ← trustKeyIdentity E key
    refuse (keyId ∈ keyIds ∨ publicKeyHex ∈ publicKeys) "scheduled_isolation_trust_bundle_duplicate_key"
    let window ← trustKeyWindow key
    let valid ← trustKeysFrom deploymentEpoch (keyId :: keyIds) (publicKeyHex :: publicKeys) keys
    return if inWindow deploymentEpoch window then (keyId, publicKey) :: valid else valid

def isolationTrustKeysForEpoch (contents : String) (deploymentEpoch : Nat) :
    Except ScheduledFailure (List (String × List UInt8)) := do
  let bundle ← orPreflight (parse contents) "scheduled_isolation_trust_bundle_invalid_json"
  refuse (bundle.render ≠ contents) "scheduled_isolation_trust_bundle_must_be_canonical_json"
  refuse (hasExactFields bundle ["keys", "schema_version"] = false) "scheduled_isolation_trust_bundle_fields_mismatch"
  refuse ((bundle.get "schema_version").bind Value.asU64 ≠ some 1) "scheduled_isolation_trust_bundle_version_mismatch"
  let keys ← orPreflight (((bundle.get "keys").bind Value.asArr).filter fun keys =>
    !keys.isEmpty && keys.length ≤ maxIsolationTrustKeys) "scheduled_isolation_trust_bundle_keys_invalid"
  let valid ← trustKeysFrom E deploymentEpoch [] [] keys
  refuse (valid = []) "scheduled_isolation_trust_bundle_no_key_for_epoch"
  return valid

structure ScheduledDeploymentAuthority where
  schemaVersion : Nat
  deploymentEpoch : Int
  attestationId : String
  attestationDigest : String
  trustKeyId : String
  profileDigest : String
  githubMcpAccessAuthMode : String
  githubMcpAccessTokenRevision : String
  isolationRevision : String
  issuedAtUnixSeconds : Nat
  expiresAtUnixSeconds : Nat
deriving DecidableEq

def isolationAttestationSchemaVersion : Nat := 2
def isolationAttestationMaxIssuedAgeSeconds : Nat := 300
def isolationAttestationMaxValiditySeconds : Nat := 600
def isolationAttestationFutureSkewSeconds : Nat := 30

def attestationPayloadFields : List String := [
  "attestation_id", "credential_isolation_revision", "deployment_epoch", "expires_at_unix_seconds",
  "issued_at_unix_seconds", "negative_test_revision", "profile_binding_digest", "schema_version"]

def onlyKey : List String → Except ScheduledFailure String
  | [trustKeyId] => .ok trustKeyId
  | [] => .error (preflight "scheduled_isolation_attestation_signature_invalid")
  | _ => .error (preflight "scheduled_isolation_attestation_signature_ambiguous")

/-- `now` は読み取りの時刻。 -/
def loadSignedIsolationAuthorityContents (profile : RequestedCapabilityProfile) (contents trustBundle : String)
    (now : Nat) : Except ScheduledFailure ScheduledDeploymentAuthority := do
  let document ← orPreflight (parse contents) "scheduled_isolation_attestation_invalid_json"
  refuse (document.render ≠ contents) "scheduled_isolation_attestation_must_be_canonical_json"
  refuse (hasExactFields document ["payload", "signature", "signature_algorithm"] = false)
    "scheduled_isolation_attestation_fields_mismatch"
  refuse ((document.get "signature_algorithm").bind Value.asStr ≠ some "ed25519")
    "scheduled_isolation_attestation_signature_algorithm_mismatch"
  let payload ← orPreflight ((document.get "payload").filter fun payload =>
    hasExactFields payload attestationPayloadFields) "scheduled_isolation_attestation_payload_fields_mismatch"
  let signatureHex ← orPreflight ((document.get "signature").bind Value.asStr)
    "scheduled_isolation_attestation_signature_missing"
  let signature ← decodeLowercaseHex signatureHex 64 "scheduled_isolation_attestation_signature_invalid"
  refuse ((payload.get "schema_version").bind Value.asU64 ≠ some isolationAttestationSchemaVersion)
    "scheduled_isolation_attestation_version_mismatch"
  let deploymentEpoch ← orPreflight ((payload.get "deployment_epoch").bind positiveEpoch)
    "scheduled_isolation_deployment_epoch_invalid"
  let trustKeys ← isolationTrustKeysForEpoch E trustBundle deploymentEpoch
  let trustKeyId ← onlyKey ((trustKeys.filter fun key =>
    E.verify key.2 (utf8Bytes payload.render) signature).map Prod.fst)
  let attestationId ← orPreflight ((payload.get "attestation_id").bind Value.asStr)
    "scheduled_isolation_attestation_id_missing"
  let _ ← decodeLowercaseHex attestationId 32 "scheduled_isolation_attestation_id_invalid"
  let issuedAt ← orPreflight ((payload.get "issued_at_unix_seconds").bind Value.asU64)
    "scheduled_isolation_attestation_issued_at_invalid"
  let expiresAt ← orPreflight ((payload.get "expires_at_unix_seconds").bind Value.asU64)
    "scheduled_isolation_attestation_expires_at_invalid"
  refuse (issuedAt > min (now + isolationAttestationFutureSkewSeconds) Json.u64Max
      ∨ now - issuedAt > isolationAttestationMaxIssuedAgeSeconds
      ∨ expiresAt ≤ now
      ∨ expiresAt ≤ issuedAt
      ∨ expiresAt - issuedAt > isolationAttestationMaxValiditySeconds) "scheduled_isolation_attestation_not_current"
  let profileBindingDigest ← orPreflight ((payload.get "profile_binding_digest").bind Value.asStr)
    "scheduled_isolation_profile_binding_missing"
  let expected ← isolationProfileBindingDigest E profile
  refuse (profileBindingDigest ≠ expected) "scheduled_isolation_profile_binding_mismatch"
  let isolationRevision ← orPreflight (((payload.get "credential_isolation_revision").bind Value.asStr).filter
    fun value => value != "" && value == trim value) "scheduled_isolation_revision_invalid"
  refuse ((payload.get "negative_test_revision").bind Value.asStr ≠ some negativeTestRevision)
    "scheduled_isolation_negative_test_revision_mismatch"
  return {
    schemaVersion := 1
    deploymentEpoch
    attestationId
    attestationDigest := E.sha256Hex (utf8Bytes contents)
    trustKeyId
    profileDigest := profileBindingDigest
    githubMcpAccessAuthMode := profile.githubMcpAccessAuthMode
    githubMcpAccessTokenRevision := profile.githubMcpAccessTokenRevision
    isolationRevision
    issuedAtUnixSeconds := issuedAt
    expiresAtUnixSeconds := expiresAt }

/-! ## 実行への許可 -/

structure ScheduledExecutionIdentity where
  runId : String
  jobId : String
  attempt : Int
  fence : Int
deriving DecidableEq

structure ScheduledIsolationPermit where
  identity : ScheduledExecutionIdentity
  deploymentEpoch : Int
  attestationId : String
  profileDigest : String
  nonce : String
  permitId : String
  isolationRevision : String
  expiresAtUnixSeconds : Nat
deriving DecidableEq

namespace ScheduledIsolationPermit

def fromConsumed (authority : ScheduledDeploymentAuthority) (identity : ScheduledExecutionIdentity)
    (profileDigest nonce permitId : String) (now : Nat) : Except ScheduledFailure ScheduledIsolationPermit := do
  refuse (authority.schemaVersion ≠ 1 ∨ authority.deploymentEpoch ≤ 0 ∨ authority.expiresAtUnixSeconds ≤ now
      ∨ authority.profileDigest ≠ profileDigest ∨ identity.runId = "" ∨ identity.jobId = "" ∨ identity.attempt ≤ 0
      ∨ identity.fence ≤ 0 ∨ isLowercaseSha256 nonce = false ∨ isLowercaseSha256 permitId = false)
    "scheduled_consumed_permit_binding_invalid"
  return {
    identity
    deploymentEpoch := authority.deploymentEpoch
    attestationId := authority.attestationId
    profileDigest
    nonce
    permitId
    isolationRevision := authority.isolationRevision
    expiresAtUnixSeconds := authority.expiresAtUnixSeconds }

def envelopeMembers (p : ScheduledIsolationPermit) (authorityDigest credentialRevision sessionNonce : String) :
    List (String × Value) := [
  ("attempt", .int p.identity.attempt),
  ("attestation_id", .str p.attestationId),
  ("authority_digest", .str authorityDigest),
  ("credential_revision", .str credentialRevision),
  ("deployment_epoch", .int p.deploymentEpoch),
  ("expires_at_unix_seconds", .int p.expiresAtUnixSeconds),
  ("fence", .int p.identity.fence),
  ("job_id", .str p.identity.jobId),
  ("nonce", .str p.nonce),
  ("permit_id", .str p.permitId),
  ("profile_digest", .str p.profileDigest),
  ("run_id", .str p.identity.runId),
  ("schema_version", .int 1),
  ("session_nonce", .str sessionNonce)]

def intoRemoteEnvelope (p : ScheduledIsolationPermit) (authorityDigest credentialRevision sessionNonce : String)
    (now : Nat) : Except ScheduledFailure String := do
  refuse (isLowercaseSha256 authorityDigest = false ∨ isLowercaseSha256 sessionNonce = false
      ∨ (CredentialRevision.parse credentialRevision).toBool = false ∨ p.expiresAtUnixSeconds ≤ now)
    "scheduled_remote_permit_export_invalid"
  return (Value.object (p.envelopeMembers authorityDigest credentialRevision sessionNonce)).render

end ScheduledIsolationPermit

namespace RemoteIsolationPermitEnvelope

def fields : List String := [
  "attempt", "attestation_id", "authority_digest", "credential_revision", "deployment_epoch",
  "expires_at_unix_seconds", "fence", "job_id", "nonce", "permit_id", "profile_digest", "run_id", "schema_version",
  "session_nonce"]

def invalid : String := "scheduled_remote_permit_envelope_invalid"

def mismatch : String := "scheduled_remote_permit_envelope_binding_mismatch"

/-- `import`。時刻は、期限を読むとき（`now`）と、許可を組み立て直すとき（`later`）に読む。 -/
def importPermit (encoded : String) (authority : ScheduledDeploymentAuthority)
    (expectedIdentity : ScheduledExecutionIdentity)
    (expectedAuthorityDigest expectedCredentialRevision expectedSessionNonce : String) (now later : Nat) :
    Except ScheduledFailure ScheduledIsolationPermit := do
  let object ← orPreflight (parse encoded) invalid
  refuse (hasExactFields object fields = false) invalid
  let string (field : String) := orPreflight ((object.get field).bind Value.asStr) invalid
  let positiveI64 (field : String) := orPreflight (((object.get field).bind valueAsI64).filter fun n => 0 < n) invalid
  let expiresAt ← orPreflight (((object.get "expires_at_unix_seconds").bind Value.asU64).filter fun n => now < n)
    "scheduled_remote_permit_envelope_expired"
  refuse ((object.get "schema_version").bind Value.asU64 ≠ some 1) invalid
  let nonce ← string "nonce"
  let permitId ← string "permit_id"
  let profileDigest ← string "profile_digest"
  let sessionNonce ← string "session_nonce"
  let authorityDigest ← string "authority_digest"
  let credentialRevision ← string "credential_revision"
  refuse (isLowercaseSha256 nonce = false ∨ isLowercaseSha256 permitId = false
      ∨ isLowercaseSha256 profileDigest = false ∨ isLowercaseSha256 sessionNonce = false
      ∨ isLowercaseSha256 authorityDigest = false
      ∨ (CredentialRevision.parse credentialRevision).toBool = false) mismatch
  let attestationId ← string "attestation_id"
  refuse (attestationId ≠ authority.attestationId ∨ profileDigest ≠ authority.profileDigest
      ∨ authorityDigest ≠ expectedAuthorityDigest ∨ credentialRevision ≠ expectedCredentialRevision
      ∨ sessionNonce ≠ expectedSessionNonce) mismatch
  let deploymentEpoch ← positiveI64 "deployment_epoch"
  refuse (deploymentEpoch ≠ authority.deploymentEpoch) mismatch
  let runId ← string "run_id"
  refuse (runId ≠ expectedIdentity.runId) mismatch
  let jobId ← string "job_id"
  refuse (jobId ≠ expectedIdentity.jobId) mismatch
  let attempt ← positiveI64 "attempt"
  refuse (attempt ≠ expectedIdentity.attempt) mismatch
  let fence ← positiveI64 "fence"
  refuse (fence ≠ expectedIdentity.fence ∨ expiresAt ≠ authority.expiresAtUnixSeconds ∨ object.render ≠ encoded)
    mismatch
  ScheduledIsolationPermit.fromConsumed authority expectedIdentity profileDigest nonce permitId later

end RemoteIsolationPermitEnvelope

end Codeoff.Codex
