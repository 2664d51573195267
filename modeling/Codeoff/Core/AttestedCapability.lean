import Codeoff.Core.Identity
import Codeoff.Json.Value

/-!
# 実行者の能力の証明

実行者が名乗る能力の写し。文面は正準形の JSON で、成員の個数も中身も決まっており、自分の要約値を含む。
-/

namespace Codeoff.Core

open Codeoff.Json

def expectedGithubTools : List String := ["get_me", "issue_read", "list_issues", "search_issues", "search_orgs"]

inductive AttestedCapabilityProfileError where
  | invalidJson
  | nonCanonicalJson
  | invalidShape
  | invalidField
  | digestMismatch
deriving DecidableEq, Repr

/-- `BTreeSet` に集めた並び。 -/
def btreeSet (values : List String) : List String := values.dedup.insertionSort (· ≤ ·)

structure AttestedCapabilityProfile where
  codexVersion : String
  appServerSchemaSha256 : String
  codexProgramSha256 : String
  githubMcpVersion : String
  githubMcpConfiguredArtifactSha256 : String
  githubMcpConfiguredEndpointIdentity : String
  githubMcpAccessAuthMode : String
  githubMcpAccessTokenRevision : String
  githubMcpHealthCheckedAtUnixSeconds : Nat
  githubMcpHealthCredentialRevision : String
  githubMcpHealthResultSha256 : String
  githubMcpHealthTool : String
  githubToolSchemaSha256 : String
  /-- 昇順に並ぶ。 -/
  githubTools : List String
  credentialReference : String
  permissionPolicyRevision : String
  configRevision : String
  configSha256 : String
  gatewayImageDigest : String
  runnerImageDigest : String
  runnerWorkloadIdentity : String
  runnerClientCertPublicKeyFingerprint : String
  credentialRevision : String
  credentialIsolationRevision : String
  credentialDenyPolicyRevision : String
  negativeTestRevision : String
  outputSchemaRevision : String
  attestedAtUnixSeconds : Nat
  profileSha256 : String
deriving DecidableEq, Repr

namespace AttestedCapabilityProfile

variable (sha256Hex : List UInt8 → String)

def textMembers (p : AttestedCapabilityProfile) : List (String × Value) := [
  ("app_server_schema_sha256", .str p.appServerSchemaSha256),
  ("codex_program_sha256", .str p.codexProgramSha256),
  ("codex_version", .str p.codexVersion),
  ("config_revision", .str p.configRevision),
  ("config_sha256", .str p.configSha256),
  ("credential_deny_policy_revision", .str p.credentialDenyPolicyRevision),
  ("credential_isolation_revision", .str p.credentialIsolationRevision),
  ("credential_reference", .str p.credentialReference),
  ("credential_revision", .str p.credentialRevision),
  ("gateway_image_digest", .str p.gatewayImageDigest),
  ("github_mcp_configured_artifact_sha256", .str p.githubMcpConfiguredArtifactSha256),
  ("github_mcp_access_auth_mode", .str p.githubMcpAccessAuthMode),
  ("github_mcp_access_token_revision", .str p.githubMcpAccessTokenRevision),
  ("github_mcp_configured_endpoint_identity", .str p.githubMcpConfiguredEndpointIdentity),
  ("github_mcp_health_credential_revision", .str p.githubMcpHealthCredentialRevision),
  ("github_mcp_health_result_sha256", .str p.githubMcpHealthResultSha256),
  ("github_mcp_health_tool", .str p.githubMcpHealthTool),
  ("github_mcp_version", .str p.githubMcpVersion),
  ("github_tool_schema_sha256", .str p.githubToolSchemaSha256),
  ("negative_test_revision", .str p.negativeTestRevision),
  ("output_schema_revision", .str p.outputSchemaRevision),
  ("permission_policy_revision", .str p.permissionPolicyRevision),
  ("runner_client_cert_public_key_fingerprint", .str p.runnerClientCertPublicKeyFingerprint),
  ("runner_image_digest", .str p.runnerImageDigest),
  ("runner_workload_identity", .str p.runnerWorkloadIdentity)]

def commonMembers (p : AttestedCapabilityProfile) : List (String × Value) :=
  p.textMembers ++ [("github_mcp_health_checked_at_unix_seconds", .int p.githubMcpHealthCheckedAtUnixSeconds),
    ("github_tools", .arr (p.githubTools.map .str))]

def canonicalJson (p : AttestedCapabilityProfile) : String :=
  (Value.object (p.commonMembers ++ [("attested_at_unix_seconds", .int p.attestedAtUnixSeconds),
    ("profile_sha256", .str p.profileSha256)])).render

def computedProfileSha256 (p : AttestedCapabilityProfile) : String :=
  sha256Hex (utf8Bytes (Value.object p.commonMembers).render)

def textFields (p : AttestedCapabilityProfile) : List String := [
  p.codexVersion, p.githubMcpVersion, p.githubMcpConfiguredEndpointIdentity, p.githubMcpAccessAuthMode,
  p.githubMcpAccessTokenRevision, p.githubMcpHealthCredentialRevision, p.githubMcpHealthTool,
  p.credentialReference, p.permissionPolicyRevision, p.configRevision, p.credentialRevision,
  p.credentialIsolationRevision, p.credentialDenyPolicyRevision, p.negativeTestRevision, p.outputSchemaRevision,
  p.runnerWorkloadIdentity, p.gatewayImageDigest, p.runnerImageDigest, p.profileSha256]

def digestFields (p : AttestedCapabilityProfile) : List String := [
  p.appServerSchemaSha256, p.codexProgramSha256, p.configSha256, p.githubMcpConfiguredArtifactSha256,
  p.githubMcpHealthResultSha256, p.githubToolSchemaSha256, p.profileSha256,
  p.runnerClientCertPublicKeyFingerprint]

/-- `sha256:` に続く 16 進 64 桁。 -/
def isImageDigest (digest : String) : Bool :=
  ("sha256:".toList.isPrefixOf digest.toList) && isLowercaseSha256 (String.ofList (digest.toList.drop 7))

def validate (p : AttestedCapabilityProfile) : Except AttestedCapabilityProfileError Unit :=
  if p.attestedAtUnixSeconds = 0 ∨ p.githubMcpHealthCheckedAtUnixSeconds ≠ p.attestedAtUnixSeconds
      ∨ p.githubMcpAccessAuthMode ≠ "supervisor-dynamic-tools-v1" ∨ p.githubMcpHealthTool ≠ "get_me"
      ∨ p.githubMcpHealthCredentialRevision ≠ p.credentialRevision
      ∨ (CredentialRevision.parse p.githubMcpAccessTokenRevision).toBool = false
      ∨ p.profileSha256 ≠ p.computedProfileSha256 sha256Hex ∨ p.textFields.any (· == "")
      ∨ p.githubTools ≠ btreeSet expectedGithubTools then .error .invalidField
  else if p.digestFields.all isLowercaseSha256
      && [p.gatewayImageDigest, p.runnerImageDigest].all isImageDigest then .ok ()
  else .error .invalidField

def orInvalidField {α : Type} (o : Option α) : Except AttestedCapabilityProfileError α :=
  match o with
  | some a => .ok a
  | none => .error .invalidField

def asStrings : Value → Option (List String)
  | .arr values => values.mapM Value.asStr
  | _ => none

def memberCount : Value → Option Nat
  | .obj ms => some ms.length
  | _ => none

def read (object : Value) : Except AttestedCapabilityProfileError AttestedCapabilityProfile := do
  let string (field : String) := orInvalidField ((object.get field).bind Value.asStr)
  let number (field : String) := orInvalidField ((object.get field).bind Value.asU64)
  let tools ← orInvalidField ((object.get "github_tools").bind asStrings)
  return {
    appServerSchemaSha256 := ← string "app_server_schema_sha256"
    attestedAtUnixSeconds := ← number "attested_at_unix_seconds"
    codexProgramSha256 := ← string "codex_program_sha256"
    codexVersion := ← string "codex_version"
    configRevision := ← string "config_revision"
    configSha256 := ← string "config_sha256"
    credentialDenyPolicyRevision := ← string "credential_deny_policy_revision"
    credentialIsolationRevision := ← string "credential_isolation_revision"
    credentialReference := ← string "credential_reference"
    credentialRevision := ← string "credential_revision"
    gatewayImageDigest := ← string "gateway_image_digest"
    githubMcpConfiguredArtifactSha256 := ← string "github_mcp_configured_artifact_sha256"
    githubMcpAccessAuthMode := ← string "github_mcp_access_auth_mode"
    githubMcpAccessTokenRevision := ← string "github_mcp_access_token_revision"
    githubMcpConfiguredEndpointIdentity := ← string "github_mcp_configured_endpoint_identity"
    githubMcpHealthCheckedAtUnixSeconds := ← number "github_mcp_health_checked_at_unix_seconds"
    githubMcpHealthCredentialRevision := ← string "github_mcp_health_credential_revision"
    githubMcpHealthResultSha256 := ← string "github_mcp_health_result_sha256"
    githubMcpHealthTool := ← string "github_mcp_health_tool"
    githubMcpVersion := ← string "github_mcp_version"
    githubToolSchemaSha256 := ← string "github_tool_schema_sha256"
    githubTools := btreeSet tools
    negativeTestRevision := ← string "negative_test_revision"
    outputSchemaRevision := ← string "output_schema_revision"
    permissionPolicyRevision := ← string "permission_policy_revision"
    profileSha256 := ← string "profile_sha256"
    runnerClientCertPublicKeyFingerprint := ← string "runner_client_cert_public_key_fingerprint"
    runnerImageDigest := ← string "runner_image_digest"
    runnerWorkloadIdentity := ← string "runner_workload_identity" }

def parseCanonicalJson (value : String) : Except AttestedCapabilityProfileError AttestedCapabilityProfile := do
  match parse value with
  | none => throw .invalidJson
  | some parsed =>
    if parsed.render ≠ value then throw .nonCanonicalJson
    if memberCount parsed ≠ some 29 then throw .invalidShape
    let profile ← read parsed
    profile.validate sha256Hex
    return profile

end AttestedCapabilityProfile

end Codeoff.Core
