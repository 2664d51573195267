import Codeoff.Runtime.RemoteCodec

/-!
# 遠隔の実行への許可

関門が、一つの準備の枠に署名して出す許可。署名するのは、許可の中身の正準形の文面に、許可の領域の名を前に置いたバイト列である
。
-/

namespace Codeoff.Runtime

open Codeoff.Core Codeoff.Json

/-- `Ed25519KeyPair` のうち、署名と公開の鍵。 -/
structure Ed25519KeyPair where
  sign : List UInt8 → List UInt8
  publicKey : List UInt8

structure SignatureEnv where
  /-- 公開の鍵とバイト列と署名を検証する。 -/
  verify : List UInt8 → List UInt8 → List UInt8 → Bool
  /-- 入力のバイト列の SHA-256 を、小文字の 16 進 64 桁で返す。 -/
  sha256Hex : List UInt8 → String

def ed25519SignatureHexBytes : Nat := 128

def hex (bytes : List UInt8) : String :=
  String.ofList (bytes.flatMap fun b => [hexDigit (b.toNat / 16), hexDigit (b.toNat % 16)])

def radixDigit (b : UInt8) : Option Nat :=
  if 48 ≤ b && b ≤ 57 then some (b.toNat - 48)
  else if 97 ≤ b && b ≤ 102 then some (b.toNat - 87)
  else if 65 ≤ b && b ≤ 70 then some (b.toNat - 55)
  else none

/-- 二桁の `u8::from_str_radix`。先頭の `+` は読み飛ばされる。 -/
def fromStrRadix (high low : UInt8) : Option UInt8 := do
  if high == 43 then return UInt8.ofNat (← radixDigit low)
  return UInt8.ofNat (16 * (← radixDigit high) + (← radixDigit low))

def hexPairs : List UInt8 → Option (List UInt8)
  | high :: low :: rest => do return (← fromStrRadix high low) :: (← hexPairs rest)
  | _ => some []

def isSignatureHex (value : String) : Bool :=
  byteLen value == ed25519SignatureHexBytes && (utf8Bytes value).all isLowerHexDigit

/-! ## 許可の中身 -/

def grantSchemaVersion : Nat := 1
def grantAlgorithmVersion : String := "ed25519-v1"
def grantKind : String := "remote_execution_grant"
def grantDomain : List UInt8 := utf8Bytes "codeoff-scheduled-remote-execution-grant-v1"
def maxGrantBytes : Nat := 64 * 1024

inductive RemoteExecutionGrantError where
  | invalidGrant
  | invalidKey
  | invalidSignature
  | nonCanonical
  | notYetValid
  | expired
  | bindingMismatch
  | replayed
  | tooLarge
deriving DecidableEq, Repr

structure RemoteExecutionGrantClaims where
  algorithmVersion : String
  grantId : String
  grantSequence : Nat
  signerIdentity : String
  keyRevision : String
  sessionNonce : String
  challenge : String
  admissionNonce : String
  issuedAtUnixMillis : Nat
  expiresAtUnixMillis : Nat
  deploymentEpoch : Nat
  profileDigest : String
  binding : RunBinding
  isolationPermitSha256 : String
  taskSha256 : String
  definitionSha256 : String
  capabilitySha256 : String
  targetsSha256 : String
deriving DecidableEq

structure ExpectedRemoteExecutionGrant where
  signerIdentity : String
  keyRevision : String
  grantSequence : Nat
  sessionNonce : String
  challenge : String
  admissionNonce : String
  expiresAtUnixMillis : Nat
  deploymentEpoch : Nat
  profileDigest : String
  nowUnixMillis : Nat
deriving DecidableEq

def orGrantError {α : Type} (o : Option α) (error : RemoteExecutionGrantError) :
    Except RemoteExecutionGrantError α :=
  match o with
  | some a => .ok a
  | none => .error error

def requireSha256 (value : String) : Except RemoteExecutionGrantError Unit :=
  if isLowercaseSha256 value then .ok () else .error .invalidGrant

variable (E : SignatureEnv)

def snapshotDigest (value : String) : String := E.sha256Hex (utf8Bytes value)

namespace RemoteExecutionGrantClaims

def forPrepare (grantId : String) (grantSequence : Nat)
    (signerIdentity keyRevision sessionNonce challenge admissionNonce : String)
    (issuedAtUnixMillis expiresAtUnixMillis deploymentEpoch : Nat) (profileDigest : String)
    (prepare : PrepareFrame) : RemoteExecutionGrantClaims where
  algorithmVersion := grantAlgorithmVersion
  grantId
  grantSequence
  signerIdentity
  keyRevision
  sessionNonce
  challenge
  admissionNonce
  issuedAtUnixMillis
  expiresAtUnixMillis
  deploymentEpoch
  profileDigest
  binding := prepare.binding
  isolationPermitSha256 := snapshotDigest E prepare.isolationPermitEnvelopeJson
  taskSha256 := snapshotDigest E prepare.taskJson
  definitionSha256 := snapshotDigest E prepare.definitionJson
  capabilitySha256 := snapshotDigest E prepare.capabilityJson
  targetsSha256 := snapshotDigest E prepare.targetsJson

def members (c : RemoteExecutionGrantClaims) : List (String × Value) := [
  ("schema_version", .int grantSchemaVersion),
  ("algorithm_version", .str c.algorithmVersion),
  ("grant_id", .str c.grantId),
  ("grant_sequence", .int c.grantSequence),
  ("signer_identity", .str c.signerIdentity),
  ("key_revision", .str c.keyRevision),
  ("session_nonce", .str c.sessionNonce),
  ("challenge", .str c.challenge),
  ("admission_nonce", .str c.admissionNonce),
  ("issued_at_unix_millis", .int c.issuedAtUnixMillis),
  ("expires_at_unix_millis", .int c.expiresAtUnixMillis),
  ("deployment_epoch", .int c.deploymentEpoch),
  ("profile_digest", .str c.profileDigest),
  ("binding", c.binding.toValue),
  ("isolation_permit_sha256", .str c.isolationPermitSha256),
  ("task_sha256", .str c.taskSha256),
  ("definition_sha256", .str c.definitionSha256),
  ("capability_sha256", .str c.capabilitySha256),
  ("targets_sha256", .str c.targetsSha256)]

def canonicalJson (c : RemoteExecutionGrantClaims) : String := (Value.object c.members).render

def digests (c : RemoteExecutionGrantClaims) : List String := [
  c.grantId, c.sessionNonce, c.challenge, c.admissionNonce, c.profileDigest, c.isolationPermitSha256, c.taskSha256,
  c.definitionSha256, c.capabilitySha256, c.targetsSha256]

def isBoundedLabel (value : String) : Bool := !(value == "" || value != trim value || byteLen value > 128)

/-- `validate_claims`。 -/
def validate (c : RemoteExecutionGrantClaims) (nowUnixMillis : Nat) : Except RemoteExecutionGrantError Unit :=
  if c.algorithmVersion ≠ grantAlgorithmVersion ∨ c.grantSequence = 0 ∨ isBoundedLabel c.signerIdentity = false
      ∨ isBoundedLabel c.keyRevision = false ∨ nowUnixMillis < c.issuedAtUnixMillis then
    .error (if nowUnixMillis < c.issuedAtUnixMillis then .notYetValid else .invalidGrant)
  else if c.expiresAtUnixMillis ≤ nowUnixMillis then .error .expired
  else do
    c.binding.validate.mapError fun _ => .invalidGrant
    c.digests.forM requireSha256
    if c.deploymentEpoch = 0 then throw .invalidGrant

def verifyPrepare (c : RemoteExecutionGrantClaims) (expected : ExpectedRemoteExecutionGrant) (prepare : PrepareFrame) :
    Except RemoteExecutionGrantError Unit := do
  c.validate expected.nowUnixMillis
  if c.signerIdentity ≠ expected.signerIdentity ∨ c.keyRevision ≠ expected.keyRevision
      ∨ c.grantSequence ≠ expected.grantSequence ∨ c.sessionNonce ≠ expected.sessionNonce
      ∨ c.challenge ≠ expected.challenge ∨ c.admissionNonce ≠ expected.admissionNonce
      ∨ c.expiresAtUnixMillis ≠ expected.expiresAtUnixMillis ∨ c.deploymentEpoch ≠ expected.deploymentEpoch
      ∨ c.profileDigest ≠ expected.profileDigest ∨ c.binding ≠ prepare.binding
      ∨ c.isolationPermitSha256 ≠ snapshotDigest E prepare.isolationPermitEnvelopeJson
      ∨ c.taskSha256 ≠ snapshotDigest E prepare.taskJson
      ∨ c.definitionSha256 ≠ snapshotDigest E prepare.definitionJson
      ∨ c.capabilitySha256 ≠ snapshotDigest E prepare.capabilityJson
      ∨ c.targetsSha256 ≠ snapshotDigest E prepare.targetsJson then
    throw .bindingMismatch

def fields : List String := [
  "admission_nonce", "algorithm_version", "binding", "capability_sha256", "challenge", "definition_sha256",
  "deployment_epoch", "expires_at_unix_millis", "grant_id", "grant_sequence", "isolation_permit_sha256",
  "issued_at_unix_millis", "key_revision", "profile_digest", "schema_version", "session_nonce", "signer_identity",
  "targets_sha256", "task_sha256"]

def parseClaims (encoded : String) : Except RemoteExecutionGrantError RemoteExecutionGrantClaims := do
  if maxGrantBytes < byteLen encoded then throw .tooLarge
  let value ← orGrantError (parse encoded) .invalidGrant
  if value.render ≠ encoded then throw .nonCanonical
  let object ← (exactObject value fields "grant").mapError fun _ => .invalidGrant
  let string (field : String) := orGrantError ((object.get field).bind Value.asStr) .invalidGrant
  let number (field : String) := orGrantError ((object.get field).bind Value.asU64) .invalidGrant
  if (← number "schema_version") ≠ grantSchemaVersion then throw .invalidGrant
  return {
    algorithmVersion := ← string "algorithm_version"
    grantId := ← string "grant_id"
    grantSequence := ← number "grant_sequence"
    signerIdentity := ← string "signer_identity"
    keyRevision := ← string "key_revision"
    sessionNonce := ← string "session_nonce"
    challenge := ← string "challenge"
    admissionNonce := ← string "admission_nonce"
    issuedAtUnixMillis := ← number "issued_at_unix_millis"
    expiresAtUnixMillis := ← number "expires_at_unix_millis"
    deploymentEpoch := ← number "deployment_epoch"
    profileDigest := ← string "profile_digest"
    binding := ← (RunBinding.fromValue (← orGrantError (object.get "binding") .invalidGrant)).mapError
      fun _ => .invalidGrant
    isolationPermitSha256 := ← string "isolation_permit_sha256"
    taskSha256 := ← string "task_sha256"
    definitionSha256 := ← string "definition_sha256"
    capabilitySha256 := ← string "capability_sha256"
    targetsSha256 := ← string "targets_sha256" }

def signingInput (claimsJson : String) : List UInt8 := grantDomain ++ 0 :: utf8Bytes claimsJson

end RemoteExecutionGrantClaims

structure SignedRemoteExecutionGrant where
  kind : String
  claimsJson : String
  keyId : String
  signatureHex : String
deriving DecidableEq

namespace SignedRemoteExecutionGrant

def members (g : SignedRemoteExecutionGrant) : List (String × Value) := [
  ("kind", .str g.kind), ("claims_json", .str g.claimsJson), ("key_id", .str g.keyId),
  ("signature_hex", .str g.signatureHex)]

def canonicalJson (g : SignedRemoteExecutionGrant) : String := (Value.object g.members).render

def validateOuter (g : SignedRemoteExecutionGrant) : Except RemoteExecutionGrantError Unit := do
  if g.kind ≠ grantKind then throw .invalidGrant
  if (EvidenceKeyId.parse g.keyId).toBool = false then throw .invalidKey
  if isSignatureHex g.signatureHex = false then throw .invalidSignature

def parseCanonicalJson (encoded : String) : Except RemoteExecutionGrantError SignedRemoteExecutionGrant := do
  if maxGrantBytes < byteLen encoded then throw .tooLarge
  let value ← orGrantError (parse encoded) .invalidGrant
  if value.render ≠ encoded then throw .nonCanonical
  let object ← (exactObject value ["claims_json", "key_id", "kind", "signature_hex"] "grant").mapError
    fun _ => .invalidGrant
  let string (field : String) := orGrantError ((object.get field).bind Value.asStr) .invalidGrant
  let grant : SignedRemoteExecutionGrant := {
    kind := ← string "kind"
    claimsJson := ← string "claims_json"
    keyId := ← string "key_id"
    signatureHex := ← string "signature_hex" }
  grant.validateOuter
  return grant

/-- `decode_hex`。長さだけを確かめる。 -/
def decodeHex (value : String) : Except RemoteExecutionGrantError (List UInt8) :=
  if byteLen value ≠ ed25519SignatureHexBytes then .error .invalidSignature
  else orGrantError (hexPairs (utf8Bytes value)) .invalidSignature

end SignedRemoteExecutionGrant

structure RemoteExecutionGrantSigner where
  keyPair : Ed25519KeyPair
  keyId : EvidenceKeyId

def RemoteExecutionGrantSigner.sign (s : RemoteExecutionGrantSigner) (claims : RemoteExecutionGrantClaims) :
    Except RemoteExecutionGrantError SignedRemoteExecutionGrant := do
  claims.validate claims.issuedAtUnixMillis
  if maxGrantBytes < byteLen claims.canonicalJson then throw .tooLarge
  return {
    kind := grantKind
    claimsJson := claims.canonicalJson
    keyId := s.keyId.value
    signatureHex := hex (s.keyPair.sign (RemoteExecutionGrantClaims.signingInput claims.canonicalJson)) }

structure RemoteExecutionGrantVerifier where
  publicKey : List UInt8
  keyId : EvidenceKeyId
  /-- 使われた許可。錠で守られる。 -/
  consumedGrantId : Option String
  publicKeyLength : publicKey.length = 32
deriving DecidableEq

namespace RemoteExecutionGrantVerifier

def verify (V : RemoteExecutionGrantVerifier) (grant : SignedRemoteExecutionGrant) (nowUnixMillis : Nat) :
    Except RemoteExecutionGrantError RemoteExecutionGrantClaims := do
  grant.validateOuter
  if grant.keyId ≠ V.keyId.value then throw .invalidKey
  let claims ← RemoteExecutionGrantClaims.parseClaims grant.claimsJson
  let signature ← SignedRemoteExecutionGrant.decodeHex grant.signatureHex
  if E.verify V.publicKey (RemoteExecutionGrantClaims.signingInput grant.claimsJson) signature = false then
    throw .invalidSignature
  claims.validate nowUnixMillis
  return claims

def verifyAndConsume (V : RemoteExecutionGrantVerifier) (grant : SignedRemoteExecutionGrant)
    (expected : ExpectedRemoteExecutionGrant) (prepare : PrepareFrame) :
    Except RemoteExecutionGrantError (RemoteExecutionGrantClaims × RemoteExecutionGrantVerifier) := do
  let claims ← V.verify E grant expected.nowUnixMillis
  claims.verifyPrepare E expected prepare
  if V.consumedGrantId.isSome then throw .replayed
  return (claims, { V with consumedGrantId := some claims.grantId })

end RemoteExecutionGrantVerifier

end Codeoff.Runtime
