import Codeoff.Json.Lemmas.Parsed
import Codeoff.Json.Lemmas.TextSize
import Codeoff.Runtime.Lemmas.RemoteCodec
import Codeoff.Runtime.RunnerEvidence

/-!
# 署名する文面の往復

署名の 16 進の文面も、許可と証拠の中身の文面も、読み戻すと元に戻る。
-/

namespace Codeoff.Runtime

open Codeoff.Core Codeoff.Json Codeoff.Relational Codeoff.State

variable {bytes : List UInt8} {text : String} {n : Nat} {ms : List (String × Value)}

theorem utf8Bytes_hex (bytes : List UInt8) :
    utf8Bytes (hex bytes) = bytes.flatMap fun b => hexByte (b.toNat / 16) :: [hexByte (b.toNat % 16)] :=
  utf8Bytes_hexText bytes

theorem isSignatureHex_hex (h : bytes.length = 64) : isSignatureHex (hex bytes) = true := by
  obtain ⟨hall, hlength⟩ := hexBytes_ok bytes
  rw [isSignatureHex, ← length_utf8Bytes, utf8Bytes_hex, hlength, h, hall]
  rfl

theorem radixDigit_hexByte (h : n < 16) : radixDigit (hexByte n) = some n ∧ (hexByte n == 43) = false := by
  have hall : ∀ m : Fin 16, radixDigit (hexByte m) = some m.val ∧ (hexByte m == 43) = false := by decide
  exact hall ⟨n, h⟩

theorem fromStrRadix_hexByte (b : UInt8) :
    fromStrRadix (hexByte (b.toNat / 16)) (hexByte (b.toNat % 16)) = some b := by
  have hb := b.toNat_lt
  obtain ⟨hhigh, hsign⟩ := radixDigit_hexByte (n := b.toNat / 16) (by omega)
  obtain ⟨hlow, -⟩ := radixDigit_hexByte (n := b.toNat % 16) (by omega)
  have hread : fromStrRadix (hexByte (b.toNat / 16)) (hexByte (b.toNat % 16)) =
      some (UInt8.ofNat (16 * (b.toNat / 16) + b.toNat % 16)) := by
    simp only [fromStrRadix, hsign, hhigh, hlow]
    rfl
  rw [hread, Nat.div_add_mod, UInt8.ofNat_toNat]

theorem hexPairs_hex (bytes : List UInt8) : hexPairs (utf8Bytes (hex bytes)) = some bytes := by
  rw [utf8Bytes_hex]
  induction bytes with
  | nil => rfl
  | cons b bytes ih => simp [hexPairs, fromStrRadix_hexByte, ih]

theorem exactObject_of_keys {fields : List String} {label : String} (hkeys : (ms.map Prod.fst).Nodup)
    (hlength : ms.length = fields.length) (hfields : ∀ field ∈ fields, field ∈ ms.map Prod.fst) :
    exactObject (.object ms) fields label = .ok (.object ms) := by
  obtain ⟨members, hobj, hlen⟩ := object_members hkeys
  have hget : ∀ field ∈ fields, ¬Value.get field (.obj members) = none := by
    intro field hfield
    obtain ⟨m, hm, rfl⟩ := List.mem_map.mp (hfields field hfield)
    rw [← hobj, carries_object hkeys m hm]
    simp
  rw [hobj]
  unfold exactObject
  simp only
  rw [if_neg]
  simpa [hlen, hlength] using hget

theorem ok_bind_eq {ε α β : Type} (a : α) (k : α → Except ε β) : (Except.ok a >>= k) = k a := rfl

theorem mapError_ok {ε ε' α : Type} {x : Except ε α} {f : ε → ε'} {a : α} : x.mapError f = .ok a ↔ x = .ok a := by
  cases x <;> simp [Except.mapError]

theorem forM_ok {ε α : Type} {xs : List α} {f : α → Except ε Unit} :
    xs.forM f = .ok () ↔ ∀ x ∈ xs, f x = .ok () := by
  induction xs with
  | nil => simp [pure, Except.pure]
  | cons x xs ih =>
    rw [List.forall_mem_cons, ← ih]
    cases hx : f x <;> simp [List.forM, hx, bind, Except.bind]

theorem evidenceKeyId_toBool {keyId : String} : (EvidenceKeyId.parse keyId).toBool = isEvidenceKeyId keyId := by
  unfold EvidenceKeyId.parse
  split <;> simp_all [Except.toBool]

/-! ## 許可 -/

namespace RemoteExecutionGrantClaims

variable {c : RemoteExecutionGrantClaims}

structure InRange (c : RemoteExecutionGrantClaims) : Prop where
  grantSequence : c.grantSequence ≤ u64Max
  issuedAt : c.issuedAtUnixMillis ≤ u64Max
  expiresAt : c.expiresAtUnixMillis ≤ u64Max
  deploymentEpoch : c.deploymentEpoch ≤ u64Max
  binding : c.binding.InRange

theorem members_nodup : (c.members.map Prod.fst).Nodup := by simp [members]

theorem binding_wf {b : RunBinding} (h : b.InRange) : b.toValue.Wf 1 := by
  have hattempt : b.attempt ≤ u64Max := h.attempt.trans (by decide)
  exact Value.Wf.object (by simp [u64_wf hattempt, u64_wf h.fenceToken, u64_wf h.deploymentEpoch])

theorem members_wf (h : c.InRange) : (Value.object c.members).Wf maxDepth := by
  have hone : (Value.int grantSchemaVersion).Wf 1 := u64_wf (n := 1) (by decide)
  have hobject : (Value.object c.members).Wf 2 := Value.Wf.object (by
    simp [members, hone, u64_wf h.grantSequence, u64_wf h.issuedAt, u64_wf h.expiresAt, u64_wf h.deploymentEpoch,
      binding_wf h.binding])
  exact hobject.mono (by decide)

theorem parseClaims_canonicalJson (h : c.InRange) (hsize : byteLen c.canonicalJson ≤ maxGrantBytes) :
    parseClaims c.canonicalJson = .ok c := by
  have hparse : parse c.canonicalJson = some (.object c.members) := (members_wf h).parse_render
  have hexact : exactObject (.object c.members) fields "grant" = .ok (.object c.members) :=
    exactObject_of_keys members_nodup rfl (by simp [members, fields])
  have hget := carries_object (c.members_nodup)
  have hbinding : RunBinding.fromValue c.binding.toValue = .ok c.binding := RunBinding.fromValue_toValue h.binding
  have hstring : ∀ {object key value}, Value.get key object = some (.str value) →
      orGrantError ((Value.get key object).bind Value.asStr) .invalidGrant = .ok value := by
    intro object key value hvalue
    rw [hvalue]
    rfl
  have hnumber : ∀ {object key n}, Value.get key object = some (.int (Nat.cast n)) → n ≤ u64Max →
      orGrantError ((Value.get key object).bind Value.asU64) .invalidGrant = .ok n := by
    intro object key n hvalue hn
    rw [hvalue, Option.bind_some, asU64_int hn]
    rfl
  unfold parseClaims
  rw [if_neg (by omega), hparse]
  refine except_bind_ok.mpr ⟨_, rfl, ?_⟩
  rw [if_neg (by simp [canonicalJson])]
  refine except_bind_ok.mpr ⟨_, mapError_ok.mpr hexact, ?_⟩
  simp only [Carries, members, List.forall_mem_cons, List.not_mem_nil, false_imp_iff, implies_true, and_true] at hget
  obtain ⟨h01, h02, h03, h04, h05, h06, h07, h08, h09, h10, h11, h12, h13, h14, h15, h16, h17, h18, h19⟩ := hget
  refine except_bind_ok.mpr ⟨grantSchemaVersion, hnumber h01 (by decide), ?_⟩
  rw [if_neg (by simp)]
  refine except_bind_ok.mpr ⟨_, hstring h02, ?_⟩
  refine except_bind_ok.mpr ⟨_, hstring h03, ?_⟩
  refine except_bind_ok.mpr ⟨_, hnumber h04 h.grantSequence, ?_⟩
  refine except_bind_ok.mpr ⟨_, hstring h05, ?_⟩
  refine except_bind_ok.mpr ⟨_, hstring h06, ?_⟩
  refine except_bind_ok.mpr ⟨_, hstring h07, ?_⟩
  refine except_bind_ok.mpr ⟨_, hstring h08, ?_⟩
  refine except_bind_ok.mpr ⟨_, hstring h09, ?_⟩
  refine except_bind_ok.mpr ⟨_, hnumber h10 h.issuedAt, ?_⟩
  refine except_bind_ok.mpr ⟨_, hnumber h11 h.expiresAt, ?_⟩
  refine except_bind_ok.mpr ⟨_, hnumber h12 h.deploymentEpoch, ?_⟩
  refine except_bind_ok.mpr ⟨_, hstring h13, ?_⟩
  refine except_bind_ok.mpr ⟨_, congrArg (orGrantError · _) h14, ?_⟩
  refine except_bind_ok.mpr ⟨_, mapError_ok.mpr hbinding, ?_⟩
  refine except_bind_ok.mpr ⟨_, hstring h15, ?_⟩
  refine except_bind_ok.mpr ⟨_, hstring h16, ?_⟩
  refine except_bind_ok.mpr ⟨_, hstring h17, ?_⟩
  refine except_bind_ok.mpr ⟨_, hstring h18, ?_⟩
  exact except_bind_ok.mpr ⟨_, hstring h19, rfl⟩

/-- 時刻 `now` に正しい許可。 -/
structure ValidAt (c : RemoteExecutionGrantClaims) (now : Nat) : Prop where
  algorithm : c.algorithmVersion = grantAlgorithmVersion
  sequence : c.grantSequence ≠ 0
  signerIdentity : isBoundedLabel c.signerIdentity = true
  keyRevision : isBoundedLabel c.keyRevision = true
  issued : c.issuedAtUnixMillis ≤ now
  expires : now < c.expiresAtUnixMillis
  binding : c.binding.validate = .ok ()
  digests : ∀ digest ∈ c.digests, isLowercaseSha256 digest = true
  epoch : c.deploymentEpoch ≠ 0

theorem requireSha256_ok {value : String} : requireSha256 value = .ok () ↔ isLowercaseSha256 value = true := by
  cases h : isLowercaseSha256 value <;> simp [requireSha256, h]

theorem validate_ok {now : Nat} : c.validate now = .ok () ↔ c.ValidAt now := by
  unfold validate
  constructor
  · intro h
    split at h
    · cases h
    · rename_i hhead
      simp only [not_or, Decidable.not_not, Bool.not_eq_false, Nat.not_lt] at hhead
      obtain ⟨halgorithm, hsequence, hsigner, hrevision, hissued⟩ := hhead
      split at h
      · cases h
      · rename_i hexpires
        obtain ⟨_, hbinding, h⟩ := except_bind_ok.mp h
        obtain ⟨_, hdigests, h⟩ := except_bind_ok.mp h
        split at h
        · cases h
        · rename_i hepoch
          exact ⟨halgorithm, hsequence, hsigner, hrevision, hissued, by omega, mapError_ok.mp hbinding,
            fun digest hdigest => requireSha256_ok.mp (forM_ok.mp hdigests digest hdigest), hepoch⟩
  · intro h
    rw [if_neg (by simp [h.algorithm, h.sequence, h.signerIdentity, h.keyRevision, h.issued]),
      if_neg (by have := h.expires; omega)]
    refine except_bind_ok.mpr ⟨(), mapError_ok.mpr h.binding, except_bind_ok.mpr ⟨(), ?_, ?_⟩⟩
    · exact forM_ok.mpr fun digest hdigest => requireSha256_ok.mpr (h.digests digest hdigest)
    · rw [if_neg h.epoch]
      rfl

theorem label_le {value : String} (h : isBoundedLabel value = true) : byteLen value ≤ 128 := by
  simp only [isBoundedLabel, Bool.not_eq_true', Bool.or_eq_false_iff, decide_eq_false_iff_not, Nat.not_lt] at h
  exact h.2

theorem token_le {value : String} {maximum : Nat} {lowercase colon : Bool}
    (h : isBoundedAsciiToken value maximum lowercase colon = true) : byteLen value ≤ maximum := by
  simp only [isBoundedAsciiToken, Bool.and_eq_true, Bool.not_eq_true', Bool.or_eq_false_iff, decide_eq_false_iff_not,
    Nat.not_lt] at h
  exact h.1.1.1.1.1.2

theorem criticalId_le {field value : String} (h : requireCriticalId field value = .ok ()) : byteLen value ≤ 128 := by
  have hparse := orError_ok.mp h
  unfold CriticalId.parse at hparse
  split at hparse
  · rename_i hbounded
    exact token_le hbounded
  · simp [Except.toBool] at hparse

theorem credentialRevision_le {field value : String} (h : requireCredentialRevision field value = .ok ()) :
    byteLen value ≤ 128 := by
  have hparse := orError_ok.mp h
  unfold CredentialRevision.parse at hparse
  split at hparse
  · rename_i hbounded
    exact token_le hbounded
  · simp [Except.toBool] at hparse

theorem hex_le {field value : String} (h : requireHex field value 64 = .ok ()) : byteLen value ≤ 64 := by
  have hvalue := orError_ok.mp h
  simp only [Bool.and_eq_true, beq_iff_eq] at hvalue
  exact hvalue.1.le

theorem str_le {value : String} {limit : Nat} (h : byteLen value ≤ limit) :
    textBytes (Value.str value).chars ≤ 6 * limit + 2 := by
  have hvalue := stringChars_le value
  have hlimit : value.utf8ByteSize ≤ limit := h
  simp only [Value.chars]
  omega

theorem u64_le (h : n ≤ u64Max) : textBytes (Value.int n).chars ≤ 20 :=
  digits_le (by unfold u64Max at h; omega)

/-- 束縛の文面の長さは、欄ごとの上限から抑えられる。 -/
theorem binding_bytes_le {b : RunBinding} (hr : b.InRange) (h : b.validate = .ok ()) :
    textBytes b.toValue.chars ≤ 3500 := by
  obtain ⟨_, hrun, h⟩ := except_bind_ok.mp h
  obtain ⟨_, hjob, h⟩ := except_bind_ok.mp h
  obtain ⟨_, hauthority, h⟩ := except_bind_ok.mp h
  obtain ⟨_, hprofile, h⟩ := except_bind_ok.mp h
  obtain ⟨_, hrevision, -⟩ := except_bind_ok.mp h
  have hattempt : b.attempt ≤ u64Max := hr.attempt.trans (by decide)
  let members : List (String × Value) := [("run_id", .str b.runId), ("job_id", .str b.jobId),
    ("attempt", .int b.attempt), ("fence_token", .int b.fenceToken), ("authority_digest", .str b.authorityDigest),
    ("profile_digest", .str b.profileDigest), ("deployment_epoch", .int b.deploymentEpoch),
    ("credential_revision", .str b.credentialRevision)]
  have hkeys : ((members.map Prod.fst).map fun k => textBytes (stringChars k)).sum = 111 := by
    simp [members, stringChars, escapeChar, Char.utf8Size]
  have hvalues : List.Forall₂ (fun m bound => textBytes m.2.chars ≤ bound) members
      [770, 770, 20, 20, 386, 386, 20, 770] :=
    .cons (str_le (criticalId_le hrun)) (.cons (str_le (criticalId_le hjob)) (.cons (u64_le hattempt)
      (.cons (u64_le hr.fenceToken) (.cons (str_le (hex_le hauthority)) (.cons (str_le (hex_le hprofile))
      (.cons (u64_le hr.deploymentEpoch) (.cons (str_le (credentialRevision_le hrevision)) .nil)))))))
  exact (object_bytes_of hkeys hvalues).trans (by simp [members])

theorem sha256_le {value : String} (h : isLowercaseSha256 value = true) : byteLen value ≤ 64 := by
  simp only [isLowercaseSha256, Bool.and_eq_true, beq_iff_eq] at h
  exact h.1.le

theorem canonicalJson_le {now : Nat} (hr : c.InRange) (h : c.ValidAt now) : byteLen c.canonicalJson ≤ 9500 := by
  have hkeys : ((c.members.map Prod.fst).map fun k => textBytes (stringChars k)).sum = 317 := by
    simp [members, stringChars, escapeChar, Char.utf8Size]
  have hdigests := h.digests
  simp only [digests, List.forall_mem_cons, List.not_mem_nil, false_imp_iff, implies_true, and_true] at hdigests
  obtain ⟨hgrant, hsession, hchallenge, hadmission, hprofile, hpermit, htask, hdefinition, hcapability, htargets⟩ :=
    hdigests
  have halgorithm : byteLen c.algorithmVersion ≤ 10 := by rw [h.algorithm]; decide
  have hone : textBytes (Value.int grantSchemaVersion).chars ≤ 20 := u64_le (n := 1) (by decide)
  have hvalues : List.Forall₂ (fun m bound => textBytes m.2.chars ≤ bound) c.members
      [20, 62, 386, 20, 770, 770, 386, 386, 386, 20, 20, 20, 386, 3500, 386, 386, 386, 386, 386] :=
    .cons hone (.cons (str_le halgorithm) (.cons (str_le (sha256_le hgrant)) (.cons (u64_le hr.grantSequence)
      (.cons (str_le (label_le h.signerIdentity)) (.cons (str_le (label_le h.keyRevision))
      (.cons (str_le (sha256_le hsession)) (.cons (str_le (sha256_le hchallenge))
      (.cons (str_le (sha256_le hadmission)) (.cons (u64_le hr.issuedAt) (.cons (u64_le hr.expiresAt)
      (.cons (u64_le hr.deploymentEpoch) (.cons (str_le (sha256_le hprofile))
      (.cons (binding_bytes_le hr.binding h.binding) (.cons (str_le (sha256_le hpermit))
      (.cons (str_le (sha256_le htask)) (.cons (str_le (sha256_le hdefinition)) (.cons (str_le (sha256_le hcapability))
      (.cons (str_le (sha256_le htargets)) .nil))))))))))))))))))
  have hsize : byteLen c.canonicalJson = textBytes (Value.object c.members).chars := render_utf8ByteSize _
  rw [hsize]
  exact (object_bytes_of hkeys hvalues).trans (by simp [members])

end RemoteExecutionGrantClaims

namespace SignedRemoteExecutionGrant

variable {g : SignedRemoteExecutionGrant}

theorem members_nodup : (g.members.map Prod.fst).Nodup := by simp [members]

theorem members_wf : (Value.object g.members).Wf maxDepth := by
  have hobject : (Value.object g.members).Wf 1 := Value.Wf.object (by simp [members])
  exact hobject.mono (by decide)

theorem validateOuter_ok : g.validateOuter = .ok () ↔
    g.kind = grantKind ∧ isEvidenceKeyId g.keyId = true ∧ isSignatureHex g.signatureHex = true := by
  unfold validateOuter
  rw [evidenceKeyId_toBool]
  by_cases hkind : g.kind = grantKind
  · cases hid : isEvidenceKeyId g.keyId <;> cases hsignature : isSignatureHex g.signatureHex <;>
      simp [hkind, bind, Except.bind, pure, Except.pure, throw, throwThe, MonadExceptOf.throw]
  · simp [hkind, bind, Except.bind, throw, throwThe, MonadExceptOf.throw]

/-- 外側の検査を通り、上限に収まる許可証は、書いて読み直すと元に戻る。 -/
theorem parseCanonicalJson_canonicalJson (hsize : byteLen g.canonicalJson ≤ maxGrantBytes)
    (houter : g.validateOuter = .ok ()) : parseCanonicalJson g.canonicalJson = .ok g := by
  have hparse : parse g.canonicalJson = some (.object g.members) := members_wf.parse_render
  have hexact : exactObject (.object g.members) ["claims_json", "key_id", "kind", "signature_hex"] "grant" =
      .ok (.object g.members) := exactObject_of_keys members_nodup rfl (by simp [members])
  have hget := carries_object (g.members_nodup)
  unfold parseCanonicalJson
  rw [if_neg (by omega), hparse]
  simp only [orGrantError, ok_bind_eq]
  rw [if_neg (by simp [canonicalJson]), hexact]
  simp only [Carries, members, List.forall_mem_cons, List.not_mem_nil, false_imp_iff, implies_true, and_true] at hget
  simp only [Except.mapError, ok_bind_eq, members, hget, Option.bind_some, Value.asStr]
  rw [show (SignedRemoteExecutionGrant.mk g.kind g.claimsJson g.keyId g.signatureHex).validateOuter = .ok () from houter]
  rfl

theorem canonicalJson_le {limit : Nat} (houter : g.validateOuter = .ok ()) (hclaims : byteLen g.claimsJson ≤ limit) :
    byteLen g.canonicalJson ≤ 6 * limit + 2000 := by
  obtain ⟨hkind, hkey, hsignature⟩ := validateOuter_ok.mp houter
  have hkeys : ((g.members.map Prod.fst).map fun k => textBytes (stringChars k)).sum = 42 := by
    simp [members, stringChars, escapeChar, Char.utf8Size]
  have hkindLe : byteLen g.kind ≤ 22 := by rw [hkind]; decide
  have hkeyLe : byteLen g.keyId ≤ 128 := by
    simp only [isEvidenceKeyId, Bool.and_eq_true, Bool.not_eq_true', Bool.or_eq_false_iff, decide_eq_false_iff_not,
      Nat.not_lt] at hkey
    exact hkey.1.2
  have hsignatureLe : byteLen g.signatureHex ≤ 128 := by
    simp only [isSignatureHex, Bool.and_eq_true, beq_iff_eq] at hsignature
    exact hsignature.1.le
  have hvalues : List.Forall₂ (fun m bound => textBytes m.2.chars ≤ bound) g.members
      [134, 6 * limit + 2, 770, 770] :=
    .cons (RemoteExecutionGrantClaims.str_le hkindLe) (.cons (RemoteExecutionGrantClaims.str_le hclaims)
      (.cons (RemoteExecutionGrantClaims.str_le hkeyLe) (.cons (RemoteExecutionGrantClaims.str_le hsignatureLe) .nil)))
  have hsize : byteLen g.canonicalJson = textBytes (Value.object g.members).chars := render_utf8ByteSize _
  have hbytes := object_bytes_of hkeys hvalues
  simp only [List.sum_cons, List.sum_nil] at hbytes
  have hlength : g.members.length = 4 := rfl
  omega

theorem decodeHex_hex (h : bytes.length = 64) : decodeHex (hex bytes) = .ok bytes := by
  have hlength : byteLen (hex bytes) = ed25519SignatureHexBytes := by
    rw [← length_utf8Bytes, utf8Bytes_hex, (hexBytes_ok bytes).2, h]
    rfl
  unfold decodeHex
  rw [if_neg (by simp [hlength]), hexPairs_hex]
  rfl

end SignedRemoteExecutionGrant

section Grant

variable {E : SignatureEnv} {S : RemoteExecutionGrantSigner} {V : RemoteExecutionGrantVerifier}
  {c : RemoteExecutionGrantClaims} {g : SignedRemoteExecutionGrant} {now : Nat}

open RemoteExecutionGrantClaims in
theorem RemoteExecutionGrantSigner.sign_ok (h : S.sign c = .ok g) :
    c.ValidAt c.issuedAtUnixMillis ∧ byteLen c.canonicalJson ≤ maxGrantBytes ∧
      g = ⟨grantKind, c.canonicalJson, S.keyId.value, hex (S.keyPair.sign (signingInput c.canonicalJson))⟩ := by
  obtain ⟨_, hvalid, h⟩ := except_bind_ok.mp h
  by_cases hlarge : maxGrantBytes < byteLen c.canonicalJson
  · rw [if_pos hlarge] at h
    cases h
  · rw [if_neg hlarge] at h
    cases h
    exact ⟨validate_ok.mp hvalid, by omega, rfl⟩

theorem RemoteExecutionGrantSigner.sign_outer (h : S.sign c = .ok g)
    (hlength : (S.keyPair.sign (RemoteExecutionGrantClaims.signingInput c.canonicalJson)).length = 64) :
    g.validateOuter = .ok () := by
  obtain ⟨-, -, rfl⟩ := sign_ok h
  exact SignedRemoteExecutionGrant.validateOuter_ok.mpr ⟨rfl, S.keyId.canonical, isSignatureHex_hex hlength⟩

/-- 署名された許可証は、読み戻せる。 -/
theorem RemoteExecutionGrantSigner.sign_parses (hr : c.InRange) (h : S.sign c = .ok g)
    (hlength : (S.keyPair.sign (RemoteExecutionGrantClaims.signingInput c.canonicalJson)).length = 64) :
    SignedRemoteExecutionGrant.parseCanonicalJson g.canonicalJson = .ok g := by
  have houter := sign_outer h hlength
  obtain ⟨hvalid, -, rfl⟩ := sign_ok h
  have hsize := SignedRemoteExecutionGrant.canonicalJson_le houter (RemoteExecutionGrantClaims.canonicalJson_le hr hvalid)
  exact SignedRemoteExecutionGrant.parseCanonicalJson_canonicalJson (hsize.trans (by decide)) houter

open RemoteExecutionGrantClaims in
/-- 検証を通るのは、外側の検査、鍵の名、文面、署名、期間のすべてが合うときである。 -/
theorem RemoteExecutionGrantVerifier.verify_ok : V.verify E g now = .ok c ↔
    g.validateOuter = .ok () ∧ g.keyId = V.keyId.value ∧ parseClaims g.claimsJson = .ok c ∧
      (∃ signature, SignedRemoteExecutionGrant.decodeHex g.signatureHex = .ok signature ∧
        E.verify V.publicKey (signingInput g.claimsJson) signature = true) ∧ c.ValidAt now := by
  unfold verify
  constructor
  · intro h
    obtain ⟨_, houter, h⟩ := except_bind_ok.mp h
    by_cases hkey : g.keyId = V.keyId.value
    · rw [if_neg (by simpa using hkey)] at h
      obtain ⟨claims, hclaims, h⟩ := except_bind_ok.mp h
      obtain ⟨signature, hsignature, h⟩ := except_bind_ok.mp h
      cases hverify : E.verify V.publicKey (signingInput g.claimsJson) signature with
      | false =>
        rw [if_pos hverify] at h
        cases h
      | true =>
        rw [if_neg (by simp [hverify])] at h
        obtain ⟨_, hvalid, h⟩ := except_bind_ok.mp h
        cases h
        exact ⟨houter, hkey, hclaims, ⟨signature, hsignature, hverify⟩, validate_ok.mp hvalid⟩
    · rw [if_pos hkey] at h
      cases h
  · rintro ⟨houter, hkey, hclaims, ⟨signature, hsignature, hverify⟩, hvalid⟩
    refine except_bind_ok.mpr ⟨(), houter, ?_⟩
    rw [if_neg (by simpa using hkey)]
    refine except_bind_ok.mpr ⟨c, hclaims, except_bind_ok.mpr ⟨signature, hsignature, ?_⟩⟩
    rw [if_neg (by simp [hverify])]
    exact except_bind_ok.mpr ⟨(), validate_ok.mpr hvalid, rfl⟩

end Grant

/-! ## 証拠 -/

namespace RunnerEvidenceClaims

variable {c : RunnerEvidenceClaims}

structure InRange (c : RunnerEvidenceClaims) : Prop where
  sequence : c.sequence ≤ u64Max
  issuedAt : c.issuedAtUnixMillis ≤ u64Max
  expiresAt : c.expiresAtUnixMillis ≤ u64Max
  deploymentEpoch : c.deploymentEpoch ≤ u64Max

theorem members_nodup : (c.members.map Prod.fst).Nodup := by simp [members]

theorem members_wf (h : c.InRange) : (Value.object c.members).Wf maxDepth := by
  have hone : (Value.int evidenceSchemaVersion).Wf 1 := u64_wf (n := 1) (by decide)
  have hobject : (Value.object c.members).Wf 2 := Value.Wf.object (by
    simp [members, hone, u64_wf h.sequence, u64_wf h.issuedAt, u64_wf h.expiresAt, u64_wf h.deploymentEpoch])
  exact hobject.mono (by decide)

/-- 時刻 `now` に正しい証拠の中身。 -/
structure ValidAt (c : RunnerEvidenceClaims) (now : Nat) : Prop where
  algorithm : c.algorithmVersion = evidenceAlgorithmVersion
  signerIdentity : c.signerIdentity ≠ ""
  keyRevision : c.keyRevision ≠ ""
  sequence : c.sequence ≠ 0
  epoch : c.deploymentEpoch ≠ 0
  expires : now < c.expiresAtUnixMillis
  digests : ∀ digest ∈ c.digests, isLowercaseSha256 digest = true
  executorIdentity : c.executorIdentity ≠ ""
  credentialRevision : c.credentialRevision ≠ ""

theorem validate_ok {now : Nat} : c.validate now = .ok () ↔ c.ValidAt now := by
  unfold validate
  constructor
  · intro h
    split at h
    · cases h
    · rename_i hhead
      simp only [not_or, Decidable.not_not, Nat.not_le] at hhead
      obtain ⟨halgorithm, hsigner, hrevision, hsequence, hepoch, hexpires⟩ := hhead
      split at h
      · cases h
      · rename_i hdigests
        split at h
        · cases h
        · rename_i hlast
          rw [not_or] at hlast
          exact ⟨halgorithm, hsigner, hrevision, hsequence, hepoch, hexpires, by simpa using hdigests, hlast.1, hlast.2⟩
  · intro h
    rw [if_neg (by simp [h.algorithm, h.signerIdentity, h.keyRevision, h.sequence, h.epoch, h.expires]),
      if_neg (by simpa using h.digests), if_neg (by simp [h.executorIdentity, h.credentialRevision])]

theorem kindOf_name (kind : RunnerEvidenceKind) : kindOf kind.name = .ok kind := by cases kind <;> rfl

theorem parseClaims_canonicalJson (h : c.InRange) : parseClaims c.canonicalJson = .ok c := by
  have hparse : parse c.canonicalJson = some (.object c.members) := (members_wf h).parse_render
  have hexact : exactObject (.object c.members) fields "evidence" = .ok (.object c.members) :=
    exactObject_of_keys members_nodup rfl (by simp [members, fields])
  have hget := carries_object (c.members_nodup)
  have hstring : ∀ {object key value}, Value.get key object = some (.str value) →
      orEvidenceError ((Value.get key object).bind Value.asStr) .invalidClaims = .ok value := by
    intro object key value hvalue
    rw [hvalue]
    rfl
  have hnumber : ∀ {object key n}, Value.get key object = some (.int (Nat.cast n)) → n ≤ u64Max →
      orEvidenceError ((Value.get key object).bind Value.asU64) .invalidClaims = .ok n := by
    intro object key n hvalue hn
    rw [hvalue, Option.bind_some, asU64_int hn]
    rfl
  unfold parseClaims
  rw [hparse]
  refine except_bind_ok.mpr ⟨_, rfl, ?_⟩
  rw [if_neg (by simp [canonicalJson])]
  refine except_bind_ok.mpr ⟨_, mapError_ok.mpr hexact, ?_⟩
  simp only [Carries, members, List.forall_mem_cons, List.not_mem_nil, false_imp_iff, implies_true, and_true] at hget
  obtain ⟨h01, h02, h03, h04, h05, h06, h07, h08, h09, h10, h11, h12, h13, h14, h15, h16⟩ := hget
  refine except_bind_ok.mpr ⟨evidenceSchemaVersion, hnumber h01 (by decide), ?_⟩
  rw [if_neg (by simp)]
  refine except_bind_ok.mpr ⟨_, hstring h02, ?_⟩
  refine except_bind_ok.mpr ⟨_, kindOf_name c.kind, ?_⟩
  refine except_bind_ok.mpr ⟨_, hstring h03, ?_⟩
  refine except_bind_ok.mpr ⟨_, hstring h04, ?_⟩
  refine except_bind_ok.mpr ⟨_, hstring h05, ?_⟩
  refine except_bind_ok.mpr ⟨_, hstring h06, ?_⟩
  refine except_bind_ok.mpr ⟨_, hstring h07, ?_⟩
  refine except_bind_ok.mpr ⟨_, hnumber h08 h.sequence, ?_⟩
  refine except_bind_ok.mpr ⟨_, hnumber h09 h.issuedAt, ?_⟩
  refine except_bind_ok.mpr ⟨_, hnumber h10 h.expiresAt, ?_⟩
  refine except_bind_ok.mpr ⟨_, hnumber h11 h.deploymentEpoch, ?_⟩
  refine except_bind_ok.mpr ⟨_, hstring h12, ?_⟩
  refine except_bind_ok.mpr ⟨_, hstring h13, ?_⟩
  refine except_bind_ok.mpr ⟨_, hstring h14, ?_⟩
  refine except_bind_ok.mpr ⟨_, hstring h15, ?_⟩
  exact except_bind_ok.mpr ⟨_, hstring h16, rfl⟩

end RunnerEvidenceClaims

namespace SignedRunnerEvidence

variable {e e' : SignedRunnerEvidence}

theorem members_nodup : (e.members.map Prod.fst).Nodup := by simp [members]

theorem members_wf : (Value.object e.members).Wf maxDepth := by
  have hobject : (Value.object e.members).Wf 1 := Value.Wf.object (by simp [members])
  exact hobject.mono (by decide)

/-- 証拠を書いたものから読めるのは、その証拠だけである。 -/
theorem parseCanonicalJson_eq (h : parseCanonicalJson e.canonicalJson = .ok e') : e' = e := by
  have hparse : parse e.canonicalJson = some (.object e.members) := members_wf.parse_render
  have hexact : exactObject (.object e.members) ["claims_json", "key_id", "signature_hex"] "evidence" =
      .ok (.object e.members) := exactObject_of_keys members_nodup rfl (by simp [members])
  have hget := carries_object (e.members_nodup)
  simp only [Carries, members, List.forall_mem_cons, List.not_mem_nil, false_imp_iff, implies_true, and_true] at hget
  obtain ⟨hclaims, hkey, hsignature⟩ := hget
  have hread : ∀ {object key value text}, Value.get key object = some (.str value) →
      orEvidenceError ((Value.get key object).bind Value.asStr) .invalidClaims = .ok text → text = value := by
    intro object key value text hvalue htext
    rw [hvalue] at htext
    cases htext
    rfl
  unfold parseCanonicalJson at h
  by_cases hlarge : maxEvidenceBytes < byteLen e.canonicalJson
  · rw [if_pos hlarge] at h
    cases h
  rw [if_neg hlarge, hparse] at h
  obtain ⟨value, hvalue, h⟩ := except_bind_ok.mp h
  cases hvalue
  rw [if_neg (by simp [canonicalJson])] at h
  obtain ⟨object, hobject, h⟩ := except_bind_ok.mp h
  rw [hexact] at hobject
  cases hobject
  obtain ⟨claimsJson, hclaims', h⟩ := except_bind_ok.mp h
  obtain ⟨keyId, hkey', h⟩ := except_bind_ok.mp h
  obtain ⟨signatureHex, hsignature', h⟩ := except_bind_ok.mp h
  obtain ⟨_, _, h⟩ := except_bind_ok.mp h
  cases h
  obtain rfl := hread hclaims hclaims'
  obtain rfl := hread hkey hkey'
  obtain rfl := hread hsignature hsignature'
  rfl

end SignedRunnerEvidence

/-- 署名できるのは、鍵の名と主張と大きさが正しいときに限る。 -/
theorem signWithKeyPair_ok {keyPair : Ed25519KeyPair} {keyId : String} {c : RunnerEvidenceClaims}
    {e : SignedRunnerEvidence} : signWithKeyPair c keyId keyPair = .ok e ↔
      isEvidenceKeyId keyId = true ∧ c.ValidAt c.issuedAtUnixMillis ∧ byteLen c.canonicalJson ≤ maxEvidenceBytes ∧
        e = ⟨c.canonicalJson, keyId,
          hex (keyPair.sign (RunnerEvidenceClaims.signingInput c.kind c.canonicalJson))⟩ := by
  unfold signWithKeyPair
  rw [evidenceKeyId_toBool, ← RunnerEvidenceClaims.validate_ok]
  constructor
  · intro h
    by_cases hkey : isEvidenceKeyId keyId = false
    · rw [if_pos hkey] at h
      cases h
    rw [if_neg hkey] at h
    obtain ⟨_, hvalid, h⟩ := except_bind_ok.mp h
    by_cases hlarge : maxEvidenceBytes < byteLen c.canonicalJson
    · rw [if_pos hlarge] at h
      cases h
    rw [if_neg hlarge] at h
    exact ⟨by simpa using hkey, hvalid, by omega, (Except.ok.inj h).symm⟩
  · rintro ⟨hkey, hvalid, hsize, rfl⟩
    rw [if_neg (by simp [hkey])]
    refine except_bind_ok.mpr ⟨(), hvalid, ?_⟩
    rw [if_neg (by omega)]
    rfl

theorem signWithKeyPair_claims {keyPair : Ed25519KeyPair} {keyId : String} {c : RunnerEvidenceClaims}
    {e : SignedRunnerEvidence} (h : signWithKeyPair c keyId keyPair = .ok e) : e.claimsJson = c.canonicalJson := by
  obtain ⟨-, -, -, rfl⟩ := signWithKeyPair_ok.mp h
  rfl

/-- 検証を通った証拠の主張は、署名された文面から読んだものである。 -/
theorem verifyRunnerEvidence_ok {E : SignatureEnv} {evidence : SignedRunnerEvidence} {publicKey : List UInt8}
    {now : Nat} {c : RunnerEvidenceClaims} (h : verifyRunnerEvidence E evidence publicKey now = .ok c) :
    RunnerEvidenceClaims.parseClaims evidence.claimsJson = .ok c ∧ ∃ signature,
      E.verify publicKey (RunnerEvidenceClaims.signingInput c.kind evidence.claimsJson) signature = true := by
  unfold verifyRunnerEvidence at h
  obtain ⟨_, _, h⟩ := except_bind_ok.mp h
  by_cases hlarge : maxEvidenceBytes < byteLen evidence.claimsJson
  · rw [if_pos hlarge] at h
    cases h
  rw [if_neg hlarge] at h
  obtain ⟨claims, hclaims, h⟩ := except_bind_ok.mp h
  obtain ⟨signature, _, h⟩ := except_bind_ok.mp h
  cases hverify : E.verify publicKey (RunnerEvidenceClaims.signingInput claims.kind evidence.claimsJson) signature with
  | false =>
    rw [if_pos hverify] at h
    cases h
  | true =>
    rw [if_neg (by simp [hverify])] at h
    dsimp only at h
    split at h
    · cases h
    · split at h
      · cases h
      · obtain ⟨_, _, h⟩ := except_bind_ok.mp h
        cases h
        exact ⟨hclaims, signature, hverify⟩

end Codeoff.Runtime
