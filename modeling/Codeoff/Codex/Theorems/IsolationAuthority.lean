import Codeoff.Codex.Lemmas.Isolation
import Codeoff.Core.Sha256
import Codeoff.State.Lemmas.Text

/-!
# 配備の権限の受け付け

証明と鍵の束がどちらも決まった形の正準形で、世代に使える鍵のただ一つが署名を確かめ、時刻が新しく、この能力の束縛を含むとき、
そしてそのときに限り、配備の権限が得られる。
-/

namespace Codeoff.Codex

open Codeoff.Core Codeoff.Json Codeoff.Relational Codeoff.Runtime Codeoff.Agent

open Codeoff.State (utf8Bytes_inj utf8Bytes_ofList fromUTF8_toUTF8)

variable {E : SignatureEnv} {v : Value} {vs : List Value} {deploymentEpoch now : Nat}

structure TrustKey where
  keyId : String
  publicKeyHex : String
  notBefore : Nat
  notAfter : Option Nat
deriving DecidableEq

namespace TrustKey

def publicKey (k : TrustKey) : List UInt8 := nibblePairs (utf8Bytes k.publicKeyHex)

def notAfterValue : Option Nat → Value
  | none => .null
  | some n => .int n

def members (k : TrustKey) : List (String × Value) := [
  ("key_id", .str k.keyId), ("not_after_deployment_epoch", notAfterValue k.notAfter),
  ("not_before_deployment_epoch", .int k.notBefore), ("public_key", .str k.publicKeyHex)]

def toValue (k : TrustKey) : Value := .object k.members

def Covers (deploymentEpoch : Nat) (k : TrustKey) : Prop :=
  k.notBefore ≤ deploymentEpoch ∧ ∀ e ∈ k.notAfter, deploymentEpoch ≤ e

structure WellFormed (E : SignatureEnv) (k : TrustKey) : Prop where
  keyId : isLowercaseSha256 k.keyId = true
  publicKey : isLowercaseHex k.publicKeyHex 64 = true
  digest : k.keyId = E.sha256Hex k.publicKey
  notBefore : 0 < k.notBefore ∧ k.notBefore ≤ maxI64
  notAfter : ∀ e ∈ k.notAfter, k.notBefore ≤ e ∧ e ≤ maxI64

theorem members_nodup (k : TrustKey) : (k.members.map Prod.fst).Nodup := by simp [members]

theorem inWindow_iff {k : TrustKey} :
    inWindow deploymentEpoch (k.notBefore, k.notAfter) = true ↔ k.Covers deploymentEpoch := by
  cases hafter : k.notAfter <;> simp [inWindow, Covers, hafter]

def InRange (k : TrustKey) : Prop := k.notBefore ≤ Json.u64Max ∧ ∀ e ∈ k.notAfter, e ≤ Json.u64Max

theorem WellFormed.inRange {k : TrustKey} (h : k.WellFormed E) : k.InRange := by
  have hmax : maxI64 ≤ Json.u64Max := by decide
  exact ⟨h.notBefore.2.trans hmax, fun e he => (h.notAfter e he).2.trans hmax⟩

theorem InRange.wf {k : TrustKey} (h : k.InRange) : k.toValue.Wf 1 := by
  have hafter : (notAfterValue k.notAfter).Wf 0 := by
    cases hvalue : k.notAfter with
    | none => exact wf_null
    | some e => exact u64_wf (h.2 e hvalue)
  exact Value.Wf.object (by simp [members, u64_wf h.1, hafter])

theorem toValue_inj {k l : TrustKey} (h : k.toValue = l.toValue) : k = l := by
  have hmembers := object_inj (by simp [members]) k.members_nodup h
  simp only [members, List.cons.injEq, Prod.mk.injEq, true_and, Value.str.injEq, Value.int.injEq, and_true,
    Int.natCast_inj] at hmembers
  obtain ⟨hid, hafter, hbefore, hkey⟩ := hmembers
  have hend : k.notAfter = l.notAfter := by
    cases hk : k.notAfter <;> cases hl : l.notAfter <;> simp [hk, hl, notAfterValue] at hafter ⊢
    exact_mod_cast hafter
  cases k
  cases l
  simp_all

end TrustKey

/-! ## 鍵を読む -/

theorem trustKeyIdentity_ok {keyId publicKeyHex : String} {publicKey : List UInt8} :
    trustKeyIdentity E v = .ok (keyId, publicKeyHex, publicKey) ↔
      hasExactFields v trustKeyFields = true ∧ v.get "key_id" = some (.str keyId) ∧ isLowercaseSha256 keyId = true ∧
      v.get "public_key" = some (.str publicKeyHex) ∧ isLowercaseHex publicKeyHex 64 = true ∧
      publicKey = nibblePairs (utf8Bytes publicKeyHex) ∧ keyId = E.sha256Hex publicKey := by
  simp only [trustKeyIdentity, except_bind_ok, orPreflight_ok, refuse_ok, decodeLowercaseHex_ok,
    Option.filter_eq_some_iff, get_asStr, Bool.not_eq_false, ne_eq, not_not]
  constructor
  · rintro ⟨_, hfields, id, ⟨hid, hlower⟩, hex, hhex, bytes, ⟨hlen, hbytes⟩, _, hdigest, h⟩
    cases h
    exact ⟨hfields, hid, hlower, hhex, hlen, hbytes.symm, hdigest⟩
  · rintro ⟨hfields, hid, hlower, hhex, hlen, rfl, hdigest⟩
    exact ⟨(), hfields, _, ⟨hid, hlower⟩, _, hhex, _, ⟨hlen, rfl⟩, (), hdigest, rfl⟩

theorem trustKeyWindow_ok {window : Nat × Option Nat} : trustKeyWindow v = .ok window ↔
    v.get "not_before_deployment_epoch" = some (.int window.1) ∧ window.1 ≤ maxI64 ∧ 0 < window.1 ∧
    v.get "not_after_deployment_epoch" = some (TrustKey.notAfterValue window.2) ∧
    ∀ e ∈ window.2, window.1 ≤ e ∧ e ≤ maxI64 := by
  have hmax : maxI64 ≤ Json.u64Max := by decide
  obtain ⟨notBefore, notAfter⟩ := window
  simp only [trustKeyWindow, except_bind_ok, orPreflight_ok, get_positiveEpoch]
  constructor
  · rintro ⟨before, ⟨hbefore, hle, hpos⟩, h⟩
    cases hget : v.get "not_after_deployment_epoch" with
    | none =>
      rw [hget] at h
      cases h
    | some value =>
      rw [hget] at h
      by_cases hnull : value = .null
      · subst hnull
        cases h
        exact ⟨hbefore, hle, hpos, rfl, fun e he => nomatch he⟩
      · obtain ⟨after, hafter, h⟩ : ∃ after, value.asU64.filter (fun n => n ≤ maxI64 && before ≤ n) = some after ∧
            (pure (before, some after) : Except ScheduledFailure (Nat × Option Nat)) = .ok (notBefore, notAfter) := by
          cases value with
          | null => exact absurd rfl hnull
          | _ =>
            obtain ⟨after, hafter, h⟩ := except_bind_ok.mp h
            exact ⟨after, orPreflight_ok.mp hafter, h⟩
        cases h
        obtain ⟨hvalue, hbound⟩ := Option.filter_eq_some_iff.mp hafter
        simp only [Bool.and_eq_true, decide_eq_true_eq] at hbound
        refine ⟨hbefore, hle, hpos, congrArg some (asU64_eq_some.mp hvalue).1, fun e he => ?_⟩
        cases he
        exact hbound.symm
  · rintro ⟨hbefore, hle, hpos, hafter, hbound⟩
    refine ⟨notBefore, ⟨hbefore, hle, hpos⟩, ?_⟩
    rw [hafter]
    cases notAfter with
    | none => rfl
    | some e =>
      obtain ⟨hstart, hend⟩ := hbound e rfl
      have hvalue : Value.asU64 (.int e) = some e := asU64_eq_some.mpr ⟨rfl, hend.trans hmax⟩
      refine except_bind_ok.mpr ⟨e, orPreflight_ok.mpr (Option.filter_eq_some_iff.mpr ⟨hvalue, ?_⟩), rfl⟩
      simp [hstart, hend]

theorem trustKey_of_read {keyId publicKeyHex : String} {publicKey : List UInt8} {window : Nat × Option Nat}
    (hv : v.Sorted) (hidentity : trustKeyIdentity E v = .ok (keyId, publicKeyHex, publicKey))
    (hwindow : trustKeyWindow v = .ok window) :
    ∃ k : TrustKey, v = k.toValue ∧ k.WellFormed E ∧ k.keyId = keyId ∧ k.publicKeyHex = publicKeyHex ∧
      k.publicKey = publicKey ∧ (k.notBefore, k.notAfter) = window := by
  obtain ⟨hfields, hid, hlower, hhex, hlen, rfl, hdigest⟩ := trustKeyIdentity_ok.mp hidentity
  obtain ⟨hbefore, hle, hpos, hafter, hbound⟩ := trustKeyWindow_ok.mp hwindow
  let k : TrustKey := ⟨keyId, publicKeyHex, window.1, window.2⟩
  refine ⟨k, ?_, ⟨hlower, hlen, hdigest, ⟨hpos, hle⟩, hbound⟩, rfl, rfl, rfl, rfl⟩
  refine eq_object_of_fields hv hfields k.members_nodup rfl fun m hm => ?_
  simp only [TrustKey.members, List.mem_cons, List.not_mem_nil, or_false] at hm
  rcases hm with rfl | rfl | rfl | rfl
  · exact hid
  · exact hafter
  · exact hbefore
  · exact hhex

theorem TrustKey.WellFormed.read {k : TrustKey} (h : k.WellFormed E) :
    trustKeyIdentity E k.toValue = .ok (k.keyId, k.publicKeyHex, k.publicKey) ∧
      trustKeyWindow k.toValue = .ok (k.notBefore, k.notAfter) := by
  have hget := carries_object k.members_nodup
  simp only [Carries, TrustKey.members, List.forall_mem_cons, List.not_mem_nil, false_imp_iff, implies_true,
    and_true] at hget
  obtain ⟨hid, hafter, hbefore, hkey⟩ := hget
  have hfields : hasExactFields k.toValue trustKeyFields = true :=
    hasExactFields_object k.members_nodup rfl (by simp [trustKeyFields, TrustKey.members])
  constructor
  · exact trustKeyIdentity_ok.mpr ⟨hfields, hid, h.keyId, hkey, h.publicKey, rfl, h.digest⟩
  · exact trustKeyWindow_ok.mpr ⟨hbefore, h.notBefore.2, h.notBefore.1, hafter, h.notAfter⟩

def TrustKey.verifier (k : TrustKey) : String × List UInt8 := (k.keyId, k.publicKey)

instance (deploymentEpoch : Nat) (k : TrustKey) : Decidable (k.Covers deploymentEpoch) :=
  decidable_of_iff _ (TrustKey.inWindow_iff (k := k))

/-- 鍵の並びを読めるのは、どれも整った鍵を書いたもので、名も公開鍵も重ならないときに限る。 -/
theorem trustKeysFrom_ok {keyIds publicKeys : List String} {valid : List (String × List UInt8)}
    (hvs : ∀ v ∈ vs, v.Sorted) : trustKeysFrom E deploymentEpoch keyIds publicKeys vs = .ok valid ↔
      ∃ keys : List TrustKey, vs = keys.map TrustKey.toValue ∧
        (∀ k ∈ keys, k.WellFormed E ∧ k.keyId ∉ keyIds ∧ k.publicKeyHex ∉ publicKeys) ∧
        (keys.map TrustKey.keyId).Nodup ∧ (keys.map TrustKey.publicKeyHex).Nodup ∧
        valid = (keys.filter (·.Covers deploymentEpoch)).map TrustKey.verifier := by
  induction vs generalizing keyIds publicKeys valid with
  | nil =>
    constructor
    · intro h
      cases h
      exact ⟨[], rfl, by simp, List.nodup_nil, List.nodup_nil, rfl⟩
    · rintro ⟨keys, hkeys, -, -, -, rfl⟩
      rw [List.map_eq_nil_iff.mp hkeys.symm]
      rfl
  | cons v vs ih =>
    have hrest := fun w hw => hvs w (List.mem_cons_of_mem v hw)
    simp only [trustKeysFrom, except_bind_ok, refuse_ok, not_or, Prod.exists, ih hrest]
    constructor
    · rintro ⟨keyId, publicKeyHex, publicKey, hidentity, _, ⟨hnewId, hnewKey⟩, start, stop, hwindow, valid', ⟨keys, rfl, hkeys,
        hids, hhexes, rfl⟩, h⟩
      obtain ⟨k, rfl, hk, rfl, rfl, rfl, hspan⟩ := trustKey_of_read (hvs v List.mem_cons_self) hidentity hwindow
      have hids' : k.keyId ∉ keys.map TrustKey.keyId := by
        intro hmem
        obtain ⟨l, hl, heq⟩ := List.mem_map.mp hmem
        exact (hkeys l hl).2.1 (heq ▸ List.mem_cons_self)
      have hhexes' : k.publicKeyHex ∉ keys.map TrustKey.publicKeyHex := by
        intro hmem
        obtain ⟨l, hl, heq⟩ := List.mem_map.mp hmem
        exact (hkeys l hl).2.2 (heq ▸ List.mem_cons_self)
      refine ⟨k :: keys, rfl, ?_, List.nodup_cons.mpr ⟨hids', hids⟩, List.nodup_cons.mpr ⟨hhexes', hhexes⟩, ?_⟩
      · refine List.forall_mem_cons.mpr ⟨⟨hk, hnewId, hnewKey⟩, fun l hl => ?_⟩
        obtain ⟨hl', hid, hhex⟩ := hkeys l hl
        exact ⟨hl', fun hmem => hid (List.mem_cons_of_mem _ hmem), fun hmem => hhex (List.mem_cons_of_mem _ hmem)⟩
      · cases h
        rw [← hspan]
        by_cases hcovers : k.Covers deploymentEpoch
        · rw [if_pos (TrustKey.inWindow_iff.mpr hcovers), List.filter_cons_of_pos (by simpa using hcovers),
            List.map_cons, TrustKey.verifier]
        · rw [if_neg (mt TrustKey.inWindow_iff.mp hcovers), List.filter_cons_of_neg (by simpa using hcovers)]
    · rintro ⟨keys, hkeys, hall, hids, hhexes, rfl⟩
      cases keys with
      | nil => cases hkeys
      | cons k keys =>
        rw [List.map_cons, List.cons.injEq] at hkeys
        obtain ⟨rfl, rfl⟩ := hkeys
        rw [List.map_cons, List.nodup_cons] at hids hhexes
        obtain ⟨⟨hk, hnewId, hnewKey⟩, hothers⟩ := List.forall_mem_cons.mp hall
        obtain ⟨hidentity, hwindow⟩ := hk.read
        refine ⟨_, _, _, hidentity, (), ⟨hnewId, hnewKey⟩, _, _, hwindow, _, ⟨keys, rfl, fun l hl => ?_, hids.2, hhexes.2,
          rfl⟩, ?_⟩
        · obtain ⟨hl', hid, hhex⟩ := hothers l hl
          have hid' : l.keyId ≠ k.keyId := fun heq => hids.1 (heq ▸ List.mem_map_of_mem hl)
          have hhex' : l.publicKeyHex ≠ k.publicKeyHex := fun heq => hhexes.1 (heq ▸ List.mem_map_of_mem hl)
          exact ⟨hl', List.not_mem_cons_of_ne_of_not_mem hid' hid, List.not_mem_cons_of_ne_of_not_mem hhex' hhex⟩
        · by_cases hcovers : k.Covers deploymentEpoch
          · rw [if_pos (TrustKey.inWindow_iff.mpr hcovers), List.filter_cons_of_pos (by simpa using hcovers),
              List.map_cons, TrustKey.verifier]
            rfl
          · rw [if_neg (mt TrustKey.inWindow_iff.mp hcovers), List.filter_cons_of_neg (by simpa using hcovers)]
            rfl

def bundleMembers (keys : List TrustKey) : List (String × Value) := [
  ("keys", .arr (keys.map TrustKey.toValue)), ("schema_version", .int 1)]

def bundleText (keys : List TrustKey) : String := (Value.object (bundleMembers keys)).render

/-- 鍵の束が正しい。どの鍵も正しく、互いに異なる。 -/
structure ValidBundle (E : SignatureEnv) (keys : List TrustKey) : Prop where
  nonempty : keys ≠ []
  length : keys.length ≤ maxIsolationTrustKeys
  wellFormed : ∀ k ∈ keys, k.WellFormed E
  keyIds : (keys.map TrustKey.keyId).Nodup
  publicKeys : (keys.map TrustKey.publicKeyHex).Nodup

theorem bundleMembers_nodup (keys : List TrustKey) : ((bundleMembers keys).map Prod.fst).Nodup := by
  simp [bundleMembers]

theorem bundle_wf {keys : List TrustKey} (h : ∀ k ∈ keys, k.InRange) : (Value.object (bundleMembers keys)).Wf 3 := by
  have hkeys : (Value.arr (keys.map TrustKey.toValue)).Wf 2 := arr_wf.mpr fun v hv => by
    obtain ⟨k, hk, rfl⟩ := List.mem_map.mp hv
    exact (h k hk).wf
  have hone : (Value.int 1).Wf 2 := u64_wf (n := 1) (by decide)
  exact Value.Wf.object (by simp [bundleMembers, hkeys, hone])

theorem bundleText_inj {keys keys' : List TrustKey} (h : ∀ k ∈ keys, k.InRange) (h' : ∀ k ∈ keys', k.InRange)
    (heq : bundleText keys = bundleText keys') : keys = keys' := by
  have hobject := render_inj (bundle_wf h).sorted ((bundle_wf h').mono (by decide)) heq
  have hmembers := object_inj (by simp [bundleMembers]) (bundleMembers_nodup keys) hobject
  simp only [bundleMembers, List.cons.injEq, Prod.mk.injEq, true_and, Value.arr.injEq, and_true] at hmembers
  exact List.map_injective_iff.mpr (fun _ _ => TrustKey.toValue_inj) hmembers

/-- 束を読めるのは、整った鍵の束を書いたものであるときに限り、残るのは世代の鍵である。 -/
theorem isolationTrustKeysForEpoch_ok {contents : String} {valid : List (String × List UInt8)} :
    isolationTrustKeysForEpoch E contents deploymentEpoch = .ok valid ↔
      ∃ keys, contents = bundleText keys ∧ ValidBundle E keys ∧
        valid = (keys.filter (·.Covers deploymentEpoch)).map TrustKey.verifier ∧ valid ≠ [] := by
  simp only [isolationTrustKeysForEpoch, except_bind_ok, orPreflight_ok, refuse_ok, Option.filter_eq_some_iff,
    Bool.not_eq_false, ne_eq, not_not, get_asU64]
  constructor
  · rintro ⟨bundle, hparse, _, hrender, _, hfields, _, ⟨hversion, -⟩, vs, ⟨hkeys, hcount⟩, valid', hvalid, _, hsome, h⟩
    cases h
    have hsorted := parse_sorted hparse
    obtain ⟨value, hvalue, harr⟩ := Option.bind_eq_some_iff.mp hkeys
    have hvalue' : value = .arr vs := by
      cases value with
      | arr ws => exact congrArg Value.arr (Option.some.inj harr)
      | _ => cases harr
    subst hvalue'
    have helements := arr_sorted.mp (hsorted.get hvalue)
    obtain ⟨keys, rfl, hwell, hids, hhexes, rfl⟩ := (trustKeysFrom_ok helements).mp hvalid
    simp only [List.isEmpty_map, List.length_map, Bool.and_eq_true, Bool.not_eq_true', List.isEmpty_eq_false_iff,
      decide_eq_true_eq] at hcount
    have hobject : bundle = .object (bundleMembers keys) := by
      refine eq_object_of_fields hsorted hfields (bundleMembers_nodup keys) rfl fun m hm => ?_
      simp only [bundleMembers, List.mem_cons, List.not_mem_nil, or_false] at hm
      rcases hm with rfl | rfl
      · exact hvalue
      · exact hversion
    exact ⟨keys, hrender.symm.trans (congrArg Value.render hobject), ⟨hcount.1, hcount.2, fun k hk => (hwell k hk).1, hids, hhexes⟩, rfl, hsome⟩
  · rintro ⟨keys, rfl, hbundle, rfl, hsome⟩
    have hrange := fun k hk => (hbundle.wellFormed k hk).inRange
    have hget := carries_object (bundleMembers_nodup keys)
    simp only [Carries, bundleMembers, List.forall_mem_cons, List.not_mem_nil, false_imp_iff, implies_true,
      and_true] at hget
    have hkeys : ((Value.object (bundleMembers keys)).get "keys").bind Value.asArr = some (keys.map TrustKey.toValue) :=
      Option.bind_eq_some_iff.mpr ⟨_, hget.1, rfl⟩
    have hfields : hasExactFields (.object (bundleMembers keys)) ["keys", "schema_version"] = true :=
      hasExactFields_object (bundleMembers_nodup keys) rfl (by simp [bundleMembers])
    have helements : ∀ v ∈ keys.map TrustKey.toValue, v.Wf 1 := fun v hv => by
      obtain ⟨k, hk, rfl⟩ := List.mem_map.mp hv
      exact (hrange k hk).wf
    refine ⟨_, ((bundle_wf hrange).mono (by decide)).parse_render, (), rfl, (), hfields, (), ⟨hget.2, by decide⟩, _,
      ⟨hkeys, ?_⟩, _, (trustKeysFrom_ok fun v hv => (helements v hv).sorted).mpr ⟨keys, rfl, ?_, hbundle.keyIds, hbundle.publicKeys, rfl⟩, (),
      hsome, rfl⟩
    · simp [hbundle.nonempty, hbundle.length]
    · exact fun k hk => ⟨hbundle.wellFormed k hk, List.not_mem_nil, List.not_mem_nil⟩

structure IsolationAttestation where
  attestationId : String
  isolationRevision : String
  deploymentEpoch : Nat
  expiresAt : Nat
  issuedAt : Nat
  profileBindingDigest : String
  signatureHex : String

namespace IsolationAttestation

def payloadMembers (a : IsolationAttestation) : List (String × Value) := [
  ("attestation_id", .str a.attestationId),
  ("credential_isolation_revision", .str a.isolationRevision),
  ("deployment_epoch", .int a.deploymentEpoch),
  ("expires_at_unix_seconds", .int a.expiresAt),
  ("issued_at_unix_seconds", .int a.issuedAt),
  ("negative_test_revision", .str negativeTestRevision),
  ("profile_binding_digest", .str a.profileBindingDigest),
  ("schema_version", .int isolationAttestationSchemaVersion)]

def payloadText (a : IsolationAttestation) : String := (Value.object a.payloadMembers).render

def members (a : IsolationAttestation) : List (String × Value) := [
  ("payload", .object a.payloadMembers), ("signature", .str a.signatureHex), ("signature_algorithm", .str "ed25519")]

def text (a : IsolationAttestation) : String := (Value.object a.members).render

def signature (a : IsolationAttestation) : List UInt8 := nibblePairs (utf8Bytes a.signatureHex)

structure Valid (a : IsolationAttestation) : Prop where
  attestationId : isLowercaseHex a.attestationId 64 = true
  isolationRevision : a.isolationRevision ≠ "" ∧ a.isolationRevision = trim a.isolationRevision
  deploymentEpoch : 0 < a.deploymentEpoch ∧ a.deploymentEpoch ≤ maxI64
  expiresAt : a.expiresAt ≤ Json.u64Max
  issuedAt : a.issuedAt ≤ Json.u64Max
  signature : isLowercaseHex a.signatureHex 128 = true

/-- 発行から五分以内で、未来へのずれは三十秒まで、期限の前で、有効な期間は十分までである。 -/
structure Fresh (a : IsolationAttestation) (now : Nat) : Prop where
  notFuture : a.issuedAt ≤ now + isolationAttestationFutureSkewSeconds
  recent : now ≤ a.issuedAt + isolationAttestationMaxIssuedAgeSeconds
  unexpired : now < a.expiresAt
  ordered : a.issuedAt < a.expiresAt
  bounded : a.expiresAt ≤ a.issuedAt + isolationAttestationMaxValiditySeconds

variable {a : IsolationAttestation}

theorem payloadMembers_nodup (a : IsolationAttestation) : (a.payloadMembers.map Prod.fst).Nodup := by
  simp [payloadMembers]

theorem members_nodup (a : IsolationAttestation) : (a.members.map Prod.fst).Nodup := by simp [members]

theorem Valid.wf (h : a.Valid) : (Value.object a.members).Wf 2 := by
  have hmax : maxI64 ≤ Json.u64Max := by decide
  have hversion : (Value.int isolationAttestationSchemaVersion).Wf 0 := u64_wf (by decide)
  have hpayload : (Value.object a.payloadMembers).Wf 1 := Value.Wf.object (by
    simp [payloadMembers, u64_wf (h.deploymentEpoch.2.trans hmax), u64_wf h.expiresAt, u64_wf h.issuedAt, hversion])
  exact Value.Wf.object (by simp [members, hpayload])

/-- 証明の文面は、配備の世代を定める。 -/
theorem Valid.epoch_of_text {b : IsolationAttestation} (h : a.Valid) (heq : b.text = a.text) :
    b.deploymentEpoch = a.deploymentEpoch := by
  have hpayload : ∀ c : IsolationAttestation, (Value.object c.payloadMembers).Sorted := fun c =>
    sorted_object (membersSorted_iff.mpr (by simp [payloadMembers, Value.Sorted]))
  have hsorted : (Value.object b.members).Sorted :=
    sorted_object (membersSorted_iff.mpr (by simp [members, Value.Sorted, hpayload b]))
  have hobject := render_inj hsorted (h.wf.mono (by decide)) heq
  have hmembers := object_inj (by simp [members]) b.members_nodup hobject
  simp only [members, List.cons.injEq, Prod.mk.injEq, true_and] at hmembers
  have hfields := object_inj (by simp [payloadMembers]) b.payloadMembers_nodup hmembers.1
  simp only [payloadMembers, List.cons.injEq, Prod.mk.injEq, true_and, Value.int.injEq,
    Int.natCast_inj] at hfields
  exact hfields.2.2.1

theorem fresh_iff (hissued : a.issuedAt ≤ Json.u64Max) : a.Fresh now ↔
    ¬(a.issuedAt > min (now + isolationAttestationFutureSkewSeconds) Json.u64Max
      ∨ now - a.issuedAt > isolationAttestationMaxIssuedAgeSeconds
      ∨ a.expiresAt ≤ now
      ∨ a.expiresAt ≤ a.issuedAt
      ∨ a.expiresAt - a.issuedAt > isolationAttestationMaxValiditySeconds) := by
  constructor
  · rintro ⟨hfuture, hrecent, hunexpired, hordered, hbounded⟩
    omega
  · intro h
    constructor <;> omega

end IsolationAttestation

/-! ## 受け付け -/

/-- 証明と鍵の束が、時刻 `now` に `key` によって受け付けられる。 -/
structure Accepted (E : SignatureEnv) (profile : RequestedCapabilityProfile) (now : Nat) (a : IsolationAttestation)
    (keys : List TrustKey) (key : TrustKey) : Prop where
  attestation : a.Valid
  bundle : ValidBundle E keys
  mem : key ∈ keys
  covers : key.Covers a.deploymentEpoch
  verified : E.verify key.publicKey (utf8Bytes a.payloadText) a.signature = true
  /-- 世代に使えて署名を確かめる鍵は、ほかに無い。 -/
  only : ∀ k ∈ keys, k.Covers a.deploymentEpoch →
    E.verify k.publicKey (utf8Bytes a.payloadText) a.signature = true → k = key
  fresh : a.Fresh now
  binding : isolationProfileBindingDigest E profile = .ok a.profileBindingDigest

def IsolationAttestation.authority (E : SignatureEnv) (profile : RequestedCapabilityProfile) (a : IsolationAttestation)
    (key : TrustKey) : ScheduledDeploymentAuthority where
  schemaVersion := 1
  deploymentEpoch := a.deploymentEpoch
  attestationId := a.attestationId
  attestationDigest := E.sha256Hex (utf8Bytes a.text)
  trustKeyId := key.keyId
  profileDigest := a.profileBindingDigest
  githubMcpAccessAuthMode := profile.githubMcpAccessAuthMode
  githubMcpAccessTokenRevision := profile.githubMcpAccessTokenRevision
  isolationRevision := a.isolationRevision
  issuedAtUnixSeconds := a.issuedAt
  expiresAtUnixSeconds := a.expiresAt

theorem onlyKey_ok {keyIds : List String} {keyId : String} : onlyKey keyIds = .ok keyId ↔ keyIds = [keyId] := by
  cases keyIds with
  | nil => simp [onlyKey]
  | cons a rest => cases rest <;> simp [onlyKey]

theorem filter_eq_singleton {α : Type} {xs : List α} (hnodup : xs.Nodup) {p : α → Bool} {x : α} :
    xs.filter p = [x] ↔ x ∈ xs ∧ p x = true ∧ ∀ y ∈ xs, p y = true → y = x := by
  constructor
  · intro h
    have hx : x ∈ xs.filter p := h ▸ List.mem_cons_self
    refine ⟨(List.mem_filter.mp hx).1, (List.mem_filter.mp hx).2, fun y hy hp => ?_⟩
    have hmem : y ∈ xs.filter p := List.mem_filter.mpr ⟨hy, hp⟩
    rw [h] at hmem
    exact List.mem_singleton.mp hmem
  · rintro ⟨hx, hp, honly⟩
    refine List.perm_singleton.mp ((List.perm_ext_iff_of_nodup (hnodup.filter p) (List.nodup_singleton x)).mpr ?_)
    intro y
    rw [List.mem_filter, List.mem_singleton]
    exact ⟨fun h => honly y h.1 h.2, fun h => h ▸ ⟨hx, hp⟩⟩

/-- 署名の合う鍵がちょうど一つあることを、束の鍵で言い直す。 -/
theorem verified_key_iff {keys : List TrustKey} (hbundle : ValidBundle E keys) {message signature : List UInt8}
    {keyId : String} :
    ((((keys.filter (·.Covers deploymentEpoch)).map TrustKey.verifier).filter fun key =>
      E.verify key.2 message signature).map Prod.fst = [keyId]) ↔
      ∃ key ∈ keys, key.keyId = keyId ∧ key.Covers deploymentEpoch ∧ E.verify key.publicKey message signature = true ∧
        ∀ k ∈ keys, k.Covers deploymentEpoch → E.verify k.publicKey message signature = true → k = key := by
  let p : TrustKey → Bool := fun k => E.verify k.publicKey message signature && decide (k.Covers deploymentEpoch)
  have hlist : (((keys.filter (·.Covers deploymentEpoch)).map TrustKey.verifier).filter fun key =>
      E.verify key.2 message signature).map Prod.fst = (keys.filter p).map TrustKey.keyId := by
    rw [List.filter_map, List.map_map, List.filter_filter]
    rfl
  have hnodup : keys.Nodup := hbundle.keyIds.of_map _
  rw [hlist]
  constructor
  · intro h
    obtain ⟨key, hkey, rfl⟩ := List.map_eq_singleton_iff.mp h
    obtain ⟨hmem, hp, honly⟩ := (filter_eq_singleton hnodup).mp hkey
    simp only [p, Bool.and_eq_true, decide_eq_true_eq] at hp honly
    exact ⟨key, hmem, rfl, hp.2, hp.1, fun k hk hcovers hverify => honly k hk ⟨hverify, hcovers⟩⟩
  · rintro ⟨key, hmem, rfl, hcovers, hverify, honly⟩
    refine List.map_eq_singleton_iff.mpr ⟨key, (filter_eq_singleton hnodup).mpr ⟨hmem, ?_, fun k hk hp => ?_⟩, rfl⟩
    · simp [p, hcovers, hverify]
    · simp only [p, Bool.and_eq_true, decide_eq_true_eq] at hp
      exact honly k hk hp.2 hp.1

/-- 文書と束が受け取られるのは、正しく署名された文書と整った束をそのまま書いたものであるときに限る。 -/
theorem load_ok {profile : RequestedCapabilityProfile} {contents trustBundle : String}
    {authority : ScheduledDeploymentAuthority} :
    loadSignedIsolationAuthorityContents E profile contents trustBundle now = .ok authority ↔
      ∃ a keys key, contents = a.text ∧ trustBundle = bundleText keys ∧ Accepted E profile now a keys key ∧
        authority = a.authority E profile key := by
  simp only [loadSignedIsolationAuthorityContents, except_bind_ok, orPreflight_ok, refuse_ok, decodeLowercaseHex_ok,
    onlyKey_ok, Option.filter_eq_some_iff, Bool.not_eq_false, ne_eq, not_not, get_asStr, get_asU64, get_positiveEpoch,
    isolationTrustKeysForEpoch_ok]
  constructor
  · rintro ⟨document, hparse, _, hrender, _, hfields, _, halgorithm, payload, ⟨hpayload, hpayloadFields⟩, signatureHex,
      hsignature, _, ⟨hhex, rfl⟩, _, ⟨hversion, -⟩, epoch, ⟨hepoch, hepochMax, hepochPos⟩, _, ⟨keys, rfl, hbundle, rfl, -⟩,
      keyId, hkeys, attestationId, hid, _, ⟨hidHex, -⟩, issuedAt, ⟨hissued, hissuedMax⟩, expiresAt, ⟨hexpires, hexpiresMax⟩,
      _, hfresh, digest, hdigest, _, hbinding, _, rfl, revision, ⟨hrevision, htrimmed⟩, _, hnegative, h⟩
    cases h
    simp only [Bool.and_eq_true, bne_iff_ne, ne_eq, beq_iff_eq] at htrimmed
    let a : IsolationAttestation := ⟨attestationId, revision, epoch, expiresAt, issuedAt, digest, signatureHex⟩
    have hsorted := parse_sorted hparse
    obtain rfl : payload = .object a.payloadMembers := by
      refine eq_object_of_fields (hsorted.get hpayload) hpayloadFields a.payloadMembers_nodup rfl fun m hm => ?_
      simp only [IsolationAttestation.payloadMembers, List.mem_cons, List.not_mem_nil, or_false] at hm
      rcases hm with rfl | rfl | rfl | rfl | rfl | rfl | rfl | rfl
      · exact hid
      · exact hrevision
      · exact hepoch
      · exact hexpires
      · exact hissued
      · exact hnegative
      · exact hdigest
      · exact hversion
    have hdocument : document = .object a.members := by
      refine eq_object_of_fields hsorted hfields a.members_nodup rfl fun m hm => ?_
      simp only [IsolationAttestation.members, List.mem_cons, List.not_mem_nil, or_false] at hm
      rcases hm with rfl | rfl | rfl
      · exact hpayload
      · exact hsignature
      · exact halgorithm
    have htext : contents = a.text := hrender.symm.trans (congrArg Value.render hdocument)
    have hvalid : a.Valid := ⟨hidHex, htrimmed, ⟨hepochPos, hepochMax⟩, hexpiresMax, hissuedMax, hhex⟩
    obtain ⟨key, hmem, rfl, hcovers, hverify, honly⟩ := (verified_key_iff hbundle).mp hkeys
    refine ⟨a, keys, key, htext, rfl, ?_, htext ▸ rfl⟩
    exact ⟨hvalid, hbundle, hmem, hcovers, hverify, honly, (IsolationAttestation.fresh_iff hissuedMax).mpr hfresh, hbinding⟩
  · rintro ⟨a, keys, key, rfl, rfl, h, rfl⟩
    have hvalid := h.attestation
    have hfields : hasExactFields (.object a.members) ["payload", "signature", "signature_algorithm"] = true :=
      hasExactFields_object a.members_nodup rfl (by simp [IsolationAttestation.members])
    have hpayloadFields : hasExactFields (.object a.payloadMembers) attestationPayloadFields = true :=
      hasExactFields_object a.payloadMembers_nodup rfl
        (by simp [attestationPayloadFields, IsolationAttestation.payloadMembers])
    have hget := carries_object a.members_nodup
    simp only [Carries, IsolationAttestation.members, List.forall_mem_cons, List.not_mem_nil, false_imp_iff,
      implies_true, and_true] at hget
    obtain ⟨hpayload, hsignature, halgorithm⟩ := hget
    have hinner := carries_object a.payloadMembers_nodup
    simp only [Carries, IsolationAttestation.payloadMembers, List.forall_mem_cons, List.not_mem_nil, false_imp_iff,
      implies_true, and_true] at hinner
    obtain ⟨hid, hrevision, hepoch, hexpires, hissued, hnegative, hdigest, hversion⟩ := hinner
    have hkeys := (verified_key_iff h.bundle).mpr ⟨key, h.mem, rfl, h.covers, h.verified, h.only⟩
    have hsome : (keys.filter (·.Covers a.deploymentEpoch)).map TrustKey.verifier ≠ [] :=
      List.ne_nil_of_mem (List.mem_map_of_mem (List.mem_filter.mpr ⟨h.mem, decide_eq_true h.covers⟩))
    exact ⟨_, (hvalid.wf.mono (by decide)).parse_render, (), rfl, (), hfields, (), halgorithm, _,
      ⟨hpayload, hpayloadFields⟩, _, hsignature, _, ⟨hvalid.signature, rfl⟩, (), ⟨hversion, by decide⟩, _,
      ⟨hepoch, hvalid.deploymentEpoch.2, hvalid.deploymentEpoch.1⟩, _, ⟨keys, rfl, h.bundle, rfl, hsome⟩, _, hkeys, _, hid,
      _, ⟨hvalid.attestationId, rfl⟩, _, ⟨hissued, hvalid.issuedAt⟩, _, ⟨hexpires, hvalid.expiresAt⟩, (),
      (IsolationAttestation.fresh_iff hvalid.issuedAt).mp h.fresh, _, hdigest, _, h.binding, (), rfl, _,
      ⟨hrevision, by simp [hvalid.isolationRevision.1, ← hvalid.isolationRevision.2]⟩, (), hnegative, rfl⟩

def SameFor (deploymentEpoch : Nat) (keys keys' : List TrustKey) : Prop :=
  ∀ k : TrustKey, k.Covers deploymentEpoch → (k ∈ keys ↔ k ∈ keys')

variable {profile : RequestedCapabilityProfile} {a : IsolationAttestation} {keys keys' : List TrustKey} {key : TrustKey}
  {contents trustBundle : String}

/-- 世代の鍵が同じなら、束を替えても同じ鍵で受け取られる。 -/
theorem Accepted.transfer (h : Accepted E profile now a keys key) (hbundle : ValidBundle E keys')
    (hsame : SameFor a.deploymentEpoch keys keys') : Accepted E profile now a keys' key where
  attestation := h.attestation
  bundle := hbundle
  mem := (hsame key h.covers).mp h.mem
  covers := h.covers
  verified := h.verified
  only k hk hcovers hverify := h.only k ((hsame k hcovers).mpr hk) hcovers hverify
  fresh := h.fresh
  binding := h.binding

theorem ValidBundle.perm (h : ValidBundle E keys) (hperm : keys.Perm keys') : ValidBundle E keys' where
  nonempty hnil := h.nonempty (List.perm_nil.mp (hnil ▸ hperm))
  length := hperm.length_eq ▸ h.length
  wellFormed k hk := h.wellFormed k (hperm.mem_iff.mpr hk)
  keyIds := (hperm.map _).nodup_iff.mp h.keyIds
  publicKeys := (hperm.map _).nodup_iff.mp h.publicKeys

def isolationAnswer (E : SignatureEnv) (profile : RequestedCapabilityProfile) (contents trustBundle : String)
    (now : Nat) : Option ScheduledDeploymentAuthority :=
  (loadSignedIsolationAuthorityContents E profile contents trustBundle now).toOption

theorem isolationAnswer_eq_some {authority : ScheduledDeploymentAuthority} :
    isolationAnswer E profile contents trustBundle now = some authority ↔
      loadSignedIsolationAuthorityContents E profile contents trustBundle now = .ok authority := by
  rw [isolationAnswer]
  cases loadSignedIsolationAuthorityContents E profile contents trustBundle now <;> simp [Except.toOption]

theorem answer_sameFor (hbundle : ValidBundle E keys) (hbundle' : ValidBundle E keys')
    (hsame : ∀ a : IsolationAttestation, contents = a.text → SameFor a.deploymentEpoch keys keys') :
    isolationAnswer E profile contents (bundleText keys) now = isolationAnswer E profile contents (bundleText keys') now := by
  have hcarry : ∀ {keys keys' : List TrustKey} {authority : ScheduledDeploymentAuthority}, ValidBundle E keys →
      ValidBundle E keys' → (∀ a : IsolationAttestation, contents = a.text → SameFor a.deploymentEpoch keys keys') →
      isolationAnswer E profile contents (bundleText keys) now = some authority →
      isolationAnswer E profile contents (bundleText keys') now = some authority := by
    intro keys keys' authority hbundle hbundle' hsame h
    obtain ⟨a, keys₀, key, htext, hkeys, haccepted, rfl⟩ := load_ok.mp (isolationAnswer_eq_some.mp h)
    obtain rfl := bundleText_inj (fun k hk => (hbundle.wellFormed k hk).inRange)
      (fun k hk => (haccepted.bundle.wellFormed k hk).inRange) hkeys
    exact isolationAnswer_eq_some.mpr
      (load_ok.mpr ⟨a, keys', key, htext, rfl, haccepted.transfer hbundle' (hsame a htext), rfl⟩)
  refine Option.ext fun authority => ⟨hcarry hbundle hbundle' hsame, hcarry hbundle' hbundle fun a htext k hk => ?_⟩
  exact (hsame a htext k hk).symm

theorem answer_perm (hperm : keys.Perm keys') (hrange : ∀ k ∈ keys, k.InRange) :
    isolationAnswer E profile contents (bundleText keys) now = isolationAnswer E profile contents (bundleText keys') now := by
  have hcarry : ∀ {keys keys' : List TrustKey} {authority : ScheduledDeploymentAuthority}, keys.Perm keys' →
      (∀ k ∈ keys, k.InRange) → isolationAnswer E profile contents (bundleText keys) now = some authority →
      isolationAnswer E profile contents (bundleText keys') now = some authority := by
    intro keys keys' authority hperm hrange h
    obtain ⟨a, keys₀, key, htext, hkeys, haccepted, rfl⟩ := load_ok.mp (isolationAnswer_eq_some.mp h)
    obtain rfl := bundleText_inj hrange (fun k hk => (haccepted.bundle.wellFormed k hk).inRange) hkeys
    exact isolationAnswer_eq_some.mpr (load_ok.mpr ⟨a, keys', key, htext, rfl,
      haccepted.transfer (haccepted.bundle.perm hperm) fun k _ => hperm.mem_iff, rfl⟩)
  exact Option.ext fun authority =>
    ⟨hcarry hperm hrange, hcarry hperm.symm fun k hk => hrange k (hperm.mem_iff.mpr hk)⟩

theorem PathBuf.toStr_inj {p q : PathBuf} {text : String} (hp : p.toStr = some text) (hq : q.toStr = some text) :
    p = q := by
  have hbytes : ∀ {p : PathBuf}, p.toStr = some text → text.toByteArray = ⟨p.bytes.toArray⟩ := by
    intro p h
    unfold PathBuf.toStr String.fromUTF8? at h
    split at h
    · cases h
      rfl
    · cases h
  have hsame := (hbytes hp).symm.trans (hbytes hq)
  cases p
  cases q
  simpa using hsame

theorem bindingMembers_nodup (p : RequestedCapabilityProfile) (codexHome codexProgram cwd : String) :
    ((p.bindingMembers codexHome codexProgram cwd).map Prod.fst).Nodup := by
  simp [RequestedCapabilityProfile.bindingMembers]

theorem binding_wf (p : RequestedCapabilityProfile) (codexHome codexProgram cwd : String) :
    (Value.object (p.bindingMembers codexHome codexProgram cwd)).Wf 2 := by
  have henvironment : (Value.object [("LANG", .str childLocale), ("LC_ALL", .str childLocale),
      ("PATH", .str childPath)]).Wf 1 := Value.Wf.object (by simp)
  have hbool : ∀ b, (Value.bool b).Wf 0 := fun b => ⟨trivial, rfl⟩
  have hsurface : (Value.object [("approval_policy", .str "never"), ("dynamic_tools", .bool false),
      ("network_access", .bool false), ("sandbox", .str "read-only"), ("web_search", .str "disabled")]).Wf 1 :=
    Value.Wf.object (by simp [hbool])
  have htools : (Value.arr (expectedGithubTools.map .str)).Wf 1 := arr_wf.mpr fun v hv => by
    obtain ⟨text, -, rfl⟩ := List.mem_map.mp hv
    exact wf_str
  exact Value.Wf.object (by simp [RequestedCapabilityProfile.bindingMembers, henvironment, hsurface, htools])

/-- 結び付けの文面は、能力の輪郭を決める。 -/
theorem bindingText_inj {p q : RequestedCapabilityProfile} {text : String} (hp : p.bindingText = .ok text)
    (hq : q.bindingText = .ok text) : p = q := by
  simp only [RequestedCapabilityProfile.bindingText, except_bind_ok, orPreflight_ok] at hp hq
  obtain ⟨home, hhome, program, hprogram, cwd, hcwd, h⟩ := hp
  obtain ⟨home', hhome', program', hprogram', cwd', hcwd', h'⟩ := hq
  have htext := (Except.ok.inj h).trans (Except.ok.inj h').symm
  have hobject := render_inj (binding_wf p home program cwd).sorted
    ((binding_wf q home' program' cwd').mono (by decide)) htext
  have hmembers := object_inj (by simp [RequestedCapabilityProfile.bindingMembers])
    (bindingMembers_nodup p home program cwd) hobject
  simp only [RequestedCapabilityProfile.bindingMembers, List.cons.injEq, Prod.mk.injEq, true_and, Value.str.injEq,
    and_true] at hmembers
  obtain ⟨rfl, rfl, hsha, hrevision, hconfig, hreference, hcredential, rfl, hartifact, hmode, htoken, hendpoint, hurl,
    hgateway, hpolicy, hfingerprint, hrunner, hworkload⟩ := hmembers
  have hhomes := PathBuf.toStr_inj hhome hhome'
  have hprograms := PathBuf.toStr_inj hprogram hprogram'
  have hcwds := PathBuf.toStr_inj hcwd hcwd'
  cases p
  cases q
  simp_all

/-- `E` の要約値は、二つの能力の束縛の文面では衝突しない。 -/
def CollisionFree (E : SignatureEnv) (p q : RequestedCapabilityProfile) : Prop :=
  ∀ s t, p.bindingText = .ok s → q.bindingText = .ok t → E.sha256Hex (utf8Bytes s) = E.sha256Hex (utf8Bytes t) → s = t

theorem bindingDigest_inj {p q : RequestedCapabilityProfile} {digest : String} (hfree : CollisionFree E p q)
    (hp : isolationProfileBindingDigest E p = .ok digest) (hq : isolationProfileBindingDigest E q = .ok digest) :
    p = q := by
  obtain ⟨s, hs, h⟩ := except_bind_ok.mp hp
  obtain ⟨t, ht, h'⟩ := except_bind_ok.mp hq
  obtain rfl := hfree s t hs ht ((Except.ok.inj h).trans (Except.ok.inj h').symm)
  exact bindingText_inj hs ht

/-- 権限が得られるのは、証明と鍵の束が受け付けられるとき、そのときに限る。答えは鍵の順にも、世代に使えない鍵にもよらず、能力の束縛の
要約値は能力のすべての欄を決める。 -/
theorem isolation_authority_exact (E : SignatureEnv) :
    (∀ profile contents trustBundle now authority,
      loadSignedIsolationAuthorityContents E profile contents trustBundle now = .ok authority ↔
        ∃ a keys key, contents = a.text ∧ trustBundle = bundleText keys ∧ Accepted E profile now a keys key ∧
          authority = a.authority E profile key) ∧
    (∀ profile contents keys keys' now, keys.Perm keys' → (∀ k ∈ keys, k.InRange) →
      isolationAnswer E profile contents (bundleText keys) now =
        isolationAnswer E profile contents (bundleText keys') now) ∧
    (∀ profile contents keys keys' now, ValidBundle E keys → ValidBundle E keys' →
      (∀ a : IsolationAttestation, contents = a.text → SameFor a.deploymentEpoch keys keys') →
      isolationAnswer E profile contents (bundleText keys) now =
        isolationAnswer E profile contents (bundleText keys') now) ∧
    (∀ p q digest, CollisionFree E p q → isolationProfileBindingDigest E p = .ok digest →
      isolationProfileBindingDigest E q = .ok digest → p = q) :=
  ⟨fun _ _ _ _ _ => load_ok, fun _ _ _ _ _ hperm hrange => answer_perm hperm hrange,
    fun _ _ _ _ _ hbundle hbundle' hsame => answer_sameFor hbundle hbundle' hsame,
    fun _ _ _ hfree hp hq => bindingDigest_inj hfree hp hq⟩

def hexDigest (c : Char) : String := String.ofList (List.replicate 64 c)

def sampleProfile : RequestedCapabilityProfile where
  codexProgram := ⟨utf8Bytes "/usr/local/bin/codex"⟩
  codexProgramSha256 := hexDigest 'a'
  codexHome := ⟨utf8Bytes "/home/codex"⟩
  cwd := ⟨utf8Bytes "/workspace"⟩
  githubMcpUrl := "http://127.0.0.1:8080/mcp"
  githubMcpConfiguredArtifactSha256 := hexDigest 'b'
  githubMcpConfiguredEndpointIdentity := "github"
  githubMcpAccessAuthMode := "supervisor-dynamic-tools-v1"
  githubMcpAccessTokenRevision := "token-v1"
  credentialReference := "reference"
  permissionPolicyRevision := "policy-v1"
  configRevision := "config-v1"
  configSha256 := hexDigest 'c'
  gatewayImageDigest := "sha256:" ++ hexDigest 'd'
  runnerImageDigest := "sha256:" ++ hexDigest 'e'
  runnerWorkloadIdentity := "spiffe://codeoff/ns/default/sa/runner"
  runnerClientCertPublicKeyFingerprint := hexDigest 'f'
  credentialRevision := "credential-v1"

/-- 資格情報の版だけが違う能力。 -/
def rotatedProfile : RequestedCapabilityProfile := { sampleProfile with credentialRevision := "credential-v2" }

def profileDigest : String := "71064c2f9393ba00ea0e98316b0ed2e58ff2effca35149b0e3265162d57d74af"

def rotatedProfileDigest : String := "d8c60391ab17ec6dca6db6f88aee9d87e2804c4b96f8faa703e7dd618566e3e5"

def currentKey : TrustKey :=
  ⟨"e0e77a507412b120f6ede61f62295b1a7b2ff19d3dcc8f7253e51663470c888e", hexDigest 'a', 2, none⟩

/-- 世代二より前に退いた鍵。 -/
def retiredKey : TrustKey :=
  ⟨"4ca14526b2751b640d549ce7caf8ac39438592211a0ec370064d57666a682ad6", hexDigest 'b', 1, some 1⟩

def sampleAttestation : IsolationAttestation where
  attestationId := hexDigest '1'
  isolationRevision := "isolation-v1"
  deploymentEpoch := 2
  expiresAt := 400
  issuedAt := 90
  profileBindingDigest := profileDigest
  signatureHex := hexDigest '2' ++ hexDigest '3'

def boundText (profile : RequestedCapabilityProfile) : String :=
  (Value.object (profile.bindingMembers "/home/codex" "/usr/local/bin/codex" "/workspace")).render

/-- 二つの能力の束縛の SHA-256 は、求めた値を置いている。 -/
@[irreducible] def sampleSha256 (bytes : List UInt8) : String :=
  if bytes = utf8Bytes (boundText sampleProfile) then profileDigest
  else if bytes = utf8Bytes (boundText rotatedProfile) then rotatedProfileDigest
  else Sha256.sha256Hex bytes

/-- `currentKey` は、この証明にだけ署名した。 -/
def signedEnv : SignatureEnv where
  verify publicKey message signature := publicKey == currentKey.publicKey
    && message == utf8Bytes sampleAttestation.payloadText && signature == sampleAttestation.signature
  sha256Hex := sampleSha256

theorem bindingText_eq {p : RequestedCapabilityProfile} {home program cwd : String} (hhome : p.codexHome.toStr = some home)
    (hprogram : p.codexProgram.toStr = some program) (hcwd : p.cwd.toStr = some cwd) :
    p.bindingText = .ok (Value.object (p.bindingMembers home program cwd)).render := by
  simp only [RequestedCapabilityProfile.bindingText, except_bind_ok, orPreflight_ok]
  exact ⟨home, hhome, program, hprogram, cwd, hcwd, rfl⟩

theorem bindingText_sample : sampleProfile.bindingText = .ok (boundText sampleProfile) :=
  bindingText_eq (fromUTF8_toUTF8 _) (fromUTF8_toUTF8 _) (fromUTF8_toUTF8 _)

theorem bindingText_rotated : rotatedProfile.bindingText = .ok (boundText rotatedProfile) :=
  bindingText_eq (fromUTF8_toUTF8 _) (fromUTF8_toUTF8 _) (fromUTF8_toUTF8 _)

theorem boundText_ne : boundText rotatedProfile ≠ boundText sampleProfile := by
  intro hsame
  have hsample := bindingText_sample
  rw [← hsame] at hsample
  have hprofiles := bindingText_inj bindingText_rotated hsample
  exact absurd (congrArg RequestedCapabilityProfile.credentialRevision hprofiles) (by decide)

theorem bindingDigest_of_text {E : SignatureEnv} {p : RequestedCapabilityProfile} {text digest : String} (htext : p.bindingText = .ok text)
    (hdigest : E.sha256Hex (utf8Bytes text) = digest) : isolationProfileBindingDigest E p = .ok digest := by
  rw [isolationProfileBindingDigest, htext, ← hdigest]
  rfl

theorem profile_digests : isolationProfileBindingDigest signedEnv sampleProfile = .ok profileDigest ∧
    isolationProfileBindingDigest signedEnv rotatedProfile = .ok rotatedProfileDigest := by
  constructor
  · refine bindingDigest_of_text bindingText_sample ?_
    change sampleSha256 _ = _
    rw [sampleSha256, if_pos rfl]
  · refine bindingDigest_of_text bindingText_rotated ?_
    change sampleSha256 _ = _
    rw [sampleSha256, if_neg (mt utf8Bytes_inj.mp boundText_ne), if_pos rfl]

theorem boundText_head (profile : RequestedCapabilityProfile) : (utf8Bytes (boundText profile)).head? = some 123 := by
  obtain ⟨members, hobject, -⟩ := object_members
    (bindingMembers_nodup profile "/home/codex" "/usr/local/bin/codex" "/workspace")
  obtain ⟨rest, hrest⟩ : ∃ rest, (Value.obj members).chars = Char.ofNat 123 :: rest := by
    cases members with
    | nil => exact ⟨_, rfl⟩
    | cons m ms => exact ⟨_, rfl⟩
  have hbytes : utf8Bytes (boundText profile) = (Char.ofNat 123 :: rest).flatMap String.utf8EncodeChar := by
    rw [boundText, hobject, Value.render, hrest, utf8Bytes_ofList]
  rw [hbytes, List.flatMap_cons]
  rfl

/-- 束縛の文面でない列の要約値は、SHA-256 を計算する。 -/
theorem sampleSha256_of_head {bytes : List UInt8} (hhead : bytes.head? ≠ some 123) :
    sampleSha256 bytes = Sha256.sha256Hex bytes := by
  have hne : ∀ profile, bytes ≠ utf8Bytes (boundText profile) := by
    intro profile hsame
    rw [hsame] at hhead
    exact hhead (boundText_head profile)
  rw [sampleSha256, if_neg (hne sampleProfile), if_neg (hne rotatedProfile)]

theorem sampleKeys_checked : ∀ k ∈ [currentKey, retiredKey], isLowercaseSha256 k.keyId = true ∧
    isLowercaseHex k.publicKeyHex 64 = true ∧ k.keyId = Sha256.sha256Hex k.publicKey ∧ k.publicKey.head? ≠ some 123 := by
  decide +kernel

theorem currentKey_wellFormed : currentKey.WellFormed signedEnv := by
  obtain ⟨hid, hkey, hdigest, hhead⟩ := sampleKeys_checked currentKey (by simp)
  exact ⟨hid, hkey, hdigest.trans (sampleSha256_of_head hhead).symm, by decide, fun e he => nomatch he⟩

theorem retiredKey_wellFormed : retiredKey.WellFormed signedEnv := by
  obtain ⟨hid, hkey, hdigest, hhead⟩ := sampleKeys_checked retiredKey (by simp)
  refine ⟨hid, hkey, hdigest.trans (sampleSha256_of_head hhead).symm, by decide, fun e he => ?_⟩
  · obtain rfl : 1 = e := Option.some.inj he
    decide

theorem sampleBundle_valid : ValidBundle signedEnv [currentKey, retiredKey] :=
  ⟨by simp, by decide, by simp [currentKey_wellFormed, retiredKey_wellFormed], by decide, by decide⟩

theorem sampleAttestation_valid : sampleAttestation.Valid :=
  ⟨by decide +kernel, by decide +kernel, by decide, by decide, by decide, by decide +kernel⟩

theorem sampleAttestation_accepted :
    Accepted signedEnv sampleProfile 100 sampleAttestation [currentKey, retiredKey] currentKey where
  attestation := sampleAttestation_valid
  bundle := sampleBundle_valid
  mem := List.mem_cons_self
  covers := ⟨le_rfl, fun e he => nomatch he⟩
  verified := by simp [signedEnv]
  only := by
    intro k hk hcovers _
    simp only [List.mem_cons, List.not_mem_nil, or_false] at hk
    rcases hk with rfl | rfl
    · rfl
    · exact absurd (hcovers.2 1 rfl) (by decide)
  fresh := by constructor <;> decide
  binding := profile_digests.1

/-- 退いた鍵は、世代二に使えない。 -/
theorem retired_sameFor : SameFor 2 [currentKey, retiredKey] [currentKey] := by
  intro k hcovers
  have hne : k ≠ retiredKey := by
    rintro rfl
    exact absurd (hcovers.2 1 rfl) (by decide)
  simp [hne]

theorem rotated_collisionFree : CollisionFree signedEnv sampleProfile rotatedProfile := by
  intro s t hs ht heq
  obtain ⟨hdigest, hrotated⟩ := profile_digests
  simp only [isolationProfileBindingDigest, hs, ht] at hdigest hrotated
  have hsame : profileDigest = rotatedProfileDigest :=
    (Except.ok.inj hdigest).symm.trans (heq.trans (Except.ok.inj hrotated))
  exact absurd hsame (by decide)

/-- 署名した証明は権限になり、鍵の順を入れ替えても、退いた鍵を除いても、答えは変わらない。資格情報の版を替えた能力の
要約値は違う。 -/
theorem isolation_authority_exact_sample :
    (isolationAnswer signedEnv sampleProfile sampleAttestation.text (bundleText [currentKey, retiredKey]) 100 =
        some (sampleAttestation.authority signedEnv sampleProfile currentKey) ∧
      isolationAnswer signedEnv sampleProfile sampleAttestation.text (bundleText [currentKey, retiredKey]) 100 =
        isolationAnswer signedEnv sampleProfile sampleAttestation.text (bundleText [retiredKey, currentKey]) 100 ∧
      isolationAnswer signedEnv sampleProfile sampleAttestation.text (bundleText [currentKey, retiredKey]) 100 =
        isolationAnswer signedEnv sampleProfile sampleAttestation.text (bundleText [currentKey]) 100) ∧
    isolationProfileBindingDigest signedEnv rotatedProfile ≠ isolationProfileBindingDigest signedEnv sampleProfile := by
  obtain ⟨haccepts, hswaps, hretires, hbinds⟩ := isolation_authority_exact signedEnv
  have hbundle := sampleBundle_valid
  have hcurrent : ValidBundle signedEnv [currentKey] :=
    ⟨by simp, by decide, by simp [currentKey_wellFormed], by decide, by decide⟩
  refine ⟨⟨isolationAnswer_eq_some.mpr ((haccepts _ _ _ _ _).mpr ⟨_, _, _, rfl, rfl, sampleAttestation_accepted, rfl⟩),
    hswaps _ _ _ _ _ (List.Perm.swap _ _ _) fun k hk => (hbundle.wellFormed k hk).inRange,
    hretires _ _ _ _ _ hbundle hcurrent fun a htext => ?_⟩, fun hsame => ?_⟩
  · rw [sampleAttestation_valid.epoch_of_text htext.symm]
    exact retired_sameFor
  · have hprofiles := hbinds _ _ _ rotated_collisionFree profile_digests.1 (hsame.trans profile_digests.1)
    exact absurd (congrArg RequestedCapabilityProfile.credentialRevision hprofiles) (by decide)

end Codeoff.Codex
