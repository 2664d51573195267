import Codeoff.Json.Lemmas.Object
import Codeoff.Runtime.ScheduleResolution
import Codeoff.State.Lemmas.Deliveries
import Codeoff.State.Lemmas.Text

/-!
# 作成のときに受け入れた宛先

検証された宛先の検査が保証すること、住所の文面が読み戻せること、作った写しの中身。
-/

namespace Codeoff.Runtime.ScheduleResolution

open Codeoff.Core Codeoff.Json Codeoff.Relational Codeoff.State

variable {E : Env} {condition : Bool} {error : ScheduleServiceError} {u : Unit} {value : String}

theorem require_ok : require condition error = .ok u ↔ condition = true := by
  unfold require
  cases condition <;> simp

theorem bounded_ok {field : String} (h : bounded field value = .ok u) : value ≠ "" ∧ byteLen value ≤ 255 := by
  unfold bounded at h
  split at h
  · cases h
  · rename_i hbound
    simp only [not_or, not_lt] at hbound
    obtain ⟨htrim, hlen, _⟩ := hbound
    refine ⟨?_, hlen⟩
    rintro rfl
    exact htrim (by decide)

def IsChannelId (value : String) (directMessage : Bool) : Prop :=
  (if directMessage then startsWith 'D' value else startsWith 'C' value || startsWith 'G' value) = true ∧
    2 ≤ byteLen value ∧ (utf8Bytes value).all isUpperOrDigit = true

theorem strictChannelId_ok {directMessage : Bool} {channelId : String}
    (h : strictChannelId value directMessage = .ok channelId) :
    channelId = value ∧ byteLen value ≤ 255 ∧ IsChannelId value directMessage := by
  unfold strictChannelId at h
  obtain ⟨_, hbounded, h⟩ := except_bind_ok.mp h
  obtain ⟨_, hshape, h⟩ := except_bind_ok.mp h
  cases h
  simp only [require_ok, Bool.and_eq_true, decide_eq_true_eq] at hshape
  exact ⟨rfl, (bounded_ok hbounded).2, hshape.1.1, hshape.1.2, hshape.2⟩

theorem strictSlackTimestamp_ok {field timestamp : String}
    (h : strictSlackTimestamp field value = .ok timestamp) :
    timestamp = value ∧ value ≠ "" ∧ byteLen value ≤ 255 ∧ (splitOnceDot value).any isTimestampPair = true := by
  unfold strictSlackTimestamp at h
  obtain ⟨_, hbounded, h⟩ := except_bind_ok.mp h
  obtain ⟨_, hshape, h⟩ := except_bind_ok.mp h
  cases h
  exact ⟨rfl, (bounded_ok hbounded).1, (bounded_ok hbounded).2, require_ok.mp hshape⟩

/-- `validate_verified_slack_target` が保証すること。 -/
structure VerifiedSlackTarget.Valid (v : VerifiedSlackTarget) : Prop where
  workspace : v.workspaceId = v.teamId
  context : v.contextTeamId = v.teamId
  hostText : v.conversationHostId ≠ "" ∧ byteLen v.conversationHostId ≤ 255
  host : (startsWith 'T' v.conversationHostId || startsWith 'E' v.conversationHostId) = true
  enterprise : v.enterpriseId.all (startsWith 'E') = true
  kind : isTargetKind v.kind = true
  thread : (v.kind == "thread") = v.threadTs.isSome
  version : v.authorizationEvidenceVersion ≠ 0
  digest : isLowercaseSha256 v.authorizationEvidenceDigest = true
  channelText : byteLen v.channelId ≤ 255
  channel : IsChannelId v.channelId (v.kind == "direct_message")
  timestamp : ∀ threadTs ∈ v.threadTs,
    threadTs ≠ "" ∧ byteLen threadTs ≤ 255 ∧ (splitOnceDot threadTs).any isTimestampPair = true

theorem validateVerifiedSlackTarget_ok {v : VerifiedSlackTarget} {expected : Option String}
    (h : validateVerifiedSlackTarget v expected = .ok u) : v.Valid := by
  unfold validateVerifiedSlackTarget at h
  obtain ⟨_, _, h⟩ := except_bind_ok.mp h
  obtain ⟨_, _, h⟩ := except_bind_ok.mp h
  obtain ⟨_, _, h⟩ := except_bind_ok.mp h
  obtain ⟨_, hhost, h⟩ := except_bind_ok.mp h
  obtain ⟨_, hchannel, h⟩ := except_bind_ok.mp h
  obtain ⟨_, hauthority, h⟩ := except_bind_ok.mp h
  obtain ⟨_, hlen, hchannel⟩ := strictChannelId_ok hchannel
  simp only [require_ok, Bool.and_eq_true, beq_iff_eq, bne_iff_ne] at hauthority
  obtain ⟨⟨⟨⟨⟨⟨⟨⟨⟨_, hworkspace⟩, hcontext⟩, _⟩, hprefix⟩, henterprise⟩, hkind⟩, hthread⟩, hversion⟩, hdigest⟩ :=
    hauthority
  have htimestamp : ∀ threadTs ∈ v.threadTs,
      threadTs ≠ "" ∧ byteLen threadTs ≤ 255 ∧ (splitOnceDot threadTs).any isTimestampPair = true := by
    intro threadTs hts
    rw [Option.mem_def.mp hts] at h
    obtain ⟨_, hshape, _⟩ := except_bind_ok.mp h
    exact (strictSlackTimestamp_ok hshape).2
  exact ⟨hworkspace, hcontext, bounded_ok hhost, hprefix, henterprise, hkind, hthread, hversion, hdigest, hlen,
    hchannel, htimestamp⟩

section Address

variable (v : VerifiedSlackTarget) (digest : String) {now : Int}

theorem verifiedAddress_sorted : (verifiedAddress v digest now).Sorted := by
  obtain ⟨workspaceId, teamId, enterpriseId, contextTeamId, hostId, kind, channelId, threadTs, version, evidence⟩ := v
  have henterprise : (Value.ofOption (enterpriseId.map .str)).Sorted := by cases enterpriseId <;> trivial
  refine sorted_object (membersSorted_iff.mpr ?_)
  simp only [List.forall_mem_cons, List.not_mem_nil, false_imp_iff, implies_true, and_true]
  refine ⟨trivial, trivial, ?_, ?_, ?_, trivial, trivial⟩
  · exact sorted_object (membersSorted_iff.mpr (by simp [Value.Sorted, henterprise]))
  · cases threadTs <;> exact sorted_object (membersSorted_iff.mpr (by simp [Value.Sorted]))
  · exact sorted_object (membersSorted_iff.mpr (by simp [Value.Sorted]))

theorem verifiedAddress_readable (hnow : inI64 now = true) (depth : Nat) :
    (verifiedAddress v digest now).readable (depth + 2) = true := by
  obtain ⟨workspaceId, teamId, enterpriseId, contextTeamId, hostId, kind, channelId, threadTs, version, evidence⟩ := v
  have henterprise : (Value.ofOption (enterpriseId.map .str)).readable depth = true := by
    cases enterpriseId with
    | none => cases depth <;> rfl
    | some _ => exact readable_str
  have hversion : (Value.int version.toNat).readable depth = true :=
    readable_nat (version.toNat_lt.le.trans (by decide))
  have hcreated : (Value.int now).readable (depth + 1) = true := by
    have hbound := inI64_iff.mp hnow
    have hlow : -9223372036854775808 ≤ now := hbound.1
    have hhigh : now ≤ Json.u64Max := hbound.2.trans (by decide)
    simp [Value.readable, hlow, hhigh]
  refine readable_object ?_
  simp only [List.forall_mem_cons, List.not_mem_nil, false_imp_iff, implies_true, and_true]
  refine ⟨readable_nat (by decide), readable_str, ?_, ?_, ?_, readable_str, hcreated⟩
  · exact readable_object (by simp [readable_str, henterprise])
  · cases threadTs <;> exact readable_object (by simp [readable_str])
  · exact readable_object (by simp [readable_str, hversion])

theorem parse_verifiedAddress (hnow : inI64 now = true) :
    Json.parse (verifiedAddress v digest now).render = some (verifiedAddress v digest now) :=
  parse_render (verifiedAddress_sorted v digest) (verifiedAddress_readable v digest hnow 125)

end Address

section Snapshot

variable {provider connector tenant kind : String} {address : Value} {resolverVersion : UInt32}
  {resolverDigest : String} {t : DeliveryTargetSnapshot}

theorem orInvalidValue_ok {α : Type} {r : Except StateValueError α} {a : α} :
    orInvalidValue r = .ok a ↔ r = .ok a := by
  cases r <;> simp [orInvalidValue]

theorem orUnavailable_ok {α : Type} {r : Except StateValueError α} {a : α} : orUnavailable r = .ok a ↔ r = .ok a := by
  cases r <;> simp [orUnavailable]

theorem orInvalidJson_ok {α : Type} {field : String} {o : Option α} {a : α} :
    orInvalidJson field o = .ok a ↔ o = some a := by
  cases o <;> simp [orInvalidJson]

structure Built (E : Env) (provider connector tenant kind : String) (address : Value) (resolverVersion : UInt32)
    (resolverDigest : String) (t : DeliveryTargetSnapshot) : Prop where
  provider : t.provider = provider
  connector : t.connector = connector
  tenant : t.tenant = tenant
  kind : t.kind = kind
  address : Json.parse t.addressJson = some address
  resolverVersion : t.resolverVersion = resolverVersion
  resolverDigest : t.resolverDigest = resolverDigest
  valid : t.validate = .ok ()
  route : ∃ route, deliveryRoute E t = .ok route

/-- 控えの正規化は、読んだ値を書き直すだけである。 -/
theorem canonicalizeSnapshot_ok {version : Nat} {field json canonical : String}
    (h : canonicalizeSnapshot version field json = .ok canonical) :
    version ≠ 0 ∧ ∃ value, Json.parse json = some value ∧ canonical = value.render := by
  unfold canonicalizeSnapshot at h
  split at h
  · cases h
  rename_i hversion
  split at h
  · cases h
  split at h
  · cases h
  rename_i value hparse
  split at h
  · cases h
  split at h
  · cases h
  cases h
  exact ⟨hversion, value, hparse, rfl⟩

/-- 作られた宛先の写しは、接続と種類と宛先の文面から一通りに決まる。 -/
theorem buildTargetSnapshot_ok (haddress : Json.parse address.render = some address)
    (h : buildTargetSnapshot E provider connector tenant kind address resolverVersion resolverDigest = .ok t) :
    Built E provider connector tenant kind address resolverVersion resolverDigest t := by
  unfold buildTargetSnapshot at h
  obtain ⟨_, _, h⟩ := except_bind_ok.mp h
  obtain ⟨snapshot, hreload, h⟩ := except_bind_ok.mp h
  obtain ⟨route, hroute, h⟩ := except_bind_ok.mp h
  cases h
  obtain ⟨canonical, hcanonical, hreload⟩ := except_bind_ok.mp (orInvalidValue_ok.mp hreload)
  obtain ⟨_, hvalid, hreload⟩ := except_bind_ok.mp hreload
  cases hreload
  obtain ⟨_, value, hparse, hcanon⟩ := canonicalizeSnapshot_ok hcanonical
  have hvalue : value = address := Option.some.inj (hparse.symm.trans haddress)
  exact ⟨rfl, rfl, rfl, rfl, hcanon ▸ hvalue ▸ haddress, rfl, rfl, hvalid, route, orUnavailable_ok.mp hroute⟩

end Snapshot

/-! ## 経路 -/

theorem requireJson_ok {field : String} {c : Bool} : requireJson field c = .ok u ↔ c = true := by
  unfold requireJson
  cases c <;> simp

theorem ok_bind {ε α β : Type} (a : α) (k : α → Except ε β) : (Except.ok a >>= k) = k a := rfl

theorem hasExactKeys_object {keys : List String} {ms : List (String × Value)} (hkeys : (ms.map Prod.fst).Nodup)
    (hsame : keys.Perm (ms.map Prod.fst)) : hasExactKeys keys (.object ms) = true := by
  obtain ⟨members, hobj, hlen⟩ := object_members hkeys
  rw [hobj, hasExactKeys, Bool.and_eq_true, beq_iff_eq, List.all_eq_true, hlen, hsame.length_eq, List.length_map]
  refine ⟨rfl, fun key hkey => ?_⟩
  rw [← isSome_get_obj, ← hobj, get_object hkeys, Option.isSome_map, List.find?_isSome]
  obtain ⟨m, hm, rfl⟩ := List.mem_map.mp (hsame.mem_iff.mp hkey)
  exact ⟨m, hm, beq_self_eq_true _⟩

section Route

variable {t : DeliveryTargetSnapshot} {address : Value} {route : DeliveryTargetRoute}

theorem parse_routeTarget (hsorted : address.Sorted) (hreadable : address.readable 126 = true) :
    Json.parse (routeTarget t address).render = some (routeTarget t address) := by
  have hversion : (Value.int t.resolverVersion.toNat).readable 126 = true :=
    readable_nat (t.resolverVersion.toNat_lt.le.trans (by decide))
  have htarget : (routeTarget t address).readable (126 + 1) = true :=
    readable_object (by simp [readable_str, hreadable, hversion])
  exact parse_render (sorted_object (membersSorted_iff.mpr (by simp [Value.Sorted, hsorted]))) htarget

theorem routeTarget_keys : hasExactKeys routeTargetKeys (routeTarget t address) = true :=
  hasExactKeys_object (by simp) (by
    simp only [List.map_cons, List.map_nil]
    decide)

structure ValidFields (t : DeliveryTargetSnapshot) : Prop where
  provider : ∀ field, validateText field t.provider = .ok ()
  connector : ∀ field, validateText field t.connector = .ok ()
  tenant : ∀ field, validateText field t.tenant = .ok ()
  kind : ∀ field, validateText field t.kind = .ok ()
  resolverDigest : ∀ field, validateText field t.resolverDigest = .ok ()
  identityDigest : isLowercaseSha256 t.identityDigest = true
  resolverVersion : t.resolverVersion ≠ 0

theorem validateLowercaseSha256_ok {field value : String} :
    validateLowercaseSha256 field value = .ok u ↔ isLowercaseSha256 value = true := by
  unfold validateLowercaseSha256
  split <;> simp_all

theorem validFields (hvalid : t.validate = .ok ()) : ValidFields t := by
  have hany {field field' value : String} (h : validateText field value = .ok ()) :
      validateText field' value = .ok () := validateText_ok.mpr (validateText_ok.mp h)
  unfold DeliveryTargetSnapshot.validate at hvalid
  obtain ⟨_, _, hvalid⟩ := except_bind_ok.mp hvalid
  obtain ⟨_, hprovider, hvalid⟩ := except_bind_ok.mp hvalid
  obtain ⟨_, hconnector, hvalid⟩ := except_bind_ok.mp hvalid
  obtain ⟨_, htenant, hvalid⟩ := except_bind_ok.mp hvalid
  obtain ⟨_, hkind, hvalid⟩ := except_bind_ok.mp hvalid
  obtain ⟨_, hresolver, hvalid⟩ := except_bind_ok.mp hvalid
  obtain ⟨_, hidentity, hvalid⟩ := except_bind_ok.mp hvalid
  have hversion : t.resolverVersion ≠ 0 := by
    intro hzero
    simp [validateCanonicalSnapshot, canonicalizeSnapshot, hzero] at hvalid
  exact ⟨fun _ => hany hprovider, fun _ => hany hconnector, fun _ => hany htenant, fun _ => hany hkind,
    fun _ => hany hresolver, validateLowercaseSha256_ok.mp hidentity, hversion⟩

/-- 配送の経路は、写しの宛先が読めて権限に合うときに限って得られる。 -/
theorem deliveryRoute_ok (hsorted : address.Sorted) (hreadable : address.readable 126 = true)
    (haddress : Json.parse t.addressJson = some address) (hvalid : ValidFields t) :
    deliveryRoute E t = .ok route ↔ isTargetKind t.kind = true ∧
      ∃ parsed, parseDeliveryTargetRouteAddress address t.tenant t.kind = .ok parsed ∧
        E.sha256Hex (utf8Bytes (routeIdentityJson parsed.identityAddress t.connector t.kind t.provider t.tenant)) =
          t.identityDigest ∧
        route = ⟨t.provider, t.tenant, t.kind, parsed.conversationId, parsed.threadId,
          parsed.requestedIdentityDigest⟩ := by
  have hget {q : String} : (routeTarget t address).get q = _ := get_object (by simp)
  have hprovider : textField "provider" (routeTarget t address) = some t.provider := by
    simp [textField, hget, Value.asStr]
  have hconnector : textField "connector" (routeTarget t address) = some t.connector := by
    simp [textField, hget, Value.asStr]
  have htenant : textField "tenant" (routeTarget t address) = some t.tenant := by
    simp [textField, hget, Value.asStr]
  have hkind : textField "kind" (routeTarget t address) = some t.kind := by simp [textField, hget, Value.asStr]
  have hresolver : textField "resolver_digest" (routeTarget t address) = some t.resolverDigest := by
    simp [textField, hget, Value.asStr]
  have hidentity : textField "identity_digest" (routeTarget t address) = some t.identityDigest := by
    simp [textField, hget, Value.asStr]
  have hversion : (((routeTarget t address).get "resolver_version").bind asU64).any
      (fun v => decide (0 < v) && decide (v < 2 ^ 32)) = true := by
    have hpos : 0 < t.resolverVersion.toNat :=
      Nat.pos_of_ne_zero fun h => hvalid.resolverVersion (UInt32.toNat_inj.mp h)
    have hlt := t.resolverVersion.toNat_lt
    simp [hget, Value.asInt, asU64, hpos, hlt]
  have hplace : (routeTarget t address).get "address" = some address := by simp [hget]
  have htexts : validateTexts routeField "delivery target route identity" (routeTarget t address)
      ["provider", "connector", "tenant", "kind", "resolver_digest"] = .ok () := by
    simp only [validateTexts, hprovider, hconnector, htenant, hkind, hresolver, orInvalidJson, ok_bind,
      hvalid.provider, hvalid.connector, hvalid.tenant, hvalid.kind, hvalid.resolverDigest]
  have hsha : validateLowercaseSha256 "delivery target identity digest" t.identityDigest = .ok () :=
    validateLowercaseSha256_ok.mpr hvalid.identityDigest
  have hshape : requireJson routeField (hasExactKeys routeTargetKeys (routeTarget t address) &&
      (((routeTarget t address).get "resolver_version").bind asU64).any
        (fun v => decide (0 < v) && decide (v < 2 ^ 32))) = .ok () := by
    rw [requireJson_ok, routeTarget_keys, hversion]
    rfl
  unfold deliveryRoute
  rw [haddress]
  simp only [orInvalidJson, ok_bind]
  unfold DeliveryTargetRoute.fromCanonicalTargetJson
  rw [parse_routeTarget hsorted hreadable]
  simp only [orInvalidJson, ok_bind, ne_eq, not_true_eq_false, if_false, hshape, hprovider, hconnector, htenant,
    hkind, hresolver, htexts, hidentity, hsha, hplace]
  rw [except_bind_ok]
  constructor
  · rintro ⟨_, hroutable, h⟩
    obtain ⟨parsed, hparsed, h⟩ := except_bind_ok.mp h
    refine ⟨requireJson_ok.mp hroutable, parsed, hparsed, ?_⟩
    split at h
    · cases h
    · rename_i hsame
      cases h
      exact ⟨not_not.mp hsame, rfl⟩
  · rintro ⟨hroutable, parsed, hparsed, hsame, rfl⟩
    refine ⟨(), requireJson_ok.mpr hroutable, except_bind_ok.mpr ⟨parsed, hparsed, ?_⟩⟩
    rw [if_neg (not_not.mpr hsame)]
    rfl

end Route

/-! ## 検証された宛先の経路 -/

section Verified

variable {v : VerifiedSlackTarget} {digest : String} {now : Int}

def coordinatesOf (v : VerifiedSlackTarget) : Value :=
  match v.threadTs with
  | some threadTs => .object [("channel_id", .str v.channelId), ("thread_ts", .str threadTs)]
  | none => .object [("channel_id", .str v.channelId)]

def authorityOf (v : VerifiedSlackTarget) : Value :=
  .object [("team_id", .str v.teamId), ("enterprise_id", .ofOption (v.enterpriseId.map .str)),
    ("context_team_id", .str v.contextTeamId), ("conversation_host_id", .str v.conversationHostId)]

def evidenceOf (v : VerifiedSlackTarget) : Value :=
  .object [("version", .int v.authorizationEvidenceVersion.toNat), ("digest", .str v.authorizationEvidenceDigest)]

theorem get_verifiedAddress {q : String} : (verifiedAddress v digest now).get q =
    (([("schema_version", Value.int snapshotVersion), ("workspace_id", .str v.workspaceId),
      ("routing_authority", authorityOf v), ("coordinates", coordinatesOf v),
      ("authorization_evidence", evidenceOf v), ("requested_identity_digest", .str digest),
      ("created_at", .int now)].find? fun m => m.1 == q).map Prod.snd) :=
  get_object (by simp)

theorem validateText_of_le {field value : String} (h : value ≠ "" ∧ byteLen value ≤ 255) :
    validateText field value = .ok () :=
  validateText_ok.mpr ⟨h.1, h.2.trans (by decide)⟩

def EnterpriseFits (v : VerifiedSlackTarget) : Prop := ∀ id ∈ v.enterpriseId, byteLen id ≤ maxContextBytes

/-- 確かめた宛先の権限を書いたものは、組織の欄が合うとき、そのまま読み戻される。 -/
theorem authority_ok (hv : v.Valid) {authority : Value} :
    validateDeliveryRouteAuthority (authorityOf v) v.workspaceId = .ok authority ↔
      EnterpriseFits v ∧ authority = authorityOf v := by
  have hget {q : String} : (authorityOf v).get q = _ := get_object (by simp)
  have hteam : textField "team_id" (authorityOf v) = some v.workspaceId := by
    simp [textField, hget, Value.asStr, hv.workspace]
  have hcontext : textField "context_team_id" (authorityOf v) = some v.workspaceId := by
    simp [textField, hget, Value.asStr, hv.workspace, hv.context]
  have hhost : textField "conversation_host_id" (authorityOf v) = some v.conversationHostId := by
    simp [textField, hget, Value.asStr]
  have hkeys : hasExactKeys ["context_team_id", "conversation_host_id", "enterprise_id", "team_id"]
      (authorityOf v) = true := hasExactKeys_object (by simp) (by
    simp only [List.map_cons, List.map_nil]
    decide)
  have henterprise : validateNullableText "delivery target route authority" "delivery target enterprise"
      "enterprise_id" (authorityOf v) = .ok () ↔ EnterpriseFits v := by
    have hprefix := hv.enterprise
    cases hid : v.enterpriseId with
    | none =>
      simp [validateNullableText, textField, isNullField, hget, hid, Value.ofOption, Value.asStr, requireJson,
        EnterpriseFits]
    | some id =>
      have hne : id ≠ "" := by
        rintro rfl
        simp [hid, startsWith] at hprefix
      simp [validateNullableText, textField, hget, hid, Value.ofOption, Value.asStr, EnterpriseFits,
        validateText_ok, hne]
  unfold validateDeliveryRouteAuthority
  simp only [hkeys, hteam, hcontext, hhost, beq_self_eq_true, Bool.and_self, requireJson, if_true, orInvalidJson,
    ok_bind, validateText_of_le hv.hostText]
  rw [except_bind_ok, ← henterprise]
  constructor
  · rintro ⟨_, hid, h⟩
    cases h
    exact ⟨hid, rfl⟩
  · rintro ⟨hid, rfl⟩
    exact ⟨(), hid, rfl⟩

theorem evidence_ok (hv : v.Valid) : validateDeliveryRouteEvidence (evidenceOf v) = .ok () := by
  have hget {q : String} : (evidenceOf v).get q = _ := get_object (by simp)
  have hdigest : textField "digest" (evidenceOf v) = some v.authorizationEvidenceDigest := by
    simp [textField, hget, Value.asStr]
  have hversion : (((evidenceOf v).get "version").bind asU64).any (0 < ·) = true := by
    have hpos : 0 < v.authorizationEvidenceVersion.toNat :=
      Nat.pos_of_ne_zero fun h => hv.version (UInt32.toNat_inj.mp h)
    simp [hget, Value.asInt, asU64, hpos]
  have hkeys : hasExactKeys ["digest", "version"] (evidenceOf v) = true :=
    hasExactKeys_object (by simp) (by
      simp only [List.map_cons, List.map_nil]
      decide)
  unfold validateDeliveryRouteEvidence
  simp only [hkeys, hversion, hdigest, Bool.and_self, requireJson, if_true, orInvalidJson, ok_bind]
  exact validateLowercaseSha256_ok.mpr hv.digest

theorem coordinates_keys (hv : v.Valid) : validCoordinates v.kind (coordinatesOf v) = true := by
  have hthread := hv.thread
  unfold validCoordinates coordinatesOf
  cases hts : v.threadTs with
  | none =>
    have hkind : v.kind ≠ "thread" := by simpa [hts] using hthread
    rw [if_neg hkind]
    exact hasExactKeys_object (by simp) (by simp)
  | some threadTs =>
    have hkind : v.kind = "thread" := by simpa [hts] using hthread
    rw [if_pos hkind]
    exact hasExactKeys_object (by simp) (by simp)

theorem coordinates_channel : textField "channel_id" (coordinatesOf v) = some v.channelId := by
  unfold coordinatesOf textField
  cases v.threadTs with
  | none => simp [get_object, Value.asStr]
  | some threadTs => simp [get_object, Value.asStr]

theorem coordinates_thread : (coordinatesOf v).get "thread_ts" = v.threadTs.map .str := by
  unfold coordinatesOf
  cases v.threadTs with
  | none => simp [get_object]
  | some threadTs => simp [get_object]

theorem Valid.channelText_ok (hv : v.Valid) {field : String} : validateText field v.channelId = .ok () := by
  have hlen := hv.channel.2.1
  refine validateText_of_le ⟨?_, hv.channelText⟩
  rintro hempty
  rw [hempty] at hlen
  exact absurd hlen (by decide)

/-- 確かめた宛先の住所は、要約と時刻が整い、組織の欄が合うとき、書いたとおりに読み戻される。 -/
theorem parseAddress_ok (hv : v.Valid) (hnow : inI64 now = true) {parsed : RouteAddress} :
    parseDeliveryTargetRouteAddress (verifiedAddress v digest now) v.workspaceId v.kind = .ok parsed ↔
      isLowercaseSha256 digest = true ∧ 0 ≤ now ∧ EnterpriseFits v ∧
        parsed = ⟨v.channelId, v.threadTs, digest, .object [("coordinates", coordinatesOf v),
          ("routing_authority", authorityOf v), ("workspace_id", .str v.workspaceId)]⟩ := by
  have hkeys : hasExactKeys routeAddressKeys (verifiedAddress v digest now) = true :=
    hasExactKeys_object (by simp) (by
      simp only [List.map_cons, List.map_nil]
      decide)
  have hversion : ((verifiedAddress v digest now).get "schema_version").bind asU64 = some 1 := by
    simp [get_verifiedAddress, asU64, Value.asInt, snapshotVersion]
  have hworkspace : textField "workspace_id" (verifiedAddress v digest now) = some v.workspaceId := by
    simp [textField, get_verifiedAddress, Value.asStr]
  have hcreated : (((verifiedAddress v digest now).get "created_at").bind asI64).any (0 ≤ ·) =
      decide (0 ≤ now) := by
    simp [get_verifiedAddress, asI64, Value.asInt, hnow]
  have hrequested : textField "requested_identity_digest" (verifiedAddress v digest now) = some digest := by
    simp [textField, get_verifiedAddress, Value.asStr]
  have hauthority : (verifiedAddress v digest now).get "routing_authority" = some (authorityOf v) := by
    simp [get_verifiedAddress]
  have hevidence : (verifiedAddress v digest now).get "authorization_evidence" = some (evidenceOf v) := by
    simp [get_verifiedAddress]
  have hcoordinates : (verifiedAddress v digest now).get "coordinates" = some (coordinatesOf v) := by
    simp [get_verifiedAddress]
  unfold parseDeliveryTargetRouteAddress
  rw [hkeys, hversion, hworkspace, hcreated, hrequested, hauthority, hevidence, hcoordinates]
  simp only [beq_self_eq_true, Bool.and_self, Bool.true_and, orInvalidJson, ok_bind, evidence_ok hv,
    coordinates_keys hv, coordinates_channel, coordinates_thread, Valid.channelText_ok hv]
  constructor
  · intro h
    obtain ⟨_, hpos, h⟩ := except_bind_ok.mp h
    obtain ⟨_, hsha, h⟩ := except_bind_ok.mp h
    obtain ⟨authority, hauth, h⟩ := except_bind_ok.mp h
    obtain ⟨henterprise, rfl⟩ := (authority_ok hv).mp hauth
    obtain ⟨_, _, h⟩ := except_bind_ok.mp h
    refine ⟨validateLowercaseSha256_ok.mp hsha, of_decide_eq_true (requireJson_ok.mp hpos), henterprise, ?_⟩
    cases hts : v.threadTs with
    | none =>
      rw [hts] at h
      cases h
      rfl
    | some threadTs =>
      rw [hts] at h
      obtain ⟨_, hthread, h⟩ := except_bind_ok.mp h
      cases hthread
      obtain ⟨_, _, h⟩ := except_bind_ok.mp h
      cases h
      rfl
  · rintro ⟨hsha, hpos, henterprise, rfl⟩
    refine except_bind_ok.mpr ⟨(), requireJson_ok.mpr (decide_eq_true hpos), ?_⟩
    refine except_bind_ok.mpr ⟨(), validateLowercaseSha256_ok.mpr hsha, ?_⟩
    refine except_bind_ok.mpr ⟨_, (authority_ok hv).mpr ⟨henterprise, rfl⟩, ?_⟩
    cases hts : v.threadTs with
    | none => rfl
    | some threadTs =>
      have htext := hv.timestamp threadTs hts
      refine except_bind_ok.mpr ⟨(), rfl, except_bind_ok.mpr ⟨threadTs, rfl, ?_⟩⟩
      exact except_bind_ok.mpr ⟨(), validateText_of_le ⟨htext.1, htext.2.1⟩, rfl⟩

theorem verifiedSnapshot_ok {t : DeliveryTargetSnapshot} (hv : v.Valid) (hnow : inI64 now = true)
    (h : verifiedSnapshot E v digest now = .ok t) :
    Built E "slack" slackConnector v.workspaceId v.kind (verifiedAddress v digest now)
      (UInt32.ofNat snapshotVersion) slackResolverDigest t ∧ isLowercaseSha256 digest = true ∧ 0 ≤ now := by
  have hbuilt := buildTargetSnapshot_ok (parse_verifiedAddress v digest hnow) h
  obtain ⟨route, hroute⟩ := hbuilt.route
  obtain ⟨_, parsed, hparsed, _⟩ := (deliveryRoute_ok (verifiedAddress_sorted v digest)
    (verifiedAddress_readable v digest hnow 124) hbuilt.address (validFields hbuilt.valid)).mp hroute
  rw [hbuilt.tenant, hbuilt.kind] at hparsed
  obtain ⟨hsha, hpos, _⟩ := (parseAddress_ok hv hnow).mp hparsed
  exact ⟨hbuilt, hsha, hpos⟩

theorem perm_shuffle {α : Type} (a c k p t : α) : [a, c, k, p, t].Perm [p, c, t, k, a] := by
  have hlast : [p, c, t, k, a].Perm [a, p, c, t, k] := List.perm_append_singleton a [p, c, t, k]
  have hmiddle : [p, t, k].Perm [k, p, t] := List.perm_append_singleton k [p, t]
  have hfirst : [p, c, t, k].Perm [c, k, p, t] := (List.Perm.swap c p [t, k]).trans (hmiddle.cons c)
  exact (hlast.trans (hfirst.cons a)).symm

theorem identity_render (v : VerifiedSlackTarget) (connector provider : String) :
    routeIdentityJson (.object [("coordinates", coordinatesOf v), ("routing_authority", authorityOf v),
        ("workspace_id", .str v.workspaceId)]) connector v.kind provider v.workspaceId =
      canonicalJson (.object [("provider", .str provider), ("connector", .str connector),
        ("tenant", .str v.workspaceId), ("kind", .str v.kind), ("address", .object [
          ("workspace_id", .str v.workspaceId), ("routing_authority", authorityOf v),
          ("coordinates", coordinatesOf v)])]) := by
  have haddress : Value.object [("workspace_id", .str v.workspaceId), ("routing_authority", authorityOf v),
      ("coordinates", coordinatesOf v)] = .object [("coordinates", coordinatesOf v),
        ("routing_authority", authorityOf v), ("workspace_id", .str v.workspaceId)] :=
    object_perm (by simp) (List.reverse_perm _).symm
  rw [routeIdentityJson, canonicalJson, haddress]
  refine congrArg Value.render (object_perm (by simp) ?_)
  exact perm_shuffle _ _ _ _ _

/-- 検証された宛先の写しのための、要約値と文面についての前提。 -/
structure Snapshotable (E : Env) (v : VerifiedSlackTarget) (digest : String) (now : Int) : Prop where
  requested : isLowercaseSha256 digest = true
  time : 0 ≤ now
  fits : EnterpriseFits v
  workspace : v.workspaceId ≠ "" ∧ byteLen v.workspaceId ≤ 255
  identity : ∀ bytes, isLowercaseSha256 (E.sha256Hex bytes) = true
  stored : canonicalizeSnapshot snapshotVersion "target address" (verifiedAddress v digest now).render =
    .ok (verifiedAddress v digest now).render

theorem targetId_ok {field : String} {identity : Value} :
    validateText field ("target_" ++ shortDigest E identity) = .ok () := by
  have hshort : byteLen (shortDigest E identity) ≤ 4 * 32 :=
    (byteLen_ofList_le _).trans (Nat.mul_le_mul_left 4 (List.length_take_le _ _))
  have hlen : byteLen ("target_" ++ shortDigest E identity) = 7 + byteLen (shortDigest E identity) :=
    byteLen_append _ _
  refine validateText_of_le ⟨?_, by omega⟩
  intro hempty
  rw [hempty] at hlen
  have hzero : byteLen "" = 0 := rfl
  omega

/-- 検証された宛先の写しは、その宛先の経路になる。 -/
theorem verifiedSnapshot_accepts (hv : v.Valid) (hnow : inI64 now = true) (h : Snapshotable E v digest now) :
    ∃ t, verifiedSnapshot E v digest now = .ok t ∧
      deliveryRoute E t = .ok ⟨"slack", v.workspaceId, v.kind, v.channelId, v.threadTs, digest⟩ := by
  have hidentity : identityAddress (verifiedAddress v digest now) = .ok (.object [
      ("workspace_id", .str v.workspaceId), ("routing_authority", authorityOf v),
      ("coordinates", coordinatesOf v)]) := by
    simp [identityAddress, get_verifiedAddress, okOrUnavailable, bind, Except.bind, pure, Except.pure]
  have hkind : v.kind ≠ "" ∧ byteLen v.kind ≤ 255 := by
    have hkind := hv.kind
    simp only [isTargetKind, Bool.or_eq_true, beq_iff_eq] at hkind
    rcases hkind with (h | h) | h <;> rw [h] <;> decide
  have hidentity' := identity_render v slackConnector "slack"
  unfold verifiedSnapshot buildTargetSnapshot
  rw [hidentity, ok_bind]
  generalize Value.object [("provider", Value.str "slack"), ("connector", .str slackConnector),
    ("tenant", .str v.workspaceId), ("kind", .str v.kind), ("address", .object [
      ("workspace_id", .str v.workspaceId), ("routing_authority", authorityOf v),
      ("coordinates", coordinatesOf v)])] = identity at hidentity' ⊢
  have hstored := h.stored
  have hparse := parse_verifiedAddress v digest hnow
  generalize hdoc : (verifiedAddress v digest now).render = doc at hstored hparse
  obtain ⟨t, ht⟩ : ∃ t : DeliveryTargetSnapshot, t =
    { targetId := "target_" ++ shortDigest E identity, provider := "slack", connector := slackConnector,
      tenant := v.workspaceId, kind := v.kind, addressJson := doc,
      resolverVersion := UInt32.ofNat snapshotVersion, resolverDigest := slackResolverDigest,
      identityDigest := digestJson E identity } := ⟨_, rfl⟩
  have hvalid : t.validate = .ok () := by
    have hslack : "slack" ≠ "" ∧ byteLen "slack" ≤ 255 := by decide
    have hconnector : slackConnector ≠ "" ∧ byteLen slackConnector ≤ 255 := by decide
    have hresolver : slackResolverDigest ≠ "" ∧ byteLen slackResolverDigest ≤ 255 := by decide
    rw [ht]
    refine except_bind_ok.mpr ⟨(), targetId_ok, ?_⟩
    refine except_bind_ok.mpr ⟨(), validateText_of_le hslack, ?_⟩
    refine except_bind_ok.mpr ⟨(), validateText_of_le hconnector, ?_⟩
    refine except_bind_ok.mpr ⟨(), validateText_of_le h.workspace, ?_⟩
    refine except_bind_ok.mpr ⟨(), validateText_of_le hkind, ?_⟩
    refine except_bind_ok.mpr ⟨(), validateText_of_le hresolver, ?_⟩
    refine except_bind_ok.mpr ⟨(), validateLowercaseSha256_ok.mpr (h.identity _), ?_⟩
    have hversion : (UInt32.ofNat snapshotVersion).toNat = snapshotVersion := by decide
    simp [validateCanonicalSnapshot, hversion, hstored]
  have hreload : t.reload = .ok t := by
    refine except_bind_ok.mpr ⟨doc, ?_, ?_⟩
    · rw [ht]
      exact hstored
    · have hsame : { t with addressJson := doc } = t := by rw [ht]
      simp only [hsame]
      exact except_bind_ok.mpr ⟨(), hvalid, rfl⟩
  have hparsed := (parseAddress_ok hv hnow).mpr ⟨h.requested, h.time, h.fits, rfl⟩
  have hsame : E.sha256Hex (utf8Bytes (routeIdentityJson (.object [("coordinates", coordinatesOf v),
      ("routing_authority", authorityOf v), ("workspace_id", .str v.workspaceId)]) slackConnector v.kind "slack"
      v.workspaceId)) = digestJson E identity := by
    rw [hidentity']
    rfl
  have hroute : deliveryRoute E t = .ok ⟨"slack", v.workspaceId, v.kind, v.channelId, v.threadTs, digest⟩ := by
    refine (deliveryRoute_ok (verifiedAddress_sorted v digest) (verifiedAddress_readable v digest hnow 124)
      (by rw [ht]; exact hparse) (validFields hvalid)).mpr ?_
    rw [ht]
    exact ⟨hv.kind, _, hparsed, hsame, rfl⟩
  refine ⟨t, ?_, hroute⟩
  refine except_bind_ok.mpr ⟨t, orInvalidValue_ok.mpr ?_, except_bind_ok.mpr ⟨_, orUnavailable_ok.mpr hroute, rfl⟩⟩
  rw [canonicalJson, hdoc, ← ht]
  exact hreload

end Verified

end Codeoff.Runtime.ScheduleResolution
