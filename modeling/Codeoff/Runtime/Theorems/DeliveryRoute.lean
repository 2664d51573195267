import Codeoff.Core.Sha256
import Codeoff.Json.Lemmas.Parsed
import Codeoff.Runtime.Lemmas.ScheduleResolution
import Codeoff.State.Theorems.Lifecycle

/-!
# 宛先の同一性と経路

宛先の文書の同一性の要約値は、住所の一部だけから作られる。
-/

namespace Codeoff.Runtime.ScheduleResolution

open Codeoff.Core Codeoff.Json Codeoff.Relational Codeoff.State

variable {E : Env} {v v' address coordinates authority : Value} {r r' : DeliveryTargetRoute} {s : String}

structure RouteFields where
  provider : Option Value
  connector : Option Value
  tenant : Option Value
  kind : Option Value
  conversationId : Option Value
  threadId : Option Value
  routingAuthority : Option Value

def coordinatesIn (v : Value) : Option Value := v.pointer ["address", "coordinates"]

def authorityIn (v : Value) : Option Value := v.pointer ["address", "routing_authority"]

def routeFields (v : Value) : RouteFields where
  provider := v.get "provider"
  connector := v.get "connector"
  tenant := v.get "tenant"
  kind := v.get "kind"
  conversationId := (coordinatesIn v).bind (·.get "channel_id")
  threadId := (coordinatesIn v).bind (·.get "thread_ts")
  routingAuthority := authorityIn v

def identityValue (v : Value) : Value :=
  .object [
    ("address", .object [("coordinates", .ofOption (coordinatesIn v)), ("routing_authority", .ofOption (authorityIn v)),
      ("workspace_id", .ofOption (v.get "tenant"))]),
    ("connector", .ofOption (v.get "connector")), ("kind", .ofOption (v.get "kind")),
    ("provider", .ofOption (v.get "provider")), ("tenant", .ofOption (v.get "tenant"))]

def identityText (v : Value) : String := (identityValue v).render

/-! ## 検査を通った文書 -/

/-- 経路を読めた値。宛先の文面か、宛先の写しから作られる。 -/
inductive Routed (E : Env) : Value → DeliveryTargetRoute → Prop where
  | document {s : String} {v : Value} {r : DeliveryTargetRoute} (parsed : Json.parse s = some v)
      (routed : DeliveryTargetRoute.fromCanonicalTargetJson E s = .ok r) : Routed E v r
  | snapshot {t : DeliveryTargetSnapshot} {address v : Value} {r : DeliveryTargetRoute}
      (parsed : Json.parse t.addressJson = some address)
      (reread : Json.parse (routeTarget t address).render = some v) (routed : deliveryRoute E t = .ok r) :
      Routed E v r

structure RouteRead (E : Env) (v : Value) (r : DeliveryTargetRoute) : Prop where
  provider : v.get "provider" = some (.str r.provider)
  connector : ∃ connector, v.get "connector" = some (.str connector)
  tenant : v.get "tenant" = some (.str r.tenant)
  kind : v.get "kind" = some (.str r.kind)
  authority : ∃ authority, authorityIn v = some authority ∧ authority.Wf 125
  coordinates : ∃ coordinates, coordinatesIn v = some coordinates ∧ coordinates.Wf 125 ∧
    validCoordinates r.kind coordinates = true ∧
    coordinates.get "channel_id" = some (.str r.conversationId) ∧
    coordinates.get "thread_ts" = r.threadId.map .str
  digest : textField "identity_digest" v = some (E.sha256Hex (utf8Bytes (identityText v)))

theorem textField_some {key text : String} : textField key v = some text ↔ v.get key = some (.str text) := by
  unfold textField
  cases v.get key with
  | none => simp
  | some w => cases w <;> simp [Value.asStr]

theorem wf_of_exactKeys {keys : List String} {depth : Nat} (hsorted : v.Sorted) (hkeys : keys.Nodup)
    (hexact : hasExactKeys keys v = true) (hget : ∀ key ∈ keys, ∃ w, v.get key = some w ∧ w.Wf depth) :
    v.Wf (depth + 1) := by
  cases v with
  | obj members =>
    simp only [hasExactKeys, Bool.and_eq_true, beq_iff_eq] at hexact
    let ms : List (String × Value) := keys.map fun key => (key, ((Value.obj members).get key).getD .null)
    have hfst : ms.map Prod.fst = keys := by simp [ms, Function.comp_def]
    have hobject : Value.obj members = .object ms := by
      refine eq_object hsorted (hfst ▸ hkeys) (by simpa [ms] using hexact.1) fun m hm => ?_
      obtain ⟨key, hkey, rfl⟩ := List.mem_map.mp hm
      obtain ⟨w, hw, _⟩ := hget key hkey
      simp [hw]
    rw [hobject]
    refine Value.Wf.object fun m hm => ?_
    obtain ⟨key, hkey, rfl⟩ := List.mem_map.mp hm
    obtain ⟨w, hw, hwf⟩ := hget key hkey
    simpa [hw] using hwf
  | _ => cases hexact

theorem routeAuthority_wf {tenant : String} {authority' : Value} (hsorted : authority.Sorted)
    (h : validateDeliveryRouteAuthority authority tenant = .ok authority') :
    authority' = authority ∧ authority.Wf 125 := by
  unfold validateDeliveryRouteAuthority at h
  obtain ⟨_, hfields, h⟩ := except_bind_ok.mp h
  obtain ⟨host, hhost, h⟩ := except_bind_ok.mp h
  obtain ⟨_, _, h⟩ := except_bind_ok.mp h
  obtain ⟨_, hnullable, h⟩ := except_bind_ok.mp h
  cases h
  have hfields := requireJson_ok.mp hfields
  simp only [Bool.and_eq_true, beq_iff_eq, textField_some] at hfields
  obtain ⟨⟨hexact, hteam⟩, hcontext⟩ := hfields
  have henterprise : ∃ w, authority.get "enterprise_id" = some w ∧ w.Wf 124 := by
    unfold validateNullableText at hnullable
    split at hnullable
    · rename_i text htext
      exact ⟨_, textField_some.mp htext, wf_str⟩
    · have hnull := requireJson_ok.mp hnullable
      unfold isNullField at hnull
      split at hnull
      · exact ⟨_, ‹_›, wf_null⟩
      · cases hnull
  refine ⟨rfl, wf_of_exactKeys hsorted (by decide) hexact fun key hkey => ?_⟩
  simp only [List.mem_cons, List.not_mem_nil, or_false] at hkey
  rcases hkey with rfl | rfl | rfl | rfl
  · exact ⟨_, hcontext, wf_str⟩
  · exact ⟨_, textField_some.mp (orInvalidJson_ok.mp hhost), wf_str⟩
  · exact henterprise
  · exact ⟨_, hteam, wf_str⟩

theorem coordinates_wf {kind conversationId : String} {threadId : Option String} (hsorted : coordinates.Sorted)
    (hkeys : validCoordinates kind coordinates = true) (hchannel : coordinates.get "channel_id" = some (.str conversationId))
    (hthread : coordinates.get "thread_ts" = threadId.map .str) : coordinates.Wf 125 := by
  have hpresent := hkeys
  unfold validCoordinates at hkeys
  refine wf_of_exactKeys hsorted (by split <;> decide) hkeys fun key hkey => ?_
  split at hkey
  · rename_i hkind
    simp only [List.mem_cons, List.not_mem_nil, or_false] at hkey
    rcases hkey with rfl | rfl
    · exact ⟨_, hchannel, wf_str⟩
    · have hsome : (coordinates.get "thread_ts").isSome = true := by
        rw [if_pos hkind] at hkeys
        cases coordinates with
        | obj ms =>
          simp only [hasExactKeys, Bool.and_eq_true, List.all_eq_true] at hkeys
          rw [isSome_get_obj]
          exact hkeys.2 "thread_ts" (by simp)
        | _ => cases hkeys
      rw [hthread, Option.isSome_map] at hsome
      obtain ⟨text, rfl⟩ := Option.isSome_iff_exists.mp hsome
      exact ⟨_, hthread, wf_str⟩
  · obtain rfl := List.mem_singleton.mp hkey
    exact ⟨_, hchannel, wf_str⟩

theorem parseRouteAddress_ok {tenant kind : String} {parsed : RouteAddress} (hsorted : address.Sorted)
    (h : parseDeliveryTargetRouteAddress address tenant kind = .ok parsed) :
    ∃ coordinates authority, address.get "coordinates" = some coordinates ∧ coordinates.Wf 125 ∧
      address.get "routing_authority" = some authority ∧ authority.Wf 125 ∧ validCoordinates kind coordinates = true ∧
      coordinates.get "channel_id" = some (.str parsed.conversationId) ∧
      coordinates.get "thread_ts" = parsed.threadId.map .str ∧
      parsed.identityAddress = .object [("coordinates", coordinates), ("routing_authority", authority),
        ("workspace_id", .str tenant)] := by
  unfold parseDeliveryTargetRouteAddress at h
  obtain ⟨_, _, h⟩ := except_bind_ok.mp h
  obtain ⟨requested, _, h⟩ := except_bind_ok.mp h
  obtain ⟨_, _, h⟩ := except_bind_ok.mp h
  obtain ⟨authority, hauthority, h⟩ := except_bind_ok.mp h
  obtain ⟨authority', hvalid, h⟩ := except_bind_ok.mp h
  obtain ⟨evidence, _, h⟩ := except_bind_ok.mp h
  obtain ⟨_, _, h⟩ := except_bind_ok.mp h
  obtain ⟨coordinates, hcoordinates, h⟩ := except_bind_ok.mp h
  obtain ⟨_, hkeys, h⟩ := except_bind_ok.mp h
  obtain ⟨conversation, hconversation, h⟩ := except_bind_ok.mp h
  obtain ⟨_, _, h⟩ := except_bind_ok.mp h
  have hauthority := orInvalidJson_ok.mp hauthority
  obtain ⟨hsame, hauthorityWf⟩ := routeAuthority_wf (hsorted.get hauthority) hvalid
  rw [hsame] at h
  have hcoordinates := orInvalidJson_ok.mp hcoordinates
  have hkeys := requireJson_ok.mp hkeys
  have hconversation := textField_some.mp (orInvalidJson_ok.mp hconversation)
  have hwf : ∀ threadId : Option String, coordinates.get "thread_ts" = threadId.map .str → coordinates.Wf 125 :=
    fun _ => coordinates_wf (hsorted.get hcoordinates) hkeys hconversation
  suffices hread : coordinates.get "channel_id" = some (.str parsed.conversationId) ∧
      coordinates.get "thread_ts" = parsed.threadId.map .str ∧ parsed.identityAddress = .object [("coordinates",
        coordinates), ("routing_authority", authority), ("workspace_id", .str tenant)] from
    ⟨coordinates, authority, hcoordinates, hwf _ hread.2.1, hauthority, hauthorityWf, hkeys, hread⟩
  cases hthread : coordinates.get "thread_ts" with
  | none =>
    rw [hthread] at h
    cases h
    exact ⟨hconversation, rfl, rfl⟩
  | some thread =>
    rw [hthread] at h
    obtain ⟨threadId, htext, h⟩ := except_bind_ok.mp h
    obtain ⟨_, _, h⟩ := except_bind_ok.mp h
    cases h
    refine ⟨hconversation, ?_, rfl⟩
    have hfield : textField "thread_ts" coordinates = some threadId := by
      rw [textField, hthread]
      exact orInvalidJson_ok.mp htext
    exact hthread.symm.trans (textField_some.mp hfield)

theorem routeRead_of_document (hparse : Json.parse s = some v)
    (h : DeliveryTargetRoute.fromCanonicalTargetJson E s = .ok r) : RouteRead E v r := by
  unfold DeliveryTargetRoute.fromCanonicalTargetJson at h
  rw [hparse] at h
  obtain ⟨target, htarget, h⟩ := except_bind_ok.mp h
  obtain rfl : v = target := Option.some.inj (orInvalidJson_ok.mp htarget)
  dsimp only at h
  split at h
  · cases h
  obtain ⟨_, _, h⟩ := except_bind_ok.mp h
  obtain ⟨provider, hprovider, h⟩ := except_bind_ok.mp h
  obtain ⟨connector, hconnector, h⟩ := except_bind_ok.mp h
  obtain ⟨tenant, htenant, h⟩ := except_bind_ok.mp h
  obtain ⟨kind, hkind, h⟩ := except_bind_ok.mp h
  obtain ⟨_, _, h⟩ := except_bind_ok.mp h
  obtain ⟨_, _, h⟩ := except_bind_ok.mp h
  obtain ⟨digest, hdigest, h⟩ := except_bind_ok.mp h
  obtain ⟨_, _, h⟩ := except_bind_ok.mp h
  obtain ⟨_, _, h⟩ := except_bind_ok.mp h
  obtain ⟨address, haddress, h⟩ := except_bind_ok.mp h
  obtain ⟨parsed, hparsed, h⟩ := except_bind_ok.mp h
  split at h
  · cases h
  rename_i hsame
  cases h
  have hprovider := textField_some.mp (orInvalidJson_ok.mp hprovider)
  have hconnector := textField_some.mp (orInvalidJson_ok.mp hconnector)
  have htenant := textField_some.mp (orInvalidJson_ok.mp htenant)
  have hkind := textField_some.mp (orInvalidJson_ok.mp hkind)
  have haddress := orInvalidJson_ok.mp haddress
  obtain ⟨coordinates, authority, hcoordinates, hcoordinatesWf, hauthority, hauthorityWf, hkeys, hchannel, hthread,
    hidentity⟩ := parseRouteAddress_ok ((parse_sorted hparse).get haddress) hparsed
  have hcoordinatesIn : coordinatesIn v = some coordinates := by
    simp [coordinatesIn, Value.pointer, haddress, hcoordinates]
  have hauthorityIn : authorityIn v = some authority := by simp [authorityIn, Value.pointer, haddress, hauthority]
  have htext : routeIdentityJson parsed.identityAddress connector kind provider tenant = identityText v := by
    simp only [routeIdentityJson, identityText, identityValue, hidentity, hcoordinatesIn, hauthorityIn, hprovider, hconnector, htenant,
      hkind, Value.ofOption, Option.getD_some]
  refine ⟨hprovider, ⟨connector, hconnector⟩, htenant, hkind, ⟨authority, hauthorityIn, hauthorityWf⟩,
    ⟨coordinates, hcoordinatesIn, hcoordinatesWf, hkeys, hchannel, hthread⟩, ?_⟩
  rw [← htext, not_not.mp hsame]
  exact orInvalidJson_ok.mp hdigest

theorem Routed.read (h : Routed E v r) : RouteRead E v r := by
  cases h with
  | document parsed routed => exact routeRead_of_document parsed routed
  | @snapshot t address _ _ parsed reread routed =>
    refine routeRead_of_document reread ?_
    unfold deliveryRoute at routed
    rw [parsed] at routed
    simpa only [orInvalidJson, ok_bind] using routed

theorem identityValue_wf (h : RouteRead E v r) : (identityValue v).Wf maxDepth := by
  obtain ⟨connector, hconnector⟩ := h.connector
  obtain ⟨authority, hauthority, hauthorityWf⟩ := h.authority
  obtain ⟨coordinates, hcoordinates, hcoordinatesWf, _⟩ := h.coordinates
  have haddress : (Value.object [("coordinates", coordinates), ("routing_authority", authority),
      ("workspace_id", .str r.tenant)]).Wf 126 :=
    Value.Wf.object (by simp [hauthorityWf, hcoordinatesWf])
  rw [identityValue, hconnector, h.provider, h.kind, h.tenant, hauthority, hcoordinates]
  exact Value.Wf.object (by simp [haddress, Value.ofOption])

theorem routeFields_of_identityText (hv : RouteRead E v r) (hv' : RouteRead E v' r')
    (h : identityText v = identityText v') : routeFields v = routeFields v' := by
  have hvalue : identityValue v = identityValue v' :=
    render_inj (identityValue_wf hv).sorted (identityValue_wf hv') h
  have hget : ∀ key, (identityValue v).get key = (identityValue v').get key := fun key => by rw [hvalue]
  have haddress : ∀ key, (identityValue v).pointer ["address", key] = (identityValue v').pointer ["address", key] :=
    fun key => by rw [hvalue]
  obtain ⟨connector, hconnector⟩ := hv.connector
  obtain ⟨connector', hconnector'⟩ := hv'.connector
  obtain ⟨authority, hauthority, _⟩ := hv.authority
  obtain ⟨authority', hauthority', _⟩ := hv'.authority
  obtain ⟨coordinates, hcoordinates, _⟩ := hv.coordinates
  obtain ⟨coordinates', hcoordinates', _⟩ := hv'.coordinates
  have hprovider := hget "provider"
  have hconn := hget "connector"
  have htenant := hget "tenant"
  have hkind := hget "kind"
  have hcoord := haddress "coordinates"
  have hauth := haddress "routing_authority"
  simp [identityValue, get_object, Value.pointer, hv.provider, hv'.provider, hconnector, hconnector', hv.tenant,
    hv'.tenant, hv.kind, hv'.kind, hauthority, hauthority', hcoordinates, hcoordinates', Value.ofOption]
    at hprovider hconn htenant hkind hcoord hauth
  simp [routeFields, hv.provider, hv'.provider, hconnector, hconnector', hv.tenant, hv'.tenant, hv.kind, hv'.kind,
    hauthority, hauthority', hcoordinates, hcoordinates', hprovider, hconn, htenant, hkind, hcoord, hauth]

structure RouteBound (E : Env) (v : Value) (r : DeliveryTargetRoute) : Prop where
  /-- 経路は、文書の欄である。 -/
  fields : ∃ connector authority, routeFields v = {
    provider := some (.str r.provider), connector := some (.str connector), tenant := some (.str r.tenant),
    kind := some (.str r.kind), conversationId := some (.str r.conversationId), threadId := r.threadId.map .str,
    routingAuthority := some authority }
  thread : r.threadId.isSome = true ↔ r.kind = "thread"
  /-- 要約値の等しい文書は、欄も経路も等しい。 -/
  determined : ∀ v' r', Routed E v' r' → textField "identity_digest" v' = textField "identity_digest" v →
    Set.InjOn E.sha256Hex {utf8Bytes (identityText v), utf8Bytes (identityText v')} →
    routeFields v' = routeFields v ∧ r'.provider = r.provider ∧ r'.tenant = r.tenant ∧ r'.kind = r.kind ∧
      r'.conversationId = r.conversationId ∧ r'.threadId = r.threadId
  /-- 要約値を変えずに欄を変えた文書は、経路を読めない。 -/
  tampered : ∀ v', textField "identity_digest" v' = textField "identity_digest" v →
    Set.InjOn E.sha256Hex {utf8Bytes (identityText v), utf8Bytes (identityText v')} →
    routeFields v' ≠ routeFields v → ∀ r', ¬Routed E v' r'

theorem RouteRead.fields (h : RouteRead E v r) : ∃ connector authority, routeFields v = {
    provider := some (.str r.provider), connector := some (.str connector), tenant := some (.str r.tenant),
    kind := some (.str r.kind), conversationId := some (.str r.conversationId), threadId := r.threadId.map .str,
    routingAuthority := some authority } := by
  obtain ⟨connector, hconnector⟩ := h.connector
  obtain ⟨authority, hauthority, _⟩ := h.authority
  obtain ⟨coordinates, hcoordinates, _, _, hchannel, hthread⟩ := h.coordinates
  refine ⟨connector, authority, ?_⟩
  simp [routeFields, h.provider, hconnector, h.tenant, h.kind, hauthority, hcoordinates, hchannel, hthread]

theorem RouteRead.thread (h : RouteRead E v r) : r.threadId.isSome = true ↔ r.kind = "thread" := by
  obtain ⟨coordinates, _, _, hkeys, hchannel, hthread⟩ := h.coordinates
  have hsome : r.threadId.isSome = (coordinates.get "thread_ts").isSome := by rw [hthread, Option.isSome_map]
  rw [hsome]
  cases coordinates with
  | obj ms =>
    unfold validCoordinates at hkeys
    split at hkeys
    · rename_i hkind
      simp only [hasExactKeys, Bool.and_eq_true, List.all_eq_true] at hkeys
      refine iff_of_true ?_ hkind
      rw [isSome_get_obj]
      exact hkeys.2 "thread_ts" (by simp)
    · rename_i hkind
      refine iff_of_false ?_ hkind
      simp only [hasExactKeys, Bool.and_eq_true, beq_iff_eq] at hkeys
      obtain ⟨m, rfl⟩ := List.length_eq_one_iff.mp hkeys.1
      -- ただ一つの成員は `channel_id` である
      have hm : m.1 = "channel_id" := by
        by_contra hne
        simp [Value.get, hne] at hchannel
      simp [Value.get, hm]
  | _ => cases hchannel

theorem RouteRead.bound (h : RouteRead E v r) : RouteBound E v r := by
  have hsame : ∀ v' r', RouteRead E v' r' → textField "identity_digest" v' = textField "identity_digest" v →
      Set.InjOn E.sha256Hex {utf8Bytes (identityText v), utf8Bytes (identityText v')} →
      routeFields v' = routeFields v := by
    intro v' r' h' hdigest hinj
    rw [h.digest, h'.digest, Option.some.injEq] at hdigest
    have hbytes : utf8Bytes (identityText v') = utf8Bytes (identityText v) := hinj (by simp) (by simp) hdigest
    exact routeFields_of_identityText h' h (utf8Bytes_inj.mp hbytes)
  refine ⟨h.fields, h.thread, ?_, ?_⟩
  · intro v' r' hrouted hdigest hinj
    have hfields := hsame v' r' hrouted.read hdigest hinj
    refine ⟨hfields, ?_⟩
    obtain ⟨_, _, hread⟩ := h.fields
    obtain ⟨_, _, hread'⟩ := hrouted.read.fields
    rw [hread, hread'] at hfields
    simp only [RouteFields.mk.injEq, Option.some.injEq, Value.str.injEq] at hfields
    obtain ⟨hprovider, _, htenant, hkind, hchannel, hthread, _⟩ := hfields
    refine ⟨hprovider, htenant, hkind, hchannel, Option.map_injective ?_ hthread⟩
    exact fun _ _ heq => Value.str.inj heq
  · intro v' hdigest hinj hne r' hrouted
    exact hne (hsame v' r' hrouted.read hdigest hinj)

/-- 宛先の同一性の要約値は、送り先を選ぶ欄をすべて定める。 -/
theorem delivery_identity_determines_route (h : Routed E v r) : RouteBound E v r := h.read.bound

def threadCoordinates : Value := .object [("channel_id", .str "C1"), ("thread_ts", .str "1.5")]

def threadAuthority : Value :=
  .object [("context_team_id", .str "T1"), ("conversation_host_id", .str "T1"), ("enterprise_id", .null),
    ("team_id", .str "T1")]

def threadEvidence : Value :=
  .object [("digest", .str (String.ofList (List.replicate 64 'a'))), ("version", .int 1)]

def threadAddress : Value :=
  .object [("authorization_evidence", threadEvidence), ("coordinates", threadCoordinates), ("created_at", .int 0),
    ("requested_identity_digest", .str (String.ofList (List.replicate 64 'b'))),
    ("routing_authority", threadAuthority), ("schema_version", .int 1), ("workspace_id", .str "T1")]

def threadSnapshot : DeliveryTargetSnapshot where
  targetId := "target_1"
  provider := "slack"
  connector := "slack-default"
  tenant := "T1"
  kind := "thread"
  addressJson := threadAddress.render
  resolverVersion := 1
  resolverDigest := "slack-route-v2"
  identityDigest := "009a0fb7c87daa23e486eac10bc234ced747fdbb6356aaa73f5bd27571d940ec"

def digestOnlyEnv : Env where
  cron := idleCron
  sha256Hex := Sha256.sha256Hex
  capabilityProfileParses _ := false

theorem threadAddress_wf : threadAddress.Wf 126 := by
  have hint : ∀ n : Nat, n ≤ 1 → (Value.int n).Wf 124 ∧ (Value.int n).Wf 125 := fun n hn =>
    ⟨wf_int (by omega) (by unfold Json.u64Max; omega), wf_int (by omega) (by unfold Json.u64Max; omega)⟩
  have hevidence : threadEvidence.Wf 125 := Value.Wf.object (by simpa using (hint 1 (by decide)).1)
  have hcoordinates : threadCoordinates.Wf 125 := Value.Wf.object (by simp)
  have hauthority : threadAuthority.Wf 125 := Value.Wf.object (by simp)
  have hzero : (Value.int 0).Wf 125 := (hint 0 (by decide)).2
  have hone : (Value.int 1).Wf 125 := (hint 1 (by decide)).2
  exact Value.Wf.object (by simp [hevidence, hcoordinates, hauthority, hzero, hone])

theorem threadSnapshot_valid : ValidFields threadSnapshot := by
  have htext : ∀ field, ∀ text ∈ ["slack", "slack-default", "T1", "thread", "slack-route-v2"],
      validateText field text = .ok () := by
    intro field text htext
    refine validateText_ok.mpr ?_
    revert text
    decide
  refine ⟨fun f => htext f _ ?_, fun f => htext f _ ?_, fun f => htext f _ ?_, fun f => htext f _ ?_,
    fun f => htext f _ ?_, by decide, by decide⟩ <;> simp [threadSnapshot]

/-- スレッドの宛先の経路は、宛先の同一性で定まる。 -/
theorem thread_route_bound : ∃ r : DeliveryTargetRoute, r.conversationId = "C1" ∧ r.threadId = some "1.5" ∧
    RouteBound digestOnlyEnv (routeTarget threadSnapshot threadAddress) r := by
  have hwf := threadAddress_wf
  have hparse : Json.parse threadSnapshot.addressJson = some threadAddress :=
    parse_render hwf.sorted (by decide)
  have hroute : deliveryRoute digestOnlyEnv threadSnapshot = .ok ⟨"slack", "T1", "thread", "C1", some "1.5",
      String.ofList (List.replicate 64 'b')⟩ := by
    refine (deliveryRoute_ok hwf.sorted hwf.readable hparse threadSnapshot_valid).mpr ?_
    refine ⟨by decide, ⟨"C1", some "1.5", String.ofList (List.replicate 64 'b'), _⟩, rfl, ?_, rfl⟩
    decide +kernel
  exact ⟨_, rfl, rfl, delivery_identity_determines_route
    (.snapshot hparse (parse_routeTarget hwf.sorted hwf.readable) hroute)⟩

end Codeoff.Runtime.ScheduleResolution
