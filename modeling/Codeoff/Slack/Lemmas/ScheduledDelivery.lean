import Codeoff.Runtime.Lemmas.ScheduleResolution
import Codeoff.Slack.ScheduledDelivery

/-!
# 受け入れた宛先の読み取り

作成のときに検証された宛先の写しの文面は、配送のときの型で読め、検査を通る。
-/

namespace Codeoff.Slack.ScheduledDelivery

open Codeoff.Core Codeoff.Json Codeoff.State Codeoff.Runtime Codeoff.Runtime.ScheduleResolution
open Codeoff.Slack.WebApi (SlackPostedMessage SlackWebApiError)

variable {v : VerifiedSlackTarget} {digest : String} {now : Int} {t : DeliveryTargetSnapshot} {E : Env}

/-! ## 文面の読み取り -/

theorem knownFields_object {fields : List String} {ms : List (String × Value)}
    (h : ∀ m ∈ ms, fields.contains m.1 = true) : knownFields fields (.object ms) = some () := by
  obtain ⟨members, hobj⟩ : ∃ members, Value.object ms = .obj members := ⟨_, rfl⟩
  rw [hobj, knownFields, if_pos]
  exact List.all_eq_true.mpr fun m hm => h m (mem_object hobj hm)

theorem u32_get {value : Value} {field : String} {n : Nat} (hget : value.get field = some (.int n))
    (hn : n < 2 ^ 32) : u32 value field = some n := by
  have hread : (Value.int n).asU64 = some n := if_pos (hn.le.trans (by decide))
  rw [u32, hget, Option.bind_some, hread, Option.filter_some, if_pos (decide_eq_true hn)]

theorem i64_get {value : Value} {field : String} {n : Int} (hget : value.get field = some (.int n))
    (hn : inI64 n = true) : i64 value field = some n := by
  rw [i64, hget, Option.bind_some, Value.asInt, Option.filter_some, if_pos hn]

def addressRead (v : VerifiedSlackTarget) (digest : String) (now : Int) : SlackAddress where
  schemaVersion := 1
  workspaceId := v.workspaceId
  routingAuthority := ⟨v.teamId, v.enterpriseId, v.contextTeamId, v.conversationHostId⟩
  coordinates := ⟨v.channelId, v.threadTs⟩
  authorizationEvidence := ⟨v.authorizationEvidenceVersion.toNat, v.authorizationEvidenceDigest⟩
  requestedIdentityDigest := digest
  createdAt := now

theorem authority_read : RoutingAuthority.fromValue (authorityOf v) =
    some ⟨v.teamId, v.enterpriseId, v.contextTeamId, v.conversationHostId⟩ := by
  have hget {q : String} : (authorityOf v).get q = _ := get_object (by simp)
  have hknown : knownFields ["team_id", "enterprise_id", "context_team_id", "conversation_host_id"]
      (authorityOf v) = some () := knownFields_object (by simp)
  unfold RoutingAuthority.fromValue
  rw [hknown]
  cases hid : v.enterpriseId with
  | none => simp [text, optionalText, hget, hid, Value.asStr, Value.ofOption]
  | some id => simp [text, optionalText, hget, hid, Value.asStr, Value.ofOption]

theorem coordinates_read : SlackCoordinates.fromValue (coordinatesOf v) = some ⟨v.channelId, v.threadTs⟩ := by
  have hknown : knownFields ["channel_id", "thread_ts"] (coordinatesOf v) = some () := by
    unfold coordinatesOf
    cases v.threadTs with
    | none => exact knownFields_object (by simp)
    | some threadTs => exact knownFields_object (by simp)
  have hchannel : text (coordinatesOf v) "channel_id" = some v.channelId := coordinates_channel
  unfold SlackCoordinates.fromValue
  rw [hknown, hchannel, optionalText, coordinates_thread]
  cases v.threadTs with
  | none => rfl
  | some threadTs => rfl

theorem evidence_read : AuthorizationEvidence.fromValue (evidenceOf v) =
    some ⟨v.authorizationEvidenceVersion.toNat, v.authorizationEvidenceDigest⟩ := by
  have hget {q : String} : (evidenceOf v).get q = _ := get_object (by simp)
  have hknown : knownFields ["version", "digest"] (evidenceOf v) = some () := knownFields_object (by simp)
  have hversion : u32 (evidenceOf v) "version" = some v.authorizationEvidenceVersion.toNat :=
    u32_get (by simp [hget]) v.authorizationEvidenceVersion.toNat_lt
  unfold AuthorizationEvidence.fromValue
  rw [hknown, hversion]
  simp [text, hget, Value.asStr]

theorem address_read (hnow : inI64 now = true) :
    SlackAddress.fromValue (verifiedAddress v digest now) = some (addressRead v digest now) := by
  have hknown : knownFields ["schema_version", "workspace_id", "routing_authority", "coordinates",
      "authorization_evidence", "requested_identity_digest", "created_at"] (verifiedAddress v digest now) =
      some () := knownFields_object (by simp)
  have hversion : u32 (verifiedAddress v digest now) "schema_version" = some 1 :=
    u32_get (by simp [get_verifiedAddress, snapshotVersion]) (by decide)
  have hcreated : i64 (verifiedAddress v digest now) "created_at" = some now :=
    i64_get (by simp [get_verifiedAddress]) hnow
  unfold SlackAddress.fromValue
  rw [hknown, hversion, hcreated]
  simp [text, get_verifiedAddress, authority_read, coordinates_read, evidence_read, Value.asStr, addressRead]

def storedTarget (t : DeliveryTargetSnapshot) (address : Value) : Value :=
  .object [("provider", .str t.provider), ("connector", .str t.connector), ("tenant", .str t.tenant),
    ("kind", .str t.kind), ("address", address), ("resolver_version", .int t.resolverVersion.toNat),
    ("resolver_digest", .str t.resolverDigest), ("identity_digest", .str t.identityDigest)]

theorem targetJson_eq {address : Value} (h : Json.parse t.addressJson = some address) :
    targetJson t = (storedTarget t address).render := by
  rw [targetJson, targetValue, h]
  rfl

theorem storedTarget_read {address : Value} {read : SlackAddress}
    (h : SlackAddress.fromValue address = some read) :
    TargetSnapshot.fromValue (storedTarget t address) = some ⟨t.provider, t.connector, t.tenant, t.kind, read,
      t.resolverVersion.toNat, t.resolverDigest, t.identityDigest⟩ := by
  have hget {q : String} : (storedTarget t address).get q = _ := get_object (by simp)
  have hknown : knownFields ["provider", "connector", "tenant", "kind", "address", "resolver_version",
      "resolver_digest", "identity_digest"] (storedTarget t address) = some () := knownFields_object (by simp)
  have hversion : u32 (storedTarget t address) "resolver_version" = some t.resolverVersion.toNat :=
    u32_get (by simp [hget]) t.resolverVersion.toNat_lt
  unfold TargetSnapshot.fromValue
  rw [hknown, hversion]
  simp [text, hget, Value.asStr, h]

theorem parse_storedTarget {address : Value} (hsorted : address.Sorted) (hreadable : address.readable 126 = true) :
    Json.parse (storedTarget t address).render = some (storedTarget t address) := by
  have hversion : (Value.int t.resolverVersion.toNat).readable 126 = true :=
    readable_nat (t.resolverVersion.toNat_lt.le.trans (by decide))
  have htarget : (storedTarget t address).readable (126 + 1) = true :=
    readable_object (by simp [readable_str, hreadable, hversion])
  exact parse_render (sorted_object (membersSorted_iff.mpr (by simp [Value.Sorted, hsorted]))) htarget

/-- 検証された宛先から作った写しは、同じ接続と作業場の権限に合う。 -/
theorem matchesAuthority_built (hv : v.Valid) (hdigest : isLowercaseSha256 digest = true) (hpos : 0 ≤ now)
    (hbuilt : Built E "slack" slackConnector v.workspaceId v.kind (verifiedAddress v digest now)
      (UInt32.ofNat snapshotVersion) slackResolverDigest t) :
    matchesAuthority ⟨t.provider, t.connector, t.tenant, t.kind, addressRead v digest now, t.resolverVersion.toNat,
      t.resolverDigest, t.identityDigest⟩ t.connector t.tenant = true := by
  have hidentity : isLowercaseSha256 t.identityDigest = true := (validFields hbuilt.valid).identityDigest
  have hresolver : slackResolverDigest ≠ "" := by decide
  have hevidence : v.authorizationEvidenceVersion.toNat ≠ 0 := fun h => hv.version (UInt32.toNat_inj.mp h)
  have hhost := hv.host
  have hteam := hv.workspace.symm
  have hcontext : v.contextTeamId = v.workspaceId := hv.context.trans hteam
  simp [matchesAuthority, hbuilt.provider, hbuilt.tenant, hbuilt.resolverVersion, hbuilt.resolverDigest,
    snapshotVersion, hresolver, validSha256, hidentity, addressRead, hteam, hcontext, hpos, hevidence, hv.digest, hdigest,
    validProviderAuthority, hv.enterprise]
  simpa using hhost

theorem validSlackTimestamp_eq (value : String) :
    validSlackTimestamp value = (splitOnceDot value).any isTimestampPair := by
  unfold validSlackTimestamp splitOnceDot
  cases h : value.toList.span (· != '.') with
  | mk seconds rest =>
    cases rest with
    | nil => rfl
    | cons _ micros =>
      have hempty : (String.ofList seconds = "") = (seconds = []) := by simp
      rw [Option.any_some, isTimestampPair, Bool.eq_iff_iff]
      simp only [Bool.and_eq_true, bne_iff_ne, ne_eq, hempty, Bool.not_eq_true', List.isEmpty_eq_false_iff]
      tauto

/-- 配送の側が種類を認めるのは、チャネルの番号が `G` で始まらないときに限る。 -/
theorem routeKind_iff (hv : v.Valid) :
    (∃ kind : SlackCanonicalTargetKind, kind.asStr = v.kind ∧ routeKind v.kind v.channelId v.threadTs = .ok kind) ↔
      startsWith 'G' v.channelId = false := by
  obtain ⟨hlead, hlen, hbytes⟩ := hv.channel
  have hid : validSlackId v.channelId = true := by
    simp only [validSlackId, Bool.and_eq_true, decide_eq_true_eq]
    exact ⟨hlen, hbytes⟩
  have hthread := hv.thread
  have hcases := hv.kind
  simp only [isTargetKind, Bool.or_eq_true, beq_iff_eq] at hcases
  have hletter {c d : Char} (h : startsWith c v.channelId = true) (hne : c ≠ d) :
      startsWith d v.channelId = false := by
    simp only [startsWith, beq_iff_eq] at h ⊢
    rw [h]
    simpa using hne
  rcases hcases with (hkind | hkind) | hkind
  · have hts : v.threadTs = none := by simpa [hkind] using hthread
    have hchannel : startsWith 'C' v.channelId = true ∨ startsWith 'G' v.channelId = true := by
      simpa [hkind] using hlead
    rw [hkind, hts]
    rcases hchannel with hC | hG
    · exact iff_of_true ⟨.channel, rfl, by simp [routeKind, hC, hid]⟩ (hletter hC (by decide))
    · refine iff_of_false ?_ (by simp [hG])
      simp [routeKind, hletter hG (show 'G' ≠ 'C' by decide)]
  · have hts : v.threadTs = none := by simpa [hkind] using hthread
    have hD : startsWith 'D' v.channelId = true := by simpa [hkind] using hlead
    rw [hkind, hts]
    exact iff_of_true ⟨.directMessage, rfl, by simp [routeKind, hD, hid]⟩ (hletter hD (by decide))
  · obtain ⟨threadTs, hts⟩ := Option.isSome_iff_exists.mp (by simpa [hkind] using hthread)
    have htimestamp : validSlackTimestamp threadTs = true :=
      (validSlackTimestamp_eq threadTs).trans (hv.timestamp threadTs hts).2.2
    have hchannel : startsWith 'C' v.channelId = true ∨ startsWith 'G' v.channelId = true := by
      simpa [hkind] using hlead
    rw [hkind, hts]
    rcases hchannel with hC | hG
    · exact iff_of_true ⟨.thread, rfl, by simp [routeKind, hC, hid, htimestamp]⟩ (hletter hC (by decide))
    · refine iff_of_false ?_ (by simp [hG])
      simp [routeKind, hletter hG (show 'G' ≠ 'C' by decide)]

theorem parseTarget_built (hv : v.Valid) (hnow : inI64 now = true) (hdigest : isLowercaseSha256 digest = true)
    (hpos : 0 ≤ now)
    (hbuilt : Built E "slack" slackConnector v.workspaceId v.kind (verifiedAddress v digest now)
      (UInt32.ofNat snapshotVersion) slackResolverDigest t) :
    parseTarget (targetJson t) t.connector t.tenant =
      (routeKind v.kind v.channelId v.threadTs).map fun kind => ⟨kind, v.channelId, v.threadTs⟩ := by
  unfold parseTarget
  rw [targetJson_eq hbuilt.address, parse_storedTarget (verifiedAddress_sorted v digest)
    (verifiedAddress_readable v digest hnow 124), Option.bind_some, storedTarget_read (address_read hnow)]
  dsimp only
  rw [if_pos (matchesAuthority_built hv hdigest hpos hbuilt), hbuilt.kind]
  simp only [addressRead]
  cases routeKind v.kind v.channelId v.threadTs <;> rfl

/-! ## 長すぎる本文 -/

theorem parseTarget_error {targetJson connectorId workspaceId kind : String}
    (h : parseTarget targetJson connectorId workspaceId = .error kind) : kind ≠ "payload_too_long" := by
  unfold parseTarget at h
  cases hread : (Json.parse targetJson).bind TargetSnapshot.fromValue with
  | none =>
    rw [hread] at h
    cases h
    decide
  | some target =>
    rw [hread] at h
    dsimp only at h
    split at h
    · cases hroute : routeKind target.kind target.address.coordinates.channelId
          target.address.coordinates.threadTs with
      | error route =>
        rw [hroute] at h
        cases h
        unfold routeKind at hroute
        split at hroute
        · cases hroute
        split at hroute
        · cases hroute
        split at hroute
        · cases hroute
        cases hroute
        decide
      | ok route =>
        rw [hroute] at h
        cases h
    · cases h
      decide

theorem classifyError_terminal {e : SlackWebApiError} {kind : String}
    (h : classifyError e = .confirmedNoWriteTerminal kind) : kind = "slack_request_rejected" := by
  cases e with
  | api classification scope => cases classification <;> cases h <;> rfl
  | _ => cases h <;> rfl

/-- 長すぎる本文だけが、投稿の前に `payload_too_long` で終わる。 -/
theorem send_tooLong {connectorId workspaceId targetJson : String}
    {post : String → Option String → String → Except SlackWebApiError SlackPostedMessage}
    {payload : DeliveryPayloadSnapshot} :
    send connectorId workspaceId post payload targetJson = .confirmedNoWriteTerminal "payload_too_long" ↔
      slackMessageMaxCharacters < payload.body.length := by
  unfold send
  split
  · rename_i hlong
    simpa using hlong
  · rename_i hlong
    have hshort : ¬slackMessageMaxCharacters < payload.body.length := hlong
    refine iff_of_false ?_ hshort
    cases htarget : parseTarget targetJson connectorId workspaceId with
    | error kind =>
      intro h
      cases h
      exact parseTarget_error htarget rfl
    | ok target =>
      dsimp only
      cases hpost : post target.channelId target.threadTs payload.body with
      | error e =>
        intro h
        have hkind := classifyError_terminal h
        revert hkind
        decide
      | ok posted =>
        dsimp only
        split <;> simp

end Codeoff.Slack.ScheduledDelivery
