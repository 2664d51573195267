import Codeoff.Slack.Lemmas.ScheduledDelivery
import Codeoff.State.Theorems.Lifecycle

/-!
# 作成のときに受け入れた宛先へ配送できること

作成の側は、頭文字が `C` か `G` の会話を受け入れるが、配送の側は `C` だけを認める。
-/

namespace Codeoff.Slack.ScheduledDelivery

open Codeoff.Core Codeoff.Json Codeoff.Relational Codeoff.State Codeoff.Runtime Codeoff.Runtime.ScheduleResolution

/-- 作成のときの検査をすべて通った宛先と、その写し。 -/
structure AcceptedAtCreation (E : Env) (expectedWorkspaceId : Option String) (invocation : ScheduleInvocation)
    (target : DeliveryTargetRequest) (requested : SlackTargetResolutionRequest) (now : Int)
    (verified : VerifiedSlackTarget) (snapshot : DeliveryTargetSnapshot) : Prop where
  time : inI64 now = true
  valid : validateVerifiedSlackTarget verified expectedWorkspaceId = .ok ()
  matching : validateVerifiedTargetMatchesRequest verified requested = .ok ()
  built : verifiedSnapshot E verified (digestJson E (resolutionRequestJson requested)) now = .ok snapshot
  addressed : validateAddressAgainstRequest E invocation target snapshot
    (verifiedAddress verified (digestJson E (resolutionRequestJson requested)) now) = .ok ()

def Routes (verified : VerifiedSlackTarget) (snapshot : DeliveryTargetSnapshot) : Prop :=
  ∃ kind : SlackCanonicalTargetKind, kind.asStr = verified.kind ∧
    parseTarget (targetJson snapshot) snapshot.connector snapshot.tenant =
      .ok ⟨kind, verified.channelId, verified.threadTs⟩

/-- 受け入れた宛先は、会話の識別子が `G` で始まらないときに、そのときに限って配送できる。 -/
theorem accepted_target_routes_iff (E : Env) (expectedWorkspaceId : Option String)
    (invocation : ScheduleInvocation) (target : DeliveryTargetRequest) (requested : SlackTargetResolutionRequest)
    (now : Int) (verified : VerifiedSlackTarget) (snapshot : DeliveryTargetSnapshot)
    (h : AcceptedAtCreation E expectedWorkspaceId invocation target requested now verified snapshot) :
    Routes verified snapshot ↔ startsWith 'G' verified.channelId = false := by
  have hv := validateVerifiedSlackTarget_ok h.valid
  obtain ⟨hbuilt, hdigest, hpos⟩ := verifiedSnapshot_ok hv h.time h.built
  have hparse := parseTarget_built hv h.time hdigest hpos hbuilt
  rw [← routeKind_iff hv, Routes, hparse]
  refine exists_congr fun kind => and_congr_right fun _ => ?_
  cases routeKind verified.kind verified.channelId verified.threadTs <;> simp [Except.map]

/-! ## 例 -/

/-- 会話 `channelId` への宛先。 -/
def channelTarget (channelId : String) : VerifiedSlackTarget where
  workspaceId := "T1"
  teamId := "T1"
  enterpriseId := none
  contextTeamId := "T1"
  conversationHostId := "T1"
  kind := "channel"
  channelId := channelId
  threadTs := none
  authorizationEvidenceVersion := 1
  authorizationEvidenceDigest := "ccbb016d71ad201a4e5e039d1c0bbafaf6784eb388d3856cbd6d6dda9b683b72"

def serviceInvocation : ScheduleInvocation := ⟨.service "scheduler", none⟩

theorem channelTarget_accepted {E : Env} {channelId : String}
    (hid : strictChannelId channelId false = .ok channelId)
    (hidentity : ∀ bytes, isLowercaseSha256 (E.sha256Hex bytes) = true)
    (hstored : canonicalizeSnapshot snapshotVersion "target address" (verifiedAddress (channelTarget channelId)
      (digestJson E (resolutionRequestJson (.channel channelId))) 100).render =
        .ok (verifiedAddress (channelTarget channelId)
          (digestJson E (resolutionRequestJson (.channel channelId))) 100).render) :
    ∃ t, AcceptedAtCreation E none serviceInvocation (.channel channelId) (.channel channelId) 100
      (channelTarget channelId) t := by
  have hteam {field : String} : bounded field "T1" = .ok () := if_neg (by decide)
  have hdigest : isLowercaseSha256 "ccbb016d71ad201a4e5e039d1c0bbafaf6784eb388d3856cbd6d6dda9b683b72" = true := by
    decide
  have hvalid : validateVerifiedSlackTarget (channelTarget channelId) none = .ok () := by
    refine except_bind_ok.mpr ⟨(), hteam, except_bind_ok.mpr ⟨(), hteam, ?_⟩⟩
    refine except_bind_ok.mpr ⟨(), hteam, except_bind_ok.mpr ⟨(), hteam, ?_⟩⟩
    refine except_bind_ok.mpr ⟨channelId, hid, except_bind_ok.mpr ⟨(), require_ok.mpr ?_, rfl⟩⟩
    simp only [channelTarget, hdigest]
    decide
  have hworkspace : "T1" ≠ "" ∧ byteLen "T1" ≤ 255 := by decide
  have hfits : EnterpriseFits (channelTarget channelId) := by simp [EnterpriseFits, channelTarget]
  have hsnapshot : Snapshotable E (channelTarget channelId)
      (digestJson E (resolutionRequestJson (.channel channelId))) 100 :=
    ⟨hidentity _, by decide, hfits, hworkspace, hidentity, hstored⟩
  obtain ⟨t, hbuilt, hroute⟩ :=
    verifiedSnapshot_accepts (validateVerifiedSlackTarget_ok hvalid) (by decide) hsnapshot
  have hmatches : matchesRequest "channel" channelId none (.channel channelId) = true := by simp [matchesRequest]
  refine ⟨t, by decide, hvalid, require_ok.mpr hmatches, hbuilt, ?_⟩
  rw [validateAddressAgainstRequest, if_neg (by simp)]
  refine except_bind_ok.mpr ⟨_, orUnavailable_ok.mpr hroute, ?_⟩
  refine except_bind_ok.mpr ⟨.channel channelId, except_bind_ok.mpr ⟨channelId, hid, rfl⟩, ?_⟩
  exact except_bind_ok.mpr ⟨(), require_ok.mpr (beq_self_eq_true _), require_ok.mpr hmatches⟩

/-- 宛先 `G1` と `C1` の、要求と同一性の文面とその要約値。 -/
def targetTable : List (String × String) := [
  ("\x7b\"channel_id\":\"G1\",\"kind\":\"channel\"\x7d",
    "b653fc91906d0684b1001d3a4cbf6cdd975f3ca355d43300a9ddff4c584893b7"),
  ("\x7b\"address\":\x7b\"coordinates\":\x7b\"channel_id\":\"G1\"\x7d,\"routing_authority\":\x7b\"context_team_id\":\"T1\"," ++
    "\"conversation_host_id\":\"T1\",\"enterprise_id\":null,\"team_id\":\"T1\"\x7d,\"workspace_id\":\"T1\"\x7d," ++
    "\"connector\":\"slack-default\",\"kind\":\"channel\",\"provider\":\"slack\",\"tenant\":\"T1\"\x7d",
    "591b2d45d813d12073a2bc2de90818a52432eed27eaac7130cb864280af93567"),
  ("\x7b\"channel_id\":\"C1\",\"kind\":\"channel\"\x7d",
    "80688bb01e165963cc3560507fcc3680ee5bd1312d9ac4aee722895186b50074"),
  ("\x7b\"address\":\x7b\"coordinates\":\x7b\"channel_id\":\"C1\"\x7d,\"routing_authority\":\x7b\"context_team_id\":\"T1\"," ++
    "\"conversation_host_id\":\"T1\",\"enterprise_id\":null,\"team_id\":\"T1\"\x7d,\"workspace_id\":\"T1\"\x7d," ++
    "\"connector\":\"slack-default\",\"kind\":\"channel\",\"provider\":\"slack\",\"tenant\":\"T1\"\x7d",
    "c79cacde459909e35d648c4ce2c09a6cb36ebde224c043e18ec88075d943a781")]

def targetEnv : Env := envOf targetTable

theorem targetEnv_lowercase (bytes : List UInt8) : isLowercaseSha256 (targetEnv.sha256Hex bytes) = true := by
  have htable : ∀ entry ∈ targetTable, isLowercaseSha256 entry.2 = true := by decide +kernel
  have hother : isLowercaseSha256 "e3b0c44298fc1c149afbf4c8996fb92427ae41e4649b934ca495991b7852b855" = true := by
    decide
  show isLowercaseSha256 (((targetTable.find? fun entry => utf8Bytes entry.1 == bytes).map Prod.snd).getD _) = true
  cases hfind : targetTable.find? fun entry => utf8Bytes entry.1 == bytes with
  | none => exact hother
  | some entry => exact htable entry (List.mem_of_find?_eq_some hfind)

theorem requestDigests :
    digestJson targetEnv (resolutionRequestJson (.channel "G1")) =
      "b653fc91906d0684b1001d3a4cbf6cdd975f3ca355d43300a9ddff4c584893b7" ∧
    digestJson targetEnv (resolutionRequestJson (.channel "C1")) =
      "80688bb01e165963cc3560507fcc3680ee5bd1312d9ac4aee722895186b50074" := by
  decide +kernel

theorem address_stored {channelId : String} (digest : String)
    (hchars : 4 * (verifiedAddress (channelTarget channelId) digest 100).chars.length ≤ maxSnapshotBytes)
    (hplain : containsForbiddenDurableKey (verifiedAddress (channelTarget channelId) digest 100) = false) :
    canonicalizeSnapshot snapshotVersion "target address"
        (verifiedAddress (channelTarget channelId) digest 100).render =
      .ok (verifiedAddress (channelTarget channelId) digest 100).render := by
  have hparse := parse_verifiedAddress (channelTarget channelId) digest (show inI64 100 = true by decide)
  have hshort : byteLen (verifiedAddress (channelTarget channelId) digest 100).render ≤ maxSnapshotBytes :=
    (byteLen_ofList_le _).trans hchars
  unfold canonicalizeSnapshot
  rw [if_neg (by decide), if_neg (Nat.not_lt.mpr hshort), hparse]
  simp only [hplain, if_neg (Nat.not_lt.mpr hshort), Bool.false_eq_true, if_false]

theorem addresses_short :
    4 * (verifiedAddress (channelTarget "G1")
        "b653fc91906d0684b1001d3a4cbf6cdd975f3ca355d43300a9ddff4c584893b7" 100).chars.length ≤ maxSnapshotBytes ∧
      containsForbiddenDurableKey (verifiedAddress (channelTarget "G1")
        "b653fc91906d0684b1001d3a4cbf6cdd975f3ca355d43300a9ddff4c584893b7" 100) = false ∧
      4 * (verifiedAddress (channelTarget "C1")
        "80688bb01e165963cc3560507fcc3680ee5bd1312d9ac4aee722895186b50074" 100).chars.length ≤ maxSnapshotBytes ∧
      containsForbiddenDurableKey (verifiedAddress (channelTarget "C1")
        "80688bb01e165963cc3560507fcc3680ee5bd1312d9ac4aee722895186b50074" 100) = false := by
  decide +kernel

theorem G1_accepted : ∃ t, AcceptedAtCreation targetEnv none serviceInvocation (.channel "G1") (.channel "G1") 100
    (channelTarget "G1") t := by
  obtain ⟨hchars, hplain, _⟩ := addresses_short
  refine channelTarget_accepted (by decide) targetEnv_lowercase ?_
  rw [requestDigests.1]
  exact address_stored _ hchars hplain

theorem C1_accepted : ∃ t, AcceptedAtCreation targetEnv none serviceInvocation (.channel "C1") (.channel "C1") 100
    (channelTarget "C1") t := by
  obtain ⟨_, _, hchars, hplain⟩ := addresses_short
  refine channelTarget_accepted (by decide) targetEnv_lowercase ?_
  rw [requestDigests.2]
  exact address_stored _ hchars hplain

/-- 頭文字が `C` の会話への宛先は配送できる。 -/
theorem public_channel_routes : ∃ t, Routes (channelTarget "C1") t := by
  obtain ⟨t, ht⟩ := C1_accepted
  exact ⟨t, (accepted_target_routes_iff targetEnv none serviceInvocation (.channel "C1") (.channel "C1") 100
    (channelTarget "C1") t ht).mpr (by decide)⟩

/-- 受け入れた宛先のどれもが配送できるわけではない。 -/
theorem private_channel_never_routes : ¬∀ (E : Env) (expectedWorkspaceId : Option String)
    (invocation : ScheduleInvocation) (target : DeliveryTargetRequest) (requested : SlackTargetResolutionRequest)
    (now : Int) (verified : VerifiedSlackTarget) (snapshot : DeliveryTargetSnapshot),
    AcceptedAtCreation E expectedWorkspaceId invocation target requested now verified snapshot →
      Routes verified snapshot := by
  intro hall
  obtain ⟨t, ht⟩ := G1_accepted
  obtain ⟨kind, hkind, hparse⟩ := hall _ _ _ _ _ _ _ _ ht
  have hv := validateVerifiedSlackTarget_ok ht.valid
  obtain ⟨hbuilt, hdigest, hpos⟩ := verifiedSnapshot_ok hv ht.time ht.built
  rw [parseTarget_built hv ht.time hdigest hpos hbuilt] at hparse
  have hroute : routeKind "channel" "G1" none = .error "invalid_slack_target_route" := by decide
  have herror : (routeKind "channel" "G1" none).map (fun kind => (⟨kind, "G1", none⟩ : SlackCanonicalTarget)) =
      .ok ⟨kind, "G1", none⟩ := hparse
  rw [hroute] at herror
  cases herror

end Codeoff.Slack.ScheduledDelivery
