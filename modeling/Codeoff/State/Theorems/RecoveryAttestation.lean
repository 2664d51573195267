import Codeoff.Core.Sha256
import Codeoff.State.Lemmas.RecoveryAttestation
import Codeoff.State.Theorems.Lifecycle

/-!
# 復旧の証明の照合

照合が、発行された証明の文面だけを受け付けるのはいつか。
-/

namespace Codeoff.State

open Codeoff.Core Codeoff.Json Codeoff.Relational ScheduledPrepareAuthority

variable {E : Env} {claim claim' : ClaimedScheduledRun} {nonce nonce' : String} {A A' : ScheduledPrepareAuthority}
  {s d dpd : String} {epoch : UInt64} {v authority profile : Value} {members : List (String × Value)}

/-- 能力の写しの検査は、`AttestedCapabilityProfile::parse_canonical_json` である。 -/
def ParsesProfiles (E : Env) : Prop :=
  ∀ s, E.capabilityProfileParses s = (AttestedCapabilityProfile.parseCanonicalJson E.sha256Hex s).toBool

theorem ParsesProfiles.ok (hE : ParsesProfiles E) (h : E.capabilityProfileParses s = true) :
    ∃ w, Json.parse s = some w ∧ w.render = s ∧ w.Wf 2 := by
  rw [hE s] at h
  cases hparse : AttestedCapabilityProfile.parseCanonicalJson E.sha256Hex s with
  | error e => simp [hparse, Except.toBool] at h
  | ok p => exact AttestedCapabilityProfile.parseCanonicalJson_ok hparse

theorem ParsesProfiles.of_ok {p : AttestedCapabilityProfile} (hE : ParsesProfiles E)
    (h : AttestedCapabilityProfile.parseCanonicalJson E.sha256Hex s = .ok p) : E.capabilityProfileParses s = true := by
  rw [hE s, h]
  rfl

theorem ParsesProfiles.wf (hE : ParsesProfiles E) (hparse : Json.parse s = some v)
    (hget : v.get "capability_profile" = some profile) (h : E.capabilityProfileParses profile.render = true) :
    profile.Wf 2 := by
  obtain ⟨w, hw, hrender', hwf'⟩ := hE.ok h
  rwa [render_inj ((parse_sorted hparse).get hget) (hwf'.mono (by decide)) hrender'.symm]

def recoveryMembers (A : ScheduledPrepareAuthority) (authority profile : Value) : List (String × Value) := [
  ("authority", authority), ("authority_digest", .str A.digest), ("capability_profile", profile),
  ("execution_surface", executionSurface), ("schema_version", .int 2)]

def remoteRecoveryMembers (A : ScheduledPrepareAuthority) (dpd : String) (epoch : UInt64)
    (authority profile : Value) : List (String × Value) := [
  ("authority", authority), ("authority_digest", .str A.digest), ("capability_profile", profile),
  ("deployment_epoch", .int epoch.toNat), ("deployment_profile_digest", .str dpd),
  ("execution_surface", executionSurface), ("schema_version", .int 3)]

theorem carries_eq_object (h : Carries v members) (hkeys : (members.map Prod.fst).Nodup) (hsorted : v.Sorted)
    (hcount : AttestedCapabilityProfile.memberCount v = some members.length) : v = .object members := by
  cases v with
  | obj ms => exact Json.eq_object hsorted hkeys (Option.some.inj hcount) h
  | _ => cases hcount

theorem object_count (hkeys : (members.map Prod.fst).Nodup) :
    AttestedCapabilityProfile.memberCount (.object members) = some members.length := by
  obtain ⟨ms, hms, hlength⟩ := object_members hkeys
  rw [hms]
  exact congrArg some hlength

theorem attests_iff {version : Int} (hauthority : Json.parse A.canonicalJson = some authority) (hwf : authority.Wf 3) :
    A.attests E version s d v = true ↔ v.render = s ∧ E.sha256Hex (utf8Bytes s) = d ∧
      v.get "schema_version" = some (.int version) ∧ v.get "authority_digest" = some (.str A.digest) ∧
      v.get "authority" = some authority := by
  have hint : ∀ o : Option Value, o.bind Value.asInt = some version ↔ o = some (.int version) := by
    intro o
    cases o with
    | none => simp
    | some w => cases w <;> simp [Value.asInt]
  have hstr : ∀ o : Option Value, o.bind Value.asStr = some A.digest ↔ o = some (.str A.digest) := by
    intro o
    cases o with
    | none => simp
    | some w => cases w <;> simp [Value.asStr]
  unfold attests
  rw [hauthority]
  simp only [Bool.and_eq_true, beq_iff_eq, hint, hstr, and_assoc]
  cases v.get "authority" with
  | none => simp
  | some w => simp [hwf.beq_iff]

theorem executionSurface_wf : executionSurface.Wf 1 := Value.Wf.object (by simp)

theorem surface_and_profile_iff :
    ((v.get "execution_surface").map (executionSurface.beq ·)).getD false = true ∧
        ((v.get "capability_profile").map fun w => E.capabilityProfileParses w.render).getD false = true ↔
      v.get "execution_surface" = some executionSurface ∧
        ∃ w, v.get "capability_profile" = some w ∧ E.capabilityProfileParses w.render = true := by
  cases v.get "execution_surface" with
  | none => simp
  | some surface =>
    have hsurface : executionSurface.beq surface = true ↔ surface = executionSurface := 
      (Json.beq_iff _ executionSurface_wf.readable _).trans eq_comm
    cases v.get "capability_profile" with
    | none => simp
    | some w => simp [hsurface]

/-- 照合が通るのは、書き直しても同じ文面の封筒が、同じ権限と要約を持ち、検査を通る輪郭を収めるときである。 -/
theorem recoveryMatches_iff (hauthority : Json.parse A.canonicalJson = some authority) (hwf : authority.Wf 3) :
    A.recoveryAttestationMatches E s d = true ↔ ∃ v, Json.parse s = some v ∧ v.render = s ∧
      E.sha256Hex (utf8Bytes s) = d ∧ ∃ profile, E.capabilityProfileParses profile.render = true ∧
        Carries v (recoveryMembers A authority profile) := by
  unfold recoveryAttestationMatches
  cases hparse : Json.parse s with
  | none => simp
  | some v =>
    simp only [Bool.and_eq_true, and_assoc, surface_and_profile_iff, attests_iff hauthority hwf, Option.some.injEq,
      exists_eq_left', Carries, recoveryMembers, List.forall_mem_cons, List.not_mem_nil, false_imp_iff,
      implies_true, and_true]
    constructor
    · rintro ⟨hrender, hdigest, hversion, hid, hauth, hsurface, w, hprofile, hparses⟩
      exact ⟨hrender, hdigest, w, hparses, hauth, hid, hprofile, hsurface, hversion⟩
    · rintro ⟨hrender, hdigest, w, hparses, hauth, hid, hprofile, hsurface, hversion⟩
      exact ⟨hrender, hdigest, hversion, hid, hauth, hsurface, w, hprofile, hparses⟩

/-- 遠隔の照合が通るのは、七つの欄だけの封筒が、配備の世代と輪郭の要約まで合うときである。 -/
theorem remoteRecoveryMatches_iff (hauthority : Json.parse A.canonicalJson = some authority) (hwf : authority.Wf 3) :
    A.remoteRecoveryAttestationMatches E s d dpd epoch = true ↔ 0 < epoch ∧ isLowercaseSha256 dpd = true ∧
      ∃ v, Json.parse s = some v ∧ v.render = s ∧ E.sha256Hex (utf8Bytes s) = d ∧
        AttestedCapabilityProfile.memberCount v = some 7 ∧
          ∃ profile, E.capabilityProfileParses profile.render = true ∧
            Carries v (remoteRecoveryMembers A dpd epoch authority profile) := by
  have hstr : ∀ o : Option Value, o.bind Value.asStr = some dpd ↔ o = some (.str dpd) := by
    intro o
    cases o with
    | none => simp
    | some w => cases w <;> simp [Value.asStr]
  have hnat : ∀ o : Option Value, o.bind Value.asU64 = some epoch.toNat ↔ o = some (.int epoch.toNat) := by
    intro o
    cases o with
    | none => simp
    | some w =>
      cases w with
      | int n =>
        have hle : epoch.toNat ≤ u64Max := Nat.le_of_lt_succ epoch.toNat_lt
        cases n with
        | ofNat n =>
          have hsame : Int.ofNat n = (epoch.toNat : Int) ↔ n = epoch.toNat := Int.ofNat_inj
          simp only [Option.bind_some, Value.asU64, Option.some.injEq, Value.int.injEq, hsame]
          split
          · simp
          · rename_i hlarge
            refine iff_of_false (by simp) fun hn => hlarge (hn ▸ hle)
        | negSucc n => simp [Value.asU64]
      | _ => simp [Value.asU64]
  unfold remoteRecoveryAttestationMatches
  cases hparse : Json.parse s with
  | none => simp
  | some v =>
    simp only [Bool.and_eq_true, and_assoc, surface_and_profile_iff, attests_iff hauthority hwf, Option.some.injEq,
      exists_eq_left', Carries, remoteRecoveryMembers, List.forall_mem_cons, List.not_mem_nil, false_imp_iff,
      implies_true, and_true, beq_iff_eq, hstr, hnat, decide_eq_true_eq]
    constructor
    · rintro ⟨hcount, hrender, hdigest, hversion, hid, hauth, hdpd, hepoch, hpos, hlower, hsurface, w, hprofile,
        hparses⟩
      exact ⟨hpos, hlower, hrender, hdigest, hcount, w, hparses, hauth, hid, hprofile, hepoch, hdpd, hsurface,
        hversion⟩
    · rintro ⟨hpos, hlower, hrender, hdigest, hcount, w, hparses, hauth, hid, hprofile, hepoch, hdpd, hsurface,
        hversion⟩
      exact ⟨hcount, hrender, hdigest, hversion, hid, hauth, hdpd, hepoch, hpos, hlower, hsurface, w, hprofile,
        hparses⟩

theorem validateProfile_ok {p : String} :
    validateRecoveryCapabilityProfile E p = .ok profile ↔
      E.capabilityProfileParses p = true ∧ Json.parse p = some profile := by
  unfold validateRecoveryCapabilityProfile
  split
  · rename_i hparses
    cases Json.parse p <;> simp [hparses]
  · rename_i hparses
    simp [hparses]

theorem authorityValue_ok (hauthority : Json.parse A.canonicalJson = some authority) :
    A.authorityValue = .ok authority := by
  unfold authorityValue
  rw [hauthority]

/-- 発行された封筒は、読める輪郭を収めたものに限る。 -/
theorem recoveryIssued_iff (hE : ParsesProfiles E) (hauthority : Json.parse A.canonicalJson = some authority) :
    (∃ p, A.recoveryAttestationJson E p = .ok s) ↔ ∃ profile, E.capabilityProfileParses profile.render = true ∧
      profile.Wf 2 ∧ s = (Value.object (recoveryMembers A authority profile)).render := by
  unfold recoveryAttestationJson
  rw [authorityValue_ok hauthority]
  constructor
  · rintro ⟨p, h⟩
    obtain ⟨profile, hprofile, h⟩ := except_bind_ok.mp h
    cases h
    obtain ⟨hparses, hparse⟩ := validateProfile_ok.mp hprofile
    obtain ⟨w, hw, hrender, hwf⟩ := hE.ok hparses
    obtain rfl : profile = w := Option.some.inj (hparse.symm.trans hw)
    exact ⟨profile, hrender ▸ hparses, hwf, rfl⟩
  · rintro ⟨profile, hparses, hwf, rfl⟩
    refine ⟨profile.render, except_bind_ok.mpr ⟨profile, validateProfile_ok.mpr ⟨hparses, ?_⟩, rfl⟩⟩
    exact (hwf.mono (by decide)).parse_render

theorem remoteRecoveryIssued_iff (hE : ParsesProfiles E) (hauthority : Json.parse A.canonicalJson = some authority) :
    (∃ p, A.remoteRecoveryAttestationJson E p dpd epoch = .ok s) ↔ 0 < epoch ∧ isLowercaseSha256 dpd = true ∧
      ∃ profile, E.capabilityProfileParses profile.render = true ∧ profile.Wf 2 ∧
        s = (Value.object (remoteRecoveryMembers A dpd epoch authority profile)).render := by
  unfold remoteRecoveryAttestationJson
  rw [authorityValue_ok hauthority]
  constructor
  · rintro ⟨p, h⟩
    obtain ⟨profile, hprofile, h⟩ := except_bind_ok.mp h
    dsimp only at h
    by_cases hlower : isLowercaseSha256 dpd = false
    · rw [if_pos hlower] at h
      cases h
    rw [if_neg hlower] at h
    by_cases hepoch : epoch = 0
    · rw [if_pos hepoch] at h
      cases h
    rw [if_neg hepoch] at h
    cases h
    obtain ⟨hparses, hparse⟩ := validateProfile_ok.mp hprofile
    obtain ⟨w, hw, hrender, hwf⟩ := hE.ok hparses
    obtain rfl : profile = w := Option.some.inj (hparse.symm.trans hw)
    exact ⟨UInt64.pos_iff_ne_zero.mpr hepoch, by simpa using hlower, profile, hrender ▸ hparses, hwf, rfl⟩
  · rintro ⟨hepoch, hlower, profile, hparses, hwf, rfl⟩
    have hparse : Json.parse profile.render = some profile := (hwf.mono (by decide)).parse_render
    refine ⟨profile.render, except_bind_ok.mpr ⟨profile, validateProfile_ok.mpr ⟨hparses, hparse⟩, ?_⟩⟩
    rw [if_neg (by simp [hlower]), if_neg (UInt64.pos_iff_ne_zero.mp hepoch)]
    rfl

/-! ## 発行された文面だけが受け付けられるとき -/

theorem recoveryMembers_wf (hauthority : authority.Wf 3) (hprofile : profile.Wf 2) :
    (Value.object (recoveryMembers A authority profile)).Wf maxDepth := by
  have htwo : (Value.int 2).Wf 3 := u32_wf (n := 2) (by decide)
  have hobject : (Value.object (recoveryMembers A authority profile)).Wf 4 := Value.Wf.object (by
    simp [recoveryMembers, hauthority, hprofile.mono, executionSurface_wf.mono, htwo])
  exact hobject.mono (by decide)

theorem remoteRecoveryMembers_wf (hauthority : authority.Wf 3) (hprofile : profile.Wf 2) :
    (Value.object (remoteRecoveryMembers A dpd epoch authority profile)).Wf maxDepth := by
  have hthree : (Value.int 3).Wf 3 := u32_wf (n := 3) (by decide)
  have hepoch : (Value.int epoch.toNat).Wf 3 := wf_int (by omega) (by
    have := epoch.toNat_lt
    unfold u64Max
    omega)
  have hobject : (Value.object (remoteRecoveryMembers A dpd epoch authority profile)).Wf 4 := Value.Wf.object (by
    simp [remoteRecoveryMembers, hauthority, hprofile.mono, executionSurface_wf.mono, hthree, hepoch])
  exact hobject.mono (by decide)

theorem recoveryMembers_nodup : ((recoveryMembers A authority profile).map Prod.fst).Nodup := by simp [recoveryMembers]

theorem remoteRecoveryMembers_nodup : ((remoteRecoveryMembers A dpd epoch authority profile).map Prod.fst).Nodup := by
  simp [remoteRecoveryMembers]

theorem recoveryMatches_issued (hauthority : Json.parse A.canonicalJson = some authority) (hwf : authority.Wf 3)
    (hprofile : profile.Wf 2) (hparses : E.capabilityProfileParses profile.render = true)
    (hs : s = (Value.object (recoveryMembers A authority profile)).render) :
    A.recoveryAttestationMatches E s (E.sha256Hex (utf8Bytes s)) = true := by
  have hobject := recoveryMembers_wf (A := A) hwf hprofile
  refine (recoveryMatches_iff hauthority hwf).mpr ⟨_, ?_, hs.symm, rfl, profile, hparses,
    carries_object recoveryMembers_nodup⟩
  rw [hs, hobject.parse_render]

theorem remoteRecoveryMatches_issued (hauthority : Json.parse A.canonicalJson = some authority)
    (hwf : authority.Wf 3) (hprofile : profile.Wf 2) (hparses : E.capabilityProfileParses profile.render = true)
    (hepoch : 0 < epoch) (hlower : isLowercaseSha256 dpd = true)
    (hs : s = (Value.object (remoteRecoveryMembers A dpd epoch authority profile)).render) :
    A.remoteRecoveryAttestationMatches E s (E.sha256Hex (utf8Bytes s)) dpd epoch = true := by
  have hobject : (Value.object (remoteRecoveryMembers A dpd epoch authority profile)).Wf maxDepth :=
    remoteRecoveryMembers_wf hwf hprofile
  refine (remoteRecoveryMatches_iff hauthority hwf).mpr ⟨hepoch, hlower, _, ?_, hs.symm, rfl, ?_, profile, hparses,
    carries_object remoteRecoveryMembers_nodup⟩
  · rw [hs, hobject.parse_render]
  · exact object_count remoteRecoveryMembers_nodup

/-- 発行された文面の成員をすべて持ち、その文面ではない、要約値の合う正準形の文面。 -/
def PaddedEnvelope (E : Env) (A : ScheduledPrepareAuthority) (s d : String) : Prop :=
  E.sha256Hex (utf8Bytes s) = d ∧ ∃ v p issued envelope, Json.parse s = some v ∧ v.render = s ∧
    A.recoveryAttestationJson E p = .ok issued ∧ Json.parse issued = some envelope ∧
    (∀ key member, envelope.get key = some member → v.get key = some member) ∧ s ≠ issued

/-- 照合は、発行された文面だけを、発行した権限について受け付ける。 -/
structure AttestationExact (E : Env) (claim : ClaimedScheduledRun) (A : ScheduledPrepareAuthority) (s d : String) :
    Prop where
  onMachine : A.recoveryAttestationMatches E s d = true ↔
    d = E.sha256Hex (utf8Bytes s) ∧ ∃ p, A.recoveryAttestationJson E p = .ok s
  remote : ∀ dpd epoch, A.remoteRecoveryAttestationMatches E s d dpd epoch = true ↔
    d = E.sha256Hex (utf8Bytes s) ∧ ∃ p, A.remoteRecoveryAttestationJson E p dpd epoch = .ok s
  /-- 別の権限の文面は受け付けない。 -/
  exclusive : ∀ claim' nonce' A' p, claim'.InRange → forClaim E claim' nonce' = .ok A' →
    Set.InjOn E.sha256Hex (authorityTexts claim A ∪ authorityTexts claim' A') →
      A'.recoveryAttestationJson E p = .ok s → A.recoveryAttestationMatches E s d = true → A = A'
  exclusiveRemote : ∀ claim' nonce' A' p dpd epoch dpd' epoch', claim'.InRange → forClaim E claim' nonce' = .ok A' →
    Set.InjOn E.sha256Hex (authorityTexts claim A ∪ authorityTexts claim' A') →
      A'.remoteRecoveryAttestationJson E p dpd' epoch' = .ok s →
        A.remoteRecoveryAttestationMatches E s d dpd epoch = true → A = A' ∧ dpd = dpd' ∧ epoch = epoch'

theorem padded_matches (hE : ParsesProfiles E) (hauthority : Json.parse A.canonicalJson = some authority)
    (hwf : authority.Wf 3) (h : PaddedEnvelope E A s d) : A.recoveryAttestationMatches E s d = true := by
  obtain ⟨hdigest, v, p, issued, envelope, hparse, hrender, hissued, henvelope, hcarries, -⟩ := h
  obtain ⟨profile, hparses, hprofile, rfl⟩ := (recoveryIssued_iff hE hauthority).mp ⟨p, hissued⟩
  rw [(recoveryMembers_wf hwf hprofile).parse_render] at henvelope
  obtain rfl := Option.some.inj henvelope
  refine (recoveryMatches_iff hauthority hwf).mpr ⟨v, hparse, hrender, hdigest, profile, hparses, fun m hm => ?_⟩
  exact hcarries m.1 m.2 (carries_object recoveryMembers_nodup m hm)

theorem padded_not_issued (hE : ParsesProfiles E) (hauthority : Json.parse A.canonicalJson = some authority)
    (hwf : authority.Wf 3) (h : PaddedEnvelope E A s d) : ¬∃ p, A.recoveryAttestationJson E p = .ok s := by
  intro hissued'
  obtain ⟨-, v, p, issued, envelope, hparse, -, hissued, henvelope, hcarries, hne⟩ := h
  obtain ⟨profile', -, hprofile', hs⟩ := (recoveryIssued_iff hE hauthority).mp hissued'
  obtain ⟨profile, -, hprofile, rfl⟩ := (recoveryIssued_iff hE hauthority).mp ⟨p, hissued⟩
  rw [hs, (recoveryMembers_wf hwf hprofile').parse_render] at hparse
  rw [(recoveryMembers_wf hwf hprofile).parse_render] at henvelope
  obtain rfl := Option.some.inj hparse
  obtain rfl := Option.some.inj henvelope
  have hcarried : Carries (.object (recoveryMembers A authority profile')) (recoveryMembers A authority profile) :=
    fun m hm => hcarries m.1 m.2 (carries_object recoveryMembers_nodup m hm)
  have hsame : profile' = profile := hcarried.same recoveryMembers_nodup "capability_profile"
    (by simp [recoveryMembers]) (by simp [recoveryMembers])
  exact hne (by rw [hs, hsame])

/-- 照合を通る封筒は、発行されたものか、余分な欄のあるものである。 -/
theorem issued_or_padded (hE : ParsesProfiles E) (hauthority : Json.parse A.canonicalJson = some authority)
    (hwf : authority.Wf 3) (h : A.recoveryAttestationMatches E s d = true) :
    (∃ p, A.recoveryAttestationJson E p = .ok s) ∨ PaddedEnvelope E A s d := by
  obtain ⟨v, hparse, hrender, hdigest, profile, hparses, hcarries⟩ := (recoveryMatches_iff hauthority hwf).mp h
  have hprofile : profile.Wf 2 :=
    hE.wf hparse (hcarries ("capability_profile", profile) (by simp [recoveryMembers])) hparses
  obtain ⟨p, hp⟩ := (recoveryIssued_iff hE hauthority).mpr ⟨profile, hparses, hprofile, rfl⟩
  by_cases hsame : s = (Value.object (recoveryMembers A authority profile)).render
  · exact .inl ⟨p, hsame ▸ hp⟩
  · refine .inr ⟨hdigest, v, p, _, _, hparse, hrender, hp, (recoveryMembers_wf hwf hprofile).parse_render, ?_, hsame⟩
    intro key member hmember
    rw [get_object recoveryMembers_nodup] at hmember
    obtain ⟨m, hfind, rfl⟩ := Option.map_eq_some_iff.mp hmember
    obtain rfl : m.1 = key := by simpa using List.find?_some hfind
    exact hcarries m (List.mem_of_find?_eq_some hfind)

/-- 遠隔の照合を通る封筒は、発行されたものに限る。 -/
theorem remoteRecovery_issued (hE : ParsesProfiles E) (hauthority : Json.parse A.canonicalJson = some authority)
    (hwf : authority.Wf 3) (h : A.remoteRecoveryAttestationMatches E s d dpd epoch = true) :
    d = E.sha256Hex (utf8Bytes s) ∧ ∃ p, A.remoteRecoveryAttestationJson E p dpd epoch = .ok s := by
  obtain ⟨hepoch, hlower, v, hparse, hrender, hdigest, hcount, profile, hparses, hcarries⟩ :=
    (remoteRecoveryMatches_iff hauthority hwf).mp h
  have hget := hcarries ("capability_profile", profile) (by simp [remoteRecoveryMembers])
  have hv := carries_eq_object hcarries remoteRecoveryMembers_nodup (parse_sorted hparse) hcount
  refine ⟨hdigest.symm, (remoteRecoveryIssued_iff hE hauthority).mpr ⟨hepoch, hlower, profile, hparses,
    hE.wf hparse hget hparses, ?_⟩⟩
  rw [← hv, hrender]

theorem same_authority (h : BuiltAuthority E claim nonce A) (h' : BuiltAuthority E claim' nonce' A')
    (hr : claim.InRange) (hr' : claim'.InRange) (hrender : authority.render = A.canonicalJson)
    (hrender' : authority.render = A'.canonicalJson)
    (hinj : Set.InjOn E.sha256Hex (authorityTexts claim A ∪ authorityTexts claim' A')) : A = A' :=
  h.unique h' hr hr' (hrender.symm.trans hrender') hinj

/-- 要約の衝突しない文面では、一つの封筒が合うのは一つの権限だけである。 -/
theorem recovery_exclusive {p : String} (hE : ParsesProfiles E) (h : BuiltAuthority E claim nonce A)
    (h' : BuiltAuthority E claim' nonce' A') (hr : claim.InRange) (hr' : claim'.InRange)
    (hinj : Set.InjOn E.sha256Hex (authorityTexts claim A ∪ authorityTexts claim' A'))
    (hissued : A'.recoveryAttestationJson E p = .ok s) (hmatches : A.recoveryAttestationMatches E s d = true) :
    A = A' := by
  obtain ⟨authority, hauthority, hrender, hwf⟩ := h.parse hr
  obtain ⟨authority', hauthority', hrender', hwf'⟩ := h'.parse hr'
  obtain ⟨profile', -, hprofile', rfl⟩ := (recoveryIssued_iff hE hauthority').mp ⟨p, hissued⟩
  obtain ⟨v, hparse, -, -, profile, -, hcarries⟩ := (recoveryMatches_iff hauthority hwf).mp hmatches
  rw [(recoveryMembers_wf hwf' hprofile').parse_render] at hparse
  obtain rfl := Option.some.inj hparse
  have hsame : authority' = authority := hcarries.same recoveryMembers_nodup "authority"
    (by simp [recoveryMembers]) (by simp [recoveryMembers])
  exact same_authority h h' hr hr' hrender (hsame ▸ hrender') hinj

theorem remoteRecovery_exclusive {p dpd' : String} {epoch' : UInt64} (hE : ParsesProfiles E)
    (h : BuiltAuthority E claim nonce A) (h' : BuiltAuthority E claim' nonce' A') (hr : claim.InRange)
    (hr' : claim'.InRange)
    (hinj : Set.InjOn E.sha256Hex (authorityTexts claim A ∪ authorityTexts claim' A'))
    (hissued : A'.remoteRecoveryAttestationJson E p dpd' epoch' = .ok s)
    (hmatches : A.remoteRecoveryAttestationMatches E s d dpd epoch = true) :
    A = A' ∧ dpd = dpd' ∧ epoch = epoch' := by
  obtain ⟨authority, hauthority, hrender, hwf⟩ := h.parse hr
  obtain ⟨authority', hauthority', hrender', hwf'⟩ := h'.parse hr'
  obtain ⟨-, -, profile', -, hprofile', rfl⟩ := (remoteRecoveryIssued_iff hE hauthority').mp ⟨p, hissued⟩
  obtain ⟨-, -, v, hparse, -, -, -, profile, -, hcarries⟩ := (remoteRecoveryMatches_iff hauthority hwf).mp hmatches
  rw [(remoteRecoveryMembers_wf hwf' hprofile').parse_render] at hparse
  obtain rfl := Option.some.inj hparse
  have hauthorities : authority' = authority := hcarries.same remoteRecoveryMembers_nodup "authority"
    (by simp [remoteRecoveryMembers]) (by simp [remoteRecoveryMembers])
  have hdpd : Value.str dpd' = .str dpd := hcarries.same remoteRecoveryMembers_nodup "deployment_profile_digest"
    (by simp [remoteRecoveryMembers]) (by simp [remoteRecoveryMembers])
  have hepoch : Value.int epoch'.toNat = .int epoch.toNat := hcarries.same remoteRecoveryMembers_nodup
    "deployment_epoch" (by simp [remoteRecoveryMembers]) (by simp [remoteRecoveryMembers])
  refine ⟨same_authority h h' hr hr' hrender (hauthorities ▸ hrender') hinj, (Value.str.inj hdpd).symm, ?_⟩
  exact UInt64.toNat_inj.mp (by exact_mod_cast (Value.int.inj hepoch).symm)

/-- 照合が発行と合うのは、余分な成員を持つ文面でないとき、そのときに限る。 -/
theorem attestation_exact_iff (hE : ParsesProfiles E) (hA : forClaim E claim nonce = .ok A) (hr : claim.InRange)
    (s d : String) : AttestationExact E claim A s d ↔ ¬PaddedEnvelope E A s d := by
  have hbuilt := forClaim_built hA
  obtain ⟨authority, hauthority, hrender, hwf⟩ := hbuilt.parse hr
  constructor
  · intro hexact hpadded
    exact padded_not_issued hE hauthority hwf hpadded
      (hexact.onMachine.mp (padded_matches hE hauthority hwf hpadded)).2
  · intro hpadded
    refine ⟨⟨fun hmatches => ?_, ?_⟩, fun dpd epoch => ⟨fun hmatches => ?_, ?_⟩, ?_, ?_⟩
    · have hdigest : E.sha256Hex (utf8Bytes s) = d := by
        obtain ⟨-, -, -, hdigest, -⟩ := (recoveryMatches_iff hauthority hwf).mp hmatches
        exact hdigest
      exact ⟨hdigest.symm, (issued_or_padded hE hauthority hwf hmatches).resolve_right hpadded⟩
    · rintro ⟨rfl, hissued⟩
      obtain ⟨profile, hparses, hprofile, hs⟩ := (recoveryIssued_iff hE hauthority).mp hissued
      exact recoveryMatches_issued hauthority hwf hprofile hparses hs
    · exact remoteRecovery_issued hE hauthority hwf hmatches
    · rintro ⟨rfl, hissued⟩
      obtain ⟨hepoch, hlower, profile, hparses, hprofile, hs⟩ := (remoteRecoveryIssued_iff hE hauthority).mp hissued
      exact remoteRecoveryMatches_issued hauthority hwf hprofile hparses hepoch hlower hs
    · intro claim' nonce' A' p hr' hA' hinj hissued hmatches
      exact recovery_exclusive hE hbuilt (forClaim_built hA') hr hr' hinj hissued hmatches
    · intro claim' nonce' A' p dpd epoch dpd' epoch' hr' hA' hinj hissued hmatches
      exact remoteRecovery_exclusive hE hbuilt (forClaim_built hA') hr hr' hinj hissued hmatches

/-! ## 余分な成員を持つ証明 -/

def extendedEnvelope (A : ScheduledPrepareAuthority) (authority profile : Value) (key : String) (extra : Value) :
    String :=
  (Value.object (recoveryMembers A authority profile ++ [(key, extra)])).render

theorem extended_padded (key : String) {extra : Value} (hE : ParsesProfiles E)
    (hauthority : Json.parse A.canonicalJson = some authority) (hwf : authority.Wf 3) (hprofile : profile.Wf 2)
    (hparses : E.capabilityProfileParses profile.render = true) (hextra : extra.Wf 3)
    (hkey : key ∉ (recoveryMembers A authority profile).map Prod.fst) :
    PaddedEnvelope E A (extendedEnvelope A authority profile key extra)
      (E.sha256Hex (utf8Bytes (extendedEnvelope A authority profile key extra))) := by
  have hkeys : ((recoveryMembers A authority profile ++ [(key, extra)]).map Prod.fst).Nodup := by
    rw [List.map_append]
    exact List.Nodup.append recoveryMembers_nodup (List.nodup_singleton key) (by simpa using hkey)
  have htwo : (Value.int 2).Wf 3 := u32_wf (n := 2) (by decide)
  have hobject : (Value.object (recoveryMembers A authority profile ++ [(key, extra)])).Wf 4 := Value.Wf.object (by
    simp [recoveryMembers, hwf, hprofile.mono, executionSurface_wf.mono, htwo, hextra])
  have hparse := (hobject.mono (by decide)).parse_render
  have henvelope := (recoveryMembers_wf (A := A) hwf hprofile).parse_render
  obtain ⟨p, hp⟩ := (recoveryIssued_iff hE hauthority).mpr ⟨profile, hparses, hprofile, rfl⟩
  refine ⟨rfl, _, p, _, _, hparse, rfl, hp, henvelope, ?_, ?_⟩
  · intro key' member hmember
    rw [get_object recoveryMembers_nodup] at hmember
    obtain ⟨m, hfind, rfl⟩ := Option.map_eq_some_iff.mp hmember
    obtain rfl : m.1 = key' := by simpa using List.find?_some hfind
    exact carries_object hkeys m (List.mem_append_left _ (List.mem_of_find?_eq_some hfind))
  · -- 足した成員は、発行された文面にない。
    intro hsame
    have hvalue := Option.some.inj (hparse.symm.trans ((congrArg Json.parse hsame).trans henvelope))
    have hget := carries_object hkeys (key, extra) (by simp)
    rw [hvalue, get_object recoveryMembers_nodup] at hget
    obtain ⟨m, hfind, -⟩ := Option.map_eq_some_iff.mp hget
    obtain rfl : m.1 = key := by simpa using List.find?_some hfind
    exact hkey (List.mem_map_of_mem (List.mem_of_find?_eq_some hfind))

def hex64 (c : Char) : String := String.ofList (List.replicate 64 c)

def attestedProfile : AttestedCapabilityProfile where
  codexVersion := "0.144.6"
  appServerSchemaSha256 := hex64 '1'
  codexProgramSha256 := hex64 '2'
  githubMcpVersion := "1.6.0"
  githubMcpConfiguredArtifactSha256 := hex64 '3'
  githubMcpConfiguredEndpointIdentity := "configured-sidecar"
  githubMcpAccessAuthMode := "supervisor-dynamic-tools-v1"
  githubMcpAccessTokenRevision := "mcp-channel-v1"
  githubMcpHealthCheckedAtUnixSeconds := 1
  githubMcpHealthCredentialRevision := "credential-v1"
  githubMcpHealthResultSha256 := hex64 '4'
  githubMcpHealthTool := "get_me"
  githubToolSchemaSha256 := hex64 '9'
  githubTools := expectedGithubTools
  credentialReference := "configured-credential"
  permissionPolicyRevision := "policy-v1"
  configRevision := "config-v1"
  configSha256 := hex64 '5'
  gatewayImageDigest := "sha256:" ++ hex64 '6'
  runnerImageDigest := "sha256:" ++ hex64 '7'
  runnerWorkloadIdentity := "spiffe://codeoff/runner/production"
  runnerClientCertPublicKeyFingerprint := hex64 '8'
  credentialRevision := "credential-v1"
  credentialIsolationRevision := "isolation-v1"
  credentialDenyPolicyRevision := "deny-v1"
  negativeTestRevision := "negative-v1"
  outputSchemaRevision := "output-v1"
  attestedAtUnixSeconds := 1
  profileSha256 := "955762c184236b29586ea8aa4ee451bb24d0a401017a7d873daa4eda03a980ef"

set_option maxRecDepth 100000 in
instance attestedProfile_digest : Fact
    (attestedProfile.computedProfileSha256 Sha256.sha256Hex = attestedProfile.profileSha256) := ⟨by
  unfold AttestedCapabilityProfile.computedProfileSha256 Value.render
  rw [utf8Bytes_ofList]
  decide +kernel⟩

theorem attestedProfile_valid : attestedProfile.validate Sha256.sha256Hex = .ok () := by
  have hrevision : (CredentialRevision.parse attestedProfile.githubMcpAccessTokenRevision).toBool = true := by
    decide +kernel
  have htexts : (attestedProfile.textFields.any (· == "")) = false := by decide +kernel
  have hdigests : (attestedProfile.digestFields.all isLowercaseSha256 &&
      [attestedProfile.gatewayImageDigest, attestedProfile.runnerImageDigest].all
        AttestedCapabilityProfile.isImageDigest) = true := by decide +kernel
  have htools : attestedProfile.githubTools = btreeSet expectedGithubTools := by decide +kernel
  unfold AttestedCapabilityProfile.validate
  rw [attestedProfile_digest.out, if_neg ?_, if_pos hdigests]
  rintro (h | h | h | h | h | h | h | h | h)
  · cases h
  · exact h rfl
  · exact h rfl
  · exact h rfl
  · exact h rfl
  · rw [hrevision] at h
    cases h
  · exact h rfl
  · rw [htexts] at h
    cases h
  · exact h htools

theorem attestedProfile_accepted :
    AttestedCapabilityProfile.parseCanonicalJson Sha256.sha256Hex attestedProfile.canonicalJson =
      .ok attestedProfile :=
  AttestedCapabilityProfile.parseCanonicalJson_canonicalJson attestedProfile_valid (by decide) (by decide +kernel)

def attestedEnv : Env where
  cron := idleCron
  sha256Hex := Sha256.sha256Hex
  capabilityProfileParses s := (AttestedCapabilityProfile.parseCanonicalJson Sha256.sha256Hex s).toBool

theorem attestedEnv_parsesProfiles : ParsesProfiles attestedEnv := fun _ => rfl

def attestedClaim : ClaimedScheduledRun where
  binding := ⟨"scheduled:j:100", "j", 1, 1, "w"⟩
  scheduleId := "s"
  jobGeneration := 0
  scheduleGeneration := 0
  scheduledFor := 100
  coalescedThrough := 100
  definition := ⟨1, "\x7b\"instruction\":\"Summarise open issues.\"\x7d"⟩
  capability := ⟨1, "d", "\x7b\x7d"⟩
  targets := []
  executionBaseline := ⟨0, none, none⟩
  policy := defaultPolicy

theorem attestedClaim_inRange : attestedClaim.InRange := by
  constructor <;> decide +kernel

instance attestedAuthority_built : Fact ((forClaim attestedEnv attestedClaim (hex64 'a')).toBool = true) :=
  ⟨by decide +kernel⟩

/-- 一例の権限の証明に、`note` を足した文面。 -/
def notedEnvelope (A : ScheduledPrepareAuthority) (authority : Value) : String :=
  extendedEnvelope A authority (.object attestedProfile.members) "note" .null

theorem noted_accepted (h : forClaim attestedEnv attestedClaim (hex64 'a') = .ok A)
    (hauthority : Json.parse A.canonicalJson = some authority) :
    A.recoveryAttestationMatches attestedEnv (notedEnvelope A authority)
        (Sha256.sha256Hex (utf8Bytes (notedEnvelope A authority))) = true ∧
      ¬∃ p, A.recoveryAttestationJson attestedEnv p = .ok (notedEnvelope A authority) := by
  obtain ⟨authority', hauthority', -, hwf⟩ := (forClaim_built h).parse attestedClaim_inRange
  obtain rfl := Option.some.inj (hauthority.symm.trans hauthority')
  have hparses : attestedEnv.capabilityProfileParses (Value.object attestedProfile.members).render = true :=
    attestedEnv_parsesProfiles.of_ok attestedProfile_accepted
  have hpadded := extended_padded "note" attestedEnv_parsesProfiles hauthority hwf
    (AttestedCapabilityProfile.members_wf (by decide) (by decide)) hparses wf_null (by simp [recoveryMembers])
  exact ⟨padded_matches attestedEnv_parsesProfiles hauthority hwf hpadded,
    padded_not_issued attestedEnv_parsesProfiles hauthority hwf hpadded⟩

theorem attestedAuthority_ok : ∃ A, forClaim attestedEnv attestedClaim (hex64 'a') = .ok A := by
  cases hA : forClaim attestedEnv attestedClaim (hex64 'a') with
  | ok A => exact ⟨A, rfl⟩
  | error e =>
    have hbuilt := attestedAuthority_built.out
    rw [hA] at hbuilt
    cases hbuilt

/-- 正しい請求から作った権限について。 -/
theorem attestation_exact_iff_sample : ∃ A, forClaim attestedEnv attestedClaim (hex64 'a') = .ok A ∧
    ∀ s d, AttestationExact attestedEnv attestedClaim A s d ↔ ¬PaddedEnvelope attestedEnv A s d := by
  obtain ⟨A, hA⟩ := attestedAuthority_ok
  exact ⟨A, hA, attestation_exact_iff attestedEnv_parsesProfiles hA attestedClaim_inRange⟩

/-- `note` を足した文面は、発行されたものではないが、受け付けられる。 -/
theorem noted_attestation_accepted : ∃ A authority, forClaim attestedEnv attestedClaim (hex64 'a') = .ok A ∧
    Json.parse A.canonicalJson = some authority ∧
    A.recoveryAttestationMatches attestedEnv (notedEnvelope A authority)
        (Sha256.sha256Hex (utf8Bytes (notedEnvelope A authority))) = true ∧
      ¬∃ p, A.recoveryAttestationJson attestedEnv p = .ok (notedEnvelope A authority) := by
  obtain ⟨A, hA⟩ := attestedAuthority_ok
  obtain ⟨authority, hauthority, -⟩ := (forClaim_built hA).parse attestedClaim_inRange
  exact ⟨A, authority, hA, hauthority, noted_accepted hA hauthority⟩

end Codeoff.State
