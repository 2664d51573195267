import Codeoff.Codex.Lemmas.Isolation

/-!
# 遠隔へ渡す許可

許可は、渡した文面から同じ束縛のもとで読み戻せる。
-/

namespace Codeoff.Codex

open Codeoff.Core Codeoff.Json Codeoff.Relational Codeoff.Runtime Codeoff.Agent

variable {v : Value} {key encoded : String} {n : Int} {now later : Nat} {authority authority' : ScheduledDeploymentAuthority}
  {identity identity' : ScheduledExecutionIdentity} {p p' : ScheduledIsolationPermit}
  {authorityDigest credentialRevision sessionNonce profileDigest nonce permitId : String}

/-- 整数の欄は `i64` と `u64` に収まる。 -/
structure ScheduledDeploymentAuthority.InRange (a : ScheduledDeploymentAuthority) : Prop where
  deploymentEpoch : a.deploymentEpoch ≤ maxI64
  expiresAt : a.expiresAtUnixSeconds ≤ Json.u64Max

structure ScheduledExecutionIdentity.InRange (i : ScheduledExecutionIdentity) : Prop where
  attempt : i.attempt ≤ maxI64
  fence : i.fence ≤ maxI64

theorem get_valueAsI64 : (v.get key).bind valueAsI64 = some n ↔
    v.get key = some (.int n) ∧ -(2 ^ 63) ≤ n ∧ n ≤ maxI64 := by
  constructor
  · intro h
    obtain ⟨w, hw, hn⟩ := Option.bind_eq_some_iff.mp h
    unfold valueAsI64 at hn
    split at hn
    · split at hn
      · rename_i hbound
        cases hn
        exact ⟨hw, hbound⟩
      · cases hn
    · cases hn
  · rintro ⟨hget, hbound⟩
    rw [hget]
    exact if_pos hbound

theorem positive_wf {depth : Nat} (hpos : 0 < n) (hle : n ≤ maxI64) : (Value.int n).Wf depth := by
  have hmax : (maxI64 : Int) ≤ Json.u64Max := by decide
  exact wf_int (by omega) (by omega)

theorem fromConsumed_ok :
    ScheduledIsolationPermit.fromConsumed authority identity profileDigest nonce permitId now = .ok p ↔
      (authority.schemaVersion = 1 ∧ 0 < authority.deploymentEpoch ∧ now < authority.expiresAtUnixSeconds ∧
        authority.profileDigest = profileDigest ∧ identity.runId ≠ "" ∧ identity.jobId ≠ "" ∧ 0 < identity.attempt ∧
        0 < identity.fence ∧ isLowercaseSha256 nonce = true ∧ isLowercaseSha256 permitId = true) ∧
      p = ⟨identity, authority.deploymentEpoch, authority.attestationId, profileDigest, nonce, permitId,
        authority.isolationRevision, authority.expiresAtUnixSeconds⟩ := by
  simp only [ScheduledIsolationPermit.fromConsumed, except_bind_ok, refuse_ok, not_or, ne_eq, not_not, not_le,
    Bool.not_eq_false]
  constructor
  · rintro ⟨_, hbinding, h⟩
    exact ⟨hbinding, (Except.ok.inj h).symm⟩
  · rintro ⟨hbinding, rfl⟩
    exact ⟨(), hbinding, rfl⟩

theorem intoRemoteEnvelope_ok {text : String} :
    p.intoRemoteEnvelope authorityDigest credentialRevision sessionNonce now = .ok text ↔
      (isLowercaseSha256 authorityDigest = true ∧ isLowercaseSha256 sessionNonce = true ∧
        (CredentialRevision.parse credentialRevision).toBool = true ∧ now < p.expiresAtUnixSeconds) ∧
      text = (Value.object (p.envelopeMembers authorityDigest credentialRevision sessionNonce)).render := by
  simp only [ScheduledIsolationPermit.intoRemoteEnvelope, except_bind_ok, refuse_ok, not_or, not_le,
    Bool.not_eq_false]
  constructor
  · rintro ⟨_, hbinding, h⟩
    exact ⟨hbinding, (Except.ok.inj h).symm⟩
  · rintro ⟨hbinding, rfl⟩
    exact ⟨(), hbinding, rfl⟩

theorem envelopeMembers_nodup (p : ScheduledIsolationPermit) (authorityDigest credentialRevision sessionNonce : String) :
    ((p.envelopeMembers authorityDigest credentialRevision sessionNonce).map Prod.fst).Nodup := by
  simp [ScheduledIsolationPermit.envelopeMembers]

theorem eq_envelope (p : ScheduledIsolationPermit) (authorityDigest credentialRevision sessionNonce : String)
    (hv : v.Sorted) (hfields : hasExactFields v RemoteIsolationPermitEnvelope.fields = true)
    (hget : Carries v (p.envelopeMembers authorityDigest credentialRevision sessionNonce)) :
    v = .object (p.envelopeMembers authorityDigest credentialRevision sessionNonce) :=
  eq_object_of_fields hv hfields (envelopeMembers_nodup p authorityDigest credentialRevision sessionNonce) rfl hget

theorem importPermit_text (h : RemoteIsolationPermitEnvelope.importPermit encoded authority identity authorityDigest
      credentialRevision sessionNonce now later = .ok p) :
    (isLowercaseSha256 authority.profileDigest = true ∧ isLowercaseSha256 sessionNonce = true ∧
      isLowercaseSha256 authorityDigest = true ∧ (CredentialRevision.parse credentialRevision).toBool = true) ∧
    ScheduledIsolationPermit.fromConsumed authority identity authority.profileDigest p.nonce p.permitId later = .ok p ∧
    Json.parse encoded = some (.object (p.envelopeMembers authorityDigest credentialRevision sessionNonce)) ∧
    encoded = (Value.object (p.envelopeMembers authorityDigest credentialRevision sessionNonce)).render := by
  simp only [RemoteIsolationPermitEnvelope.importPermit, except_bind_ok, orPreflight_ok, refuse_ok,
    Option.filter_eq_some_iff, not_or, ne_eq, not_not, Bool.not_eq_false, get_asStr, get_asU64, get_valueAsI64,
    decide_eq_true_eq] at h
  obtain ⟨object, hparse, _, hfields, expiresAt, ⟨⟨hexpires, -⟩, -⟩, _, ⟨hversion, -⟩, nonce, hnonce, permitId, hpermit,
    profileDigest, hprofile, sessionNonce, hsession, authorityDigest, hdigest, credentialRevision, hrevision, _,
    ⟨-, -, hprofileHex, hsessionHex, hdigestHex, hrevisionOk⟩, attestationId, hattestation, _, hbound, epoch,
    ⟨⟨hepoch, -⟩, -⟩, _, hepochs, runId, hrun, _, hruns, jobId, hjob, _, hjobs, attempt, ⟨⟨hattempt, -⟩, -⟩, _, hattempts,
    fence, ⟨⟨hfence, -⟩, -⟩, _, ⟨hfences, hexpiries, hrender⟩, hconsumed⟩ := h
  obtain ⟨rfl, hprofiles, rfl, rfl, rfl⟩ := hbound
  subst hprofiles hepochs hruns hjobs hattempts hfences hexpiries
  obtain ⟨-, rfl⟩ := fromConsumed_ok.mp hconsumed
  have hobject := eq_envelope ⟨identity, authority.deploymentEpoch, authority.attestationId, authority.profileDigest,
    nonce, permitId, authority.isolationRevision, authority.expiresAtUnixSeconds⟩ authorityDigest credentialRevision
    sessionNonce (parse_sorted hparse) hfields (by
      simp only [Carries, ScheduledIsolationPermit.envelopeMembers, List.forall_mem_cons, List.not_mem_nil,
        false_imp_iff, implies_true, and_true]
      exact ⟨hattempt, hattestation, hdigest, hrevision, hepoch, hexpires, hfence, hjob, hnonce, hpermit, hprofile, hrun,
        hversion, hsession⟩)
  exact ⟨⟨hprofileHex, hsessionHex, hdigestHex, hrevisionOk⟩, hconsumed, hobject ▸ hparse,
    hrender.symm.trans (congrArg Value.render hobject)⟩

theorem envelope_wf (authorityDigest credentialRevision sessionNonce : String) (hauthority : authority.InRange)
    (hidentity : identity.InRange)
    (h : ScheduledIsolationPermit.fromConsumed authority identity profileDigest nonce permitId later = .ok p) :
    (Value.object (p.envelopeMembers authorityDigest credentialRevision sessionNonce)).Wf 1 := by
  obtain ⟨⟨-, hepoch, -, -, -, -, hattempt, hfence, -, -⟩, rfl⟩ := fromConsumed_ok.mp h
  have hone : (Value.int 1).Wf 0 := wf_int (by decide) (by decide)
  exact Value.Wf.object (by
    simp [ScheduledIsolationPermit.envelopeMembers, positive_wf hepoch hauthority.deploymentEpoch,
      positive_wf hattempt hidentity.attempt, positive_wf hfence hidentity.fence, u64_wf hauthority.expiresAt, hone])

theorem importPermit_envelope (hauthority : authority.InRange) (hidentity : identity.InRange)
    (hprofileHex : isLowercaseSha256 authority.profileDigest = true)
    (hconsumed : ScheduledIsolationPermit.fromConsumed authority identity profileDigest nonce permitId later = .ok p)
    (hsessionHex : isLowercaseSha256 sessionNonce = true) (hdigestHex : isLowercaseSha256 authorityDigest = true)
    (hrevisionOk : (CredentialRevision.parse credentialRevision).toBool = true)
    (hunexpired : now < authority.expiresAtUnixSeconds) :
    RemoteIsolationPermitEnvelope.importPermit
      (Value.object (p.envelopeMembers authorityDigest credentialRevision sessionNonce)).render authority identity
      authorityDigest credentialRevision sessionNonce now later = .ok p := by
  have hparse := ((envelope_wf authorityDigest credentialRevision sessionNonce hauthority hidentity hconsumed).mono
    (by decide)).parse_render
  have hmembers := carries_object (envelopeMembers_nodup p authorityDigest credentialRevision sessionNonce)
  have hfields : hasExactFields (.object (p.envelopeMembers authorityDigest credentialRevision sessionNonce))
      RemoteIsolationPermitEnvelope.fields = true :=
    hasExactFields_object (envelopeMembers_nodup p authorityDigest credentialRevision sessionNonce) rfl
      (by simp [RemoteIsolationPermitEnvelope.fields, ScheduledIsolationPermit.envelopeMembers])
  obtain ⟨⟨-, hepochPos, -, hprofiles, -, -, hattemptPos, hfencePos, hnonceHex, hpermitHex⟩, hp⟩ :=
    fromConsumed_ok.mp hconsumed
  subst hp hprofiles
  simp only [Carries, ScheduledIsolationPermit.envelopeMembers, List.forall_mem_cons, List.not_mem_nil, false_imp_iff,
    implies_true, and_true] at hmembers
  obtain ⟨hattempt, hattestation, hdigest, hrevision, hepoch, hexpires, hfence, hjob, hnonce, hpermit, hprofile, hrun,
    hversion, hsession⟩ := hmembers
  have hmin : -(2 ^ 63) ≤ (0 : Int) := by decide
  simp only [RemoteIsolationPermitEnvelope.importPermit, except_bind_ok, orPreflight_ok, refuse_ok,
    Option.filter_eq_some_iff, not_or, ne_eq, not_not, Bool.not_eq_false, get_asStr, get_asU64, get_valueAsI64,
    decide_eq_true_eq]
  exact ⟨_, hparse, (), hfields, _, ⟨⟨hexpires, hauthority.expiresAt⟩, hunexpired⟩, (), ⟨hversion, by decide⟩, _, hnonce, _,
    hpermit, _, hprofile, _, hsession, _, hdigest, _, hrevision, (),
    ⟨hnonceHex, hpermitHex, hprofileHex, hsessionHex, hdigestHex, hrevisionOk⟩, _, hattestation, (),
    ⟨rfl, rfl, rfl, rfl, rfl⟩, _, ⟨⟨hepoch, hmin.trans hepochPos.le, hauthority.deploymentEpoch⟩, hepochPos⟩, (), rfl, _,
    hrun, (), rfl, _, hjob, (), rfl, _, ⟨⟨hattempt, hmin.trans hattemptPos.le, hidentity.attempt⟩, hattemptPos⟩, (), rfl, _,
    ⟨⟨hfence, hmin.trans hfencePos.le, hidentity.fence⟩, hfencePos⟩, (), ⟨rfl, rfl, rfl⟩, hconsumed⟩

structure SameBinding (a b : ScheduledDeploymentAuthority) : Prop where
  deploymentEpoch : a.deploymentEpoch = b.deploymentEpoch
  attestationId : a.attestationId = b.attestationId
  profileDigest : a.profileDigest = b.profileDigest
  expiresAt : a.expiresAtUnixSeconds = b.expiresAtUnixSeconds

theorem importPermit_binding {authorityDigest' credentialRevision' sessionNonce' : String} {now' later' : Nat}
    (h : RemoteIsolationPermitEnvelope.importPermit encoded authority identity authorityDigest credentialRevision
      sessionNonce now later = .ok p)
    (h' : RemoteIsolationPermitEnvelope.importPermit encoded authority' identity' authorityDigest' credentialRevision'
      sessionNonce' now' later' = .ok p') :
    identity = identity' ∧ SameBinding authority authority' ∧ authorityDigest = authorityDigest' ∧
      credentialRevision = credentialRevision' ∧ sessionNonce = sessionNonce' ∧
      p' = { p with isolationRevision := authority'.isolationRevision } := by
  obtain ⟨-, hconsumed, hparse, -⟩ := importPermit_text h
  obtain ⟨-, hconsumed', hparse', -⟩ := importPermit_text h'
  have hobject := Option.some.inj (hparse.symm.trans hparse')
  have hmembers := object_inj (by simp [ScheduledIsolationPermit.envelopeMembers]) (envelopeMembers_nodup p _ _ _) hobject
  obtain ⟨-, hp⟩ := fromConsumed_ok.mp hconsumed
  obtain ⟨-, hp'⟩ := fromConsumed_ok.mp hconsumed'
  generalize p.nonce = nonce at hp
  generalize p.permitId = permitId at hp
  generalize p'.nonce = nonce' at hp'
  generalize p'.permitId = permitId' at hp'
  subst hp hp'
  simp only [ScheduledIsolationPermit.envelopeMembers, List.cons.injEq, Prod.mk.injEq, true_and, Value.str.injEq,
    Value.int.injEq, Int.natCast_inj, and_true] at hmembers
  obtain ⟨hattempt, hattestation, hdigest, hrevision, hepoch, hexpires, hfence, hjob, rfl, rfl, hprofile, hrun,
    hsession⟩ := hmembers
  have hidentity : identity = identity' := by
    cases identity
    cases identity'
    simp_all
  subst hidentity
  refine ⟨rfl, ⟨hepoch, hattestation, hprofile, hexpires⟩, hdigest, hrevision, hsession, ?_⟩
  simp [hepoch, hattestation, hprofile, hexpires]

/-- 書き出した許可は期限まで読み戻せ、受け付けられる文面は読んだ許可の文面だけである。 -/
theorem permit_envelope_exact :
    (∀ authority identity profileDigest nonce permitId made p authorityDigest credentialRevision sessionNonce exported
        text now later, ScheduledDeploymentAuthority.InRange authority → ScheduledExecutionIdentity.InRange identity →
      isLowercaseSha256 authority.profileDigest = true →
      ScheduledIsolationPermit.fromConsumed authority identity profileDigest nonce permitId made = .ok p →
      p.intoRemoteEnvelope authorityDigest credentialRevision sessionNonce exported = .ok text →
      now < p.expiresAtUnixSeconds → later < p.expiresAtUnixSeconds →
      RemoteIsolationPermitEnvelope.importPermit text authority identity authorityDigest credentialRevision sessionNonce
        now later = .ok p) ∧
    (∀ text authority identity authorityDigest credentialRevision sessionNonce now later p,
      RemoteIsolationPermitEnvelope.importPermit text authority identity authorityDigest credentialRevision sessionNonce
        now later = .ok p →
      ∀ exported < p.expiresAtUnixSeconds,
        p.intoRemoteEnvelope authorityDigest credentialRevision sessionNonce exported = .ok text) ∧
    (∀ text authority identity authorityDigest credentialRevision sessionNonce now later p authority' identity'
        authorityDigest' credentialRevision' sessionNonce' now' later' p',
      RemoteIsolationPermitEnvelope.importPermit text authority identity authorityDigest credentialRevision sessionNonce
        now later = .ok p →
      RemoteIsolationPermitEnvelope.importPermit text authority' identity' authorityDigest' credentialRevision'
        sessionNonce' now' later' = .ok p' →
      identity = identity' ∧ SameBinding authority authority' ∧ authorityDigest = authorityDigest' ∧
        credentialRevision = credentialRevision' ∧ sessionNonce = sessionNonce' ∧
        p' = { p with isolationRevision := authority'.isolationRevision }) := by
  refine ⟨?_, ?_, ?_⟩
  · intro authority identity profileDigest nonce permitId made p authorityDigest credentialRevision sessionNonce exported
      text now later hauthority hidentity hprofile hmade htext hnow hlater
    obtain ⟨⟨hschema, hepoch, -, hdigest, hrun, hjob, hattempt, hfence, hnonce, hpermit⟩, rfl⟩ := fromConsumed_ok.mp hmade
    obtain ⟨⟨hdigestHex, hsessionHex, hrevisionOk, -⟩, rfl⟩ := intoRemoteEnvelope_ok.mp htext
    have hconsumed := fromConsumed_ok.mpr
      ⟨⟨hschema, hepoch, hlater, hdigest, hrun, hjob, hattempt, hfence, hnonce, hpermit⟩, rfl⟩
    exact importPermit_envelope hauthority hidentity hprofile hconsumed hsessionHex hdigestHex hrevisionOk hnow
  · intro text authority identity authorityDigest credentialRevision sessionNonce now later p h exported hexported
    obtain ⟨⟨-, hsessionHex, hdigestHex, hrevisionOk⟩, -, -, htext⟩ := importPermit_text h
    exact intoRemoteEnvelope_ok.mpr ⟨⟨hdigestHex, hsessionHex, hrevisionOk, hexported⟩, htext⟩
  · intro text authority identity authorityDigest credentialRevision sessionNonce now later p authority' identity'
      authorityDigest' credentialRevision' sessionNonce' now' later' p' h h'
    exact importPermit_binding h h'

def samplePermitAuthority : ScheduledDeploymentAuthority where
  schemaVersion := 1
  deploymentEpoch := 7
  attestationId := String.ofList (List.replicate 64 'a')
  attestationDigest := String.ofList (List.replicate 64 'b')
  trustKeyId := String.ofList (List.replicate 64 'c')
  profileDigest := String.ofList (List.replicate 64 'd')
  githubMcpAccessAuthMode := "supervisor-dynamic-tools-v1"
  githubMcpAccessTokenRevision := "token-v1"
  isolationRevision := "isolation-v1"
  issuedAtUnixSeconds := 100
  expiresAtUnixSeconds := 400

def samplePermitIdentity : ScheduledExecutionIdentity := ⟨"run", "job", 1, 1⟩

/-- `authority` の作る許可。 -/
def permitOf (authority : ScheduledDeploymentAuthority) : ScheduledIsolationPermit :=
  ⟨samplePermitIdentity, authority.deploymentEpoch, authority.attestationId, authority.profileDigest,
    String.ofList (List.replicate 64 'e'), String.ofList (List.replicate 64 'f'), authority.isolationRevision,
    authority.expiresAtUnixSeconds⟩

def sampleDigest : String := String.ofList (List.replicate 64 '1')

def sampleNonce : String := String.ofList (List.replicate 64 '2')

def permitText (authority : ScheduledDeploymentAuthority) : String :=
  (Value.object ((permitOf authority).envelopeMembers sampleDigest "credential-v1" sampleNonce)).render

theorem permitOf_consumed {authority : ScheduledDeploymentAuthority} (hschema : authority.schemaVersion = 1)
    (hepoch : 0 < authority.deploymentEpoch) (hlater : later < authority.expiresAtUnixSeconds) :
    ScheduledIsolationPermit.fromConsumed authority samplePermitIdentity authority.profileDigest
      (permitOf authority).nonce (permitOf authority).permitId later = .ok (permitOf authority) := by
  have hhex : isLowercaseSha256 (String.ofList (List.replicate 64 'e')) = true ∧
      isLowercaseSha256 (String.ofList (List.replicate 64 'f')) = true := by decide +kernel
  exact fromConsumed_ok.mpr ⟨⟨hschema, hepoch, hlater, rfl, by decide, by decide, by decide, by decide, hhex.1, hhex.2⟩,
    rfl⟩

theorem sampleBinding_ok : isLowercaseSha256 sampleDigest = true ∧ isLowercaseSha256 sampleNonce = true ∧
    (CredentialRevision.parse "credential-v1").toBool = true := by decide +kernel

theorem samplePermitIdentity_inRange : samplePermitIdentity.InRange := ⟨by decide, by decide⟩

/-- 使い切った許可を書き出し、期限の前に取り込めば、同じ許可に戻る。 -/
theorem permit_envelope_exact_sample :
    RemoteIsolationPermitEnvelope.importPermit (permitText samplePermitAuthority) samplePermitAuthority
      samplePermitIdentity sampleDigest "credential-v1" sampleNonce 200 201 = .ok (permitOf samplePermitAuthority) := by
  obtain ⟨hdigest, hnonce, hrevision⟩ := sampleBinding_ok
  refine permit_envelope_exact.1 samplePermitAuthority samplePermitIdentity samplePermitAuthority.profileDigest
    (permitOf samplePermitAuthority).nonce (permitOf samplePermitAuthority).permitId 150 (permitOf samplePermitAuthority)
    sampleDigest "credential-v1" sampleNonce 160 _ 200 201 ⟨by decide, by decide⟩ samplePermitIdentity_inRange
    (by decide +kernel) (permitOf_consumed rfl (by decide) (by decide)) ?_ (by decide) (by decide)
  exact intoRemoteEnvelope_ok.mpr ⟨⟨hdigest, hnonce, hrevision, by decide⟩, rfl⟩

def otherPermitAuthority : ScheduledDeploymentAuthority :=
  { samplePermitAuthority with isolationRevision := "isolation-v2" }

def shortPermitAuthority : ScheduledDeploymentAuthority := { samplePermitAuthority with profileDigest := "d" }

/-- 同じ文面が、隔離の版だけが違う二つの権限のもとで受け付けられ、違う許可になる。能力の要約値が 64 桁でない権限の許可は、書き出せるが
読み戻せない。 -/
theorem permit_authority_unbound :
    (RemoteIsolationPermitEnvelope.importPermit (permitText samplePermitAuthority) samplePermitAuthority
        samplePermitIdentity sampleDigest "credential-v1" sampleNonce 200 201 = .ok (permitOf samplePermitAuthority) ∧
      RemoteIsolationPermitEnvelope.importPermit (permitText samplePermitAuthority) otherPermitAuthority
        samplePermitIdentity sampleDigest "credential-v1" sampleNonce 200 201 = .ok (permitOf otherPermitAuthority) ∧
      permitOf otherPermitAuthority ≠ permitOf samplePermitAuthority) ∧
    ScheduledIsolationPermit.fromConsumed shortPermitAuthority samplePermitIdentity "d"
        (permitOf shortPermitAuthority).nonce (permitOf shortPermitAuthority).permitId 150 =
      .ok (permitOf shortPermitAuthority) ∧
    (permitOf shortPermitAuthority).intoRemoteEnvelope sampleDigest "credential-v1" sampleNonce 160 =
      .ok (permitText shortPermitAuthority) ∧
    RemoteIsolationPermitEnvelope.importPermit (permitText shortPermitAuthority) shortPermitAuthority
      samplePermitIdentity sampleDigest "credential-v1" sampleNonce 200 201 ≠ .ok (permitOf shortPermitAuthority) := by
  obtain ⟨hdigest, hnonce, hrevision⟩ := sampleBinding_ok
  have hhex : isLowercaseSha256 samplePermitAuthority.profileDigest = true := by decide +kernel
  have himport : ∀ authority : ScheduledDeploymentAuthority, authority.InRange →
      isLowercaseSha256 authority.profileDigest = true → authority.schemaVersion = 1 → 0 < authority.deploymentEpoch →
      201 < authority.expiresAtUnixSeconds →
      RemoteIsolationPermitEnvelope.importPermit (permitText authority) authority samplePermitIdentity sampleDigest
        "credential-v1" sampleNonce 200 201 = .ok (permitOf authority) :=
    fun authority hrange hhex hschema hepoch hlater =>
      importPermit_envelope hrange samplePermitIdentity_inRange hhex (permitOf_consumed hschema hepoch hlater) hnonce
        hdigest hrevision (by omega)
  refine ⟨⟨?_, ?_, ?_⟩, ?_, ?_, ?_⟩
  · exact himport _ ⟨by decide, by decide⟩ hhex rfl (by decide) (by decide)
  · exact himport otherPermitAuthority ⟨by decide, by decide⟩ hhex rfl (by decide) (by decide)
  · intro h
    have hrevisions := congrArg ScheduledIsolationPermit.isolationRevision h
    exact absurd hrevisions (by decide)
  · exact permitOf_consumed rfl (by decide) (by decide)
  · exact intoRemoteEnvelope_ok.mpr ⟨⟨hdigest, hnonce, hrevision, by decide⟩, rfl⟩
  · intro h
    have hshort : isLowercaseSha256 shortPermitAuthority.profileDigest = true := (importPermit_text h).1.1
    exact absurd hshort (by decide)

end Codeoff.Codex
