import Codeoff.Core.Sha256
import Codeoff.Runtime.Lemmas.SignedFormats

/-!
# 署名した許可と証拠が束ねるもの

許可と四種の証拠は、署名の鍵を分け合っていても取り違えられない。
-/

namespace Codeoff.Runtime

open Codeoff.Core Codeoff.Json Codeoff.Relational Codeoff.State

variable {E : SignatureEnv}

/-- 区切りを含まない先頭への分け方は一つである。 -/
theorem split_at_separator {head head' tail tail' : List UInt8} (hhead : (0 : UInt8) ∉ head)
    (hhead' : (0 : UInt8) ∉ head') (h : head ++ 0 :: tail = head' ++ 0 :: tail') : head = head' ∧ tail = tail' := by
  induction head generalizing head' with
  | nil =>
    cases head' with
    | nil => exact ⟨rfl, (List.cons.inj h).2⟩
    | cons b head' =>
      obtain ⟨rfl, -⟩ := List.cons.inj h
      exact absurd List.mem_cons_self hhead'
  | cons b head ih =>
    cases head' with
    | nil =>
      obtain ⟨rfl, -⟩ := List.cons.inj h
      exact absurd List.mem_cons_self hhead
    | cons b' head' =>
      obtain ⟨rfl, hrest⟩ := List.cons.inj h
      obtain ⟨rfl, rfl⟩ := ih (fun hb => hhead (List.mem_cons_of_mem b hb))
        (fun hb => hhead' (List.mem_cons_of_mem b hb)) hrest
      exact ⟨rfl, rfl⟩

theorem domains_separated : (0 : UInt8) ∉ grantDomain ∧ (0 : UInt8) ∉ evidenceDomain ∧ grantDomain ≠ evidenceDomain := by
  decide +kernel

theorem kindName_plain (kind : RunnerEvidenceKind) : (0 : UInt8) ∉ utf8Bytes kind.name := by
  cases kind <;> decide +kernel

theorem kindName_inj {kind kind' : RunnerEvidenceKind} (h : kind.name = kind'.name) : kind = kind' := by
  cases kind <;> cases kind' <;> first | rfl | simp [RunnerEvidenceKind.name] at h

theorem grantInput_ne_evidenceInput (grant evidence : String) (kind : RunnerEvidenceKind) :
    RemoteExecutionGrantClaims.signingInput grant ≠ RunnerEvidenceClaims.signingInput kind evidence := by
  obtain ⟨hgrant, hevidence, hne⟩ := domains_separated
  exact fun h => hne (split_at_separator hgrant hevidence h).1

theorem grantInput_inj {grant grant' : String}
    (h : RemoteExecutionGrantClaims.signingInput grant = RemoteExecutionGrantClaims.signingInput grant') :
    grant = grant' := by
  obtain ⟨hgrant, -, -⟩ := domains_separated
  exact utf8Bytes_inj.mp (split_at_separator hgrant hgrant h).2

theorem evidenceInput_inj {kind kind' : RunnerEvidenceKind} {evidence evidence' : String}
    (h : RunnerEvidenceClaims.signingInput kind evidence = RunnerEvidenceClaims.signingInput kind' evidence') :
    kind = kind' ∧ evidence = evidence' := by
  obtain ⟨-, hevidence, -⟩ := domains_separated
  obtain ⟨hname, htext⟩ := split_at_separator (kindName_plain kind) (kindName_plain kind')
    (split_at_separator hevidence hevidence h).2
  exact ⟨kindName_inj (utf8Bytes_inj.mp hname), utf8Bytes_inj.mp htext⟩

structure SigningParty where
  keyPair : Ed25519KeyPair
  grants : Set RemoteExecutionGrantClaims
  evidence : Set RunnerEvidenceClaims

def SigningParty.messages (P : SigningParty) : Set (List UInt8) :=
  {m | (∃ c ∈ P.grants, m = RemoteExecutionGrantClaims.signingInput c.canonicalJson) ∨
    ∃ c ∈ P.evidence, m = RunnerEvidenceClaims.signingInput c.kind c.canonicalJson}

/-- Ed25519 の署名は 64 バイトで、検証を通り、署名していないバイト列の署名は作れない。 -/
structure Ed25519Secure (E : SignatureEnv) (P : SigningParty) : Prop where
  length : ∀ m ∈ P.messages, (P.keyPair.sign m).length = 64
  correct : ∀ m ∈ P.messages, E.verify P.keyPair.publicKey m (P.keyPair.sign m) = true
  unforgeable : ∀ m signature, E.verify P.keyPair.publicKey m signature = true → m ∈ P.messages

structure SigningParty.InRange (P : SigningParty) : Prop where
  grants : ∀ c ∈ P.grants, c.InRange
  evidence : ∀ c ∈ P.evidence, c.InRange

variable {P : SigningParty}

/-- 検証を通った許可証の文面は、署名者の署名したものである。 -/
theorem verified_grant_signed {V : RemoteExecutionGrantVerifier} {g : SignedRemoteExecutionGrant}
    {c : RemoteExecutionGrantClaims} {now : Nat} (hsecure : Ed25519Secure E P) (hrange : P.InRange)
    (hkey : V.publicKey = P.keyPair.publicKey) (h : V.verify E g now = .ok c) : c ∈ P.grants := by
  obtain ⟨-, -, hclaims, ⟨signature, -, hverify⟩, hvalid⟩ := RemoteExecutionGrantVerifier.verify_ok.mp h
  rw [hkey] at hverify
  rcases hsecure.unforgeable _ _ hverify with ⟨c', hc', hinput⟩ | ⟨c', -, hinput⟩
  · have htext := grantInput_inj hinput
    have hsize : byteLen c'.canonicalJson ≤ maxGrantBytes := by
      by_contra hlarge
      rw [htext] at hclaims
      unfold RemoteExecutionGrantClaims.parseClaims at hclaims
      rw [if_pos (by omega)] at hclaims
      cases hclaims
    rw [htext, RemoteExecutionGrantClaims.parseClaims_canonicalJson (hrange.grants c' hc') hsize] at hclaims
    cases hclaims
    exact hc'
  · exact absurd hinput (grantInput_ne_evidenceInput _ _ _)

/-- 検証を通った証拠の文面は、署名者の署名したものである。 -/
theorem verified_evidence_signed {e : SignedRunnerEvidence} {c : RunnerEvidenceClaims} {now : Nat}
    (hsecure : Ed25519Secure E P) (hrange : P.InRange)
    (h : verifyRunnerEvidence E e P.keyPair.publicKey now = .ok c) : c ∈ P.evidence ∧ e.claimsJson = c.canonicalJson := by
  obtain ⟨hclaims, signature, hverify⟩ := verifyRunnerEvidence_ok h
  rcases hsecure.unforgeable _ _ hverify with ⟨c', -, hinput⟩ | ⟨c', hc', hinput⟩
  · exact absurd hinput.symm (grantInput_ne_evidenceInput _ _ _)
  · obtain ⟨-, htext⟩ := evidenceInput_inj hinput
    rw [htext, RunnerEvidenceClaims.parseClaims_canonicalJson (hrange.evidence c' hc')] at hclaims
    cases hclaims
    exact ⟨hc', htext⟩

structure SameDocuments (prepare prepare' : PrepareFrame) : Prop where
  binding : prepare.binding = prepare'.binding
  isolationPermit : prepare.isolationPermitEnvelopeJson = prepare'.isolationPermitEnvelopeJson
  task : prepare.taskJson = prepare'.taskJson
  definition : prepare.definitionJson = prepare'.definitionJson
  capability : prepare.capabilityJson = prepare'.capabilityJson
  targets : prepare.targetsJson = prepare'.targetsJson

def PrepareFrame.documents (prepare : PrepareFrame) : Set (List UInt8) :=
  {utf8Bytes prepare.isolationPermitEnvelopeJson, utf8Bytes prepare.taskJson, utf8Bytes prepare.definitionJson,
    utf8Bytes prepare.capabilityJson, utf8Bytes prepare.targetsJson}

structure ExpectedRemoteExecutionGrant.Matches (expected : ExpectedRemoteExecutionGrant)
    (c : RemoteExecutionGrantClaims) : Prop where
  signerIdentity : c.signerIdentity = expected.signerIdentity
  keyRevision : c.keyRevision = expected.keyRevision
  grantSequence : c.grantSequence = expected.grantSequence
  sessionNonce : c.sessionNonce = expected.sessionNonce
  challenge : c.challenge = expected.challenge
  admissionNonce : c.admissionNonce = expected.admissionNonce
  expiresAt : c.expiresAtUnixMillis = expected.expiresAtUnixMillis
  deploymentEpoch : c.deploymentEpoch = expected.deploymentEpoch
  profileDigest : c.profileDigest = expected.profileDigest

/-- 許可が `prepare` のために作られたこと。 -/
structure RemoteExecutionGrantClaims.IsFor (E : SignatureEnv) (c : RemoteExecutionGrantClaims) (prepare : PrepareFrame) :
    Prop where
  binding : c.binding = prepare.binding
  isolationPermit : c.isolationPermitSha256 = snapshotDigest E prepare.isolationPermitEnvelopeJson
  task : c.taskSha256 = snapshotDigest E prepare.taskJson
  definition : c.definitionSha256 = snapshotDigest E prepare.definitionJson
  capability : c.capabilitySha256 = snapshotDigest E prepare.capabilityJson
  targets : c.targetsSha256 = snapshotDigest E prepare.targetsJson

variable {c : RemoteExecutionGrantClaims} {expected : ExpectedRemoteExecutionGrant} {prepare prepare' : PrepareFrame}

theorem verifyPrepare_ok : c.verifyPrepare E expected prepare = .ok () ↔
    c.ValidAt expected.nowUnixMillis ∧ expected.Matches c ∧ c.IsFor E prepare := by
  unfold RemoteExecutionGrantClaims.verifyPrepare
  constructor
  · intro h
    obtain ⟨_, hvalid, h⟩ := except_bind_ok.mp h
    split at h
    · cases h
    · rename_i hsame
      simp only [not_or, Decidable.not_not] at hsame
      obtain ⟨h01, h02, h03, h04, h05, h06, h07, h08, h09, h10, h11, h12, h13, h14, h15⟩ := hsame
      exact ⟨RemoteExecutionGrantClaims.validate_ok.mp hvalid, ⟨h01, h02, h03, h04, h05, h06, h07, h08, h09⟩,
        ⟨h10, h11, h12, h13, h14, h15⟩⟩
  · rintro ⟨hvalid, ⟨h01, h02, h03, h04, h05, h06, h07, h08, h09⟩, ⟨h10, h11, h12, h13, h14, h15⟩⟩
    refine except_bind_ok.mpr ⟨(), RemoteExecutionGrantClaims.validate_ok.mpr hvalid, ?_⟩
    rw [if_neg]
    · rfl
    · simp only [not_or, Decidable.not_not]
      exact ⟨h01, h02, h03, h04, h05, h06, h07, h08, h09, h10, h11, h12, h13, h14, h15⟩

/-- 要約の衝突しない文書では、許可証の合うもう一つの準備は、同じ文書の準備である。 -/
theorem isFor_iff (hinj : Set.InjOn E.sha256Hex (prepare.documents ∪ prepare'.documents)) (h : c.IsFor E prepare) :
    c.IsFor E prepare' ↔ SameDocuments prepare prepare' := by
  have hsame : ∀ {text text' : String}, utf8Bytes text ∈ prepare.documents → utf8Bytes text' ∈ prepare'.documents →
      snapshotDigest E text = snapshotDigest E text' → text = text' := fun ht ht' hdigest =>
    utf8Bytes_inj.mp (hinj (Or.inl ht) (Or.inr ht') hdigest)
  constructor
  · intro h'
    exact ⟨h.binding.symm.trans h'.binding,
      hsame (by simp [PrepareFrame.documents]) (by simp [PrepareFrame.documents])
        (h.isolationPermit.symm.trans h'.isolationPermit),
      hsame (by simp [PrepareFrame.documents]) (by simp [PrepareFrame.documents]) (h.task.symm.trans h'.task),
      hsame (by simp [PrepareFrame.documents]) (by simp [PrepareFrame.documents])
        (h.definition.symm.trans h'.definition),
      hsame (by simp [PrepareFrame.documents]) (by simp [PrepareFrame.documents])
        (h.capability.symm.trans h'.capability),
      hsame (by simp [PrepareFrame.documents]) (by simp [PrepareFrame.documents]) (h.targets.symm.trans h'.targets)⟩
  · rintro ⟨hbinding, hpermit, htask, hdefinition, hcapability, htargets⟩
    exact ⟨hbinding ▸ h.binding, hpermit ▸ h.isolationPermit, htask ▸ h.task, hdefinition ▸ h.definition,
      hcapability ▸ h.capability, htargets ▸ h.targets⟩

def ReadyFrame.relayed (f : ReadyFrame) : ReadyFrame := { f with signedEvidenceJson := "" }

def PreparedFrame.relayed (f : PreparedFrame) : PreparedFrame := { f with signedEvidenceJson := "" }

def ResultFrame.relayed (f : ResultFrame) : ResultFrame :=
  { f with signedEvidenceJson := "", signedCleanupEvidenceJson := "" }

def ResultFrame.cleaned (f : ResultFrame) : ResultFrame := { f with signedCleanupEvidenceJson := "" }

theorem bindingValue_wf {b : RunBinding} (h : b.InRange) : (bindingValue b).Wf 1 := by
  have hattempt : b.attempt ≤ u64Max := h.attempt.trans (by decide)
  exact Value.Wf.object (by simp [u64_wf hattempt, u64_wf h.fenceToken, u64_wf h.deploymentEpoch])

theorem bindingValue_inj {b b' : RunBinding} (h : bindingValue b = bindingValue b') : b = b' := by
  unfold bindingValue at h
  have hmembers := object_inj (by simp) (by simp) h
  cases b
  cases b'
  simp only [List.cons.injEq, Prod.mk.injEq, Value.int.injEq, Value.str.injEq, Int.natCast_inj, true_and,
    and_true] at hmembers
  simp [hmembers]

theorem asStr_inj {kind kind' : RemoteResultKind} (h : kind.asStr = kind'.asStr) : kind = kind' := by
  cases kind <;> cases kind' <;> first | rfl | simp [RemoteResultKind.asStr] at h

structure ReadyFrame.InRange (f : ReadyFrame) : Prop where
  readyUntil : f.readyUntilUnixMillis ≤ u64Max
  deploymentEpoch : f.deploymentEpoch ≤ u64Max

theorem flat_wf {members : List (String × Value)} (h : ∀ m ∈ members, m.2.Wf 1) : (Value.object members).Wf maxDepth := by
  have hobject : (Value.object members).Wf 2 := Value.Wf.object h
  exact hobject.mono (by decide)

theorem version_wf : (Value.int 1).Wf 1 := u64_wf (n := 1) (by decide)

theorem readyPayload_wf {f : ReadyFrame} (h : f.InRange) : (Value.object (readyPayload f)).Wf maxDepth :=
  flat_wf (by simp [readyPayload, version_wf, u64_wf h.readyUntil, u64_wf h.deploymentEpoch])

theorem preparedPayload_wf {f : PreparedFrame} (h : f.binding.InRange) :
    (Value.object (preparedPayload f)).Wf maxDepth :=
  flat_wf (by simp [preparedPayload, version_wf, bindingValue_wf h])

theorem resultPayload_wf {f : ResultFrame} (h : f.binding.InRange) : (Value.object (resultPayload f)).Wf maxDepth :=
  flat_wf (by simp [resultPayload, version_wf, bindingValue_wf h])

theorem cleanupPayload_wf {f : ResultFrame} (h : f.binding.InRange) :
    (Value.object (cleanupPayload E f)).Wf maxDepth :=
  flat_wf (by simp [cleanupPayload, version_wf, bindingValue_wf h])

theorem readyPayload_inj {f f' : ReadyFrame} (h : f.InRange) (h' : f'.InRange)
    (hrender : (Value.object (readyPayload f)).render = (Value.object (readyPayload f')).render) :
    f.relayed = f'.relayed := by
  have hmembers := object_inj (by simp [readyPayload]) (by simp [readyPayload])
    (render_inj (readyPayload_wf h).sorted (readyPayload_wf h') hrender)
  cases f
  cases f'
  simp only [readyPayload, List.cons.injEq, Prod.mk.injEq, Value.int.injEq, Value.str.injEq, Int.natCast_inj,
    true_and, and_true] at hmembers
  simp [ReadyFrame.relayed, hmembers]

theorem preparedPayload_inj {f f' : PreparedFrame} (h : f.binding.InRange) (h' : f'.binding.InRange)
    (hrender : (Value.object (preparedPayload f)).render = (Value.object (preparedPayload f')).render) :
    f.relayed = f'.relayed := by
  have hmembers := object_inj (by simp [preparedPayload]) (by simp [preparedPayload])
    (render_inj (preparedPayload_wf h).sorted (preparedPayload_wf h') hrender)
  cases f
  cases f'
  simp only [preparedPayload, List.cons.injEq, Prod.mk.injEq, Value.str.injEq, true_and, and_true] at hmembers
  obtain ⟨hdigest, hjson, hbinding, hrest⟩ := hmembers
  simp [PreparedFrame.relayed, hdigest, hjson, bindingValue_inj hbinding, hrest]

theorem resultPayload_inj {f f' : ResultFrame} (h : f.binding.InRange) (h' : f'.binding.InRange)
    (hrender : (Value.object (resultPayload f)).render = (Value.object (resultPayload f')).render) :
    f.relayed = f'.relayed := by
  have hmembers := object_inj (by simp [resultPayload]) (by simp [resultPayload])
    (render_inj (resultPayload_wf h).sorted (resultPayload_wf h') hrender)
  cases f
  cases f'
  simp only [resultPayload, List.cons.injEq, Prod.mk.injEq, Value.str.injEq, true_and, and_true] at hmembers
  obtain ⟨hbinding, hnonce, hjson, hkind⟩ := hmembers
  simp [ResultFrame.relayed, bindingValue_inj hbinding, hnonce, hjson, asStr_inj hkind]

theorem cleanupPayload_inj {f f' : ResultFrame} (h : f.binding.InRange) (h' : f'.binding.InRange)
    (hrender : (Value.object (cleanupPayload E f)).render = (Value.object (cleanupPayload E f')).render) :
    f.cleaned = f'.cleaned := by
  have hmembers := object_inj (by simp [cleanupPayload]) (by simp [cleanupPayload])
    (render_inj (cleanupPayload_wf h).sorted (cleanupPayload_wf h') hrender)
  cases f
  cases f'
  simp only [cleanupPayload, List.cons.injEq, Prod.mk.injEq, Value.str.injEq, true_and, and_true] at hmembers
  obtain ⟨hbinding, hnonce, hjson, hkind, -, hevidence⟩ := hmembers
  simp [ResultFrame.cleaned, bindingValue_inj hbinding, hnonce, hjson, asStr_inj hkind, hevidence]

/-! ## 照合を通った枠 -/

/-- この種類の証拠には、`frames` の枠についてだけ署名する。 -/
def SigningParty.SignsOnly {α : Type} (P : SigningParty) (kind : RunnerEvidenceKind) (digestOf : α → String)
    (frames : Set α) : Prop :=
  ∀ c ∈ P.evidence, c.kind = kind → ∃ f ∈ frames, c.payloadDigest = digestOf f

variable {config : RunnerEvidenceConfig} {now : Nat}

theorem rejectIf_ok {condition : Prop} [Decidable condition] {rejection : EvidenceRejection} {u : Unit} :
    rejectIf condition rejection = .ok u ↔ ¬condition := by
  unfold rejectIf
  split <;> simp_all

theorem verifiedClaims_ok {encoded : String} {rejection : EvidenceRejection} {c : RunnerEvidenceClaims}
    (hsecure : Ed25519Secure E P) (hrange : P.InRange) (hkey : config.executorEvidencePublicKey = P.keyPair.publicKey)
    (h : verifiedClaims E config encoded now rejection = .ok c) :
    c ∈ P.evidence ∧ ∃ e, SignedRunnerEvidence.parseCanonicalJson encoded = .ok e ∧ e.claimsJson = c.canonicalJson := by
  obtain ⟨e, he, h⟩ := except_bind_ok.mp h
  obtain ⟨_, -, h⟩ := except_bind_ok.mp h
  rw [hkey] at h
  obtain ⟨hc, htext⟩ := verified_evidence_signed hsecure hrange (mapError_ok.mp h)
  exact ⟨hc, e, mapError_ok.mp he, htext⟩

theorem validateExecutorEvidence_ok {readyFrame : RemoteFrame} {expected : ExpectedRunnerEvidence} {encoded : String}
    (hsecure : Ed25519Secure E P) (hrange : P.InRange) (hkey : config.executorEvidencePublicKey = P.keyPair.publicKey)
    (h : validateExecutorEvidence E config readyFrame expected encoded now = .ok ()) :
    ∃ c ∈ P.evidence, (c.kind = expected.kind ∧ c.payloadDigest = expected.payloadDigest) ∧
      ∃ e, SignedRunnerEvidence.parseCanonicalJson encoded = .ok e ∧ e.claimsJson = c.canonicalJson := by
  unfold validateExecutorEvidence at h
  cases hmessage : readyFrame.message with
  | ready ready =>
    rw [hmessage] at h
    obtain ⟨c, hc, h⟩ := except_bind_ok.mp h
    have hsame := rejectIf_ok.mp h
    simp only [not_or, Decidable.not_not] at hsame
    obtain ⟨hsigned, htext⟩ := verifiedClaims_ok hsecure hrange hkey hc
    exact ⟨c, hsigned, ⟨hsame.1, hsame.2.2.2.2.2.2.2.2.2.2.2⟩, htext⟩
  | _ =>
    rw [hmessage] at h
    cases h

theorem kind_of_accepted {readyFrame : RemoteFrame} {expected : ExpectedRunnerEvidence} {keyId : String}
    {c : RunnerEvidenceClaims} {e : SignedRunnerEvidence} (hsecure : Ed25519Secure E P) (hrange : P.InRange)
    (hkey : config.executorEvidencePublicKey = P.keyPair.publicKey) (hc : c ∈ P.evidence)
    (hsign : signWithKeyPair c keyId P.keyPair = .ok e)
    (h : validateExecutorEvidence E config readyFrame expected e.canonicalJson now = .ok ()) :
    c.kind = expected.kind := by
  obtain ⟨c', hc', ⟨hkind, -⟩, e', he', htext⟩ := validateExecutorEvidence_ok hsecure hrange hkey h
  rw [SignedRunnerEvidence.parseCanonicalJson_eq he', signWithKeyPair_claims hsign] at htext
  have hclaims := RunnerEvidenceClaims.parseClaims_canonicalJson (hrange.evidence c hc)
  rw [htext, RunnerEvidenceClaims.parseClaims_canonicalJson (hrange.evidence c' hc')] at hclaims
  cases hclaims
  exact hkind

theorem validateReady_ok {peer : ScheduledRunnerAuthorizedPeer} {frame : RemoteFrame} {ready : ReadyFrame}
    {nonce challenge : String} (hsecure : Ed25519Secure E P) (hrange : P.InRange)
    (hkey : config.executorEvidencePublicKey = P.keyPair.publicKey)
    (h : validateReady E config peer frame ready nonce challenge now = .ok ()) :
    ∃ c ∈ P.evidence, c.kind = .ready ∧ c.payloadDigest = readyEvidencePayloadDigest E ready := by
  obtain ⟨_, -, h⟩ := except_bind_ok.mp h
  obtain ⟨_, -, h⟩ := except_bind_ok.mp h
  obtain ⟨_, -, h⟩ := except_bind_ok.mp h
  obtain ⟨_, -, h⟩ := except_bind_ok.mp h
  obtain ⟨_, -, h⟩ := except_bind_ok.mp h
  obtain ⟨_, -, h⟩ := except_bind_ok.mp h
  obtain ⟨c, hc, h⟩ := except_bind_ok.mp h
  have hsame := rejectIf_ok.mp h
  simp only [not_or, Decidable.not_not] at hsame
  exact ⟨c, (verifiedClaims_ok hsecure hrange hkey hc).1, hsame.1, hsame.2.2.2.2.2.2.2.2.2.2.2.2⟩

theorem checked_ok {result : Except EvidenceRejection Unit} {k : EvidenceCall Unit} {s s' : RemoteSessionState}
    (h : (checked result >>= fun _ => k) s = .ok () s') : result = .ok () := by
  cases result with
  | ok u => rfl
  | error e => cases h

theorem acceptAuthenticatedPrepared_ok {R : RemoteEnv} {ready frame : RemoteFrame} {s s' : RemoteSessionState}
    (hsecure : Ed25519Secure E P) (hrange : P.InRange) (hkey : config.executorEvidencePublicKey = P.keyPair.publicKey)
    (h : acceptAuthenticatedPrepared E R config ready frame now s = .ok () s') :
    ∃ prepared, frame.message = .prepared prepared ∧
      ∃ c ∈ P.evidence, c.kind = .prepared ∧ c.payloadDigest = preparedEvidencePayloadDigest E prepared := by
  unfold acceptAuthenticatedPrepared at h
  cases hmessage : frame.message with
  | prepared prepared =>
    rw [hmessage] at h
    refine ⟨prepared, rfl, ?_⟩
    have hevidence : preparedEvidence E config ready frame prepared now = .ok () := checked_ok h
    obtain ⟨_, -, hevidence⟩ := except_bind_ok.mp hevidence
    obtain ⟨_, -, hevidence⟩ := except_bind_ok.mp hevidence
    obtain ⟨_, -, hevidence⟩ := except_bind_ok.mp hevidence
    obtain ⟨c, hc, hsame, -⟩ := validateExecutorEvidence_ok hsecure hrange hkey hevidence
    exact ⟨c, hc, hsame⟩
  | _ =>
    rw [hmessage] at h
    cases h

/-- 受け取られた結果には、結果と片付けの、署名された証拠がある。 -/
theorem acceptAuthenticatedResult_ok {R : RemoteEnv} {ready : ReadyFrame} {observed : String} {frame : RemoteFrame}
    {s s' : RemoteSessionState} (hsecure : Ed25519Secure E P) (hrange : P.InRange)
    (hkey : config.executorEvidencePublicKey = P.keyPair.publicKey)
    (h : acceptAuthenticatedResult E R config ready observed frame now s = .ok () s') :
    ∃ result, frame.message = .result result ∧
      (∃ c ∈ P.evidence, c.kind = .result ∧ c.payloadDigest = resultEvidencePayloadDigest E result) ∧
      ∃ c ∈ P.evidence, c.kind = .cleanup ∧ c.payloadDigest = cleanupEvidencePayloadDigest E result := by
  unfold acceptAuthenticatedResult at h
  cases hmessage : frame.message with
  | result result =>
    rw [hmessage] at h
    refine ⟨result, rfl, ?_⟩
    have hevidence : resultEvidence E config ready observed frame result now = .ok () := checked_ok h
    obtain ⟨_, hresult, hcleanup⟩ := except_bind_ok.mp hevidence
    obtain ⟨c, hc, hsame, -⟩ := validateExecutorEvidence_ok hsecure hrange hkey hresult
    obtain ⟨c', hc', hsame', -⟩ := validateExecutorEvidence_ok hsecure hrange hkey hcleanup
    exact ⟨⟨c, hc, hsame⟩, c', hc', hsame'⟩
  | _ =>
    rw [hmessage] at h
    cases h

def evidenceText (members : List (String × Value)) : List UInt8 := utf8Bytes (Value.object members).render

theorem render_of_digest {members members' : List (String × Value)} {texts : Set (List UInt8)}
    (hinj : Set.InjOn E.sha256Hex texts) (hmem : evidenceText members ∈ texts) (hmem' : evidenceText members' ∈ texts)
    (h : E.sha256Hex (evidenceText members) = E.sha256Hex (evidenceText members')) :
    (Value.object members).render = (Value.object members').render :=
  utf8Bytes_inj.mp (hinj hmem hmem' h)

structure EvidenceFormat (E : SignatureEnv) (α : Type) where
  payload : α → List (String × Value)
  relayed : α → α
  inRange : α → Prop
  determines : ∀ f f', inRange f → inRange f' →
    (Value.object (payload f)).render = (Value.object (payload f')).render → relayed f = relayed f'

namespace EvidenceFormat

variable {α : Type} {F : EvidenceFormat E α}

def digest (F : EvidenceFormat E α) (f : α) : String := E.sha256Hex (evidenceText (F.payload f))

theorem signed_relayed {kind : RunnerEvidenceKind} {frames : Set α} {f : α} (honly : P.SignsOnly kind F.digest frames)
    (hattested : ∃ c ∈ P.evidence, c.kind = kind ∧ c.payloadDigest = F.digest f) (hf : F.inRange f)
    (hframes : ∀ g ∈ frames, F.inRange g)
    (hinj : Set.InjOn E.sha256Hex (insert (evidenceText (F.payload f)) ((fun g => evidenceText (F.payload g)) '' frames))) :
    ∃ g ∈ frames, F.relayed f = F.relayed g := by
  obtain ⟨c, hc, hkind, hdigest⟩ := hattested
  obtain ⟨g, hg, hdigest'⟩ := honly c hc hkind
  refine ⟨g, hg, F.determines f g hf (hframes g hg) ?_⟩
  exact render_of_digest hinj (Set.mem_insert _ _) (Set.mem_insert_of_mem _ ⟨g, hg, rfl⟩) (hdigest.symm.trans hdigest')

theorem digest_inj {f g : α} (hf : F.inRange f) (hg : F.inRange g)
    (hinj : Set.InjOn E.sha256Hex {evidenceText (F.payload f), evidenceText (F.payload g)})
    (h : F.digest f = F.digest g) : F.relayed f = F.relayed g :=
  F.determines f g hf hg (render_of_digest hinj (by simp) (by simp) h)

end EvidenceFormat

def readyFormat (E : SignatureEnv) : EvidenceFormat E ReadyFrame :=
  ⟨readyPayload, ReadyFrame.relayed, ReadyFrame.InRange, fun _ _ h h' => readyPayload_inj h h'⟩

def preparedFormat (E : SignatureEnv) : EvidenceFormat E PreparedFrame :=
  ⟨preparedPayload, PreparedFrame.relayed, fun f => f.binding.InRange, fun _ _ h h' => preparedPayload_inj h h'⟩

def resultFormat (E : SignatureEnv) : EvidenceFormat E ResultFrame :=
  ⟨resultPayload, ResultFrame.relayed, fun f => f.binding.InRange, fun _ _ h h' => resultPayload_inj h h'⟩

def cleanupFormat (E : SignatureEnv) : EvidenceFormat E ResultFrame :=
  ⟨cleanupPayload E, ResultFrame.cleaned, fun f => f.binding.InRange, fun _ _ h h' => cleanupPayload_inj h h'⟩

/-! ## 束ねること -/

/-- 要約値は枠の部分を決め、署名した枠と、その部分が違う枠は照合を通らない。 -/
structure EvidenceBinds {α : Type} (P : SigningParty) (kind : RunnerEvidenceKind) (F : EvidenceFormat E α)
    (accepted : α → Prop) : Prop where
  /-- 受け入れた枠には、この種類で署名した証拠がある。 -/
  attested : ∀ f, accepted f → ∃ c ∈ P.evidence, c.kind = kind ∧ c.payloadDigest = F.digest f
  determines : ∀ f g, F.inRange f → F.inRange g →
    Set.InjOn E.sha256Hex {evidenceText (F.payload f), evidenceText (F.payload g)} →
      F.digest f = F.digest g → F.relayed f = F.relayed g
  signed : ∀ frames f, P.SignsOnly kind F.digest frames → accepted f → F.inRange f → (∀ g ∈ frames, F.inRange g) →
    Set.InjOn E.sha256Hex (insert (evidenceText (F.payload f)) ((fun g => evidenceText (F.payload g)) '' frames)) →
      ∃ g ∈ frames, F.relayed f = F.relayed g

theorem evidenceBinds_of {α : Type} {kind : RunnerEvidenceKind} {F : EvidenceFormat E α} {accepted : α → Prop}
    (h : ∀ f, accepted f → ∃ c ∈ P.evidence, c.kind = kind ∧ c.payloadDigest = F.digest f) :
    EvidenceBinds P kind F accepted where
  attested := h
  determines _ _ hf hg hinj heq := F.digest_inj hf hg hinj heq
  signed _ f honly haccepted hf hframes hinj := EvidenceFormat.signed_relayed honly (h f haccepted) hf hframes hinj

def ReadyAuthenticated (E : SignatureEnv) (P : SigningParty) (ready : ReadyFrame) : Prop :=
  ∃ (config : RunnerEvidenceConfig) (peer : ScheduledRunnerAuthorizedPeer) (frame : RemoteFrame)
    (nonce challenge : String) (now : Nat), config.executorEvidencePublicKey = P.keyPair.publicKey ∧
      validateReady E config peer frame ready nonce challenge now = .ok ()

def PreparedAuthenticated (E : SignatureEnv) (P : SigningParty) (prepared : PreparedFrame) : Prop :=
  ∃ (R : RemoteEnv) (config : RunnerEvidenceConfig) (ready frame : RemoteFrame) (now : Nat)
    (s s' : RemoteSessionState), config.executorEvidencePublicKey = P.keyPair.publicKey ∧
      frame.message = .prepared prepared ∧ acceptAuthenticatedPrepared E R config ready frame now s = .ok () s'

def ResultAuthenticated (E : SignatureEnv) (P : SigningParty) (result : ResultFrame) : Prop :=
  ∃ (R : RemoteEnv) (config : RunnerEvidenceConfig) (ready : ReadyFrame) (observed : String) (frame : RemoteFrame)
    (now : Nat) (s s' : RemoteSessionState), config.executorEvidencePublicKey = P.keyPair.publicKey ∧
      frame.message = .result result ∧ acceptAuthenticatedResult E R config ready observed frame now s = .ok () s'

def GrantRoundTrip (E : SignatureEnv) (P : SigningParty) : Prop :=
  ∀ c ∈ P.grants, ∀ keyId g, RemoteExecutionGrantSigner.sign ⟨P.keyPair, keyId⟩ c = .ok g →
    SignedRemoteExecutionGrant.parseCanonicalJson g.canonicalJson = .ok g ∧
      ∀ (V : RemoteExecutionGrantVerifier) now, V.publicKey = P.keyPair.publicKey → V.keyId = keyId →
        c.issuedAtUnixMillis ≤ now → now < c.expiresAtUnixMillis → V.verify E g now = .ok c

structure SignedFormatsBind (E : SignatureEnv) (P : SigningParty) : Prop where
  grantRoundTrip : GrantRoundTrip E P
  /-- 検証を通るのは、署名した許可だけである。 -/
  grantSigned : ∀ (V : RemoteExecutionGrantVerifier) (g : SignedRemoteExecutionGrant) (now : Nat)
    (c : RemoteExecutionGrantClaims), V.publicKey = P.keyPair.publicKey →
    V.verify E g now = .ok c → c ∈ P.grants
  /-- 準備の枠は、署名したものと束縛と文書が等しいとき、そのときに限って受け入れられる。 -/
  prepareExact : ∀ (c : RemoteExecutionGrantClaims) (expected : ExpectedRemoteExecutionGrant)
    (prepare prepare' : PrepareFrame), c.IsFor E prepare →
      Set.InjOn E.sha256Hex (prepare.documents ∪ prepare'.documents) →
      (c.verifyPrepare E expected prepare' = .ok () ↔
        c.ValidAt expected.nowUnixMillis ∧ expected.Matches c ∧ SameDocuments prepare prepare')
  /-- 五種の署名のバイト列は、互いに違う。 -/
  grantSeparated : ∀ grant evidence kind,
    RemoteExecutionGrantClaims.signingInput grant ≠ RunnerEvidenceClaims.signingInput kind evidence
  kindSeparated : ∀ kind kind' evidence evidence', kind ≠ kind' →
    RunnerEvidenceClaims.signingInput kind evidence ≠ RunnerEvidenceClaims.signingInput kind' evidence'
  /-- 検証を通った証拠は、その種類で署名されている。 -/
  evidenceSigned : ∀ (e : SignedRunnerEvidence) (now : Nat) (c : RunnerEvidenceClaims), verifyRunnerEvidence E e P.keyPair.publicKey now = .ok c →
    c ∈ P.evidence ∧ e.claimsJson = c.canonicalJson
  kindKept : ∀ (config : RunnerEvidenceConfig) (readyFrame : RemoteFrame) (expected : ExpectedRunnerEvidence)
    (c : RunnerEvidenceClaims) (keyId : String) (e : SignedRunnerEvidence) (now : Nat),
    config.executorEvidencePublicKey = P.keyPair.publicKey → c ∈ P.evidence →
      signWithKeyPair c keyId P.keyPair = .ok e →
        validateExecutorEvidence E config readyFrame expected e.canonicalJson now = .ok () → c.kind = expected.kind
  ready : EvidenceBinds P .ready (readyFormat E) (ReadyAuthenticated E P)
  prepared : EvidenceBinds P .prepared (preparedFormat E) (PreparedAuthenticated E P)
  result : EvidenceBinds P .result (resultFormat E) (ResultAuthenticated E P)
  cleanup : EvidenceBinds P .cleanup (cleanupFormat E) (ResultAuthenticated E P)

theorem grantRoundTrip (hsecure : Ed25519Secure E P) (hrange : P.InRange) : GrantRoundTrip E P := by
  intro c hc keyId g hsign
  have hmessage : RemoteExecutionGrantClaims.signingInput c.canonicalJson ∈ P.messages := Or.inl ⟨c, hc, rfl⟩
  have hlength := hsecure.length _ hmessage
  refine ⟨RemoteExecutionGrantSigner.sign_parses (hrange.grants c hc) hsign hlength, ?_⟩
  intro V now hpublic hkeyId hissued hexpires
  have houter := RemoteExecutionGrantSigner.sign_outer hsign hlength
  obtain ⟨hvalid, hsize, rfl⟩ := RemoteExecutionGrantSigner.sign_ok hsign
  refine RemoteExecutionGrantVerifier.verify_ok.mpr ⟨houter, by rw [hkeyId],
    RemoteExecutionGrantClaims.parseClaims_canonicalJson (hrange.grants c hc) hsize,
    ⟨_, SignedRemoteExecutionGrant.decodeHex_hex hlength, ?_⟩, { hvalid with issued := hissued, expires := hexpires }⟩
  rw [hpublic]
  exact hsecure.correct _ hmessage

/-- 署名した許可と証拠は、署名の文面を除いて、運ぶものをすべて束ねる。 -/
theorem signed_formats_bind (hsecure : Ed25519Secure E P) (hrange : P.InRange) : SignedFormatsBind E P where
  grantRoundTrip := grantRoundTrip hsecure hrange
  grantSigned _ _ _ _ hkey h := verified_grant_signed hsecure hrange hkey h
  prepareExact c expected prepare prepare' hfor hinj := by
    rw [verifyPrepare_ok, isFor_iff hinj hfor]
  grantSeparated := grantInput_ne_evidenceInput
  kindSeparated _ _ _ _ hne h := hne (evidenceInput_inj h).1
  evidenceSigned _ _ _ h := verified_evidence_signed hsecure hrange h
  kindKept _ _ _ _ _ _ _ hkey hc hsign h := kind_of_accepted hsecure hrange hkey hc hsign h
  ready := by
    refine evidenceBinds_of ?_
    rintro ready ⟨config, peer, frame, nonce, challenge, now, hkey, h⟩
    exact validateReady_ok hsecure hrange hkey h
  prepared := by
    refine evidenceBinds_of ?_
    rintro prepared ⟨R, config, ready, frame, now, s, s', hkey, hmessage, h⟩
    obtain ⟨prepared', hmessage', hattested⟩ := acceptAuthenticatedPrepared_ok hsecure hrange hkey h
    obtain rfl : prepared = prepared' := by simpa [hmessage] using hmessage'
    exact hattested
  result := by
    refine evidenceBinds_of ?_
    rintro result ⟨R, config, ready, observed, frame, now, s, s', hkey, hmessage, h⟩
    obtain ⟨result', hmessage', hattested, -⟩ := acceptAuthenticatedResult_ok hsecure hrange hkey h
    obtain rfl : result = result' := by simpa [hmessage] using hmessage'
    exact hattested
  cleanup := by
    refine evidenceBinds_of ?_
    rintro result ⟨R, config, ready, observed, frame, now, s, s', hkey, hmessage, h⟩
    obtain ⟨result', hmessage', -, hattested⟩ := acceptAuthenticatedResult_ok hsecure hrange hkey h
    obtain rfl : result = result' := by simpa [hmessage] using hmessage'
    exact hattested

/-! ## 一つの許可と一つの証拠 -/

def sixtyFour (digit : Char) : String := String.ofList (List.replicate 64 digit)

def signedPrepare : PrepareFrame where
  binding := {
    runId := "run-1"
    jobId := "job-1"
    attempt := 1
    fenceToken := 2
    authorityDigest := sixtyFour 'a'
    profileDigest := sixtyFour 'b'
    deploymentEpoch := 3
    credentialRevision := "credential-v1" }
  executionGrantJson := ""
  isolationPermitEnvelopeJson := "\x7b\"permit\":\"exact\"\x7d"
  taskJson := "\x7b\"instruction\":\"check\"\x7d"
  definitionJson := "\x7b\"schedule\":\"0 * * * *\"\x7d"
  capabilityJson := "\x7b\"tools\":[\"github.issue_read\"]\x7d"
  targetsJson := "\x7b\"delivery\":\"slack-dm\"\x7d"

def signedPrepared : PreparedFrame where
  signedEvidenceJson := ""
  binding := signedPrepare.binding
  preparationNonce := sixtyFour '3'
  attestedProfileJson := "\x7b\"profile\":1\x7d"
  attestedProfileDigest := sixtyFour '4'
  githubMcpAccessAuthMode := "supervisor-dynamic-tools-v1"
  githubMcpAccessTokenRevision := "mcp-channel-v1"

def hashOnly : SignatureEnv := ⟨fun _ _ _ => false, Sha256.sha256Hex⟩

def signedGrant : RemoteExecutionGrantClaims :=
  .forPrepare hashOnly (sixtyFour 'f') 1 "spiffe://codeoff/gateway/production" "gateway-grant-2026-07" (sixtyFour 'c')
    (sixtyFour 'd') (sixtyFour 'e') 1000 2000 3 (sixtyFour 'b') signedPrepare

def signedEvidence : RunnerEvidenceClaims where
  kind := .prepared
  algorithmVersion := evidenceAlgorithmVersion
  signerIdentity := "spiffe://codeoff/executor/production"
  keyRevision := "executor-evidence-2026-07"
  sessionNonce := sixtyFour '1'
  challenge := sixtyFour '2'
  sequence := 3
  issuedAtUnixMillis := 1000
  expiresAtUnixMillis := 2000
  deploymentEpoch := 9
  deploymentProfileDigest := sixtyFour '3'
  observedProfileDigest := sixtyFour '4'
  executorIdentity := "uid:0:gid:0"
  credentialRevision := "github-readonly-v1"
  payloadDigest := preparedEvidencePayloadDigest hashOnly signedPrepared

def grantInput : List UInt8 := RemoteExecutionGrantClaims.signingInput signedGrant.canonicalJson

def evidenceInput : List UInt8 := RunnerEvidenceClaims.signingInput signedEvidence.kind signedEvidence.canonicalJson

def signingKey : List UInt8 :=
  [138, 136, 227, 221, 116, 9, 241, 149, 253, 82, 219, 45, 60, 186, 93, 114, 202, 103, 9, 191, 29, 148, 18, 27,
    243, 116, 136, 1, 180, 15, 111, 92]

def grantSignature : List UInt8 :=
  [169, 42, 30, 38, 131, 179, 13, 200, 90, 80, 35, 188, 253, 9, 57, 196, 173, 247, 12, 146, 96, 14, 165, 153, 27,
    20, 102, 122, 44, 83, 64, 123, 205, 87, 29, 123, 7, 193, 80, 251, 177, 174, 190, 119, 142, 133, 213, 120, 26,
    93, 196, 144, 32, 55, 234, 169, 135, 37, 38, 219, 48, 122, 159, 4]

def evidenceSignature : List UInt8 :=
  [252, 117, 249, 81, 6, 166, 27, 173, 25, 103, 204, 139, 121, 25, 214, 108, 18, 25, 43, 38, 133, 165, 24, 219, 22,
    46, 242, 225, 64, 140, 8, 101, 76, 80, 221, 72, 45, 75, 78, 132, 86, 47, 72, 232, 99, 140, 160, 92, 166, 167,
    81, 213, 154, 208, 252, 240, 74, 205, 33, 56, 8, 186, 26, 14]

def signingEnv : SignatureEnv where
  verify key message signature := key == signingKey &&
    (message == grantInput && signature == grantSignature || message == evidenceInput && signature == evidenceSignature)
  sha256Hex := Sha256.sha256Hex

def signingParty : SigningParty where
  keyPair := {
    sign := fun message =>
      if message = grantInput then grantSignature else if message = evidenceInput then evidenceSignature else []
    publicKey := signingKey }
  grants := {signedGrant}
  evidence := {signedEvidence}

theorem signingParty_messages {message : List UInt8} :
    message ∈ signingParty.messages ↔ message = grantInput ∨ message = evidenceInput := by
  simp [SigningParty.messages, signingParty, grantInput, evidenceInput]

theorem sign_grantInput : signingParty.keyPair.sign grantInput = grantSignature := by
  simp only [signingParty, if_true]

theorem sign_evidenceInput : signingParty.keyPair.sign evidenceInput = evidenceSignature := by
  have hne : evidenceInput ≠ grantInput := (grantInput_ne_evidenceInput _ _ _).symm
  simp only [signingParty, if_neg hne, if_true]

theorem signingParty_secure : Ed25519Secure signingEnv signingParty where
  length := by
    intro message hmessage
    obtain rfl | rfl := signingParty_messages.mp hmessage
    · rw [sign_grantInput]
      rfl
    · rw [sign_evidenceInput]
      rfl
  correct := by
    intro message hmessage
    obtain rfl | rfl := signingParty_messages.mp hmessage
    · rw [sign_grantInput]
      simp [signingEnv, signingParty]
    · rw [sign_evidenceInput]
      simp [signingEnv, signingParty]
  unforgeable := by
    intro message signature h
    have hsigned : message = grantInput ∧ signature = grantSignature ∨
        message = evidenceInput ∧ signature = evidenceSignature := by
      simpa [signingEnv, signingParty] using h
    exact signingParty_messages.mpr (hsigned.imp And.left And.left)

theorem signingParty_inRange : signingParty.InRange where
  grants := by
    rintro c rfl
    exact ⟨by decide, by decide, by decide, by decide, ⟨by decide, by decide, by decide⟩⟩
  evidence := by
    rintro c rfl
    exact ⟨by decide, by decide, by decide, by decide⟩

/-- 許しと証拠に一度ずつ署名した者について。 -/
theorem signed_formats_bind_sample : SignedFormatsBind signingEnv signingParty :=
  signed_formats_bind signingParty_secure signingParty_inRange

def relayedResult : ResultFrame where
  signedEvidenceJson := ""
  signedCleanupEvidenceJson := ""
  binding := signedPrepare.binding
  preparationNonce := sixtyFour '3'
  kind := .completed
  resultJson := "\x7b\"schema_version\":1\x7d"

/-- 後始末の証拠の文面を変えても、結果の要約値も後始末の要約値も変わらない。 -/
theorem cleanup_evidence_unbound :
    let altered : ResultFrame := { relayedResult with signedCleanupEvidenceJson := "\x7b\x7d" }
    altered ≠ relayedResult ∧
      resultEvidencePayloadDigest signingEnv altered = resultEvidencePayloadDigest signingEnv relayedResult ∧
      cleanupEvidencePayloadDigest signingEnv altered = cleanupEvidencePayloadDigest signingEnv relayedResult :=
  ⟨by simp [relayedResult], rfl, rfl⟩

end Codeoff.Runtime
