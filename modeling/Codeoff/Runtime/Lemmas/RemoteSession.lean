import Codeoff.Runtime.RemoteSession

/-!
# セッションの一度の受け入れ

`accept` は検査を終えてから書き換える。
-/

namespace Codeoff.Runtime

open Codeoff.Core Codeoff.Control Codeoff.Relational Codeoff.State

variable {E : RemoteEnv} {s s' : RemoteSessionState} {sender : RemoteSessionRole} {now : Nat} {u : Unit}

/-! ## 検査の成功 -/

@[simp] theorem orError_ok {holds : Bool} {error : RemoteProtocolError} :
    orError holds error = .ok u ↔ holds = true := by
  cases holds <;> simp [orError]

@[simp] theorem ensure_ok {holds : Bool} {error : RemoteSessionError} :
    ensure holds error = .ok u ↔ holds = true := by
  cases holds <;> simp [ensure]

@[simp] theorem expect_ok {α : Type} {message : String} {o : Option α} {a : α} :
    expect message o = .ok a ↔ o = some a := by
  cases o <;> simp [expect]

theorem requireHex_ne_empty {field value : String} (h : requireHex field value 64 = .ok u) : value ≠ "" := by
  rintro rfl
  cases h

theorem RemoteFrame.validateAt_message {frame : RemoteFrame} (h : frame.validateAt E now = .ok u) :
    frame.message.validateAt E now = .ok () := by
  unfold RemoteFrame.validateAt at h
  obtain ⟨_, _, h⟩ := except_bind_ok.mp h
  obtain ⟨_, _, h⟩ := except_bind_ok.mp h
  obtain ⟨_, _, h⟩ := except_bind_ok.mp h
  exact h

theorem ReadyFrame.validateAt_profileDigest {f : ReadyFrame} (h : f.validateAt E now = .ok u) :
    f.profileDigest ≠ "" := by
  unfold ReadyFrame.validateAt at h
  obtain ⟨_, _, h⟩ := except_bind_ok.mp h
  obtain ⟨_, _, h⟩ := except_bind_ok.mp h
  obtain ⟨_, _, h⟩ := except_bind_ok.mp h
  obtain ⟨_, _, h⟩ := except_bind_ok.mp h
  obtain ⟨_, hdigest, _⟩ := except_bind_ok.mp h
  exact requireHex_ne_empty hdigest

theorem AdmissionFrame.validateAt_nonce {f : AdmissionFrame} (h : f.validateAt now = .ok u) :
    f.admissionNonce ≠ "" := by
  unfold AdmissionFrame.validateAt at h
  obtain ⟨_, _, h⟩ := except_bind_ok.mp h
  obtain ⟨_, hnonce, _⟩ := except_bind_ok.mp h
  exact requireHex_ne_empty hnonce

theorem RemoteFrameSequencer.accept_validates {q q' : RemoteFrameSequencer} {frame : RemoteFrame}
    {verdict : SequenceAcceptance} (h : q.accept E frame now = .ok (verdict, q')) :
    frame.validateAt E now = .ok () := by
  unfold RemoteFrameSequencer.accept at h
  obtain ⟨_, hvalid, _⟩ := except_bind_ok.mp h
  exact hvalid

namespace RemoteSessionState

theorem require_ok {actual expected : RemoteSessionRole} {phase : SessionPhase} :
    require actual expected phase s = .ok u ↔ actual = expected ∧ s.phase = phase := by
  unfold require
  rw [except_bind_ok]
  simp

theorem requireLiveAdmission_ok {consumed : Bool} :
    requireLiveAdmission now consumed s = .ok u ↔ ∃ a, s.admission = some a ∧ a.nonce ≠ "" ∧
      now < a.effectiveExpiresAtUnixMillis ∧ a.consumed = consumed := by
  unfold requireLiveAdmission debugAssert
  simp only [except_bind_ok, expect_ok, ensure_ok]
  constructor
  · rintro ⟨a, ha, _, hnonce, _, hlive, hconsumed⟩
    refine ⟨a, ha, ?_, by simpa using hlive, by simpa using hconsumed⟩
    rintro hempty
    simp [hempty] at hnonce
  · rintro ⟨a, ha, hnonce, hlive, hconsumed⟩
    exact ⟨a, ha, (), by simp [hnonce], (), by simpa using hlive, by simpa using hconsumed⟩

theorem validateAdmission_ok {f : AdmissionFrame} {expiry : Nat} (h : validateAdmission f now s = .ok expiry) :
    ∃ r, s.ready = some r ∧ f.challenge = r.challenge ∧ f.deploymentEpoch = r.deploymentEpoch ∧
      f.profileDigest = r.profileDigest ∧ expiry ≤ r.readyUntilUnixMillis ∧
      expiry ≤ f.expiresAtUnixMillis ∧ expiry ≤ now + maxAdmissionTtlMillis := by
  unfold validateAdmission at h
  obtain ⟨r, hr, h⟩ := except_bind_ok.mp h
  obtain ⟨_, hidentity, h⟩ := except_bind_ok.mp h
  obtain ⟨_, _, h⟩ := except_bind_ok.mp h
  obtain ⟨_, _, h⟩ := except_bind_ok.mp h
  obtain ⟨_, _, h⟩ := except_bind_ok.mp h
  simp only [ensure_ok, Bool.and_eq_true, beq_iff_eq] at hidentity
  cases h
  exact ⟨r, expect_ok.mp hr, hidentity.1.1, hidentity.1.2, hidentity.2, by omega, by omega, by omega⟩

/-- 結び付きの検査を通れば、配備と能力と資格情報は準備の告げたものであり、実行は期待した権限のものである。 -/
theorem validateBinding_ok {b : RunBinding} (h : validateBinding b s = .ok u) :
    ∃ r, s.ready = some r ∧ b.deploymentEpoch = r.deploymentEpoch ∧ b.profileDigest = r.profileDigest ∧
      b.credentialRevision = r.credentialRevision ∧
      s.expectedAuthority.matchesRemoteBinding b.runId b.jobId b.attempt b.fenceToken
        b.authorityDigest = true := by
  unfold validateBinding at h
  obtain ⟨r, hr, h⟩ := except_bind_ok.mp h
  obtain ⟨_, hidentity, hmatches⟩ := except_bind_ok.mp h
  simp only [ensure_ok, Bool.and_eq_true, beq_iff_eq] at hidentity
  exact ⟨r, expect_ok.mp hr, hidentity.1.1, hidentity.1.2, hidentity.2, ensure_ok.mp hmatches⟩

theorem requireBinding_ok {b : RunBinding} : requireBinding b s = .ok u ↔ s.binding = some b := by
  simp [requireBinding]

theorem requirePreparationNonce_ok {nonce : String} :
    requirePreparationNonce nonce s = .ok u ↔ s.preparationNonce = some nonce := by
  simp [requirePreparationNonce]

/-! ## 受け入れた枠 -/

/-- 枠を受け入れたときの、前の条件と後の状態。 -/
inductive Accepts (s : RemoteSessionState) (now : Nat) :
    RemoteSessionRole → RemoteMessage → RemoteSessionState → Prop where
  | ready (f : ReadyFrame) (phase : s.phase = .waitingReady) :
      Accepts s now .runner (.ready f) { s with ready := some f.identity, phase := .waitingAdmission }
  | admission (f : AdmissionFrame) (r : ReadyIdentity) (expiry : Nat) (phase : s.phase = .waitingAdmission)
      (ready : s.ready = some r) (challenge : f.challenge = r.challenge)
      (epoch : f.deploymentEpoch = r.deploymentEpoch) (profile : f.profileDigest = r.profileDigest)
      (withinReady : expiry ≤ r.readyUntilUnixMillis) (withinAdmission : expiry ≤ f.expiresAtUnixMillis)
      (withinTtl : expiry ≤ now + maxAdmissionTtlMillis) :
      Accepts s now .gateway (.admission f)
        { s with admission := some ⟨f.admissionNonce, expiry, false⟩, phase := .waitingPrepare }
  | prepare (f : PrepareFrame) (r : ReadyIdentity) (a : AdmissionState) (phase : s.phase = .waitingPrepare)
      (ready : s.ready = some r) (admission : s.admission = some a)
      (epoch : f.binding.deploymentEpoch = r.deploymentEpoch)
      (profile : f.binding.profileDigest = r.profileDigest)
      (credential : f.binding.credentialRevision = r.credentialRevision)
      (authority : s.expectedAuthority.matchesRemoteBinding f.binding.runId f.binding.jobId
        f.binding.attempt f.binding.fenceToken f.binding.authorityDigest = true) :
      Accepts s now .gateway (.prepare f)
        { s with admission := some { a with consumed := true }, binding := some f.binding,
                 phase := .waitingPrepared }
  | prepared (f : PreparedFrame) (phase : s.phase = .waitingPrepared) (binding : s.binding = some f.binding) :
      Accepts s now .runner (.prepared f)
        { s with preparationNonce := some f.preparationNonce, phase := .waitingStart }
  | start (f : StartFrame) (a : AdmissionState) (phase : s.phase = .waitingStart)
      (admission : s.admission = some a) (live : now < a.effectiveExpiresAtUnixMillis)
      (consumed : a.consumed = true) (binding : s.binding = some f.binding)
      (nonce : s.preparationNonce = some f.preparationNonce) :
      Accepts s now .gateway (.start f) { s with started := true, phase := .waitingResult }
  | result (f : ResultFrame) (phase : s.phase = resultPhase f.kind) (binding : s.binding = some f.binding)
      (nonce : s.preparationNonce = some f.preparationNonce) :
      Accepts s now .runner (.result f)
        { s with terminal := some ⟨resultDisposition f.kind, true⟩, phase := .terminal }
  | heartbeat (f : HeartbeatFrame) (binding : s.binding = some f.binding) :
      Accepts s now .runner (.heartbeat f) { s with heartbeatPhase := some f.phase }
  | cancel (f : CancelFrame) (binding : s.binding = some f.binding) :
      Accepts s now .gateway (.cancel f)
        { s with terminal := some ⟨if s.started then .outcomeUnknown else .failedBeforeStart, false⟩,
                 phase := .terminal }
  | error (f : ErrorFrame) (binding : s.binding = f.binding) :
      Accepts s now .runner (.error f)
        { s with terminal := some ⟨if s.started then .outcomeUnknown else .failedBeforeStart, false⟩,
                 phase := .terminal }

theorem acceptPrepare_ok {f : PrepareFrame} (h : acceptPrepare sender f now s = .ok u s') :
    Accepts s now sender (.prepare f) s' := by
  unfold acceptPrepare at h
  obtain ⟨_, hsender, h⟩ := inspect_bind_ok.mp h
  obtain ⟨_, _, h⟩ := inspect_bind_ok.mp h
  obtain ⟨_, hphase, h⟩ := inspect_bind_ok.mp h
  obtain ⟨_, _, h⟩ := inspect_bind_ok.mp h
  obtain ⟨_, hbinding, h⟩ := inspect_bind_ok.mp h
  obtain ⟨a, hadmission, h⟩ := inspect_bind_ok.mp h
  cases h
  obtain rfl : sender = .gateway := by simpa using hsender
  obtain ⟨r, hr, hepoch, hprofile, hcredential, hauthority⟩ := validateBinding_ok hbinding
  exact .prepare f r a (by simpa using hphase) hr (expect_ok.mp hadmission) hepoch hprofile hcredential
    hauthority

theorem acceptStart_ok {f : StartFrame} (h : acceptStart sender f now s = .ok u s') :
    Accepts s now sender (.start f) s' := by
  unfold acceptStart at h
  obtain ⟨_, hrequire, h⟩ := inspect_bind_ok.mp h
  obtain ⟨_, hlive, h⟩ := inspect_bind_ok.mp h
  obtain ⟨_, hbinding, h⟩ := inspect_bind_ok.mp h
  obtain ⟨_, hnonce, h⟩ := inspect_bind_ok.mp h
  cases h
  obtain ⟨rfl, hphase⟩ := require_ok.mp hrequire
  obtain ⟨a, ha, _, hnow, hconsumed⟩ := requireLiveAdmission_ok.mp hlive
  exact .start f a hphase ha hnow hconsumed (requireBinding_ok.mp hbinding)
    (requirePreparationNonce_ok.mp hnonce)

theorem acceptResult_ok {f : ResultFrame} (h : acceptResult sender f s = .ok u s') :
    Accepts s now sender (.result f) s' := by
  unfold acceptResult at h
  obtain ⟨_, hsender, h⟩ := inspect_bind_ok.mp h
  obtain ⟨_, hphase, h⟩ := inspect_bind_ok.mp h
  obtain ⟨_, hbinding, h⟩ := inspect_bind_ok.mp h
  obtain ⟨_, hnonce, h⟩ := inspect_bind_ok.mp h
  cases h
  obtain rfl : sender = .runner := by simpa using hsender
  exact .result f (by simpa using hphase) (requireBinding_ok.mp hbinding)
    (requirePreparationNonce_ok.mp hnonce)

/-- 受け入れは、段階ごとに決まった一つの変化である。 -/
theorem acceptMessage_ok {message : RemoteMessage} (h : acceptMessage E sender message now s = .ok u s') :
    Accepts s now sender message s' := by
  cases message with
  | readinessRequest f => cases h
  | ready f =>
    obtain ⟨_, hrequire, h⟩ := inspect_bind_ok.mp h
    cases h
    obtain ⟨rfl, hphase⟩ := require_ok.mp hrequire
    exact .ready f hphase
  | admission f =>
    obtain ⟨_, hrequire, h⟩ := inspect_bind_ok.mp h
    obtain ⟨expiry, hvalid, h⟩ := inspect_bind_ok.mp h
    cases h
    obtain ⟨rfl, hphase⟩ := require_ok.mp hrequire
    obtain ⟨r, hr, hchallenge, hepoch, hprofile, hready, hadmission, httl⟩ := validateAdmission_ok hvalid
    exact .admission f r expiry hphase hr hchallenge hepoch hprofile hready hadmission httl
  | prepare f => exact acceptPrepare_ok h
  | prepared f =>
    obtain ⟨_, hrequire, h⟩ := inspect_bind_ok.mp h
    obtain ⟨_, hbinding, h⟩ := inspect_bind_ok.mp h
    obtain ⟨_, _, h⟩ := inspect_bind_ok.mp h
    cases h
    obtain ⟨rfl, hphase⟩ := require_ok.mp hrequire
    exact .prepared f hphase (requireBinding_ok.mp hbinding)
  | start f => exact acceptStart_ok h
  | result f => exact acceptResult_ok h
  | heartbeat f =>
    obtain ⟨_, hsender, h⟩ := inspect_bind_ok.mp h
    obtain ⟨_, hbinding, h⟩ := inspect_bind_ok.mp h
    obtain ⟨_, _, h⟩ := inspect_bind_ok.mp h
    cases h
    obtain rfl : sender = .runner := by simpa using hsender
    exact .heartbeat f (requireBinding_ok.mp hbinding)
  | cancel f =>
    obtain ⟨_, hsender, h⟩ := inspect_bind_ok.mp h
    obtain ⟨_, hbinding, h⟩ := inspect_bind_ok.mp h
    cases h
    obtain rfl : sender = .gateway := by simpa using hsender
    exact .cancel f (requireBinding_ok.mp hbinding)
  | error f =>
    obtain ⟨_, hsender, h⟩ := inspect_bind_ok.mp h
    obtain ⟨_, hbinding, h⟩ := inspect_bind_ok.mp h
    cases h
    obtain rfl : sender = .runner := by simpa using hsender
    obtain ⟨_, hbinding, _⟩ := except_bind_ok.mp hbinding
    exact .error f (by simpa using hbinding)

/-- 受け取られた枠は検査を通り、会話は終わっておらず、状態はその文の受け取り方のとおりに進む。 -/
theorem accept_accepted {frame : RemoteFrame} (h : accept E sender frame now s = .ok .accepted s') :
    frame.message.validateAt E now = .ok () ∧ s.phase ≠ .terminal ∧
      ∃ q t, Accepts s now sender frame.message t ∧ s' = setSequencer sender q t := by
  unfold accept at h
  obtain ⟨⟨verdict, q⟩, hsequence, h⟩ := inspect_bind_ok.mp h
  have hvalid : frame.message.validateAt E now = .ok () := by
    unfold sequence at hsequence
    cases hq : (s.sequencer sender).accept E frame now with
    | ok r =>
      rw [hq] at hsequence
      cases hsequence
      exact RemoteFrame.validateAt_message (RemoteFrameSequencer.accept_validates hq)
    | error e =>
      rw [hq] at hsequence
      cases hsequence
  cases verdict with
  | exactDuplicate =>
    obtain ⟨_, _, h⟩ := inspect_bind_ok.mp h
    cases h
  | accepted =>
    obtain ⟨_, hopen, h⟩ := inspect_bind_ok.mp h
    obtain ⟨_, t, haccept, h⟩ := bind_ok.mp h
    cases h
    exact ⟨hvalid, by simpa using hopen, q, t, acceptMessage_ok haccept, rfl⟩

/-- 同じ枠が再び届いても、状態は変わらない。 -/
theorem accept_exactDuplicate {frame : RemoteFrame}
    (h : accept E sender frame now s = .ok .exactDuplicate s') : s' = s := by
  unfold accept at h
  obtain ⟨⟨verdict, q⟩, _, h⟩ := inspect_bind_ok.mp h
  cases verdict with
  | exactDuplicate =>
    obtain ⟨_, _, h⟩ := inspect_bind_ok.mp h
    cases h
    rfl
  | accepted =>
    obtain ⟨_, _, h⟩ := inspect_bind_ok.mp h
    obtain ⟨_, t, _, h⟩ := bind_ok.mp h
    cases h

theorem checked_acceptMessage (message : RemoteMessage) : Checked (acceptMessage E sender message now) := by
  have hset {g : RemoteSessionState → RemoteSessionState} :
      Infallible (modify g : SessionCall PUnit) := .modify g
  cases message with
  | readinessRequest f => exact .throw _
  | ready f => exact .inspect_bind fun _ => (hset.bind fun _ => hset).checked
  | admission f => exact .inspect_bind fun _ => .inspect_bind fun _ => (hset.bind fun _ => hset).checked
  | prepare f =>
    refine .inspect_bind fun _ => .inspect_bind fun _ => .inspect_bind fun _ => ?_
    refine .inspect_bind fun _ => .inspect_bind fun _ => .inspect_bind fun _ => ?_
    exact (hset.bind fun _ => hset.bind fun _ => hset).checked
  | prepared f =>
    refine .inspect_bind fun _ => .inspect_bind fun _ => .inspect_bind fun _ => ?_
    exact (hset.bind fun _ => hset).checked
  | start f =>
    refine .inspect_bind fun _ => .inspect_bind fun _ => .inspect_bind fun _ => .inspect_bind fun _ => ?_
    exact (hset.bind fun _ => hset).checked
  | result f =>
    refine .inspect_bind fun _ => .inspect_bind fun _ => .inspect_bind fun _ => .inspect_bind fun _ => ?_
    exact (hset.bind fun _ => hset).checked
  | heartbeat f =>
    exact .inspect_bind fun _ => .inspect_bind fun _ => .inspect_bind fun _ => hset.checked
  | cancel f => exact .inspect_bind fun _ => .inspect_bind fun _ => (hset.bind fun _ => hset).checked
  | error f => exact .inspect_bind fun _ => .inspect_bind fun _ => (hset.bind fun _ => hset).checked

theorem checked_accept (frame : RemoteFrame) : Checked (accept E sender frame now) := by
  refine .inspect_bind fun r => ?_
  obtain ⟨verdict, q⟩ := r
  cases verdict with
  | exactDuplicate => exact .inspect_bind fun _ => (Infallible.pure _).checked
  | accepted =>
    refine .inspect_bind fun _ => (checked_acceptMessage frame.message).bind fun _ => ?_
    exact (Infallible.modify _).bind fun _ => .pure _

end RemoteSessionState

end Codeoff.Runtime
