import Codeoff.Runtime.Lemmas.RemoteSession

/-!
# セッションの履歴の不変条件

局面は、開始までの五種の枠のうち、どこまでを受け入れたかを表す。
-/

namespace Codeoff.Runtime

open Codeoff.Core Codeoff.Control Codeoff.State

variable {E : RemoteEnv} {authority : ScheduledPrepareAuthority} {s : RemoteSessionState} {now : Nat}
  {c : RemoteCall} {calls : List RemoteCall}

def RemoteCall.isHandshake (c : RemoteCall) : Bool :=
  match c.frame.message with
  | .ready _ => true
  | .admission _ => true
  | .prepare _ => true
  | .prepared _ => true
  | .start _ => true
  | _ => false

def RemoteCall.isStart (c : RemoteCall) : Bool :=
  match c.frame.message with
  | .start _ => true
  | _ => false

def RemoteCall.isResult (c : RemoteCall) : Bool :=
  match c.frame.message with
  | .result _ => true
  | _ => false

structure ReadyAccepted (c : RemoteCall) (f : ReadyFrame) : Prop where
  sender : c.sender = .runner
  message : c.frame.message = .ready f

structure AdmissionAccepted (ready : ReadyFrame) (c : RemoteCall) (f : AdmissionFrame) : Prop where
  sender : c.sender = .gateway
  message : c.frame.message = .admission f
  challenge : f.challenge = ready.challenge
  epoch : f.deploymentEpoch = ready.deploymentEpoch
  profile : f.profileDigest = ready.profileDigest

structure PrepareAccepted (authority : ScheduledPrepareAuthority) (ready : ReadyFrame) (c : RemoteCall)
    (f : PrepareFrame) : Prop where
  sender : c.sender = .gateway
  message : c.frame.message = .prepare f
  epoch : f.binding.deploymentEpoch = ready.deploymentEpoch
  profile : f.binding.profileDigest = ready.profileDigest
  credential : f.binding.credentialRevision = ready.credentialRevision
  matching : authority.matchesRemoteBinding f.binding.runId f.binding.jobId f.binding.attempt
    f.binding.fenceToken f.binding.authorityDigest = true

structure PreparedAccepted (prepare : PrepareFrame) (c : RemoteCall) (f : PreparedFrame) : Prop where
  sender : c.sender = .runner
  message : c.frame.message = .prepared f
  binding : f.binding = prepare.binding

structure StartAccepted (ready : ReadyFrame) (admitted : RemoteCall) (admission : AdmissionFrame)
    (prepare : PrepareFrame) (prepared : PreparedFrame) (c : RemoteCall) (f : StartFrame) : Prop where
  sender : c.sender = .gateway
  message : c.frame.message = .start f
  binding : f.binding = prepare.binding
  nonce : f.preparationNonce = prepared.preparationNonce
  withinReady : c.now < ready.readyUntilUnixMillis
  withinAdmission : c.now < admission.expiresAtUnixMillis
  withinTtl : c.now < admitted.now + maxAdmissionTtlMillis

def StartedInOrder (authority : ScheduledPrepareAuthority) (handshake : List RemoteCall) : Prop :=
  ∃ c₁ ready c₂ admission c₃ prepare c₄ prepared c₅ start, handshake = [c₁, c₂, c₃, c₄, c₅] ∧
    ReadyAccepted c₁ ready ∧ AdmissionAccepted ready c₂ admission ∧
    PrepareAccepted authority ready c₃ prepare ∧ PreparedAccepted prepare c₄ prepared ∧
    StartAccepted ready c₂ admission prepare prepared c₅ start

def Idle (s : RemoteSessionState) : Prop := s.started = false ∧ s.terminal = none

/-- 承認の期限は、名乗りの期限と承認の枠の期限を超えない。 -/
structure AdmissionHeld (ready : ReadyFrame) (admitted : RemoteCall) (admission : AdmissionFrame)
    (consumed : Bool) (a : AdmissionState) : Prop where
  nonce : a.nonce ≠ ""
  consumed : a.consumed = consumed
  withinReady : a.effectiveExpiresAtUnixMillis ≤ ready.readyUntilUnixMillis
  withinAdmission : a.effectiveExpiresAtUnixMillis ≤ admission.expiresAtUnixMillis
  withinTtl : a.effectiveExpiresAtUnixMillis ≤ admitted.now + maxAdmissionTtlMillis

def Stage (authority : ScheduledPrepareAuthority) (s : RemoteSessionState) (handshake : List RemoteCall) :
    Prop :=
  match s.phase with
  | .waitingReady => handshake = [] ∧ Idle s
  | .waitingAdmission => ∃ c₁ ready, handshake = [c₁] ∧ ReadyAccepted c₁ ready ∧
      s.ready = some ready.identity ∧ ready.profileDigest ≠ "" ∧ Idle s
  | .waitingPrepare => ∃ c₁ ready c₂ admission a, handshake = [c₁, c₂] ∧ ReadyAccepted c₁ ready ∧
      AdmissionAccepted ready c₂ admission ∧ s.ready = some ready.identity ∧
      ready.profileDigest ≠ "" ∧ s.admission = some a ∧ AdmissionHeld ready c₂ admission false a ∧ Idle s
  | .waitingPrepared => ∃ c₁ ready c₂ admission c₃ prepare a, handshake = [c₁, c₂, c₃] ∧
      ReadyAccepted c₁ ready ∧ AdmissionAccepted ready c₂ admission ∧
      PrepareAccepted authority ready c₃ prepare ∧ s.ready = some ready.identity ∧
      ready.profileDigest ≠ "" ∧ s.admission = some a ∧ AdmissionHeld ready c₂ admission true a ∧
      s.binding = some prepare.binding ∧ Idle s
  | .waitingStart => ∃ c₁ ready c₂ admission c₃ prepare c₄ prepared a, handshake = [c₁, c₂, c₃, c₄] ∧
      ReadyAccepted c₁ ready ∧ AdmissionAccepted ready c₂ admission ∧
      PrepareAccepted authority ready c₃ prepare ∧ PreparedAccepted prepare c₄ prepared ∧
      s.admission = some a ∧ AdmissionHeld ready c₂ admission true a ∧
      s.binding = some prepare.binding ∧ s.preparationNonce = some prepared.preparationNonce ∧ Idle s
  | .waitingResult => StartedInOrder authority handshake ∧ s.started = true ∧ s.terminal = none
  | .terminal => (s.started = true → StartedInOrder authority handshake) ∧
      (s.started = false → ∀ c ∈ handshake, c.isStart = false) ∧ s.terminal.isSome = true

inductive Closes (started : Bool) (c : RemoteCall) : TerminalState → Prop where
  | result (f : ResultFrame) (message : c.frame.message = .result f) (sender : c.sender = .runner)
      (executed : f.kind = .completed → started = true) :
      Closes started c ⟨RemoteSessionState.resultDisposition f.kind, true⟩
  | withoutResult (notResult : c.isResult = false) :
      Closes started c ⟨if started then .outcomeUnknown else .failedBeforeStart, false⟩

structure Follows (authority : ScheduledPrepareAuthority) (h : RemoteSessionHistory) : Prop where
  expected : h.state.expectedAuthority = authority
  stage : Stage authority h.state (h.accepted.filter RemoteCall.isHandshake)
  open_ : h.state.terminal = none → ∀ c ∈ h.accepted, c.isResult = false
  closed : ∀ t, h.state.terminal = some t →
    ∃ before last, h.accepted = before ++ [last] ∧ Closes h.state.started last t

/-- 始まった会話では、開始の枠が手順どおりに届き、始まる前の会話に開始の枠はない。 -/
theorem Stage.started {handshake : List RemoteCall} (h : Stage authority s handshake) :
    (s.started = true → StartedInOrder authority handshake) ∧
      (s.started = false → ∀ c ∈ handshake, c.isStart = false) := by
  unfold Stage at h
  cases hphase : s.phase with
  | waitingReady =>
    simp only [hphase] at h
    obtain ⟨rfl, hidle, _⟩ := h
    simp [hidle]
  | waitingAdmission =>
    simp only [hphase] at h
    obtain ⟨c₁, r, rfl, h₁, _, _, hidle, _⟩ := h
    simp [hidle, RemoteCall.isStart, h₁.message]
  | waitingPrepare =>
    simp only [hphase] at h
    obtain ⟨c₁, r, c₂, f, a, rfl, h₁, h₂, _, _, _, _, hidle, _⟩ := h
    simp [hidle, RemoteCall.isStart, h₁.message, h₂.message]
  | waitingPrepared =>
    simp only [hphase] at h
    obtain ⟨c₁, r, c₂, f, c₃, p, a, rfl, h₁, h₂, h₃, _, _, _, _, _, hidle, _⟩ := h
    simp [hidle, RemoteCall.isStart, h₁.message, h₂.message, h₃.message]
  | waitingStart =>
    simp only [hphase] at h
    obtain ⟨c₁, r, c₂, f, c₃, p, c₄, d, a, rfl, h₁, h₂, h₃, h₄, _, _, _, _, hidle, _⟩ := h
    simp [hidle, RemoteCall.isStart, h₁.message, h₂.message, h₃.message, h₄.message]
  | waitingResult =>
    simp only [hphase] at h
    exact ⟨fun _ => h.1, fun hstarted => by simp [h.2.1] at hstarted⟩
  | terminal =>
    simp only [hphase] at h
    exact ⟨h.1, h.2.1⟩

theorem Stage.terminal_phase {handshake : List RemoteCall} (h : Stage authority s handshake) :
    s.terminal.isSome = true ↔ s.phase = .terminal := by
  unfold Stage Idle at h
  cases hphase : s.phase <;> simp only [hphase] at h <;> simp <;> grind

theorem Stage.setSequencer {handshake : List RemoteCall} (sender : RemoteSessionRole)
    (q : RemoteFrameSequencer) (h : Stage authority s handshake) :
    Stage authority (s.setSequencer sender q) handshake := by
  cases sender <;> exact h

/-! ## 一度の受け入れ -/

open RemoteSessionState (Accepts)

/-- 受け入れた枠は、握手の段階を一つ進めるか、段階を変えない。 -/
theorem Stage.step {handshake : List RemoteCall} {t : RemoteSessionState} (hstage : Stage authority s handshake)
    (hexpected : s.expectedAuthority = authority) (hvalid : c.frame.message.validateAt E c.now = .ok ())
    (haccepts : Accepts s c.now c.sender c.frame.message t) :
    Stage authority t (handshake ++ if c.isHandshake then [c] else []) := by
  have hstarted := hstage.started
  generalize hsender : c.sender = sender at haccepts
  generalize hmessage : c.frame.message = message at haccepts hvalid
  cases haccepts with
  | ready f phase =>
    simp only [Stage, phase] at hstage
    obtain ⟨rfl, hidle⟩ := hstage
    simp only [RemoteCall.isHandshake, hmessage, if_true, List.nil_append]
    exact ⟨c, f, rfl, ⟨hsender, hmessage⟩, rfl, ReadyFrame.validateAt_profileDigest hvalid, hidle⟩
  | admission f r expiry phase ready challenge epoch profile withinReady withinAdmission withinTtl =>
    simp only [Stage, phase] at hstage
    obtain ⟨c₁, first, rfl, h₁, hready, hdigest, hidle⟩ := hstage
    obtain rfl : first.identity = r := Option.some.inj (hready.symm.trans ready)
    have hnonce : f.admissionNonce ≠ "" := AdmissionFrame.validateAt_nonce hvalid
    simp only [RemoteCall.isHandshake, hmessage, if_true, List.cons_append, List.nil_append]
    exact ⟨c₁, first, c, f, _, rfl, h₁, ⟨hsender, hmessage, challenge, epoch, profile⟩, hready, hdigest, rfl,
      ⟨hnonce, rfl, withinReady, withinAdmission, withinTtl⟩, hidle⟩
  | prepare f r a phase ready admission epoch profile credential matching =>
    simp only [Stage, phase] at hstage
    obtain ⟨c₁, first, c₂, second, held, rfl, h₁, h₂, hready, hdigest, hadmission, hheld, hidle⟩ := hstage
    obtain rfl : first.identity = r := Option.some.inj (hready.symm.trans ready)
    obtain rfl : held = a := Option.some.inj (hadmission.symm.trans admission)
    rw [hexpected] at matching
    simp only [RemoteCall.isHandshake, hmessage, if_true, List.cons_append, List.nil_append]
    exact ⟨c₁, first, c₂, second, c, f, _, rfl, h₁, h₂,
      ⟨hsender, hmessage, epoch, profile, credential, matching⟩, hready, hdigest, rfl,
      ⟨hheld.nonce, rfl, hheld.withinReady, hheld.withinAdmission, hheld.withinTtl⟩, rfl, hidle⟩
  | prepared f phase binding =>
    simp only [Stage, phase] at hstage
    obtain ⟨c₁, first, c₂, second, c₃, third, held, rfl, h₁, h₂, h₃, _, _, hadmission, hheld, hbinding,
      hidle⟩ := hstage
    have hsame : f.binding = third.binding := Option.some.inj (binding.symm.trans hbinding)
    simp only [RemoteCall.isHandshake, hmessage, if_true, List.cons_append, List.nil_append]
    exact ⟨c₁, first, c₂, second, c₃, third, c, f, held, rfl, h₁, h₂, h₃, ⟨hsender, hmessage, hsame⟩,
      hadmission, hheld, hbinding, rfl, hidle⟩
  | start f a phase admission live consumed binding nonce =>
    simp only [Stage, phase] at hstage
    obtain ⟨c₁, first, c₂, second, c₃, third, c₄, fourth, held, rfl, h₁, h₂, h₃, h₄, hadmission, hheld,
      hbinding, hnonce, hidle⟩ := hstage
    obtain rfl : held = a := Option.some.inj (hadmission.symm.trans admission)
    have hsame : f.binding = third.binding := Option.some.inj (binding.symm.trans hbinding)
    have hprepared : f.preparationNonce = fourth.preparationNonce :=
      Option.some.inj (nonce.symm.trans hnonce)
    have h₅ : StartAccepted first c₂ second third fourth c f :=
      ⟨hsender, hmessage, hsame, hprepared, live.trans_le hheld.withinReady,
        live.trans_le hheld.withinAdmission, live.trans_le hheld.withinTtl⟩
    simp only [RemoteCall.isHandshake, hmessage, if_true, List.cons_append, List.nil_append]
    exact ⟨⟨c₁, first, c₂, second, c₃, third, c₄, fourth, c, f, rfl, h₁, h₂, h₃, h₄, h₅⟩, rfl, hidle.2⟩
  | heartbeat f binding =>
    have hother : c.isHandshake = false := by simp [RemoteCall.isHandshake, hmessage]
    rw [hother, if_neg Bool.false_ne_true, List.append_nil]
    exact hstage
  | result f phase binding nonce =>
    simpa [RemoteCall.isHandshake, hmessage, Stage] using hstarted
  | cancel f binding =>
    simpa [RemoteCall.isHandshake, hmessage, Stage] using hstarted
  | error f binding =>
    simpa [RemoteCall.isHandshake, hmessage, Stage] using hstarted

/-- 終わりが定まるのは、結果を受け入れたときか、結果のないまま閉じられたときである。 -/
theorem closes_of_accepts {handshake : List RemoteCall} {t : RemoteSessionState}
    (hstage : Stage authority s handshake) (hopen : s.terminal = none)
    (haccepts : Accepts s c.now c.sender c.frame.message t) :
    (t.terminal = none ∧ c.isResult = false) ∨ ∃ x, t.terminal = some x ∧ Closes t.started c x := by
  generalize hsender : c.sender = sender at haccepts
  generalize hmessage : c.frame.message = message at haccepts
  cases haccepts with
  | result f phase binding nonce =>
    refine .inr ⟨_, rfl, .result f hmessage hsender ?_⟩
    intro hcompleted
    rw [hcompleted] at phase
    simp only [Stage, phase, RemoteSessionState.resultPhase] at hstage
    exact hstage.2.1
  | cancel f binding => exact .inr ⟨_, rfl, .withoutResult (by simp [RemoteCall.isResult, hmessage])⟩
  | error f binding => exact .inr ⟨_, rfl, .withoutResult (by simp [RemoteCall.isResult, hmessage])⟩
  | _ => exact .inl ⟨hopen, by simp [RemoteCall.isResult, hmessage]⟩

theorem Accepts.expectedAuthority {t : RemoteSessionState} {sender : RemoteSessionRole} {message : RemoteMessage}
    (haccepts : Accepts s now sender message t) : t.expectedAuthority = s.expectedAuthority := by
  cases haccepts <;> rfl

theorem RemoteSessionHistory.call_cases (h : RemoteSessionHistory) (c : RemoteCall) :
    h.call E c = h ∨ ∃ s, RemoteSessionState.accept E c.sender c.frame c.now h.state = .ok .accepted s ∧
      h.call E c = ⟨s, h.accepted ++ [c]⟩ := by
  unfold RemoteSessionHistory.call
  cases haccept : RemoteSessionState.accept E c.sender c.frame c.now h.state with
  | ok verdict s =>
    cases verdict with
    | accepted => exact .inr ⟨s, rfl, rfl⟩
    | exactDuplicate =>
      obtain rfl := RemoteSessionState.accept_exactDuplicate haccept
      exact .inl rfl
  | error fault s =>
    obtain rfl := RemoteSessionState.checked_accept c.frame haccept
    exact .inl rfl

/-- 枠を一つ受けるたびに、状態は受け入れた枠の列に従い続ける。 -/
theorem Follows.call {h : RemoteSessionHistory} (hfollows : Follows authority h) (c : RemoteCall) :
    Follows authority (h.call E c) := by
  obtain hsame | ⟨s, haccept, hcall⟩ := h.call_cases (E := E) c
  · rw [hsame]
    exact hfollows
  · rw [hcall]
    obtain ⟨hvalid, hphase, q, t, haccepts, rfl⟩ := RemoteSessionState.accept_accepted haccept
    have hopen : h.state.terminal = none := by
      rw [← Option.not_isSome_iff_eq_none, hfollows.stage.terminal_phase]
      exact hphase
    have hterminal : (t.setSequencer c.sender q).terminal = t.terminal := by cases c.sender <;> rfl
    have hstarted : (t.setSequencer c.sender q).started = t.started := by cases c.sender <;> rfl
    have hcloses := closes_of_accepts hfollows.stage hopen haccepts
    constructor
    · have hkept := Accepts.expectedAuthority haccepts
      cases c.sender <;> exact hkept.trans hfollows.expected
    · have hstep := hfollows.stage.step hfollows.expected hvalid haccepts
      rw [List.filter_append, List.filter_cons, List.filter_nil]
      exact hstep.setSequencer c.sender q
    · intro hnone
      rw [hterminal] at hnone
      obtain ⟨_, hresult⟩ | ⟨x, hx, _⟩ := hcloses
      · intro d hd
        rcases List.mem_append.mp hd with hold | hnew
        · exact hfollows.open_ hopen d hold
        · rwa [List.mem_singleton.mp hnew]
      · rw [hx] at hnone
        cases hnone
    · intro x hx
      rw [hterminal] at hx
      rw [hstarted]
      obtain ⟨hnone, _⟩ | ⟨y, hy, hclose⟩ := hcloses
      · rw [hnone] at hx
        cases hx
      · obtain rfl : y = x := Option.some.inj (hy.symm.trans hx)
        exact ⟨h.accepted, c, rfl, hclose⟩

theorem Follows.foldl {h : RemoteSessionHistory} (hfollows : Follows authority h) (calls : List RemoteCall) :
    Follows authority (calls.foldl (RemoteSessionHistory.call E) h) := by
  induction calls generalizing h with
  | nil => exact hfollows
  | cons c calls ih => exact ih (hfollows.call c)

theorem RemoteSessionState.new_ok {sessionNonce : String}
    (h : RemoteSessionState.new sessionNonce authority = .ok s) :
    s.expectedAuthority = authority ∧ s.phase = .waitingReady ∧ s.started = false ∧ s.terminal = none := by
  unfold RemoteSessionState.new at h
  cases hq : RemoteFrameSequencer.new sessionNonce with
  | ok q =>
    rw [hq] at h
    cases h
    exact ⟨rfl, rfl, rfl, rfl⟩
  | error e =>
    rw [hq] at h
    cases h

theorem RemoteSessionHistory.run_append (s : RemoteSessionState) (calls more : List RemoteCall) :
    run E s (calls ++ more) = more.foldl (call E) (run E s calls) := by
  simp [run]

/-- 新しい会話から始まるどの呼び出しの列も、手順に沿う。 -/
theorem Follows.run {sessionNonce : String} (hnew : RemoteSessionState.new sessionNonce authority = .ok s)
    (calls : List RemoteCall) : Follows authority (RemoteSessionHistory.run E s calls) := by
  obtain ⟨hexpected, hphase, hstarted, hterminal⟩ := RemoteSessionState.new_ok hnew
  have hstage : Stage authority s [] := by simp [Stage, hphase, Idle, hstarted, hterminal]
  have hinit : Follows authority ⟨s, []⟩ :=
    ⟨hexpected, hstage, fun _ _ hc => absurd hc List.not_mem_nil, fun t ht => by simp [hterminal] at ht⟩
  exact hinit.foldl calls

/-- 終わった会話は、どの呼び出しでも変わらない。 -/
theorem RemoteSessionHistory.call_of_terminal {h : RemoteSessionHistory} (hterminal : h.state.phase = .terminal)
    (c : RemoteCall) : h.call E c = h := by
  obtain hsame | ⟨s, haccept, _⟩ := h.call_cases (E := E) c
  · exact hsame
  · exact absurd hterminal (RemoteSessionState.accept_accepted haccept).2.1

theorem RemoteSessionHistory.foldl_of_terminal {h : RemoteSessionHistory} (hterminal : h.state.phase = .terminal)
    (more : List RemoteCall) : more.foldl (call E) h = h := by
  induction more with
  | nil => rfl
  | cons c more ih => rw [List.foldl_cons, call_of_terminal hterminal, ih]

/-! ## 破れない表明 -/

theorem Stage.ready_present {handshake : List RemoteCall} (h : Stage authority s handshake)
    (hphase : s.phase = .waitingAdmission ∨ s.phase = .waitingPrepare ∨ s.phase = .waitingPrepared) :
    ∃ r, s.ready = some r ∧ r.profileDigest ≠ "" := by
  obtain hp | hp | hp := hphase
  · simp only [Stage, hp] at h
    obtain ⟨_, ready, _, _, hready, hdigest, _⟩ := h
    exact ⟨ready.identity, hready, hdigest⟩
  · simp only [Stage, hp] at h
    obtain ⟨_, ready, _, _, _, _, _, _, hready, hdigest, _⟩ := h
    exact ⟨ready.identity, hready, hdigest⟩
  · simp only [Stage, hp] at h
    obtain ⟨_, ready, _, _, _, _, _, _, _, _, _, hready, hdigest, _⟩ := h
    exact ⟨ready.identity, hready, hdigest⟩

theorem Stage.admission_present {handshake : List RemoteCall} (h : Stage authority s handshake)
    (hphase : s.phase = .waitingPrepare ∨ s.phase = .waitingStart) :
    ∃ a, s.admission = some a ∧ a.nonce ≠ "" := by
  obtain hp | hp := hphase
  · simp only [Stage, hp] at h
    obtain ⟨_, _, _, _, a, _, _, _, _, _, hadmission, hheld, _⟩ := h
    exact ⟨a, hadmission, hheld.nonce⟩
  · simp only [Stage, hp] at h
    obtain ⟨_, _, _, _, _, _, _, _, a, _, _, _, _, _, hadmission, hheld, _⟩ := h
    exact ⟨a, hadmission, hheld.nonce⟩

def Sound {α : Type} (r : Except SessionFault α) : Prop := ∀ message, r ≠ .error (.panic message)

theorem Sound.ok {α : Type} (a : α) : Sound (.ok a) := fun _ h => by cases h

theorem Sound.ensure (holds : Bool) (error : RemoteSessionError) : Sound (ensure holds error) := by
  intro message h
  unfold Runtime.ensure at h
  split at h <;> cases h

theorem Sound.bind {α β : Type} {r : Except SessionFault α} {f : α → Except SessionFault β} (hr : Sound r)
    (hf : ∀ a, r = .ok a → Sound (f a)) : Sound (r >>= f) := by
  intro message h
  cases r with
  | ok a => exact hf a rfl message h
  | error e =>
    cases h
    exact hr message rfl

theorem Sound.expect {α : Type} {message : String} {o : Option α} {a : α} (h : o = some a) :
    Sound (expect message o) := by
  rw [h]
  exact .ok a

theorem Sound.debugAssert {holds : Bool} (h : holds = true) : Sound (debugAssert holds) := by
  rw [h]
  exact .ok ()

namespace RemoteSessionState

theorem sound_require {actual expected : RemoteSessionRole} {phase : SessionPhase} :
    Sound (require actual expected phase s) :=
  (Sound.ensure _ _).bind fun _ _ => .ensure _ _

theorem sound_validateAdmission {f : AdmissionFrame} {r : ReadyIdentity} (hready : s.ready = some r) :
    Sound (validateAdmission f now s) := by
  refine (Sound.expect hready).bind fun _ _ => (Sound.ensure _ _).bind fun _ _ => ?_
  exact (Sound.ensure _ _).bind fun _ _ => (Sound.ensure _ _).bind fun _ _ =>
    (Sound.ensure _ _).bind fun _ _ => .ok _

theorem sound_requireLiveAdmission {consumed : Bool} {a : AdmissionState} (hadmission : s.admission = some a)
    (hnonce : a.nonce ≠ "") : Sound (requireLiveAdmission now consumed s) := by
  refine (Sound.expect hadmission).bind fun held hheld => ?_
  obtain rfl : a = held := Option.some.inj (hadmission.symm.trans (expect_ok.mp hheld))
  exact (Sound.debugAssert (by simpa using hnonce)).bind fun _ _ =>
    (Sound.ensure _ _).bind fun _ _ => .ensure _ _

theorem sound_validateBinding {b : RunBinding} {r : ReadyIdentity} (hready : s.ready = some r) :
    Sound (validateBinding b s) :=
  (Sound.expect hready).bind fun _ _ => (Sound.ensure _ _).bind fun _ _ => .ensure _ _

theorem sound_validateAttestation {f : PreparedFrame} {r : ReadyIdentity} (hready : s.ready = some r)
    (hdigest : r.profileDigest ≠ "") : Sound (validateAttestation E f s) := by
  refine (Sound.expect hready).bind fun found hfound => (Sound.ensure _ _).bind fun _ _ => ?_
  obtain rfl : r = found := Option.some.inj (hready.symm.trans (expect_ok.mp hfound))
  exact .debugAssert (by simpa using hdigest)

theorem sound_validateHeartbeat {phase : RemoteHeartbeatPhase} : Sound (validateHeartbeat phase s) := by
  intro message h
  unfold validateHeartbeat at h
  cases hmaximum : maximumHeartbeat s.phase with
  | none =>
    rw [hmaximum] at h
    cases h
  | some maximum =>
    rw [hmaximum] at h
    exact (Sound.ensure _ _).bind (fun _ _ => .ensure _ _) message h

/-- 状態 `s` からの呼び出しで、表明が破れない。 -/
def Calm {α : Type} (x : SessionCall α) (s : RemoteSessionState) : Prop :=
  ∀ message t, x s ≠ .error (.panic message) t

theorem Calm.inspect_bind {α β : Type} {check : RemoteSessionState → Except SessionFault α}
    {f : α → SessionCall β} (hcheck : Sound (check s)) (hf : ∀ a, check s = .ok a → Calm (f a) s) :
    Calm (inspect check >>= f) s := by
  intro message t h
  obtain ⟨herror, _⟩ | ⟨a, hok, hrest⟩ := inspect_bind_error.mp h
  · exact hcheck message herror
  · exact hf a hok message t hrest

theorem Calm.of_infallible {α : Type} {x : SessionCall α} (hx : Infallible x) : Calm x s := by
  intro message t h
  obtain ⟨a, t', hok⟩ := hx s
  rw [hok] at h
  cases h

theorem calm_acceptMessage {handshake : List RemoteCall} (hstage : Stage authority s handshake)
    (sender : RemoteSessionRole) (message : RemoteMessage) : Calm (acceptMessage E sender message now) s := by
  have hset {g : RemoteSessionState → RemoteSessionState} :
      Infallible (modify g : SessionCall PUnit) := .modify g
  cases message with
  | readinessRequest f =>
    intro _ _ h
    cases h
  | ready f => exact .inspect_bind sound_require fun _ _ => .of_infallible (hset.bind fun _ => hset)
  | admission f =>
    refine .inspect_bind sound_require fun _ hrequire => ?_
    obtain ⟨r, hready, _⟩ := hstage.ready_present (.inl (require_ok.mp hrequire).2)
    exact .inspect_bind (sound_validateAdmission hready) fun _ _ =>
      .of_infallible (hset.bind fun _ => hset)
  | prepare f =>
    refine .inspect_bind (.ensure _ _) fun _ _ => .inspect_bind (.ensure _ _) fun _ _ => ?_
    refine .inspect_bind (.ensure _ _) fun _ hphase => ?_
    have hphase : s.phase = .waitingPrepare := by simpa using hphase
    obtain ⟨r, hready, _⟩ := hstage.ready_present (.inr (.inl hphase))
    obtain ⟨a, hadmission, hnonce⟩ := hstage.admission_present (.inl hphase)
    refine .inspect_bind (sound_requireLiveAdmission hadmission hnonce) fun _ _ => ?_
    refine .inspect_bind (sound_validateBinding hready) fun _ _ => ?_
    exact .inspect_bind (.expect hadmission) fun _ _ =>
      .of_infallible (hset.bind fun _ => hset.bind fun _ => hset)
  | prepared f =>
    refine .inspect_bind sound_require fun _ hrequire => ?_
    obtain ⟨r, hready, hdigest⟩ := hstage.ready_present (.inr (.inr (require_ok.mp hrequire).2))
    refine .inspect_bind (.ensure _ _) fun _ _ => ?_
    exact .inspect_bind (sound_validateAttestation hready hdigest) fun _ _ =>
      .of_infallible (hset.bind fun _ => hset)
  | start f =>
    refine .inspect_bind sound_require fun _ hrequire => ?_
    obtain ⟨a, hadmission, hnonce⟩ := hstage.admission_present (.inr (require_ok.mp hrequire).2)
    refine .inspect_bind (sound_requireLiveAdmission hadmission hnonce) fun _ _ => ?_
    exact .inspect_bind (.ensure _ _) fun _ _ => .inspect_bind (.ensure _ _) fun _ _ =>
      .of_infallible (hset.bind fun _ => hset)
  | result f =>
    refine .inspect_bind (.ensure _ _) fun _ _ => .inspect_bind (.ensure _ _) fun _ _ => ?_
    exact .inspect_bind (.ensure _ _) fun _ _ => .inspect_bind (.ensure _ _) fun _ _ =>
      .of_infallible (hset.bind fun _ => hset)
  | heartbeat f =>
    refine .inspect_bind (.ensure _ _) fun _ _ => .inspect_bind (.ensure _ _) fun _ _ => ?_
    exact .inspect_bind sound_validateHeartbeat fun _ _ => .of_infallible hset
  | cancel f =>
    exact .inspect_bind (.ensure _ _) fun _ _ => .inspect_bind (.ensure _ _) fun _ _ =>
      .of_infallible (hset.bind fun _ => hset)
  | error f =>
    refine .inspect_bind (.ensure _ _) fun _ _ => ?_
    exact .inspect_bind ((Sound.ensure _ _).bind fun _ _ => .ensure _ _) fun _ _ =>
      .of_infallible (hset.bind fun _ => hset)

theorem sound_sequence {sender : RemoteSessionRole} {frame : RemoteFrame} :
    Sound (sequence E sender frame now s) := by
  intro message h
  unfold sequence at h
  cases hq : (s.sequencer sender).accept E frame now with
  | ok r =>
    rw [hq] at h
    cases h
  | error e =>
    rw [hq] at h
    cases h

/-- 手順に沿う状態では、どの枠も、内部の仮定を破らずに扱われる。 -/
theorem calm_accept {handshake : List RemoteCall} (hstage : Stage authority s handshake)
    (sender : RemoteSessionRole) (frame : RemoteFrame) : Calm (accept E sender frame now) s := by
  refine .inspect_bind sound_sequence fun r _ => ?_
  obtain ⟨verdict, q⟩ := r
  cases verdict with
  | exactDuplicate => exact .inspect_bind (.ensure _ _) fun _ _ => .of_infallible (.pure _)
  | accepted =>
    refine .inspect_bind (.ensure _ _) fun _ _ => ?_
    intro message t h
    obtain hmessage | ⟨_, u, _, hrest⟩ := bind_error.mp h
    · exact calm_acceptMessage hstage sender frame.message message t hmessage
    · cases hrest

end RemoteSessionState

end Codeoff.Runtime
