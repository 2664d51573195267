import Codeoff.Runtime.Lemmas.RemoteHistory

/-!
# 遠隔実行のセッションの安全性

両側からどのような枠がどのような時刻に届き、どこで切断しても、開始は五種の枠の受け入れの後に限られ、終わり方は一度だけ
決まり、切断の報告は受け入れた枠と食い違わない。
-/

namespace Codeoff.Runtime

open Codeoff.Core Codeoff.Control Codeoff.State

variable {E : RemoteEnv} {authority : ScheduledPrepareAuthority} {s₀ : RemoteSessionState}
  {sessionNonce : String} {h : RemoteSessionHistory}

def UnchangedUnlessAccepted (E : RemoteEnv) (s : RemoteSessionState) : Prop :=
  ∀ c : RemoteCall,
    match RemoteSessionState.accept E c.sender c.frame c.now s with
    | .ok .accepted _ => True
    | .ok .exactDuplicate t => t = s
    | .error (.error _) t => t = s
    | .error (.panic _) _ => False

theorem Follows.unchanged (hfollows : Follows authority h) : UnchangedUnlessAccepted E h.state := by
  intro c
  cases haccept : RemoteSessionState.accept E c.sender c.frame c.now h.state with
  | ok verdict t =>
    cases verdict with
    | accepted => trivial
    | exactDuplicate => exact RemoteSessionState.accept_exactDuplicate haccept
  | error fault t =>
    cases fault with
    | error e => exact RemoteSessionState.checked_accept c.frame haccept
    | panic message =>
      exact RemoteSessionState.calm_accept hfollows.stage c.sender c.frame message t haccept

theorem isHandshake_of_isStart {c : RemoteCall} (hstart : c.isStart = true) : c.isHandshake = true := by
  unfold RemoteCall.isStart at hstart
  unfold RemoteCall.isHandshake
  cases hmessage : c.frame.message with
  | start f => rfl
  | _ => simp [hmessage] at hstart

theorem StartedInOrder.exists_start {handshake : List RemoteCall}
    (horder : StartedInOrder authority handshake) : ∃ c ∈ handshake, c.isStart = true := by
  obtain ⟨c₁, _, c₂, _, c₃, _, c₄, _, c₅, f, rfl, _, _, _, _, h₅⟩ := horder
  exact ⟨c₅, by simp, by simp [RemoteCall.isStart, h₅.message]⟩

theorem Follows.started_iff (hfollows : Follows authority h) :
    h.state.started = true ↔ ∃ c ∈ h.accepted, c.isStart = true := by
  obtain ⟨hyes, hno⟩ := hfollows.stage.started
  constructor
  · intro hstarted
    obtain ⟨c, hc, hstart⟩ := (hyes hstarted).exists_start
    exact ⟨c, (List.mem_filter.mp hc).1, hstart⟩
  · rintro ⟨c, hc, hstart⟩
    by_contra hidle
    have hnone := hno (Bool.not_eq_true _ ▸ hidle) c
      (List.mem_filter.mpr ⟨hc, isHandshake_of_isStart hstart⟩)
    rw [hstart] at hnone
    cases hnone

theorem Follows.terminal_kept (hfollows : Follows authority h) {t : TerminalState}
    (hterminal : h.state.terminal = some t) (more : List RemoteCall) :
    more.foldl (RemoteSessionHistory.call E) h = h := by
  have hphase : h.state.phase = .terminal := hfollows.stage.terminal_phase.mp (by simp [hterminal])
  exact RemoteSessionHistory.foldl_of_terminal hphase more

def CompletedAfterStart (accepted : List RemoteCall) : Prop :=
  ∃ before last f, accepted = before ++ [last] ∧ last.frame.message = .result f ∧ f.kind = .completed ∧
    ∃ c ∈ before, c.isStart = true

theorem Follows.completed (hfollows : Follows authority h)
    (hcompleted : h.state.terminalDisposition = some .completed) : CompletedAfterStart h.accepted := by
  obtain ⟨t, hterminal, hdisposition⟩ := Option.map_eq_some_iff.mp hcompleted
  obtain ⟨before, last, haccepted, hcloses⟩ := hfollows.closed t hterminal
  cases hcloses with
  | result f message sender executed =>
    have hkind : f.kind = .completed := by
      cases hk : f.kind <;> simp [hk, RemoteSessionState.resultDisposition] at hdisposition ⊢
    obtain ⟨c, hc, hstart⟩ := hfollows.started_iff.mp (executed hkind)
    refine ⟨before, last, f, haccepted, message, hkind, c, ?_, hstart⟩
    rw [haccepted] at hc
    rcases List.mem_append.mp hc with hbefore | hlast
    · exact hbefore
    · simp [RemoteCall.isStart, List.mem_singleton.mp hlast, message] at hstart
  | withoutResult notResult =>
    cases hstarted : h.state.started <;> simp [hstarted] at hdisposition

theorem Follows.preflight (hfollows : Follows authority h)
    (hdisconnect : h.state.disconnect = .preflightNoExecution) : ∀ c ∈ h.accepted, c.isStart = false := by
  have hidle : ¬h.state.started = true := by
    intro hstarted
    unfold RemoteSessionState.disconnect at hdisconnect
    split at hdisconnect
    · cases hdisconnect
    · simp [hstarted] at hdisconnect
  intro c hc
  by_contra hstart
  exact hidle (hfollows.started_iff.mpr ⟨c, hc, by simpa using hstart⟩)

theorem Follows.unknown (hfollows : Follows authority h) (hstart : ∃ c ∈ h.accepted, c.isStart = true)
    (hresult : ∀ c ∈ h.accepted, c.isResult = false) : h.state.disconnect = .outcomeUnknown := by
  have hstarted := hfollows.started_iff.mpr hstart
  have hinconclusive : h.state.terminal.filter TerminalState.conclusiveResult = none := by
    rw [Option.filter_eq_none_iff]
    intro t hterminal
    obtain ⟨before, last, haccepted, hcloses⟩ := hfollows.closed t hterminal
    cases hcloses with
    | result f message _ _ =>
      have hlast := hresult last (by simp [haccepted])
      simp [RemoteCall.isResult, message] at hlast
    | withoutResult _ => simp
  simp [RemoteSessionState.disconnect, hinconclusive, hstarted]

/-- 受け入れた枠の列と状態の間に成り立つ約束。開始は順序どおりの握手の後にだけ起き、終わりは一度だけ定まる。 -/
structure SessionSafe (E : RemoteEnv) (authority : ScheduledPrepareAuthority) (s₀ : RemoteSessionState)
    (calls : List RemoteCall) (h : RemoteSessionHistory) : Prop where
  unchanged : UnchangedUnlessAccepted E h.state
  startedOnly : h.state.started = true ↔ ∃ c ∈ h.accepted, c.isStart = true
  startedInOrder : h.state.started = true →
    StartedInOrder authority (h.accepted.filter RemoteCall.isHandshake)
  terminalOnce : ∀ t, h.state.terminal = some t → ∀ more,
    (RemoteSessionHistory.run E s₀ (calls ++ more)).state.terminal = some t
  completedAfterStart : h.state.terminalDisposition = some .completed → CompletedAfterStart h.accepted
  preflight : h.state.disconnect = .preflightNoExecution → ∀ c ∈ h.accepted, c.isStart = false
  unknown : (∃ c ∈ h.accepted, c.isStart = true) → (∀ c ∈ h.accepted, c.isResult = false) →
    h.state.disconnect = .outcomeUnknown

/-- どの枠がどの順に届いても、断られた枠は状態を変えず、開始と終わりは受け入れた枠の列から読み取れる。 -/
theorem remote_session_safe (hnew : RemoteSessionState.new sessionNonce authority = .ok s₀)
    (calls : List RemoteCall) :
    SessionSafe E authority s₀ calls (RemoteSessionHistory.run E s₀ calls) := by
  have hfollows := Follows.run (E := E) hnew calls
  constructor
  case unchanged => exact hfollows.unchanged
  case startedOnly => exact hfollows.started_iff
  case startedInOrder => exact hfollows.stage.started.1
  case terminalOnce =>
    intro t hterminal more
    rw [RemoteSessionHistory.run_append, hfollows.terminal_kept hterminal more]
    exact hterminal
  case completedAfterStart => exact hfollows.completed
  case preflight => exact hfollows.preflight
  case unknown => exact hfollows.unknown

def hexOf (c : Char) : String := String.ofList (List.replicate 64 c)

/-- `{}` の SHA-256 だけを答え、`{}` だけを JSON として読む。 -/
def sampleEnv : RemoteEnv where
  sha256Hex _ := "44136fa355b3678a1146ad16f7e8649e94fb4fc21fe77e8310c060f61caaff8a"
  jsonIsNull s := if s = "\x7b\x7d" then some false else none

def sampleRemoteAuthority : ScheduledPrepareAuthority where
  nonce := hexOf '0'
  canonicalJson :=
    "\x7b\"binding\":\x7b\"attempt\":1,\"fence\":7,\"job_id\":\"job-1\",\"run_id\":\"run-1\"\x7d\x7d"
  digest := hexOf 'a'
  instruction := "x"
  previousSuccess := none
  previousSuccessWasTruncated := false

def sampleRunBinding : RunBinding where
  runId := "run-1"
  jobId := "job-1"
  attempt := 1
  fenceToken := 7
  authorityDigest := hexOf 'a'
  profileDigest := hexOf 'b'
  deploymentEpoch := 9
  credentialRevision := "r1"

def sampleReady : ReadyFrame where
  signedEvidenceJson := "\x7b\x7d"
  challenge := hexOf 'd'
  readyUntilUnixMillis := 1010000
  attestedProfileJson := "\x7b\x7d"
  attestedProfileDigest := hexOf '1'
  deploymentEpoch := 9
  profileDigest := hexOf 'b'
  gatewayImageDigest := "sha256:" ++ hexOf 'e'
  runnerImageDigest := "sha256:" ++ hexOf 'f'
  runnerWorkloadIdentity := "spiffe://codeoff/runner"
  runnerClientCertPublicKeyFingerprint := hexOf '1'
  credentialRevision := "r1"
  githubMcpAccessAuthMode := "supervisor-dynamic-tools-v1"
  githubMcpAccessTokenRevision := "r1"

def samplePrepared : PreparedFrame where
  signedEvidenceJson := "\x7b\x7d"
  binding := sampleRunBinding
  preparationNonce := hexOf '2'
  attestedProfileJson := "\x7b\x7d"
  attestedProfileDigest := "44136fa355b3678a1146ad16f7e8649e94fb4fc21fe77e8310c060f61caaff8a"
  githubMcpAccessAuthMode := "supervisor-dynamic-tools-v1"
  githubMcpAccessTokenRevision := "r1"

def sampleCall (sender : RemoteSessionRole) (sequence : Nat) (message : RemoteMessage) : RemoteCall where
  sender := sender
  frame := { version := 2, sessionNonce := hexOf 'c', sequence, message }
  now := 1000000

def sampleCalls : List RemoteCall :=
  let json := "\x7b\x7d"
  [sampleCall .runner 1 (.ready sampleReady),
    sampleCall .gateway 1 (.admission ⟨hexOf 'd', hexOf '3', 1020000, 9, hexOf 'b'⟩),
    sampleCall .gateway 2 (.prepare ⟨sampleRunBinding, json, json, json, json, json, json⟩),
    sampleCall .runner 2 (.prepared samplePrepared),
    sampleCall .gateway 3 (.start ⟨sampleRunBinding, hexOf '2'⟩)]

def sampleSession : RemoteSessionState where
  gatewaySequencer := ⟨hexOf 'c', none⟩
  runnerSequencer := ⟨hexOf 'c', none⟩
  expectedAuthority := sampleRemoteAuthority
  phase := .waitingReady
  ready := none
  admission := none
  binding := none
  preparationNonce := none
  heartbeatPhase := none
  started := false
  terminal := none

/-- 準備の知らせから開始までの握手を、順に受け入れる。 -/
theorem sample_session_started :
    (RemoteSessionHistory.run sampleEnv sampleSession sampleCalls).state.started = true ∧
      SessionSafe sampleEnv sampleRemoteAuthority sampleSession sampleCalls
        (RemoteSessionHistory.run sampleEnv sampleSession sampleCalls) := by
  have hnew : RemoteSessionState.new (hexOf 'c') sampleRemoteAuthority = .ok sampleSession := by
    decide +kernel
  exact ⟨by decide +kernel, remote_session_safe hnew sampleCalls⟩

end Codeoff.Runtime
