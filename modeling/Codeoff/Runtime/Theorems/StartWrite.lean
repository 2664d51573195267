import Codeoff.Runtime.Lemmas.StartWrite
import Codeoff.Runtime.Theorems.RunnerBroker

/-!
# START のバイトの数え方

流れが何をどの順に返し、いつ時限が来るか捨てられるかによらず、また、ほかの貸与の呼び出しや登録と解除がどう割り込んでも、
一バイトでも受け取られたか、`poll_write` が一度でも待ったなら、予約は始まったか不明のまま残る。
-/

namespace Codeoff.Runtime

open Codeoff.Control RegisteredRunnerSession

variable {s : BrokerState} {lease : ReservationLease} {p : WriteProgress}

/-! ## 書き込みの途中の主張 -/

structure WriteProgress.Wf (p : WriteProgress) : Prop where
  sent : p.onFirstByte = true → p.sent = []
  fresh : p.onFirstPoll = true → p.onFirstPending = true ∧ p.onFirstByte = true

def Accounted (lease : ReservationLease) (p : WriteProgress) (s : BrokerState) : Prop :=
  if p.onFirstByte = false then AtPhase lease (· = .started) s
  else if p.onFirstPending = false then AtPhase lease (· = .outcomeUnknown) s
  else if p.onFirstPoll = false then AtPhase lease (· = .attemptingStart) s
  else True

def Conservative (lease : ReservationLease) (sent : List UInt8) (pended : Bool) (s : BrokerState) : Prop :=
  sent ≠ [] ∨ pended = true → AtPhase lease (fun phase => phase = .started ∨ phase = .outcomeUnknown) s

theorem stable_accounted : Stable BrokerInv (Untouched lease) (Accounted lease p) := by
  unfold Accounted
  split
  · exact stable_atPhase (by simp)
  · split
    · exact stable_atPhase (by simp)
    · split
      · exact stable_atPhase (by simp)
      · exact stable_always

theorem stable_conservative (sent : List UInt8) (pended : Bool) :
    Stable BrokerInv (Untouched lease) (Conservative lease sent pended) := by
  intro s s' hI hstep hs hmay
  refine stable_atPhase ?_ s s' hI hstep (hs hmay)
  rintro phase (rfl | rfl) <;> simp

theorem Accounted.conservative (hp : p.Wf) (h : Accounted lease p s) :
    Conservative lease p.sent (!p.onFirstPending) s := by
  intro hmay
  unfold Accounted at h
  split at h
  · exact h.imp fun _ hphase => .inl hphase
  · split at h
    · exact h.imp fun _ hphase => .inr hphase
    · rename_i hbyte hpending
      rcases hmay with hsent | hpended
      · exact absurd (hp.sent (by simpa using hbyte)) hsent
      · exact absurd (by simpa using hpended) hpending

def afterObserver (lease : ReservationLease) (p : WriteProgress) (called : Bool) (s : BrokerState) : Prop :=
  if called then Accounted lease p s else Conservative lease p.sent (!p.onFirstPending) s

section Upholds

variable {Q : StartReply → BrokerState → Prop}

theorem upholds_observe {P : BrokerState → Prop} {M : Bool → BrokerState → Prop} {call : BrokerThread}
    {next : Bool → StartThread} {armed : Bool} (hstable : Stable BrokerInv (Untouched lease) P)
    (harmed : armed = true → UpholdsStart lease (fun result => M result.toBool) P call)
    (hcalled : armed = false → ∀ s, P s → M true s) (hnext : ∀ called, UpholdsStart lease Q (M called) (next called)) :
    UpholdsStart lease Q P (observe armed call next) := by
  cases armed with
  | true => exact (harmed rfl).bind fun result => hnext result.toBool
  | false => exact (hnext true).of_imp hstable (hcalled rfl)

theorem upholds_attempt (hp : p.Wf) {next : Bool → StartThread}
    (hnext : ∀ called, UpholdsStart lease Q (afterObserver lease { p with onFirstPoll := false } called)
      (next called)) :
    UpholdsStart lease Q (Accounted lease p)
      (observe p.onFirstPoll (ScheduledRunnerBroker.beginStartAttempt lease) next) := by
  refine upholds_observe stable_accounted (fun harmed => ?_) (fun hcalled s hs => ?_) hnext
  · obtain ⟨hpending, hbyte⟩ := hp.fresh harmed
    refine (upholds_beginStartAttempt.of_imp stable_accounted fun _ _ => trivial).post_imp ?_
    intro result s hresult
    cases hok : result.toBool with
    | true => simpa [afterObserver, Accounted, hpending, hbyte] using hresult hok
    | false =>
      have hsent : p.sent = [] := hp.sent hbyte
      simp [afterObserver, Conservative, hsent, hpending]
  · simpa [afterObserver, Accounted, hcalled] using hs

theorem upholds_uncertain (hattempted : p.onFirstPoll = false) {next : Bool → StartThread}
    (hnext : ∀ called, UpholdsStart lease Q (afterObserver lease { p with onFirstPending := false } called)
      (next called)) :
    UpholdsStart lease Q (Accounted lease p)
      (observe p.onFirstPending (ScheduledRunnerBroker.markStartUncertain lease) next) := by
  refine upholds_observe stable_accounted (fun harmed => ?_) (fun hcalled s hs => ?_) hnext
  · cases hbyte : p.onFirstByte with
    | true =>
      refine (upholds_markStartUncertain.of_imp stable_accounted fun s hs => ?_).post_imp ?_
      · simpa [Accounted, hbyte, harmed, hattempted] using hs
      · rintro result s ⟨hok, hunknown⟩
        simpa [afterObserver, Accounted, hok, hbyte] using hunknown
    | false =>
      refine (upholds_markStartUncertain_started.of_imp stable_accounted fun s hs => ?_).post_imp ?_
      · simpa [Accounted, hbyte] using hs
      · intro result s hstarted
        cases hok : result.toBool with
        | true => simpa [afterObserver, Accounted, hbyte] using hstarted
        | false => exact fun _ => hstarted.imp fun _ hphase => .inl hphase
  · simpa [afterObserver, Accounted, hcalled] using hs

theorem upholds_started (hattempted : p.onFirstPoll = false) (sent : List UInt8) {next : Bool → StartThread}
    (hnext : ∀ called, UpholdsStart lease Q (afterObserver lease { p with onFirstByte := false, sent } called)
      (next called)) :
    UpholdsStart lease Q (Accounted lease p)
      (observe p.onFirstByte (ScheduledRunnerBroker.confirmStartByte lease) next) := by
  refine upholds_observe stable_accounted (fun harmed => ?_) (fun hcalled s hs => ?_) hnext
  · have hconfirm : UpholdsStart lease (fun result s => result.toBool = true ∧ AtPhase lease (· = .started) s)
        (AtPhase lease fun phase => phase = .attemptingStart ∨ phase = .outcomeUnknown)
        (ScheduledRunnerBroker.confirmStartByte lease) := upholds_confirmStartByte fun _ hphase => hphase
    refine (hconfirm.of_imp stable_accounted fun s hs => ?_).post_imp ?_
    · unfold Accounted at hs
      rw [if_neg (by simp [harmed])] at hs
      split at hs
      · exact hs.imp fun _ hphase => .inr hphase
      · exact hs.imp fun _ hphase => .inl hphase
    · rintro result s ⟨hok, hstarted⟩
      simpa [afterObserver, Accounted, hok] using hstarted
  · simpa [afterObserver, Accounted, hcalled] using hs

theorem upholds_writeAllObserved {next : List WritePoll → WriteProgress → WriteEnd → StartThread}
    (hwritten : ∀ polls p, p.Wf → UpholdsStart lease Q (Accounted lease p) (next polls p .written))
    (hstopped : ∀ polls p outcome, outcome ≠ .written →
      UpholdsStart lease Q (Conservative lease p.sent (!p.onFirstPending)) (next polls p outcome))
    (polls : List WritePoll) (buffer : List UInt8) (hp : p.Wf) :
    UpholdsStart lease Q (Accounted lease p) (writeAllObserved lease next polls buffer p) := by
  have hfailed : ∀ polls p outcome, p.Wf → outcome ≠ .written →
      UpholdsStart lease Q (Accounted lease p) (next polls p outcome) := fun polls p outcome hp hne =>
    (hstopped polls p outcome hne).of_imp stable_accounted fun _ hs => hs.conservative hp
  induction polls generalizing buffer p with
  | nil =>
    cases buffer with
    | nil => exact hwritten _ _ hp
    | cons byte rest => exact hfailed _ _ _ hp (by simp)
  | cons poll polls ih =>
    cases buffer with
    | nil => exact hwritten _ _ hp
    | cons byte rest =>
      rw [writeAllObserved]
      refine upholds_attempt hp fun attempted => ?_
      have hp₁ : ({ p with onFirstPoll := false } : WriteProgress).Wf := ⟨hp.sent, by simp⟩
      cases attempted with
      | false => exact hstopped _ _ _ (by simp)
      | true =>
        simp only [if_true]
        rcases poll with _ | (message | _ | n)
        · refine upholds_uncertain rfl fun uncertain => ?_
          cases uncertain with
          | false => exact hstopped _ _ _ (by simp)
          | true => exact ih _ ⟨hp.sent, by simp⟩
        · exact hfailed _ _ _ hp₁ (by simp)
        · exact hfailed _ _ _ hp₁ (by simp)
        · refine upholds_started rfl (p.sent ++ (byte :: rest).take (n + 1)) fun started => ?_
          have hp₂ : WriteProgress.Wf ⟨false, p.onFirstPending, false, p.sent ++ (byte :: rest).take (n + 1)⟩ :=
            ⟨by simp, by simp⟩
          cases started with
          | false => exact hstopped _ _ _ (by simp)
          | true =>
            simp only [if_true]
            split
            · exact ih _ hp₂
            · exact hfailed _ _ _ hp₂ (by simp)

theorem upholds_flush {P : BrokerState → Prop} {next : WriteEnd → StartThread}
    (hnext : ∀ outcome, UpholdsStart lease Q P (next outcome)) (polls : List WritePoll) :
    UpholdsStart lease Q P (flushStart next polls) := by
  induction polls with
  | nil => exact hnext _
  | cons poll polls ih =>
    rcases poll with _ | (message | n)
    · exact ih
    · exact hnext _
    · exact hnext _

/-- 枠の本体を書き終えた後。 -/
def afterBody (lease : ReservationLease) (ending : WriteEnding)
    (next : WriteProgress → Option (Except ScheduledRunnerTlsError Unit) → StartThread) (polls : List WritePoll)
    (p : WriteProgress) (outcome : WriteEnd) : StartThread :=
  match outcome with
  | .written => flushStart (fun outcome => next p (outcome.result ending)) polls
  | outcome => next p (outcome.result ending)

theorem upholds_writeFrameObserved (encoded : Except RemoteProtocolError (List UInt8)) (polls : List WritePoll)
    (ending : WriteEnding) {next : WriteProgress → Option (Except ScheduledRunnerTlsError Unit) → StartThread}
    (hnext : ∀ p result, UpholdsStart lease Q (Conservative lease p.sent (!p.onFirstPending)) (next p result)) :
    UpholdsStart lease Q (fun _ => True) (writeFrameObserved lease encoded polls ending next) := by
  have hfresh : ∀ result, UpholdsStart lease Q (fun _ => True) (next ⟨true, true, true, []⟩ result) := fun result =>
    (hnext _ result).of_imp stable_always fun _ _ hmay => by simp at hmay
  have haccounted : ∀ p result, p.Wf → UpholdsStart lease Q (Accounted lease p) (next p result) :=
    fun p result hp => (hnext p result).of_imp stable_accounted fun _ hs => hs.conservative hp
  unfold writeFrameObserved
  cases encoded with
  | error error => exact hfresh _
  | ok bytes =>
    dsimp only
    split
    · have hbody : ∀ polls (p : WriteProgress), p.Wf → UpholdsStart lease Q (Accounted lease p)
          (writeAllObserved lease (afterBody lease ending next) polls bytes p) := by
        intro polls p hp
        refine upholds_writeAllObserved (fun polls p hp => ?_) (fun polls p outcome hne => ?_) _ _ hp
        · exact upholds_flush (fun _ => haccounted _ _ hp) _
        · cases outcome with
          | written => exact absurd rfl hne
          | _ => exact hnext _ _
      have hwf : WriteProgress.Wf ⟨true, true, true, []⟩ := ⟨fun _ => rfl, by simp⟩
      refine (upholds_writeAllObserved hbody (fun polls p outcome hne => ?_) _ _ hwf).of_imp stable_always
        fun s _ => by simp [Accounted]
      cases outcome with
      | written => exact absurd rfl hne
      | _ => exact hnext _ _
    · exact hfresh _

end Upholds

/-- `write_start_frame` が返るか捨てられた後の、バイトの数え方。 -/
structure BytesAccounted (lease : ReservationLease) (report : StartReport) (s : BrokerState) : Prop where
  /-- バイトが渡ったかもしれなければ、予約は始まったか不明のまま残る。 -/
  kept : report.sent ≠ [] ∨ report.pended = true → ∃ r, (s.sessions lease.session).slot = some r ∧
    r.nonce = lease.admissionNonce ∧ (r.phase = .started ∨ r.phase = .outcomeUnknown)
  /-- 予約が外れているなら、一バイトも渡っていない。 -/
  released : (∀ r, (s.sessions lease.session).slot = some r → r.nonce ≠ lease.admissionNonce) →
    report.sent = [] ∧ report.pended = false

theorem BytesAccounted.of_conservative {report : StartReport}
    (h : Conservative lease report.sent report.pended s) : BytesAccounted lease report s := by
  have hkept : report.sent ≠ [] ∨ report.pended = true → ∃ r, (s.sessions lease.session).slot = some r ∧
      r.nonce = lease.admissionNonce ∧ (r.phase = .started ∨ r.phase = .outcomeUnknown) := by
    intro hmay
    obtain ⟨r, hr, hphase, hgrant⟩ := h hmay
    exact ⟨r, hr, holdsGrant_nonce hgrant, hphase⟩
  refine ⟨hkept, fun hreleased => ?_⟩
  by_contra hmay
  obtain ⟨r, hr, hnonce, _⟩ := hkept (by by_cases hsent : report.sent = [] <;> simp_all)
  exact hreleased r hr hnonce

theorem upholds_writeStartFrame (encoded : Except RemoteProtocolError (List UInt8)) (polls : List WritePoll)
    (ending : WriteEnding) :
    UpholdsStart lease (fun reply s => ∀ report, reply = .written report → BytesAccounted lease report s)
      (fun _ => True) (writeStartFrame lease encoded polls ending) := by
  refine upholds_writeFrameObserved encoded polls ending fun p result => ?_
  have hdone : ∀ report : StartReport, report.sent = p.sent → report.pended = !p.onFirstPending →
      UpholdsStart lease (fun reply s => ∀ report, reply = StartReply.written report → BytesAccounted lease report s)
        (Conservative lease p.sent (!p.onFirstPending)) (.done (StartReply.written report)) := by
    intro report hsent hpended
    refine .done _ (stable_conservative _ _) fun s hs report' hreport => ?_
    cases hreport
    exact .of_conservative (by rwa [hsent, hpended])
  rcases result with _ | (error | _)
  · exact hdone _ rfl rfl
  · dsimp only
    by_cases hmay : p.sent ≠ [] ∨ (!p.onFirstPending) = true
    · have hrelease : UpholdsStart lease
          (fun _ => AtPhase lease fun phase => phase = .started ∨ phase = .outcomeUnknown)
          (AtPhase lease fun phase => phase = .started ∨ phase = .outcomeUnknown)
          (ScheduledRunnerBroker.releaseReservation lease true false) :=
        upholds_releaseReservation fun _ hphase => hphase
      refine (hrelease.of_imp (stable_conservative _ _) fun s hs => hs hmay).bind fun _ => ?_
      exact (hdone _ rfl rfl).of_imp hrelease.stable fun s hs _ => hs
    · refine ((upholds_always _).of_imp (stable_conservative _ _) fun _ _ => trivial).bind fun _ => ?_
      exact (hdone _ rfl rfl).of_imp stable_always fun _ _ hsent => absurd hsent hmay
  · exact hdone _ rfl rfl

/-- どの返り値の列でも、ほかの処理がどう割り込んでも、START のバイトは控えめに数えられる。この貸与を持つのは書き込みの呼び出し
だけなので、その間、ほかの処理はこの貸与を通さない。 -/
theorem start_bytes_accounted {sessions : SessionId → RegisteredRunnerSession} {w w' : StartWorld} {i : Nat}
    {encoded : Except RemoteProtocolError (List UInt8)} {polls : List WritePoll} {ending : WriteEnding}
    {report : StartReport} (hreach : World.Reachable StartCall.thread (BrokerState.init sessions) w)
    (hspawned : w.tasks i =
      some (.writeStart lease encoded polls ending, writeStartFrame lease encoded polls ending))
    (hruns : World.RunsBeside StartCall.thread i (fun c => c.lease? ≠ some lease) w w')
    (hresult : w'.resultAt i = some (.written report)) : BytesAccounted lease report w'.state := by
  have hupheld : Upheld BrokerInv (Untouched lease)
      (fun reply s => ∀ report, reply = StartReply.written report → BytesAccounted lease report s) i
      (.writeStart lease encoded polls ending) w :=
    ⟨_, _, hspawned, trivial, upholds_writeStartFrame encoded polls ending⟩
  have hforeign : ∀ c s s', StartCall.lease? c ≠ some lease → StartGuarantee c s s' → Untouched lease s s' :=
    fun _ _ _ hc hguarantee => hguarantee.untouched hc
  exact hupheld.result safe_start BrokerInv.init rfl hforeign hreach hruns hresult report rfl

def sampleLease : ReservationLease := ⟨0, "n"⟩

def sampleStart : StartCall :=
  .writeStart sampleLease (.ok [7]) [.pending, .ready (.ok 3), .ready (.error "reset")] .elapsed

def startChoices (i : Nat) (c : BrokerCall) (steps : Nat) : List (World.Choice StartCall) :=
  .spawn i (.broker c) :: List.replicate steps (.run i)

def samplePin : List (World.Choice StartCall) :=
  startChoices 0 (.register 0) 3 ++ startChoices 1 (.reserve 0 10 20 (some "n")) 2 ++
    startChoices 2 (.reserveGrant 0 11 "n" (some "g")) 1 ++ startChoices 3 (.validateAndPin sampleLease 12) 4

def sampleWrite : List (World.Choice StartCall) :=
  List.replicate 7 (.run 4) ++ startChoices 5 (.unregister 0) 4 ++ List.replicate 7 (.run 4)

/-- 失敗した書き込みは、切断の後でも、始まった予約を残す。 -/
theorem interrupted_start_accounted :
    ∃ (w : StartWorld) (report : StartReport), report.sent = [0, 0, 0] ∧ report.pended = true ∧
      (w.state.sessions 0).connected = false ∧
      (w.state.sessions 0).slot.map ProtocolAdmission.phase = some .started ∧
      BytesAccounted sampleLease report w.state := by
  have hruns : ((World.schedule StartCall.thread (World.idle (BrokerState.init sampleSessions)) samplePin).bind
      fun w => if (w.tasks 4).isNone then
        World.scheduleBeside StartCall.thread 4 (fun c => decide (c.lease? ≠ some sampleLease))
          (w.put 4 w.state (sampleStart, sampleStart.thread)) sampleWrite else none).map (fun w =>
            (w.resultAt 4, (w.state.sessions 0).connected, (w.state.sessions 0).slot.map ProtocolAdmission.phase)) =
      some (some (.written ⟨[0, 0, 0], true, some (.error (.io "reset"))⟩), false, some .started) := by
    decide +kernel
  obtain ⟨w', hrun, hstate⟩ := Option.map_eq_some_iff.mp hruns
  obtain ⟨w, hpin, hwrite⟩ := Option.bind_eq_some_iff.mp hrun
  obtain ⟨hfree, hwrite⟩ := Option.ite_none_right_eq_some.mp hwrite
  simp only [Prod.mk.injEq] at hstate
  obtain ⟨hresult, hconnected, hphase⟩ := hstate
  have hspawn : World.Reachable StartCall.thread (BrokerState.init sampleSessions)
      (w.put 4 w.state (sampleStart, sampleStart.thread)) :=
    .tail (World.steps_of_schedule hpin) (.inl ⟨4, sampleStart, by simpa using hfree, rfl⟩)
  have hspawned : (w.put 4 w.state (sampleStart, sampleStart.thread)).tasks 4 =
      some (sampleStart, sampleStart.thread) := by simp [World.put]
  have hbeside := World.runsBeside_of_schedule hwrite
  simp only [decide_eq_true_eq] at hbeside
  exact ⟨w', _, rfl, rfl, hconnected, hphase,
    start_bytes_accounted hspawn hspawned hbeside hresult⟩

end Codeoff.Runtime
