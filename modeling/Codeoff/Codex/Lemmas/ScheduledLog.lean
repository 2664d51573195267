import Codeoff.Codex.ScheduledPrepare
import Codeoff.Json.Lemmas.Object

/-!
# 回線への働きかけの履歴

準備と実行が、回線に何をするか。
-/

namespace Codeoff.Codex

open Codeoff.Control Codeoff.Json Codeoff.Runtime

variable {env : ScheduledEnv} {J : List TransportEvent → Prop}

def TransportEvent.startsTurn : TransportEvent → Bool
  | .wrote message _ => isTurnStart message
  | _ => false

def KeepsEvents {α : Type} (J : List TransportEvent → Prop) (m : Session (Wire Poll ScheduledLog) α) : Prop :=
  Session.Keeps (fun w : Wire Poll ScheduledLog => J w.log.events) m

def Steady (J : List TransportEvent → Prop) : Prop :=
  ∀ events event, event.startsTurn = false → J events → J (events ++ [event])

theorem KeepsEvents.act {α : Type} {f : ScheduledLog → α × ScheduledLog}
    (h : ∀ log, J log.events → J (f log).2.events) : KeepsEvents J (Session.act f) :=
  Session.Keeps.act (I := fun log : ScheduledLog => J log.events) h

theorem KeepsEvents.reading {τ ρ : Type} {step : τ × ScheduledLog → Poll → Verdict (τ × ScheduledLog) ρ} {t : τ}
    (h : ∀ s p, J s.2.events → J (step s p).state.2.events) : KeepsEvents J (Session.reading step t) :=
  Session.Keeps.reading (I := fun log : ScheduledLog => J log.events) h

theorem method_requestMessage {id : Nat} {name : String} {params : Value} :
    method (requestMessage id name params) = some name := by
  have hget : (requestMessage id name params).get "method" = some (.str name) := by
    rw [requestMessage, get_object (by simp)]
    rfl
  simp [method, field, hget, Value.ofOption, Value.asStr]

theorem method_notificationMessage {name : String} : method (notificationMessage name) = some name := by
  have hget : (notificationMessage name).get "method" = some (.str name) := by
    rw [notificationMessage, get_object (by simp)]
    rfl
  simp [method, field, hget, Value.ofOption, Value.asStr]

theorem sendScheduled_keeps {message : Value}
    (hJ : ∀ events error, J events → J (events ++ [.wrote message error])) :
    KeepsEvents J (sendScheduled env message).run := by
  rw [sendScheduled, ExceptT.run_mk]
  refine KeepsEvents.act fun log hlog => ?_
  cases herror : env.writeJson log.events.length with
  | none => simpa [ScheduledLog.write, herror, ScheduledLog.record] using hJ _ none hlog
  | some error => simpa [ScheduledLog.write, herror, ScheduledLog.record] using hJ _ (some error) hlog

theorem command_keeps {answer : Nat → Option String} {event : Option String → TransportEvent}
    (hJ : ∀ events error, J events → J (events ++ [event error])) : KeepsEvents J (command answer event).run := by
  rw [command, ExceptT.run_mk]
  exact KeepsEvents.act fun _ hlog => hJ _ _ hlog

theorem reapUntil_keeps (hJ : Steady J) : KeepsEvents J (reapUntil env).run := by
  rw [reapUntil, ExceptT.run_mk]
  exact KeepsEvents.act fun _ hlog => hJ _ _ rfl hlog

theorem checkDeadline_keeps {message : String} : KeepsEvents J (checkDeadline env message).run := by
  rw [checkDeadline, ExceptT.run_mk]
  exact KeepsEvents.act fun _ hlog => hlog

/-- 応答を待つ一歩は、出来事を記録しない。 -/
theorem scheduledResponseStep_events {id : Nat} {name : String} (s : Unit × ScheduledLog) (p : Poll) :
    (scheduledResponseStep id name s p).state.2.events = s.2.events := by
  obtain ⟨cancelled, read, expired⟩ := p
  cases cancelled with
  | true => rfl
  | false =>
    match read with
    | .error error => rfl
    | .ok .eof => rfl
    | .ok .timedOut => cases expired <;> rfl
    | .ok (.message response) =>
      simp only [scheduledResponseStep]
      cases isNotification response <;> rfl

theorem scheduledResponse_keeps {id : Nat} {name : String} :
    KeepsEvents J (Session.reading (scheduledResponseStep id name) ()) := by
  refine KeepsEvents.reading fun s p hs => ?_
  rw [scheduledResponseStep_events]
  exact hs

theorem scheduledRequest_keeps {id : Nat} {name : String} {params : Value}
    (hJ : ∀ events error, J events → J (events ++ [.wrote (requestMessage id name params) error])) :
    KeepsEvents J (scheduledRequest env id name params).run :=
  Session.Keeps.except_bind (sendScheduled_keeps hJ) fun _ => scheduledResponse_keeps

/-- 発話を始めない要求を書いても、不変条件は保たれる。 -/
theorem Steady.request (hJ : Steady J) {id : Nat} {name : String} {params : Value} (hname : name ≠ "turn/start") :
    ∀ events error, J events → J (events ++ [.wrote (requestMessage id name params) error]) := by
  intro events error
  apply hJ
  simp [TransportEvent.startsTurn, isTurnStart, method_requestMessage, hname]

/-- 後始末は、送った文の履歴に、後始末の出来事だけを加える。 -/
theorem boundedShutdown_keeps (hJ : Steady J) : KeepsEvents J (boundedShutdown env).run := by
  have hcommand : ∀ answer event, (∀ error, (event error).startsTurn = false) →
      KeepsEvents J (command answer event).run :=
    fun answer event hquiet => command_keeps fun events error => hJ events (event error) (hquiet error)
  have hkill : KeepsEvents J (killAndReap env).run :=
    Session.Keeps.except_bind (hcommand _ _ fun _ => rfl) fun _ =>
      Session.Keeps.except_bind checkDeadline_keeps fun _ =>
        Session.Keeps.except_bind (reapUntil_keeps hJ) fun exit => by
          cases exit with
          | exited => exact Session.Keeps.except_pure
          | timedOut => exact Session.Keeps.except_throw
  refine Session.Keeps.except_bind (hcommand _ _ fun _ => rfl) fun _ =>
    Session.Keeps.except_bind (hcommand _ _ fun _ => rfl) fun _ =>
      Session.Keeps.except_bind checkDeadline_keeps fun _ =>
        Session.Keeps.except_bind (reapUntil_keeps hJ) fun exit => ?_
  cases exit with
  | exited => exact Session.Keeps.except_pure
  | timedOut => exact hkill

/-! ## 後始末の成否 -/

/-- 記録が `before` から `after` になる間に、プロセスの終わりを見届けた。 -/
def ReapedBetween (before after : ScheduledLog) : Prop :=
  .reaped (.ok .exited) ∈ after.events.drop before.events.length

def Extends (before after : ScheduledLog) : Prop := before.events <+: after.events

theorem ReapedBetween.of_extends {before log after : ScheduledLog} (h : Extends before log)
    (hreaped : ReapedBetween log after) (hafter : Extends log after) : ReapedBetween before after := by
  obtain ⟨earlier, hearlier⟩ := h
  obtain ⟨later, hlater⟩ := hafter
  simp only [ReapedBetween, ← hlater, ← hearlier, List.drop_left] at hreaped ⊢
  rw [List.append_assoc, List.drop_left]
  exact List.mem_append_right _ hreaped

/-- `n` 回目の働きかけから後始末を始めれば、終わりを見届けられる。 -/
def Reaps (env : ScheduledEnv) (n : Nat) : Prop :=
  env.closeStdin n = none ∧ env.terminateProcessGroup (n + 1) = none ∧ env.deadlineFits (n + 2) = true ∧
    (env.reapUntil (n + 2) = .ok .exited ∨
      (env.reapUntil (n + 2) = .ok .timedOut ∧ env.killProcessGroup (n + 3) = none ∧
        env.deadlineFits (n + 4) = true ∧ env.reapUntil (n + 4) = .ok .exited))

theorem command_run {answer : Nat → Option String} {event : Option String → TransportEvent}
    (w : Wire Poll ScheduledLog) :
    (command answer event).run w =
      .done (match answer w.log.events.length with
        | none => .ok ()
        | some error => .error (failure .transport error))
        { w with log := w.log.record (event (answer w.log.events.length)) } := rfl

theorem reapUntil_run (w : Wire Poll ScheduledLog) :
    (reapUntil env).run w =
      .done (match env.reapUntil w.log.events.length with
        | .ok exit => .ok exit
        | .error error => .error (failure .transport error))
        { w with log := w.log.record (.reaped (env.reapUntil w.log.events.length)) } := rfl

theorem checkDeadline_run {message : String} (w : Wire Poll ScheduledLog) :
    (checkDeadline env message).run w =
      .done (if env.deadlineFits w.log.events.length then .ok () else .error (preflight message)) w := rfl

def ScheduledLog.recordAll (events : List TransportEvent) (log : ScheduledLog) : ScheduledLog :=
  { log with events := log.events ++ events }

/-- 必ず終わり、成功するのも、プロセスの終わりを見届けるのも、条件 `R` のもとに限る。 -/
def Cleans (m : ScheduledTalk ScheduledFailure Unit) (R : Nat → Prop) : Prop :=
  ∀ w : Wire Poll ScheduledLog, ∃ outcome events,
    m.run w = .done outcome { w with log := w.log.recordAll events } ∧
      (outcome = .ok () ↔ R w.log.events.length) ∧
        (.reaped (.ok .exited) ∈ events ↔ R w.log.events.length)

theorem Cleans.throw {f : ScheduledFailure} : Cleans (throw f) fun _ => False := by
  intro w
  refine ⟨.error f, [], ?_, by simp, by simp⟩
  simp only [ScheduledLog.recordAll, List.append_nil]
  rfl

theorem recordAll_record {log : ScheduledLog} {event : TransportEvent} {events : List TransportEvent} :
    (log.record event).recordAll events = log.recordAll (event :: events) := by
  simp [ScheduledLog.recordAll, ScheduledLog.record]

theorem length_record {log : ScheduledLog} {event : TransportEvent} :
    (log.record event).events.length = log.events.length + 1 := by
  simp [ScheduledLog.record]

theorem Cleans.command {m : ScheduledTalk ScheduledFailure Unit} {R : Nat → Prop} {answer : Nat → Option String}
    {event : Option String → TransportEvent} (hevent : ∀ error, .reaped (.ok .exited) ≠ event error)
    (h : Cleans m R) : Cleans (command answer event >>= fun _ => m) fun n => answer n = none ∧ R (n + 1) := by
  intro w
  cases hanswer : answer w.log.events.length with
  | some error =>
    refine ⟨.error (failure .transport error), [event (some error)], ?_, by simp [hanswer], ?_⟩
    · rw [Session.except_bind_apply, command_run, hanswer]
      rfl
    · simp [hevent, hanswer]
  | none =>
    obtain ⟨outcome, events, hrun, hok, hreaped⟩ := h { w with log := w.log.record (event none) }
    rw [length_record] at hok hreaped
    refine ⟨outcome, event none :: events, ?_, by simp [hok, hanswer], by simp [hreaped, hanswer, hevent]⟩
    rw [Session.except_bind_apply, command_run, hanswer, ← recordAll_record]
    exact hrun

theorem Cleans.checkDeadline {m : ScheduledTalk ScheduledFailure Unit} {R : Nat → Prop} {message : String}
    (h : Cleans m R) :
    Cleans (checkDeadline env message >>= fun _ => m) fun n => env.deadlineFits n = true ∧ R n := by
  intro w
  cases hfits : env.deadlineFits w.log.events.length with
  | false =>
    refine ⟨.error (preflight message), [], ?_, by simp [hfits], by simp [hfits]⟩
    rw [Session.except_bind_apply, checkDeadline_run, hfits]
    simp [ScheduledLog.recordAll]
  | true =>
    obtain ⟨outcome, events, hrun, hok, hreaped⟩ := h w
    refine ⟨outcome, events, ?_, by simp [hok, hfits], by simp [hreaped, hfits]⟩
    rw [Session.except_bind_apply, checkDeadline_run, hfits]
    exact hrun

theorem Cleans.reap {next : ProcessExit → ScheduledTalk ScheduledFailure Unit} {R : Nat → Prop}
    (hexited : next .exited = pure ()) (h : Cleans (next .timedOut) R) :
    Cleans (reapUntil env >>= next) fun n =>
      env.reapUntil n = .ok .exited ∨ (env.reapUntil n = .ok .timedOut ∧ R (n + 1)) := by
  intro w
  cases hanswer : env.reapUntil w.log.events.length with
  | error error =>
    refine ⟨.error (failure .transport error), [.reaped (.error error)], ?_, by simp [hanswer], by simp [hanswer]⟩
    rw [Session.except_bind_apply, reapUntil_run, hanswer]
    rfl
  | ok exit =>
    cases exit with
    | exited =>
      refine ⟨.ok (), [.reaped (.ok .exited)], ?_, by simp [hanswer], by simp [hanswer]⟩
      rw [Session.except_bind_apply, reapUntil_run, hanswer]
      simp only [hexited]
      rfl
    | timedOut =>
      obtain ⟨outcome, events, hrun, hok, hreaped⟩ := h { w with log := w.log.record (.reaped (.ok .timedOut)) }
      rw [length_record] at hok hreaped
      refine ⟨outcome, .reaped (.ok .timedOut) :: events, ?_, by simp [hok, hanswer], by simp [hreaped, hanswer]⟩
      rw [Session.except_bind_apply, reapUntil_run, hanswer, ← recordAll_record]
      exact hrun

/-- 片付けが成功するのは、子プロセスの終わりが確かめられたときに限る。 -/
theorem boundedShutdown_cleans : Cleans (boundedShutdown env) (Reaps env) := by
  have hkill : Cleans (killAndReap env) _ :=
    Cleans.command (by simp) (Cleans.checkDeadline (Cleans.reap rfl .throw))
  have hshutdown : Cleans (boundedShutdown env) _ :=
    Cleans.command (by simp) (Cleans.command (by simp) (Cleans.checkDeadline (Cleans.reap rfl hkill)))
  refine fun w => (hshutdown w).imp fun outcome => ?_
  rintro ⟨events, hrun, hok, hreaped⟩
  exact ⟨events, hrun, by simpa [Reaps] using hok, by simpa [Reaps] using hreaped⟩

/-- 片付けは必ず終わる。成功するのも、終わりが記録に残るのも、`Reaps` のときに限る。 -/
theorem boundedShutdown_run (w : Wire Poll ScheduledLog) :
    ∃ outcome log, (boundedShutdown env).run w = .done outcome { w with log := log } ∧
      (Extends w.log log ∧ log.requests = w.log.requests) ∧ (outcome = .ok () ↔ Reaps env w.log.events.length) ∧
        (ReapedBetween w.log log ↔ Reaps env w.log.events.length) := by
  obtain ⟨outcome, events, hrun, hok, hreaped⟩ := boundedShutdown_cleans w
  exact ⟨outcome, w.log.recordAll events, hrun, ⟨⟨events, rfl⟩, rfl⟩, hok,
    by simpa [ReapedBetween, ScheduledLog.recordAll] using hreaped⟩

def rejected (result : ScheduledExecutionResult) : Except ScheduledFailure Unit → ScheduledExecutionResult
  | .ok () => result
  | .error f => .transportLost f

theorem rejectPreparation_run {α : Type} {result : ScheduledExecutionResult} {w w' : Wire Poll ScheduledLog}
    {outcome : Except ScheduledFailure Unit} (h : (boundedShutdown env).run w = .done outcome w') :
    (rejectPreparation env result : Preparation α).run w = .done (.error (rejected result outcome)) w' := by
  rw [rejectPreparation, ExceptT.run_mk, Session.bind_done _ h]
  cases outcome with
  | ok a => rfl
  | error f => rfl

/-- `J` のもとで断れば、断りと履歴が `E` を満たす。 -/
def Rejects (env : ScheduledEnv) (J : List TransportEvent → Prop)
    (E : ScheduledExecutionResult → List TransportEvent → Prop) : Prop :=
  ∀ result (w : Wire Poll ScheduledLog) outcome w', J w.log.events → (boundedShutdown env).run w = .done outcome w' →
    E (rejected result outcome) w'.log.events

/-- 準備の一部。終われば `J` が残り、断れば `E` を満たす。 -/
def Prepares {α : Type} (J : List TransportEvent → Prop) (E : ScheduledExecutionResult → List TransportEvent → Prop)
    (m : Preparation α) : Prop :=
  Session.EnsuresExcept (fun w => J w.log.events) m (fun _ w => J w.log.events) fun r w => E r w.log.events

variable {E : ScheduledExecutionResult → List TransportEvent → Prop}

theorem Rejects.prepares {α : Type} {result : ScheduledExecutionResult} (hE : Rejects env J E) :
    Prepares J E (rejectPreparation env result : Preparation α) := by
  intro w outcome w' hw hrun
  obtain ⟨shutdown, log, hshutdown, -⟩ := @boundedShutdown_run env w
  rw [rejectPreparation_run hshutdown] at hrun
  cases hrun
  exact hE result w shutdown _ hw hshutdown

theorem Rejects.orReject {α ε : Type} {result : ε → ScheduledExecutionResult} {talk : ScheduledTalk ε α}
    (hE : Rejects env J E) (h : KeepsEvents J talk.run) : Prepares J E (orReject env result talk) := by
  refine Session.Ensures.bind (Session.Keeps.ensures h) fun outcome => ?_
  cases outcome with
  | ok a => exact Session.EnsuresExcept.pure fun _ hw => hw
  | error e => exact hE.prepares

theorem attestSupervisorGithubMcp_keeps {githubMcp : Bool} :
    KeepsEvents J (attestSupervisorGithubMcp env githubMcp).run := by
  have hattest : KeepsEvents J (githubSide (attest env.github expectedGithubTools)).run := by
    rw [githubSide, ExceptT.run_mk]
    exact KeepsEvents.act fun _ hlog => hlog
  have hnote : ∀ specs, KeepsEvents J (noteAttested specs).run := by
    intro specs
    rw [noteAttested, ExceptT.run_mk]
    exact KeepsEvents.act fun _ hlog => hlog
  cases githubMcp with
  | false => exact Session.Keeps.except_pure
  | true =>
    exact Session.Keeps.except_bind hattest fun attestation =>
      Session.Keeps.except_bind (hnote attestation.toolSpecs) fun _ => Session.Keeps.except_pure

theorem attestedBy_prepares {result : Except ScheduledFailure Unit} (hE : Rejects env J E) :
    Prepares J E (attestedBy env result) := hE.orReject Session.Keeps.pure

theorem request_prepares {id : Nat} {name : String} {params : Value} (hJ : Steady J) (hE : Rejects env J E)
    (hname : name ≠ "turn/start") :
    Prepares J E (orReject env protocolFailure (scheduledRequest env id name params)) :=
  hE.orReject (scheduledRequest_keeps (hJ.request hname))

theorem sendInitialized_prepares (hJ : Steady J) (hE : Rejects env J E) : Prepares J E (sendInitialized env) := by
  refine hE.orReject (sendScheduled_keeps fun events error => ?_)
  apply hJ
  simp [TransportEvent.startsTurn, isTurnStart, method_notificationMessage]

theorem attestServerGithubMcp_prepares {threadId : String} (hJ : Steady J) (hE : Rejects env J E) :
    Prepares J E (attestServerGithubMcp env threadId) := by
  refine Session.EnsuresExcept.bind (request_prepares hJ hE (by decide)) fun _ => ?_
  refine Session.EnsuresExcept.bind (attestedBy_prepares hE) fun _ => ?_
  refine Session.EnsuresExcept.bind (request_prepares hJ hE (by decide)) fun _ => ?_
  exact attestedBy_prepares hE

/-- 準備は、発話を始める文を書かない。 -/
theorem prepareProtocol_prepares {request : ScheduledCodexRequest} {githubMcp : Bool} (hJ : Steady J)
    (hE : Rejects env J E) : Prepares J E (prepareProtocol env request githubMcp) := by
  refine Session.EnsuresExcept.bind (hE.orReject attestSupervisorGithubMcp_keeps) fun attestation => ?_
  refine Session.EnsuresExcept.bind (request_prepares hJ hE (by decide)) fun _ => ?_
  refine Session.EnsuresExcept.bind (sendInitialized_prepares hJ hE) fun _ => ?_
  refine Session.EnsuresExcept.bind (request_prepares hJ hE (by decide)) fun thread => ?_
  cases (field (field thread "thread") "id").asStr with
  | none => exact hE.prepares
  | some threadId =>
    cases attestation with
    | some attestation =>
      exact Session.EnsuresExcept.bind (attestedBy_prepares hE) fun _ => Session.EnsuresExcept.pure fun _ hw => hw
    | none =>
      exact Session.EnsuresExcept.bind (attestServerGithubMcp_prepares hJ hE) fun _ =>
        Session.EnsuresExcept.pure fun _ hw => hw

end Codeoff.Codex
