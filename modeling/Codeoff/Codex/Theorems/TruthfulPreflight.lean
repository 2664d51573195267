import Codeoff.Codex.Theorems.DefiniteCleanup

/-!
# 準備の断りと、始まった発話

準備は発話を始めない。
-/

namespace Codeoff.Codex

open Codeoff.Control Codeoff.Json Codeoff.Runtime

variable {env : ScheduledEnv} {threadId turnId : String}

/-- 記録が `before` から `after` になる間に、発話の開始を書けた。 -/
def TurnStarted (before after : ScheduledLog) : Prop :=
  ∃ message, .wrote message none ∈ after.events.drop before.events.length ∧ isTurnStart message = true

def TurnRefused (before after : ScheduledLog) : Prop :=
  ∃ m ∈ after.requests.drop before.requests.length, (messageId m).asU64 = some 5 ∧ hasError m = true

def isPreflight : ScheduledExecutionResult → Bool
  | .preflightRejected _ => true
  | _ => false

/-- 準備の断りを返すのは、発話を始めなかったか、断られたときだけである。 -/
def TruthfulPreflight (env : ScheduledEnv) (prepared : PreparedCodexExecution) (cancelled : Bool)
    (w : Wire Poll ScheduledLog) : Prop :=
  ∀ r w', prepared.execute env cancelled w = .done r w' → isPreflight r = true →
    ¬TurnStarted w.log w'.log ∨ TurnRefused w.log w'.log

def Poll.losesStart (p : Poll) : Bool :=
  !p.cancelled &&
    match p.read with
    | .ok (.message m) =>
      (messageId m).asU64 ≠ some 5 || (!hasError m && (startedTurn (responseResult m)).isNone)
    | .ok .timedOut => false
    | .ok .eof => true
    | .error _ => true

def Poll.starts (p : Poll) : Option String :=
  if p.cancelled then none
  else
    match p.read with
    | .ok (.message m) =>
      if (messageId m).asU64 = some 5 ∧ hasError m = false then startedTurn (responseResult m) else none
    | _ => none

def reachesToolCall (threadId turnId : String) : ScheduledTurnState → List Poll → Bool
  | _, [] => false
  | state, p :: rest =>
    !p.cancelled &&
      match p.read with
      | .ok (.message message) =>
        match observeFinalStreamEvent threadId turnId message state with
        | .error _ => false
        | .ok state =>
          match scheduledMessage threadId turnId message with
          | .toolCall => true
          | .itemCompleted =>
            match recordAgentMessage (field (params message) "item") state.phasedFinal with
            | .error _ => false
            | .ok final => reachesToolCall threadId turnId { state with phasedFinal := final } rest
          | .turnCompleted => false
          | .other => reachesToolCall threadId turnId state rest
      | .ok .timedOut => !p.expired && reachesToolCall threadId turnId state rest
      | .ok .eof => false
      | .error _ => false

def StartLost (githubMcp : Bool) (threadId : String) (input : List Poll) : Prop :=
  match input.dropWhile Poll.passedOver with
  | [] => False
  | p :: rest =>
    p.losesStart = true ∨
      (githubMcp = false ∧ p.starts.any fun turnId => reachesToolCall threadId turnId .empty rest)

/-! ## 発話の間の断り -/

theorem isPreflight_scheduledTurnResult {turn : Value} {final : Option String} :
    isPreflight (scheduledTurnResult threadId turnId turn final) = false := by
  unfold scheduledTurnResult
  dsimp only
  split_ifs
  · cases final with
    | none => rfl
    | some text =>
      simp only
      cases parseFinalOutput text with
      | error f => rfl
      | ok summary => rfl
  · rfl
  · rfl
  · rfl

theorem isPreflight_endScheduledTurn {turn : Value} {final : Option String} :
    isPreflight (endScheduledTurn threadId turnId turn final) = false := by
  unfold endScheduledTurn
  cases recordAgentMessages ((field turn "items").asArr.getD []) final with
  | error f => rfl
  | ok final => exact isPreflight_scheduledTurnResult

theorem poll_turn_unsupervised (state : ScheduledTurnState) (log : ScheduledLog) (input : List Poll) :
    match poll (scheduledTurnStep env false threadId turnId) (state, log) input with
    | .waiting _ => reachesToolCall threadId turnId state input = false
    | .ended .interrupt _ _ => reachesToolCall threadId turnId state input = false
    | .ended (.result r) s _ => isPreflight r = reachesToolCall threadId turnId state input ∧
        s.2.events = log.events ∧ s.2.requests = log.requests := by
  induction input generalizing state log with
  | nil => rfl
  | cons p rest ih =>
    obtain ⟨cancelled, read, expired⟩ := p
    cases cancelled with
    | true => rfl
    | false =>
      match read with
      | .error error => exact ⟨rfl, rfl, rfl⟩
      | .ok .eof => exact ⟨rfl, rfl, rfl⟩
      | .ok .timedOut =>
        cases expired with
        | true => rfl
        | false => simpa [poll, scheduledTurnStep, reachesToolCall] using ih state log
      | .ok (.message message) =>
        simp only [poll, scheduledTurnStep, readTurnMessage, reachesToolCall, Bool.false_eq_true, if_false,
          Bool.not_false, Bool.true_and]
        cases observeFinalStreamEvent threadId turnId message state with
        | error f => exact ⟨rfl, rfl, rfl⟩
        | ok observed =>
          simp only [handleTurnMessage]
          cases scheduledMessage threadId turnId message with
          | toolCall => exact ⟨rfl, rfl, rfl⟩
          | itemCompleted =>
            simp only
            cases recordAgentMessage (field (params message) "item") observed.phasedFinal with
            | error f => exact ⟨rfl, rfl, rfl⟩
            | ok final => exact ih { observed with phasedFinal := final } (log.hear message)
          | turnCompleted =>
            exact ⟨isPreflight_endScheduledTurn, rfl, rfl⟩
          | other => exact ih observed (log.hear message)

theorem scheduledTurnStep_supervised (s : ScheduledTurnState × ScheduledLog) (p : Poll) :
    match scheduledTurnStep env true threadId turnId s p with
    | .done (.result r) _ => isPreflight r = false
    | .held (.result r) _ => isPreflight r = false
    | _ => True := by
  obtain ⟨cancelled, read, expired⟩ := p
  cases cancelled with
  | true => trivial
  | false =>
    match read with
    | .error error => rfl
    | .ok .eof => rfl
    | .ok .timedOut =>
      cases expired with
      | true => trivial
      | false => trivial
    | .ok (.message message) =>
      simp only [scheduledTurnStep, readTurnMessage, Bool.false_eq_true, if_false]
      cases observeFinalStreamEvent threadId turnId message s.1 with
      | error f => rfl
      | ok observed =>
        simp only [handleTurnMessage]
        cases scheduledMessage threadId turnId message with
        | toolCall =>
          simp only [Bool.not_true, Bool.false_eq_true, if_false]
          rcases handleScheduledDynamicToolCall env threadId turnId message observed.toolCallIds (s.2.hear message)
            with ⟨answer, log⟩
          cases answer with
          | error f => rfl
          | ok id => trivial
        | itemCompleted =>
          simp only
          cases recordAgentMessage (field (params message) "item") observed.phasedFinal with
          | error f => rfl
          | ok final => trivial
        | turnCompleted => exact isPreflight_endScheduledTurn
        | other => trivial

theorem interruptStep_not_preflight (s : Unit × ScheduledLog) (p : Poll) :
    match interruptStep threadId turnId s p with
    | .done r _ => isPreflight r = false
    | .held r _ => isPreflight r = false
    | .next _ => True := by
  obtain ⟨cancelled, read, expired⟩ := p
  match read with
  | .error error => rfl
  | .ok .eof => rfl
  | .ok .timedOut => rfl
  | .ok (.message message) =>
    simp only [interruptStep]
    split_ifs
    · rfl
    · rfl
    · trivial

theorem interruptScheduledTurn_not_preflight {w w' : Wire Poll ScheduledLog} {r : ScheduledExecutionResult}
    (hrun : interruptScheduledTurn env threadId turnId w = .done r w') : isPreflight r = false := by
  rw [interruptScheduledTurn_run] at hrun
  cases hwrite : env.writeJson w.log.events.length with
  | some error =>
    simp only [hwrite] at hrun
    cases hrun
    rfl
  | none =>
    simp only [hwrite] at hrun
    split_ifs at hrun
    · refine Session.reading_result (R := fun r => isPreflight r = false) ?_ ?_ hrun
      · intro s p r s' hstep
        simpa [hstep] using @interruptStep_not_preflight threadId turnId s p
      · intro s p r s' hstep
        simpa [hstep] using @interruptStep_not_preflight threadId turnId s p
    · cases hrun
      rfl

theorem poll_turn_supervised {s s' : ScheduledTurnState × ScheduledLog} {input rest : List Poll}
    {r : ScheduledExecutionResult}
    (h : poll (scheduledTurnStep env true threadId turnId) s input = .ended (.result r) s' rest) :
    isPreflight r = false := by
  obtain ⟨before, p, after, u, -, -, ⟨hp, -⟩ | ⟨hp, -⟩⟩ := poll_ended h
  · simpa [hp] using @scheduledTurnStep_supervised env threadId turnId u p
  · simpa [hp] using @scheduledTurnStep_supervised env threadId turnId u p

/-- 発話の終わりを待つ者が準備の断りを返すのは、監督者のない発話が道具を求めたときである。 -/
theorem waitForScheduledTurn_preflight {githubMcp : Bool} {w w' : Wire Poll ScheduledLog}
    {r : ScheduledExecutionResult} (hrun : waitForScheduledTurn env githubMcp threadId turnId w = .done r w') :
    isPreflight r = (!githubMcp && reachesToolCall threadId turnId .empty w.input) ∧
      (isPreflight r = true → w'.log.events = w.log.events ∧ w'.log.requests = w.log.requests) := by
  rw [waitForScheduledTurn_run] at hrun
  cases githubMcp with
  | true =>
    have hnot : isPreflight r = false := by
      cases hpoll : poll (scheduledTurnStep env true threadId turnId) (.empty, w.log) w.input with
      | waiting s => simp [hpoll] at hrun
      | ended ended s rest =>
        simp only [hpoll] at hrun
        cases ended with
        | result r' => cases hrun; exact poll_turn_supervised hpoll
        | interrupt => exact interruptScheduledTurn_not_preflight hrun
    simp [hnot]
  | false =>
    have hpoll := @poll_turn_unsupervised env threadId turnId .empty w.log w.input
    cases h : poll (scheduledTurnStep env false threadId turnId) (.empty, w.log) w.input with
    | waiting s => simp [h] at hrun
    | ended ended s rest =>
      simp only [h] at hrun hpoll
      cases ended with
      | result r' => cases hrun; exact ⟨by simpa using hpoll.1, fun _ => hpoll.2⟩
      | interrupt => simp [interruptScheduledTurn_not_preflight hrun, hpoll]

theorem waitForScheduledTurn_reaches {w : Wire Poll ScheduledLog}
    (h : reachesToolCall threadId turnId .empty w.input = true) :
    ∃ r w', waitForScheduledTurn env false threadId turnId w = .done r w' := by
  have hpoll := @poll_turn_unsupervised env threadId turnId .empty w.log w.input
  rw [waitForScheduledTurn_run]
  cases hend : poll (scheduledTurnStep env false threadId turnId) (.empty, w.log) w.input with
  | waiting s => simp [hend, h] at hpoll
  | ended ended s rest =>
    simp only [hend] at hpoll
    cases ended with
    | result r => exact ⟨r, _, rfl⟩
    | interrupt => simp [h] at hpoll

def Poll.refusesStart (p : Poll) : Bool :=
  !p.cancelled &&
    match p.read with
    | .ok (.message m) => (messageId m).asU64 = some 5 && hasError m
    | _ => false

/-- 始まらなかった発話が準備の断りになるのは、開始が失われたか、断られたときである。 -/
theorem startResult_spec {p : Poll} (hp : p.passedOver = false) :
    match p.startResult with
    | .ok turnId => p.starts = some turnId ∧ p.losesStart = false ∧ p.refusesStart = false ∧ p.cancelled = false
    | .error r => p.starts = none ∧ (isPreflight r = true → p.refusesStart = false → p.losesStart = true) ∧
        (p.losesStart = true → isPreflight r = true ∧ p.refusesStart = false) := by
  obtain ⟨cancelled, read, expired⟩ := p
  cases cancelled with
  | true => simp [Poll.startResult, Poll.startAnswer, Poll.starts, Poll.losesStart, protocolFailure, failure, isPreflight]
  | false =>
    rcases read with error | (m | _ | _)
    · simp [Poll.startResult, Poll.startAnswer, Poll.starts, Poll.losesStart, Poll.refusesStart,
        protocolFailure, failure, isPreflight]
    · by_cases hid : (messageId m).asU64 = some 5
      · cases herror : hasError m with
        | true => simp [Poll.startResult, Poll.startAnswer, acceptScheduledResponse, Poll.starts, Poll.losesStart,
            Poll.refusesStart, protocolFailure, failure, isPreflight, hid, herror]
        | false =>
          cases hturn : startedTurn (responseResult m) with
          | none => simp [Poll.startResult, Poll.startAnswer, acceptScheduledResponse, Poll.starts, Poll.losesStart,
              Poll.refusesStart, protocolFailure, capability, failure, isPreflight, hid, herror, hturn]
          | some turnId => simp [Poll.startResult, Poll.startAnswer, acceptScheduledResponse, Poll.starts,
              Poll.losesStart, Poll.refusesStart, hid, herror, hturn]
      · simp [Poll.startResult, Poll.startAnswer, acceptScheduledResponse, Poll.starts, Poll.losesStart,
          Poll.refusesStart, protocolFailure, capability, failure, isPreflight, hid]
    · simp [Poll.startResult, Poll.startAnswer, Poll.starts, Poll.losesStart, protocolFailure, failure, isPreflight]
    · simp [Poll.startResult, Poll.startAnswer, Poll.starts, Poll.losesStart, Poll.refusesStart, protocolFailure,
        failure, isPreflight]

/-! ## 実行 -/

variable {prepared : PreparedCodexExecution} {cancelled : Bool} {w : Wire Poll ScheduledLog}

theorem execute_of_protocol {w₁ : Wire Poll ScheduledLog} {r : ScheduledExecutionResult}
    (hprotocol : executePreparedProtocol env prepared.request prepared.githubMcp prepared.threadId cancelled w =
      .done r w₁) :
    ∃ r' log, prepared.execute env cancelled w = .done r' { w₁ with log := log } ∧
      (∀ J, Steady J → J w₁.log.events → J log.events) ∧ log.requests = w₁.log.requests ∧
        (isPreflight r' = true ↔ isPreflight r = true ∧ Reaps env w₁.log.events.length) := by
  obtain ⟨outcome, log, hshutdown, ⟨-, hrequests⟩, hok, -⟩ := @boundedShutdown_run env w₁
  have hsteady : ∀ J, Steady J → J w₁.log.events → J log.events := by
    intro J hJ hw
    have hkeeps := @boundedShutdown_keeps env _ hJ w₁ hw
    rwa [hshutdown] at hkeeps
  cases outcome with
  | ok a =>
    have hexecute : prepared.execute env cancelled w = .done r { w₁ with log := log } :=
      (Session.bind_done _ hprotocol).trans ((Session.bind_done _ hshutdown).trans rfl)
    exact ⟨r, log, hexecute, hsteady, hrequests, by simp [← hok]⟩
  | error f =>
    have hexecute : prepared.execute env cancelled w = .done (.cleanupUnproven f) { w₁ with log := log } :=
      (Session.bind_done _ hprotocol).trans ((Session.bind_done _ hshutdown).trans rfl)
    exact ⟨.cleanupUnproven f, log, hexecute, hsteady, hrequests, by simp [isPreflight, ← hok]⟩

theorem execute_of_waiting {w₁ : Wire Poll ScheduledLog}
    (hprotocol : executePreparedProtocol env prepared.request prepared.githubMcp prepared.threadId cancelled w =
      .waiting w₁) : prepared.execute env cancelled w = .waiting w₁ := by
  rw [PreparedCodexExecution.execute, executePrepared, Session.bind_waiting _ hprotocol]

theorem turnStarted_of_extends {request : ScheduledCodexRequest} {threadId : String} {before after : ScheduledLog}
    (h : Extends (started request threadId before) after) : TurnStarted before after := by
  obtain ⟨later, hlater⟩ := h
  refine ⟨requestMessage 5 "turn/start" (scheduledTurnParams request threadId), ?_, ?_⟩
  · simp [← hlater, started, ScheduledLog.record]
  · simp [isTurnStart, method_requestMessage]

theorem truthful_of_started {w₁ : Wire Poll ScheduledLog} {r : ScheduledExecutionResult}
    (hprotocol : executePreparedProtocol env prepared.request prepared.githubMcp prepared.threadId cancelled w =
      .done r w₁)
    (hextends : Extends (started prepared.request prepared.threadId w.log) w₁.log) :
    TruthfulPreflight env prepared cancelled w ↔
      (isPreflight r = true → Reaps env w₁.log.events.length → TurnRefused w.log w₁.log) := by
  obtain ⟨r', log, hexecute, hsteady, hrequests, hpreflight⟩ := execute_of_protocol hprotocol
  have hlog : Extends w₁.log log := hsteady _ growing_extends.steady (List.prefix_refl _)
  have hstarted : TurnStarted w.log log := turnStarted_of_extends (hextends.trans hlog)
  have hrefused : TurnRefused w.log log ↔ TurnRefused w.log w₁.log := by simp only [TurnRefused, hrequests]
  constructor
  · intro h hr hreaps
    exact hrefused.mp ((h r' _ hexecute (hpreflight.mpr ⟨hr, hreaps⟩)).resolve_left fun hnot => hnot hstarted)
  · intro h r'' w'' hrun hr''
    rw [hexecute] at hrun
    cases hrun
    exact .inr (hrefused.mpr (h (hpreflight.mp hr'').1 (hpreflight.mp hr'').2))

theorem asU64_of_isNotification {m : Value} (h : isNotification m = true) : (messageId m).asU64 = none := by
  simp only [isNotification, Bool.and_eq_true, Option.isNone_iff_eq_none] at h
  simp [messageId, field, h.1, Value.ofOption, Value.asU64]

theorem turnRefused_answerWire {request : ScheduledCodexRequest} {threadId : String} {log after : ScheduledLog}
    {p : Poll} {rest : List Poll} (hpassed : PassedOver (started request threadId w.log) log)
    (hafter : after.requests = (p.answerWire rest log).log.requests) :
    TurnRefused w.log after ↔ p.refusesStart = true := by
  obtain ⟨notifications, hrequests, hall⟩ := hpassed.requests
  have hstarted : (started request threadId w.log).requests = w.log.requests := rfl
  have hquiet : ¬∃ m ∈ notifications, (messageId m).asU64 = some 5 ∧ hasError m = true := by
    rintro ⟨m, hm, hid, -⟩
    simp [asU64_of_isNotification (hall m hm)] at hid
  obtain ⟨cancelled, read, expired⟩ := p
  have hnone : after.requests = w.log.requests ++ notifications → (TurnRefused w.log after ↔ False) := by
    intro h
    simp only [TurnRefused, h, List.drop_left]
    exact iff_false_intro hquiet
  cases cancelled with
  | true => simpa [Poll.refusesStart] using hnone (by rw [hafter, ← hstarted, ← hrequests]; rfl)
  | false =>
    match read with
    | .error error => simpa [Poll.refusesStart] using hnone (by rw [hafter, ← hstarted, ← hrequests]; rfl)
    | .ok .eof => simpa [Poll.refusesStart] using hnone (by rw [hafter, ← hstarted, ← hrequests]; rfl)
    | .ok .timedOut => simpa [Poll.refusesStart] using hnone (by rw [hafter, ← hstarted, ← hrequests]; rfl)
    | .ok (.message m) =>
      have hread : after.requests = w.log.requests ++ (notifications ++ [m]) := by
        rw [hafter, ← List.append_assoc, ← hstarted, ← hrequests]
        rfl
      simp only [TurnRefused, hread, List.drop_left, Poll.refusesStart, Bool.not_false, Bool.true_and,
        Bool.and_eq_true, decide_eq_true_eq]
      constructor
      · rintro ⟨m', hm', hrefused⟩
        rcases List.mem_append.mp hm' with hm' | hm'
        · exact absurd ⟨m', hm', hrefused⟩ hquiet
        · rw [List.mem_singleton.mp hm'] at hrefused
          exact hrefused
      · exact fun hrefused => ⟨m, by simp, hrefused⟩

/-- `n` 回目の働きかけから後に、発話の開始を書けていない。 -/
def Unstarted (n : Nat) (events : List TransportEvent) : Prop :=
  ∀ message, .wrote message none ∈ events.drop n → isTurnStart message = false

theorem unstarted_steady {n : Nat} : Steady (Unstarted n) := by
  intro events event hevent h message hmem
  rw [List.drop_append] at hmem
  rcases List.mem_append.mp hmem with hmem | hmem
  · exact h message hmem
  · have heq := List.mem_singleton.mp (List.mem_of_mem_drop hmem)
    rw [← heq] at hevent
    exact hevent

theorem truthful_of_unstarted {w₁ : Wire Poll ScheduledLog} {r : ScheduledExecutionResult}
    (hprotocol : executePreparedProtocol env prepared.request prepared.githubMcp prepared.threadId cancelled w =
      .done r w₁)
    (hunstarted : Unstarted w.log.events.length w₁.log.events) : TruthfulPreflight env prepared cancelled w := by
  obtain ⟨r', log, hexecute, hsteady, -, -⟩ := execute_of_protocol hprotocol
  intro r'' w'' hrun _
  rw [hexecute] at hrun
  cases hrun
  refine .inl ?_
  rintro ⟨message, hmem, hstart⟩
  simp [hsteady _ unstarted_steady hunstarted message hmem] at hstart

/-! ## 断りの真偽 -/

theorem answerWire_events {request : ScheduledCodexRequest} {threadId : String} {log : ScheduledLog} {p : Poll}
    {rest : List Poll} (hpassed : PassedOver (started request threadId w.log) log) :
    (p.answerWire rest log).log.events = (started request threadId w.log).events := by
  rw [← hpassed.events]
  obtain ⟨cancelled, read, expired⟩ := p
  cases cancelled with
  | true => rfl
  | false =>
    match read with
    | .error error => rfl
    | .ok .eof => rfl
    | .ok .timedOut => rfl
    | .ok (.message m) => rfl

theorem length_started {request : ScheduledCodexRequest} {threadId : String} {log : ScheduledLog} :
    (started request threadId log).events.length = log.events.length + 1 := length_record

theorem executePreparedProtocol_unwritten {error : String}
    (hwrite : env.writeJson w.log.events.length = some error) :
    ∃ r w₁, executePreparedProtocol env prepared.request prepared.githubMcp prepared.threadId false w = .done r w₁ ∧
      Unstarted w.log.events.length w₁.log.events := by
  have hrequest := @scheduledRequest_unwritten env 5 "turn/start" _
      (scheduledTurnParams prepared.request prepared.threadId) _ hwrite
  refine ⟨protocolFailure (failure .transport error), { w with
    log := w.log.record
      (.wrote (requestMessage 5 "turn/start" (scheduledTurnParams prepared.request prepared.threadId)) (some error)) },
    ?_, ?_⟩
  · unfold executePreparedProtocol
    simp only [Bool.false_eq_true, if_false]
    rw [Session.bind_done _ hrequest]
    rfl
  · intro message hmem
    simp [ScheduledLog.record] at hmem

theorem truthful_of_lost {log : ScheduledLog} {p : Poll} {rest : List Poll} {r : ScheduledExecutionResult}
    (hpassed : PassedOver (started prepared.request prepared.threadId w.log) log) (hp : p.passedOver = false)
    (hresult : p.startResult = .error r)
    (hprotocol : executePreparedProtocol env prepared.request prepared.githubMcp prepared.threadId false w =
      .done r (p.answerWire rest log)) :
    TruthfulPreflight env prepared false w ↔
      ¬(Reaps env (w.log.events.length + 1) ∧ p.losesStart = true) := by
  have hspec := startResult_spec hp
  rw [hresult] at hspec
  have hevents := @answerWire_events _ _ _ _ p rest hpassed
  have hextends : Extends (started prepared.request prepared.threadId w.log) (p.answerWire rest log).log := by
    simp [Extends, hevents]
  rw [truthful_of_started hprotocol hextends, hevents, length_started,
    @turnRefused_answerWire _ _ _ _ _ _ rest hpassed rfl]
  constructor
  · rintro h ⟨hreaps, hloses⟩
    obtain ⟨hpreflight, hrefuses⟩ := hspec.2.2 hloses
    simp [h hpreflight hreaps] at hrefuses
  · intro h hpreflight hreaps
    by_contra hrefuses
    exact h ⟨hreaps, hspec.2.1 hpreflight (by simpa using hrefuses)⟩

theorem truthful_of_turn {log : ScheduledLog} {p : Poll} {rest : List Poll} {turnId : String}
    (hpassed : PassedOver (started prepared.request prepared.threadId w.log) log) (hp : p.passedOver = false)
    (hresult : p.startResult = .ok turnId)
    (hprotocol : executePreparedProtocol env prepared.request prepared.githubMcp prepared.threadId false w =
      waitForScheduledTurn env prepared.githubMcp prepared.threadId turnId (p.answerWire rest log)) :
    TruthfulPreflight env prepared false w ↔
      ¬(Reaps env (w.log.events.length + 1) ∧ prepared.githubMcp = false ∧
        reachesToolCall prepared.threadId turnId .empty rest = true) := by
  have hspec := startResult_spec hp
  rw [hresult] at hspec
  obtain ⟨-, -, hrefuses, hcancelled⟩ := hspec
  have hinput : (p.answerWire rest log).input = rest := by simp [Poll.answerWire, hcancelled]
  have hevents := @answerWire_events _ _ _ _ p rest hpassed
  cases hwait : waitForScheduledTurn env prepared.githubMcp prepared.threadId turnId (p.answerWire rest log) with
  | waiting w₁ =>
    rw [hwait] at hprotocol
    refine iff_of_true (by simp [TruthfulPreflight, execute_of_waiting hprotocol]) ?_
    rintro ⟨-, hclient, hreaches⟩
    rw [← hinput] at hreaches
    obtain ⟨r, w', hrun⟩ := @waitForScheduledTurn_reaches env _ _ _ hreaches
    rw [hclient, hrun] at hwait
    cases hwait
  | done r w₁ =>
    rw [hwait] at hprotocol
    have hkeeps := @waitForScheduledTurn_keeps env _ prepared.githubMcp prepared.threadId turnId
        (@growing_extends (started prepared.request prepared.threadId w.log).events).steady
        (p.answerWire rest log) (by simp only [hevents]; exact List.prefix_refl _)
    rw [hwait] at hkeeps
    obtain ⟨hpreflight, hsame⟩ := waitForScheduledTurn_preflight hwait
    rw [hinput] at hpreflight
    rw [truthful_of_started hprotocol hkeeps]
    cases hr : isPreflight r with
    | false =>
      rw [hr] at hpreflight
      simp only [Bool.false_eq_true, false_implies, true_iff]
      rintro ⟨-, hclient, hreaches⟩
      simp [hclient, hreaches] at hpreflight
    | true =>
      obtain ⟨hev, hreq⟩ := hsame hr
      rw [hr] at hpreflight
      have hboth : prepared.githubMcp = false ∧ reachesToolCall prepared.threadId turnId .empty rest = true := by
        simpa using hpreflight.symm
      rw [hev, hevents, length_started, @turnRefused_answerWire _ _ _ _ _ _ rest hpassed hreq, hrefuses]
      simp [hboth]

theorem truthfulPreflight_iff :
    TruthfulPreflight env prepared cancelled w ↔
      ¬(cancelled = false ∧ env.writeJson w.log.events.length = none ∧ Reaps env (w.log.events.length + 1) ∧
        StartLost prepared.githubMcp prepared.threadId w.input) := by
  cases cancelled with
  | true =>
    have hunstarted : Unstarted w.log.events.length w.log.events := by
      intro message hmem
      simp at hmem
    simpa using truthful_of_unstarted (r := .interrupted (some prepared.threadId) none) rfl hunstarted
  | false =>
    cases hwrite : env.writeJson w.log.events.length with
    | some error =>
      obtain ⟨r, w₁, hprotocol, hunstarted⟩ := executePreparedProtocol_unwritten hwrite
      simpa using truthful_of_unstarted hprotocol hunstarted
    | none =>
      obtain ⟨log, hpassed, hprotocol⟩ := @executePreparedProtocol_started env prepared.request
          prepared.githubMcp prepared.threadId _ hwrite
      simp only [true_and, StartLost]
      cases hdrop : w.input.dropWhile Poll.passedOver with
      | nil =>
        rw [hdrop] at hprotocol
        simp [TruthfulPreflight, execute_of_waiting hprotocol]
      | cons p rest =>
        have hp := dropWhile_head hdrop
        have hspec := startResult_spec hp
        rw [hdrop] at hprotocol
        simp only at hprotocol
        cases hresult : p.startResult with
        | error r =>
          rw [hresult] at hprotocol hspec
          rw [truthful_of_lost hpassed hp hresult hprotocol]
          simp [hspec.1]
        | ok turnId =>
          rw [hresult] at hprotocol hspec
          rw [truthful_of_turn hpassed hp hresult hprotocol]
          simp [hspec.1, hspec.2.1]

theorem rejects_steady {J : List TransportEvent → Prop} (hJ : Steady J) : Rejects env J fun _ => J := by
  intro result w outcome w' hw hrun
  have hkeeps := @boundedShutdown_keeps env _ hJ w hw
  rwa [hrun] at hkeeps

theorem prepare_steady {J : List TransportEvent → Prop} (hJ : Steady J) {checks : PrepareChecks}
    {request : ScheduledCodexRequest} {githubMcp : Bool} {outcome : Except ScheduledExecutionResult PreparedCodexExecution}
    {w' : Wire Poll ScheduledLog} (hrun : (prepare env checks request githubMcp).run w = .done outcome w')
    (hw : J w.log.events) : J w'.log.events := by
  have hthrow : ∀ r, (throw r : Preparation PreparedCodexExecution).run w = .done outcome w' → J w'.log.events := by
    intro r h
    cases h
    exact hw
  have hdrop : ∀ r, (dropPreparation env r : Preparation PreparedCodexExecution).run w = .done outcome w' →
      J w'.log.events := by
    intro r h
    have hkeeps : KeepsEvents J (dropPreparation env r : Preparation PreparedCodexExecution).run :=
      Session.Keeps.bind (boundedShutdown_keeps hJ) fun _ => Session.Keeps.pure
    have := hkeeps w hw
    rwa [h] at this
  unfold prepare at hrun
  split at hrun
  · exact hthrow _ hrun
  · exact hthrow _ hrun
  · exact hthrow _ hrun
  · split at hrun
    · exact hdrop _ hrun
    · split_ifs at hrun
      · have hkept := prepareProtocol_prepares hJ (rejects_steady hJ) w outcome w' hw hrun
        cases outcome with
        | error r => exact hkept
        | ok prepared => exact hkept
      · exact hdrop _ hrun

/-- 準備は発話を始めない。実行の断りが偽りになるのは、書けた開始が失われ、後始末が成功するときに限る。 -/
theorem preflight_verdicts (env : ScheduledEnv) (w : Wire Poll ScheduledLog) :
    (∀ checks request githubMcp outcome w', (prepare env checks request githubMcp).run w = .done outcome w' →
      ¬TurnStarted w.log w'.log) ∧
    ∀ (prepared : PreparedCodexExecution) cancelled, TruthfulPreflight env prepared cancelled w ↔
      ¬(cancelled = false ∧ env.writeJson w.log.events.length = none ∧ Reaps env (w.log.events.length + 1) ∧
        StartLost prepared.githubMcp prepared.threadId w.input) := by
  refine ⟨?_, fun prepared cancelled => truthfulPreflight_iff⟩
  rintro checks request githubMcp outcome w' hrun ⟨message, hmem, hstart⟩
  have hunstarted : Unstarted w.log.events.length w.log.events := by
    intro message hmem
    simp at hmem
  simp [prepare_steady unstarted_steady hrun hunstarted message hmem] at hstart

def smoothEnv : ScheduledEnv where
  version := "0"
  writeJson := fun _ => none
  closeStdin := fun _ => none
  terminateProcessGroup := fun _ => none
  killProcessGroup := fun _ => none
  reapUntil := fun _ => .ok .exited
  deadlineFits := fun _ => true
  github := ⟨"0", fun _ => .error "connect failed"⟩
  others := fun _ => none

/-- 開始を書いた後に回線が切れても、準備の断りが返る。 -/
theorem eofAfterStart_untruthful :
    ¬TruthfulPreflight smoothEnv ⟨nightlyRequest, true, "t"⟩ false ⟨[⟨false, .ok .eof, false⟩], .empty⟩ := by
  rw [truthfulPreflight_iff, not_not]
  exact ⟨rfl, rfl, ⟨rfl, rfl, rfl, .inl rfl⟩, .inl rfl⟩

end Codeoff.Codex
