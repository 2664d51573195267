import Codeoff.Codex.Lemmas.AppServer

/-!
# 開始への応答の前に届く文

発話の終わりを待つ者は、発話の出来事でない知らせを読み飛ばす。
-/

namespace Codeoff.Codex

open Codeoff.Agent Codeoff.Control Codeoff.Json Session

variable {env : AppServerEnv} {context : CodexDynamicToolContext} {allowed : List String} {threadId turnId : String}

def isTurnEvent (threadId turnId : String) (message : Value) : Bool :=
  isServerRequest message || isTurnNotification threadId turnId message || isAnswered message || hasError message

theorem method_of_isNotification {message : Value} (h : isNotification message = true) :
    ∃ m, method message = some m := by
  simp only [isNotification, Bool.and_eq_true] at h
  exact Option.isSome_iff_exists.mp h.2

theorem quiet_of_not_turnEvent {message : Value} (hnotification : isNotification message = true)
    (h : isTurnEvent threadId turnId message = false) :
    hasError message = false ∧ isAnswered message = false ∧ namesTurn threadId turnId (params message) = false ∧
      namesEndedTurn threadId turnId (params message) = false := by
  simp only [isTurnEvent, isTurnNotification, hnotification, Bool.true_and, Bool.or_eq_false_iff] at h
  exact ⟨h.2, h.1.2, h.1.1.2⟩

theorem turnStep_quiet {message : Value} (hnotification : isNotification message = true)
    (h : isTurnEvent threadId turnId message = false) (state : TurnState) (log : TurnLog) :
    turnStep env context allowed threadId turnId (state, log) (.ok message) = .next (state, log.hear message) := by
  obtain ⟨herror, hanswered, hturn, hended⟩ := quiet_of_not_turnEvent hnotification h
  obtain ⟨m, hmethod⟩ := method_of_isNotification hnotification
  have hnone : message.get "error" = none := by simpa [hasError] using herror
  have hnot : m ≠ "item/tool/call" ∧ isUnsupportedInteractionRequest m = false := by
    simpa [isAnswered, herror, hmethod] using hanswered
  have hignored : turnMessage threadId turnId message = .ignored := by
    simp [turnMessage, hnone, hmethod, hnot.1, hnot.2, hturn, hended]
  simp [turnStep, hignored]

def SameTurn (log log' : TurnLog) : Prop :=
  log.written = log'.written ∧ log.called = log'.called ∧ log.observed = log'.observed

theorem answered_related {state : TurnState} {out out' : Option String × TurnLog} (hfailure : out.1 = out'.1)
    (hlog : SameTurn out.2 out'.2) : RelatedVerdict SameTurn (answered state out) (answered state out') := by
  obtain ⟨failure, log⟩ := out
  obtain ⟨failure', log'⟩ := out'
  obtain rfl : failure = failure' := hfailure
  cases failure with
  | none => exact ⟨rfl, hlog⟩
  | some error => exact ⟨rfl, rfl, hlog⟩

theorem write_same {message : Value} {log log' : TurnLog} (h : SameTurn log log') :
    (log.write env message).1 = (log'.write env message).1 ∧
      SameTurn (log.write env message).2 (log'.write env message).2 := by
  obtain ⟨hwritten, hcalled, hobserved⟩ := h
  exact ⟨by simp [TurnLog.write, hwritten], by simp [TurnLog.write, hwritten], hcalled, hobserved⟩

theorem respondToToolCall_same {message : Value} {log log' : TurnLog} (h : SameTurn log log') :
    let out := respondToToolCall env context allowed threadId turnId message log
    let out' := respondToToolCall env context allowed threadId turnId message log'
    out.1 = out'.1 ∧ SameTurn out.2 out'.2 := by
  cases hrun : toolToRun threadId turnId allowed message with
  | error refusal =>
    simp only [respondToToolCall, hrun]
    exact write_same h
  | ok tool =>
    have hcall : SameTurn (log.call env ⟨context, tool, field (params message) "arguments"⟩).2
        (log'.call env ⟨context, tool, field (params message) "arguments"⟩).2 :=
      ⟨h.1, by simp [TurnLog.call, h.2.1], h.2.2⟩
    have hanswer : (log.call env ⟨context, tool, field (params message) "arguments"⟩).1 =
        (log'.call env ⟨context, tool, field (params message) "arguments"⟩).1 := by simp [TurnLog.call, h.2.1]
    simp only [respondToToolCall, hrun, hanswer]
    exact write_same hcall

theorem observe_same {event : CodexTurnEvent} {log log' : TurnLog} (h : SameTurn log log') :
    SameTurn (log.observe event) (log'.observe event) := ⟨h.1, h.2.1, by simp [TurnLog.observe, h.2.2]⟩

/-- 一歩の結末は、読んだ文の履歴によらない。 -/
theorem turnStep_related (state : TurnState) (log log' : TurnLog) (read : Except String Value)
    (h : SameTurn log log') :
    RelatedVerdict SameTurn (turnStep env context allowed threadId turnId (state, log) read)
      (turnStep env context allowed threadId turnId (state, log') read) := by
  cases read with
  | error error => exact ⟨rfl, rfl, h⟩
  | ok message =>
    have hheard : SameTurn (log.hear message) (log'.hear message) := h
    simp only [turnStep]
    cases turnMessage threadId turnId message with
    | failed error => exact ⟨rfl, rfl, hheard⟩
    | toolCall =>
      obtain ⟨hfailure, hlog⟩ := @respondToToolCall_same env context allowed threadId turnId message _ _ hheard
      exact answered_related hfailure hlog
    | unsupported m =>
      obtain ⟨hfailure, hlog⟩ := @write_same env _ _ _ hheard
      exact answered_related hfailure hlog
    | started =>
      simp only [observeStartedAgentMessage]
      cases startedAgentMessage (params message) with
      | none => exact ⟨rfl, hheard⟩
      | some started => exact ⟨rfl, observe_same hheard⟩
    | delta =>
      refine ⟨rfl, ?_⟩
      simp only [observeAgentMessageDelta]
      split
      · exact observe_same hheard
      · exact hheard
    | itemCompleted => exact ⟨rfl, hheard⟩
    | turnCompleted => exact ⟨rfl, rfl, hheard⟩
    | ignored => exact ⟨rfl, hheard⟩

theorem poll_quiet {messages : List Value} (hall : ∀ m ∈ messages, isNotification m = true)
    (h : ∀ m ∈ messages, isTurnEvent threadId turnId m = false) (state : TurnState) (log : TurnLog) :
    ∃ log', SameTurn log' log ∧
      poll (turnStep env context allowed threadId turnId) (state, log) (messages.map .ok) = .waiting (state, log') := by
  induction messages generalizing log with
  | nil => exact ⟨log, ⟨rfl, rfl, rfl⟩, rfl⟩
  | cons m rest ih =>
    obtain ⟨log', hsame, hpoll⟩ := ih (fun q hq => hall q (by simp [hq])) (fun q hq => h q (by simp [hq])) (log.hear m)
    refine ⟨log', hsame, ?_⟩
    simp only [List.map_cons, poll, turnStep_quiet (hall m (by simp)) (h m (by simp))]
    exact hpoll

/-! ## 開始への応答 -/

theorem poll_responseStep {id : Nat} {name : String} {notes : List Value} {m : Value}
    (hnotes : ∀ n ∈ notes, isNotification n = true) (hm : isNotification m = false) (rest : List (Except String Value))
    (log : TurnLog) :
    poll (responseStep id name) ((), log) (notes.map .ok ++ .ok m :: rest) =
      .ended (acceptResponse id name m) ((), { log with responses := log.responses ++ (notes ++ [m]) }) rest := by
  induction notes generalizing log with
  | nil => simp [poll, responseStep, hm, TurnLog.readResponse]
  | cons n notes ih =>
    have hn : isNotification n = true := hnotes n (by simp)
    simp only [List.map_cons, List.cons_append, poll, responseStep, hn, if_true]
    rw [ih fun q hq => hnotes q (by simp [hq])]
    simp [TurnLog.readResponse]

def turnStarted (env : AppServerEnv) (request : CodexAppServerRequest) (threadId : String) (turnRequestId : Nat)
    (log : TurnLog) : TurnLog :=
  (log.write env (requestMessage turnRequestId "turn/start" (turnParams threadId request))).2

def awaitTurn (env : AppServerEnv) (request : CodexAppServerRequest) (allowed : List String)
    (threadId turnId : String) : Talk AgentTaskResult := do
  let result ← waitForTerminalTurn env request.dynamicToolContext allowed threadId turnId
  return result.withCodexThreadId threadId

def afterResponse (env : AppServerEnv) (request : CodexAppServerRequest) (allowed : List String) (threadId : String) :
    Except String Value → Talk AgentTaskResult
  | .error error => throw error
  | .ok turn =>
    match startedTurn turn with
    | none => throw "codex app server turn/start response missing turn.id"
    | some turnId => awaitTurn env request allowed threadId turnId

/-- 開始への応答を待つ者は、知らせを読み飛ばし、知らせでない最初の文を応答とみなす。 -/
theorem runTurn_response {request : CodexAppServerRequest} {turnRequestId : Nat} {notes : List Value} {m : Value}
    {rest : List (Except String Value)} {w : Wire (Except String Value) TurnLog}
    (hwrite : env.writeJson w.log.written.length = none) (hinput : w.input = notes.map .ok ++ .ok m :: rest)
    (hnotes : ∀ n ∈ notes, isNotification n = true) (hm : isNotification m = false) :
    (runTurn env request allowed threadId turnRequestId).run w =
      (afterResponse env request allowed threadId (acceptResponse turnRequestId "turn/start" m)).run
        ⟨rest, { turnStarted env request threadId turnRequestId w.log with
          responses := w.log.responses ++ (notes ++ [m]) }⟩ := by
  have hsend : (sendRequest env turnRequestId "turn/start" (turnParams threadId request)).run w =
      .done (.ok ()) ⟨w.input, turnStarted env request threadId turnRequestId w.log⟩ := by
    simp only [sendRequest, failing, ExceptT.run_mk, Session.act, TurnLog.write, hwrite, turnStarted]
  have hread : (readResponse turnRequestId "turn/start").run
      ⟨w.input, turnStarted env request threadId turnRequestId w.log⟩ =
        .done (acceptResponse turnRequestId "turn/start" m)
          ⟨rest, { turnStarted env request threadId turnRequestId w.log with
            responses := w.log.responses ++ (notes ++ [m]) }⟩ := by
    simp only [readResponse, ExceptT.run_mk, Session.reading, hinput]
    rw [poll_responseStep hnotes hm]
    rfl
  rw [runTurn, Session.except_bind_ok _ hsend]
  cases haccept : acceptResponse turnRequestId "turn/start" m with
  | error error =>
    rw [haccept] at hread
    rw [Session.except_bind_error _ hread]
    rfl
  | ok turn =>
    rw [haccept] at hread
    rw [Session.except_bind_ok _ hread]
    simp only [afterResponse]
    cases startedTurn turn with
    | none => rfl
    | some turnId => rfl

theorem afterResponse_responses {request : CodexAppServerRequest} (answer : Except String Value)
    (w : Wire (Except String Value) TurnLog) :
    ((afterResponse env request allowed threadId answer).run w).state.log.responses = w.log.responses := by
  cases answer with
  | error error => rfl
  | ok turn =>
    simp only [afterResponse]
    cases startedTurn turn with
    | none => rfl
    | some turnId =>
      obtain ⟨messages, hheard⟩ := @waitForTerminalTurn_heard env request.dynamicToolContext allowed threadId turnId w
      simp only [awaitTurn]
      rw [Session.except_bind_apply]
      have hresponses := hheard.responses
      change ((waitForTerminalTurn env request.dynamicToolContext allowed threadId turnId).run w).state.log.responses =
        w.log.responses at hresponses
      cases hrun : (waitForTerminalTurn env request.dynamicToolContext allowed threadId turnId).run w with
      | waiting v => rw [hrun] at hresponses; exact hresponses
      | done outcome v =>
        rw [hrun] at hresponses
        cases outcome with
        | error error => exact hresponses
        | ok result => exact hresponses

theorem awaitTurn_related {request : CodexAppServerRequest} {w v : Wire (Except String Value) TurnLog}
    (h : RelatedWire SameTurn w v) :
    Related SameTurn ((awaitTurn env request allowed threadId turnId).run w)
      ((awaitTurn env request allowed threadId turnId).run v) := by
  rw [awaitTurn, ExceptT.run_bind]
  refine bind_related (reading_related turnStep_related h) fun outcome w v h => ?_
  cases outcome with
  | error error => exact pure_related h
  | ok result => exact pure_related h

theorem awaitTurn_quiet {request : CodexAppServerRequest} {messages : List Value}
    (hall : ∀ m ∈ messages, isNotification m = true)
    (h : ∀ m ∈ messages, isTurnEvent threadId turnId m = false) (rest : List (Except String Value)) (log : TurnLog) :
    ∃ log', SameTurn log' log ∧
      (awaitTurn env request allowed threadId turnId).run ⟨messages.map .ok ++ rest, log⟩ =
        (awaitTurn env request allowed threadId turnId).run ⟨rest, log'⟩ := by
  obtain ⟨log', hsame, hpoll⟩ := @poll_quiet env request.dynamicToolContext allowed _ _ _ hall h TurnState.empty log
  refine ⟨log', hsame, ?_⟩
  have hwait : (waitForTerminalTurn env request.dynamicToolContext allowed threadId turnId).run
      ⟨messages.map .ok ++ rest, log⟩ =
        (waitForTerminalTurn env request.dynamicToolContext allowed threadId turnId).run ⟨rest, log'⟩ := by
    simp only [waitForTerminalTurn, ExceptT.run_mk, Session.reading]
    rw [poll_append_of_waiting rest hpoll]
  rw [awaitTurn, Session.except_bind_apply, Session.except_bind_apply, hwait]

end Codeoff.Codex
