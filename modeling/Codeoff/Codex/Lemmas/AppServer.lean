import Codeoff.Codex.AppServer
import Codeoff.Json.Lemmas.Object

/-!
# 発話の間の一歩

発話の終わりを待つ者が一つの文を読むと、記録に何が加わるか。
-/

namespace Codeoff.Codex

open Codeoff.Control Codeoff.Json

variable {env : AppServerEnv} {context : CodexDynamicToolContext} {allowed : List String} {threadId turnId : String}

@[simp] theorem messageId_responseMessage {message result : Value} :
    messageId (responseMessage message result) = messageId message := by
  have hget : (responseMessage message result).get "id" = some (messageId message) := by
    rw [responseMessage, get_object (by simp)]
    rfl
  simp [messageId, field, hget, Value.ofOption]

theorem isResponse_responseMessage {message result : Value} : isResponse (responseMessage message result) = true := by
  have hmethod : (responseMessage message result).get "method" = none := by
    rw [responseMessage, get_object (by simp)]
    rfl
  have hresult : (responseMessage message result).get "result" = some result := by
    rw [responseMessage, get_object (by simp)]
    rfl
  simp [isResponse, method, field, hmethod, hresult, Value.ofOption, Value.asStr]

/-! ## 答える文 -/

/-- 答えを書く文。`id` は見ない。 -/
def isAnswered (message : Value) : Bool :=
  !hasError message && (method message).any fun m => m == "item/tool/call" || isUnsupportedInteractionRequest m

def toolCallOf (context : CodexDynamicToolContext) (allowed : List String) (threadId turnId : String)
    (message : Value) : Option ToolCall :=
  if hasError message = false ∧ method message = some "item/tool/call" then
    (toolToRun threadId turnId allowed message).toOption.map fun tool =>
      ⟨context, tool, field (params message) "arguments"⟩
  else none

/-- 文 `message` を読んで、記録が `before` から `after` になった。 -/
structure Heard (context : CodexDynamicToolContext) (allowed : List String) (threadId turnId : String)
    (message : Value) (before after : TurnLog) : Prop where
  heard : after.heard = before.heard ++ [message]
  responses : after.responses = before.responses
  called : after.called = before.called ++ (toolCallOf context allowed threadId turnId message).toList
  written : ∃ answers, after.written = before.written ++ answers ∧ (∀ answer ∈ answers, isResponse answer) ∧
    answers.map messageId = if isAnswered message then [messageId message] else []

theorem toolCallOf_eq_none {message : Value} (h : isAnswered message = false) :
    toolCallOf context allowed threadId turnId message = none := by
  rw [toolCallOf, if_neg]
  rintro ⟨herror, hmethod⟩
  simp [isAnswered, herror, hmethod] at h

theorem Heard.quiet {message : Value} {before after : TurnLog} (hquiet : isAnswered message = false)
    (hheard : after.heard = before.heard ++ [message]) (hresponses : after.responses = before.responses)
    (hcalled : after.called = before.called) (hwritten : after.written = before.written) :
    Heard context allowed threadId turnId message before after where
  heard := hheard
  responses := hresponses
  called := by simp [toolCallOf_eq_none hquiet, hcalled]
  written := ⟨[], by simp [hwritten], by simp, by simp [hquiet]⟩

theorem respondToToolCall_heard {message : Value} {log : TurnLog} (herror : hasError message = false)
    (hmethod : method message = some "item/tool/call") :
    Heard context allowed threadId turnId message log
      (respondToToolCall env context allowed threadId turnId message (log.hear message)).2 := by
  have hanswered : isAnswered message = true := by simp [isAnswered, herror, hmethod]
  cases hrun : toolToRun threadId turnId allowed message with
  | error refusal =>
    simp only [respondToToolCall, hrun]
    exact {
      heard := rfl
      responses := rfl
      called := by simp [toolCallOf, herror, hmethod, hrun, Except.toOption, TurnLog.write, TurnLog.hear]
      written := ⟨_, rfl, by simp [isResponse_responseMessage], by simp [hanswered]⟩ }
  | ok tool =>
    simp only [respondToToolCall, hrun]
    exact {
      heard := rfl
      responses := rfl
      called := by simp [toolCallOf, herror, hmethod, hrun, Except.toOption, TurnLog.call, TurnLog.write, TurnLog.hear]
      written := ⟨_, rfl, by simp [isResponse_responseMessage], by simp [hanswered]⟩ }

theorem respondToUnsupportedInteraction_heard {message : Value} {log : TurnLog} {m : String}
    (herror : hasError message = false) (hmethod : method message = some m) (hcall : m ≠ "item/tool/call")
    (hunsupported : isUnsupportedInteractionRequest m = true) :
    Heard context allowed threadId turnId message log
      (respondToUnsupportedInteraction env threadId turnId m message (log.hear message)).2 where
  heard := rfl
  responses := rfl
  called := by
    simp [toolCallOf, hmethod, hcall, respondToUnsupportedInteraction, TurnLog.write, TurnLog.hear]
  written := ⟨_, rfl, by simp [isResponse_responseMessage],
    by simp [isAnswered, herror, hmethod, hunsupported]⟩

@[simp] theorem answered_log {state : TurnState} {out : Option String × TurnLog} :
    (answered state out).state.2 = out.2 := by
  obtain ⟨failure, log⟩ := out
  cases failure <;> rfl

/-- 文の種類は、失敗の有無とメソッドだけで決まる。 -/
theorem turnMessage_spec (threadId turnId : String) (message : Value) :
    match turnMessage threadId turnId message with
    | .toolCall => hasError message = false ∧ method message = some "item/tool/call"
    | .unsupported m => hasError message = false ∧ method message = some m ∧ m ≠ "item/tool/call" ∧
        isUnsupportedInteractionRequest m = true
    | _ => isAnswered message = false := by
  unfold turnMessage
  cases herror : message.get "error" with
  | some error => simp [isAnswered, hasError, herror]
  | none =>
    have hno : hasError message = false := by simp [hasError, herror]
    cases hmethod : method message with
    | none => simp [isAnswered, hmethod]
    | some m =>
      by_cases hcall : m = "item/tool/call"
      · simp [hcall, hno]
      · by_cases hunsupported : isUnsupportedInteractionRequest m = true
        · simp [hcall, hunsupported, hno]
        · have hquiet : isAnswered message = false := by simp [isAnswered, hmethod, hcall, hunsupported]
          simp only [if_neg hcall, if_neg hunsupported]
          split_ifs
          all_goals exact hquiet

theorem observeStartedAgentMessage_quiet {state : TurnState} {log : TurnLog} {params : Value} :
    let after := (observeStartedAgentMessage threadId turnId params state log).2
    after.heard = log.heard ∧ after.responses = log.responses ∧ after.called = log.called ∧
      after.written = log.written := by
  unfold observeStartedAgentMessage
  cases startedAgentMessage params with
  | none => exact ⟨rfl, rfl, rfl, rfl⟩
  | some started => exact ⟨rfl, rfl, rfl, rfl⟩

theorem observeAgentMessageDelta_quiet {state : TurnState} {log : TurnLog} {params : Value} :
    let after := observeAgentMessageDelta threadId turnId params state log
    after.heard = log.heard ∧ after.responses = log.responses ∧ after.called = log.called ∧
      after.written = log.written := by
  unfold observeAgentMessageDelta
  split
  · exact ⟨rfl, rfl, rfl, rfl⟩
  · exact ⟨rfl, rfl, rfl, rfl⟩

/-- 文を一つ読むたびに、履歴に一つ加わり、答えるのは答える種類の文にだけである。 -/
theorem turnStep_heard (s : TurnState × TurnLog) (message : Value) :
    Heard context allowed threadId turnId message s.2
      (turnStep env context allowed threadId turnId s (.ok message)).state.2 := by
  have hspec := turnMessage_spec threadId turnId message
  simp only [turnStep]
  cases hkind : turnMessage threadId turnId message with
  | toolCall =>
    simp only [hkind] at hspec
    rw [answered_log]
    exact respondToToolCall_heard hspec.1 hspec.2
  | unsupported m =>
    simp only [hkind] at hspec
    rw [answered_log]
    exact respondToUnsupportedInteraction_heard hspec.1 hspec.2.1 hspec.2.2.1 hspec.2.2.2
  | started =>
    simp only [hkind] at hspec
    obtain ⟨hheard, hresponses, hcalled, hwritten⟩ := @observeStartedAgentMessage_quiet threadId turnId s.1
        (s.2.hear message) (params message)
    exact .quiet hspec hheard hresponses hcalled hwritten
  | delta =>
    simp only [hkind] at hspec
    obtain ⟨hheard, hresponses, hcalled, hwritten⟩ := @observeAgentMessageDelta_quiet threadId turnId s.1
        (s.2.hear message) (params message)
    exact .quiet hspec hheard hresponses hcalled hwritten
  | failed error => exact .quiet (by simpa only [hkind] using hspec) rfl rfl rfl rfl
  | itemCompleted => exact .quiet (by simpa only [hkind] using hspec) rfl rfl rfl rfl
  | turnCompleted => exact .quiet (by simpa only [hkind] using hspec) rfl rfl rfl rfl
  | ignored => exact .quiet (by simpa only [hkind] using hspec) rfl rfl rfl rfl

/-- 記録 `before` から、文 `messages` を順に読んだ記録。 -/
structure HeardAll (context : CodexDynamicToolContext) (allowed : List String) (threadId turnId : String)
    (messages : List Value) (before after : TurnLog) : Prop where
  heard : after.heard = before.heard ++ messages
  responses : after.responses = before.responses
  called : after.called = before.called ++ messages.filterMap (toolCallOf context allowed threadId turnId)
  written : ∃ answers, after.written = before.written ++ answers ∧ (∀ answer ∈ answers, isResponse answer) ∧
    answers.map messageId = (messages.filter isAnswered).map messageId

theorem HeardAll.nil {log : TurnLog} : HeardAll context allowed threadId turnId [] log log where
  heard := by simp
  responses := rfl
  called := by simp
  written := ⟨[], by simp, by simp, rfl⟩

theorem HeardAll.snoc {messages : List Value} {message : Value} {before log after : TurnLog}
    (h : HeardAll context allowed threadId turnId messages before log)
    (hlast : Heard context allowed threadId turnId message log after) :
    HeardAll context allowed threadId turnId (messages ++ [message]) before after := by
  obtain ⟨answers, hwritten, hresponses, hanswers⟩ := h.written
  obtain ⟨last, hmore, hresponse, hid⟩ := hlast.written
  refine ⟨?_, ?_, ?_, answers ++ last, ?_, ?_, ?_⟩
  · rw [hlast.heard, h.heard, List.append_assoc]
  · rw [hlast.responses, h.responses]
  · rw [hlast.called, h.called, List.filterMap_append, List.append_assoc]
    cases hcall : toolCallOf context allowed threadId turnId message with
    | none => simp [hcall]
    | some call => simp [hcall]
  · rw [hmore, hwritten, List.append_assoc]
  · exact fun answer hmem => (List.mem_append.mp hmem).elim (hresponses answer) (hresponse answer)
  · rw [List.map_append, List.filter_append, List.map_append, hanswers, hid]
    cases hanswered : isAnswered message with
    | true => simp [hanswered]
    | false => simp [hanswered]

theorem waitForTerminalTurn_heard (w : Wire (Except String Value) TurnLog) :
    ∃ messages, HeardAll context allowed threadId turnId messages w.log
      (waitForTerminalTurn env context allowed threadId turnId w).state.log := by
  have hkeeps := @Session.Keeps.reading (Except String Value) _ _ _
      (fun log => ∃ messages, HeardAll context allowed threadId turnId messages w.log log)
      (turnStep env context allowed threadId turnId) TurnState.empty (by
      intro s read hs
      obtain ⟨messages, hmessages⟩ := hs
      cases read with
      | error error => exact ⟨messages, hmessages⟩
      | ok message => exact ⟨messages ++ [message], hmessages.snoc (turnStep_heard s message)⟩)
  exact hkeeps w ⟨[], .nil⟩

end Codeoff.Codex
