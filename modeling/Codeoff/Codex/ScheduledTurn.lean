import Codeoff.Codex.Scheduled

/-!
# 予定の実行の、発話の開始から終わりまで

発話の終わりを待つ間に、最後の答えを集め、道具を呼び出す。取り消しか期限が来れば、取り消しを求めて、その確認を待つ。
-/

namespace Codeoff.Codex

open Codeoff.Agent Codeoff.Control Codeoff.Core Codeoff.Json Codeoff.Runtime

/-! ## 最後の答え -/

/-- 発話の間の状態。最後の答え、その発言の番号、道具の要求の番号、断片の合計。 -/
structure ScheduledTurnState where
  phasedFinal : Option String
  finalItemIds : List String
  toolCallIds : List String
  finalDeltaBytes : Nat
deriving DecidableEq, Repr

def ScheduledTurnState.empty : ScheduledTurnState := ⟨none, [], [], 0⟩

def isFinalAnswer (item : Value) : Bool :=
  (field item "type").asStr == some "agentMessage" && (field item "phase").asStr == some "final_answer"

def finalAnswerText (item : Value) : Option String :=
  if isFinalAnswer item then ((field item "text").asStr.map trim).filter (· ≠ "") else none

def recordAgentMessage (item : Value) (phasedFinal : Option String) : Except ScheduledFailure (Option String) :=
  match finalAnswerText item with
  | none => .ok phasedFinal
  | some text =>
    if maxFinalResponseBytes < byteLen text then .error (outputViolation "scheduled_final_response_too_large")
    else .ok (some text)

def recordAgentMessages (items : List Value) (phasedFinal : Option String) : Except ScheduledFailure (Option String) :=
  items.foldlM (fun final item => recordAgentMessage item final) phasedFinal

def parseFinalOutput (text : String) : Except ScheduledFailure String :=
  if maxFinalResponseBytes < byteLen text then .error (outputViolation "scheduled_final_response_too_large")
  else
    match parse text with
    | none => .error (outputViolation "scheduled_final_response_invalid_json")
    | some value =>
      if maxOutputSchemaDepth < jsonDepth value then .error (outputViolation "scheduled_final_response_too_deep")
      else
        match value.asObj with
        | none => .error (outputViolation "scheduled_final_response_must_be_object")
        | some members =>
          if members.length ≠ 2 ∨ (value.get "schema_version").isNone ∨ (value.get "summary").isNone then
            .error (outputViolation "scheduled_final_response_fields_mismatch")
          else if (field value "schema_version").asU64 ≠ some 1 then
            .error (outputViolation "scheduled_final_response_version_mismatch")
          else
            match (field value "summary").asStr.filter (trim · ≠ "") with
            | none => .error (outputViolation "scheduled_final_response_summary_invalid")
            | some summary =>
              if maxFinalSummaryBytes < byteLen summary then
                .error (outputViolation "scheduled_final_response_summary_too_large")
              else .ok summary

def observeFinalItem (item : Value) (state : ScheduledTurnState) : Except ScheduledFailure ScheduledTurnState :=
  match (field item "id").asStr with
  | none => .error (outputViolation "scheduled_final_item_id_missing")
  | some itemId =>
    if maxItemIdBytes < byteLen itemId
        ∨ (itemId ∉ state.finalItemIds ∧ maxFinalItemCount ≤ state.finalItemIds.length) then
      .error (outputViolation "scheduled_final_item_inventory_exceeds_limit")
    else if itemId ∈ state.finalItemIds then .ok state
    else .ok { state with finalItemIds := itemId :: state.finalItemIds }

def observeFinalDelta (params : Value) (state : ScheduledTurnState) : Except ScheduledFailure ScheduledTurnState :=
  match (field params "delta").asStr with
  | none => .error (outputViolation "scheduled_final_delta_invalid")
  | some delta =>
    if maxFinalResponseBytes < state.finalDeltaBytes + byteLen delta then
      .error (outputViolation "scheduled_final_deltas_too_large")
    else .ok { state with finalDeltaBytes := state.finalDeltaBytes + byteLen delta }

def observeFinalStreamEvent (threadId turnId : String) (message : Value) (state : ScheduledTurnState) :
    Except ScheduledFailure ScheduledTurnState :=
  if !namesTurn threadId turnId (params message) then .ok state
  else if method message = some "item/started" ∧ isFinalAnswer (field (params message) "item") then
    observeFinalItem (field (params message) "item") state
  else if method message = some "item/agentMessage/delta"
      ∧ (field (params message) "itemId").asStr.any (· ∈ state.finalItemIds) then
    observeFinalDelta (params message) state
  else .ok state

def scheduledCallId (message : Value) : Option String :=
  match messageId message with
  | .str s => some (Value.str s).render
  | .int n => some (Value.int n).render
  | _ => none

def scheduledToolCall (threadId turnId : String) (seenCallIds : List String) (message : Value) :
    Except ScheduledFailure GithubCall :=
  match scheduledCallId message with
  | none => .error (capability "scheduled_dynamic_tool_call_id_invalid")
  | some callId =>
    if 128 < byteLen callId ∨ callId ∈ seenCallIds ∨ namesTurn threadId turnId (params message) = false then
      .error (capability "scheduled_dynamic_tool_call_binding_invalid")
    else
      match (calledTool (params message)).filter (· ∈ expectedGithubTools) with
      | none => .error (capability "scheduled_dynamic_tool_denied")
      | some tool =>
        match ((params message).get "arguments").filter fun arguments => arguments.asObj.isSome with
        | none => .error (capability "scheduled_dynamic_tool_arguments_invalid")
        | some arguments => .ok ⟨callId, tool, arguments⟩

def toolResult (result : Value) : Value :=
  .object [("success", .bool true),
    ("contentItems", .arr [.object [("type", .str "inputText"), ("text", .str result.render)]])]

def handleScheduledDynamicToolCall (env : ScheduledEnv) (threadId turnId : String) (message : Value)
    (seenCallIds : List String) (log : ScheduledLog) : Except ScheduledFailure String × ScheduledLog :=
  match scheduledToolCall threadId turnId seenCallIds message with
  | .error f => (.error f, log)
  | .ok c =>
    match log.call env c with
    | (.error _, called) => (.error (capability "scheduled_dynamic_tool_call_failed"), called)
    | (.ok result, called) =>
      match called.write env (responseMessage message (toolResult result)) with
      | (none, written) => (.ok c.callId, written)
      | (some _, written) => (.error (failure .transport "scheduled_dynamic_tool_response_failed"), written)

/-! ## 発話の終わり -/

/-- 終わった発話の結果。`final` は、発話の間に集めた最後の答え。 -/
def scheduledTurnResult (threadId turnId : String) (turn : Value) (final : Option String) :
    ScheduledExecutionResult :=
  let status := (field turn "status").asStr
  if status = some "completed" then
    match final with
    | none => .failed (outputViolation "scheduled_final_answer_missing")
    | some text =>
      match parseFinalOutput text with
      | .ok summary => .completed summary
      | .error f => .failed f
  else if status = some "interrupted" then .interrupted (some threadId) (some turnId)
  else if status = some "failed" then
    .failed (failure .turnFailed ((field (field turn "error") "message").asStr.getD "turn_failed"))
  else .failed (capability "unexpected_terminal_turn_status")

/-- `turn/completed` の発言を集めてから、結果を決める。 -/
def endScheduledTurn (threadId turnId : String) (turn : Value) (final : Option String) : ScheduledExecutionResult :=
  match recordAgentMessages ((field turn "items").asArr.getD []) final with
  | .error f => .failed f
  | .ok final => scheduledTurnResult threadId turnId turn final

/-- 発話の終わりを待つ者から見た文。 -/
inductive ScheduledMessage where
  | toolCall
  | itemCompleted
  | turnCompleted
  | other
deriving DecidableEq, Repr

def scheduledMessage (threadId turnId : String) (message : Value) : ScheduledMessage :=
  if method message = some "item/tool/call" then .toolCall
  else if method message = some "item/completed" ∧ namesTurn threadId turnId (params message) then .itemCompleted
  else if method message = some "turn/completed" ∧ namesEndedTurn threadId turnId (params message) then .turnCompleted
  else .other

inductive TurnEnd where
  | result (r : ScheduledExecutionResult)
  | interrupt
deriving DecidableEq, Repr

abbrev TurnVerdict := Verdict (ScheduledTurnState × ScheduledLog) TurnEnd

def handleTurnMessage (env : ScheduledEnv) (githubMcp : Bool) (threadId turnId : String) (message : Value)
    (state : ScheduledTurnState) (log : ScheduledLog) : TurnVerdict :=
  match scheduledMessage threadId turnId message with
  | .toolCall =>
    if !githubMcp then
      .done (.result (.preflightRejected (capability "scheduled_dynamic_tool_call_without_supervisor"))) (state, log)
    else
      match handleScheduledDynamicToolCall env threadId turnId message state.toolCallIds log with
      | (.error f, log') => .done (.result (.failed f)) (state, log')
      | (.ok callId, log') => .next ({ state with toolCallIds := callId :: state.toolCallIds }, log')
  | .itemCompleted =>
    match recordAgentMessage (field (params message) "item") state.phasedFinal with
    | .error f => .done (.result (.failed f)) (state, log)
    | .ok final => .next ({ state with phasedFinal := final }, log)
  | .turnCompleted =>
    .done (.result (endScheduledTurn threadId turnId (field (params message) "turn") state.phasedFinal)) (state, log)
  | .other => .next (state, log)

def readTurnMessage (env : ScheduledEnv) (githubMcp : Bool) (threadId turnId : String) (message : Value)
    (s : ScheduledTurnState × ScheduledLog) : TurnVerdict :=
  match observeFinalStreamEvent threadId turnId message s.1 with
  | .error f => .done (.result (.failed f)) (s.1, s.2.hear message)
  | .ok state => handleTurnMessage env githubMcp threadId turnId message state (s.2.hear message)

def scheduledTurnStep (env : ScheduledEnv) (githubMcp : Bool) (threadId turnId : String)
    (s : ScheduledTurnState × ScheduledLog) (p : Poll) : TurnVerdict :=
  if p.cancelled then .held .interrupt s
  else
    match p.read with
    | .ok (.message message) => readTurnMessage env githubMcp threadId turnId message s
    | .ok .timedOut => if p.expired then .done .interrupt s else .next s
    | .ok .eof => .done (.result (transportFailure "transport_eof_before_terminal_turn")) s
    | .error error => .done (.result (transportFailure error)) s

def interruptStep (threadId turnId : String) (s : Unit × ScheduledLog) (p : Poll) :
    Verdict (Unit × ScheduledLog) ScheduledExecutionResult :=
  match p.read with
  | .ok (.message message) =>
    let log := s.2.hear message
    if (messageId message).asU64 = some 5 ∧ hasError message then
      .done (transportFailure "turn_interrupt_rejected") ((), log)
    else if method message = some "turn/completed" ∧ namesEndedTurn threadId turnId (params message)
        ∧ (field (field (params message) "turn") "status").asStr = some "interrupted" then
      .done (.interrupted (some threadId) (some turnId)) ((), log)
    else .next ((), log)
  | .ok .timedOut => .done (.transportLost (failure .timedOut "turn_interrupt_not_confirmed")) s
  | .ok .eof => .done (.transportLost (failure .timedOut "turn_interrupt_not_confirmed")) s
  | .error error => .done (transportFailure error) s

def interruptParams (threadId turnId : String) : Value :=
  .object [("threadId", .str threadId), ("turnId", .str turnId)]

def interruptScheduledTurn (env : ScheduledEnv) (threadId turnId : String) :
    Session (Wire Poll ScheduledLog) ScheduledExecutionResult := do
  let sent ← Session.act fun log =>
    log.write env (requestMessage 5 "turn/interrupt" (interruptParams threadId turnId))
  match sent with
  | some error => return transportFailure error
  | none =>
    let fits ← Session.act fun log => (env.deadlineFits log.events.length, log)
    if fits then Session.reading (interruptStep threadId turnId) ()
    else return .transportLost (preflight "scheduled_interrupt_deadline_overflow")

def waitForScheduledTurn (env : ScheduledEnv) (githubMcp : Bool) (threadId turnId : String) :
    Session (Wire Poll ScheduledLog) ScheduledExecutionResult := do
  let ended ← Session.reading (scheduledTurnStep env githubMcp threadId turnId) ScheduledTurnState.empty
  match ended with
  | .result r => return r
  | .interrupt => interruptScheduledTurn env threadId turnId

def fixedOutputSchema : Value :=
  .object [("type", .str "object"), ("required", .arr [.str "schema_version", .str "summary"]),
    ("properties", .object [
      ("schema_version", .object [("type", .str "integer"), ("const", .int 1)]),
      ("summary", .object [("type", .str "string"), ("minLength", .int 1), ("maxLength", .int maxFinalSummaryBytes)])]),
    ("additionalProperties", .bool false)]

def scheduledTurnParams (request : ScheduledCodexRequest) (threadId : String) : Value :=
  .object [("threadId", .str threadId), ("clientUserMessageId", .str request.task.taskId), ("cwd", .str request.cwd),
    ("approvalPolicy", .str "never"),
    ("sandboxPolicy", .object [("type", .str "readOnly"), ("networkAccess", .bool false)]),
    ("outputSchema", fixedOutputSchema),
    ("input", .arr [.object [("type", .str "text"), ("text", .str request.task.instruction)]])]

def afterTurnStart (env : ScheduledEnv) (githubMcp : Bool) (threadId : String) :
    Except ScheduledFailure Value → Session (Wire Poll ScheduledLog) ScheduledExecutionResult
  | .error f => return protocolFailure f
  | .ok turn =>
    match startedTurn turn with
    | none => return protocolFailure (capability "turn_start_missing_turn_id")
    | some turnId => waitForScheduledTurn env githubMcp threadId turnId

/-- `cancelled` は、始める前に見た旗。 -/
def executePreparedProtocol (env : ScheduledEnv) (request : ScheduledCodexRequest) (githubMcp : Bool)
    (threadId : String) (cancelled : Bool) : Session (Wire Poll ScheduledLog) ScheduledExecutionResult :=
  if cancelled then return .interrupted (some threadId) none
  else do
    let turn ← (scheduledRequest env 5 "turn/start" (scheduledTurnParams request threadId)).run
    afterTurnStart env githubMcp threadId turn

/-- `PreparedCodexExecution::execute`。 -/
def executePrepared (env : ScheduledEnv) (request : ScheduledCodexRequest) (githubMcp : Bool) (threadId : String)
    (cancelled : Bool) : Session (Wire Poll ScheduledLog) ScheduledExecutionResult := do
  let result ← executePreparedProtocol env request githubMcp threadId cancelled
  let shutdown ← (boundedShutdown env).run
  match shutdown with
  | .ok () => return result
  | .error f => return .cleanupUnproven f

end Codeoff.Codex
