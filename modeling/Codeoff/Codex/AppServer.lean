import Codeoff.Agent.Task
import Codeoff.Codex.Message
import Codeoff.Control.Session

/-!
# 会話の発話

`start_jsonl_turn`。接続の開始、会話の開始か再開、発話の開始を順に求め、発話の終わりまで文を読む。
-/

namespace Codeoff.Codex

open Codeoff.Agent Codeoff.Control Codeoff.Core Codeoff.Json

/-! ## 依頼と部品 -/

structure CodexDynamicToolContext where
  source : InvocationSource
  principal : InvocationPrincipal
  channel : Option ChannelTaskContext
deriving DecidableEq, Repr

structure CodexAppServerRequest where
  conversationId : String
  resumeThreadId : Option String
  prompt : String
  toolPolicy : ToolPolicy
  dynamicToolContext : CodexDynamicToolContext

structure ToolCall where
  context : CodexDynamicToolContext
  tool : String
  arguments : Value

inductive CodexTurnEvent where
  | agentMessageStarted (threadId turnId itemId : String) (phase : Option String)
  | agentMessageDelta (threadId turnId itemId : String) (phase : Option String) (delta : String)
deriving DecidableEq, Repr

/-- 一回の発話の記録。`written` には、書けなかった文も入る。`responses` は要求への応答を待つ間に、`heard` は発話の終わりを待つ間に
読んだ文で、どちらも履歴であり、本体は読まない。 -/
structure TurnLog where
  written : List Value
  called : List ToolCall
  observed : List CodexTurnEvent
  responses : List Value
  heard : List Value

/-- 回線と道具。`writeJson n` は n 番目に書くときの失敗、`toolOutput n` は n 番目の呼び出しの答え。`debugText` は `{:?}` の文面。 -/
structure AppServerEnv where
  version : String
  ephemeralThreads : Bool
  spawn : Option String
  writeJson : Nat → Option String
  toolSpecs : CodexDynamicToolContext → List Value
  toolOutput : Nat → Value
  debugText : String → String

namespace TurnLog

def empty : TurnLog := ⟨[], [], [], [], []⟩

def write (env : AppServerEnv) (message : Value) (log : TurnLog) : Option String × TurnLog :=
  (env.writeJson log.written.length, { log with written := log.written ++ [message] })

def call (env : AppServerEnv) (c : ToolCall) (log : TurnLog) : Value × TurnLog :=
  (env.toolOutput log.called.length, { log with called := log.called ++ [c] })

def observe (event : CodexTurnEvent) (log : TurnLog) : TurnLog := { log with observed := log.observed ++ [event] }

def readResponse (message : Value) (log : TurnLog) : TurnLog := { log with responses := log.responses ++ [message] }

def hear (message : Value) (log : TurnLog) : TurnLog := { log with heard := log.heard ++ [message] }

end TurnLog

def registeredSpec (registered : List Value) (name : String) : Option Value :=
  registered.reverse.find? fun spec => (field spec "name").asStr == some name

/-- `allowed` は、ここまでに選んだ名。 -/
def selectDynamicTools (debugText : String → String) (registered : List Value) (allowed : List String) :
    List String → Except String (List Value)
  | [] => .ok []
  | name :: names =>
    if trim name = "" ∨ name ≠ trim name then
      .error ("invalid dynamic tool name in policy: " ++ debugText name)
    else if name ∈ allowed then .error ("duplicate dynamic tool in policy: " ++ name)
    else
      match registeredSpec registered name with
      | none => .error ("unknown dynamic tool in policy: " ++ name)
      | some spec => (selectDynamicTools debugText registered (name :: allowed) names).map (spec :: ·)

def resolveDynamicTools (debugText : String → String) (registered : List Value) :
    ToolPolicy → Except String (List Value × List String)
  | .none => .ok ([], [])
  | .namedSet requested =>
    if requested.isEmpty then .error "dynamic tool policy named set must not be empty"
    else (selectDynamicTools debugText registered [] requested).map (·, requested)

abbrev Talk (α : Type) := ExceptT String (Session (Wire (Except String Value) TurnLog)) α

def failing (act : TurnLog → Option String × TurnLog) : Talk Unit :=
  ExceptT.mk (Session.act fun log =>
    match act log with
    | (none, log') => (.ok (), log')
    | (some error, log') => (.error error, log'))

def sendRequest (env : AppServerEnv) (id : Nat) (method : String) (params : Value) : Talk Unit :=
  failing (TurnLog.write env (requestMessage id method params))

def sendNotification (env : AppServerEnv) (method : String) : Talk Unit :=
  failing (TurnLog.write env (notificationMessage method))

def errorText (error : Value) : String := ((field error "message").asStr).getD "unknown error"

def acceptResponse (expectedId : Nat) (method : String) (response : Value) : Except String Value :=
  if (messageId response).asU64 ≠ some expectedId then
    .error ("codex app server " ++ method ++ " response id mismatch")
  else
    match response.get "error" with
    | some error => .error ("codex app server " ++ method ++ " failed: " ++ errorText error)
    | none => .ok (responseResult response)

def responseStep (expectedId : Nat) (method : String) (s : Unit × TurnLog) :
    Except String Value → Verdict (Unit × TurnLog) (Except String Value)
  | .error error => .done (.error error) s
  | .ok response =>
    if isNotification response then .next ((), s.2.readResponse response)
    else .done (acceptResponse expectedId method response) ((), s.2.readResponse response)

def readResponse (expectedId : Nat) (method : String) : Talk Value :=
  ExceptT.mk (Session.reading (responseStep expectedId method) ())

/-! ## 発話の間 -/

def dynamicToolFailure (message : String) : Value :=
  .object [("success", .bool false),
    ("contentItems", .arr [.object [("type", .str "inputText"), ("text", .str message)]])]

def normalizeDynamicToolOutput (output : Value) : Value :=
  if (field output "success").asBool.isSome && (field output "contentItems").asArr.isSome then output
  else dynamicToolFailure "dynamic tool handler returned an invalid response"

def toolToRun (threadId turnId : String) (allowed : List String) (message : Value) : Except String String :=
  if namesTurn threadId turnId (params message) then
    let tool := (calledTool (params message)).getD ""
    if tool = "" then .error "tool call missing tool name"
    else if tool ∉ allowed then .error ("dynamic tool denied by task policy: " ++ tool)
    else .ok tool
  else .error "tool call thread or turn did not match active turn"

def respondToToolCall (env : AppServerEnv) (context : CodexDynamicToolContext) (allowed : List String)
    (threadId turnId : String) (message : Value) (log : TurnLog) : Option String × TurnLog :=
  match toolToRun threadId turnId allowed message with
  | .error refusal =>
    log.write env (responseMessage message (normalizeDynamicToolOutput (dynamicToolFailure refusal)))
  | .ok tool =>
    let called := log.call env ⟨context, tool, field (params message) "arguments"⟩
    called.2.write env (responseMessage message (normalizeDynamicToolOutput called.1))

def isUnsupportedInteractionRequest (method : String) : Bool :=
  let method := toAsciiLowercase method
  containsChars "approval" method || containsChars "requestapproval" method || containsChars "userinput" method
    || containsChars "requestuserinput" method || containsChars "user-input" method
    || containsChars "permission" method || containsChars "elicitation" method

def unsupportedInteractionMessage : String :=
  "Codeoff does not support interactive approval, permission, user-input, or elicitation requests during "
    ++ "channel dispatch."

def respondToUnsupportedInteraction (env : AppServerEnv) (threadId turnId method : String) (message : Value)
    (log : TurnLog) : Option String × TurnLog :=
  log.write env (responseMessage message (.object [
    ("method", .str (method ++ "/response")), ("threadId", .str threadId), ("turnId", .str turnId),
    ("approved", .bool false), ("accepted", .bool false), ("granted", .bool false), ("success", .bool false),
    ("message", .str unsupportedInteractionMessage)]))

structure TurnState where
  finalText : Option String
  agentMessagePhases : List (String × Option String)

def TurnState.empty : TurnState := ⟨none, []⟩

def TurnState.phase (state : TurnState) (itemId : String) : Option String :=
  ((state.agentMessagePhases.find? fun entry => entry.1 == itemId).map Prod.snd).join

def startedAgentMessage (params : Value) : Option (String × Option String) :=
  let item := field params "item"
  if (field item "type").asStr ≠ some "agentMessage" then none
  else (field item "id").asStr.map fun itemId => (itemId, (field item "phase").asStr)

def observeStartedAgentMessage (threadId turnId : String) (params : Value) (state : TurnState) (log : TurnLog) :
    TurnState × TurnLog :=
  match startedAgentMessage params with
  | none => (state, log)
  | some (itemId, phase) =>
    ({ state with agentMessagePhases := (itemId, phase) :: state.agentMessagePhases },
      log.observe (.agentMessageStarted threadId turnId itemId phase))

def observeAgentMessageDelta (threadId turnId : String) (params : Value) (state : TurnState) (log : TurnLog) :
    TurnLog :=
  match (field params "itemId").asStr, (field params "delta").asStr with
  | some itemId, some delta => log.observe (.agentMessageDelta threadId turnId itemId (state.phase itemId) delta)
  | _, _ => log

def finalAgentText (item : Value) : Option String :=
  if (field item "type").asStr ≠ some "agentMessage" then none
  else
    match (field item "text").asStr.map trim with
    | none => none
    | some text =>
      if text = "" then none
      else if (field item "phase").asStr = some "final_answer" ∨ (field item "phase").asStr = none then some text
      else none

def finalAgentTextFromItems (items : Value) : Option String :=
  (items.asArr.getD []).reverse.findSome? finalAgentText

def turnResult (turn : Value) (finalText : Option String) : Except String AgentTaskResult :=
  let status := (field turn "status").asStr.getD "unknown"
  if status = "completed" then
    match finalText <|> finalAgentTextFromItems (field turn "items") with
    | some text => .ok (.draft text none)
    | none => .ok (.acceptedDispatch none)
  else if status = "failed" then .error ("codex app server turn failed: " ++ errorText (field turn "error"))
  else if status = "interrupted" then .error "codex app server turn interrupted"
  else .error ("codex app server turn completed with unexpected status: " ++ status)

/-- 発話の終わりを待つ者から見た文。 -/
inductive TurnMessage where
  | failed (error : Value)
  | toolCall
  | unsupported (method : String)
  | started
  | delta
  | itemCompleted
  | turnCompleted
  | ignored

def turnMessage (threadId turnId : String) (message : Value) : TurnMessage :=
  match message.get "error", method message with
  | some error, _ => .failed error
  | none, none => .ignored
  | none, some m =>
    if m = "item/tool/call" then .toolCall
    else if isUnsupportedInteractionRequest m then .unsupported m
    else if m = "item/started" ∧ namesTurn threadId turnId (params message) then .started
    else if m = "item/agentMessage/delta" ∧ namesTurn threadId turnId (params message) then .delta
    else if m = "item/completed" ∧ namesTurn threadId turnId (params message) then .itemCompleted
    else if m = "turn/completed" ∧ namesEndedTurn threadId turnId (params message) then .turnCompleted
    else .ignored

def answered (state : TurnState) : Option String × TurnLog → Verdict (TurnState × TurnLog) (Except String AgentTaskResult)
  | (none, log) => .next (state, log)
  | (some error, log) => .done (.error error) (state, log)

def turnStep (env : AppServerEnv) (context : CodexDynamicToolContext) (allowed : List String)
    (threadId turnId : String) (s : TurnState × TurnLog) :
    Except String Value → Verdict (TurnState × TurnLog) (Except String AgentTaskResult)
  | .error error => .done (.error error) s
  | .ok message =>
    let log := s.2.hear message
    match turnMessage threadId turnId message with
    | .failed error => .done (.error ("codex app server turn failed: " ++ errorText error)) (s.1, log)
    | .toolCall => answered s.1 (respondToToolCall env context allowed threadId turnId message log)
    | .unsupported m => answered s.1 (respondToUnsupportedInteraction env threadId turnId m message log)
    | .started => .next (observeStartedAgentMessage threadId turnId (params message) s.1 log)
    | .delta => .next (s.1, observeAgentMessageDelta threadId turnId (params message) s.1 log)
    | .itemCompleted =>
      .next ({ s.1 with finalText := s.1.finalText <|> finalAgentText (field (params message) "item") }, log)
    | .turnCompleted => .done (turnResult (field (params message) "turn") s.1.finalText) (s.1, log)
    | .ignored => .next (s.1, log)

def waitForTerminalTurn (env : AppServerEnv) (context : CodexDynamicToolContext) (allowed : List String)
    (threadId turnId : String) : Talk AgentTaskResult :=
  ExceptT.mk (Session.reading (turnStep env context allowed threadId turnId) TurnState.empty)

def threadStartParams (ephemeralThreads : Bool) (dynamicTools : List Value) : Value :=
  .object ([("ephemeral", .bool ephemeralThreads)]
    ++ if dynamicTools.isEmpty then [] else [("dynamicTools", .arr dynamicTools)])

def isStaleResumeThreadError (error : String) : Bool :=
  containsChars " is archived" error.toList || containsChars "no rollout found for thread id" error.toList

def initializeParams (version : String) (dynamicTools : List Value) : Value :=
  .object ([("clientInfo", .object [("name", .str "codeoff"), ("version", .str version)])]
    ++ if dynamicTools.isEmpty then [] else [("capabilities", .object [("experimentalApi", .bool true)])])

def startThread (env : AppServerEnv) (dynamicTools : List Value) (id : Nat) : Talk Value := do
  sendRequest env id "thread/start" (threadStartParams env.ephemeralThreads dynamicTools)
  readResponse id "thread/start"

/-- 会話を再開する。古くて再開できない会話は、新しく始める。 -/
def resumeThread (env : AppServerEnv) (dynamicTools : List Value) (threadId : String) :
    Talk (Value × String × Nat) := do
  sendRequest env 2 "thread/resume" (.object [("threadId", .str threadId)])
  tryCatch
    (do
      let thread ← readResponse 2 "thread/resume"
      return (thread, "thread/resume", 3))
    fun error =>
      if isStaleResumeThreadError error then do
        let thread ← startThread env dynamicTools 3
        return (thread, "thread/start", 4)
      else throw error

def openThread (env : AppServerEnv) (dynamicTools : List Value) (request : CodexAppServerRequest) :
    Talk (String × Nat) := do
  sendRequest env 1 "initialize" (initializeParams env.version dynamicTools)
  let _ ← readResponse 1 "initialize"
  sendNotification env "initialized"
  let (thread, threadMethod, turnRequestId) ←
    match request.resumeThreadId with
    | some threadId => resumeThread env dynamicTools threadId
    | none => startThread env dynamicTools 2 >>= fun thread => pure (thread, "thread/start", 3)
  match (field (field thread "thread") "id").asStr with
  | some threadId => return (threadId, turnRequestId)
  | none => throw ("codex app server " ++ threadMethod ++ " response missing thread.id")

def turnParams (threadId : String) (request : CodexAppServerRequest) : Value :=
  .object [("threadId", .str threadId), ("clientUserMessageId", .str request.conversationId),
    ("input", .arr [.object [("type", .str "text"), ("text", .str request.prompt)]])]

def runTurn (env : AppServerEnv) (request : CodexAppServerRequest) (allowed : List String) (threadId : String)
    (turnRequestId : Nat) : Talk AgentTaskResult := do
  sendRequest env turnRequestId "turn/start" (turnParams threadId request)
  let turnStart ← readResponse turnRequestId "turn/start"
  match startedTurn turnStart with
  | none => throw "codex app server turn/start response missing turn.id"
  | some turnId =>
    let result ← waitForTerminalTurn env request.dynamicToolContext allowed threadId turnId
    return result.withCodexThreadId threadId

def startJsonlTurn (env : AppServerEnv) (request : CodexAppServerRequest) : Talk AgentTaskResult := do
  let (dynamicTools, allowed) ←
    ExceptT.mk (pure (resolveDynamicTools env.debugText (env.toolSpecs request.dynamicToolContext) request.toolPolicy))
  match env.spawn with
  | some error => throw error
  | none =>
    let (threadId, turnRequestId) ← openThread env dynamicTools request
    runTurn env request allowed threadId turnRequestId

end Codeoff.Codex
