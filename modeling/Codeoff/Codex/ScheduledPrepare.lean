import Codeoff.Codex.ScheduledTurn

/-!
# 予定の実行の準備

依頼と許可を確かめ、回線を開き、App Server と道具の口を確かめる。回線を開いた後の失敗は、後始末をしてから返す。
-/

namespace Codeoff.Codex

open Codeoff.Control Codeoff.Core Codeoff.Json Codeoff.Runtime

def readOnlyTool (entry : String × Value) : Bool :=
  toolName entry.2 == some entry.1 && (field (field entry.2 "annotations") "readOnlyHint").asBool == some true

def inventorySchema (entry : String × Value) : Value :=
  .object [("name", .str entry.1),
    ("description", .str ((field entry.2 "description").asStr.getD "GitHub read-only tool")),
    ("inputSchema", field entry.2 "inputSchema")]

def attestMcpTools (tools : List (String × Value)) : Except ScheduledFailure Unit :=
  if sameNames (tools.map Prod.fst) expectedGithubTools = false then
    .error (capability "github_mcp_tool_inventory_mismatch")
  else if tools.all readOnlyTool = false then .error (capability "github_mcp_tool_not_attested_read_only")
  else
    let schemas := Value.arr (tools.map inventorySchema)
    if maxJsonlMessageBytes < byteLen schemas.render ∨ 16 < jsonDepth schemas then
      .error (capability "github_mcp_tool_schema_exceeds_limit")
    else .ok ()

def attestMcpServer (server : Value) : Except ScheduledFailure Unit :=
  let serverInfo := field server "serverInfo"
  if toolName server ≠ some githubMcpName then .error (capability "unexpected_mcp_server")
  else if (field server "authStatus").asStr ≠ some "bearerToken" then
    .error (capability "github_mcp_bearer_channel_auth_missing")
  else if (field serverInfo "name").asStr ≠ some githubMcpServerInfoName
      ∨ (field serverInfo "version").asStr ≠ some githubMcpServerVersion then
    .error (capability "github_mcp_server_identity_or_version_mismatch")
  else if (field server "resources").asArr.any List.isEmpty = false
      ∨ (field server "resourceTemplates").asArr.any List.isEmpty = false then
    .error (capability "github_mcp_resources_are_not_allowed")
  else
    match (field server "tools").asObj with
    | none => .error (capability "github_mcp_tool_inventory_missing")
    | some tools => attestMcpTools tools

def attestMcpInventory (inventory : Value) : Except ScheduledFailure Unit :=
  if !(field inventory "nextCursor").isNull then
    .error (capability "mcp_inventory_exceeded_single_exact_page")
  else
    match (field inventory "data").asArr with
    | none => .error (capability "mcp_inventory_missing_data")
    | some [server] => attestMcpServer server
    | some _ => .error (capability "mcp_inventory_must_contain_exactly_github")

def healthFields : List String := ["_meta", "content", "isError", "structuredContent"]

def isNonemptyText (item : Value) : Bool :=
  (field item "type").asStr == some "text" && (field item "text").asStr.any (trim · ≠ "")

def attestHealthContent (health : Value) : Except ScheduledFailure Unit :=
  match (field health "content").asArr.filter fun content => !content.isEmpty && content.length ≤ 16 with
  | none => .error (capability "github_mcp_health_content_missing")
  | some content =>
    if content.any isNonemptyText || (field health "structuredContent").asObj.any fun identity => !identity.isEmpty then
      .ok ()
    else .error (capability "github_mcp_health_identity_missing")

def attestMcpHealth (health : Value) : Except ScheduledFailure Unit :=
  if maxMcpHealthResultBytes < byteLen health.render ∨ maxMcpHealthResultDepth < jsonDepth health then
    .error (capability "github_mcp_health_result_exceeds_hard_limit")
  else if health.asObj.any (fun members => members.all fun m => m.1 ∈ healthFields) = false
      ∨ (health.get "content").isNone then
    .error (capability "github_mcp_health_response_malformed")
  else
    match (health.get "isError").map Value.asBool with
    | some (some true) => .error (capability "github_mcp_health_reported_error")
    | some none => .error (capability "github_mcp_health_response_malformed")
    | _ => attestHealthContent health

/-! ## 回線の上の準備 -/

structure PrepareChecks where
  validateRequest : Option ScheduledFailure
  validateIsolationPermit : Option ScheduledFailure
  transportFactory : Option String
  attestRuntime : Option ScheduledFailure
  runDeadlineFits : Bool

structure PreparedCodexExecution where
  request : ScheduledCodexRequest
  githubMcp : Bool
  threadId : String

abbrev Preparation (α : Type) := ScheduledTalk ScheduledExecutionResult α

/-- 後始末をしてから、断る。後始末ができなければ、成否はわからない。 -/
def rejectPreparation {α : Type} (env : ScheduledEnv) (result : ScheduledExecutionResult) : Preparation α :=
  ExceptT.mk do
    let shutdown ← (boundedShutdown env).run
    match shutdown with
    | .ok () => return .error result
    | .error f => return .error (.transportLost f)

/-- 失敗を `result` に訳して、断る。 -/
def orReject {α ε : Type} (env : ScheduledEnv) (result : ε → ScheduledExecutionResult) (talk : ScheduledTalk ε α) :
    Preparation α :=
  ExceptT.mk do
    let outcome ← talk.run
    match outcome with
    | .ok a => return .ok a
    | .error e => (rejectPreparation env (result e)).run

def githubSide {α : Type} (act : Github α) : ScheduledTalk ScheduledFailure α :=
  ExceptT.mk (Session.act fun log =>
    let answer := act.run log.github
    (match answer.1 with
      | .ok a => .ok a
      | .error error => .error (capability error), { log with github := answer.2 }))

def noteAttested (specs : List Value) : ScheduledTalk ScheduledFailure Unit :=
  ExceptT.mk (Session.act fun log => (.ok (), { log with attested := log.attested ++ [specs] }))

def attestSupervisorGithubMcp (env : ScheduledEnv) (githubMcp : Bool) :
    ScheduledTalk ScheduledFailure (Option ScheduledMcpAttestation) :=
  if githubMcp then do
    let attestation ← githubSide (attest env.github expectedGithubTools)
    noteAttested attestation.toolSpecs
    return some attestation
  else return none

def scheduledInitializeParams (version : String) (supervised : Bool) : Value :=
  .object ([("clientInfo", .object [("name", .str "codeoff-scheduler"), ("version", .str version)])]
    ++ if supervised then [("capabilities", .object [("experimentalApi", .bool true)])] else [])

def childPath : String := "/usr/local/bin:/usr/bin:/bin"

def childLocale : String := "C.UTF-8"

def shellEnvironmentPolicy : Value :=
  .object [("inherit", .str "none"), ("ignore_default_excludes", .bool false),
    ("include_only", .arr [.str "PATH", .str "LANG", .str "LC_ALL"]),
    ("set", .object [("PATH", .str childPath), ("LANG", .str childLocale), ("LC_ALL", .str childLocale)])]

def scheduledThreadParams (request : ScheduledCodexRequest) (attestation : Option ScheduledMcpAttestation) : Value :=
  .object ([("approvalPolicy", .str "never"), ("cwd", .str request.cwd), ("ephemeral", .bool true),
      ("sandbox", .str "read-only"),
      ("config", .object [("web_search", .str "disabled"),
        ("features", .object [("shell_tool", .bool false), ("unified_exec", .bool false)]),
        ("shell_environment_policy", shellEnvironmentPolicy)])]
    ++ match attestation with
      | none => []
      | some attestation => [("dynamicTools", .arr attestation.toolSpecs)])

def attestedBy (env : ScheduledEnv) (result : Except ScheduledFailure Unit) : Preparation Unit :=
  orReject env .preflightRejected (ExceptT.mk (pure result))

def sendInitialized (env : ScheduledEnv) : Preparation Unit :=
  orReject env .transportLost (sendScheduled env (notificationMessage "initialized"))

def attestServerGithubMcp (env : ScheduledEnv) (threadId : String) : Preparation Unit := do
  let inventory ← orReject env protocolFailure (scheduledRequest env 3 "mcpServerStatus/list"
    (.object [("threadId", .str threadId), ("detail", .str "full"), ("limit", .int 100)]))
  attestedBy env (attestMcpInventory inventory)
  let health ← orReject env protocolFailure (scheduledRequest env 4 "mcpServer/tool/call"
    (.object [("arguments", .obj []), ("server", .str githubMcpName), ("threadId", .str threadId),
      ("tool", .str githubMcpHealthTool)]))
  attestedBy env (attestMcpHealth health)

def prepareProtocol (env : ScheduledEnv) (request : ScheduledCodexRequest) (githubMcp : Bool) :
    Preparation PreparedCodexExecution := do
  let attestation ← orReject env .preflightRejected (attestSupervisorGithubMcp env githubMcp)
  let _ ← orReject env protocolFailure
    (scheduledRequest env 1 "initialize" (scheduledInitializeParams env.version attestation.isSome))
  sendInitialized env
  let thread ← orReject env protocolFailure
    (scheduledRequest env 2 "thread/start" (scheduledThreadParams request attestation))
  match (field (field thread "thread") "id").asStr with
  | none => rejectPreparation env (protocolFailure (capability "thread_start_missing_thread_id"))
  | some threadId =>
    match attestation with
    | some attestation => attestedBy env (attestMcpHealth attestation.health)
    | none => attestServerGithubMcp env threadId
    return ⟨request, githubMcp, threadId⟩

def dropPreparation {α : Type} (env : ScheduledEnv) (result : ScheduledExecutionResult) : Preparation α :=
  ExceptT.mk do
    let _ ← (boundedShutdown env).run
    return .error result

def prepare (env : ScheduledEnv) (checks : PrepareChecks) (request : ScheduledCodexRequest) (githubMcp : Bool) :
    Preparation PreparedCodexExecution :=
  match checks.validateRequest, checks.validateIsolationPermit, checks.transportFactory with
  | some f, _, _ => throw (.preflightRejected f)
  | none, some f, _ => throw (.preflightRejected f)
  | none, none, some error => throw (.preflightRejected (failure .transport error))
  | none, none, none =>
    match checks.attestRuntime with
    | some f => dropPreparation env (.preflightRejected f)
    | none =>
      if checks.runDeadlineFits then prepareProtocol env request githubMcp
      else dropPreparation env (.preflightRejected (preflight "scheduled_run_deadline_overflow"))

namespace PreparedCodexExecution

/-- `cancelled` は、始める前に見た旗。 -/
def execute (env : ScheduledEnv) (cancelled : Bool) (prepared : PreparedCodexExecution) :
    Session (Wire Poll ScheduledLog) ScheduledExecutionResult :=
  executePrepared env prepared.request prepared.githubMcp prepared.threadId cancelled

def shutdownWithoutExecute (env : ScheduledEnv) : Preparation Unit :=
  ExceptT.mk do
    let shutdown ← (boundedShutdown env).run
    match shutdown with
    | .ok () => return .ok ()
    | .error f => return .error (.transportLost f)

end PreparedCodexExecution

end Codeoff.Codex
