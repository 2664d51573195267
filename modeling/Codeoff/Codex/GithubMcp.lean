import Codeoff.Codex.Message

/-!
# GitHub の道具の代理

監督者が持つ、読み取りだけの道具の口。準備のたびに道具の一覧を確かめ、確かめた道具だけを呼び出す。
-/

namespace Codeoff.Codex

open Codeoff.Core Codeoff.Json

def expectedGithubTools : List String := ["get_me", "issue_read", "list_issues", "search_issues", "search_orgs"]

def githubMcpName : String := "github"

def githubMcpServerInfoName : String := "github-mcp-server"

def githubMcpServerVersion : String := "1.6.0"

def githubMcpHealthTool : String := "get_me"

def maxHttpMessageBytes : Nat := 256 * 1024

def maxToolArgumentBytes : Nat := 32 * 1024

def maxToolResultBytes : Nat := 64 * 1024

def safe (code : String) : String := "scheduled_github_mcp_" ++ code

structure McpState where
  nextId : Nat
  sessionId : Option String
  toolSpecs : List Value

/-- 読み終えた HTTP の答え。`body` は `decode_json_body` の結果である。 -/
structure HttpResponse where
  status : Nat
  sessionId : Option String
  body : Except String Value

/-- 代理の側。`posted` は送った文で、送れなかったものも入る。 -/
structure GithubSide where
  state : McpState
  posted : List Value

/-- `post n` は n 番目の往復の答え。 -/
structure GithubEnv where
  version : String
  post : Nat → Except String HttpResponse

structure ScheduledMcpAttestation where
  toolSpecs : List Value
  health : Value

abbrev Github (α : Type) := ExceptT String (StateM GithubSide) α

def exchange (env : GithubEnv) (body : Value) : Github HttpResponse :=
  ExceptT.mk fun side => (env.post side.posted.length, { side with posted := side.posted ++ [body] })

def modifyState (f : McpState → McpState) : Github Unit :=
  ExceptT.mk fun side => (.ok (), { side with state := f side.state })

def nextRequestId : Github Nat :=
  ExceptT.mk fun side =>
    if side.state.nextId < u64Max then
      (.ok side.state.nextId, { side with state := { side.state with nextId := side.state.nextId + 1 } })
    else (.error (safe "request_id_exhausted"), side)

def rpc (env : GithubEnv) (method : String) (params : Value) : Github Value := do
  let id ← nextRequestId
  let response ← exchange env (requestMessage id method params)
  if method = "initialize" then
    modifyState fun state => { state with sessionId := response.sessionId }
  if response.status ≠ 200 then throw (safe "http_rejected")
  let body ← ExceptT.mk (pure response.body)
  if (messageId body).asU64 ≠ some id ∨ hasError body then throw (safe "rpc_rejected")
  match body.get "result" with
  | some result => return result
  | none => throw (safe "rpc_result_missing")

def notification (env : GithubEnv) (method : String) : Github Unit := do
  let response ← exchange env
    (.object [("jsonrpc", .str "2.0"), ("method", .str method), ("params", .obj [])])
  if response.status = 200 ∨ response.status = 202 ∨ response.status = 204 then return
  else throw (safe "notification_rejected")

def toolName (tool : Value) : Option String := (field tool "name").asStr

def attestedSpec (tool : Value) : Except String Value :=
  match toolName tool with
  | none => .error (safe "tool_inventory_invalid")
  | some name =>
    let schema := field tool "inputSchema"
    match (field tool "description").asStr with
    | none => .error (safe "tool_not_read_only")
    | some description =>
      if (field (field tool "annotations") "readOnlyHint").asBool ≠ some true ∨ schema.asObj.isNone
          ∨ 4 * 1024 < byteLen description ∨ 16 < jsonDepth schema ∨ 16 * 1024 < byteLen schema.render then
        .error (safe "tool_not_read_only")
      else .ok (.object [("name", .str name), ("description", .str description), ("inputSchema", schema)])

def attestedSpecs : List Value → Except String (List Value)
  | [] => .ok []
  | tool :: tools => do
    let spec ← attestedSpec tool
    let specs ← attestedSpecs tools
    return spec :: specs

def sameNames (left right : List String) : Bool := left.all (· ∈ right) && right.all (· ∈ left)

/-- 一覧が、求める道具とちょうど一致し、どれも読み取りだけであること。 -/
def attestTools (expected : List String) (listed : Value) : Except String (List Value) :=
  if !(field listed "nextCursor").isNull then .error (safe "tool_inventory_paginated")
  else
    match (field listed "tools").asArr with
    | none => .error (safe "tool_inventory_invalid")
    | some tools =>
      if sameNames (tools.filterMap toolName) expected = false ∨ tools.length ≠ expected.length then
        .error (safe "tool_inventory_mismatch")
      else do
        let specs ← attestedSpecs tools
        let sorted := specs.mergeSort fun left right => decide ((toolName left).getD "" ≤ (toolName right).getD "")
        if maxHttpMessageBytes < byteLen (Value.arr sorted).render then .error (safe "tool_schema_too_large")
        else .ok sorted

def emptyList (listed : Value) (key failure : String) : Except String Unit :=
  if (field listed key).asArr.any List.isEmpty ∧ (field listed "nextCursor").isNull then .ok ()
  else .error (safe failure)

def initializeMcpParams (version : String) : Value :=
  .object [("protocolVersion", .str "2025-06-18"), ("capabilities", .obj []),
    ("clientInfo", .object [("name", .str "codeoff-scheduler"), ("version", .str version)])]

def checkServerIdentity (initialized : Value) : Except String Unit :=
  let serverInfo := field initialized "serverInfo"
  if (field serverInfo "name").asStr ≠ some githubMcpServerInfoName
      ∨ (field serverInfo "version").asStr ≠ some githubMcpServerVersion then
    .error (safe "server_identity_mismatch")
  else .ok ()

def checked {α : Type} (result : Except String α) : Github α := ExceptT.mk (pure result)

def attest (env : GithubEnv) (expected : List String) : Github ScheduledMcpAttestation := do
  modifyState fun _ => ⟨1, none, []⟩
  let initialized ← rpc env "initialize" (initializeMcpParams env.version)
  checked (checkServerIdentity initialized)
  notification env "notifications/initialized"
  let listed ← rpc env "tools/list" (.obj [])
  let specs ← checked (attestTools expected listed)
  let resources ← rpc env "resources/list" (.obj [])
  checked (emptyList resources "resources" "resources_not_empty")
  let templates ← rpc env "resources/templates/list" (.obj [])
  checked (emptyList templates "resourceTemplates" "resource_templates_not_empty")
  let health ← rpc env "tools/call" (.object [("name", .str githubMcpHealthTool), ("arguments", .obj [])])
  modifyState fun state => { state with toolSpecs := specs }
  return ⟨specs, health⟩

def currentSpecs : Github (List Value) := ExceptT.mk fun side => (.ok side.state.toolSpecs, side)

def callTool (env : GithubEnv) (tool : String) (arguments : Value) : Github Value := do
  if maxToolArgumentBytes < byteLen arguments.render ∨ arguments.asObj.isNone then throw (safe "arguments_invalid")
  let specs ← currentSpecs
  if specs.all fun spec => toolName spec ≠ some tool then throw (safe "tool_denied")
  let result ← rpc env "tools/call" (.object [("name", .str tool), ("arguments", arguments)])
  if maxToolResultBytes < byteLen result.render ∨ (field result "isError").asBool = some true then
    throw (safe "tool_failed")
  return result

end Codeoff.Codex
