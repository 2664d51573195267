import Codeoff.Agent.Task
import Codeoff.Runtime.RemoteCodec
import Codeoff.Runtime.StartBoundary

/-!
# 実行の作業

引き受けた実行から作業を組み立てる。遠隔の実行では、作業を文面にして送り、受けた側が束縛と照らして読み戻す。
-/

namespace Codeoff.Runtime

open Codeoff.Agent Codeoff.Core Codeoff.Json Codeoff.State

def channelDynamicToolNames : List String :=
  ["channel_reply_to_event", "channel_send_message", "channel_get_thread_context", "channel_get_recent_messages",
    "channel_get_current_event", "channel_get_current_conversation", "channel_get_context_pack",
    "channel_get_delivery_status", "channel_get_message", "channel_get_resource_info", "channel_read_resource_text",
    "channel_download_resource", "channel_search_users", "channel_get_user", "channel_resolve_user",
    "channel_search_channels", "channel_get_channel", "channel_resolve_channel", "channel_list_senders",
    "channel_list_workspaces", "channel_get_connector_status", "channel_reply_to_thread"]

def scheduleDynamicToolNames : List String :=
  ["schedule_create", "schedule_get", "schedule_list", "schedule_update", "schedule_pause", "schedule_resume",
    "schedule_delete"]

mutual
def containsProhibitedTool (prohibited : List String) : Value → Bool
  | .str s => decide (s ∈ prohibited)
  | .arr values => elementsProhibited prohibited values
  | .obj members => membersProhibited prohibited members
  | _ => false

def elementsProhibited (prohibited : List String) : List Value → Bool
  | [] => false
  | v :: vs => containsProhibitedTool prohibited v || elementsProhibited prohibited vs

def membersProhibited (prohibited : List String) : List (String × Value) → Bool
  | [] => false
  | (_, v) :: ms => containsProhibitedTool prohibited v || membersProhibited prohibited ms
end

def PrepareFailure.artifact (message : String) : PrepareFailure := ⟨false, "artifact_validation_failed", message⟩

def PrepareFailure.toolList (message : String) : PrepareFailure := ⟨false, "tool_list_validation_failed", message⟩

def rejectDynamicToolExposure (capabilityJson : String) : Except PrepareFailure Unit :=
  match parse capabilityJson with
  | none => .error (.toolList "scheduled_capability_tool_list_invalid")
  | some capability =>
    if containsProhibitedTool (channelDynamicToolNames ++ scheduleDynamicToolNames) capability then
      .error (.toolList "scheduled_capability_exposes_dynamic_tools")
    else .ok ()

def taskFromClaim (claim : ClaimedScheduledRun) (authority : ScheduledPrepareAuthority) :
    Except PrepareFailure AgentTask := do
  rejectDynamicToolExposure claim.capability.canonicalJson
  if claim.policy.1.maxPromptBytes < byteLen authority.instruction then
    throw (.fatal "scheduled_instruction_exceeds_max_prompt_bytes")
  let task : AgentTask := {
    taskId := ScheduledPrepareAuthority.scheduledTaskId claim.binding
    instruction := authority.instruction
    source := .scheduledRun claim.binding.jobId claim.binding.runId (toString claim.scheduledFor)
    principal := .service "codeoff-scheduler"
    session := .fresh
    channel := none
    previousSuccess := authority.previousSuccess.map fun content => ⟨content, authority.previousSuccessWasTruncated⟩
    toolPolicy := .none
    feedbackTarget := none }
  match task.validate with
  | .error error => throw (.artifact error)
  | .ok () => return task

/-- 枠が運ぶ束縛。数は、枠の幅に収まらなければならない。 -/
def remoteBinding (binding : RunLeaseBinding) (authorityDigest : String) (ready : ReadyFrame) : Option RunBinding :=
  if 0 ≤ binding.attempt ∧ binding.attempt ≤ u32Max ∧ 0 ≤ binding.fence ∧ binding.fence ≤ u64Max then
    some { runId := binding.runId, jobId := binding.jobId, attempt := binding.attempt.toNat
           fenceToken := binding.fence.toNat, authorityDigest := authorityDigest
           profileDigest := ready.profileDigest, deploymentEpoch := ready.deploymentEpoch
           credentialRevision := ready.credentialRevision }
  else none

def isRemoteTask (task : AgentTask) (binding : RunBinding) : Option String :=
  match task.source with
  | .scheduledRun jobId runId scheduledFor =>
    if jobId = binding.jobId ∧ runId = binding.runId ∧ task.session = .fresh ∧ task.channel = none
        ∧ task.feedbackTarget = none ∧ task.toolPolicy = .none
        ∧ task.principal = .service "codeoff-scheduler" then some scheduledFor
    else none
  | _ => none

def previousSuccessJson (previous : Option PreviousSuccessContext) : Value :=
  .ofOption (previous.map fun context =>
    .object [("content", .str context.content), ("was_truncated", .bool context.wasTruncated)])

def remoteTaskValue (task : AgentTask) (scheduledFor : String) : Value :=
  .object [("instruction", .str task.instruction), ("previous_success", previousSuccessJson task.previousSuccess),
    ("scheduled_for", .str scheduledFor), ("schema_version", .int 1), ("task_id", .str task.taskId)]

/-- 作業の文面。失敗は、どれも `ProtocolRejected` である。 -/
def remoteTaskJson (task : AgentTask) (binding : RunBinding) : Option String :=
  (isRemoteTask task binding).map fun scheduledFor => (remoteTaskValue task scheduledFor).render

def trimmedString (object : Value) (field : String) : Option String :=
  ((object.get field).bind Value.asStr).filter fun value => value ≠ "" ∧ value = trim value

def previousSuccessOf (value : Value) : Option PreviousSuccessContext :=
  match exactObject value ["content", "was_truncated"] "" with
  | .error _ => none
  | .ok previous =>
    match (previous.get "content").bind Value.asStr, (previous.get "was_truncated").bind Value.asBool with
    | some content, some wasTruncated => some ⟨content, wasTruncated⟩
    | _, _ => none

/-- `null` は、前回の成功がないことを表す。 -/
def decodePreviousSuccess (value : Value) : Option (Option PreviousSuccessContext) :=
  match value with
  | .null => some none
  | value => (previousSuccessOf value).map some

def remoteTaskId (binding : RunBinding) : String :=
  "scheduled:" ++ binding.runId ++ ":" ++ toString binding.attempt ++ ":" ++ toString binding.fenceToken

/-- 読み戻した作業。失敗は、どれも `InvalidTask` である。 -/
def decodeScheduledRemoteTask (encoded : String) (binding : RunBinding) : Option AgentTask := do
  let value ← parse encoded
  guard (value.render = encoded)
  let object ← (exactObject value
    ["instruction", "previous_success", "scheduled_for", "schema_version", "task_id"] "").toOption
  guard ((object.get "schema_version").bind Value.asU64 = some 1)
  let taskId ← trimmedString object "task_id"
  guard (taskId = remoteTaskId binding)
  let previousSuccess ← (object.get "previous_success").bind decodePreviousSuccess
  let instruction ← trimmedString object "instruction"
  let scheduledFor ← trimmedString object "scheduled_for"
  let task : AgentTask := {
    taskId := taskId
    instruction := instruction
    source := .scheduledRun binding.jobId binding.runId scheduledFor
    principal := .service "codeoff-scheduler"
    session := .fresh
    channel := none
    previousSuccess := previousSuccess
    toolPolicy := .none
    feedbackTarget := none }
  match task.validate with
  | .error _ => none
  | .ok () => some task

end Codeoff.Runtime
