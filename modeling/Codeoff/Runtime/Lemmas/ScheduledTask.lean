import Codeoff.Runtime.Lemmas.RemoteCodec
import Codeoff.Runtime.ScheduledTask

/-!
# 作業の往復

組み立てた作業は、権限の指示と前回の成功をそのまま持つ。
-/

namespace Codeoff.Runtime

open Codeoff.Agent Codeoff.Core Codeoff.Json Codeoff.State

theorem taskFromClaim_ok {claim : ClaimedScheduledRun} {authority : ScheduledPrepareAuthority} {task : AgentTask}
    (h : taskFromClaim claim authority = .ok task) :
    task = {
      taskId := ScheduledPrepareAuthority.scheduledTaskId claim.binding
      instruction := authority.instruction
      source := .scheduledRun claim.binding.jobId claim.binding.runId (toString claim.scheduledFor)
      principal := .service "codeoff-scheduler"
      session := .fresh
      channel := none
      previousSuccess := authority.previousSuccess.map fun content => ⟨content, authority.previousSuccessWasTruncated⟩
      toolPolicy := .none
      feedbackTarget := none } := by
  unfold taskFromClaim at h
  cases hexposed : rejectDynamicToolExposure claim.capability.canonicalJson with
  | error f => simp [hexposed, bind, Except.bind] at h
  | ok accepted =>
    simp only [hexposed, bind, Except.bind] at h
    split_ifs at h
    cases h
    rfl

/-! ## 往復 -/

theorem previousSuccessJson_wf {previous : Option PreviousSuccessContext} : (previousSuccessJson previous).Wf 126 := by
  cases previous with
  | none => exact wf_null
  | some context => exact Value.Wf.object (by simp)

theorem remoteTaskValue_wf {task : AgentTask} {scheduledFor : String} :
    (remoteTaskValue task scheduledFor).Wf maxDepth := by
  have hversion : (Value.int 1).Wf 126 := wf_int (by decide) (by decide)
  exact Value.Wf.object (by simp [previousSuccessJson_wf, hversion])

theorem decodePreviousSuccess_json (previous : Option PreviousSuccessContext) :
    decodePreviousSuccess (previousSuccessJson previous) = some previous := by
  cases previous with
  | none => rfl
  | some context =>
    have hnull : previousSuccessJson (some context) =
        .object [("content", .str context.content), ("was_truncated", .bool context.wasTruncated)] := rfl
    have hshape : exactObject (previousSuccessJson (some context)) ["content", "was_truncated"] "" =
        .ok (previousSuccessJson (some context)) := by
      rw [hnull]
      exact exactObject_object (by simp)
    obtain ⟨members, hmembers⟩ : ∃ members, previousSuccessJson (some context) = .obj members := ⟨_, rfl⟩
    have hdecode : decodePreviousSuccess (previousSuccessJson (some context)) =
        (previousSuccessOf (previousSuccessJson (some context))).map some := by
      rw [hmembers]
      rfl
    rw [hdecode, previousSuccessOf, hshape]
    simp [hnull, get_object, Value.asStr, Value.asBool]

theorem isRemoteTask_some {task : AgentTask} {binding : RunBinding} {scheduledFor : String}
    (h : isRemoteTask task binding = some scheduledFor) :
    task = {
      taskId := task.taskId
      instruction := task.instruction
      source := .scheduledRun binding.jobId binding.runId scheduledFor
      principal := .service "codeoff-scheduler"
      session := .fresh
      channel := none
      previousSuccess := task.previousSuccess
      toolPolicy := .none
      feedbackTarget := none } := by
  obtain ⟨taskId, instruction, source, principal, session, channel, previousSuccess, toolPolicy, feedbackTarget⟩ := task
  unfold isRemoteTask at h
  cases source with
  | scheduledRun jobId runId «for» =>
    simp only at h
    split_ifs at h with hshape
    obtain ⟨rfl, rfl, rfl, rfl, rfl, rfl, rfl⟩ := hshape
    cases h
    rfl
  | channelEvent provider workspaceId eventId dedupeKey reference => cases h
  | trustedOperator requestId => cases h
  | internalService service requestId => cases h

theorem trimmedString_some {object : Value} {field value : String} (h : trimmedString object field = some value) :
    (object.get field).bind Value.asStr = some value ∧ value ≠ "" ∧ value = trim value := by
  obtain ⟨hget, hvalue⟩ := Option.filter_eq_some_iff.mp h
  exact ⟨hget, of_decide_eq_true hvalue⟩

theorem remoteTaskValue_get (task : AgentTask) (scheduledFor : String) :
    (remoteTaskValue task scheduledFor).get "instruction" = some (.str task.instruction) ∧
      (remoteTaskValue task scheduledFor).get "previous_success" = some (previousSuccessJson task.previousSuccess) ∧
      (remoteTaskValue task scheduledFor).get "scheduled_for" = some (.str scheduledFor) ∧
      (remoteTaskValue task scheduledFor).get "task_id" = some (.str task.taskId) := by
  unfold remoteTaskValue
  exact ⟨by rw [get_object (by simp)]; rfl, by rw [get_object (by simp)]; rfl, by rw [get_object (by simp)]; rfl,
    by rw [get_object (by simp)]; rfl⟩

/-- 送った作業の文面を読めば、元の作業に戻る。 -/
theorem decodeScheduledRemoteTask_remoteTaskJson {task decoded : AgentTask} {binding : RunBinding} {encoded : String}
    (hencoded : remoteTaskJson task binding = some encoded)
    (hdecoded : decodeScheduledRemoteTask encoded binding = some decoded) : decoded = task := by
  simp only [remoteTaskJson, Option.map_eq_some_iff] at hencoded
  obtain ⟨scheduledFor, hremote, rfl⟩ := hencoded
  simp only [decodeScheduledRemoteTask, Option.bind_eq_bind, Option.bind_eq_some_iff] at hdecoded
  obtain ⟨value, hparse, -, -, object, hobject, -, -, taskId, htaskId, -, -, previous, hprevious, instruction,
    hinstruction, «for», hfor, htask⟩ := hdecoded
  -- 読んだ値は、書いた値である
  rw [remoteTaskValue_wf.parse_render] at hparse
  obtain rfl : remoteTaskValue task scheduledFor = value := Option.some.inj hparse
  have hshape : exactObject (remoteTaskValue task scheduledFor)
      ["instruction", "previous_success", "scheduled_for", "schema_version", "task_id"] "" =
        .ok (remoteTaskValue task scheduledFor) := exactObject_object (by simp)
  rw [hshape] at hobject
  obtain rfl : remoteTaskValue task scheduledFor = object := Option.some.inj hobject
  obtain ⟨hgetInstruction, hgetPrevious, hgetFor, hgetId⟩ := remoteTaskValue_get task scheduledFor
  have hinstruction := (trimmedString_some hinstruction).1
  have htaskId := (trimmedString_some htaskId).1
  have hfor := (trimmedString_some hfor).1
  rw [hgetInstruction] at hinstruction
  rw [hgetId] at htaskId
  rw [hgetFor] at hfor
  obtain ⟨_, hprevious, hdecode⟩ := hprevious
  rw [hgetPrevious] at hprevious
  cases hinstruction
  cases htaskId
  cases hfor
  cases hprevious
  rw [decodePreviousSuccess_json] at hdecode
  cases hdecode
  rw [isRemoteTask_some hremote]
  exact (Option.some.inj htask).symm

/-- 束縛の作業として送れ、欄に余白のない作業は、そのまま読み戻される。 -/
theorem decodeScheduledRemoteTask_sent {task : AgentTask} {binding : RunBinding} {scheduledFor : String}
    (hremote : isRemoteTask task binding = some scheduledFor) (hid : task.taskId = remoteTaskId binding)
    (htrimmed : ∀ text ∈ [task.taskId, task.instruction, scheduledFor], text ≠ "" ∧ text = trim text)
    (hvalid : task.validate = .ok ()) :
    decodeScheduledRemoteTask (remoteTaskValue task scheduledFor).render binding = some task := by
  have hshape : exactObject (remoteTaskValue task scheduledFor)
      ["instruction", "previous_success", "scheduled_for", "schema_version", "task_id"] "" =
        .ok (remoteTaskValue task scheduledFor) := exactObject_object (by simp)
  obtain ⟨hinstruction, hprevious, hfor, htaskId⟩ := remoteTaskValue_get task scheduledFor
  have hversion : (remoteTaskValue task scheduledFor).get "schema_version" = some (.int 1) := by
    rw [remoteTaskValue, get_object (by simp)]
    rfl
  have hread {field text : String} (hget : (remoteTaskValue task scheduledFor).get field = some (.str text))
      (hmem : text ∈ [task.taskId, task.instruction, scheduledFor]) :
      trimmedString (remoteTaskValue task scheduledFor) field = some text := by
    rw [trimmedString, hget]
    exact Option.filter_eq_some_iff.mpr ⟨rfl, decide_eq_true (htrimmed text hmem)⟩
  have hsame := isRemoteTask_some hremote
  unfold decodeScheduledRemoteTask
  rw [remoteTaskValue_wf.parse_render]
  simp only [Option.bind_eq_bind, Option.bind_some, guard, hshape, Except.toOption, hversion, hread hinstruction (by simp),
    hread htaskId (by simp), hread hfor (by simp), hprevious, decodePreviousSuccess_json]
  rw [← hsame, if_pos trivial, if_pos asU64_one, if_pos hid]
  simp [hvalid]

end Codeoff.Runtime
