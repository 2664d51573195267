import Codeoff.Codex.Lemmas.ScheduledTools
import Codeoff.Codex.Lemmas.ToolPolicy
import Codeoff.Codex.Theorems.TurnEvents

/-!
# 方針の内の道具

道具は、作業の方針が名づけ、登録されたものに限って動く。
-/

namespace Codeoff.Codex

open Codeoff.Agent Codeoff.Control Codeoff.Json Session

/-! ## 会話の発話 -/

def taskContext (task : AgentTask) : CodexDynamicToolContext := ⟨task.source, task.principal, task.channel⟩

def activeTurn (env : AppServerEnv) (backend : CodexAppServerBackend) (task : AgentTask)
    (w : Wire (Except String Value) TurnLog) : Option (String × String) :=
  match backend.request task with
  | .error _ => none
  | .ok request =>
    match (beginTurn env request).run w with
    | .done (.ok (_, threadId, turnId)) _ => some (threadId, turnId)
    | _ => none

/-- 発話の間に読んだ、いまの発話の、方針にある道具の呼び出し。`id` は見ない。 -/
def askedMessages (env : AppServerEnv) (backend : CodexAppServerBackend) (task : AgentTask)
    (w : Wire (Except String Value) TurnLog) : List Value :=
  match activeTurn env backend task w with
  | none => []
  | some (threadId, turnId) =>
    ((backend.run env task).run w).state.log.heard.drop w.log.heard.length
      |>.filter (asksTool (policyNames task.toolPolicy) threadId turnId)

/-- 方針の内でだけ、道具を知らせ、動かす。要求ごとに、ちょうど一度動かす。 -/
structure WithinPolicy (env : AppServerEnv) (backend : CodexAppServerBackend) (task : AgentTask)
    (w : Wire (Except String Value) TurnLog) : Prop where
  announced : ∀ message ∈ ((backend.run env task).run w).state.log.written.drop w.log.written.length,
    method message = some "thread/start" →
      ∃ tools, PolicyTools (env.toolSpecs (taskContext task)) task.toolPolicy tools ∧ Announces tools message
  permitted : ∀ call ∈ ((backend.run env task).run w).state.log.called.drop w.log.called.length,
    call.context = taskContext task ∧ call.tool ∈ policyNames task.toolPolicy ∧
      ∃ spec ∈ env.toolSpecs (taskContext task), toolName spec = some call.tool
  once : ((backend.run env task).run w).state.log.called.drop w.log.called.length =
    ((askedMessages env backend task w).filter isServerRequest).map (requestedCall (taskContext task))

theorem request_ok {backend : CodexAppServerBackend} {task : AgentTask} {request : CodexAppServerRequest}
    (h : backend.request task = .ok request) :
    request.toolPolicy = task.toolPolicy ∧ request.dynamicToolContext = taskContext task := by
  unfold CodexAppServerBackend.request at h
  cases hvalidate : task.validate with
  | error error => simp [hvalidate, bind, Except.bind] at h
  | ok valid =>
    cases hprompt : renderPrompt task backend.maxPromptBytes backend.previousSuccessContextMaxBytes with
    | error error => simp [hvalidate, hprompt, bind, Except.bind] at h
    | ok prompt =>
      simp only [hvalidate, hprompt, bind, Except.bind, pure, Except.pure, Except.ok.injEq] at h
      subst h
      exact ⟨rfl, rfl⟩

structure TurnRecord (registered : List Value) (task : AgentTask) (asked : List Value) (before after : TurnLog) :
    Prop where
  announced : ∃ more, after.written = before.written ++ more ∧ ∀ message ∈ more, method message = some "thread/start" →
    ∃ tools, PolicyTools registered task.toolPolicy tools ∧ Announces tools message
  called : after.called = before.called ++ asked.map (requestedCall (taskContext task))
  named : ∀ message ∈ asked, ∃ tool, calledTool (params message) = some tool ∧ tool ∈ policyNames task.toolPolicy ∧
    ∃ spec ∈ registered, toolName spec = some tool
  asks : ∀ message ∈ asked, (method message).isSome = true

theorem TurnRecord.opening {registered tools : List Value} {task : AgentTask} {before after : TurnLog}
    (h : Opening tools before after) (htools : PolicyTools registered task.toolPolicy tools) :
    TurnRecord registered task [] before after := by
  obtain ⟨more, hwritten, hall⟩ := h.written
  exact ⟨⟨more, hwritten, fun message hmem _ => ⟨tools, htools, hall message hmem⟩⟩, by simp [h.called], by simp,
    by simp⟩

theorem method_of_isResponse {message : Value} (h : isResponse message = true) : method message = none := by
  simp only [isResponse, Bool.and_eq_true, Option.isNone_iff_eq_none] at h
  exact h.1

theorem TurnRecord.heard {registered tools messages : List Value} {task : AgentTask} {before log after : TurnLog}
    {threadId turnId : String} (h : Opening tools before log)
    (htools : PolicyTools registered task.toolPolicy tools) (hempty : "" ∉ policyNames task.toolPolicy)
    (hheard : HeardAll (taskContext task) (policyNames task.toolPolicy) threadId turnId messages log after) :
    TurnRecord registered task (messages.filter (asksTool (policyNames task.toolPolicy) threadId turnId))
      before after := by
  obtain ⟨more, hwritten, hall⟩ := h.written
  obtain ⟨answers, hanswers, hresponses, -⟩ := hheard.written
  refine ⟨⟨more ++ answers, ?_, ?_⟩, ?_, ?_, ?_⟩
  · rw [hanswers, hwritten, List.append_assoc]
  · intro message hmem hmethod
    rcases List.mem_append.mp hmem with hmem | hmem
    · exact ⟨tools, htools, hall message hmem⟩
    · rw [method_of_isResponse (hresponses message hmem)] at hmethod
      cases hmethod
  · rw [hheard.called, h.called, filterMap_toolCallOf hempty]
  · intro message hmem
    have hasks := (List.mem_filter.mp hmem).2
    simp only [asksTool, Bool.and_eq_true] at hasks
    obtain ⟨tool, htool, hnamed⟩ := (Option.any_eq_true _ _).mp hasks.2
    have hnamed : tool ∈ policyNames task.toolPolicy := by simpa using hnamed
    exact ⟨tool, htool, hnamed, htools.mem_registered hnamed⟩
  · intro message hmem
    have hasks := (List.mem_filter.mp hmem).2
    simp only [asksTool, Bool.and_eq_true, beq_iff_eq] at hasks
    simp [hasks.1.1.2]

theorem awaitTurn_log {env : AppServerEnv} {request : CodexAppServerRequest} {allowed : List String}
    {threadId turnId : String} (w : Wire (Except String Value) TurnLog) :
    ((awaitTurn env request allowed threadId turnId).run w).state.log =
      (waitForTerminalTurn env request.dynamicToolContext allowed threadId turnId w).state.log := by
  rw [awaitTurn, except_bind_apply]
  change _ = ((waitForTerminalTurn env request.dynamicToolContext allowed threadId turnId).run w).state.log
  cases (waitForTerminalTurn env request.dynamicToolContext allowed threadId turnId).run w with
  | waiting v => rfl
  | done outcome v => cases outcome <;> rfl

theorem run_record (env : AppServerEnv) (backend : CodexAppServerBackend) (task : AgentTask)
    (w : Wire (Except String Value) TurnLog) :
    TurnRecord (env.toolSpecs (taskContext task)) task (askedMessages env backend task w) w.log
      ((backend.run env task).run w).state.log := by
  unfold askedMessages activeTurn CodexAppServerBackend.run
  have hnothing : TurnRecord (env.toolSpecs (taskContext task)) task [] w.log w.log :=
    ⟨⟨[], by simp, by simp⟩, by simp, by simp, by simp⟩
  cases hrequest : backend.request task with
  | error error => exact hnothing
  | ok request =>
    obtain ⟨hpolicy, hcontext⟩ := request_ok hrequest
    simp only
    rw [startJsonlTurn_eq, beginTurn_run, hpolicy, hcontext]
    cases hresolved : resolveDynamicTools env.debugText (env.toolSpecs (taskContext task)) task.toolPolicy with
    | error error => exact hnothing
    | ok resolved =>
      obtain ⟨tools, allowed⟩ := resolved
      obtain ⟨rfl, htools, hempty⟩ := resolveDynamicTools_ok hresolved
      have hopening := @beginResolved_opens env request tools w.log (policyNames task.toolPolicy) w .refl
      have hallowed := @beginResolved_allowed env request tools (policyNames task.toolPolicy) w w
      simp only
      cases hbegin : (beginResolved env request tools (policyNames task.toolPolicy)).run w with
      | waiting v => rw [hbegin] at hopening; exact .opening hopening htools
      | done outcome v =>
        rw [hbegin] at hopening
        cases outcome with
        | error error => exact .opening hopening htools
        | ok turn =>
          obtain ⟨allowed, threadId, turnId⟩ := turn
          obtain rfl : allowed = policyNames task.toolPolicy := hallowed _ v trivial hbegin _ rfl
          obtain ⟨messages, hheard⟩ := @waitForTerminalTurn_heard env (taskContext task)
              (policyNames task.toolPolicy) threadId turnId v
          simp only [awaitTurn_log, hcontext, hheard.heard]
          have hprogress : Opening tools w.log v.log := hopening
          rw [hprogress.heard, List.drop_left]
          exact .heard hprogress htools hempty hheard

/-- 呼び出す道具の条件は、`id` の有無を除けば、必ず守られる。 -/
theorem withinPolicy_iff (env : AppServerEnv) (backend : CodexAppServerBackend) (task : AgentTask)
    (w : Wire (Except String Value) TurnLog) :
    WithinPolicy env backend task w ↔
      ∀ message ∈ askedMessages env backend task w, (messageId message).isNull = false := by
  have h := run_record env backend task w
  obtain ⟨more, hwritten, hall⟩ := h.announced
  constructor
  · rintro ⟨-, -, honce⟩ message hmem
    rw [h.called, List.drop_left] at honce
    have hlength := congrArg List.length honce
    simp only [List.length_map] at hlength
    have hfilter : (askedMessages env backend task w).filter isServerRequest = askedMessages env backend task w :=
      List.filter_sublist.eq_of_length hlength.symm
    rw [← hfilter] at hmem
    exact isNull_of_isServerRequest (List.mem_filter.mp hmem).2
  · intro hids
    have hfilter : (askedMessages env backend task w).filter isServerRequest = askedMessages env backend task w := by
      rw [List.filter_eq_self]
      intro message hmem
      simp [isServerRequest, hids message hmem, h.asks message hmem]
    refine ⟨?_, ?_, ?_⟩
    · rw [hwritten, List.drop_left]
      exact hall
    · rw [h.called, List.drop_left]
      intro call hcall
      obtain ⟨message, hmem, rfl⟩ := List.mem_map.mp hcall
      obtain ⟨tool, htool, hnamed⟩ := h.named message hmem
      simpa [requestedCall, htool] using hnamed
    · rw [h.called, List.drop_left, hfilter]

/-- 準備の後の発話が呼び出すのは、求める道具で、この準備で確かめたものだけであり、要求の番号は重ならない。 -/
def ScheduledWithin (env : ScheduledEnv) (checks : PrepareChecks) (request : ScheduledCodexRequest)
    (githubMcp cancelled : Bool) (w : Wire Poll ScheduledLog) : Prop :=
  ∀ prepared v, (prepare env checks request githubMcp).run w = .done (.ok prepared) v →
    let calls := (prepared.execute env cancelled v).state.log.called.drop w.log.called.length
    (calls.map GithubCall.callId).Nodup ∧ ∀ call ∈ calls, call.tool ∈ expectedGithubTools ∧
      ∃ specs ∈ v.log.attested.drop w.log.attested.length, ∃ spec ∈ specs, toolName spec = some call.tool

theorem scheduledWithin (env : ScheduledEnv) (checks : PrepareChecks) (request : ScheduledCodexRequest)
    (githubMcp cancelled : Bool) (w : Wire Poll ScheduledLog) :
    ScheduledWithin env checks request githubMcp cancelled w := by
  intro prepared v hprepare
  obtain ⟨hsupervised, hattested⟩ := prepare_attested hprepare
  obtain ⟨turnId, calls, hcalled, hnodup, hallowed⟩ := @execute_calls env cancelled prepared v
  simp only [hcalled, hattested.called, List.drop_left]
  refine ⟨hnodup, fun call hmem => ?_⟩
  obtain ⟨hgithub, seen, message, hcall⟩ := hallowed call hmem
  have hexpected := (scheduledToolCall_spec hcall).2.2.2.2
  obtain ⟨specs, hspecs, hcovers⟩ := hattested.attested (hsupervised ▸ hgithub)
  exact ⟨hexpected, specs, hspecs, hcovers call.tool hexpected⟩

/-- 方針にある道具の呼び出しが、どれも `id` を持つときに限り、道具は方針の内でだけ動く。 -/
theorem tools_within_policy (env : AppServerEnv) (backend : CodexAppServerBackend) (task : AgentTask)
    (w : Wire (Except String Value) TurnLog) (scheduledEnv : ScheduledEnv) (checks : PrepareChecks)
    (request : ScheduledCodexRequest) (githubMcp cancelled : Bool) (v : Wire Poll ScheduledLog) :
    (WithinPolicy env backend task w ∧ ScheduledWithin scheduledEnv checks request githubMcp cancelled v) ↔
      ∀ message ∈ askedMessages env backend task w, (messageId message).isNull = false :=
  (and_iff_left (scheduledWithin scheduledEnv checks request githubMcp cancelled v)).trans
    (withinPolicy_iff env backend task w)

def lookupSpec : Value := .object [("name", .str "lookup")]

def lookupEnv : AppServerEnv := { quietEnv with toolSpecs := fun _ => [lookupSpec] }

def lookupTask : AgentTask where
  taskId := "operator:1"
  instruction := "Look it up."
  source := .trustedOperator "1"
  principal := .service "codeoff"
  session := .fresh
  channel := none
  previousSuccess := none
  toolPolicy := .namedSet ["lookup"]
  feedbackTarget := none

def lookupNotice : Value :=
  .object [("method", .str "item/tool/call"), ("params", .object [("threadId", .str "t"), ("turnId", .str "u"),
    ("tool", .str "lookup"), ("arguments", .obj [])])]

/-- 要求でない呼び出しでも、道具が動く。 -/
theorem lookupNotice_runs :
    ¬WithinPolicy lookupEnv ⟨64 * 1024, 8 * 1024⟩ lookupTask (greetingWire [] [lookupNotice]) := by
  rw [withinPolicy_iff]
  have hasked : (askedMessages lookupEnv ⟨64 * 1024, 8 * 1024⟩ lookupTask (greetingWire [] [lookupNotice])).any
      (fun message => (messageId message).isNull) = true := by decide +kernel
  obtain ⟨message, hmem, hnull⟩ := List.any_eq_true.mp hasked
  intro h
  simp [h message hmem] at hnull

end Codeoff.Codex
