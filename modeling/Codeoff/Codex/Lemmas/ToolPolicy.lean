import Mathlib.Data.List.Forall2
import Codeoff.Codex.Backend
import Codeoff.Codex.Lemmas.ScheduledLog
import Codeoff.Codex.Lemmas.TurnStart

/-!
# 道具の方針

方針の名ごとに、登録された道具が一つ選ばれる。
-/

namespace Codeoff.Codex

open Codeoff.Agent Codeoff.Control Codeoff.Core Codeoff.Json Session

variable {env : AppServerEnv} {request : CodexAppServerRequest} {registered tools : List Value}
  {policy : ToolPolicy} {debugText : String → String}

def policyNames : ToolPolicy → List String
  | .none => []
  | .namedSet names => names

def PolicyTools (registered : List Value) (policy : ToolPolicy) (tools : List Value) : Prop :=
  List.Forall₂ (fun name tool => toolName tool = some name ∧ tool ∈ registered) (policyNames policy) tools

theorem registeredSpec_some {name : String} {spec : Value} (h : registeredSpec registered name = some spec) :
    toolName spec = some name ∧ spec ∈ registered := by
  have hname := List.find?_some h
  have hmem := List.mem_of_find?_eq_some h
  exact ⟨by simpa [toolName] using hname, by simpa using hmem⟩

/-- 選ばれた道具は、名の順に並ぶ登録された道具であり、空の名はない。 -/
theorem selectDynamicTools_ok {names allowed : List String}
    (h : selectDynamicTools debugText registered allowed names = .ok tools) :
    List.Forall₂ (fun name tool => toolName tool = some name ∧ tool ∈ registered) names tools ∧ "" ∉ names := by
  induction names generalizing allowed tools with
  | nil =>
    cases h
    exact ⟨.nil, by simp⟩
  | cons name names ih =>
    simp only [selectDynamicTools] at h
    split_ifs at h with htrim hallowed
    cases hspec : registeredSpec registered name with
    | none => simp [hspec] at h
    | some spec =>
      simp only [hspec] at h
      cases hrest : selectDynamicTools debugText registered (name :: allowed) names with
      | error error => simp [hrest, Except.map] at h
      | ok rest =>
        simp only [hrest, Except.map] at h
        cases h
        obtain ⟨hall, hempty⟩ := ih hrest
        refine ⟨.cons (registeredSpec_some hspec) hall, ?_⟩
        simp only [not_or] at htrim
        simp only [List.mem_cons, not_or]
        refine ⟨?_, hempty⟩
        rintro rfl
        exact htrim.1 (by decide)

/-- 渡す道具は、方針の名指す順に、登録された仕様から取られる。 -/
theorem resolveDynamicTools_ok {allowed : List String}
    (h : resolveDynamicTools debugText registered policy = .ok (tools, allowed)) :
    allowed = policyNames policy ∧ PolicyTools registered policy tools ∧ "" ∉ policyNames policy := by
  cases policy with
  | none =>
    cases h
    exact ⟨rfl, .nil, by simp [policyNames]⟩
  | namedSet names =>
    simp only [resolveDynamicTools] at h
    split_ifs at h
    cases hselect : selectDynamicTools debugText registered [] names with
    | error error => simp [hselect, Except.map] at h
    | ok selected =>
      simp only [hselect, Except.map] at h
      cases h
      exact ⟨rfl, selectDynamicTools_ok hselect⟩

theorem PolicyTools.mem_registered {name : String} (h : PolicyTools registered policy tools)
    (hname : name ∈ policyNames policy) : ∃ spec ∈ registered, toolName spec = some name := by
  obtain ⟨i, hi, rfl⟩ := List.getElem_of_mem hname
  obtain ⟨hspec, hmem⟩ := h.get hi (h.length_eq ▸ hi)
  exact ⟨_, hmem, hspec⟩

/-- 方針にある道具の呼び出しを、いまの発話について求める文。`id` は見ない。 -/
def asksTool (names : List String) (threadId turnId : String) (message : Value) : Bool :=
  !hasError message && method message == some "item/tool/call" && namesTurn threadId turnId (params message)
    && (calledTool (params message)).any (· ∈ names)

def requestedCall (context : CodexDynamicToolContext) (message : Value) : ToolCall :=
  ⟨context, (calledTool (params message)).getD "", field (params message) "arguments"⟩

/-- 道具の呼び出しとみなされるのは、同じ発話の、許された名の文だけである。 -/
theorem toolCallOf_eq {context : CodexDynamicToolContext} {names : List String} {threadId turnId : String}
    (hempty : "" ∉ names) (message : Value) :
    toolCallOf context names threadId turnId message =
      if asksTool names threadId turnId message then some (requestedCall context message) else none := by
  unfold toolCallOf asksTool toolToRun
  cases hasError message with
  | true => simp
  | false =>
    by_cases hmethod : method message = some "item/tool/call"
    · cases hturn : namesTurn threadId turnId (params message) with
      | false => simp [Except.toOption]
      | true =>
        cases htool : calledTool (params message) with
        | none => simp [hmethod, Except.toOption]
        | some tool =>
          by_cases hnone : tool = ""
          · subst hnone
            simp [hmethod, hempty, Except.toOption]
          · by_cases hmem : tool ∈ names
            · simp [hmethod, hnone, hmem, Except.toOption, requestedCall, htool]
            · simp [hmethod, hnone, hmem, Except.toOption]
    · simp [hmethod]

theorem filterMap_toolCallOf {context : CodexDynamicToolContext} {names : List String} {threadId turnId : String}
    (hempty : "" ∉ names) (messages : List Value) :
    messages.filterMap (toolCallOf context names threadId turnId) =
      (messages.filter (asksTool names threadId turnId)).map (requestedCall context) := by
  induction messages with
  | nil => rfl
  | cons message messages ih =>
    rw [List.filterMap_cons, toolCallOf_eq hempty, List.filter_cons]
    cases asksTool names threadId turnId message with
    | false => simpa using ih
    | true => simpa using ih

/-! ## 会話を開くまで -/

/-- `thread/start` が知らせる道具。 -/
def Announces (tools : List Value) (message : Value) : Prop :=
  method message = some "thread/start" →
    (params message).get "dynamicTools" = if tools.isEmpty then none else some (.arr tools)

/-- 会話を開く間の記録。道具は動かさず、発話の文も読まない。 -/
structure Opening (tools : List Value) (before after : TurnLog) : Prop where
  called : after.called = before.called
  heard : after.heard = before.heard
  written : ∃ more, after.written = before.written ++ more ∧ ∀ message ∈ more, Announces tools message

theorem Opening.refl {log : TurnLog} : Opening tools log log := ⟨rfl, rfl, [], by simp, by simp⟩

theorem Opening.write {before log : TurnLog} {message : Value} (h : Opening tools before log)
    (hmessage : Announces tools message) : Opening tools before (log.write env message).2 := by
  obtain ⟨more, hwritten, hall⟩ := h.written
  refine ⟨h.called, h.heard, more ++ [message], ?_, ?_⟩
  · simp [TurnLog.write, hwritten]
  · intro m hm
    rcases List.mem_append.mp hm with hm | hm
    · exact hall m hm
    · rw [List.mem_singleton.mp hm]; exact hmessage

def Opens (tools : List Value) (before : TurnLog) {α : Type} (talk : Talk α) : Prop :=
  Keeps (fun w : Wire (Except String Value) TurnLog => Opening tools before w.log) talk.run

variable {before : TurnLog}

theorem failing_opens {message : Value} (hmessage : Announces tools message) :
    Opens tools before (failing (TurnLog.write env message)) := by
  rw [Opens, failing, ExceptT.run_mk]
  refine Keeps.act (I := Opening tools before) fun log hlog => ?_
  have hwrite := @Opening.write env _ _ _ _ hlog hmessage
  generalize log.write env message = out at hwrite ⊢
  obtain ⟨failed, log'⟩ := out
  cases failed with
  | none => exact hwrite
  | some error => exact hwrite

theorem method_request {id : Nat} {name : String} {params : Value} :
    method (requestMessage id name params) = some name ∧ Codex.params (requestMessage id name params) = params := by
  have hmethod : (requestMessage id name params).get "method" = some (.str name) := by
    rw [requestMessage, get_object (by simp)]
    rfl
  have hparams : (requestMessage id name params).get "params" = some params := by
    rw [requestMessage, get_object (by simp)]
    rfl
  exact ⟨by simp [method, field, hmethod, Value.ofOption, Value.asStr],
    by simp [Codex.params, field, hparams, Value.ofOption]⟩

theorem sendRequest_opens {id : Nat} {name : String} {params : Value} (hname : name ≠ "thread/start") :
    Opens tools before (sendRequest env id name params) := by
  refine failing_opens fun hmethod => ?_
  rw [method_request.1] at hmethod
  exact absurd (Option.some.inj hmethod) hname

theorem announces_threadStart {id : Nat} {ephemeralThreads : Bool} :
    Announces tools (requestMessage id "thread/start" (threadStartParams ephemeralThreads tools)) := by
  intro
  rw [method_request.2, threadStartParams]
  cases tools with
  | nil => rw [get_object (by simp)]; rfl
  | cons tool tools => rw [get_object (by simp)]; rfl

theorem readResponse_opens {id : Nat} {name : String} : Opens tools before (readResponse id name) := by
  rw [Opens, readResponse, ExceptT.run_mk]
  refine Keeps.reading (I := Opening tools before) fun s read hs => ?_
  cases read with
  | error error => exact hs
  | ok response =>
    simp only [responseStep]
    split_ifs
    · exact ⟨hs.called, hs.heard, hs.written⟩
    · exact ⟨hs.called, hs.heard, hs.written⟩

theorem startThread_opens {id : Nat} : Opens tools before (startThread env tools id) :=
  Keeps.except_bind (failing_opens announces_threadStart) fun _ => readResponse_opens

/-- 失敗を受けてやり直しても、告げる道具は同じである。 -/
theorem opens_tryCatch {α : Type} {talk : Talk α} {handle : String → Talk α} (h : Opens tools before talk)
    (hhandle : ∀ error, Opens tools before (handle error)) : Opens tools before (tryCatch talk handle) := by
  intro w hw
  have hkept := h w hw
  have hrun : (tryCatch talk handle).run w = match talk.run w with
      | Progress.waiting v => Progress.waiting v
      | .done (.ok a) v => .done (.ok a) v
      | .done (.error error) v => (handle error).run v := by
    change (talk.run >>= _) w = _
    rw [bind_apply]
    cases talk.run w with
    | waiting v => rfl
    | done outcome v => cases outcome <;> rfl
  rw [hrun]
  cases htalk : talk.run w with
  | waiting v => rw [htalk] at hkept; exact hkept
  | done outcome v =>
    rw [htalk] at hkept
    cases outcome with
    | ok a => exact hkept
    | error error => exact hhandle error v hkept

theorem resumeThread_opens {threadId : String} : Opens tools before (resumeThread env tools threadId) := by
  refine Keeps.except_bind (sendRequest_opens (by decide)) fun _ => ?_
  refine opens_tryCatch (Keeps.except_bind readResponse_opens fun _ => Keeps.except_pure) fun error => ?_
  by_cases hstale : isStaleResumeThreadError error = true
  · simp only [hstale, if_true]
    exact Keeps.except_bind startThread_opens fun _ => Keeps.except_pure
  · simp only [hstale, Bool.false_eq_true, if_false]
    exact Keeps.except_throw

/-- 開いた会話の番号を読み取る。 -/
def openedThread (opened : Value × String × Nat) : Talk (String × Nat) :=
  match (field (field opened.1 "thread") "id").asStr with
  | some threadId => pure (threadId, opened.2.2)
  | none => throw ("codex app server " ++ opened.2.1 ++ " response missing thread.id")

/-- 会話を開くまでに、方針にない道具は渡されない。 -/
theorem openThread_opens : Opens tools before (openThread env tools request) := by
  have hnamed : ∀ opened : Value × String × Nat, Opens tools before (openedThread opened) := by
    intro opened
    unfold openedThread
    cases (field (field opened.1 "thread") "id").asStr with
    | some threadId => exact Keeps.except_pure
    | none => exact Keeps.except_throw
  refine Keeps.except_bind (sendRequest_opens (by decide)) fun _ => ?_
  refine Keeps.except_bind readResponse_opens fun _ => ?_
  refine Keeps.except_bind (failing_opens fun hmethod => ?_) fun _ => ?_
  · rw [method_notificationMessage] at hmethod
    exact absurd (Option.some.inj hmethod) (by decide)
  · cases request.resumeThreadId with
    | some threadId => exact Keeps.except_bind resumeThread_opens hnamed
    | none =>
      exact Keeps.except_bind (Keeps.except_bind startThread_opens fun _ => Keeps.except_pure) hnamed

/-! ## いまの発話 -/

def beginTurn (env : AppServerEnv) (request : CodexAppServerRequest) : Talk (List String × String × String) := do
  let (dynamicTools, allowed) ←
    ExceptT.mk (pure (resolveDynamicTools env.debugText (env.toolSpecs request.dynamicToolContext) request.toolPolicy))
  match env.spawn with
  | some error => throw error
  | none =>
    let (threadId, turnRequestId) ← openThread env dynamicTools request
    sendRequest env turnRequestId "turn/start" (turnParams threadId request)
    let turnStart ← readResponse turnRequestId "turn/start"
    match startedTurn turnStart with
    | none => throw "codex app server turn/start response missing turn.id"
    | some turnId => return (allowed, threadId, turnId)

theorem startJsonlTurn_eq (w : Wire (Except String Value) TurnLog) :
    (startJsonlTurn env request).run w =
      match (beginTurn env request).run w with
      | .waiting v => .waiting v
      | .done (.error error) v => .done (.error error) v
      | .done (.ok (allowed, threadId, turnId)) v => (awaitTurn env request allowed threadId turnId).run v := by
  rw [startJsonlTurn, beginTurn, except_bind_apply, except_bind_apply]
  simp only [ExceptT.run_mk, Session.pure_apply]
  cases resolveDynamicTools env.debugText (env.toolSpecs request.dynamicToolContext) request.toolPolicy with
  | error error => rfl
  | ok resolved =>
    simp only
    cases env.spawn with
    | some error => rfl
    | none =>
      simp only [runTurn]
      rw [except_bind_apply, except_bind_apply]
      cases (openThread env resolved.1 request).run w with
      | waiting v => rfl
      | done opened v =>
        cases opened with
        | error error => rfl
        | ok opened =>
          simp only
          rw [except_bind_apply, except_bind_apply]
          cases (sendRequest env opened.2 "turn/start" (turnParams opened.1 request)).run v with
          | waiting v => rfl
          | done sent v =>
            cases sent with
            | error error => rfl
            | ok sent =>
              simp only
              rw [except_bind_apply, except_bind_apply]
              cases (readResponse opened.2 "turn/start").run v with
              | waiting v => rfl
              | done answer v =>
                cases answer with
                | error error => rfl
                | ok turn =>
                  simp only
                  cases startedTurn turn with
                  | none => rfl
                  | some turnId => rfl

def beginResolved (env : AppServerEnv) (request : CodexAppServerRequest) (tools : List Value)
    (allowed : List String) : Talk (List String × String × String) :=
  match env.spawn with
  | some error => throw error
  | none => do
    let (threadId, turnRequestId) ← openThread env tools request
    sendRequest env turnRequestId "turn/start" (turnParams threadId request)
    let turnStart ← readResponse turnRequestId "turn/start"
    match startedTurn turnStart with
    | none => throw "codex app server turn/start response missing turn.id"
    | some turnId => return (allowed, threadId, turnId)

theorem beginTurn_run (w : Wire (Except String Value) TurnLog) :
    (beginTurn env request).run w =
      match resolveDynamicTools env.debugText (env.toolSpecs request.dynamicToolContext) request.toolPolicy with
      | .error error => .done (.error error) w
      | .ok (tools, allowed) => (beginResolved env request tools allowed).run w := by
  rw [beginTurn, except_bind_apply]
  simp only [ExceptT.run_mk, Session.pure_apply]
  cases resolveDynamicTools env.debugText (env.toolSpecs request.dynamicToolContext) request.toolPolicy with
  | error error => rfl
  | ok resolved => rfl

/-- 発話を始めるまでに道具を告げるのは、選んだ道具を渡す要求だけである。 -/
theorem beginResolved_opens {allowed : List String} : Opens tools before (beginResolved env request tools allowed) := by
  unfold beginResolved
  cases env.spawn with
  | some error => exact Keeps.except_throw
  | none =>
    refine Keeps.except_bind openThread_opens fun opened => ?_
    refine Keeps.except_bind (sendRequest_opens (by decide)) fun _ => ?_
    refine Keeps.except_bind readResponse_opens fun turn => ?_
    cases startedTurn turn with
    | none => exact Keeps.except_throw
    | some turnId => exact Keeps.except_pure

theorem beginResolved_allowed {allowed : List String} {w : Wire (Except String Value) TurnLog} :
    Ensures (fun _ => True) (beginResolved env request tools allowed).run fun outcome _ =>
      ∀ turn, outcome = .ok turn → turn.1 = allowed := by
  have hany : ∀ {α : Type} (talk : Talk α), EnsuresExcept (fun _ => True) talk (fun _ _ => True) fun _ _ => True := by
    intro α talk v outcome v' _ _
    cases outcome <;> trivial
  have hall : EnsuresExcept (fun _ => True) (beginResolved env request tools allowed)
      (fun turn _ => turn.1 = allowed) fun _ _ => True := by
    unfold beginResolved
    cases env.spawn with
    | some error => exact Ensures.pure fun _ _ => trivial
    | none =>
      refine EnsuresExcept.bind (hany _) fun opened => ?_
      refine EnsuresExcept.bind (hany _) fun _ => ?_
      refine EnsuresExcept.bind (hany _) fun turn => ?_
      cases startedTurn turn with
      | none => exact Ensures.pure fun _ _ => trivial
      | some turnId => exact EnsuresExcept.pure fun _ _ => rfl
  intro v outcome v' hv hrun turn hturn
  subst hturn
  exact hall v _ v' hv hrun

end Codeoff.Codex
