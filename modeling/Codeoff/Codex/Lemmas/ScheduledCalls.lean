import Codeoff.Codex.Lemmas.ScheduledTurn

/-!
# 予定の発話の間の、道具の呼び出し

発話の終わりを待つ一歩は、道具を高々一度呼び出す。
-/

namespace Codeoff.Codex

open Codeoff.Control Codeoff.Json Codeoff.Runtime

variable {env : ScheduledEnv} {githubMcp : Bool} {threadId turnId : String}

@[simp] theorem interfere_called {log : ScheduledLog} : (log.interfere env).called = log.called := by
  unfold ScheduledLog.interfere
  cases env.others log.called.length with
  | none => rfl
  | some state => rfl

def SamePast (before after : ScheduledLog) : Prop :=
  after.requests = before.requests ∧ after.attested = before.attested

theorem call_past {c : GithubCall} {log : ScheduledLog} : SamePast log (log.call env c).2 := by
  unfold SamePast ScheduledLog.call ScheduledLog.interfere
  cases env.others log.called.length with
  | none => exact ⟨rfl, rfl⟩
  | some state => exact ⟨rfl, rfl⟩

theorem call_called {c : GithubCall} {log : ScheduledLog} : (log.call env c).2.called = log.called ++ [c] := by
  simp [ScheduledLog.call]

theorem handleScheduledDynamicToolCall_past {message : Value} {seen : List String} {log : ScheduledLog} :
    SamePast log (handleScheduledDynamicToolCall env threadId turnId message seen log).2 := by
  unfold handleScheduledDynamicToolCall
  cases scheduledToolCall threadId turnId seen message with
  | error f => exact ⟨rfl, rfl⟩
  | ok c =>
    have hpast := @call_past env c log
    simp only
    generalize log.call env c = out at hpast ⊢
    obtain ⟨answer, called⟩ := out
    cases answer with
    | error error => exact hpast
    | ok result =>
      simp only
      have hwrite : SamePast called (called.write env (responseMessage message (toolResult result))).2 := ⟨rfl, rfl⟩
      generalize called.write env (responseMessage message (toolResult result)) = out at hwrite ⊢
      obtain ⟨failed, written⟩ := out
      cases failed with
      | none => exact ⟨hwrite.1.trans hpast.1, hwrite.2.trans hpast.2⟩
      | some error => exact ⟨hwrite.1.trans hpast.1, hwrite.2.trans hpast.2⟩

theorem handleScheduledDynamicToolCall_called {message : Value} {seen : List String} {log : ScheduledLog} :
    let out := handleScheduledDynamicToolCall env threadId turnId message seen log
    match scheduledToolCall threadId turnId seen message with
    | .error f => out = (.error f, log)
    | .ok c => out.2.called = log.called ++ [c] ∧ ∀ id, out.1 = .ok id → id = c.callId := by
  unfold handleScheduledDynamicToolCall
  cases scheduledToolCall threadId turnId seen message with
  | error f => rfl
  | ok c =>
    have hcalled := @call_called env c log
    simp only
    generalize log.call env c = out at hcalled ⊢
    obtain ⟨answer, called⟩ := out
    cases answer with
    | error error => exact ⟨hcalled, by simp⟩
    | ok result =>
      simp only
      have hwrite : (called.write env (responseMessage message (toolResult result))).2.called = called.called := rfl
      generalize called.write env (responseMessage message (toolResult result)) = out at hwrite ⊢
      obtain ⟨failed, written⟩ := out
      cases failed with
      | none => exact ⟨hwrite.trans hcalled, by simp [eq_comm]⟩
      | some error => exact ⟨hwrite.trans hcalled, by simp⟩

/-- 待ちの一歩が加える呼び出し。続けて待つときは、その番号を覚えている。 -/
structure CallsOnce (githubMcp : Bool) (threadId turnId : String) (s : ScheduledTurnState × ScheduledLog)
    (v : TurnVerdict) : Prop where
  past : SamePast s.2 v.state.2
  called : (v.state.2.called = s.2.called ∧ v.state.1.toolCallIds = s.1.toolCallIds) ∨
    ∃ message c, (githubMcp = true ∧ scheduledToolCall threadId turnId s.1.toolCallIds message = .ok c) ∧
      v.state.2.called = s.2.called ++ [c] ∧ ∀ s', v = .next s' → s'.1.toolCallIds = c.callId :: s.1.toolCallIds

theorem CallsOnce.quiet {s : ScheduledTurnState × ScheduledLog} {v : TurnVerdict} (hpast : SamePast s.2 v.state.2)
    (hcalled : v.state.2.called = s.2.called) (hids : v.state.1.toolCallIds = s.1.toolCallIds) :
    CallsOnce githubMcp threadId turnId s v := ⟨hpast, .inl ⟨hcalled, hids⟩⟩

/-- 道具の要求は一度だけ呼び出され、その番号が覚えられる。 -/
theorem handleTurnMessage_calls {message : Value} {state : ScheduledTurnState} {log : ScheduledLog} :
    CallsOnce githubMcp threadId turnId (state, log) (handleTurnMessage env githubMcp threadId turnId message state log) := by
  unfold handleTurnMessage
  cases scheduledMessage threadId turnId message with
  | toolCall =>
    cases githubMcp with
    | false => exact .quiet ⟨rfl, rfl⟩ rfl rfl
    | true =>
      have hpast := @handleScheduledDynamicToolCall_past env threadId turnId message state.toolCallIds log
      have hcalled := @handleScheduledDynamicToolCall_called env threadId turnId message state.toolCallIds log
      simp only [Bool.not_true, Bool.false_eq_true, if_false]
      generalize handleScheduledDynamicToolCall env threadId turnId message state.toolCallIds log = out
        at hpast hcalled ⊢
      obtain ⟨answer, log'⟩ := out
      cases hcall : scheduledToolCall threadId turnId state.toolCallIds message with
      | error f =>
        simp only [hcall, Prod.mk.injEq] at hcalled
        obtain ⟨rfl, rfl⟩ := hcalled
        exact .quiet ⟨rfl, rfl⟩ rfl rfl
      | ok c =>
        simp only [hcall] at hcalled
        cases answer with
        | error f => exact ⟨hpast, .inr ⟨message, c, ⟨rfl, hcall⟩, hcalled.1, by simp⟩⟩
        | ok id =>
          refine ⟨hpast, .inr ⟨message, c, ⟨rfl, hcall⟩, hcalled.1, ?_⟩⟩
          rintro s' ⟨⟩
          simp [hcalled.2 id rfl]
  | itemCompleted =>
    simp only
    cases recordAgentMessage (field (params message) "item") state.phasedFinal with
    | error f => exact .quiet ⟨rfl, rfl⟩ rfl rfl
    | ok final => exact .quiet ⟨rfl, rfl⟩ rfl rfl
  | turnCompleted => exact .quiet ⟨rfl, rfl⟩ rfl rfl
  | other => exact .quiet ⟨rfl, rfl⟩ rfl rfl

theorem observeFinalStreamEvent_toolCallIds {message : Value} {state state' : ScheduledTurnState}
    (h : observeFinalStreamEvent threadId turnId message state = .ok state') :
    state'.toolCallIds = state.toolCallIds := by
  unfold observeFinalStreamEvent at h
  split_ifs at h with hturn hstarted hdelta
  · cases h; rfl
  · unfold observeFinalItem at h
    cases hid : (field (field (params message) "item") "id").asStr with
    | none => simp [hid] at h
    | some itemId =>
      simp only [hid] at h
      split_ifs at h
      · cases h; rfl
      · cases h; rfl
  · unfold observeFinalDelta at h
    cases hd : (field (params message) "delta").asStr with
    | none => simp [hd] at h
    | some delta =>
      simp only [hd] at h
      split_ifs at h
      cases h; rfl
  · cases h; rfl

theorem scheduledTurnStep_calls (s : ScheduledTurnState × ScheduledLog) (p : Poll) :
    CallsOnce githubMcp threadId turnId s (scheduledTurnStep env githubMcp threadId turnId s p) := by
  obtain ⟨cancelled, read, expired⟩ := p
  cases cancelled with
  | true => exact .quiet ⟨rfl, rfl⟩ rfl rfl
  | false =>
    match read with
    | .error error => exact .quiet ⟨rfl, rfl⟩ rfl rfl
    | .ok .eof => exact .quiet ⟨rfl, rfl⟩ rfl rfl
    | .ok .timedOut =>
      cases expired with
      | true => exact .quiet ⟨rfl, rfl⟩ rfl rfl
      | false => exact .quiet ⟨rfl, rfl⟩ rfl rfl
    | .ok (.message message) =>
      simp only [scheduledTurnStep, readTurnMessage, Bool.false_eq_true, if_false]
      cases hobserved : observeFinalStreamEvent threadId turnId message s.1 with
      | error f => exact .quiet ⟨rfl, rfl⟩ rfl rfl
      | ok observed =>
        have hids := observeFinalStreamEvent_toolCallIds hobserved
        obtain ⟨hpast, hcalled⟩ := @handleTurnMessage_calls env githubMcp threadId turnId message observed (s.2.hear message)
        simp only [hids] at hcalled
        exact ⟨hpast, hcalled⟩

/-! ## 発話の全体 -/

/-- 記録 `before` の後に、番号の重ならない、許された要求だけで呼び出した。監督者のない実行では呼び出さない。 -/
structure CallsWithin (githubMcp : Bool) (threadId turnId : String) (calls : List GithubCall) (before after : ScheduledLog) : Prop where
  past : SamePast before after
  called : after.called = before.called ++ calls
  nodup : (calls.map GithubCall.callId).Nodup
  allowed : ∀ c ∈ calls, githubMcp = true ∧ ∃ seen message, scheduledToolCall threadId turnId seen message = .ok c

/-- 呼び出す要求は、初めての番号で、いまの発話と許された道具を名指す。 -/
theorem scheduledToolCall_spec {seen : List String} {message : Value} {c : GithubCall}
    (h : scheduledToolCall threadId turnId seen message = .ok c) :
    scheduledCallId message = some c.callId ∧ c.callId ∉ seen ∧ namesTurn threadId turnId (params message) = true ∧
      calledTool (params message) = some c.tool ∧ c.tool ∈ expectedGithubTools := by
  unfold scheduledToolCall at h
  cases hid : scheduledCallId message with
  | none => simp [hid] at h
  | some callId =>
    simp only [hid] at h
    split_ifs at h with hbinding
    simp only [not_or, Bool.not_eq_false] at hbinding
    obtain ⟨-, hseen, hturn⟩ := hbinding
    cases htool : (calledTool (params message)).filter (· ∈ expectedGithubTools) with
    | none => simp [htool] at h
    | some tool =>
      simp only [htool] at h
      obtain ⟨hcalled, hexpected⟩ := Option.filter_eq_some_iff.mp htool
      cases harguments : ((params message).get "arguments").filter fun arguments => arguments.asObj.isSome with
      | none => simp [harguments] at h
      | some arguments =>
        simp only [harguments] at h
        cases h
        exact ⟨rfl, hseen, hturn, hcalled, by simpa using hexpected⟩

def Remembers (githubMcp : Bool) (threadId turnId : String) (before : ScheduledLog) (s : ScheduledTurnState × ScheduledLog) : Prop :=
  ∃ calls, CallsWithin githubMcp threadId turnId calls before s.2 ∧ (calls.map GithubCall.callId).reverse = s.1.toolCallIds

theorem CallsWithin.snoc {calls : List GithubCall} {before log after : ScheduledLog} {seen : List String}
    {message : Value} {c : GithubCall} (h : CallsWithin githubMcp threadId turnId calls before log)
    (hids : (calls.map GithubCall.callId).reverse = seen) (hpast : SamePast log after)
    (hsupervised : githubMcp = true) (hcall : scheduledToolCall threadId turnId seen message = .ok c) (hcalled : after.called = log.called ++ [c]) :
    CallsWithin githubMcp threadId turnId (calls ++ [c]) before after where
  past := ⟨hpast.1.trans h.past.1, hpast.2.trans h.past.2⟩
  called := by rw [hcalled, h.called, List.append_assoc]
  nodup := by
    have hnew : c.callId ∉ calls.map GithubCall.callId := by
      intro hmem
      exact (scheduledToolCall_spec hcall).2.1 (by rw [← hids]; exact List.mem_reverse.mpr hmem)
    rw [List.map_append, List.nodup_append]
    refine ⟨h.nodup, by simp, ?_⟩
    intro id hid id' hid' heq
    simp only [List.map_cons, List.map_nil, List.mem_singleton] at hid'
    exact hnew (by rw [← hid', ← heq]; exact hid)
  allowed := by
    intro d hd
    rcases List.mem_append.mp hd with hd | hd
    · exact h.allowed d hd
    · rw [List.mem_singleton.mp hd]; exact ⟨hsupervised, seen, message, hcall⟩

theorem scheduledTurnStep_within {before : ScheduledLog} {s : ScheduledTurnState × ScheduledLog} (p : Poll)
    (h : Remembers githubMcp threadId turnId before s) :
    let v := scheduledTurnStep env githubMcp threadId turnId s p
    (∃ calls, CallsWithin githubMcp threadId turnId calls before v.state.2) ∧
      ∀ s', v = .next s' → Remembers githubMcp threadId turnId before s' := by
  obtain ⟨calls, hwithin, hids⟩ := h
  obtain ⟨hpast, ⟨hcalled, hsame⟩ | ⟨message, c, ⟨hsupervised, hcall⟩, hcalled, hnext⟩⟩ :=
    @scheduledTurnStep_calls env githubMcp threadId turnId s p
  · have hkept : CallsWithin githubMcp threadId turnId calls before
        (scheduledTurnStep env githubMcp threadId turnId s p).state.2 :=
      ⟨⟨hpast.1.trans hwithin.past.1, hpast.2.trans hwithin.past.2⟩, hcalled.trans hwithin.called, hwithin.nodup,
        hwithin.allowed⟩
    refine ⟨⟨calls, hkept⟩, fun s' hs' => ⟨calls, ?_, ?_⟩⟩
    · rw [hs'] at hkept; exact hkept
    · rw [hs'] at hsame; exact hids.trans hsame.symm
  · have hmore := hwithin.snoc hids hpast hsupervised hcall hcalled
    refine ⟨⟨calls ++ [c], hmore⟩, fun s' hs' => ⟨calls ++ [c], ?_, ?_⟩⟩
    · rw [hs'] at hmore; exact hmore
    · rw [hnext s' hs', List.map_append, List.reverse_append, hids]; rfl

theorem interruptStep_same (s : Unit × ScheduledLog) (p : Poll) :
    SamePast s.2 (interruptStep threadId turnId s p).state.2 ∧
      (interruptStep threadId turnId s p).state.2.called = s.2.called := by
  obtain ⟨cancelled, read, expired⟩ := p
  match read with
  | .error error => exact ⟨⟨rfl, rfl⟩, rfl⟩
  | .ok .eof => exact ⟨⟨rfl, rfl⟩, rfl⟩
  | .ok .timedOut => exact ⟨⟨rfl, rfl⟩, rfl⟩
  | .ok (.message message) =>
    simp only [interruptStep]
    split_ifs
    · exact ⟨⟨rfl, rfl⟩, rfl⟩
    · exact ⟨⟨rfl, rfl⟩, rfl⟩
    · exact ⟨⟨rfl, rfl⟩, rfl⟩

theorem interruptScheduledTurn_within {before : ScheduledLog} {calls : List GithubCall} :
    Session.Keeps (fun w : Wire Poll ScheduledLog => CallsWithin githubMcp threadId turnId calls before w.log)
      (interruptScheduledTurn env threadId turnId) := by
  refine Session.Keeps.bind
    (Session.Keeps.act (I := CallsWithin githubMcp threadId turnId calls before)
      fun log h => ⟨h.past, h.called, h.nodup, h.allowed⟩) fun sent => ?_
  cases sent with
  | some error => exact Session.Keeps.pure
  | none =>
    refine Session.Keeps.bind
      (Session.Keeps.act (I := CallsWithin githubMcp threadId turnId calls before) fun log h => h) fun fits => ?_
    cases fits with
    | false => exact Session.Keeps.pure
    | true =>
      refine Session.Keeps.reading (I := CallsWithin githubMcp threadId turnId calls before) fun s p h => ?_
      obtain ⟨hpast, hcalled⟩ := @interruptStep_same threadId turnId s p
      exact ⟨⟨hpast.1.trans h.past.1, hpast.2.trans h.past.2⟩, hcalled.trans h.called, h.nodup, h.allowed⟩

/-- 発話の間の呼び出しは、どれも許された要求に一度ずつ応じたものである。 -/
theorem waitForScheduledTurn_within (w : Wire Poll ScheduledLog) :
    ∃ calls, CallsWithin githubMcp threadId turnId calls w.log
      (waitForScheduledTurn env githubMcp threadId turnId w).state.log := by
  have hinit : Remembers githubMcp threadId turnId w.log (ScheduledTurnState.empty, w.log) :=
    ⟨[], ⟨⟨rfl, rfl⟩, by simp, by simp, by simp⟩, rfl⟩
  have hgoes : ∀ s read, poll (scheduledTurnStep env githubMcp threadId turnId) (.empty, w.log) read = .waiting s →
      Remembers githubMcp threadId turnId w.log s := fun s read hs =>
    @poll_waiting_history _ _ _ _ (fun _ s => Remembers githubMcp threadId turnId w.log s) []
        (fun _ s p s' h hp => (scheduledTurnStep_within p h).2 s' hp) _ _ _ hinit hs
  rw [waitForScheduledTurn_run]
  cases hpoll : poll (scheduledTurnStep env githubMcp threadId turnId) (.empty, w.log) w.input with
  | waiting s =>
    obtain ⟨calls, hwithin, -⟩ := hgoes s _ hpoll
    exact ⟨calls, hwithin⟩
  | ended ended s rest =>
    obtain ⟨before, p, after, t, -, hbefore, hend⟩ := poll_ended hpoll
    obtain ⟨⟨calls, hwithin⟩, -⟩ := @scheduledTurnStep_within env githubMcp _ _ _ _ p (hgoes t before hbefore)
    have hs : (scheduledTurnStep env githubMcp threadId turnId t p).state = s := by
      rcases hend with ⟨hp, -⟩ | ⟨hp, -⟩
      · rw [hp]; rfl
      · rw [hp]; rfl
    rw [hs] at hwithin
    cases ended with
    | result r => exact ⟨calls, hwithin⟩
    | interrupt => exact ⟨calls, interruptScheduledTurn_within _ hwithin⟩

end Codeoff.Codex
