import Codeoff.Codex.Lemmas.ScheduledCalls
import Codeoff.Codex.Lemmas.TurnStart

/-!
# 予定の発話の、開始への応答の前に届く文

予定の発話の終わりを待つ者も、発話の出来事でない知らせと期限前の待ちを読み飛ばし、読んだ文の履歴には左右されない。
-/

namespace Codeoff.Codex

open Codeoff.Control Codeoff.Json Codeoff.Runtime Session

variable {env : ScheduledEnv} {githubMcp : Bool} {threadId turnId : String}

def Poll.message? (p : Poll) : Option Value :=
  match p.read with
  | .ok (.message m) => some m
  | _ => none

def Poll.arrives (p : Poll) : Bool :=
  !p.cancelled &&
    match p.read with
    | .ok (.message _) => true
    | .ok .timedOut => !p.expired
    | _ => false

/-- 予定の発話の終わりを待つ者は、道具の呼び出しのほか、失敗や承認の知らせを読み飛ばす。 -/
def isScheduledTurnEvent (threadId turnId : String) (message : Value) : Bool :=
  isServerRequest message || isTurnNotification threadId turnId message || method message == some "item/tool/call"

theorem quiet_of_not_scheduledTurnEvent {message : Value} (hnotification : isNotification message = true)
    (h : isScheduledTurnEvent threadId turnId message = false) :
    method message ≠ some "item/tool/call" ∧ namesTurn threadId turnId (params message) = false ∧
      namesEndedTurn threadId turnId (params message) = false := by
  simp only [isScheduledTurnEvent, isTurnNotification, hnotification, Bool.true_and, Bool.or_eq_false_iff] at h
  exact ⟨by simpa using h.2, h.1.2⟩

def SameRun (log log' : ScheduledLog) : Prop :=
  log.events = log'.events ∧ log.github = log'.github ∧ log.called = log'.called

theorem scheduledTurnStep_quiet {p : Poll} (harrives : p.arrives = true)
    (hnotification : ∀ m, p.message? = some m → isNotification m = true)
    (h : ∀ m, p.message? = some m → isScheduledTurnEvent threadId turnId m = false) (state : ScheduledTurnState)
    (log : ScheduledLog) :
    ∃ log', SameRun log' log ∧
      scheduledTurnStep env githubMcp threadId turnId (state, log) p = .next (state, log') := by
  obtain ⟨cancelled, read, expired⟩ := p
  simp only [Poll.arrives, Bool.and_eq_true, Bool.not_eq_true'] at harrives
  obtain ⟨rfl, harrives⟩ := harrives
  match read with
  | .error error => cases harrives
  | .ok .eof => cases harrives
  | .ok .timedOut =>
    simp only [Bool.not_eq_true'] at harrives
    exact ⟨log, ⟨rfl, rfl, rfl⟩, by simp [scheduledTurnStep, harrives]⟩
  | .ok (.message message) =>
    obtain ⟨hcall, hturn, hended⟩ := quiet_of_not_scheduledTurnEvent (hnotification message rfl) (h message rfl)
    refine ⟨log.hear message, ⟨rfl, rfl, rfl⟩, ?_⟩
    simp [scheduledTurnStep, readTurnMessage, observeFinalStreamEvent, hturn, handleTurnMessage, scheduledMessage,
      hcall, hended]

/-- 発話の出来事でない知らせと期限前の待ちだけなら、状態は変わらず、待ち続ける。 -/
theorem poll_scheduled_quiet {polls : List Poll} (harrives : ∀ p ∈ polls, p.arrives = true)
    (hall : ∀ p ∈ polls, ∀ m, p.message? = some m → isNotification m = true)
    (h : ∀ p ∈ polls, ∀ m, p.message? = some m → isScheduledTurnEvent threadId turnId m = false)
    (state : ScheduledTurnState) (log : ScheduledLog) :
    ∃ log', SameRun log' log ∧
      poll (scheduledTurnStep env githubMcp threadId turnId) (state, log) polls = .waiting (state, log') := by
  induction polls generalizing log with
  | nil => exact ⟨log, ⟨rfl, rfl, rfl⟩, rfl⟩
  | cons p rest ih =>
    obtain ⟨log₁, hsame₁, hstep⟩ := @scheduledTurnStep_quiet env githubMcp _ _ _ (harrives p (by simp))
        (hall p (by simp)) (h p (by simp)) state log
    obtain ⟨log₂, hsame₂, hpoll⟩ := ih (fun q hq => harrives q (by simp [hq])) (fun q hq => hall q (by simp [hq]))
      (fun q hq => h q (by simp [hq])) log₁
    refine ⟨log₂, ⟨hsame₂.1.trans hsame₁.1, hsame₂.2.1.trans hsame₁.2.1, hsame₂.2.2.trans hsame₁.2.2⟩, ?_⟩
    simp only [poll, hstep]
    exact hpoll

/-! ## 履歴の違い -/

theorem scheduled_write_same {message : Value} {log log' : ScheduledLog} (h : SameRun log log') :
    (log.write env message).1 = (log'.write env message).1 ∧
      SameRun (log.write env message).2 (log'.write env message).2 := by
  obtain ⟨hevents, hgithub, hcalled⟩ := h
  exact ⟨by simp [ScheduledLog.write, hevents], by simp [ScheduledLog.write, ScheduledLog.record, hevents], hgithub,
    hcalled⟩

theorem call_same {c : GithubCall} {log log' : ScheduledLog} (h : SameRun log log') :
    (log.call env c).1 = (log'.call env c).1 ∧ SameRun (log.call env c).2 (log'.call env c).2 := by
  obtain ⟨hevents, hgithub, hcalled⟩ := h
  have hinterfere : SameRun (log.interfere env) (log'.interfere env) := by
    have hothers : env.others log'.called.length = env.others log.called.length := by rw [hcalled]
    unfold ScheduledLog.interfere
    rw [hothers]
    cases env.others log.called.length with
    | none => exact ⟨hevents, hgithub, hcalled⟩
    | some state => exact ⟨hevents, by simp [hgithub], hcalled⟩
  obtain ⟨hevents, hgithub, -⟩ := hinterfere
  exact ⟨by simp [ScheduledLog.call, hgithub], hevents, by simp [ScheduledLog.call, hgithub],
    by simp [ScheduledLog.call, hcalled]⟩

theorem handleScheduledDynamicToolCall_same {message : Value} {seen : List String} {log log' : ScheduledLog}
    (h : SameRun log log') :
    let out := handleScheduledDynamicToolCall env threadId turnId message seen log
    let out' := handleScheduledDynamicToolCall env threadId turnId message seen log'
    out.1 = out'.1 ∧ SameRun out.2 out'.2 := by
  simp only [handleScheduledDynamicToolCall]
  cases scheduledToolCall threadId turnId seen message with
  | error f => exact ⟨rfl, h⟩
  | ok c =>
    obtain ⟨hanswer, hlog⟩ := @call_same env c _ _ h
    simp only
    generalize log.call env c = out at hanswer hlog ⊢
    generalize log'.call env c = out' at hanswer hlog ⊢
    obtain ⟨answer, called⟩ := out
    obtain ⟨answer', called'⟩ := out'
    obtain rfl : answer = answer' := hanswer
    cases answer with
    | error error => exact ⟨rfl, hlog⟩
    | ok result =>
      obtain ⟨hfailure, hwritten⟩ := @scheduled_write_same env (responseMessage message (toolResult result)) _ _ hlog
      simp only
      generalize called.write env (responseMessage message (toolResult result)) = out at hfailure hwritten ⊢
      generalize called'.write env (responseMessage message (toolResult result)) = out' at hfailure hwritten ⊢
      obtain ⟨failed, written⟩ := out
      obtain ⟨failed', written'⟩ := out'
      obtain rfl : failed = failed' := hfailure
      cases failed with
      | none => exact ⟨rfl, hwritten⟩
      | some error => exact ⟨rfl, hwritten⟩

theorem handleTurnMessage_related {message : Value} (state : ScheduledTurnState) {log log' : ScheduledLog}
    (h : SameRun log log') :
    RelatedVerdict SameRun (handleTurnMessage env githubMcp threadId turnId message state log)
      (handleTurnMessage env githubMcp threadId turnId message state log') := by
  simp only [handleTurnMessage]
  cases scheduledMessage threadId turnId message with
  | toolCall =>
    cases githubMcp with
    | false => exact ⟨rfl, rfl, h⟩
    | true =>
      obtain ⟨hanswer, hlog⟩ := @handleScheduledDynamicToolCall_same env threadId turnId message state.toolCallIds _ _ h
      simp only [Bool.not_true, Bool.false_eq_true, if_false]
      generalize handleScheduledDynamicToolCall env threadId turnId message state.toolCallIds log = out
        at hanswer hlog ⊢
      generalize handleScheduledDynamicToolCall env threadId turnId message state.toolCallIds log' = out'
        at hanswer hlog ⊢
      obtain ⟨answer, log₁⟩ := out
      obtain ⟨answer', log₂⟩ := out'
      obtain rfl : answer = answer' := hanswer
      cases answer with
      | error f => exact ⟨rfl, rfl, hlog⟩
      | ok id => exact ⟨rfl, hlog⟩
  | itemCompleted =>
    simp only
    cases recordAgentMessage (field (params message) "item") state.phasedFinal with
    | error f => exact ⟨rfl, rfl, h⟩
    | ok final => exact ⟨rfl, h⟩
  | turnCompleted => exact ⟨rfl, rfl, h⟩
  | other => exact ⟨rfl, h⟩

/-- 一歩の結末は、それまでに読んだ文の履歴によらない。 -/
theorem scheduledTurnStep_related (state : ScheduledTurnState) (log log' : ScheduledLog) (p : Poll)
    (h : SameRun log log') :
    RelatedVerdict SameRun (scheduledTurnStep env githubMcp threadId turnId (state, log) p)
      (scheduledTurnStep env githubMcp threadId turnId (state, log') p) := by
  obtain ⟨cancelled, read, expired⟩ := p
  cases cancelled with
  | true => exact ⟨rfl, rfl, h⟩
  | false =>
    match read with
    | .error error => exact ⟨rfl, rfl, h⟩
    | .ok .eof => exact ⟨rfl, rfl, h⟩
    | .ok .timedOut =>
      cases expired with
      | true => exact ⟨rfl, rfl, h⟩
      | false => exact ⟨rfl, h⟩
    | .ok (.message message) =>
      simp only [scheduledTurnStep, readTurnMessage, Bool.false_eq_true, if_false]
      cases observeFinalStreamEvent threadId turnId message state with
      | error f => exact ⟨rfl, rfl, h⟩
      | ok observed => exact handleTurnMessage_related observed h

theorem interruptStep_related (t : Unit) (log log' : ScheduledLog) (p : Poll) (h : SameRun log log') :
    RelatedVerdict SameRun (interruptStep threadId turnId (t, log) p) (interruptStep threadId turnId (t, log') p) := by
  obtain ⟨cancelled, read, expired⟩ := p
  match read with
  | .error error => exact ⟨rfl, rfl, h⟩
  | .ok .eof => exact ⟨rfl, rfl, h⟩
  | .ok .timedOut => exact ⟨rfl, rfl, h⟩
  | .ok (.message message) =>
    simp only [interruptStep]
    split_ifs
    · exact ⟨rfl, rfl, h⟩
    · exact ⟨rfl, rfl, h⟩
    · exact ⟨rfl, h⟩

theorem act_related {α : Type} {f : ScheduledLog → α × ScheduledLog}
    (hf : ∀ log log', SameRun log log' → (f log).1 = (f log').1 ∧ SameRun (f log).2 (f log').2)
    {w v : Wire Poll ScheduledLog} (h : RelatedWire SameRun w v) :
    Related SameRun (Session.act f w) (Session.act f v) := by
  obtain ⟨hanswer, hlog⟩ := hf w.log v.log h.2
  exact ⟨hanswer, h.1, hlog⟩

theorem interruptScheduledTurn_related {w v : Wire Poll ScheduledLog} (h : RelatedWire SameRun w v) :
    Related SameRun (interruptScheduledTurn env threadId turnId w) (interruptScheduledTurn env threadId turnId v) := by
  refine bind_related (act_related (fun log log' hlog => scheduled_write_same hlog) h) fun sent w v h => ?_
  cases sent with
  | some error => exact pure_related h
  | none =>
    refine bind_related (act_related (fun log log' hlog => ⟨by rw [hlog.1], hlog⟩) h) fun fits w v h => ?_
    cases fits with
    | false => exact pure_related h
    | true => exact reading_related interruptStep_related h

theorem waitForScheduledTurn_related {w v : Wire Poll ScheduledLog} (h : RelatedWire SameRun w v) :
    Related SameRun (waitForScheduledTurn env githubMcp threadId turnId w)
      (waitForScheduledTurn env githubMcp threadId turnId v) := by
  refine bind_related (reading_related scheduledTurnStep_related h) fun ended w v h => ?_
  cases ended with
  | result r => exact pure_related h
  | interrupt => exact interruptScheduledTurn_related h

theorem poll_passed {id : Nat} {name : String} {passed : List Poll} (hall : ∀ p ∈ passed, p.passedOver = true)
    (log : ScheduledLog) :
    ∃ log', SameRun log' log ∧ log'.requests = log.requests ++ passed.filterMap Poll.message? ∧
      poll (scheduledResponseStep id name) ((), log) passed = .waiting ((), log') := by
  induction passed generalizing log with
  | nil => exact ⟨log, ⟨rfl, rfl, rfl⟩, by simp, rfl⟩
  | cons p rest ih =>
    have hstep := @scheduledResponseStep_passedOver id name ((), log) p (hall p (by simp))
    have hpassed : SameRun (log.passOver p) log ∧
        (log.passOver p).requests = log.requests ++ (p.message?).toList := by
      obtain ⟨cancelled, read, expired⟩ := p
      match read with
      | .error error => exact ⟨⟨rfl, rfl, rfl⟩, by simp [ScheduledLog.passOver, Poll.message?]⟩
      | .ok .eof => exact ⟨⟨rfl, rfl, rfl⟩, by simp [ScheduledLog.passOver, Poll.message?]⟩
      | .ok .timedOut => exact ⟨⟨rfl, rfl, rfl⟩, by simp [ScheduledLog.passOver, Poll.message?]⟩
      | .ok (.message m) => exact ⟨⟨rfl, rfl, rfl⟩, rfl⟩
    obtain ⟨hsame₁, hrequests₁⟩ := hpassed
    obtain ⟨log', hsame, hrequests, hpoll⟩ := ih (fun q hq => hall q (by simp [hq])) (log.passOver p)
    refine ⟨log', ⟨hsame.1.trans hsame₁.1, hsame.2.1.trans hsame₁.2.1, hsame.2.2.trans hsame₁.2.2⟩, ?_, ?_⟩
    · rw [hrequests, hrequests₁]
      cases hm : p.message? with
      | none => simp [hm]
      | some m => simp [hm]
    · simp only [poll, hstep]
      exact hpoll

/-- 開始への応答を待つ者は、読み飛ばした文を履歴にだけ残して、次の文に応じる。 -/
theorem executePreparedProtocol_passed {request : ScheduledCodexRequest} {w : Wire Poll ScheduledLog}
    {passed rest : List Poll} {p : Poll} (hwrite : env.writeJson w.log.events.length = none)
    (hinput : w.input = passed ++ p :: rest) (hall : ∀ q ∈ passed, q.passedOver = true) (hp : p.passedOver = false) :
    ∃ log, SameRun log (started request threadId w.log) ∧
      log.requests = w.log.requests ++ passed.filterMap Poll.message? ∧
      executePreparedProtocol env request githubMcp threadId false w =
        match p.startResult with
        | .error r => .done r (p.answerWire rest log)
        | .ok turnId => waitForScheduledTurn env githubMcp threadId turnId (p.answerWire rest log) := by
  obtain ⟨log, hsame, hrequests, hpoll⟩ := @poll_passed 5 "turn/start" _ hall (started request threadId w.log)
  refine ⟨log, hsame, hrequests, ?_⟩
  have hreading : (scheduledRequest env 5 "turn/start" (scheduledTurnParams request threadId)).run w =
      Session.reading (scheduledResponseStep 5 "turn/start") () ⟨w.input, started request threadId w.log⟩ :=
    scheduledRequest_written hwrite
  unfold executePreparedProtocol
  simp only [Bool.false_eq_true, if_false]
  rw [Session.bind_apply, hreading]
  unfold Session.reading
  simp only [hinput, poll_append_of_waiting (p :: rest) hpoll, poll_startAnswer hp]
  exact afterTurnStart_startAnswer _

theorem startResult_requests {p : Poll} (w : Wire Poll ScheduledLog) :
    (match p.startResult with
      | .error r => Progress.done r w
      | .ok turnId => waitForScheduledTurn env githubMcp threadId turnId w).state.log.requests = w.log.requests := by
  cases p.startResult with
  | error r => rfl
  | ok turnId =>
    obtain ⟨calls, hwithin⟩ := @waitForScheduledTurn_within env githubMcp threadId turnId w
    exact hwithin.past.1

theorem waitForScheduledTurn_quiet {polls : List Poll} (harrives : ∀ p ∈ polls, p.arrives = true)
    (hall : ∀ p ∈ polls, ∀ m, p.message? = some m → isNotification m = true)
    (h : ∀ p ∈ polls, ∀ m, p.message? = some m → isScheduledTurnEvent threadId turnId m = false) (rest : List Poll)
    (log : ScheduledLog) :
    ∃ log', SameRun log' log ∧ waitForScheduledTurn env githubMcp threadId turnId ⟨polls ++ rest, log⟩ =
      waitForScheduledTurn env githubMcp threadId turnId ⟨rest, log'⟩ := by
  obtain ⟨log', hsame, hpoll⟩ := @poll_scheduled_quiet env githubMcp _ _ _ harrives hall h ScheduledTurnState.empty log
  refine ⟨log', hsame, ?_⟩
  rw [waitForScheduledTurn_run, waitForScheduledTurn_run]
  simp only [poll_append_of_waiting rest hpoll]

end Codeoff.Codex
