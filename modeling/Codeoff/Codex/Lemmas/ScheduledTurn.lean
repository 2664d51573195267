import Mathlib.Data.List.TakeWhile
import Codeoff.Codex.Lemmas.ScheduledLog

/-!
# 予定の発話の間の、回線の履歴

発話の終わりを待つ間も、取り消しの間も、回線の履歴は伸びるだけである。
-/

namespace Codeoff.Codex

open Codeoff.Control Codeoff.Core Codeoff.Json Codeoff.Runtime

variable {env : ScheduledEnv} {J : List TransportEvent → Prop} {githubMcp : Bool} {threadId turnId : String}

def Growing (J : List TransportEvent → Prop) : Prop := ∀ events event, J events → J (events ++ [event])

theorem growing_extends {events : List TransportEvent} : Growing (events <+: ·) :=
  fun _ _ h => h.trans (List.prefix_append ..)

theorem Growing.steady (hJ : Growing J) : Steady J := fun events event _ => hJ events event

@[simp] theorem interfere_events {log : ScheduledLog} : (log.interfere env).events = log.events := by
  unfold ScheduledLog.interfere
  cases env.others log.called.length with
  | none => rfl
  | some state => rfl

@[simp] theorem call_events {log : ScheduledLog} {c : GithubCall} : (log.call env c).2.events = log.events := by
  simp [ScheduledLog.call]

theorem startsTurn_responseMessage {message result : Value} {error : Option String} :
    (TransportEvent.wrote (responseMessage message result) error).startsTurn = false := by
  have hmethod : method (responseMessage message result) = none := by
    have hget : (responseMessage message result).get "method" = none := by
      rw [responseMessage, get_object (by simp)]
      rfl
    simp [method, field, hget, Value.ofOption, Value.asStr]
  simp [TransportEvent.startsTurn, isTurnStart, hmethod]

theorem handleScheduledDynamicToolCall_events {message : Value} {seen : List String} {log : ScheduledLog}
    (hJ : Steady J) (hlog : J log.events) :
    J (handleScheduledDynamicToolCall env threadId turnId message seen log).2.events := by
  unfold handleScheduledDynamicToolCall
  cases scheduledToolCall threadId turnId seen message with
  | error f => exact hlog
  | ok c =>
    have hcalled : J (log.call env c).2.events := by rwa [call_events]
    simp only
    generalize log.call env c = out at hcalled ⊢
    obtain ⟨answer, called⟩ := out
    cases answer with
    | error error => exact hcalled
    | ok result =>
      have hwritten : J (called.write env (responseMessage message (toolResult result))).2.events :=
        hJ _ _ startsTurn_responseMessage hcalled
      simp only
      generalize called.write env (responseMessage message (toolResult result)) = out at hwritten ⊢
      obtain ⟨error, written⟩ := out
      cases error with
      | none => exact hwritten
      | some error => exact hwritten

/-- 発話の間の一文を扱っても、発話を始めない出来事で保たれる性質は保たれる。 -/
theorem handleTurnMessage_events {message : Value} {state : ScheduledTurnState} {log : ScheduledLog}
    (hJ : Steady J) (hlog : J log.events) :
    J (handleTurnMessage env githubMcp threadId turnId message state log).state.2.events := by
  unfold handleTurnMessage
  cases scheduledMessage threadId turnId message with
  | toolCall =>
    cases githubMcp with
    | false => exact hlog
    | true =>
      have hhandled := @handleScheduledDynamicToolCall_events env _ threadId turnId message state.toolCallIds _ hJ hlog
      simp only [Bool.not_true, Bool.false_eq_true, if_false]
      generalize handleScheduledDynamicToolCall env threadId turnId message state.toolCallIds log = out at hhandled ⊢
      obtain ⟨answer, log'⟩ := out
      cases answer with
      | error f => exact hhandled
      | ok id => exact hhandled
  | itemCompleted =>
    simp only
    cases recordAgentMessage (field (params message) "item") state.phasedFinal with
    | error f => exact hlog
    | ok final => exact hlog
  | turnCompleted => exact hlog
  | other => exact hlog

theorem scheduledTurnStep_events {s : ScheduledTurnState × ScheduledLog} {p : Poll} (hJ : Steady J)
    (hs : J s.2.events) : J (scheduledTurnStep env githubMcp threadId turnId s p).state.2.events := by
  obtain ⟨cancelled, read, expired⟩ := p
  cases cancelled with
  | true => exact hs
  | false =>
    match read with
    | .error error => exact hs
    | .ok .eof => exact hs
    | .ok .timedOut =>
      cases expired with
      | true => exact hs
      | false => exact hs
    | .ok (.message message) =>
      simp only [scheduledTurnStep, readTurnMessage, Bool.false_eq_true, if_false]
      cases observeFinalStreamEvent threadId turnId message s.1 with
      | error f => exact hs
      | ok state => exact handleTurnMessage_events hJ hs

theorem interruptStep_events (s : Unit × ScheduledLog) (p : Poll) :
    (interruptStep threadId turnId s p).state.2.events = s.2.events := by
  obtain ⟨cancelled, read, expired⟩ := p
  match read with
  | .error error => rfl
  | .ok .eof => rfl
  | .ok .timedOut => rfl
  | .ok (.message message) =>
    simp only [interruptStep]
    split_ifs
    all_goals rfl

theorem interruptScheduledTurn_keeps (hJ : Steady J) :
    KeepsEvents J (interruptScheduledTurn env threadId turnId) := by
  refine Session.Keeps.bind (KeepsEvents.act fun log hlog => hJ.request (by decide) _ _ hlog) fun sent => ?_
  cases sent with
  | some error => exact Session.Keeps.pure
  | none =>
    refine Session.Keeps.bind (KeepsEvents.act fun log hlog => hlog) fun fits => ?_
    cases fits with
    | false => exact Session.Keeps.pure
    | true =>
      refine KeepsEvents.reading fun s p hs => ?_
      rwa [interruptStep_events]

theorem waitForScheduledTurn_keeps (hJ : Steady J) :
    KeepsEvents J (waitForScheduledTurn env githubMcp threadId turnId) := by
  refine Session.Keeps.bind (KeepsEvents.reading fun s p hs => scheduledTurnStep_events hJ hs) fun ended => ?_
  cases ended with
  | result r => exact Session.Keeps.pure
  | interrupt => exact interruptScheduledTurn_keeps hJ

/-- 開始の要求を書いても保たれる性質は、実行の全体で保たれる。 -/
theorem executePreparedProtocol_starts {request : ScheduledCodexRequest} {cancelled : Bool} (hJ : Steady J)
    (hstart : ∀ events error, J events →
      J (events ++ [.wrote (requestMessage 5 "turn/start" (scheduledTurnParams request threadId)) error])) :
    KeepsEvents J (executePreparedProtocol env request githubMcp threadId cancelled) := by
  cases cancelled with
  | true => exact Session.Keeps.pure
  | false =>
    refine Session.Keeps.bind (scheduledRequest_keeps hstart) fun response => ?_
    cases response with
    | error f => exact Session.Keeps.pure
    | ok turn =>
      simp only [afterTurnStart]
      cases startedTurn turn with
      | none => exact Session.Keeps.pure
      | some turnId => exact waitForScheduledTurn_keeps hJ

theorem executePreparedProtocol_keeps {request : ScheduledCodexRequest} {cancelled : Bool} (hJ : Growing J) :
    KeepsEvents J (executePreparedProtocol env request githubMcp threadId cancelled) :=
  executePreparedProtocol_starts hJ.steady fun events _ => hJ events _

def interrupting (env : ScheduledEnv) (threadId turnId : String) (log : ScheduledLog) : ScheduledLog :=
  (log.write env (requestMessage 5 "turn/interrupt" (interruptParams threadId turnId))).2

/-- 取り消しは、求めを書けたときにだけ、確認を待つ。 -/
theorem interruptScheduledTurn_run (w : Wire Poll ScheduledLog) :
    interruptScheduledTurn env threadId turnId w =
      match env.writeJson w.log.events.length with
      | some error => .done (transportFailure error) { w with log := interrupting env threadId turnId w.log }
      | none =>
        if env.deadlineFits (interrupting env threadId turnId w.log).events.length then
          Session.reading (interruptStep threadId turnId) () { w with log := interrupting env threadId turnId w.log }
        else
          .done (.transportLost (preflight "scheduled_interrupt_deadline_overflow"))
            { w with log := interrupting env threadId turnId w.log } := by
  have hact : Session.act (fun log : ScheduledLog =>
      log.write env (requestMessage 5 "turn/interrupt" (interruptParams threadId turnId))) w =
      .done (env.writeJson w.log.events.length) { w with log := interrupting env threadId turnId w.log } := rfl
  rw [interruptScheduledTurn, Session.bind_done _ hact]
  cases env.writeJson w.log.events.length with
  | some error => rfl
  | none =>
    have hfits : Session.act (fun log : ScheduledLog => (env.deadlineFits log.events.length, log))
        { w with log := interrupting env threadId turnId w.log } =
        .done (env.deadlineFits (interrupting env threadId turnId w.log).events.length)
          { w with log := interrupting env threadId turnId w.log } := rfl
    simp only
    rw [Session.bind_done _ hfits]
    split_ifs
    · rfl
    · rfl

/-- 待ちは、結果で終わるか、取り消しに移るか、まだ続いている。 -/
theorem waitForScheduledTurn_run (w : Wire Poll ScheduledLog) :
    waitForScheduledTurn env githubMcp threadId turnId w =
      match poll (scheduledTurnStep env githubMcp threadId turnId) (.empty, w.log) w.input with
      | .waiting s => .waiting { input := [], log := s.2 }
      | .ended (.result r) s rest => .done r { input := rest, log := s.2 }
      | .ended .interrupt s rest => interruptScheduledTurn env threadId turnId { input := rest, log := s.2 } := by
  rw [waitForScheduledTurn, Session.bind_apply]
  unfold Session.reading
  cases poll (scheduledTurnStep env githubMcp threadId turnId) (.empty, w.log) w.input with
  | waiting s => rfl
  | ended ended s rest =>
    cases ended with
    | result r => rfl
    | interrupt => rfl

/-!
## 集めた最後の答え

発話の終わりを待つ者が持つ最後の答えは、それまでに完了した発言のうち、空でない最後のものである。
-/

variable {env : ScheduledEnv} {githubMcp : Bool} {threadId turnId : String}

def completedItem (threadId turnId : String) (message : Value) : Option Value :=
  if method message = some "item/completed" ∧ namesTurn threadId turnId (params message) then
    some (field (params message) "item")
  else none

def Poll.completedItem (threadId turnId : String) (p : Poll) : Option Value :=
  match p.read with
  | .ok (.message message) => Codex.completedItem threadId turnId message
  | _ => none

def lastFinalAnswer (items : List Value) : Option String := (items.filterMap finalAnswerText).getLast?

theorem lastFinalAnswer_append (items more : List Value) :
    lastFinalAnswer (items ++ more) = (lastFinalAnswer more).or (lastFinalAnswer items) := by
  simp [lastFinalAnswer, List.filterMap_append, List.getLast?_append]

theorem lastFinalAnswer_singleton (item : Value) : lastFinalAnswer [item] = finalAnswerText item := by
  cases h : finalAnswerText item with
  | none => simp [lastFinalAnswer, h]
  | some text => simp [lastFinalAnswer, h]

theorem recordAgentMessage_ok {item : Value} {phasedFinal final : Option String}
    (h : recordAgentMessage item phasedFinal = .ok final) : final = (lastFinalAnswer [item]).or phasedFinal := by
  rw [lastFinalAnswer_singleton]
  unfold recordAgentMessage at h
  cases htext : finalAnswerText item with
  | none => simp only [htext] at h; cases h; rfl
  | some text =>
    simp only [htext] at h
    split_ifs at h
    cases h
    rfl

/-- 断られなければ、集めた答えは、空でない最後の発言である。 -/
theorem recordAgentMessages_ok {items : List Value} {phasedFinal final : Option String}
    (h : recordAgentMessages items phasedFinal = .ok final) :
    final = (lastFinalAnswer items).or phasedFinal := by
  induction items generalizing phasedFinal with
  | nil => cases h; rfl
  | cons item items ih =>
    simp only [recordAgentMessages, List.foldlM_cons] at h
    cases hfirst : recordAgentMessage item phasedFinal with
    | error f => simp [hfirst, bind, Except.bind] at h
    | ok next =>
      simp only [hfirst, bind, Except.bind] at h
      rw [ih h, recordAgentMessage_ok hfirst, ← Option.or_assoc, ← lastFinalAnswer_append]
      rfl

theorem observeFinalStreamEvent_phasedFinal {message : Value} {state observed : ScheduledTurnState}
    (h : observeFinalStreamEvent threadId turnId message state = .ok observed) :
    observed.phasedFinal = state.phasedFinal := by
  unfold observeFinalStreamEvent at h
  split_ifs at h
  · cases h; rfl
  · unfold observeFinalItem at h
    cases hid : (field (field (params message) "item") "id").asStr with
    | none => simp [hid] at h
    | some itemId =>
      simp only [hid] at h
      split_ifs at h
      · cases h; rfl
      · cases h; rfl
  · unfold observeFinalDelta at h
    cases hdelta : (field (params message) "delta").asStr with
    | none => simp [hdelta] at h
    | some delta =>
      simp only [hdelta] at h
      split_ifs at h
      cases h
      rfl
  · cases h; rfl

theorem scheduledMessage_spec (threadId turnId : String) (message : Value) :
    match scheduledMessage threadId turnId message with
    | .itemCompleted => completedItem threadId turnId message = some (field (params message) "item")
    | .turnCompleted => method message = some "turn/completed" ∧ namesEndedTurn threadId turnId (params message) = true
    | _ => completedItem threadId turnId message = none := by
  unfold scheduledMessage completedItem
  by_cases hcall : method message = some "item/tool/call"
  · simp [hcall]
  · by_cases hitem : method message = some "item/completed" ∧ namesTurn threadId turnId (params message) = true
    · simp [hitem]
    · by_cases hturn : method message = some "turn/completed" ∧ namesEndedTurn threadId turnId (params message) = true
      · simp [hturn]
      · simp only [if_neg hcall, if_neg hitem, if_neg hturn]

theorem recordAgentMessages_singleton (item : Value) (final : Option String) :
    recordAgentMessages [item] final = recordAgentMessage item final := by
  cases h : recordAgentMessage item final <;> simp [recordAgentMessages, h]

/-- 続く一歩では、終わった項目の答えが、順に記録に入る。 -/
theorem scheduledTurnStep_records {s s' : ScheduledTurnState × ScheduledLog} {p : Poll}
    (h : scheduledTurnStep env githubMcp threadId turnId s p = .next s') :
    recordAgentMessages (p.completedItem threadId turnId).toList s.1.phasedFinal = .ok s'.1.phasedFinal := by
  obtain ⟨cancelled, read, expired⟩ := p
  cases cancelled with
  | true => cases h
  | false =>
    match read with
    | .error error => cases h
    | .ok .eof => cases h
    | .ok .timedOut =>
      cases expired with
      | true => cases h
      | false => cases h; rfl
    | .ok (.message message) =>
      simp only [scheduledTurnStep, readTurnMessage, Bool.false_eq_true, if_false] at h
      cases hobserve : observeFinalStreamEvent threadId turnId message s.1 with
      | error f => simp [hobserve] at h
      | ok observed =>
        simp only [hobserve, handleTurnMessage] at h
        have hsame := observeFinalStreamEvent_phasedFinal hobserve
        have hspec := scheduledMessage_spec threadId turnId message
        cases hkind : scheduledMessage threadId turnId message with
        | toolCall =>
          simp only [hkind] at h hspec
          split_ifs at h
          rcases hcall : handleScheduledDynamicToolCall env threadId turnId message observed.toolCallIds
            (s.2.hear message) with ⟨answer, log⟩
          cases answer with
          | error f => simp [hcall] at h
          | ok id =>
            simp only [hcall] at h
            cases h
            simp only [Poll.completedItem, hspec, hsame]
            rfl
        | itemCompleted =>
          simp only [hkind] at h hspec
          cases hrecord : recordAgentMessage (field (params message) "item") observed.phasedFinal with
          | error f => simp [hrecord] at h
          | ok final =>
            simp only [hrecord] at h
            cases h
            simp only [Poll.completedItem, hspec, Option.toList_some, recordAgentMessages_singleton]
            rw [← hsame, hrecord]
        | turnCompleted => simp [hkind] at h
        | other =>
          simp only [hkind] at h hspec
          cases h
          simp only [Poll.completedItem, hspec, hsame]
          rfl

theorem scheduledTurnStep_phasedFinal {s s' : ScheduledTurnState × ScheduledLog} {p : Poll}
    (h : scheduledTurnStep env githubMcp threadId turnId s p = .next s') :
    s'.1.phasedFinal = (lastFinalAnswer (p.completedItem threadId turnId).toList).or s.1.phasedFinal :=
  recordAgentMessages_ok (scheduledTurnStep_records h)

/-- 待っているあいだの最後の答えは、終わった項目のうち最後のものである。 -/
theorem poll_phasedFinal {s s' : ScheduledTurnState × ScheduledLog} {polls : List Poll}
    (h : poll (scheduledTurnStep env githubMcp threadId turnId) s polls = .waiting s') :
    s'.1.phasedFinal = (lastFinalAnswer (polls.filterMap (Poll.completedItem threadId turnId))).or s.1.phasedFinal := by
  have hhistory := @poll_waiting_history _ _ _ _ (fun past s' => s'.1.phasedFinal =
      (lastFinalAnswer (past.filterMap (Poll.completedItem threadId turnId))).or s.1.phasedFinal) [] (by
      intro past t p t' ht hstep
      rw [scheduledTurnStep_phasedFinal hstep, ht, List.filterMap_append, lastFinalAnswer_append, Option.or_assoc]
      cases hitem : p.completedItem threadId turnId with
      | none => simp [hitem]
      | some item => simp [hitem]) s _ _ rfl h
  simpa using hhistory

/-! ## 断る答え -/

def answerTooLarge : ScheduledFailure := outputViolation "scheduled_final_response_too_large"

def TooLarge (text : String) : Prop := maxFinalResponseBytes < byteLen text

/-- 大きさのほかに、最後の答えを断る理由。検査の順に七つある。 -/
def malformedAnswer : List ScheduledFailure :=
  ["scheduled_final_response_invalid_json", "scheduled_final_response_too_deep",
    "scheduled_final_response_must_be_object", "scheduled_final_response_fields_mismatch",
    "scheduled_final_response_version_mismatch", "scheduled_final_response_summary_invalid",
    "scheduled_final_response_summary_too_large"].map outputViolation

theorem answerTooLarge_not_malformed : answerTooLarge ∉ malformedAnswer := by decide +kernel

/-- 上限に収まる答えが断られるのは、七つの理由のどれかによる。 -/
theorem parseFinalOutput_error {text : String} {f : ScheduledFailure} (hsmall : ¬TooLarge text)
    (h : parseFinalOutput text = .error f) : f ∈ malformedAnswer := by
  unfold TooLarge at hsmall
  unfold parseFinalOutput at h
  rw [if_neg hsmall] at h
  unfold malformedAnswer
  refine List.mem_map.mpr ?_
  split at h
  · cases h
    exact ⟨_, by decide, rfl⟩
  split at h
  · cases h
    exact ⟨_, by decide, rfl⟩
  split at h
  · cases h
    exact ⟨_, by decide, rfl⟩
  split at h
  · cases h
    exact ⟨_, by decide, rfl⟩
  split at h
  · cases h
    exact ⟨_, by decide, rfl⟩
  split at h
  · cases h
    exact ⟨_, by decide, rfl⟩
  split at h
  · cases h
    exact ⟨_, by decide, rfl⟩
  · cases h

theorem parseFinalOutput_tooLarge {text : String} : parseFinalOutput text = .error answerTooLarge ↔ TooLarge text := by
  constructor
  · intro h
    by_contra hsmall
    exact answerTooLarge_not_malformed (parseFinalOutput_error hsmall h)
  · exact fun hlarge => if_pos hlarge

theorem recordAgentMessage_error {item : Value} {phasedFinal : Option String} {f : ScheduledFailure}
    (h : recordAgentMessage item phasedFinal = .error f) : f = answerTooLarge := by
  unfold recordAgentMessage at h
  cases htext : finalAnswerText item with
  | none => simp [htext] at h
  | some text =>
    simp only [htext] at h
    split_ifs at h
    cases h
    rfl

theorem recordAgentMessages_append {items more : List Value} {final : Option String} :
    recordAgentMessages (items ++ more) final = (recordAgentMessages items final).bind (recordAgentMessages more) := by
  rw [recordAgentMessages, List.foldlM_append]
  rfl

/-- 集めることは、上限を超える答えがあれば断られ、なければ最後の答えになる。 -/
theorem recordAgentMessages_cases (items : List Value) (final : Option String) :
    (recordAgentMessages items final = .error answerTooLarge ∧ ∃ text ∈ items.filterMap finalAnswerText, TooLarge text) ∨
      (recordAgentMessages items final = .ok ((lastFinalAnswer items).or final) ∧
        ∀ text ∈ items.filterMap finalAnswerText, ¬TooLarge text) := by
  induction items generalizing final with
  | nil => exact .inr ⟨rfl, by simp⟩
  | cons item items ih =>
    have hsplit : recordAgentMessages (item :: items) final =
        (recordAgentMessage item final).bind (recordAgentMessages items) := by
      rw [← recordAgentMessages_singleton, ← recordAgentMessages_append]
      rfl
    rw [hsplit, recordAgentMessage]
    cases htext : finalAnswerText item with
    | none =>
      rw [List.filterMap_cons_none htext]
      simpa [lastFinalAnswer, htext, Except.bind] using ih final
    | some text =>
      rw [List.filterMap_cons_some htext]
      by_cases hlarge : maxFinalResponseBytes < byteLen text
      · exact .inl ⟨by simp [hlarge, Except.bind, answerTooLarge], text, List.mem_cons_self, hlarge⟩
      · have hlast : lastFinalAnswer (item :: items) = (lastFinalAnswer items).or (some text) := by
          rw [← List.singleton_append, lastFinalAnswer_append, lastFinalAnswer_singleton, htext]
        rw [hlast]
        rcases ih (some text) with ⟨herror, found, hfound, hfoundLarge⟩ | ⟨hok, hsmall⟩
        · exact .inl ⟨by simp [hlarge, Except.bind, herror], found, List.mem_cons_of_mem _ hfound, hfoundLarge⟩
        · refine .inr ⟨?_, by simpa using ⟨hlarge, by simpa using hsmall⟩⟩
          simp [hlarge, Except.bind, hok]

/-!
## 発話の開始への応答

応答を待つ者は、知らせと、期限前の待ちを読み飛ばす。その次に届くものが、開始の成否を決める。
-/

variable {env : ScheduledEnv}

def Poll.passedOver (p : Poll) : Bool :=
  !p.cancelled &&
    match p.read with
    | .ok (.message message) => isNotification message
    | .ok .timedOut => !p.expired
    | _ => false

def ScheduledLog.passOver (log : ScheduledLog) (p : Poll) : ScheduledLog :=
  match p.read with
  | .ok (.message message) => log.readResponse message
  | _ => log

theorem scheduledResponseStep_passedOver {id : Nat} {name : String} (s : Unit × ScheduledLog) (p : Poll)
    (h : p.passedOver = true) : scheduledResponseStep id name s p = .next ((), s.2.passOver p) := by
  obtain ⟨cancelled, read, expired⟩ := p
  simp only [Poll.passedOver, Bool.and_eq_true, Bool.not_eq_true'] at h
  match read with
  | .error error => simp at h
  | .ok .eof => simp at h
  | .ok .timedOut =>
    simp only [Bool.not_eq_true'] at h
    simp [scheduledResponseStep, h.1, h.2, ScheduledLog.passOver]
  | .ok (.message message) =>
    simp only at h
    simp [scheduledResponseStep, h.1, h.2, ScheduledLog.passOver]

/-- 読み飛ばす間に読むのは、知らせだけである。 -/
structure PassedOver (before after : ScheduledLog) : Prop where
  events : after.events = before.events
  requests : ∃ notifications, after.requests = before.requests ++ notifications ∧
    ∀ m ∈ notifications, isNotification m = true
  heard : after.heard = before.heard
  called : after.called = before.called
  github : after.github = before.github

theorem PassedOver.refl {log : ScheduledLog} : PassedOver log log :=
  ⟨rfl, ⟨[], by simp⟩, rfl, rfl, rfl⟩

theorem PassedOver.passOver {before log : ScheduledLog} {p : Poll} (h : PassedOver before log)
    (hp : p.passedOver = true) : PassedOver before (log.passOver p) := by
  obtain ⟨cancelled, read, expired⟩ := p
  match read with
  | .error error => exact h
  | .ok .eof => exact h
  | .ok .timedOut => exact h
  | .ok (.message message) =>
    simp only [Poll.passedOver, Bool.and_eq_true] at hp
    obtain ⟨notifications, hrequests, hall⟩ := h.requests
    refine ⟨h.events, ⟨notifications ++ [message], ?_, ?_⟩, h.heard, h.called, h.github⟩
    · simp [ScheduledLog.passOver, ScheduledLog.readResponse, hrequests]
    · intro m hm
      rcases List.mem_append.mp hm with hm | hm
      · exact hall m hm
      · rw [List.mem_singleton.mp hm]; exact hp.2

theorem foldl_passedOver {before log : ScheduledLog} (polls : List Poll) (h : PassedOver before log)
    (hall : ∀ p ∈ polls, p.passedOver = true) :
    ∃ log', polls.foldl (fun (s : Unit × ScheduledLog) p => ((), s.2.passOver p)) ((), log) = ((), log') ∧
      PassedOver before log' := by
  induction polls generalizing log with
  | nil => exact ⟨log, rfl, h⟩
  | cons p rest ih =>
    exact ih (h.passOver (hall p (by simp))) fun q hq => hall q (by simp [hq])

/-- 応答を待つ者は、読み飛ばせるものを読み飛ばしてから、最初の残りを読む。 -/
theorem poll_scheduledResponse {id : Nat} {name : String} (log : ScheduledLog) (input : List Poll) :
    ∃ log', PassedOver log log' ∧
      poll (scheduledResponseStep id name) ((), log) input =
        poll (scheduledResponseStep id name) ((), log') (input.dropWhile Poll.passedOver) := by
  obtain ⟨log', hfold, hpassed⟩ := foldl_passedOver (input.takeWhile Poll.passedOver) PassedOver.refl
    fun p hp => List.mem_takeWhile_imp hp
  exact ⟨log', hpassed, by rw [poll_dropWhile scheduledResponseStep_passedOver, hfold]⟩

theorem dropWhile_head {input rest : List Poll} {p : Poll} (h : input.dropWhile Poll.passedOver = p :: rest) :
    p.passedOver = false := by
  have := List.head?_dropWhile_not Poll.passedOver input
  rw [h] at this
  simpa using this

theorem scheduledRequest_written {id : Nat} {name : String} {params : Value} {w : Wire Poll ScheduledLog}
    (hwrite : env.writeJson w.log.events.length = none) :
    (scheduledRequest env id name params).run w =
      Session.reading (scheduledResponseStep id name) ()
        { w with log := w.log.record (.wrote (requestMessage id name params) none) } := by
  have hsend : (sendScheduled env (requestMessage id name params)).run w =
      .done (.ok ()) { w with log := w.log.record (.wrote (requestMessage id name params) none) } := by
    simp only [sendScheduled, ExceptT.run_mk, Session.act, ScheduledLog.write, hwrite]
  rw [scheduledRequest, Session.except_bind_ok _ hsend]
  rfl

theorem scheduledRequest_unwritten {id : Nat} {name error : String} {params : Value} {w : Wire Poll ScheduledLog}
    (hwrite : env.writeJson w.log.events.length = some error) :
    (scheduledRequest env id name params).run w =
      .done (.error (failure .transport error))
        { w with log := w.log.record (.wrote (requestMessage id name params) (some error)) } := by
  have hsend : (sendScheduled env (requestMessage id name params)).run w =
      .done (.error (failure .transport error))
        { w with log := w.log.record (.wrote (requestMessage id name params) (some error)) } := by
    simp only [sendScheduled, ExceptT.run_mk, Session.act, ScheduledLog.write, hwrite]
  rw [scheduledRequest, Session.except_bind_error _ hsend]

def Poll.startAnswer (p : Poll) : Except ScheduledFailure Value :=
  if p.cancelled then .error (failure .interrupted "turn/start_cancelled")
  else
    match p.read with
    | .ok (.message response) => acceptScheduledResponse 5 "turn/start" response
    | .ok .timedOut => .error (failure .timedOut "turn/start_timed_out")
    | .ok .eof => .error (failure .transport "turn/start_transport_eof")
    | .error error => .error (failure .transport error)

def Poll.answerWire (p : Poll) (rest : List Poll) (log : ScheduledLog) : Wire Poll ScheduledLog :=
  if p.cancelled then ⟨p :: rest, log⟩ else ⟨rest, log.passOver p⟩

/-- 読み飛ばせない最初の一つで、開始への応答は決まる。 -/
theorem poll_startAnswer {p : Poll} (hp : p.passedOver = false) (rest : List Poll) (log : ScheduledLog) :
    poll (scheduledResponseStep 5 "turn/start") ((), log) (p :: rest) =
      .ended p.startAnswer ((), (p.answerWire rest log).log) (p.answerWire rest log).input := by
  obtain ⟨cancelled, read, expired⟩ := p
  cases cancelled with
  | true => rfl
  | false =>
    match read with
    | .error error => rfl
    | .ok .eof => rfl
    | .ok .timedOut =>
      cases expired with
      | true => rfl
      | false => simp [Poll.passedOver] at hp
    | .ok (.message message) =>
      simp only [Poll.passedOver, Bool.not_false, Bool.true_and] at hp
      simp [poll, scheduledResponseStep, hp, Poll.startAnswer, Poll.answerWire, ScheduledLog.passOver]

def Poll.startResult (p : Poll) : Except ScheduledExecutionResult String :=
  match p.startAnswer with
  | .error f => .error (protocolFailure f)
  | .ok turn =>
    match startedTurn turn with
    | none => .error (protocolFailure (capability "turn_start_missing_turn_id"))
    | some turnId => .ok turnId

theorem afterTurnStart_startAnswer {githubMcp : Bool} {threadId : String} {p : Poll} (w : Wire Poll ScheduledLog) :
    afterTurnStart env githubMcp threadId p.startAnswer w =
      match p.startResult with
      | .error r => .done r w
      | .ok turnId => waitForScheduledTurn env githubMcp threadId turnId w := by
  unfold Poll.startResult
  cases p.startAnswer with
  | error f => rfl
  | ok turn =>
    simp only [afterTurnStart]
    cases startedTurn turn with
    | none => rfl
    | some turnId => rfl

def started (request : ScheduledCodexRequest) (threadId : String) (log : ScheduledLog) : ScheduledLog :=
  log.record (.wrote (requestMessage 5 "turn/start" (scheduledTurnParams request threadId)) none)

theorem executePreparedProtocol_started {request : ScheduledCodexRequest} {githubMcp : Bool} {threadId : String}
    {w : Wire Poll ScheduledLog} (hwrite : env.writeJson w.log.events.length = none) :
    ∃ log, PassedOver (started request threadId w.log) log ∧
      executePreparedProtocol env request githubMcp threadId false w =
        match w.input.dropWhile Poll.passedOver with
        | [] => .waiting ⟨[], log⟩
        | p :: rest =>
          match p.startResult with
          | .error r => .done r (p.answerWire rest log)
          | .ok turnId => waitForScheduledTurn env githubMcp threadId turnId (p.answerWire rest log) := by
  obtain ⟨log, hpassed, hpoll⟩ := @poll_scheduledResponse 5 "turn/start" (started request threadId w.log) w.input
  refine ⟨log, hpassed, ?_⟩
  have hreading : (scheduledRequest env 5 "turn/start" (scheduledTurnParams request threadId)).run w =
      Session.reading (scheduledResponseStep 5 "turn/start") () ⟨w.input, started request threadId w.log⟩ :=
    scheduledRequest_written hwrite
  unfold executePreparedProtocol
  simp only [Bool.false_eq_true, if_false]
  rw [Session.bind_apply, hreading]
  unfold Session.reading
  simp only [hpoll]
  cases hdrop : w.input.dropWhile Poll.passedOver with
  | nil => rfl
  | cons p rest =>
    rw [poll_startAnswer (dropWhile_head hdrop)]
    exact afterTurnStart_startAnswer _

end Codeoff.Codex
