import Codeoff.Codex.Lemmas.ScheduledQuiet
import Codeoff.Codex.Theorems.TerminalVerdict

/-!
# 発話の出来事の行方

開始への応答を待つ者は、知らせを読み捨て、知らせでない最初の文を応答とみなす。
-/

/-!
## 要求への答え

発話の終わりを待つ間に書く答えは、道具の呼び出しと対話の求めという種類で決まり、`id` の有無では決まらない。
-/

namespace Codeoff.Codex

open Codeoff.Control Codeoff.Json Codeoff.Agent

variable {context : CodexDynamicToolContext} {allowed : List String} {threadId turnId : String}

/-- 記録が `before` から `after` になる間に、読んだ要求のそれぞれに、同じ `id` の応答を一つずつ、要求の順に書いた。ほかには何も書かない。 -/
def AnswersExactly (before after : TurnLog) : Prop :=
  (∀ answer ∈ after.written.drop before.written.length, isResponse answer) ∧
    (after.written.drop before.written.length).map messageId =
    ((after.heard.drop before.heard.length).filter isServerRequest).map messageId

theorem method_isSome_of_isAnswered {message : Value} (h : isAnswered message = true) :
    (method message).isSome = true := by
  cases hmethod : method message with
  | none => simp [isAnswered, hmethod] at h
  | some m => rfl

theorem isNull_of_isServerRequest {message : Value} (h : isServerRequest message = true) :
    (messageId message).isNull = false := by
  simp only [isServerRequest, Bool.and_eq_true, Bool.not_eq_true'] at h
  exact h.1

/-- 答えた文の `id` と要求の `id` の並びが同じなら、答えた文は要求である。 -/
theorem isServerRequest_of_isAnswered {messages : List Value}
    (h : (messages.filter isAnswered).map messageId = (messages.filter isServerRequest).map messageId)
    {message : Value} (hmem : message ∈ messages) (hanswered : isAnswered message = true) :
    isServerRequest message = true := by
  have hid : messageId message ∈ (messages.filter isServerRequest).map messageId := by
    rw [← h]
    exact List.mem_map_of_mem (List.mem_filter.mpr ⟨hmem, hanswered⟩)
  obtain ⟨request, hrequest, heq⟩ := List.mem_map.mp hid
  have hnull : (messageId message).isNull = false := by
    rw [← heq]
    exact isNull_of_isServerRequest (List.mem_filter.mp hrequest).2
  simp [isServerRequest, hnull, method_isSome_of_isAnswered hanswered]

theorem ids_eq_iff {messages : List Value} :
    (messages.filter isAnswered).map messageId = (messages.filter isServerRequest).map messageId ↔
      ∀ message ∈ messages, isServerRequest message = isAnswered message := by
  constructor
  · intro h
    -- 答えた文は要求の部分列であり、同じ個数である
    have hsub : ∀ message ∈ messages, isAnswered message = true → isServerRequest message = true :=
      fun message hmem hanswered => isServerRequest_of_isAnswered h hmem hanswered
    have hfilter : messages.filter isAnswered = (messages.filter isServerRequest).filter isAnswered := by
      rw [List.filter_filter]
      refine List.filter_congr fun message hmem => ?_
      cases hanswered : isAnswered message with
      | false => simp
      | true => simp [hsub message hmem hanswered]
    have hlength : (messages.filter isAnswered).length = (messages.filter isServerRequest).length := by
      simpa using congrArg List.length h
    have hall : messages.filter isAnswered = messages.filter isServerRequest := by
      rw [hfilter] at hlength ⊢
      exact List.filter_sublist.eq_of_length hlength
    intro message hmem
    cases hanswered : isAnswered message with
    | true => exact hsub message hmem hanswered
    | false =>
      by_contra hrequest
      have hin : message ∈ messages.filter isServerRequest :=
        List.mem_filter.mpr ⟨hmem, by simpa using hrequest⟩
      rw [← hall] at hin
      simp [hanswered] at hin
  · intro h
    rw [List.filter_congr fun message hmem => (h message hmem).symm]

/-- 読んだ文の要求が、ちょうど答える種類の文であるときに限り、要求にだけ一度ずつ答える。 -/
theorem answers_exactly (env : AppServerEnv) (w : Wire (Except String Value) TurnLog) :
    let after := (waitForTerminalTurn env context allowed threadId turnId w).state.log
    AnswersExactly w.log after ↔
      ∀ message ∈ after.heard.drop w.log.heard.length, isServerRequest message = isAnswered message := by
  obtain ⟨messages, h⟩ := @waitForTerminalTurn_heard env context allowed threadId turnId w
  obtain ⟨answers, hwritten, hresponses, hanswers⟩ := h.written
  simp only [AnswersExactly, h.heard, hwritten, List.drop_left, hanswers]
  exact (and_iff_right hresponses).trans ids_eq_iff

def quietEnv : AppServerEnv where
  version := "0"
  ephemeralThreads := true
  spawn := none
  writeJson := fun _ => none
  toolSpecs := fun _ => []
  toolOutput := fun _ => .null
  debugText := id

def unknownRequest : Value := requestMessage 7 "fs/readFile" (.obj [])

def operatorContext : CodexDynamicToolContext := ⟨.trustedOperator "1", .service "codeoff", none⟩

/-- 知らないメソッドの要求は、答えないまま読み進む。 -/
theorem unknownRequest_unanswered :
    ¬AnswersExactly .empty (waitForTerminalTurn quietEnv operatorContext [] "t" "u"
      ⟨[.ok unknownRequest], .empty⟩).state.log := by
  intro h
  have hcount := congrArg List.length h.2
  exact absurd hcount (by decide +kernel)

open Session

def isStreamed (message : Value) : Bool := isNotification message || isServerRequest message

/-! ## 会話の発話 -/

/-- 始まる発話と、その前後に届くもの。`wire` は、開始を書く前の回線。 -/
structure TurnDelivery where
  threadId : String
  turnId : String
  turnRequestId : Nat
  tools : List Value
  allowed : List String
  wire : Wire (Except String Value) TurnLog
  before : List Value
  response : Value
  after : List (Except String Value)

/-- 会話が開き、発話の開始が書け、その応答が `before` の後に届く。 -/
structure TurnDelivery.Occurs (d : TurnDelivery) (env : AppServerEnv) (request : CodexAppServerRequest)
    (w : Wire (Except String Value) TurnLog) : Prop where
  spawned : env.spawn = none
  resolved : resolveDynamicTools env.debugText (env.toolSpecs request.dynamicToolContext) request.toolPolicy =
    .ok (d.tools, d.allowed)
  opened : (openThread env d.tools request).run w = .done (.ok (d.threadId, d.turnRequestId)) d.wire
  written : env.writeJson d.wire.log.written.length = none
  input : d.wire.input = d.before.map .ok ++ .ok d.response :: d.after
  streamed : ∀ m ∈ d.before, isStreamed m = true
  responds : method d.response = none
  started : ∃ turn, acceptResponse d.turnRequestId "turn/start" d.response = .ok turn ∧
    startedTurn turn = some d.turnId

/-- 発話の出来事は応答の待ちに読まれず、結末は、応答を除いたすべての文を待つ者の結末である。 -/
def KeepsTurnEvents (env : AppServerEnv) (request : CodexAppServerRequest) (w : Wire (Except String Value) TurnLog)
    (d : TurnDelivery) : Prop :=
  let actual := (startJsonlTurn env request).run w
  (∀ m ∈ actual.state.log.responses.drop d.wire.log.responses.length, isTurnEvent d.threadId d.turnId m = false) ∧
    Related SameTurn actual ((awaitTurn env request d.allowed d.threadId d.turnId).run
      ⟨d.before.map .ok ++ d.after, turnStarted env request d.threadId d.turnRequestId d.wire.log⟩)

theorem isNotification_of_responds {message : Value} (h : method message = none) : isNotification message = false := by
  simp [isNotification, h]

theorem isTurnEvent_of_request {message : Value} {threadId turnId : String} (h : isServerRequest message = true) :
    isTurnEvent threadId turnId message = true := by
  simp [isTurnEvent, h]

theorem split_at_request {messages : List Value} (h : ∀ m ∈ messages, isStreamed m = true) :
    (∀ m ∈ messages, isNotification m = true) ∨
      ∃ notes request rest, messages = notes ++ request :: rest ∧ (∀ m ∈ notes, isNotification m = true) ∧
        isNotification request = false ∧ isServerRequest request = true := by
  induction messages with
  | nil => exact .inl (by simp)
  | cons m messages ih =>
    cases hm : isNotification m with
    | false => exact .inr ⟨[], m, messages, rfl, by simp, hm, by simpa [isStreamed, hm] using h m (by simp)⟩
    | true =>
      rcases ih fun n hn => h n (by simp [hn]) with hall | ⟨notes, request, rest, rfl, hnotes, hrequest⟩
      · exact .inl (by simpa [hm] using hall)
      · exact .inr ⟨m :: notes, request, rest, rfl, by simpa [hm] using hnotes, hrequest⟩

theorem startJsonlTurn_opened {env : AppServerEnv} {request : CodexAppServerRequest}
    {w : Wire (Except String Value) TurnLog} {d : TurnDelivery} (h : d.Occurs env request w) :
    (startJsonlTurn env request).run w = (runTurn env request d.allowed d.threadId d.turnRequestId).run d.wire := by
  have hresolved : (ExceptT.mk (pure (resolveDynamicTools env.debugText (env.toolSpecs request.dynamicToolContext)
      request.toolPolicy)) : Talk _).run w = .done (.ok (d.tools, d.allowed)) w := by
    rw [h.resolved]
    rfl
  rw [startJsonlTurn, Session.except_bind_ok _ hresolved]
  simp only [h.spawned]
  rw [Session.except_bind_ok _ h.opened]

theorem startJsonlTurn_responses {env : AppServerEnv} {request : CodexAppServerRequest}
    {w : Wire (Except String Value) TurnLog} {d : TurnDelivery} (h : d.Occurs env request w) {notes : List Value}
    {m : Value} {rest : List (Except String Value)} (hinput : d.wire.input = notes.map .ok ++ .ok m :: rest)
    (hnotes : ∀ n ∈ notes, isNotification n = true) (hm : isNotification m = false) :
    ((startJsonlTurn env request).run w).state.log.responses.drop d.wire.log.responses.length = notes ++ [m] := by
  rw [startJsonlTurn_opened h, runTurn_response h.written hinput hnotes hm, afterResponse_responses]
  simp

theorem keepsTurnEvents_iff {env : AppServerEnv} {request : CodexAppServerRequest}
    {w : Wire (Except String Value) TurnLog} {d : TurnDelivery} (h : d.Occurs env request w) :
    KeepsTurnEvents env request w d ↔ ∀ m ∈ d.before, isTurnEvent d.threadId d.turnId m = false := by
  have hresponse := isNotification_of_responds h.responds
  constructor
  · rintro ⟨hread, -⟩ m hm
    rcases split_at_request h.streamed with hall | ⟨notes, server, rest, hbefore, hnotes, hserver, hrequest⟩
    · rw [startJsonlTurn_responses h h.input hall hresponse] at hread
      exact hread m (by simp [hm])
    · -- 要求が応答とみなされ、応答の待ちに読まれる
      have hinput : d.wire.input = notes.map .ok ++ .ok server :: (rest.map .ok ++ .ok d.response :: d.after) := by
        rw [h.input, hbefore]
        simp
      rw [startJsonlTurn_responses h hinput hnotes hserver] at hread
      have hlost := hread server (by simp)
      rw [isTurnEvent_of_request hrequest] at hlost
      cases hlost
  · intro hquiet
    have hall : ∀ m ∈ d.before, isNotification m = true := by
      intro m hm
      have hrequest : isServerRequest m = false := by
        have := hquiet m hm
        simp only [isTurnEvent, Bool.or_eq_false_iff] at this
        exact this.1.1.1
      simpa [isStreamed, hrequest] using h.streamed m hm
    obtain ⟨turn, haccept, hturn⟩ := h.started
    have herror : hasError d.response = false := by
      unfold acceptResponse at haccept
      split_ifs at haccept
      cases hget : d.response.get "error" with
      | some error => simp [hget] at haccept
      | none => simp [hasError, hget]
    refine ⟨?_, ?_⟩
    · rw [startJsonlTurn_responses h h.input hall hresponse]
      intro m hm
      rcases List.mem_append.mp hm with hm | hm
      · exact hquiet m hm
      · rw [List.mem_singleton.mp hm]
        simp [isTurnEvent, isServerRequest, isTurnNotification, isAnswered, hresponse, herror, h.responds]
    · obtain ⟨log', hsame, hawait⟩ := @awaitTurn_quiet env d.allowed _ _ request _ hall hquiet d.after
          (turnStarted env request d.threadId d.turnRequestId d.wire.log)
      rw [startJsonlTurn_opened h, runTurn_response h.written h.input hall hresponse, haccept, hawait]
      simp only [afterResponse, hturn]
      exact awaitTurn_related ⟨rfl, hsame.1.symm, hsame.2.1.symm, hsame.2.2.symm⟩

/-! ## 予定の実行の発話 -/

structure ScheduledDelivery where
  threadId : String
  turnId : String
  wire : Wire Poll ScheduledLog
  before : List Poll
  response : Poll
  after : List Poll

/-- 発話の開始が書け、取り消しも期限もないうちに、その応答が `before` の後に届く。 -/
structure ScheduledDelivery.Occurs (d : ScheduledDelivery) (env : ScheduledEnv) : Prop where
  written : env.writeJson d.wire.log.events.length = none
  input : d.wire.input = d.before ++ d.response :: d.after
  arrives : ∀ p ∈ d.before, p.arrives = true
  streamed : ∀ p ∈ d.before, ∀ m, p.message? = some m → isStreamed m = true
  current : d.response.cancelled = false
  responds : ∃ m, d.response.read = .ok (.message m) ∧ method m = none
  started : d.response.startResult = .ok d.turnId

def KeepsScheduledEvents (env : ScheduledEnv) (request : ScheduledCodexRequest) (githubMcp : Bool)
    (d : ScheduledDelivery) : Prop :=
  let actual := executePreparedProtocol env request githubMcp d.threadId false d.wire
  (∀ m ∈ actual.state.log.requests.drop d.wire.log.requests.length,
      isScheduledTurnEvent d.threadId d.turnId m = false) ∧
    Related SameRun actual (waitForScheduledTurn env githubMcp d.threadId d.turnId
      ⟨d.before ++ d.after, started request d.threadId d.wire.log⟩)

theorem isScheduledTurnEvent_of_request {message : Value} {threadId turnId : String}
    (h : isServerRequest message = true) : isScheduledTurnEvent threadId turnId message = true := by
  simp [isScheduledTurnEvent, h]

theorem passedOver_of_notification {p : Poll} (harrives : p.arrives = true)
    (hall : ∀ m, p.message? = some m → isNotification m = true) : p.passedOver = true := by
  obtain ⟨cancelled, read, expired⟩ := p
  match read with
  | .error error => simp [Poll.arrives] at harrives
  | .ok .eof => simp [Poll.arrives] at harrives
  | .ok .timedOut => exact harrives
  | .ok (.message m) =>
    simp only [Poll.arrives, Bool.and_true, Bool.not_eq_true'] at harrives
    simp [Poll.passedOver, harrives, hall m rfl]

theorem passedOver_of_request {p : Poll} {m : Value} (hp : p.message? = some m) (hm : isNotification m = false) :
    p.passedOver = false := by
  obtain ⟨cancelled, read, expired⟩ := p
  match read with
  | .error error => simp [Poll.message?] at hp
  | .ok .eof => simp [Poll.message?] at hp
  | .ok .timedOut => simp [Poll.message?] at hp
  | .ok (.message message) =>
    obtain rfl : message = m := by simpa [Poll.message?] using hp
    simp [Poll.passedOver, hm]

theorem split_at_request_poll {polls : List Poll} (harrives : ∀ p ∈ polls, p.arrives = true)
    (h : ∀ p ∈ polls, ∀ m, p.message? = some m → isStreamed m = true) :
    (∀ p ∈ polls, ∀ m, p.message? = some m → isNotification m = true) ∨
      ∃ passed p m rest, polls = passed ++ p :: rest ∧ (∀ q ∈ passed, q.passedOver = true) ∧
        p.arrives = true ∧ p.message? = some m ∧ isNotification m = false ∧ isServerRequest m = true := by
  induction polls with
  | nil => exact .inl (by simp)
  | cons p polls ih =>
    by_cases hp : ∀ m, p.message? = some m → isNotification m = true
    · rcases ih (fun q hq => harrives q (by simp [hq])) fun q hq => h q (by simp [hq]) with
        hall | ⟨passed, q, m, rest, rfl, hpassed, hq⟩
      · exact .inl (by simpa using ⟨hp, hall⟩)
      · exact .inr ⟨p :: passed, q, m, rest, rfl,
          by simpa using ⟨passedOver_of_notification (harrives p (by simp)) hp, hpassed⟩, hq⟩
    · push Not at hp
      obtain ⟨m, hm, hrequest⟩ := hp
      have hrequest : isNotification m = false := by simpa using hrequest
      exact .inr ⟨[], p, m, polls, rfl, by simp, harrives p (by simp), hm, hrequest,
        by simpa [isStreamed, hrequest] using h p (by simp) m hm⟩

theorem executePreparedProtocol_requests {env : ScheduledEnv} {request : ScheduledCodexRequest} {githubMcp : Bool}
    {threadId : String} {w : Wire Poll ScheduledLog} {passed rest : List Poll} {p : Poll} {m : Value}
    (hwrite : env.writeJson w.log.events.length = none) (hinput : w.input = passed ++ p :: rest)
    (hall : ∀ q ∈ passed, q.passedOver = true) (hcurrent : p.cancelled = false) (hp : p.message? = some m)
    (hm : isNotification m = false) :
    (executePreparedProtocol env request githubMcp threadId false w).state.log.requests.drop w.log.requests.length =
      passed.filterMap Poll.message? ++ [m] := by
  obtain ⟨log, -, hrequests, hrun⟩ := @executePreparedProtocol_passed _ githubMcp threadId request _ _ _ _
      hwrite hinput hall (passedOver_of_request hp hm)
  rw [hrun, startResult_requests]
  obtain ⟨cancelled, read, expired⟩ := p
  obtain rfl : cancelled = false := hcurrent
  match read with
  | .error error => simp [Poll.message?] at hp
  | .ok .eof => simp [Poll.message?] at hp
  | .ok .timedOut => simp [Poll.message?] at hp
  | .ok (.message message) =>
    obtain rfl : message = m := by simpa [Poll.message?] using hp
    simp [Poll.answerWire, ScheduledLog.passOver, ScheduledLog.readResponse, hrequests]

theorem cancelled_of_arrives {p : Poll} (h : p.arrives = true) : p.cancelled = false := by
  simp only [Poll.arrives, Bool.and_eq_true, Bool.not_eq_true'] at h
  exact h.1

theorem keepsScheduledEvents_iff {env : ScheduledEnv} {request : ScheduledCodexRequest} {githubMcp : Bool}
    {d : ScheduledDelivery} (h : d.Occurs env) :
    KeepsScheduledEvents env request githubMcp d ↔
      ∀ p ∈ d.before, ∀ m, p.message? = some m → isScheduledTurnEvent d.threadId d.turnId m = false := by
  obtain ⟨response, hread, hmethod⟩ := h.responds
  have hresponds : d.response.message? = some response := by simp [Poll.message?, hread]
  have hresponse := isNotification_of_responds hmethod
  constructor
  · rintro ⟨hlost, -⟩ p hp m hm
    rcases split_at_request_poll h.arrives h.streamed with
      hall | ⟨passed, q, server, rest, hbefore, hpassed, harrives, hq, hserver, hrequest⟩
    · rw [executePreparedProtocol_requests h.written h.input
        (fun q hq => passedOver_of_notification (h.arrives q hq) (hall q hq)) h.current hresponds hresponse] at hlost
      exact hlost m (List.mem_append_left _ (List.mem_filterMap.mpr ⟨p, hp, hm⟩))
    · have hinput : d.wire.input = passed ++ q :: (rest ++ d.response :: d.after) := by
        rw [h.input, hbefore]
        simp
      rw [executePreparedProtocol_requests h.written hinput hpassed (cancelled_of_arrives harrives) hq hserver] at hlost
      have hevent := hlost server (by simp)
      rw [isScheduledTurnEvent_of_request hrequest] at hevent
      cases hevent
  · intro hquiet
    have hall : ∀ p ∈ d.before, ∀ m, p.message? = some m → isNotification m = true := by
      intro p hp m hm
      have hrequest : isServerRequest m = false := by
        have := hquiet p hp m hm
        simp only [isScheduledTurnEvent, Bool.or_eq_false_iff] at this
        exact this.1.1
      simpa [isStreamed, hrequest] using h.streamed p hp m hm
    have hpassed : ∀ p ∈ d.before, p.passedOver = true := fun p hp =>
      passedOver_of_notification (h.arrives p hp) (hall p hp)
    refine ⟨?_, ?_⟩
    · rw [executePreparedProtocol_requests h.written h.input hpassed h.current hresponds hresponse]
      intro m hm
      rcases List.mem_append.mp hm with hm | hm
      · obtain ⟨p, hp, hpm⟩ := List.mem_filterMap.mp hm
        exact hquiet p hp m hpm
      · rw [List.mem_singleton.mp hm]
        simp [isScheduledTurnEvent, isServerRequest, isTurnNotification, hresponse, hmethod]
    · obtain ⟨log, hsame, -, hrun⟩ := @executePreparedProtocol_passed _ githubMcp d.threadId request _ _ _ _
          h.written h.input hpassed (passedOver_of_request hresponds hresponse)
      obtain ⟨log', hsame', hwait⟩ := @waitForScheduledTurn_quiet env githubMcp _ _ _ h.arrives hall hquiet
          d.after (started request d.threadId d.wire.log)
      have hwire : d.response.answerWire d.after log = ⟨d.after, log.readResponse response⟩ := by
        simp [Poll.answerWire, h.current, ScheduledLog.passOver, hread]
      rw [hrun, hwait, h.started, hwire]
      exact waitForScheduledTurn_related ⟨rfl, hsame.1.trans hsame'.1.symm, hsame.2.1.trans hsame'.2.1.symm,
        hsame.2.2.trans hsame'.2.2.symm⟩

variable {env : AppServerEnv} {request : CodexAppServerRequest} {w : Wire (Except String Value) TurnLog}
  {d : TurnDelivery} {scheduledEnv : ScheduledEnv} {scheduled : ScheduledCodexRequest} {s : ScheduledDelivery}

/-- 開始への応答の前に発話の出来事が届かないときに限り、どの出来事も失われない。 -/
theorem turn_events_kept (githubMcp : Bool) (h : d.Occurs env request w) (hs : s.Occurs scheduledEnv) :
    (KeepsTurnEvents env request w d ↔ ∀ m ∈ d.before, isTurnEvent d.threadId d.turnId m = false) ∧
      (KeepsScheduledEvents scheduledEnv scheduled githubMcp s ↔
        ∀ p ∈ s.before, ∀ m, p.message? = some m → isScheduledTurnEvent s.threadId s.turnId m = false) :=
  ⟨keepsTurnEvents_iff h, keepsScheduledEvents_iff hs⟩

def resultMessage (id : Nat) (result : Value) : Value := .object [("id", .int id), ("result", result)]

/-- 発話 `u` が始まったという応答。 -/
def startedReply (id : Nat) : Value := resultMessage id (.object [("turn", .object [("id", .str "u")])])

def greetingRequest : CodexAppServerRequest := ⟨"c", none, "hello", .none, operatorContext⟩

/-- 会話 `t` を開くまでに届く応答。 -/
def openingReplies : List (Except String Value) :=
  [.ok (resultMessage 1 (.obj [])), .ok (resultMessage 2 (.object [("thread", .object [("id", .str "t")])]))]

/-- 開始への応答の前に `before`、後に `after` が届く回線。 -/
def greetingWire (before after : List Value) : Wire (Except String Value) TurnLog :=
  ⟨openingReplies ++ (before.map .ok ++ .ok (startedReply 3) :: after.map .ok), .empty⟩

def greetingDelivery (before after : List Value) : TurnDelivery where
  threadId := "t"
  turnId := "u"
  turnRequestId := 3
  tools := []
  allowed := []
  wire :=
    match (openThread quietEnv [] greetingRequest).run (greetingWire before after) with
    | .waiting w => w
    | .done _ w => w
  before := before
  response := startedReply 3
  after := after.map .ok

theorem greetingDelivery_occurs :
    (greetingDelivery [notificationMessage "warning"] [completedTurn]).Occurs quietEnv greetingRequest
      (greetingWire [notificationMessage "warning"] [completedTurn]) where
  spawned := rfl
  resolved := rfl
  opened := rfl
  written := rfl
  input := rfl
  streamed := by decide +kernel
  responds := by decide +kernel
  started := ⟨.object [("turn", .object [("id", .str "u")])], rfl, by decide +kernel⟩

def arrival (message : Value) : Poll := ⟨false, .ok (.message message), false⟩

def nightlyDelivery (before after : List Value) : ScheduledDelivery where
  threadId := "t"
  turnId := "u"
  wire := ⟨before.map arrival ++ arrival (startedReply 5) :: after.map arrival, .empty⟩
  before := before.map arrival
  response := arrival (startedReply 5)
  after := after.map arrival

theorem nightlyDelivery_occurs :
    (nightlyDelivery [notificationMessage "warning"] [completedTurn]).Occurs smoothEnv where
  written := rfl
  input := rfl
  arrives := by decide +kernel
  streamed := by
    intro p hp m hm
    obtain rfl : p = arrival (notificationMessage "warning") := by simpa [nightlyDelivery] using hp
    obtain rfl : notificationMessage "warning" = m := by simpa [arrival, Poll.message?] using hm
    decide +kernel
  current := rfl
  responds := ⟨startedReply 5, rfl, by decide +kernel⟩
  started := by decide +kernel

/-- 応答の前に届くのが、発話を指さない警告だけである場合。 -/
theorem turn_events_kept_warning :
    (KeepsTurnEvents quietEnv greetingRequest (greetingWire [notificationMessage "warning"] [completedTurn])
        (greetingDelivery [notificationMessage "warning"] [completedTurn]) ↔
      ∀ m ∈ (greetingDelivery [notificationMessage "warning"] [completedTurn]).before, isTurnEvent "t" "u" m = false) ∧
      (KeepsScheduledEvents smoothEnv nightlyRequest true
          (nightlyDelivery [notificationMessage "warning"] [completedTurn]) ↔
        ∀ p ∈ (nightlyDelivery [notificationMessage "warning"] [completedTurn]).before, ∀ m, p.message? = some m →
          isScheduledTurnEvent "t" "u" m = false) :=
  turn_events_kept true greetingDelivery_occurs nightlyDelivery_occurs

/-- 完了が応答より先に届けば、応答の待ちがそれを読み捨て、発話の終わりを待ち続ける。 -/
theorem earlyCompletion_lost :
    (greetingDelivery [completedTurn] []).Occurs quietEnv greetingRequest (greetingWire [completedTurn] []) ∧
      ¬KeepsTurnEvents quietEnv greetingRequest (greetingWire [completedTurn] [])
        (greetingDelivery [completedTurn] []) := by
  refine ⟨?_, fun h => h.2⟩
  exact {
    spawned := rfl
    resolved := rfl
    opened := rfl
    written := rfl
    input := rfl
    streamed := by decide +kernel
    responds := by decide +kernel
    started := ⟨.object [("turn", .object [("id", .str "u")])], rfl, by decide +kernel⟩ }

end Codeoff.Codex
