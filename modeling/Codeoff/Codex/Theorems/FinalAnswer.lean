import Codeoff.Codex.Theorems.TurnEvents

/-!
# 最後の答えの選び方

発言は、`item/completed` の知らせでも、`turn/completed` の一覧でも届く。
-/

namespace Codeoff.Codex

open Codeoff.Agent Codeoff.Control Codeoff.Core Codeoff.Json Codeoff.Runtime

variable {threadId turnId : String}

/-- 発話の一つの発言と、その届き方。知らせるか、終わりの一覧に載せるか、その両方である。 -/
structure Report where
  item : Value
  notified : Bool
  listed : Bool
  reported : notified = true ∨ listed = true

def notifiedItems (turn : List Report) : List Value := (turn.filter Report.notified).map Report.item

def listedItems (turn : List Report) : List Value := (turn.filter Report.listed).map Report.item

/-- 知らせ `notified` の後に、完了の知らせ `last` が届いて、発話 `turn` を伝える。 -/
structure Delivers (threadId turnId : String) (turn : List Report) (notified : List Value) (last : Value) : Prop where
  notified : notified = notifiedItems turn
  terminal : isTerminal threadId turnId last = true
  status : turnStatus last = some "completed"
  listed : (field (turnOf last) "items").asArr.getD [] = listedItems turn

variable {turn : List Report} {notified : List Value} {last : Value}

theorem filterMap_listed {α : Type} {text : Value → Option α} (h : (notifiedItems turn).filterMap text = []) :
    (listedItems turn).filterMap text = (turn.map Report.item).filterMap text := by
  simp only [notifiedItems, listedItems, List.filterMap_map, List.filterMap_filter, List.filterMap_eq_nil_iff] at h ⊢
  refine List.filterMap_congr fun r hr => ?_
  rcases r.reported with hnotified | hlisted
  · have hnone : text r.item = none := by simpa [hnotified] using h r hr
    simp [hnone]
  · simp [hlisted]

theorem filterMap_notified {α : Type} {text : Value → Option α} (h : (listedItems turn).filterMap text = []) :
    (notifiedItems turn).filterMap text = (turn.map Report.item).filterMap text := by
  simp only [notifiedItems, listedItems, List.filterMap_map, List.filterMap_filter, List.filterMap_eq_nil_iff] at h ⊢
  refine List.filterMap_congr fun r hr => ?_
  rcases r.reported with hnotified | hlisted
  · simp [hnotified]
  · have hnone : text r.item = none := by simpa [hlisted] using h r hr
    simp [hnone]

theorem mem_reported {α : Type} {text : Value → Option α} {a : α} :
    a ∈ (notifiedItems turn ++ listedItems turn).filterMap text ↔ a ∈ (turn.map Report.item).filterMap text := by
  simp only [notifiedItems, listedItems, List.mem_filterMap, List.mem_append, List.mem_map, List.mem_filter]
  constructor
  · rintro ⟨item, ⟨r, ⟨hr, -⟩, rfl⟩ | ⟨r, ⟨hr, -⟩, rfl⟩, htext⟩
    · exact ⟨r.item, ⟨r, hr, rfl⟩, htext⟩
    · exact ⟨r.item, ⟨r, hr, rfl⟩, htext⟩
  · rintro ⟨item, ⟨r, hr, rfl⟩, htext⟩
    rcases r.reported with hnotified | hlisted
    · exact ⟨r.item, .inl ⟨r, ⟨hr, hnotified⟩, rfl⟩, htext⟩
    · exact ⟨r.item, .inr ⟨r, ⟨hr, hlisted⟩, rfl⟩, htext⟩

/-! ## 会話の発話 -/

variable {appEnv : AppServerEnv} {context : CodexDynamicToolContext} {allowed : List String}

theorem turnMessage_completed (threadId turnId : String) (message : Value) :
    match turnMessage threadId turnId message with
    | .itemCompleted => completedItem threadId turnId message = some (field (params message) "item")
    | .failed _ => True
    | _ => completedItem threadId turnId message = none := by
  have hsupported : isUnsupportedInteractionRequest "item/completed" = false := by decide +kernel
  unfold turnMessage completedItem
  cases message.get "error" with
  | some error => trivial
  | none =>
    cases method message with
    | none => simp
    | some m =>
      by_cases hitem : m = "item/completed"
      · subst hitem
        by_cases hturn : namesTurn threadId turnId (params message) = true
        · simp [hsupported, hturn]
        · simp [hsupported, hturn]
      · have hnone : ¬(some m = some "item/completed" ∧ namesTurn threadId turnId (params message) = true) := by
          simp [hitem]
        simp only [if_neg hnone]
        split_ifs
        all_goals first | rfl | simp_all

theorem turnStep_finalText {s s' : TurnState × TurnLog} {message : Value}
    (h : turnStep appEnv context allowed threadId turnId s (.ok message) = .next s') :
    s'.1.finalText = s.1.finalText.or ((completedItem threadId turnId message).bind finalAgentText) := by
  have hspec := turnMessage_completed threadId turnId message
  simp only [turnStep] at h
  cases hkind : turnMessage threadId turnId message with
  | failed error => simp [hkind] at h
  | turnCompleted => simp [hkind] at h
  | toolCall =>
    simp only [hkind] at h hspec
    rcases hout : respondToToolCall appEnv context allowed threadId turnId message (s.2.hear message) with ⟨error, log⟩
    cases error with
    | none => rw [hout] at h; cases h; simp [hspec]
    | some error => rw [hout] at h; cases h
  | unsupported m =>
    simp only [hkind] at h hspec
    rcases hout : respondToUnsupportedInteraction appEnv threadId turnId m message (s.2.hear message) with ⟨error, log⟩
    cases error with
    | none => rw [hout] at h; cases h; simp [hspec]
    | some error => rw [hout] at h; cases h
  | started =>
    simp only [hkind] at h hspec
    cases h
    unfold observeStartedAgentMessage
    split <;> simp [hspec]
  | delta =>
    simp only [hkind] at h hspec
    cases h
    simp [hspec]
  | itemCompleted =>
    simp only [hkind] at h hspec
    cases h
    simp [hspec]
  | ignored =>
    simp only [hkind] at h hspec
    cases h
    simp [hspec]

theorem poll_finalText {s s' : TurnState × TurnLog} {messages : List Value}
    (h : poll (turnStep appEnv context allowed threadId turnId) s (messages.map .ok) = .waiting s') :
    s'.1.finalText =
      s.1.finalText.or ((messages.filterMap (completedItem threadId turnId)).filterMap finalAgentText).head? := by
  induction messages generalizing s with
  | nil =>
    cases h
    simp
  | cons message messages ih =>
    simp only [List.map_cons, poll] at h
    cases hstep : turnStep appEnv context allowed threadId turnId s (.ok message) with
    | done r t => simp [hstep] at h
    | held r t => simp [hstep] at h
    | next t =>
      simp only [hstep] at h
      rw [ih h, turnStep_finalText hstep]
      cases hitem : completedItem threadId turnId message with
      | none => simp [hitem]
      | some item => cases htext : finalAgentText item <;> cases s.1.finalText <;> simp [hitem, htext]

theorem finalAgentTextFromItems_eq (items : Value) :
    finalAgentTextFromItems items = ((items.asArr.getD []).filterMap finalAgentText).getLast? := by
  rw [finalAgentTextFromItems, ← List.head?_filterMap, List.filterMap_reverse, List.head?_reverse]

def answerOf : Option String → AgentTaskResult
  | some text => .draft text none
  | none => .acceptedDispatch none

/-- 最初に知らせた答えがあれば、それは発話の最後の答えと同じ文面である。 -/
def FirstNotifiedIsLast (turn : List Report) : Prop :=
  ∀ text ∈ ((notifiedItems turn).filterMap finalAgentText).head?,
    ((turn.map Report.item).filterMap finalAgentText).getLast? = some text

theorem turnStep_terminal (s : TurnState × TurnLog) (hlast : isTerminal threadId turnId last = true)
    (herror : hasError last = false) : turnStep appEnv context allowed threadId turnId s (.ok last) =
      .done (turnResult (turnOf last) s.1.finalText) (s.1, s.2.hear last) := by
  have hsupported : isUnsupportedInteractionRequest "turn/completed" = false := by decide +kernel
  simp only [isTerminal, Bool.and_eq_true, beq_iff_eq] at hlast
  have hnone : last.get "error" = none := by simpa [hasError] using herror
  have hkind : turnMessage threadId turnId last = .turnCompleted := by
    simp [turnMessage, hnone, hlast.1.1, hlast.1.2, hsupported]
  simp only [turnStep, hkind, turnOf]

theorem turnResult_completed (h : Delivers threadId turnId turn notified last) (finalText : Option String) :
    turnResult (turnOf last) finalText =
      .ok (answerOf (finalText.or ((listedItems turn).filterMap finalAgentText).getLast?)) := by
  have hstatus : (field (turnOf last) "status").asStr.getD "unknown" = "completed" := by
    have hcompleted := h.status
    unfold turnStatus at hcompleted
    simp [hcompleted]
  rw [turnResult, if_pos hstatus, finalAgentTextFromItems_eq, h.listed]
  cases finalText <;> cases ((listedItems turn).filterMap finalAgentText).getLast? <;> rfl

theorem draft_iff {messages : List Value} {rest : List (Except String Value)} {log : TurnLog} {s : TurnState × TurnLog}
    (h : Delivers threadId turnId turn (messages.filterMap (completedItem threadId turnId)) last)
    (herror : hasError last = false)
    (hgoes : poll (turnStep appEnv context allowed threadId turnId) (.empty, log) (messages.map .ok) = .waiting s) :
    (∃ w', (waitForTerminalTurn appEnv context allowed threadId turnId).run ⟨messages.map .ok ++ .ok last :: rest, log⟩ =
      .done (.ok (answerOf ((turn.map Report.item).filterMap finalAgentText).getLast?)) w') ↔ FirstNotifiedIsLast turn := by
  have hfinal := poll_finalText hgoes
  rw [h.notified] at hfinal
  have hrun : (waitForTerminalTurn appEnv context allowed threadId turnId).run ⟨messages.map .ok ++ .ok last :: rest, log⟩ =
      .done (.ok (answerOf (s.1.finalText.or ((listedItems turn).filterMap finalAgentText).getLast?)))
        ⟨rest, s.2.hear last⟩ := by
    change Session.reading _ _ _ = _
    unfold Session.reading
    rw [poll_append_of_waiting _ hgoes]
    simp only [poll, turnStep_terminal s h.terminal herror, turnResult_completed h]
  have hinjective : ∀ a b : Option String, answerOf a = answerOf b ↔ a = b := by
    intro a b
    cases a <;> cases b <;> simp [answerOf]
  have hdone : ∀ a b : AgentTaskResult, (∃ w' : Wire (Except String Value) TurnLog,
      (.done (.ok a) ⟨rest, s.2.hear last⟩ : Progress _ (Except String AgentTaskResult)) = .done (.ok b) w') ↔ a = b := by
    intro a b
    simp
  rw [hrun, hdone, hinjective, hfinal, FirstNotifiedIsLast]
  cases hfirst : ((notifiedItems turn).filterMap finalAgentText).head? with
  | none =>
    rw [← filterMap_listed (List.head?_eq_none_iff.mp hfirst)]
    simp [TurnState.empty]
  | some text => simp [TurnState.empty, eq_comm]

/-! ## 予定の実行 -/

variable {env : ScheduledEnv} {githubMcp : Bool}

/-- 待つ者を終わらせるのは、答えを断ることだけである。 -/
inductive OnlyAnswersEnd (env : ScheduledEnv) (githubMcp : Bool) (threadId turnId : String) :
    ScheduledTurnState × ScheduledLog → List Poll → Prop
  | done {s : ScheduledTurnState × ScheduledLog} : OnlyAnswersEnd env githubMcp threadId turnId s []
  | next {s s' : ScheduledTurnState × ScheduledLog} {p : Poll} {polls : List Poll} :
      scheduledTurnStep env githubMcp threadId turnId s p = .next s' → OnlyAnswersEnd env githubMcp threadId turnId s' polls →
      OnlyAnswersEnd env githubMcp threadId turnId s (p :: polls)
  | rejected {s : ScheduledTurnState × ScheduledLog} {p : Poll} {polls : List Poll} {item : Value} {f : ScheduledFailure} :
      p.cancelled = false → p.completedItem threadId turnId = some item → recordAgentMessage item s.1.phasedFinal = .error f →
      OnlyAnswersEnd env githubMcp threadId turnId s (p :: polls)

def parsedAnswer : Option String → ScheduledExecutionResult
  | none => .failed (outputViolation "scheduled_final_answer_missing")
  | some text =>
    match parseFinalOutput text with
    | .ok summary => .completed summary
    | .error f => .failed f

def collected : Except ScheduledFailure (Option String) → ScheduledExecutionResult
  | .ok final => parsedAnswer final
  | .error f => .failed f

theorem endScheduledTurn_completed (h : Delivers threadId turnId turn notified last) (final : Option String) :
    endScheduledTurn threadId turnId (turnOf last) final = collected (recordAgentMessages (listedItems turn) final) := by
  have hstatus : (field (turnOf last) "status").asStr = some "completed" := h.status
  unfold endScheduledTurn collected scheduledTurnResult
  rw [h.listed]
  cases recordAgentMessages (listedItems turn) final with
  | error f => rfl
  | ok final =>
    cases final with
    | none => simp [hstatus, parsedAnswer]
    | some text =>
      simp only [hstatus, if_true, parsedAnswer] <;> cases parseFinalOutput text <;> rfl

theorem scheduledTurnStep_rejects {s : ScheduledTurnState × ScheduledLog} {p : Poll} {item : Value} {f : ScheduledFailure}
    (hcancelled : p.cancelled = false) (hitem : p.completedItem threadId turnId = some item)
    (hrecord : recordAgentMessage item s.1.phasedFinal = .error f) :
    ∃ s', scheduledTurnStep env githubMcp threadId turnId s p = .done (.result (.failed f)) s' := by
  obtain ⟨cancelled, read, expired⟩ := p
  obtain rfl : cancelled = false := hcancelled
  match read with
  | .error error => cases hitem
  | .ok .eof => cases hitem
  | .ok .timedOut => cases hitem
  | .ok (.message message) =>
    have hmessage : completedItem threadId turnId message = some item := hitem
    unfold completedItem at hmessage
    split at hmessage
    · rename_i hkind
      cases hmessage
      have hobserve : observeFinalStreamEvent threadId turnId message s.1 = .ok s.1 := by
        simp [observeFinalStreamEvent, hkind.1]
      have hscheduled : scheduledMessage threadId turnId message = .itemCompleted := by
        simp [scheduledMessage, hkind.1, hkind.2]
      refine ⟨(s.1, s.2.hear message), ?_⟩
      simp only [scheduledTurnStep, readTurnMessage, hobserve, handleTurnMessage, hscheduled, hrecord, Bool.false_eq_true,
        if_false]
    · cases hmessage

theorem poll_collected {s : ScheduledTurnState × ScheduledLog} {polls rest : List Poll} {t : Poll}
    (h : OnlyAnswersEnd env githubMcp threadId turnId s polls) (hturn : Delivers threadId turnId turn notified last)
    (hread : t.read = .ok (.message last)) (hcancelled : t.cancelled = false) :
    ∃ s' rest', poll (scheduledTurnStep env githubMcp threadId turnId) s (polls ++ t :: rest) =
      .ended (.result (collected (recordAgentMessages
        (polls.filterMap (Poll.completedItem threadId turnId) ++ listedItems turn) s.1.phasedFinal))) s' rest' := by
  induction h with
  | @done s =>
    simp only [List.nil_append, poll, scheduledTurnStep_terminal hread hcancelled hturn.terminal,
      endScheduledTurn_completed hturn, List.filterMap_nil]
    exact ⟨_, _, rfl⟩
  | @next s s' p polls hstep _ ih =>
    obtain ⟨s₁, rest₁, hih⟩ := ih
    refine ⟨s₁, rest₁, ?_⟩
    have hrecord := scheduledTurnStep_records hstep
    have hitems : (p :: polls).filterMap (Poll.completedItem threadId turnId) =
        (p.completedItem threadId turnId).toList ++ polls.filterMap (Poll.completedItem threadId turnId) := by
      cases hitem : p.completedItem threadId turnId <;> simp [hitem]
    rw [hitems, List.append_assoc, recordAgentMessages_append, hrecord, List.cons_append]
    simp only [poll, hstep]
    exact hih
  | @rejected s p polls item f hp hitem hrecord =>
    obtain ⟨s', hstep⟩ : ∃ s', scheduledTurnStep env githubMcp threadId turnId s p = .done (.result (.failed f)) s' :=
      scheduledTurnStep_rejects hp hitem hrecord
    refine ⟨s', polls ++ t :: rest, ?_⟩
    have hitems : (p :: polls).filterMap (Poll.completedItem threadId turnId) ++ listedItems turn =
        [item] ++ (polls.filterMap (Poll.completedItem threadId turnId) ++ listedItems turn) := by
      simp [hitem]
    rw [hitems, recordAgentMessages_append, recordAgentMessages_singleton, hrecord, List.cons_append]
    simp only [poll, hstep]
    rfl

theorem parsedAnswer_tooLarge {text : String} : parsedAnswer (some text) = .failed answerTooLarge ↔ TooLarge text := by
  rw [← parseFinalOutput_tooLarge]
  cases hparse : parseFinalOutput text with
  | ok summary => simp [parsedAnswer, hparse]
  | error f => simp [parsedAnswer, hparse]

/-- 一覧の最後の答えがあれば、発話の最後の答えと同じ結果になり、上限を越えた答えはない。上限を越えた答えがあってよいのは、最後の
答えも上限を越えるときだけである。 -/
def LastListedIsLast (turn : List Report) : Prop :=
  let finals := (turn.map Report.item).filterMap finalAnswerText
  (∃ text ∈ finals.getLast?, TooLarge text) ∨
    (∀ text ∈ finals, ¬TooLarge text) ∧
      ∀ text ∈ lastFinalAnswer (listedItems turn), parsedAnswer (some text) = parsedAnswer finals.getLast?

theorem collected_iff : collected (recordAgentMessages (notifiedItems turn ++ listedItems turn) none) =
    parsedAnswer (lastFinalAnswer (turn.map Report.item)) ↔ LastListedIsLast turn := by
  rcases recordAgentMessages_cases (notifiedItems turn ++ listedItems turn) none with
    ⟨herror, text, htext, hlarge⟩ | ⟨hok, hsmall⟩
  · have hmem := mem_reported.mp htext
    have hsome : lastFinalAnswer (turn.map Report.item) ≠ none := by
      rw [lastFinalAnswer, Ne, List.getLast?_eq_none_iff]
      exact List.ne_nil_of_mem hmem
    have hlargest : ¬∀ text ∈ (turn.map Report.item).filterMap finalAnswerText, ¬TooLarge text := fun h => h text hmem hlarge
    rw [herror, collected, LastListedIsLast, ← lastFinalAnswer]
    cases hlast : lastFinalAnswer (turn.map Report.item) with
    | none => exact absurd hlast hsome
    | some answer => simp only [hlargest, false_and, or_false, Option.mem_some_iff, exists_eq_left', eq_comm, parsedAnswer_tooLarge]
  · have hall : ∀ text ∈ (turn.map Report.item).filterMap finalAnswerText, ¬TooLarge text :=
      fun text htext => hsmall text (mem_reported.mpr htext)
    have hnone : ¬∃ text ∈ lastFinalAnswer (turn.map Report.item), TooLarge text := by
      rintro ⟨text, htext, hlarge⟩
      exact hall text (List.mem_of_getLast? htext) hlarge
    rw [hok, collected, LastListedIsLast, ← lastFinalAnswer, Option.or_none, lastFinalAnswer_append]
    simp only [hnone, false_or, and_iff_right hall]
    cases hlisted : lastFinalAnswer (listedItems turn) with
    | none =>
      have hnone : (listedItems turn).filterMap finalAnswerText = [] := List.getLast?_eq_none_iff.mp hlisted
      have hnotified := filterMap_notified hnone
      simp [lastFinalAnswer, hnotified]
    | some text => simp

theorem summary_iff {polls rest : List Poll} {t : Poll} {log : ScheduledLog}
    (h : Delivers threadId turnId turn (polls.filterMap (Poll.completedItem threadId turnId)) last)
    (hread : t.read = .ok (.message last)) (hcancelled : t.cancelled = false)
    (hends : OnlyAnswersEnd env githubMcp threadId turnId (.empty, log) polls) :
    (∃ w', waitForScheduledTurn env githubMcp threadId turnId ⟨polls ++ t :: rest, log⟩ =
      .done (parsedAnswer (lastFinalAnswer (turn.map Report.item))) w') ↔ LastListedIsLast turn := by
  obtain ⟨s', rest', hpoll⟩ := @poll_collected _ _ _ _ _ _ _ _ _ rest _ hends h hread hcancelled
  rw [h.notified] at hpoll
  rw [waitForScheduledTurn_run, hpoll, ← collected_iff]
  simp only [ScheduledTurnState.empty, Progress.done.injEq]
  constructor
  · rintro ⟨_, hresult, _⟩
    exact hresult
  · exact fun hresult => ⟨_, hresult, rfl⟩

/-! ## 二つの待ち方 -/

/-- 会話の発話の下書きが最後の答えであるのは、最初に知らせた答えが最後の答えと同じときに限り、予定の実行が最後の答えを読むのは、一覧の
最後の答えが最後の答えと同じ結果になるときに限る。 -/
theorem final_answer_selection (threadId turnId : String) :
    (∀ (appEnv : AppServerEnv) (context : CodexDynamicToolContext) (allowed : List String)
      (log : TurnLog) (turn : List Report) (messages : List Value) (last : Value) (rest : List (Except String Value))
      (s : TurnState × TurnLog),
      Delivers threadId turnId turn (messages.filterMap (completedItem threadId turnId)) last → hasError last = false →
      poll (turnStep appEnv context allowed threadId turnId) (.empty, log) (messages.map .ok) = .waiting s →
      ((∃ w', (waitForTerminalTurn appEnv context allowed threadId turnId).run
          ⟨messages.map .ok ++ .ok last :: rest, log⟩ =
        .done (.ok (answerOf ((turn.map Report.item).filterMap finalAgentText).getLast?)) w') ↔ FirstNotifiedIsLast turn)) ∧
    ∀ (env : ScheduledEnv) (githubMcp : Bool) (log : ScheduledLog) (turn : List Report)
      (polls : List Poll) (t : Poll) (last : Value) (rest : List Poll),
      Delivers threadId turnId turn (polls.filterMap (Poll.completedItem threadId turnId)) last →
      t.read = .ok (.message last) → t.cancelled = false →
      OnlyAnswersEnd env githubMcp threadId turnId (.empty, log) polls →
      ((∃ w', waitForScheduledTurn env githubMcp threadId turnId ⟨polls ++ t :: rest, log⟩ =
        .done (parsedAnswer (lastFinalAnswer (turn.map Report.item))) w') ↔ LastListedIsLast turn) :=
  ⟨fun _ _ _ _ _ _ _ _ _ h herror hgoes => draft_iff h herror hgoes,
    fun _ _ _ _ _ _ _ _ h hread hcancelled hends => summary_iff h hread hcancelled hends⟩

def answerItem (text : String) : Value :=
  .object [("type", .str "agentMessage"), ("phase", .str "final_answer"), ("text", .str text)]

def itemNotice (item : Value) : Value :=
  .object [("method", .str "item/completed"), ("params", .object [("threadId", .str "t"), ("turnId", .str "u"),
    ("item", item)])]

def turnNotice (items : List Value) : Value :=
  .object [("method", .str "turn/completed"), ("params", .object [("threadId", .str "t"),
    ("turn", .object [("id", .str "u"), ("status", .str "completed"), ("items", .arr items)])])]

def summaryText (summary : String) : String := "\x7b\"schema_version\":1,\"summary\":\"" ++ summary ++ "\"\x7d"

def revisedDraft : List Report :=
  [⟨answerItem "first", true, false, .inl rfl⟩, ⟨answerItem "second", true, false, .inl rfl⟩]

def revisedSummary : List Report :=
  [⟨answerItem (summaryText "a"), false, true, .inr rfl⟩, ⟨answerItem (summaryText "b"), true, false, .inl rfl⟩]

theorem revisedDraft_delivers : Delivers "t" "u" revisedDraft
    ([itemNotice (answerItem "first"), itemNotice (answerItem "second")].filterMap (completedItem "t" "u")) (turnNotice []) where
  notified := rfl
  terminal := by decide +kernel
  status := by decide +kernel
  listed := rfl

def noticePoll (message : Value) : Poll := ⟨false, .ok (.message message), false⟩

theorem revisedSummary_delivers : Delivers "t" "u" revisedSummary
    ([noticePoll (itemNotice (answerItem (summaryText "b")))].filterMap (Poll.completedItem "t" "u"))
    (turnNotice [answerItem (summaryText "a")]) where
  notified := rfl
  terminal := by decide +kernel
  status := by decide +kernel
  listed := rfl

theorem revisedSummary_parsed : parseFinalOutput (summaryText "a") = .ok "a" ∧ parseFinalOutput (summaryText "b") = .ok "b" := by
  decide +kernel

/-- 会話の発話は書き直す前の答えを返し、予定の実行は一覧にある先の答えを読む。 -/
theorem revised_answers_lost :
    (∃ w', (waitForTerminalTurn quietEnv operatorContext [] "t" "u").run
      ⟨[.ok (itemNotice (answerItem "first")), .ok (itemNotice (answerItem "second")), .ok (turnNotice [])], .empty⟩ =
        .done (.ok (.draft "first" none)) w') ∧
    ((revisedDraft.map Report.item).filterMap finalAgentText).getLast? = some "second" ∧
    (∃ w', waitForScheduledTurn smoothEnv false "t" "u"
      ⟨[noticePoll (itemNotice (answerItem (summaryText "b"))), noticePoll (turnNotice [answerItem (summaryText "a")])], .empty⟩ =
        .done (.completed "a") w') ∧
    parsedAnswer (lastFinalAnswer (revisedSummary.map Report.item)) = .completed "b" := by
  obtain ⟨ha, hb⟩ := revisedSummary_parsed
  refine ⟨⟨_, rfl⟩, rfl, ?_, ?_⟩
  · obtain ⟨s', rest', hpoll⟩ : ∃ s' rest', poll (scheduledTurnStep smoothEnv false "t" "u") (.empty, .empty)
        ([noticePoll (itemNotice (answerItem (summaryText "b")))] ++ [noticePoll (turnNotice [answerItem (summaryText "a")])]) =
        .ended (.result (collected (recordAgentMessages (notifiedItems revisedSummary ++ listedItems revisedSummary) none)))
          s' rest' :=
      poll_collected (.next rfl .done) revisedSummary_delivers rfl rfl
    have hrecord : recordAgentMessages (notifiedItems revisedSummary ++ listedItems revisedSummary) none =
        .ok (some (summaryText "a")) := by rfl
    rw [hrecord, collected, parsedAnswer, ha] at hpoll
    simp only [List.singleton_append] at hpoll
    simp only [waitForScheduledTurn_run, hpoll]
    exact ⟨_, rfl⟩
  · have hlast : lastFinalAnswer (revisedSummary.map Report.item) = some (summaryText "b") := by decide +kernel
    simp only [hlast, parsedAnswer, hb]

/-- 言い直した発言を、会話の側は知らせで、予定の側は知らせと一覧で受け取る。 -/
theorem final_answer_selection_sample :
    ((∃ w', (waitForTerminalTurn quietEnv operatorContext [] "t" "u").run
        ⟨[.ok (itemNotice (answerItem "first")), .ok (itemNotice (answerItem "second")), .ok (turnNotice [])], .empty⟩ =
      .done (.ok (answerOf ((revisedDraft.map Report.item).filterMap finalAgentText).getLast?)) w') ↔
        FirstNotifiedIsLast revisedDraft) ∧
    ((∃ w', waitForScheduledTurn smoothEnv false "t" "u"
        ⟨[noticePoll (itemNotice (answerItem (summaryText "b"))), noticePoll (turnNotice [answerItem (summaryText "a")])],
          .empty⟩ = .done (parsedAnswer (lastFinalAnswer (revisedSummary.map Report.item))) w') ↔
        LastListedIsLast revisedSummary) :=
  ⟨(final_answer_selection _ _).1 _ _ _ _ _ _ _ [] _ revisedDraft_delivers rfl rfl,
    (final_answer_selection _ _).2 _ _ _ _ [_] _ _ [] revisedSummary_delivers rfl rfl (.next rfl .done)⟩

end Codeoff.Codex
