import Codeoff.Codex.Theorems.TruthfulPreflight

/-!
# 終わった発話と、その結果

発話の終わりの知らせが届いても、結果がその知らせの言うものになるとは限らない。
-/

namespace Codeoff.Codex

open Codeoff.Control Codeoff.Json Codeoff.Runtime

variable {env : ScheduledEnv} {githubMcp : Bool} {threadId turnId : String}

def terminalStatuses : List String := ["completed", "failed", "interrupted"]

def turnOf (message : Value) : Value := field (params message) "turn"

def turnStatus (message : Value) : Option String := (field (turnOf message) "status").asStr

def isTerminal (threadId turnId : String) (message : Value) : Bool :=
  method message == some "turn/completed" && namesEndedTurn threadId turnId (params message)
    && (turnStatus message).any (· ∈ terminalStatuses)

def reportedResult (threadId turnId : String) (before : List Poll) (message : Value) : ScheduledExecutionResult :=
  scheduledTurnResult threadId turnId (turnOf message)
    (lastFinalAnswer (before.filterMap (Poll.completedItem threadId turnId)
      ++ (field (turnOf message) "items").asArr.getD []))

def Poll.isMessage (p : Poll) : Bool :=
  match p.read with
  | .ok (.message _) => true
  | _ => false

def delivers : List Poll → Bool
  | [] => true
  | p :: rest =>
    if p.cancelled then (p :: rest).all Poll.isMessage
    else
      match p.read with
      | .ok (.message _) => delivers rest
      | .ok .timedOut => if p.expired then rest.all Poll.isMessage else delivers rest
      | .ok .eof => false
      | .error _ => false

/-- `before` の後に、いまの発話の最初の終わりの知らせ `message` が届く。 -/
structure TerminalDelivery (threadId turnId : String) (before : List Poll) (t : Poll) (message : Value) : Prop where
  read : t.read = .ok (.message message)
  terminal : isTerminal threadId turnId message = true
  first : ∀ p ∈ before, ∀ m, p.read = .ok (.message m) → isTerminal threadId turnId m = false
  delivered : delivers before = true

def Poll.rejectsInterrupt (p : Poll) : Bool :=
  match p.read with
  | .ok (.message m) => (messageId m).asU64 == some 5 && hasError m
  | _ => false

/-- 取り消しの求めを書けて、断られず、取り消されたという知らせが届く。`polls` は、取り消しに移ってから知らせまで。 -/
def InterruptConfirmed (env : ScheduledEnv) (log : ScheduledLog) (polls : List Poll) (message : Value) : Prop :=
  env.writeJson log.events.length = none ∧ env.deadlineFits (log.events.length + 1) = true ∧
    turnStatus message = some "interrupted" ∧ ∀ p ∈ polls, p.rejectsInterrupt = false

/-- 知らせの言う最後の答えが、上限を越えている。 -/
def ReportsTooLarge (threadId turnId : String) (before : List Poll) (message : Value) : Prop :=
  turnStatus message = some "completed" ∧
    ∃ text ∈ lastFinalAnswer (before.filterMap (Poll.completedItem threadId turnId)
      ++ (field (turnOf message) "items").asArr.getD []), TooLarge text

/-- 知らせの前に、読む者が何も断らず、取り消しにも移らない。移ったときは、取り消しが確認される。上限を越えた答えを断ってよいのは、
知らせの言う最後の答えも上限を越えるときだけである。 -/
def VerdictKept (env : ScheduledEnv) (githubMcp : Bool) (threadId turnId : String) (log : ScheduledLog)
    (before : List Poll) (t : Poll) (message : Value) : Prop :=
  match poll (scheduledTurnStep env githubMcp threadId turnId) (.empty, log) before with
  | .ended (.result r) _ _ => r = .failed answerTooLarge ∧ ReportsTooLarge threadId turnId before message
  | .ended .interrupt s rest => InterruptConfirmed env s.2 (rest ++ [t]) message
  | .waiting s =>
    if t.cancelled then InterruptConfirmed env s.2 [t] message
    else
      (∃ text ∈ ((field (turnOf message) "items").asArr.getD []).filterMap finalAnswerText, TooLarge text) →
        ReportsTooLarge threadId turnId before message

theorem scheduledMessage_of_terminal {message : Value} (h : isTerminal threadId turnId message = true) :
    scheduledMessage threadId turnId message = .turnCompleted := by
  simp only [isTerminal, Bool.and_eq_true, beq_iff_eq] at h
  simp [scheduledMessage, h.1.1, h.1.2]

theorem observeFinalStreamEvent_of_terminal {message : Value} (h : isTerminal threadId turnId message = true)
    (state : ScheduledTurnState) : observeFinalStreamEvent threadId turnId message state = .ok state := by
  simp only [isTerminal, Bool.and_eq_true, beq_iff_eq] at h
  simp [observeFinalStreamEvent, h.1.1]

theorem reportedResult_interrupted {before : List Poll} {message : Value}
    (h : turnStatus message = some "interrupted") :
    reportedResult threadId turnId before message = .interrupted (some threadId) (some turnId) := by
  simp only [turnStatus] at h
  simp [reportedResult, scheduledTurnResult, h]

def FromInterrupt (threadId turnId : String) (r : ScheduledExecutionResult) : Prop :=
  (∃ f, r = .transportLost f) ∨ r = .interrupted (some threadId) (some turnId)

theorem status_of_fromInterrupt {before : List Poll} {message : Value}
    (hterminal : isTerminal threadId turnId message = true)
    (h : FromInterrupt threadId turnId (reportedResult threadId turnId before message)) :
    turnStatus message = some "interrupted" := by
  by_contra hstatus
  simp only [turnStatus] at hstatus
  unfold FromInterrupt reportedResult scheduledTurnResult at h
  dsimp only at h
  by_cases hcompleted : (field (turnOf message) "status").asStr = some "completed"
  · rw [if_pos hcompleted] at h
    cases hfinal : lastFinalAnswer (before.filterMap (Poll.completedItem threadId turnId)
        ++ (field (turnOf message) "items").asArr.getD []) with
    | none => simp [hfinal] at h
    | some text =>
      simp only [hfinal] at h
      cases hparse : parseFinalOutput text with
      | error f => simp [hparse] at h
      | ok summary => simp [hparse] at h
  · rw [if_neg hcompleted, if_neg hstatus] at h
    split_ifs at h
    · simp at h
    · simp at h

theorem not_transportLost {before : List Poll} {message : Value} (hterminal : isTerminal threadId turnId message = true)
    {f : ScheduledFailure} (h : reportedResult threadId turnId before message = .transportLost f) : False := by
  rw [reportedResult_interrupted (status_of_fromInterrupt hterminal (.inl ⟨f, h⟩))] at h
  cases h

/-! ## 取り消しの間 -/

theorem interruptStep_result (s : Unit × ScheduledLog) (p : Poll) :
    match interruptStep threadId turnId s p with
    | .done r _ => FromInterrupt threadId turnId r
    | .held r _ => FromInterrupt threadId turnId r
    | .next _ => True := by
  obtain ⟨cancelled, read, expired⟩ := p
  match read with
  | .error error => exact .inl ⟨_, rfl⟩
  | .ok .eof => exact .inl ⟨_, rfl⟩
  | .ok .timedOut => exact .inl ⟨_, rfl⟩
  | .ok (.message message) =>
    simp only [interruptStep]
    split_ifs
    · exact .inl ⟨_, rfl⟩
    · exact .inr rfl
    · trivial

theorem interruptStep_message {s : Unit × ScheduledLog} {p : Poll} {message : Value}
    (hread : p.read = .ok (.message message)) :
    interruptStep threadId turnId s p =
      if p.rejectsInterrupt then .done (transportFailure "turn_interrupt_rejected") ((), s.2.hear message)
      else if isTerminal threadId turnId message ∧ turnStatus message = some "interrupted" then
        .done (.interrupted (some threadId) (some turnId)) ((), s.2.hear message)
      else .next ((), s.2.hear message) := by
  have hstatus : (method message = some "turn/completed" ∧ namesEndedTurn threadId turnId (params message) = true ∧
      (field (field (params message) "turn") "status").asStr = some "interrupted") ↔
        (isTerminal threadId turnId message = true ∧ turnStatus message = some "interrupted") := by
    unfold isTerminal turnStatus turnOf
    constructor
    · rintro ⟨hmethod, hnames, hstatus⟩
      simp [hmethod, hnames, hstatus, terminalStatuses]
    · rintro ⟨hterminal, hstatus⟩
      simp only [Bool.and_eq_true, beq_iff_eq] at hterminal
      exact ⟨hterminal.1.1, hterminal.1.2, hstatus⟩
  simp only [interruptStep, hread, hstatus, Poll.rejectsInterrupt, Bool.and_eq_true, beq_iff_eq]

theorem poll_interrupt {polls : List Poll} (tail : List Poll) (log : ScheduledLog)
    (hmessages : polls.all Poll.isMessage = true)
    (hfirst : ∀ p ∈ polls, ∀ m, p.read = .ok (.message m) → isTerminal threadId turnId m = false) :
    ((∃ p ∈ polls, p.rejectsInterrupt = true) → ∃ s rest,
      poll (interruptStep threadId turnId) ((), log) (polls ++ tail) =
        .ended (transportFailure "turn_interrupt_rejected") s rest) ∧
    ((∀ p ∈ polls, p.rejectsInterrupt = false) → ∃ log',
      poll (interruptStep threadId turnId) ((), log) (polls ++ tail) =
        poll (interruptStep threadId turnId) ((), log') tail) := by
  induction polls generalizing log with
  | nil => exact ⟨by simp, fun _ => ⟨log, rfl⟩⟩
  | cons p rest ih =>
    simp only [List.all_cons, Bool.and_eq_true] at hmessages
    obtain ⟨message, hread⟩ : ∃ message, p.read = .ok (.message message) := by
      have h := hmessages.1
      unfold Poll.isMessage at h
      split at h
      · exact ⟨_, ‹_›⟩
      · cases h
    have hstep := @interruptStep_message threadId turnId (((), log)) _ _ hread
    have hnot := hfirst p (by simp) message hread
    simp only [List.cons_append, poll, hstep]
    cases hrejects : p.rejectsInterrupt with
    | true => exact ⟨fun _ => ⟨_, _, rfl⟩, fun h => by simp [h p (by simp)] at hrejects⟩
    | false =>
      simp only [hnot, Bool.false_eq_true, if_false, false_and]
      obtain ⟨hsome, hnone⟩ := ih (log.hear message) hmessages.2 fun q hq => hfirst q (by simp [hq])
      refine ⟨?_, fun h => hnone fun q hq => h q (by simp [hq])⟩
      rintro ⟨q, hq, hrejects'⟩
      rcases List.mem_cons.mp hq with rfl | hq
      · simp [hrejects] at hrejects'
      · exact hsome ⟨q, hq, hrejects'⟩

theorem length_interrupting {log : ScheduledLog} :
    (interrupting env threadId turnId log).events.length = log.events.length + 1 := length_record

/-- 取り消しに移ってからの結果が知らせの通りになるのは、取り消しが確認されるときである。 -/
theorem interrupt_reported {rest before : List Poll} {t : Poll} {message : Value} (after : List Poll)
    (log : ScheduledLog) (hmessages : rest.all Poll.isMessage = true)
    (hfirst : ∀ p ∈ rest, ∀ m, p.read = .ok (.message m) → isTerminal threadId turnId m = false)
    (hread : t.read = .ok (.message message)) (hterminal : isTerminal threadId turnId message = true) :
    (∃ w', interruptScheduledTurn env threadId turnId ⟨rest ++ t :: after, log⟩ =
      .done (reportedResult threadId turnId before message) w') ↔
        InterruptConfirmed env log (rest ++ [t]) message := by
  obtain ⟨hrejected, hpassed⟩ := @poll_interrupt threadId turnId _ (t :: after)
      (interrupting env threadId turnId log) hmessages hfirst
  constructor
  · rintro ⟨w', hrun⟩
    rw [interruptScheduledTurn_run, length_interrupting] at hrun
    cases hwrite : env.writeJson log.events.length with
    | some error =>
      simp only [hwrite] at hrun
      injection hrun with hresult
      exact (not_transportLost hterminal hresult.symm).elim
    | none =>
      simp only [hwrite] at hrun
      split_ifs at hrun with hfits
      · have hfrom : FromInterrupt threadId turnId (reportedResult threadId turnId before message) := by
          refine Session.reading_result ?_ ?_ hrun
          · intro s p r s' hstep
            simpa [hstep] using @interruptStep_result threadId turnId s p
          · intro s p r s' hstep
            simpa [hstep] using @interruptStep_result threadId turnId s p
        have hstatus := status_of_fromInterrupt hterminal hfrom
        refine ⟨hwrite, hfits, hstatus, ?_⟩
        have hrest : ∀ p ∈ rest, p.rejectsInterrupt = false := by
          by_contra hsome
          obtain ⟨s, tail, hpoll⟩ := hrejected (by simpa using hsome)
          unfold Session.reading at hrun
          simp only [hpoll] at hrun
          injection hrun with hresult
          exact not_transportLost hterminal hresult.symm
        have ht : t.rejectsInterrupt = false := by
          by_contra hrejects
          obtain ⟨log', hpoll⟩ := hpassed hrest
          have hrejected : t.rejectsInterrupt = true := by simpa using hrejects
          unfold Session.reading at hrun
          simp only [hpoll, poll, interruptStep_message hread, hrejected, if_true] at hrun
          injection hrun with hresult
          exact not_transportLost hterminal hresult.symm
        intro p hp
        rcases List.mem_append.mp hp with hp | hp
        · exact hrest p hp
        · rw [List.mem_singleton.mp hp]; exact ht
      · injection hrun with hresult
        exact (not_transportLost hterminal hresult.symm).elim
  · rintro ⟨hwrite, hfits, hstatus, hquiet⟩
    obtain ⟨log', hpoll⟩ := hpassed fun p hp => hquiet p (by simp [hp])
    have ht : t.rejectsInterrupt = false := hquiet t (by simp)
    rw [interruptScheduledTurn_run, length_interrupting]
    simp only [hwrite, hfits, if_true]
    unfold Session.reading
    simp only [hpoll, poll, interruptStep_message hread, ht, Bool.false_eq_true, if_false, hterminal, hstatus,
      and_self, if_true, reportedResult_interrupted hstatus]
    exact ⟨_, rfl⟩

/-! ## 取り消しに移るまで -/

theorem readTurnMessage_result (message : Value) (s : ScheduledTurnState × ScheduledLog) :
    match readTurnMessage env githubMcp threadId turnId message s with
    | .done .interrupt _ => False
    | .held _ _ => False
    | _ => True := by
  unfold readTurnMessage
  cases observeFinalStreamEvent threadId turnId message s.1 with
  | error f => trivial
  | ok observed =>
    simp only [handleTurnMessage]
    cases scheduledMessage threadId turnId message with
    | toolCall =>
      simp only
      split_ifs
      · trivial
      · rcases handleScheduledDynamicToolCall env threadId turnId message observed.toolCallIds (s.2.hear message)
          with ⟨answer, log⟩
        cases answer with
        | error f => trivial
        | ok id => trivial
    | itemCompleted =>
      simp only
      cases recordAgentMessage (field (params message) "item") observed.phasedFinal with
      | error f => trivial
      | ok final => trivial
    | turnCompleted => trivial
    | other => trivial

theorem rest_of_interrupt {before rest : List Poll} {s s' : ScheduledTurnState × ScheduledLog}
    (hdelivers : delivers before = true)
    (h : poll (scheduledTurnStep env githubMcp threadId turnId) s before = .ended .interrupt s' rest) :
    rest.all Poll.isMessage = true ∧ ∀ p ∈ rest, p ∈ before := by
  induction before generalizing s with
  | nil => cases h
  | cons p more ih =>
    obtain ⟨cancelled, read, expired⟩ := p
    cases cancelled with
    | true => cases h; exact ⟨by simpa [delivers] using hdelivers, fun p hp => hp⟩
    | false =>
      match read with
      | .error error => cases h
      | .ok .eof => cases h
      | .ok .timedOut =>
        cases expired with
        | true => cases h; exact ⟨by simpa [delivers] using hdelivers, fun p hp => by simp [hp]⟩
        | false =>
          obtain ⟨hall, hsub⟩ := ih (by simpa [delivers] using hdelivers) h
          exact ⟨hall, fun p hp => by simp [hsub p hp]⟩
      | .ok (.message message) =>
        have hresult := @readTurnMessage_result env githubMcp threadId turnId message s
        simp only [poll, scheduledTurnStep, Bool.false_eq_true, if_false] at h
        cases hread : readTurnMessage env githubMcp threadId turnId message s with
        | next s₁ =>
          simp only [hread] at h
          obtain ⟨hall, hsub⟩ := ih (by simpa [delivers] using hdelivers) h
          exact ⟨hall, fun p hp => by simp [hsub p hp]⟩
        | done ended s₁ =>
          simp only [hread] at h hresult
          cases h
          exact hresult.elim
        | held ended s₁ => simp [hread] at hresult

/-! ## 読む者の断り -/

theorem reportedResult_tooLarge {before : List Poll} {message : Value} :
    reportedResult threadId turnId before message = .failed answerTooLarge ↔
      ReportsTooLarge threadId turnId before message := by
  have hmissing : outputViolation "scheduled_final_answer_missing" ≠ answerTooLarge := by decide +kernel
  unfold reportedResult scheduledTurnResult ReportsTooLarge turnStatus
  dsimp only
  split_ifs with hcompleted hinterrupted hfailed
  · cases lastFinalAnswer (before.filterMap (Poll.completedItem threadId turnId)
        ++ (field (turnOf message) "items").asArr.getD []) with
    | none => simp [hmissing]
    | some text =>
      simp only [hcompleted, true_and, Option.mem_def, Option.some.injEq, exists_eq_left']
      rw [← parseFinalOutput_tooLarge]
      cases parseFinalOutput text with
      | ok summary => simp
      | error f => simp
  · simp [hcompleted]
  · simp [hcompleted, answerTooLarge, outputViolation, failure]
  · simp [hcompleted, answerTooLarge, outputViolation, capability, failure]

def observedRefusals : List ScheduledFailure :=
  ["scheduled_final_item_id_missing", "scheduled_final_item_inventory_exceeds_limit", "scheduled_final_delta_invalid",
    "scheduled_final_deltas_too_large"].map outputViolation

/-- 終わりの知らせが言うことのない結果。 -/
def isUnreported : ScheduledExecutionResult → Bool
  | .failed f => f.kind == .capabilityMismatch || f.kind == .transport || observedRefusals.contains f
  | .preflightRejected _ => true
  | _ => false

theorem reportedResult_not_unreported {before : List Poll} {message : Value}
    (hterminal : isTerminal threadId turnId message = true) :
    isUnreported (reportedResult threadId turnId before message) = false := by
  have hanswer : ∀ f ∈ outputViolation "scheduled_final_answer_missing" :: answerTooLarge :: malformedAnswer,
      isUnreported (.failed f) = false := by decide +kernel
  have hturn (text : String) : isUnreported (.failed (failure .turnFailed text)) = false := by
    simp [isUnreported, failure, observedRefusals, outputViolation]
  have hstatus : (turnStatus message).any (· ∈ terminalStatuses) = true := by
    simp only [isTerminal, Bool.and_eq_true] at hterminal
    exact hterminal.2
  unfold turnStatus at hstatus
  unfold reportedResult scheduledTurnResult
  dsimp only
  split_ifs with hcompleted hinterrupted hfailed
  · cases lastFinalAnswer (before.filterMap (Poll.completedItem threadId turnId)
        ++ (field (turnOf message) "items").asArr.getD []) with
    | none => exact hanswer _ (by simp)
    | some text =>
      dsimp only
      cases hparse : parseFinalOutput text with
      | ok summary => rfl
      | error f =>
        refine hanswer f ?_
        by_cases hlarge : TooLarge text
        · rw [parseFinalOutput_tooLarge.mpr hlarge] at hparse
          cases hparse
          simp
        · simp [parseFinalOutput_error hlarge hparse]
  · rfl
  · exact hturn _
  · cases hknown : (field (turnOf message) "status").asStr with
    | none => simp [hknown] at hstatus
    | some status => simp_all [terminalStatuses]

theorem observeFinalStreamEvent_error {message : Value} {state : ScheduledTurnState} {f : ScheduledFailure}
    (h : observeFinalStreamEvent threadId turnId message state = .error f) : f ∈ observedRefusals := by
  unfold observeFinalStreamEvent at h
  refine List.mem_map.mpr ?_
  split_ifs at h
  · unfold observeFinalItem at h
    cases hid : (field (field (params message) "item") "id").asStr with
    | none =>
      simp only [hid] at h
      cases h
      exact ⟨_, by decide, rfl⟩
    | some itemId =>
      simp only [hid] at h
      split_ifs at h
      cases h
      exact ⟨_, by decide, rfl⟩
  · unfold observeFinalDelta at h
    cases hdelta : (field (params message) "delta").asStr with
    | none =>
      simp only [hdelta] at h
      cases h
      exact ⟨_, by decide, rfl⟩
    | some delta =>
      simp only [hdelta] at h
      split_ifs at h
      cases h
      exact ⟨_, by decide, rfl⟩

theorem scheduledToolCall_error {seen : List String} {message : Value} {f : ScheduledFailure}
    (h : scheduledToolCall threadId turnId seen message = .error f) : f.kind = .capabilityMismatch := by
  unfold scheduledToolCall at h
  split at h
  · cases h
    rfl
  split at h
  · cases h
    rfl
  split at h
  · cases h
    rfl
  split at h
  · cases h
    rfl
  · cases h

theorem handleScheduledDynamicToolCall_error {seen : List String} {message : Value} {f : ScheduledFailure}
    {log log' : ScheduledLog}
    (h : handleScheduledDynamicToolCall env threadId turnId message seen log = (.error f, log')) :
    isUnreported (.failed f) = true := by
  unfold handleScheduledDynamicToolCall at h
  cases hcall : scheduledToolCall threadId turnId seen message with
  | error g =>
    simp only [hcall, Prod.mk.injEq, Except.error.injEq] at h
    rw [← h.1]
    simp [isUnreported, scheduledToolCall_error hcall]
  | ok c =>
    simp only [hcall] at h
    split at h
    · cases h
      rfl
    split at h
    · cases h
    · cases h
      rfl

theorem endScheduledTurn_unknown {turn : Value} {final : Option String}
    (hstatus : (field turn "status").asStr.any (· ∈ terminalStatuses) = false) :
    endScheduledTurn threadId turnId turn final = .failed answerTooLarge ∨
      isUnreported (endScheduledTurn threadId turnId turn final) = true := by
  unfold endScheduledTurn
  rcases recordAgentMessages_cases ((field turn "items").asArr.getD []) final with ⟨herror, -⟩ | ⟨hok, -⟩
  · rw [herror]
    exact .inl rfl
  · rw [hok]
    have hother (status : String) (h : status ∈ terminalStatuses) : (field turn "status").asStr ≠ some status := by
      intro hsome
      simp [hsome, h] at hstatus
    right
    simp only [scheduledTurnResult, if_neg (hother "completed" (by decide)), if_neg (hother "interrupted" (by decide)),
      if_neg (hother "failed" (by decide))]
    rfl

/-- 終わりの知らせでない文を断るのは、大きすぎる答えか、終わりの知らせの言うことのない理由による。 -/
theorem readTurnMessage_refused {message : Value} {s s' : ScheduledTurnState × ScheduledLog}
    {r : ScheduledExecutionResult} (hterminal : isTerminal threadId turnId message = false)
    (h : readTurnMessage env githubMcp threadId turnId message s = .done (.result r) s') :
    r = .failed answerTooLarge ∨ isUnreported r = true := by
  unfold readTurnMessage at h
  cases hobserve : observeFinalStreamEvent threadId turnId message s.1 with
  | error f =>
    simp only [hobserve] at h
    cases h
    right
    simp [isUnreported, observeFinalStreamEvent_error hobserve]
  | ok observed =>
    simp only [hobserve, handleTurnMessage] at h
    have hspec := scheduledMessage_spec threadId turnId message
    cases hkind : scheduledMessage threadId turnId message with
    | toolCall =>
      simp only [hkind] at h
      split_ifs at h
      · cases h
        exact .inr rfl
      · rcases hcall : handleScheduledDynamicToolCall env threadId turnId message observed.toolCallIds
          (s.2.hear message) with ⟨answer, log⟩
        cases answer with
        | ok id => simp [hcall] at h
        | error f =>
          simp only [hcall] at h
          cases h
          exact .inr (handleScheduledDynamicToolCall_error hcall)
    | itemCompleted =>
      simp only [hkind] at h
      cases hrecord : recordAgentMessage (field (params message) "item") observed.phasedFinal with
      | ok final => simp [hrecord] at h
      | error f =>
        simp only [hrecord] at h
        cases h
        rw [recordAgentMessage_error hrecord]
        exact .inl rfl
    | turnCompleted =>
      simp only [hkind] at h hspec
      cases h
      refine endScheduledTurn_unknown ?_
      simpa [isTerminal, turnStatus, turnOf, hspec.1, hspec.2] using hterminal
    | other => simp [hkind] at h

theorem poll_refused {before rest : List Poll} {s s' : ScheduledTurnState × ScheduledLog}
    {r : ScheduledExecutionResult} (hdelivers : delivers before = true)
    (hfirst : ∀ p ∈ before, ∀ m, p.read = .ok (.message m) → isTerminal threadId turnId m = false)
    (h : poll (scheduledTurnStep env githubMcp threadId turnId) s before = .ended (.result r) s' rest) :
    r = .failed answerTooLarge ∨ isUnreported r = true := by
  induction before generalizing s with
  | nil => cases h
  | cons p more ih =>
    have hmore := fun q hq => hfirst q (List.mem_cons_of_mem p hq)
    obtain ⟨cancelled, read, expired⟩ := p
    cases cancelled with
    | true => cases h
    | false =>
      match read with
      | .error error => cases hdelivers
      | .ok .eof => cases hdelivers
      | .ok .timedOut =>
        cases expired with
        | true => cases h
        | false => exact ih (by simpa [delivers] using hdelivers) hmore h
      | .ok (.message message) =>
        simp only [poll, scheduledTurnStep, Bool.false_eq_true, if_false] at h
        cases hread : readTurnMessage env githubMcp threadId turnId message s with
        | next s₁ =>
          simp only [hread] at h
          exact ih (by simpa [delivers] using hdelivers) hmore h
        | done ended s₁ =>
          simp only [hread] at h
          cases h
          exact readTurnMessage_refused (hfirst _ List.mem_cons_self message rfl) hread
        | held ended s₁ =>
          have hresult := @readTurnMessage_result env githubMcp threadId turnId message s
          simp [hread] at hresult

/-- 知らせの前に断った結果が知らせの通りになるのは、どちらも答えが上限を越えるというときだけである。 -/
theorem refused_reported {before rest : List Poll} {s s' : ScheduledTurnState × ScheduledLog} {message : Value}
    {r : ScheduledExecutionResult} (hdelivers : delivers before = true)
    (hfirst : ∀ p ∈ before, ∀ m, p.read = .ok (.message m) → isTerminal threadId turnId m = false)
    (hterminal : isTerminal threadId turnId message = true)
    (h : poll (scheduledTurnStep env githubMcp threadId turnId) s before = .ended (.result r) s' rest) :
    r = reportedResult threadId turnId before message ↔
      r = .failed answerTooLarge ∧ ReportsTooLarge threadId turnId before message := by
  rw [← reportedResult_tooLarge]
  constructor
  · intro hr
    rcases poll_refused hdelivers hfirst h with hlarge | hunreported
    · exact ⟨hlarge, hr.symm.trans hlarge⟩
    · rw [hr, reportedResult_not_unreported hterminal] at hunreported
      cases hunreported
  · rintro ⟨hlarge, hreported⟩
    exact hlarge.trans hreported.symm

theorem scheduledTurnStep_terminal {s : ScheduledTurnState × ScheduledLog} {t : Poll} {message : Value}
    (hread : t.read = .ok (.message message)) (hcancelled : t.cancelled = false)
    (hterminal : isTerminal threadId turnId message = true) :
    scheduledTurnStep env githubMcp threadId turnId s t =
      .done (.result (endScheduledTurn threadId turnId (turnOf message) s.1.phasedFinal)) (s.1, s.2.hear message) := by
  simp [scheduledTurnStep, hcancelled, hread, readTurnMessage, observeFinalStreamEvent_of_terminal hterminal,
    handleTurnMessage, scheduledMessage_of_terminal hterminal, turnOf]

theorem endScheduledTurn_reported {before : List Poll} {message : Value} {final : Option String}
    (hfinal : final = lastFinalAnswer (before.filterMap (Poll.completedItem threadId turnId))) :
    endScheduledTurn threadId turnId (turnOf message) final = reportedResult threadId turnId before message ↔
      ((∃ text ∈ ((field (turnOf message) "items").asArr.getD []).filterMap finalAnswerText, TooLarge text) →
        ReportsTooLarge threadId turnId before message) := by
  unfold endScheduledTurn
  rcases recordAgentMessages_cases ((field (turnOf message) "items").asArr.getD []) final with
    ⟨herror, hlarge⟩ | ⟨hok, hsmall⟩
  · rw [herror, ← reportedResult_tooLarge]
    exact ⟨fun h _ => h.symm, fun h => (h hlarge).symm⟩
  · rw [hok, hfinal, ← lastFinalAnswer_append]
    exact ⟨fun _ ⟨text, htext, hlarge⟩ => (hsmall text htext hlarge).elim, fun _ => rfl⟩

/-- 届いた終わりの知らせが結果になるのは、読む者が先に断らず、取り消しに移らないか、取り消しが確認されるときに限る。 -/
theorem terminal_verdict (env : ScheduledEnv) (githubMcp : Bool) (threadId turnId : String) (log : ScheduledLog)
    (before after : List Poll) (t : Poll) (message : Value)
    (hdelivery : TerminalDelivery threadId turnId before t message) :
    (∃ w', waitForScheduledTurn env githubMcp threadId turnId ⟨before ++ t :: after, log⟩ =
      .done (reportedResult threadId turnId before message) w') ↔
        VerdictKept env githubMcp threadId turnId log before t message := by
  obtain ⟨hread, hterminal, hfirst, hdelivers⟩ := hdelivery
  simp only [waitForScheduledTurn_run, VerdictKept]
  cases hpoll : poll (scheduledTurnStep env githubMcp threadId turnId) (.empty, log) before with
  | ended ended s rest =>
    rw [poll_append_of_ended _ hpoll]
    cases ended with
    | result r =>
      refine Iff.trans ?_ (refused_reported hdelivers hfirst hterminal hpoll)
      constructor
      · rintro ⟨w', hrun⟩
        injection hrun
      · rintro rfl
        exact ⟨_, rfl⟩
    | interrupt =>
      obtain ⟨hmessages, hsub⟩ := rest_of_interrupt hdelivers hpoll
      exact interrupt_reported after s.2 hmessages (fun p hp => hfirst p (hsub p hp)) hread hterminal
  | waiting s =>
    rw [poll_append_of_waiting _ hpoll]
    cases hcancelled : t.cancelled with
    | true =>
      have hstep : scheduledTurnStep env githubMcp threadId turnId s t = .held .interrupt s := by
        simp [scheduledTurnStep, hcancelled]
      simp only [poll, hstep, if_true]
      exact @interrupt_reported _ _ _ [] _ _ _ after s.2 rfl (by simp) hread hterminal
    | false =>
      have hfinal := poll_phasedFinal hpoll
      simp only [ScheduledTurnState.empty, Option.or_none] at hfinal
      simp only [poll, scheduledTurnStep_terminal hread hcancelled hterminal, Bool.false_eq_true, if_false]
      rw [← endScheduledTurn_reported hfinal]
      constructor
      · rintro ⟨w', hrun⟩
        injection hrun
      · intro hresult
        exact ⟨_, by rw [hresult]⟩

def completedTurn : Value :=
  .object [("method", .str "turn/completed"), ("params", .object [("threadId", .str "t"),
    ("turn", .object [("id", .str "u"), ("status", .str "completed"), ("items", .arr [])])])]

def completedWhenCancelled : Poll := ⟨true, .ok (.message completedTurn), false⟩

theorem completedWhenCancelled_delivery : TerminalDelivery "t" "u" [] completedWhenCancelled completedTurn where
  read := rfl
  terminal := by decide +kernel
  first := by simp
  delivered := rfl

/-- 取り消しに移るのと同時に完了の知らせが届く場合。 -/
theorem completedWhenCancelled_verdict :
    (∃ w', waitForScheduledTurn smoothEnv true "t" "u" ⟨[completedWhenCancelled], .empty⟩ =
      .done (reportedResult "t" "u" [] completedTurn) w') ↔
        VerdictKept smoothEnv true "t" "u" .empty [] completedWhenCancelled completedTurn :=
  terminal_verdict smoothEnv true "t" "u" .empty [] [] completedWhenCancelled completedTurn
    completedWhenCancelled_delivery

/-- 取り消しに移った後に届いた完了は読み飛ばされ、成否のわからない実行になる。 -/
theorem completedWhenCancelled_lost :
    TerminalDelivery "t" "u" [] completedWhenCancelled completedTurn ∧
      ¬∃ w', waitForScheduledTurn smoothEnv true "t" "u"
        ⟨[completedWhenCancelled, ⟨true, .ok .timedOut, false⟩], .empty⟩ =
          .done (reportedResult "t" "u" [] completedTurn) w' := by
  refine ⟨completedWhenCancelled_delivery, ?_⟩
  rintro ⟨w', hrun⟩
  have hlost : ∃ w', waitForScheduledTurn smoothEnv true "t" "u"
      ⟨[completedWhenCancelled, ⟨true, .ok .timedOut, false⟩], .empty⟩ =
        .done (.transportLost (failure .timedOut "turn_interrupt_not_confirmed")) w' := ⟨_, rfl⟩
  obtain ⟨w'', hlost⟩ := hlost
  rw [hlost] at hrun
  injection hrun with hresult
  exact not_transportLost completedWhenCancelled_delivery.terminal hresult.symm

end Codeoff.Codex
