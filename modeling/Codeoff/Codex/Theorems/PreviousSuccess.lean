import Mathlib.Data.List.Infix
import Codeoff.Codex.Theorems.TruthfulPreflight
import Codeoff.Core.Sha256
import Codeoff.Runtime.Lemmas.ScheduledTask
import Codeoff.State.Theorems.Lifecycle

/-!
# 前回の成功の行方

予定の実行の文面は、作業の指示だけである。
-/

namespace Codeoff.Codex

open Codeoff.Agent Codeoff.Control Codeoff.Core Codeoff.Json Codeoff.Runtime Codeoff.State

/-- `turn/start` の、利用者の文面。 -/
def userText (message : Value) : Option String :=
  ((field (params message) "input").asArr.bind List.head?).bind fun item => (field item "text").asStr

/-- 作業の実行は、文面 `text` で発話を始めることがある。 -/
def SendsText (task : AgentTask) (text : String) : Prop :=
  ∃ (env : ScheduledEnv) (cwd : String) (githubMcp : Bool) (threadId : String) (cancelled : Bool)
    (w : Wire Poll ScheduledLog) (message : Value),
    .wrote message none ∈
      (executePrepared env ⟨task, cwd⟩ githubMcp threadId cancelled w).state.log.events.drop w.log.events.length ∧
      isTurnStart message = true ∧ userText message = some text

/-- 加わった働きかけのうち、発話を始めるものは、依頼の開始だけである。 -/
def StartsOnly (request : ScheduledCodexRequest) (threadId : String) (base events : List TransportEvent) : Prop :=
  ∃ more, events = base ++ more ∧ ∀ event ∈ more, event.startsTurn = true →
    ∃ error, event = .wrote (requestMessage 5 "turn/start" (scheduledTurnParams request threadId)) error

variable {request : ScheduledCodexRequest} {threadId : String} {base : List TransportEvent}

theorem startsOnly_append {events : List TransportEvent} {event : TransportEvent}
    (h : StartsOnly request threadId base events)
    (hevent : event.startsTurn = true →
      ∃ error, event = .wrote (requestMessage 5 "turn/start" (scheduledTurnParams request threadId)) error) :
    StartsOnly request threadId base (events ++ [event]) := by
  obtain ⟨more, rfl, hall⟩ := h
  refine ⟨more ++ [event], by simp, fun e he => ?_⟩
  rcases List.mem_append.mp he with he | he
  · exact hall e he
  · rw [List.mem_singleton.mp he]
    exact hevent

theorem executePrepared_starts {env : ScheduledEnv} {githubMcp cancelled : Bool} :
    KeepsEvents (StartsOnly request threadId base) (executePrepared env request githubMcp threadId cancelled) := by
  have hsteady : Steady (StartsOnly request threadId base) := fun events event hquiet h =>
    startsOnly_append h fun hstarts => by simp [hquiet] at hstarts
  refine Session.Keeps.bind
    (executePreparedProtocol_starts hsteady fun events error h => startsOnly_append h fun _ => ⟨error, rfl⟩)
    fun result => ?_
  refine Session.Keeps.bind (boundedShutdown_keeps hsteady) fun shutdown => ?_
  cases shutdown with
  | ok done => exact Session.Keeps.pure
  | error f => exact Session.Keeps.pure

theorem userText_turnStart {params : Value} {text : String}
    (h : ((field params "input").asArr.bind List.head?).bind (fun item => (field item "text").asStr) = some text) :
    userText (requestMessage 5 "turn/start" params) = some text := by
  have hparams : Codex.params (requestMessage 5 "turn/start" params) = params := by
    have hget : (requestMessage 5 "turn/start" params).get "params" = some params := by
      rw [requestMessage, get_object (by simp)]
      rfl
    simp [Codex.params, field, hget, Value.ofOption]
  rw [userText, hparams, h]

theorem userText_scheduledTurn :
    userText (requestMessage 5 "turn/start" (scheduledTurnParams request threadId)) =
      some request.task.instruction := by
  apply userText_turnStart
  have hinput : (scheduledTurnParams request threadId).get "input" =
      some (.arr [.object [("type", .str "text"), ("text", .str request.task.instruction)]]) := by
    rw [scheduledTurnParams, get_object (by simp)]
    rfl
  have htext : (Value.object [("type", .str "text"), ("text", .str request.task.instruction)]).get "text" =
      some (.str request.task.instruction) := by
    rw [get_object (by simp)]
    rfl
  simp [field, hinput, htext, Value.ofOption, Value.asArr, Value.asStr]

theorem sendsText_instruction (task : AgentTask) : SendsText task task.instruction := by
  refine ⟨smoothEnv, "/", false, "t", false, ⟨[], .empty⟩,
    requestMessage 5 "turn/start" (scheduledTurnParams ⟨task, "/"⟩ "t"), ?_, ?_, userText_scheduledTurn⟩
  · obtain ⟨log, hpassed, hrun⟩ := @executePreparedProtocol_started smoothEnv ⟨task, "/"⟩ false "t" ⟨[], .empty⟩ rfl
    simp only [List.dropWhile_nil] at hrun
    rw [executePrepared, Session.bind_waiting _ hrun]
    simp [Progress.state, hpassed.events, started, ScheduledLog.record, ScheduledLog.empty]
  · simp [isTurnStart, method_requestMessage]

theorem sendsText_iff {task : AgentTask} {text : String} : SendsText task text ↔ text = task.instruction := by
  constructor
  · rintro ⟨env, cwd, githubMcp, threadId, cancelled, w, message, hmem, hstart, htext⟩
    obtain ⟨more, hevents, hall⟩ := @executePrepared_starts ⟨task, cwd⟩ threadId w.log.events env githubMcp
        cancelled w ⟨[], by simp, by simp⟩
    rw [hevents, List.drop_left] at hmem
    obtain ⟨error, hmessage⟩ := hall _ hmem hstart
    cases hmessage
    rw [userText_scheduledTurn] at htext
    exact (Option.some.inj htext).symm
  · rintro rfl
    exact sendsText_instruction task

/-! ## 二つの実行 -/

def claimedTask (E : Env) (claim : ClaimedScheduledRun) (nonce : String) : Option AgentTask := do
  let authority ← (ScheduledPrepareAuthority.forClaim E claim nonce).toOption
  (taskFromClaim claim authority).toOption

/-- 前回の成功 `previous` を添えた実行。 -/
def withPrevious (claim : ClaimedScheduledRun) (previous : String) : ClaimedScheduledRun :=
  { claim with executionBaseline := { claim.executionBaseline with previousSuccessContext := some previous } }

/-- 前回の成功だけが違う二つの実行と、その作業。 -/
structure TwoRuns where
  claim : ClaimedScheduledRun
  firstPrevious : String
  secondPrevious : String
  firstNonce : String
  secondNonce : String
  first : AgentTask
  second : AgentTask

structure TwoRuns.Differ (runs : TwoRuns) (E : Env) : Prop where
  first : claimedTask E (withPrevious runs.claim runs.firstPrevious) runs.firstNonce = some runs.first
  second : claimedTask E (withPrevious runs.claim runs.secondPrevious) runs.secondNonce = some runs.second
  attached : ∃ a b, runs.first.previousSuccess = some a ∧ runs.second.previousSuccess = some b ∧
    a.content ≠ "" ∧ b.content ≠ "" ∧ a.content ≠ b.content

def TextsDiffer (first second : AgentTask) : Prop :=
  ∀ text text', SendsText first text → SendsText second text' → text ≠ text'

def RemoteTextsDiffer (runs : TwoRuns) : Prop :=
  ∀ binding binding' encoded encoded' first second,
    remoteTaskJson runs.first binding = some encoded → decodeScheduledRemoteTask encoded binding = some first →
      remoteTaskJson runs.second binding' = some encoded' →
        decodeScheduledRemoteTask encoded' binding' = some second → TextsDiffer first second

def CarriesInstruction (runs : TwoRuns) : Prop :=
  ∀ text, SendsText runs.first text → ∃ definition instruction, parse runs.claim.definition.canonicalJson = some definition ∧
    ScheduledPrepareAuthority.instructionOf definition = some instruction ∧
      containsChars instruction text.toList = true

structure PreviousSuccessReaches (runs : TwoRuns) : Prop where
  onLocal : TextsDiffer runs.first runs.second
  onRemote : RemoteTextsDiffer runs
  whole : CarriesInstruction runs

theorem forClaim_instruction {E : Env} {claim : ClaimedScheduledRun} {nonce : String}
    {authority : ScheduledPrepareAuthority} (h : ScheduledPrepareAuthority.forClaim E claim nonce = .ok authority) :
    ∃ definition, parse claim.definition.canonicalJson = some definition ∧
      ScheduledPrepareAuthority.instructionOf definition = some authority.instruction := by
  unfold ScheduledPrepareAuthority.forClaim at h
  obtain ⟨_, -, h⟩ := Relational.except_bind_ok.mp h
  obtain ⟨_, -, h⟩ := Relational.except_bind_ok.mp h
  obtain ⟨_, -, h⟩ := Relational.except_bind_ok.mp h
  obtain ⟨_, -, h⟩ := Relational.except_bind_ok.mp h
  obtain ⟨_, -, h⟩ := Relational.except_bind_ok.mp h
  cases hparse : parse claim.definition.canonicalJson with
  | none => simp [hparse] at h
  | some definition =>
    cases hinstruction : ScheduledPrepareAuthority.instructionOf definition with
    | none => simp [hparse, hinstruction] at h
    | some instruction =>
      simp only [hparse, hinstruction] at h
      cases h
      exact ⟨definition, rfl, hinstruction⟩

theorem claimedTask_instruction {E : Env} {claim : ClaimedScheduledRun} {nonce : String} {task : AgentTask}
    (h : claimedTask E claim nonce = some task) :
    ∃ definition, parse claim.definition.canonicalJson = some definition ∧
      ScheduledPrepareAuthority.instructionOf definition = some task.instruction := by
  simp only [claimedTask, Option.bind_eq_bind, Option.bind_eq_some_iff] at h
  obtain ⟨authority, hauthority, htask⟩ := h
  cases hclaim : ScheduledPrepareAuthority.forClaim E claim nonce with
  | error e => simp [hclaim, Except.toOption] at hauthority
  | ok built =>
    obtain rfl : built = authority := by simpa [hclaim, Except.toOption] using hauthority
    cases hbuilt : taskFromClaim claim built with
    | error f => simp [hbuilt, Except.toOption] at htask
    | ok assembled =>
      obtain rfl : assembled = task := by simpa [hbuilt, Except.toOption] using htask
      rw [taskFromClaim_ok hbuilt]
      exact forClaim_instruction hclaim

theorem containsChars_self (text : String) : containsChars text text.toList = true := by
  unfold containsChars
  rw [List.any_eq_true]
  exact ⟨text.toList, (List.mem_tails _ _).mpr List.suffix_rfl, by simp⟩

theorem carriesInstruction {E : Env} {runs : TwoRuns} (h : runs.Differ E) : CarriesInstruction runs := by
  intro text htext
  obtain ⟨definition, hparse, hinstruction⟩ := claimedTask_instruction h.first
  rw [sendsText_iff.mp htext]
  exact ⟨definition, _, hparse, hinstruction, containsChars_self _⟩

theorem TwoRuns.Differ.instruction {E : Env} {runs : TwoRuns} (h : runs.Differ E) :
    runs.first.instruction = runs.second.instruction := by
  obtain ⟨definition, hparse, hinstruction⟩ := claimedTask_instruction h.first
  obtain ⟨definition', hparse', hinstruction'⟩ := claimedTask_instruction h.second
  have hsame : definition = definition' := Option.some.inj (hparse.symm.trans hparse')
  subst hsame
  exact Option.some.inj (hinstruction.symm.trans hinstruction')

theorem not_textsDiffer {first second : AgentTask} (h : first.instruction = second.instruction) :
    ¬TextsDiffer first second := by
  intro hdiffer
  exact hdiffer first.instruction second.instruction (sendsText_instruction first) (sendsText_instruction second) h

/-- 前回の成功は、どの実行でも、機械の上でも遠隔でも、文面に届かない。文面が指示の全体を含むことだけが成り立つ。 -/
theorem previous_success_dropped {E : Env} {runs : TwoRuns} (h : runs.Differ E) :
    ¬PreviousSuccessReaches runs ∧ ¬TextsDiffer runs.first runs.second ∧ CarriesInstruction runs ∧
      ∀ binding binding' encoded encoded' first second,
        remoteTaskJson runs.first binding = some encoded → decodeScheduledRemoteTask encoded binding = some first →
          remoteTaskJson runs.second binding' = some encoded' →
            decodeScheduledRemoteTask encoded' binding' = some second →
              first.previousSuccess ≠ second.previousSuccess ∧ ¬TextsDiffer first second := by
  have hlocal := not_textsDiffer h.instruction
  refine ⟨fun hreaches => hlocal hreaches.onLocal, hlocal, carriesInstruction h, ?_⟩
  intro binding binding' encoded encoded' first second hencoded hfirst hencoded' hsecond
  obtain rfl := decodeScheduledRemoteTask_remoteTaskJson hencoded hfirst
  obtain rfl := decodeScheduledRemoteTask_remoteTaskJson hencoded' hsecond
  obtain ⟨a, b, ha, hb, -, -, hcontent⟩ := h.attached
  refine ⟨fun hsame => ?_, hlocal⟩
  rw [ha, hb] at hsame
  exact hcontent (congrArg PreviousSuccessContext.content (Option.some.inj hsame))

def digestClaim : ClaimedScheduledRun where
  binding := ⟨"scheduled:j:100", "j", 1, 1, "w"⟩
  scheduleId := "s"
  jobGeneration := 0
  scheduleGeneration := 0
  scheduledFor := 100
  coalescedThrough := 100
  definition := ⟨1, "\x7b\"instruction\":\"Summarise open issues.\",\"previous_success\":"
    ++ "\x7b\"kind\":\"latest_success\"\x7d\x7d"⟩
  capability := ⟨1, "d", "\x7b\x7d"⟩
  targets := []
  executionBaseline := ⟨0, none, none⟩
  policy := defaultPolicy

def digestTask (previous : String) : AgentTask where
  taskId := "scheduled:scheduled:j:100:1:1"
  instruction := "Summarise open issues."
  source := .scheduledRun "j" "scheduled:j:100" "100"
  principal := .service "codeoff-scheduler"
  session := .fresh
  channel := none
  previousSuccess := some ⟨previous, false⟩
  toolPolicy := .none
  feedbackTarget := none

def digestEnv : Env where
  cron := idleCron
  sha256Hex := Sha256.sha256Hex
  capabilityProfileParses _ := false

def digestRuns : TwoRuns where
  claim := digestClaim
  firstPrevious := "alpha"
  secondPrevious := "beta"
  firstNonce := String.ofList (List.replicate 64 'a')
  secondNonce := String.ofList (List.replicate 64 'b')
  first := digestTask "alpha"
  second := digestTask "beta"

theorem digestRuns_differ : digestRuns.Differ digestEnv where
  first := by decide +kernel
  second := by decide +kernel
  attached := ⟨⟨"alpha", false⟩, ⟨"beta", false⟩, rfl, rfl, by decide, by decide, by decide⟩

def digestBinding : RunBinding :=
  ⟨"scheduled:j:100", "j", 1, 1, String.ofList (List.replicate 64 'c'), String.ofList (List.replicate 64 'd'), 2,
    "credential-v1"⟩

/-- 送った作業を、executor が読み戻す。 -/
def sentTask (task : AgentTask) : Option AgentTask :=
  (remoteTaskJson task digestBinding).bind fun encoded => decodeScheduledRemoteTask encoded digestBinding

theorem digestTasks_sendable : ∀ previous ∈ ["alpha", "beta"],
    (digestTask previous).taskId = remoteTaskId digestBinding ∧
      (∀ text ∈ [(digestTask previous).taskId, (digestTask previous).instruction, "100"],
        text ≠ "" ∧ text = trim text) ∧ (digestTask previous).validate = .ok () := by
  decide +kernel

theorem digestTask_sent {previous : String} (hprevious : previous ∈ ["alpha", "beta"]) :
    sentTask (digestTask previous) = some (digestTask previous) := by
  obtain ⟨hid, htrimmed, hvalid⟩ := digestTasks_sendable previous hprevious
  have hremote : isRemoteTask (digestTask previous) digestBinding = some "100" := rfl
  refine Option.bind_eq_some_iff.mpr ⟨_, by rw [remoteTaskJson, hremote]; rfl, ?_⟩
  exact decodeScheduledRemoteTask_sent hremote hid htrimmed hvalid

/-- 二つの作業は、遠隔へ送られても前回の成功が違うままで、同じ文面を送る。 -/
theorem previous_success_dropped_digest :
    (¬PreviousSuccessReaches digestRuns ∧ ¬TextsDiffer digestRuns.first digestRuns.second ∧
      CarriesInstruction digestRuns) ∧
      ∃ first second, sentTask digestRuns.first = some first ∧ sentTask digestRuns.second = some second ∧
        first.previousSuccess ≠ second.previousSuccess ∧ ¬TextsDiffer first second := by
  obtain ⟨hreaches, htexts, hcarries, hremote⟩ := previous_success_dropped digestRuns_differ
  have halpha : sentTask digestRuns.first = some digestRuns.first := digestTask_sent (by simp)
  have hbeta : sentTask digestRuns.second = some digestRuns.second := digestTask_sent (by simp)
  obtain ⟨encoded, hencoded, hfirst⟩ := Option.bind_eq_some_iff.mp halpha
  obtain ⟨encoded', hencoded', hsecond⟩ := Option.bind_eq_some_iff.mp hbeta
  exact ⟨⟨hreaches, htexts, hcarries⟩, _, _, halpha, hbeta, hremote _ _ _ _ _ _ hencoded hfirst hencoded' hsecond⟩

/-- 前回の成功が `alpha` でも `beta` でも、同じ文面を送る。 -/
theorem digestRuns_same_text : digestRuns.Differ digestEnv ∧ ¬PreviousSuccessReaches digestRuns :=
  ⟨digestRuns_differ, fun h => not_textsDiffer rfl h.onLocal⟩

end Codeoff.Codex
