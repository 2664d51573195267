import Codeoff.Codex.Lemmas.ScheduledCalls

/-!
# 準備で確かめた道具

監督者のある準備が終われば、求める道具はどれも、その準備で確かめてある。
-/

namespace Codeoff.Codex

open Codeoff.Control Codeoff.Json Codeoff.Runtime Session

variable {env : ScheduledEnv} {base : ScheduledLog} {githubMcp : Bool}

def Covers (expected : List String) (specs : List Value) : Prop :=
  ∀ tool ∈ expected, ∃ spec ∈ specs, toolName spec = some tool

theorem attestedSpec_name {tool spec : Value} (h : attestedSpec tool = .ok spec) : toolName spec = toolName tool := by
  unfold attestedSpec at h
  cases hname : toolName tool with
  | none => simp [hname] at h
  | some name =>
    simp only [hname] at h
    cases hdescription : (field tool "description").asStr with
    | none => simp [hdescription] at h
    | some description =>
      simp only [hdescription] at h
      split_ifs at h
      cases h
      have hget : (Json.Value.object [("name", .str name), ("description", .str description),
          ("inputSchema", field tool "inputSchema")]).get "name" = some (.str name) := by
        rw [get_object (by simp)]
        rfl
      unfold toolName
      rw [field, hget]
      rfl

theorem attestedSpecs_names {tools specs : List Value} (h : attestedSpecs tools = .ok specs) :
    specs.map toolName = tools.map toolName := by
  induction tools generalizing specs with
  | nil => cases h; rfl
  | cons tool tools ih =>
    simp only [attestedSpecs] at h
    cases hspec : attestedSpec tool with
    | error error => simp [hspec, bind, Except.bind] at h
    | ok spec =>
      cases hrest : attestedSpecs tools with
      | error error => simp [hspec, hrest, bind, Except.bind] at h
      | ok rest =>
        simp only [hspec, hrest, bind, Except.bind, pure, Except.pure] at h
        cases h
        simp [attestedSpec_name hspec, ih hrest]

/-- 証言が通れば、求めた道具の仕様がちょうど揃っている。 -/
theorem attestTools_covers {expected : List String} {listed : Value} {specs : List Value}
    (h : attestTools expected listed = .ok specs) : Covers expected specs := by
  unfold attestTools at h
  split_ifs at h
  cases htools : (field listed "tools").asArr with
  | none => simp [htools] at h
  | some tools =>
    simp only [htools] at h
    split_ifs at h with hmismatch
    simp only [not_or, Bool.not_eq_false] at hmismatch
    cases hspecs : attestedSpecs tools with
    | error error => simp [hspecs, bind, Except.bind] at h
    | ok attested =>
      simp only [hspecs, bind, Except.bind] at h
      split_ifs at h
      cases h
      intro tool htool
      have hnamed : tool ∈ tools.filterMap toolName := by
        simp only [sameNames, Bool.and_eq_true, List.all_eq_true, decide_eq_true_eq] at hmismatch
        exact hmismatch.1.2 tool htool
      have hmapped : some tool ∈ attested.map toolName := by
        rw [attestedSpecs_names hspecs]
        obtain ⟨listed, hlisted, hname⟩ := List.mem_filterMap.mp hnamed
        exact List.mem_map.mpr ⟨listed, hlisted, hname⟩
      obtain ⟨spec, hspec, hname⟩ := List.mem_map.mp hmapped
      exact ⟨spec, List.mem_mergeSort.mpr hspec, hname⟩

/-! ## 準備と後始末 -/

def SameTools (before after : ScheduledLog) : Prop :=
  after.called = before.called ∧ after.attested = before.attested

def KeepsTools {α : Type} (base : ScheduledLog) (m : Session (Wire Poll ScheduledLog) α) : Prop :=
  Keeps (fun w : Wire Poll ScheduledLog => SameTools base w.log) m

theorem sendScheduled_keepsTools {message : Value} : KeepsTools base (sendScheduled env message).run := by
  rw [sendScheduled, ExceptT.run_mk]
  refine Keeps.act (I := SameTools base) fun log hlog => ?_
  cases herror : env.writeJson log.events.length with
  | none => simp only [ScheduledLog.write, herror]; exact hlog
  | some error => simp only [ScheduledLog.write, herror]; exact hlog

theorem scheduledRequest_keepsTools {id : Nat} {name : String} {params : Value} :
    KeepsTools base (scheduledRequest env id name params).run := by
  refine Keeps.except_bind sendScheduled_keepsTools fun _ => ?_
  refine Keeps.reading (I := SameTools base) fun s p hs => ?_
  obtain ⟨cancelled, read, expired⟩ := p
  cases cancelled with
  | true => exact hs
  | false =>
    match read with
    | .error error => exact hs
    | .ok .eof => exact hs
    | .ok .timedOut => cases expired <;> exact hs
    | .ok (.message response) =>
      simp only [scheduledResponseStep]
      cases isNotification response <;> exact hs

theorem command_keepsTools {answer : Nat → Option String} {event : Option String → TransportEvent} :
    KeepsTools base (command answer event).run := by
  rw [command, ExceptT.run_mk]
  exact Keeps.act (I := SameTools base) fun _ hlog => hlog

theorem reapUntil_keepsTools : KeepsTools base (reapUntil env).run := by
  rw [reapUntil, ExceptT.run_mk]
  exact Keeps.act (I := SameTools base) fun _ hlog => hlog

theorem checkDeadline_keepsTools {message : String} : KeepsTools base (checkDeadline env message).run := by
  rw [checkDeadline, ExceptT.run_mk]
  exact Keeps.act (I := SameTools base) fun _ hlog => hlog

theorem killAndReap_keepsTools : KeepsTools base (killAndReap env).run := by
  refine Keeps.except_bind command_keepsTools fun _ => ?_
  refine Keeps.except_bind checkDeadline_keepsTools fun _ => ?_
  refine Keeps.except_bind reapUntil_keepsTools fun exit => ?_
  cases exit with
  | exited => exact Keeps.except_pure
  | timedOut => exact Keeps.except_throw

theorem boundedShutdown_keepsTools : KeepsTools base (boundedShutdown env).run := by
  refine Keeps.except_bind command_keepsTools fun _ => ?_
  refine Keeps.except_bind command_keepsTools fun _ => ?_
  refine Keeps.except_bind checkDeadline_keepsTools fun _ => ?_
  refine Keeps.except_bind reapUntil_keepsTools fun exit => ?_
  cases exit with
  | exited => exact Keeps.except_pure
  | timedOut => exact killAndReap_keepsTools

structure Attested (githubMcp : Bool) (before after : ScheduledLog) : Prop where
  called : after.called = before.called
  attested : githubMcp = true →
    ∃ specs ∈ after.attested.drop before.attested.length, Covers expectedGithubTools specs

/-- 終われば `Q` を満たす準備。断るときのことは述べない。 -/
def Attests {α : Type} (base : ScheduledLog) (m : Preparation α) (Q : α → ScheduledLog → Prop) : Prop :=
  EnsuresExcept (fun w => SameTools base w.log) m (fun a w => Q a w.log) fun _ _ => True

theorem attests_reject {α : Type} {result : ScheduledExecutionResult} {Q : α → ScheduledLog → Prop} :
    Attests base (rejectPreparation env result : Preparation α) Q := by
  intro w outcome w' _ hrun
  obtain ⟨shutdown, log, hshutdown, -⟩ := @boundedShutdown_run env w
  rw [rejectPreparation_run hshutdown] at hrun
  cases hrun
  trivial

theorem attests_orReject {α ε : Type} {result : ε → ScheduledExecutionResult} {talk : ScheduledTalk ε α}
    {Q : α → ScheduledLog → Prop}
    (h : Ensures (fun w => SameTools base w.log) talk.run fun outcome w => ∀ a, outcome = .ok a → Q a w.log) :
    Attests base (orReject env result talk) Q := by
  intro w outcome w' hw hrun
  rw [orReject, ExceptT.run_mk, bind_apply] at hrun
  cases htalk : talk.run w with
  | waiting v => simp [htalk] at hrun
  | done answer v =>
    rw [htalk] at hrun
    cases answer with
    | ok a =>
      cases hrun
      exact h w _ _ hw htalk a rfl
    | error e =>
      obtain ⟨shutdown, log, hshutdown, -⟩ := @boundedShutdown_run env v
      simp only [rejectPreparation_run hshutdown] at hrun
      cases hrun
      trivial

theorem attests_kept {α ε : Type} {result : ε → ScheduledExecutionResult} {talk : ScheduledTalk ε α}
    (h : KeepsTools base talk.run) : Attests base (orReject env result talk) fun _ log => SameTools base log :=
  attests_orReject fun w outcome w' hw hrun _ _ => Keeps.ensures h w outcome w' hw hrun

/-! ## 道具の口の確認 -/

/-- 続けた二つの手順が成功すれば、それぞれが成功している。 -/
theorem github_bind_ok {α β : Type} {m : Github α} {f : α → Github β} {side side' : GithubSide} {b : β}
    (h : (m >>= f).run side = (.ok b, side')) :
    ∃ a mid, m.run side = (.ok a, mid) ∧ (f a).run mid = (.ok b, side') := by
  have hrun : (m >>= f).run side = match m.run side with
      | (.ok a, mid) => (f a).run mid
      | (.error e, mid) => (.error e, mid) := by
    unfold ExceptT.run
    simp only [bind, ExceptT.bind, ExceptT.mk, StateT.bind]
    obtain ⟨outcome, mid⟩ := m side
    cases outcome <;> rfl
  rw [hrun] at h
  cases hm : m.run side with
  | mk outcome mid =>
    rw [hm] at h
    cases outcome with
    | error e => cases h
    | ok a => exact ⟨a, mid, rfl, h⟩

theorem checked_ok {α : Type} {result : Except String α} {a : α} {side side' : GithubSide}
    (h : (checked result).run side = (.ok a, side')) : result = .ok a := congrArg Prod.fst h

theorem attest_covers {github : GithubEnv} {expected : List String} {side side' : GithubSide}
    {attestation : ScheduledMcpAttestation}
    (h : (attest github expected).run side = (.ok attestation, side')) : Covers expected attestation.toolSpecs := by
  obtain ⟨_, _, -, h⟩ := github_bind_ok h
  obtain ⟨_, _, -, h⟩ := github_bind_ok h
  obtain ⟨_, _, -, h⟩ := github_bind_ok h
  obtain ⟨_, _, -, h⟩ := github_bind_ok h
  obtain ⟨listed, _, -, h⟩ := github_bind_ok h
  obtain ⟨specs, _, hspecs, h⟩ := github_bind_ok h
  obtain ⟨_, _, -, h⟩ := github_bind_ok h
  obtain ⟨_, _, -, h⟩ := github_bind_ok h
  obtain ⟨_, _, -, h⟩ := github_bind_ok h
  obtain ⟨_, _, -, h⟩ := github_bind_ok h
  obtain ⟨health, _, -, h⟩ := github_bind_ok h
  obtain ⟨_, _, -, h⟩ := github_bind_ok h
  obtain rfl : attestation = ⟨specs, health⟩ := (Except.ok.inj (congrArg Prod.fst h)).symm
  exact attestTools_covers (checked_ok hspecs)

theorem attestSupervisorGithubMcp_attests :
    Ensures (fun w => SameTools base w.log) (attestSupervisorGithubMcp env githubMcp).run fun outcome w =>
      ∀ a, outcome = .ok a → Attested githubMcp base w.log := by
  intro w outcome w' hw hrun a ha
  subst ha
  cases githubMcp with
  | false =>
    cases hrun
    exact ⟨hw.1, by simp⟩
  | true =>
    simp only [attestSupervisorGithubMcp, if_true] at hrun
    rw [except_bind_apply] at hrun
    simp only [githubSide, ExceptT.run_mk, act] at hrun
    cases hattest : (attest env.github expectedGithubTools).run w.log.github with
    | mk outcome side =>
      rw [hattest] at hrun
      cases outcome with
      | error error => simp at hrun
      | ok attestation =>
        simp only at hrun
        cases hrun
        refine ⟨hw.1, fun _ => ⟨attestation.toolSpecs, ?_, attest_covers hattest⟩⟩
        simp [hw.2]

theorem Attested.same {before log after : ScheduledLog} (h : Attested githubMcp before log)
    (hsame : SameTools log after) : Attested githubMcp before after :=
  ⟨hsame.1.trans h.called, fun hsupervised => by rw [hsame.2]; exact h.attested hsupervised⟩

theorem orReject_same {α ε β : Type} {result : ε → ScheduledExecutionResult} {talk : ScheduledTalk ε α}
    {rest : α → Preparation β} {Q : β → Wire Poll ScheduledLog → Prop} {before : ScheduledLog}
    (htalk : ∀ base, KeepsTools base talk.run)
    (hrest : ∀ a, EnsuresExcept (fun w => Attested githubMcp before w.log) (rest a) Q fun _ _ => True) :
    EnsuresExcept (fun w => Attested githubMcp before w.log) (orReject env result talk >>= rest) Q
      fun _ _ => True := by
  refine EnsuresExcept.bind (fun w outcome w' hw hrun => ?_) hrest
  have hkept := attests_kept (htalk w.log) w outcome w' ⟨rfl, rfl⟩ hrun
  cases outcome with
  | ok a => exact hw.same hkept
  | error e => trivial

theorem attestedBy_same {result : Except ScheduledFailure Unit} {before : ScheduledLog} :
    EnsuresExcept (fun w => Attested githubMcp before w.log) (attestedBy env result)
      (fun _ w => Attested githubMcp before w.log) fun _ _ => True := by
  intro w outcome w' hw hrun
  have hkept := @attests_kept _ w.log _ _ _ _ Keeps.pure w outcome w' ⟨rfl, rfl⟩ hrun
  cases outcome with
  | ok a => exact hw.same hkept
  | error e => trivial

theorem attestServerGithubMcp_same {threadId : String} {before : ScheduledLog} :
    EnsuresExcept (fun w => Attested githubMcp before w.log) (attestServerGithubMcp env threadId)
      (fun _ w => Attested githubMcp before w.log) fun _ _ => True := by
  refine orReject_same (fun _ => scheduledRequest_keepsTools) fun _ => ?_
  refine EnsuresExcept.bind attestedBy_same fun _ => ?_
  exact orReject_same (fun _ => scheduledRequest_keepsTools) fun _ => attestedBy_same

theorem prepareProtocol_attests {request : ScheduledCodexRequest} :
    Attests base (prepareProtocol env request githubMcp) fun prepared log =>
      prepared.githubMcp = githubMcp ∧ Attested githubMcp base log := by
  refine EnsuresExcept.bind (attests_orReject attestSupervisorGithubMcp_attests) fun attestation => ?_
  refine orReject_same (fun _ => scheduledRequest_keepsTools) fun _ => ?_
  refine orReject_same (fun _ => sendScheduled_keepsTools) fun _ => ?_
  refine orReject_same (fun _ => scheduledRequest_keepsTools) fun thread => ?_
  cases (field (field thread "thread") "id").asStr with
  | none =>
    intro w outcome w' hw hrun
    have hrejected : Attests w.log
        (rejectPreparation env (protocolFailure (capability "thread_start_missing_thread_id")))
        fun (prepared : PreparedCodexExecution) log => prepared.githubMcp = githubMcp ∧ Attested githubMcp base log :=
      attests_reject
    exact hrejected w outcome w' ⟨rfl, rfl⟩ hrun
  | some threadId =>
    cases attestation with
    | some attestation =>
      exact EnsuresExcept.bind attestedBy_same fun _ => EnsuresExcept.pure fun _ hw => ⟨rfl, hw⟩
    | none => exact EnsuresExcept.bind attestServerGithubMcp_same fun _ => EnsuresExcept.pure fun _ hw => ⟨rfl, hw⟩

/-- 準備の済んだ実行は、監督者の道具が証言どおりである。 -/
theorem prepare_attested {checks : PrepareChecks} {request : ScheduledCodexRequest}
    {prepared : PreparedCodexExecution} {w v : Wire Poll ScheduledLog}
    (h : (prepare env checks request githubMcp).run w = .done (.ok prepared) v) :
    prepared.githubMcp = githubMcp ∧ Attested githubMcp w.log v.log := by
  have hdrop : ∀ result, (dropPreparation env result : Preparation PreparedCodexExecution).run w ≠
      .done (.ok prepared) v := by
    intro result hrun
    obtain ⟨shutdown, log, hshutdown, -⟩ := @boundedShutdown_run env w
    rw [dropPreparation, ExceptT.run_mk, bind_done _ hshutdown] at hrun
    cases hrun
  unfold prepare at h
  cases hrequest : checks.validateRequest with
  | some f => simp only [hrequest] at h; cases h
  | none =>
    cases hpermit : checks.validateIsolationPermit with
    | some f => simp only [hrequest, hpermit] at h; cases h
    | none =>
      cases hfactory : checks.transportFactory with
      | some error => simp only [hrequest, hpermit, hfactory] at h; cases h
      | none =>
        simp only [hrequest, hpermit, hfactory] at h
        cases hruntime : checks.attestRuntime with
        | some f => rw [hruntime] at h; exact absurd h (hdrop _)
        | none =>
          rw [hruntime] at h
          cases hfits : checks.runDeadlineFits with
          | false => simp only [hfits] at h; exact absurd h (hdrop _)
          | true =>
            simp only [hfits, if_true] at h
            exact prepareProtocol_attests w _ v ⟨rfl, rfl⟩ h

/-- 発話の間に加わった呼び出し。許された要求の道具だけで、番号は重ならない。 -/
def CallsAllowed (githubMcp : Bool) (threadId : String) (before after : ScheduledLog) : Prop :=
  ∃ turnId calls, after.called = before.called ++ calls ∧ (calls.map GithubCall.callId).Nodup ∧
    ∀ c ∈ calls, githubMcp = true ∧ ∃ seen message, scheduledToolCall threadId turnId seen message = .ok c

theorem CallsAllowed.none {threadId : String} {before after : ScheduledLog} (h : SameTools before after) :
    CallsAllowed githubMcp threadId before after := ⟨"", [], by simp [h.1], by simp, by simp⟩

theorem executePreparedProtocol_calls {request : ScheduledCodexRequest} {threadId : String} (cancelled : Bool)
    (w : Wire Poll ScheduledLog) :
    CallsAllowed githubMcp threadId w.log
      (executePreparedProtocol env request githubMcp threadId cancelled w).state.log := by
  cases cancelled with
  | true => exact .none ⟨rfl, rfl⟩
  | false =>
    have hrequest := @scheduledRequest_keepsTools env w.log 5 "turn/start" (scheduledTurnParams request threadId) w ⟨rfl, rfl⟩
    simp only [executePreparedProtocol, Bool.false_eq_true, if_false]
    rw [bind_apply]
    cases hrun : (scheduledRequest env 5 "turn/start" (scheduledTurnParams request threadId)).run w with
    | waiting v => rw [hrun] at hrequest; exact .none hrequest
    | done answer v =>
      rw [hrun] at hrequest
      cases answer with
      | error f => exact .none hrequest
      | ok turn =>
        simp only [afterTurnStart]
        cases startedTurn turn with
        | none => exact .none hrequest
        | some turnId =>
          obtain ⟨calls, hwithin⟩ := @waitForScheduledTurn_within env githubMcp threadId turnId v
          exact ⟨turnId, calls, by rw [hwithin.called]; exact congrArg (· ++ calls) hrequest.1, hwithin.nodup,
            hwithin.allowed⟩

/-- 実行の間の呼び出しは、許された道具に限られる。 -/
theorem execute_calls (cancelled : Bool) (prepared : PreparedCodexExecution) (w : Wire Poll ScheduledLog) :
    CallsAllowed prepared.githubMcp prepared.threadId w.log (prepared.execute env cancelled w).state.log := by
  have hcalls := @executePreparedProtocol_calls env prepared.githubMcp prepared.request prepared.threadId cancelled w
  simp only [PreparedCodexExecution.execute, executePrepared]
  rw [bind_apply]
  cases hrun : executePreparedProtocol env prepared.request prepared.githubMcp prepared.threadId cancelled w with
  | waiting v => rw [hrun] at hcalls; exact hcalls
  | done result v =>
    rw [hrun] at hcalls
    obtain ⟨turnId, calls, hcalled, hnodup, hallowed⟩ := hcalls
    have hsame := @boundedShutdown_keepsTools env v.log v ⟨rfl, rfl⟩
    obtain ⟨shutdown, log, hshutdown, -⟩ := @boundedShutdown_run env v
    rw [hshutdown] at hsame
    refine ⟨turnId, calls, ?_, hnodup, hallowed⟩
    simp only
    rw [bind_done _ hshutdown]
    cases shutdown with
    | ok done => exact hsame.1.trans hcalled
    | error f => exact hsame.1.trans hcalled

end Codeoff.Codex
