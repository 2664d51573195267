import Codeoff.State.Lemmas.OpCommits

/-!
# 停止・削除・更新と、実行開始前の実行

停止・削除・更新が確定する条件。
-/

namespace Codeoff.State

open Codeoff.Core Codeoff.Relational

variable {E : Env} {s : Store}

/-! ## 具体的な列 -/

def runOps (E : Env) (ops : List Op) : Store := ops.foldl (fun s op => op.apply E s) .empty

/-- どの操作の一歩も関係 `R` にある列は、空の保存領域から `R` で辿れる。 -/
theorem runOps_along {R : Store → Store → Prop} (ops : List Op)
    (hops : ∀ op ∈ ops, ∀ s, R s (op.apply E s)) : Relation.ReflTransGen R .empty (runOps E ops) := by
  unfold runOps
  exact reflTransGen_foldl ops hops .empty

theorem reachable_runOps (E : Env) (ops : List Op) : Reachable E (runOps E ops) :=
  runOps_along ops fun op _ _ => ⟨op, rfl⟩

def idleCron : CronLibrary where
  parses _ := false
  timezone _ := none
  findNext _ _ _ _ := none
  findPrevious _ _ _ _ := none
  transitions _ _ _ _ := none
  supportsTimestamp _ := true

def digestOf (table : List (String × String)) (bytes : List UInt8) : String :=
  ((table.find? fun entry => utf8Bytes entry.1 == bytes).map Prod.snd).getD
    "e3b0c44298fc1c149afbf4c8996fb92427ae41e4649b934ca495991b7852b855"

def envOf (table : List (String × String)) : Env where
  cron := idleCron
  sha256Hex := digestOf table
  capabilityProfileParses _ := false

def defaultPolicy : Policy := ⟨{}, by decide +kernel⟩

def samplePrincipal : PrincipalKey := ⟨"user", "slack", "T1", "U1"⟩

def sampleTarget : DeliveryTargetSnapshot where
  targetId := "t1"
  provider := "slack"
  connector := "slack"
  tenant := "T1"
  kind := "channel"
  addressJson := "\x7b\"channel\":\"C1\"\x7d"
  resolverVersion := 1
  resolverDigest := "d"
  identityDigest := "ed6f9ce44d56d0f4f43aaab36ba70d9d7d2bfb4c1ecbe0ce0e5fcb04dd3a31b4"

def sampleCreate : CreateScheduledJob where
  jobId := "j"
  scheduleId := "s"
  definition := ⟨1, "\x7b\"instruction\":\"go\"\x7d"⟩
  creator := samplePrincipal
  owner := samplePrincipal
  schedule := .fixedInterval 100 60
  targets := [sampleTarget]
  capability := ⟨1, "cap", "\x7b\x7d"⟩
  now := 0

def sampleBinding : RunLeaseBinding := ⟨"scheduled:j:100", "j", 1, 1, "w"⟩

def leasedOps : List Op :=
  [.create defaultPolicy sampleCreate, .materialize "j" 0 100 none, .claimRun "w" 100 none none 100]

theorem sampleTarget_serialized : validateSerializedTargets [sampleTarget] = .ok () := by decide +kernel

/-- 作成の検査は要約値を取らないので、`table` によらない。 -/
theorem sampleCreate_valid (table : List (String × String)) :
    validateCreateRequest (envOf table) sampleCreate defaultPolicy = .ok 100 := by
  have hvalid : validateCreateRequest (envOf []) sampleCreate defaultPolicy = .ok 100 := by decide +kernel
  exact hvalid

def sampleCreated : Store := committed (do
  enforceActiveJobLimits defaultPolicy sampleCreate.owner none
  insertScheduledJob sampleCreate 100 defaultPolicy ⟨sampleCreate.schedule, defaultPolicy⟩) .empty

def sampleOccurrence : DueOccurrence (envOf []) sampleCreated 100 where
  job := createdJob sampleCreate defaultPolicy
  schedule := createdSchedule sampleCreate 100
  at_ := 100
  window := ⟨100, 100, 0, false, some 160⟩
  baseline := initialBaseline "j"
  due := by decide +kernel
  free := by decide +kernel
  next := by decide +kernel
  found := by decide +kernel

def sampleOccurred : Store := committed sampleOccurrence.record sampleCreated

theorem sampleOccurred_facts :
    commits (do
      enforceActiveJobLimits defaultPolicy sampleCreate.owner none
      insertScheduledJob sampleCreate 100 defaultPolicy ⟨sampleCreate.schedule, defaultPolicy⟩) .empty ∧
      jobTargets sampleCreated "j" = [sampleTarget] ∧ commits sampleOccurrence.record sampleCreated ∧
      generateCadenceProof (envOf []) sampleCreate.schedule sampleCreate.now defaultPolicy =
        .ok ⟨sampleCreate.schedule, defaultPolicy⟩ := by
  decide +kernel

theorem sampleCreated_eq (table : List (String × String)) :
    (Op.create defaultPolicy sampleCreate).apply (envOf table) .empty = sampleCreated :=
  create_apply (sampleCreate_valid table) sampleOccurred_facts.2.2.2 (ok_of_commits sampleOccurred_facts.1)

theorem sampleOccurred_eq (table : List (String × String)) :
    (Op.materialize "j" 0 100 none).apply (envOf table) sampleCreated = sampleOccurred := by
  have hvalid : validateSerializedTargets (jobTargets sampleCreated "j") = .ok () := by
    rw [sampleOccurred_facts.2.1]
    exact sampleTarget_serialized
  exact materialize_apply sampleOccurrence hvalid (ok_of_commits sampleOccurred_facts.2.2.1)

theorem runOps_created (table : List (String × String)) (ops : List Op) :
    runOps (envOf table) (.create defaultPolicy sampleCreate :: ops) =
      ops.foldl (fun s op => op.apply (envOf table) s) sampleCreated := by
  rw [runOps, List.foldl_cons, sampleCreated_eq]

/-- 作成と最初の発生から始まる列は、その二つの検査をやり直さずに、発生の後から辿れる。 -/
theorem runOps_occurred (table : List (String × String)) (ops : List Op) :
    runOps (envOf table) (.create defaultPolicy sampleCreate :: .materialize "j" 0 100 none :: ops) =
      ops.foldl (fun s op => op.apply (envOf table) s) sampleOccurred := by
  rw [runOps_created, List.foldl_cons, sampleOccurred_eq]

/-- 到達するどの状態でも、稼働中か停止中のジョブの停止・削除と、他の点で正しい更新は、そのジョブの現在の世代に
再試行の時刻を持つ待ちの実行がないとき、そのときに限って確定する。 -/
theorem lifecycle_commits_iff_noPendingRetry (h : Reachable E s) {job : ScheduledJobRow}
    (hjob : job ∈ s.jobs.rows) (hstatus : job.status = .active ∨ job.status = .paused) :
    (∀ now, Commits (pauseScheduledJob job.jobId job.generation now) s ↔
      NoPendingRetry s job.jobId job.generation) ∧
    (∀ now, Commits (deleteScheduledJob job.jobId job.generation now) s ↔
      NoPendingRetry s job.jobId job.generation) ∧
    ∀ policy request, request.jobId = job.jobId → request.expectedGeneration = job.generation →
      OtherwiseValidUpdate E policy request s →
      (Commits (updateScheduledJob E policy request) s ↔
        NoPendingRetry s job.jobId job.generation) := by
  have hbecome : ∀ status : InactiveStatus, canBecome status job.status = true := by
    intro status
    rcases hstatus with h | h <;> simp [canBecome, h]
  refine ⟨fun now => setJobInactive_commits h.liveBound hjob (hbecome .paused),
    fun now => setJobInactive_commits h.liveBound hjob (hbecome .deleted), ?_⟩
  intro policy request hid hgen hvalid
  rw [← hid, ← hgen]
  exact updateScheduledJob_commits h.liveBound hvalid

/-- 準備の失敗の再試行を待つ実行があると、停止は CHECK に反して失敗する。 -/
theorem pause_with_pending_retry_fails :
    ∃ s, Reachable (envOf []) s ∧ ∃ job ∈ s.jobs.rows, job.status = .active ∧
      (commit (pauseScheduledJob job.jobId job.generation 101) s).1 = .error (.scheduler .check) := by
  refine ⟨runOps (envOf []) (leasedOps ++
    [.preflightFailure sampleBinding (.inl (.retryAt 130)) "kind" "message" 100]),
    reachable_runOps _ _, createdJob sampleCreate defaultPolicy, ?_⟩
  rw [leasedOps, List.cons_append, List.cons_append, runOps_occurred]
  decide +kernel

/-- 借りられた実行のあるジョブは停止でき、その実行は取り消される。 -/
theorem pause_leased_commits :
    Commits (pauseScheduledJob "j" 0 105) (runOps (envOf []) leasedOps) ∧
      ((Op.pause "j" 0 105).apply (envOf []) (runOps (envOf []) leasedOps)).runs.rows.map (·.state) = [.cancelled] := by
  have hrun : (∃ job ∈ (runOps (envOf []) leasedOps).jobs.rows, job.jobId = "j" ∧ job.generation = 0 ∧ job.status = .active) ∧
      (∀ r ∈ (runOps (envOf []) leasedOps).runs.rows, r.state = .leased) ∧
      ((Op.pause "j" 0 105).apply (envOf []) (runOps (envOf []) leasedOps)).runs.rows.map (·.state) = [.cancelled] := by
    rw [leasedOps, runOps_occurred]
    decide +kernel
  obtain ⟨⟨job, hjob, hid, hgeneration, hactive⟩, hleased, hcancelled⟩ := hrun
  have hcommits := (lifecycle_commits_iff_noPendingRetry (reachable_runOps _ _) hjob (.inl hactive)).1 105
  rw [hid, hgeneration] at hcommits
  refine ⟨hcommits.mpr fun r hr => ?_, hcancelled⟩
  have := hleased r hr
  simp [this]

end Codeoff.State
