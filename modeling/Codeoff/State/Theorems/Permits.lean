import Codeoff.State.Lemmas.Permits
import Codeoff.State.Theorems.Lifecycle

/-!
# 許可の一度きりの消費

世代の中の許可は、記録が整理された後も、もう一度は受け入れられない。
-/

namespace Codeoff.State

open Codeoff.Core Codeoff.Relational

variable {E : Env} {h h' : PermitHistory}

def runPermits (E : Env) (ops : List PermitOp) : PermitHistory :=
  ops.foldl (fun h op => h.next E op) .initial

theorem runPermits_path (ops : List PermitOp) :
    Relation.ReflTransGen (PermitStep E) .initial (runPermits E ops) := by
  unfold runPermits
  exact reflTransGen_foldl (r := PermitStep E) ops (fun op _ _ => ⟨op, rfl⟩) PermitHistory.initial

def digestText (digit : Char) : String := String.ofList (List.replicate 64 digit)

def epochAuthority (epoch issuedAt expiresAt : Int) : ScheduledExecutorEpochAuthority where
  schemaVersion := 1
  deploymentEpoch := epoch
  attestationId := digestText 'a'
  attestationDigest := digestText 'b'
  profileDigest := digestText 'c'
  issuedAt := issuedAt
  expiresAt := expiresAt

/-- 実行 `scheduled:j:100` の最初の試行の許可。 -/
def samplePermit (epoch : Int) (digit : Char) (consumedAt : Int) : ConsumeScheduledExecutionPermit where
  deploymentEpoch := epoch
  attestationId := digestText 'a'
  profileDigest := digestText 'c'
  runId := "scheduled:j:100"
  jobId := "j"
  attempt := 1
  fence := 1
  authorityDigest := digestText 'd'
  nonce := digestText digit
  permitId := digestText digit
  consumedAt := consumedAt

def consumedOps : List PermitOp :=
  leasedOps.map PermitOp.store ++ [.store (.registerEpoch (epochAuthority 1 100 200) 100),
    .consume (samplePermit 1 'e' 110)]

def cleanedOps : List PermitOp :=
  [.store (.preflightFailure sampleBinding (.inl .fail) "kind" "message" 120),
    .store (.registerEpoch (epochAuthority 2 210 400) 220), .cleanup 220 10]

/-- 世代の登録と許可の消費と整理を、他の操作とどのような時刻でどう並べても、世代は下がらず、同じ世代の中身は変わらない。 -/
theorem permits_never_replayed (hpath : Relation.ReflTransGen (PermitStep E) .initial h)
    (hlater : Relation.ReflTransGen (PermitStep E) h h') :
    EpochAdvances h.store.base.epoch h'.store.base.epoch ∧
    ∀ p ∈ h.accepted, ∀ q : ConsumeScheduledExecutionPermit, q.deploymentEpoch = p.deploymentEpoch →
      (q.permitId = p.permitId ∨ q.nonce = p.nonce) →
        ∃ e, commit (consumeScheduledExecutionPermit q) h'.store = (.error e, h'.store) := by
  constructor
  · exact invariant_of_steps (I := fun g => EpochAdvances h.store.base.epoch g.store.base.epoch)
      (fun _ _ hI hstep => hI.trans hstep.change.epoch) (.refl _) hlater
  · intro p hp q hepoch hsame
    have hretained : Retained h' := invariant_of_steps (fun _ _ hI hstep => hI.change hstep.change)
      (fun _ hmem => absurd hmem List.not_mem_nil) (hpath.trans hlater)
    have hp' : p ∈ h'.accepted := invariant_of_steps (I := fun g => p ∈ g.accepted)
      (fun _ _ hI hstep => hstep.change.accepted_mono hI) hp hlater
    cases hrun : consumeScheduledExecutionPermit q h'.store with
    | ok r => exact absurd hrun (hretained.refuses hp' hepoch hsame)
    | error e => exact ⟨e, commit_eq_error.mpr ⟨hrun, rfl⟩⟩

/-- 記録が整理された許可は、前の世代のままでは受け入れられない。 -/
theorem cleaned_permit_refused :
    (runPermits (envOf []) (consumedOps ++ cleanedOps)).store.consumptions.rows = [] ∧
      ∃ e, commit (consumeScheduledExecutionPermit (samplePermit 1 'e' 110))
        (runPermits (envOf []) (consumedOps ++ cleanedOps)).store =
          (.error e, (runPermits (envOf []) (consumedOps ++ cleanedOps)).store) := by
  have hrun : (runPermits (envOf []) consumedOps).accepted = [samplePermit 1 'e' 110] ∧
      (runPermits (envOf []) (consumedOps ++ cleanedOps)).store.consumptions.rows = [] := by
    decide +kernel
  obtain ⟨haccepted, hrows⟩ := hrun
  have hlater : Relation.ReflTransGen (PermitStep (envOf [])) (runPermits (envOf []) consumedOps)
      (runPermits (envOf []) (consumedOps ++ cleanedOps)) := by
    unfold runPermits
    rw [List.foldl_append]
    exact reflTransGen_foldl (r := PermitStep (envOf [])) cleanedOps (fun op _ _ => ⟨op, rfl⟩) _
  have hmem : samplePermit 1 'e' 110 ∈ (runPermits (envOf []) consumedOps).accepted := by
    rw [haccepted]
    exact List.mem_cons_self
  exact ⟨hrows, (permits_never_replayed (runPermits_path consumedOps) hlater).2 _ hmem _ rfl (.inl rfl)⟩

/-- 開いている試行か、記録の残っている試行の許可だけが求められ、許可を受け入れた実行が作り直されないかぎり、どの操作の列の
後でも、一つの試行の許可は一度だけ受け入れられている。 -/
theorem attempt_consumed_once (hpath : Relation.ReflTransGen (SparingPermitStep E) .initial h) :
    h.accepted.Pairwise fun p q => ¬p.SameAttempt q := by
  have hinitial : UsedOnce E .initial :=
    ⟨.refl, fun _ hp => absurd hp List.not_mem_nil, fun _ hp => absurd hp List.not_mem_nil, .nil⟩
  exact (invariant_of_steps (I := UsedOnce E) (fun _ _ hI hstep => hI.step hstep) hinitial hpath).distinct

/-- 実行の最初の試行が再試行に回り、許可の記録が世代の替わった後に整理されてから、二度目の試行の許可を消費する。 -/
def retriedOps : List PermitOp :=
  consumedOps ++ [.store (.preflightFailure sampleBinding (.inl (.retryAt 150)) "kind" "message" 120),
    .store (.registerEpoch (epochAuthority 2 210 400) 220), .cleanup 220 10, .store (.claimRun "w" 230 none none 230),
    .consume { samplePermit 2 'f' 240 with attempt := 2, fence := 2 }]

/-- 一つ一つの操作が、その前の状態で条件を満たす。 -/
def allSpare (E : Env) : List PermitOp → PermitHistory → Bool
  | [], _ => true
  | op :: ops, h => decide (op.SparesReuse E h) && allSpare E ops (h.next E op)

theorem sparing_path {ops : List PermitOp} (hspares : allSpare E ops h = true) :
    Relation.ReflTransGen (SparingPermitStep E) h (ops.foldl (fun h op => h.next E op) h) := by
  induction ops generalizing h with
  | nil => exact .refl
  | cons op ops ih =>
    simp only [allSpare, Bool.and_eq_true, decide_eq_true_eq] at hspares
    exact .head ⟨op, hspares.1, rfl⟩ (ih hspares.2)

/-- 同じ実行の二つの試行の許可が受け入れられ、最初の許可の記録は整理されている。 -/
theorem retried_attempt_permits_once :
    (runPermits (envOf []) retriedOps).accepted =
        [{ samplePermit 2 'f' 240 with attempt := 2, fence := 2 }, samplePermit 1 'e' 110] ∧
      (runPermits (envOf []) retriedOps).store.consumptions.rows.map (·.attempt) = [2] ∧
      (runPermits (envOf []) retriedOps).accepted.Pairwise fun p q => ¬p.SameAttempt q := by
  have hrun : (runPermits (envOf []) retriedOps).accepted =
        [{ samplePermit 2 'f' 240 with attempt := 2, fence := 2 }, samplePermit 1 'e' 110] ∧
      (runPermits (envOf []) retriedOps).store.consumptions.rows.map (·.attempt) = [2] ∧
      allSpare (envOf []) retriedOps .initial = true := by
    decide +kernel
  obtain ⟨haccepted, hrows, hspares⟩ := hrun
  exact ⟨haccepted, hrows, attempt_consumed_once (sparing_path hspares)⟩

/-- 試行の終わった許可の記録が整理されると、次の世代で、同じ試行の許可がもう一度受け入れられる。 -/
theorem cleaned_attempt_consumed_twice :
    ∃ h, Relation.ReflTransGen (PermitStep (envOf [])) .initial h ∧
      ¬h.accepted.Pairwise fun p q => ¬p.SameAttempt q := by
  have hrun : (runPermits (envOf []) (consumedOps ++ cleanedOps ++
      [.consume (samplePermit 2 'f' 230)])).accepted = [samplePermit 2 'f' 230, samplePermit 1 'e' 110] := by
    decide +kernel
  refine ⟨_, runPermits_path (consumedOps ++ cleanedOps ++ [.consume (samplePermit 2 'f' 230)]), ?_⟩
  rw [hrun]
  intro hdistinct
  exact (List.pairwise_cons.mp hdistinct).1 _ List.mem_cons_self ⟨rfl, rfl, rfl⟩

end Codeoff.State
