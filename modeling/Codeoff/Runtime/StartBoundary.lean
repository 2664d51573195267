import Codeoff.Runtime.ScheduledExecution
import Codeoff.State.System

/-!
# 実行の始まりの境

監督は、実行を始める前に実行の行を実行中へ移し、その確定を待ってから準備の済んだ実行を呼ぶ。遠隔の実行は、そこで初めてSTA
RT を書く。
-/

namespace Codeoff.Runtime

open Codeoff.Core Codeoff.Relational Codeoff.State

structure PrepareFailure where
  retryable : Bool
  kind : String
  message : String
deriving DecidableEq

def PrepareFailure.fatal (message : String) : PrepareFailure := ⟨false, "preflight_rejected", message⟩

inductive ExecutionBackend where
  /-- 同じ機械で動かす。 -/
  | local
  | remote
deriving DecidableEq

inductive SupervisorStage where
  /-- 準備と、始める前の検査が済んだ。 -/
  | prepared
  /-- 実行中への移行の確定を待っている。 -/
  | marking
  /-- 確定は済み、返り値をまだ受け取っていない。 -/
  | marked (outcome : Except StateError Unit)
  /-- 準備の失敗を記録する。 -/
  | failing (failure : PrepareFailure)
  | executing
  /-- 実行の結果を記録する。 -/
  | returned (result : ExecutionResult)
  /-- 貸与を失い、遅れた証拠を残す。 -/
  | late (executed : Bool)
  | ended
deriving DecidableEq

inductive StartExecution where
  | notInvoked
  /-- 呼ばれ、まだ始まっていない。 -/
  | invoked
  /-- 始まった。遠隔の実行では、START のバイトが渡っている。 -/
  | running
  | over (result : ExecutionResult)
deriving DecidableEq

structure SupervisedRun where
  store : Store
  stage : SupervisorStage
  execution : StartExecution
  /-- 待つのをやめた移行が、まだ効きうる。 -/
  orphaned : Bool
  /-- 遠隔の実行者とつながっている。 -/
  connected : Bool
  /-- START のバイトが渡った。 -/
  byteHanded : Bool

inductive SupervisedEvent where
  /-- 移行を求める前の、停止、期限、検査の失敗。 -/
  | rejects (failure : PrepareFailure)
  | marks
  | markLands (now : Int)
  | orphanLands (now : Int)
  | markAnswered
  | shutdownWins
  | deadlineWins
  | recordsFailure (now : Int)
  /-- 記録の猶予が過ぎ、何も記録せずに終わる。 -/
  | givesUp
  | disconnects
  | executionStarts
  /-- 確定の後に切断に気づく。 -/
  | findsDisconnected
  /-- START を一バイトも渡さずに失敗する。 -/
  | startFails
  | executionConcludes (result : ExecutionResult)
  | executionReturns
  /-- 停止か期限の後、猶予のうちに実行が戻らない。 -/
  | graceExpires (shutdown : Bool)
  | heartbeatHardDeadline
  | leaseLost
  | commitsResult (evidenceId : String) (now : Int)
  /-- 結果の記録が期限までに終わらない。 -/
  | fallsBack (evidenceId : String) (now : Int)
  | appendsEvidence (evidenceId : String) (now : Int)
  /-- ほかの監督や回収係や運用者の操作。 -/
  | rival (op : Op)

/-- 実行の行を書き換える操作のうち、結果を記録しないもの。 -/
def rivals : Op → Bool
  | .update .. | .pause .. | .delete .. | .mutate .. | .materialize .. | .retryRun .. => true
  | .claimRun .. | .heartbeatRun .. | .reclaimRun .. | .reconcileRun .. => true
  | _ => false

namespace SupervisedRun

variable (E : Env) (claim : ClaimedScheduledRun) (profile : AttestedExecutionProfileSnapshot)
  (backend : ExecutionBackend)

def prepared (s : Store) : SupervisedRun where
  store := s
  stage := .prepared
  execution := .notInvoked
  orphaned := false
  connected := true
  byteHanded := false

def started (w : SupervisedRun) : Bool :=
  match backend with
  | .local => w.execution != .notInvoked
  | .remote => w.byteHanded

def isOver (w : SupervisedRun) : Bool := w.stage == .ended && !w.orphaned && w.execution != .invoked

def markExecuting (now : Int) (s : Store) : Except StateError Unit × Store :=
  commit (markScheduledRunExecuting claim.binding profile now) s

def markLands (now : Int) (w : SupervisedRun) : SupervisedRun :=
  if w.stage = .marking then
    { w with
      store := (markExecuting claim profile now w.store).2
      stage := .marked (markExecuting claim profile now w.store).1 }
  else w

def orphanLands (now : Int) (w : SupervisedRun) : SupervisedRun :=
  if w.orphaned then { w with store := (markExecuting claim profile now w.store).2, orphaned := false } else w

def markAnswered (w : SupervisedRun) : SupervisedRun :=
  match w.stage with
  | .marked (.ok ()) => { w with stage := .executing, execution := .invoked }
  | .marked (.error .scheduledRunLostLease) => { w with stage := .late false }
  | .marked (.error _) => { w with stage := .ended }
  | _ => w

def interrupts (failure : PrepareFailure) (w : SupervisedRun) : SupervisedRun :=
  match w.stage with
  | .marking => { w with stage := .failing failure, orphaned := true }
  | .marked _ => { w with stage := .failing failure }
  | _ => w

def recordsFailure (now : Int) (w : SupervisedRun) : SupervisedRun :=
  match w.stage with
  | .failing failure =>
    match commit (recordScheduledRunPreflightFailure claim.binding (.inr failure.retryable) failure.kind
        failure.message now) w.store with
    | (.error .scheduledRunLostLease, _) => { w with stage := .late false }
    | (_, s) => { w with store := s, stage := .ended }
  | _ => w

def executionStarts (w : SupervisedRun) : SupervisedRun :=
  if w.execution = .invoked ∧ (backend = .remote → w.connected) then
    { w with execution := .running, byteHanded := backend == .remote }
  else w

/-- 始まらなかった実行も、結果の分からないものとして返る。 -/
def findsDisconnected (w : SupervisedRun) : SupervisedRun :=
  if backend = .remote ∧ w.execution = .invoked ∧ !w.connected then
    { w with execution := .over (.transportLost "scheduled remote runner disconnected after execution commit") }
  else w

def startFails (w : SupervisedRun) : SupervisedRun :=
  if backend = .remote ∧ w.execution = .invoked then
    { w with execution := .over (.transportLost "scheduled remote runner outcome is unknown") }
  else w

def executionConcludes (result : ExecutionResult) (w : SupervisedRun) : SupervisedRun :=
  if w.execution = .running then { w with execution := .over result } else w

def executionReturns (w : SupervisedRun) : SupervisedRun :=
  match w.stage, w.execution with
  | .executing, .over result => { w with stage := .returned result }
  | _, _ => w

def settlesAs (result : ExecutionResult) (w : SupervisedRun) : SupervisedRun :=
  if w.stage = .executing then { w with stage := .returned result } else w

def applyCommit (evidenceId : String) (now : Int) (s : Store) : RunCommit → Except StateError Unit × Store
  | .success result => commit (State.discard (completeScheduledRunSuccess E evidenceId claim.binding result now)) s
  | .outcome disposition errorKind errorMessage =>
    commit (State.discard (recordScheduledRunExecutionOutcome E evidenceId claim.binding disposition errorKind
      errorMessage now)) s

def recordsResult (evidenceId : String) (now : Int) (request : Option RunCommit) (w : SupervisedRun) :
    SupervisedRun :=
  match w.stage, request with
  | .returned _, some request =>
    match applyCommit E claim evidenceId now w.store request with
    | (.ok (), s) => { w with store := s, stage := .ended }
    | (.error _, _) => w
  | _, _ => w

def resultRequest (now : Int) (w : SupervisedRun) : Option RunCommit :=
  match w.stage with
  | .returned result => commitExecutionResult claim result now
  | _ => none

def fallback : RunCommit :=
  .outcome (.terminal .outcomeUnknown) "terminal_commit_deadline"
    "scheduled terminal commit exceeded its bounded database window"

def evidenceKind (executed : Bool) : ScheduledRunLateEvidenceKind :=
  if executed then .completionAfterLeaseLoss else .preflightAfterLeaseLoss

def evidenceText (executed : Bool) : String :=
  if executed then "scheduled-execution-after-lease-loss-v1" else "scheduled-preflight-after-lease-loss-v1"

def appendsEvidence (evidenceId : String) (now : Int) (w : SupervisedRun) : SupervisedRun :=
  match w.stage with
  | .late executed =>
    { w with
      store := (commit (appendScheduledRunLateEvidence evidenceId claim.binding (evidenceKind executed)
        (E.sha256Hex (utf8Bytes (evidenceText executed))) now) w.store).2
      stage := .ended }
  | _ => w

def givesUp (w : SupervisedRun) : SupervisedRun :=
  match w.stage with
  | .failing _ => { w with stage := .ended }
  | .returned _ => { w with stage := .ended }
  | _ => w

def step (w : SupervisedRun) : SupervisedEvent → SupervisedRun
  | .rejects failure => if w.stage = .prepared then { w with stage := .failing failure } else w
  | .marks => if w.stage = .prepared then { w with stage := .marking } else w
  | .markLands now => w.markLands claim profile now
  | .orphanLands now => w.orphanLands claim profile now
  | .markAnswered => w.markAnswered
  | .shutdownWins => w.interrupts (.fatal "scheduler_shutdown_before_execution_commit")
  | .deadlineWins => w.interrupts (.fatal "preflight_commit_deadline")
  | .recordsFailure now => w.recordsFailure claim now
  | .givesUp => w.givesUp
  | .disconnects => { w with connected := false }
  | .executionStarts => w.executionStarts backend
  | .findsDisconnected => w.findsDisconnected backend
  | .startFails => w.startFails backend
  | .executionConcludes result => w.executionConcludes result
  | .executionReturns => w.executionReturns
  | .graceExpires true => w.settlesAs (.interrupted false)
  | .graceExpires false => w.settlesAs (.transportLost "execution cancellation did not converge")
  | .heartbeatHardDeadline => w.settlesAs (.transportLost "heartbeat hard deadline")
  | .leaseLost => if w.stage = .executing then { w with stage := .late true } else w
  | .commitsResult evidenceId now => w.recordsResult E claim evidenceId now (w.resultRequest claim now)
  | .fallsBack evidenceId now => w.recordsResult E claim evidenceId now (some fallback)
  | .appendsEvidence evidenceId now => w.appendsEvidence E claim evidenceId now
  | .rival op => if rivals op then { w with store := op.apply E w.store } else w

end SupervisedRun

end Codeoff.Runtime
