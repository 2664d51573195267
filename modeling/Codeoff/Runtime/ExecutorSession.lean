import Codeoff.Control.Session
import Codeoff.Runtime.ScheduledExecution

/-!
# 実行者のセッション

START を受け入れた後、実行者は、実行の終わりと制御の枠を一緒に待つ。一巡ごとに時計を読み、先に届いた方を選ぶ。
-/

namespace Codeoff.Runtime

open Codeoff.Control

/-! ## 実行を見守る一巡 -/

inductive Incoming where
  | timeout
  | frame (f : RemoteFrame)
  | closed
  | failed

inductive Selected where
  | completed (result : Except Unit ScheduledExecutionResult)
  | incoming (read : Incoming)

/-- 一巡の間に起こること。`finished` は、その巡の終わりまでに実行が終わっていたか。`cleanup` は、制御を失った後に待って得たもの。 -/
structure SupervisionTurn where
  clock : Except String Nat
  selected : Selected
  cleanup : Option (Except Unit ScheduledExecutionResult)
  finished : Bool

structure ExecutionTask where
  finished : Bool
  cancelled : Bool
deriving DecidableEq, Repr

def ExecutionTask.spawned : ExecutionTask := ⟨false, false⟩

def ExecutionTask.stopped (task : ExecutionTask) : Bool := task.finished || task.cancelled

def Selected.isCompleted : Selected → Bool
  | .completed _ => true
  | .incoming _ => false

def SupervisionTurn.ends (t : SupervisionTurn) : Bool := t.finished || t.selected.isCompleted

def ExecutionTask.observe (task : ExecutionTask) (t : SupervisionTurn) : ExecutionTask :=
  { task with finished := task.finished || t.ends }

def ExecutionTask.cancel (task : ExecutionTask) : ExecutionTask := { task with cancelled := true }

def cleanupError (reason : String) : Option (Except Unit ScheduledExecutionResult) → String
  | some (.ok (.cleanupUnproven _)) => "scheduled runner cleanup was not proven after control loss"
  | some (.ok _) => reason
  | some (.error ()) => "scheduled runner execution task failed after control loss"
  | none => "scheduled runner cleanup did not converge after control loss"

abbrev SupervisionVerdict := Verdict ExecutionTask (Except String ScheduledExecutionResult)

def awaitExecutionCleanupAfterControlLoss (reason : String) (task : ExecutionTask) (t : SupervisionTurn) :
    SupervisionVerdict :=
  .done (.error (cleanupError reason t.cleanup))
    { task.cancel with finished := task.finished || t.cleanup.isSome }

def receiveExecutionFrame (binding : RunBinding) (sessionNonce : String) (task : ExecutionTask) (t : SupervisionTurn)
    (f : RemoteFrame) : SupervisionVerdict :=
  if f.sessionNonce = sessionNonce then
    match f.message with
    | .cancel c =>
      if c.binding ≠ binding then .done (.error "scheduled runner cancel binding mismatch") task
      else .next task.cancel
    | _ => .done (.error "scheduled runner received invalid execution frame") task
  else awaitExecutionCleanupAfterControlLoss "scheduled runner control transport failed" task t

def superviseExecution (binding : RunBinding) (sessionNonce : String) (task : ExecutionTask) (t : SupervisionTurn) :
    SupervisionVerdict :=
  let seen := task.observe t
  match t.clock with
  | .error error => .done (.error error) seen
  | .ok _ =>
    match t.selected with
    | .completed (.ok result) => .done (.ok result) seen
    | .completed (.error ()) => .done (.error "scheduled runner execution task failed") seen
    | .incoming .timeout => .next seen
    | .incoming (.frame f) => receiveExecutionFrame binding sessionNonce seen t f
    | .incoming .closed =>
      awaitExecutionCleanupAfterControlLoss "scheduled runner control disconnected during execution" seen t
    | .incoming .failed =>
      awaitExecutionCleanupAfterControlLoss "scheduled runner control transport failed" seen t

/-- 一つのセッションに起こること。START を受け入れる前に返るか、実行を始めて見守る。 -/
inductive SessionInput where
  | refused (error : String)
  | started (binding : RunBinding) (sessionNonce : String) (turns : List SupervisionTurn)

/-- `run_executor_session`。まだ返っていないか、始めた実行の様子を残して返る。 -/
def runExecutorSession : SessionInput → Progress (Option ExecutionTask) (Except String ScheduledExecutionResult)
  | .refused error => .done (.error error) none
  | .started binding sessionNonce turns =>
    match poll (superviseExecution binding sessionNonce) .spawned turns with
    | .waiting task => .waiting (some task)
    | .ended result task _ => .done result (some task)

/-- `run_executor_loop` が順に開くセッションと、開くときに残っている実行。 -/
def runExecutorLoop (left : List ExecutionTask) : List SessionInput → List (SessionInput × List ExecutionTask)
  | [] => []
  | session :: sessions =>
    (session, left) ::
      match runExecutorSession session with
      | .waiting _ => []
      | .done _ task => runExecutorLoop (left ++ task.toList) sessions

end Codeoff.Runtime
