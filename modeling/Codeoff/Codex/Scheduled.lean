import Codeoff.Agent.Task
import Codeoff.Codex.GithubMcp
import Codeoff.Control.Session
import Codeoff.Runtime.ScheduledExecution

/-!
# 予定の実行の発話

App Server との準備、発話、取り消し、そして後始末。読むたびに取り消しの旗と実行の期限を確かめる。
-/

namespace Codeoff.Codex

open Codeoff.Agent Codeoff.Control Codeoff.Core Codeoff.Json Codeoff.Runtime Codeoff.State

def maxFailureBytes : Nat := 2 * 1024

def maxFinalResponseBytes : Nat := 64 * 1024

def maxFinalSummaryBytes : Nat := 32 * 1024

def maxFinalItemCount : Nat := 16

def maxItemIdBytes : Nat := 256

def maxOutputSchemaDepth : Nat := 6

def maxMcpHealthResultBytes : Nat := 64 * 1024

def maxMcpHealthResultDepth : Nat := 16

def maxJsonlMessageBytes : Nat := 1024 * 1024

def bounded (value : String) (maxBytes : Nat) : String :=
  if byteLen value ≤ maxBytes then value else boundedUtf8 value maxBytes ++ "[truncated]"

/-- `ScheduledFailure::new`。 -/
def failure (kind : ScheduledFailureKind) (message : String) : ScheduledFailure :=
  ⟨kind, bounded message maxFailureBytes⟩

def preflight (message : String) : ScheduledFailure := failure .invalidRequest message

def capability (message : String) : ScheduledFailure := failure .capabilityMismatch message

def outputViolation (message : String) : ScheduledFailure := failure .outputSchemaViolation message

def protocolFailure (f : ScheduledFailure) : ScheduledExecutionResult :=
  match f.kind with
  | .interrupted => .interrupted none none
  | .timedOut => .transportLost f
  | _ => .preflightRejected f

def transportFailure (message : String) : ScheduledExecutionResult := .transportLost (failure .transport message)

/-! ## 回線 -/

inductive TimedRead where
  | message (m : Value)
  | timedOut
  | eof

/-- 一回の待ち。`cancelled` は読む前に見た旗、`expired` は読み終えたときに実行の期限を過ぎたか。 -/
structure Poll where
  cancelled : Bool
  read : Except String TimedRead
  expired : Bool

inductive ProcessExit where
  | exited
  | timedOut
deriving DecidableEq, Repr

inductive TransportEvent where
  | wrote (message : Value) (error : Option String)
  | closedStdin (error : Option String)
  | terminated (error : Option String)
  | killed (error : Option String)
  | reaped (answer : Except String ProcessExit)

structure GithubCall where
  callId : String
  tool : String
  arguments : Value

/-- 一回の実行の記録。`requests` は要求への応答を待つ間に、`heard` は発話の終わりを待つ間に読んだ文。この二つと `attested`（この準備で
確かめた道具）は履歴であり、本体は読まない。 -/
structure ScheduledLog where
  events : List TransportEvent
  github : GithubSide
  called : List GithubCall
  requests : List Value
  heard : List Value
  attested : List (List Value)

/-- 回線と道具の答え。番号は、それまでに働きかけた回数である。`others n` は、n 番目の呼び出しの前に、ほかの準備が替えた道具の一覧。 -/
structure ScheduledEnv where
  version : String
  writeJson : Nat → Option String
  closeStdin : Nat → Option String
  terminateProcessGroup : Nat → Option String
  killProcessGroup : Nat → Option String
  reapUntil : Nat → Except String ProcessExit
  deadlineFits : Nat → Bool
  github : GithubEnv
  others : Nat → Option McpState

structure ScheduledCodexRequest where
  task : AgentTask
  cwd : String

abbrev ScheduledTalk (ε α : Type) := ExceptT ε (Session (Wire Poll ScheduledLog)) α

namespace ScheduledLog

def empty : ScheduledLog where
  events := []
  github := ⟨⟨0, none, []⟩, []⟩
  called := []
  requests := []
  heard := []
  attested := []

def record (event : TransportEvent) (log : ScheduledLog) : ScheduledLog := { log with events := log.events ++ [event] }

def write (env : ScheduledEnv) (message : Value) (log : ScheduledLog) : Option String × ScheduledLog :=
  let error := env.writeJson log.events.length
  (error, log.record (.wrote message error))

def readResponse (message : Value) (log : ScheduledLog) : ScheduledLog :=
  { log with requests := log.requests ++ [message] }

def hear (message : Value) (log : ScheduledLog) : ScheduledLog := { log with heard := log.heard ++ [message] }

def interfere (env : ScheduledEnv) (log : ScheduledLog) : ScheduledLog :=
  match env.others log.called.length with
  | none => log
  | some state => { log with github := { log.github with state := state } }

def call (env : ScheduledEnv) (c : GithubCall) (log : ScheduledLog) : Except String Value × ScheduledLog :=
  let before := log.interfere env
  let answer := (callTool env.github c.tool c.arguments).run before.github
  (answer.1, { before with
    github := answer.2
    called := before.called ++ [c] })

end ScheduledLog

def acceptScheduledResponse (id : Nat) (method : String) (response : Value) : Except ScheduledFailure Value :=
  if (messageId response).asU64 ≠ some id then .error (capability (method ++ "_response_id_mismatch"))
  else if hasError response then .error (failure .protocolIncompatible (method ++ "_rpc_error"))
  else .ok (responseResult response)

def scheduledResponseStep (id : Nat) (method : String) (s : Unit × ScheduledLog) (p : Poll) :
    Verdict (Unit × ScheduledLog) (Except ScheduledFailure Value) :=
  if p.cancelled then .held (.error (failure .interrupted (method ++ "_cancelled"))) s
  else
    match p.read with
    | .ok (.message response) =>
      if isNotification response then .next ((), s.2.readResponse response)
      else .done (acceptScheduledResponse id method response) ((), s.2.readResponse response)
    | .ok .timedOut =>
      if p.expired then .done (.error (failure .timedOut (method ++ "_timed_out"))) s else .next s
    | .ok .eof => .done (.error (failure .transport (method ++ "_transport_eof"))) s
    | .error error => .done (.error (failure .transport error)) s

/-- 書く。書けなければ、`Transport` の失敗で終わる。 -/
def sendScheduled (env : ScheduledEnv) (message : Value) : ScheduledTalk ScheduledFailure Unit :=
  ExceptT.mk (Session.act fun log =>
    match log.write env message with
    | (none, log') => (.ok (), log')
    | (some error, log') => (.error (failure .transport error), log'))

def scheduledRequest (env : ScheduledEnv) (id : Nat) (method : String) (params : Value) :
    ScheduledTalk ScheduledFailure Value := do
  sendScheduled env (requestMessage id method params)
  ExceptT.mk (Session.reading (scheduledResponseStep id method) ())

def command (answer : Nat → Option String) (event : Option String → TransportEvent) :
    ScheduledTalk ScheduledFailure Unit :=
  ExceptT.mk (Session.act fun log =>
    let error := answer log.events.length
    (match error with
      | none => .ok ()
      | some error => .error (failure .transport error), log.record (event error)))

def closeStdin (env : ScheduledEnv) : ScheduledTalk ScheduledFailure Unit := command env.closeStdin .closedStdin

def terminateProcessGroup (env : ScheduledEnv) : ScheduledTalk ScheduledFailure Unit :=
  command env.terminateProcessGroup .terminated

def killProcessGroup (env : ScheduledEnv) : ScheduledTalk ScheduledFailure Unit :=
  command env.killProcessGroup .killed

def reapUntil (env : ScheduledEnv) : ScheduledTalk ScheduledFailure ProcessExit :=
  ExceptT.mk (Session.act fun log =>
    let answer := env.reapUntil log.events.length
    (match answer with
      | .ok exit => .ok exit
      | .error error => .error (failure .transport error), log.record (.reaped answer)))

def checkDeadline (env : ScheduledEnv) (message : String) : ScheduledTalk ScheduledFailure Unit :=
  ExceptT.mk (Session.act fun log =>
    (if env.deadlineFits log.events.length then .ok () else .error (preflight message), log))

def killAndReap (env : ScheduledEnv) : ScheduledTalk ScheduledFailure Unit := do
  killProcessGroup env
  checkDeadline env "scheduled_kill_deadline_overflow"
  match ← reapUntil env with
  | .exited => return
  | .timedOut => throw (failure .transport "process_tree_not_reaped_after_kill")

def boundedShutdown (env : ScheduledEnv) : ScheduledTalk ScheduledFailure Unit := do
  closeStdin env
  terminateProcessGroup env
  checkDeadline env "scheduled_terminate_deadline_overflow"
  match ← reapUntil env with
  | .exited => return
  | .timedOut => killAndReap env

end Codeoff.Codex
