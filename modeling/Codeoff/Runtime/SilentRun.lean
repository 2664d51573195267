import Codeoff.Runtime.FrameRelay
import Codeoff.Runtime.RemoteSession

/-!
# 実行のあいだの沈黙

START が書かれてから RESULT が読まれるまで、枠は一つも流れない。gateway、中継、executor は、そ
れぞれ自分の時限で枠の最初の一バイトを待つ。
-/

namespace Codeoff.Runtime

inductive RemoteExecutionTerminal where
  | result (frame : ResultFrame)
  | failedBeforeStart
  | outcomeUnknown

def disconnectTerminal : RemoteDisconnectOutcome → RemoteExecutionTerminal
  | .preflightNoExecution => .failedBeforeStart
  | .outcomeUnknown => .outcomeUnknown
  | .alreadyConclusive .failedBeforeStart => .failedBeforeStart
  | .alreadyConclusive .completed => .outcomeUnknown
  | .alreadyConclusive .outcomeUnknown => .outcomeUnknown

def validateMilliseconds (value : Nat) : Bool := decide (1 ≤ value) && decide (value ≤ 300000)

structure FrameTimeout where
  millis : Nat
  valid : validateMilliseconds millis = true

/-- 一度の遠隔実行。executor は `duration` 刻みで `result` を得る。 -/
structure RemoteTurn where
  gatewayFrameTimeout : FrameTimeout
  controlFrameTimeout : FrameTimeout
  executorFrameTimeout : FrameTimeout
  runTimeoutSeconds : Nat
  duration : Nat
  result : ResultFrame
  /-- START を受け入れた gateway のセッション。 -/
  session : RemoteSessionState
  withinTimeout : duration < runTimeoutSeconds * 1000
  started : session.started = true
  unfinished : session.terminal = none

inductive ExecutorStatus where
  /-- START を待つ読み取りの始まった時刻。 -/
  | waiting (since : Nat)
  | executing (startedAt since : Nat)
  | ended
deriving DecidableEq

structure SilentRun where
  now : Nat
  gateway : Option RemoteExecutionTerminal
  gatewaySince : Nat
  relay : RelayStatus
  relaySince : Nat
  executor : ExecutorStatus
  startAtRelay : Bool
  startAtExecutor : Bool
  resultAtRelay : Bool
  resultAtGateway : Bool

inductive SilentMove where
  | relayForwardsStart
  | executorStarts
  | executorFinishes
  | relayForwardsResult
  | gatewayReadsResult
  | gatewayTimesOut
  | relayTimesOutOnGateway
  | relayTimesOutOnExecutor
  | executorTimesOut
  | gatewayLosesRelay
  | relayLosesPeer
  | executorLosesRelay

namespace RemoteTurn

variable (t : RemoteTurn)

def start : SilentRun where
  now := 0
  gateway := none
  gatewaySince := 0
  relay := .running
  relaySince := 0
  executor := .waiting 0
  startAtRelay := true
  startAtExecutor := false
  resultAtRelay := false
  resultAtGateway := false

def expired (timeout : FrameTimeout) (since now : Nat) : Bool := decide (since + timeout.millis ≤ now)

def relayForwardsStart (s : SilentRun) : Option SilentRun :=
  if s.relay = .running ∧ s.startAtRelay then
    some { s with startAtRelay := false, startAtExecutor := true, relaySince := s.now }
  else none

def relayForwardsResult (s : SilentRun) : Option SilentRun :=
  if s.relay = .running ∧ s.resultAtRelay then
    some { s with resultAtRelay := false, resultAtGateway := true, relay := .finished }
  else none

/-- `incoming?` が時限の誤りをそのまま返す。 -/
def relayTimesOut (arrived : Bool) (s : SilentRun) : Option SilentRun :=
  if s.relay = .running ∧ !arrived ∧ expired t.controlFrameTimeout s.relaySince s.now then
    some { s with relay := .timedOut }
  else none

def relayLosesPeer (s : SilentRun) : Option SilentRun :=
  if s.relay = .running ∧
      (s.gateway.isSome ∧ !s.startAtRelay ∨ s.executor = .ended ∧ !s.resultAtRelay) then
    some { s with relay := .rejected }
  else none

/-- 受け入れた RESULT で `drive_start` は終わる。 -/
def gatewayReadsResult (s : SilentRun) : Option SilentRun :=
  if s.gateway.isNone ∧ s.resultAtGateway then
    some { s with resultAtGateway := false, gateway := some (.result t.result) }
  else none

/-- `let Ok(Some(frame)) = incoming else` は、時限も切断と同じに扱う。 -/
def gatewayTimesOut (s : SilentRun) : Option SilentRun :=
  if s.gateway.isNone ∧ !s.resultAtGateway ∧ expired t.gatewayFrameTimeout s.gatewaySince s.now then
    some { s with gateway := some (disconnectTerminal t.session.disconnect) }
  else none

def gatewayLosesRelay (s : SilentRun) : Option SilentRun :=
  if s.gateway.isNone ∧ !s.resultAtGateway ∧ s.relay ≠ .running then
    some { s with gateway := some (disconnectTerminal t.session.disconnect) }
  else none

def executorStarts (s : SilentRun) : Option SilentRun :=
  match s.executor with
  | .waiting _ =>
    if s.startAtExecutor then some { s with startAtExecutor := false, executor := .executing s.now s.now }
    else none
  | _ => none

def executorFinishes (s : SilentRun) : Option SilentRun :=
  match s.executor with
  | .executing startedAt _ =>
    if startedAt + t.duration ≤ s.now then some { s with resultAtRelay := true, executor := .ended } else none
  | _ => none

def executorTimesOut (s : SilentRun) : Option SilentRun :=
  match s.executor with
  | .waiting since =>
    if !s.startAtExecutor ∧ expired t.executorFrameTimeout since s.now then
      some { s with executor := .ended }
    else none
  | .executing startedAt since =>
    if expired t.executorFrameTimeout since s.now then
      some { s with executor := .executing startedAt s.now }
    else none
  | .ended => none

def executorLosesRelay (s : SilentRun) : Option SilentRun :=
  if s.executor ≠ .ended ∧ !s.startAtExecutor ∧ s.relay ≠ .running then some { s with executor := .ended }
  else none

def move : SilentMove → SilentRun → Option SilentRun
  | .relayForwardsStart => relayForwardsStart
  | .executorStarts => executorStarts
  | .executorFinishes => t.executorFinishes
  | .relayForwardsResult => relayForwardsResult
  | .gatewayReadsResult => t.gatewayReadsResult
  | .gatewayTimesOut => t.gatewayTimesOut
  | .relayTimesOutOnGateway => fun s => t.relayTimesOut s.startAtRelay s
  | .relayTimesOutOnExecutor => fun s => t.relayTimesOut s.resultAtRelay s
  | .executorTimesOut => t.executorTimesOut
  | .gatewayLosesRelay => t.gatewayLosesRelay
  | .relayLosesPeer => relayLosesPeer
  | .executorLosesRelay => executorLosesRelay

def Step (s s' : SilentRun) : Prop :=
  (∃ m, t.move m s = some s') ∨ (∀ m, t.move m s = none) ∧ s' = { s with now := s.now + 1 }

def Reachable (s : SilentRun) : Prop := Relation.ReflTransGen t.Step start s

end RemoteTurn

end Codeoff.Runtime
