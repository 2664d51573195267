import Codeoff.Control.FrameStream
import Codeoff.Runtime.RemoteCodec

/-!
# 枠の中継

制御側の処理が、遠隔の gateway と手元の executor のあいだで枠を中継する。三者とも、枠の読み取りをほかの分
岐と競わせる（`select`）。
-/

namespace Codeoff.Runtime

open Codeoff.Core Codeoff.Control

def RemoteFrame.body (f : RemoteFrame) : List UInt8 := utf8Bytes f.toValue.render

def RemoteFrame.renumbered (f : RemoteFrame) : RemoteFrame := { f with sequence := min (f.sequence + 1) u64Max }

def RemoteMessage.fromGateway : RemoteMessage → Bool
  | .admission _ | .prepare _ | .start _ | .cancel _ => true
  | _ => false

def RemoteMessage.fromExecutor : RemoteMessage → Bool
  | .prepared _ | .heartbeat _ | .result _ | .error _ => true
  | _ => false

def RemoteMessage.endsRelay : RemoteMessage → Bool
  | .cancel _ | .result _ | .error _ => true
  | _ => false

inductive RelayStatus where
  | running
  /-- 終わりの枠を渡した。 -/
  | finished
  /-- 読み取りの時限が来た。 -/
  | timedOut
  /-- 切断、読めない枠、許されない枠、または書き込みの失敗。 -/
  | rejected
deriving DecidableEq

structure FrameChain where
  gatewayToRelay : Pipe RemoteFrame
  relayToExecutor : Pipe RemoteFrame
  executorToRelay : Pipe RemoteFrame
  relayToGateway : Pipe RemoteFrame
  gatewaySequence : Nat
  runnerSequence : Nat
  relay : RelayStatus
  /-- gateway が枠を待つ繰り返しの中にいる。 -/
  gatewayReading : Bool
  /-- executor が枠を待つ繰り返しの中にいる。 -/
  executorReading : Bool

inductive FrameEvent where
  | gatewayWrites (frame : RemoteFrame)
  | executorWrites (frame : RemoteFrame)
  /-- 中継が gateway の側を、`arrived` バイトが届いたところまで読む。`written` は、読めた枠を書き終えられるか。 -/
  | relayReadsGateway (arrived : Nat) (eof : Bool) (now : Nat) (written : Bool)
  | relayReadsExecutor (arrived : Nat) (eof : Bool) (now : Nat) (written : Bool)
  | relayTimesOut
  | gatewayReads (arrived : Nat) (eof : Bool) (now : Nat)
  /-- 実行の指示が先に届き、読み取りが捨てられる。 -/
  | gatewayCommand
  | gatewayStops
  | executorReads (arrived : Nat) (eof : Bool) (now : Nat)
  /-- 実行中の読み取りの時限。誤りとせず、読み取りを始め直す。 -/
  | executorTimesOut
  | executorStops

namespace FrameChain

def start : FrameChain where
  gatewayToRelay := .empty
  relayToExecutor := .empty
  executorToRelay := .empty
  relayToGateway := .empty
  gatewaySequence := 0
  runnerSequence := 1
  relay := .running
  gatewayReading := true
  executorReading := true

variable (E : RemoteEnv) (nonce : String)

/-- `write_frame`。書き出せない枠は何も書かない。 -/
def writeFrame (frame : RemoteFrame) (p : Pipe RemoteFrame) : Pipe RemoteFrame :=
  if (frame.encode E).toBool then p.write RemoteFrame.body frame else p

def readFrame (arrived : Nat) (eof : Bool) (now : Nat) (p : Pipe RemoteFrame) :
    Pipe RemoteFrame × PipePoll RemoteFrame :=
  p.poll (fun bytes => RemoteFrame.decode E bytes now) maxRemoteFrameBytes arrived eof

def nextFrame (arrived : Nat) (eof : Bool) (now : Nat) (p : Pipe RemoteFrame) : Option RemoteFrame :=
  p.next? (fun bytes => RemoteFrame.decode E bytes now) maxRemoteFrameBytes arrived eof

/-! ## 中継 -/

def acceptsGatewayFrame (c : FrameChain) (frame : RemoteFrame) : Bool :=
  frame.sessionNonce == nonce && frame.sequence == min (c.gatewaySequence + 1) u64Max
    && frame.message.fromGateway

def acceptsExecutorFrame (c : FrameChain) (frame : RemoteFrame) : Bool :=
  frame.sessionNonce == nonce && frame.sequence == min (c.runnerSequence + 1) u64Max
    && frame.message.fromExecutor

/-- gateway から読んだ枠を渡す。もう一方の読み取りは捨てられている。 -/
def forwardToExecutor (frame : RemoteFrame) (written : Bool) (c : FrameChain) : FrameChain :=
  if !c.acceptsGatewayFrame nonce frame then { c with relay := .rejected }
  else if (frame.renumbered.encode E).toBool && written then
    { c with
      gatewaySequence := min (c.gatewaySequence + 1) u64Max
      relayToExecutor := c.relayToExecutor.write RemoteFrame.body frame.renumbered
      relay := if frame.message.endsRelay then .finished else .running }
  else { c with relay := .rejected }

def forwardToGateway (frame : RemoteFrame) (written : Bool) (c : FrameChain) : FrameChain :=
  if !c.acceptsExecutorFrame nonce frame then { c with relay := .rejected }
  else if (frame.encode E).toBool && written then
    { c with
      runnerSequence := min (c.runnerSequence + 1) u64Max
      relayToGateway := c.relayToGateway.write RemoteFrame.body frame
      relay := if frame.message.endsRelay then .finished else .running }
  else { c with relay := .rejected }

def relayReadsGateway (arrived : Nat) (eof : Bool) (now : Nat) (written : Bool) (c : FrameChain) : FrameChain :=
  match readFrame E arrived eof now c.gatewayToRelay with
  | (pipe, .pending) => { c with gatewayToRelay := pipe }
  | (pipe, .ended) =>
    { c with
      gatewayToRelay := pipe
      executorToRelay := c.executorToRelay.abandon
      relay := .rejected }
  | (pipe, .frame frame) =>
    { c with
      gatewayToRelay := pipe
      executorToRelay := c.executorToRelay.abandon }.forwardToExecutor E nonce frame written

def relayReadsExecutor (arrived : Nat) (eof : Bool) (now : Nat) (written : Bool) (c : FrameChain) : FrameChain :=
  match readFrame E arrived eof now c.executorToRelay with
  | (pipe, .pending) => { c with executorToRelay := pipe }
  | (pipe, .ended) =>
    { c with
      executorToRelay := pipe
      gatewayToRelay := c.gatewayToRelay.abandon
      relay := .rejected }
  | (pipe, .frame frame) =>
    { c with
      executorToRelay := pipe
      gatewayToRelay := c.gatewayToRelay.abandon }.forwardToGateway E nonce frame written

def step (c : FrameChain) : FrameEvent → FrameChain
  | .gatewayWrites frame => { c with gatewayToRelay := writeFrame E frame c.gatewayToRelay }
  | .executorWrites frame => { c with executorToRelay := writeFrame E frame c.executorToRelay }
  | .relayReadsGateway arrived eof now written =>
    if c.relay = .running then c.relayReadsGateway E nonce arrived eof now written else c
  | .relayReadsExecutor arrived eof now written =>
    if c.relay = .running then c.relayReadsExecutor E nonce arrived eof now written else c
  | .relayTimesOut =>
    if c.relay = .running then
      { c with
        gatewayToRelay := c.gatewayToRelay.abandon
        executorToRelay := c.executorToRelay.abandon
        relay := .timedOut }
    else c
  | .gatewayReads arrived eof now =>
    if c.gatewayReading then
      match readFrame E arrived eof now c.relayToGateway with
      | (pipe, .ended) =>
        { c with
          relayToGateway := pipe
          gatewayReading := false }
      | (pipe, _) => { c with relayToGateway := pipe }
    else c
  | .gatewayCommand => if c.gatewayReading then { c with relayToGateway := c.relayToGateway.abandon } else c
  | .gatewayStops => { c with gatewayReading := false }
  | .executorReads arrived eof now =>
    if c.executorReading then
      match readFrame E arrived eof now c.relayToExecutor with
      | (pipe, .ended) =>
        { c with
          relayToExecutor := pipe
          executorReading := false }
      | (pipe, _) => { c with relayToExecutor := pipe }
    else c
  | .executorTimesOut => if c.executorReading then { c with relayToExecutor := c.relayToExecutor.abandon } else c
  | .executorStops => { c with executorReading := false }

def run (c : FrameChain) (events : List FrameEvent) : FrameChain := events.foldl (step E nonce) c

/-- 渡された枠は、どちらの向きでも書かれた枠の先頭からの並びである。中継が続くか時限で終わるかしたときは、読まれた枠はすべて
渡され、まだ読まれていない枠のバイトは一つも失われていない。gateway と executor の読み取りも同じである。 -/
structure FramesSurvive (c : FrameChain) : Prop where
  toExecutor : c.relayToExecutor.sent <+: c.gatewayToRelay.sent.map RemoteFrame.renumbered
  toGateway : c.relayToGateway.sent <+: c.executorToRelay.sent
  relayed : c.relay = .running ∨ c.relay = .timedOut →
    c.gatewayToRelay.Intact RemoteFrame.body ∧ c.executorToRelay.Intact RemoteFrame.body ∧
      c.relayToExecutor.sent = c.gatewayToRelay.delivered.map RemoteFrame.renumbered ∧
      c.relayToGateway.sent = c.executorToRelay.delivered
  atGateway : c.gatewayReading = true → c.relayToGateway.Intact RemoteFrame.body
  atExecutor : c.executorReading = true → c.relayToExecutor.Intact RemoteFrame.body

/-- 続く繰り返しの中で捨てられる読み取りは、何も取り込んでいない。 -/
def Quiet (c : FrameChain) : FrameEvent → Prop
  | .relayReadsGateway arrived eof now written => c.relay = .running →
    ∀ frame ∈ nextFrame E arrived eof now c.gatewayToRelay, c.acceptsGatewayFrame nonce frame = true →
      frame.message.endsRelay = false → (frame.renumbered.encode E).toBool && written →
      c.executorToRelay.taken = []
  | .relayReadsExecutor arrived eof now written => c.relay = .running →
    ∀ frame ∈ nextFrame E arrived eof now c.executorToRelay, c.acceptsExecutorFrame nonce frame = true →
      frame.message.endsRelay = false → (frame.encode E).toBool && written →
      c.gatewayToRelay.taken = []
  | .relayTimesOut => c.relay = .running → c.gatewayToRelay.taken = [] ∧ c.executorToRelay.taken = []
  | .gatewayCommand => c.gatewayReading = true → c.relayToGateway.taken = []
  | .executorTimesOut => c.executorReading = true → c.relayToExecutor.taken = []
  | _ => True

end FrameChain

end Codeoff.Runtime
