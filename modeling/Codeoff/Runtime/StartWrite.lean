import Codeoff.Control.Beside
import Codeoff.Control.FrameStream
import Codeoff.Runtime.RemoteProtocol
import Codeoff.Runtime.RunnerBroker

/-!
# START の枠の書き込み

枠を書く流れは、`poll_write` を呼ぶたびに、待つか、いくらかのバイトを受け取るか、失敗する。
-/

namespace Codeoff.Runtime

open Codeoff.Control

inductive ScheduledRunnerTlsError where
  | io (message : String)
  | frameTimeout
  | frameTooLarge
  | protocol (error : RemoteProtocolError)
deriving DecidableEq, Repr

/-- `poll_write` と `poll_flush` の返すもの。`poll_flush` の成功に数はないので、`ready (.ok _)` の数を見ない。 -/
inductive WritePoll where
  | pending
  | ready (result : Except String Nat)

inductive WriteEnding where
  /-- `write_timeout` が過ぎる。 -/
  | elapsed
  | dropped

structure WriteProgress where
  onFirstPoll : Bool
  onFirstPending : Bool
  onFirstByte : Bool
  sent : List UInt8
deriving DecidableEq, Repr

inductive WriteEnd where
  | written
  | failed (message : String)
  /-- 流れの返すものが尽きた。 -/
  | waiting
  /-- 流れが、渡したより多く受け取ったと答えた。 -/
  | panicked

structure StartReport where
  /-- 流れに受け取られたバイト。 -/
  sent : List UInt8
  /-- `poll_write` が一度でも待ったか。 -/
  pended : Bool
  /-- `write_start_frame` の返した値。捨てられたなら `none`。 -/
  result : Option (Except ScheduledRunnerTlsError Unit)
deriving DecidableEq, Repr

inductive StartReply where
  | broker (reply : Except ScheduledRunnerBrokerError BrokerReply)
  | written (report : StartReport)
deriving DecidableEq, Repr

abbrev StartThread := Thread BrokerState StartReply

def observe (armed : Bool) (call : BrokerThread) (next : Bool → StartThread) : StartThread :=
  if armed then call.bind fun result => next result.toBool else next true

section Write

variable (lease : ReservationLease)

/-- `polls` は、流れがこれから返すものの列である。 -/
def writeAllObserved (next : List WritePoll → WriteProgress → WriteEnd → StartThread) :
    List WritePoll → List UInt8 → WriteProgress → StartThread
  | polls, [], p => next polls p .written
  | [], _ :: _, p => next [] p .waiting
  | poll :: polls, byte :: rest, p =>
    let buffer := byte :: rest
    observe p.onFirstPoll (ScheduledRunnerBroker.beginStartAttempt lease) fun attempted =>
      let p := { p with onFirstPoll := false }
      if attempted then
        match poll with
        | .pending =>
          observe p.onFirstPending (ScheduledRunnerBroker.markStartUncertain lease) fun uncertain =>
            let p := { p with onFirstPending := false }
            if uncertain then writeAllObserved next polls buffer p
            else next polls p (.failed "scheduled START write became unbound")
        | .ready (.ok 0) => next polls p (.failed "failed to write scheduled runner frame")
        | .ready (.ok (n + 1)) =>
          observe p.onFirstByte (ScheduledRunnerBroker.confirmStartByte lease) fun started =>
            let p := { p with onFirstByte := false, sent := p.sent ++ buffer.take (n + 1) }
            if started then
              if n + 1 ≤ buffer.length then writeAllObserved next polls (buffer.drop (n + 1)) p
              else next polls p .panicked
            else next polls p (.failed "scheduled START reservation changed after write")
        | .ready (.error message) => next polls p (.failed message)
      else next polls p (.failed "scheduled START reservation changed")

def flushStart (next : WriteEnd → StartThread) : List WritePoll → StartThread
  | [] => next .waiting
  | .pending :: polls => flushStart next polls
  | .ready (.ok _) :: _ => next .written
  | .ready (.error message) :: _ => next (.failed message)

/-- `tokio::time::timeout` のもとでの、繰り返しの結果。 -/
def WriteEnd.result (ending : WriteEnding) : WriteEnd → Option (Except ScheduledRunnerTlsError Unit)
  | .written => some (.ok ())
  | .failed message => some (.error (.io message))
  | .waiting =>
    match ending with
    | .elapsed => some (.error .frameTimeout)
    | .dropped => none
  | .panicked => none

/-- 長さ、本体の順に書き、流し切る。`encoded` は `frame.encode()` の結果である。 -/
def writeFrameObserved (encoded : Except RemoteProtocolError (List UInt8)) (polls : List WritePoll)
    (ending : WriteEnding) (next : WriteProgress → Option (Except ScheduledRunnerTlsError Unit) → StartThread) :
    StartThread :=
  let fresh : WriteProgress := ⟨true, true, true, []⟩
  match encoded with
  | .error error => next fresh (some (.error (.protocol error)))
  | .ok bytes =>
    if bytes.length < 4294967296 then
      writeAllObserved lease (fun polls p outcome =>
        match outcome with
        | .written =>
          writeAllObserved lease (fun polls p outcome =>
            match outcome with
            | .written => flushStart (fun outcome => next p (outcome.result ending)) polls
            | outcome => next p (outcome.result ending)) polls bytes p
        | outcome => next p (outcome.result ending)) polls (be32 bytes.length) fresh
    else next fresh (some (.error .frameTooLarge))

def writeStartFrame (encoded : Except RemoteProtocolError (List UInt8)) (polls : List WritePoll)
    (ending : WriteEnding) : StartThread :=
  writeFrameObserved lease encoded polls ending fun p result =>
    let report : StartReport := { sent := p.sent, pended := !p.onFirstPending, result }
    match result with
    | some (.error _) =>
      (ScheduledRunnerBroker.releaseReservation lease true false).bind fun _ => .done (.written report)
    | _ => .done (.written report)

end Write

inductive StartCall where
  | broker (call : BrokerCall)
  | writeStart (lease : ReservationLease) (encoded : Except RemoteProtocolError (List UInt8))
      (polls : List WritePoll) (ending : WriteEnding)

namespace StartCall

def thread : StartCall → StartThread
  | broker call => call.thread.bind fun reply => .done (.broker reply)
  | writeStart lease encoded polls ending => writeStartFrame lease encoded polls ending

def lease? : StartCall → Option ReservationLease
  | broker call => call.lease?
  | writeStart lease _ _ _ => some lease

end StartCall

abbrev StartWorld := World StartCall BrokerState StartReply

end Codeoff.Runtime
