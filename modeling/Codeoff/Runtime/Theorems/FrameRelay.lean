import Codeoff.Runtime.Lemmas.FrameRelay

/-!
# 中継が枠を失わない条件

読み取りが捨てられるとき、何バイトか取り込んでいれば、そのバイトは失われ、以後の枠の境がずれる。
-/

namespace Codeoff.Runtime

open Codeoff.Core Codeoff.Control

/-- どの時点でも枠が失われていないのは、どの一歩も、取り込んだバイトのある読み取りを捨てて続けないとき、そのときに限る。 -/
theorem frames_survive_iff (E : RemoteEnv) (nonce : String) (events : List FrameEvent)
    (htyped : ∀ event ∈ events, event.InRange) :
    (∀ n, (FrameChain.start.run E nonce (events.take n)).FramesSurvive) ↔
      ∀ n event, events[n]? = some event →
        (FrameChain.start.run E nonce (events.take n)).Quiet E nonce event := by
  have hkept : ∀ n, (∀ m < n, ∀ event, events[m]? = some event →
      (FrameChain.start.run E nonce (events.take m)).Quiet E nonce event) →
      (FrameChain.start.run E nonce (events.take n)).Kept E := by
    intro n
    induction n with
    | zero => exact fun _ => FrameChain.kept_start
    | succ n ih =>
      intro hquiet
      have hbefore := ih fun m hm => hquiet m (Nat.lt_succ_of_lt hm)
      cases hevent : events[n]? with
      | none =>
        have hlen : events.length ≤ n := List.getElem?_eq_none_iff.mp hevent
        rw [List.take_of_length_le hlen] at hbefore
        rwa [List.take_of_length_le (Nat.le_succ_of_le hlen)]
      | some event =>
        rw [List.take_add_one, hevent, Option.toList_some, FrameChain.run_snoc]
        exact hbefore.step (htyped event (List.mem_of_getElem? hevent)) (hquiet n (Nat.lt_succ_self n) event hevent)
  constructor
  · intro hsurvive n
    induction n using Nat.strongRecOn with
    | ind n ih =>
      intro event hevent
      by_contra hquiet
      have hbefore := hkept n ih
      have hafter := hsurvive (n + 1)
      rw [List.take_add_one, hevent, Option.toList_some, FrameChain.run_snoc] at hafter
      exact hbefore.not_survive hquiet hafter
  · intro hquiet n
    exact (hkept n fun m _ => hquiet m).survive

/-! ## 例 -/

def relayEnv : RemoteEnv where
  sha256Hex _ := ""
  jsonIsNull _ := some false

def relayNonce : String := "cccccccccccccccccccccccccccccccccccccccccccccccccccccccccccccccc"

def relayedAdmission : RemoteFrame where
  version := 2
  sessionNonce := relayNonce
  sequence := 1
  message := .admission {
    challenge := "dddddddddddddddddddddddddddddddddddddddddddddddddddddddddddddddd"
    admissionNonce := "2222222222222222222222222222222222222222222222222222222222222222"
    expiresAtUnixMillis := 2000
    deploymentEpoch := 9
    profileDigest := "bbbbbbbbbbbbbbbbbbbbbbbbbbbbbbbbbbbbbbbbbbbbbbbbbbbbbbbbbbbbbbbb" }

def relayedHeartbeat : RemoteFrame where
  version := 2
  sessionNonce := relayNonce
  sequence := 2
  message := .heartbeat {
    binding := {
      runId := "run-1"
      jobId := "job-1"
      attempt := 1
      fenceToken := 7
      authorityDigest := "aaaaaaaaaaaaaaaaaaaaaaaaaaaaaaaaaaaaaaaaaaaaaaaaaaaaaaaaaaaaaaaa"
      profileDigest := "bbbbbbbbbbbbbbbbbbbbbbbbbbbbbbbbbbbbbbbbbbbbbbbbbbbbbbbbbbbbbbbb"
      deploymentEpoch := 9
      credentialRevision := "rev-1" }
    phase := .started }

theorem relayed_frames_valid :
    relayedAdmission.validateAt relayEnv 0 = .ok () ∧ relayedHeartbeat.validateAt relayEnv 0 = .ok () ∧
      relayedHeartbeat.validateAt relayEnv 1000 = .ok () ∧ relayedAdmission.validateAt relayEnv 1000 = .ok () ∧
      relayedAdmission.renumbered.validateAt relayEnv 0 = .ok () := by
  decide +kernel

theorem relayed_frames_short :
    relayedAdmission.toValue.chars.length ≤ 16384 ∧ relayedHeartbeat.toValue.chars.length ≤ 16384 ∧
      relayedAdmission.renumbered.toValue.chars.length ≤ 16384 := by
  decide +kernel

theorem sendable_of_valid {E : RemoteEnv} {f : RemoteFrame} (hrange : f.InRange) (hvalid : f.validateAt E 0 = .ok ())
    (hshort : f.toValue.chars.length ≤ 16384) : f.Sendable E where
  inRange := hrange
  encodes := by
    have hlen : f.body.length ≤ maxRemoteFrameBytes :=
      f.body_length_le.trans (Nat.mul_le_mul_left 4 hshort)
    rw [RemoteFrame.encode_ok.mpr ⟨hvalid, hlen, rfl⟩]
    rfl

theorem relayedAdmission_sendable : relayedAdmission.Sendable relayEnv :=
  sendable_of_valid ⟨by decide, by decide, by show 2000 ≤ u64Max ∧ 9 ≤ u64Max; decide⟩ relayed_frames_valid.1
    relayed_frames_short.1

theorem relayedHeartbeat_sendable : relayedHeartbeat.Sendable relayEnv :=
  sendable_of_valid
    ⟨by decide, by decide,
      ⟨by show 1 ≤ u32Max; decide, by show 7 ≤ u64Max; decide, by show 9 ≤ u64Max; decide⟩⟩
    relayed_frames_valid.2.1 relayed_frames_short.2.1

theorem renumberedAdmission_sendable : relayedAdmission.renumbered.Sendable relayEnv :=
  sendable_of_valid relayedAdmission_sendable.inRange.renumbered relayed_frames_valid.2.2.2.2 relayed_frames_short.2.2

/-- 両方の側が枠を書く。中継は executor の枠を一度に、gateway の枠を二度に分けて読む。 -/
def relayedBoth (f g : RemoteFrame) : List FrameEvent := [
  .gatewayWrites f,
  .executorWrites g,
  .relayReadsExecutor (4 + g.body.length) false 1000 true,
  .relayReadsGateway 1 false 1000 true,
  .relayReadsGateway (3 + f.body.length) false 1000 true]

/-- executor の枠を渡した後の中継。 -/
def executorRelayed (f g : RemoteFrame) : FrameChain :=
  { FrameChain.start with
    gatewayToRelay := Pipe.empty.write RemoteFrame.body f
    executorToRelay := ⟨[g], [g], [], []⟩
    relayToGateway := Pipe.empty.write RemoteFrame.body g
    runnerSequence := 2 }

/-- 続けて、gateway の枠の最初のバイトを取り込んだ中継。 -/
def gatewayBegun (f g : RemoteFrame) : FrameChain :=
  { executorRelayed f g with
    gatewayToRelay := { Pipe.empty.write RemoteFrame.body f with
      taken := [UInt8.ofNat (f.body.length / 16777216)]
      unread := (Pipe.empty.write RemoteFrame.body f).unread.drop 1 } }

section Both

variable {E : RemoteEnv} {nonce : String} {f g : RemoteFrame}

theorem bothWritten_eq (hf : f.Sendable E) (hg : g.Sendable E) :
    FrameChain.start.run E nonce ((relayedBoth f g).take 2) =
      { FrameChain.start with
        gatewayToRelay := Pipe.empty.write RemoteFrame.body f
        executorToRelay := Pipe.empty.write RemoteFrame.body g } := by
  simp [relayedBoth, FrameChain.run, FrameChain.step, FrameChain.writeFrame_eq hf, FrameChain.writeFrame_eq hg,
    FrameChain.start]

theorem executorRelayed_eq (hf : f.Sendable E) (hg : g.Sendable E) (hvalid : g.validateAt E 1000 = .ok ())
    (haccepts : FrameChain.start.acceptsExecutorFrame nonce g = true) (hends : g.message.endsRelay = false) :
    FrameChain.start.run E nonce ((relayedBoth f g).take 3) = executorRelayed f g := by
  have hread : FrameChain.readFrame E (4 + g.body.length) false 1000 (Pipe.empty.write RemoteFrame.body g) =
      (⟨[g], [g], [], []⟩, .frame g) :=
    FrameChain.readFrame_whole hg hvalid rfl (by simp [Pipe.write, Pipe.empty, Pipe.frameBytes])
  have hlast : FrameChain.start.run E nonce ((relayedBoth f g).take 3) =
      (FrameChain.start.run E nonce ((relayedBoth f g).take 2)).step E nonce
        (.relayReadsExecutor (4 + g.body.length) false 1000 true) := rfl
  have hrelayed : { FrameChain.start with
      gatewayToRelay := Pipe.empty.write RemoteFrame.body f
      executorToRelay := Pipe.empty.write RemoteFrame.body g }.step E nonce
        (.relayReadsExecutor (4 + g.body.length) false 1000 true) = _ :=
    FrameChain.step_forwardToGateway rfl hread haccepts hg hends
  rw [hlast, bothWritten_eq hf hg, hrelayed]
  rfl

theorem gatewayBegun_eq (hf : f.Sendable E) (hg : g.Sendable E) (hvalid : g.validateAt E 1000 = .ok ())
    (haccepts : FrameChain.start.acceptsExecutorFrame nonce g = true) (hends : g.message.endsRelay = false) :
    FrameChain.start.run E nonce ((relayedBoth f g).take 4) = gatewayBegun f g := by
  have hread : FrameChain.readFrame E 1 false 1000 (Pipe.empty.write RemoteFrame.body f) = _ :=
    FrameChain.readFrame_first_byte rfl (List.nil_append _)
  have hlast : FrameChain.start.run E nonce ((relayedBoth f g).take 4) =
      (FrameChain.start.run E nonce ((relayedBoth f g).take 3)).step E nonce
        (.relayReadsGateway 1 false 1000 true) := rfl
  rw [hlast, executorRelayed_eq hf hg hvalid haccepts hends]
  simp [FrameChain.step, FrameChain.relayReadsGateway, executorRelayed, gatewayBegun, FrameChain.start, hread]

theorem relayedBoth_quiet (hf : f.Sendable E) (hg : g.Sendable E) (hvalid : g.validateAt E 1000 = .ok ())
    (haccepts : FrameChain.start.acceptsExecutorFrame nonce g = true) (hends : g.message.endsRelay = false) {n : Nat}
    {event : FrameEvent} (hevent : (relayedBoth f g)[n]? = some event) :
    (FrameChain.start.run E nonce ((relayedBoth f g).take n)).Quiet E nonce event := by
  match n with
  | 0 | 1 =>
    cases hevent
    exact trivial
  | 2 =>
    cases hevent
    rw [bothWritten_eq hf hg]
    exact fun _ _ _ _ _ _ => rfl
  | 3 =>
    cases hevent
    rw [executorRelayed_eq hf hg hvalid haccepts hends]
    exact fun _ _ _ _ _ _ => rfl
  | 4 =>
    cases hevent
    rw [gatewayBegun_eq hf hg hvalid haccepts hends]
    exact fun _ _ _ _ _ _ => rfl
  | n + 5 => cases hevent

theorem relayedBoth_crosses (hf : f.Sendable E) (hg : g.Sendable E) (hvalid : g.validateAt E 1000 = .ok ())
    (haccepts : FrameChain.start.acceptsExecutorFrame nonce g = true) (hends : g.message.endsRelay = false)
    (hfvalid : f.validateAt E 1000 = .ok ()) (hfaccepts : FrameChain.start.acceptsGatewayFrame nonce f = true)
    (hfends : f.message.endsRelay = false) (hrenumbered : f.renumbered.Sendable E) :
    (FrameChain.start.run E nonce (relayedBoth f g)).relayToExecutor.sent = [f.renumbered] ∧
      (FrameChain.start.run E nonce (relayedBoth f g)).relayToGateway.sent = [g] := by
  have hread : FrameChain.readFrame E (3 + f.body.length) false 1000 (gatewayBegun f g).gatewayToRelay = _ :=
    FrameChain.readFrame_whole hf hfvalid rfl (by simp [gatewayBegun, Pipe.write, Pipe.empty, Pipe.frameBytes])
  have hlast : FrameChain.start.run E nonce (relayedBoth f g) =
      (FrameChain.start.run E nonce ((relayedBoth f g).take 4)).step E nonce
        (.relayReadsGateway (3 + f.body.length) false 1000 true) := rfl
  have hrelayed : (gatewayBegun f g).step E nonce (.relayReadsGateway (3 + f.body.length) false 1000 true) = _ :=
    FrameChain.step_forwardToExecutor rfl hread hfaccepts hrenumbered hfends
  rw [hlast, gatewayBegun_eq hf hg hvalid haccepts hends, hrelayed]
  exact ⟨rfl, rfl⟩

end Both

/-- 分けて届いた枠も、どの時点でも失われず、両方の枠が渡される。 -/
theorem relayedBoth_survives :
    (∀ event ∈ relayedBoth relayedAdmission relayedHeartbeat, event.InRange) ∧
      (∀ n, (FrameChain.start.run relayEnv relayNonce
        ((relayedBoth relayedAdmission relayedHeartbeat).take n)).FramesSurvive) ∧
      (FrameChain.start.run relayEnv relayNonce (relayedBoth relayedAdmission relayedHeartbeat)).relayToExecutor.sent =
        [relayedAdmission.renumbered] ∧
      (FrameChain.start.run relayEnv relayNonce (relayedBoth relayedAdmission relayedHeartbeat)).relayToGateway.sent =
        [relayedHeartbeat] := by
  have hrange : ∀ event ∈ relayedBoth relayedAdmission relayedHeartbeat, event.InRange := by
    simp [relayedBoth, FrameEvent.InRange, relayedAdmission_sendable.inRange, relayedHeartbeat_sendable.inRange]
  have hadmission := relayedAdmission_sendable
  have hheartbeat := relayedHeartbeat_sendable
  obtain ⟨_, _, hvalid, hfvalid, _⟩ := relayed_frames_valid
  have haccepts : FrameChain.start.acceptsExecutorFrame relayNonce relayedHeartbeat = true := by decide
  have hfaccepts : FrameChain.start.acceptsGatewayFrame relayNonce relayedAdmission = true := by decide
  have hsurvive := (frames_survive_iff relayEnv relayNonce _ hrange).mpr fun n event hevent =>
    relayedBoth_quiet hadmission hheartbeat hvalid haccepts rfl hevent
  refine ⟨hrange, hsurvive, ?_⟩
  exact relayedBoth_crosses hadmission hheartbeat hvalid haccepts rfl hfvalid hfaccepts rfl renumberedAdmission_sendable

/-- gateway の枠を読みかけたところへ、executor の枠が届く。 -/
def interruptedRead (f g : RemoteFrame) : List FrameEvent := [
  .gatewayWrites f,
  .relayReadsGateway 1 false 1000 true,
  .executorWrites g,
  .relayReadsExecutor (4 + g.body.length) false 1000 true]

theorem interruptedRead_lost {E : RemoteEnv} {nonce : String} {f g : RemoteFrame} (hf : f.Sendable E)
    (hg : g.Sendable E) (hvalid : g.validateAt E 1000 = .ok ())
    (haccepts : FrameChain.start.acceptsExecutorFrame nonce g = true) (hends : g.message.endsRelay = false) :
    ¬(FrameChain.start.run E nonce (interruptedRead f g)).FramesSurvive := by
  have hunread : (Pipe.empty.write RemoteFrame.body f).unread = Pipe.frameBytes RemoteFrame.body f :=
    List.nil_append _
  have hread : FrameChain.readFrame E 1 false 1000 (Pipe.empty.write RemoteFrame.body f) =
      ({ Pipe.empty.write RemoteFrame.body f with
        taken := [UInt8.ofNat (f.body.length / 16777216)]
        unread := (Pipe.empty.write RemoteFrame.body f).unread.drop 1 }, .pending) :=
    FrameChain.readFrame_first_byte rfl hunread
  -- executor の枠を読む前の状態
  have hbefore : FrameChain.start.run E nonce ((interruptedRead f g).take 3) =
      { FrameChain.start with
        gatewayToRelay := { Pipe.empty.write RemoteFrame.body f with
          taken := [UInt8.ofNat (f.body.length / 16777216)]
          unread := (Pipe.empty.write RemoteFrame.body f).unread.drop 1 }
        executorToRelay := Pipe.empty.write RemoteFrame.body g } := by
    simp [interruptedRead, FrameChain.run, FrameChain.step, FrameChain.writeFrame_eq hf, FrameChain.writeFrame_eq hg,
      FrameChain.start, FrameChain.relayReadsGateway, hread]
  have hkept : (FrameChain.start.run E nonce ((interruptedRead f g).take 3)).Kept E := by
    have hwritten : (FrameChain.start.step E nonce (.gatewayWrites f)).Kept E :=
      FrameChain.kept_start.step hf.inRange trivial
    have hpending : ((FrameChain.start.step E nonce (.gatewayWrites f)).step E nonce
        (.relayReadsGateway 1 false 1000 true)).Kept E :=
      hwritten.step trivial fun _ _ _ _ _ _ => rfl
    have hexecutor : (((FrameChain.start.step E nonce (.gatewayWrites f)).step E nonce
        (.relayReadsGateway 1 false 1000 true)).step E nonce (.executorWrites g)).Kept E :=
      hpending.step hg.inRange trivial
    exact hexecutor
  have hlast : FrameChain.start.run E nonce (interruptedRead f g) =
      (FrameChain.start.run E nonce ((interruptedRead f g).take 3)).step E nonce
        (.relayReadsExecutor (4 + g.body.length) false 1000 true) := rfl
  rw [hlast]
  refine hkept.not_survive fun hquiet => ?_
  rw [hbefore] at hquiet
  have hnext : FrameChain.nextFrame E (4 + g.body.length) false 1000 (Pipe.empty.write RemoteFrame.body g) = some g :=
    FrameChain.nextFrame_whole hg hvalid rfl (List.nil_append _)
  have htaken := hquiet rfl g hnext haccepts hends (by simp [hg.encodes])
  cases htaken

/-- 読みかけのバイトが捨てられ、gateway の枠は二度と読めない。 -/
theorem interruptedRead_loses_frame :
    (∀ event ∈ interruptedRead relayedAdmission relayedHeartbeat, event.InRange) ∧
      ¬∀ n, (FrameChain.start.run relayEnv relayNonce
        ((interruptedRead relayedAdmission relayedHeartbeat).take n)).FramesSurvive := by
  have hadmission := relayedAdmission_sendable
  have hheartbeat := relayedHeartbeat_sendable
  refine ⟨by simp [interruptedRead, FrameEvent.InRange, hadmission.inRange, hheartbeat.inRange], fun hsurvive => ?_⟩
  have haccepts : FrameChain.start.acceptsExecutorFrame relayNonce relayedHeartbeat = true := by decide
  exact interruptedRead_lost hadmission hheartbeat relayed_frames_valid.2.2.1 haccepts rfl (hsurvive 4)

/-!
## 枠とバイト列の対応

枠の書き出しと読み取りは互いの逆で、受け入れるバイト列は枠ごとに一つである。
-/

/-- 検査を通る枠は書き出しから読み戻せ、読み取れたバイト列はその枠の書き出しである。 -/
theorem remote_codec_bijective (E : RemoteEnv) :
    (∀ (f : RemoteFrame) (now : Nat) (bytes : List UInt8), f.InRange → f.validateAt E now = .ok () →
      f.encode E = .ok bytes → RemoteFrame.decode E bytes now = .ok f) ∧
    (∀ (bytes : List UInt8) (now : Nat) (f : RemoteFrame), RemoteFrame.decode E bytes now = .ok f →
      f.encode E = .ok bytes ∧ bytes.length ≤ maxRemoteFrameBytes) ∧
    (∀ (bytes bytes' : List UInt8) (now now' : Nat) (f : RemoteFrame),
      RemoteFrame.decode E bytes now = .ok f → RemoteFrame.decode E bytes' now' = .ok f → bytes = bytes') := by
  refine ⟨fun f now bytes hrange hvalid hencode => RemoteFrame.decode_encode hrange hvalid hencode, ?_, ?_⟩
  · intro bytes now f h
    obtain ⟨hlen, _, hencode⟩ := RemoteFrame.decode_ok h
    exact ⟨hencode, hlen⟩
  · intro bytes bytes' now now' f h h'
    obtain ⟨_, _, hencode⟩ := RemoteFrame.decode_ok h
    obtain ⟨_, _, hencode'⟩ := RemoteFrame.decode_ok h'
    rw [hencode] at hencode'
    cases hencode'
    rfl

def sampleRemoteEnv : RemoteEnv where
  sha256Hex _ := ""
  jsonIsNull _ := some false

def sampleRequestFrame : RemoteFrame where
  version := 2
  sessionNonce := "cccccccccccccccccccccccccccccccccccccccccccccccccccccccccccccccc"
  sequence := 1
  message := .readinessRequest {
    challenge := "dddddddddddddddddddddddddddddddddddddddddddddddddddddddddddddddd"
    readyUntilUnixMillis := 2000 }

theorem sampleRequestFrame_valid :
    sampleRequestFrame.validateAt sampleRemoteEnv 0 = .ok () ∧
      sampleRequestFrame.validateAt sampleRemoteEnv 1000 = .ok () ∧
      (utf8Bytes sampleRequestFrame.toValue.render).length ≤ maxRemoteFrameBytes := by
  decide +kernel

/-- 準備の求めの枠は、書いた列から読み戻せる。 -/
theorem sampleRequestFrame_decodes :
    RemoteFrame.decode sampleRemoteEnv (utf8Bytes sampleRequestFrame.toValue.render) 1000 =
        .ok sampleRequestFrame ∧
      sampleRequestFrame.encode sampleRemoteEnv = .ok (utf8Bytes sampleRequestFrame.toValue.render) := by
  obtain ⟨hzero, hnow, hlen⟩ := sampleRequestFrame_valid
  have hencode : sampleRequestFrame.encode sampleRemoteEnv =
      .ok (utf8Bytes sampleRequestFrame.toValue.render) := RemoteFrame.encode_ok.mpr ⟨hzero, hlen, rfl⟩
  have hrange : sampleRequestFrame.InRange := ⟨by decide, by decide, by show 2000 ≤ u64Max; decide⟩
  obtain ⟨hforward, hback, _⟩ := remote_codec_bijective sampleRemoteEnv
  have hdecode := hforward _ 1000 _ hrange hnow hencode
  exact ⟨hdecode, (hback _ _ _ hdecode).1⟩

end Codeoff.Runtime
