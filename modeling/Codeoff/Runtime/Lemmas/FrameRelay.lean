import Codeoff.Runtime.FrameRelay
import Codeoff.Runtime.Lemmas.RemoteCodec

/-!
# 中継の一歩

捨てられる読み取りが何も取り込んでいなければ、中継の一歩は枠を失わない。
-/

namespace Codeoff.Runtime

open Codeoff.Core Codeoff.Json Codeoff.Control Codeoff.Relational

variable {E : RemoteEnv} {f g : RemoteFrame} {now : Nat}

structure RemoteFrame.Sendable (E : RemoteEnv) (f : RemoteFrame) : Prop where
  inRange : f.InRange
  encodes : (f.encode E).toBool = true

theorem RemoteFrame.Sendable.encode (h : f.Sendable E) : f.encode E = .ok f.body := by
  have hencodes := h.encodes
  cases hencode : f.encode E with
  | error e =>
    rw [hencode] at hencodes
    cases hencodes
  | ok bytes =>
    obtain ⟨_, _, hbytes⟩ := RemoteFrame.encode_ok.mp hencode
    rw [hbytes]
    rfl

theorem RemoteFrame.body_nonempty (f : RemoteFrame) : 0 < f.body.length := by
  obtain ⟨members, hobj⟩ : ∃ members, f.toValue = .obj members := ⟨_, rfl⟩
  have hchars : f.toValue.chars ≠ [] := by
    rw [hobj]
    cases members <;> simp [Value.chars]
  have hrender : f.toValue.render ≠ "" := by
    intro h
    exact hchars (by simpa [Value.render] using congrArg String.toList h)
  have hsize : f.toValue.render.utf8ByteSize ≠ 0 := by simpa using hrender
  have hlength : f.body.length = f.toValue.render.utf8ByteSize := by simp [RemoteFrame.body, utf8Bytes]
  omega

theorem RemoteFrame.body_length_le (f : RemoteFrame) : f.body.length ≤ 4 * f.toValue.chars.length := by
  rw [RemoteFrame.body, State.length_utf8Bytes, Value.render]
  exact State.byteLen_ofList_le _

theorem RemoteFrame.Sendable.readable (h : f.Sendable E) (now : Nat) :
    Pipe.Readable RemoteFrame.body (fun bytes => RemoteFrame.decode E bytes now) maxRemoteFrameBytes f where
  nonempty := f.body_nonempty
  bounded := (RemoteFrame.encode_ok.mp h.encode).2.1
  sound _ := RemoteFrame.decode_body_eq h.inRange

theorem RemoteFrame.InRange.renumbered (h : f.InRange) : f.renumbered.InRange where
  version := h.version
  sequence := Nat.min_le_right _ _
  message := h.message

def FrameEvent.InRange : FrameEvent → Prop
  | .gatewayWrites frame => frame.InRange
  | .executorWrites frame => frame.InRange
  | _ => True

namespace FrameChain

variable {nonce : String} {c : FrameChain} {p p' : Pipe RemoteFrame} {arrived : Nat} {eof written : Bool}
  {r : PipePoll RemoteFrame}

def Sendable (E : RemoteEnv) (p : Pipe RemoteFrame) : Prop := ∀ f ∈ p.sent, f.Sendable E

theorem sendable_write (hp : Sendable E p) (hf : f.Sendable E) : Sendable E (p.write RemoteFrame.body f) := by
  intro g hg
  rcases List.mem_append.mp hg with hg | hg
  · exact hp g hg
  · exact List.mem_singleton.mp hg ▸ hf

theorem sendable_writeFrame (hp : Sendable E p) (hf : f.InRange) : Sendable E (writeFrame E f p) := by
  unfold writeFrame
  split
  · rename_i hencodes
    exact sendable_write hp ⟨hf, hencodes⟩
  · exact hp

theorem writeFrame_sent (p : Pipe RemoteFrame) : p.sent <+: (writeFrame E f p).sent := by
  unfold writeFrame
  split
  · exact List.prefix_append _ _
  · exact List.prefix_rfl

theorem writeFrame_delivered (p : Pipe RemoteFrame) : (writeFrame E f p).delivered = p.delivered := by
  unfold writeFrame
  split <;> rfl

theorem intact_writeFrame (h : p.Intact RemoteFrame.body) : (writeFrame E f p).Intact RemoteFrame.body := by
  unfold writeFrame
  split
  · exact h.write
  · exact h

/-- 枠を読むと、待つか、終わるか、送られた次の枠がそのまま届く。 -/
theorem readFrame_cases (hp : Sendable E p) (h : p.Intact RemoteFrame.body)
    (hread : readFrame E arrived eof now p = (p', r)) :
    p'.sent = p.sent ∧
      ((r = .pending ∧ p'.delivered = p.delivered ∧ p'.Intact RemoteFrame.body) ∨
        (∃ f, r = .frame f ∧ p'.delivered = p.delivered ++ [f] ∧ p'.taken = [] ∧ p'.Intact RemoteFrame.body) ∨
        (r = .ended ∧ p'.delivered = p.delivered)) :=
  h.poll (by decide) (fun f hf => (hp f hf).readable now) hread

theorem Intact_delivered (h : p.Intact RemoteFrame.body) : p.delivered <+: p.sent := by
  obtain ⟨rest, hsent, _⟩ := h
  exact ⟨rest, hsent.symm⟩

/-! ## 片方の向き -/

/-- 源から読んだ枠を、名を変えて先へ渡す向き。`live` のあいだは、読んだ枠をすべて渡していて、源のバイトは失われていない。 -/
structure Carried (E : RemoteEnv) (rename : RemoteFrame → RemoteFrame) (live : Prop)
    (source target : Pipe RemoteFrame) : Prop where
  sends : Sendable E source
  writes : Sendable E target
  read : source.delivered <+: source.sent
  forwarded : target.sent <+: source.delivered.map rename
  intact : live → source.Intact RemoteFrame.body
  complete : live → target.sent = source.delivered.map rename

namespace Carried

variable {rename : RemoteFrame → RemoteFrame} {live live' : Prop} {source source' target target' : Pipe RemoteFrame}

theorem of_imp (h : Carried E rename live source target) (himp : live' → live) :
    Carried E rename live' source target :=
  { h with
    intact := h.intact ∘ himp
    complete := h.complete ∘ himp }

theorem targetRead (h : Carried E rename live source target) (hsent : target'.sent = target.sent) :
    Carried E rename live source target' :=
  { h with
    writes := by unfold Sendable; rw [hsent]; exact h.writes
    forwarded := hsent ▸ h.forwarded
    complete := fun hlive => hsent.trans (h.complete hlive) }

theorem sourceWrite (h : Carried E rename live source target) (hf : f.InRange) :
    Carried E rename live (writeFrame E f source) target where
  sends := sendable_writeFrame h.sends hf
  writes := h.writes
  read := writeFrame_delivered source ▸ h.read.trans (writeFrame_sent source)
  forwarded := (writeFrame_delivered source).symm ▸ h.forwarded
  intact hlive := intact_writeFrame (h.intact hlive)
  complete hlive := (writeFrame_delivered source).symm ▸ h.complete hlive

theorem abandon (h : Carried E rename live source target) (htaken : live' → live ∧ source.taken = []) :
    Carried E rename live' source.abandon target :=
  { sends := h.sends
    writes := h.writes
    read := h.read
    forwarded := h.forwarded
    intact := fun hlive => (h.intact (htaken hlive).1).abandon (htaken hlive).2
    complete := fun hlive => h.complete (htaken hlive).1 }

theorem readPending (h : Carried E rename live source target) (hlive : live)
    (hread : readFrame E arrived eof now source = (source', .pending)) : Carried E rename live source' target := by
  obtain ⟨hsent, hcases⟩ := readFrame_cases h.sends (h.intact hlive) hread
  rcases hcases with ⟨_, hdelivered, hintact⟩ | ⟨_, hr, _⟩ | ⟨hr, _⟩
  · exact {
      sends := by unfold Sendable; rw [hsent]; exact h.sends
      writes := h.writes
      read := by rw [hdelivered, hsent]; exact h.read
      forwarded := hdelivered.symm ▸ h.forwarded
      intact := fun _ => hintact
      complete := fun hlive => hdelivered.symm ▸ h.complete hlive }
  · cases hr
  · cases hr

theorem readEnded (h : Carried E rename live source target) (hlive : live)
    (hread : readFrame E arrived eof now source = (source', .ended)) : Carried E rename False source' target := by
  obtain ⟨hsent, hcases⟩ := readFrame_cases h.sends (h.intact hlive) hread
  rcases hcases with ⟨hr, _⟩ | ⟨_, hr, _⟩ | ⟨_, hdelivered⟩
  · cases hr
  · cases hr
  · exact {
      sends := by unfold Sendable; rw [hsent]; exact h.sends
      writes := h.writes
      read := by rw [hdelivered, hsent]; exact h.read
      forwarded := hdelivered.symm ▸ h.forwarded
      intact := False.elim
      complete := False.elim }

theorem readFrame (h : Carried E rename live source target) (hlive : live)
    (hread : FrameChain.readFrame E arrived eof now source = (source', .frame f)) :
    f.Sendable E ∧ Carried E rename False source' target ∧
      ((rename f).Sendable E → Carried E rename live source' (target.write RemoteFrame.body (rename f))) := by
  obtain ⟨hsent, hcases⟩ := readFrame_cases h.sends (h.intact hlive) hread
  rcases hcases with ⟨hr, _⟩ | ⟨g, hr, hdelivered, _, hintact⟩ | ⟨hr, _⟩
  · cases hr
  · cases hr
    have hsource : Sendable E source' := by unfold Sendable; rw [hsent]; exact h.sends
    have hread' : source'.delivered <+: source'.sent := Intact_delivered hintact
    have hmember : f ∈ source'.sent := hread'.subset (by simp [hdelivered])
    have htarget : target.sent = source.delivered.map rename := h.complete hlive
    refine ⟨hsource f hmember, ?_, fun hf => ?_⟩
    · exact {
        sends := hsource
        writes := h.writes
        read := hread'
        forwarded := by
          rw [hdelivered, htarget, List.map_append]
          exact List.prefix_append _ _
        intact := False.elim
        complete := False.elim }
    · have hcomplete : (target.write RemoteFrame.body (rename f)).sent = source'.delivered.map rename := by
        simp [hdelivered, htarget]
      exact {
        sends := hsource
        writes := sendable_write h.writes hf
        read := hread'
        forwarded := hcomplete ▸ List.prefix_rfl
        intact := fun _ => hintact
        complete := fun _ => hcomplete }
  · cases hr

end Carried

def Live (c : FrameChain) : Prop := c.relay = .running ∨ c.relay = .timedOut

structure Kept (E : RemoteEnv) (c : FrameChain) : Prop where
  down : Carried E RemoteFrame.renumbered c.Live c.gatewayToRelay c.relayToExecutor
  up : Carried E id c.Live c.executorToRelay c.relayToGateway
  atGateway : c.gatewayReading = true → c.relayToGateway.Intact RemoteFrame.body
  atExecutor : c.executorReading = true → c.relayToExecutor.Intact RemoteFrame.body

/-- どの向きの枠も保たれた連鎖は、枠についての約束を満たす。 -/
theorem Kept.survive (h : c.Kept E) : c.FramesSurvive where
  toExecutor := h.down.forwarded.trans (h.down.read.map _)
  toGateway := (List.map_id c.executorToRelay.delivered ▸ h.up.forwarded).trans h.up.read
  relayed hlive := ⟨h.down.intact hlive, h.up.intact hlive, h.down.complete hlive,
    (h.up.complete hlive).trans (List.map_id _)⟩
  atGateway := h.atGateway
  atExecutor := h.atExecutor

theorem kept_start : start.Kept E where
  down := ⟨by simp [Sendable, start, Pipe.empty], by simp [Sendable, start, Pipe.empty], List.prefix_rfl,
    List.prefix_rfl, fun _ => Pipe.intact_empty, fun _ => rfl⟩
  up := ⟨by simp [Sendable, start, Pipe.empty], by simp [Sendable, start, Pipe.empty], List.prefix_rfl,
    List.prefix_rfl, fun _ => Pipe.intact_empty, fun _ => rfl⟩
  atGateway _ := Pipe.intact_empty
  atExecutor _ := Pipe.intact_empty

/-! ## 中継の読み取り -/

theorem Kept.relayReadsGateway (h : c.Kept E) (hrunning : c.relay = .running)
    (hquiet : c.Quiet E nonce (.relayReadsGateway arrived eof now written)) :
    (c.relayReadsGateway E nonce arrived eof now written).Kept E := by
  have hlive : c.Live := .inl hrunning
  unfold FrameChain.relayReadsGateway
  cases hread : FrameChain.readFrame E arrived eof now c.gatewayToRelay with
  | mk pipe r =>
    cases r with
    | pending =>
      exact {
        down := h.down.readPending hlive hread
        up := h.up
        atGateway := h.atGateway
        atExecutor := h.atExecutor }
    | ended =>
      exact {
        down := (h.down.readEnded hlive hread).of_imp (by rintro (h | h) <;> cases h)
        up := h.up.abandon (by rintro (h | h) <;> cases h)
        atGateway := h.atGateway
        atExecutor := h.atExecutor }
    | frame f =>
      obtain ⟨hf, hdead, hforward⟩ := h.down.readFrame hlive hread
      have hnext : nextFrame E arrived eof now c.gatewayToRelay = some f := by
        unfold nextFrame Pipe.next?
        unfold FrameChain.readFrame at hread
        rw [hread]
      unfold forwardToExecutor
      simp only
      split
      · exact {
          down := hdead.of_imp (by rintro (h | h) <;> cases h)
          up := h.up.abandon (by rintro (h | h) <;> cases h)
          atGateway := h.atGateway
          atExecutor := h.atExecutor }
      rename_i haccepts
      split
      · rename_i hwritten
        have hencodes := (Bool.and_eq_true_iff.mp hwritten).1
        have hsend : f.renumbered.Sendable E := ⟨hf.inRange.renumbered, hencodes⟩
        refine {
          down := (hforward hsend).of_imp fun _ => hlive
          up := h.up.abandon fun hlive' => ⟨hlive, ?_⟩
          atGateway := h.atGateway
          atExecutor := fun hreading => (h.atExecutor hreading).write }
        cases hends : f.message.endsRelay with
        | false => exact hquiet hrunning f hnext (by simpa [acceptsGatewayFrame] using haccepts) hends hwritten
        | true =>
          rcases hlive' with hlive' | hlive' <;> simp [hends] at hlive'
      · exact {
          down := hdead.of_imp (by rintro (h | h) <;> cases h)
          up := h.up.abandon (by rintro (h | h) <;> cases h)
          atGateway := h.atGateway
          atExecutor := h.atExecutor }

theorem Kept.relayReadsExecutor (h : c.Kept E) (hrunning : c.relay = .running)
    (hquiet : c.Quiet E nonce (.relayReadsExecutor arrived eof now written)) :
    (c.relayReadsExecutor E nonce arrived eof now written).Kept E := by
  have hlive : c.Live := .inl hrunning
  unfold FrameChain.relayReadsExecutor
  cases hread : FrameChain.readFrame E arrived eof now c.executorToRelay with
  | mk pipe r =>
    cases r with
    | pending =>
      exact {
        down := h.down
        up := h.up.readPending hlive hread
        atGateway := h.atGateway
        atExecutor := h.atExecutor }
    | ended =>
      exact {
        down := h.down.abandon (by rintro (h | h) <;> cases h)
        up := (h.up.readEnded hlive hread).of_imp (by rintro (h | h) <;> cases h)
        atGateway := h.atGateway
        atExecutor := h.atExecutor }
    | frame f =>
      obtain ⟨hf, hdead, hforward⟩ := h.up.readFrame hlive hread
      have hnext : nextFrame E arrived eof now c.executorToRelay = some f := by
        unfold nextFrame Pipe.next?
        unfold FrameChain.readFrame at hread
        rw [hread]
      unfold forwardToGateway
      simp only
      split
      · exact {
          down := h.down.abandon (by rintro (h | h) <;> cases h)
          up := hdead.of_imp (by rintro (h | h) <;> cases h)
          atGateway := h.atGateway
          atExecutor := h.atExecutor }
      rename_i haccepts
      split
      · rename_i hwritten
        refine {
          down := h.down.abandon fun hlive' => ⟨hlive, ?_⟩
          up := (hforward hf).of_imp fun _ => hlive
          atGateway := fun hreading => (h.atGateway hreading).write
          atExecutor := h.atExecutor }
        cases hends : f.message.endsRelay with
        | false => exact hquiet hrunning f hnext (by simpa [acceptsExecutorFrame] using haccepts) hends hwritten
        | true =>
          rcases hlive' with hlive' | hlive' <;> simp [hends] at hlive'
      · exact {
          down := h.down.abandon (by rintro (h | h) <;> cases h)
          up := hdead.of_imp (by rintro (h | h) <;> cases h)
          atGateway := h.atGateway
          atExecutor := h.atExecutor }

theorem endpoint_read (hp : Sendable E p) (h : p.Intact RemoteFrame.body)
    (hread : readFrame E arrived eof now p = (p', r)) :
    p'.sent = p.sent ∧ (r ≠ .ended → p'.Intact RemoteFrame.body) := by
  obtain ⟨hsent, hcases⟩ := readFrame_cases hp h hread
  refine ⟨hsent, fun hr => ?_⟩
  rcases hcases with ⟨_, _, hintact⟩ | ⟨_, _, _, _, hintact⟩ | ⟨hended, _⟩
  · exact hintact
  · exact hintact
  · exact absurd hended hr

theorem Kept.gatewayReads (h : c.Kept E) : (c.step E nonce (.gatewayReads arrived eof now)).Kept E := by
  simp only [step]
  split
  · rename_i hreading
    cases hread : FrameChain.readFrame E arrived eof now c.relayToGateway with
    | mk pipe r =>
      obtain ⟨hsent, hintact⟩ := endpoint_read h.up.writes (h.atGateway hreading) hread
      cases r with
      | ended => exact {
          down := h.down
          up := h.up.targetRead hsent
          atGateway := by simp
          atExecutor := h.atExecutor }
      | pending => exact {
          down := h.down
          up := h.up.targetRead hsent
          atGateway := fun _ => hintact (by simp)
          atExecutor := h.atExecutor }
      | frame f => exact {
          down := h.down
          up := h.up.targetRead hsent
          atGateway := fun _ => hintact (by simp)
          atExecutor := h.atExecutor }
  · exact h

theorem Kept.executorReads (h : c.Kept E) : (c.step E nonce (.executorReads arrived eof now)).Kept E := by
  simp only [step]
  split
  · rename_i hreading
    cases hread : FrameChain.readFrame E arrived eof now c.relayToExecutor with
    | mk pipe r =>
      obtain ⟨hsent, hintact⟩ := endpoint_read h.down.writes (h.atExecutor hreading) hread
      cases r with
      | ended => exact {
          down := h.down.targetRead hsent
          up := h.up
          atGateway := h.atGateway
          atExecutor := by simp }
      | pending => exact {
          down := h.down.targetRead hsent
          up := h.up
          atGateway := h.atGateway
          atExecutor := fun _ => hintact (by simp) }
      | frame f => exact {
          down := h.down.targetRead hsent
          up := h.up
          atGateway := h.atGateway
          atExecutor := fun _ => hintact (by simp) }
  · exact h

/-! ## 一歩 -/

variable {event : FrameEvent}

/-- 読み取りが途中で捨てられないかぎり、どの一歩も、渡した枠を一つも失わず、順に届ける。 -/
theorem Kept.step (h : c.Kept E) (hrange : event.InRange) (hquiet : c.Quiet E nonce event) :
    (c.step E nonce event).Kept E := by
  cases event with
  | gatewayWrites frame =>
    exact {
      down := h.down.sourceWrite hrange
      up := h.up
      atGateway := h.atGateway
      atExecutor := h.atExecutor }
  | executorWrites frame =>
    exact {
      down := h.down
      up := h.up.sourceWrite hrange
      atGateway := h.atGateway
      atExecutor := h.atExecutor }
  | relayReadsGateway arrived eof now written =>
    simp only [FrameChain.step]
    split
    · rename_i hrunning
      exact h.relayReadsGateway hrunning hquiet
    · exact h
  | relayReadsExecutor arrived eof now written =>
    simp only [FrameChain.step]
    split
    · rename_i hrunning
      exact h.relayReadsExecutor hrunning hquiet
    · exact h
  | relayTimesOut =>
    simp only [FrameChain.step]
    split
    · rename_i hrunning
      obtain ⟨hdown, hup⟩ := hquiet hrunning
      exact {
        down := h.down.abandon fun _ => ⟨.inl hrunning, hdown⟩
        up := h.up.abandon fun _ => ⟨.inl hrunning, hup⟩
        atGateway := h.atGateway
        atExecutor := h.atExecutor }
    · exact h
  | gatewayReads arrived eof now => exact h.gatewayReads
  | gatewayCommand =>
    simp only [FrameChain.step]
    split
    · rename_i hreading
      exact {
        down := h.down
        up := h.up.targetRead rfl
        atGateway := fun _ => (h.atGateway hreading).abandon (hquiet hreading)
        atExecutor := h.atExecutor }
    · exact h
  | gatewayStops =>
    exact {
      down := h.down
      up := h.up
      atGateway := by simp [FrameChain.step]
      atExecutor := h.atExecutor }
  | executorReads arrived eof now => exact h.executorReads
  | executorTimesOut =>
    simp only [FrameChain.step]
    split
    · rename_i hreading
      exact {
        down := h.down.targetRead rfl
        up := h.up
        atGateway := h.atGateway
        atExecutor := fun _ => (h.atExecutor hreading).abandon (hquiet hreading) }
    · exact h
  | executorStops =>
    exact {
      down := h.down
      up := h.up
      atGateway := h.atGateway
      atExecutor := by simp [FrameChain.step] }

theorem readFrame_of_nextFrame (h : nextFrame E arrived eof now p = some f) :
    ∃ p', readFrame E arrived eof now p = (p', .frame f) := by
  unfold nextFrame Pipe.next? at h
  unfold readFrame
  cases hpoll : p.poll (fun bytes => RemoteFrame.decode E bytes now) maxRemoteFrameBytes arrived eof with
  | mk p' r =>
    rw [hpoll] at h
    cases r with
    | frame g =>
      cases h
      exact ⟨p', rfl⟩
    | pending => cases h
    | ended => cases h

/-- 取り込んだバイトと届いたバイトを合わせて一つの枠になれば、その枠が読まれる。 -/
theorem readFrame_whole (h : f.Sendable E) (hvalid : f.validateAt E now = .ok ())
    (hbytes : p.taken ++ p.unread = Pipe.frameBytes RemoteFrame.body f) (harrived : p.unread.length ≤ arrived) :
    readFrame E arrived eof now p = ({ p with
      delivered := p.delivered ++ [f]
      taken := []
      unread := [] }, .frame f) := by
  have hpoll : pollFrame maxRemoteFrameBytes p.taken (p.unread.take arrived) eof = .ready f.body [] := by
    have hwhole : pollFrame maxRemoteFrameBytes [] (be32 f.body.length ++ f.body) eof = .ready f.body [] :=
      Pipe.pollFrame_whole (by decide) f.body_nonempty (RemoteFrame.encode_ok.mp h.encode).2.1
    rw [List.take_of_length_le harrived]
    simpa only [pollFrame, hbytes, List.nil_append, Pipe.frameBytes] using hwhole
  have hdecode : RemoteFrame.decode E f.body now = .ok f := RemoteFrame.decode_encode h.inRange hvalid h.encode
  simp [readFrame, Pipe.poll, hpoll, hdecode, List.drop_of_length_le harrived]

/-- 一つの枠が丸ごと届いていれば、それが次の枠である。 -/
theorem nextFrame_whole (h : f.Sendable E) (hvalid : f.validateAt E now = .ok ()) (htaken : p.taken = [])
    (hunread : p.unread = Pipe.frameBytes RemoteFrame.body f) :
    nextFrame E (4 + f.body.length) eof now p = some f := by
  have hbytes : p.taken ++ p.unread = Pipe.frameBytes RemoteFrame.body f := by rw [htaken, hunread, List.nil_append]
  have harrived : p.unread.length ≤ 4 + f.body.length := by simp [hunread, Pipe.frameBytes]
  have hread : readFrame E (4 + f.body.length) eof now p = _ := readFrame_whole h hvalid hbytes harrived
  unfold readFrame at hread
  simp [nextFrame, Pipe.next?, hread]

/-- 最初の一バイトだけが届けば、読み取りはそれを取り置いて待つ。 -/
theorem readFrame_first_byte (htaken : p.taken = []) (hunread : p.unread = Pipe.frameBytes RemoteFrame.body f) :
    readFrame E 1 false now p = ({ p with
      taken := [UInt8.ofNat (f.body.length / 16777216)]
      unread := p.unread.drop 1 }, .pending) := by
  have hpoll : pollFrame maxRemoteFrameBytes p.taken (p.unread.take 1) false =
      .pending [UInt8.ofNat (f.body.length / 16777216)] := by
    rw [htaken, hunread]
    rfl
  simp [readFrame, Pipe.poll, hpoll]

/-- 受け入れて書けた枠は、番号を進めて渡される。 -/
theorem step_forwardToExecutor {c : FrameChain} {pipe : Pipe RemoteFrame} (hrunning : c.relay = .running)
    (hread : readFrame E arrived eof now c.gatewayToRelay = (pipe, .frame f))
    (haccepts : c.acceptsGatewayFrame nonce f = true) (hf : f.renumbered.Sendable E)
    (hends : f.message.endsRelay = false) :
    c.step E nonce (.relayReadsGateway arrived eof now true) = { c with
      gatewayToRelay := pipe
      executorToRelay := c.executorToRelay.abandon
      gatewaySequence := min (c.gatewaySequence + 1) u64Max
      relayToExecutor := c.relayToExecutor.write RemoteFrame.body f.renumbered
      relay := .running } := by
  simp only [FrameChain.step, if_pos hrunning, FrameChain.relayReadsGateway, hread, forwardToExecutor]
  rw [if_neg (by simpa [acceptsGatewayFrame] using haccepts), if_pos (by simpa using hf.encodes)]
  simp [hends]

theorem step_forwardToGateway {c : FrameChain} {pipe : Pipe RemoteFrame} (hrunning : c.relay = .running)
    (hread : readFrame E arrived eof now c.executorToRelay = (pipe, .frame f))
    (haccepts : c.acceptsExecutorFrame nonce f = true) (hf : f.Sendable E) (hends : f.message.endsRelay = false) :
    c.step E nonce (.relayReadsExecutor arrived eof now true) = { c with
      executorToRelay := pipe
      gatewayToRelay := c.gatewayToRelay.abandon
      runnerSequence := min (c.runnerSequence + 1) u64Max
      relayToGateway := c.relayToGateway.write RemoteFrame.body f
      relay := .running } := by
  simp only [FrameChain.step, if_pos hrunning, FrameChain.relayReadsExecutor, hread, forwardToGateway]
  rw [if_neg (by simpa [acceptsExecutorFrame] using haccepts), if_pos (by simpa using hf.encodes)]
  simp [hends]

theorem writeFrame_eq (h : f.Sendable E) : writeFrame E f p = p.write RemoteFrame.body f := if_pos h.encodes

/-- 枠の途中まで読んだ読み取りが捨てられると、届いていた分が失われ、枠の境がずれる。 -/
theorem Kept.not_survive (h : c.Kept E) (hquiet : ¬c.Quiet E nonce event) : ¬(c.step E nonce event).FramesSurvive := by
  cases event with
  | relayReadsGateway arrived eof now written =>
    simp only [Quiet, not_forall] at hquiet
    obtain ⟨hrunning, f, hnext, haccepts, hends, hwritten, htaken⟩ := hquiet
    obtain ⟨pipe, hread⟩ := readFrame_of_nextFrame hnext
    intro hsurvive
    simp only [FrameChain.step, if_pos hrunning, FrameChain.relayReadsGateway, hread, forwardToExecutor] at hsurvive
    rw [if_neg (by simpa [acceptsGatewayFrame] using haccepts), if_pos hwritten] at hsurvive
    have hintact := (hsurvive.relayed (.inl (by simp [hends]))).2.1
    exact Pipe.not_intact_abandon (h.up.intact (.inl hrunning)) htaken hintact
  | relayReadsExecutor arrived eof now written =>
    simp only [Quiet, not_forall] at hquiet
    obtain ⟨hrunning, f, hnext, haccepts, hends, hwritten, htaken⟩ := hquiet
    obtain ⟨pipe, hread⟩ := readFrame_of_nextFrame hnext
    intro hsurvive
    simp only [FrameChain.step, if_pos hrunning, FrameChain.relayReadsExecutor, hread, forwardToGateway] at hsurvive
    rw [if_neg (by simpa [acceptsExecutorFrame] using haccepts), if_pos hwritten] at hsurvive
    have hintact := (hsurvive.relayed (.inl (by simp [hends]))).1
    exact Pipe.not_intact_abandon (h.down.intact (.inl hrunning)) htaken hintact
  | relayTimesOut =>
    simp only [Quiet, not_forall] at hquiet
    obtain ⟨hrunning, htaken⟩ := hquiet
    intro hsurvive
    simp only [FrameChain.step, if_pos hrunning] at hsurvive
    obtain ⟨hdown, hup, _⟩ := hsurvive.relayed (.inr rfl)
    by_cases hempty : c.gatewayToRelay.taken = []
    · have hne : c.executorToRelay.taken ≠ [] := fun hup' => htaken ⟨hempty, hup'⟩
      exact Pipe.not_intact_abandon (h.up.intact (.inl hrunning)) hne hup
    · exact Pipe.not_intact_abandon (h.down.intact (.inl hrunning)) hempty hdown
  | gatewayCommand =>
    simp only [Quiet, not_forall] at hquiet
    obtain ⟨hreading, htaken⟩ := hquiet
    intro hsurvive
    simp only [FrameChain.step, if_pos hreading] at hsurvive
    exact Pipe.not_intact_abandon (h.atGateway hreading) htaken (hsurvive.atGateway hreading)
  | executorTimesOut =>
    simp only [Quiet, not_forall] at hquiet
    obtain ⟨hreading, htaken⟩ := hquiet
    intro hsurvive
    simp only [FrameChain.step, if_pos hreading] at hsurvive
    exact Pipe.not_intact_abandon (h.atExecutor hreading) htaken (hsurvive.atExecutor hreading)
  | gatewayWrites frame => exact absurd trivial hquiet
  | executorWrites frame => exact absurd trivial hquiet
  | gatewayReads arrived eof now => exact absurd trivial hquiet
  | gatewayStops => exact absurd trivial hquiet
  | executorReads arrived eof now => exact absurd trivial hquiet
  | executorStops => exact absurd trivial hquiet

theorem run_snoc (c : FrameChain) (events : List FrameEvent) :
    c.run E nonce (events ++ [event]) = (c.run E nonce events).step E nonce event := by
  simp [run]

end FrameChain

end Codeoff.Runtime
