import Codeoff.Json.Lemmas.Object
import Codeoff.Runtime.Lemmas.RemoteSession
import Codeoff.Runtime.RemoteCodec
import Codeoff.State.Lemmas.Text

/-!
# 枠を書き出して読み戻すこと

枠ごとに、値にして読み戻すと元に戻る。
-/

namespace Codeoff.Runtime

open Codeoff.Core Codeoff.Json Codeoff.Relational Codeoff.State

/-- `attempt` は u32、ほかの整数は u64 に収まる。 -/
structure RunBinding.InRange (b : RunBinding) : Prop where
  attempt : b.attempt ≤ u32Max
  fenceToken : b.fenceToken ≤ u64Max
  deploymentEpoch : b.deploymentEpoch ≤ u64Max

def RemoteMessage.InRange : RemoteMessage → Prop
  | .readinessRequest f => f.readyUntilUnixMillis ≤ u64Max
  | .ready f => f.readyUntilUnixMillis ≤ u64Max ∧ f.deploymentEpoch ≤ u64Max
  | .admission f => f.expiresAtUnixMillis ≤ u64Max ∧ f.deploymentEpoch ≤ u64Max
  | .prepare f => f.binding.InRange
  | .prepared f => f.binding.InRange
  | .start f => f.binding.InRange
  | .result f => f.binding.InRange
  | .cancel f => f.binding.InRange
  | .heartbeat f => f.binding.InRange
  | .error f => ∀ binding ∈ f.binding, binding.InRange

structure RemoteFrame.InRange (f : RemoteFrame) : Prop where
  version : f.version ≤ u64Max
  sequence : f.sequence ≤ u64Max
  message : f.message.InRange

variable {ms : List (String × Value)} {label field : String}

/-- 欄がちょうど揃えば、そのまま読める。 -/
theorem exactObject_object (hkeys : (ms.map Prod.fst).Nodup) :
    exactObject (.object ms) (ms.map Prod.fst) label = .ok (.object ms) := by
  obtain ⟨members, hobj, hlen⟩ := object_members hkeys
  have hget : ∀ m ∈ ms, ¬Value.get m.1 (.obj members) = none := by
    intro m hm
    rw [← hobj, get_object hkeys]
    cases hfind : ms.find? fun m' => m'.1 == m.1 with
    | some m' => simp
    | none => simpa using List.find?_eq_none.mp hfind m hm
  rw [hobj]
  unfold exactObject
  simp only [List.length_map, hlen, ne_eq, not_true_eq_false, List.any_map, false_or]
  rw [if_neg]
  simpa using hget

@[simp] theorem okOr_some {α : Type} {a : α} {error : RemoteProtocolError} : okOr (some a) error = .ok a := rfl

theorem required_object (hkeys : (ms.map Prod.fst).Nodup) : required (.object ms) field =
    okOr ((ms.find? fun m => m.1 == field).map Prod.snd) (.invalidField field) := by
  rw [required, get_object hkeys]

theorem requiredString_object (hkeys : (ms.map Prod.fst).Nodup) : requiredString (.object ms) field =
    okOr (((ms.find? fun m => m.1 == field).map Prod.snd).bind Value.asStr) (.invalidField field) := by
  rw [requiredString, required_object hkeys]
  cases ms.find? fun m => m.1 == field <;> rfl

theorem requiredU64_object (hkeys : (ms.map Prod.fst).Nodup) : requiredU64 (.object ms) field =
    okOr (((ms.find? fun m => m.1 == field).map Prod.snd).bind Value.asU64) (.invalidField field) := by
  rw [requiredU64, required_object hkeys]
  cases ms.find? fun m => m.1 == field <;> rfl

theorem asU64_int {n : Nat} (h : n ≤ u64Max) : (Value.int n).asU64 = some n := if_pos h

/-! ## 枠ごとの往復 -/

theorem ReadinessRequestFrame.fromValue_toValue {f : ReadinessRequestFrame}
    (h : f.readyUntilUnixMillis ≤ u64Max) : fromValue f.toValue = .ok f := by
  unfold toValue fromValue
  refine except_bind_ok.mpr ⟨_, exactObject_object (by simp), ?_⟩
  simp [requiredString_object, requiredU64_object, Value.asStr, asU64_int h, bind, Except.bind, pure, Except.pure]

theorem ReadyFrame.fromValue_toValue {f : ReadyFrame} (huntil : f.readyUntilUnixMillis ≤ u64Max)
    (hepoch : f.deploymentEpoch ≤ u64Max) : fromValue f.toValue = .ok f := by
  unfold toValue fromValue
  refine except_bind_ok.mpr ⟨_, exactObject_object (by simp), ?_⟩
  simp [requiredString_object, requiredU64_object, Value.asStr, asU64_int huntil, asU64_int hepoch, bind, Except.bind,
    pure, Except.pure]

theorem AdmissionFrame.fromValue_toValue {f : AdmissionFrame} (hexpires : f.expiresAtUnixMillis ≤ u64Max)
    (hepoch : f.deploymentEpoch ≤ u64Max) : fromValue f.toValue = .ok f := by
  unfold toValue fromValue
  refine except_bind_ok.mpr ⟨_, exactObject_object (by simp), ?_⟩
  simp [requiredString_object, requiredU64_object, Value.asStr, asU64_int hexpires, asU64_int hepoch, bind, Except.bind,
    pure, Except.pure]

theorem RunBinding.fromValue_toValue {b : RunBinding} (h : b.InRange) : fromValue b.toValue = .ok b := by
  obtain ⟨hattempt, hfence, hepoch⟩ := h
  have hattempt64 : b.attempt ≤ u64Max := hattempt.trans (by decide)
  unfold toValue fromValue
  refine except_bind_ok.mpr ⟨_, exactObject_object (by simp), ?_⟩
  simp [requiredString_object, requiredU64_object, Value.asStr, asU64_int hattempt64, asU64_int hfence,
    asU64_int hepoch, attemptOf, hattempt, bind, Except.bind, pure, Except.pure]

section Binding

variable {b : RunBinding}

theorem PrepareFrame.fromValue_toValue {f : PrepareFrame} (h : f.binding.InRange) :
    fromValue f.toValue = .ok f := by
  unfold toValue fromValue
  refine except_bind_ok.mpr ⟨_, exactObject_object (by simp), ?_⟩
  simp [required_object, requiredString_object, Value.asStr, RunBinding.fromValue_toValue h, bind, Except.bind, pure,
    Except.pure]

theorem PreparedFrame.fromValue_toValue {f : PreparedFrame} (h : f.binding.InRange) :
    fromValue f.toValue = .ok f := by
  unfold toValue fromValue
  refine except_bind_ok.mpr ⟨_, exactObject_object (by simp), ?_⟩
  simp [required_object, requiredString_object, Value.asStr, RunBinding.fromValue_toValue h, bind, Except.bind, pure,
    Except.pure]

theorem StartFrame.fromValue_toValue {f : StartFrame} (h : f.binding.InRange) : fromValue f.toValue = .ok f := by
  unfold toValue fromValue
  refine except_bind_ok.mpr ⟨_, exactObject_object (by simp), ?_⟩
  simp [required_object, requiredString_object, Value.asStr, RunBinding.fromValue_toValue h, bind, Except.bind, pure,
    Except.pure]

@[simp] theorem RemoteResultKind.parse_asStr (kind : RemoteResultKind) : parse kind.asStr = .ok kind := by
  cases kind <;> rfl

theorem ResultFrame.fromValue_toValue {f : ResultFrame} (h : f.binding.InRange) : fromValue f.toValue = .ok f := by
  unfold toValue fromValue
  refine except_bind_ok.mpr ⟨_, exactObject_object (by simp), ?_⟩
  simp [required_object, requiredString_object, Value.asStr, RunBinding.fromValue_toValue h, bind, Except.bind, pure,
    Except.pure]

theorem CancelFrame.fromValue_toValue {f : CancelFrame} (h : f.binding.InRange) : fromValue f.toValue = .ok f := by
  unfold toValue fromValue
  refine except_bind_ok.mpr ⟨_, exactObject_object (by simp), ?_⟩
  simp [required_object, requiredString_object, Value.asStr, RunBinding.fromValue_toValue h, bind, Except.bind, pure,
    Except.pure]

@[simp] theorem RemoteHeartbeatPhase.parse_asStr (phase : RemoteHeartbeatPhase) : parse phase.asStr = .ok phase := by
  cases phase <;> rfl

theorem HeartbeatFrame.fromValue_toValue {f : HeartbeatFrame} (h : f.binding.InRange) :
    fromValue f.toValue = .ok f := by
  unfold toValue fromValue
  refine except_bind_ok.mpr ⟨_, exactObject_object (by simp), ?_⟩
  simp [required_object, requiredString_object, Value.asStr, RunBinding.fromValue_toValue h, bind, Except.bind, pure,
    Except.pure]

theorem optionalObject_binding (hkeys : (ms.map Prod.fst).Nodup) {binding : Option RunBinding}
    (h : ∀ b ∈ binding, b.InRange)
    (hfind : ms.find? (fun m => m.1 == field) = some (field, .ofOption (binding.map RunBinding.toValue))) :
    optionalObject (.object ms) field RunBinding.fromValue = .ok binding := by
  rw [optionalObject, required_object hkeys, hfind]
  cases binding with
  | none => rfl
  | some b =>
    have hb : RunBinding.fromValue b.toValue = .ok b := RunBinding.fromValue_toValue (h b rfl)
    obtain ⟨members, hobj⟩ : ∃ members, b.toValue = .obj members := ⟨_, rfl⟩
    rw [hobj] at hb
    simp [Value.ofOption, hobj, hb, bind, Except.bind, pure, Except.pure]

theorem ErrorFrame.fromValue_toValue {f : ErrorFrame} (h : ∀ binding ∈ f.binding, binding.InRange) :
    fromValue f.toValue = .ok f := by
  obtain ⟨binding, nonce, code, message, retryable⟩ := f
  unfold toValue fromValue
  refine except_bind_ok.mpr ⟨_, exactObject_object (by simp), ?_⟩
  refine except_bind_ok.mpr ⟨_, optionalObject_binding (by simp) h (by simp), ?_⟩
  cases nonce <;>
    simp [optionalString, required_object, requiredString_object, Value.asStr, Value.ofOption, Value.asBool, bind,
      Except.bind, pure, Except.pure]

end Binding

/-- 範囲に収まる文は、書いて読み直すと元に戻る。 -/
theorem RemoteMessage.fromValue_toValue {m : RemoteMessage} (h : m.InRange) : fromValue m.toValue = .ok m := by
  unfold toValue fromValue
  refine except_bind_ok.mpr ⟨_, exactObject_object (by simp), ?_⟩
  refine except_bind_ok.mpr ⟨m.kind, by simp [requiredString_object, Value.asStr], ?_⟩
  refine except_bind_ok.mpr ⟨m.payload, by simp [required_object], ?_⟩
  cases m with
  | readinessRequest f => exact except_bind_ok.mpr ⟨f, f.fromValue_toValue h, rfl⟩
  | ready f => exact except_bind_ok.mpr ⟨f, f.fromValue_toValue h.1 h.2, rfl⟩
  | admission f => exact except_bind_ok.mpr ⟨f, f.fromValue_toValue h.1 h.2, rfl⟩
  | prepare f => exact except_bind_ok.mpr ⟨f, f.fromValue_toValue h, rfl⟩
  | prepared f => exact except_bind_ok.mpr ⟨f, f.fromValue_toValue h, rfl⟩
  | start f => exact except_bind_ok.mpr ⟨f, f.fromValue_toValue h, rfl⟩
  | result f => exact except_bind_ok.mpr ⟨f, f.fromValue_toValue h, rfl⟩
  | cancel f => exact except_bind_ok.mpr ⟨f, f.fromValue_toValue h, rfl⟩
  | heartbeat f => exact except_bind_ok.mpr ⟨f, f.fromValue_toValue h, rfl⟩
  | error f => exact except_bind_ok.mpr ⟨f, f.fromValue_toValue h, rfl⟩

theorem RunBinding.readable {b : RunBinding} {depth : Nat} (h : b.InRange) :
    b.toValue.readable (depth + 1) = true := by
  obtain ⟨hattempt, hfence, hepoch⟩ := h
  have hattempt64 : b.attempt ≤ u64Max := hattempt.trans (by decide)
  exact readable_object (by simp [readable_str, readable_nat hattempt64, readable_nat hfence, readable_nat hepoch])

theorem RunBinding.sorted (b : RunBinding) : b.toValue.Sorted :=
  sorted_object (membersSorted_iff.mpr (by simp [Value.Sorted]))

theorem RemoteMessage.readable {m : RemoteMessage} {depth : Nat} (h : m.InRange) :
    m.payload.readable (depth + 2) = true := by
  cases m with
  | readinessRequest f => exact readable_object (by simp [readable_str, readable_nat h])
  | ready f => exact readable_object (by simp [readable_str, readable_nat h.1, readable_nat h.2])
  | admission f => exact readable_object (by simp [readable_str, readable_nat h.1, readable_nat h.2])
  | prepare f => exact readable_object (by simp [readable_str, f.binding.readable h])
  | prepared f => exact readable_object (by simp [readable_str, f.binding.readable h])
  | start f => exact readable_object (by simp [readable_str, f.binding.readable h])
  | result f => exact readable_object (by simp [readable_str, f.binding.readable h])
  | cancel f => exact readable_object (by simp [readable_str, f.binding.readable h])
  | heartbeat f => exact readable_object (by simp [readable_str, f.binding.readable h])
  | error f =>
    obtain ⟨binding, nonce, code, message, retryable⟩ := f
    have hbinding : (Value.ofOption (binding.map RunBinding.toValue)).readable (depth + 1) = true := by
      cases binding with
      | none => rfl
      | some b => exact b.readable (h b rfl)
    have hnonce : (Value.ofOption (nonce.map .str)).readable (depth + 1) = true := by cases nonce <;> rfl
    exact readable_object (by simp [readable_str, hbinding, hnonce, Value.readable])

theorem RemoteMessage.sorted (m : RemoteMessage) : m.payload.Sorted := by
  cases m with
  | readinessRequest f => exact sorted_object (membersSorted_iff.mpr (by simp [Value.Sorted]))
  | ready f => exact sorted_object (membersSorted_iff.mpr (by simp [Value.Sorted]))
  | admission f => exact sorted_object (membersSorted_iff.mpr (by simp [Value.Sorted]))
  | prepare f => exact sorted_object (membersSorted_iff.mpr (by simp [Value.Sorted, f.binding.sorted]))
  | prepared f => exact sorted_object (membersSorted_iff.mpr (by simp [Value.Sorted, f.binding.sorted]))
  | start f => exact sorted_object (membersSorted_iff.mpr (by simp [Value.Sorted, f.binding.sorted]))
  | result f => exact sorted_object (membersSorted_iff.mpr (by simp [Value.Sorted, f.binding.sorted]))
  | cancel f => exact sorted_object (membersSorted_iff.mpr (by simp [Value.Sorted, f.binding.sorted]))
  | heartbeat f => exact sorted_object (membersSorted_iff.mpr (by simp [Value.Sorted, f.binding.sorted]))
  | error f =>
    obtain ⟨binding, nonce, code, message, retryable⟩ := f
    have hbinding : (Value.ofOption (binding.map RunBinding.toValue)).Sorted := by
      cases binding with
      | none => trivial
      | some b => exact b.sorted
    have hnonce : (Value.ofOption (nonce.map .str)).Sorted := by cases nonce <;> trivial
    exact sorted_object (membersSorted_iff.mpr (by simp [Value.Sorted, hbinding, hnonce]))

namespace RemoteFrame

variable {E : RemoteEnv} {f : RemoteFrame} {now : Nat} {bytes : List UInt8}

theorem readable (h : f.InRange) : f.toValue.readable maxDepth = true := by
  have hmessage : f.message.toValue.readable 126 = true :=
    readable_object (by simp [readable_str, RemoteMessage.readable h.message])
  exact readable_object (by simp [readable_str, readable_nat h.version, readable_nat h.sequence, hmessage])

theorem sorted (f : RemoteFrame) : f.toValue.Sorted := by
  have hmessage : f.message.toValue.Sorted :=
    sorted_object (membersSorted_iff.mpr (by simp [Value.Sorted, f.message.sorted]))
  exact sorted_object (membersSorted_iff.mpr (by simp [Value.Sorted, hmessage]))

theorem parseBytes_render (h : f.InRange) : parseBytes (utf8Bytes f.toValue.render) = some f.toValue := by
  rw [parseBytes, fromUTF8_toUTF8, Option.bind_some, parse_render f.sorted (readable h)]

/-- 書き出せるのは、時刻に依らない検査を通り、上限に収まるときである。 -/
theorem encode_ok : f.encode E = .ok bytes ↔ f.validateAt E 0 = .ok () ∧
    bytes.length ≤ maxRemoteFrameBytes ∧ bytes = utf8Bytes f.toValue.render := by
  unfold encode
  rw [except_bind_ok]
  constructor
  · rintro ⟨_, hvalid, h⟩
    obtain ⟨_, hlen, h⟩ := except_bind_ok.mp h
    cases h
    exact ⟨hvalid, of_decide_eq_true (orError_ok.mp hlen), rfl⟩
  · rintro ⟨hvalid, hlen, rfl⟩
    exact ⟨(), hvalid, except_bind_ok.mpr ⟨(), orError_ok.mpr (decide_eq_true hlen), rfl⟩⟩

/-- 読めた枠は、検査を通り、書き直すと元の列になる。 -/
theorem decode_ok (h : decode E bytes now = .ok f) :
    bytes.length ≤ maxRemoteFrameBytes ∧ f.validateAt E now = .ok () ∧ f.encode E = .ok bytes := by
  unfold decode at h
  obtain ⟨_, hlen, h⟩ := except_bind_ok.mp h
  obtain ⟨_, _, h⟩ := except_bind_ok.mp h
  obtain ⟨_, _, h⟩ := except_bind_ok.mp h
  obtain ⟨_, _, h⟩ := except_bind_ok.mp h
  obtain ⟨_, _, h⟩ := except_bind_ok.mp h
  obtain ⟨_, _, h⟩ := except_bind_ok.mp h
  obtain ⟨_, _, h⟩ := except_bind_ok.mp h
  obtain ⟨_, _, h⟩ := except_bind_ok.mp h
  obtain ⟨_, hvalid, h⟩ := except_bind_ok.mp h
  obtain ⟨encoded, hencode, h⟩ := except_bind_ok.mp h
  obtain ⟨_, hbytes, h⟩ := except_bind_ok.mp h
  cases h
  have heq : encoded = bytes := beq_iff_eq.mp (orError_ok.mp hbytes)
  exact ⟨of_decide_eq_true (orError_ok.mp hlen), hvalid, heq ▸ hencode⟩

theorem decode_body (hrange : f.InRange) :
    decode E (utf8Bytes f.toValue.render) now = (do
      orError ((utf8Bytes f.toValue.render).length ≤ maxRemoteFrameBytes) .frameTooLarge
      f.validateAt E now
      orError ((← f.encode E) == utf8Bytes f.toValue.render) .nonCanonicalJson
      return f) := by
  have hobject : exactObject f.toValue ["version", "session_nonce", "sequence", "message"] "frame" =
      .ok f.toValue := exactObject_object (by simp)
  have hversion : requiredU64 f.toValue "version" = .ok f.version := by
    simp [toValue, requiredU64_object, asU64_int hrange.version]
  have hnonce : requiredString f.toValue "session_nonce" = .ok f.sessionNonce := by
    simp [toValue, requiredString_object, Value.asStr]
  have hsequence : requiredU64 f.toValue "sequence" = .ok f.sequence := by
    simp [toValue, requiredU64_object, asU64_int hrange.sequence]
  have hmessage : required f.toValue "message" = .ok f.message.toValue := by simp [toValue, required_object]
  have hbind {α β : Type} (a : α) (k : α → Except RemoteProtocolError β) : (Except.ok a >>= k) = k a := rfl
  unfold decode
  simp only [parseBytes_render hrange, okOr_some, hobject, hversion, hnonce, hsequence, hmessage,
    RemoteMessage.fromValue_toValue hrange.message, hbind]

/-- 検査を通る枠は、書いて読み直すと元に戻る。 -/
theorem decode_encode (hrange : f.InRange) (hvalid : f.validateAt E now = .ok ()) (h : f.encode E = .ok bytes) :
    decode E bytes now = .ok f := by
  obtain ⟨_, hlen, rfl⟩ := encode_ok.mp h
  rw [decode_body hrange]
  refine except_bind_ok.mpr ⟨(), orError_ok.mpr (decide_eq_true hlen), ?_⟩
  refine except_bind_ok.mpr ⟨(), hvalid, ?_⟩
  refine except_bind_ok.mpr ⟨_, h, ?_⟩
  exact except_bind_ok.mpr ⟨(), orError_ok.mpr (beq_self_eq_true _), rfl⟩

/-- 枠を書いたものから読めるのは、その枠だけである。 -/
theorem decode_body_eq {g : RemoteFrame} (hrange : f.InRange)
    (h : decode E (utf8Bytes f.toValue.render) now = .ok g) : g = f := by
  rw [decode_body hrange] at h
  obtain ⟨_, _, h⟩ := except_bind_ok.mp h
  obtain ⟨_, _, h⟩ := except_bind_ok.mp h
  obtain ⟨_, _, h⟩ := except_bind_ok.mp h
  obtain ⟨_, _, h⟩ := except_bind_ok.mp h
  cases h
  rfl

end RemoteFrame

end Codeoff.Runtime
