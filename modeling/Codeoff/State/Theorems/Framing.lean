import Codeoff.State.Lemmas.Completion
import Codeoff.State.Lemmas.Text

/-!
# 鍵と要約の入力の一意性

配信の意図の鍵は、区切りと 16 進で二つの文字列を連ねる。
-/

namespace Codeoff.State

open Codeoff.Core

/-- Rust の切片。長さは `isize::MAX` を超えない。 -/
abbrev Slice := { bytes : List UInt8 // bytes.length < 2 ^ 63 }

/-- Rust の文字列の切片。 -/
abbrev Str := { text : String // byteLen text < 2 ^ 63 }

def Str.asBytes (s : Str) : Slice := ⟨utf8Bytes s.val, (length_utf8Bytes s.val).symm ▸ s.property⟩

/-- 8 バイトの長さと値。`u64` に収まらない長さは `u64::MAX` とする。 -/
def lengthFramed (value : Slice) : List UInt8 :=
  beBytes (min value.val.length (2 ^ 64 - 1)) ++ value.val

/-- `framed_sha256` が要約する列。 -/
def framedPreimage (domain : Str) (values : List Slice) : List UInt8 :=
  (domain.asBytes :: values).flatMap lengthFramed

/-- `digest_identity` が要約する列。切片の長さは `u64` に収まるので、`expect` は失敗しない。 -/
def identityPreimage (parts : List Str) : List UInt8 :=
  parts.flatMap fun part => beBytes (byteLen part.val) ++ utf8Bytes part.val

theorem lengthFramed_eq (value : Slice) : lengthFramed value = beBytes value.val.length ++ value.val := by
  have hlt := value.property
  rw [lengthFramed, Nat.min_eq_left (by omega)]

theorem lengthFramed_asBytes (s : Str) : lengthFramed s.asBytes = beBytes (byteLen s.val) ++ utf8Bytes s.val := by
  rw [lengthFramed_eq, Str.asBytes, length_utf8Bytes]

theorem identityPreimage_eq (parts : List Str) :
    identityPreimage parts = (parts.map Str.asBytes).flatMap lengthFramed := by
  rw [identityPreimage, List.flatMap_map]
  exact congrArg (List.flatMap · parts) (funext fun part => (lengthFramed_asBytes part).symm)

theorem framedPreimage_asBytes (domain : Str) (values : List Str) :
    framedPreimage domain (values.map Str.asBytes) = identityPreimage (domain :: values) := by
  rw [identityPreimage_eq, framedPreimage, List.map_cons]

/-- `framed_sha256` に文字列だけを渡せば、`digest_identity` と同じ列を要約する。 -/
theorem framedSha256_eq (E : Env) (domain : Str) (values : List Str) :
    framedSha256 E ((domain :: values).map Subtype.val) = E.sha256Hex (framedPreimage domain (values.map Str.asBytes)) := by
  rw [framedPreimage_asBytes, framedSha256, framedBytes, identityPreimage, List.flatMap_map]

theorem beBytes_inj {m n : Nat} (hm : m < 2 ^ 64) (hn : n < 2 ^ 64) (h : beBytes m = beBytes n) : m = n := by
  have hdigit : ∀ i < 8, m / 256 ^ (7 - i) % 256 = n / 256 ^ (7 - i) % 256 := by
    intro i hi
    have hget := congrArg (fun bs => bs[i]?.map UInt8.toNat) h
    simpa [beBytes, hi] using hget
  have h0 := hdigit 0 (by omega)
  have h1 := hdigit 1 (by omega)
  have h2 := hdigit 2 (by omega)
  have h3 := hdigit 3 (by omega)
  have h4 := hdigit 4 (by omega)
  have h5 := hdigit 5 (by omega)
  have h6 := hdigit 6 (by omega)
  have h7 := hdigit 7 (by omega)
  simp only [Nat.reduceSub, Nat.reducePow, Nat.div_one] at h0 h1 h2 h3 h4 h5 h6 h7
  omega

theorem length_beBytes (n : Nat) : (beBytes n).length = 8 := by
  simp [beBytes]

theorem lengthFramed_append_inj {v w : Slice} {rest rest' : List UInt8}
    (h : lengthFramed v ++ rest = lengthFramed w ++ rest') : v = w ∧ rest = rest' := by
  rw [lengthFramed_eq, lengthFramed_eq, List.append_assoc, List.append_assoc] at h
  obtain ⟨hlength, hrest⟩ := List.append_inj h (by rw [length_beBytes, length_beBytes])
  have hv := v.property
  have hw := w.property
  have hsame := beBytes_inj (by omega) (by omega) hlength
  obtain ⟨hbytes, hrest⟩ := List.append_inj hrest hsame
  exact ⟨Subtype.ext hbytes, hrest⟩

theorem lengthFramed_ne_nil (v : Slice) : lengthFramed v ≠ [] := by
  intro h
  have hlength := congrArg List.length h
  rw [lengthFramed_eq, List.length_append, length_beBytes, List.length_nil] at hlength
  omega

theorem flatMap_lengthFramed_inj {vs ws : List Slice} (h : vs.flatMap lengthFramed = ws.flatMap lengthFramed) :
    vs = ws := by
  induction vs generalizing ws with
  | nil =>
    cases ws with
    | nil => rfl
    | cons w ws =>
      simp only [List.flatMap_nil, List.flatMap_cons] at h
      exact absurd (List.append_eq_nil_iff.mp h.symm).1 (lengthFramed_ne_nil w)
  | cons v vs ih =>
    cases ws with
    | nil =>
      simp only [List.flatMap_nil, List.flatMap_cons] at h
      exact absurd (List.append_eq_nil_iff.mp h).1 (lengthFramed_ne_nil v)
    | cons w ws =>
      simp only [List.flatMap_cons] at h
      obtain ⟨rfl, hrest⟩ := lengthFramed_append_inj h
      rw [ih hrest]

theorem Str.asBytes_inj {s t : Str} (h : s.asBytes = t.asBytes) : s = t :=
  Subtype.ext (utf8Bytes_inj.mp (congrArg Subtype.val h))

theorem hexByte_inj {m n : Nat} (hm : m < 16) (hn : n < 16) (h : hexByte m = hexByte n) : m = n := by
  have hall : ∀ a b : Fin 16, hexByte a = hexByte b → a = b := by decide
  exact Fin.mk.inj (hall ⟨m, hm⟩ ⟨n, hn⟩ h)

theorem hexBytes_inj {bs cs : List UInt8}
    (h : (bs.flatMap fun b => hexByte (b.toNat / 16) :: [hexByte (b.toNat % 16)]) =
      cs.flatMap fun b => hexByte (b.toNat / 16) :: [hexByte (b.toNat % 16)]) : bs = cs := by
  induction bs generalizing cs with
  | nil =>
    cases cs with
    | nil => rfl
    | cons c cs => simp at h
  | cons b bs ih =>
    cases cs with
    | nil => simp at h
    | cons c cs =>
      simp only [List.flatMap_cons, List.cons_append, List.nil_append, List.cons.injEq] at h
      have hb := b.toNat_lt
      have hc := c.toNat_lt
      have hhigh := hexByte_inj (by omega) (by omega) h.1
      have hlow := hexByte_inj (by omega) (by omega) h.2.1
      rw [UInt8.toNat_inj.mp (by omega : b.toNat = c.toNat), ih h.2.2]

theorem lowerHex_inj {s t : String} (h : lowerHex s = lowerHex t) : s = t := by
  have hbytes := congrArg utf8Bytes h
  rw [utf8Bytes_lowerHex, utf8Bytes_lowerHex] at hbytes
  exact utf8Bytes_inj.mp (hexBytes_inj hbytes)

/-- 鍵の長さの上限（`MAX_DELIVERY_INTENT_KEY_BYTES`）。 -/
def maxDeliveryIntentKeyBytes : Nat := 70 + maxDeliveryIntentRunIdBytes * 2

theorem deliveryIntentKey_accepted {runId identityDigest key : String}
    (h : deliveryIntentKey runId identityDigest = .ok key) :
    runId ≠ "" ∧ byteLen runId ≤ maxDeliveryIntentRunIdBytes ∧ isLowercaseSha256 identityDigest = true ∧
      key = deliveryIntentKeyText runId identityDigest := by
  have hkey := deliveryIntentKey_ok h
  unfold deliveryIntentKey at h
  by_cases hrun : runId = "" ∨ byteLen runId > maxDeliveryIntentRunIdBytes
  · rw [if_pos hrun] at h
    cases h
  rw [if_neg hrun] at h
  cases hdigest : isLowercaseSha256 identityDigest with
  | false =>
    rw [hdigest] at h
    cases h
  | true =>
    rw [not_or, Nat.not_lt] at hrun
    exact ⟨hrun.1, hrun.2, rfl, hkey⟩

theorem deliveryIntentKeyText_inj {r d r' d' : String} (hd : isLowercaseSha256 d = true)
    (hd' : isLowercaseSha256 d' = true) (h : deliveryIntentKeyText r d = deliveryIntentKeyText r' d') :
    r = r' ∧ d = d' := by
  have hbytes := congrArg utf8Bytes h
  simp only [deliveryIntentKeyText, utf8Bytes_append] at hbytes
  have hhead := List.append_cancel_right hbytes
  have hlength : (utf8Bytes d).length = (utf8Bytes d').length := by
    rw [length_utf8Bytes, length_utf8Bytes, (isPlain_of_sha256 hd).2, (isPlain_of_sha256 hd').2]
  obtain ⟨hrun, hdigest⟩ := List.append_inj' hhead hlength
  have hhex := List.append_cancel_left (List.append_cancel_right hrun)
  exact ⟨lowerHex_inj (utf8Bytes_inj.mp hhex), utf8Bytes_inj.mp hdigest⟩

/-- 配信の意図の鍵は受け付けた組を決め、上限を超えない。要約される列は、領域と値の列を決める。 -/
theorem keys_and_frames_unambiguous :
    (∀ runId identityDigest key, deliveryIntentKey runId identityDigest = .ok key →
      byteLen key ≤ maxDeliveryIntentKeyBytes ∧
      ∀ runId' identityDigest', deliveryIntentKey runId' identityDigest' = .ok key →
        runId = runId' ∧ identityDigest = identityDigest') ∧
    (∀ domain domain' values values', framedPreimage domain values = framedPreimage domain' values' →
      domain = domain' ∧ values = values') ∧
    (∀ parts parts', identityPreimage parts = identityPreimage parts' → parts = parts') := by
  refine ⟨fun runId identityDigest key h => ?_, fun domain domain' values values' h => ?_, fun parts parts' h => ?_⟩
  · obtain ⟨-, hbound, hdigest, rfl⟩ := deliveryIntentKey_accepted h
    refine ⟨?_, fun runId' identityDigest' h' => ?_⟩
    · have hlen := @byteLen_deliveryIntentKeyText runId _ hdigest
      simp only [maxDeliveryIntentKeyBytes]
      omega
    · obtain ⟨-, -, hdigest', hsame⟩ := deliveryIntentKey_accepted h'
      exact deliveryIntentKeyText_inj hdigest hdigest' hsame
  · have hlist := flatMap_lengthFramed_inj h
    rw [List.cons.injEq] at hlist
    exact ⟨Str.asBytes_inj hlist.1, hlist.2⟩
  · rw [identityPreimage_eq, identityPreimage_eq] at h
    exact List.map_injective_iff.mpr (fun _ _ => Str.asBytes_inj) (flatMap_lengthFramed_inj h)

/-- コロンと ASCII でない字を含む実行の識別子。 -/
theorem keys_and_frames_unambiguous_sample :
    let key := deliveryIntentKeyText "scheduled:作业:110" (String.ofList (List.replicate 64 '1'))
    byteLen key ≤ maxDeliveryIntentKeyBytes ∧
      ∀ runId' identityDigest', deliveryIntentKey runId' identityDigest' = .ok key →
        "scheduled:作业:110" = runId' ∧ String.ofList (List.replicate 64 '1') = identityDigest' :=
  keys_and_frames_unambiguous.1 _ _ _ (by decide +kernel)

end Codeoff.State
