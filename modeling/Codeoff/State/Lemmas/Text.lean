import Codeoff.State.Schema
import Mathlib.Data.List.TakeWhile

/-!
# 文字列の長さ

SQLite の `length` は文字を、Rust の `len` はバイトを数える。
-/

namespace Codeoff.State

open Codeoff.Core

variable {s t : String}

theorem utf8Bytes_append (s t : String) : utf8Bytes (s ++ t) = utf8Bytes s ++ utf8Bytes t := by
  simp [utf8Bytes]

theorem utf8Bytes_inj {s t : String} : utf8Bytes s = utf8Bytes t ↔ s = t := by
  constructor
  · intro h
    simp only [utf8Bytes] at h
    exact String.toByteArray_inj.mp (ByteArray.ext (Array.ext' h))
  · rintro rfl
    rfl

theorem utf8Bytes_ofList (cs : List Char) : utf8Bytes (String.ofList cs) = cs.flatMap String.utf8EncodeChar := by
  simp [utf8Bytes, List.utf8Encode]

@[simp] theorem fromUTF8_toUTF8 (text : String) : String.fromUTF8? ⟨(utf8Bytes text).toArray⟩ = some text := by
  have harray : (⟨(utf8Bytes text).toArray⟩ : ByteArray) = text.toUTF8 := by simp [utf8Bytes]
  rw [harray]
  exact dif_pos text.isValidUTF8

theorem byteLen_append (s t : String) : byteLen (s ++ t) = byteLen s + byteLen t := by
  simp [byteLen]

theorem length_utf8Bytes (s : String) : (utf8Bytes s).length = byteLen s := by
  simp [utf8Bytes, byteLen]

theorem byteLen_ofList_le (cs : List Char) : byteLen (String.ofList cs) ≤ 4 * cs.length := by
  rw [← length_utf8Bytes, utf8Bytes_ofList]
  induction cs with
  | nil => simp
  | cons c cs ih =>
    have hc := c.utf8Size_le_four
    rw [List.flatMap_cons, List.length_append, String.length_utf8EncodeChar, List.length_cons]
    omega

theorem sqlLength_append (h : 0 < sqlLength s) : 0 < sqlLength (s ++ t) := by
  unfold sqlLength at h ⊢
  rw [utf8Bytes_append, List.takeWhile_append]
  split
  · rename_i hall
    have hwhole := (List.takeWhile_prefix _).eq_of_length hall
    rw [hwhole] at h
    rw [List.countP_append]
    omega
  · exact h

def IsPlain (s : String) : Prop := ∀ b ∈ utf8Bytes s, b ≠ 0 ∧ b.toNat < 128

/-- 小文字の十六進の文面は、そのまま書ける。 -/
theorem isPlain_of_lowerHexDigits (h : (utf8Bytes s).all isLowerHexDigit = true) : IsPlain s := by
  intro b hb
  have hdigit := List.all_eq_true.mp h b hb
  simp only [isLowerHexDigit, Bool.or_eq_true, Bool.and_eq_true, decide_eq_true_eq,
    UInt8.le_iff_toNat_le] at hdigit
  constructor
  · rintro rfl
    simp at hdigit
  · simp at hdigit
    omega

theorem isPlain_of_sha256 (h : isLowercaseSha256 s = true) : IsPlain s ∧ byteLen s = 64 := by
  simp only [isLowercaseSha256, Bool.and_eq_true, beq_iff_eq] at h
  exact ⟨isPlain_of_lowerHexDigits h.2, h.1⟩

def hexByte (n : Nat) : UInt8 := UInt8.ofNat (if n < 10 then 48 + n else 87 + n)

theorem utf8EncodeChar_hexDigit {n : Nat} (h : n < 16) :
    String.utf8EncodeChar (Json.hexDigit n) = [hexByte n] ∧ isLowerHexDigit (hexByte n) = true := by
  have hall : ∀ m : Fin 16, String.utf8EncodeChar (Json.hexDigit m) = [hexByte m] ∧
      isLowerHexDigit (hexByte m) = true := by decide
  exact hall ⟨n, h⟩

theorem hexBytes_ok (bs : List UInt8) :
    (bs.flatMap fun b => hexByte (b.toNat / 16) :: [hexByte (b.toNat % 16)]).all isLowerHexDigit = true ∧
      (bs.flatMap fun b => hexByte (b.toNat / 16) :: [hexByte (b.toNat % 16)]).length = 2 * bs.length := by
  induction bs with
  | nil => exact ⟨rfl, rfl⟩
  | cons b bs ih =>
    have hb := b.toNat_lt
    have hhigh := (utf8EncodeChar_hexDigit (n := b.toNat / 16) (by omega)).2
    have hlow := (utf8EncodeChar_hexDigit (n := b.toNat % 16) (by omega)).2
    constructor
    · simp only [List.flatMap_cons, List.all_append, List.all_cons, List.all_nil, hhigh, hlow, ih.1,
        Bool.and_true]
    · simp only [List.flatMap_cons, List.length_append, List.length_cons, List.length_nil, ih.2]
      omega

theorem utf8Bytes_hexText (bs : List UInt8) :
    utf8Bytes (String.ofList (bs.flatMap fun b => [Json.hexDigit (b.toNat / 16), Json.hexDigit (b.toNat % 16)])) =
      bs.flatMap fun b => hexByte (b.toNat / 16) :: [hexByte (b.toNat % 16)] := by
  rw [utf8Bytes_ofList, List.flatMap_assoc]
  refine congrArg (List.flatMap · bs) (funext fun b => ?_)
  have hb := b.toNat_lt
  simp [(utf8EncodeChar_hexDigit (n := b.toNat / 16) (by omega)).1,
    (utf8EncodeChar_hexDigit (n := b.toNat % 16) (by omega)).1]

theorem utf8Bytes_lowerHex (s : String) : utf8Bytes (lowerHex s) =
    (utf8Bytes s).flatMap fun b => hexByte (b.toNat / 16) :: [hexByte (b.toNat % 16)] := utf8Bytes_hexText (utf8Bytes s)

theorem byteLen_lowerHex (s : String) : byteLen (lowerHex s) = 2 * byteLen s := by
  rw [← length_utf8Bytes, utf8Bytes_lowerHex, (hexBytes_ok (utf8Bytes s)).2, length_utf8Bytes]

variable {runId targetIdentityDigest : String}

theorem byteLen_deliveryIntentKeyText (h : isLowercaseSha256 targetIdentityDigest = true) :
    byteLen (deliveryIntentKeyText runId targetIdentityDigest) = 70 + 2 * byteLen runId := by
  have hparts : byteLen "v1:" = 3 ∧ byteLen ":" = 1 ∧ byteLen ":1" = 2 := by decide
  rw [deliveryIntentKeyText, byteLen_append, byteLen_append, byteLen_append, byteLen_append, byteLen_lowerHex,
    (isPlain_of_sha256 h).2, hparts.1, hparts.2.1, hparts.2.2]
  omega

end Codeoff.State
