import Codeoff.Json.Lemmas.Object

/-!
# 文面の長さ

値の文面のバイト数。
-/

namespace Codeoff.Json

variable {v : Value} {ms : List (String × Value)} {s : String} {n : Nat}

def textBytes (cs : List Char) : Nat := (cs.map Char.utf8Size).sum

@[simp] theorem textBytes_nil : textBytes [] = 0 := rfl

@[simp] theorem textBytes_cons (c : Char) (cs : List Char) : textBytes (c :: cs) = c.utf8Size + textBytes cs := by
  simp [textBytes]

@[simp] theorem textBytes_append (cs ds : List Char) : textBytes (cs ++ ds) = textBytes cs + textBytes ds := by
  simp [textBytes]

theorem utf8ByteSize_ofList (cs : List Char) : (String.ofList cs).utf8ByteSize = textBytes cs := by
  induction cs with
  | nil => rfl
  | cons c cs ih =>
    rw [textBytes_cons, ← ih, String.ofList_cons]
    simp

theorem utf8ByteSize_toList (s : String) : s.utf8ByteSize = textBytes s.toList := by
  rw [← utf8ByteSize_ofList, String.ofList_toList]

theorem render_utf8ByteSize (v : Value) : v.render.utf8ByteSize = textBytes v.chars := utf8ByteSize_ofList v.chars

theorem hexDigit_utf8Size (h : n < 16) : (hexDigit n).utf8Size = 1 := by
  have hall : ∀ m : Fin 16, (hexDigit m).utf8Size = 1 := by decide
  exact hall ⟨n, h⟩

/-- 一つの字の書き方は、元のバイト数の六倍を超えない。 -/
theorem escapeChar_le (c : Char) : textBytes (escapeChar c) ≤ 6 * c.utf8Size := by
  have hpos := c.utf8Size_pos
  have hshort : ∀ cs : List Char, textBytes cs ≤ 6 → textBytes cs ≤ 6 * c.utf8Size := fun cs h => by omega
  unfold escapeChar
  split_ifs with _ _ _ _ _ _ _ hcontrol
  · exact hshort _ (by decide)
  · exact hshort _ (by decide)
  · exact hshort _ (by decide)
  · exact hshort _ (by decide)
  · exact hshort _ (by decide)
  · exact hshort _ (by decide)
  · exact hshort _ (by decide)
  · have hhigh := hexDigit_utf8Size (n := c.toNat / 16) (by omega)
    have hlow := hexDigit_utf8Size (n := c.toNat % 16) (by omega)
    have hlead : textBytes ['\\', 'u', '0', '0'] = 4 := by decide
    refine hshort _ ?_
    simp only [textBytes_cons, textBytes_nil] at hlead ⊢
    omega
  · simp
    omega

theorem stringChars_le (s : String) : textBytes (stringChars s) ≤ 6 * s.utf8ByteSize + 2 := by
  have hescaped : ∀ cs : List Char, textBytes (cs.flatMap escapeChar) ≤ 6 * textBytes cs := by
    intro cs
    induction cs with
    | nil => simp
    | cons c cs ih =>
      have hc := escapeChar_le c
      simp only [List.flatMap_cons, textBytes_append, textBytes_cons]
      omega
  have hs := hescaped s.toList
  rw [← utf8ByteSize_toList] at hs
  simp only [stringChars, textBytes_cons, textBytes_append, textBytes_nil]
  simp [Char.utf8Size]
  omega

theorem digits_le (h : n < 10 ^ 20) : textBytes (Value.int n).chars ≤ 20 := by
  have hlength : (Nat.toDigits 10 n).length ≤ 20 := (Nat.length_toDigits_le_iff (by decide) (by decide)).mpr h
  have hsize : (Nat.toDigits 10 n).map Char.utf8Size = (Nat.toDigits 10 n).map fun _ => 1 := by
    refine List.map_congr_left fun c hc => ?_
    have hdigit := Nat.isDigit_of_mem_toDigits (by decide) (by decide) hc
    simp only [Char.isDigit, ge_iff_le, Bool.and_eq_true, decide_eq_true_eq] at hdigit
    rw [Char.utf8Size_eq_one_iff]
    exact UInt32.le_trans hdigit.2 (by decide)
  have hchars : (Value.int n).chars = Nat.toDigits 10 n := by simp [Value.chars, intChars]
  rw [hchars, textBytes, hsize]
  simpa using hlength

def memberBytes (m : String × Value) : Nat := textBytes (stringChars m.1) + textBytes m.2.chars + 2

theorem insertMember_bytes_le (k : String) (v : Value) (ms : List (String × Value)) :
    ((insertMember k v ms).map memberBytes).sum ≤ (ms.map memberBytes).sum + memberBytes (k, v) := by
  induction ms with
  | nil => simp [insertMember]
  | cons m ms ih =>
    obtain ⟨k', v'⟩ := m
    unfold insertMember
    split_ifs with hlt heq
    · simp
      omega
    · simp
      omega
    · simp only [List.map_cons, List.sum_cons]
      omega

theorem members_bytes (ms : List (String × Value)) : textBytes (memberChars ms) = (ms.map memberBytes).sum + 1 := by
  induction ms with
  | nil => simp [memberChars, Char.utf8Size]
  | cons m ms ih =>
    obtain ⟨k, v⟩ := m
    simp only [memberChars, textBytes_cons, textBytes_append, ih, List.map_cons, List.sum_cons, memberBytes]
    simp [Char.utf8Size]
    omega

theorem obj_bytes_le (ms : List (String × Value)) : textBytes (Value.obj ms).chars ≤ (ms.map memberBytes).sum + 2 := by
  cases ms with
  | nil => simp [Value.chars, Char.utf8Size]
  | cons m ms =>
    obtain ⟨k, v⟩ := m
    simp only [Value.chars, textBytes_cons, textBytes_append, members_bytes, List.map_cons, List.sum_cons, memberBytes]
    simp [Char.utf8Size]
    omega

theorem object_bytes_le (ms : List (String × Value)) :
    textBytes (Value.object ms).chars ≤ (ms.map memberBytes).sum + 2 := by
  have hfold : ∀ acc : List (String × Value),
      ((ms.foldl (fun acc m => insertMember m.1 m.2 acc) acc).map memberBytes).sum ≤
        (acc.map memberBytes).sum + (ms.map memberBytes).sum := by
    induction ms with
    | nil => simp
    | cons m ms ih =>
      intro acc
      have hins : _ ≤ _ + memberBytes m := insertMember_bytes_le m.1 m.2 acc
      have htail := ih (insertMember m.1 m.2 acc)
      simp only [List.foldl_cons, List.map_cons, List.sum_cons]
      omega
  have hobj := obj_bytes_le (ms.foldl (fun acc m => insertMember m.1 m.2 acc) [])
  have hms := hfold []
  simp only [List.map_nil, List.sum_nil, Nat.zero_add] at hms
  unfold Value.object
  omega

/-- 欄ごとの上限から、全体の上限を得る。 -/
theorem object_bytes_of {keys : Nat} {bounds : List Nat}
    (hkeys : ((ms.map Prod.fst).map fun k => textBytes (stringChars k)).sum = keys)
    (hvalues : List.Forall₂ (fun m bound => textBytes m.2.chars ≤ bound) ms bounds) :
    textBytes (Value.object ms).chars ≤ keys + bounds.sum + 2 * ms.length + 2 := by
  have hmembers : (ms.map memberBytes).sum ≤
      ((ms.map Prod.fst).map fun k => textBytes (stringChars k)).sum + bounds.sum + 2 * ms.length := by
    clear hkeys
    induction hvalues with
    | nil => simp
    | cons hm _ ih =>
      simp only [List.map_cons, List.sum_cons, List.length_cons, memberBytes]
      omega
  have hobject := object_bytes_le ms
  omega

end Codeoff.Json
