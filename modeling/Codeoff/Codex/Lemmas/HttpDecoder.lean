import Mathlib.Data.List.Infix
import Codeoff.Codex.HttpDecoder
import Codeoff.Relational.Transaction
import Codeoff.State.Lemmas.Text

/-!
# HTTP の答えの読み取りの補題

切片の範囲を外れないこと、数と塊の文法、塊に分けた本文の読み書き、行の区切りを示す。
-/

namespace Codeoff.Codex

open Codeoff.Core Codeoff.Relational Codeoff.State

variable {bytes encoded rest line decoded body : List UInt8} {code message : String} {n i : Nat}

/-! ## 範囲 -/

def Faultless {α : Type} (x : Except HttpFault α) : Prop := ∀ e, x = .error e → ∃ message, e = .rejected message

theorem Faultless.ok {α : Type} (a : α) : Faultless (.ok a) := by
  intro e h
  cases h

theorem Faultless.bind {α β : Type} {x : Except HttpFault α} {f : α → Except HttpFault β} (hx : Faultless x)
    (hf : ∀ a, x = .ok a → Faultless (f a)) : Faultless (x >>= f) := by
  cases x with
  | ok a => exact hf a rfl
  | error e => exact fun e' h => hx e' (by cases h; rfl)

theorem Faultless.rejectHttp {α : Type} (code : String) : Faultless (rejectHttp (α := α) code) := by
  intro e h
  cases h
  exact ⟨_, rfl⟩

theorem Faultless.orRejected {α : Type} (o : Option α) (code : String) : Faultless (orRejected o code) := by
  cases o with
  | none => exact .rejectHttp code
  | some a => exact .ok a

theorem Faultless.rejectWhen (p : Prop) [Decidable p] (code : String) : Faultless (rejectWhen p code) := by
  unfold Codex.rejectWhen
  split
  · exact .rejectHttp code
  · exact .ok ()

theorem Faultless.sliceFrom (h : n ≤ bytes.length) : Faultless (sliceFrom bytes n) := by
  rw [Codex.sliceFrom, if_pos h]
  exact .ok _

theorem Faultless.sliceTo (h : n ≤ bytes.length) : Faultless (sliceTo bytes n) := by
  rw [Codex.sliceTo, if_pos h]
  exact .ok _

theorem Faultless.slice (h : i ≤ n ∧ n ≤ bytes.length) : Faultless (slice bytes i n) := by
  rw [Codex.slice, if_pos h]
  exact .ok _

theorem orRejected_ok {α : Type} {o : Option α} {a : α} : orRejected o code = .ok a ↔ o = some a := by
  cases o <;> simp [orRejected, rejectHttp]

theorem rejectWhen_ok {p : Prop} [Decidable p] {u : Unit} : rejectWhen p code = .ok u ↔ ¬p := by
  by_cases hp : p <;> simp [rejectWhen, rejectHttp, hp]

theorem sliceFrom_ok : sliceFrom bytes n = .ok rest ↔ n ≤ bytes.length ∧ bytes.drop n = rest := by
  by_cases hn : n ≤ bytes.length <;> simp [sliceFrom, hn]

theorem sliceTo_ok : sliceTo bytes n = .ok rest ↔ n ≤ bytes.length ∧ bytes.take n = rest := by
  by_cases hn : n ≤ bytes.length <;> simp [sliceTo, hn]

theorem slice_ok : slice bytes i n = .ok rest ↔ (i ≤ n ∧ n ≤ bytes.length) ∧ (bytes.drop i).take (n - i) = rest := by
  by_cases hn : i ≤ n ∧ n ≤ bytes.length <;> simp [slice, hn]

theorem position_some {window : List UInt8} (h : position window bytes = some i) :
    window <+: bytes.drop i ∧ i + window.length ≤ bytes.length := by
  induction bytes generalizing i with
  | nil =>
    unfold position at h
    split at h
    · rename_i hwindow
      cases h
      simp [hwindow]
    · cases h
  | cons b bytes ih =>
    unfold position at h
    split at h
    · rename_i hhead
      cases h
      rw [List.isPrefixOf_iff_prefix] at hhead
      exact ⟨hhead, by simpa using hhead.length_le⟩
    · obtain ⟨j, hj, rfl⟩ := Option.map_eq_some_iff.mp h
      obtain ⟨hhead, hlength⟩ := ih hj
      exact ⟨hhead, by rw [List.length_cons]; omega⟩

/-- 残りの長さを超える燃料があれば、塊の読み取りは必ず答えを出す。 -/
theorem decodeChunkedFrom_faultless (fuel : Nat) (encoded decoded : List UInt8) (hfuel : encoded.length < fuel) :
    Faultless (decodeChunkedFrom fuel encoded decoded) := by
  induction fuel generalizing encoded decoded with
  | zero => omega
  | succ fuel ih =>
    refine .bind (.orRejected _ _) fun lineEnd hlineEnd => ?_
    obtain ⟨-, hfits⟩ := position_some (orRejected_ok.mp hlineEnd)
    have hcrlf : crlf.length = 2 := rfl
    refine .bind (.sliceTo (by omega)) fun line _ => .bind (.orRejected _ _) fun size _ => ?_
    refine .bind (.sliceFrom (by omega)) fun tail htail => ?_
    have htail := (sliceFrom_ok.mp htail).2
    have hlength : tail.length = encoded.length - (lineEnd + 2) := by rw [← htail, List.length_drop]
    split
    · exact .bind (.rejectWhen _ _) fun _ _ => .ok _
    · refine .bind (.rejectWhen _ _) fun _ hsize => ?_
      have hsize := rejectWhen_ok.mp hsize
      refine .bind (.slice (by omega)) fun separator _ => .bind (.rejectWhen _ _) fun _ _ => ?_
      refine .bind (.sliceTo (by omega)) fun chunk _ => .bind (.sliceFrom (by omega)) fun next hnext => ?_
      have hnext := (sliceFrom_ok.mp hnext).2
      exact ih _ _ (by rw [← hnext, List.length_drop]; omega)

theorem decodeChunked_faultless (encoded : List UInt8) : Faultless (decodeChunked encoded) :=
  decodeChunkedFrom_faultless _ _ _ (by omega)

theorem header_faultless (headers : List (String × String)) (expected : String) : Faultless (header headers expected) := by
  unfold header
  split
  · exact .ok _
  · exact .ok _
  · exact .rejectHttp _

theorem readBody_faultless (headers : List (String × String)) (rest : List UInt8) : Faultless (readBody headers rest) := by
  refine .bind (header_faultless _ _) fun transferEncoding _ => .bind (header_faultless _ _) fun contentLength _ => ?_
  refine .bind (.rejectWhen _ _) fun _ _ => ?_
  cases transferEncoding with
  | some encoding => exact .bind (.rejectWhen _ _) fun _ _ => decodeChunked_faultless rest
  | none =>
    cases contentLength with
    | some length => exact .bind (.orRejected _ _) fun _ _ => .bind (.rejectWhen _ _) fun _ _ => .ok _
    | none => exact .ok _

/-- どの列を読んでも、添字は範囲を出ない。 -/
theorem parseHttpResponse_faultless (encoded : List UInt8) : Faultless (parseHttpResponse encoded) := by
  refine .bind (.rejectWhen _ _) fun _ _ => .bind (.orRejected _ _) fun headerEnd hend => ?_
  obtain ⟨i, hi, rfl⟩ := Option.map_eq_some_iff.mp (orRejected_ok.mp hend)
  obtain ⟨-, hfits⟩ := position_some hi
  have hblank : (crlf ++ crlf).length = 4 := rfl
  refine .bind (.sliceTo (by omega)) fun head _ => .bind (.orRejected _ _) fun text _ => ?_
  refine .bind (.orRejected _ _) fun status _ => .bind (.orRejected _ _) fun headers _ => ?_
  refine .bind (.sliceFrom (by omega)) fun rest _ => .bind (readBody_faultless _ _) fun body _ => ?_
  exact .bind (header_faultless _ _) fun _ _ => .bind (header_faultless _ _) fun _ _ => .ok _

/-- `radix` の数字だけの並びで、値は `n` である。 -/
def Numeral (radix : Nat) (bytes : List UInt8) (n : Nat) : Prop :=
  bytes ≠ [] ∧ (∀ b ∈ bytes, (digitValue radix b).isSome) ∧ radixValue radix 0 bytes = some n

theorem radixValue_digits {radix acc : Nat} (h : radixValue radix acc bytes = some n) :
    ∀ b ∈ bytes, (digitValue radix b).isSome := by
  induction bytes generalizing acc with
  | nil => simp
  | cons b bytes ih =>
    obtain ⟨d, hd, htail⟩ := Option.bind_eq_some_iff.mp h
    simp only [List.forall_mem_cons]
    exact ⟨by rw [hd]; rfl, ih htail⟩

theorem radixValue_append {radix acc : Nat} (xs ys : List UInt8) :
    radixValue radix acc (xs ++ ys) = (radixValue radix acc xs).bind fun acc => radixValue radix acc ys := by
  induction xs generalizing acc with
  | nil => simp [radixValue]
  | cons x xs ih => cases hx : digitValue radix x <;> simp [radixValue, hx, ih]

theorem digitValue_plus (radix : Nat) : digitValue radix 43 = none := by
  have h : (if (48 : UInt8) ≤ 43 ∧ (43 : UInt8) ≤ 57 then some ((43 : UInt8).toNat - 48)
      else if (97 : UInt8) ≤ 43 ∧ (43 : UInt8) ≤ 122 then some ((43 : UInt8).toNat - 87)
      else if (65 : UInt8) ≤ 43 ∧ (43 : UInt8) ≤ 90 then some ((43 : UInt8).toNat - 55) else none) = none := by decide
  simp only [digitValue, h, Option.filter_none]

theorem Numeral.no_plus {radix : Nat} (h : Numeral radix bytes n) : bytes.head? ≠ some 43 := by
  intro hhead
  have hmem := h.2.1 43 (List.mem_of_mem_head? hhead)
  simp [digitValue_plus] at hmem

theorem Numeral.parse {radix : Nat} (h : Numeral radix bytes n) (hmax : n ≤ usizeMax) :
    parseUnsigned radix bytes = some n := by
  simp only [Codex.parseUnsigned, if_neg h.no_plus, if_neg h.1, h.2.2]
  simp [hmax]

theorem numeral_iff {radix : Nat} (h : parseUnsigned radix bytes = some n) :
    Numeral radix bytes n ↔ bytes.head? ≠ some 43 := by
  refine ⟨Numeral.no_plus, fun hplus => ?_⟩
  unfold Codex.parseUnsigned at h
  simp only [if_neg hplus] at h
  by_cases hnil : bytes = []
  · simp [hnil] at h
  · rw [if_neg hnil, Option.filter_eq_some_iff] at h
    exact ⟨hnil, radixValue_digits h.1, h.1⟩

theorem Numeral.unique {radix m : Nat} (hm : Numeral radix bytes m) (hn : parseUnsigned radix bytes = some n) : m = n := by
  have hvalue := ((numeral_iff hn).mpr hm.no_plus).2.2
  rw [hm.2.2] at hvalue
  exact Option.some.inj hvalue

@[simp] theorem length_crlf : crlf.length = 2 := rfl

theorem crlf_prefix_cons {b : UInt8} : crlf <+: b :: bytes ↔ b = 13 ∧ bytes.head? = some 10 := by
  cases bytes with
  | nil => simp [crlf]
  | cons c bytes => simp [crlf, eq_comm]

theorem crlf_infix_cons {b : UInt8} : crlf <:+: b :: bytes ↔ (b = 13 ∧ bytes.head? = some 10) ∨ crlf <:+: bytes := by
  rw [List.infix_cons_iff, crlf_prefix_cons]

/-- 最初の改行の位置は、改行を含まない行の長さである。 -/
theorem position_crlf_iff : position crlf bytes = some i ↔
    ∃ line rest, bytes = line ++ (crlf ++ rest) ∧ line.length = i ∧ ¬crlf <:+: line := by
  induction bytes generalizing i with
  | nil => simp [position, crlf]
  | cons b bytes ih =>
    simp only [position, List.isPrefixOf_iff_prefix, crlf_prefix_cons]
    by_cases hfirst : b = 13 ∧ bytes.head? = some 10
    · rw [if_pos hfirst]
      constructor
      · rintro ⟨⟩
        obtain ⟨tail, htail⟩ := List.head?_eq_some_iff.mp hfirst.2
        exact ⟨[], tail, by rw [hfirst.1, htail]; rfl, rfl, by simp [crlf]⟩
      · rintro ⟨line, rest, hsplit, rfl, hline⟩
        cases line with
        | nil => rfl
        | cons c line =>
          obtain ⟨rfl, rfl⟩ := List.cons_eq_cons.mp hsplit
          refine absurd (crlf_infix_cons.mpr (.inl ⟨hfirst.1, ?_⟩)) hline
          cases line with
          | nil => simp [crlf] at hfirst
          | cons d line => exact hfirst.2
    · rw [if_neg hfirst, Option.map_eq_some_iff]
      constructor
      · rintro ⟨j, hj, rfl⟩
        obtain ⟨line, rest, rfl, rfl, hline⟩ := ih.mp hj
        refine ⟨b :: line, rest, rfl, rfl, ?_⟩
        rw [crlf_infix_cons]
        rintro (⟨hb, hhead⟩ | hmore)
        · exact hfirst ⟨hb, by simp [hhead]⟩
        · exact hline hmore
      · rintro ⟨line, rest, hsplit, rfl, hline⟩
        cases line with
        | nil =>
          obtain ⟨rfl, rfl⟩ := List.cons_eq_cons.mp hsplit
          exact absurd ⟨rfl, rfl⟩ hfirst
        | cons c line =>
          obtain ⟨rfl, rfl⟩ := List.cons_eq_cons.mp hsplit
          exact ⟨line.length, ih.mpr ⟨line, rest, rfl, rfl, fun h => hline (crlf_infix_cons.mpr (.inr h))⟩, rfl⟩

/-- 改行を含まない行とその後の改行への分け方は一つである。 -/
theorem line_unique {line' rest' : List UInt8} (hline : ¬crlf <:+: line) (hline' : ¬crlf <:+: line')
    (h : line ++ (crlf ++ rest) = line' ++ (crlf ++ rest')) : line = line' ∧ rest = rest' := by
  have hp : position crlf (line ++ (crlf ++ rest)) = some line.length := position_crlf_iff.mpr ⟨line, rest, rfl, rfl, hline⟩
  have hp' : position crlf (line' ++ (crlf ++ rest')) = some line'.length :=
    position_crlf_iff.mpr ⟨line', rest', rfl, rfl, hline'⟩
  rw [h, hp'] at hp
  obtain ⟨rfl, htail⟩ := List.append_inj h (Option.some.inj hp).symm
  exact ⟨rfl, List.append_cancel_left htail⟩

/-! ## 塊の文法 -/

/-- 塊に分けた本文。`lines` は塊の大きさの行の並びで、行の示す大きさは `size` による。 -/
inductive Framed (size : List UInt8 → Nat → Prop) : List (List UInt8) → List UInt8 → List UInt8 → Prop
  | last {line : List UInt8} : ¬crlf <:+: line → size line 0 → Framed size [line] (line ++ (crlf ++ crlf)) []
  | chunk {line data rest body : List UInt8} {lines : List (List UInt8)} : ¬crlf <:+: line → data ≠ [] →
      size line data.length → Framed size lines rest body →
      Framed size (line :: lines) (line ++ (crlf ++ (data ++ (crlf ++ rest)))) (data ++ body)

variable {size size' : List UInt8 → Nat → Prop} {lines lines' : List (List UInt8)} {body' : List UInt8}

theorem Framed.imp (h : Framed size lines bytes body) (himp : ∀ line ∈ lines, ∀ n, size line n → size' line n) :
    Framed size' lines bytes body := by
  induction h with
  | last hline hsize => exact .last hline (himp _ List.mem_cons_self _ hsize)
  | chunk hline hdata hsize _ ih =>
    exact .chunk hline hdata (himp _ List.mem_cons_self _ hsize)
      (ih fun line hmem => himp line (List.mem_cons_of_mem _ hmem))

theorem Framed.sizes (h : Framed size lines bytes body) : ∀ line ∈ lines, ∃ n, size line n := by
  induction h with
  | last _ hsize => simpa using ⟨_, hsize⟩
  | chunk _ _ hsize _ ih => simpa using ⟨⟨_, hsize⟩, ih⟩

/-- 塊の並びは、大きさの読み方が一致するかぎり、列から一つに決まる。 -/
theorem Framed.unique (h : Framed size lines bytes body) (h' : Framed size' lines' bytes body')
    (hagree : ∀ line m n, size line m → size' line n → m = n) : lines = lines' ∧ body = body' := by
  induction h generalizing lines' body' with
  | @last line hline hsize =>
    generalize hbytes : line ++ (crlf ++ crlf) = bytes at h'
    cases h' with
    | last hline' _ => exact ⟨by rw [(line_unique hline hline' hbytes).1], rfl⟩
    | chunk hline' hdata hsize' _ =>
      obtain ⟨rfl, -⟩ := line_unique hline hline' hbytes
      exact absurd (List.length_eq_zero_iff.mp (hagree _ _ _ hsize hsize').symm) hdata
  | @chunk line data rest body lines hline hdata hsize _ ih =>
    generalize hbytes : line ++ (crlf ++ (data ++ (crlf ++ rest))) = bytes at h'
    cases h' with
    | last hline' hsize' =>
      obtain ⟨rfl, -⟩ := line_unique hline hline' hbytes
      exact absurd (List.length_eq_zero_iff.mp (hagree _ _ _ hsize hsize')) hdata
    | chunk hline' _ hsize' htail =>
      obtain ⟨rfl, hrest⟩ := line_unique hline hline' hbytes
      obtain ⟨rfl, hnext⟩ := List.append_inj hrest (hagree _ _ _ hsize hsize')
      obtain rfl := List.append_cancel_left hnext
      obtain ⟨hlines, hbody⟩ := ih htail
      exact ⟨by rw [hlines], by rw [hbody]⟩

def ReadSize (line : List UInt8) (n : Nat) : Prop := chunkSize line = some n

/-- 一段は、行を一つ読み、長さが零なら終わり、さもなければ塊を一つ取って続ける。 -/
theorem decodeChunkedFrom_succ {fuel : Nat} : decodeChunkedFrom (fuel + 1) encoded decoded = .ok bytes ↔
    ∃ line rest, encoded = line ++ (crlf ++ rest) ∧ ¬crlf <:+: line ∧
      ((ReadSize line 0 ∧ rest = crlf ∧ decoded = bytes) ∨
        ∃ data tail, data ≠ [] ∧ ReadSize line data.length ∧ rest = data ++ (crlf ++ tail) ∧
          decoded.length + data.length ≤ maxHttpMessageBytes ∧ decodeChunkedFrom fuel tail (decoded ++ data) = .ok bytes) := by
  simp only [decodeChunkedFrom, except_bind_ok, orRejected_ok, sliceTo_ok, sliceFrom_ok]
  constructor
  · rintro ⟨lineEnd, hend, line, ⟨-, hline⟩, size, hsize, rest, ⟨-, hrest⟩, h⟩
    obtain ⟨line', rest', rfl, rfl, hnone⟩ := position_crlf_iff.mp hend
    rw [List.take_left] at hline
    rw [← List.append_assoc, List.drop_left' (by simp [crlf])] at hrest
    subst hline hrest
    refine ⟨line', rest', rfl, hnone, ?_⟩
    by_cases hzero : size = 0
    · simp only [if_pos hzero, except_bind_ok, rejectWhen_ok, not_not] at h
      obtain ⟨-, hlast, hout⟩ := h
      exact .inl ⟨hzero ▸ hsize, hlast, Except.ok.inj hout⟩
    · simp only [if_neg hzero, except_bind_ok, rejectWhen_ok, not_or, not_not, slice_ok, sliceTo_ok, sliceFrom_ok] at h
      obtain ⟨-, hroom, separator, ⟨hfits, hslice⟩, -, ⟨hcrlf, hmax⟩, data, ⟨-, hdata⟩, tail, ⟨-, htail⟩, h⟩ := h
      have hlength : data.length = size := by rw [← hdata, List.length_take]; omega
      refine .inr ⟨data, tail, ?_, hlength ▸ hsize, ?_, by omega, h⟩
      · rintro rfl
        exact hzero hlength.symm
      · have hsplit := List.take_append_drop size rest'
        rw [hdata, ← List.take_append_drop 2 (rest'.drop size), List.drop_drop, htail] at hsplit
        rw [show size + 2 - size = 2 by omega, hcrlf] at hslice
        rw [← hsplit, hslice]
  · rintro ⟨line, rest, rfl, hline, h⟩
    refine ⟨line.length, position_crlf_iff.mpr ⟨line, rest, rfl, rfl, hline⟩, line, ⟨by simp, by simp⟩, ?_⟩
    rcases h with ⟨hsize, rfl, rfl⟩ | ⟨data, tail, hdata, hsize, rfl, hmax, h⟩
    · refine ⟨0, hsize, crlf, ⟨by simp [crlf], by simp [crlf]⟩, ?_⟩
      simp [rejectWhen]
    · refine ⟨data.length, hsize, data ++ (crlf ++ tail), ⟨by simp [crlf], by simp [crlf]⟩, ?_⟩
      simp only [if_neg (mt List.length_eq_zero_iff.mp hdata), except_bind_ok, rejectWhen_ok, not_or, not_not, slice_ok,
        sliceTo_ok, sliceFrom_ok]
      have hlength : (data ++ (crlf ++ tail)).length = data.length + (2 + tail.length) := by simp
      refine ⟨(), by omega, crlf, ⟨by omega, ?_⟩, (), ⟨rfl, by omega⟩, data, ⟨by omega, List.take_left⟩, tail,
        ⟨by omega, ?_⟩, h⟩
      · rw [List.drop_left, Nat.add_sub_cancel_left]
        rfl
      · rw [← List.append_assoc, List.drop_left' (by simp [crlf])]

/-- 読み取りが成功するのは、列が塊の並びで、本文が上限に収まるときに限る。燃料についての帰納法による。 -/
theorem decodeChunkedFrom_ok_iff {fuel : Nat} (hfuel : encoded.length < fuel) (hroom : decoded.length ≤ maxHttpMessageBytes) :
    decodeChunkedFrom fuel encoded decoded = .ok bytes ↔
      ∃ lines body, Framed ReadSize lines encoded body ∧ decoded ++ body = bytes ∧ bytes.length ≤ maxHttpMessageBytes := by
  induction fuel generalizing encoded decoded with
  | zero => omega
  | succ fuel ih =>
    rw [decodeChunkedFrom_succ]
    constructor
    · rintro ⟨line, rest, rfl, hline, ⟨hsize, rfl, rfl⟩ | ⟨data, tail, hdata, hsize, rfl, hmax, h⟩⟩
      · exact ⟨[line], [], .last hline hsize, List.append_nil _, hroom⟩
      · have hshort : tail.length < fuel := by simp only [List.length_append, length_crlf] at hfuel; omega
        obtain ⟨lines, body, hframed, hbytes, hlength⟩ := (ih hshort (by simpa using hmax)).mp h
        exact ⟨line :: lines, data ++ body, .chunk hline hdata hsize hframed, by rw [← hbytes, List.append_assoc], hlength⟩
    · rintro ⟨lines, body, hframed, hbytes, hlength⟩
      cases hframed with
      | @last line hline hsize =>
        exact ⟨line, crlf, rfl, hline, .inl ⟨hsize, rfl, by rw [← hbytes, List.append_nil]⟩⟩
      | @chunk line data rest body lines hline hdata hsize hframed =>
        have hmax : decoded.length + data.length ≤ maxHttpMessageBytes := by
          rw [← hbytes] at hlength
          simp only [List.length_append] at hlength
          omega
        have hshort : rest.length < fuel := by simp only [List.length_append, length_crlf] at hfuel; omega
        have htail := (ih hshort (by simpa using hmax : (decoded ++ data).length ≤ maxHttpMessageBytes)).mpr
          ⟨lines, body, hframed, by rw [← hbytes, List.append_assoc], hlength⟩
        exact ⟨line, _, rfl, hline, .inr ⟨data, rest, hdata, hsize, rfl, hmax, htail⟩⟩

theorem decodeChunked_ok_iff : decodeChunked encoded = .ok bytes ↔
    ∃ lines, Framed ReadSize lines encoded bytes ∧ bytes.length ≤ maxHttpMessageBytes := by
  rw [decodeChunked, decodeChunkedFrom_ok_iff (by omega) (by simp)]
  simp

def hexDigits (n : Nat) : List UInt8 := (Nat.toDigits 16 n).map fun c => UInt8.ofNat c.toNat

def chunkedEncoding : List (List UInt8) → List UInt8
  | [] => hexDigits 0 ++ (crlf ++ crlf)
  | chunk :: chunks => hexDigits chunk.length ++ (crlf ++ (chunk ++ (crlf ++ chunkedEncoding chunks)))

theorem radixValue_hexDigits (n : Nat) : radixValue 16 0 (hexDigits n) = some n := by
  have hdigit : ∀ d : Fin 16, digitValue 16 (UInt8.ofNat d.val.digitChar.toNat) = some d.val := by decide
  induction n using Nat.strong_induction_on with
  | _ n ih =>
    by_cases hlt : n < 16
    · have hd := hdigit ⟨n, hlt⟩
      simp only [hexDigits, Nat.toDigits_of_lt_base hlt, List.map_cons, List.map_nil, radixValue, hd]
      simp
    · have hd := hdigit ⟨n % 16, by omega⟩
      have hprevious := ih (n / 16) (by omega)
      rw [hexDigits] at hprevious
      rw [hexDigits, Nat.toDigits_of_base_le (by omega) (by omega), List.map_append, radixValue_append, hprevious]
      simp only [List.map_cons, List.map_nil, radixValue, hd, Option.bind_some]
      congr 1
      omega

theorem hexDigits_numeral (n : Nat) : Numeral 16 (hexDigits n) n := by
  refine ⟨?_, radixValue_digits (radixValue_hexDigits n), radixValue_hexDigits n⟩
  simp [hexDigits, Nat.toDigits_ne_nil]

theorem mem_toDigits {c : Char} (h : c ∈ Nat.toDigits 16 n) :
    String.utf8EncodeChar c = [UInt8.ofNat c.toNat] ∧ UInt8.ofNat c.toNat ≠ 13 ∧ UInt8.ofNat c.toNat ≠ 59 := by
  have hdigit : ∀ d : Fin 16, String.utf8EncodeChar d.val.digitChar = [UInt8.ofNat d.val.digitChar.toNat] ∧
      UInt8.ofNat d.val.digitChar.toNat ≠ 13 ∧ UInt8.ofNat d.val.digitChar.toNat ≠ 59 := by decide
  induction n using Nat.strong_induction_on with
  | _ n ih =>
    by_cases hlt : n < 16
    · rw [Nat.toDigits_of_lt_base hlt, List.mem_singleton] at h
      exact h ▸ hdigit ⟨n, hlt⟩
    · rw [Nat.toDigits_of_base_le (by omega) (by omega), List.mem_append, List.mem_singleton] at h
      rcases h with h | rfl
      · exact ih (n / 16) (by omega) h
      · exact hdigit ⟨n % 16, by omega⟩

theorem utf8_hexDigits (n : Nat) : utf8? (hexDigits n) = some (String.ofList (Nat.toDigits 16 n)) := by
  have hbytes : hexDigits n = utf8Bytes (String.ofList (Nat.toDigits 16 n)) := by
    rw [utf8Bytes_ofList, hexDigits, List.map_eq_flatMap]
    exact List.flatMap_congr fun c hc => (mem_toDigits hc).1.symm
  rw [utf8?, hbytes, fromUTF8_toUTF8]

theorem hexDigits_line (hmax : n ≤ usizeMax) : ¬crlf <:+: hexDigits n ∧ ReadSize (hexDigits n) n := by
  have hplain : ∀ b ∈ hexDigits n, b ≠ 13 ∧ b ≠ 59 := by
    intro b hb
    obtain ⟨c, hc, rfl⟩ := List.mem_map.mp hb
    exact (mem_toDigits hc).2
  have hfield : sizeField (hexDigits n) = hexDigits n :=
    List.takeWhile_eq_self_iff.mpr fun b hb => decide_eq_true (hplain b hb).2
  constructor
  · intro hwithin
    exact (hplain 13 (hwithin.subset (by simp [crlf]))).1 rfl
  · rw [ReadSize, chunkSize, utf8_hexDigits, hfield]
    exact (hexDigits_numeral n).parse hmax

/-- 空でない塊を符号化したものは、塊の並びである。 -/
theorem framed_chunkedEncoding {chunks : List (List UInt8)} (hne : ∀ chunk ∈ chunks, chunk ≠ [])
    (hmax : chunks.flatten.length ≤ maxHttpMessageBytes) :
    ∃ lines, Framed ReadSize lines (chunkedEncoding chunks) chunks.flatten := by
  induction chunks with
  | nil => exact ⟨[hexDigits 0], .last (hexDigits_line (by decide)).1 (hexDigits_line (by decide)).2⟩
  | cons chunk chunks ih =>
    simp only [List.forall_mem_cons] at hne
    simp only [List.flatten_cons, List.length_append] at hmax
    obtain ⟨lines, hframed⟩ := ih hne.2 (by omega)
    have hroom : maxHttpMessageBytes ≤ usizeMax := by decide
    have hline := hexDigits_line (n := chunk.length) (by omega)
    exact ⟨_, .chunk hline.1 hne.1 hline.2 hframed⟩

theorem decodeChunked_chunkedEncoding {chunks : List (List UInt8)} (hne : ∀ chunk ∈ chunks, chunk ≠ [])
    (hmax : chunks.flatten.length ≤ maxHttpMessageBytes) : decodeChunked (chunkedEncoding chunks) = .ok chunks.flatten := by
  obtain ⟨lines, hframed⟩ := framed_chunkedEncoding hne hmax
  exact decodeChunked_ok_iff.mpr ⟨lines, hframed, hmax⟩

end Codeoff.Codex
