import Mathlib.Data.List.Chain
import Codeoff.Codex.Lemmas.HttpDecoder

/-!
# HTTP の答えの文法

塊に分けた本文は、どう分けても読み戻せ、どのバイト列を読んでも切片の範囲を外れない。
-/

namespace Codeoff.Codex

open Codeoff.Core Codeoff.Relational

variable {bytes encoded head rest line body : List UInt8} {prev : UInt8} {n i : Nat}

/-- どの行も `\r\n` で終わる。 -/
def CrlfLines (bytes : List UInt8) : Prop :=
  ∃ lines : List (List UInt8), bytes = lines.flatMap (· ++ crlf) ∧ ∀ line ∈ lines, 10 ∉ line

/-- `prev` に続く改行は、復帰の直後にだけある。 -/
def NoBareLf (prev : UInt8) (bytes : List UInt8) : Prop := List.IsChain (fun a b => b = 10 → a = 13) (prev :: bytes)

theorem noBareLf_line (hline : 10 ∉ line) : NoBareLf prev (line ++ (crlf ++ rest)) ↔ NoBareLf 10 rest := by
  induction line generalizing prev with
  | nil => simp [NoBareLf, crlf]
  | cons b line ih =>
    simp only [List.mem_cons, not_or] at hline
    have hb : b = 10 → prev = 13 := fun h => absurd h.symm hline.1
    rw [← @ih b hline.2]
    simp only [NoBareLf, List.cons_append, List.isChain_cons_cons]
    exact and_iff_right hb

/-- 改行で終わるバイト列では、どの行も `\r\n` で終わることと、裸の改行がないことは同じである。 -/
theorem crlfLines_iff (hprev : prev ≠ 13) (hend : bytes = [] ∨ bytes.getLast? = some 10) :
    CrlfLines bytes ↔ NoBareLf prev bytes := by
  constructor
  · rintro ⟨lines, rfl, hlines⟩
    clear hend
    induction lines generalizing prev with
    | nil => simp [NoBareLf]
    | cons line lines ih =>
      rw [List.flatMap_cons, List.append_assoc, noBareLf_line (hlines line List.mem_cons_self)]
      exact ih (by decide) fun line hmem => hlines line (List.mem_cons_of_mem _ hmem)
  · intro h
    induction hn : bytes.length using Nat.strong_induction_on generalizing bytes prev with
    | _ n ih =>
      subst hn
      rcases hend with rfl | hlast
      · exact ⟨[], rfl, by simp⟩
      obtain ⟨start, tail, rfl, hnone⟩ := List.eq_append_cons_of_mem (List.mem_of_getLast? hlast)
      rcases List.eq_nil_or_concat start with rfl | ⟨line, b, rfl⟩
      · exact absurd ((List.isChain_cons_cons.mp h).1 rfl) hprev
      have hpair : List.IsChain (fun a b => b = 10 → a = 13) ((prev :: line) ++ (b :: 10 :: tail)) := by
        simpa [NoBareLf] using h
      obtain rfl : b = 13 := (List.isChain_cons_cons.mp (List.isChain_append.mp hpair).2.1).1 rfl
      have hline : 10 ∉ line := fun hmem => hnone (by simp [hmem])
      have hsplit : line.concat 13 ++ 10 :: tail = line ++ (crlf ++ tail) := by simp [crlf]
      rw [hsplit, noBareLf_line hline] at h
      have htail : tail = [] ∨ tail.getLast? = some 10 := by
        rcases List.eq_nil_or_concat tail with rfl | ⟨tail, c, rfl⟩
        · exact .inl rfl
        · rw [hsplit, List.concat_eq_append, ← List.append_assoc, ← List.append_assoc, List.getLast?_concat] at hlast
          exact .inr (by rw [List.concat_eq_append, List.getLast?_concat, hlast])
      obtain ⟨lines, htails, hlines⟩ := ih tail.length (by simp; omega) (by decide) htail h rfl
      exact ⟨line :: lines, by rw [hsplit, htails, List.flatMap_cons, List.append_assoc], by simpa using ⟨hline, hlines⟩⟩

/-! ## 答えの文法 -/

def HexSize (line : List UInt8) (n : Nat) : Prop := Numeral 16 (sizeField line) n

def headerSection (encoded : List UInt8) : Option (List UInt8 × List UInt8) :=
  (position (crlf ++ crlf) encoded).map fun i => (encoded.take (i + 4), encoded.drop (i + 4))

/-- 欄の部分にある、名 `name` の欄の値。 -/
def fieldValues (head : List UInt8) (name : String) : List String :=
  headerValues (((utf8? head).bind parseHeaders).getD []) name

/-- 文法どおりの答えの、欄の部分 `head` と残り `rest` と本文 `body`。 -/
structure WellFormed (head rest body : List UInt8) : Prop where
  lines : CrlfLines head
  once : (fieldValues head "content-length").length + (fieldValues head "transfer-encoding").length ≤ 1
  length : ∀ value ∈ fieldValues head "content-length", Numeral 10 (utf8Bytes value) rest.length
  chunks : ∀ value ∈ fieldValues head "transfer-encoding", ∃ lines, Framed HexSize lines rest body
  whole : fieldValues head "transfer-encoding" = [] → body = rest

/-- 裸の改行も、数の先頭の `+` もない。 -/
structure Plain (head rest : List UInt8) : Prop where
  lines : NoBareLf 0 head
  length : ∀ value ∈ fieldValues head "content-length", (utf8Bytes value).head? ≠ some 43
  chunks : fieldValues head "transfer-encoding" ≠ [] →
    ∀ lines body, Framed ReadSize lines rest body → ∀ line ∈ lines, line.head? ≠ some 43

theorem head_sizeField : (sizeField line).head? = some 43 ↔ line.head? = some 43 := by
  cases line with
  | nil => simp [sizeField]
  | cons b line =>
    by_cases hb : b = 59
    · subst hb
      simp [sizeField]
    · simp [sizeField, hb]

theorem ReadSize.hex_iff (h : ReadSize line n) : HexSize line n ↔ line.head? ≠ some 43 := by
  unfold ReadSize chunkSize at h
  split at h
  · rw [HexSize, numeral_iff h, Ne, head_sizeField]
  · cases h

/-- 読めた塊の並びの大きさが数字だけであるのは、どの行も `+` で始まらないとき、そのときに限る。 -/
theorem framed_hex_iff {lines : List (List UInt8)} (h : Framed ReadSize lines rest body) :
    (∃ lines, Framed HexSize lines rest body) ↔
      ∀ lines body, Framed ReadSize lines rest body → ∀ line ∈ lines, line.head? ≠ some 43 := by
  constructor
  · rintro ⟨lines', hhex⟩ lines'' body'' hread line hline
    have hagree : ∀ line m n, HexSize line m → ReadSize line n → m = n := by
      intro line m n hm hn
      unfold ReadSize chunkSize at hn
      split at hn
      · exact hm.unique hn
      · cases hn
    obtain ⟨rfl, -⟩ := hhex.unique hread hagree
    obtain ⟨n, hsize⟩ := hhex.sizes line hline
    exact mt head_sizeField.mpr hsize.no_plus
  · intro hplain
    exact ⟨lines, h.imp fun line hline n hsize => hsize.hex_iff.mpr (hplain lines body h line hline)⟩

theorem header_ok {headers : List (String × String)} {expected : String} {value : Option String} :
    header headers expected = .ok value ↔ headerValues headers expected = value.toList := by
  unfold header
  split
  · rename_i h
    cases value <;> simp [h]
  · rename_i h
    cases value <;> simp [h]
  · rename_i hnil hone
    cases value with
    | none => simpa [rejectHttp] using hnil
    | some v => simpa [rejectHttp] using hone v

theorem readBody_ok {headers : List (String × String)} : readBody headers rest = .ok body ↔
    (headerValues headers "transfer-encoding" = [] ∧ headerValues headers "content-length" = [] ∧ rest = body) ∨
    (∃ value, headerValues headers "transfer-encoding" = [] ∧ headerValues headers "content-length" = [value] ∧
      parseUnsigned 10 (utf8Bytes value) = some rest.length ∧ rest = body) ∨
    ∃ value, headerValues headers "transfer-encoding" = [value] ∧ headerValues headers "content-length" = [] ∧
      value.toList.map Char.toLower = "chunked".toList ∧ decodeChunked rest = .ok body := by
  simp only [readBody, except_bind_ok, header_ok, rejectWhen_ok]
  constructor
  · rintro ⟨encoding, hencoding, length, hlength, -, hone, h⟩
    cases encoding with
    | some encoding =>
      cases length with
      | some length => simp at hone
      | none =>
        simp only [except_bind_ok, rejectWhen_ok, not_not] at h
        obtain ⟨-, hname, h⟩ := h
        exact .inr (.inr ⟨encoding, hencoding, hlength, hname, h⟩)
    | none =>
      cases length with
      | some length =>
        simp only [except_bind_ok, orRejected_ok, rejectWhen_ok, not_not] at h
        obtain ⟨n, hn, -, rfl, h⟩ := h
        exact .inr (.inl ⟨length, hencoding, hlength, hn, Except.ok.inj h⟩)
      | none => exact .inl ⟨hencoding, hlength, Except.ok.inj h⟩
  · rintro (⟨hencoding, hlength, rfl⟩ | ⟨length, hencoding, hlength, hn, rfl⟩ | ⟨encoding, hencoding, hlength, hname, h⟩)
    · exact ⟨none, hencoding, none, hlength, (), by simp, rfl⟩
    · refine ⟨none, hencoding, some length, hlength, (), by simp, ?_⟩
      simp only [except_bind_ok, orRejected_ok, rejectWhen_ok, not_not]
      exact ⟨rest.length, hn, (), rfl, rfl⟩
    · refine ⟨some encoding, hencoding, none, hlength, (), by simp, ?_⟩
      simp only [except_bind_ok, rejectWhen_ok, not_not]
      exact ⟨(), hname, h⟩

theorem parseHttpResponse_ok {response : RawHttpResponse} (h : parseHttpResponse encoded = .ok response) :
    ∃ head rest text headers, headerSection encoded = some (head, rest) ∧ head.getLast? = some 10 ∧
      utf8? head = some text ∧ parseHeaders text = some headers ∧ readBody headers rest = .ok response.body := by
  simp only [parseHttpResponse, except_bind_ok, orRejected_ok, sliceTo_ok, sliceFrom_ok] at h
  obtain ⟨-, -, headerEnd, hend, head, ⟨-, rfl⟩, text, htext, status, -, headers, hheaders, rest, ⟨-, rfl⟩, body, hbody,
    session, -, contentType, -, h⟩ := h
  obtain ⟨i, hi, rfl⟩ := Option.map_eq_some_iff.mp hend
  refine ⟨_, _, text, headers, by rw [headerSection, hi]; rfl, ?_, htext, hheaders, ?_⟩
  · obtain ⟨⟨tail, htail⟩, -⟩ := position_some hi
    have hhead : encoded.take (i + 4) = encoded.take i ++ (crlf ++ crlf) := by
      rw [List.take_add, ← htail]
      rfl
    rw [hhead]
    exact List.getLast?_append_of_ne_nil _ (by decide)
  · cases h
    exact hbody

theorem wellFormed_iff_plain {response : RawHttpResponse} (h : parseHttpResponse encoded = .ok response) :
    ∃ head rest, headerSection encoded = some (head, rest) ∧ (WellFormed head rest response.body ↔ Plain head rest) := by
  obtain ⟨head, rest, text, headers, hsection, hlast, htext, hheaders, hbody⟩ := parseHttpResponse_ok h
  have hlines : CrlfLines head ↔ NoBareLf 0 head := crlfLines_iff (by decide) (.inr hlast)
  have hvalues : ∀ name, fieldValues head name = headerValues headers name := by simp [fieldValues, htext, hheaders]
  refine ⟨head, rest, hsection, ?_⟩
  rcases readBody_ok.mp hbody with ⟨hencoding, hlength, rfl⟩ | ⟨value, hencoding, hlength, hn, rfl⟩ |
    ⟨value, hencoding, hlength, -, hchunked⟩
  · constructor
    · intro hwell
      exact ⟨hlines.mp hwell.lines, by simp [hvalues, hlength], by simp [hvalues, hencoding]⟩
    · intro hplain
      exact ⟨hlines.mpr hplain.lines, by simp [hvalues, hencoding, hlength], by simp [hvalues, hlength],
        by simp [hvalues, hencoding], fun _ => rfl⟩
  · have hmem : value ∈ fieldValues head "content-length" := by simp [hvalues, hlength]
    constructor
    · intro hwell
      refine ⟨hlines.mp hwell.lines, ?_, by simp [hvalues, hencoding]⟩
      simpa [hvalues, hlength] using (hwell.length value hmem).no_plus
    · intro hplain
      refine ⟨hlines.mpr hplain.lines, by simp [hvalues, hencoding, hlength], ?_, by simp [hvalues, hencoding],
        fun _ => rfl⟩
      simpa [hvalues, hlength] using (numeral_iff hn).mpr (hplain.length value hmem)
  · obtain ⟨lines, hframed, -⟩ := decodeChunked_ok_iff.mp hchunked
    have hmem : value ∈ fieldValues head "transfer-encoding" := by simp [hvalues, hencoding]
    constructor
    · intro hwell
      exact ⟨hlines.mp hwell.lines, by simp [hvalues, hlength],
        fun _ => (framed_hex_iff hframed).mp (hwell.chunks value hmem)⟩
    · intro hplain
      have hchunks := (framed_hex_iff hframed).mpr (hplain.chunks (List.ne_nil_of_mem hmem))
      exact ⟨hlines.mpr hplain.lines, by simp [hvalues, hencoding, hlength], by simp [hvalues, hlength],
        fun _ _ => hchunks, by simp [hvalues, hencoding]⟩

/-- 代理の答えの読み取りは、分けた本文を読み戻し、どの入力でも範囲を外れない。受け付けた答えが文法どおりであるのは、裸の改行も、
数の先頭の `+` もないとき、そのときに限る。 -/
theorem http_decoder_grammar (encoded : List UInt8) :
    (∀ chunks : List (List UInt8), (∀ chunk ∈ chunks, chunk ≠ []) → chunks.flatten.length ≤ maxHttpMessageBytes →
      decodeChunked (chunkedEncoding chunks) = .ok chunks.flatten) ∧
    Faultless (parseHttpResponse encoded) ∧
    ∀ response, parseHttpResponse encoded = .ok response →
      ∃ head rest, headerSection encoded = some (head, rest) ∧ (WellFormed head rest response.body ↔ Plain head rest) :=
  ⟨fun _ => decodeChunked_chunkedEncoding, parseHttpResponse_faultless encoded, fun _ => wellFormed_iff_plain⟩

def bareLineFeed : List UInt8 := utf8Bytes "HTTP/1.1 200 OK\nContent-Length: 0\r\n\r\n"

/-- 長さに `+` のある答え。 -/
def plusLength : List UInt8 := utf8Bytes "HTTP/1.1 200 OK\r\nContent-Length: +0\r\n\r\n"

/-- 塊の大きさに `+` のある答え。 -/
def plusChunk : List UInt8 := utf8Bytes "HTTP/1.1 200 OK\r\nTransfer-Encoding: chunked\r\n\r\n+1\r\na\r\n0\r\n\r\n"

theorem not_wellFormed {response : RawHttpResponse} (h : parseHttpResponse encoded = .ok response)
    (hsection : headerSection encoded = some (head, rest)) (hplain : ¬Plain head rest) :
    ¬WellFormed head rest response.body := by
  obtain ⟨head', rest', hsection', hiff⟩ := wellFormed_iff_plain h
  rw [hsection] at hsection'
  cases hsection'
  exact mt hiff.mp hplain

def LaxlyAccepted (encoded : List UInt8) : Prop :=
  ∃ response head rest, parseHttpResponse encoded = .ok response ∧ headerSection encoded = some (head, rest) ∧
    ¬WellFormed head rest response.body

/-- 文法どおりでない答えが受け付けられる。 -/
theorem lax_responses_accepted : LaxlyAccepted bareLineFeed ∧ LaxlyAccepted plusLength ∧ LaxlyAccepted plusChunk := by
  unfold LaxlyAccepted
  refine ⟨⟨⟨200, none, "", []⟩, bareLineFeed, [], ?_⟩, ⟨⟨200, none, "", []⟩, plusLength, [], ?_⟩,
    ⟨⟨200, none, "", [97]⟩, plusChunk.take 47, plusChunk.drop 47, ?_⟩⟩
  · have h : parseHttpResponse bareLineFeed = .ok ⟨200, none, "", []⟩ ∧
        headerSection bareLineFeed = some (bareLineFeed, []) ∧ ¬List.IsChain (fun a b => b = 10 → a = 13) (0 :: bareLineFeed) := by
      decide +kernel
    exact ⟨h.1, h.2.1, not_wellFormed h.1 h.2.1 fun hplain => h.2.2 hplain.lines⟩
  · have h : parseHttpResponse plusLength = .ok ⟨200, none, "", []⟩ ∧ headerSection plusLength = some (plusLength, []) ∧
        ¬∀ value ∈ fieldValues plusLength "content-length", (utf8Bytes value).head? ≠ some 43 := by decide +kernel
    exact ⟨h.1, h.2.1, not_wellFormed h.1 h.2.1 fun hplain => h.2.2 hplain.length⟩
  · have h : parseHttpResponse plusChunk = .ok ⟨200, none, "", [97]⟩ ∧
        headerSection plusChunk = some (plusChunk.take 47, plusChunk.drop 47) ∧
        fieldValues (plusChunk.take 47) "transfer-encoding" ≠ [] ∧
        plusChunk.drop 47 = [43, 49] ++ (crlf ++ ([97] ++ (crlf ++ ([48] ++ (crlf ++ crlf))))) ∧
        chunkSize [43, 49] = some 1 ∧ chunkSize [48] = some 0 ∧ ¬crlf <:+: [43, 49] ∧ ¬crlf <:+: [48] := by decide +kernel
    obtain ⟨hparse, hsection, hencoding, hrest, hplus, hzero, hline, hlast⟩ := h
    refine ⟨hparse, hsection, not_wellFormed hparse hsection fun hplain => ?_⟩
    have hframed : Framed ReadSize [[43, 49], [48]] (plusChunk.drop 47) ([97] ++ []) := by
      rw [hrest]
      exact .chunk hline (by decide) hplus (.last hlast hzero)
    exact hplain.chunks hencoding _ _ hframed [43, 49] List.mem_cons_self rfl

/-- 塊に分けて `abc` を返す答え。 -/
def chunkedSample : List UInt8 :=
  utf8Bytes "HTTP/1.1 200 OK\r\nTransfer-Encoding: chunked\r\n\r\n" ++ chunkedEncoding [[97], [98, 99]]

/-- 二つの塊に分けた答えは、元の本文に戻り、文法に従う。 -/
theorem http_decoder_grammar_sample : decodeChunked (chunkedEncoding [[97], [98, 99]]) = .ok [97, 98, 99] ∧
    Faultless (parseHttpResponse chunkedSample) ∧
    ∃ head rest, headerSection chunkedSample = some (head, rest) ∧ (WellFormed head rest [97, 98, 99] ↔ Plain head rest) := by
  have h : parseHttpResponse chunkedSample = .ok ⟨200, none, "", [97, 98, 99]⟩ := by decide +kernel
  obtain ⟨hchunks, hfaultless, hgrammar⟩ := http_decoder_grammar chunkedSample
  exact ⟨hchunks [[97], [98, 99]] (by decide) (by decide), hfaultless, hgrammar _ h⟩

end Codeoff.Codex
