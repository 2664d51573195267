import Codeoff.Codex.GithubMcp

/-!
# HTTP の答えを読む

代理の返すバイト列から、状態の行、欄、本文を読む。本文は、塊に分けて送られたものも、長さの決まったものもある。
-/

namespace Codeoff.Codex

open Codeoff.Core

inductive HttpFault where
  | rejected (message : String)
  /-- 切片の範囲の外を読んだ。 -/
  | outOfRange
  /-- 読む回数の上限に届いた。 -/
  | exhausted
deriving DecidableEq, Repr

def rejectHttp {α : Type} (code : String) : Except HttpFault α := .error (.rejected (safe code))

def orRejected {α : Type} (o : Option α) (code : String) : Except HttpFault α :=
  match o with
  | some a => .ok a
  | none => rejectHttp code

/-- `p` のときに退ける。 -/
def rejectWhen (p : Prop) [Decidable p] (code : String) : Except HttpFault Unit :=
  if p then rejectHttp code else .ok ()

def sliceFrom (bytes : List UInt8) (start : Nat) : Except HttpFault (List UInt8) :=
  if start ≤ bytes.length then .ok (bytes.drop start) else .error .outOfRange

def sliceTo (bytes : List UInt8) (stop : Nat) : Except HttpFault (List UInt8) :=
  if stop ≤ bytes.length then .ok (bytes.take stop) else .error .outOfRange

def slice (bytes : List UInt8) (start stop : Nat) : Except HttpFault (List UInt8) :=
  if start ≤ stop ∧ stop ≤ bytes.length then .ok ((bytes.drop start).take (stop - start)) else .error .outOfRange

/-- 並び `window` の最初の位置（`windows` と `position`）。 -/
def position (window : List UInt8) : List UInt8 → Option Nat
  | [] => if window = [] then some 0 else none
  | b :: bytes => if window.isPrefixOf (b :: bytes) then some 0 else (position window bytes).map (· + 1)

def crlf : List UInt8 := [13, 10]

def utf8? (bytes : List UInt8) : Option String := String.fromUTF8? ⟨bytes.toArray⟩

def usizeMax : Nat := 18446744073709551615

/-- `char::to_digit`。大文字でも小文字でもよい。 -/
def digitValue (radix : Nat) (b : UInt8) : Option Nat :=
  let value :=
    if 48 ≤ b ∧ b ≤ 57 then some (b.toNat - 48)
    else if 97 ≤ b ∧ b ≤ 122 then some (b.toNat - 87)
    else if 65 ≤ b ∧ b ≤ 90 then some (b.toNat - 55)
    else none
  value.filter (· < radix)

def radixValue (radix : Nat) : Nat → List UInt8 → Option Nat
  | acc, [] => some acc
  | acc, b :: bytes => (digitValue radix b).bind fun d => radixValue radix (acc * radix + d) bytes

/-- `from_str_radix`。先頭の `+` は読み飛ばされる。 -/
def parseUnsigned (radix : Nat) (bytes : List UInt8) : Option Nat :=
  let digits := if bytes.head? = some 43 then bytes.tail else bytes
  if digits = [] then none else (radixValue radix 0 digits).filter (· ≤ usizeMax)

def sizeField (line : List UInt8) : List UInt8 := line.takeWhile (· ≠ 59)

def chunkSize (line : List UInt8) : Option Nat :=
  if (utf8? line).isSome then parseUnsigned 16 (sizeField line) else none

/-- `decoded` はここまでの本文、`fuel` は読む回数の上限。 -/
def decodeChunkedFrom : Nat → List UInt8 → List UInt8 → Except HttpFault (List UInt8)
  | 0, _, _ => .error .exhausted
  | fuel + 1, encoded, decoded => do
    let lineEnd ← orRejected (position crlf encoded) "chunk_invalid"
    let line ← sliceTo encoded lineEnd
    let size ← orRejected (chunkSize line) "chunk_invalid"
    let encoded ← sliceFrom encoded (lineEnd + 2)
    if size = 0 then
      rejectWhen (encoded ≠ crlf) "chunk_invalid"
      return decoded
    else
      rejectWhen (size > encoded.length - 2) "chunk_invalid"
      let separator ← slice encoded size (size + 2)
      rejectWhen (separator ≠ crlf ∨ decoded.length + size > maxHttpMessageBytes) "chunk_invalid"
      let chunk ← sliceTo encoded size
      let rest ← sliceFrom encoded (size + 2)
      decodeChunkedFrom fuel rest (decoded ++ chunk)

def decodeChunked (encoded : List UInt8) : Except HttpFault (List UInt8) :=
  decodeChunkedFrom (encoded.length + 1) encoded []

def splitInclusive : List Char → List (List Char)
  | [] => []
  | c :: cs =>
    if c = '\n' then ['\n'] :: splitInclusive cs
    else
      match splitInclusive cs with
      | [] => [[c]]
      | line :: lines => (c :: line) :: lines

def stripLineEnd (line : List Char) : List Char :=
  if line.getLast? = some '\n' then
    if line.dropLast.getLast? = some '\r' then line.dropLast.dropLast else line.dropLast
  else line

/-- `str::lines`。 -/
def linesOf (text : String) : List (List Char) := (splitInclusive text.toList).map stripLineEnd

def isSafeResponseHeaderValue (value : String) : Bool :=
  byteLen value ≤ 4 * 1024 && (utf8Bytes value).all fun b => b == 9 || (32 ≤ b && b < 127)

def parseHeaderLine (line : List Char) : Option (String × String) :=
  match line.span (· ≠ ':') with
  | (name, _ :: value) =>
    let value := trim (String.ofList value)
    if name = [] ∨ !(name.all fun c => c.isAlphanum || c = '-') ∨ !isSafeResponseHeaderValue value then none
    else some (String.ofList name, value)
  | (_, []) => none

def parseHeaders (text : String) : Option (List (String × String)) :=
  ((linesOf text).tail.filter (· ≠ [])).mapM parseHeaderLine

def headerValues (headers : List (String × String)) (expected : String) : List String :=
  (headers.filter fun header => header.1.toList.map Char.toLower == expected.toList.map Char.toLower).map Prod.snd

def header (headers : List (String × String)) (expected : String) : Except HttpFault (Option String) :=
  match headerValues headers expected with
  | [] => .ok none
  | [value] => .ok (some value)
  | _ => rejectHttp "response_invalid"

def responseStatus (text : String) : Option Nat :=
  match (linesOf text).head?.map fun line => splitWhitespace (String.ofList line) with
  | some (version :: status :: _) =>
    if version = "HTTP/1.1" then
      (parseUnsigned 10 (utf8Bytes status)).filter fun status => 100 ≤ status && status ≤ 599
    else none
  | _ => none

structure RawHttpResponse where
  status : Nat
  sessionId : Option String
  contentType : String
  body : List UInt8
deriving DecidableEq, Repr

def readBody (headers : List (String × String)) (rest : List UInt8) : Except HttpFault (List UInt8) := do
  let transferEncoding ← header headers "transfer-encoding"
  let contentLength ← header headers "content-length"
  rejectWhen (transferEncoding.isSome ∧ contentLength.isSome) "response_invalid"
  match transferEncoding, contentLength with
  | some encoding, _ =>
    rejectWhen (encoding.toList.map Char.toLower ≠ "chunked".toList) "response_invalid"
    decodeChunked rest
  | none, some length =>
    let length ← orRejected (parseUnsigned 10 (utf8Bytes length)) "response_invalid"
    rejectWhen (rest.length ≠ length) "response_truncated"
    return rest
  | none, none => return rest

def parseHttpResponse (encoded : List UInt8) : Except HttpFault RawHttpResponse := do
  rejectWhen (encoded.length > maxHttpMessageBytes) "response_too_large"
  let headerEnd ← orRejected ((position (crlf ++ crlf) encoded).map (· + 4)) "response_invalid"
  let head ← sliceTo encoded headerEnd
  let text ← orRejected (utf8? head) "response_invalid"
  let status ← orRejected (responseStatus text) "response_invalid"
  let headers ← orRejected (parseHeaders text) "response_invalid"
  let rest ← sliceFrom encoded headerEnd
  let body ← readBody headers rest
  let sessionId ← header headers "mcp-session-id"
  let contentType ← header headers "content-type"
  return { status, sessionId, contentType := contentType.getD "", body }

end Codeoff.Codex
