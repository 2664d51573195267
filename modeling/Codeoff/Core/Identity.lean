import Mathlib.Data.List.Basic
import Codeoff.Core.Policy

/-!
# 配備と遠隔実行が共有する識別子

実行の束縛に使う識別子、資格情報の版、実行者の SPIFFE 識別子。読み取れた文字列だけが、それぞれの型の値になる。
-/

/-!
## 文字列の検査

Rust の `str::trim` と `split_whitespace`（Unicode の White_Space）、長さの上限、16 進の要約値の形。
-/

namespace Codeoff.Core

def isWhitespace (c : Char) : Bool :=
  let n := c.toNat
  (9 ≤ n && n ≤ 13) || n == 32 || n == 0x85 || n == 0xA0 || n == 0x1680
    || (0x2000 ≤ n && n ≤ 0x200A) || n == 0x2028 || n == 0x2029 || n == 0x202F || n == 0x205F
    || n == 0x3000

def trimChars (cs : List Char) : List Char :=
  ((cs.dropWhile isWhitespace).reverse.dropWhile isWhitespace).reverse

def trim (s : String) : String := String.ofList (trimChars s.toList)

/-- 空白で区切った、空でない部分。`word` は読みかけの部分を逆順に持つ。 -/
def splitWhitespaceAux : List Char → List Char → List String
  | [], word => if word.isEmpty then [] else [String.ofList word.reverse]
  | c :: cs, word =>
    if isWhitespace c then
      if word.isEmpty then splitWhitespaceAux cs []
      else String.ofList word.reverse :: splitWhitespaceAux cs []
    else splitWhitespaceAux cs (c :: word)

def splitWhitespace (s : String) : List String := splitWhitespaceAux s.toList []

def isLowerHexDigit (b : UInt8) : Bool := (48 ≤ b && b ≤ 57) || (97 ≤ b && b ≤ 102)

def isLowercaseSha256 (s : String) : Bool := byteLen s == 64 && (utf8Bytes s).all isLowerHexDigit

def maxCriticalIdBytes : Nat := 128
def maxCredentialRevisionBytes : Nat := 128
def maxRunnerWorkloadIdentityBytes : Nat := 256

structure ScheduledIdentityError where
  reason : String
deriving DecidableEq, Repr

def isAscii (s : String) : Bool := (utf8Bytes s).all (· < 128)

def startsWith (c : Char) (value : String) : Bool := value.toList.head? == some c

def isAsciiDigit (b : UInt8) : Bool := 48 ≤ b && b ≤ 57

def isAsciiUppercase (b : UInt8) : Bool := 65 ≤ b && b ≤ 90

def isAsciiLowercase (b : UInt8) : Bool := 97 ≤ b && b ≤ 122

def isAsciiAlphanumeric (b : UInt8) : Bool := isAsciiDigit b || isAsciiUppercase b || isAsciiLowercase b

/-- `-`、`_`、`.` のどれか。 -/
def isTokenMark (b : UInt8) : Bool := b == 45 || b == 95 || b == 46

def isTokenEnd (lowercaseOnly : Bool) (b : UInt8) : Bool :=
  isAsciiAlphanumeric b && !(lowercaseOnly && isAsciiUppercase b)

def isBoundedAsciiToken (value : String) (maxBytes : Nat) (lowercaseOnly allowColon : Bool) : Bool :=
  !(value == "" || byteLen value > maxBytes || !isAscii value || value != trim value)
    && (utf8Bytes value).head?.any (isTokenEnd lowercaseOnly)
    && (utf8Bytes value).getLast?.any (isTokenEnd lowercaseOnly)
    && (utf8Bytes value).all fun b => isAsciiDigit b || isAsciiLowercase b
      || (!lowercaseOnly && isAsciiUppercase b) || isTokenMark b || (allowColon && b == 58)

structure CriticalId where
  value : String
  bounded : isBoundedAsciiToken value maxCriticalIdBytes false true = true
deriving DecidableEq

def CriticalId.parse (value : String) : Except ScheduledIdentityError CriticalId :=
  if h : isBoundedAsciiToken value maxCriticalIdBytes false true = true then .ok ⟨value, h⟩
  else .error ⟨"critical_id_invalid"⟩

structure CredentialRevision where
  value : String
  bounded : isBoundedAsciiToken value maxCredentialRevisionBytes true false = true
deriving DecidableEq

def CredentialRevision.parse (value : String) : Except ScheduledIdentityError CredentialRevision :=
  if h : isBoundedAsciiToken value maxCredentialRevisionBytes true false = true then .ok ⟨value, h⟩
  else .error ⟨"credential_revision_invalid"⟩

/-- 小文字、数字、`-` からなり、`-` で始まらず終わらない。 -/
def validTrustDomainLabel (label : List UInt8) : Bool :=
  let plain (b : UInt8) : Bool := isAsciiLowercase b || isAsciiDigit b
  !label.isEmpty && label.length ≤ 63 && label.all (fun b => plain b || b == 45)
    && label.head?.any plain && label.getLast?.any plain

def validTrustDomain (value : List UInt8) : Bool :=
  !(value.isEmpty || value.length > 128 || !value.all (· < 128))
    && (value.splitOn 46).all validTrustDomainLabel

def validSpiffePath (value : List UInt8) : Bool :=
  !value.isEmpty && value.getLast? != some 47
    && (value.splitOn 47).all fun segment => !segment.isEmpty && segment.length ≤ 64
      && !(segment == [46] || segment == [46, 46])
      && segment.all fun b => isAsciiAlphanumeric b || isTokenMark b

/-- `split_once('/')`。 -/
def splitOnceSlash (value : List UInt8) : Option (List UInt8 × List UInt8) :=
  match value.span (· != 47) with
  | (before, _ :: after) => some (before, after)
  | (_, []) => none

def validateRunnerWorkloadIdentity (value : String) : Except ScheduledIdentityError Unit := do
  if value = "" ∨ byteLen value > maxRunnerWorkloadIdentityBytes ∨ ¬isAscii value ∨ value ≠ trim value then
    throw ⟨"runner_workload_identity_invalid"⟩
  let some remainder := (utf8Bytes value).dropPrefix? (utf8Bytes "spiffe://")
    | throw ⟨"runner_workload_identity_scheme_invalid"⟩
  let some (trustDomain, path) := splitOnceSlash remainder
    | throw ⟨"runner_workload_identity_path_missing"⟩
  if ¬validTrustDomain trustDomain ∨ ¬validSpiffePath path then
    throw ⟨"runner_workload_identity_noncanonical"⟩

structure RunnerWorkloadIdentity where
  value : String
  canonical : validateRunnerWorkloadIdentity value = .ok ()

def RunnerWorkloadIdentity.parse (value : String) :
    Except ScheduledIdentityError RunnerWorkloadIdentity :=
  match h : validateRunnerWorkloadIdentity value with
  | .ok () => .ok ⟨value, h⟩
  | .error e => .error e

example : (RunnerWorkloadIdentity.parse "spiffe://example.org/ns/default/sa/runner-1").toBool = true := by
  decide +kernel

example : (RunnerWorkloadIdentity.parse "spiffe://codeoff/runner/../production").toBool = false := by
  decide +kernel

def maxEvidenceKeyIdBytes : Nat := 128

def isEvidenceKeyId (value : String) : Bool :=
  !(value == "" || byteLen value > maxEvidenceKeyIdBytes)
    && (utf8Bytes value).all fun b => isAsciiLowercase b || isAsciiDigit b || b == 45

structure EvidenceKeyId where
  value : String
  canonical : isEvidenceKeyId value = true
deriving DecidableEq

def EvidenceKeyId.parse (value : String) : Except ScheduledIdentityError EvidenceKeyId :=
  if h : isEvidenceKeyId value = true then .ok ⟨value, h⟩ else .error ⟨"evidence_key_id_invalid"⟩

end Codeoff.Core
