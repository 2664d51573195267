import Codeoff.Core.Policy

/-!
# SHA-256

バイト列の要約値。語は 32 ビットの自然数で表す。
-/

namespace Codeoff.Core.Sha256

def wordModulus : Nat := 2 ^ 32

def rotateRight (x n : Nat) : Nat := ((x >>> n) ||| (x <<< (32 - n))) % wordModulus

def choose (e f g : Nat) : Nat := (e &&& f) ^^^ ((wordModulus - 1 - e) &&& g)

def majority (a b c : Nat) : Nat := (a &&& b) ^^^ (a &&& c) ^^^ (b &&& c)

def bigSigma0 (a : Nat) : Nat := rotateRight a 2 ^^^ rotateRight a 13 ^^^ rotateRight a 22

def bigSigma1 (e : Nat) : Nat := rotateRight e 6 ^^^ rotateRight e 11 ^^^ rotateRight e 25

def smallSigma0 (w : Nat) : Nat := rotateRight w 7 ^^^ rotateRight w 18 ^^^ (w >>> 3)

def smallSigma1 (w : Nat) : Nat := rotateRight w 17 ^^^ rotateRight w 19 ^^^ (w >>> 10)

def roundConstants : List Nat :=
  [ 0x428a2f98, 0x71374491, 0xb5c0fbcf, 0xe9b5dba5, 0x3956c25b, 0x59f111f1, 0x923f82a4, 0xab1c5ed5,
    0xd807aa98, 0x12835b01, 0x243185be, 0x550c7dc3, 0x72be5d74, 0x80deb1fe, 0x9bdc06a7, 0xc19bf174,
    0xe49b69c1, 0xefbe4786, 0x0fc19dc6, 0x240ca1cc, 0x2de92c6f, 0x4a7484aa, 0x5cb0a9dc, 0x76f988da,
    0x983e5152, 0xa831c66d, 0xb00327c8, 0xbf597fc7, 0xc6e00bf3, 0xd5a79147, 0x06ca6351, 0x14292967,
    0x27b70a85, 0x2e1b2138, 0x4d2c6dfc, 0x53380d13, 0x650a7354, 0x766a0abb, 0x81c2c92e, 0x92722c85,
    0xa2bfe8a1, 0xa81a664b, 0xc24b8b70, 0xc76c51a3, 0xd192e819, 0xd6990624, 0xf40e3585, 0x106aa070,
    0x19a4c116, 0x1e376c08, 0x2748774c, 0x34b0bcb5, 0x391c0cb3, 0x4ed8aa4a, 0x5b9cca4f, 0x682e6ff3,
    0x748f82ee, 0x78a5636f, 0x84c87814, 0x8cc70208, 0x90befffa, 0xa4506ceb, 0xbef9a3f7, 0xc67178f2 ]

structure State where
  a : Nat
  b : Nat
  c : Nat
  d : Nat
  e : Nat
  f : Nat
  g : Nat
  h : Nat

def initialState : State :=
  ⟨0x6a09e667, 0xbb67ae85, 0x3c6ef372, 0xa54ff53a,
    0x510e527f, 0x9b05688c, 0x1f83d9ab, 0x5be0cd19⟩

def State.words (s : State) : List Nat := [s.a, s.b, s.c, s.d, s.e, s.f, s.g, s.h]

def State.add (s t : State) : State where
  a := (s.a + t.a) % wordModulus
  b := (s.b + t.b) % wordModulus
  c := (s.c + t.c) % wordModulus
  d := (s.d + t.d) % wordModulus
  e := (s.e + t.e) % wordModulus
  f := (s.f + t.f) % wordModulus
  g := (s.g + t.g) % wordModulus
  h := (s.h + t.h) % wordModulus

def slide (window : List Nat) : List Nat :=
  window.tail ++ [(smallSigma1 (window.getD 14 0) + window.getD 9 0 + smallSigma0 (window.getD 1 0)
    + window.getD 0 0) % wordModulus]

def round (s : State) (w k : Nat) : State :=
  let t := s.h + bigSigma1 s.e + choose s.e s.f s.g + k + w
  { a := (t + bigSigma0 s.a + majority s.a s.b s.c) % wordModulus
    b := s.a
    c := s.b
    d := s.c
    e := (s.d + t) % wordModulus
    f := s.e
    g := s.f
    h := s.g }

def rounds : List Nat → State → List Nat → State
  | [], s, _ => s
  | k :: ks, s, window => rounds ks (round s (window.getD 0 0) k) (slide window)

def compress (s : State) (block : List Nat) : State := s.add (rounds roundConstants s block)

def bigEndian (bytes : List UInt8) : Nat := bytes.foldl (fun n byte => n * 256 + byte.toNat) 0

/-- `count` 個の語。 -/
def toWords : Nat → List UInt8 → List Nat
  | 0, _ => []
  | count + 1, bytes => bigEndian (bytes.take 4) :: toWords count (bytes.drop 4)

def padding (length : Nat) : List UInt8 :=
  0x80 :: (List.replicate ((119 - length % 64) % 64) 0
    ++ (List.range 8).map fun i => UInt8.ofNat (8 * length / 256 ^ (7 - i)))

def absorb : Nat → State → List UInt8 → State
  | 0, s, _ => s
  | blocks + 1, s, bytes => absorb blocks (compress s (toWords 16 bytes)) (bytes.drop 64)

def hexChar (n : Nat) : Char := if n < 10 then Char.ofNat (48 + n) else Char.ofNat (87 + n)

def wordHex (w : Nat) : List Char := (List.range 8).map fun i => hexChar (w / 16 ^ (7 - i) % 16)

def sha256Hex (bytes : List UInt8) : String :=
  let padded := bytes ++ padding bytes.length
  String.ofList ((absorb (padded.length / 64) initialState padded).words.flatMap wordHex)

example : sha256Hex (utf8Bytes "abc") = "ba7816bf8f01cfea414140de5dae2223b00361a396177a9cb410ff61f20015ad" := by
  decide +kernel

end Codeoff.Core.Sha256
