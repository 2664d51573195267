import Mathlib.Algebra.Order.Ring.Int
import Mathlib.Data.String.Basic

/-!
# 数の文面

JSON の数の文面の形と、整数でない数を f64 として読み書きすること。読み方は serde_json の既定の読み方、書き方は読み戻せる最短の
十進である。
-/

namespace Codeoff.Json

def u64Max : Nat := 18446744073709551615

def spanDigits : List Char → List Char × List Char
  | [] => ([], [])
  | c :: cs => if c.isDigit then (c :: (spanDigits cs).1, (spanDigits cs).2) else ([], c :: cs)

/-- 数の文面。小数部がなければ `fraction` は空である。指数は、負かどうかと桁からなる。 -/
structure NumberText where
  negative : Bool
  whole : List Char
  fraction : List Char
  exponent : Option (Bool × List Char)
deriving DecidableEq

def scanFraction : List Char → Option (List Char × List Char)
  | '.' :: cs => if (spanDigits cs).1 = [] then none else some (spanDigits cs)
  | cs => some ([], cs)

def scanSign : List Char → Bool × List Char
  | '+' :: cs => (false, cs)
  | '-' :: cs => (true, cs)
  | cs => (false, cs)

def scanExponent : List Char → Option (Option (Bool × List Char) × List Char)
  | [] => some (none, [])
  | c :: cs =>
    if c = 'e' ∨ c = 'E' then
      let (negative, cs) := scanSign cs
      if (spanDigits cs).1 = [] then none else some (some (negative, (spanDigits cs).1), (spanDigits cs).2)
    else some (none, c :: cs)

/-- 負号の後の数。整数部は、0 だけのほかは 0 で始まらない。小数点と指数の後には桁がある。 -/
def scanNumber (negative : Bool) (cs : List Char) : Option (NumberText × List Char) :=
  let (whole, rest) := spanDigits cs
  if whole = [] ∨ (whole.head? = some '0' ∧ whole.length ≠ 1) then none
  else (scanFraction rest).bind fun fraction => (scanExponent fraction.2).map fun exponent =>
    ({ negative, whole, fraction := fraction.1, exponent := exponent.1 }, exponent.2)

/-- 整数の文面。u64 にも i64 にも収まらない整数と `-0` は、f64 として読む。 -/
def NumberText.toInt (t : NumberText) : Option Int :=
  let n := Nat.ofDigitChars 10 t.whole 0
  if t.fraction ≠ [] ∨ t.exponent.isSome then none
  else if t.negative then if 0 < n ∧ n ≤ 2 ^ 63 then some (-n) else none
  else if n ≤ u64Max then some n
  else none

/-! ## f64 -/

/-- 有限の f64。`±significand * 2 ^ exponent` である。 -/
structure F64 where
  negative : Bool
  significand : Nat
  exponent : Int
deriving DecidableEq

namespace F64

/-- f64 の等しさ。二つの零は等しい。 -/
def beq (x y : F64) : Bool := x == y || (x.significand == 0 && y.significand == 0)

def ofFloat (x : Float) : Option F64 :=
  match x.toModel.unpack with
  | .zero sign => some ⟨sign == .negative, 0, 0⟩
  | .finite sign significand exponent _ => some ⟨sign == .negative, significand, exponent⟩
  | _ => none

/-- 仮数に桁を加える。u64 を超える桁から後は残る。 -/
def pushDigits (significand : Nat) : List Char → Nat × List Char
  | [] => (significand, [])
  | d :: ds =>
    let next := significand * 10 + (d.toNat - 48)
    if next > u64Max then (significand, d :: ds) else pushDigits next ds

/-- `POW10`。 -/
def pow10 (k : Nat) : Float := Float.ofScientific 1 false k

/-- `f64_from_parts` の繰り返し。二度割れば、u64 の仮数は零になる。 -/
def scale : Nat → Float → Int → Option Float
  | 0, x, _ => some x
  | fuel + 1, x, exponent =>
    if exponent.natAbs ≤ 308 then
      some (if 0 ≤ exponent then x * pow10 exponent.natAbs else x / pow10 exponent.natAbs)
    else if x == 0 then some x
    else if 0 ≤ exponent then none
    else scale fuel (x / pow10 308) (exponent + 308)

/-- 数の文面の f64。有限でなければ読まない。整数部からあふれた桁は指数に数え、小数部からあふれた桁は捨てる。 -/
def ofText (t : NumberText) : Option F64 := do
  let (significand, dropped) := pushDigits 0 t.whole
  let (significand, rest) := pushDigits significand t.fraction
  let point : Int := dropped.length - (t.fraction.length - rest.length : Nat)
  let shift : Int := match t.exponent with
    | none => 0
    | some (negative, ds) => if negative then -Nat.ofDigitChars 10 ds 0 else Nat.ofDigitChars 10 ds 0
  let x ← scale 4 significand.toUInt64.toFloat (point + shift)
  ofFloat (if t.negative then -x else x)

/-- `d * 10 ^ k` と `n * 2 ^ e` を比べるための、同じ単位での値。 -/
def decimalUnits (d : Nat) (k e : Int) : Nat := d * 10 ^ k.toNat * 2 ^ (-e).toNat

def binaryUnits (n : Nat) (k e : Int) : Nat := n * 2 ^ e.toNat * 10 ^ (-k).toNat

/-- `10 ^ k` の倍数のうち、この数に丸められるもの。最も近いものを採る。 -/
def multipleNear (x : F64) (k : Int) : Option Nat :=
  let e := x.exponent - 2
  let step := decimalUnits 1 k e
  let value := binaryUnits (4 * x.significand) k e
  -- 2 の冪の下では、隣の数との間隔が半分になる
  let low := binaryUnits (4 * x.significand -
    if x.significand = 2 ^ 52 ∧ -1074 < x.exponent then 1 else 2) k e
  let high := binaryUnits (4 * x.significand + 2) k e
  let rounds (d : Nat) : Bool :=
    if x.significand % 2 = 0 then low ≤ d * step && d * step ≤ high else low < d * step && d * step < high
  let below := value / step
  let nearer := if 2 * (value % step) < step ∨ (2 * (value % step) = step ∧ below % 2 = 0)
    then [below, below + 1] else [below + 1, below]
  nearer.find? rounds

/-- 最短の十進 `d * 10 ^ k`。大きい `k` から試す。17 桁までに必ず見つかる。 -/
def shortest (x : F64) : Nat → Int → Nat × Int
  | 0, k => (0, k)
  | fuel + 1, k =>
    match multipleNear x k with
    | some d => (d, k)
    | none => shortest x fuel (k - 1)

def zeros (n : Nat) : List Char := List.replicate n '0'

/-- 指数は二桁以上で、正でも符号がつく。 -/
def exponentChars (p : Int) : List Char :=
  let ds := Nat.toDigits 10 p.natAbs
  'e' :: (if 0 ≤ p then '+' else '-') :: (zeros (2 - ds.length) ++ ds)

/-- 十進 `d * 10 ^ k` の文面。先頭の桁の位が -5 から 15 までなら、指数を使わない。 -/
def decimalChars (d : Nat) (k : Int) : List Char :=
  let ds := Nat.toDigits 10 d
  let p := ds.length - 1 + k
  if -5 ≤ p ∧ p ≤ 15 then
    if 0 ≤ k then ds ++ (zeros k.toNat ++ ['.', '0'])
    else if 0 ≤ p then ds.take (p.toNat + 1) ++ '.' :: ds.drop (p.toNat + 1)
    else '0' :: '.' :: (zeros (-p - 1).toNat ++ ds)
  else if ds.length = 1 then ds ++ exponentChars p
  else ds.take 1 ++ '.' :: (ds.drop 1 ++ exponentChars p)

def unsignedChars (x : F64) : List Char :=
  if x.significand = 0 then ['0', '.', '0']
  else decimalChars (shortest x 700 308).1 (shortest x 700 308).2

def chars (x : F64) : List Char := if x.negative then '-' :: x.unsignedChars else x.unsignedChars

end F64

example : (scanNumber false "1.50".toList).bind (fun p => F64.ofText p.1) = some ⟨false, 6755399441055744, -52⟩ := by
  decide +kernel

end Codeoff.Json
