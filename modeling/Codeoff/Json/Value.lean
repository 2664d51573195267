import Codeoff.Json.Number
import Mathlib.Data.List.Sort

/-!
# JSON の値と文面

値、空白のない文面への書き出し、文面からの読み取り。u64 か i64 に収まる整数のほかの数は、f64 である。
-/

namespace Codeoff.Json

inductive Value where
  | null
  | bool (b : Bool)
  | int (n : Int)
  | float (x : F64)
  | str (s : String)
  | arr (values : List Value)
  | obj (members : List (String × Value))

def hexDigit (n : Nat) : Char := if n < 10 then Char.ofNat (48 + n) else Char.ofNat (87 + n)

def escapeChar (c : Char) : List Char :=
  if c = '"' then ['\\', '"']
  else if c = '\\' then ['\\', '\\']
  else if c = '\n' then ['\\', 'n']
  else if c = '\r' then ['\\', 'r']
  else if c = '\t' then ['\\', 't']
  else if c = Char.ofNat 8 then ['\\', 'b']
  else if c = Char.ofNat 12 then ['\\', 'f']
  else if c.toNat < 32 then ['\\', 'u', '0', '0', hexDigit (c.toNat / 16), hexDigit (c.toNat % 16)]
  else [c]

def stringChars (s : String) : List Char := '"' :: (s.toList.flatMap escapeChar ++ ['"'])

def intChars : Int → List Char
  | .ofNat n => Nat.toDigits 10 n
  | .negSucc n => '-' :: Nat.toDigits 10 (n + 1)

mutual
def Value.chars : Value → List Char
  | .null => ['n', 'u', 'l', 'l']
  | .bool true => ['t', 'r', 'u', 'e']
  | .bool false => ['f', 'a', 'l', 's', 'e']
  | .int n => intChars n
  | .float x => x.chars
  | .str s => stringChars s
  | .arr [] => ['[', ']']
  | .arr (v :: vs) => '[' :: (v.chars ++ elementChars vs)
  | .obj [] => ['{', '}']
  | .obj ((k, v) :: ms) => '{' :: (stringChars k ++ ':' :: (v.chars ++ memberChars ms))

def elementChars : List Value → List Char
  | [] => [']']
  | v :: vs => ',' :: (v.chars ++ elementChars vs)

def memberChars : List (String × Value) → List Char
  | [] => ['}']
  | (k, v) :: ms => ',' :: (stringChars k ++ ':' :: (v.chars ++ memberChars ms))
end

def Value.render (v : Value) : String := String.ofList v.chars

/-! ## 読み取り -/

def skipSpace : List Char → List Char
  | [] => []
  | c :: cs => if c = ' ' ∨ c = '\n' ∨ c = '\t' ∨ c = '\r' then skipSpace cs else c :: cs

def hexValue (c : Char) : Option Nat :=
  if '0' ≤ c ∧ c ≤ '9' then some (c.toNat - 48)
  else if 'a' ≤ c ∧ c ≤ 'f' then some (c.toNat - 87)
  else if 'A' ≤ c ∧ c ≤ 'F' then some (c.toNat - 55)
  else none

/-- `\u` に続く四桁。 -/
def hex4 (a b c d : Char) : Option Nat := do
  return (((← hexValue a) * 16 + (← hexValue b)) * 16 + (← hexValue c)) * 16 + (← hexValue d)

def parseString : List Char → Option (List Char × List Char)
  | [] => none
  | '"' :: cs => some ([], cs)
  | '\\' :: '"' :: cs => (parseString cs).map fun p => ('"' :: p.1, p.2)
  | '\\' :: '\\' :: cs => (parseString cs).map fun p => ('\\' :: p.1, p.2)
  | '\\' :: '/' :: cs => (parseString cs).map fun p => ('/' :: p.1, p.2)
  | '\\' :: 'n' :: cs => (parseString cs).map fun p => ('\n' :: p.1, p.2)
  | '\\' :: 'r' :: cs => (parseString cs).map fun p => ('\r' :: p.1, p.2)
  | '\\' :: 't' :: cs => (parseString cs).map fun p => ('\t' :: p.1, p.2)
  | '\\' :: 'b' :: cs => (parseString cs).map fun p => (Char.ofNat 8 :: p.1, p.2)
  | '\\' :: 'f' :: cs => (parseString cs).map fun p => (Char.ofNat 12 :: p.1, p.2)
  | '\\' :: 'u' :: a :: b :: c :: d :: cs =>
    match hex4 a b c d with
    | none => none
    | some n =>
      if 0xD800 ≤ n ∧ n < 0xDC00 then
        match cs with
        | '\\' :: 'u' :: e :: f :: g :: h :: cs' =>
          match hex4 e f g h with
          | none => none
          | some m =>
            if 0xDC00 ≤ m ∧ m < 0xE000 then
              (parseString cs').map fun p =>
                (Char.ofNat (0x10000 + (n - 0xD800) * 1024 + (m - 0xDC00)) :: p.1, p.2)
            else none
        | _ => none
      else if 0xDC00 ≤ n ∧ n < 0xE000 then none
      else (parseString cs).map fun p => (Char.ofNat n :: p.1, p.2)
  | c :: cs =>
    if c = '\\' ∨ c.toNat < 32 then none
    else (parseString cs).map fun p => (c :: p.1, p.2)

def insertMember (k : String) (v : Value) : List (String × Value) → List (String × Value)
  | [] => [(k, v)]
  | (k', v') :: ms =>
    if k < k' then (k, v) :: (k', v') :: ms
    else if k = k' then (k, v) :: ms
    else (k', v') :: insertMember k v ms

/-- 負号の後の数を読む。整数でない数は `readFloat` で読む。 -/
def parseNumber (readFloat : NumberText → Option F64) (negative : Bool) (cs : List Char) :
    Option (Value × List Char) :=
  (scanNumber negative cs).bind fun number =>
    match number.1.toInt with
    | some n => some (.int n, number.2)
    | none => (readFloat number.1).map fun x => (.float x, number.2)

section Parser

variable (readFloat : NumberText → Option F64)

mutual
/-- `depth` は残りの入れ子の深さ、`fuel` は読む回数の上限。 -/
def parseValue : Nat → Nat → List Char → Option (Value × List Char)
  | 0, _, _ => none
  | fuel + 1, depth, cs =>
    match skipSpace cs with
    | 'n' :: 'u' :: 'l' :: 'l' :: rest => some (.null, rest)
    | 't' :: 'r' :: 'u' :: 'e' :: rest => some (.bool true, rest)
    | 'f' :: 'a' :: 'l' :: 's' :: 'e' :: rest => some (.bool false, rest)
    | '"' :: rest => (parseString rest).map fun p => (.str (String.ofList p.1), p.2)
    | '[' :: rest =>
      match depth with
      | 0 => none
      | depth + 1 =>
        match skipSpace rest with
        | ']' :: rest' => some (.arr [], rest')
        | rest' =>
          match parseValue fuel depth rest' with
          | none => none
          | some (v, more) => (parseElements fuel depth more).map fun p => (.arr (v :: p.1), p.2)
    | '{' :: rest =>
      match depth with
      | 0 => none
      | depth + 1 =>
        match skipSpace rest with
        | '}' :: rest' => some (.obj [], rest')
        | rest' => (parseMembers fuel depth [] rest').map fun p => (.obj p.1, p.2)
    | '-' :: rest => parseNumber readFloat true rest
    | rest => parseNumber readFloat false rest

def parseElements : Nat → Nat → List Char → Option (List Value × List Char)
  | 0, _, _ => none
  | fuel + 1, depth, cs =>
    match skipSpace cs with
    | ']' :: rest => some ([], rest)
    | ',' :: rest =>
      match parseValue fuel depth rest with
      | none => none
      | some (v, more) => (parseElements fuel depth more).map fun p => (v :: p.1, p.2)
    | _ => none

/-- 鍵から。`seen` はここまでの成員である。 -/
def parseMembers : Nat → Nat → List (String × Value) → List Char →
    Option (List (String × Value) × List Char)
  | 0, _, _, _ => none
  | fuel + 1, depth, seen, cs =>
    match skipSpace cs with
    | '"' :: rest =>
      match parseString rest with
      | none => none
      | some (k, more) =>
        match skipSpace more with
        | ':' :: rest' =>
          match parseValue fuel depth rest' with
          | none => none
          | some (v, tail) =>
            let seen' := insertMember (String.ofList k) v seen
            match skipSpace tail with
            | '}' :: tail' => some (seen', tail')
            | ',' :: tail' => parseMembers fuel depth seen' tail'
            | _ => none
        | _ => none
    | _ => none
end

end Parser

def maxDepth : Nat := 127

def parseWith (readFloat : NumberText → Option F64) (s : String) : Option Value :=
  match parseValue readFloat (2 * s.length + 2) maxDepth s.toList with
  | some (v, rest) => if skipSpace rest = [] then some v else none
  | none => none

def parse (s : String) : Option Value := parseWith F64.ofText s

mutual
def Value.beq : Value → Value → Bool
  | .null, .null => true
  | .bool a, .bool b => a == b
  | .int a, .int b => a == b
  | .float a, .float b => a.beq b
  | .str a, .str b => a == b
  | .arr as, .arr bs => elementsBeq as bs
  | .obj as, .obj bs => membersBeq as bs
  | _, _ => false

def elementsBeq : List Value → List Value → Bool
  | [], [] => true
  | a :: as, b :: bs => a.beq b && elementsBeq as bs
  | _, _ => false

def membersBeq : List (String × Value) → List (String × Value) → Bool
  | [], [] => true
  | (k, a) :: as, (l, b) :: bs => k == l && a.beq b && membersBeq as bs
  | _, _ => false
end

namespace Value

def get (key : String) : Value → Option Value
  | .obj ms => (ms.find? fun m => m.1 == key).map Prod.snd
  | _ => none

def asStr : Value → Option String
  | .str s => some s
  | _ => none

def asInt : Value → Option Int
  | .int n => some n
  | _ => none

def asU64 : Value → Option Nat
  | .int (.ofNat n) => if n ≤ u64Max then some n else none
  | _ => none

def asBool : Value → Option Bool
  | .bool b => some b
  | _ => none

/-- `/a/b/…` の形の経路をたどる。 -/
def pointer : List String → Value → Option Value
  | [], v => some v
  | key :: path, v => (v.get key).bind (pointer path)

def ofOption (o : Option Value) : Value := o.getD .null

def object (ms : List (String × Value)) : Value :=
  .obj (ms.foldl (fun acc m => insertMember m.1 m.2 acc) [])

end Value

end Codeoff.Json
