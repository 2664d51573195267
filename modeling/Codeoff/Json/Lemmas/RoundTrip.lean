import Codeoff.Json.Value

/-!
# 書き出した文面を読み戻すこと

f64 を含まず、深さ・整数の範囲・鍵の順が読み取りの限りに収まる値は、書き出した文面から同じ値に読み戻せる。f64 の文面は、整数としては
読めない。
-/

namespace Codeoff.Json

mutual
/-- f64 を含まず、残りの深さ `depth` で読み戻せる値。 -/
def Value.readable : Nat → Value → Bool
  | _, .null => true
  | _, .bool _ => true
  | _, .int n => -(2 ^ 63) ≤ n && n ≤ u64Max
  | _, .float _ => false
  | _, .str _ => true
  | 0, .arr _ => false
  | depth + 1, .arr values => elementsReadable depth values
  | 0, .obj _ => false
  | depth + 1, .obj members => membersReadable depth members

def elementsReadable : Nat → List Value → Bool
  | _, [] => true
  | depth, v :: vs => v.readable depth && elementsReadable depth vs

def membersReadable : Nat → List (String × Value) → Bool
  | _, [] => true
  | depth, (_, v) :: ms => v.readable depth && membersReadable depth ms
end

mutual
def Value.Sorted : Value → Prop
  | .arr values => ElementsSorted values
  | .obj members => MembersSorted members ∧ members.Pairwise fun a b => a.1 < b.1
  | _ => True

def ElementsSorted : List Value → Prop
  | [] => True
  | v :: vs => v.Sorted ∧ ElementsSorted vs

def MembersSorted : List (String × Value) → Prop
  | [] => True
  | (_, v) :: ms => v.Sorted ∧ MembersSorted ms
end

def Ends : List Char → Prop
  | [] => True
  | c :: _ => c = ',' ∨ c = ']' ∨ c = '}'

@[simp] theorem ends_elements (vs : List Value) (rest : List Char) : Ends (elementChars vs ++ rest) := by
  cases vs <;> simp [elementChars, Ends]

@[simp] theorem ends_members (ms : List (String × Value)) (rest : List Char) :
    Ends (memberChars ms ++ rest) := by
  cases ms with
  | nil => simp [memberChars, Ends]
  | cons m ms =>
    obtain ⟨k, v⟩ := m
    simp [memberChars, Ends]

theorem hexValue_hexDigit {n : Nat} (h : n < 16) : hexValue (hexDigit n) = some n := by
  have hall : ∀ m : Fin 16, hexValue (hexDigit m.val) = some m.val := by decide
  exact hall ⟨n, h⟩

theorem hex4_low {n : Nat} (h : n < 32) : hex4 '0' '0' (hexDigit (n / 16)) (hexDigit (n % 16)) = some n := by
  have hzero : hexValue '0' = some 0 := by decide
  simp only [hex4, hzero, hexValue_hexDigit (show n / 16 < 16 by omega),
    hexValue_hexDigit (show n % 16 < 16 by omega), bind, pure, Option.bind_some, Option.some.injEq]
  omega

/-- 一つの字の書き方は、その字だけに読み戻される。 -/
theorem parseString_escape (c : Char) (cs : List Char) :
    parseString (escapeChar c ++ cs) = (parseString cs).map fun p => (c :: p.1, p.2) := by
  unfold escapeChar
  split
  · rename_i h
    subst h
    rfl
  split
  · rename_i h
    subst h
    rfl
  split
  · rename_i h
    subst h
    rfl
  split
  · rename_i h
    subst h
    rfl
  split
  · rename_i h
    subst h
    rfl
  split
  · rename_i h
    subst h
    rfl
  split
  · rename_i h
    subst h
    rfl
  split
  · rename_i h
    have hsurrogate : ¬(0xD800 ≤ c.toNat ∧ c.toNat < 0xDC00) := by omega
    have hlow : ¬(0xDC00 ≤ c.toNat ∧ c.toNat < 0xE000) := by omega
    simp [parseString, hex4_low h, hsurrogate, hlow, Char.ofNat_toNat]
  · rename_i hquote hslash _ _ _ _ _ hcontrol
    simp only [List.singleton_append]
    rw [parseString.eq_def]
    split <;> simp_all

theorem parseString_flatMap (cs rest : List Char) :
    parseString (cs.flatMap escapeChar ++ '"' :: rest) = some (cs, rest) := by
  induction cs with
  | nil => simp [parseString]
  | cons c cs ih => rw [List.flatMap_cons, List.append_assoc, parseString_escape, ih, Option.map_some]

theorem spanDigits_append {ds rest : List Char} (hdigits : ∀ c ∈ ds, c.isDigit = true)
    (hrest : ∀ c ∈ rest.head?, c.isDigit = false) : spanDigits (ds ++ rest) = (ds, rest) := by
  induction ds with
  | nil =>
    cases rest with
    | nil => rfl
    | cons c cs => simp [spanDigits, hrest c rfl]
  | cons d ds ih =>
    have htail := ih fun c hc => hdigits c (List.mem_cons_of_mem d hc)
    simp [spanDigits, hdigits d List.mem_cons_self, htail]

theorem head_toDigits {n : Nat} (h : 0 < n) : (Nat.toDigits 10 n).head? ≠ some '0' := by
  induction n using Nat.strong_induction_on with
  | _ n ih =>
    by_cases hlt : n < 10
    · rw [Nat.toDigits_of_lt_base hlt]
      have hall : ∀ m : Fin 10, 0 < m.val → [m.val.digitChar].head? ≠ some '0' := by decide
      exact hall ⟨n, hlt⟩ h
    · rw [Nat.toDigits_of_base_le (by omega) (by omega), List.head?_append_of_ne_nil _ Nat.toDigits_ne_nil]
      exact ih (n / 10) (by omega) (by omega)

theorem leading_toDigits (n : Nat) :
    ¬((Nat.toDigits 10 n).head? = some '0' ∧ (Nat.toDigits 10 n).length ≠ 1) := by
  rintro ⟨hhead, hlength⟩
  cases n with
  | zero => simp [Nat.toDigits_zero] at hlength
  | succ n => exact head_toDigits n.succ_pos hhead

theorem scanNumber_of_digits {ds rest : List Char} {negative : Bool} (hdigits : ∀ c ∈ ds, c.isDigit = true)
    (hrest : ∀ c ∈ rest.head?, c.isDigit = false)
    (hleading : ¬(ds = [] ∨ (ds.head? = some '0' ∧ ds.length ≠ 1))) :
    scanNumber negative (ds ++ rest) = (scanFraction rest).bind fun p => (scanExponent p.2).map fun q =>
      (⟨negative, ds, p.1, q.1⟩, q.2) := by
  unfold scanNumber
  rw [spanDigits_append hdigits hrest]
  simp only [if_neg hleading]

/-- 十進の書き方は、区切りが続けば、その数に読み戻される。 -/
theorem scanNumber_toDigits (n : Nat) {negative : Bool} {rest : List Char} (hrest : Ends rest) :
    scanNumber negative (Nat.toDigits 10 n ++ rest) = some (⟨negative, Nat.toDigits 10 n, [], none⟩, rest) := by
  have hhead : ∀ c ∈ rest.head?, c.isDigit = false := by
    intro c hc
    cases rest with
    | nil => simp at hc
    | cons d ds =>
      obtain rfl : d = c := by simpa using hc
      rcases hrest with rfl | rfl | rfl <;> rfl
  have hleading : ¬(Nat.toDigits 10 n = [] ∨
      ((Nat.toDigits 10 n).head? = some '0' ∧ (Nat.toDigits 10 n).length ≠ 1)) := by
    rintro (hnil | hleading)
    · exact Nat.toDigits_ne_nil hnil
    · exact leading_toDigits n hleading
  rw [scanNumber_of_digits (fun c hc => Nat.isDigit_of_mem_toDigits (by omega) (by omega) hc) hhead hleading]
  cases rest with
  | nil => rfl
  | cons d ds => rcases hrest with rfl | rfl | rfl <;> rfl

theorem toDigits_cons (n : Nat) : ∃ d ds, Nat.toDigits 10 n = d :: ds ∧ d.isDigit = true := by
  cases hdigits : Nat.toDigits 10 n with
  | nil => exact absurd hdigits Nat.toDigits_ne_nil
  | cons d ds =>
    refine ⟨d, ds, rfl, Nat.isDigit_of_mem_toDigits (b := 10) (n := n) (by omega) (by omega) ?_⟩
    rw [hdigits]
    exact List.mem_cons_self

/-! ## f64 の文面 -/

/-- 整数のほかの数を読まない。 -/
def noFloat (_ : NumberText) : Option F64 := none

/-- 桁の列に、小数点か指数が続く。 -/
def Fractional (cs : List Char) : Prop :=
  ∃ ds c tail, cs = ds ++ c :: tail ∧ ds ≠ [] ∧ (∀ d ∈ ds, d.isDigit = true) ∧ (c = '.' ∨ c = 'e')

theorem Fractional.append {cs : List Char} (h : Fractional cs) (rest : List Char) : Fractional (cs ++ rest) := by
  obtain ⟨ds, c, tail, rfl, h⟩ := h
  exact ⟨ds, c, tail ++ rest, by simp, h⟩

theorem isDigit_of_mem_toDigits {n : Nat} {c : Char} (h : c ∈ Nat.toDigits 10 n) : c.isDigit = true :=
  Nat.isDigit_of_mem_toDigits (by omega) (by omega) h

/-- 十進の文面は、どの書き方でも小数点か指数を持つ。 -/
theorem decimalChars_fractional (d : Nat) (k : Int) : Fractional (F64.decimalChars d k) := by
  have hne : Nat.toDigits 10 d ≠ [] := Nat.toDigits_ne_nil
  have hdigits : ∀ c ∈ Nat.toDigits 10 d, c.isDigit = true := fun c hc => isDigit_of_mem_toDigits hc
  have htake (n : Nat) : (Nat.toDigits 10 d).take (n + 1) ≠ [] := by
    simp [hne]
  have htaken (n : Nat) : ∀ c ∈ (Nat.toDigits 10 d).take n, c.isDigit = true := fun c hc => hdigits c (List.mem_of_mem_take hc)
  have hzeros (n : Nat) : ∀ c ∈ F64.zeros n, c.isDigit = true := by
    intro c hc
    rw [List.eq_of_mem_replicate hc]
    rfl
  unfold F64.decimalChars
  dsimp only
  split_ifs
  · refine ⟨Nat.toDigits 10 d ++ F64.zeros k.toNat, '.', ['0'], by simp, by simp [hne], fun c hc => ?_, .inl rfl⟩
    rcases List.mem_append.mp hc with hc | hc
    · exact hdigits c hc
    · exact hzeros _ c hc
  · exact ⟨_, '.', _, rfl, htake _, htaken _, .inl rfl⟩
  · exact ⟨['0'], '.', _, rfl, by simp, by simp, .inl rfl⟩
  · exact ⟨_, 'e', _, rfl, hne, hdigits, .inr rfl⟩
  · exact ⟨_, '.', _, rfl, htake 0, htaken 1, .inl rfl⟩

theorem unsignedChars_fractional (x : F64) : Fractional x.unsignedChars := by
  unfold F64.unsignedChars
  split
  · exact ⟨['0'], '.', ['0'], rfl, by simp, by simp, .inl rfl⟩
  · exact decimalChars_fractional _ _

theorem chars_cons (x : F64) : ∃ c cs, x.chars = c :: cs ∧ (c = '-' ∨ c.isDigit = true) := by
  unfold F64.chars
  split
  · exact ⟨'-', _, rfl, .inl rfl⟩
  · obtain ⟨ds, c, tail, hchars, hne, hdigits, _⟩ := unsignedChars_fractional x
    obtain ⟨d, ds, rfl⟩ := List.exists_cons_of_ne_nil hne
    exact ⟨d, _, hchars, .inr (hdigits d List.mem_cons_self)⟩

/-- 整数だけを読む読み方は、小数点か指数のある数を読まない。 -/
theorem parseNumber_fractional (negative : Bool) {cs : List Char} (h : Fractional cs) :
    parseNumber noFloat negative cs = none := by
  obtain ⟨ds, c, tail, rfl, hne, hdigits, hc⟩ := h
  have hhead : ∀ d ∈ (c :: tail).head?, d.isDigit = false := by
    rintro d hd
    obtain rfl : c = d := by simpa using hd
    rcases hc with rfl | rfl <;> rfl
  unfold parseNumber
  by_cases hleading : ds = [] ∨ (ds.head? = some '0' ∧ ds.length ≠ 1)
  · have hnone : scanNumber negative (ds ++ c :: tail) = none := by
      unfold scanNumber
      rw [spanDigits_append hdigits hhead]
      simp only [if_pos hleading]
    rw [hnone]
    rfl
  · rw [scanNumber_of_digits hdigits hhead hleading]
    rcases hc with rfl | rfl
    · unfold scanFraction
      by_cases hdigit : (spanDigits tail).1 = []
      · simp [hdigit]
      · simp only [hdigit, if_false, Option.bind_some]
        cases scanExponent (spanDigits tail).2 <;> simp [NumberText.toInt, hdigit, noFloat]
    · have hfraction : scanFraction ('e' :: tail) = some ([], 'e' :: tail) := by
        unfold scanFraction
        split
        · rename_i heq
          cases heq
        · rfl
      simp only [hfraction, Option.bind_some, scanExponent, true_or, if_true]
      split <;> simp [NumberText.toInt, noFloat]

/-! ## 値 -/

variable {readFloat : NumberText → Option F64}

theorem skipSpace_digit {d : Char} (hd : d.isDigit = true) (cs : List Char) :
    skipSpace (d :: cs) = d :: cs := by
  have hspace : ¬(d = ' ' ∨ d = '\n' ∨ d = '\t' ∨ d = '\r') := by
    rintro (rfl | rfl | rfl | rfl) <;> exact absurd hd (by decide)
  simp only [skipSpace, if_neg hspace]

@[simp] theorem skipSpace_value (v : Value) (rest : List Char) :
    skipSpace (v.chars ++ rest) = v.chars ++ rest := by
  cases v with
  | null => simp [Value.chars, skipSpace]
  | bool b => cases b <;> simp [Value.chars, skipSpace]
  | int n =>
    cases n with
    | ofNat n =>
      obtain ⟨d, ds, hdigits, hd⟩ := toDigits_cons n
      simp only [Value.chars, intChars, hdigits, List.cons_append]
      exact skipSpace_digit hd _
    | negSucc n => simp [Value.chars, intChars, skipSpace]
  | float x =>
    obtain ⟨d, cs, hchars, hd⟩ := chars_cons x
    rw [Value.chars, hchars, List.cons_append]
    rcases hd with rfl | hd
    · simp [skipSpace]
    · exact skipSpace_digit hd _
  | str s => simp [Value.chars, stringChars, skipSpace]
  | arr values => cases values <;> simp [Value.chars, skipSpace]
  | obj members =>
    cases members with
    | nil => simp [Value.chars, skipSpace]
    | cons m ms =>
      obtain ⟨k, v⟩ := m
      simp [Value.chars, skipSpace]

theorem parseNumber_toDigits (n : Nat) (negative : Bool) {rest : List Char} (hrest : Ends rest) :
    parseNumber noFloat negative (Nat.toDigits 10 n ++ rest) =
      if negative then if 0 < n ∧ n ≤ 2 ^ 63 then some (.int (-n), rest) else none
      else if n ≤ u64Max then some (.int n, rest) else none := by
  unfold parseNumber
  rw [scanNumber_toDigits n hrest]
  simp only [Option.bind_eq_bind, Option.bind_some, NumberText.toInt, Nat.ofDigitChars_ten_toDigits]
  cases negative <;> simp <;> split_ifs <;> simp_all [noFloat]

theorem parseValue_negative {n fuel depth : Nat} {rest : List Char} (hrest : Ends rest) :
    parseValue noFloat (fuel + 1) depth ('-' :: (Nat.toDigits 10 (n + 1) ++ rest)) =
      if n + 1 ≤ 2 ^ 63 then some (.int (.negSucc n), rest) else none := by
  have hneg : (-((n : Int) + 1)) = Int.negSucc n := by omega
  simp [parseValue, skipSpace, parseNumber_toDigits (n + 1) true hrest, hneg]

theorem parseValue_digit {d : Char} {ds : List Char} {fuel depth : Nat} (hd : d.isDigit = true) :
    parseValue readFloat (fuel + 1) depth (d :: ds) = parseNumber readFloat false (d :: ds) := by
  rw [parseValue, skipSpace_digit hd]
  split
  all_goals try
    rename_i heq
    injection heq with hhead _
    subst hhead
    exact absurd hd (by decide)
  rfl

theorem parseValue_digits {n fuel depth : Nat} {rest : List Char} (hrest : Ends rest) :
    parseValue noFloat (fuel + 1) depth (Nat.toDigits 10 n ++ rest) =
      if n ≤ u64Max then some (.int n, rest) else none := by
  have hparse := parseNumber_toDigits n false hrest
  obtain ⟨d, ds, hdigits, hd⟩ := toDigits_cons n
  rw [hdigits, List.cons_append] at hparse ⊢
  rw [parseValue_digit hd, hparse]
  simp

theorem parseValue_float (x : F64) {fuel depth : Nat} {rest : List Char} :
    parseValue noFloat (fuel + 1) depth (x.chars ++ rest) = none := by
  have hnone := fun negative => parseNumber_fractional negative ((unsignedChars_fractional x).append rest)
  unfold F64.chars
  split
  · simp [parseValue, skipSpace, hnone]
  · obtain ⟨ds, c, tail, hchars, hne, hdigits, _⟩ := unsignedChars_fractional x
    obtain ⟨d, ds, rfl⟩ := List.exists_cons_of_ne_nil hne
    rw [hchars, List.cons_append, List.cons_append] at hnone ⊢
    rw [parseValue_digit (hdigits d List.mem_cons_self), hnone]

theorem value_ne_bracket (v : Value) (rest cs : List Char) : v.chars ++ rest ≠ ']' :: cs := by
  cases v with
  | null => simp [Value.chars]
  | bool b => cases b <;> simp [Value.chars]
  | int n =>
    cases n with
    | ofNat n =>
      obtain ⟨d, ds, hdigits, hd⟩ := toDigits_cons n
      simp only [Value.chars, intChars, hdigits, List.cons_append]
      intro h
      injection h with hhead _
      subst hhead
      exact absurd hd (by decide)
    | negSucc n => simp [Value.chars, intChars]
  | float x =>
    obtain ⟨d, ds, hchars, hd⟩ := chars_cons x
    rw [Value.chars, hchars, List.cons_append]
    intro h
    injection h with hhead _
    subst hhead
    rcases hd with hd | hd <;> exact absurd hd (by decide)
  | str s => simp [Value.chars, stringChars]
  | arr values => cases values <;> simp [Value.chars]
  | obj members =>
    cases members with
    | nil => simp [Value.chars]
    | cons m ms =>
      obtain ⟨k, v⟩ := m
      simp [Value.chars]

theorem insertMember_append {k : String} {v : Value} {seen : List (String × Value)}
    (h : ∀ m ∈ seen, m.1 < k) : insertMember k v seen = seen ++ [(k, v)] := by
  induction seen with
  | nil => rfl
  | cons m ms ih =>
    obtain ⟨k', v'⟩ := m
    have hlt : k' < k := h _ List.mem_cons_self
    have htail := ih fun m hm => h m (List.mem_cons_of_mem _ hm)
    simp [insertMember, hlt.not_gt, hlt.ne', htail]

mutual
theorem parseValue_chars {fuel depth : Nat} {rest : List Char} : ∀ v : Value, v.Sorted →
    v.chars.length ≤ fuel → Ends rest →
    parseValue noFloat fuel depth (v.chars ++ rest) = if v.readable depth then some (v, rest) else none := by
  intro v hv hfuel hrest
  cases fuel with
  | zero =>
    have hnil := List.length_eq_zero_iff.mp (Nat.le_zero.mp hfuel)
    have hspace := value_ne_bracket v [']'] []
    simp [hnil] at hspace
  | succ fuel =>
    match v with
    | .null => simp [Value.chars, Value.readable, parseValue, skipSpace]
    | .bool true => simp [Value.chars, Value.readable, parseValue, skipSpace]
    | .bool false => simp [Value.chars, Value.readable, parseValue, skipSpace]
    | .int (.ofNat n) =>
      have hlow : -(2 ^ 63) ≤ (Int.ofNat n) := by simp
      simp only [Value.chars, intChars, Value.readable, parseValue_digits hrest, hlow]
      simp
    | .int (.negSucc n) =>
      have hhigh : Int.negSucc n ≤ u64Max := by omega
      have hlow : -(2 ^ 63) ≤ Int.negSucc n ↔ n + 1 ≤ 2 ^ 63 := by omega
      simp only [Value.chars, intChars, Value.readable, List.cons_append, parseValue_negative hrest,
        hhigh, hlow]
      simp
    | .float x => simp [Value.chars, Value.readable, parseValue_float]
    | .str s =>
      simp [Value.chars, Value.readable, stringChars, parseValue, skipSpace, parseString_flatMap]
    | .arr [] => cases depth <;> simp [Value.chars, Value.readable, elementsReadable, parseValue, skipSpace]
    | .arr (v :: vs) =>
      cases depth with
      | zero => simp [Value.chars, Value.readable, parseValue, skipSpace]
      | succ depth =>
        obtain ⟨hfirst, hothers⟩ := hv
        simp only [Value.chars, List.length_cons, List.length_append] at hfuel
        have hvalue : parseValue noFloat fuel depth (v.chars ++ (elementChars vs ++ rest)) =
            if v.readable depth then some (v, elementChars vs ++ rest) else none :=
          parseValue_chars v hfirst (by omega) (by simp)
        have helements : parseElements noFloat fuel depth (elementChars vs ++ rest) =
            if elementsReadable depth vs then some (vs, rest) else none :=
          parseElements_chars vs hothers (by omega)
        have hopen : ∀ cs, v.chars ++ (elementChars vs ++ rest) ≠ ']' :: cs :=
          value_ne_bracket v (elementChars vs ++ rest)
        simp only [Value.readable, elementsReadable]
        by_cases hr : v.readable depth = true <;> by_cases hrs : elementsReadable depth vs = true <;>
          simp [Value.chars, parseValue, skipSpace, hvalue, helements, hr, hrs]
    | .obj [] => cases depth <;> simp [Value.chars, Value.readable, membersReadable, parseValue, skipSpace]
    | .obj ((k, v) :: ms) =>
      cases depth with
      | zero => simp [Value.chars, Value.readable, stringChars, parseValue, skipSpace]
      | succ depth =>
        obtain ⟨⟨hfirst, hothers⟩, hsorted⟩ := hv
        simp only [Value.chars, List.length_cons, List.length_append] at hfuel
        have hmembers : parseMembers noFloat fuel depth []
            (stringChars k ++ ':' :: (v.chars ++ (memberChars ms ++ rest))) =
            if membersReadable depth ((k, v) :: ms) then some ([] ++ (k, v) :: ms, rest) else none :=
          parseMembers_chars ((k, v) :: ms) [] ⟨hfirst, hothers⟩ hsorted
            (by simp only [memberChars, List.length_cons, List.length_append]; omega)
            (by simp [memberChars])
        simp only [Value.readable]
        by_cases hr : membersReadable depth ((k, v) :: ms) = true <;>
          simp [Value.chars, stringChars, parseValue, skipSpace, hr] at hmembers ⊢ <;> simp [hmembers]

theorem parseElements_chars {fuel depth : Nat} {rest : List Char} : ∀ vs : List Value,
    ElementsSorted vs → (elementChars vs).length ≤ fuel →
    parseElements noFloat fuel depth (elementChars vs ++ rest) =
      if elementsReadable depth vs then some (vs, rest) else none := by
  intro vs hvs hfuel
  cases fuel with
  | zero => cases vs <;> simp [elementChars] at hfuel
  | succ fuel =>
    match vs with
    | [] => simp [elementChars, elementsReadable, parseElements, skipSpace]
    | v :: vs =>
      obtain ⟨hfirst, hothers⟩ := hvs
      simp only [elementChars, List.length_cons, List.length_append] at hfuel
      have hvalue : parseValue noFloat fuel depth (v.chars ++ (elementChars vs ++ rest)) =
          if v.readable depth then some (v, elementChars vs ++ rest) else none :=
        parseValue_chars v hfirst (by omega) (by simp)
      have helements : parseElements noFloat fuel depth (elementChars vs ++ rest) =
          if elementsReadable depth vs then some (vs, rest) else none :=
        parseElements_chars vs hothers (by omega)
      simp only [elementsReadable]
      by_cases hr : v.readable depth = true <;> by_cases hrs : elementsReadable depth vs = true <;>
        simp [elementChars, parseElements, skipSpace, hvalue, helements, hr, hrs]

theorem parseMembers_chars {fuel depth : Nat} {rest cs : List Char} : ∀ ms seen : List (String × Value),
    MembersSorted ms → (seen ++ ms).Pairwise (fun a b => a.1 < b.1) →
    (memberChars ms).length ≤ fuel + 1 → memberChars ms ++ rest = ',' :: cs →
    parseMembers noFloat fuel depth seen cs =
      if membersReadable depth ms then some (seen ++ ms, rest) else none := by
  intro ms seen hms hsorted hfuel hcs
  match ms with
  | [] => simp [memberChars] at hcs
  | (k, v) :: ms =>
    obtain ⟨hfirst, hothers⟩ := hms
    simp only [memberChars, List.length_cons, List.length_append, stringChars] at hfuel
    obtain rfl : stringChars k ++ ':' :: (v.chars ++ (memberChars ms ++ rest)) = cs := by
      simpa [memberChars] using hcs
    cases fuel with
    | zero => omega
    | succ fuel =>
      have hvalue : parseValue noFloat fuel depth (v.chars ++ (memberChars ms ++ rest)) =
          if v.readable depth then some (v, memberChars ms ++ rest) else none :=
        parseValue_chars v hfirst (by omega) (by simp)
      have hseen : ∀ m ∈ seen, m.1 < k := fun m hm =>
        (List.pairwise_append.mp hsorted).2.2 m hm (k, v) List.mem_cons_self
      simp only [membersReadable]
      match ms with
      | [] =>
        by_cases hr : v.readable depth = true <;>
          simp [stringChars, parseMembers, skipSpace, parseString_flatMap, memberChars, hr] at hvalue ⊢ <;>
          simp [hvalue, insertMember_append hseen, skipSpace, membersReadable]
      | (k', v') :: ms =>
        have hmembers : parseMembers noFloat fuel depth (seen ++ [(k, v)])
            (stringChars k' ++ ':' :: (v'.chars ++ (memberChars ms ++ rest))) =
            if membersReadable depth ((k', v') :: ms) then
              some (seen ++ [(k, v)] ++ (k', v') :: ms, rest) else none :=
          parseMembers_chars ((k', v') :: ms) (seen ++ [(k, v)]) hothers
            (by simpa using hsorted) (by omega) (by simp [memberChars])
        by_cases hr : v.readable depth = true <;> by_cases hrs : membersReadable depth ((k', v') :: ms) = true <;>
          simp [stringChars, parseMembers, skipSpace, parseString_flatMap, memberChars, hr, hrs]
            at hvalue hmembers ⊢ <;>
          simp [hvalue, insertMember_append hseen, skipSpace, hmembers]
end

/-- 整数だけの読み方は、読み戻せる値だけを読み戻す。 -/
theorem parseWith_render {v : Value} (hv : v.Sorted) :
    parseWith noFloat v.render = if v.readable maxDepth then some v else none := by
  have hlength : v.render.length = v.chars.length := by simp [Value.render]
  have hvalue : parseValue noFloat (2 * v.chars.length + 2) maxDepth (v.chars ++ []) =
      if v.readable maxDepth then some (v, []) else none :=
    parseValue_chars v hv (by omega) trivial
  rw [List.append_nil] at hvalue
  unfold parseWith
  rw [hlength]
  by_cases hr : v.readable maxDepth = true <;> simp [Value.render, hvalue, hr, skipSpace]

/-! ## 整数のほかの数の読み方 -/

/-- `noFloat` で読めた文面は、どの読み方でも同じに読む。 -/
structure ReadsAlike (readFloat : NumberText → Option F64) (fuel : Nat) : Prop where
  value : ∀ {depth cs p}, parseValue noFloat fuel depth cs = some p → parseValue readFloat fuel depth cs = some p
  elements : ∀ {depth cs p}, parseElements noFloat fuel depth cs = some p →
    parseElements readFloat fuel depth cs = some p
  members : ∀ {depth seen cs p}, parseMembers noFloat fuel depth seen cs = some p →
    parseMembers readFloat fuel depth seen cs = some p

theorem parseNumber_alike {negative : Bool} {cs : List Char} {p : Value × List Char}
    (h : parseNumber noFloat negative cs = some p) : parseNumber readFloat negative cs = some p := by
  unfold parseNumber at h ⊢
  obtain ⟨q, hscan, h⟩ := Option.bind_eq_some_iff.mp h
  rw [hscan]
  cases hint : q.1.toInt with
  | none => simp [hint, noFloat] at h
  | some n => simpa [hint] using h

/-- 小数を読まない読み手の読めた文面は、小数を読む読み手も同じ値に読む。 -/
theorem ReadsAlike.value_succ {fuel depth : Nat} {cs : List Char} {p : Value × List Char}
    (ih : ReadsAlike readFloat fuel) (h : parseValue noFloat (fuel + 1) depth cs = some p) :
    parseValue readFloat (fuel + 1) depth cs = some p := by
  unfold parseValue at h ⊢
  generalize skipSpace cs = cs at h ⊢
  split at h
  · exact h
  · exact h
  · exact h
  · exact h
  · cases depth with
    | zero => cases h
    | succ depth =>
      dsimp only at h ⊢
      rename_i rest
      generalize skipSpace rest = rest at h ⊢
      split at h
      · exact h
      · split at h
        · cases h
        · rename_i hvalue
          obtain ⟨q, hq, rfl⟩ := Option.map_eq_some_iff.mp h
          simp [ih.value hvalue, ih.elements hq]
  · cases depth with
    | zero => cases h
    | succ depth =>
      dsimp only at h ⊢
      rename_i rest
      generalize skipSpace rest = rest at h ⊢
      split at h
      · exact h
      · obtain ⟨q, hq, rfl⟩ := Option.map_eq_some_iff.mp h
        simp [ih.members hq]
  · exact parseNumber_alike h
  · exact parseNumber_alike h

theorem ReadsAlike.elements_succ {fuel depth : Nat} {cs : List Char} {p : List Value × List Char}
    (ih : ReadsAlike readFloat fuel) (h : parseElements noFloat (fuel + 1) depth cs = some p) :
    parseElements readFloat (fuel + 1) depth cs = some p := by
  unfold parseElements at h ⊢
  generalize skipSpace cs = cs at h ⊢
  split at h
  · exact h
  · split at h
    · cases h
    · rename_i hvalue
      obtain ⟨q, hq, rfl⟩ := Option.map_eq_some_iff.mp h
      simp [ih.value hvalue, ih.elements hq]
  · cases h

theorem ReadsAlike.members_succ {fuel depth : Nat} {seen : List (String × Value)} {cs : List Char}
    {p : List (String × Value) × List Char} (ih : ReadsAlike readFloat fuel)
    (h : parseMembers noFloat (fuel + 1) depth seen cs = some p) :
    parseMembers readFloat (fuel + 1) depth seen cs = some p := by
  unfold parseMembers at h ⊢
  generalize skipSpace cs = cs at h ⊢
  split at h
  · dsimp only
    split at h
    · cases h
    · split at h
      · split at h
        · cases h
        · rename_i hvalue
          rw [ih.value hvalue]
          dsimp only at h ⊢
          split at h
          · exact h
          · exact ih.members h
          · cases h
      · cases h
  · cases h

theorem readsAlike (readFloat : NumberText → Option F64) (fuel : Nat) : ReadsAlike readFloat fuel := by
  induction fuel with
  | zero => constructor <;> intros <;> simp_all [parseValue, parseElements, parseMembers]
  | succ fuel ih => exact ⟨ih.value_succ, ih.elements_succ, ih.members_succ⟩

theorem parse_render {v : Value} (hsorted : v.Sorted) (hreadable : v.readable maxDepth = true) :
    parse v.render = some v := by
  have hread := parseWith_render hsorted
  rw [if_pos hreadable] at hread
  unfold parse parseWith at *
  split at hread
  · rename_i w rest hvalue
    rw [(readsAlike F64.ofText _).value hvalue]
    exact hread
  · cases hread

variable {k q : String} {v : Value} {ms : List (String × Value)}

theorem mem_insertMember {m : String × Value} (h : m ∈ insertMember k v ms) : m = (k, v) ∨ m ∈ ms := by
  induction ms with
  | nil => simpa [insertMember] using h
  | cons x xs ih =>
    obtain ⟨k', v'⟩ := x
    simp only [insertMember] at h
    split at h
    · simpa using h
    split at h
    · rcases List.mem_cons.mp h with rfl | h
      · exact .inl rfl
      · exact .inr (List.mem_cons_of_mem _ h)
    · rcases List.mem_cons.mp h with rfl | h
      · exact .inr List.mem_cons_self
      · exact (ih h).imp_right (List.mem_cons_of_mem _)

/-- 鍵の順を保って欄を入れる。 -/
theorem insertMember_sorted (h : ms.Pairwise fun a b => a.1 < b.1) :
    (insertMember k v ms).Pairwise fun a b => a.1 < b.1 := by
  induction ms with
  | nil => simp [insertMember]
  | cons x xs ih =>
    obtain ⟨k', v'⟩ := x
    obtain ⟨hhead, htail⟩ := List.pairwise_cons.mp h
    simp only [insertMember]
    split
    · rename_i hlt
      refine List.pairwise_cons.mpr ⟨?_, h⟩
      intro m hm
      rcases List.mem_cons.mp hm with rfl | hm
      · exact hlt
      · exact hlt.trans (hhead m hm)
    split
    · rename_i heq
      subst heq
      exact List.pairwise_cons.mpr ⟨hhead, htail⟩
    · rename_i hlt hne
      refine List.pairwise_cons.mpr ⟨?_, ih htail⟩
      intro m hm
      rcases mem_insertMember hm with rfl | hm
      · exact lt_of_le_of_ne (not_lt.mp hlt) (Ne.symm hne)
      · exact hhead m hm

theorem insertMember_membersSorted (hv : v.Sorted) (h : MembersSorted ms) :
    MembersSorted (insertMember k v ms) := by
  induction ms with
  | nil => exact ⟨hv, h⟩
  | cons x xs ih =>
    obtain ⟨k', v'⟩ := x
    obtain ⟨hfirst, hothers⟩ := h
    simp only [insertMember]
    split
    · exact ⟨hv, hfirst, hothers⟩
    split
    · exact ⟨hv, hothers⟩
    · exact ⟨hfirst, ih hothers⟩

theorem sorted_object (h : MembersSorted ms) : (Value.object ms).Sorted := by
  have hfold : ∀ seen : List (String × Value), (Value.obj seen).Sorted →
      (Value.obj (ms.foldl (fun acc m => insertMember m.1 m.2 acc) seen)).Sorted := by
    induction ms with
    | nil => exact fun seen hseen => hseen
    | cons m ms ih =>
      obtain ⟨hm, hms⟩ := h
      intro seen hseen
      obtain ⟨hmembers, hkeys⟩ := hseen
      exact ih hms _ ⟨insertMember_membersSorted hm hmembers, insertMember_sorted hkeys⟩
  exact hfold [] ⟨trivial, List.Pairwise.nil⟩

theorem get_insertMember : (Value.obj (insertMember k v ms)).get q =
    if k = q then some v else (Value.obj ms).get q := by
  simp only [Value.get]
  induction ms with
  | nil => by_cases h : k = q <;> simp [insertMember, h]
  | cons x xs ih =>
    obtain ⟨k', v'⟩ := x
    simp only [insertMember]
    split
    · by_cases h : k = q <;> simp [h]
    split
    · rename_i heq
      subst heq
      by_cases h : k = q <;> simp [h]
    · rename_i hne
      by_cases h' : k' = q
      · subst h'
        simp [hne]
      · simpa [h'] using ih

end Codeoff.Json
