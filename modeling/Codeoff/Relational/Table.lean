import Mathlib.Data.List.Basic
import Mathlib.Data.List.Pairwise
import Mathlib.Data.List.Perm.Basic

/-!
# 制約つきの表

SQLite の表を、行のリストと、宣言された制約の証明の組として表す。CHECK は一行の条件、UNIQUE は二行の衝突
の関係である。
-/

namespace Codeoff.Relational

/-- 文が失敗した理由。`trigger` は RAISE(ABORT, …) の文言を持つ。`overflow` は、整数の列があふれて実数に
なり、読めなくなったこと。 -/
inductive Violation where
  | check
  | notNull
  | unique
  | foreignKey
  | overflow
  | trigger (message : String)
deriving DecidableEq, Repr

/-- 表の宣言。UNIQUE 制約（部分索引を含む）は、衝突する二行の対称な関係にまとめる。 -/
structure Schema (R : Type) where
  check : R → Bool
  conflict : R → R → Bool
  conflict_symm : ∀ a b, conflict a b = conflict b a

/-- 宣言 `S` の制約を満たす行の並び。 -/
@[ext]
structure Table {R : Type} (S : Schema R) where
  rows : List R
  checked : ∀ r ∈ rows, S.check r = true
  unique : rows.Pairwise fun a b => S.conflict a b = false

namespace Table

variable {R : Type} {S : Schema R}

def empty (S : Schema R) : Table S := ⟨[], by simp, List.Pairwise.nil⟩

def ofRows (S : Schema R) (rows : List R) : Except Violation (Table S) :=
  if hc : ∀ r ∈ rows, S.check r = true then
    if hu : rows.Pairwise fun a b => S.conflict a b = false then .ok ⟨rows, hc, hu⟩
    else .error .unique
  else .error .check

/-- 条件 `p` の行を `f` で書き換えた並び。 -/
def rewrite (p : R → Bool) (f : R → R) (rows : List R) : List R :=
  rows.map fun r => if p r then f r else r

/-- `update … set f where p`。`guard` は BEFORE UPDATE トリガで、拒むときはその文言を返す。 -/
def update (T : Table S) (guard : R → R → Option String) (p : R → Bool) (f : R → R) :
    Except Violation (Table S × Nat) :=
  match T.rows.findSome? fun r => if p r then guard r (f r) else none with
  | some message => .error (.trigger message)
  | none => (ofRows S (rewrite p f T.rows)).map fun T' => (T', T.rows.countP p)

/-- `insert into … values r`。`guard` は BEFORE INSERT トリガである。 -/
def insert (T : Table S) (guard : R → Option String) (r : R) : Except Violation (Table S) :=
  match guard r with
  | some message => .error (.trigger message)
  | none => ofRows S (T.rows ++ [r])

/-- `insert … on conflict do nothing`。衝突すれば表は変わらず、書いた行は 0 である。 -/
def insertOrIgnore (T : Table S) (guard : R → Option String) (r : R) :
    Except Violation (Table S × Nat) :=
  if S.check r = false then .error .check
  else if T.rows.any (S.conflict r) then .ok (T, 0)
  else (T.insert guard r).map fun T' => (T', 1)

/-- `delete from … where p`。 -/
def delete (T : Table S) (p : R → Bool) : Table S × Nat :=
  (⟨T.rows.filter (!p ·), fun r hr => T.checked r (List.mem_filter.mp hr).1,
    T.unique.sublist List.filter_sublist⟩, T.rows.countP p)

/-! ## 文の意味 -/

@[simp] theorem rows_empty : (empty S).rows = [] := rfl

theorem ofRows_eq_ok {rows : List R} {T : Table S} :
    ofRows S rows = .ok T ↔
      (∀ r ∈ rows, S.check r = true) ∧ (rows.Pairwise fun a b => S.conflict a b = false) ∧
        T.rows = rows := by
  unfold ofRows
  constructor
  · intro h
    split at h
    · rename_i hc
      split at h
      · rename_i hu
        cases h
        exact ⟨hc, hu, rfl⟩
      · cases h
    · cases h
  · rintro ⟨hc, hu, rfl⟩
    rw [dif_pos hc, dif_pos hu]

theorem mem_rewrite {p : R → Bool} {f : R → R} {rows : List R} {r : R} :
    r ∈ rewrite p f rows ↔ (∃ o ∈ rows, p o = true ∧ f o = r) ∨ (r ∈ rows ∧ p r = false) := by
  simp only [rewrite, List.mem_map]
  constructor
  · rintro ⟨o, ho, rfl⟩
    cases hp : p o with
    | true => exact .inl ⟨o, ho, hp, by simp⟩
    | false => exact .inr ⟨by simpa using ho, by simpa using hp⟩
  · rintro (⟨o, ho, hp, rfl⟩ | ⟨hr, hp⟩)
    · exact ⟨o, ho, by simp [hp]⟩
    · exact ⟨r, hr, by simp [hp]⟩

theorem update_eq_ok {T T' : Table S} {guard : R → R → Option String} {p : R → Bool} {f : R → R}
    {n : Nat} :
    T.update guard p f = .ok (T', n) ↔
      (∀ r ∈ T.rows, p r = true → guard r (f r) = none) ∧
      (∀ r ∈ T.rows, p r = true → S.check (f r) = true) ∧
      ((rewrite p f T.rows).Pairwise fun a b => S.conflict a b = false) ∧
      T'.rows = rewrite p f T.rows ∧ n = T.rows.countP p := by
  have hchk : (∀ r ∈ rewrite p f T.rows, S.check r = true) ↔
      ∀ r ∈ T.rows, p r = true → S.check (f r) = true := by
    constructor
    · intro h r hr hp
      exact h _ (mem_rewrite.mpr (.inl ⟨r, hr, hp, rfl⟩))
    · intro h r hr
      rcases mem_rewrite.mp hr with ⟨o, ho, hp, rfl⟩ | ⟨hr, _⟩
      · exact h o ho hp
      · exact T.checked r hr
  have hguard : (T.rows.findSome? fun r => if p r then guard r (f r) else none) = none ↔
      ∀ r ∈ T.rows, p r = true → guard r (f r) = none := by
    simp [List.findSome?_eq_none_iff]
  unfold update
  cases hg : T.rows.findSome? fun r => if p r then guard r (f r) else none with
  | some message =>
    simp only [reduceCtorEq, false_iff, not_and]
    intro h
    rw [hguard.mpr h] at hg
    cases hg
  | none =>
    have hg' := hguard.mp hg
    simp only [← hchk]
    constructor
    · intro h
      cases hr : ofRows S (rewrite p f T.rows) with
      | error e => rw [hr] at h; cases h
      | ok U =>
        rw [hr] at h
        cases h
        obtain ⟨h1, h2, h3⟩ := ofRows_eq_ok.mp hr
        exact ⟨hg', h1, h2, h3, rfl⟩
    · rintro ⟨_, h1, h2, h3, rfl⟩
      rw [ofRows_eq_ok.mpr ⟨h1, h2, h3⟩]
      rfl

theorem insert_eq_ok {T T' : Table S} {guard : R → Option String} {r : R} :
    T.insert guard r = .ok T' ↔
      guard r = none ∧ S.check r = true ∧ (∀ o ∈ T.rows, S.conflict o r = false) ∧
        T'.rows = T.rows ++ [r] := by
  unfold insert
  cases hg : guard r with
  | some message => simp
  | none =>
    simp only [ofRows_eq_ok, List.mem_append, List.mem_singleton, List.pairwise_append,
      List.pairwise_singleton, true_and]
    constructor
    · rintro ⟨hc, ⟨_, hu⟩, hrows⟩
      exact ⟨hc r (.inr rfl), fun o ho => hu o ho r rfl, hrows⟩
    · rintro ⟨hc, hu, hrows⟩
      refine ⟨?_, ⟨T.unique, fun a ha b hb => hb ▸ hu a ha⟩, hrows⟩
      rintro o (ho | rfl)
      · exact T.checked o ho
      · exact hc

/-- 条件 `p` の行を `f` で書き換えた表。書いた行の CHECK と UNIQUE は、後の表が持っている。 -/
structure Rewrites (T : Table S) (p : R → Bool) (f : R → R) (T' : Table S) : Prop where
  rows : T'.rows = rewrite p f T.rows

/-- 成功した `update` の前後の表。 -/
structure Updates (T : Table S) (guard : R → R → Option String) (p : R → Bool) (f : R → R)
    (T' : Table S) : Prop extends Rewrites T p f T' where
  guarded : ∀ r ∈ T.rows, p r = true → guard r (f r) = none

structure Appends (T : Table S) (r : R) (T' : Table S) : Prop where
  rows : T'.rows = T.rows ++ [r]

/-- 成功した `insert` の前後の表。 -/
structure Inserts (T : Table S) (guard : R → Option String) (r : R) (T' : Table S) : Prop
    extends Appends T r T' where
  guarded : guard r = none

/-- 一行 `a` を `b` に置き換えた表。 -/
structure Replaces (T : Table S) (a b : R) (T' : Table S) : Prop where
  mem_old : a ∈ T.rows
  mem : ∀ {o}, o ∈ T'.rows ↔ o = b ∨ (o ∈ T.rows ∧ o ≠ a)

/-- 更新が通るのは、引き金も検査も一意性も破らないときに限る。 -/
theorem update_ok {T T' : Table S} {guard : R → R → Option String} {p : R → Bool} {f : R → R}
    {n : Nat} :
    T.update guard p f = .ok (T', n) ↔ T.Updates guard p f T' ∧ n = T.rows.countP p := by
  rw [update_eq_ok]
  constructor
  · rintro ⟨hg, _, _, hrows, hn⟩
    exact ⟨⟨⟨hrows⟩, hg⟩, hn⟩
  · rintro ⟨⟨⟨hrows⟩, hg⟩, hn⟩
    refine ⟨hg, ?_, hrows ▸ T'.unique, hrows, hn⟩
    intro r hr hp
    exact T'.checked _ (hrows ▸ mem_rewrite.mpr (.inl ⟨r, hr, hp, rfl⟩))

/-- 挿入が通るのは、引き金も検査も一意性も破らないときに限る。 -/
theorem insert_ok {T T' : Table S} {guard : R → Option String} {r : R} :
    T.insert guard r = .ok T' ↔ T.Inserts guard r T' := by
  rw [insert_eq_ok]
  constructor
  · rintro ⟨hg, _, _, hrows⟩
    exact ⟨⟨hrows⟩, hg⟩
  · rintro ⟨⟨hrows⟩, hg⟩
    refine ⟨hg, T'.checked _ (by simp [hrows]), ?_, hrows⟩
    have hu := T'.unique
    rw [hrows, List.pairwise_append] at hu
    intro o ho
    exact hu.2.2 o ho r (by simp)

theorem insertOrIgnore_ok {T T' : Table S} {guard : R → Option String} {r : R} {n : Nat} :
    T.insertOrIgnore guard r = .ok (T', n) ↔
      S.check r = true ∧ ((n = 0 ∧ T' = T ∧ ∃ o ∈ T.rows, S.conflict r o = true) ∨
        (n = 1 ∧ T.Inserts guard r T')) := by
  unfold insertOrIgnore
  by_cases hc : S.check r = false
  · simp [hc]
  rw [if_neg hc]
  simp only [Bool.not_eq_false] at hc
  simp only [hc, true_and]
  by_cases hany : T.rows.any (S.conflict r) = true
  · rw [if_pos hany]
    have hex := List.any_eq_true.mp hany
    constructor
    · intro h
      cases h
      exact .inl ⟨rfl, rfl, hex⟩
    · rintro (⟨rfl, rfl, _⟩ | ⟨_, hins⟩)
      · rfl
      · obtain ⟨o, ho, hconf⟩ := hex
        have hu := T'.unique
        rw [hins.rows, List.pairwise_append] at hu
        have := hu.2.2 o ho r (by simp)
        rw [S.conflict_symm, hconf] at this
        cases this
  · rw [if_neg hany]
    constructor
    · intro h
      cases hins : T.insert guard r with
      | error v => rw [hins] at h; cases h
      | ok U =>
        rw [hins] at h
        cases h
        exact .inr ⟨rfl, insert_ok.mp hins⟩
    · rintro (⟨_, _, hex⟩ | ⟨rfl, hins⟩)
      · exact absurd (List.any_eq_true.mpr hex) hany
      · rw [insert_ok.mpr hins]
        rfl

theorem exists_updates {T : Table S} {guard : R → R → Option String} {p : R → Bool} {f : R → R}
    (hg : ∀ r ∈ T.rows, p r = true → guard r (f r) = none)
    (hc : ∀ r ∈ T.rows, p r = true → S.check (f r) = true)
    (hu : (rewrite p f T.rows).Pairwise fun a b => S.conflict a b = false) :
    ∃ T', T.Updates guard p f T' := by
  have hchk : ∀ r ∈ rewrite p f T.rows, S.check r = true := by
    intro r hr
    rcases mem_rewrite.mp hr with ⟨o, ho, hp, rfl⟩ | ⟨hr, _⟩
    · exact hc o ho hp
    · exact T.checked r hr
  exact ⟨⟨_, hchk, hu⟩, ⟨rfl⟩, hg⟩

theorem exists_inserts {T : Table S} {guard : R → Option String} {r : R} (hg : guard r = none)
    (hc : S.check r = true) (hu : ∀ o ∈ T.rows, S.conflict o r = false) :
    ∃ T', T.Inserts guard r T' := by
  have hchk : ∀ o ∈ T.rows ++ [r], S.check o = true := by
    intro o ho
    rcases List.mem_append.mp ho with ho | ho
    · exact T.checked o ho
    · exact List.mem_singleton.mp ho ▸ hc
  have huniq : (T.rows ++ [r]).Pairwise fun a b => S.conflict a b = false := by
    refine List.pairwise_append.mpr ⟨T.unique, List.pairwise_singleton _ _, ?_⟩
    intro a ha b hb
    exact List.mem_singleton.mp hb ▸ hu a ha
  exact ⟨⟨_, hchk, huniq⟩, ⟨rfl⟩, hg⟩

namespace Rewrites

variable {T T' : Table S} {p : R → Bool} {f : R → R}

theorem mem (h : T.Rewrites p f T') {r : R} :
    r ∈ T'.rows ↔ (∃ o ∈ T.rows, p o = true ∧ f o = r) ∨ (r ∈ T.rows ∧ p r = false) := by
  rw [h.rows, mem_rewrite]

theorem mem_of_not (h : T.Rewrites p f T') {r : R} (hr : r ∈ T.rows) (hp : p r = false) :
    r ∈ T'.rows := h.mem.mpr (.inr ⟨hr, hp⟩)

theorem mem_image (h : T.Rewrites p f T') {r : R} (hr : r ∈ T.rows) (hp : p r = true) :
    f r ∈ T'.rows := h.mem.mpr (.inl ⟨r, hr, hp, rfl⟩)

theorem kept (h : T.Rewrites p f T') {r : R} (hr : r ∈ T.rows) : f r ∈ T'.rows ∨ r ∈ T'.rows := by
  cases hp : p r with
  | true => exact .inl (h.mem_image hr hp)
  | false => exact .inr (h.mem_of_not hr hp)

theorem find? (h : T.Rewrites p f T') {q : R → Bool} (hold : ∀ r, p r = true → q r = false)
    (hnew : ∀ r, p r = true → q (f r) = false) : T'.rows.find? q = T.rows.find? q := by
  rw [h.rows, rewrite]
  induction T.rows with
  | nil => rfl
  | cons r rows ih =>
    rw [List.map_cons, List.find?_cons, List.find?_cons, ih]
    cases hp : p r with
    | true => simp [hold r hp, hnew r hp]
    | false => simp

theorem check (h : T.Rewrites p f T') {r : R} (hr : r ∈ T.rows) (hp : p r = true) :
    S.check (f r) = true := T'.checked _ (h.mem_image hr hp)

theorem replaces (h : T.Rewrites p f T') {a : R} (ha : a ∈ T.rows) (hp : p a = true)
    (hone : ∀ o ∈ T.rows, p o = true → o = a) : T.Replaces a (f a) T' := by
  refine ⟨ha, ?_⟩
  intro o
  rw [h.mem]
  constructor
  · rintro (⟨x, hx, hpx, rfl⟩ | ⟨ho, hpo⟩)
    · exact .inl (by rw [hone x hx hpx])
    · refine .inr ⟨ho, ?_⟩
      rintro rfl
      rw [hp] at hpo
      cases hpo
  · rintro (rfl | ⟨ho, hne⟩)
    · exact .inl ⟨a, ha, hp, rfl⟩
    · exact .inr ⟨ho, Bool.eq_false_iff.mpr fun hpo => hne (hone o ho hpo)⟩

end Rewrites

namespace Appends

variable {T T' : Table S} {r : R}

theorem mem (h : T.Appends r T') {o : R} : o ∈ T'.rows ↔ o ∈ T.rows ∨ o = r := by
  rw [h.rows, List.mem_append, List.mem_singleton]

theorem check (h : T.Appends r T') : S.check r = true := T'.checked _ (h.mem.mpr (.inr rfl))

theorem fresh (h : T.Appends r T') {o : R} (ho : o ∈ T.rows) : S.conflict o r = false := by
  have hu := T'.unique
  rw [h.rows, List.pairwise_append] at hu
  exact hu.2.2 o ho r (by simp)

end Appends

@[simp] theorem rows_delete (T : Table S) (p : R → Bool) :
    (T.delete p).1.rows = T.rows.filter (!p ·) := rfl

@[simp] theorem count_delete (T : Table S) (p : R → Bool) : (T.delete p).2 = T.rows.countP p := rfl

theorem eq_of_conflict (T : Table S) {a b : R} (ha : a ∈ T.rows) (hb : b ∈ T.rows)
    (h : S.conflict a b = true) : a = b := by
  by_contra hne
  have : Std.Symm fun x y => S.conflict x y = false := by
    constructor
    intro x y hxy
    rw [S.conflict_symm]
    exact hxy
  have := T.unique.forall ha hb hne
  rw [h] at this
  cases this

/-- 互いに衝突する行は、表に高々一つである。 -/
theorem countP_le_one (T : Table S) {p : R → Bool}
    (h : ∀ a ∈ T.rows, ∀ b ∈ T.rows, p a = true → p b = true → S.conflict a b = true) :
    T.rows.countP p ≤ 1 := by
  have key : ∀ rows : List R, (rows.Pairwise fun a b => S.conflict a b = false) →
      (∀ a ∈ rows, ∀ b ∈ rows, p a = true → p b = true → S.conflict a b = true) →
      rows.countP p ≤ 1 := by
    intro rows hu hc
    induction rows with
    | nil => simp
    | cons a rows ih =>
      have hu' := List.pairwise_cons.mp hu
      have ih' := ih hu'.2 fun x hx y hy =>
        hc x (List.mem_cons_of_mem _ hx) y (List.mem_cons_of_mem _ hy)
      by_cases hp : p a = true
      · have hzero : rows.countP p = 0 := by
          rw [List.countP_eq_zero]
          intro b hb hpb
          have h1 := hu'.1 b hb
          rw [hc a List.mem_cons_self b (List.mem_cons_of_mem _ hb) hp hpb] at h1
          cases h1
        simp [hzero, hp]
      · simpa [List.countP_cons, hp] using ih'
  exact key T.rows T.unique h

theorem countP_eq_one_iff (T : Table S) {p : R → Bool}
    (h : ∀ a ∈ T.rows, ∀ b ∈ T.rows, p a = true → p b = true → S.conflict a b = true) :
    T.rows.countP p = 1 ↔ ∃ r ∈ T.rows, p r = true := by
  have hle := T.countP_le_one h
  rw [← List.countP_pos_iff]
  omega

theorem pairwise_rewrite (T : Table S) {p : R → Bool} {f : R → R}
    (h : ∀ a ∈ T.rows, ∀ b ∈ T.rows, S.conflict a b = false →
      S.conflict (if p a then f a else a) (if p b then f b else b) = false) :
    (rewrite p f T.rows).Pairwise fun a b => S.conflict a b = false := by
  unfold rewrite
  rw [List.pairwise_map]
  exact T.unique.imp_of_mem fun ha hb hab => h _ ha _ hb hab

theorem update_one (T : Table S) (guard : R → R → Option String) {p : R → Bool} {f : R → R} {a : R}
    (ha : a ∈ T.rows) (hp : p a = true) (hone : ∀ o ∈ T.rows, p o = true → o = a)
    (hself : S.conflict a a = true) (hg : guard a (f a) = none) (hc : S.check (f a) = true)
    (hconf : ∀ o ∈ T.rows, o ≠ a → S.conflict a o = false → S.conflict (f a) o = false) :
    ∃ T', T.update guard p f = .ok (T', 1) ∧ T.Replaces a (f a) T' := by
  have hu : (rewrite p f T.rows).Pairwise fun x y => S.conflict x y = false := by
    refine T.pairwise_rewrite ?_
    intro x hx y hy hxy
    by_cases hpx : p x = true
    · obtain rfl := hone x hx hpx
      have hne : y ≠ x := by
        rintro rfl
        rw [hself] at hxy
        cases hxy
      rw [if_pos hpx, if_neg fun hpy => hne (hone y hy hpy)]
      exact hconf y hy hne hxy
    · rw [if_neg hpx]
      by_cases hpy : p y = true
      · obtain rfl := hone y hy hpy
        have hne : x ≠ y := by
          rintro rfl
          exact hpx hpy
        rw [if_pos hpy, S.conflict_symm]
        exact hconf x hx hne (by rw [S.conflict_symm]; exact hxy)
      · rw [if_neg hpy]
        exact hxy
  obtain ⟨T', hT'⟩ := T.exists_updates (fun r hr hpr => hone r hr hpr ▸ hg)
    (fun r hr hpr => hone r hr hpr ▸ hc) hu
  have hcount : T.rows.countP p = 1 := by
    refine (T.countP_eq_one_iff ?_).mpr ⟨a, ha, hp⟩
    intro x hx y hy hpx hpy
    rw [hone x hx hpx, hone y hy hpy]
    exact hself
  exact ⟨T', update_ok.mpr ⟨hT', hcount.symm⟩, hT'.toRewrites.replaces ha hp hone⟩

section Counts

variable {T T' : Table S} {a b : R}

theorem nodup (T : Table S) (hself : ∀ r, S.conflict r r = true) : T.rows.Nodup := by
  refine T.unique.imp ?_
  rintro x y hxy rfl
  rw [hself] at hxy
  cases hxy

/-- 一行の置き換えで変わる数は、その行の分だけである。 -/
theorem Replaces.countP (h : T.Replaces a b T') (hself : ∀ r, S.conflict r r = true)
    (hkey : S.conflict b a = true) (q : R → Bool) :
    T'.rows.countP q + (if q a then 1 else 0) = T.rows.countP q + (if q b then 1 else 0) := by
  classical
  have hfresh : b ∉ T.rows.erase a := by
    intro hb
    have hmem : b ∈ T.rows := List.mem_of_mem_erase hb
    rw [T.eq_of_conflict hmem h.mem_old hkey] at hb
    exact (T.nodup hself).not_mem_erase hb
  have hperm : List.Perm T'.rows (b :: T.rows.erase a) := by
    refine (List.perm_ext_iff_of_nodup (T'.nodup hself)
      (List.nodup_cons.mpr ⟨hfresh, (T.nodup hself).erase a⟩)).mpr ?_
    intro o
    rw [h.mem, List.mem_cons, (T.nodup hself).mem_erase_iff, and_comm]
  have hold := (List.perm_cons_erase h.mem_old).countP_eq q
  rw [hperm.countP_eq, hold, List.countP_cons, List.countP_cons]
  omega

theorem Replaces.countP_le (h : T.Replaces a b T') (hself : ∀ r, S.conflict r r = true)
    (hkey : S.conflict b a = true) (q : R → Bool) : T'.rows.countP q ≤ T.rows.countP q + 1 := by
  have := h.countP hself hkey q
  split at this <;> split at this <;> omega

theorem Appends.countP {r : R} (h : T.Appends r T') (q : R → Bool) :
    T'.rows.countP q = T.rows.countP q + if q r then 1 else 0 := by
  rw [h.rows, List.countP_append, List.countP_singleton]

end Counts

end Table

theorem find?_of_unique {α : Type} {q : α → Bool} {rows : List α} {x : α} (hx : x ∈ rows)
    (hq : ∀ o ∈ rows, q o = true ↔ o = x) : rows.find? q = some x := by
  cases hfound : rows.find? q with
  | none =>
    have := List.find?_eq_none.mp hfound x hx
    exact absurd ((hq x hx).mpr rfl) this
  | some o => rw [(hq o (List.mem_of_find?_eq_some hfound)).mp (List.find?_some hfound)]

/-- `order by … limit 1`。`before a b` は `a` が `b` より前に並ぶことである。 -/
def first {R : Type} (before : R → R → Bool) : List R → Option R
  | [] => none
  | r :: rows =>
    match first before rows with
    | none => some r
    | some best => if before best r then some best else some r

variable {R : Type} {before : R → R → Bool}

theorem first_mem {rows : List R} {r : R} (h : first before rows = some r) : r ∈ rows := by
  induction rows generalizing r with
  | nil => cases h
  | cons a rows ih =>
    simp only [first] at h
    split at h
    · cases h
      exact List.mem_cons_self
    · rename_i best hbest
      split at h
      · cases h
        exact List.mem_cons_of_mem _ (ih hbest)
      · cases h
        exact List.mem_cons_self

end Codeoff.Relational
