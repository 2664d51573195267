import Mathlib.Data.List.Infix

/-!
# 覆いの走査

列を頭から走り、ある形で始まる位置ではその部分を決まった覆いに置き換えて、その先から続ける走査。
-/

namespace Codeoff.Control

variable {α : Type}

/-- `opens` の成り立つ位置で `mask` を書き、`skip` の指す残りから続ける。 -/
structure Scan (α : Type) where
  opens : List α → Bool
  mask : List α
  skip : List α → List α
  /-- 覆う部分は空でない。 -/
  skip_suffix : ∀ a as, opens (a :: as) = true → skip (a :: as) <:+ as

namespace Scan

variable {S : Scan α} {a : α} {as bs t u : List α}

/-- 残りの長さの上限 `n` のもとでの走査。 -/
def run (S : Scan α) : Nat → List α → List α
  | 0, as => as
  | _, [] => []
  | n + 1, a :: as =>
    if S.opens (a :: as) then S.mask ++ run S n (S.skip (a :: as)) else a :: run S n as

def apply (S : Scan α) (as : List α) : List α := S.run as.length as

@[simp] theorem run_nil (n : Nat) : S.run n [] = [] := by
  cases n <;> rfl

theorem induction {P : List α → Prop} (nil : P [])
    (opened : ∀ a as, S.opens (a :: as) = true → P (S.skip (a :: as)) → P (a :: as))
    (plain : ∀ a as, S.opens (a :: as) = false → P as → P (a :: as)) : ∀ as, P as := by
  suffices h : ∀ n as, as.length ≤ n → P as from fun as => h _ as (Nat.le_refl _)
  intro n
  induction n with
  | zero =>
    intro as hlength
    rw [List.length_eq_zero_iff.mp (Nat.le_zero.mp hlength)]
    exact nil
  | succ n ih =>
    intro as hlength
    cases as with
    | nil => exact nil
    | cons a as =>
      have htail : as.length ≤ n := Nat.le_of_succ_le_succ hlength
      cases hopens : S.opens (a :: as) with
      | true =>
        have hskip := (S.skip_suffix a as hopens).length_le
        exact opened a as hopens (ih _ (hskip.trans htail))
      | false => exact plain a as hopens (ih as htail)

theorem run_opened (h : S.opens (a :: as) = true) (n : Nat) :
    S.run (n + 1) (a :: as) = S.mask ++ S.run n (S.skip (a :: as)) := by
  rw [run, if_pos h]

theorem run_plain (h : S.opens (a :: as) = false) (n : Nat) : S.run (n + 1) (a :: as) = a :: S.run n as := by
  simp [run, h]

/-- 燃料が長さに足りれば、結果は燃料によらない。 -/
theorem run_eq {n m : Nat} (hn : as.length ≤ n) (hm : as.length ≤ m) : S.run n as = S.run m as := by
  induction as using S.induction generalizing n m with
  | nil => rw [run_nil, run_nil]
  | opened a as hopens ih =>
    have hskip := (S.skip_suffix a as hopens).length_le
    cases n with
    | zero => cases hn
    | succ n =>
      cases m with
      | zero => cases hm
      | succ m =>
        rw [List.length_cons] at hn hm
        rw [run_opened hopens, run_opened hopens, ih (n := n) (m := m) (by omega) (by omega)]
  | plain a as hopens ih =>
    cases n with
    | zero => cases hn
    | succ n =>
      cases m with
      | zero => cases hm
      | succ m =>
        rw [List.length_cons] at hn hm
        rw [run_plain hopens, run_plain hopens, ih (n := n) (m := m) (by omega) (by omega)]

theorem run_eq_apply {n : Nat} (hn : as.length ≤ n) : S.run n as = S.apply as := run_eq hn (Nat.le_refl _)

@[simp] theorem apply_nil : S.apply [] = [] := rfl

theorem apply_opened (h : S.opens (a :: as) = true) : S.apply (a :: as) = S.mask ++ S.apply (S.skip (a :: as)) := by
  have hskip := (S.skip_suffix a as h).length_le
  rw [apply, List.length_cons, run_opened h, run_eq_apply hskip]

theorem apply_plain (h : S.opens (a :: as) = false) : S.apply (a :: as) = a :: S.apply as := by
  rw [apply, List.length_cons, run_plain h, apply]

theorem apply_of_opens (hnil : S.opens [] = false) (h : S.opens as = true) :
    S.apply as = S.mask ++ S.apply (S.skip as) := by
  cases as with
  | nil => simp [hnil] at h
  | cons a as => exact apply_opened h

theorem prefix_of_apply {m : α} (hmask : S.mask.head? = some m) (hq : m ∉ bs) (h : bs <+: S.apply as) :
    bs <+: as := by
  induction as using S.induction generalizing bs with
  | nil => exact h
  | opened a as hopens ih =>
    cases bs with
    | nil => exact List.nil_prefix
    | cons b bs =>
      rw [apply_opened hopens] at h
      obtain ⟨ms, hms⟩ : ∃ ms, S.mask = m :: ms := by
        cases hlist : S.mask with
        | nil => simp [hlist] at hmask
        | cons x xs =>
          rw [hlist] at hmask
          exact ⟨xs, by rw [Option.some.inj hmask]⟩
      rw [hms, List.cons_append, List.cons_prefix_cons] at h
      exact absurd (h.1 ▸ List.mem_cons_self) hq
  | plain a as hopens ih =>
    cases bs with
    | nil => exact List.nil_prefix
    | cons b bs =>
      rw [apply_plain hopens, List.cons_prefix_cons] at h
      rw [List.cons_prefix_cons]
      exact ⟨h.1, ih (fun hm => hq (List.mem_cons_of_mem _ hm)) h.2⟩

theorem suffix_append_cases (h : t <:+ as ++ bs) : t <:+ bs ∨ ∃ m, t = m ++ bs ∧ m <:+ as := by
  obtain ⟨l, hl⟩ := h
  rcases List.append_eq_append_iff.mp hl with ⟨m, rfl, rfl⟩ | ⟨m, rfl, rfl⟩
  · exact .inr ⟨m, rfl, List.suffix_append l m⟩
  · exact .inl (List.suffix_append m t)

theorem suffix_of_apply (h : t <:+ S.apply as) (ht : t ≠ []) :
    (∃ m b bs, m ≠ [] ∧ m <:+ S.mask ∧ S.opens (b :: bs) = true ∧ t = m ++ S.apply (S.skip (b :: bs))) ∨
      ∃ b bs, b :: bs <:+ as ∧ S.opens (b :: bs) = false ∧ t = S.apply (b :: bs) := by
  induction as using S.induction with
  | nil => exact absurd (List.suffix_nil.mp h) ht
  | opened a as hopens ih =>
    rw [apply_opened hopens] at h
    have hskip : S.skip (a :: as) <:+ a :: as := (S.skip_suffix a as hopens).trans (List.suffix_cons a as)
    rcases suffix_append_cases h with hrest | ⟨m, rfl, hm⟩
    · refine (ih hrest).imp_right ?_
      rintro ⟨b, bs, hsuffix, hplain, heq⟩
      exact ⟨b, bs, hsuffix.trans hskip, hplain, heq⟩
    · cases m with
      | nil =>
        refine (ih (List.suffix_refl _)).imp_right ?_
        rintro ⟨b, bs, hsuffix, hplain, heq⟩
        exact ⟨b, bs, hsuffix.trans hskip, hplain, heq⟩
      | cons x m => exact .inl ⟨x :: m, a, as, List.cons_ne_nil x m, hm, hopens, rfl⟩
  | plain a as hopens ih =>
    rw [apply_plain hopens, List.suffix_cons_iff] at h
    rcases h with rfl | h
    · exact .inr ⟨a, as, List.suffix_refl _, hopens, (apply_plain hopens).symm⟩
    · refine (ih h).imp_right ?_
      rintro ⟨b, bs, hsuffix, hplain, heq⟩
      exact ⟨b, bs, hsuffix.trans (List.suffix_cons a as), hplain, heq⟩

/-- 開くところがどこも既に覆われていれば、何も変わらない。 -/
theorem apply_eq_self (h : ∀ t, t <:+ as → S.opens t = true → t = S.mask ++ S.skip t) : S.apply as = as := by
  induction as using S.induction with
  | nil => rfl
  | opened a as hopens ih =>
    have hskip : S.skip (a :: as) <:+ a :: as := (S.skip_suffix a as hopens).trans (List.suffix_cons a as)
    have hrest := ih fun t ht => h t (ht.trans hskip)
    rw [apply_opened hopens, hrest]
    exact (h _ (List.suffix_refl _) hopens).symm
  | plain a as hopens ih =>
    rw [apply_plain hopens, ih fun t ht => h t (ht.trans (List.suffix_cons a as))]

theorem apply_append (h : ∀ b ∈ u, ∀ l, S.opens (b :: l) = false) : S.apply (u ++ as) = u ++ S.apply as := by
  induction u with
  | nil => rfl
  | cons b u ih =>
    have hu : ∀ c ∈ u, ∀ l, S.opens (c :: l) = false := fun c hc => h c (List.mem_cons_of_mem _ hc)
    rw [List.cons_append, apply_plain (h b List.mem_cons_self _), ih hu, List.cons_append]

end Scan

end Codeoff.Control
