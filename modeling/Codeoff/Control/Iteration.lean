import Mathlib.Data.Set.Finite.Basic
import Mathlib.Logic.Relation

/-!
# 手掛かりをたどる繰り返し

一歩ごとに、次の手掛かりを得て続けるか、結果を得て終わる繰り返し。終わるのは、たどる手掛かりが有限個で、
どれも自分自身へ戻らないときであり、そのときに限る。
-/

namespace Codeoff.Control

variable {σ ρ κ : Type}

/-- 続ける間は `.inl`、終わるときは `.inr`。`n` 歩のうちに終わらなければ `none`。 -/
def iterate (step : σ → σ ⊕ ρ) : Nat → σ → Option ρ
  | 0, _ => none
  | n + 1, s =>
    match step s with
    | .inl s' => iterate step n s'
    | .inr r => some r

def Halts (step : σ → σ ⊕ ρ) (s : σ) : Prop := ∃ n r, iterate step n s = some r

@[simp] theorem iterate_zero (step : σ → σ ⊕ ρ) (s : σ) : iterate step 0 s = none := rfl

theorem iterate_inl {step : σ → σ ⊕ ρ} {s s' : σ} (h : step s = .inl s') (n : Nat) :
    iterate step (n + 1) s = iterate step n s' := by
  simp [iterate, h]

theorem iterate_inr {step : σ → σ ⊕ ρ} {s : σ} {r : ρ} (h : step s = .inr r) (n : Nat) :
    iterate step (n + 1) s = some r := by
  simp [iterate, h]

/-- 一歩ごとに減る量の分だけ燃料があれば、繰り返しは答えを出す。 -/
theorem iterate_of_measure {step : σ → σ ⊕ ρ} (size : σ → Nat)
    (hstep : ∀ s s', step s = .inl s' → size s' < size s) (s : σ) :
    ∃ r, iterate step (size s + 1) s = some r := by
  suffices h : ∀ n s, size s < n → ∃ r, iterate step n s = some r from h _ s (Nat.lt_succ_self _)
  intro n
  induction n with
  | zero => intro s hs; omega
  | succ n ih =>
    intro s hs
    cases h : step s with
    | inl s' =>
      have := hstep s s' h
      rw [iterate_inl h]
      exact ih s' (by omega)
    | inr r => exact ⟨r, iterate_inr h n⟩

/-- `k` から数えて `n` 番目の手掛かり。 -/
def nth (next : κ → Option κ) : Nat → κ → Option κ
  | 0, k => some k
  | n + 1, k => (nth next n k).bind next

@[simp] theorem nth_zero (next : κ → Option κ) (k : κ) : nth next 0 k = some k := rfl

theorem nth_add {next : κ → Option κ} {k k' : κ} {m : Nat} (h : nth next m k = some k') (n : Nat) :
    nth next (m + n) k = nth next n k' := by
  induction n with
  | zero => simp [h]
  | succ n ih => rw [← Nat.add_assoc, nth, ih, nth]

theorem nth_succ_some {next : κ → Option κ} {k k' : κ} (h : next k = some k') (n : Nat) :
    nth next (n + 1) k = nth next n k' := by
  rw [Nat.add_comm]
  exact nth_add (by simp [nth, h]) n

theorem nth_succ_none {next : κ → Option κ} {k : κ} (h : next k = none) (n : Nat) :
    nth next (n + 1) k = none := by
  induction n with
  | zero => simp [nth, h]
  | succ n ih => rw [nth, ih, Option.bind_none]

theorem nth_none_of_le {next : κ → Option κ} {k : κ} {m n : Nat} (h : nth next m k = none) (hle : m ≤ n) :
    nth next n k = none := by
  induction hle with
  | refl => exact h
  | step _ ih => rw [nth, ih, Option.bind_none]

theorem iterate_some_iff {step : σ → σ ⊕ ρ} {key : σ → κ} {next : κ → Option κ}
    (hkey : ∀ s, (step s).getLeft?.map key = next (key s)) (n : Nat) (s : σ) :
    (∃ r, iterate step n s = some r) ↔ nth next n (key s) = none := by
  induction n generalizing s with
  | zero => simp
  | succ n ih =>
    have hnext := hkey s
    cases h : step s with
    | inl s' =>
      rw [h] at hnext
      rw [iterate_inl h, ih s', nth_succ_some hnext.symm]
    | inr r =>
      rw [h] at hnext
      simp [iterate_inr h, nth_succ_none hnext.symm]

def Follows (next : κ → Option κ) (k k' : κ) : Prop := next k = some k'

theorem reaches_iff {next : κ → Option κ} {k k' : κ} :
    Relation.ReflTransGen (Follows next) k k' ↔ ∃ n, nth next n k = some k' := by
  constructor
  · intro h
    induction h with
    | refl => exact ⟨0, rfl⟩
    | tail _ hstep ih =>
      obtain ⟨n, hn⟩ := ih
      exact ⟨n + 1, by rw [nth, hn]; exact hstep⟩
  · rintro ⟨n, hn⟩
    induction n generalizing k' with
    | zero => cases hn; exact .refl
    | succ n ih =>
      obtain ⟨k'', hk, hstep⟩ := Option.bind_eq_some_iff.mp hn
      exact .tail (ih hk) hstep

theorem returns_iff {next : κ → Option κ} {k k' : κ} :
    Relation.TransGen (Follows next) k k' ↔ ∃ n, nth next (n + 1) k = some k' := by
  rw [Relation.TransGen.tail'_iff]
  constructor
  · rintro ⟨k'', hk, hstep⟩
    obtain ⟨n, hn⟩ := reaches_iff.mp hk
    exact ⟨n, by rw [nth, hn]; exact hstep⟩
  · rintro ⟨n, hn⟩
    obtain ⟨k'', hk, hstep⟩ := Option.bind_eq_some_iff.mp hn
    exact ⟨k'', reaches_iff.mpr ⟨n, hk⟩, hstep⟩

/-- `k` からたどる手掛かりは有限個で、どれも自分自身へ戻らない。 -/
structure WalkEnds (next : κ → Option κ) (k : κ) : Prop where
  finite : {k' | Relation.ReflTransGen (Follows next) k k'}.Finite
  acyclic : ∀ k', Relation.ReflTransGen (Follows next) k k' → ¬Relation.TransGen (Follows next) k' k'

theorem nth_mul {next : κ → Option κ} {k : κ} {n : Nat} (h : nth next n k = some k) (m : Nat) :
    nth next (n * m) k = some k := by
  induction m with
  | zero => rfl
  | succ m ih => rw [Nat.mul_succ, nth_add ih, h]

theorem walkEnds_of_nth_none {next : κ → Option κ} {k : κ} {n : Nat} (h : nth next n k = none) :
    WalkEnds next k where
  finite := by
    apply ((Finset.range n).finite_toSet.image fun i => (nth next i k).getD k).subset
    intro k' hk'
    obtain ⟨i, hi⟩ := reaches_iff.mp hk'
    have hlt : i < n := by
      by_contra hle
      rw [nth_none_of_le h (by omega)] at hi
      cases hi
    exact ⟨i, by simpa using hlt, by simp [hi]⟩
  acyclic := by
    intro k' hk' hback
    obtain ⟨i, hi⟩ := reaches_iff.mp hk'
    obtain ⟨p, hp⟩ := returns_iff.mp hback
    have hround := nth_mul hp n
    have hnone : nth next (i + (p + 1) * n) k = none :=
      nth_none_of_le h (by rw [Nat.succ_mul]; omega)
    rw [nth_add hi, hround] at hnone
    cases hnone

/-- 終わる歩みは、同じ鍵に戻らない。 -/
theorem WalkEnds.nth_ne {next : κ → Option κ} {k k' : κ} (h : WalkEnds next k) {i j : Nat}
    (hi : nth next i k = some k') (hlt : i < j) : nth next j k ≠ some k' := by
  intro hj
  obtain ⟨d, rfl⟩ := Nat.exists_eq_add_of_lt hlt
  apply h.acyclic k' (reaches_iff.mpr ⟨i, hi⟩)
  rw [Nat.add_assoc, nth_add hi] at hj
  exact returns_iff.mpr ⟨d, hj⟩

theorem WalkEnds.nth_none {next : κ → Option κ} {k : κ} (h : WalkEnds next k) : ∃ n, nth next n k = none := by
  by_contra hall
  have hsome : ∀ n, ∃ k', nth next n k = some k' := by
    intro n
    cases hn : nth next n k with
    | none => exact absurd ⟨n, hn⟩ hall
    | some k' => exact ⟨k', rfl⟩
  choose visited hvisited using hsome
  have hinj : Function.Injective visited := by
    intro i j heq
    rcases Nat.lt_trichotomy i j with hlt | rfl | hlt
    · exact absurd (heq ▸ hvisited j) (h.nth_ne (hvisited i) hlt)
    · rfl
    · exact absurd (heq ▸ hvisited i) (h.nth_ne (hvisited j) hlt)
  exact Set.infinite_of_injective_forall_mem hinj (fun n => reaches_iff.mpr ⟨n, hvisited n⟩) h.finite

/-- 繰り返しが止まるのは、鍵の歩みが終わるときに限る。 -/
theorem halts_iff_walkEnds {step : σ → σ ⊕ ρ} {key : σ → κ} {next : κ → Option κ}
    (hkey : ∀ s, (step s).getLeft?.map key = next (key s)) (s : σ) :
    Halts step s ↔ WalkEnds next (key s) := by
  constructor
  · rintro ⟨n, hr⟩
    exact walkEnds_of_nth_none ((iterate_some_iff hkey n s).mp hr)
  · intro h
    obtain ⟨n, hn⟩ := h.nth_none
    exact ⟨n, (iterate_some_iff hkey n s).mpr hn⟩

end Codeoff.Control
