import Mathlib.Algebra.Ring.Periodic
import Mathlib.Data.Set.Card
import Mathlib.Order.Interval.Finset.Nat
import Mathlib.Tactic.Linarith
import Mathlib.Tactic.Ring

/-!
# 整数の時刻の集まり

時刻の集まりの隣り合う二つ、等間隔の時刻、周期を持つ集まり。
-/

namespace Codeoff.Core

variable {S : Set Int} {a b c t : Int}

/-- `a` と `b` は隣り合う。間に `S` の時刻はない。 -/
structure Consecutive (S : Set Int) (a b : Int) : Prop where
  left : a ∈ S
  right : b ∈ S
  lt : a < b
  between : ∀ t ∈ S, t ≤ a ∨ b ≤ t

theorem consecutive_iff_isLeast (ha : a ∈ S) : Consecutive S a b ↔ IsLeast {t | t ∈ S ∧ a < t} b := by
  constructor
  · intro h
    refine ⟨⟨h.right, h.lt⟩, fun t ⟨ht, hat⟩ => ?_⟩
    rcases h.between t ht with hle | hle
    · omega
    · exact hle
  · rintro ⟨⟨hb, hab⟩, hleast⟩
    refine ⟨ha, hb, hab, fun t ht => ?_⟩
    rcases le_or_gt t a with hle | hlt
    · exact .inl hle
    · exact .inr (hleast ⟨ht, hlt⟩)

theorem Consecutive.isLeast (h : Consecutive S a b) (hac : a < c) (hcb : c ≤ b) :
    IsLeast {t | t ∈ S ∧ c ≤ t} b := by
  refine ⟨⟨h.right, hcb⟩, fun t ⟨ht, hct⟩ => ?_⟩
  rcases h.between t ht with hle | hle
  · omega
  · exact hle

/-- `a` から `e` おきの時刻。 -/
def lattice (a e : Int) : Set Int := {t | ∃ k : Nat, t = a + k * e}

section Lattice

variable {e due now : Int}

theorem div_bounds (due now : Int) (he : 0 < e) : due + (now - due) / e * e ≤ now ∧ now < due + ((now - due) / e + 1) * e := by
  have hle := Int.ediv_mul_le (now - due) he.ne'
  have hlt := Int.lt_ediv_add_one_mul_self (now - due) he
  constructor <;> linarith

theorem lattice_add (hdue : due ∈ lattice a e) (n : Nat) : due + n * e ∈ lattice a e := by
  obtain ⟨k, rfl⟩ := hdue
  exact ⟨k + n, by push_cast; ring⟩

theorem lattice_sub (hdue : due ∈ lattice a e) (ht : t ∈ lattice a e) : ∃ m : Int, t = due + m * e := by
  obtain ⟨k, rfl⟩ := hdue
  obtain ⟨n, rfl⟩ := ht
  exact ⟨n - k, by ring⟩

theorem lattice_isGreatest (he : 0 < e) (hdue : due ∈ lattice a e) (hnow : due ≤ now) :
    IsGreatest {t | t ∈ lattice a e ∧ t ≤ now} (due + (now - due) / e * e) := by
  obtain ⟨hle, hlt⟩ := div_bounds due now he
  have hpos : 0 ≤ (now - due) / e := Int.ediv_nonneg (by omega) he.le
  refine ⟨⟨?_, hle⟩, ?_⟩
  · simpa [Int.toNat_of_nonneg hpos] using lattice_add hdue ((now - due) / e).toNat
  · rintro t ⟨ht, htnow⟩
    obtain ⟨m, rfl⟩ := lattice_sub hdue ht
    have hm : m < (now - due) / e + 1 := lt_of_mul_lt_mul_right (by linarith) he.le
    have := mul_le_mul_of_nonneg_right (Int.lt_add_one_iff.mp hm) he.le
    linarith

theorem lattice_isLeast (he : 0 < e) (hdue : due ∈ lattice a e) (hnow : due ≤ now) :
    IsLeast {t | t ∈ lattice a e ∧ now < t} (due + ((now - due) / e + 1) * e) := by
  obtain ⟨hle, hlt⟩ := div_bounds due now he
  have hpos : 0 ≤ (now - due) / e := Int.ediv_nonneg (by omega) he.le
  refine ⟨⟨?_, hlt⟩, ?_⟩
  · simpa [Int.toNat_of_nonneg hpos] using lattice_add hdue (((now - due) / e).toNat + 1)
  · rintro t ⟨ht, htnow⟩
    obtain ⟨m, rfl⟩ := lattice_sub hdue ht
    have hm : (now - due) / e < m := lt_of_mul_lt_mul_right (by linarith) he.le
    have := mul_le_mul_of_nonneg_right (Int.add_one_le_iff.mpr hm) he.le
    linarith

theorem lattice_ncard (he : 0 < e) (hdue : due ∈ lattice a e) (hnow : due ≤ now) :
    {t | t ∈ lattice a e ∧ due < t ∧ t ≤ now}.ncard = ((now - due) / e).toNat := by
  obtain ⟨hle, hlt⟩ := div_bounds due now he
  have hpos : 0 ≤ (now - due) / e := Int.ediv_nonneg (by omega) he.le
  have himage : {t | t ∈ lattice a e ∧ due < t ∧ t ≤ now} =
      (fun n : Nat => due + n * e) '' ↑(Finset.Icc 1 ((now - due) / e).toNat) := by
    ext t
    simp only [Set.mem_ofPred_eq, Set.mem_image, Finset.coe_Icc, Set.mem_Icc]
    constructor
    · rintro ⟨ht, hdt, htnow⟩
      obtain ⟨m, rfl⟩ := lattice_sub hdue ht
      have hm : 0 < m := pos_of_mul_pos_left (by linarith) he.le
      have hm' : m < (now - due) / e + 1 := lt_of_mul_lt_mul_right (by linarith) he.le
      exact ⟨m.toNat, by omega, by rw [Int.toNat_of_nonneg hm.le]⟩
    · rintro ⟨n, ⟨hn, hn'⟩, rfl⟩
      have hn'' : (n : Int) ≤ (now - due) / e := by omega
      have := mul_le_mul_of_nonneg_right hn'' he.le
      refine ⟨lattice_add hdue n, ?_, by linarith⟩
      have : 0 < (n : Int) * e := mul_pos (by omega) he
      linarith
  rw [himage, Set.ncard_image_of_injective _ ?_, Set.ncard_coe_finset, Nat.card_Icc]
  · omega
  · intro m n hmn
    have : (m : Int) * e = n * e := by simpa using hmn
    exact_mod_cast mul_right_cancel₀ he.ne' this

end Lattice

/-- 周期だけずらしても、隣り合う発生は隣り合う。 -/
theorem Consecutive.shift (hperiodic : Function.Periodic (· ∈ S) c) (h : Consecutive S a b) (n : Int) :
    Consecutive S (a + n * c) (b + n * c) := by
  have hmem (t : Int) : t + n * c ∈ S ↔ t ∈ S := iff_of_eq ((hperiodic.int_mul n) t)
  refine ⟨(hmem a).mpr h.left, (hmem b).mpr h.right, by linarith [h.lt], fun t ht => ?_⟩
  have hback : t - n * c ∈ S := (hmem _).mp (by simpa using ht)
  rcases h.between _ hback with hle | hle
  · exact .inl (by linarith)
  · exact .inr (by linarith)

end Codeoff.Core
