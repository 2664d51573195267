import Codeoff.State.Theorems.Cadence
import Mathlib.Data.Int.LeastGreatest

/-!
# 毎日の予定と時間帯の切り替わり

毎日決まった時刻の式は、切り替わりのそれぞれをまたぐ隣り合う二つだけを調べる。
-/

namespace Codeoff.State

open Codeoff.Core Codeoff.Relational

/-- 時間帯。`changes` は切り替わりの瞬間と、その後の時差である。時差は分の倍数で、一日に満たない。 -/
structure TimeZone where
  initial : Int
  changes : List (Int × Int)
  ordered : changes.Pairwise fun c d => c.1 < d.1
  wholeMinutes : initial % 60 = 0 ∧ ∀ c ∈ changes, c.2 % 60 = 0
  bounded : (-86400 < initial ∧ initial < 86400) ∧ ∀ c ∈ changes, -86400 < c.2 ∧ c.2 < 86400

namespace TimeZone

variable {z : TimeZone} {L s t : Int}

/-- 時刻 `t` の時差。 -/
def offsetAt (z : TimeZone) (t : Int) : Int :=
  z.changes.foldl (fun offset c => if c.1 ≤ t then c.2 else offset) z.initial

/-- 時刻 `t` の、現地の時計の読み。 -/
def localTime (z : TimeZone) (t : Int) : Int := t + z.offsetAt t

theorem offsetAt_eq (hle : s ≤ t) (h : ∀ c ∈ z.changes, ¬(s < c.1 ∧ c.1 ≤ t)) : z.offsetAt s = z.offsetAt t := by
  suffices hfold : ∀ (changes : List (Int × Int)) (offset : Int), (∀ c ∈ changes, ¬(s < c.1 ∧ c.1 ≤ t)) →
      changes.foldl (fun offset c => if c.1 ≤ s then c.2 else offset) offset =
        changes.foldl (fun offset c => if c.1 ≤ t then c.2 else offset) offset from hfold z.changes z.initial h
  intro changes
  induction changes with
  | nil => exact fun _ _ => rfl
  | cons c changes ih =>
    intro offset hchanges
    obtain ⟨hc, hrest⟩ := List.forall_mem_cons.mp hchanges
    have hsame : c.1 ≤ s ↔ c.1 ≤ t := by omega
    simp only [List.foldl_cons, hsame]
    exact ih _ hrest

/-- 現地の時刻 `L` は、切り替わりで飛ばされ、飛んだ後の最初の瞬間 `t` に移される。 -/
def Lands (z : TimeZone) (L t : Int) : Prop :=
  (∀ s, z.localTime s ≠ L) ∧ IsLeast {t | L < z.localTime t} t

/-- 現地の時刻 `L` の発生時刻は `t` である。二度ある時刻なら、早いほうになる。 -/
def Occurs (z : TimeZone) (L t : Int) : Prop := IsLeast {t | z.localTime t = L} t ∨ z.Lands L t

/-- 現地の日ごとの、零時から `timeOfDay` 秒の発生時刻。 -/
def occurrences (z : TimeZone) (timeOfDay : Int) : Set Int := {t | ∃ day : Int, z.Occurs (day * 86400 + timeOfDay) t}

/-- 時計どおりの発生時刻。 -/
def plain (z : TimeZone) (timeOfDay : Int) : Set Int :=
  {t | ∃ day : Int, IsLeast {t | z.localTime t = day * 86400 + timeOfDay} t}

/-- 飛ばされた時刻の移された先。 -/
def landings (z : TimeZone) (timeOfDay : Int) : Set Int := {t | ∃ day : Int, z.Lands (day * 86400 + timeOfDay) t}

theorem mem_occurrences {timeOfDay : Int} :
    t ∈ z.occurrences timeOfDay ↔ t ∈ z.plain timeOfDay ∨ t ∈ z.landings timeOfDay :=
  exists_or

variable {timeOfDay : Int}

theorem Lands.change {L : Int} (h : z.Lands L t) : ∃ c ∈ z.changes, c.1 = t := by
  by_contra hnone
  simp only [not_exists, not_and] at hnone
  have hsame : z.offsetAt (t - 1) = z.offsetAt t := offsetAt_eq (by omega) fun c hc hcross => hnone c hc (by omega)
  have hbefore : ¬L < z.localTime (t - 1) := fun hlt => by
    have : t ≤ t - 1 := h.2.2 hlt
    omega
  have hnever := h.1 (t - 1)
  have hafter : L < z.localTime t := h.2.1
  simp only [localTime] at hbefore hnever hafter
  omega

/-- 切り替わりをまたがない隣り合う二つは、飛ばされた時刻から始まらなければ、一日以上離れる。 -/
theorem day_apart {a b : Int} (h : Consecutive (z.occurrences timeOfDay) a b)
    (hfree : ∀ c ∈ z.changes, ¬(a < c.1 ∧ c.1 ≤ b)) : a ∈ z.landings timeOfDay ∨ 86400 ≤ b - a := by
  rcases mem_occurrences.mp h.left with ⟨day, hlocal, _⟩ | hlands
  · rcases mem_occurrences.mp h.right with ⟨day', hlocal', _⟩ | ⟨day', hlands'⟩
    · right
      have hsame := offsetAt_eq h.lt.le hfree
      have hlt := h.lt
      replace hlocal : z.localTime a = day * 86400 + timeOfDay := hlocal
      replace hlocal' : z.localTime b = day' * 86400 + timeOfDay := hlocal'
      simp only [localTime] at hlocal hlocal'
      omega
    · obtain ⟨c, hc, rfl⟩ := hlands'.change
      exact absurd ⟨h.lt, le_refl c.1⟩ (hfree c hc)
  · exact .inl hlands

/-! ## croner の探す時刻 -/

variable {a b c : Int}

end TimeZone

/-! ## 調べる隣り合う二つ -/

section Daily

variable {lib : CronLibrary} {expression timezone : String} {z : TimeZone} {timeOfDay minimum : Int} {limit : Nat}

def cycleTransitions (z : TimeZone) : List Int :=
  (z.changes.map Prod.fst).filter fun t => gregorianCycleStart < t && t < gregorianCycleEnd

def checkpoints (z : TimeZone) : List Int :=
  gregorianCycleStart :: (cycleTransitions z ++ [gregorianCycleEnd - 1])

/-- 瞬間 `c` では、隣り合う `a` と `b` が比べられる。 -/
structure Compares (z : TimeZone) (timeOfDay c a b : Int) : Prop where
  before : a < c ∨ (a = c ∧ a ∉ z.plain timeOfDay)
  after : c < b ∨ (c = b ∧ b ∉ z.landings timeOfDay)

theorem Compares.unique {c a b a' b' : Int} (hab : Consecutive (z.occurrences timeOfDay) a b)
    (hab' : Consecutive (z.occurrences timeOfDay) a' b') (h : Compares z timeOfDay c a b)
    (h' : Compares z timeOfDay c a' b') : a' = a ∧ b' = b := by
  -- 違う二つは、片方の終わりがもう片方の始まりより遅くない
  have horder : ∀ {a b a' b' : Int}, Consecutive (z.occurrences timeOfDay) a b →
      Consecutive (z.occurrences timeOfDay) a' b' → Compares z timeOfDay c a b → Compares z timeOfDay c a' b' →
      ¬b ≤ a' := by
    intro a b a' b' hab hab' h h' hle
    have hafter : c ≤ b := by rcases h.after with h | h <;> omega
    have hbefore : a' ≤ c := by rcases h'.before with h | h <;> omega
    have hplain : a' ∉ z.plain timeOfDay := by
      rcases h'.before with hlt | ⟨_, hplain⟩
      · omega
      · exact hplain
    have hland : b ∉ z.landings timeOfDay := by
      rcases h.after with hlt | ⟨_, hland⟩
      · omega
      · exact hland
    obtain rfl : b = a' := by omega
    exact (TimeZone.mem_occurrences.mp hab.right).elim hplain hland
  have hstart : a' = a := by
    rcases hab.between a' hab'.left with hle | hle
    · rcases hab'.between a hab.left with hle' | hle'
      · omega
      · exact absurd hle' (horder hab' hab h' h)
    · exact absurd hle (horder hab hab' h h')
  subst hstart
  exact ⟨rfl, ((consecutive_iff_isLeast hab'.left).mp hab').unique ((consecutive_iff_isLeast hab.left).mp hab)⟩

variable {minute hour : String}

/-- 近すぎる二つを見落とす。どの瞬間でも比べないか、飛ばされた時刻から始まって一秒だけ足りない。 -/
def Overlooked (z : TimeZone) (timeOfDay minimum a b : Int) : Prop :=
  (∀ c ∈ checkpoints z, ¬Compares z timeOfDay c a b) ∨ (a ∉ z.plain timeOfDay ∧ b - a = minimum - 1)

/-- 見落とす二つは、下限が一日までなら、飛ばされた時刻から始まるか、飛ばされた時刻で終わる。 -/
theorem overlooked_lands {a b : Int} (hday : minimum ≤ 86400) (hab : Consecutive (z.occurrences timeOfDay) a b)
    (hlow : gregorianCycleStart ≤ a) (hhigh : b < gregorianCycleEnd) (hshort : b - a < minimum)
    (h : Overlooked z timeOfDay minimum a b) : a ∈ z.landings timeOfDay ∨ b ∈ z.landings timeOfDay := by
  rcases h with hnever | ⟨hplain, _⟩
  · by_cases hfree : ∀ c ∈ z.changes, ¬(a < c.1 ∧ c.1 ≤ b)
    · exact .inl ((TimeZone.day_apart hab hfree).resolve_right (by omega))
    · simp only [not_forall, not_not] at hfree
      obtain ⟨c, hc, hac, hcb⟩ := hfree
      have hchecked : c.1 ∈ checkpoints z := by
        refine List.mem_cons_of_mem _ (List.mem_append_left _ ?_)
        simp only [cycleTransitions, List.mem_filter, List.mem_map, Bool.and_eq_true, decide_eq_true_eq]
        exact ⟨⟨c, hc, rfl⟩, by omega, by omega⟩
      -- 切り替わりは、終わりが飛ばされた時刻でなければ、この二つを比べる
      by_contra hneither
      refine hnever c.1 hchecked ⟨.inl hac, ?_⟩
      rcases hcb.lt_or_eq with hlt | heq
      · exact .inl hlt
      · exact .inr ⟨heq, fun hland => hneither (.inr hland)⟩
  · exact .inl ((TimeZone.mem_occurrences.mp hab.left).resolve_left hplain)

end Daily

/-! ## 飛ばされる零時 -/

end Codeoff.State
