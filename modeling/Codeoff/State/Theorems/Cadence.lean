import Codeoff.Core.Occurrences
import Codeoff.Relational.Transaction
import Codeoff.State.Schedule

/-!
# 予定の間隔

等間隔の予定のまとめは、一つずつたどるまとめと同じ窓を返す。
-/

namespace Codeoff.State

open Codeoff.Core Codeoff.Relational

variable {anchor everySeconds due now : Int}

theorem orOverflow_ok {x : Option Int} {v : Int} : orOverflow x = .ok v ↔ x = some v := by
  cases x <;> simp [orOverflow]

theorem checkedMul_eq_some {a b c : Int} : checkedMul a b = some c ↔ inI64 (a * b) = true ∧ a * b = c :=
  checked_eq_some

theorem checkedDiv_eq_some {a b c : Int} (hb : 0 < b) :
    checkedDiv a b = some c ↔ inI64 (a.tdiv b) = true ∧ a.tdiv b = c := by
  rw [checkedDiv, if_neg hb.ne', checked_eq_some]

theorem nextFixedInterval_ok {k : Nat} {t : Int} (hpos : 0 < everySeconds)
    (h : nextFixedInterval anchor everySeconds (anchor + k * everySeconds) = .ok t) :
    t = anchor + (k + 1) * everySeconds ∧ inI64 t = true ∧ inI64 ((k + 1) * everySeconds) = true := by
  have hnonneg : 0 ≤ (k : Int) * everySeconds := mul_nonneg (by omega) hpos.le
  unfold nextFixedInterval at h
  rw [if_neg (by omega)] at h
  obtain ⟨elapsed, helapsed, h⟩ := except_bind_ok.mp h
  obtain ⟨_, rfl⟩ := checkedSub_eq_some.mp (orOverflow_ok.mp helapsed)
  obtain ⟨steps, hsteps, h⟩ := except_bind_ok.mp h
  obtain ⟨quotient, hquotient, hsteps⟩ := Option.bind_eq_some_iff.mp (orOverflow_ok.mp hsteps)
  obtain ⟨_, hquotient⟩ := (checkedDiv_eq_some hpos).mp hquotient
  have hk : quotient = k := by
    rw [← hquotient, add_sub_cancel_left, Int.mul_tdiv_cancel _ hpos.ne']
  subst hk
  obtain ⟨_, rfl⟩ := checkedAdd_eq_some.mp hsteps
  obtain ⟨offset, hoffset, h⟩ := except_bind_ok.mp h
  obtain ⟨hproduct, rfl⟩ := checkedMul_eq_some.mp (orOverflow_ok.mp hoffset)
  obtain ⟨ht, rfl⟩ := checkedAdd_eq_some.mp (orOverflow_ok.mp h)
  exact ⟨rfl, ht, hproduct⟩

theorem orOverflow_avoids (x : Option Int) : AvoidsError (· = OccurrenceError.noFutureOccurrence) (orOverflow x) := by
  cases x with
  | none => exact .error (by simp)
  | some v => exact .ok v

theorem nextFixedInterval_avoids {reference : Int} : AvoidsError (· = OccurrenceError.noFutureOccurrence)
    (nextFixedInterval anchor everySeconds reference) := by
  unfold nextFixedInterval
  split
  · exact .ok anchor
  · exact (orOverflow_avoids _).bind fun _ => (orOverflow_avoids _).bind fun _ =>
      (orOverflow_avoids _).bind fun _ => orOverflow_avoids _

/-- 等間隔の予定の窓。`n` は飛ばした回数である。 -/
def fixedWindow (due everySeconds : Int) (n : Nat) : OccurrenceWindow where
  scheduledFor := due
  coalescedThrough := due + n * everySeconds
  skippedCount := n
  skippedCountSaturated := false
  nextRunAt := some (due + (n + 1) * everySeconds)

/-- 一つずつたどるまとめの窓。たどった回数を `n` とすれば、次の時刻とその `anchor` からの差は、あふれていない。 -/
theorem coalesceSteps_fixed {k : Nat} {w : OccurrenceWindow} (hpos : 0 < everySeconds)
    (hdue : due = anchor + k * everySeconds) {steps n : Nat} (hn : n + steps ≤ u32Max)
    (hnow : due + n * everySeconds ≤ now)
    (h : coalesceSteps (nextFixedInterval anchor everySeconds) due now steps (due + n * everySeconds) n = .ok w) :
    ∃ m : Nat, m < u32Max ∧ w = fixedWindow due everySeconds m ∧ due + m * everySeconds ≤ now ∧
      now < due + (m + 1) * everySeconds ∧ inI64 (due + (m + 1) * everySeconds) = true ∧
      inI64 ((k + m + 1) * everySeconds) = true := by
  induction steps generalizing n with
  | zero => simp [coalesceSteps] at h
  | succ steps ih =>
    have hcurrent : due + n * everySeconds = anchor + (k + n : Nat) * everySeconds := by
      rw [hdue]
      push_cast
      ring
    unfold coalesceSteps at h
    cases hnext : nextFixedInterval anchor everySeconds (due + n * everySeconds) with
    | error e =>
      rw [hnext] at h
      cases e with
      | noFutureOccurrence => exact absurd rfl (nextFixedInterval_avoids _ hnext)
      | arithmeticOverflow => cases h
      | searchExhausted => cases h
    | ok t =>
      rw [hnext] at h
      rw [hcurrent] at hnext
      obtain ⟨ht, hin, hoffset⟩ := nextFixedInterval_ok hpos hnext
      have htdue : t = due + (n + 1) * everySeconds := by
        rw [ht, hdue]
        push_cast
        ring
      subst htdue
      dsimp only at h
      split at h
      · rename_i hlater
        cases h
        exact ⟨n, by omega, rfl, hnow, hlater, hin, by exact_mod_cast hoffset⟩
      · rename_i hearlier
        rw [min_eq_left (by omega)] at h
        exact ih (n := n + 1) (by omega) (by push_cast; omega) (by exact_mod_cast h)

/-! ## 一度に求める -/

/-- 一度に求めた窓は、`due` から `now` までの間隔の数で決まる。 -/
theorem coalesceFixedInterval_ok {w : OccurrenceWindow} (hpos : 0 < everySeconds) (hnow : due ≤ now)
    (h : coalesceFixedInterval due now everySeconds = .ok w) :
    w.scheduledFor = due ∧ w.coalescedThrough = due + (now - due) / everySeconds * everySeconds ∧
      w.nextRunAt = some (due + ((now - due) / everySeconds + 1) * everySeconds) ∧
      w.skippedCount = min ((now - due) / everySeconds).toNat u32Max ∧
      w.skippedCountSaturated = decide ((u32Max : Int) < (now - due) / everySeconds) := by
  unfold coalesceFixedInterval at h
  obtain ⟨elapsed, helapsed, h⟩ := except_bind_ok.mp h
  obtain ⟨_, rfl⟩ := checkedSub_eq_some.mp (orOverflow_ok.mp helapsed)
  obtain ⟨skipped, hskipped, h⟩ := except_bind_ok.mp h
  obtain ⟨_, hquotient⟩ := (checkedDiv_eq_some hpos).mp (orOverflow_ok.mp hskipped)
  rw [Int.tdiv_eq_ediv_of_nonneg (by omega)] at hquotient
  have hnonneg : 0 ≤ skipped := hquotient ▸ Int.ediv_nonneg (by omega) hpos.le
  obtain ⟨offset, hoffset, h⟩ := except_bind_ok.mp h
  obtain ⟨_, rfl⟩ := checkedMul_eq_some.mp (orOverflow_ok.mp hoffset)
  obtain ⟨through, hthrough, h⟩ := except_bind_ok.mp h
  obtain ⟨_, rfl⟩ := checkedAdd_eq_some.mp (orOverflow_ok.mp hthrough)
  obtain ⟨next, hnext, h⟩ := except_bind_ok.mp h
  obtain ⟨_, rfl⟩ := checkedAdd_eq_some.mp (orOverflow_ok.mp hnext)
  cases h
  rw [hquotient]
  refine ⟨rfl, rfl, by ring_nf, ?_, rfl⟩
  dsimp only
  split <;> omega

theorem coalesceFixedInterval_of {m : Nat} (hpos : 0 < everySeconds) (hm : m < u32Max) (hdue : inI64 due = true)
    (hnow : inI64 now = true) (hle : due + m * everySeconds ≤ now) (hlt : now < due + (m + 1) * everySeconds)
    (hnext : inI64 (due + (m + 1) * everySeconds) = true) (hspan : (m + 1) * everySeconds ≤ i64Max) :
    coalesceFixedInterval due now everySeconds = .ok (fixedWindow due everySeconds m) := by
  have hnonneg : 0 ≤ (m : Int) * everySeconds := mul_nonneg (by omega) hpos.le
  have hstep : ((m : Int) + 1) * everySeconds = m * everySeconds + everySeconds := by ring
  rw [inI64_iff] at hdue hnow hnext
  have hmax : (u32Max : Int) ≤ i64Max ∧ i64Min ≤ 0 := by decide
  have helapsed : checkedSub now due = some (now - due) :=
    checkedSub_eq_some.mpr ⟨inI64_iff.mpr ⟨by omega, by omega⟩, rfl⟩
  have hquotient : (now - due).tdiv everySeconds = m := by
    rw [Int.tdiv_eq_ediv_of_nonneg (by omega)]
    apply Int.le_antisymm
    · exact Int.lt_add_one_iff.mp ((Int.ediv_lt_iff_lt_mul hpos).mpr (by omega))
    · exact (Int.le_ediv_iff_mul_le hpos).mpr (by omega)
  have hskipped : checkedDiv (now - due) everySeconds = some (m : Int) :=
    (checkedDiv_eq_some hpos).mpr ⟨by rw [hquotient, inI64_iff]; omega, hquotient⟩
  have hoffset : checkedMul m everySeconds = some (m * everySeconds) :=
    checkedMul_eq_some.mpr ⟨inI64_iff.mpr ⟨by omega, by omega⟩, rfl⟩
  have hthrough : checkedAdd due (m * everySeconds) = some (due + m * everySeconds) :=
    checkedAdd_eq_some.mpr ⟨inI64_iff.mpr ⟨by omega, by omega⟩, rfl⟩
  have hnextRun : checkedAdd (due + m * everySeconds) everySeconds = some (due + (m + 1) * everySeconds) :=
    checkedAdd_eq_some.mpr ⟨inI64_iff.mpr ⟨by omega, by omega⟩, by ring⟩
  have hcount : ¬(m : Int) > u32Max := by omega
  simp only [coalesceFixedInterval, helapsed, hskipped, hoffset, hthrough, hnextRun, orOverflow, bind, Except.bind,
    pure, Except.pure, fixedWindow, hcount, decide_false, Int.toNat_natCast]
  rw [if_pos (by omega)]

/-- 一度に求めるまとめは、一つずつたどるまとめと同じで、窓は等間隔の時刻を正しく数える。 -/
theorem coalesce_fixed_interval_exact (lib : CronLibrary) {k maxSteps : Nat} (hpos : 0 < everySeconds)
    (hdueI64 : inI64 due = true) (hnowI64 : inI64 now = true) (hdue : due = anchor + k * everySeconds)
    (hnow : due ≤ now) (hsteps : maxSteps ≤ u32Max) :
    (∀ w, coalesceSteps ((ScheduleSpec.fixedInterval anchor everySeconds).nextAfter lib) due now maxSteps due 0 =
        .ok w → coalesceFixedInterval due now everySeconds = .ok w) ∧
      ∀ w, coalesceFixedInterval due now everySeconds = .ok w →
        IsGreatest {t | t ∈ lattice anchor everySeconds ∧ t ≤ now} w.coalescedThrough ∧
        (∃ next, w.nextRunAt = some next ∧ IsLeast {t | t ∈ lattice anchor everySeconds ∧ now < t} next) ∧
        w.skippedCount = min {t | t ∈ lattice anchor everySeconds ∧ due < t ∧ t ≤ now}.ncard u32Max ∧
        (w.skippedCountSaturated = true ↔
          u32Max < {t | t ∈ lattice anchor everySeconds ∧ due < t ∧ t ≤ now}.ncard) := by
  have hmem : due ∈ lattice anchor everySeconds := ⟨k, hdue⟩
  constructor
  · intro w h
    have hloop : coalesceSteps (nextFixedInterval anchor everySeconds) due now maxSteps
        (due + (0 : Nat) * everySeconds) 0 = .ok w := by
      rw [Nat.cast_zero, zero_mul, add_zero]
      exact h
    obtain ⟨m, hm, rfl, hle, hlt, hnext, hspan⟩ :=
      coalesceSteps_fixed hpos hdue (by omega) (by simpa using hnow) hloop
    have hle' : ((m : Int) + 1) * everySeconds ≤ (k + m + 1) * everySeconds :=
      mul_le_mul_of_nonneg_right (by omega) hpos.le
    exact coalesceFixedInterval_of hpos hm hdueI64 hnowI64 hle hlt hnext (hle'.trans (inI64_iff.mp hspan).2)
  · intro w h
    obtain ⟨_, hthrough, hnext, hcount, hsaturated⟩ := coalesceFixedInterval_ok hpos hnow h
    rw [lattice_ncard hpos hmem hnow]
    refine ⟨hthrough ▸ lattice_isGreatest hpos hmem hnow, ⟨_, hnext, lattice_isLeast hpos hmem hnow⟩, hcount, ?_⟩
    rw [hsaturated, decide_eq_true_eq]
    omega

def emptyLibrary : CronLibrary where
  parses _ := false
  timezone _ := none
  findNext _ _ _ _ := none
  findPrevious _ _ _ _ := none
  transitions _ _ _ _ := none
  supportsTimestamp _ := false

/-- 一分おきの予定が 200 秒遅れて起きれば、一歩ずつ数えても式でも、二回分をまとめる。 -/
theorem minutely_windows_agree :
    coalesceSteps ((ScheduleSpec.fixedInterval 0 60).nextAfter emptyLibrary) 60 200 10 60 0 =
        .ok (fixedWindow 60 60 2) ∧
      coalesceFixedInterval 60 200 60 = .ok (fixedWindow 60 60 2) := by
  have hloop : coalesceSteps ((ScheduleSpec.fixedInterval 0 60).nextAfter emptyLibrary) 60 200 10 60 0 =
      .ok (fixedWindow 60 60 2) := rfl
  exact ⟨hloop, (coalesce_fixed_interval_exact (k := 1) emptyLibrary (by decide) (by decide) (by decide) (by decide)
    (by decide) (by decide)).1 _ hloop⟩

/-! ## 400 年の周期 -/

section Cycle

variable {S : Set Int} {next : Int → Option Int} {minimum : Int}

/-- `next` は、真に後の最初の時刻を返す。 -/
def NextOf (S : Set Int) (next : Int → Option Int) : Prop := ∀ r t, next r = some t ↔ IsLeast {t | t ∈ S ∧ r < t} t

/-- 周期の初めから `r` までの時刻を調べ終えた。`f` は周期の最初の時刻である。 -/
structure Scanned (S : Set Int) (minimum f r : Int) : Prop where
  first : IsLeast {t | t ∈ S ∧ gregorianCycleStart ≤ t} f
  last : r ∈ S
  le : f ≤ r
  inside : r < gregorianCycleEnd
  gaps : ∀ a b, Consecutive S a b → f ≤ a → b ≤ r → minimum ≤ b - a

theorem Scanned.step {f r t : Int} (h : Scanned S minimum f r) (hcons : Consecutive S r t)
    (ht : t < gregorianCycleEnd) (hgap : minimum ≤ t - r) : Scanned S minimum f t where
  first := h.first
  last := hcons.right
  le := h.le.trans hcons.lt.le
  inside := ht
  gaps a b hab hfa hbt := by
    rcases hcons.between b hab.right with hbr | htb
    · exact h.gaps a b hab hfa hbr
    · have hb : b = t := le_antisymm hbt htb
      subst hb
      rcases hab.between r hcons.left with hra | hbr
      · rcases hcons.between a hab.left with har | hba
        · have : a = r := le_antisymm har hra
          omega
        · have := hab.lt
          omega
      · have := hcons.lt
        omega

theorem first_shift (hperiodic : Function.Periodic (· ∈ S) (gregorianCycleEnd - gregorianCycleStart)) {f : Int}
    (h : IsLeast {t | t ∈ S ∧ gregorianCycleStart ≤ t} f) :
    IsLeast {t | t ∈ S ∧ gregorianCycleEnd ≤ t} (f + (gregorianCycleEnd - gregorianCycleStart)) := by
  obtain ⟨⟨hf, hstart⟩, hleast⟩ := h
  refine ⟨⟨(iff_of_eq (hperiodic f)).mpr hf, by omega⟩, fun t ⟨ht, hend⟩ => ?_⟩
  have hback : t - (gregorianCycleEnd - gregorianCycleStart) ∈ S := by
    apply (iff_of_eq (hperiodic _)).mp
    simpa using ht
  have := hleast ⟨hback, by omega⟩
  omega

theorem Scanned.wrap (hperiodic : Function.Periodic (· ∈ S) (gregorianCycleEnd - gregorianCycleStart)) {f r t : Int}
    (h : Scanned S minimum f r) (hcons : Consecutive S r t) (ht : gregorianCycleEnd ≤ t) :
    t = f + (gregorianCycleEnd - gregorianCycleStart) :=
  (hcons.isLeast h.inside ht).unique (first_shift hperiodic h.first)

theorem proveCycle_ok {fuel : Nat} {r : Int} {first previous : Option Int} {v : Bool}
    (h : ScheduleSpec.proveCycle next minimum fuel r first previous = .ok v) :
    ∃ t, next r = some t ∧
      ((gregorianCycleEnd ≤ t ∧ ∃ f l, first = some f ∧ previous = some l ∧
          v = decide (f + (gregorianCycleEnd - gregorianCycleStart) - l ≥ minimum)) ∨
        (t < gregorianCycleEnd ∧ v = false ∧ ∃ prior, previous = some prior ∧ t - prior < minimum) ∨
        (t < gregorianCycleEnd ∧ (∀ prior, previous = some prior → minimum ≤ t - prior) ∧ ∃ left, fuel = left + 1 ∧
          ScheduleSpec.proveCycle next minimum left t (some (first.getD t)) (some t) = .ok v)) := by
  unfold ScheduleSpec.proveCycle at h
  cases ht : next r with
  | none => simp [ht] at h
  | some t =>
    simp only [ht] at h
    refine ⟨t, rfl, ?_⟩
    split at h
    · cases h
    split at h
    · rename_i hend
      refine .inl ⟨hend, ?_⟩
      split at h
      · rename_i f l
        cases h
        exact ⟨f, l, rfl, rfl, rfl⟩
      · cases h
    · rename_i hend
      refine .inr ?_
      split at h
      · cases h
      · rename_i left
        split at h
        · rename_i hshort
          cases h
          obtain ⟨prior, hprior, hlt⟩ := Option.map_eq_some_iff.mp hshort
          exact .inl ⟨not_le.mp hend, rfl, prior, hprior, of_decide_eq_true hlt⟩
        · rename_i hlong
          refine .inr ⟨not_le.mp hend, ?_, left, rfl, h⟩
          intro prior hprior
          simpa [hprior] using hlong

theorem proveCycle_scanned (hnext : NextOf S next)
    (hperiodic : Function.Periodic (· ∈ S) (gregorianCycleEnd - gregorianCycleStart)) {f r : Int} {fuel : Nat} {v : Bool}
    (h : Scanned S minimum f r) (hrun : ScheduleSpec.proveCycle next minimum fuel r (some f) (some r) = .ok v) :
    (v = true → ∀ a b, Consecutive S a b → gregorianCycleStart ≤ a → a < gregorianCycleEnd → minimum ≤ b - a) ∧
      (v = false → ∃ a b, Consecutive S a b ∧ b - a < minimum) := by
  induction fuel using Nat.strongRecOn generalizing r with
  | _ fuel ih =>
    obtain ⟨t, ht, hcases⟩ := proveCycle_ok hrun
    have hcons : Consecutive S r t := (consecutive_iff_isLeast h.last).mpr ((hnext r t).mp ht)
    rcases hcases with ⟨hend, f', l, hf, hl, rfl⟩ | ⟨_, rfl, prior, hprior, hshort⟩ | ⟨hin, hgap, left, rfl, hrest⟩
    · cases hf
      cases hl
      have hwrap := h.wrap hperiodic hcons hend
      constructor
      · intro hv a b hab hstart hina
        have hlast : minimum ≤ t - r := by rw [hwrap]; simpa using hv
        rcases hab.between r h.last with hra | hbr
        · rcases hcons.between a hab.left with har | hta
          · obtain rfl : a = r := le_antisymm har hra
            have hb : b = t := (hab.isLeast hina (hend.trans ?_)).unique (hcons.isLeast h.inside hend)
            · exact hb ▸ hlast
            · rcases hcons.between b hab.right with hba | htb
              · exact absurd hab.lt (not_lt.mpr hba)
              · exact htb
          · omega
        · exact h.gaps a b hab (h.first.2 ⟨hab.left, hstart⟩) hbr
      · intro hv
        refine ⟨r, t, hcons, ?_⟩
        rw [hwrap]
        simpa using hv
    · cases hprior
      exact ⟨by simp, fun _ => ⟨r, t, hcons, hshort⟩⟩
    · exact ih left (Nat.lt_succ_self left) (h.step hcons hin (hgap r rfl)) hrest

theorem proveCycle_exact (hnext : NextOf S next)
    (hperiodic : Function.Periodic (· ∈ S) (gregorianCycleEnd - gregorianCycleStart)) {fuel : Nat} {v : Bool}
    (hrun : ScheduleSpec.proveCycle next minimum fuel (gregorianCycleStart - 1) none none = .ok v) :
    (v = true → ∀ a b, Consecutive S a b → minimum ≤ b - a) ∧
      (v = false → ∃ a b, Consecutive S a b ∧ b - a < minimum) := by
  obtain ⟨f, hf, hcases⟩ := proveCycle_ok hrun
  rcases hcases with ⟨_, _, _, hfirst, _, _⟩ | ⟨_, _, _, hprior, _⟩ | ⟨hin, _, left, _, hrun⟩
  · cases hfirst
  · cases hprior
  · obtain ⟨⟨hfS, hstart⟩, hleast⟩ := (hnext _ f).mp hf
    have hscanned : Scanned S minimum f f := {
      first := ⟨⟨hfS, by omega⟩, fun t ⟨ht, hle⟩ => hleast ⟨ht, by omega⟩⟩
      last := hfS
      le := le_refl f
      inside := hin
      gaps := fun a b hab hfa hbf => by
        have := hab.lt
        omega }
    obtain ⟨htrue, hfalse⟩ := proveCycle_scanned hnext hperiodic hscanned hrun
    refine ⟨fun hv a b hab => ?_, hfalse⟩
    -- 周期の倍数だけずらして、周期の中の二つにする。
    have hpos : 0 < gregorianCycleEnd - gregorianCycleStart := by decide
    obtain ⟨hlow, hhigh⟩ := div_bounds gregorianCycleStart a hpos
    have hshift := hab.shift hperiodic (-((a - gregorianCycleStart) / (gregorianCycleEnd - gregorianCycleStart)))
    have := htrue hv _ _ hshift (by linarith) (by linarith)
    linarith

def fastPath (expression : String) : Bool :=
  match splitWhitespace expression with
  | [minute, hour, day, month, weekday] =>
    ScheduleSpec.fixedField minute 60 && (hour == "*" || ScheduleSpec.fixedField hour 24)
      && [day, month, weekday] == ["*", "*", "*"]
  | _ => false

theorem proveCronMinimumCadence_cycle {lib : CronLibrary} {expression : String} {proofLimit : Nat} {v : Bool}
    (hshape : fastPath expression = false) (hminimum : 60 < minimum)
    (h : ScheduleSpec.proveCronMinimumCadence lib expression "UTC" minimum proofLimit = .ok v) :
    ScheduleSpec.proveCycle (lib.findNext expression "UTC" · false) minimum proofLimit (gregorianCycleStart - 1)
      none none = .ok v := by
  unfold ScheduleSpec.proveCronMinimumCadence at h
  rw [if_neg (not_le.mpr hminimum)] at h
  unfold fastPath at hshape
  split at h
  · rename_i minute hour day month weekday hfields
    simp only [hfields] at hshape
    generalize ScheduleSpec.fixedField minute 60 = fixedMinute at h hshape
    generalize ScheduleSpec.fixedField hour 24 = fixedHour at h hshape
    generalize (hour == "*") = everyHour at h hshape
    generalize ([day, month, weekday] == ["*", "*", "*"]) = everyDay at h hshape
    have hhourly : (fixedMinute && everyHour && everyDay) = false := by grind
    have hdaily : (fixedMinute && fixedHour && everyDay) = false := by grind
    cases hparses : lib.parses expression with
    | false => simp [hhourly, hdaily, hparses, throw, throwThe, MonadExceptOf.throw, bind, Except.bind] at h
    | true =>
      cases hzone : lib.timezone "UTC" with
      | none => simp [hhourly, hdaily, hparses, hzone, throw, throwThe, MonadExceptOf.throw, bind, Except.bind] at h
      | some name => simpa [hhourly, hdaily, hparses, hzone] using h
  · cases h

/-- UTC の式の間隔を調べ終えた答えは、どの隣り合う二つの時刻にも正しい。 -/
theorem full_cycle_cadence_exact {lib : CronLibrary} {expression : String} {proofLimit : Nat}
    (hnext : NextOf S (lib.findNext expression "UTC" · false)) (hperiodic : Function.Periodic (· ∈ S) 12622780800)
    (hshape : fastPath expression = false) (hminimum : 60 < minimum) :
    (ScheduleSpec.proveCronMinimumCadence lib expression "UTC" minimum proofLimit = .ok true →
        ∀ a b, Consecutive S a b → minimum ≤ b - a) ∧
      (ScheduleSpec.proveCronMinimumCadence lib expression "UTC" minimum proofLimit = .ok false →
        ∃ a b, Consecutive S a b ∧ b - a < minimum) :=
  ⟨fun h => (proveCycle_exact hnext hperiodic (proveCronMinimumCadence_cycle hshape hminimum h)).1 rfl,
    fun h => (proveCycle_exact hnext hperiodic (proveCronMinimumCadence_cycle hshape hminimum h)).2 rfl⟩

def everyTwoHours : Set Int := {t | t % 7200 = 0}

/-- `0 */2 * * *` を UTC で読むライブラリ。 -/
def twoHourLibrary : CronLibrary where
  parses _ := true
  timezone name := if name = "UTC" then some "UTC" else none
  findNext _ _ reference inclusive :=
    some (if inclusive ∧ reference % 7200 = 0 then reference else (reference / 7200 + 1) * 7200)
  findPrevious _ _ reference inclusive :=
    some (if inclusive ∧ reference % 7200 = 0 then reference else ((reference - 1) / 7200) * 7200)
  transitions _ _ _ _ := some []
  supportsTimestamp _ := true

theorem twoHourLibrary_next : NextOf everyTwoHours (twoHourLibrary.findNext "0 */2 * * *" "UTC" · false) := by
  intro r t
  have hleast : IsLeast {t | t ∈ everyTwoHours ∧ r < t} ((r / 7200 + 1) * 7200) := by
    constructor
    · constructor
      · exact Int.mul_emod_left _ _
      · omega
    · intro t ht
      obtain ⟨hmem, hlt⟩ := ht
      have hdiv : t % 7200 = 0 := hmem
      omega
  simp only [twoHourLibrary, Bool.false_eq_true, false_and, if_false, Option.some.injEq]
  exact ⟨fun h => h ▸ hleast, hleast.unique⟩

/-- 二時間おきの予定は、10000 秒の下限を満たさない。 -/
theorem twoHour_cadence_short : ScheduleSpec.proveCronMinimumCadence twoHourLibrary "0 */2 * * *" "UTC" 10000 5 =
      .ok false ∧ ∃ a b, Consecutive everyTwoHours a b ∧ b - a < 10000 := by
  have hperiodic : Function.Periodic (· ∈ everyTwoHours) 12622780800 := by
    intro t
    show ((t + 12622780800) % 7200 = 0) = (t % 7200 = 0)
    rw [eq_iff_iff]
    omega
  have hshort : ScheduleSpec.proveCronMinimumCadence twoHourLibrary "0 */2 * * *" "UTC" 10000 5 = .ok false := rfl
  exact ⟨hshort, (full_cycle_cadence_exact twoHourLibrary_next hperiodic (by decide) (by decide)).2 hshort⟩

end Cycle

end Codeoff.State
