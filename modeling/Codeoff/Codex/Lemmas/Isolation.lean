import Codeoff.Codex.Isolation
import Codeoff.Json.Lemmas.Parsed

/-!
# 決まった形の文面を読む

形の決まった成員だけを持つ正準形の文面は、その成員を並べて書いた文面である。
-/

namespace Codeoff.Codex

open Codeoff.Core Codeoff.Json Codeoff.Relational Codeoff.Runtime Codeoff.Agent

variable {v w : Value} {ms : List (String × Value)} {vs : List Value} {key text message : String} {n depth : Nat}

theorem orPreflight_ok {α : Type} {o : Option α} {a : α} : orPreflight o message = .ok a ↔ o = some a := by
  cases o <;> simp [orPreflight]

theorem refuse_ok {p : Prop} [Decidable p] {u : Unit} : refuse p message = .ok u ↔ ¬p := by
  by_cases hp : p <;> simp [refuse, hp]

theorem decodeLowercaseHex_ok {bytes : List UInt8} : decodeLowercaseHex text n message = .ok bytes ↔
    isLowercaseHex text (n * 2) = true ∧ nibblePairs (utf8Bytes text) = bytes := by
  cases hhex : isLowercaseHex text (n * 2) <;> simp [decodeLowercaseHex, hhex]

theorem get_asStr : (v.get key).bind Value.asStr = some text ↔ v.get key = some (.str text) := by
  constructor
  · intro h
    obtain ⟨w, hw, htext⟩ := Option.bind_eq_some_iff.mp h
    cases w with
    | str s => exact Option.some.inj htext ▸ hw
    | _ => cases htext
  · intro h
    rw [h]
    rfl

theorem asU64_eq_some : v.asU64 = some n ↔ v = .int n ∧ n ≤ Json.u64Max := by
  constructor
  · intro h
    unfold Value.asU64 at h
    split at h
    · split at h
      · rename_i hle
        cases h
        exact ⟨rfl, hle⟩
      · cases h
    · cases h
  · rintro ⟨rfl, hle⟩
    exact if_pos hle

theorem get_asU64 : (v.get key).bind Value.asU64 = some n ↔ v.get key = some (.int n) ∧ n ≤ Json.u64Max := by
  simp [Option.bind_eq_some_iff, asU64_eq_some, and_assoc]

/-- 配備の世代として読めるのは、正で符号つき 64 ビットに収まる整数だけである。 -/
theorem positiveEpoch_eq_some : positiveEpoch v = some n ↔ v = .int n ∧ n ≤ maxI64 ∧ 0 < n := by
  have hmax : maxI64 ≤ Json.u64Max := by decide
  constructor
  · intro h
    obtain ⟨hvalue, hbound⟩ := Option.filter_eq_some_iff.mp h
    simp only [Bool.and_eq_true, decide_eq_true_eq] at hbound
    exact ⟨(asU64_eq_some.mp hvalue).1, hbound⟩
  · rintro ⟨rfl, hle, hpos⟩
    have hvalue := asU64_eq_some.mpr ⟨rfl, hle.trans hmax⟩
    exact Option.filter_eq_some_iff.mpr ⟨hvalue, by simp [hle, hpos]⟩

theorem get_positiveEpoch :
    (v.get key).bind positiveEpoch = some n ↔ v.get key = some (.int n) ∧ n ≤ maxI64 ∧ 0 < n := by
  simp [Option.bind_eq_some_iff, positiveEpoch_eq_some, and_assoc]

theorem hasExactFields_iff {expected : List String} : hasExactFields v expected = true ↔
    ∃ members, v = .obj members ∧ members.length = expected.length ∧ ∀ field ∈ expected, (v.get field).isSome := by
  cases v <;> simp [hasExactFields]

/-- 欄がちょうど `expected` で、それぞれの値が決まっていれば、値そのものが決まる。 -/
theorem eq_object_of_fields {expected : List String} (hv : v.Sorted) (hexact : hasExactFields v expected = true)
    (hkeys : (ms.map Prod.fst).Nodup) (hlength : ms.length = expected.length)
    (hget : ∀ m ∈ ms, v.get m.1 = some m.2) : v = .object ms := by
  obtain ⟨members, rfl, hmembers, -⟩ := hasExactFields_iff.mp hexact
  exact eq_object hv hkeys (hmembers.trans hlength.symm) hget

theorem hasExactFields_object {expected : List String} (hkeys : (ms.map Prod.fst).Nodup)
    (hlength : ms.length = expected.length) (hfields : ∀ field ∈ expected, field ∈ ms.map Prod.fst) :
    hasExactFields (.object ms) expected = true := by
  obtain ⟨members, hobject, hmembers⟩ := object_members hkeys
  refine hasExactFields_iff.mpr ⟨members, hobject, hmembers.trans hlength, fun field hfield => ?_⟩
  obtain ⟨m, hm, rfl⟩ := List.mem_map.mp (hfields field hfield)
  rw [carries_object hkeys m hm]
  rfl

theorem arr_sorted : (Value.arr vs).Sorted ↔ ∀ v ∈ vs, v.Sorted := by
  induction vs with
  | nil => exact iff_of_true trivial (by simp)
  | cons v vs ih => exact (and_congr_right' ih).trans List.forall_mem_cons.symm

theorem arr_wf : (Value.arr vs).Wf (depth + 1) ↔ ∀ v ∈ vs, v.Wf depth := by
  have hsplit : ∀ v vs, (Value.arr (v :: vs)).Wf (depth + 1) ↔ v.Wf depth ∧ (Value.arr vs).Wf (depth + 1) := by
    intro v vs
    constructor
    · intro h
      have hreadable : (v.readable depth && elementsReadable depth vs) = true := h.readable
      rw [Bool.and_eq_true] at hreadable
      exact ⟨⟨h.sorted.1, hreadable.1⟩, ⟨h.sorted.2, hreadable.2⟩⟩
    · rintro ⟨hv, hvs⟩
      exact hv.arr_cons hvs
  induction vs with
  | nil => simpa using wf_empty_arr
  | cons v vs ih => exact (hsplit v vs).trans ((and_congr_right' ih).trans List.forall_mem_cons.symm)

end Codeoff.Codex
