import Codeoff.State.Lemmas.Operator
import Codeoff.State.Theorems.Execution

/-!
# 運用者の操作の一度きりの適用

一つの要求は一度だけ適用される。
-/

namespace Codeoff.State

open Codeoff.Core Codeoff.Relational

variable {E : Env}

/-- どの状態でも、適用されなかった呼び出しは何も変えず、再適用の返答は要約値と時刻まで記録と一致する要求にだけ返り、
適用は期待した番号と要約値の結びつく状態の行にだけ行われる。
-/
theorem operator_applies_once (call : OperatorCall) (s : Store) :
    (∀ outcome s', commit (call.run E) s = (.ok outcome, s') →
      (outcome ≠ .applied → s' = s) ∧
      (outcome = .replay → RecordedExactly call.request s) ∧
      (outcome = .applied → call.Targets E s)) ∧
    ∀ s', commit (call.run E) s = (.ok .applied, s') → ∀ t, Relation.ReflTransGen (Step E) s' t →
      ∀ again : OperatorCall, again.SameKey call → (commit (again.run E) t).1 ≠ .ok .applied := by
  constructor
  · intro outcome s' hrun
    have hsettles := OperatorCall.run_settles (commit_eq_ok.mp hrun)
    cases hsettles with
    | applied fresh recorded targets => exact ⟨fun h => absurd rfl h, fun h => (by cases h), fun _ => targets⟩
    | replay recorded => exact ⟨fun _ => rfl, fun _ => recorded, fun h => by cases h⟩
    | conflict => exact ⟨fun _ => rfl, fun h => (by cases h), fun h => by cases h⟩
  · intro s' hrun t hpath again hkey hagain
    have hfirst := OperatorCall.run_settles (commit_eq_ok.mp hrun)
    have hsecond := OperatorCall.run_settles (commit_eq_ok.mp (Prod.ext hagain rfl))
    have hrecorded : Recorded call.request t := by
      refine invariant_of_steps (I := Recorded call.request) ?_ ?_ hpath
      · rintro u v hI ⟨op, rfl⟩
        exact hI.steps (op.apply_effects (E := E) u)
      · cases hfirst with
        | applied fresh recorded targets => exact recorded
    cases hsecond with
    | applied fresh recorded targets =>
      obtain ⟨a, ha, hprincipal, hrequest⟩ := hrecorded
      exact fresh ⟨a, ha, hprincipal.trans hkey.1.symm, hrequest.trans hkey.2.symm⟩

theorem eq_of_fst {α β : Type} {p : α × β} {a : α} (h : p.1 = a) : p = (a, p.2) := by rw [← h]

/-- 最初の試みが失敗した後。 -/
def failedStore : Store := runOps (envOf [])
  (leasedOps ++ [.markExecuting sampleBinding sampleProfile 100,
    .executionOutcome "e" sampleBinding (.terminal .failed) "failed" "message" 105])

def sampleDigest : String := (envOf []).sha256Hex []

/-- 失敗した実行を、方針の定める時刻 143 にやり直す。 -/
def failedRetry : OperatorCall :=
  .retryRun ⟨samplePrincipal, "r1", sampleDigest, 110⟩ "scheduled:j:100" 1 1
    "\x7b\"reason\":\"disk full\",\"reason_code\":\"operator_retry\",\"schema_version\":1\x7d" sampleDigest 143

def retriedStore : Store := (commit (failedRetry.run (envOf [])) failedStore).2

/-- 失敗した実行のやり直しは適用され、同じ要求は、直後には何も変えずに再適用の返答を受け、後のどの状態でも二度と適用されない。 -/
theorem failed_run_retried_once :
    (commit (failedRetry.run (envOf [])) failedStore).1 = .ok .applied ∧
      commit (failedRetry.run (envOf [])) retriedStore = (.ok .replay, retriedStore) ∧
      ∀ t, Relation.ReflTransGen (Step (envOf [])) retriedStore t →
        (commit (failedRetry.run (envOf [])) t).1 ≠ .ok .applied := by
  have hruns : (commit (failedRetry.run (envOf [])) failedStore).1 = .ok .applied ∧
      (commit (failedRetry.run (envOf [])) retriedStore).1 = .ok .replay := by
    unfold retriedStore
    rw [failedStore, leasedOps, List.cons_append, List.cons_append, runOps_occurred]
    decide +kernel
  obtain ⟨happlied, hreplayed⟩ := hruns
  have hfirst : commit (failedRetry.run (envOf [])) failedStore = (.ok .applied, retriedStore) :=
    (eq_of_fst happlied).trans (by rw [retriedStore])
  have hsecond := eq_of_fst hreplayed
  have hunchanged := ((operator_applies_once failedRetry retriedStore).1 _ _ hsecond).1 nofun
  refine ⟨happlied, hsecond.trans (by rw [hunchanged]), fun t hpath => ?_⟩
  exact (operator_applies_once failedRetry failedStore).2 _ hfirst t hpath failedRetry ⟨rfl, rfl⟩

end Codeoff.State
