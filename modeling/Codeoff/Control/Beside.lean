import Codeoff.Control.Interleaving

/-!
# ほかの処理と並んで進む一本の処理

一本の処理が、自分の一歩ごとに主張を立て直す。主張は、条件を満たすほかの処理の一歩（`E`）で壊れない。
-/

namespace Codeoff.Control

variable {ι κ σ ρ ρ' β : Type}

section Rules

variable {held : σ → Bool} {I : σ → Prop} {R : σ → σ → Prop} {G : ι → σ → σ → Prop} {G' : κ → σ → σ → Prop}
  {c : ι} {d : κ} {claim : Option (σ → Prop)}

/-- 約束は弱めてよい。 -/
theorem Safe.imp {t : Thread σ ρ} (h : Safe held I R G c claim t) (himp : ∀ s s', G c s s' → G' d s s') :
    Safe held I R G' d claim t := by
  induction h with
  | done result => exact .done result
  | free keeps _ ih =>
    refine .free (fun s hI hguard => ?_) ih
    obtain ⟨hinv, hrely, hguarantee, hlock⟩ := keeps s hI hguard
    exact ⟨hinv, hrely, himp _ _ hguarantee, hlock⟩
  | acquire waits keeps stable _ ih =>
    refine .acquire waits (fun s hI hguard => ?_) stable ih
    obtain ⟨hinv, hguarantee, hclaim⟩ := keeps s hI hguard
    exact ⟨hinv, himp _ _ hguarantee, hclaim⟩
  | hold keeps stable _ ih =>
    refine .hold (fun s hI hP hguard => ?_) stable ih
    obtain ⟨hinv, hguarantee, hclaim⟩ := keeps s hI hP hguard
    exact ⟨hinv, himp _ _ hguarantee, hclaim⟩
  | release keeps _ ih =>
    refine .release (fun s hI hP hguard => ?_) ih
    obtain ⟨hinv, hguarantee, hlock⟩ := keeps s hI hP hguard
    exact ⟨hinv, himp _ _ hguarantee, hlock⟩

theorem Safe.bind {t : Thread σ ρ} {f : ρ → Thread σ ρ'} (h : Safe held I R G c claim t)
    (hf : ∀ result, Safe held I R G c none (f result)) : Safe held I R G c claim (t.bind f) := by
  induction h with
  | done result => exact hf result
  | free keeps _ ih => exact .free keeps ih
  | acquire waits keeps stable _ ih => exact .acquire waits keeps stable ih
  | hold keeps stable _ ih => exact .hold keeps stable ih
  | release keeps _ ih => exact .release keeps ih

end Rules

namespace Thread

/-- どの一歩も `f` の値を変えない。 -/
def Fixes (f : σ → β) : Thread σ ρ → Prop
  | .done _ => True
  | .step _ write next => ∀ s, f (write s) = f s ∧ Fixes f (next s)

end Thread

theorem Safe.fixing {held : σ → Bool} {I : σ → Prop} {R : σ → σ → Prop} {G : ι → σ → σ → Prop} {c : ι}
    {claim : Option (σ → Prop)} {f : σ → β} {t : Thread σ ρ} (h : Safe held I R G c claim t) (hf : t.Fixes f) :
    Safe held I R (fun c s s' => G c s s' ∧ f s' = f s) c claim t := by
  induction h with
  | done result => exact .done result
  | free keeps _ ih =>
    refine .free (fun s hI hguard => ?_) fun s hI hguard => ih s hI hguard (hf s).2
    obtain ⟨hinv, hrely, hguarantee, hlock⟩ := keeps s hI hguard
    exact ⟨hinv, hrely, ⟨hguarantee, (hf s).1⟩, hlock⟩
  | acquire waits keeps stable _ ih =>
    refine .acquire waits (fun s hI hguard => ?_) stable fun s hI hguard => ih s hI hguard (hf s).2
    obtain ⟨hinv, hguarantee, hclaim⟩ := keeps s hI hguard
    exact ⟨hinv, ⟨hguarantee, (hf s).1⟩, hclaim⟩
  | hold keeps stable _ ih =>
    refine .hold (fun s hI hP hguard => ?_) stable fun s hI hP hguard => ih s hI hP hguard (hf s).2
    obtain ⟨hinv, hguarantee, hclaim⟩ := keeps s hI hP hguard
    exact ⟨hinv, ⟨hguarantee, (hf s).1⟩, hclaim⟩
  | release keeps _ ih =>
    refine .release (fun s hI hP hguard => ?_) fun s hI hP hguard => ih s hI hP hguard (hf s).2
    obtain ⟨hinv, hguarantee, hlock⟩ := keeps s hI hP hguard
    exact ⟨hinv, ⟨hguarantee, (hf s).1⟩, hlock⟩

/-- 主張 `P` から始めて、一歩ごとに主張を立て直し、`Q` で終わる。 -/
inductive Upholds (I : σ → Prop) (E : σ → σ → Prop) (Q : ρ → σ → Prop) : (σ → Prop) → Thread σ ρ → Prop where
  | done {P : σ → Prop} (result : ρ) (stable : Stable I E P) (post : ∀ s, P s → Q result s) :
      Upholds I E Q P (.done result)
  | step {P : σ → Prop} {guard : σ → Bool} {write : σ → σ} {next : σ → Thread σ ρ} {M : σ → σ → Prop}
      (stable : Stable I E P) (keeps : ∀ s, I s → P s → M s (write s))
      (after : ∀ s, I s → P s → Upholds I E Q (M s) (next s)) : Upholds I E Q P (.step guard write next)

section Upholds

variable {I : σ → Prop} {E : σ → σ → Prop} {P P' : σ → Prop} {Q : ρ → σ → Prop} {Q' : ρ' → σ → Prop}
  {t : Thread σ ρ}

theorem Upholds.stable (h : Upholds I E Q P t) : Stable I E P := by
  cases h with
  | done _ stable _ => exact stable
  | step stable _ _ => exact stable

theorem Upholds.of_imp (h : Upholds I E Q P t) (hstable : Stable I E P') (himp : ∀ s, P' s → P s) :
    Upholds I E Q P' t := by
  cases h with
  | done result _ post => exact .done result hstable fun s hs => post s (himp s hs)
  | step _ keeps after =>
    exact .step hstable (fun s hI hs => keeps s hI (himp s hs)) fun s hI hs => after s hI (himp s hs)

theorem Upholds.post_imp {Q₁ : ρ → σ → Prop} (h : Upholds I E Q P t) (himp : ∀ result s, Q result s → Q₁ result s) :
    Upholds I E Q₁ P t := by
  induction h with
  | done result stable post => exact .done result stable fun s hs => himp result s (post s hs)
  | step stable keeps _ ih => exact .step stable keeps ih

theorem Upholds.bind {f : ρ → Thread σ ρ'} (h : Upholds I E Q P t)
    (hf : ∀ result, Upholds I E Q' (Q result) (f result)) : Upholds I E Q' P (t.bind f) := by
  induction h with
  | done result stable post => exact (hf result).of_imp stable post
  | step stable keeps _ ih => exact .step stable keeps ih

theorem upholds_always (t : Thread σ ρ) : Upholds I E (fun _ _ => True) (fun _ => True) t := by
  induction t with
  | done result => exact .done result (fun _ _ _ _ _ => trivial) fun _ _ => trivial
  | step guard write next ih =>
    exact .step (M := fun _ _ => True) (fun _ _ _ _ _ => trivial) (fun _ _ _ => trivial) fun s _ _ => ih s

end Upholds

/-! ## 全体 -/

namespace World

variable {programs : ι → Thread σ ρ} {w w' : World ι σ ρ} {i : Nat} {c : ι}

/-- 番号 `i` の、呼び出し `c` の処理が一歩進む。 -/
def RunsAt (i : Nat) (c : ι) (w w' : World ι σ ρ) : Prop :=
  ∃ guard write next, w.tasks i = some (c, .step guard write next) ∧ guard w.state = true ∧
    w' = w.put i (write w.state) (c, next w.state)

def resultAt (w : World ι σ ρ) (i : Nat) : Option ρ :=
  match w.tasks i with
  | some (_, .done result) => some result
  | _ => none

/-- 番号 `i` のほかには、条件 `C` を満たす呼び出しの処理だけが進む。 -/
inductive StepBeside (programs : ι → Thread σ ρ) (i : Nat) (C : ι → Prop) (w w' : World ι σ ρ) : Prop where
  | spawns (spawns : Spawns programs w w')
  | runs (j : Nat) (c : ι) (allowed : j = i ∨ C c) (runs : RunsAt j c w w')

abbrev RunsBeside (programs : ι → Thread σ ρ) (i : Nat) (C : ι → Prop) (w w' : World ι σ ρ) : Prop :=
  Relation.ReflTransGen (StepBeside programs i C) w w'

/-- 次の一歩が、番号 `i` のものか、条件 `C` を満たすものか。 -/
def allows (i : Nat) (C : ι → Bool) (w : World ι σ ρ) : Choice ι → Bool
  | .spawn _ _ => true
  | .run j => j == i || (w.tasks j).any fun task => C task.1

def scheduleBeside (programs : ι → Thread σ ρ) (i : Nat) (C : ι → Bool) :
    World ι σ ρ → List (Choice ι) → Option (World ι σ ρ)
  | w, [] => some w
  | w, choice :: rest =>
    if allows i C w choice then (choose programs w choice).bind (scheduleBeside programs i C · rest) else none

theorem stepBeside_of_choose {C : ι → Bool} {choice : Choice ι} (hallows : allows i C w choice = true)
    (h : choose programs w choice = some w') : StepBeside programs i (fun c => C c = true) w w' := by
  cases choice with
  | spawn j c =>
    unfold choose at h
    cases htask : w.tasks j with
    | none =>
      simp only [htask, Option.some.injEq] at h
      exact .spawns ⟨j, c, htask, h.symm⟩
    | some t => simp [htask] at h
  | run j =>
    unfold choose at h
    cases htask : w.tasks j with
    | none => simp [htask] at h
    | some t =>
      obtain ⟨c, thread⟩ := t
      cases thread with
      | done result => simp [htask] at h
      | step guard write next =>
        simp only [htask, Option.ite_none_right_eq_some, Option.some.injEq] at h
        refine .runs j c ?_ ⟨guard, write, next, htask, h.1, h.2.symm⟩
        simpa [allows, htask] using hallows

theorem runsBeside_of_schedule {C : ι → Bool} {choices : List (Choice ι)}
    (h : scheduleBeside programs i C w choices = some w') : RunsBeside programs i (fun c => C c = true) w w' := by
  induction choices generalizing w with
  | nil =>
    cases h
    exact .refl
  | cons choice rest ih =>
    unfold scheduleBeside at h
    obtain ⟨hallows, h⟩ := Option.ite_none_right_eq_some.mp h
    obtain ⟨v, hv, hrest⟩ := Option.bind_eq_some_iff.mp h
    exact .head (stepBeside_of_choose hallows hv) (ih hrest)

end World

section Run

variable {held : σ → Bool} {I : σ → Prop} {R : σ → σ → Prop} {G : ι → σ → σ → Prop} {E : σ → σ → Prop}
  {C : ι → Prop} {Q : ρ → σ → Prop} {programs : ι → Thread σ ρ} {w w' : World ι σ ρ} {i : Nat} {c : ι}

/-- 番号 `i` の処理は、主張の成り立つところにいる。 -/
def Upheld (I : σ → Prop) (E : σ → σ → Prop) (Q : ρ → σ → Prop) (i : Nat) (c : ι) (w : World ι σ ρ) : Prop :=
  ∃ t P, w.tasks i = some (c, t) ∧ P w.state ∧ Upholds I E Q P t

theorem Upheld.step {holder : Holder σ} (hE : ∀ c s s', C c → G c s s' → E s s')
    (hguarded : Guarded held I R G w holder) (h : Upheld I E Q i c w)
    (hstep : World.StepBeside programs i C w w') : Upheld I E Q i c w' := by
  obtain ⟨t, P, htask, hP, hupholds⟩ := h
  cases hstep with
  | spawns spawns =>
    obtain ⟨j, d, hfree, rfl⟩ := spawns
    have hji : i ≠ j := by
      rintro rfl
      simp [hfree] at htask
    exact ⟨t, P, by simpa [World.put, Function.update_of_ne hji] using htask, hP, hupholds⟩
  | runs j d allowed runs =>
    obtain ⟨guard, write, next, hj, hguard, rfl⟩ := runs
    by_cases hji : j = i
    · subst hji
      obtain ⟨rfl, rfl⟩ : c = d ∧ t = .step guard write next := by simpa [htask] using hj
      cases hupholds with
      | @step _ _ _ _ M stable keeps after =>
        exact ⟨next w.state, M w.state, by simp [World.put], keeps _ hguarded.inv hP,
          after _ hguarded.inv hP⟩
    · have hruns : World.Runs d w (w.put j (write w.state) (d, next w.state)) :=
        ⟨j, guard, write, next, hj, hguard, rfl⟩
      have hother : E w.state (write w.state) :=
        hE d _ _ (allowed.resolve_left hji) (hguarded.runs hruns).1
      refine ⟨t, P, ?_, hupholds.stable _ _ hguarded.inv hother hP, hupholds⟩
      simpa [World.put, Function.update_of_ne (Ne.symm hji)] using htask

theorem World.StepBeside.step (h : World.StepBeside programs i C w w') : World.Step programs w w' := by
  cases h with
  | spawns spawns => exact .inl spawns
  | runs j c _ runs => exact .inr ⟨c, j, runs⟩

/-- ほかの処理の約束が保つ条件は、どれだけ割り込まれても保たれる。 -/
theorem Upheld.runs {s : σ} (hprograms : ∀ c, Safe held I R G c none (programs c)) (hinit : I s)
    (hfree : held s = false) (hE : ∀ c s s', C c → G c s s' → E s s') (hreach : World.Reachable programs s w)
    (h : Upheld I E Q i c w) (hruns : World.RunsBeside programs i C w w') :
    World.Reachable programs s w' ∧ Upheld I E Q i c w' := by
  induction hruns with
  | refl => exact ⟨hreach, h⟩
  | tail _ hstep ih =>
    obtain ⟨hreached, hupheld⟩ := ih
    obtain ⟨holder, hguarded⟩ := guarded_of_reachable hprograms hinit hfree hreached
    exact ⟨.tail hreached hstep.step, hupheld.step hE hguarded hstep⟩

/-- 一つの処理が終わったとき、その結果についての条件が成り立つ。 -/
theorem Upheld.result {s : σ} (hprograms : ∀ c, Safe held I R G c none (programs c)) (hinit : I s)
    (hfree : held s = false) (hE : ∀ c s s', C c → G c s s' → E s s') (hreach : World.Reachable programs s w)
    (h : Upheld I E Q i c w) (hruns : World.RunsBeside programs i C w w') {result : ρ}
    (hresult : w'.resultAt i = some result) : Q result w'.state := by
  obtain ⟨t, P, htask, hP, hupholds⟩ := (h.runs hprograms hinit hfree hE hreach hruns).2
  simp only [World.resultAt, htask] at hresult
  cases hupholds with
  | done r _ post =>
    cases hresult
    exact post _ hP
  | step _ _ _ => cases hresult

end Run

end Codeoff.Control
