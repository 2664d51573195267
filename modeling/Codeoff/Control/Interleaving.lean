import Mathlib.Logic.Function.Basic
import Mathlib.Logic.Relation

/-!
# 一つの錠のもとでの交互実行

何本もの処理が、原子的な一歩ずつ、任意の順に進む。処理のうち錠を持てるのは一つで、錠を持つ処理の主張は、錠を持たない処理の一
歩（`R`）で壊れないものに限る。
-/

namespace Codeoff.Control

/-- 原子的な一歩の並び。`guard` が成り立つまで待つ。 -/
inductive Thread (σ ρ : Type) where
  | done (result : ρ)
  | step (guard : σ → Bool) (write : σ → σ) (next : σ → Thread σ ρ)

def Thread.map {σ ρ ρ' : Type} (f : ρ → ρ') : Thread σ ρ → Thread σ ρ'
  | .done result => .done (f result)
  | .step guard write next => .step guard write fun s => (next s).map f

namespace Thread

variable {σ ρ ρ' α : Type}

def atomic (op : σ → α × σ) (next : α → Thread σ ρ) : Thread σ ρ :=
  .step (fun _ => true) (fun s => (op s).2) fun s => next (op s).1

def bind : Thread σ ρ → (ρ → Thread σ ρ') → Thread σ ρ'
  | .done result, f => f result
  | .step guard write next, f => .step guard write fun s => (next s).bind f

@[simp] theorem bind_done (result : ρ) (f : ρ → Thread σ ρ') : (done result : Thread σ ρ).bind f = f result := rfl

@[simp] theorem bind_atomic (op : σ → α × σ) (next : α → Thread σ ρ) (f : ρ → Thread σ ρ') :
    (atomic op next).bind f = atomic op fun a => (next a).bind f := rfl

def alone : Thread σ ρ → σ → ρ × σ
  | .done result, s => (result, s)
  | .step _ write next, s => (next s).alone (write s)

@[simp] theorem alone_done (result : ρ) (s : σ) : (done result).alone s = (result, s) := rfl

@[simp] theorem alone_atomic (op : σ → α × σ) (next : α → Thread σ ρ) (s : σ) :
    (atomic op next).alone s = (next (op s).1).alone (op s).2 := rfl

theorem alone_bind (t : Thread σ ρ) (f : ρ → Thread σ ρ') (s : σ) :
    (t.bind f).alone s = (f (t.alone s).1).alone (t.alone s).2 := by
  induction t generalizing s with
  | done result => rfl
  | step guard write next ih => exact ih s (write s)

end Thread

variable {ι σ ρ : Type}

/-- 共有の状態と、動いている処理。処理には、それを始めた呼び出しの名が付く。 -/
structure World (ι σ ρ : Type) where
  state : σ
  tasks : Nat → Option (ι × Thread σ ρ)

namespace World

variable {programs : ι → Thread σ ρ} {w w' : World ι σ ρ} {c : ι}

def idle (s : σ) : World ι σ ρ := ⟨s, fun _ => none⟩

def put (w : World ι σ ρ) (i : Nat) (s : σ) (t : ι × Thread σ ρ) : World ι σ ρ :=
  ⟨s, Function.update w.tasks i (some t)⟩

def Spawns (programs : ι → Thread σ ρ) (w w' : World ι σ ρ) : Prop :=
  ∃ i c, w.tasks i = none ∧ w' = w.put i w.state (c, programs c)

/-- 呼び出し `c` の処理が一歩進む。 -/
def Runs (c : ι) (w w' : World ι σ ρ) : Prop :=
  ∃ i guard write next, w.tasks i = some (c, .step guard write next) ∧ guard w.state = true ∧
    w' = w.put i (write w.state) (c, next w.state)

def Step (programs : ι → Thread σ ρ) (w w' : World ι σ ρ) : Prop :=
  Spawns programs w w' ∨ ∃ c, Runs c w w'

def Reachable (programs : ι → Thread σ ρ) (s : σ) (w : World ι σ ρ) : Prop :=
  Relation.ReflTransGen (Step programs) (idle s) w

inductive Choice (ι : Type) where
  | spawn (i : Nat) (c : ι)
  | run (i : Nat)

def choose (programs : ι → Thread σ ρ) (w : World ι σ ρ) : Choice ι → Option (World ι σ ρ)
  | .spawn i c =>
    match w.tasks i with
    | none => some (w.put i w.state (c, programs c))
    | some _ => none
  | .run i =>
    match w.tasks i with
    | some (c, .step guard write next) =>
      if guard w.state then some (w.put i (write w.state) (c, next w.state)) else none
    | _ => none

def schedule (programs : ι → Thread σ ρ) : World ι σ ρ → List (Choice ι) → Option (World ι σ ρ)
  | w, [] => some w
  | w, choice :: rest => (choose programs w choice).bind (schedule programs · rest)

theorem step_of_choose {choice : Choice ι} (h : choose programs w choice = some w') : Step programs w w' := by
  cases choice with
  | spawn i c =>
    unfold choose at h
    cases htask : w.tasks i with
    | none =>
      simp only [htask, Option.some.injEq] at h
      exact .inl ⟨i, c, htask, h.symm⟩
    | some t => simp [htask] at h
  | run i =>
    unfold choose at h
    cases htask : w.tasks i with
    | none => simp [htask] at h
    | some t =>
      obtain ⟨c, thread⟩ := t
      cases thread with
      | done result => simp [htask] at h
      | step guard write next =>
        simp only [htask, Option.ite_none_right_eq_some, Option.some.injEq] at h
        exact .inr ⟨c, i, guard, write, next, htask, h.1, h.2.symm⟩

/-- 選び方の列を動かして着いた世界は、到達する世界である。 -/
theorem steps_of_schedule {choices : List (Choice ι)} (h : schedule programs w choices = some w') :
    Relation.ReflTransGen (Step programs) w w' := by
  induction choices generalizing w with
  | nil =>
    cases h
    exact .refl
  | cons choice rest ih =>
    obtain ⟨v, hv, hrest⟩ := Option.bind_eq_some_iff.mp h
    exact .head (step_of_choose hv) (ih hrest)

end World

section Rules

variable (held : σ → Bool) (I : σ → Prop) (R : σ → σ → Prop) (G : ι → σ → σ → Prop)

def Stable (P : σ → Prop) : Prop := ∀ s s', I s → R s s' → P s → P s'

/-- 処理の一歩ごとの約束。錠を持たなければ `none`、持てばそのときの主張を添える。 -/
inductive Safe (c : ι) : Option (σ → Prop) → Thread σ ρ → Prop where
  | done (result : ρ) : Safe c none (.done result)
  | free {guard : σ → Bool} {write : σ → σ} {next : σ → Thread σ ρ}
      (keeps : ∀ s, I s → guard s = true → I (write s) ∧ R s (write s) ∧ G c s (write s) ∧
        held (write s) = held s)
      (after : ∀ s, I s → guard s = true → Safe c none (next s)) : Safe c none (.step guard write next)
  | acquire {guard : σ → Bool} {write : σ → σ} {next : σ → Thread σ ρ} {P : σ → σ → Prop}
      (waits : ∀ s, guard s = true → held s = false)
      (keeps : ∀ s, I s → guard s = true → I (write s) ∧ G c s (write s) ∧ held (write s) = true ∧
        P s (write s))
      (stable : ∀ s, Stable I R (P s))
      (after : ∀ s, I s → guard s = true → Safe c (some (P s)) (next s)) :
      Safe c none (.step guard write next)
  | hold {guard : σ → Bool} {write : σ → σ} {next : σ → Thread σ ρ} {P : σ → Prop} {Q : σ → σ → Prop}
      (keeps : ∀ s, I s → P s → guard s = true → I (write s) ∧ G c s (write s) ∧
        held (write s) = held s ∧ Q s (write s))
      (stable : ∀ s, Stable I R (Q s))
      (after : ∀ s, I s → P s → guard s = true → Safe c (some (Q s)) (next s)) :
      Safe c (some P) (.step guard write next)
  | release {guard : σ → Bool} {write : σ → σ} {next : σ → Thread σ ρ} {P : σ → Prop}
      (keeps : ∀ s, I s → P s → guard s = true → I (write s) ∧ G c s (write s) ∧ held (write s) = false)
      (after : ∀ s, I s → P s → guard s = true → Safe c none (next s)) :
      Safe c (some P) (.step guard write next)

/-! ## 全体 -/

/-- 錠を持つ処理の番号と主張。 -/
abbrev Holder (σ : Type) := Option (Nat × (σ → Prop))

/-- 番号 `i` の処理の主張。 -/
def claimOf (holder : Holder σ) (i : Nat) : Option (σ → Prop) :=
  match holder with
  | some (j, P) => if i = j then some P else none
  | none => none

/-- 不変条件が成り立ち、錠の持ち主は高々一つで、どの処理も約束を守る。 -/
structure Guarded (w : World ι σ ρ) (holder : Holder σ) : Prop where
  inv : I w.state
  lock : held w.state = holder.isSome
  tasks : ∀ i c t, w.tasks i = some (c, t) → Safe held I R G c (claimOf holder i) t
  running : ∀ j P, holder = some (j, P) → w.tasks j ≠ none ∧ P w.state ∧ Stable I R P

variable {held I R G} {programs : ι → Thread σ ρ} {w w' : World ι σ ρ} {c : ι} {holder : Holder σ}

theorem claimOf_self (j : Nat) (P : σ → Prop) : claimOf (some (j, P)) j = some P := by
  simp [claimOf]

theorem claimOf_of_ne {i j : Nat} (h : i ≠ j) (P : σ → Prop) : claimOf (some (j, P)) i = none := by
  simp [claimOf, h]

theorem claimOf_eq_some {i : Nat} {P : σ → Prop} (h : claimOf holder i = some P) : holder = some (i, P) := by
  unfold claimOf at h
  split at h
  · split at h
    · rename_i hij
      cases h
      rw [hij]
    · cases h
  · cases h

theorem Guarded.put (h : Guarded held I R G w holder) {i : Nat} {s : σ} {t : Thread σ ρ} {holder' : Holder σ}
    (hinv : I s) (hlock : held s = holder'.isSome) (hself : Safe held I R G c (claimOf holder' i) t)
    (hothers : ∀ j, j ≠ i → claimOf holder' j = claimOf holder j)
    (hrunning : ∀ j P, holder' = some (j, P) → (j ≠ i → w.tasks j ≠ none) ∧ P s ∧ Stable I R P) :
    Guarded held I R G (w.put i s (c, t)) holder' := by
  constructor
  · exact hinv
  · exact hlock
  · intro j d u hj
    by_cases hji : j = i
    · subst hji
      simp only [World.put, Function.update_self, Option.some.injEq, Prod.mk.injEq] at hj
      obtain ⟨rfl, rfl⟩ := hj
      exact hself
    · simp only [World.put, Function.update_of_ne hji] at hj
      rw [hothers j hji]
      exact h.tasks j d u hj
  · intro j P hholder
    obtain ⟨hsome, hP, hstable⟩ := hrunning j P hholder
    refine ⟨?_, hP, hstable⟩
    by_cases hji : j = i
    · simp [World.put, hji]
    · simpa [World.put, Function.update_of_ne hji] using hsome hji

theorem Guarded.spawns (hprograms : ∀ c, Safe held I R G c none (programs c))
    (h : Guarded held I R G w holder) (hstep : World.Spawns programs w w') :
    Guarded held I R G w' holder := by
  obtain ⟨i, c, hfree, rfl⟩ := hstep
  have hclaim : claimOf holder i = none := by
    cases hc : claimOf holder i with
    | none => rfl
    | some P => exact absurd hfree (h.running i P (claimOf_eq_some hc)).1
  refine h.put h.inv h.lock ?_ (fun _ _ => rfl) ?_
  · rw [hclaim]
    exact hprograms c
  · intro j P hholder
    obtain ⟨hsome, hP, hstable⟩ := h.running j P hholder
    exact ⟨fun _ => hsome, hP, hstable⟩

/-- 一歩は、動いた処理の約束の内にあり、不変条件と鍵の持ち主を保つ。 -/
theorem Guarded.runs (h : Guarded held I R G w holder) (hstep : World.Runs c w w') :
    G c w.state w'.state ∧ ∃ holder', Guarded held I R G w' holder' := by
  obtain ⟨i, guard, write, next, htask, hguard, rfl⟩ := hstep
  have hsafe := h.tasks i c _ htask
  generalize hclaim : claimOf holder i = claim at hsafe
  cases hsafe with
  | free keeps after =>
    obtain ⟨hinv, hrely, hguarantee, hlock⟩ := keeps w.state h.inv hguard
    refine ⟨hguarantee, holder, h.put hinv (hlock.trans h.lock) ?_ (fun _ _ => rfl) ?_⟩
    · rw [hclaim]
      exact after w.state h.inv hguard
    · intro j P hholder
      obtain ⟨hsome, hP, hstable⟩ := h.running j P hholder
      exact ⟨fun _ => hsome, hstable _ _ h.inv hrely hP, hstable⟩
  | @acquire _ _ _ P waits keeps stable after =>
    obtain ⟨hinv, hguarantee, hlock, hP⟩ := keeps w.state h.inv hguard
    have hnone : holder = none := by
      have hfree := waits w.state hguard
      rw [h.lock] at hfree
      simpa using hfree
    refine ⟨hguarantee, some (i, P w.state), h.put hinv hlock ?_ ?_ ?_⟩
    · rw [claimOf_self]
      exact after w.state h.inv hguard
    · intro j hji
      rw [claimOf_of_ne hji, hnone]
      rfl
    · rintro j Q hholder
      cases hholder
      exact ⟨fun hne => absurd rfl hne, hP, stable w.state⟩
  | @hold _ _ _ P Q keeps stable after =>
    have hholder := claimOf_eq_some hclaim
    obtain ⟨_, hP, _⟩ := h.running i P hholder
    obtain ⟨hinv, hguarantee, hlock, hQ⟩ := keeps w.state h.inv hP hguard
    refine ⟨hguarantee, some (i, Q w.state), h.put hinv ?_ ?_ ?_ ?_⟩
    · rw [hlock, h.lock, hholder]
      rfl
    · rw [claimOf_self]
      exact after w.state h.inv hP hguard
    · intro j hji
      rw [hholder, claimOf_of_ne hji, claimOf_of_ne hji]
    · rintro j P' hholder'
      cases hholder'
      exact ⟨fun hne => absurd rfl hne, hQ, stable w.state⟩
  | @release _ _ _ P keeps after =>
    have hholder := claimOf_eq_some hclaim
    obtain ⟨_, hP, _⟩ := h.running i P hholder
    obtain ⟨hinv, hguarantee, hlock⟩ := keeps w.state h.inv hP hguard
    refine ⟨hguarantee, none, h.put hinv hlock ?_ ?_ ?_⟩
    · exact after w.state h.inv hP hguard
    · intro j hji
      rw [hholder, claimOf_of_ne hji]
      rfl
    · rintro j P' hholder'
      cases hholder'

/-- どの処理も約束を守るなら、到達するどの世界でも不変条件が成り立つ。 -/
theorem guarded_of_reachable {s : σ} (hprograms : ∀ c, Safe held I R G c none (programs c)) (hinit : I s)
    (hfree : held s = false) (hreach : World.Reachable programs s w) :
    ∃ holder, Guarded held I R G w holder := by
  induction hreach with
  | refl =>
    exact ⟨none, hinit, hfree, fun i c t ht => (by cases ht), fun j P hholder => (by cases hholder)⟩
  | tail _ hstep ih =>
    obtain ⟨holder, hguarded⟩ := ih
    rcases hstep with hspawn | ⟨c, hrun⟩
    · exact ⟨holder, hguarded.spawns hprograms hspawn⟩
    · exact (hguarded.runs hrun).2

end Rules

/-!
## どの順でもいずれ成り立つこと

一歩の関係 `R` について、どう進んでもいずれ `P` に至ること。公平さは仮定しない。一歩ごとに量が減る範囲で使う。
-/

variable {σ : Type} {R : σ → σ → Prop} {P : σ → Prop} {s s' : σ}

/-- どう進んでも、行き止まりになる前に `P` に至る。 -/
inductive Inevitable (R : σ → σ → Prop) (P : σ → Prop) : σ → Prop where
  | now {s : σ} (holds : P s) : Inevitable R P s
  | later {s : σ} (moves : ∃ s', R s s') (all : ∀ s', R s s' → Inevitable R P s') : Inevitable R P s

/-- どの一歩でも減る量があれば、いつか必ず着く。 -/
theorem inevitable_of_measure {I : σ → Prop} (size : σ → Nat)
    (hstep : ∀ s, I s → P s ∨ (∃ s', R s s') ∧ ∀ s', R s s' → I s' ∧ size s' < size s) (s : σ) (hI : I s) :
    Inevitable R P s := by
  induction hn : size s using Nat.strongRecOn generalizing s with
  | _ n ih =>
    subst hn
    cases hstep s hI with
    | inl holds => exact .now holds
    | inr hnext =>
      apply Inevitable.later hnext.1
      intro s' step
      exact ih (size s') (hnext.2 s' step).2 s' (hnext.2 s' step).1 rfl

theorem Inevitable.reaches (h : Inevitable R P s) : ∃ s', Relation.ReflTransGen R s s' ∧ P s' := by
  induction h with
  | now holds => exact ⟨_, .refl, holds⟩
  | later moves all ih =>
    obtain ⟨s', step⟩ := moves
    obtain ⟨t, steps, holds⟩ := ih s' step
    exact ⟨t, .head step steps, holds⟩

theorem Inevitable.along (hstable : ∀ s s', P s → R s s' → P s') (h : Inevitable R P s)
    (steps : Relation.ReflTransGen R s s') : Inevitable R P s' := by
  induction steps with
  | refl => exact h
  | tail _ step ih =>
    cases ih with
    | now holds => exact .now (hstable _ _ holds step)
    | later _ all => exact all _ step

end Codeoff.Control
