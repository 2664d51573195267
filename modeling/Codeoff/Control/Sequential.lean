import Codeoff.Control.Interleaving

/-!
# 順に行う実行

ほかの処理の入らない実行の前提と結論、記録に一件ずつ加える呼び出しの列の性質。
-/

namespace Codeoff.Control

namespace Thread

variable {σ ρ ρ' α : Type} {P : σ → Prop} {Q : ρ → σ → Prop}

/-- `P` の成り立つ状態から一人で走れば、`Q` で終わる。 -/
def Ensures (P : σ → Prop) (t : Thread σ ρ) (Q : ρ → σ → Prop) : Prop :=
  ∀ s, P s → Q (t.alone s).1 (t.alone s).2

theorem ensures_done {result : ρ} (h : ∀ s, P s → Q result s) : Ensures P (.done result) Q := h

theorem ensures_atomic {op : σ → α × σ} {next : α → Thread σ ρ} {M : α → σ → Prop}
    (hop : ∀ s, P s → M (op s).1 (op s).2) (hnext : ∀ a, Ensures (M a) (next a) Q) :
    Ensures P (.atomic op next) Q :=
  fun s hs => hnext _ _ (hop s hs)

/-- `n` 歩だけ進んだところ。終わった処理と待つ処理は、それ以上進まない。 -/
def cut : Nat → Thread σ ρ → σ → σ
  | 0, _, s => s
  | _ + 1, .done _, s => s
  | n + 1, .step guard write next, s => if guard s then (next s).cut n (write s) else s

@[simp] theorem cut_zero (t : Thread σ ρ) (s : σ) : t.cut 0 s = s := rfl

@[simp] theorem cut_done (n : Nat) (result : ρ) (s : σ) : (done result : Thread σ ρ).cut n s = s := by
  cases n <;> rfl

@[simp] theorem cut_atomic (n : Nat) (op : σ → α × σ) (next : α → Thread σ ρ) (s : σ) :
    (atomic op next).cut (n + 1) s = (next (op s).1).cut n (op s).2 := rfl

def Free : Thread σ ρ → Prop
  | .done _ => True
  | .step guard _ next => ∀ s, guard s = true ∧ (next s).Free

theorem free_atomic {op : σ → α × σ} {next : α → Thread σ ρ} (h : ∀ a, (next a).Free) : (atomic op next).Free :=
  fun s => ⟨rfl, h (op s).1⟩

theorem free_bind {t : Thread σ ρ} {f : ρ → Thread σ ρ'} (ht : t.Free) (hf : ∀ result, (f result).Free) :
    (t.bind f).Free := by
  induction t with
  | done result => exact hf result
  | step guard write next ih => exact fun s => ⟨(ht s).1, ih s (ht s).2⟩

/-- どこで捨てられても、初めの状態と関係 `R` にある。 -/
def Keeps (R : σ → σ → Prop) (t : Thread σ ρ) : Prop := ∀ n s, R s (t.cut n s)

theorem keeps_done {R : σ → σ → Prop} (hrefl : ∀ s, R s s) {result : ρ} : Keeps R (.done result : Thread σ ρ) := by
  intro n s
  rw [cut_done]
  exact hrefl s

theorem keeps_atomic {R : σ → σ → Prop} {op : σ → α × σ} {next : α → Thread σ ρ} (hrefl : ∀ s, R s s)
    (htrans : ∀ s s' s'', R s s' → R s' s'' → R s s'') (hop : ∀ s, R s (op s).2) (hnext : ∀ a, Keeps R (next a)) :
    Keeps R (.atomic op next) := by
  intro n s
  cases n with
  | zero => exact hrefl s
  | succ n =>
    rw [cut_atomic]
    exact htrans _ _ _ (hop s) (hnext _ n _)

end Thread

section Log

variable {σ κ α : Type} {f : σ → κ → σ}

/-- 列のどの呼び出しも、始まるときの状態で条件 `C` を満たす。 -/
def StepsMeet (f : σ → κ → σ) (C : σ → κ → Prop) : σ → List κ → Prop
  | _, [] => True
  | s, c :: calls => C s c ∧ StepsMeet f C (f s c) calls

instance instDecidableStepsMeet {C : σ → κ → Prop} [∀ s c, Decidable (C s c)] :
    (s : σ) → (calls : List κ) → Decidable (StepsMeet f C s calls)
  | _, [] => .isTrue trivial
  | s, c :: calls => @instDecidableAnd _ _ inferInstance (instDecidableStepsMeet (f s c) calls)

theorem stepsMeet_append {C : σ → κ → Prop} {s : σ} {before after : List κ} :
    StepsMeet f C s (before ++ after) ↔ StepsMeet f C s before ∧ StepsMeet f C (before.foldl f s) after := by
  induction before generalizing s with
  | nil => simp [StepsMeet]
  | cons c before ih => simp [StepsMeet, ih, and_assoc]

theorem StepsMeet.and {C C' : σ → κ → Prop} {s : σ} {calls : List κ} (h : StepsMeet f C s calls)
    (h' : StepsMeet f C' s calls) : StepsMeet f (fun s c => C s c ∧ C' s c) s calls := by
  induction calls generalizing s with
  | nil => trivial
  | cons c calls ih => exact ⟨⟨h.1, h'.1⟩, ih h.2 h'.2⟩

theorem StepsMeet.invariant {I : σ → Prop} {C : σ → κ → Prop} (hstep : ∀ s c, I s → C s c → I (f s c)) {s : σ}
    (hs : I s) {calls : List κ} (h : StepsMeet f C s calls) : I (calls.foldl f s) := by
  induction calls generalizing s with
  | nil => exact hs
  | cons c calls ih => exact ih (hstep s c hs h.1) h.2

/-- 一歩ごとに不変条件と条件を得れば、列の全体で条件が成り立つ。 -/
theorem stepsMeet_of_inv {I : σ → Prop} {C : σ → κ → Prop} {calls : List κ}
    (hstep : ∀ s, ∀ c ∈ calls, I s → I (f s c) ∧ C s c) {s : σ} (hs : I s) :
    I (calls.foldl f s) ∧ StepsMeet f C s calls := by
  induction calls generalizing s with
  | nil => exact ⟨hs, trivial⟩
  | cons c calls ih =>
    obtain ⟨hinv, hmeets⟩ := hstep s c (by simp) hs
    obtain ⟨hrun, hrest⟩ := ih (fun s c hc => hstep s c (by simp [hc])) hinv
    exact ⟨hrun, hmeets, hrest⟩

theorem pairwise_log_iff {l : σ → List α} {e : σ → κ → Option α} {I : σ → Prop} {P : α → α → Prop}
    {C : σ → κ → Prop} (hlog : ∀ s c, I s → l (f s c) = l s ++ (e s c).toList)
    (hinv : ∀ s c, I s → I (f s c))
    (hstep : ∀ s c, I s → ((∀ a ∈ e s c, ∀ b ∈ l s, P b a) ↔ C s c)) {s : σ} (hs : I s) (calls : List κ) :
    (l (calls.foldl f s)).Pairwise P ↔ (l s).Pairwise P ∧ StepsMeet f C s calls := by
  induction calls generalizing s with
  | nil => simp [StepsMeet]
  | cons c calls ih =>
    have hemit : (l (f s c)).Pairwise P ↔ (l s).Pairwise P ∧ C s c := by
      rw [hlog s c hs, List.pairwise_append, ← hstep s c hs]
      cases e s c <;> simp
    rw [List.foldl_cons, ih (hinv s c hs), hemit, StepsMeet, and_assoc]

/-- 履歴の伸びが一歩ごとに条件と同値なら、履歴の全体も列の条件と同値である。 -/
theorem pairwise_run_iff {l : σ → List α} {I : σ → Prop} {P : α → α → Prop} {C : σ → κ → Prop}
    (hgrows : ∀ s c, l s <+: l (f s c))
    (hstep : ∀ s c, I s → (l s).Pairwise P → ((l (f s c)).Pairwise P ↔ C s c))
    (hinv : ∀ s c, I s → C s c → I (f s c)) {s : σ} (hs : I s) (hl : (l s).Pairwise P) (calls : List κ) :
    (l (calls.foldl f s)).Pairwise P ↔ StepsMeet f C s calls := by
  have hfold (calls : List κ) : ∀ s, l s <+: l (calls.foldl f s) := by
    induction calls with
    | nil => exact fun s => List.prefix_rfl
    | cons c calls ih => exact fun s => (hgrows s c).trans (ih _)
  induction calls generalizing s with
  | nil => simpa [StepsMeet] using hl
  | cons c calls ih =>
    rw [List.foldl_cons, StepsMeet]
    by_cases hC : C s c
    · exact (ih (hinv s c hs hC) ((hstep s c hs hl).mpr hC)).trans (and_iff_right hC).symm
    · refine iff_of_false (fun hall => hC ?_) fun h => hC h.1
      exact (hstep s c hs hl).mp (hall.sublist (hfold calls _).sublist)

end Log

/-!
## 持ち物のある交互実行

何本もの処理が、錠なしに、原子的な一歩ずつ任意の順に進む。処理は高々一つの持ち物を持つ。不変条件は、状態と、どの処理が何を
持つかについて述べる。どの処理の一歩も、持ち物を替えながら不変条件を保つなら、全体も保つ。
-/

variable {ι σ ρ ρ' α P : Type}

/-- どの処理が何を持つか。 -/
abbrev Ownership (P : Type) := Nat → Option P

namespace Thread

/-- 持ち物 `p` から始めて、どの一歩も不変条件を保ち、終わりの結果と持ち物が `Q` を満たす。 -/
def Owned (I : σ → Ownership P → Prop) (Q : ρ → Option P → Prop) : Option P → Thread σ ρ → Prop
  | p, .done result => Q result p
  | p, .step guard write next => ∀ s own i, I s own → own i = p → guard s = true →
    ∃ p', I (write s) (Function.update own i p') ∧ Owned I Q p' (next s)

variable {I : σ → Ownership P → Prop} {Q : ρ → Option P → Prop} {R : ρ' → Option P → Prop} {p : Option P}

theorem owned_done {result : ρ} (h : Q result p) : Owned I Q p (.done result) := h

theorem owned_atomic {op : σ → α × σ} {next : α → Thread σ ρ}
    (h : ∀ s own i, I s own → own i = p →
      ∃ p', I (op s).2 (Function.update own i p') ∧ Owned I Q p' (next (op s).1)) :
    Owned I Q p (.atomic op next) :=
  fun s own i hI hown _ => h s own i hI hown

theorem owned_bind {t : Thread σ ρ} {f : ρ → Thread σ ρ'} (ht : Owned I Q p t)
    (hf : ∀ result p', Q result p' → Owned I R p' (f result)) : Owned I R p (t.bind f) := by
  induction t generalizing p with
  | done result => exact hf result p ht
  | step guard write next ih =>
    intro s own i hI hown hguard
    obtain ⟨p', hI', hnext⟩ := ht s own i hI hown hguard
    exact ⟨p', hI', ih s hnext⟩

/-- 途中で捨てられた処理の後も、不変条件は誰かの持つものについて成り立つ。 -/
theorem Owned.cut {t : Thread σ ρ} (ht : Owned I Q p t) {s : σ} {own : Ownership P} {i : Nat} (hI : I s own)
    (hown : own i = p) (n : Nat) : ∃ own', I (t.cut n s) own' := by
  induction n generalizing t s own p with
  | zero => exact ⟨own, hI⟩
  | succ n ih =>
    cases t with
    | done result => exact ⟨own, by rwa [cut_done]⟩
    | step guard write next =>
      simp only [Thread.cut]
      by_cases hguard : guard s = true
      · rw [if_pos hguard]
        obtain ⟨p', hI', hnext⟩ := ht s own i hI hown hguard
        exact ih hnext hI' (Function.update_self ..)
      · rw [if_neg hguard]
        exact ⟨own, hI⟩

theorem Owned.alone {t : Thread σ ρ} (ht : Owned I Q p t) (hfree : t.Free) {s : σ} {own : Ownership P} {i : Nat}
    (hI : I s own) (hown : own i = p) :
    ∃ p', I (t.alone s).2 (Function.update own i p') ∧ Q (t.alone s).1 p' := by
  induction t generalizing s own p with
  | done result => exact ⟨p, by rwa [← hown, Function.update_eq_self], ht⟩
  | step guard write next ih =>
    obtain ⟨hguard, hnext⟩ := hfree s
    obtain ⟨p', hI', howned⟩ := ht s own i hI hown hguard
    obtain ⟨p'', hfinal, hQ⟩ := ih s howned hnext hI' (Function.update_self ..)
    rw [Function.update_idem] at hfinal
    exact ⟨p'', hfinal, hQ⟩

end Thread

open Thread

/-- 不変条件が成り立ち、どの処理も持ち物に応じて約束を守る。終わった処理は何も持たない。 -/
structure Owns (I : σ → Ownership P → Prop) (w : World ι σ ρ) (own : Ownership P) : Prop where
  inv : I w.state own
  idle : ∀ i, w.tasks i = none → own i = none
  tasks : ∀ i c t, w.tasks i = some (c, t) → Owned I (fun _ p => p = none) (own i) t

variable {I : σ → Ownership P → Prop} {programs : ι → Thread σ ρ} {w w' : World ι σ ρ} {own : Ownership P}

theorem Owns.put (h : Owns I w own) {i : Nat} {s : σ} {c : ι} {t : Thread σ ρ} {p : Option P}
    (hinv : I s (Function.update own i p)) (ht : Owned I (fun _ p => p = none) p t) :
    Owns I (w.put i s (c, t)) (Function.update own i p) := by
  constructor
  · exact hinv
  · intro j hj
    by_cases hji : j = i
    · simp [World.put, hji] at hj
    · simp only [World.put, Function.update_of_ne hji] at hj ⊢
      exact h.idle j hj
  · intro j d u hj
    by_cases hji : j = i
    · subst hji
      simp only [World.put, Function.update_self, Option.some.injEq, Prod.mk.injEq] at hj ⊢
      obtain ⟨rfl, rfl⟩ := hj
      exact ht
    · simp only [World.put, Function.update_of_ne hji] at hj ⊢
      exact h.tasks j d u hj

theorem Owns.step (hprograms : ∀ c, Owned I (fun _ p => p = none) none (programs c)) (h : Owns I w own)
    (hstep : World.Step programs w w') : ∃ own', Owns I w' own' := by
  rcases hstep with ⟨i, c, hfree, rfl⟩ | ⟨c, i, guard, write, next, htask, hguard, rfl⟩
  · have hnone : Function.update own i none = own := by rw [← h.idle i hfree, Function.update_eq_self]
    exact ⟨_, h.put (by rw [hnone]; exact h.inv) (hprograms c)⟩
  · obtain ⟨p', hinv, hnext⟩ := h.tasks i c _ htask w.state own i h.inv rfl hguard
    exact ⟨_, h.put hinv hnext⟩

/-- どの処理も持つものを返して終わるなら、到達するどの世界にも持ち主の割り当てがある。 -/
theorem owns_of_reachable {s : σ} (hprograms : ∀ c, Owned I (fun _ p => p = none) none (programs c))
    (hinit : I s fun _ => none) (hreach : World.Reachable programs s w) : ∃ own, Owns I w own := by
  induction hreach with
  | refl => exact ⟨fun _ => none, hinit, fun _ _ => rfl, fun i c t ht => (by cases ht)⟩
  | tail _ hstep ih =>
    obtain ⟨own, howns⟩ := ih
    exact howns.step hprograms hstep

def World.Finished (w : World ι σ ρ) : Prop := ∀ i c t, w.tasks i = some (c, t) → ∃ result, t = .done result

theorem Owns.unowned (h : Owns I w own) (hfinished : w.Finished) : own = fun _ => none := by
  funext i
  cases htask : w.tasks i with
  | none => exact h.idle i htask
  | some task =>
    obtain ⟨result, hdone⟩ := hfinished i task.1 task.2 htask
    have howned := h.tasks i task.1 task.2 htask
    rw [hdone] at howned
    exact howned

end Codeoff.Control
