import Mathlib.Logic.Basic

/-!
# 状態を書き換える呼び出し

`&mut self` を受け取り、誤りになりうる呼び出しを `EStateM` で表す。誤りで終わっても、そこまでの書き換
えは残る。
-/

namespace Codeoff.Control

variable {ε σ α β : Type} {s s' : σ}

theorem bind_ok {x : EStateM ε σ α} {f : α → EStateM ε σ β} {b : β} :
    (x >>= f) s = .ok b s' ↔ ∃ a t, x s = .ok a t ∧ f a t = .ok b s' := by
  show (match x s with | .ok a t => f a t | .error e t => .error e t) = _ ↔ _
  cases x s <;> simp [and_assoc]

theorem bind_error {x : EStateM ε σ α} {f : α → EStateM ε σ β} {e : ε} :
    (x >>= f) s = .error e s' ↔ x s = .error e s' ∨ ∃ a t, x s = .ok a t ∧ f a t = .error e s' := by
  show (match x s with | .ok a t => f a t | .error e t => .error e t) = _ ↔ _
  cases x s <;> simp [and_assoc]

def inspect (check : σ → Except ε α) : EStateM ε σ α := fun s =>
  match check s with
  | .ok a => .ok a s
  | .error e => .error e s

theorem inspect_bind_ok {check : σ → Except ε α} {f : α → EStateM ε σ β} {b : β} :
    (inspect check >>= f) s = .ok b s' ↔ ∃ a, check s = .ok a ∧ f a s = .ok b s' := by
  rw [bind_ok]
  unfold inspect
  cases check s <;> simp [and_assoc]

theorem inspect_bind_error {check : σ → Except ε α} {f : α → EStateM ε σ β} {e : ε} :
    (inspect check >>= f) s = .error e s' ↔
      (check s = .error e ∧ s' = s) ∨ ∃ a, check s = .ok a ∧ f a s = .error e s' := by
  rw [bind_error]
  unfold inspect
  cases check s with
  | ok a => simp [and_assoc]
  | error e' => simp [eq_comm]

@[simp] theorem modify_bind (g : σ → σ) (f : PUnit → EStateM ε σ β) : (modify g >>= f) s = f ⟨⟩ (g s) :=
  rfl

@[simp] theorem get_bind (f : σ → EStateM ε σ β) : (get >>= f) s = f s s :=
  rfl

@[simp] theorem pure_apply (a : α) : (pure a : EStateM ε σ α) s = .ok a s :=
  rfl

@[simp] theorem throw_apply (e : ε) : (throw e : EStateM ε σ α) s = .error e s :=
  rfl

@[simp] theorem modify_apply (g : σ → σ) : (modify g : EStateM ε σ PUnit) s = .ok ⟨⟩ (g s) :=
  rfl

def Checked (x : EStateM ε σ α) : Prop := ∀ ⦃s e s'⦄, x s = .error e s' → s' = s

def Infallible (x : EStateM ε σ α) : Prop := ∀ s, ∃ a s', x s = .ok a s'

theorem Infallible.pure (a : α) : Infallible (pure a : EStateM ε σ α) := fun s => ⟨a, s, rfl⟩

theorem Infallible.modify (g : σ → σ) : Infallible (modify g : EStateM ε σ PUnit) := fun s =>
  ⟨⟨⟩, g s, rfl⟩

theorem Infallible.bind {x : EStateM ε σ α} {f : α → EStateM ε σ β} (hx : Infallible x)
    (hf : ∀ a, Infallible (f a)) : Infallible (x >>= f) := by
  intro s
  obtain ⟨a, t, hok⟩ := hx s
  obtain ⟨b, u, hrest⟩ := hf a t
  exact ⟨b, u, bind_ok.mpr ⟨a, t, hok, hrest⟩⟩

theorem Infallible.checked {x : EStateM ε σ α} (hx : Infallible x) : Checked x := by
  intro s e s' herror
  obtain ⟨a, t, hok⟩ := hx s
  rw [hok] at herror
  cases herror

theorem Checked.throw (e : ε) : Checked (throw e : EStateM ε σ α) := by
  intro s e' s' herror
  cases herror
  rfl

theorem Checked.inspect_bind {check : σ → Except ε α} {f : α → EStateM ε σ β} (hf : ∀ a, Checked (f a)) :
    Checked (Control.inspect check >>= f) := by
  intro s e s' herror
  obtain ⟨_, rfl⟩ | ⟨a, _, hrest⟩ := inspect_bind_error.mp herror
  · rfl
  · exact hf a hrest

theorem Checked.bind {x : EStateM ε σ α} {f : α → EStateM ε σ β} (hx : Checked x)
    (hf : ∀ a, Infallible (f a)) : Checked (x >>= f) := by
  intro s e s' herror
  obtain hfirst | ⟨a, t, _, hrest⟩ := bind_error.mp herror
  · exact hx hfirst
  · obtain ⟨b, u, hok⟩ := hf a t
    rw [hok] at hrest
    cases hrest

end Codeoff.Control
