import Mathlib.Logic.Relation

/-!
# トランザクション

トランザクションの本体 `Tx σ ε α` は、状態を読み書きし、途中で誤り `ε` になりうる計算である。
`commit` は、本体が成功すればその状態を残し、誤りならば始めの状態へ戻す（ロールバック）。
-/

namespace Codeoff.Relational

def Tx (σ ε α : Type) : Type := σ → Except ε (α × σ)

variable {σ ε α β : Type}

namespace Tx

def pure (a : α) : Tx σ ε α := fun s => .ok (a, s)

def bind (x : Tx σ ε α) (f : α → Tx σ ε β) : Tx σ ε β := fun s =>
  match x s with
  | .ok (a, s') => f a s'
  | .error e => .error e

instance : Monad (Tx σ ε) where
  pure := pure
  bind := bind

def fail (e : ε) : Tx σ ε α := fun _ => .error e

def read (f : σ → α) : Tx σ ε α := fun s => .ok (f s, s)

def modify (f : σ → σ) : Tx σ ε Unit := fun s => .ok ((), f s)

def check (r : Except ε α) : Tx σ ε α := fun s => r.map (·, s)

def require (c : Bool) (e : ε) : Tx σ ε Unit := if c then pure () else fail e

def orElseFail (o : Option α) (e : ε) : Tx σ ε α :=
  match o with
  | some a => pure a
  | none => fail e

/-- 成功しても、値が `p` を満たせば書いたものを捨てる（確定せずに返る）。 -/
def rollbackIf (p : α → Bool) (x : Tx σ ε α) : Tx σ ε α := fun s =>
  match x s with
  | .ok (a, s') => .ok (a, if p a then s else s')
  | .error e => .error e

/-- 誤り `e` になれば、巻き戻して `y` を始めからやり直す。 -/
def onError [DecidableEq ε] (e : ε) (x y : Tx σ ε α) : Tx σ ε α := fun s =>
  match x s with
  | .ok r => .ok r
  | .error e' => if e' = e then y s else .error e'

/-- 値がなければ、巻き戻して `y` を始めからやり直す。 -/
def orRestart (x : Tx σ ε (Option α)) (y : Tx σ ε α) : Tx σ ε α := fun s =>
  match x s with
  | .ok (some a, s') => .ok (a, s')
  | .ok (none, _) => y s
  | .error e => .error e

/-- 続けた二つの文が通るのは、前の文が通り、その後の状態で後の文が通るときに限る。 -/
theorem bind_ok {x : Tx σ ε α} {f : α → Tx σ ε β} {s : σ} {r : β × σ} :
    (x >>= f) s = .ok r ↔ ∃ a s', x s = .ok (a, s') ∧ f a s' = .ok r := by
  show (match x s with | .ok (a, s') => f a s' | .error e => .error e) = .ok r ↔ _
  constructor
  · intro h
    split at h
    · rename_i a s' hx
      exact ⟨a, s', hx, h⟩
    · cases h
  · rintro ⟨a, s', hx, hf⟩
    rw [hx]
    exact hf

theorem bind_of_ok {x : Tx σ ε α} {f : α → Tx σ ε β} {s s' : σ} {a : α} (h : x s = .ok (a, s')) :
    (x >>= f) s = f a s' := by
  show (match x s with | .ok (a, s') => f a s' | .error e => .error e) = _
  rw [h]

theorem bind_of_error {x : Tx σ ε α} {f : α → Tx σ ε β} {s : σ} {e : ε} (h : x s = .error e) :
    (x >>= f) s = .error e := by
  show (match x s with | .ok (a, s') => f a s' | .error e => .error e) = _
  rw [h]

@[simp] theorem pure_apply (a : α) (s : σ) : (Pure.pure a : Tx σ ε α) s = .ok (a, s) := rfl

@[simp] theorem pure'_apply (a : α) (s : σ) : (pure a : Tx σ ε α) s = .ok (a, s) := rfl

@[simp] theorem fail_apply (e : ε) (s : σ) : (fail e : Tx σ ε α) s = .error e := rfl

@[simp] theorem read_apply (f : σ → α) (s : σ) : (read f : Tx σ ε α) s = .ok (f s, s) := rfl

@[simp] theorem modify_apply (f : σ → σ) (s : σ) : (modify f : Tx σ ε Unit) s = .ok ((), f s) := rfl

theorem check_ok {r : Except ε α} {s s' : σ} {a : α} :
    (check r : Tx σ ε α) s = .ok (a, s') ↔ r = .ok a ∧ s' = s := by
  unfold check
  cases r with
  | error e => simp [Except.map]
  | ok b =>
    simp only [Except.map, Except.ok.injEq, Prod.mk.injEq]
    exact ⟨fun ⟨h, h'⟩ => ⟨h, h'.symm⟩, fun ⟨h, h'⟩ => ⟨h, h'.symm⟩⟩

theorem require_ok {c : Bool} {e : ε} {s s' : σ} {u : Unit} :
    (require c e : Tx σ ε Unit) s = .ok (u, s') ↔ c = true ∧ s' = s := by
  cases c with
  | true => simp [require, eq_comm]
  | false => simp [require]

theorem orElseFail_ok {o : Option α} {e : ε} {s s' : σ} {a : α} :
    (orElseFail o e : Tx σ ε α) s = .ok (a, s') ↔ o = some a ∧ s' = s := by
  cases o with
  | none => simp [orElseFail]
  | some b => simp [orElseFail, eq_comm]

/-- 巻き戻しの後の状態は、始めの状態である。 -/
theorem rollbackIf_ok {p : α → Bool} {x : Tx σ ε α} {s s' : σ} {a : α} :
    rollbackIf p x s = .ok (a, s') ↔ ∃ t, x s = .ok (a, t) ∧ s' = if p a then s else t := by
  unfold rollbackIf
  cases hx : x s with
  | error e => simp
  | ok r =>
    obtain ⟨b, t⟩ := r
    simp only [Except.ok.injEq, Prod.mk.injEq]
    constructor
    · rintro ⟨rfl, rfl⟩
      exact ⟨t, ⟨rfl, rfl⟩, rfl⟩
    · rintro ⟨t', ⟨rfl, rfl⟩, rfl⟩
      exact ⟨rfl, rfl⟩

theorem onError_ok [DecidableEq ε] {e : ε} {x y : Tx σ ε α} {s : σ} {r : α × σ} :
    onError e x y s = .ok r ↔ x s = .ok r ∨ (x s = .error e ∧ y s = .ok r) := by
  unfold onError
  cases hx : x s with
  | ok r' => simp
  | error e' =>
    by_cases he : e' = e
    · simp [he]
    · simp [he]

theorem orRestart_ok {x : Tx σ ε (Option α)} {y : Tx σ ε α} {s s' : σ} {a : α} :
    orRestart x y s = .ok (a, s') ↔
      x s = .ok (some a, s') ∨ ((∃ t, x s = .ok (none, t)) ∧ y s = .ok (a, s')) := by
  unfold orRestart
  cases hx : x s with
  | error e => simp
  | ok r =>
    obtain ⟨o, t⟩ := r
    cases o with
    | none => simp
    | some b => simp

variable {f : α → Tx σ ε β} {g : Unit → Tx σ ε β} {s : σ} {out : β × σ}

theorem pure_bind_apply (a : α) : ((Pure.pure a : Tx σ ε α) >>= f) s = f a s := rfl

theorem read_bind_apply (h : σ → α) : ((read h : Tx σ ε α) >>= f) s = f (h s) s := rfl

theorem modify_bind_apply (h : σ → σ) : ((modify h : Tx σ ε Unit) >>= g) s = g () (h s) := rfl

theorem check_bind_ok {r : Except ε α} :
    ((check r : Tx σ ε α) >>= f) s = .ok out ↔ ∃ a, r = .ok a ∧ f a s = .ok out := by
  rw [bind_ok]
  constructor
  · rintro ⟨a, t, hc, h⟩
    obtain ⟨hr, rfl⟩ := check_ok.mp hc
    exact ⟨a, hr, h⟩
  · rintro ⟨a, hr, h⟩
    exact ⟨a, s, check_ok.mpr ⟨hr, rfl⟩, h⟩

theorem require_bind_ok {c : Bool} {e : ε} :
    ((require c e : Tx σ ε Unit) >>= g) s = .ok out ↔ c = true ∧ g () s = .ok out := by
  cases c with
  | true => simp [require, bind_of_ok (pure'_apply () s)]
  | false => simp [require, bind_of_error (fail_apply e s)]

theorem check_bind_of {r : Except ε α} {a : α} (h : r = .ok a) :
    ((check r : Tx σ ε α) >>= f) s = f a s := by
  rw [h]
  rfl

theorem require_bind_of {c : Bool} {e : ε} (h : c = true) :
    ((require c e : Tx σ ε Unit) >>= g) s = g () s := by
  rw [h]
  rfl

theorem orElseFail_bind_ok {o : Option α} {e : ε} :
    ((orElseFail o e : Tx σ ε α) >>= f) s = .ok out ↔ ∃ a, o = some a ∧ f a s = .ok out := by
  rw [bind_ok]
  constructor
  · rintro ⟨a, t, hf, h⟩
    obtain ⟨ho, rfl⟩ := orElseFail_ok.mp hf
    exact ⟨a, ho, h⟩
  · rintro ⟨a, ho, h⟩
    exact ⟨a, s, orElseFail_ok.mpr ⟨ho, rfl⟩, h⟩

end Tx

theorem except_bind_ok {x : Except ε α} {f : α → Except ε β} {b : β} :
    (x >>= f) = .ok b ↔ ∃ a, x = .ok a ∧ f a = .ok b := by
  cases x with
  | error e => simp [Bind.bind, Except.bind]
  | ok a => simp [Bind.bind, Except.bind]

theorem reject_ok {c : Prop} [Decidable c] {e : ε} {f : α → Except ε β} {y : Except ε β} {b : β} :
    (if c then (.error e >>= f) else y) = .ok b ↔ ¬c ∧ y = .ok b := by
  by_cases hc : c
  · simp [hc, Bind.bind, Except.bind]
  · simp [hc]

def commit (x : Tx σ ε α) (s : σ) : Except ε α × σ :=
  match x s with
  | .ok (a, s') => (.ok a, s')
  | .error e => (.error e, s)

theorem commit_eq_ok {x : Tx σ ε α} {s s' : σ} {a : α} :
    commit x s = (.ok a, s') ↔ x s = .ok (a, s') := by
  unfold commit
  cases hx : x s with
  | error e => simp
  | ok p => obtain ⟨b, t⟩ := p; simp

theorem commit_eq_error {x : Tx σ ε α} {s s' : σ} {e : ε} :
    commit x s = (.error e, s') ↔ x s = .error e ∧ s' = s := by
  unfold commit
  cases hx : x s with
  | error e' => simp [eq_comm]
  | ok p => obtain ⟨b, t⟩ := p; simp

/-- 計算が成功し、その値と後の状態が `p` を満たすか。 -/
def Tx.satisfies (x : Tx σ ε α) (s : σ) (p : α → σ → Bool) : Bool :=
  match x s with
  | .ok (a, s') => p a s'
  | .error _ => false

theorem Tx.satisfies_iff {x : Tx σ ε α} {s : σ} {p : α → σ → Bool} :
    x.satisfies s p = true ↔ ∃ a s', x s = .ok (a, s') ∧ p a s' = true := by
  unfold Tx.satisfies
  cases hx : x s with
  | error e => simp
  | ok out =>
    constructor
    · intro h
      exact ⟨out.1, out.2, rfl, h⟩
    · rintro ⟨a, s', hout, h⟩
      cases hout
      exact h

/-! ## 状態の関係を保つ計算

反射的で推移的な関係 `r` について、成功した計算の前後の状態が `r` の関係にあること。関係を文ごとに
確かめれば、順に並べた計算全体について言える。
-/

namespace Respects

variable {r : σ → σ → Prop}

end Respects

/-! ## 起こさない誤り

計算の誤りがどの文から来たかを、順に並べた計算から一つずつ除いて突き止める。
-/

/-- `x` は、条件 `bad` の誤りを起こさない。 -/
def Avoids (bad : ε → Prop) (x : Tx σ ε α) : Prop := ∀ s e, x s = .error e → ¬bad e

/-- 状態を使わない検査 `r` は、条件 `bad` の誤りを起こさない。 -/
def AvoidsError (bad : ε → Prop) (r : Except ε α) : Prop := ∀ e, r = .error e → ¬bad e

namespace Avoids

variable {bad : ε → Prop}

theorem pure (a : α) : Avoids bad (Pure.pure a : Tx σ ε α) := by
  intro s e h
  cases h

theorem read (f : σ → α) : Avoids bad (Tx.read f : Tx σ ε α) := by
  intro s e h
  cases h

theorem fail {e : ε} (he : ¬bad e) : Avoids bad (Tx.fail e : Tx σ ε α) := by
  intro s e' h
  cases h
  exact he

theorem check {r : Except ε α} (hr : AvoidsError bad r) : Avoids bad (Tx.check r : Tx σ ε α) := by
  intro s e h
  cases r with
  | ok a => cases h
  | error e' =>
    cases h
    exact hr e rfl

theorem require {c : Bool} {e : ε} (he : ¬bad e) : Avoids bad (Tx.require c e : Tx σ ε Unit) := by
  cases c with
  | true => exact pure ()
  | false => exact fail he

theorem orElseFail {o : Option α} {e : ε} (he : ¬bad e) :
    Avoids bad (Tx.orElseFail o e : Tx σ ε α) := by
  cases o with
  | some a => exact pure a
  | none => exact fail he

theorem bind {x : Tx σ ε α} {f : α → Tx σ ε β} (hx : Avoids bad x) (hf : ∀ a, Avoids bad (f a)) :
    Avoids bad (x >>= f) := by
  intro s e h
  cases hrun : x s with
  | ok out =>
    rw [Tx.bind_of_ok hrun] at h
    exact hf out.1 out.2 e h
  | error e' =>
    rw [Tx.bind_of_error hrun] at h
    cases h
    exact hx s e hrun

theorem bind_error {x : Tx σ ε α} {f : α → Tx σ ε β} {s : σ} {e : ε} (hx : Avoids bad x) (he : bad e)
    (h : (x >>= f) s = .error e) : ∃ a s', x s = .ok (a, s') ∧ f a s' = .error e := by
  cases hrun : x s with
  | ok out =>
    rw [Tx.bind_of_ok hrun] at h
    exact ⟨out.1, out.2, rfl, h⟩
  | error e' =>
    rw [Tx.bind_of_error hrun] at h
    cases h
    exact absurd he (hx s e hrun)

theorem error_of_bind {x : Tx σ ε α} {f : α → Tx σ ε β} {s : σ} {e : ε} (hf : ∀ a, Avoids bad (f a))
    (he : bad e) (h : (x >>= f) s = .error e) : x s = .error e := by
  cases hrun : x s with
  | ok out =>
    rw [Tx.bind_of_ok hrun] at h
    exact absurd he (hf out.1 out.2 e h)
  | error e' =>
    rw [Tx.bind_of_error hrun] at h
    cases h
    rfl

end Avoids

namespace AvoidsError

variable {bad : ε → Prop}

theorem ok (a : α) : AvoidsError bad (.ok a : Except ε α) := by
  intro e h
  cases h

theorem error {e : ε} (he : ¬bad e) : AvoidsError bad (.error e : Except ε α) := by
  intro e' h
  cases h
  exact he

theorem bind {x : Except ε α} {f : α → Except ε β} (hx : AvoidsError bad x)
    (hf : ∀ a, AvoidsError bad (f a)) : AvoidsError bad (x >>= f) := by
  intro e h
  cases x with
  | ok a => exact hf a e h
  | error e' =>
    cases h
    exact hx e rfl

end AvoidsError

theorem invariant_of_steps {step : σ → σ → Prop} {I : σ → Prop} {s s' : σ}
    (hstep : ∀ a b, I a → step a b → I b) (h0 : I s) (h : Relation.ReflTransGen step s s') : I s' := by
  induction h with
  | refl => exact h0
  | tail _ hst ih => exact hstep _ _ ih hst

theorem reflTransGen_foldl {r : σ → σ → Prop} {f : σ → α → σ} (l : List α)
    (h : ∀ a ∈ l, ∀ s, r s (f s a)) (s : σ) : Relation.ReflTransGen r s (l.foldl f s) := by
  induction l generalizing s with
  | nil => exact .refl
  | cons a l ih =>
    exact .head (h a List.mem_cons_self s) (ih (fun b hb => h b (List.mem_cons_of_mem _ hb)) (f s a))

end Codeoff.Relational
