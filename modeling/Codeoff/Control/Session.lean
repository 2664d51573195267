import Mathlib.Data.List.Basic

/-!
# 相手の言葉を待ちながら進む計算

届いたものを一つずつ読む繰り返しと、その間に書いたものの記録。届いたものを読み尽くせば、計算はそこで待つ。
-/

namespace Codeoff.Control

universe u v

variable {σ : Type v} {α β : Type u} {ι ρ κ τ : Type*}

/-- 一つ読んだ後。`held` は、読まずに終わり、届いたものを次に読む者へ残す。 -/
inductive Verdict (σ ρ : Type*) where
  | next (s : σ)
  | done (r : ρ) (s : σ)
  | held (r : ρ) (s : σ)

def Verdict.state : Verdict σ ρ → σ
  | .next s => s
  | .done _ s => s
  | .held _ s => s

inductive Polled (σ ι ρ : Type*) where
  | waiting (s : σ)
  | ended (r : ρ) (s : σ) (rest : List ι)
deriving DecidableEq

def poll (step : σ → ι → Verdict σ ρ) (s : σ) : List ι → Polled σ ι ρ
  | [] => .waiting s
  | i :: rest =>
    match step s i with
    | .next s' => poll step s' rest
    | .done r s' => .ended r s' rest
    | .held r s' => .ended r s' (i :: rest)

variable {step : σ → ι → Verdict σ ρ}

theorem poll_append_of_waiting {s s' : σ} {is : List ι} (js : List ι) (h : poll step s is = .waiting s') :
    poll step s (is ++ js) = poll step s' js := by
  induction is generalizing s with
  | nil => cases h; rfl
  | cons i is ih =>
    simp only [poll, List.cons_append] at h ⊢
    cases hi : step s i with
    | next t => simp only [hi] at h ⊢; exact ih h
    | done r t => simp [hi] at h
    | held r t => simp [hi] at h

theorem poll_append_of_ended {s s' : σ} {r : ρ} {is rest : List ι} (js : List ι)
    (h : poll step s is = .ended r s' rest) : poll step s (is ++ js) = .ended r s' (rest ++ js) := by
  induction is generalizing s with
  | nil => cases h
  | cons i is ih =>
    simp only [poll, List.cons_append] at h ⊢
    cases hi : step s i with
    | next t => simp only [hi] at h ⊢; exact ih h
    | done r' t => simp only [hi] at h ⊢; cases h; rfl
    | held r' t => simp only [hi] at h ⊢; cases h; rfl

/-- 終わった読み取りには、終わらせた入力がちょうど一つある。 -/
theorem poll_ended {s s' : σ} {r : ρ} {is rest : List ι} (h : poll step s is = .ended r s' rest) :
    ∃ before i after t, is = before ++ i :: after ∧ poll step s before = .waiting t ∧
      ((step t i = .done r s' ∧ rest = after) ∨ (step t i = .held r s' ∧ rest = i :: after)) := by
  induction is generalizing s with
  | nil => cases h
  | cons i is ih =>
    simp only [poll] at h
    cases hi : step s i with
    | next t =>
      simp only [hi] at h
      obtain ⟨before, j, after, u, rfl, hbefore, hend⟩ := ih h
      exact ⟨i :: before, j, after, u, rfl, by simp only [poll, hi]; exact hbefore, hend⟩
    | done r' t =>
      simp only [hi] at h
      cases h
      exact ⟨[], i, _, s, rfl, rfl, .inl ⟨hi, rfl⟩⟩
    | held r' t =>
      simp only [hi] at h
      cases h
      exact ⟨[], i, _, s, rfl, rfl, .inr ⟨hi, rfl⟩⟩

theorem poll_dropWhile {skip : ι → Bool} {after : σ → ι → σ}
    (hskip : ∀ s i, skip i = true → step s i = .next (after s i)) (s : σ) (input : List ι) :
    poll step s input = poll step ((input.takeWhile skip).foldl after s) (input.dropWhile skip) := by
  induction input generalizing s with
  | nil => rfl
  | cons i rest ih =>
    cases hi : skip i with
    | false => simp [hi]
    | true => simp only [List.takeWhile_cons, List.dropWhile_cons, hi, if_true, List.foldl_cons, poll, hskip s i hi, ih]

/-- 待っている間の状態について、読んだ入力の列による帰納法。 -/
theorem poll_waiting_history {I : List ι → σ → Prop} {past : List ι}
    (hstep : ∀ past s i s', I past s → step s i = .next s' → I (past ++ [i]) s') {s s' : σ} {read : List ι}
    (hs : I past s) (h : poll step s read = .waiting s') : I (past ++ read) s' := by
  induction read generalizing s past with
  | nil => cases h; simpa using hs
  | cons i is ih =>
    simp only [poll] at h
    cases hi : step s i with
    | next t => simp only [hi] at h; simpa using ih (hstep past s i t hs hi) h
    | done r t => simp [hi] at h
    | held r t => simp [hi] at h

structure Wire (ι κ : Type*) where
  input : List ι
  log : κ
deriving DecidableEq

inductive Progress (σ α : Type*) where
  | waiting (s : σ)
  | done (a : α) (s : σ)
deriving DecidableEq

def Progress.state : Progress σ α → σ
  | .waiting s => s
  | .done _ s => s

def Session (σ α : Type*) := σ → Progress σ α

namespace Session

protected def pure (a : α) : Session σ α := fun s => .done a s

protected def bind (m : Session σ α) (f : α → Session σ β) : Session σ β := fun s =>
  match m s with
  | .waiting s' => .waiting s'
  | .done a s' => f a s'

instance : Monad (Session σ) where
  pure := Session.pure
  bind := Session.bind

@[simp] theorem pure_apply (a : α) (s : σ) : (pure a : Session σ α) s = .done a s := rfl

theorem bind_apply (m : Session σ α) (f : α → Session σ β) (s : σ) :
    (m >>= f) s = match m s with
      | .waiting s' => .waiting s'
      | .done a s' => f a s' := rfl

theorem bind_done {m : Session σ α} {s s' : σ} {a : α} (f : α → Session σ β) (h : m s = .done a s') :
    (m >>= f) s = f a s' := by
  rw [bind_apply, h]

theorem bind_waiting {m : Session σ α} {s s' : σ} (f : α → Session σ β) (h : m s = .waiting s') :
    (m >>= f) s = .waiting s' := by
  rw [bind_apply, h]

def modifyLog (f : κ → κ) : Session (Wire ι κ) Unit := fun w => .done () { w with log := f w.log }

def act (f : κ → α × κ) : Session (Wire ι κ) α := fun w => .done (f w.log).1 { w with log := (f w.log).2 }

/-- 繰り返し読む。`t` は繰り返しの間だけの状態。 -/
def reading (step : τ × κ → ι → Verdict (τ × κ) ρ) (t : τ) : Session (Wire ι κ) ρ := fun w =>
  match poll step (t, w.log) w.input with
  | .waiting s => .waiting { input := [], log := s.2 }
  | .ended r s rest => .done r { input := rest, log := s.2 }

theorem reading_result {step : τ × κ → ι → Verdict (τ × κ) ρ} {t : τ} {R : ρ → Prop}
    (hdone : ∀ s i r s', step s i = .done r s' → R r) (hheld : ∀ s i r s', step s i = .held r s' → R r)
    {w w' : Wire ι κ} {r : ρ} (hrun : reading step t w = .done r w') : R r := by
  unfold reading at hrun
  cases h : poll step (t, w.log) w.input with
  | waiting s => simp [h] at hrun
  | ended r' s rest =>
    simp only [h] at hrun
    cases hrun
    obtain ⟨before, i, after, u, -, -, ⟨hi, -⟩ | ⟨hi, -⟩⟩ := poll_ended h
    · exact hdone u i r s hi
    · exact hheld u i r s hi

/-- 待ち続けるのでなければ、値と状態が `Q` を満たす。 -/
def Ensures (P : σ → Prop) (m : Session σ α) (Q : α → σ → Prop) : Prop :=
  ∀ s a s', P s → m s = .done a s' → Q a s'

/-- 待っているときも終わったときも `I` が残る。 -/
def Keeps (I : σ → Prop) (m : Session σ α) : Prop := ∀ s, I s → I (m s).state

theorem Ensures.pure {P : σ → Prop} {Q : α → σ → Prop} {a : α} (h : ∀ s, P s → Q a s) :
    Ensures P (Pure.pure a : Session σ α) Q := by
  intro s a' s' hs hrun
  cases hrun
  exact h s hs

theorem Ensures.bind {P : σ → Prop} {m : Session σ α} {R : α → σ → Prop} {f : α → Session σ β} {Q : β → σ → Prop}
    (hm : Ensures P m R) (hf : ∀ a, Ensures (R a) (f a) Q) : Ensures P (m >>= f) Q := by
  intro s b s' hs hrun
  cases h : m s with
  | waiting t => simp [bind_waiting f h] at hrun
  | done a t => exact hf a t b s' (hm s a t hs h) (by rwa [bind_done f h] at hrun)

theorem Keeps.pure {I : σ → Prop} {a : α} : Keeps I (Pure.pure a : Session σ α) := fun _ hs => hs

theorem Keeps.bind {I : σ → Prop} {m : Session σ α} {f : α → Session σ β} (hm : Keeps I m)
    (hf : ∀ a, Keeps I (f a)) : Keeps I (m >>= f) := by
  intro s hs
  have hkept := hm s hs
  cases h : m s with
  | waiting t => rw [bind_waiting f h]; rwa [h] at hkept
  | done a t => rw [bind_done f h]; exact hf a t (by rwa [h] at hkept)

theorem Keeps.ensures {I : σ → Prop} {m : Session σ α} (h : Keeps I m) : Ensures I m fun _ => I := by
  intro s a s' hs hrun
  simpa [hrun, Progress.state] using h s hs

theorem Keeps.reading {I : κ → Prop} {step : τ × κ → ι → Verdict (τ × κ) ρ} {t : τ}
    (hstep : ∀ s i, I s.2 → I (step s i).state.2) : Keeps (fun w : Wire ι κ => I w.log) (reading step t) := by
  have hgoes : ∀ s s' read, I s.2 → poll step s read = .waiting s' → I s'.2 := fun s s' read hs h =>
    @poll_waiting_history _ _ _ _ (fun _ s => I s.2) []
      (fun _ s i s' hs hi => by simpa [hi, Verdict.state] using hstep s i hs) _ _ _ hs h
  intro w hw
  cases h : poll step (t, w.log) w.input with
  | waiting s => simpa only [Session.reading, h, Progress.state] using hgoes _ _ _ hw h
  | ended r s rest =>
    obtain ⟨before, i, after, u, -, hbefore, hend⟩ := poll_ended h
    have hlast := hstep u i (hgoes _ _ _ hw hbefore)
    simp only [Session.reading, h, Progress.state]
    rcases hend with ⟨hi, -⟩ | ⟨hi, -⟩
    · simpa [hi, Verdict.state] using hlast
    · simpa [hi, Verdict.state] using hlast

variable {ε ε' : Type u}

theorem except_bind_apply (m : ExceptT ε (Session σ) α) (f : α → ExceptT ε (Session σ) β) (s : σ) :
    (m >>= f).run s = match m.run s with
      | .waiting s' => .waiting s'
      | .done (.ok a) s' => (f a).run s'
      | .done (.error e) s' => .done (.error e) s' := by
  rw [ExceptT.run_bind, bind_apply]
  cases m.run s with
  | waiting s' => rfl
  | done outcome s' => cases outcome <;> rfl

theorem except_bind_ok {m : ExceptT ε (Session σ) α} {s s' : σ} {a : α} (f : α → ExceptT ε (Session σ) β)
    (h : m.run s = .done (.ok a) s') : (m >>= f).run s = (f a).run s' := by
  rw [except_bind_apply, h]

theorem except_bind_error {m : ExceptT ε (Session σ) α} {s s' : σ} {e : ε} (f : α → ExceptT ε (Session σ) β)
    (h : m.run s = .done (.error e) s') : (m >>= f).run s = .done (.error e) s' := by
  rw [except_bind_apply, h]

/-- 値を得れば `Q` を、失敗すれば `E` を満たす。 -/
def EnsuresExcept (P : σ → Prop) (m : ExceptT ε (Session σ) α) (Q : α → σ → Prop) (E : ε → σ → Prop) : Prop :=
  Ensures P m.run fun outcome s =>
    match outcome with
    | .ok a => Q a s
    | .error e => E e s

theorem EnsuresExcept.pure {P : σ → Prop} {Q : α → σ → Prop} {E : ε → σ → Prop} {a : α} (h : ∀ s, P s → Q a s) :
    EnsuresExcept P (Pure.pure a : ExceptT ε (Session σ) α) Q E := Ensures.pure h

theorem EnsuresExcept.bind {P : σ → Prop} {m : ExceptT ε (Session σ) α} {R : α → σ → Prop}
    {f : α → ExceptT ε (Session σ) β} {Q : β → σ → Prop} {E : ε → σ → Prop} (hm : EnsuresExcept P m R E)
    (hf : ∀ a, EnsuresExcept (R a) (f a) Q E) : EnsuresExcept P (m >>= f) Q E := by
  intro s outcome s' hs hrun
  rw [except_bind_apply] at hrun
  cases h : m.run s with
  | waiting t => simp [h] at hrun
  | done first t =>
    have hfirst := hm s first t hs h
    cases first with
    | error e => simp only [h] at hrun; cases hrun; exact hfirst
    | ok a => exact hf a t outcome s' hfirst (by simpa [h] using hrun)

theorem Keeps.except_bind {I : σ → Prop} {m : ExceptT ε (Session σ) α} {f : α → ExceptT ε (Session σ) β}
    (hm : Keeps I m.run) (hf : ∀ a, Keeps I (f a).run) : Keeps I (m >>= f).run := by
  intro s hs
  have hkept := hm s hs
  rw [except_bind_apply]
  cases h : m.run s with
  | waiting t => rw [h] at hkept; exact hkept
  | done outcome t =>
    rw [h] at hkept
    cases outcome with
    | error e => exact hkept
    | ok a => exact hf a t hkept

theorem Keeps.except_pure {I : σ → Prop} {a : α} : Keeps I (Pure.pure a : ExceptT ε (Session σ) α).run := fun _ hs => hs

theorem Keeps.except_throw {I : σ → Prop} {e : ε} : Keeps I (throw e : ExceptT ε (Session σ) α).run := fun _ hs => hs

theorem Keeps.act {I : κ → Prop} {f : κ → α × κ} (h : ∀ log, I log → I (f log).2) :
    Keeps (fun w : Wire ι κ => I w.log) (act f) := fun w hw => h w.log hw

variable {R : κ → κ → Prop}

/-- 記録の違いが `R` に収まり、ほかは同じである。 -/
def RelatedVerdict (R : κ → κ → Prop) : Verdict (τ × κ) ρ → Verdict (τ × κ) ρ → Prop
  | .next s, .next t => s.1 = t.1 ∧ R s.2 t.2
  | .done r s, .done r' t => r = r' ∧ s.1 = t.1 ∧ R s.2 t.2
  | .held r s, .held r' t => r = r' ∧ s.1 = t.1 ∧ R s.2 t.2
  | _, _ => False

def RelatedWire (R : κ → κ → Prop) (w v : Wire ι κ) : Prop := w.input = v.input ∧ R w.log v.log

/-- 結末が同じで、記録の違いが `R` に収まる。 -/
def Related (R : κ → κ → Prop) : Progress (Wire ι κ) α → Progress (Wire ι κ) α → Prop
  | .waiting w, .waiting v => RelatedWire R w v
  | .done a w, .done b v => a = b ∧ RelatedWire R w v
  | _, _ => False

/-- 一歩が関係を保つなら、読み取りの全体も保つ。 -/
theorem reading_related {step : τ × κ → ι → Verdict (τ × κ) ρ} {t : τ}
    (hstep : ∀ t log log' i, R log log' → RelatedVerdict R (step (t, log) i) (step (t, log') i)) {w v : Wire ι κ}
    (h : RelatedWire R w v) : Related R (reading step t w) (reading step t v) := by
  obtain ⟨input, log⟩ := w
  obtain ⟨input', log'⟩ := v
  obtain ⟨rfl, hlog⟩ : input = input' ∧ R log log' := h
  unfold reading
  simp only
  induction input generalizing t log log' with
  | nil => exact ⟨rfl, hlog⟩
  | cons i rest ih =>
    have hrelated := hstep t log log' i hlog
    simp only [poll]
    cases hs : step (t, log) i with
    | next s =>
      cases ht : step (t, log') i with
      | next s' =>
        simp only [hs, ht, RelatedVerdict] at hrelated
        obtain ⟨t₁, log₁⟩ := s
        obtain ⟨t₂, log₂⟩ := s'
        obtain ⟨rfl, hlog₁⟩ : t₁ = t₂ ∧ R log₁ log₂ := hrelated
        exact ih _ _ hlog₁
      | done r s' => simp [hs, ht, RelatedVerdict] at hrelated
      | held r s' => simp [hs, ht, RelatedVerdict] at hrelated
    | done r s =>
      cases ht : step (t, log') i with
      | next s' => simp [hs, ht, RelatedVerdict] at hrelated
      | done r' s' => simp only [hs, ht, RelatedVerdict] at hrelated; exact ⟨hrelated.1, rfl, hrelated.2.2⟩
      | held r' s' => simp [hs, ht, RelatedVerdict] at hrelated
    | held r s =>
      cases ht : step (t, log') i with
      | next s' => simp [hs, ht, RelatedVerdict] at hrelated
      | done r' s' => simp [hs, ht, RelatedVerdict] at hrelated
      | held r' s' => simp only [hs, ht, RelatedVerdict] at hrelated; exact ⟨hrelated.1, rfl, hrelated.2.2⟩

theorem bind_related {m m' : Session (Wire ι κ) α} {f : α → Session (Wire ι κ) β} {w v : Wire ι κ}
    (h : Related R (m w) (m' v)) (hf : ∀ a w v, RelatedWire R w v → Related R (f a w) (f a v)) :
    Related R ((m >>= f) w) ((m' >>= f) v) := by
  rw [bind_apply, bind_apply]
  cases hm : m w with
  | waiting w' =>
    cases hm' : m' v with
    | waiting v' => simpa [hm, hm', Related] using h
    | done b v' => simp [hm, hm', Related] at h
  | done a w' =>
    cases hm' : m' v with
    | waiting v' => simp [hm, hm', Related] at h
    | done b v' =>
      simp only [hm, hm', Related] at h
      obtain ⟨rfl, hwire⟩ := h
      exact hf a w' v' hwire

theorem pure_related {a : α} {w v : Wire ι κ} (h : RelatedWire R w v) :
    Related R ((pure a : Session (Wire ι κ) α) w) ((pure a : Session (Wire ι κ) α) v) := ⟨rfl, h⟩

end Session

end Codeoff.Control
