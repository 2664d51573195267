import Codeoff.Relational.Table
import Codeoff.Relational.Transaction

/-!
# 挿入か更新か

`insert … on conflict … do update` と、行番号（`integer primary key`）の割り当て。CHECK は、衝突を調べる前に、挿入しようと
した行について確かめる。
-/

namespace Codeoff.Relational

variable {R : Type} {S : Schema R}

namespace Table

/-- `insert … on conflict … do update set f`。衝突した行を `f` で書き換える。 -/
def upsert (T : Table S) (f : R → R) (r : R) : Except Violation (Table S) :=
  if S.check r = false then .error .check
  else if T.rows.any (S.conflict r) then (T.update (fun _ _ => none) (S.conflict r) f).map Prod.fst
  else T.insert (fun _ => none) r

def nextRowId (id : R → Nat) (T : Table S) : Nat := (T.rows.map id).foldr max 0 + 1

theorem lt_nextRowId {id : R → Nat} {T : Table S} {r : R} (h : r ∈ T.rows) : id r < T.nextRowId id := by
  have hle : ∀ rows : List R, r ∈ rows → id r ≤ (rows.map id).foldr max 0 := by
    intro rows hr
    induction rows with
    | nil => cases hr
    | cons a rows ih =>
      rcases List.mem_cons.mp hr with rfl | hr
      · exact Nat.le_max_left _ _
      · exact Nat.le_trans (ih hr) (Nat.le_max_right _ _)
  exact Nat.lt_succ_of_le (hle T.rows h)

variable {T T' : Table S} {f : R → R} {r : R}

/-- 衝突する行があれば書き換え、なければ加える。 -/
theorem upsert_cases (h : T.upsert f r = .ok T') :
    (T.rows.any (S.conflict r) = true ∧ T'.rows = rewrite (S.conflict r) f T.rows) ∨
      (T.rows.any (S.conflict r) = false ∧ T'.rows = T.rows ++ [r]) := by
  unfold upsert at h
  split at h
  · cases h
  split at h
  · rename_i hany
    cases hupdate : T.update (fun _ _ => none) (S.conflict r) f with
    | error v =>
      rw [hupdate] at h
      cases h
    | ok p =>
      obtain ⟨T₁, n⟩ := p
      rw [hupdate] at h
      cases h
      exact .inl ⟨hany, (update_eq_ok.mp hupdate).2.2.2.1⟩
  · rename_i hany
    exact .inr ⟨by simpa using hany, (insert_eq_ok.mp h).2.2.2⟩

theorem upsert_ok_of_check (hcheck : S.check r = true) (hf : ∀ o ∈ T.rows, S.conflict r o = true → S.check (f o) = true)
    (hkey : ∀ a b, S.conflict (f a) b = S.conflict a b) : ∃ T', T.upsert f r = .ok T' := by
  have hright : ∀ a b, S.conflict a (f b) = S.conflict a b := fun a b => by
    rw [S.conflict_symm, hkey, S.conflict_symm]
  unfold upsert
  rw [if_neg (by simp [hcheck])]
  split
  · have hunique : (rewrite (S.conflict r) f T.rows).Pairwise fun a b => S.conflict a b = false := by
      refine List.pairwise_map.mpr (T.unique.imp fun {a b} hab => ?_)
      split <;> split <;> simp [hkey, hright, hab]
    have hupdate : T.update (fun _ _ => none) (S.conflict r) f =
        .ok (⟨rewrite (S.conflict r) f T.rows, fun o ho => by
          rcases mem_rewrite.mp ho with ⟨a, ha, hp, rfl⟩ | ⟨ho, _⟩
          · exact hf a ha hp
          · exact T.checked o ho, hunique⟩, T.rows.countP (S.conflict r)) :=
      update_eq_ok.mpr ⟨fun _ _ _ => rfl, hf, hunique, rfl, rfl⟩
    exact ⟨_, by rw [hupdate]; rfl⟩
  · rename_i hany
    have hnone : ∀ o ∈ T.rows, S.conflict o r = false := fun o ho => by
      rw [S.conflict_symm]
      simpa using List.any_eq_false.mp (Bool.not_eq_true _ ▸ hany) o ho
    have hrows : ∀ o ∈ T.rows ++ [r], S.check o = true := fun o ho => by
      rcases List.mem_append.mp ho with ho | ho
      · exact T.checked o ho
      · exact List.mem_singleton.mp ho ▸ hcheck
    have hunique : (T.rows ++ [r]).Pairwise fun a b => S.conflict a b = false :=
      List.pairwise_append.mpr ⟨T.unique, List.pairwise_singleton _ _, fun a ha b hb =>
        List.mem_singleton.mp hb ▸ hnone a ha⟩
    exact ⟨⟨T.rows ++ [r], hrows, hunique⟩, insert_eq_ok.mpr ⟨rfl, hcheck, hnone, rfl⟩⟩

theorem insertOrIgnore_ok_of_check (T : Table S) (h : S.check r = true) :
    ∃ T' n, T.insertOrIgnore (fun _ => none) r = .ok (T', n) := by
  unfold insertOrIgnore
  rw [if_neg (by simp [h])]
  split
  · exact ⟨T, 0, rfl⟩
  · rename_i hany
    have hnone : ∀ o ∈ T.rows, S.conflict o r = false := fun o ho => by
      rw [S.conflict_symm]
      simpa using List.any_eq_false.mp (Bool.not_eq_true _ ▸ hany) o ho
    have hchecked : ∀ o ∈ T.rows ++ [r], S.check o = true := fun o ho => by
      rcases List.mem_append.mp ho with ho | ho
      · exact T.checked o ho
      · exact List.mem_singleton.mp ho ▸ h
    have hunique : (T.rows ++ [r]).Pairwise fun a b => S.conflict a b = false :=
      List.pairwise_append.mpr ⟨T.unique, List.pairwise_singleton _ _, fun a ha b hb =>
        List.mem_singleton.mp hb ▸ hnone a ha⟩
    have hinsert : T.insert (fun _ => none) r = .ok ⟨T.rows ++ [r], hchecked, hunique⟩ :=
      insert_eq_ok.mpr ⟨rfl, h, hnone, rfl⟩
    exact ⟨_, 1, by rw [hinsert]; rfl⟩

theorem insertOrIgnore_check (T : Table S) (h : S.check r = false) :
    T.insertOrIgnore (fun _ => none) r = .error .check := by
  unfold insertOrIgnore
  rw [if_pos h]

end Table

theorem except_map_ok {ε α β : Type} {x : Except ε α} {f : α → β} {b : β} :
    x.map f = .ok b ↔ ∃ a, x = .ok a ∧ f a = b := by
  cases x <;> simp [Except.map]

/-- 表一つへの文を、状態への計算にする。SQLite の拒否は `refuse` で誤りに移す。 -/
def onTable {σ ε α : Type} (get : σ → Table S) (set : σ → Table S → σ) (refuse : Violation → ε)
    (stmt : Table S → Except Violation (Table S × α)) : Tx σ ε α := fun s =>
  match stmt (get s) with
  | .ok (T, a) => .ok (a, set s T)
  | .error v => .error (refuse v)

theorem onTable_ok {σ ε α : Type} {get : σ → Table S} {set : σ → Table S → σ} {refuse : Violation → ε}
    {stmt : Table S → Except Violation (Table S × α)} {s s' : σ} {a : α} :
    onTable get set refuse stmt s = .ok (a, s') ↔ ∃ T, stmt (get s) = .ok (T, a) ∧ s' = set s T := by
  unfold onTable
  cases h : stmt (get s) with
  | error v => simp
  | ok p =>
    obtain ⟨T, b⟩ := p
    simp only [Except.ok.injEq, Prod.mk.injEq]
    constructor
    · rintro ⟨rfl, rfl⟩
      exact ⟨T, ⟨rfl, rfl⟩, rfl⟩
    · rintro ⟨T', ⟨rfl, rfl⟩, rfl⟩
      exact ⟨rfl, rfl⟩

theorem Avoids.onTable {σ ε α : Type} {get : σ → Table S} {set : σ → Table S → σ} {refuse : Violation → ε}
    {stmt : Table S → Except Violation (Table S × α)} {bad : ε → Prop} (h : ∀ v, ¬bad (refuse v)) :
    Avoids bad (onTable get set refuse stmt) := by
  intro s e herror
  unfold Codeoff.Relational.onTable at herror
  split at herror
  · cases herror
  · cases herror
    exact h _

end Codeoff.Relational
