import Mathlib.Data.List.Induction
import Codeoff.Json.Lemmas.RoundTrip

/-!
# 成員から作ったオブジェクト

鍵が相異なる成員を並べたオブジェクトの、成員の値、個数、読み戻せる深さ。
-/

namespace Codeoff.Json

variable {k q : String} {v : Value} {ms : List (String × Value)} {depth : Nat}

theorem get_foldl (hkeys : (ms.map Prod.fst).Nodup) (seen : List (String × Value)) :
    (Value.obj (ms.foldl (fun acc m => insertMember m.1 m.2 acc) seen)).get q =
      ((ms.find? fun m => m.1 == q).map Prod.snd).or ((Value.obj seen).get q) := by
  induction ms generalizing seen with
  | nil => rfl
  | cons m ms ih =>
    simp only [List.map_cons, List.nodup_cons] at hkeys
    rw [List.foldl_cons, ih hkeys.2, get_insertMember]
    by_cases hm : m.1 = q
    · -- 残りの成員に同じ鍵はない
      have hnone : ms.find? (fun m => m.1 == q) = none := by
        refine List.find?_eq_none.mpr fun m' hm' => ?_
        have : m'.1 ≠ m.1 := fun heq => hkeys.1 (heq ▸ List.mem_map_of_mem hm')
        simpa [← hm] using this
      simp [hm, hnone]
    · simp [hm]

/-- 名の重ならない並びから作った値の欄は、並びの中の欄である。 -/
theorem get_object (hkeys : (ms.map Prod.fst).Nodup) :
    (Value.object ms).get q = (ms.find? fun m => m.1 == q).map Prod.snd := by
  unfold Value.object
  rw [get_foldl hkeys]
  simp [Value.get]

theorem insertMember_perm (h : (Value.obj ms).get k = none) : (insertMember k v ms).Perm ((k, v) :: ms) := by
  simp only [Value.get] at h
  induction ms with
  | nil => exact .refl _
  | cons m ms ih =>
    obtain ⟨k', v'⟩ := m
    have hne : k' ≠ k := by
      rintro rfl
      simp at h
    simp only [insertMember]
    split
    · exact .refl _
    split
    · exact absurd ‹k = k'›.symm hne
    · exact ((ih (by simpa [hne] using h)).cons _).trans (.swap _ _ _)

/-- 鍵が重ならなければ、並べ直しても欄は失われない。 -/
theorem object_members_perm (hkeys : (ms.map Prod.fst).Nodup) :
    ∃ members, Value.object ms = .obj members ∧ members.Perm ms := by
  refine ⟨_, rfl, ?_⟩
  induction ms using List.reverseRecOn with
  | nil => exact .refl _
  | append_singleton ms m ih =>
    rw [List.map_append, List.nodup_append] at hkeys
    rw [List.foldl_append, List.foldl_cons, List.foldl_nil]
    refine (insertMember_perm ?_).trans (((ih hkeys.1).cons m).trans (List.perm_append_singleton m ms).symm)
    rw [get_foldl hkeys.1]
    have hnone : ms.find? (fun m' => m'.1 == m.1) = none :=
      List.find?_eq_none.mpr fun m' hm' => by
        simpa using hkeys.2.2 m'.1 (List.mem_map_of_mem hm') m.1 (by simp)
    simp [hnone, Value.get]

theorem object_members (hkeys : (ms.map Prod.fst).Nodup) :
    ∃ members, Value.object ms = .obj members ∧ members.length = ms.length := by
  obtain ⟨members, hobject, hperm⟩ := object_members_perm hkeys
  exact ⟨members, hobject, hperm.length_eq⟩

theorem mem_object {members : List (String × Value)} {m : String × Value} (h : Value.object ms = .obj members)
    (hm : m ∈ members) : m ∈ ms := by
  have hfold : ∀ seen : List (String × Value),
      m ∈ ms.foldl (fun acc m => insertMember m.1 m.2 acc) seen → m ∈ seen ∨ m ∈ ms := by
    clear h
    induction ms with
    | nil => exact fun seen h => .inl h
    | cons x ms ih =>
      intro seen h
      rcases ih _ h with h | h
      · rcases mem_insertMember h with rfl | h
        · exact .inr List.mem_cons_self
        · exact .inl h
      · exact .inr (List.mem_cons_of_mem _ h)
  simp only [Value.object, Value.obj.injEq] at h
  rcases hfold [] (h ▸ hm) with h | h
  · simp at h
  · exact h

theorem isSome_get_obj : ((Value.obj ms).get q).isSome = ms.any fun m => m.1 == q := by
  rw [Value.get, Option.isSome_map, Bool.eq_iff_iff, List.find?_isSome, List.any_eq_true]

/-- 違う名の欄は、どちらを先に加えても同じになる。 -/
theorem insertMember_comm {k' : String} {v' : Value} (hne : k ≠ k') :
    insertMember k v (insertMember k' v' ms) = insertMember k' v' (insertMember k v ms) := by
  induction ms with
  | nil =>
    rcases lt_or_gt_of_ne hne with h | h
    · simp [insertMember, h, h.not_gt, hne.symm]
    · simp [insertMember, h, h.not_gt, hne]
  | cons m ms ih =>
    obtain ⟨l, w⟩ := m
    rcases lt_trichotomy k l with hk | rfl | hk
    · rcases lt_trichotomy k' l with hk' | rfl | hk'
      · rcases lt_or_gt_of_ne hne with h | h
        · simp [insertMember, hk, hk', h, h.not_gt, hne.symm]
        · simp [insertMember, hk, hk', h, h.not_gt, hne]
      · simp [insertMember, hk, hk.not_gt, hne.symm]
      · simp [insertMember, hk, hk'.not_gt, hk'.ne', (hk.trans hk').not_gt, hne.symm]
    · rcases lt_trichotomy k' k with hk' | rfl | hk'
      · simp [insertMember, hk', hk'.not_gt, hne]
      · exact absurd rfl hne
      · simp [insertMember, hk'.not_gt, hk'.ne']
    · rcases lt_trichotomy k' l with hk' | rfl | hk'
      · simp [insertMember, hk', hk.not_gt, hk.ne', (hk'.trans hk).not_gt, hne]
      · simp [insertMember, hk.not_gt, hk.ne']
      · simp [insertMember, hk.not_gt, hk.ne', hk'.not_gt, hk'.ne', ih]

/-- 名の重ならない並びを並べ替えても、同じ値になる。 -/
theorem object_perm {ms' : List (String × Value)} (hkeys : (ms.map Prod.fst).Nodup) (h : ms.Perm ms') :
    Value.object ms = Value.object ms' := by
  refine congrArg Value.obj (h.foldl_eq' ?_ [])
  intro x hx y hy acc
  by_cases hxy : x = y
  · rw [hxy]
  · refine insertMember_comm fun hsame => hxy ?_
    exact List.inj_on_of_nodup_map hkeys hy hx hsame |>.symm

theorem readable_str {text : String} : (Value.str text).readable depth = true := by
  cases depth <;> rfl

theorem readable_nat {n : Nat} (h : n ≤ u64Max) : (Value.int n).readable depth = true := by
  have hhigh : (n : Int) ≤ u64Max := by exact_mod_cast h
  simp [Value.readable, hhigh]

theorem membersReadable_iff : membersReadable depth ms = true ↔ ∀ m ∈ ms, m.2.readable depth = true := by
  induction ms with
  | nil => simp [membersReadable]
  | cons m ms ih => simp [membersReadable, ih]

theorem membersSorted_iff : MembersSorted ms ↔ ∀ m ∈ ms, m.2.Sorted := by
  induction ms with
  | nil => simp [MembersSorted]
  | cons m ms ih => simp [MembersSorted, ih]

theorem readable_object (h : ∀ m ∈ ms, m.2.readable depth = true) :
    (Value.object ms).readable (depth + 1) = true := by
  have hfold : ∀ seen : List (String × Value), (∀ m ∈ seen, m.2.readable depth = true) →
      ∀ m ∈ ms.foldl (fun acc m => insertMember m.1 m.2 acc) seen, m.2.readable depth = true := by
    induction ms with
    | nil => exact fun seen hseen => hseen
    | cons x ms ih =>
      intro seen hseen
      refine ih (fun m hm => h m (List.mem_cons_of_mem _ hm)) _ fun m hm => ?_
      rcases mem_insertMember hm with rfl | hm
      · exact h x List.mem_cons_self
      · exact hseen m hm
  exact membersReadable_iff.mpr (hfold [] (by simp))

theorem parse_object {ms : List (String × Value)} (hms : ∀ m ∈ ms, m.2 = .int 1 ∨ ∃ text, m.2 = .str text) :
    parse (Value.object ms).render = some (.object ms) := by
  refine parse_render (sorted_object (membersSorted_iff.mpr fun m hm => ?_)) (readable_object fun m hm => ?_)
  · rcases hms m hm with h | ⟨text, h⟩ <;> simp [h, Value.Sorted]
  · rcases hms m hm with h | ⟨text, h⟩ <;> rw [h]
    · exact readable_nat (n := 1) (by decide)
    · exact readable_str

theorem asU64_one : Value.asU64 (.int 1) = some 1 := by decide

end Codeoff.Json
