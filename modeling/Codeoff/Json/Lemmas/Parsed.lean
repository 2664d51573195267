import Codeoff.Json.Lemmas.Object

/-!
# 読み取った値

文面から読み取った値は、鍵の昇順に並ぶ。読み戻せる値は、文面が同じなら同じ値である。
-/

namespace Codeoff.Json

variable {readFloat : NumberText → Option F64} {v w : Value} {ms : List (String × Value)} {depth fuel : Nat} {cs rest : List Char}

structure Value.Wf (depth : Nat) (v : Value) : Prop where
  sorted : v.Sorted
  readable : v.readable depth = true

theorem Value.Wf.arr_cons {vs : List Value} (hv : v.Wf depth) (h : (Value.arr vs).Wf (depth + 1)) :
    (Value.arr (v :: vs)).Wf (depth + 1) := by
  refine ⟨⟨hv.sorted, h.sorted⟩, ?_⟩
  have hvs : elementsReadable depth vs = true := h.readable
  simp [Value.readable, elementsReadable, hv.readable, hvs]

theorem wf_empty_arr : (Value.arr []).Wf (depth + 1) := ⟨trivial, rfl⟩

@[simp] theorem wf_str {text : String} : (Value.str text).Wf depth := ⟨trivial, readable_str⟩

@[simp] theorem wf_bool {b : Bool} : (Value.bool b).Wf depth := ⟨trivial, by cases depth <;> rfl⟩

@[simp] theorem wf_null : Value.null.Wf depth := ⟨trivial, by cases depth <;> rfl⟩

theorem wf_int {n : Int} (hlow : -(2 ^ 63) ≤ n) (hhigh : n ≤ u64Max) : (Value.int n).Wf depth := by
  refine ⟨trivial, ?_⟩
  cases depth <;> simpa [Value.readable, hhigh] using hlow

theorem u64_wf {n : Nat} (h : n ≤ u64Max) : (Value.int n).Wf depth := wf_int (by omega) (by exact_mod_cast h)

/-! ## 読み取り -/

/-- 読み取った値は、どの深さでも鍵の昇順に並ぶ。 -/
structure ParsesSorted (readFloat : NumberText → Option F64) (fuel : Nat) : Prop where
  value : ∀ {depth cs v rest}, parseValue readFloat fuel depth cs = some (v, rest) → v.Sorted
  elements : ∀ {depth cs vs rest}, parseElements readFloat fuel depth cs = some (vs, rest) → (Value.arr vs).Sorted
  members : ∀ {depth seen cs ms rest}, (Value.obj seen).Sorted →
    parseMembers readFloat fuel depth seen cs = some (ms, rest) → (Value.obj ms).Sorted

theorem Value.Sorted.insertMember {k : String} (hv : v.Sorted) (h : (Value.obj ms).Sorted) :
    (Value.obj (insertMember k v ms)).Sorted :=
  ⟨insertMember_membersSorted hv h.1, insertMember_sorted h.2⟩

theorem sorted_empty_obj : (Value.obj []).Sorted := ⟨trivial, List.Pairwise.nil⟩

theorem parseNumber_sorted {negative : Bool} (h : parseNumber readFloat negative cs = some (v, rest)) : v.Sorted := by
  unfold parseNumber at h
  obtain ⟨p, _, h⟩ := Option.bind_eq_some_iff.mp h
  split at h
  · cases h
    trivial
  · obtain ⟨x, _, h⟩ := Option.map_eq_some_iff.mp h
    cases h
    trivial

theorem ParsesSorted.elements_succ (ih : ParsesSorted readFloat fuel) {vs : List Value}
    (h : parseElements readFloat (fuel + 1) depth cs = some (vs, rest)) : (Value.arr vs).Sorted := by
  unfold parseElements at h
  split at h
  · cases h
    trivial
  · split at h
    · cases h
    · rename_i v more hv
      obtain ⟨⟨vs', tail⟩, hvs, heq⟩ := Option.map_eq_some_iff.mp h
      cases heq
      exact ⟨ih.value hv, ih.elements hvs⟩
  · cases h

theorem ParsesSorted.members_succ (ih : ParsesSorted readFloat fuel) {seen : List (String × Value)}
    (hseen : (Value.obj seen).Sorted) (h : parseMembers readFloat (fuel + 1) depth seen cs = some (ms, rest)) :
    (Value.obj ms).Sorted := by
  unfold parseMembers at h
  split at h
  · split at h
    · cases h
    · split at h
      · split at h
        · cases h
        · rename_i v tail hv
          have hnext : ∀ k, (Value.obj (insertMember k v seen)).Sorted := fun _ => (ih.value hv).insertMember hseen
          simp only at h
          split at h
          · cases h
            exact hnext _
          · exact ih.members (hnext _) h
          · cases h
      · cases h
  · cases h

/-- 読んだ値の欄は、どの深さでも鍵の順に並ぶ。燃料についての帰納法の一段である。 -/
theorem ParsesSorted.value_succ (ih : ParsesSorted readFloat fuel)
    (h : parseValue readFloat (fuel + 1) depth cs = some (v, rest)) : v.Sorted := by
  unfold parseValue at h
  split at h
  · cases h
    trivial
  · cases h
    trivial
  · cases h
    trivial
  · obtain ⟨p, _, heq⟩ := Option.map_eq_some_iff.mp h
    cases heq
    trivial
  · split at h
    · cases h
    · split at h
      · cases h
        trivial
      · split at h
        · cases h
        · rename_i v' more hv
          obtain ⟨⟨vs, tail⟩, hvs, heq⟩ := Option.map_eq_some_iff.mp h
          cases heq
          exact ⟨ih.value hv, ih.elements hvs⟩
  · split at h
    · cases h
    · split at h
      · cases h
        exact sorted_empty_obj
      · obtain ⟨⟨ms, tail⟩, hms, heq⟩ := Option.map_eq_some_iff.mp h
        cases heq
        exact ih.members sorted_empty_obj hms
  · exact parseNumber_sorted h
  · exact parseNumber_sorted h

/-- どの燃料でも、読んだ値の欄は鍵の順に並ぶ。 -/
theorem parsesSorted (readFloat : NumberText → Option F64) (fuel : Nat) : ParsesSorted readFloat fuel := by
  induction fuel with
  | zero =>
    constructor
    · intro depth cs v rest h
      simp [parseValue] at h
    · intro depth cs vs rest h
      simp [parseElements] at h
    · intro depth seen cs ms rest _ h
      simp [parseMembers] at h
  | succ fuel ih => exact ⟨ih.value_succ, ih.elements_succ, ih.members_succ⟩

/-- 読み取った値は、f64 を含んでいても、鍵の昇順に並ぶ。 -/
theorem parse_sorted {s : String} (h : parse s = some v) : v.Sorted := by
  unfold parse parseWith at h
  split at h
  · rename_i v' rest hv
    split at h
    · cases h
      exact (parsesSorted _ _).value hv
    · cases h
  · cases h

theorem Value.Wf.parse_render (h : v.Wf maxDepth) : parse v.render = some v := Json.parse_render h.sorted h.readable

/-- 読み戻せる値と文面の同じ値は、f64 を含みえても、その値である。 -/
theorem render_inj (hv : v.Sorted) (hw : w.Wf maxDepth) (h : v.render = w.render) : v = w := by
  have hparse := parseWith_render hv
  rw [h, parseWith_render hw.sorted, if_pos hw.readable] at hparse
  split at hparse
  · exact (Option.some.inj hparse).symm
  · cases hparse

theorem Value.Sorted.get {key : String} (h : v.Sorted) (hget : v.get key = some w) : w.Sorted := by
  cases v with
  | obj ms =>
    obtain ⟨m, hfind, rfl⟩ := Option.map_eq_some_iff.mp hget
    exact membersSorted_iff.mp h.1 m (List.mem_of_find?_eq_some hfind)
  | _ => cases hget

theorem Value.Wf.object (h : ∀ m ∈ ms, m.2.Wf depth) : (Value.object ms).Wf (depth + 1) :=
  ⟨sorted_object (membersSorted_iff.mpr fun m hm => (h m hm).sorted), readable_object fun m hm => (h m hm).readable⟩

/-! ## 深さ -/

mutual

/-- 深さの上限を増やしても読める。 -/
theorem readable_succ : (v : Value) → {depth : Nat} → v.readable depth = true → v.readable (depth + 1) = true
  | .null, _, _ => rfl
  | .bool _, _, _ => rfl
  | .int _, depth, h => by cases depth <;> exact h
  | .float _, depth, h => by cases depth <;> cases h
  | .str _, _, _ => rfl
  | .arr vs, depth + 1, h => elementsReadable_succ vs h
  | .obj ms, depth + 1, h => membersReadable_succ ms h

theorem elementsReadable_succ : (vs : List Value) → {depth : Nat} → elementsReadable depth vs = true →
    elementsReadable (depth + 1) vs = true
  | [], _, _ => rfl
  | v :: vs, _, h => by
      simp only [elementsReadable, Bool.and_eq_true] at h ⊢
      exact ⟨readable_succ v h.1, elementsReadable_succ vs h.2⟩

theorem membersReadable_succ : (ms : List (String × Value)) → {depth : Nat} → membersReadable depth ms = true →
    membersReadable (depth + 1) ms = true
  | [], _, _ => rfl
  | (_, v) :: ms, _, h => by
      simp only [membersReadable, Bool.and_eq_true] at h ⊢
      exact ⟨readable_succ v h.1, membersReadable_succ ms h.2⟩

end

theorem Value.Wf.mono {depth' : Nat} (h : v.Wf depth) (hle : depth ≤ depth') : v.Wf depth' := by
  induction hle with
  | refl => exact h
  | step _ ih => exact ⟨ih.sorted, readable_succ v ih.readable⟩

mutual

theorem beq_iff : (v : Value) → {depth : Nat} → v.readable depth = true → (w : Value) → (v.beq w = true ↔ v = w)
  | .null, _, _, w => by cases w <;> simp [Value.beq]
  | .bool _, _, _, w => by cases w <;> simp [Value.beq]
  | .int _, _, _, w => by cases w <;> simp [Value.beq]
  | .float _, depth, h, _ => by cases depth <;> cases h
  | .str _, _, _, w => by cases w <;> simp [Value.beq]
  | .arr vs, depth + 1, h, w => by cases w <;> simp [Value.beq, elementsBeq_iff vs h]
  | .obj ms, depth + 1, h, w => by cases w <;> simp [Value.beq, membersBeq_iff ms h]

theorem elementsBeq_iff : (vs : List Value) → {depth : Nat} → elementsReadable depth vs = true → (ws : List Value) →
    (elementsBeq vs ws = true ↔ vs = ws)
  | [], _, _, ws => by cases ws <;> simp [elementsBeq]
  | v :: vs, depth, h, ws => by
      simp only [elementsReadable, Bool.and_eq_true] at h
      cases ws <;> simp [elementsBeq, beq_iff v h.1, elementsBeq_iff vs h.2]

theorem membersBeq_iff : (ms : List (String × Value)) → {depth : Nat} → membersReadable depth ms = true →
    (ns : List (String × Value)) → (membersBeq ms ns = true ↔ ms = ns)
  | [], _, _, ns => by cases ns <;> simp [membersBeq]
  | (k, v) :: ms, depth, h, ns => by
      simp only [membersReadable, Bool.and_eq_true] at h
      cases ns with
      | nil => simp [membersBeq]
      | cons n ns =>
        obtain ⟨l, w⟩ := n
        simp [membersBeq, beq_iff v h.1, membersBeq_iff ms h.2, and_assoc]

end

theorem F64.beq_comm (x y : F64) : x.beq y = y.beq x := by
  simp only [F64.beq]
  rw [BEq.comm, Bool.and_comm]

mutual

theorem beq_comm : (v w : Value) → v.beq w = w.beq v
  | .null, w => by cases w <;> rfl
  | .bool _, w => by cases w <;> simp [Value.beq, BEq.comm]
  | .int _, w => by cases w <;> simp [Value.beq, BEq.comm]
  | .float x, w => by cases w <;> simp [Value.beq, F64.beq_comm]
  | .str _, w => by cases w <;> simp [Value.beq, BEq.comm]
  | .arr vs, w => by cases w <;> simp [Value.beq, elementsBeq_comm vs]
  | .obj ms, w => by cases w <;> simp [Value.beq, membersBeq_comm ms]

theorem elementsBeq_comm : (vs ws : List Value) → elementsBeq vs ws = elementsBeq ws vs
  | [], ws => by cases ws <;> rfl
  | v :: vs, ws => by cases ws <;> simp [elementsBeq, beq_comm v, elementsBeq_comm vs]

theorem membersBeq_comm : (ms ns : List (String × Value)) → membersBeq ms ns = membersBeq ns ms
  | [], ns => by cases ns <;> rfl
  | (k, v) :: ms, ns => by
      cases ns with
      | nil => rfl
      | cons n ns =>
        obtain ⟨l, w⟩ := n
        simp [membersBeq, beq_comm v, membersBeq_comm ms, BEq.comm]

end

/-- 等しさの検査は、一方が f64 を含まなければ、等しいときに限って通る。 -/
theorem Value.Wf.beq_iff (hw : w.Wf depth) : v.beq w = true ↔ v = w := by
  rw [beq_comm, Json.beq_iff w hw.readable, eq_comm]

theorem object_of_sorted (h : ms.Pairwise fun a b => a.1 < b.1) : Value.object ms = .obj ms := by
  have hfold : ∀ seen, (seen ++ ms).Pairwise (fun a b => a.1 < b.1) →
      ms.foldl (fun acc m => insertMember m.1 m.2 acc) seen = seen ++ ms := by
    clear h
    induction ms with
    | nil => simp
    | cons m ms ih =>
      intro seen hseen
      have hlast : ∀ m' ∈ seen, m'.1 < m.1 := fun m' hm' =>
        (List.pairwise_append.mp hseen).2.2 m' hm' m List.mem_cons_self
      rw [List.foldl_cons, insertMember_append hlast, ih, List.append_assoc, List.singleton_append]
      rwa [List.append_assoc, List.singleton_append]
  exact congrArg Value.obj (hfold [] h)

/-- 鍵の順に並ぶ欄が、名の重ならない並びと同じ数で、どの値も同じなら、その並びの値である。 -/
theorem eq_object {members : List (String × Value)} (hsorted : (Value.obj members).Sorted)
    (hkeys : (ms.map Prod.fst).Nodup) (hlength : members.length = ms.length)
    (hget : ∀ m ∈ ms, (Value.obj members).get m.1 = some m.2) : Value.obj members = .object ms := by
  have hsub : ms ⊆ members := by
    intro m hm
    obtain ⟨m', hfind, heq⟩ := Option.map_eq_some_iff.mp (hget m hm)
    have hkey : m'.1 = m.1 := by simpa using List.find?_some hfind
    obtain rfl : m' = m := Prod.ext hkey heq
    exact List.mem_of_find?_eq_some hfind
  have hperm : ms.Perm members :=
    (List.subperm_of_subset (List.Nodup.of_map Prod.fst hkeys) hsub).perm_of_length_le hlength.le
  rw [object_perm hkeys hperm, object_of_sorted hsorted.2]

/-- `v` は、これらの成員を持つ。 -/
def Carries (v : Value) (members : List (String × Value)) : Prop := ∀ m ∈ members, v.get m.1 = some m.2

theorem carries_object {members : List (String × Value)} (hkeys : (members.map Prod.fst).Nodup) : Carries (.object members) members := by
  intro m hm
  rw [get_object hkeys]
  cases hfind : members.find? fun m' => m'.1 == m.1 with
  | none => simpa using List.find?_eq_none.mp hfind m hm
  | some m' =>
    have hm' := List.mem_of_find?_eq_some hfind
    have hkey : m'.1 = m.1 := by simpa using List.find?_some hfind
    rw [List.inj_on_of_nodup_map hkeys hm' hm hkey]
    rfl

theorem Carries.same {members members' : List (String × Value)} {w w' : Value} (h : Carries (.object members) members')
    (hkeys : (members.map Prod.fst).Nodup) (key : String) (hw : (key, w) ∈ members) (hw' : (key, w') ∈ members') :
    w = w' :=
  Option.some.inj ((carries_object hkeys _ hw).symm.trans (h _ hw'))

/-- 名の並びが同じなら、値の等しさから欄の等しさが従う。 -/
theorem object_inj {members members' : List (String × Value)} (hkeys : members.map Prod.fst = members'.map Prod.fst)
    (hnodup : (members.map Prod.fst).Nodup) (h : Value.object members = .object members') : members = members' := by
  have hcarries : Carries (.object members) members' := h ▸ carries_object (hkeys ▸ hnodup)
  have hlength : members.length = members'.length := by simpa using congrArg List.length hkeys
  refine List.ext_getElem hlength fun i hi hi' => ?_
  have hkey : (members[i]).1 = (members'[i]).1 := by
    have hsame := List.getElem_of_eq hkeys (i := i) (by simpa using hi)
    simpa using hsame
  refine Prod.ext hkey ?_
  have hmem : (members[i].1, members'[i].2) ∈ members' := hkey ▸ List.getElem_mem hi'
  exact hcarries.same hnodup members[i].1 (List.getElem_mem hi) hmem

end Codeoff.Json
