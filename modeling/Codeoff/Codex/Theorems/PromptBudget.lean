import Codeoff.Codex.Backend
import Codeoff.State.Lemmas.Text

/-!
# 文面の上限

文面は上限に収まり、必ず入る部分で始まる。
-/

namespace Codeoff.Codex

open Codeoff.Agent Codeoff.Core Codeoff.State

variable {content text prompt final label : String} {maxBytes limit room n : Nat}

theorem byteLen_ofList_cons (c : Char) (cs : List Char) :
    byteLen (String.ofList (c :: cs)) = c.utf8Size + byteLen (String.ofList cs) := by
  simp only [← length_utf8Bytes, utf8Bytes_ofList, List.flatMap_cons, List.length_append, String.length_utf8EncodeChar]

theorem takeBytes_spec (cs : List Char) (n : Nat) : takeBytes n cs <+: cs ∧ byteLen (String.ofList (takeBytes n cs)) ≤ n ∧
    (n < byteLen (String.ofList cs) → n ≤ byteLen (String.ofList (takeBytes n cs)) + 3) := by
  induction cs generalizing n with
  | nil => simp [takeBytes, byteLen]
  | cons c cs ih =>
    have hsize := c.utf8Size_le_four
    rw [takeBytes]
    split
    · rename_i hfits
      obtain ⟨hhead, hle, hclose⟩ := ih (n - c.utf8Size)
      rw [byteLen_ofList_cons, byteLen_ofList_cons]
      exact ⟨(List.prefix_cons_inj c).mpr hhead, by omega, by omega⟩
    · exact ⟨List.nil_prefix, by simp [byteLen], by simp [byteLen]; omega⟩

theorem boundedUtf8_spec (h : n < byteLen content) : ∃ rest, content = boundedUtf8 content n ++ rest ∧
    byteLen (boundedUtf8 content n) ≤ n ∧ n ≤ byteLen (boundedUtf8 content n) + 3 := by
  rw [boundedUtf8, if_neg (by omega)]
  obtain ⟨⟨rest, hrest⟩, hle, hclose⟩ := takeBytes_spec content.toList n
  refine ⟨String.ofList rest, ?_, hle, hclose (by rwa [String.ofList_toList])⟩
  rw [← String.ofList_append, hrest, String.ofList_toList]

theorem byteLen_marker : byteLen truncationMarker = 12 := by decide

/-! ## 切り詰め -/

/-- `text` は、`content` の先頭の部分に印を付けたもので、もとより短い。 -/
def Cut (content text : String) : Prop :=
  ∃ front rest, content = front ++ rest ∧ text = front ++ truncationMarker ∧ byteLen text < byteLen content

theorem truncate_cases (content : String) (n : Nat) :
    (byteLen content ≤ n ∧ truncateUtf8WithMarker content n = (content, false)) ∨
    (n < byteLen content ∧ n < 12 ∧ truncateUtf8WithMarker content n = ("", true)) ∨
    (n < byteLen content ∧ 12 ≤ n ∧ ∃ text, truncateUtf8WithMarker content n = (text, true) ∧ Cut content text ∧
      byteLen text ≤ n ∧ n ≤ byteLen text + 3) := by
  unfold truncateUtf8WithMarker
  rw [byteLen_marker]
  by_cases hfits : byteLen content ≤ n
  · exact .inl ⟨hfits, if_pos hfits⟩
  by_cases hroom : n < 12
  · exact .inr (.inl ⟨by omega, hroom, by rw [if_neg hfits, if_pos hroom]⟩)
  obtain ⟨rest, hsplit, hle, hclose⟩ := @boundedUtf8_spec content (n - 12) (by omega)
  have hlength : byteLen (boundedUtf8 content (n - 12) ++ truncationMarker) = byteLen (boundedUtf8 content (n - 12)) + 12 := by
    rw [byteLen_append, byteLen_marker]
  exact .inr (.inr ⟨by omega, by omega, _, by rw [if_neg hfits, if_neg hroom], ⟨_, rest, hsplit, rfl, by omega⟩, by omega,
    by omega⟩)

theorem truncate_le (content : String) (n : Nat) : byteLen (truncateUtf8WithMarker content n).1 ≤ min n (byteLen content) := by
  rcases truncate_cases content n with ⟨hfits, h⟩ | ⟨-, -, h⟩ | ⟨hlong, -, text, h, hcut, hle, -⟩ <;> rw [h]
  · exact le_min hfits le_rfl
  · simp [byteLen]
  · exact le_min hle (hle.trans hlong.le)

theorem append_of_shorter {a b c d : String} (h : a ++ b = c ++ d) (hshort : byteLen c < byteLen a) : ∃ e, a = c ++ e := by
  have hlist : a.toList ++ b.toList = c.toList ++ d.toList := by rw [← String.toList_append, h, String.toList_append]
  rcases List.append_eq_append_iff.mp hlist with ⟨e, hc, -⟩ | ⟨e, ha, -⟩
  · have hc : c = a ++ String.ofList e := by rw [← String.toList_inj, hc]; simp
    rw [hc, byteLen_append] at hshort
    omega
  · exact ⟨String.ofList e, by rw [← String.toList_inj, ha]; simp⟩

/-- 切り詰めたものをもう一度切り詰めても、もとの文の先頭の部分に印を付けたものである。 -/
theorem Cut.trans {shorter : String} (h : Cut content text) (h' : Cut text shorter) : Cut content shorter := by
  obtain ⟨front, rest, rfl, rfl, hlt⟩ := h
  obtain ⟨front', rest', hsplit, rfl, hlt'⟩ := h'
  obtain ⟨more, rfl⟩ := append_of_shorter hsplit (by simp only [byteLen_append] at hlt'; omega)
  exact ⟨front', more ++ rest, by rw [String.append_assoc], rfl, hlt'.trans hlt⟩

def previousSource (previous : PreviousSuccessContext) : String :=
  if previous.wasTruncated ∧ !truncationMarker.toList.isSuffixOf previous.content.toList then
    previous.content ++ truncationMarker
  else previous.content

def Faithful (content text : String) : Prop :=
  text = content ∨ ∃ front rest, content = front ++ rest ∧ text = front ++ truncationMarker

theorem Cut.faithful (h : Cut content text) : Faithful content text := by
  obtain ⟨front, rest, hsplit, htext, -⟩ := h
  exact .inr ⟨front, rest, hsplit, htext⟩

theorem faithful_empty : Faithful content "" ↔ content = "" := by
  constructor
  · rintro (h | ⟨front, rest, -, h⟩)
    · exact h.symm
    · have hlength := congrArg byteLen h
      rw [byteLen_append, byteLen_marker] at hlength
      simp [byteLen] at hlength
  · rintro rfl
    exact .inl rfl

theorem faithful_source {previous : PreviousSuccessContext} (h : text = previousSource previous ∨ Cut (previousSource previous) text) :
    Faithful previous.content text := by
  unfold previousSource at h
  split at h
  · rcases h with rfl | ⟨front, rest, hsplit, rfl, hlt⟩
    · exact .inr ⟨previous.content, "", by simp, rfl⟩
    · rw [byteLen_append, byteLen_append] at hlt
      obtain ⟨more, hmore⟩ := append_of_shorter hsplit (by omega)
      exact .inr ⟨front, more, hmore, rfl⟩
  · rcases h with rfl | hcut
    · exact .inl rfl
    · exact hcut.faithful

theorem truncate_twice (content : String) (limit room : Nat) :
    (byteLen content ≤ min limit room ∧
      (truncateUtf8WithMarker (truncateUtf8WithMarker content limit).1 room).1 = content) ∨
    (min limit room < byteLen content ∧ min limit room < 12 ∧
      (truncateUtf8WithMarker (truncateUtf8WithMarker content limit).1 room).1 = "") ∨
    (min limit room < byteLen content ∧ 12 ≤ min limit room ∧
      Cut content (truncateUtf8WithMarker (truncateUtf8WithMarker content limit).1 room).1) := by
  have hempty : ∀ n, (truncateUtf8WithMarker "" n).1 = "" := fun n => by simp [truncateUtf8WithMarker, byteLen]
  rcases truncate_cases content limit with ⟨hfits, h⟩ | ⟨hlong, hsmall, h⟩ | ⟨hlong, hlarge, text, h, hcut, hle, hclose⟩
  · rw [h]
    rcases truncate_cases content room with ⟨hfits', h'⟩ | ⟨hlong', hsmall', h'⟩ | ⟨hlong', hlarge', text', h', hcut', -, -⟩
    · exact .inl ⟨by omega, by rw [h']⟩
    · exact .inr (.inl ⟨by omega, by omega, by rw [h']⟩)
    · exact .inr (.inr ⟨by omega, by omega, by rwa [h']⟩)
  · exact .inr (.inl ⟨by omega, by omega, by rw [h, hempty]⟩)
  · rw [h]
    have htext : 12 ≤ byteLen text := by
      obtain ⟨front, -, -, rfl, -⟩ := hcut
      rw [byteLen_append, byteLen_marker]
      omega
    rcases truncate_cases text room with ⟨hfits', h'⟩ | ⟨hlong', hsmall', h'⟩ | ⟨hlong', hlarge', text', h', hcut', -, -⟩
    · exact .inr (.inr ⟨by omega, by omega, by rwa [h']⟩)
    · exact .inr (.inl ⟨by omega, by omega, by rw [h']⟩)
    · exact .inr (.inr ⟨by omega, by omega, by rw [h']; exact hcut.trans hcut'⟩)

def heading (label : String) : String := "\n\n" ++ label ++ ":\n"

theorem heading_length (label : String) : 4 < byteLen (heading label) + 1 := by
  have hparts : byteLen "\n\n" = 2 ∧ byteLen ":\n" = 2 := by decide
  rw [heading, byteLen_append, byteLen_append, hparts.1, hparts.2]
  omega

theorem appendBoundedSection_skip (content : String) (h : maxBytes - byteLen prompt ≤ byteLen (heading label)) :
    appendBoundedSection maxBytes prompt (label, content) = prompt := if_pos h

theorem appendBoundedSection_show (content : String) (h : ¬maxBytes - byteLen prompt ≤ byteLen (heading label)) :
    appendBoundedSection maxBytes prompt (label, content) = prompt ++ heading label ++
      (truncateUtf8WithMarker content (maxBytes - byteLen prompt - byteLen (heading label))).1 := if_neg h

/-- 添える部分。`content` はもとの文で、`entry` はその見出しと、添えようとする文である。 -/
structure OptionalSection where
  entry : String × String
  content : String

/-- `prompt` に順に添えて `final` になり、添えた部分の切り口はどれも見える。 -/
inductive CutsVisible (maxBytes : Nat) : String → List OptionalSection → String → Prop
  | done {prompt : String} : CutsVisible maxBytes prompt [] prompt
  | skipped {prompt final : String} {s : OptionalSection} {sections : List OptionalSection} :
      appendBoundedSection maxBytes prompt s.entry = prompt → CutsVisible maxBytes prompt sections final →
      CutsVisible maxBytes prompt (s :: sections) final
  | shown {prompt final text : String} {s : OptionalSection} {sections : List OptionalSection} :
      appendBoundedSection maxBytes prompt s.entry = prompt ++ heading s.entry.1 ++ text → Faithful s.content text →
      CutsVisible maxBytes (prompt ++ heading s.entry.1 ++ text) sections final →
      CutsVisible maxBytes prompt (s :: sections) final

variable {sections : List OptionalSection}

theorem append_heading_ne : prompt ++ heading label ++ text ≠ prompt := by
  intro h
  have hlength := congrArg byteLen h
  have hheading := heading_length label
  rw [byteLen_append, byteLen_append] at hlength
  omega

theorem cutsVisible_skip {entry : String × String} (h : appendBoundedSection maxBytes prompt entry = prompt) :
    CutsVisible maxBytes prompt (⟨entry, content⟩ :: sections) final ↔ CutsVisible maxBytes prompt sections final := by
  constructor
  · rintro (_ | ⟨-, hrest⟩ | ⟨hshown, -, -⟩)
    · exact hrest
    · exact absurd (hshown.symm.trans h) append_heading_ne
  · exact .skipped h

theorem cutsVisible_show {entry : String × String}
    (h : appendBoundedSection maxBytes prompt entry = prompt ++ heading entry.1 ++ text) :
    CutsVisible maxBytes prompt (⟨entry, content⟩ :: sections) final ↔
      Faithful content text ∧ CutsVisible maxBytes (prompt ++ heading entry.1 ++ text) sections final := by
  constructor
  · rintro (_ | ⟨hskip, -⟩ | ⟨hshown, hfaithful, hrest⟩)
    · exact absurd (h.symm.trans hskip) append_heading_ne
    · have htext := String.append_right_inj _ |>.mp (h.symm.trans hshown)
      subst htext
      exact ⟨hfaithful, hrest⟩
  · exact fun ⟨hfaithful, hrest⟩ => .shown h hfaithful hrest

def appendAll (maxBytes : Nat) (prompt : String) (sections : List OptionalSection) : String :=
  sections.foldl (fun prompt s => appendBoundedSection maxBytes prompt s.entry) prompt

theorem cutsVisible_full (sections : List OptionalSection) (h : maxBytes - byteLen prompt ≤ 4) :
    CutsVisible maxBytes prompt sections (appendAll maxBytes prompt sections) := by
  induction sections with
  | nil => exact .done
  | cons s sections ih =>
    have hheading := heading_length s.entry.1
    have hskip : appendBoundedSection maxBytes prompt s.entry = prompt :=
      @appendBoundedSection_skip prompt s.entry.1 maxBytes s.entry.2 (by omega)
    rw [cutsVisible_skip hskip, appendAll, List.foldl_cons, hskip]
    exact ih

/-! ## 残りの長さ -/

def previousLabel (limit : Nat) (previous : PreviousSuccessContext) : String :=
  if previous.wasTruncated ∨ limit < byteLen (previousSource previous) then "Previous successful result (bounded snapshot)"
  else "Previous successful result"

/-- 前回の成功の写しは、添えないか、空か、全体か切り詰めた印が、自分の上限にも残りの長さにも収まる。 -/
def PreviousRoomy (limit available : Nat) (previous : PreviousSuccessContext) : Prop :=
  let room := min limit (available - byteLen (heading (previousLabel limit previous)))
  available ≤ byteLen (heading (previousLabel limit previous)) ∨ previous.content = "" ∨
    byteLen (previousSource previous) ≤ room ∨ byteLen truncationMarker ≤ room

/-- 残り `available` バイトに順に添えるとき、どの部分も、見出しの後に、文の全体か切り詰めた印が収まる。 -/
def Roomy (limit : Nat) (previous : Option PreviousSuccessContext) : Nat → List (String × String) → Prop
  | available, [] => ∀ p ∈ previous, PreviousRoomy limit available p
  | available, (label, content) :: sections =>
    if available ≤ byteLen (heading label) then Roomy limit previous available sections
    else if byteLen content ≤ available - byteLen (heading label) then
      Roomy limit previous (available - byteLen (heading label) - byteLen content) sections
    else byteLen truncationMarker ≤ available - byteLen (heading label)

theorem previousSuccessSection_eq (limit : Nat) (previous : PreviousSuccessContext) : previousSuccessSection limit previous =
    (previousLabel limit previous, (truncateUtf8WithMarker (previousSource previous) limit).1) := by
  have htruncated : (truncateUtf8WithMarker (previousSource previous) limit).2 = true ↔
      limit < byteLen (previousSource previous) := by
    rcases truncate_cases (previousSource previous) limit with ⟨hfits, h⟩ | ⟨hlong, -, h⟩ | ⟨hlong, -, text, h, -, -, -⟩ <;>
      simp [h] <;> omega
  have hsection : previousSuccessSection limit previous =
      if previous.wasTruncated || (truncateUtf8WithMarker (previousSource previous) limit).2 then
        ("Previous successful result (bounded snapshot)", (truncateUtf8WithMarker (previousSource previous) limit).1)
      else ("Previous successful result", (truncateUtf8WithMarker (previousSource previous) limit).1) := rfl
  rw [hsection, previousLabel]
  simp only [Bool.or_eq_true, htruncated]
  split <;> rfl

theorem previousSuccess_le (limit room : Nat) (previous : PreviousSuccessContext) :
    byteLen (truncateUtf8WithMarker (previousSuccessSection limit previous).2 room).1 ≤ limit := by
  have hfirst := truncate_le (previousSource previous) limit
  have hsecond := truncate_le (previousSuccessSection limit previous).2 room
  rw [previousSuccessSection_eq] at hsecond ⊢
  exact (hsecond.trans (min_le_right _ _)).trans (hfirst.trans (min_le_left _ _))

theorem previous_iff {previous : PreviousSuccessContext} :
    CutsVisible maxBytes prompt [⟨previousSuccessSection limit previous, previous.content⟩]
      (appendAll maxBytes prompt [⟨previousSuccessSection limit previous, previous.content⟩]) ↔
      PreviousRoomy limit (maxBytes - byteLen prompt) previous := by
  rw [previousSuccessSection_eq, PreviousRoomy, byteLen_marker]
  by_cases habsent : maxBytes - byteLen prompt ≤ byteLen (heading (previousLabel limit previous))
  · have hskip := appendBoundedSection_skip (truncateUtf8WithMarker (previousSource previous) limit).1 habsent
    have hall : appendAll maxBytes prompt [⟨(previousLabel limit previous,
      (truncateUtf8WithMarker (previousSource previous) limit).1), previous.content⟩] = prompt := hskip
    rw [hall, cutsVisible_skip hskip]
    exact iff_of_true .done (.inl habsent)
  have happend := appendBoundedSection_show (truncateUtf8WithMarker (previousSource previous) limit).1 habsent
  have hall : appendAll maxBytes prompt [⟨(previousLabel limit previous,
    (truncateUtf8WithMarker (previousSource previous) limit).1), previous.content⟩] = _ := happend
  rw [hall, cutsVisible_show happend, and_iff_left .done]
  rcases truncate_twice (previousSource previous) limit
    (maxBytes - byteLen prompt - byteLen (heading (previousLabel limit previous))) with
    ⟨hfits, h⟩ | ⟨hlong, hsmall, h⟩ | ⟨hlong, hlarge, hcut⟩
  · rw [h]
    exact iff_of_true (faithful_source (.inl rfl)) (.inr (.inr (.inl hfits)))
  · rw [h, faithful_empty]
    constructor
    · exact fun hempty => .inr (.inl hempty)
    · rintro (h | h | h | h)
      · exact absurd h habsent
      · exact h
      · omega
      · omega
  · exact iff_of_true (faithful_source (.inr hcut)) (.inr (.inr (.inr hlarge)))

variable {channel : List (String × String)} {previous : Option PreviousSuccessContext}

def sectionsOf (limit : Nat) (previous : Option PreviousSuccessContext) (channel : List (String × String)) :
    List OptionalSection :=
  channel.map (fun entry => ⟨entry, entry.2⟩) ++
    previous.toList.map fun p => ⟨previousSuccessSection limit p, p.content⟩

theorem cutsVisible_iff : CutsVisible maxBytes prompt (sectionsOf limit previous channel)
    (appendAll maxBytes prompt (sectionsOf limit previous channel)) ↔
      Roomy limit previous (maxBytes - byteLen prompt) channel := by
  induction channel generalizing prompt with
  | nil =>
    cases previous with
    | none => simp [sectionsOf, appendAll, Roomy, CutsVisible.done]
    | some p => simpa [sectionsOf, Roomy] using previous_iff
  | cons entry channel ih =>
    obtain ⟨label, content⟩ := entry
    have hcons : sectionsOf limit previous ((label, content) :: channel) =
      ⟨(label, content), content⟩ :: sectionsOf limit previous channel := rfl
    have hall : appendAll maxBytes prompt (sectionsOf limit previous ((label, content) :: channel)) =
      appendAll maxBytes (appendBoundedSection maxBytes prompt (label, content)) (sectionsOf limit previous channel) := rfl
    rw [hall, hcons, Roomy]
    by_cases habsent : maxBytes - byteLen prompt ≤ byteLen (heading label)
    · have hskip := appendBoundedSection_skip content habsent
      rw [if_pos habsent, cutsVisible_skip hskip, hskip]
      exact ih
    rw [if_neg habsent]
    have happend := appendBoundedSection_show content habsent
    rw [cutsVisible_show happend, happend]
    rcases truncate_cases content (maxBytes - byteLen prompt - byteLen (heading label)) with
      ⟨hfits, h⟩ | ⟨hlong, hsmall, h⟩ | ⟨hlong, hlarge, text, h, hcut, hle, hclose⟩
    · rw [h, if_pos hfits, ih, byteLen_append, byteLen_append, Nat.sub_add_eq, Nat.sub_add_eq]
      exact and_iff_right (.inl rfl)
    · rw [h, if_neg (by omega), faithful_empty, byteLen_marker]
      constructor
      · rintro ⟨rfl, -⟩
        simp [byteLen] at hlong
      · intro hroom
        omega
    · rw [h, if_neg (by omega), byteLen_marker]
      refine iff_of_true ⟨hcut.faithful, cutsVisible_full _ ?_⟩ hlarge
      rw [byteLen_append, byteLen_append]
      dsimp only
      omega

/-! ## 文面 -/

theorem appendBoundedSection_spec (hle : byteLen prompt ≤ maxBytes) (entry : String × String) :
    byteLen (appendBoundedSection maxBytes prompt entry) ≤ maxBytes ∧
      ∃ more, appendBoundedSection maxBytes prompt entry = prompt ++ more := by
  obtain ⟨label, content⟩ := entry
  by_cases habsent : maxBytes - byteLen prompt ≤ byteLen (heading label)
  · rw [appendBoundedSection_skip content habsent]
    exact ⟨hle, "", by simp⟩
  · have htext := truncate_le content (maxBytes - byteLen prompt - byteLen (heading label))
    rw [appendBoundedSection_show content habsent, byteLen_append, byteLen_append]
    exact ⟨by omega, _, String.append_assoc⟩

theorem appendAll_spec (hle : byteLen prompt ≤ maxBytes) (sections : List OptionalSection) :
    byteLen (appendAll maxBytes prompt sections) ≤ maxBytes ∧ ∃ more, appendAll maxBytes prompt sections = prompt ++ more := by
  induction sections generalizing prompt with
  | nil => exact ⟨hle, "", by simp [appendAll]⟩
  | cons s sections ih =>
    obtain ⟨hstep, more, hmore⟩ := appendBoundedSection_spec hle s.entry
    obtain ⟨hrest, rest, hrests⟩ := ih hstep
    rw [appendAll, List.foldl_cons]
    exact ⟨hrest, more ++ rest, by rw [← String.append_assoc, ← hmore]; exact hrests⟩

def optionalSections (task : AgentTask) (limit : Nat) : List OptionalSection :=
  sectionsOf limit task.previousSuccess ((task.channel.map channelSections).getD [])

theorem renderPrompt_ok {task : AgentTask} : renderPrompt task maxBytes limit = .ok prompt ↔
    trim task.instruction ≠ "" ∧ byteLen (requiredPrompt task) ≤ maxBytes ∧
      appendAll maxBytes (requiredPrompt task) (optionalSections task limit) = prompt := by
  have hall : appendAll maxBytes (requiredPrompt task) (optionalSections task limit) =
      ((task.channel.map channelSections).getD []
        ++ (task.previousSuccess.map (previousSuccessSection limit)).toList).foldl (appendBoundedSection maxBytes)
          (requiredPrompt task) := by
    rw [appendAll, optionalSections, sectionsOf, List.foldl_append, List.foldl_append, List.foldl_map, List.foldl_map]
    cases task.previousSuccess <;> rfl
  rw [renderPrompt, hall]
  by_cases hblank : trim task.instruction = ""
  · simp [hblank]
  by_cases hlong : maxBytes < byteLen (requiredPrompt task)
  · simp [hblank, hlong]
  · simp [hblank, hlong, Nat.le_of_not_lt hlong]

/-- 文面は上限に収まり、必ず入る部分で始まり、前回の成功の写しは自分の上限に収まる。断るのは、指示が空か、必ず入る部分が上限を越える
ときに限る。 -/
theorem prompt_budget_exact (task : AgentTask) (maxPromptBytes limit : Nat) :
    ((∃ error, renderPrompt task maxPromptBytes limit = .error error) ↔
      trim task.instruction = "" ∨ maxPromptBytes < byteLen (requiredPrompt task)) ∧
    (∀ previous ∈ task.previousSuccess, ∀ room,
      byteLen (truncateUtf8WithMarker (previousSuccessSection limit previous).2 room).1 ≤ limit) ∧
    ∀ prompt, renderPrompt task maxPromptBytes limit = .ok prompt →
      byteLen prompt ≤ maxPromptBytes ∧ (∃ more, prompt = requiredPrompt task ++ more) ∧
      (CutsVisible maxPromptBytes (requiredPrompt task) (optionalSections task limit) prompt ↔
        Roomy limit task.previousSuccess (maxPromptBytes - byteLen (requiredPrompt task))
          ((task.channel.map channelSections).getD [])) := by
  refine ⟨?_, fun previous _ room => previousSuccess_le limit room previous, fun prompt h => ?_⟩
  · cases h : renderPrompt task maxPromptBytes limit with
    | error error =>
      refine iff_of_true ⟨error, rfl⟩ ?_
      by_contra hboth
      rw [not_or, Nat.not_lt] at hboth
      rw [renderPrompt_ok.mpr ⟨hboth.1, hboth.2, rfl⟩] at h
      cases h
    | ok prompt =>
      obtain ⟨hinstruction, hle, -⟩ := renderPrompt_ok.mp h
      refine iff_of_false (by simp) ?_
      rintro (hblank | hlong)
      · exact hinstruction hblank
      · omega
  · obtain ⟨-, hle, rfl⟩ := renderPrompt_ok.mp h
    obtain ⟨hlength, hmore⟩ := appendAll_spec hle (optionalSections task limit)
    exact ⟨hlength, hmore, cutsVisible_iff⟩

def snapshot : PreviousSuccessContext := ⟨"fourteen pages", false⟩

def snapshotTask : AgentTask where
  taskId := "operator:1"
  instruction := "Look it up."
  source := .trustedOperator "1"
  principal := .service "codeoff"
  session := .fresh
  channel := none
  previousSuccess := some snapshot
  toolPolicy := .none
  feedbackTarget := none

def tightBudget : Nat := byteLen (requiredPrompt snapshotTask) + byteLen (heading "Previous successful result") + 3

theorem snapshotTask_accepted : trim snapshotTask.instruction ≠ "" ∧ byteLen (requiredPrompt snapshotTask) ≤ tightBudget ∧
    tightBudget ≤ 4096 := by decide +kernel

theorem roomy_snapshotTask {available : Nat} :
    Roomy limit snapshotTask.previousSuccess available ((snapshotTask.channel.map channelSections).getD []) ↔
      PreviousRoomy limit available snapshot := by
  simp [snapshotTask, Roomy]

/-- 自分の上限が印より短いときも、残りが印より短いときも、見出しだけが添えられ、切ったことが見えない。 -/
theorem cut_without_marker :
    (∃ prompt, renderPrompt snapshotTask 4096 5 = .ok prompt ∧
      ¬CutsVisible 4096 (requiredPrompt snapshotTask) (optionalSections snapshotTask 5) prompt) ∧
    ∃ prompt, renderPrompt snapshotTask tightBudget 4096 = .ok prompt ∧
      ¬CutsVisible tightBudget (requiredPrompt snapshotTask) (optionalSections snapshotTask 4096) prompt := by
  obtain ⟨hinstruction, hrequired, htight⟩ := snapshotTask_accepted
  have hshort : ¬PreviousRoomy 5 (4096 - byteLen (requiredPrompt snapshotTask)) snapshot ∧
      ¬PreviousRoomy 4096 (tightBudget - byteLen (requiredPrompt snapshotTask)) snapshot := by
    unfold PreviousRoomy
    decide +kernel
  refine ⟨⟨_, renderPrompt_ok.mpr ⟨hinstruction, by omega, rfl⟩, ?_⟩, ⟨_, renderPrompt_ok.mpr ⟨hinstruction, hrequired, rfl⟩, ?_⟩⟩
  · exact mt (cutsVisible_iff.trans roomy_snapshotTask).mp hshort.1
  · exact mt (cutsVisible_iff.trans roomy_snapshotTask).mp hshort.2

/-- 前回の成功の写しが収まりきらない上限でも、指示は欠けず、上限を守る。 -/
theorem prompt_budget_exact_sample : ∃ prompt, renderPrompt snapshotTask tightBudget 4096 = .ok prompt ∧
    byteLen prompt ≤ tightBudget ∧ ∃ more, prompt = requiredPrompt snapshotTask ++ more := by
  have hok : renderPrompt snapshotTask tightBudget 4096 = .ok _ :=
    renderPrompt_ok.mpr ⟨snapshotTask_accepted.1, snapshotTask_accepted.2.1, rfl⟩
  obtain ⟨hlength, hmore, -⟩ := (prompt_budget_exact snapshotTask tightBudget 4096).2.2 _ hok
  exact ⟨_, hok, hlength, hmore⟩

end Codeoff.Codex
