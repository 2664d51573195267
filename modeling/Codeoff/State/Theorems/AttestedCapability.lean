import Mathlib.Data.List.Dedup
import Codeoff.State.Theorems.RecoveryAttestation

/-!
# 能力の写しの文面の一意性

検査を通る写しは、その文面から読み戻せる。
-/

namespace Codeoff.Core

theorem btreeSet_pairwise (values : List String) : (btreeSet values).Pairwise (· < ·) := by
  have hsorted : (btreeSet values).Pairwise (· ≤ ·) := List.pairwise_insertionSort _ _
  have hnodup : (btreeSet values).Nodup := (List.perm_insertionSort _ _).nodup_iff.mpr (List.nodup_dedup values)
  exact (hsorted.and hnodup).imp fun h => lt_of_le_of_ne h.1 h.2

theorem btreeSet_eq_iff {values : List String} : btreeSet values = values ↔ values.Pairwise (· < ·) := by
  constructor
  · intro h
    exact h ▸ btreeSet_pairwise values
  · intro h
    have hnodup : values.Nodup := h.imp ne_of_lt
    rw [btreeSet, hnodup.dedup]
    exact List.Pairwise.insertionSort_eq (h.imp le_of_lt)

namespace AttestedCapabilityProfile

open Codeoff.Json

variable {p : AttestedCapabilityProfile} {sha256Hex : List UInt8 → String} {s : String} {tools : List String}

/-- 文面の `github_tools` が文字列の配列なら、真に昇順に並ぶ。 -/
def ToolsAscending (s : String) : Prop :=
  ∀ v tools, parse s = some v → (v.get "github_tools").bind asStrings = some tools → tools.Pairwise (· < ·)

theorem validate_tools (h : p.validate sha256Hex = .ok ()) : p.githubTools = btreeSet expectedGithubTools := by
  by_contra hne
  simp [validate, hne] at h

theorem get_tools (tools : List String) :
    ((Value.object (p.membersWith tools)).get "github_tools").bind asStrings = some tools := by
  have hmem : ("github_tools", Value.arr (tools.map .str)) ∈ p.membersWith tools := by simp [membersWith]
  have hget := carries_object (p.membersWith_nodup tools) _ hmem
  exact Option.bind_eq_some_iff.mpr ⟨_, hget, asStrings_map tools⟩

theorem membersWith_render_inj {tools' : List String} (hattested : p.attestedAtUnixSeconds ≤ u64Max)
    (hchecked : p.githubMcpHealthCheckedAtUnixSeconds ≤ u64Max)
    (h : (Value.object (p.membersWith tools)).render = (Value.object (p.membersWith tools')).render) :
    tools = tools' := by
  have hobject := render_inj (membersWith_wf hattested hchecked tools).sorted
    ((membersWith_wf hattested hchecked tools').mono (by decide)) h
  have htools := get_tools (p := p) tools
  rw [hobject, get_tools] at htools
  exact (Option.some.inj htools).symm

/-- 受け付けられた文面は、道具が真に昇順に並ぶとき、そのときに限り、読んだ写しの文面である。 -/
theorem canonicalJson_eq_iff (h : parseCanonicalJson sha256Hex s = .ok p) :
    p.canonicalJson = s ↔ ToolsAscending s := by
  obtain ⟨-, hattested, hchecked, tools, hset, hparse, hs⟩ := parseCanonicalJson_members h
  have hcanonical : p.canonicalJson = (Value.object (p.membersWith p.githubTools)).render := rfl
  constructor
  · intro heq v tools' hv htools'
    obtain rfl := Option.some.inj (hparse.symm.trans hv)
    obtain rfl := Option.some.inj ((get_tools tools).symm.trans htools')
    rw [hcanonical, hs] at heq
    have hsame := membersWith_render_inj hattested hchecked heq
    exact btreeSet_eq_iff.mp (hset.symm.trans hsame)
  · intro hascending
    have hsorted := btreeSet_eq_iff.mpr (hascending _ tools hparse (get_tools tools))
    rw [hcanonical, hs, hset, hsorted]

/-- 検査を通る写しは読み戻せる。受け付けられた文面が読んだ写しのただ一つの文面であるのは、道具が真に昇順に並ぶ
ときである。 -/
theorem canonical_text_iff (sha256Hex : List UInt8 → String) :
    (∀ p, validate sha256Hex p = .ok () → p.attestedAtUnixSeconds ≤ u64Max →
      parseCanonicalJson sha256Hex p.canonicalJson = .ok p) ∧
    (∀ s p, parseCanonicalJson sha256Hex s = .ok p →
      (p.validate sha256Hex = .ok () ∧ p.canonicalJson = s ↔ ToolsAscending s)) := by
  constructor
  · intro p hvalid hattested
    have htools := validate_tools hvalid
    exact parseCanonicalJson_canonicalJson hvalid hattested (btreeSet_eq_iff.mpr (htools ▸ btreeSet_pairwise _))
  · intro s p h
    rw [← canonicalJson_eq_iff h]
    exact and_iff_right (parseCanonicalJson_members h).1

end AttestedCapabilityProfile

end Codeoff.Core

namespace Codeoff.State

open Codeoff.Core Codeoff.Json AttestedCapabilityProfile

/-- 五つの道具を持つ写しは、その文面から読み戻せる。 -/
theorem canonical_text_iff_sample :
    parseCanonicalJson Sha256.sha256Hex attestedProfile.canonicalJson = .ok attestedProfile ∧
    (attestedProfile.validate Sha256.sha256Hex = .ok () ∧
      attestedProfile.canonicalJson = attestedProfile.canonicalJson ↔ ToolsAscending attestedProfile.canonicalJson) := by
  obtain ⟨hround, hexact⟩ := canonical_text_iff Sha256.sha256Hex
  have hparse := hround attestedProfile attestedProfile_valid (by decide)
  exact ⟨hparse, hexact _ attestedProfile hparse⟩

def reversedToolsText : String :=
  (Value.object (attestedProfile.membersWith expectedGithubTools.reverse)).render

/-- 道具を逆に並べた、写しの文面ではない文面も受け付けられる。 -/
theorem reversed_tools_accepted :
    parseCanonicalJson Sha256.sha256Hex reversedToolsText = .ok attestedProfile ∧
      attestedProfile.canonicalJson ≠ reversedToolsText := by
  have htools : btreeSet expectedGithubTools.reverse = attestedProfile.githubTools := by decide +kernel
  have hdiffer : attestedProfile.githubTools ≠ expectedGithubTools.reverse := by decide +kernel
  exact ⟨parseCanonicalJson_membersWith attestedProfile_valid (by decide) htools,
    fun h => hdiffer (membersWith_render_inj (by decide) (by decide) h)⟩

end Codeoff.State
