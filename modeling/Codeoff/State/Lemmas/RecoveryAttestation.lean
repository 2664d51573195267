import Codeoff.Json.Lemmas.Parsed
import Codeoff.State.Lemmas.Text
import Codeoff.State.Authority

/-!
# 証明の文面

能力の写しの文面は正準形で浅い。
-/

namespace Codeoff.Core.AttestedCapabilityProfile

open Codeoff.Json Codeoff.Relational

variable {v : Value} {p : AttestedCapabilityProfile} {sha256Hex : List UInt8 → String}

/-! ## 能力の写し -/

theorem orInvalidField_ok {α : Type} {o : Option α} {a : α} : orInvalidField o = .ok a ↔ o = some a := by
  cases o <;> simp [orInvalidField]

theorem asStr_eq_some {text : String} : v.asStr = some text ↔ v = .str text := by
  cases v <;> simp [Value.asStr]

theorem string_ok {key text : String} :
    orInvalidField ((v.get key).bind Value.asStr) = .ok text ↔ v.get key = some (.str text) := by
  simp [orInvalidField_ok, Option.bind_eq_some_iff, asStr_eq_some]

theorem number_ok {key : String} {n : Nat} (h : orInvalidField ((v.get key).bind Value.asU64) = .ok n) :
    v.get key = some (.int n) ∧ n ≤ u64Max := by
  obtain ⟨w, hw, hn⟩ := Option.bind_eq_some_iff.mp (orInvalidField_ok.mp h)
  unfold Value.asU64 at hn
  split at hn
  · split at hn
    · rename_i hle
      cases hn
      exact ⟨hw, hle⟩
    · cases hn
  · cases hn

theorem asStrings_ok {tools : List String} (h : asStrings v = some tools) : v = .arr (tools.map .str) := by
  cases v with
  | arr values =>
    simp only [asStrings] at h
    refine congrArg Value.arr ?_
    induction values generalizing tools with
    | nil =>
      cases h
      rfl
    | cons w values ih =>
      simp only [List.mapM_cons, Option.bind_eq_bind, Option.bind_eq_some_iff, Option.pure_def,
        Option.some.injEq] at h
      obtain ⟨text, htext, texts, htexts, rfl⟩ := h
      rw [ih htexts, asStr_eq_some.mp htext, List.map_cons]
  | _ => cases h

structure ReadMembers (v : Value) (p : AttestedCapabilityProfile) : Prop where
  texts : ∀ m ∈ p.textMembers, v.get m.1 = some m.2
  digest : v.get "profile_sha256" = some (.str p.profileSha256)
  attestedAt : v.get "attested_at_unix_seconds" = some (.int p.attestedAtUnixSeconds)
  attestedAtLe : p.attestedAtUnixSeconds ≤ u64Max
  checkedAt : v.get "github_mcp_health_checked_at_unix_seconds" = some (.int p.githubMcpHealthCheckedAtUnixSeconds)
  checkedAtLe : p.githubMcpHealthCheckedAtUnixSeconds ≤ u64Max
  tools : ∃ tools : List String, v.get "github_tools" = some (.arr (tools.map .str)) ∧ p.githubTools = btreeSet tools

/-- 読めた輪郭の欄は、どれも書かれていたとおりである。 -/
theorem read_ok (h : read v = .ok p) : ReadMembers v p := by
  unfold read at h
  obtain ⟨tools, htools, h⟩ := except_bind_ok.mp h
  obtain ⟨t01, h01, h⟩ := except_bind_ok.mp h
  obtain ⟨attestedAt, hattested, h⟩ := except_bind_ok.mp h
  obtain ⟨t02, h02, h⟩ := except_bind_ok.mp h
  obtain ⟨t03, h03, h⟩ := except_bind_ok.mp h
  obtain ⟨t04, h04, h⟩ := except_bind_ok.mp h
  obtain ⟨t05, h05, h⟩ := except_bind_ok.mp h
  obtain ⟨t06, h06, h⟩ := except_bind_ok.mp h
  obtain ⟨t07, h07, h⟩ := except_bind_ok.mp h
  obtain ⟨t08, h08, h⟩ := except_bind_ok.mp h
  obtain ⟨t09, h09, h⟩ := except_bind_ok.mp h
  obtain ⟨t10, h10, h⟩ := except_bind_ok.mp h
  obtain ⟨t11, h11, h⟩ := except_bind_ok.mp h
  obtain ⟨t12, h12, h⟩ := except_bind_ok.mp h
  obtain ⟨t13, h13, h⟩ := except_bind_ok.mp h
  obtain ⟨t14, h14, h⟩ := except_bind_ok.mp h
  obtain ⟨checkedAt, hchecked, h⟩ := except_bind_ok.mp h
  obtain ⟨t15, h15, h⟩ := except_bind_ok.mp h
  obtain ⟨t16, h16, h⟩ := except_bind_ok.mp h
  obtain ⟨t17, h17, h⟩ := except_bind_ok.mp h
  obtain ⟨t18, h18, h⟩ := except_bind_ok.mp h
  obtain ⟨t19, h19, h⟩ := except_bind_ok.mp h
  obtain ⟨t20, h20, h⟩ := except_bind_ok.mp h
  obtain ⟨t21, h21, h⟩ := except_bind_ok.mp h
  obtain ⟨t22, h22, h⟩ := except_bind_ok.mp h
  obtain ⟨digest, hdigest, h⟩ := except_bind_ok.mp h
  obtain ⟨t23, h23, h⟩ := except_bind_ok.mp h
  obtain ⟨t24, h24, h⟩ := except_bind_ok.mp h
  obtain ⟨t25, h25, h⟩ := except_bind_ok.mp h
  cases h
  rw [string_ok] at h01 h02 h03 h04 h05 h06 h07 h08 h09 h10 h11 h12 h13
  rw [string_ok] at h14 h15 h16 h17 h18 h19 h20 h21 h22 h23 h24 h25 hdigest
  obtain ⟨w, hw, htools⟩ := Option.bind_eq_some_iff.mp (orInvalidField_ok.mp htools)
  refine ⟨?_, hdigest, (number_ok hattested).1, (number_ok hattested).2, (number_ok hchecked).1,
    (number_ok hchecked).2, tools, ?_⟩
  · simp [textMembers, h01, h02, h03, h04, h05, h06, h07, h08, h09, h10, h11, h12, h13, h14, h15, h16, h17, h18, h19,
      h20, h21, h22, h23, h24, h25]
  · exact ⟨hw.trans (congrArg some (asStrings_ok htools)), rfl⟩

theorem strings_wf (tools : List String) : (Value.arr (tools.map .str)).Wf 1 := by
  induction tools with
  | nil => exact wf_empty_arr
  | cons text tools ih => exact wf_str.arr_cons ih

/-- `github_tools` の配列を `tools` とした文面の成員。 -/
def membersWith (p : AttestedCapabilityProfile) (tools : List String) : List (String × Value) :=
  p.textMembers ++ [("github_mcp_health_checked_at_unix_seconds", .int p.githubMcpHealthCheckedAtUnixSeconds),
    ("github_tools", .arr (tools.map .str))] ++ [("attested_at_unix_seconds", .int p.attestedAtUnixSeconds),
    ("profile_sha256", .str p.profileSha256)]

theorem membersWith_nodup (tools : List String) : ((p.membersWith tools).map Prod.fst).Nodup := by
  simp [membersWith, textMembers]

theorem membersWith_wf (hattested : p.attestedAtUnixSeconds ≤ u64Max)
    (hchecked : p.githubMcpHealthCheckedAtUnixSeconds ≤ u64Max) (tools : List String) :
    (Value.object (p.membersWith tools)).Wf 2 :=
  Value.Wf.object (by simp [membersWith, textMembers, u64_wf hattested, u64_wf hchecked, strings_wf])

/-- 読めた写しの欄はちょうど 29 あるので、文面は道具の並びを除いて一つに決まる。 -/
theorem ReadMembers.eq_object (h : ReadMembers v p) (hcount : memberCount v = some 29) (hv : v.Sorted) :
    ∃ tools, p.githubTools = btreeSet tools ∧ v = .object (p.membersWith tools) := by
  obtain ⟨tools, htools, hset⟩ := h.tools
  have hget : ∀ m ∈ p.membersWith tools, v.get m.1 = some m.2 := by
    intro m hm
    simp only [membersWith, List.append_assoc] at hm
    rcases List.mem_append.mp hm with hm | hm
    · exact h.texts m hm
    · simp only [List.cons_append, List.nil_append, List.mem_cons, List.not_mem_nil, or_false] at hm
      rcases hm with rfl | rfl | rfl | rfl
      · exact h.checkedAt
      · exact htools
      · exact h.attestedAt
      · exact h.digest
  cases v with
  | obj ms =>
    have hlength : ms.length = (p.membersWith tools).length := Option.some.inj hcount
    exact ⟨tools, hset, Json.eq_object hv (membersWith_nodup tools) hlength hget⟩
  | _ => cases hcount

/-- 読めた文面は、道具の並びを除いて、輪郭を書いたものである。 -/
theorem parseCanonicalJson_members {s : String} (h : parseCanonicalJson sha256Hex s = .ok p) :
    p.validate sha256Hex = .ok () ∧ p.attestedAtUnixSeconds ≤ u64Max ∧
      p.githubMcpHealthCheckedAtUnixSeconds ≤ u64Max ∧
      ∃ tools, p.githubTools = btreeSet tools ∧ parse s = some (.object (p.membersWith tools)) ∧
        s = (Value.object (p.membersWith tools)).render := by
  unfold parseCanonicalJson at h
  cases hparse : parse s with
  | none =>
    rw [hparse] at h
    cases h
  | some v =>
    rw [hparse] at h
    dsimp only at h
    split at h
    · cases h
    · rename_i hcanonical
      split at h
      · cases h
      · rename_i hcount
        obtain ⟨profile, hread, h⟩ := except_bind_ok.mp h
        obtain ⟨_, hvalid, h⟩ := except_bind_ok.mp h
        cases h
        have hmembers := read_ok hread
        obtain ⟨tools, hset, rfl⟩ := hmembers.eq_object (not_not.mp hcount) (parse_sorted hparse)
        exact ⟨hvalid, hmembers.attestedAtLe, hmembers.checkedAtLe, tools, hset, rfl, (not_not.mp hcanonical).symm⟩

theorem parseCanonicalJson_ok {s : String} (h : parseCanonicalJson sha256Hex s = .ok p) :
    ∃ v, parse s = some v ∧ v.render = s ∧ v.Wf 2 := by
  obtain ⟨-, hattested, hchecked, tools, -, hparse, hs⟩ := parseCanonicalJson_members h
  exact ⟨_, hparse, hs.symm, membersWith_wf hattested hchecked tools⟩

def members (p : AttestedCapabilityProfile) : List (String × Value) :=
  p.commonMembers ++ [("attested_at_unix_seconds", .int p.attestedAtUnixSeconds),
    ("profile_sha256", .str p.profileSha256)]

theorem members_wf (hattested : p.attestedAtUnixSeconds ≤ u64Max)
    (hchecked : p.githubMcpHealthCheckedAtUnixSeconds ≤ u64Max) : (Value.object p.members).Wf 2 :=
  membersWith_wf hattested hchecked _

theorem asStrings_map (texts : List String) : asStrings (.arr (texts.map .str)) = some texts := by
  simp only [asStrings]
  induction texts with
  | nil => rfl
  | cons text texts ih => simp [List.mapM_cons, ih, Value.asStr]

/-- 輪郭を書いた欄は、道具の並びによらず、その輪郭に読み戻される。 -/
theorem read_membersWith {tools : List String} (hattested : p.attestedAtUnixSeconds ≤ u64Max)
    (hchecked : p.githubMcpHealthCheckedAtUnixSeconds ≤ u64Max) (htools : btreeSet tools = p.githubTools) :
    read (.object (p.membersWith tools)) = .ok p := by
  have hget := carries_object (p.membersWith_nodup tools)
  have hnumber : ∀ {object key n}, Value.get key object = some (.int (Nat.cast n)) → n ≤ u64Max →
      orInvalidField ((Value.get key object).bind Value.asU64) = .ok n := by
    intro object key n hvalue hn
    rw [hvalue]
    exact orInvalidField_ok.mpr (if_pos hn)
  simp only [Carries, membersWith, textMembers, List.cons_append, List.nil_append, List.forall_mem_cons,
    List.not_mem_nil, false_imp_iff, implies_true, and_true] at hget
  obtain ⟨h01, h02, h03, h04, h05, h06, h07, h08, h09, h10, h11, h12, h13, h14, h15,
    h16, h17, h18, h19, h20, h21, h22, h23, h24, h25, h26, h27, h28, h29⟩ := hget
  have htexts : ((Value.object (p.membersWith tools)).get "github_tools").bind asStrings = some tools :=
    Option.bind_eq_some_iff.mpr ⟨_, h27, asStrings_map _⟩
  refine except_bind_ok.mpr ⟨_, orInvalidField_ok.mpr htexts, ?_⟩
  refine except_bind_ok.mpr ⟨_, string_ok.mpr h01, ?_⟩
  refine except_bind_ok.mpr ⟨_, hnumber h28 hattested, ?_⟩
  refine except_bind_ok.mpr ⟨_, string_ok.mpr h02, ?_⟩
  refine except_bind_ok.mpr ⟨_, string_ok.mpr h03, ?_⟩
  refine except_bind_ok.mpr ⟨_, string_ok.mpr h04, ?_⟩
  refine except_bind_ok.mpr ⟨_, string_ok.mpr h05, ?_⟩
  refine except_bind_ok.mpr ⟨_, string_ok.mpr h06, ?_⟩
  refine except_bind_ok.mpr ⟨_, string_ok.mpr h07, ?_⟩
  refine except_bind_ok.mpr ⟨_, string_ok.mpr h08, ?_⟩
  refine except_bind_ok.mpr ⟨_, string_ok.mpr h09, ?_⟩
  refine except_bind_ok.mpr ⟨_, string_ok.mpr h10, ?_⟩
  refine except_bind_ok.mpr ⟨_, string_ok.mpr h11, ?_⟩
  refine except_bind_ok.mpr ⟨_, string_ok.mpr h12, ?_⟩
  refine except_bind_ok.mpr ⟨_, string_ok.mpr h13, ?_⟩
  refine except_bind_ok.mpr ⟨_, string_ok.mpr h14, ?_⟩
  refine except_bind_ok.mpr ⟨_, hnumber h26 hchecked, ?_⟩
  refine except_bind_ok.mpr ⟨_, string_ok.mpr h15, ?_⟩
  refine except_bind_ok.mpr ⟨_, string_ok.mpr h16, ?_⟩
  refine except_bind_ok.mpr ⟨_, string_ok.mpr h17, ?_⟩
  refine except_bind_ok.mpr ⟨_, string_ok.mpr h18, ?_⟩
  refine except_bind_ok.mpr ⟨_, string_ok.mpr h19, ?_⟩
  refine except_bind_ok.mpr ⟨_, string_ok.mpr h20, ?_⟩
  refine except_bind_ok.mpr ⟨_, string_ok.mpr h21, ?_⟩
  refine except_bind_ok.mpr ⟨_, string_ok.mpr h22, ?_⟩
  refine except_bind_ok.mpr ⟨_, string_ok.mpr h29, ?_⟩
  refine except_bind_ok.mpr ⟨_, string_ok.mpr h23, ?_⟩
  refine except_bind_ok.mpr ⟨_, string_ok.mpr h24, ?_⟩
  refine except_bind_ok.mpr ⟨_, string_ok.mpr h25, ?_⟩
  rw [htools]
  rfl

theorem checkedAt_le (hvalid : p.validate sha256Hex = .ok ()) (hattested : p.attestedAtUnixSeconds ≤ u64Max) :
    p.githubMcpHealthCheckedAtUnixSeconds ≤ u64Max := by
  by_contra hlarge
  have hne : p.githubMcpHealthCheckedAtUnixSeconds ≠ p.attestedAtUnixSeconds := by omega
  simp [validate, hne] at hvalid

theorem parseCanonicalJson_membersWith {tools : List String} (hvalid : p.validate sha256Hex = .ok ())
    (hattested : p.attestedAtUnixSeconds ≤ u64Max) (htools : btreeSet tools = p.githubTools) :
    parseCanonicalJson sha256Hex (Value.object (p.membersWith tools)).render = .ok p := by
  have hchecked := checkedAt_le hvalid hattested
  have hparse : parse (Value.object (p.membersWith tools)).render = some (.object (p.membersWith tools)) :=
    ((membersWith_wf hattested hchecked tools).mono (by decide)).parse_render
  have hcount : memberCount (.object (p.membersWith tools)) = some 29 := by
    obtain ⟨ms, hms, hlength⟩ := object_members (p.membersWith_nodup tools)
    rw [hms]
    exact congrArg some hlength
  unfold parseCanonicalJson
  rw [hparse]
  dsimp only
  rw [if_neg (by simp), if_neg (by simp [hcount]), read_membersWith hattested hchecked htools]
  exact except_bind_ok.mpr ⟨p, rfl, except_bind_ok.mpr ⟨(), hvalid, rfl⟩⟩

theorem parseCanonicalJson_canonicalJson (hvalid : p.validate sha256Hex = .ok ())
    (hattested : p.attestedAtUnixSeconds ≤ u64Max) (htools : btreeSet p.githubTools = p.githubTools) :
    parseCanonicalJson sha256Hex p.canonicalJson = .ok p :=
  parseCanonicalJson_membersWith hvalid hattested htools

end Codeoff.Core.AttestedCapabilityProfile

namespace Codeoff.State

open Codeoff.Core Codeoff.Json Codeoff.Relational ScheduledPrepareAuthority

/-! ## 権限の文面 -/

structure ClaimedScheduledRun.InRange (claim : ClaimedScheduledRun) : Prop where
  attempt : inI64 claim.binding.attempt = true
  fence : inI64 claim.binding.fence = true
  coalescedThrough : inI64 claim.coalescedThrough = true
  jobGeneration : inI64 claim.jobGeneration = true
  scheduleGeneration : inI64 claim.scheduleGeneration = true
  scheduledFor : inI64 claim.scheduledFor = true
  capabilityVersion : claim.capability.schemaVersion < 2 ^ 32
  definitionVersion : claim.definition.version < 2 ^ 32
  /-- 方針の欄は、64 ビットまでの整数である。 -/
  policy : (policyValue claim.policy.1).readable 1 = true

variable {E : Env} {claim claim' : ClaimedScheduledRun} {nonce nonce' instruction task : String}
  {A A' : ScheduledPrepareAuthority}

def authorityObject (E : Env) (claim : ClaimedScheduledRun) (nonce instruction task : String) : Value :=
  .object [
    ("binding", .object [("attempt", .int claim.binding.attempt), ("fence", .int claim.binding.fence),
      ("job_id", .str claim.binding.jobId), ("lease_owner", .str claim.binding.leaseOwner),
      ("run_id", .str claim.binding.runId)]),
    ("capability_identity_digest", .str claim.capability.digest),
    ("claim", .object [("capability_schema_version", .int claim.capability.schemaVersion),
      ("coalesced_through", .int claim.coalescedThrough),
      ("definition_version", .int claim.definition.version),
      ("job_generation", .int claim.jobGeneration),
      ("schedule_generation", .int claim.scheduleGeneration),
      ("schedule_id", .str claim.scheduleId), ("scheduled_for", .int claim.scheduledFor)]),
    ("digests", .object [
      ("baseline", .str (framedSha256 E
        ["scheduled-baseline-v1", executionBaselineJson claim.executionBaseline])),
      ("capability", .str (framedSha256 E ["scheduled-capability-v1", claim.capability.canonicalJson])),
      ("definition", .str (framedSha256 E ["scheduled-definition-v1", claim.definition.canonicalJson])),
      ("instruction", .str (framedSha256 E ["scheduled-instruction-v1", instruction])),
      ("targets", .str (framedSha256 E ["scheduled-targets-v1", targetsJson claim.targets])),
      ("task", .str (framedSha256 E ["scheduled-agent-task-v1", task]))]),
    ("nonce", .str nonce), ("operational_policy", policyValue claim.policy.1),
    ("schema_version", .int 1)]

theorem policyValue_sorted (p : SchedulerOperationalPolicy) : (policyValue p).Sorted := by
  refine sorted_object (membersSorted_iff.mpr ?_)
  simp [Value.Sorted]

theorem i64_wf {n : Int} {depth : Nat} (h : inI64 n = true) : (Value.int n).Wf depth := by
  obtain ⟨hlow, hhigh⟩ := inI64_iff.mp h
  unfold i64Min at hlow
  unfold i64Max at hhigh
  exact wf_int (by omega) (by unfold u64Max; omega)

theorem u32_wf {n depth : Nat} (h : n < 2 ^ 32) : (Value.int n).Wf depth :=
  wf_int (by omega) (by unfold u64Max; omega)

theorem authorityObject_wf (hr : claim.InRange) (nonce instruction task : String) :
    (authorityObject E claim nonce instruction task).Wf 3 := by
  have hpolicy : (policyValue claim.policy.1).Wf 2 := ⟨policyValue_sorted _, readable_succ _ hr.policy⟩
  have hone : (Value.int 1).Wf 2 := u32_wf (n := 1) (by decide)
  refine Value.Wf.object ?_
  simp only [List.forall_mem_cons, List.not_mem_nil, false_imp_iff, implies_true, and_true]
  refine ⟨Value.Wf.object ?_, wf_str, Value.Wf.object ?_, Value.Wf.object ?_, wf_str, hpolicy, hone⟩
  · simp [i64_wf hr.attempt, i64_wf hr.fence]
  · simp [u32_wf hr.capabilityVersion, u32_wf hr.definitionVersion, i64_wf hr.coalescedThrough,
      i64_wf hr.jobGeneration, i64_wf hr.scheduleGeneration, i64_wf hr.scheduledFor]
  · simp

structure BuiltAuthority (E : Env) (claim : ClaimedScheduledRun) (nonce : String) (A : ScheduledPrepareAuthority) :
    Prop where
  sameNonce : A.nonce = nonce
  canonicalJson : A.canonicalJson = (authorityObject E claim nonce A.instruction
    (taskJson claim A.instruction A.previousSuccess A.previousSuccessWasTruncated)).render
  digest : A.digest = framedSha256 E ["scheduled-prepare-authority-v1", A.canonicalJson]
  untruncated : A.previousSuccess = none → A.previousSuccessWasTruncated = false

/-- 作られた権限の文面は、請求と nonce から一通りに決まる。 -/
theorem forClaim_built (h : forClaim E claim nonce = .ok A) : BuiltAuthority E claim nonce A := by
  unfold forClaim at h
  obtain ⟨_, _, h⟩ := except_bind_ok.mp h
  obtain ⟨_, _, h⟩ := except_bind_ok.mp h
  obtain ⟨_, _, h⟩ := except_bind_ok.mp h
  obtain ⟨_, _, h⟩ := except_bind_ok.mp h
  obtain ⟨_, _, h⟩ := except_bind_ok.mp h
  cases hparse : parse claim.definition.canonicalJson with
  | none => simp [hparse] at h
  | some definition =>
    cases hinstruction : instructionOf definition with
    | none => simp [hparse, hinstruction] at h
    | some instruction =>
      simp only [hparse, hinstruction] at h
      cases h
      refine ⟨rfl, rfl, rfl, fun hnone => ?_⟩
      simp only [Option.map_eq_none_iff] at hnone
      simp [hnone]

theorem BuiltAuthority.parse (h : BuiltAuthority E claim nonce A) (hr : claim.InRange) :
    ∃ authority, Json.parse A.canonicalJson = some authority ∧ authority.render = A.canonicalJson ∧ authority.Wf 3 := by
  have hwf := authorityObject_wf (E := E) hr nonce A.instruction
    (taskJson claim A.instruction A.previousSuccess A.previousSuccessWasTruncated)
  refine ⟨_, ?_, h.canonicalJson.symm, hwf⟩
  rw [h.canonicalJson]
  exact (hwf.mono (by decide)).parse_render

theorem framedBytes_inj {label a b : String} (h : framedBytes [label, a] = framedBytes [label, b]) : a = b := by
  simp only [framedBytes, List.flatMap_cons, List.flatMap_nil, List.append_nil] at h
  have hrest := List.append_cancel_left h
  have hlength : (beBytes (byteLen a)).length = (beBytes (byteLen b)).length := by simp [beBytes]
  exact utf8Bytes_inj.mp (List.append_inj_right hrest hlength)

def taskObject (claim : ClaimedScheduledRun) (instruction : String) (previous : Option String) (truncated : Bool) :
    Value :=
  .object [("channel", .null), ("feedback_target", .null),
    ("instruction", .str instruction),
    ("previous_success", previousSuccessValue previous truncated),
    ("principal", .object [("kind", .str "service"), ("service", .str "codeoff-scheduler")]),
    ("session", .str "fresh"),
    ("source", .object [("job_id", .str claim.binding.jobId), ("kind", .str "scheduled_run"),
      ("run_id", .str claim.binding.runId),
      ("scheduled_for", .str (toString claim.scheduledFor))]),
    ("task_id", .str (scheduledTaskId claim.binding)), ("tool_policy", .str "none")]

theorem taskObject_wf (instruction : String) (previous : Option String) (truncated : Bool) :
    (taskObject claim instruction previous truncated).Wf 2 := by
  have hprevious : (previousSuccessValue previous truncated).Wf 1 := by
    cases previous with
    | none => exact wf_null
    | some content => exact Value.Wf.object (by simp)
  have hprincipal : (Value.object [("kind", .str "service"), ("service", .str "codeoff-scheduler")]).Wf 1 :=
    Value.Wf.object (by simp)
  have hsource : (Value.object [("job_id", .str claim.binding.jobId), ("kind", .str "scheduled_run"),
      ("run_id", .str claim.binding.runId), ("scheduled_for", .str (toString claim.scheduledFor))]).Wf 1 :=
    Value.Wf.object (by simp)
  refine Value.Wf.object ?_
  simp only [List.forall_mem_cons, List.not_mem_nil, false_imp_iff, implies_true, and_true]
  exact ⟨wf_null, wf_null, wf_str, hprevious, hprincipal, wf_str, hsource, wf_str, wf_str⟩

def authorityTexts (claim : ClaimedScheduledRun) (A : ScheduledPrepareAuthority) : Set (List UInt8) :=
  {framedBytes ["scheduled-instruction-v1", A.instruction], framedBytes ["scheduled-agent-task-v1",
    taskJson claim A.instruction A.previousSuccess A.previousSuccessWasTruncated]}

theorem previousSuccessValue_inj {previous previous' : Option String} {truncated truncated' : Bool}
    (h : previousSuccessValue previous truncated = previousSuccessValue previous' truncated')
    (hu : previous = none → truncated = false) (hu' : previous' = none → truncated' = false) :
    previous = previous' ∧ truncated = truncated' := by
  cases previous with
  | none =>
    cases previous' with
    | none => exact ⟨rfl, (hu rfl).trans (hu' rfl).symm⟩
    | some content' => cases h
  | some content =>
    cases previous' with
    | none => cases h
    | some content' =>
      have hcontent := congrArg (Value.get "content") h
      have htruncated := congrArg (Value.get "was_truncated") h
      simp [previousSuccessValue, Value.ofOption, get_object] at hcontent htruncated
      exact ⟨congrArg some hcontent, htruncated⟩

/-- 文面の同じ二つの権限は等しい。指示と作業は要約だけが文面にあるので、要約の単射を使う。 -/
theorem BuiltAuthority.unique (h : BuiltAuthority E claim nonce A) (h' : BuiltAuthority E claim' nonce' A')
    (hr : claim.InRange) (hr' : claim'.InRange) (hsame : A.canonicalJson = A'.canonicalJson)
    (hinj : Set.InjOn E.sha256Hex (authorityTexts claim A ∪ authorityTexts claim' A')) : A = A' := by
  have hvalue : authorityObject E claim nonce A.instruction
      (taskJson claim A.instruction A.previousSuccess A.previousSuccessWasTruncated) =
      authorityObject E claim' nonce' A'.instruction
        (taskJson claim' A'.instruction A'.previousSuccess A'.previousSuccessWasTruncated) := by
    refine render_inj (authorityObject_wf hr _ _ _).sorted ((authorityObject_wf hr' _ _ _).mono (by decide)) ?_
    rw [← h.canonicalJson, ← h'.canonicalJson, hsame]
  have hnonce := congrArg (Value.get "nonce") hvalue
  have hinstruction := congrArg (Value.pointer ["digests", "instruction"]) hvalue
  have htask := congrArg (Value.pointer ["digests", "task"]) hvalue
  simp [authorityObject, get_object, Value.pointer] at hnonce hinstruction htask
  obtain hinstruction := framedBytes_inj (hinj (by simp [authorityTexts]) (by simp [authorityTexts]) hinstruction)
  obtain htask := framedBytes_inj (hinj (by simp [authorityTexts]) (by simp [authorityTexts]) htask)
  have hobject : taskObject claim A.instruction A.previousSuccess A.previousSuccessWasTruncated =
      taskObject claim' A'.instruction A'.previousSuccess A'.previousSuccessWasTruncated :=
    render_inj (taskObject_wf _ _ _).sorted ((taskObject_wf _ _ _).mono (by decide)) htask
  have hprevious := congrArg (Value.get "previous_success") hobject
  simp [taskObject, get_object] at hprevious
  obtain ⟨hcontent, htruncated⟩ := previousSuccessValue_inj hprevious h.untruncated h'.untruncated
  have hdigest : A.digest = A'.digest := by rw [h.digest, h'.digest, hsame]
  have hsameNonce : A.nonce = A'.nonce := by rw [h.sameNonce, h'.sameNonce, hnonce]
  cases A
  cases A'
  simp only [ScheduledPrepareAuthority.mk.injEq]
  exact ⟨hsameNonce, hsame, hdigest, hinstruction, hcontent, htruncated⟩

end Codeoff.State
