import Codeoff.State.Lemmas.Completion

/-!
# 配送の準備と貸与の補題

配送の操作が、どれも決まった形の効果の並びであること。
-/

namespace Codeoff.State

open Codeoff.Core Codeoff.Relational

variable {E : Env} {s s' : Store} {u : Unit} {now at_ : Int} {k : Origin}

theorem updateDeliveries_effect {kind : DeliveryUpdateKind} {p : ScheduledDeliveryRow → Bool}
    {f : ScheduledDeliveryRow → ScheduledDeliveryRow} {n : Nat}
    (hchange : ∀ d ∈ s.deliveries.rows, p d = true → DeliveryChange E k s d (f d))
    (h : updateDeliveries kind p f s = .ok (n, s')) : Effect E now k s s' := by
  obtain ⟨D, hD, _, rfl⟩ := updateDeliveries_ok.mp h
  exact .delivery hD.toRewrites hchange (.inl rfl)

theorem deliveries_replaces {p : ScheduledDeliveryRow → Bool}
    {f : ScheduledDeliveryRow → ScheduledDeliveryRow} {D : Table scheduledRunDeliveries}
    (deliveryId : String) (hD : s.deliveries.Rewrites p f D)
    (hp : ∀ d, p d = true → d.deliveryId = deliveryId) {d : ScheduledDeliveryRow}
    (hd : d ∈ s.deliveries.rows) (hpd : p d = true) : s.deliveries.Replaces d (f d) D := by
  refine hD.replaces hd hpd ?_
  intro o ho hpo
  exact s.deliveries.eq_of_conflict ho hd (by simp [scheduledRunDeliveries, hp o hpo, hp d hpd])

theorem eq_of_deliveryId {d o : ScheduledDeliveryRow} (hd : d ∈ s.deliveries.rows)
    (ho : o ∈ s.deliveries.rows) (h : o.deliveryId = d.deliveryId) : o = d :=
  s.deliveries.eq_of_conflict ho hd (by simp [scheduledRunDeliveries, h])

/-! ## 受け入れた基準 -/

theorem upsertDeliveryBaseline_others {row : DeliveryBaselineRow} {expected : Int} {done : Bool}
    (h : upsertDeliveryBaseline row expected s = .ok (done, s')) :
    ∃ B, s' = { s with deliveryBaselines := B } ∧ ∀ key, row.key ≠ key →
      B.rows.find? (·.key == key) = s.deliveryBaselines.rows.find? (·.key == key) := by
  unfold upsertDeliveryBaseline at h
  rw [Tx.read_bind_apply] at h
  cases hfind : s.deliveryBaselines.rows.find? fun b => b.key == row.key with
  | none =>
    rw [hfind] at h
    dsimp only at h
    split at h
    · cases h
      exact ⟨s.deliveryBaselines, rfl, fun _ _ => rfl⟩
    · obtain ⟨_, s1, h1, h⟩ := Tx.bind_ok.mp h
      obtain ⟨B, hB, rfl⟩ := statement_insert_ok.mp h1
      cases h
      refine ⟨B, rfl, ?_⟩
      intro key hkey
      rw [hB.rows, List.find?_append]
      simp [hkey]
  | some b =>
    rw [hfind] at h
    dsimp only at h
    split at h
    · cases h
      exact ⟨s.deliveryBaselines, rfl, fun _ _ => rfl⟩
    · obtain ⟨n, s1, h1, h⟩ := Tx.bind_ok.mp h
      obtain ⟨B, hB, _, rfl⟩ := statement_update_ok.mp h1
      cases h
      refine ⟨B, rfl, ?_⟩
      intro key hkey
      exact hB.find? (fun o ho => by
        rw [beq_iff_eq.mp ho]
        simpa using hkey) (fun _ _ => beq_eq_false_iff_ne.mpr hkey)

theorem advanceAcceptedDeliveryBaseline_ok {deliveryId : String} {done : Bool}
    (h : advanceAcceptedDeliveryBaseline deliveryId at_ s = .ok (done, s')) :
    ∃ d ∈ s.deliveries.rows, d.deliveryId = deliveryId ∧ ∃ B, AdvancesOnly s d.baselineKey B ∧
      s' = { s with deliveryBaselines := B } := by
  unfold advanceAcceptedDeliveryBaseline at h
  rw [Tx.read_bind_apply, Tx.read_bind_apply] at h
  obtain ⟨expected, hexpected, h⟩ := Tx.orElseFail_bind_ok.mp h
  obtain ⟨d, hd, hexpected⟩ := Option.bind_eq_some_iff.mp hexpected
  rw [Tx.read_bind_apply] at h
  rw [hd] at h
  have hmem := List.mem_of_find?_eq_some hd
  have hid : d.deliveryId = deliveryId := by simpa using List.find?_some hd
  refine ⟨d, hmem, hid, ?_⟩
  have hkept : ∃ B, AdvancesOnly s d.baselineKey B ∧ s = { s with deliveryBaselines := B } :=
    ⟨s.deliveryBaselines, fun _ _ => rfl, rfl⟩
  cases hp : d.payload with
  | none =>
    simp only [hp, Option.bind_eq_bind, Option.bind_some, Option.bind_none] at h
    cases h
    exact hkept
  | some p =>
    simp only [hp, Option.bind_eq_bind, Option.bind_some] at h
    cases ha : s.artifacts.rows.find? fun a => a.artifactId == d.resultArtifactId && a.runId == d.runId
        && a.jobId == d.jobId with
    | none =>
      rw [ha] at h
      cases h
      exact hkept
    | some a =>
      rw [ha] at h
      obtain ⟨B, rfl, hothers⟩ := upsertDeliveryBaseline_others h
      refine ⟨B, ?_, rfl⟩
      intro key hkey
      refine hothers key fun heq => hkey ?_
      rw [ScheduledDeliveryRow.baselineKey, hp, ← heq]
      rfl

theorem advanceIf_ok {accepted : Bool} {deliveryId : String}
    (h : advanceIf accepted deliveryId at_ s = .ok (u, s')) :
    ∃ B, s' = { s with deliveryBaselines := B } ∧ (B = s.deliveryBaselines ∨
      (accepted = true ∧ ∃ d ∈ s.deliveries.rows, d.deliveryId = deliveryId ∧
        AdvancesOnly s d.baselineKey B)) := by
  unfold advanceIf at h
  split at h
  · rename_i haccepted
    obtain ⟨_, s1, h1, h⟩ := Tx.bind_ok.mp h
    rw [(Tx.require_ok.mp h).2]
    obtain ⟨d, hd, hid, B, hB, rfl⟩ := advanceAcceptedDeliveryBaseline_ok h1
    exact ⟨B, rfl, .inr ⟨haccepted, d, hd, hid, hB⟩⟩
  · cases h
    exact ⟨s.deliveryBaselines, rfl, .inl rfl⟩

theorem consumeAll_effect {kind : OperatorTargetKind} {targetId : String}
    {actions : List OperatorActionRow} (h : consumeAll kind targetId at_ actions s = .ok (u, s')) :
    SameCore s s' := by
  induction actions generalizing s with
  | nil =>
    cases h
    exact .refl _
  | cons a as ih =>
    obtain ⟨_, s1, h1, h⟩ := Tx.bind_ok.mp h
    obtain ⟨T, _, rfl⟩ := statement_insert_ok.mp h1
    obtain ⟨g1, g2, g3, g4, g5, g6, g7, g8, g9, g10, g11, g12, g13, g14⟩ := ih h
    exact ⟨g1, g2, g3, g4, g5, g6, g7, g8, g9, g10, g11, g12, g13, g14⟩

theorem afterDeliveryRetry_effect {d : ScheduledDeliveryRow}
    (h : afterDeliveryRetry d at_ s = .ok (u, s')) : SameCore s s' := by
  unfold afterDeliveryRetry at h
  rw [Tx.read_bind_apply] at h
  obtain ⟨_, h⟩ := Tx.require_bind_ok.mp h
  exact consumeAll_effect h

theorem afterRequeue_effect {rows : List ScheduledDeliveryRow} (h : afterRequeue rows s = .ok (u, s')) :
    SameCore s s' := by
  induction rows generalizing s with
  | nil =>
    cases h
    exact .refl _
  | cons d ds ih =>
    obtain ⟨_, s1, h1, h⟩ := Tx.bind_ok.mp h
    exact (afterDeliveryRetry_effect h1).trans (ih h)

theorem validateText_ok {field value : String} :
    validateText field value = .ok () ↔ value ≠ "" ∧ byteLen value ≤ maxContextBytes := by
  unfold validateText
  split
  · rename_i h
    simp [h]
  · rename_i h
    split
    · rename_i hlen
      simp only [reduceCtorEq, false_iff, not_and]
      intro _ hle
      omega
    · rename_i hlen
      simp [h]
      omega

/-- 本文は、まだない行に一度だけ書かれる。 -/
theorem freezePayload_effect {d : ScheduledDeliveryRow} {contentType body : String}
    {renderVersion : Nat} {policy : SkippedNoneBaselinePolicy} {prepared : PreparedScheduledDelivery}
    (hd : d ∈ s.deliveries.rows) (hfresh : d.payload = none)
    (h : freezePayload E d contentType body renderVersion at_ policy s = .ok (prepared, s')) :
    Effect E now (.prepare d.deliveryId renderVersion (policy == .accept)) s s' := by
  unfold freezePayload at h
  obtain ⟨hpending, h⟩ := Tx.require_bind_ok.mp h
  rw [beq_iff_eq] at hpending
  rw [Tx.read_bind_apply] at h
  obtain ⟨n, s1, h1, h⟩ := Tx.bind_ok.mp h
  obtain ⟨D, hD, rfl, rfl⟩ := updateDeliveries_ok.mp h1
  obtain ⟨_, h⟩ := Tx.require_bind_ok.mp h
  obtain ⟨_, s2, h2, h⟩ := Tx.bind_ok.mp h
  obtain ⟨_, hvalid, h⟩ := Tx.check_bind_ok.mp h
  cases h
  obtain ⟨B, rfl, hB⟩ := advanceIf_ok h2
  refine .delivery hD.toRewrites ?_ ?_
  · intro o hmem ho
    simp only [Bool.and_eq_true, beq_iff_eq, Option.isNone_iff_eq_none] at ho
    obtain rfl := eq_of_deliveryId hd hmem ho.1.1
    refine .prepared ho.1.2 ho.2 ?_
    simpa [payloadFromRow] using hvalid
  · rcases hB with rfl | ⟨haccepted, o, ho, hoid, hB⟩
    · exact .inl rfl
    · rw [Bool.and_eq_true, beq_iff_eq] at haccepted
      -- 受け入れの元の行は、いま本文を書いた行である。
      have hnew := hD.toRewrites.mem_image hd (by simp [hpending, hfresh])
      obtain rfl := D.eq_of_conflict ho hnew (by simp [scheduledRunDeliveries, hoid, preparedRow])
      exact .inr ⟨hd, ⟨hpending, hfresh, haccepted.1⟩, by rw [haccepted.2], hB⟩

theorem prepareScheduledDelivery_effects {deliveryId contentType body : String} {renderVersion : Nat}
    {policy : SkippedNoneBaselinePolicy} {prepared : PreparedScheduledDelivery}
    (h : prepareScheduledDelivery E deliveryId contentType body renderVersion at_ policy s =
      .ok (prepared, s')) :
    Relation.ReflTransGen (Effect E now (.prepare deliveryId renderVersion (policy == .accept))) s s' := by
  unfold prepareScheduledDelivery at h
  obtain ⟨_, _, h⟩ := Tx.check_bind_ok.mp h
  rw [Tx.read_bind_apply] at h
  obtain ⟨d, hfind, h⟩ := Tx.orElseFail_bind_ok.mp h
  cases hp : d.payload with
  | some p =>
    rw [hp] at h
    rw [(Tx.check_ok.mp h).2]
  | none =>
    rw [hp] at h
    have hid : d.deliveryId = deliveryId := by
      have hfound := List.find?_some hfind
      simp only [Bool.and_eq_true, beq_iff_eq] at hfound
      exact hfound.1
    rw [← hid]
    exact .single (freezePayload_effect (List.mem_of_find?_eq_some hfind) hp h)

/-! ## 下見と、権限による書き換え -/

theorem terminalizeOverdue_effect {a : ScheduledDeliveryAuthority}
    (ha : a.sourceState = .pending ∨ a.sourceState = .failedRetryable)
    (h : terminalizeOverdue a at_ s = .ok (u, s')) : Effect E now .queue s s' := by
  obtain ⟨_, s1, h1, h⟩ := Tx.bind_ok.mp h
  cases h
  refine updateDeliveries_effect ?_ h1
  intro d _ hd
  simp only [Bool.and_eq_true, beq_iff_eq] at hd
  exact .failed (hd.2 ▸ ha) rfl ⟨rfl, rfl, rfl, rfl, rfl, rfl⟩

def rowAuthority (E : Env) (d : ScheduledDeliveryRow) (p : DeliveryPayloadSnapshot) :
    ScheduledDeliveryAuthority where
  deliveryId := d.deliveryId
  sourceState := d.state
  targetJson := targetJson d.target
  targetDigest := d.targetSnapshotDigest
  payloadDigest := p.digest
  bindingDigest := E.sha256Hex (utf8Bytes d.intentKey)
  intentKey := d.intentKey
  payloadCreatedAt := p.createdAt
  policy := d.policy

/-- 待ち行列に示される権限は、行から一通りに決まる。 -/
theorem authorityFromRow_ok {d : ScheduledDeliveryRow} {p : DeliveryPayloadSnapshot}
    {a : ScheduledDeliveryAuthority} :
    authorityFromRow E d p = .ok a ↔
      (d.state = .pending ∨ d.state = .failedRetryable) ∧ validateTargetSnapshot E d = .ok () ∧
        isLowercaseSha256 p.digest = true ∧ a = rowAuthority E d p := by
  have hdigest : ∀ u, invalidValue (validateLowercaseSha256 "scheduled delivery readiness payload digest"
      p.digest) = .ok u ↔ isLowercaseSha256 p.digest = true := by
    intro u
    rw [invalidValue_ok, validateLowercaseSha256]
    split <;> simp [*]
  unfold authorityFromRow
  refine reject_ok.trans (and_congr (by tauto) ?_)
  constructor
  · intro h
    obtain ⟨_, hsnapshot, h⟩ := except_bind_ok.mp h
    obtain ⟨_, hlower, h⟩ := except_bind_ok.mp h
    cases h
    exact ⟨hsnapshot, (hdigest _).mp hlower, rfl⟩
  · rintro ⟨hsnapshot, hlower, rfl⟩
    exact except_bind_ok.mpr ⟨(), hsnapshot, except_bind_ok.mpr ⟨(), (hdigest ()).mpr hlower, rfl⟩⟩

theorem peekScheduledDeliveryWork_effects {work : ScheduledDeliveryWork}
    (h : peekScheduledDeliveryWork E at_ s = .ok (work, s')) :
    Relation.ReflTransGen (Effect E now .queue) s s' := by
  unfold peekScheduledDeliveryWork at h
  obtain ⟨_, h⟩ := Tx.require_bind_ok.mp h
  rw [Tx.read_bind_apply] at h
  cases hhead : (deliveryHead s at_).bind fun d => d.payload.map (d, ·) with
  | none =>
    rw [hhead] at h
    cases h
    exact .refl
  | some pair =>
    obtain ⟨d, p⟩ := pair
    rw [hhead] at h
    obtain ⟨a, ha, h⟩ := Tx.check_bind_ok.mp h
    obtain ⟨hstate, _, _, rfl⟩ := authorityFromRow_ok.mp ha
    split at h
    · obtain ⟨_, s1, h1, h⟩ := Tx.bind_ok.mp h
      cases h
      exact .single (terminalizeOverdue_effect hstate h1)
    · rw [Tx.read_bind_apply] at h
      cases h
      exact .refl

theorem skipScheduledDeliveryUnchanged_effect {a : ScheduledDeliveryAuthority} {done : Bool}
    (h : skipScheduledDeliveryUnchanged E a at_ s = .ok (done, s')) : Effect E now .queue s s' := by
  unfold skipScheduledDeliveryUnchanged at h
  obtain ⟨_, _, h⟩ := Tx.check_bind_ok.mp h
  obtain ⟨_, h⟩ := Tx.require_bind_ok.mp h
  rw [Tx.read_bind_apply] at h
  obtain ⟨n, s1, h1, h⟩ := Tx.bind_ok.mp h
  cases h
  refine updateDeliveries_effect ?_ h1
  intro d _ hd
  simp only [Bool.and_eq_true, beq_iff_eq] at hd
  exact .skipped rfl hd.1.1.1.1.2 hd.2 rfl ⟨rfl, rfl, rfl, rfl, rfl, rfl⟩

theorem ScheduledDeliveryAuthority.validate_ok {a : ScheduledDeliveryAuthority} {v : Unit}
    (h : a.validate E = .ok v) : a.sourceState = .pending ∨ a.sourceState = .failedRetryable := by
  unfold ScheduledDeliveryAuthority.validate at h
  cases hid : validateText "scheduled delivery authority id" a.deliveryId with
  | error e => rw [hid] at h; cases h
  | ok w =>
    rw [hid] at h
    by_contra hne
    rw [not_or] at hne
    simp [invalidValue, invalidState, bind, Except.bind, hne] at h

theorem rejectScheduledDeliveryReadiness_effect {a : ScheduledDeliveryAuthority} {errorKind : String}
    {done : Bool} (h : rejectScheduledDeliveryReadiness E a errorKind at_ s = .ok (done, s')) :
    Effect E now .queue s s' := by
  unfold rejectScheduledDeliveryReadiness at h
  obtain ⟨_, hvalid, h⟩ := Tx.check_bind_ok.mp h
  obtain ⟨_, _, h⟩ := Tx.check_bind_ok.mp h
  obtain ⟨_, h⟩ := Tx.require_bind_ok.mp h
  obtain ⟨n, s1, h1, h⟩ := Tx.bind_ok.mp h
  cases h
  refine updateDeliveries_effect ?_ h1
  intro d _ hd
  simp only [Bool.and_eq_true, beq_iff_eq] at hd
  exact .failed (hd.1.1.2 ▸ ScheduledDeliveryAuthority.validate_ok hvalid) rfl
    ⟨rfl, rfl, rfl, rfl, rfl, rfl⟩

/-! ## 貸与 -/

theorem terminalizeExactDelivery_effect {a : ScheduledDeliveryAuthority}
    {source : ScheduledDeliveryState} {done : Bool}
    (hsource : source = .pending ∨ source = .failedRetryable)
    (h : terminalizeExactDelivery a source at_ s = .ok (done, s')) : Effect E now .queue s s' := by
  obtain ⟨n, s1, h1, h⟩ := Tx.bind_ok.mp h
  cases h
  refine updateDeliveries_effect ?_ h1
  intro d _ hd
  simp only [Bool.and_eq_true, beq_iff_eq] at hd
  exact .failed (hd.1.1.2 ▸ hsource) rfl ⟨rfl, rfl, rfl, rfl, rfl, rfl⟩

theorem requeueExactRetryableDelivery_effects {a : ScheduledDeliveryAuthority} {done : Bool}
    (h : requeueExactRetryableDelivery a at_ s = .ok (done, s')) :
    Relation.ReflTransGen (Effect E now .queue) s s' := by
  unfold requeueExactRetryableDelivery at h
  obtain ⟨ended, s1, h1, h⟩ := Tx.bind_ok.mp h
  have hend : Effect E now .queue s s1 := terminalizeExactDelivery_effect (.inr rfl) h1
  split at h
  · cases h
    exact .single hend
  rw [Tx.read_bind_apply] at h
  obtain ⟨n, s2, h2, h⟩ := Tx.bind_ok.mp h
  have hrequeue : Effect E now .queue s1 s2 := by
    refine updateDeliveries_effect ?_ h2
    intro d _ hd
    simp only [Bool.and_eq_true, beq_iff_eq] at hd
    exact .requeued hd.1.1.1.1.1.1.2 rfl rfl ⟨rfl, rfl, rfl, rfl, rfl, rfl⟩
  obtain ⟨_, s3, h3, h⟩ := Tx.bind_ok.mp h
  have hafter : Effect E now .queue s2 s3 := .aside (afterRequeue_effect h3)
  have hall := ((Relation.ReflTransGen.single hend).tail hrequeue).tail hafter
  split at h
  · cases h
    exact hall
  · rw [Tx.read_bind_apply] at h
    obtain ⟨_, h⟩ := Tx.require_bind_ok.mp h
    cases h
    exact hall

/-- 貸与は、待っている行と新しい試行を一度に書く。同じ宛先の送信中の行があれば通らない。 -/
theorem leaseDelivery_effect {leaseOwner : String} {leaseExpiresAt : Int} {d : ScheduledDeliveryRow}
    {p : DeliveryPayloadSnapshot} {claimed : ClaimedScheduledDelivery} (hd : d ∈ s.deliveries.rows)
    (howner : validateText "scheduled delivery lease owner" leaseOwner = .ok ()) (htime : 0 ≤ at_)
    (hpending : d.state = .pending) (hp : d.payload = some p) (halone : activeSibling s d = false)
    (hchanged : unchangedBaseline s d = none)
    (h : leaseDelivery E leaseOwner leaseExpiresAt at_ d p s = .ok (claimed, s')) :
    Effect E now .queue s s' := by
  unfold leaseDelivery at h
  rw [Tx.read_bind_apply] at h
  obtain ⟨n, s1, h1, h⟩ := Tx.bind_ok.mp h
  obtain ⟨D, hD, _, rfl⟩ := updateDeliveries_ok.mp h1
  obtain ⟨_, s2, h2, h⟩ := Tx.bind_ok.mp h
  obtain ⟨A, hA, rfl⟩ := insertDeliveryAttempt_ok.mp h2
  obtain ⟨_, _, h⟩ := Tx.check_bind_ok.mp h
  obtain ⟨_, _, h⟩ := Tx.check_bind_ok.mp h
  cases h
  refine .sent howner htime hpending (by simp [hp]) halone hchanged ?_ hA.toAppends
  exact deliveries_replaces d.deliveryId hD.toRewrites (fun o ho => beq_iff_eq.mp ho) hd (by simp)

theorem claimExactDelivery_effects {a : ScheduledDeliveryAuthority} {leaseOwner : String}
    {observedNow claimNow commitNow : Int}
    {outcome : Option (Except StateError (Option ClaimedScheduledDelivery))}
    (howner : validateText "scheduled delivery lease owner" leaseOwner = .ok ()) (htime : 0 ≤ claimNow)
    (hsource : a.sourceState = .pending ∨ a.sourceState = .failedRetryable)
    (h : claimExactDelivery E a leaseOwner observedNow claimNow commitNow s = .ok (outcome, s')) :
    Relation.ReflTransGen (Effect E now .queue) s s' := by
  unfold claimExactDelivery at h
  obtain ⟨ended, s1, h1, h⟩ := Tx.bind_ok.mp h
  have hend : Effect E now .queue s s1 := terminalizeExactDelivery_effect hsource h1
  split at h
  · cases h
    exact .single hend
  obtain ⟨ready, s2, h2, h⟩ := Tx.bind_ok.mp h
  have hrequeue : Relation.ReflTransGen (Effect E now .queue) s1 s2 := by
    unfold requeueFirst at h2
    split at h2
    · exact requeueExactRetryableDelivery_effects h2
    · cases h2
      exact .refl
  have hfirst := Relation.ReflTransGen.head hend hrequeue
  split at h
  · cases h
    exact hfirst
  obtain ⟨leaseExpiresAt, _, h⟩ := Tx.orElseFail_bind_ok.mp h
  rw [Tx.read_bind_apply] at h
  cases hfound : (s2.deliveries.rows.find? (claimableDelivery s2 a claimNow)).bind
      fun d => d.payload.bind fun p => some (d, p) with
  | none =>
    have hfound' : (do
      let d ← s2.deliveries.rows.find? (claimableDelivery s2 a claimNow)
      let p ← d.payload
      return (d, p) : Option (ScheduledDeliveryRow × DeliveryPayloadSnapshot)) = none := hfound
    rw [hfound'] at h
    obtain ⟨ended', s3, h3, h⟩ := Tx.bind_ok.mp h
    have hend' : Effect E now .queue s2 s3 := terminalizeExactDelivery_effect (.inl rfl) h3
    split at h
    · cases h
      exact hfirst.tail hend'
    · rw [Tx.read_bind_apply] at h
      cases h
      exact hfirst.tail hend'
  | some pair =>
    obtain ⟨d, p⟩ := pair
    have hfound' : (do
      let d ← s2.deliveries.rows.find? (claimableDelivery s2 a claimNow)
      let p ← d.payload
      return (d, p) : Option (ScheduledDeliveryRow × DeliveryPayloadSnapshot)) = some (d, p) := hfound
    rw [hfound'] at h
    obtain ⟨o, ho, hbind⟩ := Option.bind_eq_some_iff.mp hfound
    obtain ⟨q, hq, heq⟩ := Option.bind_eq_some_iff.mp hbind
    cases heq
    have hclaim := List.find?_some ho
    unfold claimableDelivery at hclaim
    simp only [Bool.and_eq_true, beq_iff_eq] at hclaim
    obtain ⟨claimed, s3, h3, h⟩ := Tx.bind_ok.mp h
    have hlease : Effect E now .queue s2 s3 := leaseDelivery_effect (List.mem_of_find?_eq_some ho)
      howner htime hclaim.1.1.1.1.1.1.1.2 hq (by simpa using hclaim.1.2)
      (Option.isNone_iff_eq_none.mp hclaim.2) h3
    split at h
    · cases h
      exact hfirst.tail hlease
    · cases h
      exact hfirst.tail hlease

/-- 名指した行の取得は、戻すことと貸与することの効果の列である。 -/
theorem claimScheduledDelivery_effects {a : ScheduledDeliveryAuthority} {leaseOwner : String}
    {first second third : Int} {outcome : Except StateError (Option ClaimedScheduledDelivery)}
    (h : claimScheduledDelivery E a leaseOwner at_ first second third s = .ok (outcome, s')) :
    Relation.ReflTransGen (Effect E now .queue) s s' := by
  unfold claimScheduledDelivery at h
  obtain ⟨_, howner, h⟩ := Tx.check_bind_ok.mp h
  obtain ⟨_, hvalid, h⟩ := Tx.check_bind_ok.mp h
  have hsource := ScheduledDeliveryAuthority.validate_ok hvalid
  obtain ⟨htime, h⟩ := Tx.require_bind_ok.mp h
  rcases Tx.orRestart_ok.mp h with h | ⟨_, h⟩
  · refine claimExactDelivery_effects (invalidValue_ok.mp howner) ?_ hsource h
    exact le_max_of_le_right (le_max_of_le_right (of_decide_eq_true htime))
  · unfold abandonClaim at h
    split at h
    · obtain ⟨_, s1, h1, h⟩ := Tx.bind_ok.mp h
      cases h
      exact .single (terminalizeExactDelivery_effect hsource h1)
    · cases h
      exact .refl

theorem oldestPending_eq_some {p : ScheduledDeliveryRow → Bool} {d : ScheduledDeliveryRow}
    (h : oldestPending s at_ p = some d) :
    d ∈ s.deliveries.rows ∧ d.state = .pending ∧ activeSibling s d = false := by
  obtain ⟨hmem, hd⟩ := List.mem_filter.mp (first_mem h)
  simp only [Bool.and_eq_true, beq_iff_eq] at hd
  exact ⟨hmem, hd.1.1.1.1, by simpa using hd.1.2⟩

theorem claimNextScheduledDelivery_effect {leaseOwner : String} {leaseExpiresAt : Int}
    {outcome : Except StateError (Option ClaimedScheduledDelivery)}
    (h : claimNextScheduledDelivery E leaseOwner at_ leaseExpiresAt s = .ok (outcome, s')) :
    Effect E now .queue s s' := by
  unfold claimNextScheduledDelivery at h
  obtain ⟨_, howner, h⟩ := Tx.check_bind_ok.mp h
  obtain ⟨htime, h⟩ := Tx.require_bind_ok.mp h
  rw [Bool.and_eq_true, decide_eq_true_eq] at htime
  rw [Tx.read_bind_apply] at h
  dsimp only [id] at h
  cases hhead : (oldestPending s at_ fun _ => true).filter fun d => (unchangedBaseline s d).isSome with
  | some d =>
    rw [hhead] at h
    obtain ⟨hold, hunchanged⟩ := Option.filter_eq_some_iff.mp hhead
    obtain ⟨hmem, hpending, _⟩ := oldestPending_eq_some hold
    obtain ⟨n, s1, h1, h⟩ := Tx.bind_ok.mp h
    cases h
    refine updateDeliveries_effect ?_ h1
    intro o ho hid
    rw [eq_of_deliveryId hmem ho (beq_iff_eq.mp hid)]
    exact .skipped rfl hpending hunchanged rfl ⟨rfl, rfl, rfl, rfl, rfl, rfl⟩
  | none =>
    rw [hhead] at h
    dsimp only at h
    cases hnext : ((oldestPending s at_ fun d => d.attempt < i64Max && d.fence < i64Max).filter
        fun d => (unchangedBaseline s d).isNone).bind fun d => d.payload.map (d, ·) with
    | some pair =>
      obtain ⟨d, p⟩ := pair
      rw [hnext] at h
      obtain ⟨o, ho, hmap⟩ := Option.bind_eq_some_iff.mp hnext
      obtain ⟨q, hq, heq⟩ := Option.map_eq_some_iff.mp hmap
      cases heq
      obtain ⟨hold, hchanged⟩ := Option.filter_eq_some_iff.mp ho
      obtain ⟨hmem, hpending, halone⟩ := oldestPending_eq_some hold
      obtain ⟨_, s1, h1, h⟩ := Tx.bind_ok.mp h
      cases h
      exact leaseDelivery_effect hmem (invalidValue_ok.mp howner) htime.1 hpending hq halone
        (Option.isNone_iff_eq_none.mp hchanged) h1
    | none =>
      rw [hnext] at h
      dsimp only at h
      rw [Tx.read_bind_apply] at h
      cases h
      exact .aside (.refl s)

end Codeoff.State
