import Codeoff.Runtime.Lemmas.BrokerThreads

/-!
# 予約の排他

登録、解除、予約、許しの発行、段階の前進、解放、貸与の破棄が、いくつのセッションと貸与のあいだでどう交互に進んでも、
実行に向けて留めた予約は登録されたセッションの一つに限られ、始まったかもしれない予約は、署名された後始末の後に、
その予約の貸与を通してだけ外れる。
-/

namespace Codeoff.Runtime

open Codeoff.Control RegisteredRunnerSession

variable {s s' s'' : BrokerState} {c : BrokerCall} {w w' : BrokerWorld}
  {sessions : SessionId → RegisteredRunnerSession}

/-! ## 一歩 -/

def MayHaveStarted (r : ProtocolAdmission) : Prop := r.phase = .started ∨ r.phase = .outcomeUnknown

structure StepExclusive (c : BrokerCall) (s s' : BrokerState) : Prop where
  /-- 留めた予約があれば、登録は替わらない。 -/
  notReplaced : (∃ id, Pinned s id) → s'.current = s.current
  /-- 始まったかもしれない予約は、署名された後始末の後にだけ外れる。 -/
  onlyCleanup : ∀ id r, (s.sessions id).slot = some r → MayHaveStarted r →
    (∃ r', (s'.sessions id).slot = some r' ∧ r'.nonce = r.nonce) ∨ c = .releaseAfterSignedCleanup ⟨id, r.nonce⟩
  /-- 貸与を通した一歩は、その貸与の予約だけを変える。 -/
  ownOnly : ∀ lease, c.lease? = some lease → ∀ id r, (s.sessions id).slot = some r →
    (⟨id, r.nonce⟩ : ReservationLease) ≠ lease → (s'.sessions id).slot = some r
  /-- 貸与を通した一歩は、予約を置かない。 -/
  noneAdded : ∀ lease, c.lease? = some lease → ∀ id, (s.sessions id).slot = none → (s'.sessions id).slot = none

theorem BrokerGuarantee.onlyCleanup (h : BrokerGuarantee c s s') {id : SessionId} {r : ProtocolAdmission}
    (hr : (s.sessions id).slot = some r) (hstarted : MayHaveStarted r) :
    (∃ r', (s'.sessions id).slot = some r' ∧ r'.nonce = r.nonce) ∨
      c = .releaseAfterSignedCleanup ⟨id, r.nonce⟩ := by
  have hnotPre : r.phase ≠ .preStart := by rcases hstarted with hp | hp <;> simp [hp]
  have hchange := h.slots id
  rw [hr] at hchange
  generalize (s'.sessions id).slot = new at hchange
  cases hchange with
  | same => exact .inl ⟨r, rfl, rfl⟩
  | reserved noLease free fresh phase ungranted => exact absurd (free r rfl) hnotPre
  | granted noLease phase ungranted grantId => exact absurd phase hnotPre
  | advanced lease throughLease session nonce advances => exact .inl ⟨_, rfl, rfl⟩
  | dropped noLease phase => exact absurd phase hnotPre
  | released lease throughLease session nonce allowed =>
    obtain ⟨leaseSession, admissionNonce⟩ := lease
    obtain rfl : leaseSession = id := session
    obtain rfl : r.nonce = admissionNonce := nonce
    rcases allowed with hcleanup | ⟨hunknown, hnotStarted⟩
    · exact .inr hcleanup
    · rcases hstarted with hp | hp
      · exact absurd hp hnotStarted
      · exact absurd hp hunknown

theorem BrokerGuarantee.ownOnly (h : BrokerGuarantee c s s') {lease : ReservationLease}
    (hlease : c.lease? = some lease) {id : SessionId} {r : ProtocolAdmission}
    (hr : (s.sessions id).slot = some r) (hother : (⟨id, r.nonce⟩ : ReservationLease) ≠ lease) :
    (s'.sessions id).slot = some r := by
  have hsame : ∀ own : ReservationLease, c.lease? = some own → own.session = id →
      r.nonce = own.admissionNonce → False := by
    rintro own hown rfl hnonce
    obtain rfl : own = lease := Option.some.inj (hown.symm.trans hlease)
    exact hother (by rw [hnonce])
  have hchange := h.slots id
  rw [hr] at hchange
  generalize (s'.sessions id).slot = new at hchange
  cases hchange with
  | same => rfl
  | reserved noLease _ _ _ _ => exact nomatch hlease.symm.trans noLease
  | granted noLease _ _ _ => exact nomatch hlease.symm.trans noLease
  | advanced own throughLease session nonce _ => exact (hsame own throughLease session nonce).elim
  | dropped noLease _ => exact nomatch hlease.symm.trans noLease
  | released own throughLease session nonce _ => exact (hsame own throughLease session nonce).elim

theorem BrokerGuarantee.noneAdded (h : BrokerGuarantee c s s') {lease : ReservationLease}
    (hlease : c.lease? = some lease) {id : SessionId} (hnone : (s.sessions id).slot = none) :
    (s'.sessions id).slot = none := by
  have hchange := h.slots id
  rw [hnone] at hchange
  generalize (s'.sessions id).slot = new at hchange
  cases hchange with
  | same => rfl
  | reserved noLease _ _ _ _ => exact nomatch hlease.symm.trans noLease

theorem BrokerGuarantee.exclusive (h : BrokerGuarantee c s s') : StepExclusive c s s' where
  notReplaced := h.current
  onlyCleanup _ _ hr hstarted := h.onlyCleanup hr hstarted
  ownOnly _ hlease _ _ hr hother := h.ownOnly hlease hr hother
  noneAdded _ hlease _ hnone := h.noneAdded hlease hnone

/-- 後の状態の予約のうち、前からあった nonce のものは、同じ席で段階を進めただけである。 -/
structure Later (s s' : BrokerState) : Prop where
  drawn : ∀ nonce ∈ s.drawn, nonce ∈ s'.drawn
  advanced : ∀ id r', (s'.sessions id).slot = some r' → r'.nonce ∈ s.drawn →
    ∃ r, (s.sessions id).slot = some r ∧ r.nonce = r'.nonce ∧ r.phase.rank ≤ r'.phase.rank

theorem Later.refl (s : BrokerState) : Later s s :=
  ⟨fun _ h => h, fun _ r' hr' _ => ⟨r', hr', rfl, Nat.le_refl _⟩⟩

theorem Later.trans (h : Later s s') (h' : Later s' s'') : Later s s'' := by
  refine ⟨fun nonce hnonce => h'.drawn nonce (h.drawn nonce hnonce), ?_⟩
  intro id r'' hr'' hdrawn
  obtain ⟨r', hr', hnonce', hrank'⟩ := h'.advanced id r'' hr'' (h.drawn _ hdrawn)
  obtain ⟨r, hr, hnonce, hrank⟩ := h.advanced id r' hr' (hnonce' ▸ hdrawn)
  exact ⟨r, hr, hnonce.trans hnonce', Nat.le_trans hrank hrank'⟩

theorem BrokerGuarantee.later (h : BrokerGuarantee c s s') : Later s s' := by
  refine ⟨h.drawn, ?_⟩
  intro id r' hr' hdrawn
  have hchange := h.slots id
  rw [hr'] at hchange
  generalize (s.sessions id).slot = old at hchange
  cases hchange with
  | same => exact ⟨r', rfl, rfl, Nat.le_refl _⟩
  | reserved noLease free fresh phase ungranted => exact absurd hdrawn fresh
  | granted noLease phase ungranted grantId => exact ⟨_, rfl, rfl, Nat.le_refl _⟩
  | advanced lease throughLease session nonce advances => exact ⟨_, rfl, rfl, Nat.le_of_lt advances⟩

theorem BrokerInv.init : BrokerInv (BrokerState.init sessions) := by
  constructor
  case pinned =>
    rintro id ⟨r, hr, _⟩
    cases hr
  case drawn => intro id r hr; cases hr
  case apart => intro id id' r r' hr; cases hr
  case ungranted => intro id r hr; cases hr
  case grantedDrawn => intro nonce hnonce; cases hnonce
  case grantedOnce => exact List.nodup_nil
  case drawnOnce => exact List.nodup_nil

abbrev BrokerRuns (w w' : BrokerWorld) : Prop :=
  Relation.ReflTransGen (World.Step BrokerCall.thread) w w'

abbrev BrokerReachable (sessions : SessionId → RegisteredRunnerSession) (w : BrokerWorld) : Prop :=
  World.Reachable BrokerCall.thread (BrokerState.init sessions) w

theorem guarded_broker (hreach : BrokerReachable sessions w) :
    ∃ holder, Guarded BrokerState.locked BrokerInv BrokerRely BrokerGuarantee w holder :=
  guarded_of_reachable safe_thread BrokerInv.init rfl hreach

theorem later_of_runs (hreach : BrokerReachable sessions w) (hruns : BrokerRuns w w') :
    Later w.state w'.state := by
  induction hruns with
  | refl => exact .refl _
  | tail hsteps hstep ih =>
    obtain ⟨holder, hguarded⟩ := guarded_broker (Relation.ReflTransGen.trans hreach hsteps)
    rcases hstep with ⟨i, c, _, rfl⟩ | ⟨c, hrun⟩
    · exact ih
    · exact ih.trans (hguarded.runs hrun).1.later

/-- 接続中の実行者と予約は一つずつで、予約は接続中の実行者にだけある。以後の歩みは、状態を前にだけ進める。 -/
structure BrokerExclusive (w : BrokerWorld) : Prop where
  oneCurrent : ∀ a b, w.state.current = some a → w.state.current = some b → a = b
  onePinned : ∀ a b, Pinned w.state a → Pinned w.state b → a = b
  pinnedCurrent : ∀ id, Pinned w.state id → w.state.current = some id
  /-- 許しは、予約ごとに高々一度だけ返される。 -/
  grantedOnce : w.state.granted.Nodup
  /-- どの予約の nonce も、ほかの予約の nonce と異なる。 -/
  noncesDistinct : w.state.drawn.Nodup
  steps : ∀ c w', World.Runs c w w' → StepExclusive c w.state w'.state
  advances : ∀ w', BrokerRuns w w' → Later w.state w'.state

/-- どの交わり方で着く状態も、実行者と予約と許しの排他を守る。 -/
theorem broker_exclusive (hreach : BrokerReachable sessions w) : BrokerExclusive w := by
  obtain ⟨holder, hguarded⟩ := guarded_broker hreach
  have hpinned := hguarded.inv.pinned
  constructor
  case oneCurrent =>
    intro a b ha hb
    exact Option.some.inj (ha.symm.trans hb)
  case onePinned =>
    intro a b ha hb
    exact Option.some.inj ((hpinned a ha).symm.trans (hpinned b hb))
  case pinnedCurrent => exact hpinned
  case grantedOnce => exact hguarded.inv.grantedOnce
  case noncesDistinct => exact hguarded.inv.drawnOnce
  case steps =>
    intro c w' hrun
    exact (hguarded.runs hrun).1.exclusive
  case advances =>
    intro w' hruns
    exact later_of_runs hreach hruns

def sampleSessions (id : SessionId) : RegisteredRunnerSession where
  generation := id + 1
  sessionNonce := "s"
  challenge := "c"
  connected := true
  slot := none

def sampleSchedule : List (World.Choice BrokerCall) :=
  let lease : ReservationLease := ⟨0, "n"⟩
  let call (i : Nat) (c : BrokerCall) (steps : Nat) : List (World.Choice BrokerCall) :=
    .spawn i c :: List.replicate steps (.run i)
  call 0 (.register 0) 3 ++ call 1 (.reserve 0 10 20 (some "n")) 2 ++ call 2 (.reserveGrant 0 11 "n" (some "g")) 1
    ++ call 3 (.validateAndPin lease 12) 4 ++ call 4 (.beginStartAttempt lease) 4
    ++ call 5 (.confirmStartByte lease) 3 ++ call 6 (.unregister 0) 4 ++ call 7 (.register 1) 4
    ++ call 8 (.drop lease) 4

/-- 始まった予約は残り、別のセッションは登録されない。 -/
theorem started_reservation_kept :
    ∃ w : BrokerWorld, w.state.current = some 0 ∧
      (w.state.sessions 0).slot.map ProtocolAdmission.phase = some .started ∧ BrokerExclusive w := by
  have hresult : ((World.schedule BrokerCall.thread (World.idle (BrokerState.init sampleSessions))
      sampleSchedule).map fun w => (w.state.current, (w.state.sessions 0).slot.map ProtocolAdmission.phase)) =
      some (some 0, some .started) := by decide +kernel
  obtain ⟨w, hrun, hstate⟩ := Option.map_eq_some_iff.mp hresult
  obtain ⟨hcurrent, hphase⟩ := Prod.mk.inj hstate
  exact ⟨w, hcurrent, hphase, broker_exclusive (World.steps_of_schedule hrun)⟩

end Codeoff.Runtime
