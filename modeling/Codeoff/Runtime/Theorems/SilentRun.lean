import Codeoff.Control.Interleaving
import Codeoff.Runtime.SilentRun
import Codeoff.Runtime.Theorems.RemoteSession

/-!
# 沈黙は失敗か

START のあと、gateway と中継の読み取りは一バイトも受け取らないまま進む。
-/

namespace Codeoff.Runtime

open Codeoff.Control

theorem disconnectTerminal_started {s : RemoteSessionState} (hstarted : s.started = true)
    (hterminal : s.terminal = none) : disconnectTerminal s.disconnect = .outcomeUnknown := by
  simp [RemoteSessionState.disconnect, hstarted, hterminal, disconnectTerminal]

theorem FrameTimeout.pos (f : FrameTimeout) : 0 < f.millis := by
  have h := f.valid
  simp only [validateMilliseconds, Bool.and_eq_true, decide_eq_true_eq] at h
  omega

namespace RemoteTurn

variable {t : RemoteTurn} {s s' : SilentRun} {now since : Nat}

/-- 結果の枠が渡り、`drive_start` がそれを返した。 -/
def Delivered (t : RemoteTurn) (s : SilentRun) : Prop := s.relay = .finished ∧ s.gateway = some (.result t.result)

def Lost (s : SilentRun) : Prop := s.relay = .timedOut ∨ s.gateway = some .outcomeUnknown

def EndsInTime (t : RemoteTurn) : Prop :=
  t.duration < t.gatewayFrameTimeout.millis ∧ t.duration < t.controlFrameTimeout.millis

@[simp] theorem expired_iff {f : FrameTimeout} : expired f since now = true ↔ since + f.millis ≤ now := by
  simp [expired]

attribute [simp] move relayForwardsStart relayForwardsResult relayTimesOut relayLosesPeer gatewayReadsResult
  gatewayTimesOut gatewayLosesRelay executorStarts executorFinishes executorTimesOut executorLosesRelay

def startForwarded : SilentRun := { start with startAtRelay := false, startAtExecutor := true }

def executingAt (now since : Nat) : SilentRun :=
  { start with now, startAtRelay := false, executor := .executing 0 since }

def resultWritten (now : Nat) : SilentRun :=
  { start with now, startAtRelay := false, executor := .ended, resultAtRelay := true }

def resultForwarded (now : Nat) : SilentRun :=
  { start with now, startAtRelay := false, executor := .ended, relay := .finished, resultAtGateway := true }

def resultRead (t : RemoteTurn) (now : Nat) : SilentRun :=
  { start with
    now, startAtRelay := false, executor := .ended, relay := .finished, gateway := some (.result t.result) }

attribute [simp] start startForwarded executingAt resultWritten resultForwarded resultRead

theorem step_start (hc : EndsInTime t) (step : t.Step start s') : s' = startForwarded := by
  obtain ⟨hg, hr⟩ := hc
  have he := t.executorFrameTimeout.pos
  obtain ⟨m, hm⟩ | ⟨hidle, rfl⟩ := step
  · cases m <;> simp at hm
    case relayForwardsStart => exact hm.symm
    all_goals omega
  · have := hidle .relayForwardsStart
    simp at this

theorem step_startForwarded (hc : EndsInTime t) (step : t.Step startForwarded s') : s' = executingAt 0 0 := by
  obtain ⟨hg, hr⟩ := hc
  obtain ⟨m, hm⟩ | ⟨hidle, rfl⟩ := step
  · cases m <;> simp at hm
    case executorStarts => exact hm.symm
    all_goals omega
  · have := hidle .executorStarts
    simp at this

theorem step_executingAt (hc : EndsInTime t) (hnow : now ≤ t.duration) (step : t.Step (executingAt now since) s') :
    t.duration ≤ now ∧ s' = resultWritten now ∨
      since + t.executorFrameTimeout.millis ≤ now ∧ s' = executingAt now now ∨
      now < t.duration ∧ now < since + t.executorFrameTimeout.millis ∧ s' = executingAt (now + 1) since := by
  obtain ⟨hg, hr⟩ := hc
  obtain ⟨m, hm⟩ | ⟨hidle, rfl⟩ := step
  · cases m <;> simp at hm
    case executorFinishes => exact .inl ⟨hm.1, hm.2.symm⟩
    case executorTimesOut => exact .inr (.inl ⟨hm.1, hm.2.symm⟩)
    all_goals omega
  · have hfinish := hidle .executorFinishes
    have hexpire := hidle .executorTimesOut
    simp only [move, executorFinishes, executingAt, Nat.zero_add, ite_eq_right_iff, reduceCtorEq, imp_false,
      executorTimesOut, expired_iff] at hfinish hexpire
    exact .inr (.inr ⟨by omega, by omega, rfl⟩)

theorem step_resultWritten (hc : EndsInTime t) (hnow : now ≤ t.duration) (step : t.Step (resultWritten now) s') :
    s' = resultForwarded now := by
  obtain ⟨hg, hr⟩ := hc
  obtain ⟨m, hm⟩ | ⟨hidle, rfl⟩ := step
  · cases m <;> simp at hm
    case relayForwardsResult => exact hm.symm
    all_goals omega
  · have := hidle .relayForwardsResult
    simp at this

theorem step_resultForwarded (step : t.Step (resultForwarded now) s') : s' = t.resultRead now := by
  obtain ⟨m, hm⟩ | ⟨hidle, rfl⟩ := step
  · cases m <;> simp at hm
    exact hm.symm
  · have := hidle .gatewayReadsResult
    simp at this

theorem step_resultRead (step : t.Step (t.resultRead now) s') : s' = t.resultRead (now + 1) := by
  obtain ⟨m, hm⟩ | ⟨_, rfl⟩ := step
  · cases m <;> simp at hm
  · rfl

inductive OnCourse (t : RemoteTurn) : SilentRun → Prop where
  | start : OnCourse t start
  | startForwarded : OnCourse t startForwarded
  | executing (now since : Nat) (hnow : now ≤ t.duration) : OnCourse t (executingAt now since)
  | resultWritten (now : Nat) (hnow : now ≤ t.duration) : OnCourse t (resultWritten now)
  | resultForwarded (now : Nat) : OnCourse t (resultForwarded now)
  | resultRead (now : Nat) : OnCourse t (t.resultRead now)

def remaining (t : RemoteTurn) (s : SilentRun) : Nat :=
  (if s.gateway.isNone then 1 else 0) + (if s.relay = .running then 1 else 0) + (if s.startAtRelay then 1 else 0)
    + match s.executor with
      | .waiting _ => 2 * t.duration + 4
      | .executing _ since =>
        2 * (t.duration - s.now) + 2 + if since + t.executorFrameTimeout.millis ≤ s.now then 1 else 0
      | .ended => 0

theorem remaining_executingAt : t.remaining (executingAt now since) =
    2 + (2 * (t.duration - now) + 2 + if since + t.executorFrameTimeout.millis ≤ now then 1 else 0) := rfl

/-- 期限に収まる設定では、どの一歩も道筋を保ち、届けるか、残りの歩数を減らす。 -/
theorem OnCourse.step (hc : EndsInTime t) (h : OnCourse t s) (step : t.Step s s') :
    OnCourse t s' ∧ (Delivered t s ∨ t.remaining s' < t.remaining s) := by
  have he := t.executorFrameTimeout.pos
  cases h with
  | start =>
    cases step_start hc step
    exact ⟨.startForwarded, .inr (by simp [remaining])⟩
  | startForwarded =>
    cases step_startForwarded hc step
    refine ⟨.executing 0 0 (Nat.zero_le _), .inr ?_⟩
    have : ¬t.executorFrameTimeout.millis = 0 := by omega
    simp [remaining, this]
  | executing now since hnow =>
    obtain ⟨_, rfl⟩ | ⟨hdue, rfl⟩ | ⟨hlater, hquiet, rfl⟩ := step_executingAt hc hnow step
    · refine ⟨.resultWritten now hnow, .inr ?_⟩
      simp [remaining]
    · refine ⟨.executing now now hnow, .inr ?_⟩
      have : ¬now + t.executorFrameTimeout.millis ≤ now := by omega
      simp [remaining, hdue, this]
    · refine ⟨.executing (now + 1) since hlater, .inr ?_⟩
      simp only [remaining_executingAt, if_neg hquiet.not_ge]
      by_cases hdue : since + t.executorFrameTimeout.millis ≤ now + 1
      · rw [if_pos hdue]
        omega
      · rw [if_neg hdue]
        omega
  | resultWritten now hnow =>
    cases step_resultWritten hc hnow step
    exact ⟨.resultForwarded now, .inr (by simp [remaining])⟩
  | resultForwarded now =>
    cases step_resultForwarded step
    exact ⟨.resultRead now, .inr (by simp [remaining])⟩
  | resultRead now =>
    cases step_resultRead step
    exact ⟨.resultRead (now + 1), .inl ⟨rfl, rfl⟩⟩

theorem exists_step (t : RemoteTurn) (s : SilentRun) : ∃ s', t.Step s s' := by
  by_cases h : ∃ m s', t.move m s = some s'
  · obtain ⟨m, s', hm⟩ := h
    exact ⟨s', .inl ⟨m, hm⟩⟩
  · have hidle : ∀ m, t.move m s = none := by
      intro m
      cases hm : t.move m s with
      | none => rfl
      | some s' => exact absurd ⟨m, s', hm⟩ h
    exact ⟨_, .inr ⟨hidle, rfl⟩⟩

/-- 期限に収まる設定では、結果は必ず届く。 -/
theorem inevitable_of_endsInTime (hc : EndsInTime t) : Inevitable t.Step t.Delivered start := by
  apply inevitable_of_measure (I := OnCourse t) t.remaining ?_ start .start
  intro s hs
  by_cases hdone : Delivered t s
  · exact .inl hdone
  · refine .inr ⟨t.exists_step s, ?_⟩
    intro s' step
    exact ⟨(hs.step hc step).1, (hs.step hc step).2.resolve_left hdone⟩

theorem onCourse_of_reachable (hc : EndsInTime t) (hs : t.Reachable s) : OnCourse t s := by
  induction hs with
  | refl => exact .start
  | tail _ step ih => exact (ih.step hc step).1

theorem OnCourse.not_lost (h : OnCourse t s) : ¬Lost s := by
  cases h <;> simp [Lost]

/-! ## 時限に届く実行 -/

theorem step_tick (hnow : now < t.duration) (hg : now < t.gatewayFrameTimeout.millis)
    (hr : now < t.controlFrameTimeout.millis) (he : now < since + t.executorFrameTimeout.millis) :
    t.Step (executingAt now since) (executingAt (now + 1) since) := by
  refine .inr ⟨?_, rfl⟩
  intro m
  cases m <;> simp <;> omega

/-- どの時限にも届かないあいだは、刻みが進む。executor の読み取りは、届くたびに始め直す。 -/
theorem reaches_executingAt (hnow : now ≤ t.duration) (hg : now ≤ t.gatewayFrameTimeout.millis)
    (hr : now ≤ t.controlFrameTimeout.millis) : ∃ since, since ≤ now ∧ t.Reachable (executingAt now since) := by
  induction now with
  | zero =>
    have hforward : t.Step start startForwarded := .inl ⟨.relayForwardsStart, by simp⟩
    have hstart : t.Step startForwarded (executingAt 0 0) := .inl ⟨.executorStarts, by simp⟩
    exact ⟨0, le_rfl, .tail (.single hforward) hstart⟩
  | succ now ih =>
    obtain ⟨since, hsince, hreach⟩ := ih (by omega) (by omega) (by omega)
    have he := t.executorFrameTimeout.pos
    by_cases hdue : since + t.executorFrameTimeout.millis ≤ now
    · have hrestart : t.Step (executingAt now since) (executingAt now now) :=
        .inl ⟨.executorTimesOut, by simp [hdue]⟩
      have htick := @step_tick t _ now hnow hg hr (by omega)
      exact ⟨now, by omega, .tail (.tail hreach hrestart) htick⟩
    · have htick := @step_tick t _ since hnow hg hr (by omega)
      exact ⟨since, by omega, .tail hreach htick⟩

/-- 期限に収まらない設定では、結果の失われる状態に到達できる。 -/
theorem lost_of_not_endsInTime (hc : ¬EndsInTime t) : ∃ s, t.Reachable s ∧ Lost s := by
  by_cases hfirst : t.gatewayFrameTimeout.millis ≤ t.controlFrameTimeout.millis
  · have hlate : t.gatewayFrameTimeout.millis ≤ t.duration := by
      unfold EndsInTime at hc
      omega
    obtain ⟨since, _, hreach⟩ := reaches_executingAt (t := t) hlate le_rfl hfirst
    have hexpire : t.move .gatewayTimesOut (executingAt t.gatewayFrameTimeout.millis since) =
        some { executingAt t.gatewayFrameTimeout.millis since with gateway := some .outcomeUnknown } := by
      simp [disconnectTerminal_started t.started t.unfinished]
    exact ⟨_, .tail hreach (.inl ⟨_, hexpire⟩), .inr rfl⟩
  · have hlate : t.controlFrameTimeout.millis ≤ t.duration := by
      unfold EndsInTime at hc
      omega
    obtain ⟨since, _, hreach⟩ := reaches_executingAt (t := t) hlate (by omega) le_rfl
    have hexpire : t.move .relayTimesOutOnExecutor (executingAt t.controlFrameTimeout.millis since) =
        some { executingAt t.controlFrameTimeout.millis since with relay := .timedOut } := by
      simp
    exact ⟨_, .tail hreach (.inl ⟨_, hexpire⟩), .inl rfl⟩

theorem move_keeps {m : SilentMove} (hm : t.move m s = some s') :
    (s.relay ≠ .running → s'.relay = s.relay) ∧ (s.gateway ≠ none → s'.gateway = s.gateway) := by
  cases m with
  | executorStarts | executorFinishes | executorTimesOut =>
    simp only [move, executorStarts, executorFinishes, executorTimesOut] at hm
    split at hm
    all_goals simp only [Option.ite_none_right_eq_some, Option.some.injEq, reduceCtorEq] at hm
    all_goals
      obtain ⟨_, rfl⟩ := hm
      exact ⟨fun _ => rfl, fun _ => rfl⟩
  | _ =>
    simp only [move, relayForwardsStart, relayForwardsResult, relayTimesOut, relayLosesPeer, gatewayReadsResult,
      gatewayTimesOut, gatewayLosesRelay, executorLosesRelay, Option.ite_none_right_eq_some,
      Option.some.injEq] at hm
    obtain ⟨⟨hguard, _⟩, rfl⟩ := hm
    simp_all

theorem Lost.step (h : Lost s) (step : t.Step s s') : Lost s' := by
  obtain ⟨m, hm⟩ | ⟨_, rfl⟩ := step
  · cases h with
    | inl hrelay => exact .inl (((move_keeps hm).1 (by simp [hrelay])).trans hrelay)
    | inr hgateway => exact .inr (((move_keeps hm).2 (by simp [hgateway])).trans hgateway)
  · exact h

theorem Delivered.step (h : Delivered t s) (step : t.Step s s') : Delivered t s' := by
  obtain ⟨m, hm⟩ | ⟨_, rfl⟩ := step
  · exact ⟨((move_keeps hm).1 (by simp [h.1])).trans h.1, ((move_keeps hm).2 (by simp [h.2])).trans h.2⟩
  · exact h

theorem Lost.not_delivered (h : Lost s) : ¬Delivered t s := by
  rintro ⟨hrelay, hgateway⟩
  cases h with
  | inl h => simp [h] at hrelay
  | inr h => simp [h] at hgateway

theorem not_inevitable_of_lost (hs : t.Reachable s) (hlost : Lost s) : ¬Inevitable t.Step t.Delivered start := by
  intro h
  obtain ⟨s', steps, hdelivered⟩ := (h.along (fun _ _ hd step => hd.step step) hs).reaches
  have hlost' : Lost s' := by
    clear hdelivered
    induction steps with
    | refl => exact hlost
    | tail _ step ih => exact ih.step step
  exact hlost'.not_delivered hdelivered

def SurvivesSilence (t : RemoteTurn) : Prop :=
  Inevitable t.Step t.Delivered start ∧ ∀ s, t.Reachable s → ¬Lost s

/-- 実行が時限に届けば、結果が届くとも、失敗とされないとも言えない。 -/
theorem survivesSilence_iff (t : RemoteTurn) :
    (SurvivesSilence t ↔ EndsInTime t) ∧ (Inevitable t.Step t.Delivered start ↔ EndsInTime t) := by
  have hlost : ¬EndsInTime t → ¬Inevitable t.Step t.Delivered start := by
    intro hc
    obtain ⟨s, hs, hlost⟩ := lost_of_not_endsInTime hc
    exact not_inevitable_of_lost hs hlost
  have hsurvives : EndsInTime t → SurvivesSilence t := by
    intro hc
    exact ⟨inevitable_of_endsInTime hc, fun s hs => (onCourse_of_reachable hc hs).not_lost⟩
  constructor
  · exact ⟨fun h => by_contra fun hc => hlost hc h.1, hsurvives⟩
  · exact ⟨fun h => by_contra fun hc => hlost hc h, inevitable_of_endsInTime⟩

def halfMinute : FrameTimeout := ⟨30000, by decide⟩

def longTurn : RemoteTurn where
  gatewayFrameTimeout := halfMinute
  controlFrameTimeout := halfMinute
  executorFrameTimeout := halfMinute
  runTimeoutSeconds := 1800
  duration := 45000
  result := ⟨"", "", sampleRunBinding, hexOf '2', .completed, ""⟩
  session := { sampleSession with phase := .waitingResult, started := true }
  withinTimeout := by decide
  started := rfl
  unfinished := rfl

/-- 30 秒の待ちのもとでは、45 秒かかる発話は、期限の内でも失われる。 -/
theorem longTurn_lost : ¬SurvivesSilence longTurn ∧ ¬Inevitable longTurn.Step longTurn.Delivered start := by
  obtain ⟨s, hs, hlost⟩ := lost_of_not_endsInTime (t := longTurn) (by simp [EndsInTime, longTurn, halfMinute])
  exact ⟨fun h => h.2 s hs hlost, not_inevitable_of_lost hs hlost⟩

end RemoteTurn

end Codeoff.Runtime
