import Codeoff.Json.Lemmas.RoundTrip
import Codeoff.Slack.Lemmas.Intake

/-!
# 直接メッセージの許可の一覧が守られる条件

許可の一覧は、チャネルの種類ではなく、分類された出来事の種類に適用される。
-/

namespace Codeoff.Slack

open Codeoff.Core Codeoff.Json Codeoff.Channel Codeoff.Relational

/-- 許されていない相手の、直接メッセージのチャネルの封筒が受け取られないのは、許可の一覧を通らない種類でないか、
もともと保存できないとき、そのときに限る。 -/
theorem dm_allowlist_blocks_iff (intake : SlackIntake) (read : ReadEnvelope) (rawEnvelope : String) (now : Int)
    (s : ChannelStore) (envelope : SocketModeEnvelope) (event : Value) (hread : read rawEnvelope = .ok envelope)
    (hevent : envelope.payload.get "event" = some event) (him : optionalString event "channel_type" = some "im")
    (hallowed : intake.allowedDmUserIds ≠ [])
    (huser : ∀ user, optionalString event "user" = some user → user ∉ intake.allowedDmUserIds) :
    intake.Blocks read rawEnvelope now s ↔
      ¬(EvadesDmAllowlist intake.mentionFilter envelope event ∧
        Storable intake.connectorId intake.mentionFilter envelope) := by
  have hnormalize : intake.normalize read rawEnvelope =
      normalizeEnvelope envelope intake.connectorId (some intake.mentionFilter) := by
    simp [SlackIntake.normalize, hread]
  cases hnormalized : normalizeEnvelope envelope intake.connectorId (some intake.mentionFilter) with
  | error e =>
    have hunstorable : ¬Storable intake.connectorId intake.mentionFilter envelope := by
      rintro ⟨n, hn, _⟩
      rw [hnormalized] at hn
      cases hn
    rw [hnormalized] at hnormalize
    refine ⟨fun _ h => hunstorable h.2, fun _ => ?_⟩
    cases e <;> simp [SlackIntake.Blocks, SlackIntake.accept, hnormalize]
  | ok n =>
    obtain ⟨hkind, hsender⟩ := normalizeEnvelope_im hnormalized hevent him
    have hlinked := normalizeEnvelope_linked hnormalized
    rw [hnormalized] at hnormalize
    have hstorable : Storable intake.connectorId intake.mentionFilter envelope ↔ n.sourceEvent.Check := by
      constructor
      · rintro ⟨n', hn', hcheck⟩
        cases hnormalized.symm.trans hn'
        exact hcheck
      · exact fun hcheck => ⟨n, hnormalized, hcheck⟩
    by_cases hdm : n.event.kind = .directMessageReceived
    · have hrefused : intake.allowsDirectMessageSender n = false := by
        have hnot : (optionalString event "user").any intake.allowedDmUserIds.contains = false := by
          cases huserField : optionalString event "user" with
          | none => rfl
          | some user => simpa using huser user huserField
        simp [SlackIntake.allowsDirectMessageSender, hdm, hsender hdm, hnot, hallowed]
      refine ⟨fun _ h => (hkind.mp hdm) h.1, fun _ => ?_⟩
      simp [SlackIntake.Blocks, SlackIntake.accept, hnormalize, hrefused]
    · have hevades : EvadesDmAllowlist intake.mentionFilter envelope event := by
        by_contra hnot
        exact hdm (hkind.mpr hnot)
      have hallows : intake.allowsDirectMessageSender n = true := by
        simp [SlackIntake.allowsDirectMessageSender, hdm]
      rw [hstorable]
      by_cases hcheck : n.sourceEvent.Check
      · obtain ⟨inserted, s', hpersist⟩ := persist_ok now s hlinked hcheck
        refine ⟨fun hblocks => ?_, fun h => absurd ⟨hevades, hcheck⟩ h⟩
        cases inserted <;> simp [SlackIntake.Blocks, SlackIntake.accept, hnormalize, hallows, hpersist] at hblocks
      · refine ⟨fun _ h => hcheck h.2, fun _ => ?_⟩
        simp [SlackIntake.Blocks, SlackIntake.accept, hnormalize, hallows, persist_check hcheck]

def readJsonEnvelope : ReadEnvelope := fun raw =>
  match parse raw with
  | none => .error "invalid JSON"
  | some v =>
    match optionalString v "type", v.get "payload" with
    | some envelopeType, some payload => .ok ⟨optionalString v "envelope_id", envelopeType, payload, payload.render⟩
    | _, _ => .error "missing field"

/-- `U1` だけに直接メッセージを許し、`UBOT` への言及を拾う設定。 -/
def guardedIntake : SlackIntake where
  connectorId := "slack-main"
  mentionFilter := ⟨["UBOT"]⟩
  allowedDmUserIds := ["U1"]

def dmEvent (text : String) : Value :=
  .obj [
    ("channel", .str "D2"),
    ("channel_type", .str "im"),
    ("text", .str text),
    ("ts", .str "1.2"),
    ("type", .str "message"),
    ("user", .str "U2")]

def dmPayload (text : String) : Value := .obj [("event", dmEvent text), ("team_id", .str "T1")]

/-- 許されていない `U2` からの直接メッセージ。 -/
def dmEnvelope (text : String) : Value :=
  .obj [("envelope_id", .str "e1"), ("payload", dmPayload text), ("type", .str "events_api")]

theorem readJsonEnvelope_dm (text : String) :
    readJsonEnvelope (dmEnvelope text).render =
      .ok ⟨some "e1", "events_api", dmPayload text, (dmPayload text).render⟩ := by
  have hsorted : (dmEnvelope text).Sorted := by
    simp only [dmEnvelope, dmPayload, dmEvent, Value.Sorted, MembersSorted, List.pairwise_cons, List.Pairwise.nil,
      List.forall_mem_cons, List.forall_mem_nil]
    decide +kernel
  have hreadable : (dmEnvelope text).readable maxDepth = true := rfl
  have hparse : parse (dmEnvelope text).render = some (dmEnvelope text) :=
    parse_render hsorted hreadable
  simp only [readJsonEnvelope, hparse]
  rfl

/-- 言及のない直接メッセージは、受け取られない。 -/
theorem unlisted_dm_blocked :
    guardedIntake.Blocks readJsonEnvelope (dmEnvelope "hello").render 100 .empty := by
  have hsilent : ¬EvadesDmAllowlist guardedIntake.mentionFilter
      ⟨some "e1", "events_api", dmPayload "hello", (dmPayload "hello").render⟩ (dmEvent "hello") := by
    have htype : optionalString (dmEvent "hello") "type" = some "message" := rfl
    have hmatches : (optionalString (dmEvent "hello") "text").any guardedIntake.mentionFilter.matchesText = false := by
      decide
    simp [EvadesDmAllowlist, htype, hmatches]
  have huser : ∀ user, optionalString (dmEvent "hello") "user" = some user → user ∉ guardedIntake.allowedDmUserIds := by
    intro user h
    cases h
    decide
  exact (dm_allowlist_blocks_iff guardedIntake readJsonEnvelope _ 100 .empty _ (dmEvent "hello")
    (readJsonEnvelope_dm "hello") rfl rfl (by decide) huser).mpr fun h => hsilent h.1

/-- 許されていない相手でも、言及を書けば受け取られる。 -/
theorem mentioned_dm_queued :
    optionalString (dmEvent "<@UBOT> hi") "channel_type" = some "im" ∧
      optionalString (dmEvent "<@UBOT> hi") "user" = some "U2" ∧ "U2" ∉ guardedIntake.allowedDmUserIds ∧
      (guardedIntake.accept readJsonEnvelope (dmEnvelope "<@UBOT> hi").render 100 .empty).1 = .ok .queued ∧
      ¬guardedIntake.Blocks readJsonEnvelope (dmEnvelope "<@UBOT> hi").render 100 .empty := by
  have hqueued : (guardedIntake.accept readJsonEnvelope (dmEnvelope "<@UBOT> hi").render 100 .empty).1 = .ok .queued := by
    have haccepted : (match (guardedIntake.accept readJsonEnvelope (dmEnvelope "<@UBOT> hi").render 100 .empty).1 with
        | .ok result => result == .queued
        | .error _ => false) = true := by decide +kernel
    split at haccepted
    · rename_i result hresult
      rw [hresult, eq_of_beq haccepted]
    · cases haccepted
  refine ⟨rfl, rfl, by decide, hqueued, fun hblocks => ?_⟩
  rcases hblocks.1 with hignored | ⟨e, herror⟩
  · cases hqueued.symm.trans hignored
  · cases hqueued.symm.trans herror

end Codeoff.Slack
