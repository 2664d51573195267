import Codeoff.Slack.Intake

/-!
# 正規化された出来事

正規化に成功した封筒から、出来事の種類と、保存する行の欄が定まる。
-/

namespace Codeoff.Channel

open Codeoff.Core Codeoff.Relational

variable {event created : ChannelEvent}

theorem ChannelEvent.new_eq {provider connectorId workspaceId eventId dedupeKey : String} {kind : ChannelEventKind}
    (h : ChannelEvent.new provider connectorId workspaceId eventId dedupeKey kind = .ok event) :
    event = {
      provider, connectorId, workspaceId, eventId, dedupeKey, kind
      text := none, replyTarget := none, sourceReference := none } := by
  unfold ChannelEvent.new at h
  obtain ⟨_, _, h⟩ := except_bind_ok.mp h
  obtain ⟨_, _, h⟩ := except_bind_ok.mp h
  obtain ⟨_, _, h⟩ := except_bind_ok.mp h
  obtain ⟨_, _, h⟩ := except_bind_ok.mp h
  obtain ⟨_, _, h⟩ := except_bind_ok.mp h
  cases h
  rfl

theorem ChannelEvent.new_ok {provider connectorId workspaceId eventId dedupeKey : String} {kind : ChannelEventKind}
    (h : ChannelEvent.new provider connectorId workspaceId eventId dedupeKey kind = .ok event) :
    event.provider = provider ∧ event.workspaceId = workspaceId ∧ event.dedupeKey = dedupeKey ∧ event.kind = kind := by
  rw [ChannelEvent.new_eq h]
  exact ⟨rfl, rfl, rfl, rfl⟩

theorem ChannelEvent.withSourceDetails_ok {target : ChannelReplyTarget} {reference : String}
    (h : created.withSourceDetails target reference = .ok event) :
    event = { created with
      replyTarget := some target
      sourceReference := some reference } := by
  unfold ChannelEvent.withSourceDetails at h
  obtain ⟨_, _, h⟩ := except_bind_ok.mp h
  obtain ⟨_, _, h⟩ := except_bind_ok.mp h
  cases h
  rfl

end Codeoff.Channel

namespace Codeoff.Slack

open Codeoff.Core Codeoff.Json Codeoff.Channel Codeoff.Relational
open Codeoff.State (sqlLength)

variable {envelope : SocketModeEnvelope} {connectorId : String} {filter : Option SlackMentionFilter}
  {n : NormalizedSlackEvent} {event : Value}

theorem channelEvent_ok {α : Type} {r : Except ChannelContractError α} {a : α} (h : channelEvent r = .ok a) :
    r = .ok a := by
  unfold channelEvent at h
  cases r with
  | ok b =>
    cases h
    rfl
  | error e => cases h

theorem field_ok {value v : Value} {name payloadType : String} (h : field value name payloadType = .ok v) :
    value.get name = some v := by
  unfold field at h
  cases hget : value.get name with
  | none =>
    rw [hget] at h
    cases h
  | some w =>
    rw [hget] at h
    cases h
    rfl

theorem string_ok {value : Value} {name payloadType s : String} (h : string value name payloadType = .ok s) :
    optionalString value name = some s := by
  unfold string at h
  split at h
  · rename_i hsome
    cases h
    exact (Option.filter_eq_some_iff.mp hsome).1
  · cases h

structure NormalizedSlackEvent.Linked (n : NormalizedSlackEvent) : Prop where
  provider : n.event.provider = "slack"
  workspace : n.event.workspaceId = n.sourceEvent.workspaceId
  dedupe : n.event.dedupeKey = n.sourceEvent.dedupeKey

/-- 受け付けた出来事の欄は、封筒の欄から読んだものである。 -/
theorem normalizeEventApi_ok (h : normalizeEventApi envelope connectorId filter = .ok n) :
    n.Linked ∧ ∃ event eventType channelId userId threadTs target,
      envelope.payload.get "event" = some event ∧ optionalString event "type" = some eventType ∧
      optionalString event "user" = some userId ∧ n.sourceEvent.userId = some userId ∧
      classifyEvent eventType event filter channelId userId threadTs = .ok (n.event.kind, target) := by
  unfold normalizeEventApi at h
  obtain ⟨event, hevent, h⟩ := except_bind_ok.mp h
  obtain ⟨eventType, htype, h⟩ := except_bind_ok.mp h
  obtain ⟨workspaceId, _, h⟩ := except_bind_ok.mp h
  obtain ⟨_, _, h⟩ := except_bind_ok.mp h
  obtain ⟨channelId, _, h⟩ := except_bind_ok.mp h
  obtain ⟨userId, huser, h⟩ := except_bind_ok.mp h
  obtain ⟨messageTs, _, h⟩ := except_bind_ok.mp h
  obtain ⟨⟨kind, target⟩, hclassify, h⟩ := except_bind_ok.mp h
  obtain ⟨dedupe, _, h⟩ := except_bind_ok.mp h
  obtain ⟨created, hcreated, h⟩ := except_bind_ok.mp h
  obtain ⟨normalized, hnormalized, h⟩ := except_bind_ok.mp h
  cases h
  obtain ⟨hprovider, hworkspace, hdedupe, hkind⟩ := ChannelEvent.new_ok (channelEvent_ok hcreated)
  rw [ChannelEvent.withSourceDetails_ok (channelEvent_ok hnormalized)]
  refine ⟨⟨hprovider, hworkspace, hdedupe⟩, event, eventType, channelId, userId,
    (optionalString event "thread_ts").getD messageTs, target, field_ok hevent, string_ok htype, string_ok huser, rfl, ?_⟩
  subst hkind
  exact hclassify

theorem normalizeSlashCommand_ok (h : normalizeSlashCommand envelope connectorId = .ok n) :
    n.Linked ∧ n.event.kind = .slashCommandReceived := by
  unfold normalizeSlashCommand at h
  obtain ⟨workspaceId, _, h⟩ := except_bind_ok.mp h
  obtain ⟨channelId, _, h⟩ := except_bind_ok.mp h
  obtain ⟨userId, _, h⟩ := except_bind_ok.mp h
  obtain ⟨triggerId, _, h⟩ := except_bind_ok.mp h
  obtain ⟨dedupe, _, h⟩ := except_bind_ok.mp h
  obtain ⟨created, hcreated, h⟩ := except_bind_ok.mp h
  obtain ⟨normalized, hnormalized, h⟩ := except_bind_ok.mp h
  cases h
  obtain ⟨hprovider, hworkspace, hdedupe, hkind⟩ := ChannelEvent.new_ok (channelEvent_ok hcreated)
  rw [ChannelEvent.withSourceDetails_ok (channelEvent_ok hnormalized)]
  exact ⟨⟨hprovider, hworkspace, hdedupe⟩, hkind⟩

theorem normalizeInteraction_ok (h : normalizeInteraction envelope connectorId = .ok n) :
    n.Linked ∧ n.event.kind = .interactionReceived := by
  unfold normalizeInteraction at h
  obtain ⟨workspaceId, _, h⟩ := except_bind_ok.mp h
  obtain ⟨channelId, _, h⟩ := except_bind_ok.mp h
  obtain ⟨userId, _, h⟩ := except_bind_ok.mp h
  obtain ⟨actions, _, h⟩ := except_bind_ok.mp h
  obtain ⟨action, _, h⟩ := except_bind_ok.mp h
  obtain ⟨actionId, _, h⟩ := except_bind_ok.mp h
  obtain ⟨messageTs, _, h⟩ := except_bind_ok.mp h
  obtain ⟨dedupe, _, h⟩ := except_bind_ok.mp h
  obtain ⟨created, hcreated, h⟩ := except_bind_ok.mp h
  obtain ⟨normalized, hnormalized, h⟩ := except_bind_ok.mp h
  cases h
  obtain ⟨hprovider, hworkspace, hdedupe, hkind⟩ := ChannelEvent.new_ok (channelEvent_ok hcreated)
  rw [ChannelEvent.withSourceDetails_ok (channelEvent_ok hnormalized)]
  exact ⟨⟨hprovider, hworkspace, hdedupe⟩, hkind⟩

theorem normalizeEnvelope_linked (h : normalizeEnvelope envelope connectorId filter = .ok n) : n.Linked := by
  unfold normalizeEnvelope at h
  split at h
  · exact (normalizeEventApi_ok h).1
  split at h
  · exact (normalizeSlashCommand_ok h).1
  split at h
  · exact (normalizeInteraction_ok h).1
  · cases h

theorem classifyEvent_im {f : SlackMentionFilter} {eventType channelId userId threadTs : String}
    {kind : ChannelEventKind} {target : ChannelReplyTarget} (him : optionalString event "channel_type" = some "im")
    (h : classifyEvent eventType event (some f) channelId userId threadTs = .ok (kind, target)) :
    kind = .directMessageReceived ↔
      ¬(eventType = "app_mention" ∨ eventType = "message" ∧ (optionalString event "text").any f.matchesText = true) := by
  unfold classifyEvent at h
  split at h
  · rename_i hmention
    cases h
    simp [hmention]
  rename_i hmention
  split at h
  · rename_i hmessage
    simp only [normalizeMessageEvent, Option.any_some, him, if_true, Except.ok.injEq] at h
    split at h
    · rename_i hmatches
      cases h
      simp [hmessage, hmatches]
    · rename_i hmatches
      cases h
      simp [hmention, hmatches]
  · cases h

/-- 直接メッセージが許しの検査を受けるのは、種類が言及に変わらないときである。 -/
theorem normalizeEnvelope_im {f : SlackMentionFilter} (h : normalizeEnvelope envelope connectorId (some f) = .ok n)
    (hevent : envelope.payload.get "event" = some event) (him : optionalString event "channel_type" = some "im") :
    (n.event.kind = .directMessageReceived ↔ ¬EvadesDmAllowlist f envelope event) ∧
      (n.event.kind = .directMessageReceived → n.sourceEvent.userId = optionalString event "user") := by
  unfold normalizeEnvelope at h
  split at h
  · rename_i hevents
    obtain ⟨_, event', eventType, channelId, userId, threadTs, target, hevent', htype, huser, hstored, hclassify⟩ :=
      normalizeEventApi_ok h
    cases hevent.symm.trans hevent'
    refine ⟨(classifyEvent_im him hclassify).trans (not_congr ?_), fun _ => hstored.trans huser.symm⟩
    simp [EvadesDmAllowlist, hevents, htype]
  rename_i hevents
  split at h
  · rename_i hslash
    have hkind := (normalizeSlashCommand_ok h).2
    simp [EvadesDmAllowlist, hslash, hkind]
  split at h
  · rename_i hinteractive
    have hkind := (normalizeInteraction_ok h).2
    simp [EvadesDmAllowlist, hinteractive, hkind]
  · cases h

theorem debugName_stored (kind : ChannelEventKind) : 0 < sqlLength kind.debugName := by
  cases kind <;> decide

theorem queuedRow_check (now : Int) (T : Table channelEventQueue) (hlinked : n.Linked)
    (hcheck : n.sourceEvent.Check) : channelEventQueue.check (queuedRow now n.event T) = true := by
  have hprovider : 0 < sqlLength n.event.provider := by
    rw [hlinked.provider]
    decide
  have hworkspace : 0 < sqlLength n.event.workspaceId := hlinked.workspace ▸ hcheck.1
  have hdedupe : 0 < sqlLength n.event.dedupeKey := hlinked.dedupe ▸ hcheck.2.2
  exact decide_eq_true ⟨⟨hprovider, hworkspace, hdedupe, debugName_stored _⟩, Int.le_refl 0⟩

/-- 結びつきと検査の整った出来事の保存は、断られない。 -/
theorem persist_ok (now : Int) (s : ChannelStore) (hlinked : n.Linked) (hcheck : n.sourceEvent.Check) :
    ∃ inserted s', commit (persistSlackSourceEvent now n.sourceEvent n.event) s = (.ok inserted, s') := by
  obtain ⟨T, k, hsource⟩ := s.sourceEvents.insertOrIgnore_ok_of_check (decide_eq_true hcheck)
  have hsourceTx : onTable ChannelStore.sourceEvents (fun s T => { s with sourceEvents := T }) id
      (fun T => T.insertOrIgnore (fun _ => none) n.sourceEvent) s = .ok (k, { s with sourceEvents := T }) :=
    onTable_ok.mpr ⟨T, hsource, rfl⟩
  by_cases hk : k = 1
  · obtain ⟨Q, j, hqueue⟩ :=
      s.queue.insertOrIgnore_ok_of_check (queuedRow_check now s.queue hlinked hcheck)
    refine ⟨true, { s with
      sourceEvents := T
      queue := Q }, commit_eq_ok.mpr (Tx.bind_ok.mpr ⟨k, _, hsourceTx, ?_⟩)⟩
    rw [if_pos hk]
    exact Tx.bind_ok.mpr ⟨j, _, onTable_ok.mpr ⟨Q, hqueue, rfl⟩, rfl⟩
  · refine ⟨false, { s with sourceEvents := T }, commit_eq_ok.mpr (Tx.bind_ok.mpr ⟨k, _, hsourceTx, ?_⟩)⟩
    rw [if_neg hk]
    rfl

theorem persist_check {now : Int} {s : ChannelStore} (hcheck : ¬n.sourceEvent.Check) :
    commit (persistSlackSourceEvent now n.sourceEvent n.event) s = (.error .check, s) := by
  refine commit_eq_error.mpr ⟨?_, rfl⟩
  have hsource := s.sourceEvents.insertOrIgnore_check (decide_eq_false hcheck)
  unfold persistSlackSourceEvent
  refine Tx.bind_of_error ?_
  simp only [onTable]
  rw [hsource]
  rfl

end Codeoff.Slack
