import Codeoff.Channel.Lemmas.ReplyToEvent
import Codeoff.Serve.Dispatch
import Codeoff.Serve.Theorems.ReplySurvives

/-!
# 返信は名指した会話に届く

返信の道具が成功を答えたとき、文面は、名指した出来事のチャネルとスレッドに、`send_as` の名義で届くか。
-/

namespace Codeoff.Serve.ReplyReaches

open Codeoff.Channel Codeoff.Json Codeoff.Relational Codeoff.Slack SlackCodexStreams SlackCodexStreamController
open ReplySurvives (messageController shownMessage)

structure ReplyPlace where
  channelId : String
  threadTs : Option String
  sender : SlackDeliverySender
deriving DecidableEq, Repr

def inlinePlace (channelId : String) : ReplyPlace := ⟨channelId, none, .bot⟩

def deliveryPlace (d : SlackDeliveryRequest) : ReplyPlace := ⟨d.channelId, d.threadTs, d.sender⟩

def recordedPlace (workspaceId eventDedupeKey : String) (sendAs : Option String) (store : ChannelStore) :
    Option ReplyPlace :=
  match replyTarget (slackSourceReferences workspaceId eventDedupeKey store), parseSendAs sendAs with
  | .ok (channelId, threadTs), .ok sender => some ⟨channelId, threadTs, sender⟩
  | _, _ => none

def namedPlace (arguments : Value) (store : ChannelStore) : Option ReplyPlace :=
  match requiredString arguments "workspace_id", requiredString arguments "event_dedupe_key",
    Channel.optionalString arguments "send_as" with
  | .ok workspaceId, .ok eventDedupeKey, .ok sendAs => recordedPlace workspaceId eventDedupeKey sendAs store
  | _, _, _ => none

def written (s s' : ServeToolState) : List MessageWrite := s'.streams.log.drop s.streams.log.length

def UsesKey (arguments : Value) (d : SlackDeliveryRequest) : Prop :=
  stringField arguments "workspace_id" = some d.workspaceId ∧
    stringField arguments "request_dedupe_key" = some d.requestDedupeKey

/-- 文面が名指した場所に書かれたか待ち行列にあり、ほかの場所には加わらない。 -/
def Reaches (arguments : Value) (s s' : ServeToolState) : Prop :=
  ∃ place text, namedPlace arguments s.channels = some place ∧ stringField arguments "text" = some text ∧
    ((∃ w ∈ written s s', inlinePlace w.update.channelId = place ∧ w.update.text = text) ∨
      ∃ row ∈ s'.channels.deliveries.queue.rows, UsesKey arguments row.request ∧ deliveryPlace row.request = place ∧
        row.request.text = text) ∧
    (∀ w ∈ written s s', inlinePlace w.update.channelId = place) ∧
    ∀ row ∈ s'.channels.deliveries.queue.rows, row ∉ s.channels.deliveries.queue.rows → deliveryPlace row.request = place

variable {h : ServeCodexDynamicToolHandler} {env : ReplyToolEnv} {answer : UpdateAnswer} {arguments : Value}
  {s : ServeToolState} {a : ActiveSlackCodexStream} {store : ChannelStore} {request : ReplyToEventRequest}
  {place : ReplyPlace}

def replyTool : String := "channel_reply_to_event"

def WritesInline (h : ServeCodexDynamicToolHandler) (arguments : Value) (s : ServeToolState)
    (a : ActiveSlackCodexStream) : Prop :=
  (directMessageReplyToEventOverride replyTool arguments).isSome ∧ a.target.kind = .directMessageUpdate ∧
    ∃ messageTs, Writable h.slackStreams s.streams a messageTs

def plannedAt (request : ReplyToEventRequest) (place : ReplyPlace) (store : ChannelStore) : SlackDeliveryRequest :=
  plannedDelivery request place.channelId place.threadTs place.sender store.deliveries

/-- 待ち行列が、文面を名指した場所に届ける。鍵が空いていれば加える行が、使われていればその行がその場所にある。 -/
structure Serves (d : SlackDeliveryRequest) (place : ReplyPlace) (landed : Prop) (s : DeliveryStore) : Prop where
  fresh : rowOf d.key s = none → deliveryPlace d = place
  used : ∀ row, rowOf d.key s = some row → deliveryPlace row.request = place ∧ row.request.text = d.text ∨ landed

def LandsInline (h : ServeCodexDynamicToolHandler) (answer : UpdateAnswer) (arguments : Value) (s : ServeToolState) :
    Prop := answer = .failed true ∧ ∃ a, WritesInline h arguments s a

/-- 近道で書くなら、名指した場所がその表示の場所である。待ち行列に加わるなら、その行が名指した場所に届ける。 -/
structure Agrees (h : ServeCodexDynamicToolHandler) (env : ReplyToolEnv) (answer : UpdateAnswer) (arguments : Value)
    (s : ServeToolState) : Prop where
  inline : answer = .ok → ∀ a, WritesInline h arguments s a →
    namedPlace arguments s.channels = some (inlinePlace a.target.channelId)
  queued : (answer = .ok → ∀ a, ¬ WritesInline h arguments s a) →
    ∀ request, replyToEventRequest arguments env.nowUnixSeconds = .ok request →
    ∀ place, namedPlace arguments s.channels = some place →
      Accepts env.faults env.createdAt request (plannedAt request place s.channels) s.channels.deliveries →
      Serves (plannedAt request place s.channels) place (LandsInline h answer arguments s) s.channels.deliveries ∧
        (answer = .failed true → ∀ a, WritesInline h arguments s a → inlinePlace a.target.channelId = place)

theorem requiredString_ok {field value : String} :
    requiredString arguments field = .ok value ↔ stringField arguments field = some value ∧ value.isEmpty = false := by
  unfold requiredString
  cases stringField arguments field with
  | none => simp
  | some found =>
    simp only [Option.some.injEq]
    split
    · rename_i hempty
      simp only [reduceCtorEq, false_iff, not_and]
      rintro rfl
      simp [hempty]
    · rename_i hnonempty
      simp only [Except.ok.injEq]
      refine ⟨fun heq => ⟨heq, heq ▸ by simpa using hnonempty⟩, And.left⟩

theorem replyToEventRequest_ok {now : Nat} (hrequest : replyToEventRequest arguments now = .ok request) :
    requiredString arguments "workspace_id" = .ok request.workspaceId ∧
      requiredString arguments "event_dedupe_key" = .ok request.eventDedupeKey ∧
      requiredString arguments "request_dedupe_key" = .ok request.requestDedupeKey ∧
      requiredString arguments "text" = .ok request.text ∧
      Channel.optionalString arguments "send_as" = .ok request.sendAs ∧ request.nowUnixSeconds = now := by
  unfold replyToEventRequest at hrequest
  obtain ⟨connectorId, _, hrequest⟩ := except_bind_ok.mp hrequest
  obtain ⟨workspaceId, hworkspace, hrequest⟩ := except_bind_ok.mp hrequest
  obtain ⟨eventDedupeKey, hevent, hrequest⟩ := except_bind_ok.mp hrequest
  obtain ⟨requestDedupeKey, hkey, hrequest⟩ := except_bind_ok.mp hrequest
  obtain ⟨text, htext, hrequest⟩ := except_bind_ok.mp hrequest
  obtain ⟨sendAs, hsendAs, hrequest⟩ := except_bind_ok.mp hrequest
  cases hrequest
  exact ⟨hworkspace, hevent, hkey, htext, hsendAs, rfl⟩

theorem override_some {requestDedupeKey text : String}
    (h : directMessageReplyToEventOverride replyTool arguments = some (requestDedupeKey, text)) :
    stringField arguments "text" = some text := by
  unfold directMessageReplyToEventOverride at h
  rw [if_neg (by simp [replyTool])] at h
  cases hkey : stringField arguments "request_dedupe_key" with
  | none => simp [hkey] at h
  | some key =>
    cases htext : stringField arguments "text" with
    | none => simp [hkey, htext] at h
    | some found =>
      simp only [hkey, htext, Option.ite_none_left_eq_some, Option.some.injEq, Prod.mk.injEq] at h
      rw [h.2.2]

theorem recordedPlace_some {workspaceId eventDedupeKey : String} {sendAs : Option String} :
    recordedPlace workspaceId eventDedupeKey sendAs store = some place ↔
      replyTarget (slackSourceReferences workspaceId eventDedupeKey store) = .ok (place.channelId, place.threadTs) ∧
        parseSendAs sendAs = .ok place.sender := by
  unfold recordedPlace
  cases replyTarget (slackSourceReferences workspaceId eventDedupeKey store) with
  | error error => simp
  | ok target =>
    cases parseSendAs sendAs with
    | error error => simp
    | ok sender =>
      obtain ⟨channelId, threadTs⟩ := target
      obtain ⟨channelId', threadTs', sender'⟩ := place
      simp [and_assoc]

theorem namedPlace_request {now : Nat} (hrequest : replyToEventRequest arguments now = .ok request) :
    namedPlace arguments store = recordedPlace request.workspaceId request.eventDedupeKey request.sendAs store := by
  obtain ⟨hworkspace, hevent, _, _, hsendAs, _⟩ := replyToEventRequest_ok hrequest
  simp only [namedPlace, hworkspace, hevent, hsendAs]

/-- 返信の道具は、要求が整い、宛先が決まり、行が加わるときにだけ、成功を答える。 -/
theorem handleReplyToEvent_cases (env : ReplyToolEnv) (arguments : Value) (store : ChannelStore) :
    (∃ request place, replyToEventRequest arguments env.nowUnixSeconds = .ok request ∧
      namedPlace arguments store = some place ∧
      Accepts env.faults env.createdAt request (plannedAt request place store) store.deliveries ∧
      (handleReplyToEvent env arguments store).1.success = true ∧
      Queued (plannedAt request place store) env.nowUnixSeconds env.createdAt store.deliveries
        (handleReplyToEvent env arguments store).2.deliveries) ∨
    ((∀ request, replyToEventRequest arguments env.nowUnixSeconds = .ok request →
      ∀ place, namedPlace arguments store = some place →
        ¬ Accepts env.faults env.createdAt request (plannedAt request place store) store.deliveries) ∧
      (handleReplyToEvent env arguments store).1.success = false) := by
  cases hrequest : replyToEventRequest arguments env.nowUnixSeconds with
  | error message => exact .inr ⟨by simp, by simp [handleReplyToEvent, hrequest, dynamicToolFailure]⟩
  | ok request =>
    have hnow := (replyToEventRequest_ok hrequest).2.2.2.2.2
    rcases replyToEvent_alone env.faults env.createdAt request (.new store) with
      ⟨channelId, threadTs, sender, htarget, hsender, haccepts, queued, x', hrun, hqueued⟩ | ⟨hnone, error, x', hrun⟩
    · refine .inl ⟨request, ⟨channelId, threadTs, sender⟩, rfl, ?_, haccepts, ?_, ?_⟩
      · rw [namedPlace_request hrequest]
        exact recordedPlace_some.mpr ⟨htarget, hsender⟩
      · simp [handleReplyToEvent, hrequest, hrun, dynamicToolSuccess]
      · rw [hnow] at hqueued
        simp only [handleReplyToEvent, hrequest, hrun]
        exact hqueued
    · refine .inr ⟨fun request' heq place hplace haccepts => ?_, ?_⟩
      · cases heq
        rw [namedPlace_request hrequest] at hplace
        obtain ⟨htarget, hsender⟩ := recordedPlace_some.mp hplace
        exact hnone _ _ _ htarget hsender haccepts
      · simp [handleReplyToEvent, hrequest, hrun, dynamicToolFailure]

def queuedResult (env : ReplyToolEnv) (arguments : Value) (s : ServeToolState) (streams : SlackCodexStreams) :
    DynamicToolAnswer × ServeToolState :=
  ((handleReplyToEvent env arguments s.channels).1, ⟨streams, (handleReplyToEvent env arguments s.channels).2⟩)

theorem handleToolCall_none (hnone : directMessageReplyToEventOverride replyTool arguments = none) :
    h.handleToolCall env answer replyTool arguments s =
      queuedResult env arguments s (h.slackStreams.updateForTool replyTool s.streams) := by
  simp only [ServeCodexDynamicToolHandler.handleToolCall, hnone, ServeCodexDynamicToolHandler.handleInner]
  exact if_pos rfl

theorem handleToolCall_some {requestDedupeKey text : String}
    (hsome : directMessageReplyToEventOverride replyTool arguments = some (requestDedupeKey, text)) :
    let inline := h.slackStreams.finishActiveDirectMessageReply text answer
      (h.slackStreams.updateForTool replyTool s.streams)
    h.handleToolCall env answer replyTool arguments s =
      if inline.1 then (directMessageReplyToEventOverrideSuccess requestDedupeKey, ⟨inline.2, s.channels⟩)
      else queuedResult env arguments s inline.2 := by
  intro inline
  simp only [ServeCodexDynamicToolHandler.handleToolCall, hsome, ServeCodexDynamicToolHandler.handleInner]
  exact if_congr Iff.rfl rfl (if_pos rfl)

def AnswersInline (h : ServeCodexDynamicToolHandler) (answer : UpdateAnswer) (arguments : Value) (s : ServeToolState)
    (result : DynamicToolAnswer × ServeToolState) : Prop :=
  ∃ a messageTs text, answer = .ok ∧ WritesInline h arguments s a ∧ stringField arguments "text" = some text ∧
    result.1.success = true ∧ result.2.channels = s.channels ∧
    result.2.streams.log = s.streams.log ++ [⟨⟨a.target.channelId, messageTs, text⟩, true⟩]

/-- 待ち行列を通った呼び出し。失敗を答えた近道の書き込みが、届いていることがある。 -/
def AnswersQueued (h : ServeCodexDynamicToolHandler) (env : ReplyToolEnv) (answer : UpdateAnswer) (arguments : Value)
    (s : ServeToolState) (result : DynamicToolAnswer × ServeToolState) : Prop :=
  (answer = .ok → ∀ a, ¬ WritesInline h arguments s a) ∧ ∃ streams, result = queuedResult env arguments s streams ∧
    ((¬ LandsInline h answer arguments s ∧ streams.log = s.streams.log) ∨
      ∃ a messageTs text, answer = .failed true ∧ WritesInline h arguments s a ∧
        stringField arguments "text" = some text ∧
        streams.log = s.streams.log ++ [⟨⟨a.target.channelId, messageTs, text⟩, false⟩])

/-- 常駐時の返信は、その場で書くか、待ち行列に加えるかである。 -/
theorem handleToolCall_cases (h : ServeCodexDynamicToolHandler) (env : ReplyToolEnv) (answer : UpdateAnswer)
    (arguments : Value) (s : ServeToolState) :
    AnswersInline h answer arguments s (h.handleToolCall env answer replyTool arguments s) ∨
      AnswersQueued h env answer arguments s (h.handleToolCall env answer replyTool arguments s) := by
  have hdrawn := redrawn_tool (c := h.slackStreams) replyTool s.streams
  cases hoverride : directMessageReplyToEventOverride replyTool arguments with
  | none =>
    have hno (a : ActiveSlackCodexStream) : ¬ WritesInline h arguments s a := fun hw => by
      simp [WritesInline, hoverride] at hw
    rw [handleToolCall_none hoverride]
    exact .inr ⟨fun _ => hno, _, rfl, .inl ⟨by rintro ⟨_, a, hw⟩; exact hno a hw, hdrawn.1⟩⟩
  | some fields =>
    obtain ⟨requestDedupeKey, text⟩ := fields
    have htext := override_some hoverride
    rw [handleToolCall_some hoverride]
    rcases finishActiveDirectMessageReply_cases h.slackStreams (h.slackStreams.updateForTool replyTool s.streams) text
        answer with ⟨b, messageTs, hready, hkind, hrun⟩ | ⟨hnone, hrun⟩
    · obtain ⟨a, hready', htarget⟩ := hdrawn.writable hready
      have hw : WritesInline h arguments s a := ⟨by simp [hoverride], htarget ▸ hkind, messageTs, hready'⟩
      have hlog := @log_settle (h.slackStreams.updateForTool replyTool s.streams) b text messageTs true answer
      rw [hdrawn.1, htarget] at hlog
      simp only [hrun]
      cases answer with
      | ok => exact .inl ⟨a, messageTs, text, rfl, hw, htext, rfl, rfl, hlog⟩
      | failed landed =>
        refine .inr ⟨by simp, _, rfl, ?_⟩
        cases landed with
        | false => exact .inl ⟨by simp [LandsInline], by simpa [UpdateAnswer.landed] using hlog⟩
        | true => exact .inr ⟨a, messageTs, text, rfl, hw, htext, hlog⟩
    · have hno (a : ActiveSlackCodexStream) : ¬ WritesInline h arguments s a := by
        rintro ⟨_, hkind, messageTs, hready⟩
        obtain ⟨b, hready', htarget⟩ := hdrawn.writable_of hready
        exact hnone b messageTs hready' (htarget ▸ hkind)
      simp only [hrun, Bool.false_eq_true, if_false]
      exact .inr ⟨fun _ => hno, _, rfl, .inl ⟨by rintro ⟨_, a, hw⟩; exact hno a hw, hdrawn.1⟩⟩

/-! ## 全体 -/

theorem serves_iff {d : SlackDeliveryRequest} {now : Nat} {createdAt : Int} {t t' : DeliveryStore} (landed : Prop)
    (hqueued : Queued d now createdAt t t') :
    ((landed ∨ ∃ row ∈ t'.queue.rows, row.request.key = d.key ∧ deliveryPlace row.request = place ∧
        row.request.text = d.text) ∧
      ∀ row ∈ t'.queue.rows, row ∉ t.queue.rows → deliveryPlace row.request = place) ↔ Serves d place landed t := by
  rcases hqueued with ⟨hrows, hused⟩ | ⟨hfree, hrows⟩
  · obtain ⟨row, hrow⟩ := Option.isSome_iff_exists.mp hused
    obtain ⟨hmem, hkey⟩ := mem_of_rowOf hrow
    rw [hrows]
    constructor
    · rintro ⟨hlanded | ⟨other, hother, hkey', hplace, htext⟩, _⟩
      · exact ⟨fun hnone => by simp [hrow] at hnone, fun _ _ => .inr hlanded⟩
      · refine ⟨fun hnone => by simp [hrow] at hnone, fun r hr => .inl ?_⟩
        have hsame : r = other := Option.some.inj (hr.symm.trans (rowOf_iff.mpr ⟨hother, hkey'⟩))
        exact hsame ▸ ⟨hplace, htext⟩
    · intro hserves
      refine ⟨?_, fun r hr hnot => absurd hr hnot⟩
      rcases hserves.used row hrow with ⟨hplace, htext⟩ | hlanded
      · exact .inr ⟨row, hmem, hkey, hplace, htext⟩
      · exact .inl hlanded
  · have hnew : enqueuedRow d now createdAt t.queue ∉ t.queue.rows := by
      intro hmem
      have hrow := rowOf_of_mem hmem
      have hsame : (enqueuedRow d now createdAt t.queue).request.key = d.key := rfl
      rw [hsame, hfree] at hrow
      cases hrow
    rw [hrows]
    constructor
    · rintro ⟨_, honly⟩
      exact ⟨fun _ => honly _ (by simp) hnew, fun r hr => by simp [hfree] at hr⟩
    · intro hserves
      have hplace := hserves.fresh hfree
      refine ⟨.inr ⟨_, List.mem_append_right _ (List.mem_singleton.mpr rfl), rfl, hplace, rfl⟩, fun r hr hnot => ?_⟩
      rcases List.mem_append.mp hr with hold | hsingle
      · exact absurd hold hnot
      · rw [List.mem_singleton.mp hsingle]
        exact hplace

theorem plannedAt_key (request : ReplyToEventRequest) (place : ReplyPlace) (store : ChannelStore) :
    (plannedAt request place store).key = (request.workspaceId, request.requestDedupeKey) ∧
      (plannedAt request place store).text = request.text := by
  unfold plannedAt plannedDelivery
  split <;> exact ⟨rfl, rfl⟩

theorem WritesInline.unique {b : ActiveSlackCodexStream} (ha : WritesInline h arguments s a)
    (hb : WritesInline h arguments s b) : a = b := by
  obtain ⟨_, _, messageTs, ha⟩ := ha
  obtain ⟨_, _, other, hb⟩ := hb
  exact (ha.unique hb).1

/-- その場で書いた返信が届くのは、`Agrees` のときである。 -/
theorem inline_reaches_iff {result : DynamicToolAnswer × ServeToolState}
    (hinline : AnswersInline h answer arguments s result) :
    Reaches arguments s result.2 ↔ Agrees h env answer arguments s := by
  obtain ⟨a, messageTs, text, rfl, hw, htext, _, hchannels, hlog⟩ := hinline
  have hwritten : written s result.2 = [⟨⟨a.target.channelId, messageTs, text⟩, true⟩] := by
    rw [written, hlog, List.drop_left]
  constructor
  · rintro ⟨place, _, hplace, _, _, honly, _⟩
    refine ⟨fun _ b hb => ?_, fun hnone => absurd hw (hnone rfl a)⟩
    rw [hb.unique hw, hplace, ← honly _ (hwritten ▸ List.mem_singleton.mpr rfl)]
  · intro hagrees
    refine ⟨_, text, hagrees.inline rfl a hw, htext, .inl ?_, ?_, fun row hrow hnot => ?_⟩
    · exact ⟨_, hwritten ▸ List.mem_singleton.mpr rfl, rfl, rfl⟩
    · simp [hwritten]
    · rw [hchannels] at hrow
      exact absurd hrow hnot

theorem usesKey_iff {now : Nat} (hrequest : replyToEventRequest arguments now = .ok request) {d : SlackDeliveryRequest} :
    UsesKey arguments d ↔ d.key = (request.workspaceId, request.requestDedupeKey) := by
  obtain ⟨hworkspace, _, hkey, _, _, _⟩ := replyToEventRequest_ok hrequest
  rw [UsesKey, (requiredString_ok.mp hworkspace).1, (requiredString_ok.mp hkey).1]
  simp [SlackDeliveryRequest.key, eq_comm]

theorem landed_iff {streams : SlackCodexStreams} {text : String} {store : ChannelStore}
    (htext : stringField arguments "text" = some text)
    (hlog : (¬ LandsInline h answer arguments s ∧ streams.log = s.streams.log) ∨
      ∃ a messageTs text, answer = .failed true ∧ WritesInline h arguments s a ∧
        stringField arguments "text" = some text ∧
        streams.log = s.streams.log ++ [⟨⟨a.target.channelId, messageTs, text⟩, false⟩]) :
    ((∀ w ∈ written s ⟨streams, store⟩, inlinePlace w.update.channelId = place) ↔
        (answer = .failed true → ∀ a, WritesInline h arguments s a → inlinePlace a.target.channelId = place)) ∧
      ((∀ w ∈ written s ⟨streams, store⟩, inlinePlace w.update.channelId = place) →
        ((∃ w ∈ written s ⟨streams, store⟩, inlinePlace w.update.channelId = place ∧ w.update.text = text) ↔
          LandsInline h answer arguments s)) := by
  rcases hlog with ⟨hnot, hlog⟩ | ⟨a, messageTs, text', rfl, hw, htext', hlog⟩
  · have hwritten : written s ⟨streams, store⟩ = [] := by simp [written, hlog]
    simp only [hwritten, List.not_mem_nil, false_implies, implies_true, true_iff, false_and, exists_false, false_iff]
    exact ⟨fun hfailed a hw => absurd ⟨hfailed, a, hw⟩ hnot, fun _ => hnot⟩
  · have hwritten : written s ⟨streams, store⟩ = [⟨⟨a.target.channelId, messageTs, text'⟩, false⟩] := by
      rw [written, hlog, List.drop_left]
    have hsame : text' = text := Option.some.inj (htext'.symm.trans htext)
    simp only [hwritten, List.mem_singleton, forall_eq, exists_eq_left, forall_const]
    refine ⟨⟨fun hplace b hb => hb.unique hw ▸ hplace, fun hall => hall a hw⟩, fun hplace => ?_⟩
    exact iff_of_true ⟨hplace, hsame⟩ ⟨rfl, a, hw⟩

/-- 待ち行列を通る返信が届くのも、`Agrees` のときである。 -/
theorem queued_reaches_iff {streams : SlackCodexStreams}
    (hnone : answer = .ok → ∀ a, ¬ WritesInline h arguments s a)
    (hlog : (¬ LandsInline h answer arguments s ∧ streams.log = s.streams.log) ∨
      ∃ a messageTs text, answer = .failed true ∧ WritesInline h arguments s a ∧
        stringField arguments "text" = some text ∧
        streams.log = s.streams.log ++ [⟨⟨a.target.channelId, messageTs, text⟩, false⟩])
    (hrequest : replyToEventRequest arguments env.nowUnixSeconds = .ok request)
    (hplace : namedPlace arguments s.channels = some place)
    (haccepts : Accepts env.faults env.createdAt request (plannedAt request place s.channels) s.channels.deliveries)
    (hqueued : Queued (plannedAt request place s.channels) env.nowUnixSeconds env.createdAt s.channels.deliveries
      store.deliveries) :
    Reaches arguments s ⟨streams, store⟩ ↔ Agrees h env answer arguments s := by
  have htext : stringField arguments "text" = some request.text :=
    (requiredString_ok.mp (replyToEventRequest_ok hrequest).2.2.2.1).1
  obtain ⟨hkey, hplanned⟩ := plannedAt_key request place s.channels
  obtain ⟨hlands, hwrites⟩ := @landed_iff _ _ _ _ place _ _ store htext hlog
  have hserves := @serves_iff place _ _ _ _ _ (LandsInline h answer arguments s) hqueued
  rw [hkey, hplanned] at hserves
  constructor
  · rintro ⟨_, _, hplace', htext', hreached, honly, hrows⟩
    cases hplace.symm.trans hplace'
    cases htext.symm.trans htext'
    have hreached' : Serves (plannedAt request place s.channels) place (LandsInline h answer arguments s)
        s.channels.deliveries := by
      refine hserves.mp ⟨hreached.imp (hwrites honly).mp ?_, hrows⟩
      rintro ⟨row, hrow, hkey', hrest⟩
      exact ⟨row, hrow, (usesKey_iff hrequest).mp hkey', hrest⟩
    refine ⟨fun hok a hw => absurd hw (hnone hok a), fun _ request' hrequest' place' hplace' _ => ?_⟩
    cases hrequest.symm.trans hrequest'
    cases hplace.symm.trans hplace'
    exact ⟨hreached', hlands.mp honly⟩
  · intro hagrees
    obtain ⟨hserved, hinline⟩ := hagrees.queued hnone request hrequest place hplace haccepts
    have honly := hlands.mpr hinline
    obtain ⟨hreached, hrows⟩ := hserves.mpr hserved
    refine ⟨place, request.text, hplace, htext, hreached.imp (hwrites honly).mpr ?_, honly, hrows⟩
    rintro ⟨row, hrow, hkey', hrest⟩
    exact ⟨row, hrow, (usesKey_iff hrequest).mpr hkey', hrest⟩

/-- 成功を答えた返信がどれも名指した会話に届くのは、近道の場所と待ち行列の行が、名指した場所に当たるときである。 -/
theorem reply_reaches_iff (h : ServeCodexDynamicToolHandler) (env : ReplyToolEnv) (answer : UpdateAnswer)
    (arguments : Value) (s : ServeToolState) :
    ((h.handleToolCall env answer replyTool arguments s).1.success = true →
        Reaches arguments s (h.handleToolCall env answer replyTool arguments s).2) ↔
      Agrees h env answer arguments s := by
  rcases handleToolCall_cases h env answer arguments s with hinline | ⟨hnone, streams, hresult, hlog⟩
  · rw [← @inline_reaches_iff _ env _ _ _ _ hinline]
    obtain ⟨_, _, _, _, _, _, hsuccess, _⟩ := hinline
    simp [hsuccess]
  · rw [hresult]
    rcases handleReplyToEvent_cases env arguments s.channels with
      ⟨request, place, hrequest, hplace, haccepts, hsuccess, hqueued⟩ | ⟨hrefused, hfailure⟩
    · simp only [queuedResult, hsuccess, forall_const]
      exact queued_reaches_iff hnone hlog hrequest hplace haccepts hqueued
    · simp only [queuedResult, hfailure, Bool.false_eq_true, false_implies, true_iff]
      exact ⟨fun hok a hw => absurd hw (hnone hok a),
        fun _ request hrequest place hplace haccepts => absurd haccepts (hrefused request hrequest place hplace)⟩

def unknownEvent : Value :=
  .obj [("connector_id", .str "slack"), ("event_dedupe_key", .str "none"), ("request_dedupe_key", .str "k"),
    ("text", .str "hi"), ("workspace_id", .str "T1")]

def serveHandler : ServeCodexDynamicToolHandler := ⟨messageController, fun _ _ s => (dynamicToolFailure "", s)⟩

def quietEnv : ReplyToolEnv := ⟨100, 100, fun _ => none, fun _ => ""⟩

/-- 参照の引けない出来事への返信も、出ている直接メッセージに書かれて、成功と答える。 -/
theorem unknown_event_answered :
    ¬ ∀ (h : ServeCodexDynamicToolHandler) (env : ReplyToolEnv) (answer : UpdateAnswer) (arguments : Value)
      (s : ServeToolState), (h.handleToolCall env answer replyTool arguments s).1.success = true →
        Reaches arguments s (h.handleToolCall env answer replyTool arguments s).2 := by
  intro hclaim
  have hrun : (serveHandler.handleToolCall quietEnv .ok replyTool unknownEvent
      ⟨⟨some shownMessage, [], [], []⟩, .empty⟩).1.success = true ∧ namedPlace unknownEvent .empty = none := by
    decide +kernel
  obtain ⟨place, _, hplace, _⟩ := hclaim serveHandler quietEnv .ok unknownEvent
    ⟨⟨some shownMessage, [], [], []⟩, .empty⟩ hrun.1
  rw [hrun.2] at hplace
  cases hplace

end Codeoff.Serve.ReplyReaches
