import Codeoff.Slack.Lemmas.Intake
import Codeoff.Slack.WebApi

/-!
# 頁めくりの終わりと、文脈の範囲

四つの読み取りは、サーバーの返す手掛かりを覚えずにたどるので、手掛かりが一巡すれば終わらない。
-/

namespace Codeoff.Slack.WebApi

open Codeoff.Core Codeoff.Channel Codeoff.Control

variable {client : SlackWebApiClient} {serde : SerdeJson}

/-- `cursor` の頁の後に続く手掛かり。誤りの応答と、探すものの載った頁の後には続かない。 -/
def nextCursor {ρ : Type} (client : SlackWebApiClient) (serde : SerdeJson) (path : String)
    (query : List (String × String)) (found : SlackApiResponse → Option ρ) (cursor : Option String) :
    Option (Option String) :=
  match client.page serde path (SlackWebApiClient.withCursor query cursor) with
  | .error _ => none
  | .ok page => if (found page).isSome then none else page.responseMetadata.cursor.map some

def CursorsEnd {ρ : Type} (client : SlackWebApiClient) (serde : SerdeJson) (path : String)
    (query : List (String × String)) (found : SlackApiResponse → Option ρ) : Prop :=
  WalkEnds (nextCursor client serde path query found) none

theorem pageStep_cursor {α ρ : Type} {path : String} {query : List (String × String)}
    {found : SlackApiResponse → Option ρ} {collect : α → SlackApiResponse → α}
    {finish : α → Except SlackWebApiError ρ} (s : α × Option String) :
    (client.pageStep serde path query found collect finish s).getLeft?.map Prod.snd =
      nextCursor client serde path query found s.2 := by
  obtain ⟨acc, cursor⟩ := s
  simp only [SlackWebApiClient.pageStep, nextCursor]
  cases client.page serde path (SlackWebApiClient.withCursor query cursor) with
  | error e => rfl
  | ok page =>
    dsimp only
    cases found page with
    | some r => rfl
    | none => cases page.responseMetadata.cursor <;> rfl

theorem pages_end_iff {α ρ : Type} {path : String} {query : List (String × String)}
    {found : SlackApiResponse → Option ρ} {collect : α → SlackApiResponse → α}
    {finish : α → Except SlackWebApiError ρ} (acc : α) :
    Halts (client.pageStep serde path query found collect finish) (acc, none) ↔
      CursorsEnd client serde path query found :=
  halts_iff_walkEnds pageStep_cursor (acc, none)

theorem membersStep_shrinks {actorId channelId : String} (s s' : Nat × Option String)
    (h : client.membersStep serde actorId channelId s = .inl s') : s'.1 < s.1 := by
  obtain ⟨left, cursor⟩ := s
  cases left with
  | zero => cases h
  | succ left =>
    simp only [SlackWebApiClient.membersStep] at h
    split at h
    · cases h
    split at h
    · cases h
    split at h
    · cases h
    split at h
    · cases h
    split at h
    · cases h
    cases h
    exact Nat.lt_succ_self left

/-- 頁をめくる読み取りが終わるのは、たどる手掛かりが有限個で、どれも自分自身へ戻らないときに限る。会員の一覧は、どのサーバーに
対しても頁の上限のうちに終わる。 -/
theorem pagination_ends_iff (client : SlackWebApiClient) (serde : SerdeJson) (query channelId actorId : String)
    (request : ChannelMessageFetchRequest) :
    ((∃ fuel r, client.searchUsers serde query fuel = some r) ↔
      CursorsEnd client serde "users.list" [] fun _ => (none : Option Unit)) ∧
    ((∃ fuel r, client.searchChannels serde query fuel = some r) ↔
      CursorsEnd client serde "conversations.list" [("types", conversationTypes)]
        fun _ => (none : Option Unit)) ∧
    ((∃ fuel r, client.ensureChannelIsAvailable serde channelId fuel = some r) ↔
      CursorsEnd client serde "conversations.list" [("types", conversationTypes)]
        (SlackWebApiClient.listsChannel channelId)) ∧
    ((∃ fuel r, client.fetchThreadedMessage serde request fuel = some r) ↔
      ∀ threadId, request.threadId = some threadId →
        CursorsEnd client serde "conversations.replies" (SlackWebApiClient.threadQuery request threadId)
          (SlackWebApiClient.findMessage request.messageTs)) ∧
    ∃ r, client.actorIsChannelMember serde actorId channelId (membershipPageLimit + 1) = some r := by
  refine ⟨pages_end_iff [], pages_end_iff [], pages_end_iff (), ?_,
    iterate_of_measure Prod.fst membersStep_shrinks (membershipPageLimit, none)⟩
  cases hthread : request.threadId with
  | none => simp [SlackWebApiClient.fetchThreadedMessage, hthread]
  | some threadId =>
    simp only [SlackWebApiClient.fetchThreadedMessage, hthread, Option.some.injEq, forall_eq']
    exact pages_end_iff ()

def cursorText (cursor : String) : String :=
  "\x7b\"ok\":true,\"response_metadata\":\x7b\"next_cursor\":\"" ++ cursor ++ "\"\x7d\x7d"

def emptyPage (cursor : String) : SlackApiResponse where
  ok := true
  error := none
  channels := []
  members := []
  messages := []
  responseMetadata := ⟨some cursor⟩

def cursorSerde : SerdeJson where
  apiResponse body :=
    if body = cursorText "b" then .ok (emptyPage "b")
    else if body = cursorText "c" then .ok (emptyPage "c")
    else .error "expected value at line 1 column 1"
  membersResponse _ := .error "expected value at line 1 column 1"

/-- `b` の次は `c`、ほかの次は `b`。 -/
def loopingServer (request : SlackHttpRequest) : Except String SlackHttpResponse :=
  .ok {
    status := 200
    headers := []
    body := cursorText (if request.query.getLast? = some ("cursor", "b") then "c" else "b") }

def slackConfig : SlackConfig where
  workspaceId := "T00000000"
  recentMessageLimit := 50
  threadMessageLimit := 100
  historyLookbackHours := 168

def loopingClient : SlackWebApiClient := buildSlackWebApiClient loopingServer slackConfig "xoxb-1" 1784606407

theorem loopingClient_page (path : String) (query : List (String × String)) :
    loopingClient.page cursorSerde path query =
      .ok (emptyPage (if query.getLast? = some ("cursor", "b") then "c" else "b")) := by
  have hb : cursorSerde.apiResponse (cursorText "b") = .ok (emptyPage "b") := by simp [cursorSerde]
  have hc : cursorSerde.apiResponse (cursorText "c") = .ok (emptyPage "c") := by
    have hne : cursorText "c" ≠ cursorText "b" := by decide
    simp [cursorSerde, hne]
  by_cases hlast : query.getLast? = some ("cursor", "b")
  · simp [SlackWebApiClient.page, SlackWebApiClient.request, SlackWebApiClient.parseApiResponse, loopingClient,
      buildSlackWebApiClient, loopingServer, hlast, hc, emptyPage, bind, Except.bind]
  · simp [SlackWebApiClient.page, SlackWebApiClient.request, SlackWebApiClient.parseApiResponse, loopingClient,
      buildSlackWebApiClient, loopingServer, hlast, hb, emptyPage, bind, Except.bind]

theorem looping_cursors {ρ : Type} {path : String} {query : List (String × String)}
    {found : SlackApiResponse → Option ρ} (hquery : query.getLast? ≠ some ("cursor", "b"))
    (hfound : ∀ cursor, found (emptyPage cursor) = none) :
    ¬CursorsEnd loopingClient cursorSerde path query found := by
  have hnext (cursor : Option String) : nextCursor loopingClient cursorSerde path query found cursor =
      some (some (if (SlackWebApiClient.withCursor query cursor).getLast? = some ("cursor", "b") then "c"
        else "b")) := by
    simp only [nextCursor, loopingClient_page, hfound, Option.isSome_none, Bool.false_eq_true, if_false]
    split <;> simp [emptyPage, ResponseMetadata.cursor]
  have hfirst : Follows (nextCursor loopingClient cursorSerde path query found) none (some "b") := by
    simp [Follows, hnext, SlackWebApiClient.withCursor, hquery]
  have hbc : Follows (nextCursor loopingClient cursorSerde path query found) (some "b") (some "c") := by
    simp [Follows, hnext, SlackWebApiClient.withCursor]
  have hcb : Follows (nextCursor loopingClient cursorSerde path query found) (some "c") (some "b") := by
    simp [Follows, hnext, SlackWebApiClient.withCursor]
  intro hends
  exact hends.acyclic (some "b") (.single hfirst) (.tail (.single hbc) hcb)

theorem never_of_cursors {α ρ : Type} {path : String} {query : List (String × String)}
    {found : SlackApiResponse → Option ρ} {collect : α → SlackApiResponse → α}
    {finish : α → Except SlackWebApiError ρ} {acc : α} (h : ¬CursorsEnd client serde path query found) (fuel : Nat) :
    iterate (client.pageStep serde path query found collect finish) fuel (acc, none) = none := by
  cases hr : iterate (client.pageStep serde path query found collect finish) fuel (acc, none) with
  | none => rfl
  | some r => exact absurd ((pages_end_iff acc).mp ⟨fuel, r, hr⟩) h

/-- 二つの手掛かりが互いを次とするサーバーに対して、四つの読み取りはどれも終わらない。 -/
theorem looping_pages_never_end :
    (∀ query fuel, loopingClient.searchUsers cursorSerde query fuel = none) ∧
    (∀ query fuel, loopingClient.searchChannels cursorSerde query fuel = none) ∧
    (∀ channelId fuel, loopingClient.ensureChannelIsAvailable cursorSerde channelId fuel = none) ∧
    ∀ request : ChannelMessageFetchRequest, request.threadId ≠ none →
      ∀ fuel, loopingClient.fetchThreadedMessage cursorSerde request fuel = none := by
  have htypes : [("types", conversationTypes)].getLast? ≠ some ("cursor", "b") := by decide
  refine ⟨fun _ => never_of_cursors (looping_cursors (by simp) fun _ => rfl),
    fun _ => never_of_cursors (looping_cursors htypes fun _ => rfl),
    fun _ => never_of_cursors (looping_cursors htypes fun _ => rfl), ?_⟩
  intro request hthread fuel
  cases hid : request.threadId with
  | none => exact absurd hid hthread
  | some threadId =>
    simp only [SlackWebApiClient.fetchThreadedMessage, hid]
    exact never_of_cursors (looping_cursors (by simp [SlackWebApiClient.threadQuery]) fun _ => rfl) fuel

/-! ## 文脈の範囲 -/

/-- 絞り込んだ先頭の `n` 個に入るのは、前にある条件を満たすものが `n` 個に満たない要素である。 -/
theorem mem_take_filter {α : Type} {p : α → Bool} {x : α} :
    ∀ {xs : List α} {n : Nat}, x ∈ (xs.filter p).take n ↔
      ∃ before after, xs = before ++ x :: after ∧ p x ∧ before.countP p < n
  | [], n => by simp
  | y :: ys, 0 => by simp
  | y :: ys, n + 1 => by
      cases hy : p y with
      | false =>
        rw [List.filter_cons_of_neg (by simp [hy]), mem_take_filter]
        constructor
        · rintro ⟨before, after, rfl, hx, hcount⟩
          exact ⟨y :: before, after, rfl, hx, by simpa [hy] using hcount⟩
        · rintro ⟨before, after, heq, hx, hcount⟩
          cases before with
          | nil =>
            cases heq
            rw [hy] at hx
            cases hx
          | cons z before =>
            cases heq
            exact ⟨before, after, rfl, hx, by simpa [hy] using hcount⟩
      | true =>
        rw [List.filter_cons_of_pos hy, List.take_succ_cons, List.mem_cons, mem_take_filter]
        constructor
        · rintro (rfl | ⟨before, after, rfl, hx, hcount⟩)
          · exact ⟨[], ys, rfl, hy, Nat.succ_pos n⟩
          · exact ⟨y :: before, after, rfl, hx, by simpa [hy] using hcount⟩
        · rintro ⟨before, after, heq, hx, hcount⟩
          cases before with
          | nil =>
            cases heq
            exact .inl rfl
          | cons z before =>
            cases heq
            exact .inr ⟨before, after, rfl, hx, by simpa [hy] using hcount⟩

theorem forall₂_of_mapM {α β ε : Type} {f : α → Except ε β} :
    ∀ {xs : List α} {ys : List β}, xs.mapM f = .ok ys → List.Forall₂ (fun x y => f x = .ok y) xs ys
  | [], ys, h => by
      cases h
      exact .nil
  | x :: xs, ys, h => by
      rw [List.mapM_cons] at h
      obtain ⟨y, hy, h⟩ := Relational.except_bind_ok.mp h
      obtain ⟨zs, hzs, h⟩ := Relational.except_bind_ok.mp h
      cases h
      exact .cons hy (forall₂_of_mapM hzs)

/-- 出来事 `event` は、会話 `channelId` の投稿 `message` のものである。 -/
structure EventOf (channelId : String) (message : SlackMessage) (event : ChannelEvent) : Prop where
  ts : message.ts = some event.eventId
  channel : event.dedupeKey = "slack:" ++ channelId ++ ":" ++ event.eventId
  text : event.text = message.summaryText.bind ChannelEvent.boundedText

theorem toEvent_ok {channelId workspaceId : String} {message : SlackMessage} {event : ChannelEvent}
    (h : client.toEvent channelId workspaceId message = .ok event) : EventOf channelId message event := by
  unfold SlackWebApiClient.toEvent at h
  cases hts : message.ts with
  | none => simp [hts] at h
  | some timestamp =>
    simp only [hts] at h
    cases hnew : ChannelEvent.new "slack" client.connectorId workspaceId timestamp
        ("slack:" ++ channelId ++ ":" ++ timestamp) .messageReceived with
    | error source => simp [hnew] at h
    | ok created =>
      simp only [hnew] at h
      cases h
      rw [ChannelEvent.new_eq hnew]
      exact ⟨hts, rfl, rfl⟩

/-- 時刻 `now` の取得が返した出来事は、数、順序、会話、古さの限りを守る。 -/
structure ContextInBounds (client : SlackWebApiClient) (request : ChannelContextRequest) (channelId : String)
    (threadId : Option String) (page : SlackApiResponse) (now : Nat) (events : List ChannelEvent) : Prop where
  count : events.length ≤ min request.limit (client.configuredLimit threadId)
  order : ∃ messages : List SlackMessage, messages.Sublist page.messages ∧
    List.Forall₂ (EventOf channelId) messages events
  age : ∀ event ∈ events, ∃ timestamp, parseU64 (event.eventId.toList.takeWhile (· ≠ '.')) = some timestamp ∧
    now - client.lookbackSeconds ≤ timestamp

/-- クライアントから見て新しく、`now` から見て古い投稿の前には、クライアントから見て新しい投稿が上限の数だけある。 -/
def StaleCrowdedOut (client : SlackWebApiClient) (limit : Nat) (page : SlackApiResponse) (now : Nat) : Prop :=
  ∀ before message after timestamp, page.messages = before ++ message :: after →
    message.timestamp = some timestamp → client.cutoff ≤ timestamp → timestamp < now - client.lookbackSeconds →
    limit ≤ before.countP fun earlier => earlier.timestamp.any fun t => client.cutoff ≤ t

theorem fetchContext_events {request : ChannelContextRequest} {channelId : String} {threadId : Option String}
    {page : SlackApiResponse} {answer : ChannelContextPage} {fuel : Nat}
    (htarget : SlackWebApiClient.contextTarget request.target = some (channelId, threadId))
    (hpage : client.page serde (SlackWebApiClient.contextPath threadId)
      (client.contextQuery request channelId threadId) = .ok page)
    (hfetch : client.fetchContext serde request fuel = some (.ok answer)) :
    List.Forall₂ (EventOf channelId)
      (client.recentMessages (min request.limit (client.configuredLimit threadId)) page) answer.events := by
  simp only [SlackWebApiClient.fetchContext, htarget] at hfetch
  cases havailable : client.ensureChannelIsAvailable serde channelId fuel with
  | none => simp [havailable] at hfetch
  | some available =>
    cases available with
    | error e => simp [havailable] at hfetch
    | ok =>
      simp only [havailable, hpage, Option.some.injEq] at hfetch
      obtain ⟨_, heq, hfetch⟩ := Relational.except_bind_ok.mp hfetch
      cases heq
      obtain ⟨events, hevents, hfetch⟩ := Relational.except_bind_ok.mp hfetch
      cases hfetch
      exact (forall₂_of_mapM hevents).imp fun _ _ => toEvent_ok

theorem events_recent_iff {channelId : String} {messages : List SlackMessage} {events : List ChannelEvent}
    (h : List.Forall₂ (EventOf channelId) messages events) (bound : Nat) :
    (∀ event ∈ events, ∃ timestamp, parseU64 (event.eventId.toList.takeWhile (· ≠ '.')) = some timestamp ∧
        bound ≤ timestamp) ↔
      ∀ message ∈ messages, ∃ timestamp, message.timestamp = some timestamp ∧ bound ≤ timestamp := by
  induction h with
  | nil => simp
  | cons hevent _ ih =>
    simp only [List.forall_mem_cons, ih, SlackMessage.timestamp, hevent.ts, Option.bind_some]

theorem mem_recentMessages {limit : Nat} {page : SlackApiResponse} {message : SlackMessage} :
    message ∈ client.recentMessages limit page ↔ ∃ before after, page.messages = before ++ message :: after ∧
      (∃ timestamp, message.timestamp = some timestamp ∧ client.cutoff ≤ timestamp) ∧
      (before.countP fun earlier => earlier.timestamp.any fun t => client.cutoff ≤ t) < limit := by
  rw [SlackWebApiClient.recentMessages, mem_take_filter]
  simp only [Option.any_eq_true, decide_eq_true_eq]

/-- 文脈の取得が範囲を守るのは、組み立てたときから見て新しく、取得したときから見て古い投稿が、上限によって外れるときに限る。 -/
theorem fetched_context_in_bounds_iff {request : ChannelContextRequest} {channelId : String}
    {threadId : Option String} {page : SlackApiResponse} {answer : ChannelContextPage} {fuel now : Nat}
    (htarget : SlackWebApiClient.contextTarget request.target = some (channelId, threadId))
    (hpage : client.page serde (SlackWebApiClient.contextPath threadId)
      (client.contextQuery request channelId threadId) = .ok page)
    (hfetch : client.fetchContext serde request fuel = some (.ok answer)) :
    ContextInBounds client request channelId threadId page now answer.events ↔
      StaleCrowdedOut client (min request.limit (client.configuredLimit threadId)) page now := by
  have hevents := fetchContext_events htarget hpage hfetch
  have hage := events_recent_iff hevents (now - client.lookbackSeconds)
  constructor
  · intro h before message after timestamp hsplit htimestamp hnew hold
    by_contra hfew
    have hmem := mem_recentMessages.mpr ⟨before, after, hsplit, ⟨timestamp, htimestamp, hnew⟩, not_le.mp hfew⟩
    obtain ⟨_, heq, hle⟩ := hage.mp h.age message hmem
    rw [htimestamp] at heq
    cases heq
    omega
  · intro h
    refine ⟨?_, ⟨_, (List.take_sublist _ _).trans List.filter_sublist, hevents⟩, hage.mpr ?_⟩
    · rw [← hevents.length_eq]
      exact List.length_take_le _ _
    · intro message hmem
      obtain ⟨before, after, hsplit, ⟨timestamp, htimestamp, hnew⟩, hfew⟩ := mem_recentMessages.mp hmem
      refine ⟨timestamp, htimestamp, ?_⟩
      by_contra hold
      exact absurd (h before message after timestamp hsplit htimestamp hnew (not_le.mp hold)) (not_le.mpr hfew)

/-! ## 古くなった投稿 -/

def channelsText : String := "\x7b\"ok\":true,\"channels\":[\x7b\"id\":\"C1\"\x7d]\x7d"

def messagesText : String := "\x7b\"ok\":true,\"messages\":[\x7b\"ts\":\"1784001700.000100\"\x7d]\x7d"

def channelsPage : SlackApiResponse where
  ok := true
  error := none
  channels := [{
    id := "C1"
    name := none
    isPrivate := false
    isIm := false
    isMpim := false
    isArchived := false
    isMember := false
    contextTeamId := none
    enterpriseId := none
    conversationHostId := none
    sharedTeamIds := []
    connectedTeamIds := []
    isShared := false
    isExtShared := false
    isOrgShared := false }]
  members := []
  messages := []
  responseMetadata := ⟨none⟩

def agingMessage : SlackMessage where
  ts := some "1784001700.000100"
  threadTs := none
  text := none
  blocks := []
  attachments := []
  files := []

def messagesPage : SlackApiResponse where
  ok := true
  error := none
  channels := []
  members := []
  messages := [agingMessage]
  responseMetadata := ⟨none⟩

def contextSerde : SerdeJson where
  apiResponse body :=
    if body = channelsText then .ok channelsPage
    else if body = messagesText then .ok messagesPage
    else .error "expected value at line 1 column 1"
  membersResponse _ := .error "expected value at line 1 column 1"

def contextServer (request : SlackHttpRequest) : Except String SlackHttpResponse :=
  .ok {
    status := 200
    headers := []
    body := if request.path = "conversations.list" then channelsText else messagesText }

def contextClient : SlackWebApiClient := buildSlackWebApiClient contextServer slackConfig "xoxb-1" 1784606407

def contextRequest : ChannelContextRequest where
  connectorId := "slack-default"
  workspaceId := "T00000000"
  target := .channel "C1"
  limit := 10
  cursor := none

theorem contextClient_page (path : String) (query : List (String × String)) :
    contextClient.page contextSerde path query =
      .ok (if path = "conversations.list" then channelsPage else messagesPage) := by
  have hmessages : contextSerde.apiResponse messagesText = .ok messagesPage := by
    have hne : messagesText ≠ channelsText := by decide
    simp [contextSerde, hne]
  by_cases hpath : path = "conversations.list"
  · simp [SlackWebApiClient.page, SlackWebApiClient.request, SlackWebApiClient.parseApiResponse, contextClient,
      buildSlackWebApiClient, contextServer, hpath, contextSerde, channelsPage, bind, Except.bind]
  · simp [SlackWebApiClient.page, SlackWebApiClient.request, SlackWebApiClient.parseApiResponse, contextClient,
      buildSlackWebApiClient, contextServer, hpath, hmessages, messagesPage, bind, Except.bind]

theorem contextClient_history : contextClient.page contextSerde (SlackWebApiClient.contextPath none)
    (contextClient.contextQuery contextRequest "C1" none) = .ok messagesPage := by
  rw [contextClient_page]
  rfl

theorem agingMessage_timestamp : agingMessage.timestamp = some 1784001700 := by decide

theorem contextClient_recent : contextClient.recentMessages (min contextRequest.limit
    (contextClient.configuredLimit none)) messagesPage = [agingMessage] := by
  rfl

theorem contextClient_fetch :
    ∃ answer, contextClient.fetchContext contextSerde contextRequest 1 = some (.ok answer) := by
  have havailable : contextClient.ensureChannelIsAvailable contextSerde "C1" 1 = some (.ok ()) := by
    simp [SlackWebApiClient.ensureChannelIsAvailable, iterate, SlackWebApiClient.pageStep, contextClient_page,
      SlackWebApiClient.listsChannel, channelsPage]
  obtain ⟨event, hevent⟩ : ∃ event, contextClient.toEvent "C1" "T00000000" agingMessage = .ok event := ⟨_, rfl⟩
  have htarget : SlackWebApiClient.contextTarget contextRequest.target = some ("C1", none) := rfl
  have hworkspace : contextRequest.workspaceId = "T00000000" := rfl
  simp [SlackWebApiClient.fetchContext, htarget, havailable, contextClient_history, contextClient_recent, hworkspace,
    hevent, bind, Except.bind, pure, Except.pure]

/-- 組み立てたときに取得すれば、範囲は守られる。 -/
theorem fresh_context_in_bounds : ∃ answer, contextClient.fetchContext contextSerde contextRequest 1 = some (.ok answer) ∧
    ContextInBounds contextClient contextRequest "C1" none messagesPage 1784606407 answer.events := by
  obtain ⟨answer, hfetch⟩ := contextClient_fetch
  refine ⟨answer, hfetch, (fetched_context_in_bounds_iff rfl contextClient_history hfetch).mpr ?_⟩
  intro before message after timestamp _ _ hnew hold
  exact absurd hold (not_lt.mpr hnew)

/-- 一時間後に取得すると、七日より古い投稿も返る。 -/
theorem stale_context_out_of_bounds :
    ∃ answer, contextClient.fetchContext contextSerde contextRequest 1 = some (.ok answer) ∧
      ¬ContextInBounds contextClient contextRequest "C1" none messagesPage 1784610007 answer.events := by
  obtain ⟨answer, hfetch⟩ := contextClient_fetch
  have hevents := fetchContext_events rfl contextClient_history hfetch
  rw [contextClient_recent] at hevents
  refine ⟨answer, hfetch, fun h => ?_⟩
  obtain ⟨timestamp, htimestamp, hrecent⟩ := (events_recent_iff hevents _).mp h.age agingMessage (by simp)
  rw [agingMessage_timestamp] at htimestamp
  cases htimestamp
  exact absurd hrecent (by decide)

end Codeoff.Slack.WebApi
