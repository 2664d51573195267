import Codeoff.Mcp.Server

/-!
# 一つの相手がサーバを止めない条件

接続の処理が誤りで終わると、受け付けの繰り返しはその誤りで抜ける。
-/

/-!
## 一つの相手を除いた実行

相手 `m` の接続だけが違う二つのサーバは、`m` のほかの相手の出来事では同じように進む。
-/

namespace Codeoff.Mcp

open Codeoff.Json Codeoff.Control

namespace McpServer

variable {σ : Type} {S : McpServices σ} {s t : McpServer σ} {m c : Nat} {e : McpEvent σ}

/-- 相手 `m` の接続と、これまでの失敗の有無のほかは同じ。 -/
structure AgreeOff (m : Nat) (s t : McpServer σ) : Prop where
  store : s.store = t.store
  shutdown : s.shutdownRequested = t.shutdownRequested
  running : s.running = t.running
  connections : ∀ c, c ≠ m → s.connections c = t.connections c

theorem AgreeOff.refl (m : Nat) (s : McpServer σ) : AgreeOff m s s := ⟨rfl, rfl, rfl, fun _ _ => rfl⟩

theorem AgreeOff.looping (h : AgreeOff m s t) : s.looping = t.looping := by
  simp [McpServer.looping, h.shutdown, h.running]

theorem AgreeOff.setConnection (h : AgreeOff m s t) (conn : Connection σ) :
    AgreeOff m (s.setConnection c conn) (t.setConnection c conn) where
  store := h.store
  shutdown := h.shutdown
  running := h.running
  connections d hd := by
    by_cases hdc : d = c
    · simp [McpServer.setConnection, hdc]
    · simpa [McpServer.setConnection, Function.update_of_ne hdc] using h.connections d hd

/-- 相手 `m` の接続だけを置き換える。 -/
theorem AgreeOff.setOwn (h : AgreeOff m s t) (conn : Connection σ) : AgreeOff m (s.setConnection m conn) t where
  store := h.store
  shutdown := h.shutdown
  running := h.running
  connections d hd := by simpa [McpServer.setConnection, Function.update_of_ne hd] using h.connections d hd

theorem AgreeOff.joinConnection (h : AgreeOff m s t) (conn : Connection σ) :
    AgreeOff m (s.joinConnection c conn) (t.joinConnection c conn) := by
  unfold McpServer.joinConnection
  cases conn.task with
  | finished ok =>
    simp only [← h.looping, ← h.running]
    split
    · exact { h.setConnection (c := c) { conn with task := .joined } with running := rfl }
    split
    · exact h
    · exact { h.setConnection (c := c) { conn with task := .joined } with }
  | reading => exact h
  | handling thread => exact h
  | writing response => exact h
  | joined => exact h

/-- 相手 `m` のほかの出来事では、同じように進む。 -/
theorem AgreeOff.step (h : AgreeOff m s t) (he : e.ofClient m = false) : AgreeOff m (s.step S e) (t.step S e) := by
  cases e with
  | connects c =>
    have hc : c ≠ m := by simpa [McpEvent.ofClient] using he
    simp only [McpServer.step, ← h.connections c hc, ← h.looping]
    cases s.connections c with
    | none =>
      simp only
      split
      · exact h.setConnection _
      · exact h
    | some conn => exact h
  | connection c e =>
    have hc : c ≠ m := by simpa [McpEvent.ofClient] using he
    simp only [McpServer.step, ← h.connections c hc, ← h.running, ← h.store]
    cases s.connections c with
    | none => exact h
    | some conn => exact { h.setConnection (c := c) (conn.step S s.running s.store e).2 with store := rfl }
  | joins c =>
    have hc : c ≠ m := by simpa [McpEvent.ofClient] using he
    simp only [McpServer.step, ← h.connections c hc]
    cases s.connections c with
    | none => exact h
    | some conn => exact h.joinConnection conn
  | stored store => exact { h with store := rfl }
  | shutdown => exact { h with shutdown := rfl }
  | stops =>
    simp only [McpServer.step, ← h.shutdown]
    split
    · exact { h with
        shutdown := rfl
        running := rfl }
    · exact h

/-- 相手 `m` の出来事は、貯蔵庫のほかには、`m` の接続だけを変える。 -/
theorem AgreeOff.ownStep (h : AgreeOff m s t) (he : e.ofClient m = true) (hharmless : s.Harmless e) :
    AgreeOff m (s.step S e) { t with store := (s.step S e).store } := by
  cases e with
  | connects c =>
    obtain rfl : c = m := by simpa [McpEvent.ofClient] using he
    simp only [McpServer.step]
    cases s.connections c with
    | none =>
      simp only
      split
      · exact { h.setOwn .accepted with store := rfl }
      · exact { h with store := rfl }
    | some conn => exact { h with store := rfl }
  | connection c e =>
    obtain rfl : c = m := by simpa [McpEvent.ofClient] using he
    simp only [McpServer.step]
    cases s.connections c with
    | none => exact { h with store := rfl }
    | some conn => exact { h.setOwn (conn.step S s.running s.store e).2 with store := rfl }
  | joins c =>
    obtain rfl : c = m := by simpa [McpEvent.ofClient] using he
    simp only [McpServer.step]
    cases hconn : s.connections c with
    | none => exact { h with store := rfl }
    | some conn =>
      simp only [McpServer.joinConnection]
      cases htask : conn.task with
      | finished ok =>
        simp only
        split
        · rename_i hlooping
          have hok : ok = true := hharmless hlooping conn hconn ok htask
          have hrunning : s.running = true := (Bool.and_eq_true_iff.mp hlooping).1
          exact { h.setOwn { conn with task := .joined } with
            store := rfl
            running := by rw [hok, ← h.running, hrunning] }
        split
        · exact { h with store := rfl }
        · exact { h.setOwn { conn with task := .joined } with store := rfl }
      | reading => exact { h with store := rfl }
      | handling thread => exact { h with store := rfl }
      | writing response => exact { h with store := rfl }
      | joined => exact { h with store := rfl }
  | stored store => simp [McpEvent.ofClient] at he
  | shutdown => simp [McpEvent.ofClient] at he
  | stops => simp [McpEvent.ofClient] at he

@[simp] theorem run_nil (s : McpServer σ) : s.run S [] = s := rfl

@[simp] theorem run_cons (s : McpServer σ) (e : McpEvent σ) (events : List (McpEvent σ)) :
    s.run S (e :: events) = (s.step S e).run S events := rfl

theorem run_snoc (s : McpServer σ) (events : List (McpEvent σ)) (e : McpEvent σ) :
    s.run S (events ++ [e]) = (s.run S events).step S e := by
  simp [run]

def HarmlessRun (S : McpServices σ) : McpServer σ → List (McpEvent σ) → Prop
  | _, [] => True
  | s, e :: events => s.Harmless e ∧ HarmlessRun S (s.step S e) events

theorem harmlessRun_of_forall {events : List (McpEvent σ)}
    (h : ∀ n e, events[n]? = some e → (s.run S (events.take n)).Harmless e) : HarmlessRun S s events := by
  induction events generalizing s with
  | nil => trivial
  | cons e events ih =>
    refine ⟨h 0 e rfl, ih fun n e' he' => ?_⟩
    simpa using h (n + 1) e' (by simpa using he')

theorem run_without {events : List (McpEvent σ)} (h : AgreeOff m s t) (hharmless : HarmlessRun S s events) :
    AgreeOff m (s.run S events) (t.run S (s.without S m events)) := by
  induction events generalizing s t with
  | nil => exact h
  | cons e events ih =>
    simp only [run_cons, without]
    cases he : e.ofClient m with
    | false => exact ih (h.step he) hharmless.2
    | true => exact ih (h.ownStep he hharmless.1) hharmless.2

/-- 相手 `m` の出来事が貯蔵庫を変えないなら、それを除くだけでよい。 -/
theorem run_filter {events : List (McpEvent σ)} (h : AgreeOff m s t) (hharmless : HarmlessRun S s events)
    (hstore : ∀ n e, events[n]? = some e → e.ofClient m = true →
      ((s.run S (events.take n)).step S e).store = (s.run S (events.take n)).store) :
    AgreeOff m (s.run S events) (t.run S (events.filter fun e => !e.ofClient m)) := by
  induction events generalizing s t with
  | nil => exact h
  | cons e events ih =>
    have hrest : ∀ n e', events[n]? = some e' → e'.ofClient m = true →
        (((s.step S e).run S (events.take n)).step S e').store = ((s.step S e).run S (events.take n)).store :=
      fun n e' he' hm => by simpa using hstore (n + 1) e' (by simpa using he') hm
    cases he : e.ofClient m with
    | false =>
      rw [List.filter_cons_of_pos (by simp [he])]
      exact ih (h.step he) hharmless.2 hrest
    | true =>
      rw [List.filter_cons_of_neg (by simp [he])]
      have hown := h.ownStep (S := S) he hharmless.1
      have hkept : (s.step S e).store = t.store := (hstore 0 e rfl he).trans h.store
      exact ih { hown with store := hkept } hharmless.2 hrest

theorem AgreeOff.outputOf (h : AgreeOff m s t) (hc : c ≠ m) : s.outputOf c = t.outputOf c := by
  simp [McpServer.outputOf, h.connections c hc]

/-! ## 終了を求められるまで -/

theorem running_step (h : s.shutdownRequested = false → s.running = true) (hharmless : s.Harmless e) :
    (s.step S e).shutdownRequested = false → (s.step S e).running = true := by
  cases e with
  | connects c =>
    simp only [McpServer.step]
    cases s.connections c with
    | none =>
      simp only
      split <;> exact h
    | some conn => exact h
  | connection c e =>
    simp only [McpServer.step]
    cases s.connections c <;> exact h
  | joins c =>
    simp only [McpServer.step]
    cases hconn : s.connections c with
    | none => exact h
    | some conn =>
      simp only [McpServer.joinConnection]
      cases htask : conn.task with
      | finished ok =>
        simp only
        split
        · rename_i hlooping
          exact fun _ => hharmless hlooping conn hconn ok htask
        split <;> exact h
      | reading => exact h
      | handling thread => exact h
      | writing response => exact h
      | joined => exact h
  | stored store => exact h
  | shutdown => simp [McpServer.step]
  | stops =>
    simp only [McpServer.step]
    split
    · rename_i hshutdown
      simp [hshutdown]
    · exact h

theorem running_run {events : List (McpEvent σ)} (hharmless : HarmlessRun S s events)
    (h : s.shutdownRequested = false → s.running = true) :
    (s.run S events).shutdownRequested = false → (s.run S events).running = true := by
  induction events generalizing s with
  | nil => exact h
  | cons e events ih => exact ih hharmless.2 (running_step h hharmless.1)

theorem serves_of_running (h : s.shutdownRequested = false → s.running = true) : s.Serves S := by
  intro hshutdown
  refine ⟨h hshutdown, fun c hc => ?_⟩
  have hlooping : s.looping = true := by simp [looping, hshutdown, h hshutdown]
  simp [step, hc, hlooping, setConnection]

/-- 害のある出来事の後は、受け付けの繰り返しが終わっている。 -/
theorem not_serves_of_not_harmless (h : ¬s.Harmless e) : ¬(s.step S e).Serves S := by
  cases e with
  | joins c =>
    simp only [Harmless, not_forall] at h
    obtain ⟨hlooping, conn, hconn, ok, htask, hok⟩ := h
    have hfailed : ok = false := by simpa using hok
    have hshutdown : s.shutdownRequested = false := by simpa using (Bool.and_eq_true_iff.mp hlooping).2
    intro hserves
    have hstep : s.step S (.joins c) = { s.setConnection c { conn with task := .joined } with
        running := false
        failed := true } := by
      simp [step, hconn, joinConnection, htask, hlooping, hfailed]
    rw [hstep] at hserves
    exact Bool.false_ne_true (hserves hshutdown).1
  | connects c => exact absurd trivial h
  | connection c e => exact absurd trivial h
  | stored store => exact absurd trivial h
  | shutdown => exact absurd trivial h
  | stops => exact absurd trivial h

end McpServer

/-- どの時点でもサーバが受け付けを続け、どの相手もほかの相手への答えを変えないのは、終了を求められる前に、誤りで終わった
接続の処理を回収しないとき、そのときに限る。 -/
theorem clients_cannot_stop_iff {σ : Type} (S : McpServices σ) (store : σ) (events : List (McpEvent σ)) :
    (∀ n, ((McpServer.bind store).run S (events.take n)).Serves S ∧
        ∀ m, (McpServer.bind store).Isolated S (events.take n) m) ↔
      ∀ n e, events[n]? = some e → ((McpServer.bind store).run S (events.take n)).Harmless e := by
  constructor
  · intro hserves n e he
    by_contra hharmless
    have hafter := (hserves (n + 1)).1
    rw [List.take_add_one, he, Option.toList_some, McpServer.run_snoc] at hafter
    exact McpServer.not_serves_of_not_harmless hharmless hafter
  · intro hharmless n
    have htake : ∀ k e, (events.take n)[k]? = some e →
        ((McpServer.bind store).run S ((events.take n).take k)).Harmless e := by
      intro k e he
      have hk : k < n := by
        by_contra hkn
        have hlen : (events.take n).length ≤ k := (List.length_take_le n events).trans (by omega)
        rw [List.getElem?_eq_none_iff.mpr hlen] at he
        cases he
      rw [List.getElem?_take_of_lt hk] at he
      rw [List.take_take, Nat.min_eq_left (by omega)]
      exact hharmless k e he
    have hrun : McpServer.HarmlessRun S (McpServer.bind store) (events.take n) :=
      McpServer.harmlessRun_of_forall htake
    refine ⟨McpServer.serves_of_running (McpServer.running_run hrun fun _ => rfl), fun m => ⟨fun c hc => ?_, ?_⟩⟩
    · exact (McpServer.run_without (McpServer.AgreeOff.refl m _) hrun).outputOf hc
    · intro hstore c hc
      exact (McpServer.run_filter (McpServer.AgreeOff.refl m _) hrun hstore).outputOf hc

def refusingServices : McpServices Unit where
  readRequest _ := .error "expected value at line 1 column 1"
  packageVersion := "0.1.0"
  listTools := []
  call _ _ := .done (.ok .null)

def invalidLine : List UInt8 := [255, 10]

def invalidClient : List (McpEvent Unit) := [
  .connects 0,
  .connection 0 (.arrives invalidLine),
  .connection 0 (.reads 0),
  .joins 0]

/-- UTF-8 でない一行を送る相手一つで、サーバは終了を求められずに誤りを返す。 -/
theorem invalidClient_stops_server :
    ((McpServer.bind ()).run refusingServices invalidClient).Returned false ∧
      ¬∀ n, ((McpServer.bind ()).run refusingServices (invalidClient.take n)).Serves refusingServices ∧
        ∀ m, (McpServer.bind ()).Isolated refusingServices (invalidClient.take n) m := by
  have hline : String.fromUTF8? ⟨invalidLine.toArray⟩ = none := by decide +kernel
  have hconnection : ((McpServer.bind ()).run refusingServices invalidClient).connections =
      Function.update (fun _ => none) 0 (some ⟨invalidLine, false, [], .joined⟩) := by
    simp [invalidClient, McpServer.run, McpServer.step, McpServer.bind, McpServer.looping, McpServer.setConnection,
      McpServer.joinConnection, Connection.accepted, Connection.step, Connection.readLine, hline,
      show takeLine invalidLine = some (invalidLine, []) from rfl]
  have hlast : ((McpServer.bind ()).run refusingServices invalidClient).shutdownRequested = false ∧
      ((McpServer.bind ()).run refusingServices invalidClient).running = false ∧
      ((McpServer.bind ()).run refusingServices invalidClient).failed = true := by decide +kernel
  obtain ⟨hshutdown, hrunning, hfailed⟩ := hlast
  refine ⟨⟨hrunning, hfailed, fun c conn hconn => ?_⟩, fun hserves => ?_⟩
  · rw [hconnection] at hconn
    by_cases hc : c = 0
    · subst hc
      simp only [Function.update_self, Option.some.injEq] at hconn
      rw [← hconn]
    · simp [Function.update_of_ne hc] at hconn
  · have hserving := ((hserves 4).1 hshutdown).1
    exact Bool.false_ne_true (hrunning.symm.trans hserving)

end Codeoff.Mcp
