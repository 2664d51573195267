import Codeoff.Control.Interleaving
import Codeoff.Json.Value

/-!
# MCP の TCP サーバ

接続ごとの処理が、一行ずつ読み、JSON-RPC の要求に答える。受け付けの繰り返しは、終わった接続の処理を回収し、その結果
によって続けるか終わるかを決める。
-/

namespace Codeoff.Mcp

open Codeoff.Json Codeoff.Control

structure JsonRpcRequest where
  jsonrpc : String
  id : Option Value
  method : String
  params : Option Value

inductive ToolCallError where
  | methodNotFound (method : String)
  | toolNotFound (tool : String)
  | invalidParams (message : String)

def ToolCallError.intoJsonRpcParts : ToolCallError → Int × String × Value
  | .methodNotFound method => (-32601, "method not found", Value.object [("method", .str method)])
  | .toolNotFound tool => (-32601, "tool not found", Value.object [("tool", .str tool)])
  | .invalidParams message => (-32602, "invalid params", Value.object [("message", .str message)])

/-- サーバが使うもの。`call` は、貯蔵庫への原子的な一歩の並び。 -/
structure McpServices (σ : Type) where
  /-- 一行を要求として読む。読めなければ、`serde_json` の誤りの文面。 -/
  readRequest : String → Except String JsonRpcRequest
  packageVersion : String
  listTools : List Value
  call : (params : Option Value) → (now : Nat) → Thread σ (Except ToolCallError Value)

def jsonRpcVersion : String := "2.0"
def protocolVersion : String := "2024-11-05"

def response (id result : Value) : Value :=
  Value.object [("jsonrpc", .str jsonRpcVersion), ("id", id), ("result", result)]

def errorResponse (id : Value) (error : ToolCallError) : Value :=
  let (code, message, data) := error.intoJsonRpcParts
  Value.object [
    ("jsonrpc", .str jsonRpcVersion),
    ("id", id),
    ("error", Value.object [("code", .int code), ("message", .str message), ("data", data)])]

def parseError (message : String) : Value :=
  Value.object [
    ("jsonrpc", .str "2.0"),
    ("id", .null),
    ("error", Value.object [
      ("code", .int (-32700)),
      ("message", .str "parse error"),
      ("data", Value.object [("message", .str message)])])]

def initializeResult (packageVersion : String) : Value :=
  Value.object [
    ("protocolVersion", .str protocolVersion),
    ("serverInfo", Value.object [("name", .str "codeoff-mcp"), ("version", .str packageVersion)]),
    ("capabilities", Value.object [("tools", Value.object [])])]

variable {σ : Type}

/-- `JsonRpcDispatcher::handle`。`id` のない要求には答えない。 -/
def handle (S : McpServices σ) (request : JsonRpcRequest) (now : Nat) : Thread σ (Option Value) :=
  match request.id with
  | none => .done none
  | some id =>
    if request.method = "initialize" then .done (some (response id (initializeResult S.packageVersion)))
    else if request.method = "tools/list" then
      .done (some (response id (Value.object [("tools", .arr S.listTools)])))
    else if request.method = "tools/call" then
      (S.call request.params now).map fun
        | .ok result => some (response id result)
        | .error error => some (errorResponse id error)
    else .done (some (errorResponse id (.methodNotFound request.method)))

inductive ConnectionTask (σ : Type) where
  | reading
  | handling (thread : Thread σ (Option Value))
  | writing (response : Value)
  | finished (ok : Bool)
  /-- 受け付けの繰り返しに回収された。 -/
  | joined

structure Connection (σ : Type) where
  /-- 届いて、まだ読まれていないバイト。 -/
  arrived : List UInt8
  /-- 相手がこれ以上送らない。 -/
  closed : Bool
  output : List String
  task : ConnectionTask σ

def Connection.accepted : Connection σ := ⟨[], false, [], .reading⟩

def takeLine : List UInt8 → Option (List UInt8 × List UInt8)
  | [] => none
  | b :: bs => if b = 10 then some ([b], bs) else (takeLine bs).map fun p => (b :: p.1, p.2)

inductive ConnectionEvent where
  | arrives (bytes : List UInt8)
  | closes
  /-- 読み取りが、切断などで失敗する。 -/
  | readFails
  | reads (now : Nat)
  | handles
  /-- 答えの書き込みが終わる。`written` は成否。 -/
  | writes (written : Bool)

namespace Connection

/-- 読んだ一行を要求として扱う。UTF-8 でない行では `read_line` が失敗する。 -/
def readLine (S : McpServices σ) (conn : Connection σ) (line rest : List UInt8) (now : Nat) : Connection σ :=
  match String.fromUTF8? ⟨line.toArray⟩ with
  | none => { conn with task := .finished false }
  | some text =>
    { conn with
      arrived := rest
      task :=
        match S.readRequest text with
        | .ok request => .handling (handle S request now)
        | .error message => .writing (parseError message) }

/-- `handle_connection` の一歩。サーバが閉じ始めていれば（`serving` でなければ）、読み取りと書き込みを待たずに終わる。 -/
def step (S : McpServices σ) (serving : Bool) (store : σ) (conn : Connection σ) : ConnectionEvent → σ × Connection σ
  | .arrives bytes => (store, if conn.closed then conn else { conn with arrived := conn.arrived ++ bytes })
  | .closes => (store, { conn with closed := true })
  | .readFails =>
    match conn.task with
    | .reading => (store, { conn with task := .finished (!serving) })
    | _ => (store, conn)
  | .reads now =>
    match conn.task with
    | .reading =>
      if !serving then (store, { conn with task := .finished true })
      else
        match takeLine conn.arrived with
        | some (line, rest) => (store, conn.readLine S line rest now)
        | none =>
          if !conn.closed then (store, conn)
          else if conn.arrived.isEmpty then (store, { conn with task := .finished true })
          -- 改行の前に切れた行
          else (store, conn.readLine S conn.arrived [] now)
    | _ => (store, conn)
  | .handles =>
    match conn.task with
    | .handling (.done none) => (store, { conn with task := .reading })
    | .handling (.done (some answer)) => (store, { conn with task := .writing answer })
    | .handling (.step guard write next) =>
      if guard store then (write store, { conn with task := .handling (next store) }) else (store, conn)
    | _ => (store, conn)
  | .writes written =>
    match conn.task with
    | .writing answer =>
      if !serving then (store, { conn with task := .finished true })
      else if written then
        (store, { conn with
          output := conn.output ++ [answer.render]
          task := .reading })
      else (store, { conn with task := .finished false })
    | _ => (store, conn)

end Connection

/-! ## 受け付けの繰り返し -/

structure McpServer (σ : Type) where
  store : σ
  connections : Nat → Option (Connection σ)
  shutdownRequested : Bool
  /-- 繰り返しの中にいる。抜けると、どの接続にも終わりが伝わる。 -/
  running : Bool
  failed : Bool

inductive McpEvent (σ : Type) where
  | connects (c : Nat)
  | connection (c : Nat) (e : ConnectionEvent)
  /-- 終わった接続の処理を回収する。 -/
  | joins (c : Nat)
  /-- ほかの処理が貯蔵庫を書き換える。 -/
  | stored (store : σ)
  | shutdown
  /-- 終了の要求を見て、繰り返しを抜ける。 -/
  | stops

def McpEvent.ofClient (m : Nat) : McpEvent σ → Bool
  | .connects c => c == m
  | .connection c _ => c == m
  | .joins c => c == m
  | _ => false

namespace McpServer

def bind (store : σ) : McpServer σ where
  store
  connections _ := none
  shutdownRequested := false
  running := true
  failed := false

def setConnection (s : McpServer σ) (c : Nat) (conn : Connection σ) : McpServer σ :=
  { s with connections := Function.update s.connections c (some conn) }

/-- 繰り返しは、終了の要求、終わった処理、新しい接続の順に見る。要求があれば、残りは見ない。 -/
def looping (s : McpServer σ) : Bool := s.running && !s.shutdownRequested

/-- 回収した処理の結果。繰り返しの中なら、誤りで抜ける。 -/
def joinConnection (s : McpServer σ) (c : Nat) (conn : Connection σ) : McpServer σ :=
  match conn.task with
  | .finished ok =>
    if s.looping then
      { s.setConnection c { conn with task := .joined } with
        running := ok
        failed := !ok }
    else if s.running then s
    else { s.setConnection c { conn with task := .joined } with failed := s.failed || !ok }
  | _ => s

def step (S : McpServices σ) (s : McpServer σ) : McpEvent σ → McpServer σ
  | .connects c =>
    match s.connections c with
    | none => if s.looping then s.setConnection c .accepted else s
    | some _ => s
  | .connection c e =>
    match s.connections c with
    | none => s
    | some conn =>
      { s.setConnection c (conn.step S s.running s.store e).2 with store := (conn.step S s.running s.store e).1 }
  | .joins c =>
    match s.connections c with
    | none => s
    | some conn => s.joinConnection c conn
  | .stored store => { s with store }
  | .shutdown => { s with shutdownRequested := true }
  | .stops => if s.shutdownRequested then { s with running := false } else s

def run (S : McpServices σ) (s : McpServer σ) (events : List (McpEvent σ)) : McpServer σ := events.foldl (step S) s

/-- `run_until` の返り値。すべての接続の処理を回収するまで返らない。 -/
def Returned (s : McpServer σ) (ok : Bool) : Prop :=
  s.running = false ∧ s.failed = !ok ∧ ∀ c conn, s.connections c = some conn → conn.task = .joined

def outputOf (s : McpServer σ) (c : Nat) : List String := ((s.connections c).map Connection.output).getD []

def Serves (S : McpServices σ) (s : McpServer σ) : Prop :=
  s.shutdownRequested = false →
    s.running = true ∧ ∀ c, s.connections c = none → (s.step S (.connects c)).connections c = some .accepted

/-- 相手 `m` の出来事を除く。`m` の要求が貯蔵庫に加えた変更は、ほかの処理の変更として残す。 -/
def without (S : McpServices σ) (m : Nat) : McpServer σ → List (McpEvent σ) → List (McpEvent σ)
  | _, [] => []
  | s, e :: events => (if e.ofClient m then .stored (s.step S e).store else e) :: without S m (s.step S e) events

/-- 相手 `m` がいてもいなくても、ほかの相手への答えは同じである。 -/
structure Isolated (S : McpServices σ) (s : McpServer σ) (events : List (McpEvent σ)) (m : Nat) : Prop where
  others : ∀ c, c ≠ m → (s.run S events).outputOf c = (s.run S (s.without S m events)).outputOf c
  /-- 貯蔵庫を変える要求をしない相手は、いないのと同じである。 -/
  absent : (∀ n e, events[n]? = some e → e.ofClient m = true →
      ((s.run S (events.take n)).step S e).store = (s.run S (events.take n)).store) →
    ∀ c, c ≠ m → (s.run S events).outputOf c = (s.run S (events.filter fun e => !e.ofClient m)).outputOf c

/-- 終了を求められる前に、誤りで終わった接続の処理を回収する一歩でない。 -/
def Harmless (s : McpServer σ) : McpEvent σ → Prop
  | .joins c => s.looping = true → ∀ conn, s.connections c = some conn → ∀ ok, conn.task = .finished ok → ok = true
  | _ => True

end McpServer

end Codeoff.Mcp
