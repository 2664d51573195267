import Codeoff.Agent.Task
import Codeoff.Core.Identity
import Codeoff.Json.Value

/-!
# App Server との文

一行に一つの JSON-RPC の文。応答、知らせ、要求が、同じ回線を通る。
-/

namespace Codeoff.Json.Value

def isNull : Value → Bool
  | .null => true
  | _ => false

def asArr : Value → Option (List Value)
  | .arr values => some values
  | _ => none

def asObj : Value → Option (List (String × Value))
  | .obj members => some members
  | _ => none

end Codeoff.Json.Value

namespace Codeoff.Codex

open Codeoff.Core Codeoff.Json

/-- `value["key"]`。無い欄は null である。 -/
def field (value : Value) (key : String) : Value := .ofOption (value.get key)

def method (message : Value) : Option String := (field message "method").asStr

def params (message : Value) : Value := field message "params"

def messageId (message : Value) : Value := field message "id"

def hasError (message : Value) : Bool := (message.get "error").isSome

/-- `id` のない、メソッドのある文。 -/
def isNotification (message : Value) : Bool := (message.get "id").isNone && (method message).isSome

/-- `id` のある、メソッドのある文。答えを求めている。 -/
def isServerRequest (message : Value) : Bool := !(messageId message).isNull && (method message).isSome

/-- `threadId` と `turnId` が、いまの発話を指す。 -/
def namesTurn (threadId turnId : String) (params : Value) : Bool :=
  (field params "threadId").asStr == some threadId && (field params "turnId").asStr == some turnId

/-- `turn/completed` が、いまの発話を指す。 -/
def namesEndedTurn (threadId turnId : String) (params : Value) : Bool :=
  (field params "threadId").asStr == some threadId && (field (field params "turn") "id").asStr == some turnId

def startedTurn (response : Value) : Option String :=
  (field (field response "turn") "id").asStr <|> (field response "turn_id").asStr

/-- `tool` か `name` にある道具の名。 -/
def calledTool (params : Value) : Option String := (field params "tool").asStr <|> (field params "name").asStr

def isTurnNotification (threadId turnId : String) (message : Value) : Bool :=
  isNotification message
    && (namesTurn threadId turnId (params message) || namesEndedTurn threadId turnId (params message))

/-- 応答の `result`。無ければ空のオブジェクトである。 -/
def responseResult (response : Value) : Value := (response.get "result").getD (.obj [])

def requestMessage (id : Nat) (method : String) (params : Value) : Value :=
  .object [("jsonrpc", .str "2.0"), ("id", .int id), ("method", .str method), ("params", params)]

def notificationMessage (method : String) : Value :=
  .object [("jsonrpc", .str "2.0"), ("method", .str method)]

/-- 要求 `message` への応答。 -/
def responseMessage (message result : Value) : Value :=
  .object [("jsonrpc", .str "2.0"), ("id", messageId message), ("result", result)]

/-- 応答。メソッドがなく、`result` がある。 -/
def isResponse (message : Value) : Bool := (method message).isNone && (message.get "result").isSome

/-- `turn/start` の要求か。 -/
def isTurnStart (message : Value) : Bool := method message == some "turn/start"

def toAsciiLowercase (s : String) : List Char := s.toList.map Char.toLower

/-- `part` が途中に現れるか。 -/
def containsChars (part : String) (chars : List Char) : Bool := chars.tails.any fun rest => part.toList.isPrefixOf rest

mutual
def jsonDepth : Value → Nat
  | .arr values => 1 + elementsDepth values
  | .obj members => 1 + membersDepth members
  | _ => 1

def elementsDepth : List Value → Nat
  | [] => 0
  | v :: vs => max (jsonDepth v) (elementsDepth vs)

def membersDepth : List (String × Value) → Nat
  | [] => 0
  | (_, v) :: ms => max (jsonDepth v) (membersDepth ms)
end

end Codeoff.Codex
