import Codeoff.State.Deliveries

/-!
# 運用者の操作の証拠

宛先の写しから読む経路（`DeliveryTargetRoute`）と、結果の分からない配送への操作が持つ受領と証拠の検査。証拠は、正規の JSON で、
宛先の経路と一致しなければならない。
-/

namespace Codeoff.State

open Codeoff.Core Codeoff.Relational

def hasExactKeys (keys : List String) : Json.Value → Bool
  | .obj ms => ms.length == keys.length && keys.all fun key => ms.any fun m => m.1 == key
  | _ => false

/-- `as_u64`。 -/
def asU64 (v : Json.Value) : Option Nat := v.asInt.bind fun n => if 0 ≤ n then some n.toNat else none

/-- `as_i64`。 -/
def asI64 (v : Json.Value) : Option Int := v.asInt.bind fun n => if inI64 n then some n else none

def textField (key : String) (v : Json.Value) : Option String := (v.get key).bind Json.Value.asStr

def isNullField (key : String) (v : Json.Value) : Bool :=
  match v.get key with
  | some .null => true
  | _ => false

def orInvalidJson {α : Type} (field : String) (o : Option α) : Except StateValueError α :=
  match o with
  | some a => .ok a
  | none => .error (.invalidJson field)

def requireJson (field : String) (c : Bool) : Except StateValueError Unit :=
  if c then .ok () else .error (.invalidJson field)

def validateTexts (field identity : String) (v : Json.Value) : List String → Except StateValueError Unit
  | [] => .ok ()
  | key :: keys => do
    let text ← orInvalidJson field (textField key v)
    validateText identity text
    validateTexts field identity v keys

/-- 文字列なら検査し、そうでなければ null でなければならない。 -/
def validateNullableText (field identity key : String) (v : Json.Value) : Except StateValueError Unit :=
  match textField key v with
  | some text => validateText identity text
  | none => requireJson field (isNullField key v)

/-! ## 宛先の経路 -/

def routeField : String := "delivery target route"

structure DeliveryTargetRoute where
  provider : String
  tenant : String
  kind : String
  conversationId : String
  threadId : Option String
  requestedIdentityDigest : String
deriving DecidableEq, Repr

def validateDeliveryRouteAuthority (authority : Json.Value) (tenant : String) :
    Except StateValueError Json.Value := do
  let field := "delivery target route authority"
  requireJson field (hasExactKeys ["context_team_id", "conversation_host_id", "enterprise_id", "team_id"]
      authority && textField "team_id" authority == some tenant
    && textField "context_team_id" authority == some tenant)
  let host ← orInvalidJson routeField (textField "conversation_host_id" authority)
  validateText "delivery target conversation host" host
  validateNullableText field "delivery target enterprise" "enterprise_id" authority
  return authority

def validateDeliveryRouteEvidence (evidence : Json.Value) : Except StateValueError Unit := do
  let field := "delivery target route evidence"
  requireJson field (hasExactKeys ["digest", "version"] evidence
    && ((evidence.get "version").bind asU64).any (0 < ·))
  let digest ← orInvalidJson field (textField "digest" evidence)
  validateLowercaseSha256 "delivery target authorization evidence digest" digest

/-- 住所から読む座標と、宛先の同一性を定める部分。 -/
structure RouteAddress where
  conversationId : String
  threadId : Option String
  requestedIdentityDigest : String
  identityAddress : Json.Value

def routeAddressKeys : List String :=
  ["authorization_evidence", "coordinates", "created_at", "requested_identity_digest",
    "routing_authority", "schema_version", "workspace_id"]

/-- スレッドの座標だけが `thread_ts` を持つ。 -/
def validCoordinates (kind : String) (coordinates : Json.Value) : Bool :=
  hasExactKeys (if kind = "thread" then ["channel_id", "thread_ts"] else ["channel_id"]) coordinates

def parseDeliveryTargetRouteAddress (address : Json.Value) (tenant kind : String) :
    Except StateValueError RouteAddress := do
  requireJson routeField (hasExactKeys routeAddressKeys address
    && (address.get "schema_version").bind asU64 == some 1
    && textField "workspace_id" address == some tenant
    && ((address.get "created_at").bind asI64).any (0 ≤ ·))
  let requested ← orInvalidJson routeField (textField "requested_identity_digest" address)
  validateLowercaseSha256 "delivery target requested identity digest" requested
  let authority ← orInvalidJson routeField (address.get "routing_authority")
  let authority ← validateDeliveryRouteAuthority authority tenant
  let evidence ← orInvalidJson routeField (address.get "authorization_evidence")
  validateDeliveryRouteEvidence evidence
  let coordinates ← orInvalidJson routeField (address.get "coordinates")
  requireJson routeField (validCoordinates kind coordinates)
  let conversationId ← orInvalidJson routeField (textField "channel_id" coordinates)
  validateText "delivery target route conversation" conversationId
  let threadId ← match coordinates.get "thread_ts" with
    | none => pure none
    | some thread => do
      let threadId ← orInvalidJson routeField thread.asStr
      validateText "delivery target route thread" threadId
      pure (some threadId)
  return { conversationId, threadId, requestedIdentityDigest := requested,
           identityAddress := .object [("coordinates", coordinates), ("routing_authority", authority),
             ("workspace_id", .str tenant)] }

def routeIdentityJson (identityAddress : Json.Value) (connector kind provider tenant : String) : String :=
  (Json.Value.object [("address", identityAddress), ("connector", .str connector), ("kind", .str kind),
    ("provider", .str provider), ("tenant", .str tenant)]).render

def routeTargetKeys : List String :=
  ["address", "connector", "identity_digest", "kind", "provider", "resolver_digest", "resolver_version",
    "tenant"]

def DeliveryTargetRoute.fromCanonicalTargetJson (E : Env) (targetJson : String) :
    Except StateValueError DeliveryTargetRoute := do
  let target ← orInvalidJson routeField (Json.parse targetJson)
  if target.render ≠ targetJson then throw (.nonCanonicalJson routeField)
  requireJson routeField (hasExactKeys routeTargetKeys target
    && ((target.get "resolver_version").bind asU64).any fun v => 0 < v && v < 2 ^ 32)
  let provider ← orInvalidJson routeField (textField "provider" target)
  let connector ← orInvalidJson routeField (textField "connector" target)
  let tenant ← orInvalidJson routeField (textField "tenant" target)
  let kind ← orInvalidJson routeField (textField "kind" target)
  let _ ← orInvalidJson routeField (textField "resolver_digest" target)
  validateTexts routeField "delivery target route identity" target
    ["provider", "connector", "tenant", "kind", "resolver_digest"]
  let identityDigest ← orInvalidJson routeField (textField "identity_digest" target)
  validateLowercaseSha256 "delivery target identity digest" identityDigest
  requireJson routeField (kind == "channel" || kind == "direct_message" || kind == "thread")
  let address ← orInvalidJson routeField (target.get "address")
  let address ← parseDeliveryTargetRouteAddress address tenant kind
  if E.sha256Hex (utf8Bytes (routeIdentityJson address.identityAddress connector kind provider tenant))
      ≠ identityDigest then
    throw (.invalidSha256 "delivery target identity digest")
  return { provider, tenant, kind, conversationId := address.conversationId,
           threadId := address.threadId, requestedIdentityDigest := address.requestedIdentityDigest }

def validateOperatorProviderReceipt (receipt : String) : Except StateValueError Unit := do
  let field := "operator provider receipt"
  let value ← orInvalidJson field (Json.parse receipt)
  requireJson field (hasExactKeys ["conversation_id", "message_id", "provider", "receipt_version",
    "target_kind", "tenant", "thread_id"] value)
  if (value.get "receipt_version").bind asU64 ≠ some 1 then throw .invalidVersion
  validateTexts field "operator provider receipt identity" value
    ["provider", "tenant", "target_kind", "conversation_id", "message_id"]
  validateNullableText field "operator provider receipt thread id" "thread_id" value
  if value.render ≠ receipt then throw (.nonCanonicalJson field)

/-- 証拠の種類ごとの、問い合わせの結果。問い合わせを要しない種類は `none` である。 -/
def expectedQueryResult : String → Except StateValueError (Option String)
  | "provider_confirmed_delivered" => .ok (some "write_confirmed")
  | "provider_confirmed_no_write" => .ok (some "no_write_confirmed")
  | "operator_force_resend" => .ok (some "no_matching_write_found")
  | "operator_acknowledged_unknown" => .ok none
  | _ => .error .invalidVersion

def evidenceIdentityKeys : List String :=
  ["evidence_id", "evidence_version", "kind", "provider", "target_kind", "tenant"]

def evidenceQueryKeys : List String :=
  ["provider_query_completed_at", "provider_query_result", "provider_query_scope",
    "provider_query_started_at", "provider_query_summary_digest", "provider_query_window_end",
    "provider_query_window_start"]

def maxQueryWindowSeconds : Int := 31 * 24 * 60 * 60

def validateEvidenceQuery (field result : String) (evidence : Json.Value) : Except StateValueError Unit := do
  let startedAt ← orInvalidJson field ((evidence.get "provider_query_started_at").bind asI64)
  let completedAt ← orInvalidJson field ((evidence.get "provider_query_completed_at").bind asI64)
  let windowStart ← orInvalidJson field ((evidence.get "provider_query_window_start").bind asI64)
  let windowEnd ← orInvalidJson field ((evidence.get "provider_query_window_end").bind asI64)
  requireJson field (0 ≤ startedAt && startedAt ≤ completedAt && 0 ≤ windowStart
    && windowStart ≤ windowEnd && windowEnd ≤ completedAt
    && windowEnd - windowStart ≤ maxQueryWindowSeconds
    && textField "provider_query_scope" evidence == some "canonical_delivery_target"
    && textField "provider_query_result" evidence == some result)
  let summary ← orInvalidJson field (textField "provider_query_summary_digest" evidence)
  validateLowercaseSha256 "operator query summary digest" summary

def validateOperatorDeliveryEvidence (E : Env) (evidenceJson evidenceDigest expectedKind : String)
    (providerReceipt : Option String) : Except StateValueError Unit := do
  let field := "operator delivery evidence"
  validateLowercaseSha256 "operator evidence digest" evidenceDigest
  let evidence ← orInvalidJson field (Json.parse evidenceJson)
  let result ← expectedQueryResult expectedKind
  requireJson field (hasExactKeys (evidenceIdentityKeys ++ (if result.isSome then evidenceQueryKeys else [])
    ++ (if providerReceipt.isSome then ["receipt_digest"] else [])) evidence)
  if (evidence.get "evidence_version").bind asU64 ≠ some 1 ∨ textField "kind" evidence ≠ some expectedKind then
    throw .invalidVersion
  validateTexts field "operator delivery evidence identity" evidence
    ["evidence_id", "provider", "tenant", "target_kind"]
  match result with
  | some result => validateEvidenceQuery field result evidence
  | none => pure ()
  match providerReceipt with
  | some receipt => do
    let digest ← orInvalidJson field (textField "receipt_digest" evidence)
    validateLowercaseSha256 "operator receipt digest" digest
    if E.sha256Hex (utf8Bytes receipt) ≠ digest then throw (.invalidSha256 "operator receipt digest")
  | none => pure ()
  if evidence.render ≠ evidenceJson then throw (.nonCanonicalJson field)
  if E.sha256Hex (utf8Bytes evidenceJson) ≠ evidenceDigest then
    throw (.invalidSha256 "operator evidence digest")

inductive ScheduledDeliveryUnknownAction where
  | confirmDelivered (providerReceipt : String) (evidence : String × String)
  | confirmNoWriteTerminal (evidence : String × String)
  | forceResend (evidence reason : String × String) (duplicateRiskAcknowledged : Bool)
  | acknowledgeUnknown (evidence : String × String)
deriving DecidableEq, Repr

namespace ScheduledDeliveryUnknownAction

def evidence : ScheduledDeliveryUnknownAction → String × String
  | .confirmDelivered _ e => e
  | .confirmNoWriteTerminal e => e
  | .forceResend e _ _ => e
  | .acknowledgeUnknown e => e

def receipt : ScheduledDeliveryUnknownAction → Option String
  | .confirmDelivered r _ => some r
  | _ => none

def evidenceKind : ScheduledDeliveryUnknownAction → String
  | .confirmDelivered .. => "provider_confirmed_delivered"
  | .confirmNoWriteTerminal _ => "provider_confirmed_no_write"
  | .forceResend .. => "operator_force_resend"
  | .acknowledgeUnknown _ => "operator_acknowledged_unknown"

/-- 確認の操作だけが受領を、再送の操作だけが理由を持ち、再送は重複の危険を認めていなければならない。 -/
def validate (E : Env) (a : ScheduledDeliveryUnknownAction) : Except StateValueError Unit := do
  match a with
  | .confirmDelivered receipt _ => validateOperatorProviderReceipt receipt
  | .forceResend _ reason acknowledged => do
    if !acknowledged then throw .invalidVersion
    validateOperatorReason E reason.1 reason.2
  | _ => pure ()
  validateOperatorDeliveryEvidence E a.evidence.1 a.evidence.2 a.evidenceKind a.receipt

end ScheduledDeliveryUnknownAction

def validateReceiptBinding (route : DeliveryTargetRoute) (receipt : Json.Value) : Except StateError Unit := do
  if textField "provider" receipt ≠ some route.provider ∨ textField "tenant" receipt ≠ some route.tenant
      ∨ textField "target_kind" receipt ≠ some route.kind then
    invalidState "operator provider receipt does not bind the immutable target snapshot"
  if textField "conversation_id" receipt ≠ some route.conversationId then
    invalidState "operator provider receipt conversation does not bind the target address"
  if textField "thread_id" receipt ≠ route.threadId then
    invalidState "operator provider receipt thread does not bind the target address"

/-- `validate_operator_delivery_target_binding`。受領の文面は、操作の検査で読めることが分かっている。 -/
def validateOperatorDeliveryTargetBinding (E : Env) (targetJson : String)
    (action : ScheduledDeliveryUnknownAction) : Except StateError Unit := do
  let field := "operator delivery evidence"
  let route ← invalidValue (DeliveryTargetRoute.fromCanonicalTargetJson E targetJson)
  invalidValue (action.validate E)
  let evidence ← invalidValue (orInvalidJson field (Json.parse action.evidence.1))
  if textField "provider" evidence ≠ some route.provider ∨ textField "tenant" evidence ≠ some route.tenant
      ∨ textField "target_kind" evidence ≠ some route.kind then
    invalidState "operator delivery evidence does not bind the immutable target snapshot"
  match action.receipt with
  | none => return ()
  | some text => do
    let receipt ← invalidValue (orInvalidJson "operator provider receipt" (Json.parse text))
    if !(match receipt with | .obj _ => true | _ => false) then
      invalidState "operator provider receipt must be an object"
    validateReceiptBinding route receipt

end Codeoff.State
