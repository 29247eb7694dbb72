import Libdiscord.Base.Ownership
import Libdiscord.Gateway.Effects

/-! The references to jansson values that the library owns and gives up.

Each function has a ledger beside it, with an entry where the source calls a constructor of jansson, a
setter that steals its argument, or `json_decref`. The setter `json_object_set` takes a reference of
its own and leaves the caller's where it is.
-/

set_option autoImplicit false

namespace Libdiscord

open Libdiscord.Base
open Json (ofText)

inductive JsonRef where
  -- what `json_loadb` or `json_loads` returns, and what is found in it under a key
  | decoded
  | found (key : String)
  -- the object `ld_json_create_payload` makes, and its operation code and sequence number
  | payload
  | op
  | seq
  -- the object `ld_json_unpack_identify` makes, and its members
  | identify
  | properties
  | largeThreshold
  | shard
  | shardElement (index : Nat)
  | presence
  | roles
  | role (index : Nat)
  -- the string made for a key
  | string (key : String)
  deriving DecidableEq

-- The elements of an array.
def JsonRef.Element : JsonRef → Prop
  | .shardElement _ | .role _ => True
  | _ => False

abbrev Ledger := List (Entry JsonRef)

def stringLedger (ex : Externals) (key : String) (text : Option Text) : Ledger :=
  if (ofText ex text).isSome then [.owned (.string key)] else []

/-- `ld_json_create_payload`: the setters steal what they are given. -/
def createPayloadLedger (opcode : JsonRef) (d t s : Option JsonRef) : Ledger :=
  .owned .payload :: .given opcode :: (d.toList ++ t.toList ++ s.toList).map .given

/-- `ld_json_unpack_status_update`. The array of roles is made in any case, and its elements are stolen. -/
def unpackStatusUpdateLedger (ex : Externals) (beyond : Nat → UInt64) (update : StatusUpdate) : Ledger :=
  .owned .presence :: stringLedger ex "user" (some (Json.snowflake2str update.guildId)) ++
  .owned .roles :: (match update.roles with
    | none => []
    | some roles => (List.range (Json.rolesStrlen roles)).flatMap fun i =>
      let element := ((roles ++ [0])[i]?).getD (beyond i)
      if (ofText ex (some (Json.snowflake2str element))).isSome then [.owned (.role i), .given (.role i)]
      else []) ++
  stringLedger ex "status" (Json.status2str update.status)

def connectionPropertiesLedger (ex : Externals) (properties : ConnectionProperties) : Ledger :=
  .owned .properties :: stringLedger ex "$os" (some (properties.os.getD (ascii "unknown"))) ++
  stringLedger ex "$device" (some (properties.device.getD Json.libname)) ++
  stringLedger ex "$browser" (some (properties.browser.getD Json.libname))

/-- `ld_json_unpack_identify`. The boolean is one of jansson's own, which are not counted. -/
def unpackIdentifyLedger (ex : Externals) (beyond : Nat → UInt64) (identify : Identify) : Ledger :=
  .owned .identify :: match identify.token with
    | none => []
    | some token => stringLedger ex "token" (some token) ++ match identify.properties with
      | none => []
      | some properties => connectionPropertiesLedger ex properties ++
        [.owned .largeThreshold, .owned .shard, .owned (.shardElement 0), .given (.shardElement 0),
          .owned (.shardElement 1), .given (.shardElement 1)] ++
        match identify.statusUpdate with
        | none => []
        | some update => unpackStatusUpdateLedger ex beyond update

/-- The case HELLO: the payload that is made takes the operation code and the data, and is dropped. -/
def helloLedger (ex : Externals) (w : World) (ctx : Context) : Ledger :=
  let ident := (helloIdentify w ctx).1
  .owned .op :: unpackIdentifyLedger ex w.beyondRoles ident ++
    match Json.unpackIdentify ex w.beyondRoles ident with
    | none => []
    | some _ => createPayloadLedger .op (some .identify) none none ++ [.given .payload]

/-- `ld_gateway_payload_parser`. In the case HELLO the variable that holds the decoded payload is
overwritten before `json_decref`; the other cases drop nothing. -/
def payloadParserLedger (ex : Externals) (w : World) (ctx : Context) (text : Text) : Ledger :=
  match ex.loadb text with
  | none => []
  | some payload => .owned .decoded ::
    match scanMembers ⟨ctx.lastSeq, opcodeUnknown, none, none⟩ payload.members with
    | .error _ => []
    | .ok scan => match GatewayOpcode.ofCode scan.opcode with
      | .hello => helloLedger ex w
        { ctx with lastSeq := scan.lastSeq, heartbeatInterval := helloInterval scan.d }
      | _ => []

/-- `ld_gateway_queue_heartbeat`, where `json_decref` is commented out: none of the ways out adds to
what was done to create the payload. -/
def queueHeartbeatLedger : Ledger :=
  .owned .op :: .owned .seq :: createPayloadLedger .op (some .seq) none none

/-- `_ld_get_gateway`: at its end it drops what it has found as well as what it was found in. -/
def getGatewayLedger (ex : Externals) (ctx : Context) (exchange : Rest.Exchange) : Option Ledger :=
  (Rest.sendRequest ctx.curlHandle Rest.initResponse (Rest.getGateway (Rest.initRequest none)) exchange).map
    fun (sent : Rest.Sent) =>
      if sent.ret ≠ .ok then []
      else match ex.loads sent.response.text with
        | none => []
        | some object => .owned .decoded :: match Json.get? (some object) "url" with
          | none => []
          | some tmp => match tmp.stringValue with
            | none => []
            | some _ => [.given (.found "url"), .given .decoded]

section
variable {ex : Externals} {w : World} {ctx : Context}

@[simp] theorem stringLedger_gives (key : String) (text : Option Text) :
    GivesOnly JsonRef.Element (stringLedger ex key text) := by
  unfold stringLedger
  split <;> simp

theorem unpackStatusUpdateLedger_gives (beyond : Nat → UInt64) (update : StatusUpdate) :
    GivesOnly JsonRef.Element (unpackStatusUpdateLedger ex beyond update) := by
  unfold unpackStatusUpdateLedger
  cases update.roles with
  | none => simp
  | some roles =>
    have each : ∀ (element : Option Text) (i : Nat), GivesOnly JsonRef.Element
        (if (ofText ex element).isSome then [.owned (.role i), .given (.role i)] else []) := by
      intro element i
      split <;> simp [JsonRef.Element]
    simp [each]

theorem unpackIdentifyLedger_gives (beyond : Nat → UInt64) (identify : Identify) :
    GivesOnly JsonRef.Element (unpackIdentifyLedger ex beyond identify) := by
  unfold unpackIdentifyLedger
  cases identify.token with
  | none => simp
  | some token =>
    cases identify.properties with
    | none => simp
    | some properties =>
      have made : GivesOnly JsonRef.Element (connectionPropertiesLedger ex properties) := by
        simp [connectionPropertiesLedger]
      cases identify.statusUpdate with
      | none => simp [made, JsonRef.Element]
      | some update => simp [made, unpackStatusUpdateLedger_gives, JsonRef.Element]

theorem helloLedger_keeps : .given .decoded ∉ helloLedger ex w ctx := by
  suffices gives : GivesOnly (fun ref : JsonRef => ref ≠ .decoded) (helloLedger ex w ctx) from
    fun given => gives .decoded given rfl
  have made : GivesOnly (fun ref : JsonRef => ref ≠ .decoded)
      (unpackIdentifyLedger ex w.beyondRoles (helloIdentify w ctx).1) := by
    refine (unpackIdentifyLedger_gives _ _).mono fun ref element same => ?_
    rw [same] at element
    exact element
  unfold helloLedger
  dsimp only
  split <;> simp [made, createPayloadLedger]

/-- HELLO drops the payload it has made exactly where the parser returns success. -/
theorem helloLedger_drops {d : Option Json} {out : Outcome} (ran : gatewayHello ex w ctx d = some out) :
    .given .payload ∈ helloLedger ex w { ctx with heartbeatInterval := helloInterval d } ↔ out.ret = .ok := by
  have made : .given .payload ∉ unpackIdentifyLedger ex w.beyondRoles
      (helloIdentify w { ctx with heartbeatInterval := helloInterval d }).1 :=
    fun given => unpackIdentifyLedger_gives _ _ _ given
  unfold helloLedger
  dsimp only
  rcases gatewayHello_cases ran with ⟨refused, rfl⟩ | ⟨data, _, encoded, _, rfl⟩
  · rw [refused]
    exact iff_of_false (by simp [made]) (show (1 : Status) ≠ .ok by decide)
  · rw [encoded]
    exact iff_of_true (by simp) rfl

/-- The parser settles its references exactly on a text that is no JSON. -/
theorem payloadParserLedger_balanced (w : World) (ctx : Context) (text : Text) :
    Balanced (payloadParserLedger ex w ctx text) ↔ ex.loadb text = none := by
  unfold payloadParserLedger
  cases ex.loadb text with
  | none => simp [balanced_nil]
  | some payload =>
    refine iff_of_false (not_balanced_of_kept List.mem_cons_self fun given => ?_) nofun
    rcases List.mem_cons.mp given with same | given
    · cases same
    split at given
    · cases given
    · split at given
      · exact helloLedger_keeps given
      · cases given

theorem queueHeartbeatLedger_unbalanced : ¬Balanced queueHeartbeatLedger :=
  not_balanced_of_kept (show .owned JsonRef.payload ∈ queueHeartbeatLedger by decide) (by decide)

/-- `_ld_get_gateway` settles its references exactly where it decodes nothing: it keeps what it decodes,
or gives up what it has borrowed. -/
theorem getGatewayLedger_balanced (ex : Externals) (ctx : Context) (exchange : Rest.Exchange) :
    ∃ ledger, getGatewayLedger ex ctx exchange = some ledger ∧
      (Balanced ledger ↔ ¬(exchange.performed = true ∧ (ex.loads exchange.body).isSome = true)) := by
  obtain ⟨sent, sending, answered⟩ := Rest.sendRequest_answered ctx.curlHandle Rest.initResponse
    (Rest.getGateway (Rest.initRequest none)) exchange rfl rfl
  unfold getGatewayLedger
  rw [sending, Option.map_some, answered.text, answered.ret]
  refine ⟨_, rfl, ?_⟩
  cases performed : exchange.performed with
  | false => simp [Status.ok, Status.curlErr, balanced_nil]
  | true =>
    cases decoded : ex.loads exchange.body with
    | none => simp [balanced_nil]
    | some object =>
      refine iff_of_false ?_ (by simp)
      simp only [if_true, ne_eq, not_true, if_false]
      cases Json.get? (some object) "url" with
      | none => exact not_balanced_of_kept List.mem_cons_self (by decide)
      | some tmp =>
        cases value : tmp.stringValue with
        | none => exact not_balanced_of_kept List.mem_cons_self (by simp [value])
        | some url =>
          simp only [value]
          have given : .given (JsonRef.found "url") ∈ ([.owned .decoded, .given (.found "url"),
              .given .decoded] : Ledger) := by decide
          exact not_balanced_of_borrowed given (by decide)

/-- On every message and every response the references are settled exactly where nothing is decoded; and
queueing a heartbeat never settles them. -/
theorem references_settled_iff (ex : Externals) (w : World) (ctx : Context) (text : Text)
    (exchange : Rest.Exchange) :
    (Balanced (payloadParserLedger ex w ctx text) ↔ ex.loadb text = none) ∧
    ¬Balanced queueHeartbeatLedger ∧
    ∃ ledger, getGatewayLedger ex ctx exchange = some ledger ∧
      (Balanced ledger ↔ ¬(exchange.performed = true ∧ (ex.loads exchange.body).isSome = true)) :=
  ⟨payloadParserLedger_balanced w ctx text, queueHeartbeatLedger_unbalanced,
    getGatewayLedger_balanced ex ctx exchange⟩

end

/-- What is wanted: every reference is settled, whatever message or response comes. -/
def ReferencesSettled (ex : Externals) : Prop :=
  (∀ w ctx text, Balanced (payloadParserLedger ex w ctx text)) ∧ Balanced queueHeartbeatLedger ∧
    ∀ ctx exchange ledger, getGatewayLedger ex ctx exchange = some ledger → Balanced ledger

/-- What an acknowledgement was decoded to is never dropped. -/
theorem references_kept : ¬ReferencesSettled (.knowing [heartbeatAckMessage]) := by
  rintro ⟨parser, _, _⟩
  have balanced := parser (.calm 100) (System.ofBot (.knowing []) 16 99).ctx heartbeatAckMessage.encode
  rw [payloadParserLedger_balanced, knowing_first] at balanced
  cases balanced

end Libdiscord
