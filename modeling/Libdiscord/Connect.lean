import Libdiscord.Context

/-! Connecting to the gateway: the REST bootstrap of `ld_connect` and the connection attempt. -/

set_option autoImplicit false

namespace Libdiscord

open Rest

-- What the servers answer during one `ld_connect`, and the memory `malloc` returns for the user.
structure Http where
  gateway : Exchange
  gatewayBot : Exchange
  currentUser : Exchange
  staleUser : User

namespace Context

/-- `_ld_get_gateway` -/
def getGateway (ex : Externals) (ctx : Context) (exchange : Exchange) : Option Outcome :=
  let request := Rest.getGateway (initRequest none)
  (sendRequest ctx.curlHandle initResponse request exchange).map fun sent =>
    let ctx := { ctx with curlHandle := sent.handle }
    let events := [.exchanged .gateway exchange]
    if sent.ret ≠ .ok then ⟨ctx, .error, events⟩
    else match ex.loads sent.response.text with
      | none => ⟨ctx, .jsonDecodingErr, events⟩
      | some object => match Json.get? (some object) "url" with
        | none => ⟨ctx, .jsonErr, events⟩
        | some tmp => match tmp.stringValue with
          | none => ⟨ctx, .jsonErr, events⟩
          | some url => ⟨{ ctx with gatewayUrl := some url }, .ok, events⟩

/-- `_ld_get_gateway_bot`. A request that fails is not the end of it: the body is decoded all
the same, and the url is stored before the shards are looked at. -/
def getGatewayBot (ex : Externals) (ctx : Context) (exchange : Exchange) : Option Outcome :=
  let request := Rest.getGatewayBot ctx.botToken (initRequest none)
  (sendRequest ctx.curlHandle initResponse request exchange).map fun sent =>
    let ctx := { ctx with curlHandle := sent.handle }
    let events := [.exchanged .gatewayBot exchange]
    match ex.loads sent.response.text with
    | none => ⟨ctx, .jsonDecodingErr, events⟩
    | some object => match Json.get? (some object) "url" with
      | none => ⟨ctx, .jsonCantfindkeyErr, events⟩
      | some tmp => match tmp.stringValue with
        | none => ⟨ctx, .jsonCantfindvalueErr, events⟩
        | some tmpurl =>
          let ctx := { ctx with gatewayBotUrl := some tmpurl }
          match Json.get? (some object) "shards" with
          | none => ⟨ctx, .jsonCantfindkeyErr, events⟩
          | some tmp =>
            if tmp.integerValue = 0 then ⟨ctx, .jsonCantfindvalueErr, events⟩
            else ⟨{ ctx with shards := tmp.integerValue.toInt32 }, .ok, events⟩

/-- `ld_get_current_user`, with the user struct it fills. -/
def getCurrentUser (ex : Externals) (ctx : Context) (user : User) (exchange : Exchange) :
    Option (Outcome × User) :=
  let request := { initRequest (some ctx.botToken) with verb := .get, endpoint := some (ascii "/users/@me") }
  (sendRequest ctx.curlHandle initResponse request exchange).map fun (sent : Sent) =>
    let ctx := { ctx with curlHandle := sent.handle }
    let events := [.exchanged .currentUser exchange]
    if sent.response.httpStatus ≠ 200 then (⟨ctx, 1, events⟩, user)
    else match ex.loads sent.response.text with
      | none => (⟨ctx, 1, events⟩, user)
      | some jsonUser => (⟨ctx, .ok, events⟩, Json.loadUser user jsonUser)

def bootstrapGateway (ex : Externals) (http : Http) (ctx : Context) : Option Outcome :=
  if ctx.gatewayUrl.isNone then ctx.getGateway ex http.gateway else some ⟨ctx, .ok, []⟩

def bootstrapGatewayBot (ex : Externals) (http : Http) (ctx : Context) : Option Outcome :=
  if ctx.gatewayBotUrl.isNone then ctx.getGatewayBot ex http.gatewayBot else some ⟨ctx, .ok, []⟩

-- The pointer to the new struct is stored before the request that is to fill it.
def bootstrapCurrentUser (ex : Externals) (http : Http) (ctx : Context) : Option Outcome :=
  if ctx.currentUser.isNone then
    let ctx := { ctx with currentUser := some http.staleUser }
    (ctx.getCurrentUser ex http.staleUser http.currentUser).map fun (out, user) =>
      { out with ctx := { out.ctx with currentUser := some user } }
  else some ⟨ctx, .ok, []⟩

end Context

def Outcome.andThen (out : Outcome) (next : Context → Option Outcome) : Option Outcome :=
  if out.ret ≠ .ok then some out
  else (next out.ctx).map fun rest => { rest with events := out.events ++ rest.events }

namespace Context

/-- `ld_connect` until it calls `ld_gateway_connect` or returns an error. -/
def bootstrap (ex : Externals) (http : Http) (ctx : Context) : Option Outcome := do
  let out ← ctx.bootstrapGateway ex http
  let out ← out.andThen (·.bootstrapGatewayBot ex http)
  out.andThen (·.bootstrapCurrentUser ex http)

/-- `ld_gateway_connect` until `lws_client_connect_via_info` gives libwebsockets control: the
connection object is stored through `pwsi`, or null where none was created. -/
def gatewayConnect (ctx : Context) (wsi : Wsi) (created : Bool) : Outcome :=
  ⟨{ ctx with lwsWsi := if created then some wsi else none }, .ok, [.connecting wsi]⟩

/-- The rest of `ld_connect`, when `lws_client_connect_via_info` has returned. -/
def connectReturn (ctx : Context) : Status :=
  if ctx.lwsWsi.isNone then .websocketRingbufferErr else .ok

end Context

end Libdiscord
