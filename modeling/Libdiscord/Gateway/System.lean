import Libdiscord.Base.Transition
import Libdiscord.Bootstrap
import Libdiscord.Gateway.Callback
import Libdiscord.Json.Text

/-! `ld_service`, and the system of a bot, the library and libwebsockets.

The bot calls `ld_service` or `ld_connect`. Inside such a call libwebsockets may get control, in
`lws_service` or in a connection attempt, and then runs any callbacks before it returns.
-/

set_option autoImplicit false

namespace Libdiscord

open Libdiscord.Base

/-- `ld_gateway_queue_heartbeat` -/
def queueHeartbeat (ex : Externals) (ctx : Context) : Outcome :=
  let hb := Json.createPayload (.integer 1) (some (.integer ctx.lastSeq.toInt64)) none none
  if ctx.gatewayRing.free = 0 then ⟨ctx, .websocketCantfitPayloadErr, []⟩
  else
    let text := ex.dumps hb
    let (ring, inserted) := ctx.gatewayRing.insert ⟨text, text.length⟩
    if inserted ≠ 1 then ⟨ctx, .websocketCantfitHeartbeatErr, []⟩
    else ⟨{ ctx with gatewayRing := ring }, .ok, [.queued .heartbeat text]⟩

/-- The timer test of `ld_service`, in seconds and unsigned. -/
def heartbeatDue (ctx : Context) (now : UInt64) : Bool :=
  now - ctx.lastHb > (ctx.heartbeatInterval / 1000).toUInt64 && ctx.heartbeatInterval ≠ 0

/-- The heartbeat block of `ld_service`; `later` is the second reading of the clock. -/
def heartbeatBlock (ex : Externals) (ctx : Context) (now later : UInt64) : Outcome :=
  if heartbeatDue ctx now then
    let ctx := { ctx with hbCount := ctx.hbCount + 1 }
    if ctx.hbCount > 1 then ⟨ctx, .websocketHeartbeatAcknowledegementMissed, []⟩
    else
      let out := queueHeartbeat ex ctx
      if out.ret ≠ .ok then
        ⟨{ out.ctx with hbCount := out.ctx.hbCount - 1 }, .websocketCantfitHeartbeatErr, out.events⟩
      else ⟨{ out.ctx with lastHb := later }, .ok, out.events⟩
  else ⟨ctx, .ok, []⟩

-- `lws_callback_on_writable`, where payloads wait to be sent
def requestWritable (ctx : Context) : List Event :=
  if ctx.gatewayRing.waiting ≠ 0 then [.writableRequested] else []

/-- Where control is: with the bot, in a connection attempt made for one of its calls, or in
`lws_service`. -/
inductive Control where
  | bot
  | connecting (caller : Caller)
  | serving
  deriving DecidableEq

structure ServiceWorld where
  http : Http
  created : Bool
  now : UInt64
  later : UInt64

inductive Move where
  | service (w : ServiceWorld)
  | connect (http : Http) (created : Bool)
  | callback (wsi : Wsi) (callback : Callback) (w : World)
  -- libwebsockets returns control to the library, which returns to the bot
  | leave

/-- `wsis` counts the connections started, the latest of which has this number. -/
structure System where
  ctx : Context
  control : Control
  wsis : Nat
  clock : UInt64
  history : List Event

def System.after (s : System) (out : Outcome) (control : Control) : System :=
  { s with ctx := out.ctx, control, history := s.history ++ out.events }

def System.returning (s : System) (out : Outcome) (caller : Caller) (status : Status) : System :=
  s.after { out with events := out.events ++ [.returned caller status] } .bot

-- What a call of the bot returns when the bootstrap has failed.
def connectError (ret : Status) : Caller → Status
  | .service => .connectionErr
  | .connect => ret

/-- `ld_connect` until libwebsockets gets control or an error returns to the bot. -/
def enterConnect (ex : Externals) (http : Http) (created : Bool) (caller : Caller) (s : System) :
    Option System :=
  (s.ctx.bootstrap ex http).map fun out =>
    if out.ret ≠ .ok then
      s.returning out caller (connectError out.ret caller)
    else
      let wsi := s.wsis + 1
      let attempt := out.ctx.gatewayConnect wsi created
      { s.after { attempt with events := out.events ++ attempt.events }
        (.connecting caller) with wsis := wsi }

/-- `ld_service` until libwebsockets gets control or the call returns to the bot. -/
def enterService (ex : Externals) (w : ServiceWorld) (s : System) : Option System :=
  if s.ctx.lwsWsi.isNone then enterConnect ex w.http w.created .service s
  else
    let out := heartbeatBlock ex s.ctx w.now w.later
    let s := { s with clock := w.later }
    if out.ret ≠ .ok then some (s.returning out .service out.ret)
    else some (s.after { out with events := out.events ++ requestWritable out.ctx } .serving)

def connectStatus (ctx : Context) : Caller → Status
  | .service => if ctx.connectReturn ≠ .ok then .connectionErr else .ok
  | .connect => ctx.connectReturn

/-- One step: `none` where the move is not possible or the process crashes. -/
def step (ex : Externals) (s : System) : Move → Option System
  | .service w => if s.control = .bot then enterService ex w s else none
  | .connect http created => if s.control = .bot then enterConnect ex http created .connect s else none
  | .callback wsi callback w =>
    if s.control = .bot then none
    else (lwsCallback ex w s.ctx wsi callback).map fun out =>
      { s.after { out with events := .delivered wsi callback :: out.events } s.control with clock := w.now }
  | .leave => match s.control with
    | .bot => none
    | .connecting caller => some (s.returning ⟨s.ctx, .ok, []⟩ caller (connectStatus s.ctx caller))
    | .serving => some (s.returning ⟨s.ctx, .ok, []⟩ .service .ok)

def System.start (ctx : Context) (now : UInt64) : System := ⟨ctx, .bot, 0, now, []⟩

/-- The systems that `ld_init_context` sets up. -/
def Booted (ex : Externals) (s : System) : Prop :=
  ∃ w info ctx, initContext ex w info = some (.ok ctx) ∧ s = .start ctx w.now

theorem Booted.fresh {ex : Externals} {s : System} (booted : Booted ex s) :
    s.history = [] ∧ s.control = .bot ∧ s.wsis = 0 ∧ s.clock = s.ctx.lastHb ∧ s.ctx.lwsWsi = none ∧
      s.ctx.lastSeq = 0 ∧ s.ctx.hbCount = 0 ∧ s.ctx.heartbeatInterval = 0 ∧ s.ctx.gatewayRing.items = [] ∧
      s.ctx.gatewayUrl = none ∧ s.ctx.gatewayBotUrl = none ∧ s.ctx.currentUser = none := by
  obtain ⟨w, info, ctx, initialised, rfl⟩ := booted
  obtain ⟨_, _, _, _, _, _, _, rfl⟩ := initContext_ok initialised
  exact ⟨rfl, rfl, rfl, rfl, rfl, rfl, rfl, rfl, rfl, rfl, rfl, rfl⟩

-- The system of a bot that passes its token and a callback, with a ring created for `size` elements.
def System.ofBot (ex : Externals) (size : Nat) (now : UInt64) : System :=
  .start {
    zeroContext (.empty (ex.ringCapacity size)) with
    botToken := some (ascii "token"), userCallback := true, lastHb := now
    device := some Json.libname, browser := some Json.libname, os := some ex.systemos } now

theorem booted_ofBot (ex : Externals) (size : Nat) (now : UInt64) : Booted ex (.ofBot ex size now) :=
  ⟨⟨true, true, true, now⟩, some ⟨some (ascii "token"), true, size, none, none, none, none⟩, _, rfl, rfl⟩

-- A call at this time where the servers answer and a connection object can be created.
def ServiceWorld.calm (now : UInt64) : ServiceWorld := ⟨.answering webAnswer.encode noUser, true, now, now⟩

-- A call of `ld_service` at this time, inside of which these callbacks run.
def Move.serving (now : UInt64) (wsi : Wsi) (callbacks : List Callback) : List Move :=
  .service (.calm now) :: callbacks.map (.callback wsi · (.calm now)) ++ [.leave]

end Libdiscord
