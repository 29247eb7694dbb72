import Libdiscord.Gateway.Parser

/-! `ld_lws_callback`: what the library does when libwebsockets calls it. -/

set_option autoImplicit false

namespace Libdiscord

open Libdiscord.Base

/-- `strncpy`: `count` bytes, filled up with zeros from the first zero of the source on. -/
def strncpy (source : Text) (count : Nat) : Text :=
  let copied := (source.takeWhile (· ≠ 0)).take count
  copied ++ List.replicate (count - copied.length) 0

-- The room libwebsockets keeps for a session, from the table of protocols.
def sessionSize : Nat := 8192

def clientReceive (ex : Externals) (w : World) (ctx : Context) (fragment : Fragment UInt8) : Option Outcome :=
  let len := fragment.data.length
  if ctx.gatewayRxBuffer.isNone && fragment.final then
    (gatewayPayloadParser ex w ctx fragment.data).map fun out =>
      ⟨{ out.ctx with gatewayRxBuffer := none, gatewayRxBufferLen := 0 }, out.ret,
        .parsed fragment.data :: out.events⟩
  else if fragment.first then
    let block := (Block.malloc (len + 1)).write 0 (strncpy fragment.data len)
    some ⟨{ ctx with gatewayRxBuffer := some block, gatewayRxBufferLen := len }, .ok,
      [.bufferWrite .gatewayRx 0 len (len + 1)]⟩
  else if fragment.final && ctx.gatewayRxBuffer.isSome then
    let block := Block.realloc ctx.gatewayRxBuffer (ctx.gatewayRxBufferLen + len + 2)
    let block := block.write ctx.gatewayRxBufferLen (strncpy fragment.data len)
    let total := ctx.gatewayRxBufferLen + len
    let block := block.write total [0]
    let ctx' := { ctx with gatewayRxBuffer := some block, gatewayRxBufferLen := total }
    let text := block.read w.strayByte total
    (gatewayPayloadParser ex w ctx' text).map fun out =>
      ⟨{ out.ctx with gatewayRxBuffer := none, gatewayRxBufferLen := 0 }, out.ret,
        .bufferWrite .gatewayRx ctx.gatewayRxBufferLen len block.requested ::
          .bufferWrite .gatewayRx total 1 block.requested :: .parsed text :: out.events⟩
  else
    let block := Block.realloc ctx.gatewayRxBuffer (ctx.gatewayRxBufferLen + len + 1)
    let block := block.write ctx.gatewayRxBufferLen (strncpy fragment.data len)
    some ⟨{ ctx with gatewayRxBuffer := some block, gatewayRxBufferLen := ctx.gatewayRxBufferLen + len }, .ok,
      [.bufferWrite .gatewayRx ctx.gatewayRxBufferLen len block.requested]⟩

def clientWriteable (ex : Externals) (w : World) (ctx : Context) (wsi : Wsi) : Outcome :=
  match ctx.gatewayRing.consume with
  | none => ⟨ctx, 0, []⟩
  | some (gatewayPayload, ring) =>
    let ctx := { ctx with gatewayRing := ring }
    let text := gatewayPayload.payload
    let events := [.dequeued text, .bufferWrite .session ex.lwsPre (text.length + 1) sessionSize]
    if text.length = 0 then ⟨ctx, -1, events⟩
    else
      let events := events ++ [.written wsi text]
      if w.writeResult < 0 then ⟨ctx, -1, events⟩
      else if w.writeResult.toInt < text.length then ⟨ctx, -1, events⟩
      else ⟨ctx, 0, events⟩

-- A byte of a close frame; behind its end lies memory that is not the frame's.
def frameByte (w : World) (frame : Text) (index : Nat) : UInt8 := (frame[index]?).getD (w.strayByte index)

def overreads (frame : Text) (indices : List Nat) : List Event :=
  (indices.filter (frame.length ≤ ·)).map .frameOverread

/-- The case WS_PEER_INITIATED_CLOSE; `none` is a call through a null pointer or the access to
`gi`, which nothing ever allocates. -/
def peerInitiatedClose (w : World) (ctx : Context) (frame : Text) : Option Outcome :=
  let code := (frameByte w frame 0).toUInt32 <<< 8 ||| (frameByte w frame 1).toUInt32
  let ctx := { ctx with closeCode := code }
  -- `strndup(in + 1, len)` stops at a zero byte, which it still reads
  let copied := ((List.range frame.length).map fun i => frameByte w frame (i + 1)).takeWhile (· ≠ 0)
  let read := (List.range (min frame.length (copied.length + 1))).map (· + 1)
  let events := overreads frame [0, 1] ++ if frame.length ≠ 0 then overreads frame read else []
  let message := if frame.length ≠ 0 then .closeMessage copied else .null
  match callUser w ctx .wsGatewayInitClose message code.toNat with
  | none => none
  | some out =>
    if code = 1000 ∨ code = 4006 then
      out.ctx.gi.map fun _ =>
        ⟨{ out.ctx with gi := some ⟨0⟩ }, .ok, events ++ out.events⟩
    else some ⟨out.ctx, .ok, events ++ out.events⟩

/-- `ld_lws_callback` for the connection object `wsi`. -/
def lwsCallback (ex : Externals) (w : World) (ctx : Context) (wsi : Wsi) : Callback → Option Outcome
  | .clientConnectionError =>
    (callUser w ctx .wsConnectionError .null 0).map fun out =>
      { out with ctx := { out.ctx with lwsWsi := none } }
  | .clientEstablished =>
    (callUser w ctx .wsEstablished .null 0).map fun out =>
      { out with ctx := { out.ctx with lastHb := w.now } }
  | .clientReceive fragment => clientReceive ex w ctx fragment
  | .clientWriteable => some (clientWriteable ex w ctx wsi)
  | .wsPeerInitiatedClose frame => peerInitiatedClose w ctx frame
  | .wsiDestroy => some ⟨{ ctx with lwsWsi := none }, .ok, []⟩
  | .clientFilterPreEstablish | .getThreadId | .closed | .clientReceivePong | .changeModePollFd | .lockPoll
  | .unlockPoll | .wsClientDropProtocol | .clientClosed | .other _ => some ⟨ctx, .ok, []⟩

def lwsCallbacks (ex : Externals) (wsi : Wsi) : Context → List (Callback × World) →
    Option (Context × List Event)
  | ctx, [] => some (ctx, [])
  | ctx, (callback, w) :: rest => do
    let out ← lwsCallback ex w ctx wsi callback
    let (final, events) ← lwsCallbacks ex wsi out.ctx rest
    some (final, out.events ++ events)

end Libdiscord
