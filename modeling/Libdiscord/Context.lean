import Libdiscord.Base.BoundedQueue
import Libdiscord.Base.Fragment
import Libdiscord.Json.Encode
import Libdiscord.Json.User
import Libdiscord.Rest.Request

/-! The library context, what reaches the library from outside, and what can be observed of it. -/

set_option autoImplicit false

namespace Libdiscord

open Libdiscord.Base

structure GatewayPayload where
  payload : Text
  len : Nat
  deriving DecidableEq

-- A libwebsockets connection object.
abbrev Wsi := Nat

structure Gi where
  sessionValid : Int32

structure Context where
  botToken : Option Text
  gatewayUrl : Option Text
  gatewayBotUrl : Option Text
  shards : Int32
  curlHandle : Rest.EasyHandle
  lwsWsi : Option Wsi
  -- whether the function pointer is set
  userCallback : Bool
  heartbeatInterval : UInt32
  lastSeq : Int32
  lastHb : UInt64
  hbCount : Int
  gatewayRing : BoundedQueue GatewayPayload
  closeCode : UInt32
  gatewayRxBuffer : Option (Block UInt8)
  gatewayRxBufferLen : Nat
  gatewaySessionId : Option Text
  gi : Option Gi
  currentUser : Option User
  device : Option Text
  browser : Option Text
  os : Option Text
  initPresence : Option StatusUpdate

structure ContextInfo where
  botToken : Option Text
  userCallback : Bool
  gatewayRingbufferSize : Nat
  initPresence : Option StatusUpdate
  device : Option Text
  browser : Option Text
  os : Option Text

-- Which library initialisations succeed, and the clock.
structure InitWorld where
  curl : Bool
  lws : Bool
  ring : Bool
  now : UInt64

def ringbufferDefaultSize : Nat := 16

-- The context after `memset`, with the ring that `ld_init_lws` creates.
def zeroContext (ring : BoundedQueue GatewayPayload) : Context where
  botToken := none
  gatewayUrl := none
  gatewayBotUrl := none
  shards := 0
  curlHandle := .fresh
  lwsWsi := none
  userCallback := false
  heartbeatInterval := 0
  lastSeq := 0
  lastHb := 0
  hbCount := 0
  gatewayRing := ring
  closeCode := 0
  gatewayRxBuffer := none
  gatewayRxBufferLen := 0
  gatewaySessionId := none
  gi := none
  currentUser := none
  device := none
  browser := none
  os := none
  initPresence := none

/-- `ld_init_context`: the status of a failure, or the context. `none` is the crash of `strdup`
on a null browser name. -/
def initContext (ex : Externals) (w : InitWorld) (info : Option ContextInfo) :
    Option (Except Status Context) :=
  let size := match info with
    | none => ringbufferDefaultSize
    | some info => info.gatewayRingbufferSize
  if ¬w.curl then some (.error .curlErr)
  else if ¬w.lws then some (.error .websocketInitErr)
  else if ¬w.ring then some (.error .websocketRingbufferErr)
  else
    let context := { zeroContext (.empty (ex.ringCapacity size)) with lastHb := w.now }
    match info with
    | none =>
      some (.ok { context with
        device := some Json.libname
        browser := some Json.libname
        os := some ex.systemos })
    | some info =>
      -- the name of the operating system is copied from the browser's
      let os := match info.os with
        | none => some ex.systemos
        | some _ => info.browser
      match os, info.botToken with
      | none, _ => none
      | some _, none => some (.error .tokenMissingErr)
      | some os, some token =>
        some (.ok { context with
          device := some (info.device.getD Json.libname)
          browser := some (info.browser.getD Json.libname)
          os := some os
          userCallback := info.userCallback
          botToken := some token
          initPresence := info.initPresence })

theorem initContext_ok {ex : Externals} {w : InitWorld} {info : Option ContextInfo} {ctx : Context}
    (initialised : initContext ex w info = some (.ok ctx)) :
    ∃ size token callback presence device browser os, ctx = {
      zeroContext (.empty size) with
      lastHb := w.now, botToken := token, userCallback := callback, initPresence := presence
      device := device, browser := browser, os := os } := by
  unfold initContext at initialised
  dsimp only at initialised
  split at initialised
  · cases initialised
  split at initialised
  · cases initialised
  split at initialised
  · cases initialised
  split at initialised
  · cases initialised
    exact ⟨_, _, _, _, _, _, _, rfl⟩
  split at initialised
  · cases initialised
  · cases initialised
  · cases initialised
    exact ⟨_, _, _, _, _, _, _, rfl⟩

inductive CallbackReason where
  | ready | channelCreate | channelUpdate | channelDelete | channelPinsUpdate | guildCreate | guildUpdate
  | guildDelete | guildBanAdd | guildBanRemove | guildEmojisUpdate | guildIntegrationsUpdate | guildMemberAdd
  | guildMemberRemove | guildMemberUpdate | guildMembersChunk | guildRoleCreate | guildRoleUpdate
  | guildRoleDelete | messageCreate | messageUpdate | messageDelete | messageDeleteBulk | messageReactionAdd
  | messageReactionRemove | messageReactionRemoveAll | presenceUpdate | typingStart | userUpdate
  | voiceStateUpdate | voiceServerUpdate | webhooksUpdate | wsEstablished | wsConnectionError
  | wsGatewayInitClose
  deriving DecidableEq, Repr

inductive CallbackData where
  | null
  | json (value : Json)
  | closeMessage (text : Text)

inductive Callback where
  | clientConnectionError
  | clientFilterPreEstablish
  | clientEstablished
  | getThreadId
  | closed
  | clientReceive (fragment : Fragment UInt8)
  | clientReceivePong
  | clientWriteable
  | wsPeerInitiatedClose (frame : Text)
  | changeModePollFd
  | lockPoll
  | unlockPoll
  | wsClientDropProtocol
  | clientClosed
  | wsiDestroy
  | other (reason : Nat)

/-- What one callback finds outside the library: the clock, the results of the user callback and
of `lws_write`, and the contents of memory the library reads without having written it. -/
structure World where
  now : UInt64
  userReturn : Status
  writeResult : Int32
  staleType : Option Json
  staleIdentify : Identify
  strayByte : Nat → UInt8
  beyondRoles : Nat → UInt64

-- A world at this time where the user callback and `lws_write` succeed and all foreign memory is zero.
def World.calm (now : UInt64) : World where
  now := now
  userReturn := .ok
  writeResult := 8192
  staleType := none
  staleIdentify := ⟨none, none, 0, 0, (0, 0), none⟩
  strayByte := fun _ => 0
  beyondRoles := fun _ => 0

inductive Endpoint where | gateway | gatewayBot | currentUser
  deriving DecidableEq

inductive Buffer where | gatewayRx | session
  deriving DecidableEq

inductive Local where | dispatchType | identify | resumeJson
  deriving DecidableEq

inductive Queued where | heartbeat | handshake
  deriving DecidableEq

inductive Caller where | service | connect
  deriving DecidableEq

inductive Event where
  -- a REST request was made and answered
  | exchanged (endpoint : Endpoint) (exchange : Rest.Exchange)
  -- `ld_gateway_connect` starts the connection with this number
  | connecting (wsi : Wsi)
  | delivered (wsi : Wsi) (callback : Callback)
  -- `ld_gateway_payload_parser` is called with this text
  | parsed (text : Text)
  | userCalled (reason : CallbackReason) (data : CallbackData) (len : Int)
  -- `count` bytes are written at `offset` of a buffer of `size` bytes
  | bufferWrite (buffer : Buffer) (offset count size : Nat)
  -- a variable is read that was not assigned
  | unassigned (name : Local)
  -- a byte behind the end of a close frame is read
  | frameOverread (index : Nat)
  -- a payload is put into the ring
  | queued (kind : Queued) (text : Text)
  | dequeued (text : Text)
  -- handed to `lws_write`
  | written (wsi : Wsi) (text : Text)
  | writableRequested
  | returned (caller : Caller) (status : Status)

def Only (kind : Event → Prop) (events : List Event) : Prop := ∀ e ∈ events, kind e

section
variable {kind : Event → Prop}

@[simp] theorem only_nil : Only kind [] := by simp [Only]

@[simp] theorem only_cons (e : Event) (events : List Event) :
    Only kind (e :: events) ↔ kind e ∧ Only kind events := by
  simp [Only]

@[simp] theorem only_append (events more : List Event) :
    Only kind (events ++ more) ↔ Only kind events ∧ Only kind more := by
  simp only [Only, List.mem_append]
  exact ⟨fun all => ⟨fun e m => all e (.inl m), fun e m => all e (.inr m)⟩,
    fun both e m => m.elim (both.1 e) (both.2 e)⟩

theorem Only.mono {other : Event → Prop} {events : List Event} (only : Only kind events)
    (weaker : ∀ e, kind e → other e) : Only other events :=
  fun e member => weaker e (only e member)

theorem Only.filterMap {Value : Type} {read : Event → Option Value} {events : List Event}
    (only : Only kind events) (silent : ∀ e, kind e → read e = none) : events.filterMap read = [] :=
  List.filterMap_eq_nil_iff.mpr fun e member => silent e (only e member)

end

/-- What a call into the library leaves, in what order it acted, and what it returns. -/
structure Outcome where
  ctx : Context
  ret : Status
  events : List Event

end Libdiscord
