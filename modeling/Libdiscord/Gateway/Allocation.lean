import Libdiscord.Gateway.Crash
import Libdiscord.Gateway.Memory

/-! The blocks that libdiscord.c allocates, frees and loses.

What REST.c and json.c allocate is left out, and so is what jansson allocates but for the texts that `json_dumps`
returns.
-/

set_option autoImplicit false

namespace Libdiscord

open Libdiscord.Base
open Json (member?)

namespace Memory

def init : Option ContextInfo → Memory
  | none => .empty
  | some info =>
    let memory := if info.device.isSome then Memory.empty.keepText else .empty
    let memory := if info.browser.isSome then memory.keepText else memory
    let memory := if info.os.isSome then memory.keepText else memory
    let memory := memory.keepText.store .initPresence
    -- without a presence the pointer is overwritten
    if info.initPresence.isSome then memory else memory.set .initPresence none

/-- `ld_cleanup_context`, after which the pointers are not used again. -/
def cleanup (memory : Memory) : Option Memory := do
  let memory ← memory.release .gatewaySessionId
  let memory ← memory.release .currentUser
  memory.release .initPresence

end Memory

def readyMemory (d : Option Json) (memory : Memory) : Memory :=
  match sessionMember d with
  | none => memory
  | some _ => memory.store .gatewaySessionId

def dispatchMemory (type d : Option Json) (memory : Memory) : Memory :=
  match type.bind Json.stringValue with
  | none => memory
  | some typestr => match dispatchDict.find? (ascii ·.name = typestr) with
    | none => memory
    | some entry => match entry.dispatchCallback with
      | none => memory
      | some .dispatchReady => readyMemory d memory

/-- The case HELLO. With a stored session `ident` is never assigned, and `ld_cleanup_identify` frees the pointer that
happens to be in it. -/
def helloMemory (ex : Externals) (w : World) (ctx : Context) (memory : Memory) : Option Memory :=
  if ctx.gatewaySessionId.isSome then none
  else do
    let (properties, memory) := memory.malloc .properties
    let memory ← memory.free (some properties)
    match Json.unpackIdentify ex w.beyondRoles (setIdentify ctx) with
    | none => some memory
    | some d =>
      let text := ex.dumps (Json.createPayload (.integer 2) (some d) none none)
      some (((memory.leak .gatewayPayload).leak .dump).insert ctx.gatewayRing text)

def parserMemory (ex : Externals) (w : World) (ctx : Context) (text : Text) (memory : Memory) : Option Memory :=
  match ex.loadb text with
  | none => some memory
  | some payload => match scanMembers ⟨ctx.lastSeq, opcodeUnknown, none, none⟩ payload.members with
    | .error _ => some memory
    | .ok scan => match GatewayOpcode.ofCode scan.opcode with
      | .dispatch => some (dispatchMemory (scan.t.or w.staleType) scan.d memory)
      | .invalidateSession => memory.release .gatewaySessionId
      | .hello => helloMemory ex w { ctx with lastSeq := scan.lastSeq } memory
      | _ => some memory

def receiveMemory (ex : Externals) (w : World) (ctx : Context) (fragment : Fragment UInt8) (memory : Memory) :
    Option Memory :=
  let len := fragment.data.length
  if ctx.gatewayRxBuffer.isNone && fragment.final then
    (parserMemory ex w ctx fragment.data memory).map (·.set .gatewayRxBuffer none)
  else if fragment.first then some (memory.store .gatewayRxBuffer)
  else if fragment.final && ctx.gatewayRxBuffer.isSome then do
    let memory ← memory.resize .gatewayRxBuffer
    let block := Block.realloc ctx.gatewayRxBuffer (ctx.gatewayRxBufferLen + len + 2)
    let block := block.write ctx.gatewayRxBufferLen (strncpy fragment.data len)
    let total := ctx.gatewayRxBufferLen + len
    let block := block.write total [0]
    let ctx' := { ctx with gatewayRxBuffer := some block, gatewayRxBufferLen := total }
    let memory ← parserMemory ex w ctx' (block.read w.strayByte total) memory
    memory.release .gatewayRxBuffer
  else memory.resize .gatewayRxBuffer

/-- A payload that `ld_lws_callback` could not send: it returns before it frees anything. -/
def Unsent (w : World) (text : Text) : Prop :=
  text.length = 0 ∨ w.writeResult < 0 ∨ w.writeResult.toInt < text.length

instance (w : World) (text : Text) : Decidable (Unsent w text) :=
  inferInstanceAs (Decidable (_ ∨ _ ∨ _))

/-- The case CLIENT_WRITEABLE, which reads the text of the payload it takes. -/
def writeableMemory (w : World) (ctx : Context) (memory : Memory) : Option Memory :=
  let (gatewayPayload, memory) := memory.malloc .gatewayPayload
  match ctx.gatewayRing.consume with
  | none => some memory
  | some (taken, _) => match memory.ring with
    | [] => none
    | payload :: ring =>
      let memory := { memory with ring }
      if payload ∉ memory.heap.pointers then none
      else if Unsent w taken.payload then some memory
      else do
        let memory ← memory.free (some payload)
        memory.free (some gatewayPayload)

def callbackMemory (ex : Externals) (w : World) (ctx : Context) (memory : Memory) : Callback → Option Memory
  | .clientReceive fragment => receiveMemory ex w ctx fragment memory
  | .clientWriteable => writeableMemory w ctx memory
  | .wsPeerInitiatedClose frame =>
    if frame.length ≠ 0 then
      let (closeMessage, memory) := memory.malloc .closeMessage
      memory.free (some closeMessage)
    else some memory
  | .clientConnectionError | .clientEstablished | .wsiDestroy | .clientFilterPreEstablish | .getThreadId | .closed
  | .clientReceivePong | .changeModePollFd | .lockPoll | .unlockPoll | .wsClientDropProtocol | .clientClosed
  | .other _ => some memory

/-- `ld_gateway_queue_heartbeat`, where the first text is only measured. -/
def queueHeartbeatMemory (ex : Externals) (ctx : Context) (memory : Memory) : Memory :=
  if ctx.gatewayRing.free = 0 then memory
  else
    let text := ex.dumps (Json.createPayload (.integer 1) (some (.integer ctx.lastSeq.toInt64)) none none)
    (((memory.leak .gatewayPayload).leak .dump).leak .dump).insert ctx.gatewayRing text

def heartbeatMemory (ex : Externals) (ctx : Context) (now : UInt64) (memory : Memory) : Memory :=
  if heartbeatDue ctx now then
    if ctx.hbCount + 1 > 1 then memory else queueHeartbeatMemory ex ctx memory
  else memory

/-- `ld_connect`, where a block is made for each url that is stored and for the user that is asked for, and
`ld_gateway_connect` until libwebsockets gets control. -/
def connectMemory (ex : Externals) (http : Http) (ctx : Context) (memory : Memory) : Memory :=
  match ctx.bootstrap ex http with
  | none => memory
  | some out =>
    let memory := if ctx.gatewayUrl.isNone && out.ctx.gatewayUrl.isSome then memory.store .gatewayUrl else memory
    let memory := if ctx.gatewayBotUrl.isNone && out.ctx.gatewayBotUrl.isSome then memory.store .gatewayBotUrl
      else memory
    let memory := if ctx.currentUser.isNone && out.ctx.currentUser.isSome then memory.store .currentUser else memory
    if out.ret ≠ .ok then memory else ((memory.store .connectInfo).leak .path).store .adsPort

def leaveMemory (ctx : Context) (memory : Memory) : Option Memory :=
  if ctx.lwsWsi.isNone then some ((memory.set .connectInfo none).set .adsPort none)
  else (memory.release .adsPort).bind (·.release .connectInfo)

def Move.memory (ex : Externals) (s : System) (memory : Memory) : Move → Option Memory
  | .service w =>
    if s.ctx.lwsWsi.isNone then some (connectMemory ex w.http s.ctx memory)
    else some (heartbeatMemory ex s.ctx w.now memory)
  | .connect http _ => some (connectMemory ex http s.ctx memory)
  | .callback _ reason w => callbackMemory ex w s.ctx memory reason
  | .leave => match s.control with
    | .connecting _ => leaveMemory s.ctx memory
    | .bot | .serving => some memory

def memoryStep (ex : Externals) (s : System × Memory) (m : Move) : Option (System × Memory) := do
  let memory ← m.memory ex s.1 s.2
  let next ← step ex s.1 m
  some (next, memory)

/-- The blocks that are lost for good: READY loses the session id that was there before. -/
def dispatchLosses (ctx : Context) (type d : Option Json) : List BlockKind :=
  if type.bind Json.stringValue = some (ascii "READY") ∧ (sessionMember d).isSome = true ∧
    ctx.gatewaySessionId.isSome = true then [.of .gatewaySessionId] else []

def helloLosses (ex : Externals) (w : World) (ctx : Context) : List BlockKind :=
  match Json.unpackIdentify ex w.beyondRoles (setIdentify ctx) with
  | none => []
  | some _ => [.gatewayPayload, .dump] ++ if ctx.gatewayRing.free = 0 then [.payload] else []

def parserLosses (ex : Externals) (w : World) (ctx : Context) (text : Text) : List BlockKind :=
  match ex.loadb text with
  | none => []
  | some payload =>
    if ¬Known payload.members then []
    else match selectedOpcode payload.members with
      | .dispatch => dispatchLosses ctx ((member? "t" payload.members).or w.staleType) (member? "d" payload.members)
      | .hello => helloLosses ex w ctx
      | _ => []

/-- A first chunk loses a message that was not completed. -/
def receiveLosses (ex : Externals) (w : World) (ctx : Context) (fragment : Fragment UInt8) : List BlockKind :=
  match completedText w ctx fragment with
  | some text => parserLosses ex w ctx text
  | none => if fragment.first ∧ ctx.gatewayRxBuffer.isSome = true then [.of .gatewayRxBuffer] else []

/-- Nothing is given back where nothing waits, or where the payload does not get out whole. -/
def writeableLosses (w : World) (ctx : Context) : List BlockKind :=
  match ctx.gatewayRing.consume with
  | none => [.gatewayPayload]
  | some (taken, _) => if Unsent w taken.payload then [.gatewayPayload, .payload] else []

def heartbeatLosses (ctx : Context) (now : UInt64) : List BlockKind :=
  if heartbeatDue ctx now ∧ ctx.hbCount + 1 ≤ 1 ∧ ctx.gatewayRing.free ≠ 0 then [.gatewayPayload, .dump, .dump]
  else []

def connectLosses (ex : Externals) (http : Http) (ctx : Context) : List BlockKind :=
  match ctx.bootstrap ex http with
  | none => []
  | some out => if out.ret = .ok then [.path] else []

def Move.losses (ex : Externals) (s : System) : Move → List BlockKind
  | .service w =>
    if s.ctx.lwsWsi.isNone then connectLosses ex w.http s.ctx else heartbeatLosses s.ctx w.now
  | .connect http _ => connectLosses ex http s.ctx
  | .callback _ (.clientReceive fragment) w => receiveLosses ex w s.ctx fragment
  | .callback _ .clientWriteable w => writeableLosses w s.ctx
  | .callback _ _ _ => []
  | .leave => match s.control with
    | .connecting _ => if s.ctx.lwsWsi.isNone then [.of .connectInfo, .of .adsPort] else []
    | .bot | .serving => []

def ResumingText (ex : Externals) (ctx : Context) (text : Text) : Prop :=
  ctx.gatewaySessionId.isSome = true ∧
    ∃ payload ∈ ex.loadb text, Known payload.members ∧ selectedOpcode payload.members = .hello

def Move.Resumes (ex : Externals) (s : System) : Move → Prop
  | .callback _ (.clientReceive fragment) w => ∃ text ∈ completedText w s.ctx fragment, ResumingText ex s.ctx text
  | _ => False

end Libdiscord
