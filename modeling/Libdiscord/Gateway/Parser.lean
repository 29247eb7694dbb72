import Libdiscord.Context

/-! `ld_gateway_payload_parser`: what the library does with a payload from the gateway. -/

set_option autoImplicit false

namespace Libdiscord

inductive GatewayPayloadtype where | op | d | t | s | unknown
  deriving DecidableEq

def gatewayPayloadObjectparser (key : String) : GatewayPayloadtype :=
  if key = "op" then .op
  else if key = "d" then .d
  else if key = "t" then .t
  else if key = "s" then .s
  else .unknown

inductive GatewayOpcode where
  | unknown | dispatch | heartbeat | identify | presence | voiceState | voicePing | resume | reconnect
  | requestMembers | invalidateSession | hello | heartbeatAck | guildSync
  deriving DecidableEq, Repr

-- `LD_GATEWAY_OPCODE_UNKNOWN`
def opcodeUnknown : UInt32 := 999

/-- The case of the opcode switch a value of the enumeration type selects. -/
def GatewayOpcode.ofCode (code : UInt32) : GatewayOpcode :=
  match code.toNat with
  | 0 => .dispatch
  | 1 => .heartbeat
  | 2 => .identify
  | 3 => .presence
  | 4 => .voiceState
  | 5 => .voicePing
  | 6 => .resume
  | 7 => .reconnect
  | 8 => .requestMembers
  | 9 => .invalidateSession
  | 10 => .hello
  | 11 => .heartbeatAck
  | 12 => .guildSync
  | _ => .unknown

/-- The variables the member loop assigns; `t` is unassigned until a member is found. -/
structure Scan where
  lastSeq : Int32
  opcode : UInt32
  d : Option Json
  t : Option Json

/-- The member loop of `ld_gateway_payload_parser`, left with an error at an unknown key. -/
def scanMembers (scan : Scan) : List (String × Json) → Except Scan Scan
  | [] => .ok scan
  | (key, value) :: rest =>
    match gatewayPayloadObjectparser key with
    | .op => scanMembers { scan with opcode := value.integerValue.toUInt64.toUInt32 } rest
    | .d => scanMembers { scan with d := some value } rest
    | .t => scanMembers { scan with t := some value } rest
    | .s => scanMembers { scan with lastSeq := value.integerValue.toInt32 } rest
    | .unknown => .error scan

/-- The user callback, whose result is the world's; `none` is a call through a null pointer. -/
def callUser (w : World) (ctx : Context) (reason : CallbackReason) (data : CallbackData) (len : Int) :
    Option Outcome :=
  if ctx.userCallback then some ⟨ctx, w.userReturn, [.userCalled reason data len]⟩ else none

inductive DispatchCallback where | dispatchReady
  deriving DecidableEq

structure Dispatch where
  name : String
  cbkReason : CallbackReason
  dispatchCallback : Option DispatchCallback

def dispatchDict : List Dispatch :=
  [⟨"READY", .ready, some .dispatchReady⟩,
   ⟨"CHANNEL_CREATE", .channelCreate, none⟩,
   ⟨"CHANNEL_UPDATE", .channelUpdate, none⟩,
   ⟨"CHANNEL_DELETE", .channelDelete, none⟩,
   ⟨"CHANNEL_PINS_UPDATE", .channelPinsUpdate, none⟩,
   ⟨"GUILD_CREATE", .guildCreate, none⟩,
   ⟨"GUILD_UPDATE", .guildUpdate, none⟩,
   ⟨"GUILD_DELETE", .guildDelete, none⟩,
   ⟨"GUILD_BAN_ADD", .guildBanAdd, none⟩,
   ⟨"GUILD_BAN_REMOVE", .guildBanRemove, none⟩,
   ⟨"GUILD_EMOJIS_UPDATE", .guildEmojisUpdate, none⟩,
   ⟨"GUILD_INTEGRATIONS_UPDATE", .guildIntegrationsUpdate, none⟩,
   ⟨"GUILD_MEMBER_ADD", .guildMemberAdd, none⟩,
   ⟨"GUILD_MEMBER_REMOVE", .guildMemberRemove, none⟩,
   ⟨"GUILD_MEMBER_UPDATE", .guildMemberUpdate, none⟩,
   ⟨"GUILD_MEMBERS_CHUNK", .guildMembersChunk, none⟩,
   ⟨"GUILD_ROLE_CREATE", .guildRoleCreate, none⟩,
   ⟨"GUILD_ROLE_UPDATE", .guildRoleUpdate, none⟩,
   ⟨"GUILD_ROLE_DELETE", .guildRoleDelete, none⟩,
   ⟨"MESSAGE_CREATE", .messageCreate, none⟩,
   ⟨"MESSAGE_UPDATE", .messageUpdate, none⟩,
   ⟨"MESSAGE_DELETE", .messageDelete, none⟩,
   ⟨"MESSAGE_DELETE_BULK", .messageDeleteBulk, none⟩,
   ⟨"MESSAGE_REACTION_ADD", .messageReactionAdd, none⟩,
   ⟨"MESSAGE_REACTION_REMOVE", .messageReactionRemove, none⟩,
   ⟨"MESSAGE_REACTION_REMOVE_ALL", .messageReactionRemoveAll, none⟩,
   ⟨"PRESENCE_UPDATE", .presenceUpdate, none⟩,
   ⟨"TYPING_START", .typingStart, none⟩,
   ⟨"USER_UPDATE", .userUpdate, none⟩,
   ⟨"VOICE_STATE_UPDATE", .voiceStateUpdate, none⟩,
   ⟨"VOICE_SERVER_UPDATE", .voiceServerUpdate, none⟩,
   ⟨"WEBHOOKS_UPDATE", .webhooksUpdate, none⟩]

/-- `ld_dispatch_ready`; `none` is the crash of `strdup` on a session id that is no string. -/
def dispatchReady (ctx : Context) (data : Option Json) : Option (Context × Status) :=
  match (data.elim [] Json.members).find? (·.1 = "session_id") with
  | none => some (ctx, .error)
  | some (_, value) => value.stringValue.map fun id => ({ ctx with gatewaySessionId := some id }, .ok)

def DispatchCallback.run : DispatchCallback → Context → Option Json → Option (Context × Status)
  | .dispatchReady => Libdiscord.dispatchReady

def gatewayDispatchParser (w : World) (ctx : Context) (type data : Option Json) : Option Outcome :=
  match type.bind Json.stringValue with
  | none => some ⟨ctx, .jsonGatewayDispatchTypeErr, []⟩
  | some typestr => match dispatchDict.find? (ascii ·.name = typestr) with
    | none => some ⟨ctx, .ok, []⟩
    | some entry =>
      let user := fun ctx => callUser w ctx entry.cbkReason (data.elim .null .json) 0
      match entry.dispatchCallback with
      | none => user ctx
      | some callback => do
        let (ctx, ret) ← callback.run ctx data
        if ret ≠ .ok then some ⟨ctx, .error, []⟩ else user ctx

def setIdentify (ctx : Context) : Identify where
  properties := some ⟨ctx.os, ctx.browser, ctx.device⟩
  token := ctx.botToken
  compress := 0
  largeThreshold := 250
  shard := (0, ctx.shards)
  statusUpdate := ctx.initPresence

/-- `ld_json_save_resume`: past the check of its arguments it dumps a `json_t` that
`ld_json_unpack_resume` has left unassigned. The caller drops both the text and the status. -/
def saveResume (resume : Resume) : List Event :=
  if resume.token.isNone || resume.sessionId.isNone then []
  else match Json.unpackResume resume with
    | (none, _) => [.unassigned .resumeJson]
    | (some _, _) => []

-- `heartbeat_interval` in milliseconds: the fallback where the payload has no usable one.
def helloInterval (d : Option Json) : UInt32 :=
  match Json.get? d "heartbeat_interval" with
  | none => 41250
  | some tmp => if tmp.integerValue ≠ 0 then tmp.integerValue.toUInt64.toUInt32 else 41250

/-- The struct `ident` of the case HELLO. With a stored session it is never assigned, and what is
encoded as IDENTIFY is whatever its memory holds. -/
def helloIdentify (w : World) (ctx : Context) : Identify × List Event :=
  match ctx.gatewaySessionId with
  | some sessionId =>
    (w.staleIdentify, saveResume ⟨ctx.botToken, some sessionId, ctx.lastSeq⟩ ++ [.unassigned .identify])
  | none => (setIdentify ctx, [])

/-- The case HELLO. -/
def gatewayHello (ex : Externals) (w : World) (ctx : Context) (d : Option Json) : Option Outcome :=
  let ctx := { ctx with heartbeatInterval := helloInterval d }
  let (ident, events) := helloIdentify w ctx
  match Json.unpackIdentify ex w.beyondRoles ident with
  | none => some ⟨ctx, 1, events⟩
  | some d =>
    let text := ex.dumps (Json.createPayload (.integer 2) (some d) none none)
    -- the number of elements inserted is not looked at
    let (ring, inserted) := ctx.gatewayRing.insert ⟨text, text.length⟩
    some ⟨{ ctx with gatewayRing := ring, lastHb := w.now }, .ok,
      events ++ if inserted = 1 then [.queued .handshake text] else []⟩

/-- The opcode switch, after the member loop. -/
def gatewayOpcode (ex : Externals) (w : World) (ctx : Context) (scan : Scan) : Option Outcome :=
  match GatewayOpcode.ofCode scan.opcode with
  | .dispatch => match scan.t with
    | some t => gatewayDispatchParser w ctx (some t) scan.d
    | none => (gatewayDispatchParser w ctx w.staleType scan.d).map fun out =>
      { out with events := .unassigned .dispatchType :: out.events }
  | .invalidateSession => some ⟨{ ctx with gatewaySessionId := none, lastSeq := 0 }, .ok, []⟩
  | .hello => gatewayHello ex w ctx scan.d
  | .heartbeatAck => some ⟨{ ctx with hbCount := ctx.hbCount - 1 }, .ok, []⟩
  | .heartbeat | .identify | .presence | .voiceState | .voicePing | .resume | .reconnect | .requestMembers
  | .guildSync => some ⟨ctx, .ok, []⟩
  | .unknown => some ⟨ctx, 1, []⟩

def gatewayPayloadParser (ex : Externals) (w : World) (ctx : Context) (text : Text) : Option Outcome :=
  match ex.loadb text with
  | none => some ⟨ctx, 1, []⟩
  | some payload =>
    match scanMembers ⟨ctx.lastSeq, opcodeUnknown, none, none⟩ payload.members with
    | .error scan => some ⟨{ ctx with lastSeq := scan.lastSeq }, 1, []⟩
    | .ok scan => gatewayOpcode ex w { ctx with lastSeq := scan.lastSeq } scan

end Libdiscord
