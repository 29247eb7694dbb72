import Libdiscord.Gateway.Crash
import Libdiscord.Log

/-! What the library logs when libwebsockets calls it, and when that is harmless. -/

set_option autoImplicit false

namespace Libdiscord

open Libdiscord.Base Log

/-- What the messages show of the world outside. -/
structure Printed where
  -- `curl_easy_strerror`, and `__FILE__` of REST.c
  curlError : Text
  file : Text
  -- `json_error_t.text`, an array of 160 bytes
  jsonError : { text : Text // text.length < 160 }
  -- the address and the length that come with a connection error
  errorIn : UInt64
  errorLen : UInt64

def Printed.blank : Printed := ⟨[], [], ⟨[], by decide⟩, 0, 0⟩

/-- A string as it is printed, up to its first zero. libwebsockets puts one behind what it delivers. -/
def printed (text : Text) : Argument := .string (text.takeWhile (· ≠ 0))

-- `__FUNCTION__` of the two functions that log it here.
def parserName : Argument := .string (ascii "ld_gateway_payload_parser")
def callbackName : Argument := .string (ascii "ld_lws_callback")

def memberLogs : List (String × Json) → List Log.Call
  | [] => []
  | (key, value) :: rest =>
    match gatewayPayloadObjectparser key with
    | .op => debug "received opcode %d" [.unsigned value.integerValue.toUInt64.toUInt32] :: memberLogs rest
    | .unknown => [warning "%s: got unknown key in payload" [parserName]]
    | .d | .t | .s => memberLogs rest

def readyLogs (d : Option Json) : List Log.Call :=
  match sessionMember d with
  | none => [error "dispatch parser: internal dispatch callback errored out" []]
  | some value => [debug "gateway session_id: %s" [value.stringValue.elim (.pointer 0) .string]]

def dispatchLogs (type d : Option Json) : List Log.Call :=
  match type.bind Json.stringValue with
  | none => [warning "jansson: couldn't identify gateway dispatch type" []]
  | some typestr => match dispatchDict.find? (ascii ·.name = typestr) with
    | none => []
    | some entry =>
      debug "dispatch type is %s, callback reason is %d"
        [.string (ascii entry.name), .int (.ofInt entry.cbkReason.number)] ::
        if entry.dispatchCallback.isSome then readyLogs d else []

/-- `ld_json_unpack_identify` and what it calls; a role is a number of 64 bits. -/
def identifyLogs (identify : Identify) : List Log.Call :=
  match identify.token, identify.properties with
  | none, _ => [error "ld_json_unpack_identify: token is NULL" []]
  | some _, none => [error "ld_json_unpack_identify: identify connection properties is NULL" []]
  | some _, some _ =>
    (if 250 < identify.largeThreshold ∨ identify.largeThreshold < 50 then
      [warning "ld_json_unpack_identify: large_theshold is out of expected range" []] else []) ++
    match identify.statusUpdate.bind (·.roles) with
    | none => []
    | some roles => [debug "role: %d" [.size (roles.headD 0)]]

/-- The choice between RESUME and IDENTIFY, with `ld_json_save_resume` up to the check of its arguments. What it
dumps then is unassigned. -/
def resumeLogs (ctx : Context) : List Log.Call :=
  if ctx.gatewaySessionId.isSome then
    debug "%s: have previous gsid, will try resuming" [parserName] ::
      if ctx.botToken.isNone then
        [warning "%s: missing token or session id" [.string (ascii "ld_json_save_resume")]]
      else []
  else [debug "%s: no previous gsid, will try new connection identify" [parserName]]

def helloLogs (ex : Externals) (w : World) (ctx : Context) (d : Option Json) : List Log.Call :=
  (if d.isNone then [warning "couldn't get d field in hello payload" []] else []) ++
  (match Json.get? d "heartbeat_interval" with
    | none => [warning "couldn't find heartbeat interval in hello payload" []]
    | some tmp =>
      if tmp.integerValue ≠ 0 then []
      else [warning "unexpected type for heartbeat interval in hello payload (not integer)" []]) ++
  [debug "heartbeat interval is %d" [.unsigned (helloInterval d)]] ++ resumeLogs ctx ++
  identifyLogs (helloIdentify w ctx).1 ++
  match Json.unpackIdentify ex w.beyondRoles (helloIdentify w ctx).1 with
  | none => [error "couldn't generate identify payload, closing gateway connection" []]
  | some d =>
    [debug "prepared JSON identify payload: \n%s"
      [printed (ex.dumps (Json.createPayload (.integer 2) (some d) none none))]]

def opcodeLogs (ex : Externals) (w : World) (ctx : Context) (scan : Scan) : List Log.Call :=
  match GatewayOpcode.ofCode scan.opcode with
  | .dispatch => dispatchLogs (scan.t.or w.staleType) scan.d
  | .hello => helloLogs ex w ctx scan.d
  | .unknown => [warning "received payload with unknown opcode" []]
  | .heartbeat | .identify | .presence | .voiceState | .voicePing | .resume | .reconnect | .requestMembers
  | .invalidateSession | .heartbeatAck | .guildSync => []

def parserLogs (ex : Externals) (m : Printed) (w : World) (ctx : Context) (text : Text) : List Log.Call :=
  match ex.loadb text with
  | none => [debug "couldn't parse payload from gateway: %s" [.string m.jsonError]]
  | some payload =>
    memberLogs payload.members ++
      match scanMembers ⟨ctx.lastSeq, opcodeUnknown, none, none⟩ payload.members with
      | .error _ => []
      | .ok scan => opcodeLogs ex w { ctx with lastSeq := scan.lastSeq } scan

def receiveLogs (ex : Externals) (m : Printed) (w : World) (ctx : Context) (fragment : Fragment UInt8) :
    List Log.Call :=
  let len := fragment.data.length
  if ctx.gatewayRxBuffer.isNone && fragment.final then
    parserLogs ex m w ctx fragment.data ++ [debug "single RX: %s" [printed fragment.data]]
  else if fragment.first then []
  else if fragment.final && ctx.gatewayRxBuffer.isSome then
    let block := Block.realloc ctx.gatewayRxBuffer (ctx.gatewayRxBufferLen + len + 2)
    let block := block.write ctx.gatewayRxBufferLen (strncpy fragment.data len)
    let total := ctx.gatewayRxBufferLen + len
    let block := block.write total [0]
    let text := block.read w.strayByte total
    (if 2000 < total then debug "multi RX: %.*s..." [.int 2000, printed text]
      else debug "multi RX: %s" [printed text]) :: parserLogs ex m w ctx text
  else []

def writeableLogs (ctx : Context) : List Log.Call :=
  debug "lws: client writable callback" [] ::
    match ctx.gatewayRing.consume with
    | none => [debug "nothing in queue to send" []]
    | some (gatewayPayload, _) =>
      if gatewayPayload.payload.length = 0 then [error "couldn't write payload to buffer" []] else []

/-- The close frame behind its code, up to the first zero; as many bytes are read as the whole frame has. -/
def closeReason (w : World) (frame : Text) : Argument :=
  printed ((List.range frame.length).map fun i => frameByte w frame (i + 2))

/-- `ld_lws_callback`; the number of the reason WSI_DESTROY is 30. In the message of a connection error the
arguments stand one place too far to the left. -/
def callbackLogs (ex : Externals) (m : Printed) (w : World) (ctx : Context) : Callback → List Log.Call
  | .clientConnectionError =>
    [error "lws: error connecting to gateway: %.*s(%d)" [.pointer m.errorIn, .size m.errorLen, .size m.errorLen]]
  | .clientFilterPreEstablish => [info "lws: received handshake from Discord gateway" []]
  | .clientEstablished => [info "established websocket connection to gateway" []]
  | .closed => [notice "lws: websocket connection to gateway closed" []]
  | .clientReceive fragment => receiveLogs ex m w ctx fragment
  | .clientReceivePong => [debug "ld_lws_callback: recieved websocket pong from gateway" []]
  | .clientWriteable => writeableLogs ctx
  | .wsPeerInitiatedClose frame =>
    let code := (frameByte w frame 0).toUInt32 <<< 8 ||| (frameByte w frame 1).toUInt32
    let len : UInt64 := .ofNat frame.length
    [info "lws: gateway initiated close of websocket: close code: %u\nCONTEXT (%d):\n%.*s"
      [.unsigned code, .size len, .size len, closeReason w frame]]
  | .wsClientDropProtocol => [debug "%s: lws client dropped protocol" [callbackName]]
  | .clientClosed => [debug "%s: lws client closed" [callbackName]]
  | .wsiDestroy =>
    [debug "%s: lws_wsi destroyed, clearing out" [callbackName],
      debug "lws: received lws callback reason %d" [.int 30]]
  | .other reason => [debug "lws: received lws callback reason %d" [.int (.ofNat reason)]]
  | .getThreadId | .changeModePollFd | .lockPoll | .unlockPoll => []

-- Room for a text behind a message of this length.
def Fits (before : Nat) (text : Text) : Prop := before + (text.takeWhile (· ≠ 0)).length < msgSize

def DispatchPrintable (type d : Option Json) : Prop :=
  type.bind Json.stringValue = some (ascii "READY") → ∀ value ∈ sessionMember d, ∀ id ∈ value.stringValue,
    20 + id.length < msgSize

def HelloPrintable (ex : Externals) (w : World) (ctx : Context) : Prop :=
  ∀ d, Json.unpackIdentify ex w.beyondRoles (helloIdentify w ctx).1 = some d →
    Fits 33 (ex.dumps (Json.createPayload (.integer 2) (some d) none none))

def OpcodePrintable (ex : Externals) (w : World) (ctx : Context) (scan : Scan) : Prop :=
  match GatewayOpcode.ofCode scan.opcode with
  | .dispatch => DispatchPrintable (scan.t.or w.staleType) scan.d
  | .hello => HelloPrintable ex w ctx
  | _ => True

def MessagePrintable (ex : Externals) (w : World) (ctx : Context) (text : Text) : Prop :=
  ∀ payload, ex.loadb text = some payload →
    ∀ scan, scanMembers ⟨ctx.lastSeq, opcodeUnknown, none, none⟩ payload.members = .ok scan →
      OpcodePrintable ex w { ctx with lastSeq := scan.lastSeq } scan

section
variable {ex : Externals} {m : Printed} {w : World} {ctx : Context} {level : UInt64}

def Debugs (level : UInt64) : Prop := level &&& levelDebug ≠ 0

instance (level : UInt64) : Decidable (Debugs level) := inferInstanceAs (Decidable (¬_))

theorem quiet_one {call : Log.Call} : Quiet level [call] ↔ (call.Enabled level → call.Writable) := by
  simp [quiet_cons]

theorem quiet_of_writable {call : Log.Call} (writable : call.Writable) : Quiet level [call] :=
  quiet_one.mpr fun _ => writable

theorem quiet_debug {message : String} {args : List Argument} {spelled : Format.Spelled message} {fits : Prop}
    (writable : (debug message args spelled).Writable ↔ fits) :
    Quiet level [debug message args spelled] ↔ (Debugs level → fits) := by
  rw [quiet_one, writable]
  exact Iff.rfl

/-- A message that reads memory of others is harmless only where it is not printed. -/
theorem quiet_unreadable {call : Log.Call} (unreadable : vsprintf call.message call.args = none) :
    Quiet level [call] ↔ level &&& call.level = 0 := by
  rw [quiet_one, Log.Call.Writable, unreadable]
  refine ⟨fun writable => ?_, fun off on => absurd off on⟩
  by_contra on
  obtain ⟨_, written, _⟩ := writable on
  cases written

def Ends (format : List Char) (before : Nat) (c : Conversion) : Prop :=
  (format.take before).all (· ≠ '%') = true ∧ format.drop before = c.spelled

instance (format : List Char) (before : Nat) (c : Conversion) : Decidable (Ends format before c) :=
  inferInstanceAs (Decidable (_ ∧ _))

theorem Ends.length {format : List Char} {before : Nat} {c : Conversion} (ends : Ends format before c) :
    (format.take before).length = before := by
  have rest := congrArg List.length ends.2
  have some : 0 < c.spelled.length := by cases c <;> decide
  rw [List.length_drop] at rest
  rw [List.length_take]
  omega

theorem writable_string {of : UInt64} {format : List Char} {before : Nat} {text : Text}
    {spelled : Format.Spelled (String.ofList format)} (ends : Ends format before .string) :
    (Log.Call.mk of (String.ofList format) [.string text] spelled).Writable ↔ before + text.length < msgSize := by
  rw [Log.Call.Writable, vsprintf_one ends.1 ends.2]
  simp only [Format.Conversion.take, Argument.text, Option.elim_none, Option.map_some, Option.some.injEq,
    exists_eq_left', List.length_append, List.length_map, ends.length]

theorem writable_null {of : UInt64} {format : List Char} {before : Nat}
    {spelled : Format.Spelled (String.ofList format)} (ends : Ends format before .string)
    (short : before + 6 < msgSize) : (Log.Call.mk of (String.ofList format) [.pointer 0] spelled).Writable := by
  have null : (Argument.pointer 0).text none = some Argument.nullText := by decide +kernel
  have length : Argument.nullText.length = 6 := by decide +kernel
  refine ⟨_, (vsprintf_one ends.1 ends.2 _).trans (by rw [Format.Conversion.take, null]; rfl), ?_⟩
  rw [List.length_append, List.length_map, ends.length, length]
  exact short

theorem memberLogs_quiet (members : List (String × Json)) : Quiet level (memberLogs members) := by
  induction members with
  | nil => exact quiet_nil
  | cons entry rest ih =>
    obtain ⟨key, value⟩ := entry
    rw [memberLogs]
    cases gatewayPayloadObjectparser key with
    | op => exact quiet_cons.mpr ⟨fun _ => writable_of_short rfl (show 18 + 11 < msgSize by decide), ih⟩
    | unknown => exact quiet_short rfl (by decide)
    | _ => exact ih

theorem readyLogs_quiet (d : Option Json) : Quiet level (readyLogs d) ↔
    (Debugs level → ∀ value ∈ sessionMember d, ∀ id ∈ value.stringValue, 20 + id.length < msgSize) := by
  rw [readyLogs]
  cases sessionMember d with
  | none => exact iff_of_true (quiet_plain (by decide)) fun _ _ member => nomatch member
  | some value =>
    simp only [Option.mem_some_iff, forall_eq']
    refine quiet_debug ?_
    cases value.stringValue with
    | none =>
      rw [Option.elim_none]
      exact iff_of_true (writable_null (show Ends _ 20 .string by decide) (by decide)) fun _ member => nomatch member
    | some id =>
      have fits : (debug "gateway session_id: %s" [.string id]).Writable ↔ 20 + id.length < msgSize :=
        writable_string (by decide)
      rw [Option.elim_some, fits]
      simp

theorem dispatchDict_short : ∀ entry ∈ dispatchDict, entry.name.length ≤ 100 := by
  decide +kernel

theorem dispatchLogs_quiet (type d : Option Json) :
    Quiet level (dispatchLogs type d) ↔ (Debugs level → DispatchPrintable type d) := by
  rw [dispatchLogs, DispatchPrintable]
  cases type.bind Json.stringValue with
  | none =>
    refine iff_of_true (quiet_plain (by decide)) ?_
    rintro _ ⟨⟩
  | some name =>
    dsimp only
    cases found : dispatchDict.find? (ascii ·.name = name) with
    | none =>
      refine iff_of_true quiet_nil fun _ ready => ?_
      have absent := List.find?_eq_none.mp found ⟨"READY", .ready, some .dispatchReady⟩ List.mem_cons_self
      simp [Option.some.inj ready] at absent
    | some entry =>
      have member := List.mem_of_find?_eq_some found
      have named : ascii entry.name = name := by simpa using List.find?_some found
      have callback := dispatchDict_callback entry member
      have short : (ascii entry.name).length ≤ 100 := by
        rw [ascii, List.length_map, String.length_toList]
        exact dispatchDict_short entry member
      have writable : (debug "dispatch type is %s, callback reason is %d"
          [.string (ascii entry.name), .int (.ofInt entry.cbkReason.number)]).Writable := by
        refine writable_of_short rfl ?_
        simp only [widths, List.foldr_cons, List.foldr_nil, Argument.width, msgSize,
          List.length_cons, List.length_nil]
        omega
      dsimp only
      rw [quiet_cons, and_iff_right fun _ => writable, Option.some.injEq, ← named]
      by_cases ready : ascii entry.name = ascii "READY"
      · rw [callback, if_pos ready]
        simp only [Option.isSome_some, if_true, ready, forall_const]
        exact readyLogs_quiet d
      · rw [callback, if_neg ready]
        simp [ready]

theorem resumeLogs_quiet : Quiet level (resumeLogs ctx) := by
  rw [resumeLogs]
  split
  · refine quiet_cons.mpr ⟨fun _ => writable_of_short rfl (by decide), ?_⟩
    split
    · exact quiet_short rfl (by decide)
    · exact quiet_nil
  · exact quiet_short rfl (by decide)

theorem identifyLogs_quiet (identify : Identify) : Quiet level (identifyLogs identify) := by
  rw [identifyLogs]
  split
  · exact quiet_plain (by decide)
  · exact quiet_plain (by decide)
  · refine quiet_append.mpr ⟨?_, ?_⟩
    · split
      · exact quiet_plain (by decide)
      · exact quiet_nil
    · split
      · exact quiet_nil
      · exact quiet_short rfl (show 8 + 11 < msgSize by decide)

theorem helloLogs_quiet (d : Option Json) :
    Quiet level (helloLogs ex w ctx d) ↔ (Debugs level → HelloPrintable ex w ctx) := by
  have first : Quiet level (if d.isNone then [warning "couldn't get d field in hello payload" []] else []) := by
    split
    · exact quiet_plain (by decide)
    · exact quiet_nil
  have second : Quiet level (match Json.get? d "heartbeat_interval" with
      | none => [warning "couldn't find heartbeat interval in hello payload" []]
      | some tmp =>
        if tmp.integerValue ≠ 0 then []
        else [warning "unexpected type for heartbeat interval in hello payload (not integer)" []]) := by
    split
    · exact quiet_plain (by decide)
    · split
      · exact quiet_nil
      · exact quiet_plain (by decide)
  have interval : Quiet level [debug "heartbeat interval is %d" [.unsigned (helloInterval d)]] :=
    quiet_short rfl (show 24 + 11 < msgSize by decide)
  rw [helloLogs, quiet_append, quiet_append, quiet_append, quiet_append, quiet_append, and_iff_right first,
    and_iff_right second, and_iff_right interval, and_iff_right resumeLogs_quiet,
    and_iff_right (identifyLogs_quiet _), HelloPrintable]
  cases Json.unpackIdentify ex w.beyondRoles (helloIdentify w ctx).1 with
  | none => exact iff_of_true (quiet_plain (by decide)) fun _ _ refused => nomatch refused
  | some made =>
    have shown : (debug "prepared JSON identify payload: \n%s"
        [printed (ex.dumps (Json.createPayload (.integer 2) (some made) none none))]).Writable ↔
        Fits 33 (ex.dumps (Json.createPayload (.integer 2) (some made) none none)) :=
      writable_string (by decide)
    simp only [Option.some.injEq, forall_eq']
    exact quiet_debug shown

theorem opcodeLogs_quiet (scan : Scan) :
    Quiet level (opcodeLogs ex w ctx scan) ↔ (Debugs level → OpcodePrintable ex w ctx scan) := by
  rw [opcodeLogs, OpcodePrintable]
  cases GatewayOpcode.ofCode scan.opcode with
  | dispatch => exact dispatchLogs_quiet _ _
  | hello => exact helloLogs_quiet _
  | unknown =>
    exact iff_of_true (quiet_plain (by decide)) fun _ => trivial
  | _ => exact iff_of_true quiet_nil fun _ => trivial

theorem parserLogs_quiet (text : Text) :
    Quiet level (parserLogs ex m w ctx text) ↔ (Debugs level → MessagePrintable ex w ctx text) := by
  rw [parserLogs, MessagePrintable]
  cases ex.loadb text with
  | none =>
    have writable : (debug "couldn't parse payload from gateway: %s" [.string m.jsonError]).Writable := by
      refine (writable_string (show Ends _ 37 .string by decide)).mpr ?_
      have short := m.jsonError.property
      simp only [msgSize]
      omega
    refine iff_of_true (quiet_of_writable writable) ?_
    rintro _ _ ⟨⟩
  | some payload =>
    simp only [Option.some.injEq, forall_eq']
    rw [quiet_append, and_iff_right (memberLogs_quiet _)]
    cases scanMembers ⟨ctx.lastSeq, opcodeUnknown, none, none⟩ payload.members with
    | error scan =>
      refine iff_of_true quiet_nil ?_
      rintro _ _ ⟨⟩
    | ok scan =>
      simp only [Except.ok.injEq, forall_eq']
      exact opcodeLogs_quiet scan

end

/-- What is received can be printed: the message that it completes, and the text if it is one chunk. -/
def FragmentPrintable (ex : Externals) (w : World) (ctx : Context) (fragment : Fragment UInt8) : Prop :=
  (∀ text, completedText w ctx fragment = some text → MessagePrintable ex w ctx text) ∧
    ((ctx.gatewayRxBuffer.isNone && fragment.final) = true → Fits 11 fragment.data)

def closeText (w : World) (frame : Text) : Text :=
  let code := (frameByte w frame 0).toUInt32 <<< 8 ||| (frameByte w frame 1).toUInt32
  let len := (UInt64.ofNat frame.length).toUInt32
  let reason := ((List.range frame.length).map fun i => frameByte w frame (i + 2)).takeWhile (· ≠ 0)
  ascii "lws: gateway initiated close of websocket: close code: " ++ Format.digits code.toNat ++
    ascii "\nCONTEXT (" ++ Format.digits len.toInt32.toInt ++ ascii "):\n" ++
    if len.toInt32 < 0 then reason else reason.take len.toNat

-- Errors and infos are printed.
def Complains (level : UInt64) : Prop := level &&& levelError ≠ 0
def Informs (level : UInt64) : Prop := level &&& levelInfo ≠ 0

def Callback.Printable (ex : Externals) (m : Printed) (w : World) (ctx : Context) (level : UInt64) :
    Callback → Prop
  | .clientConnectionError => Complains level → m.errorLen = 0 ∨ m.errorIn.toUInt32 = 0
  | .wsPeerInitiatedClose frame => Informs level → (closeText w frame).length < msgSize
  | .clientReceive fragment => Debugs level → FragmentPrintable ex w ctx fragment
  | _ => True

section
variable {ex : Externals} {m : Printed} {w : World} {ctx : Context} {level : UInt64}

theorem multi_quiet {total : Nat} {text : Text} (length : text.length = total) :
    Quiet level [if 2000 < total then debug "multi RX: %.*s..." [.int 2000, printed text]
      else debug "multi RX: %s" [printed text]] := by
  have shown : (text.takeWhile (· ≠ 0)).length ≤ text.length := (List.takeWhile_sublist _).length_le
  refine quiet_of_writable ?_
  split
  · have written : vsprintf "multi RX: %.*s..." [.int 2000, printed text] =
        some (ascii "multi RX: " ++ ((text.takeWhile (· ≠ 0)).take 2000 ++ ascii "...")) := rfl
    have cut := List.length_take_le 2000 (text.takeWhile (· ≠ 0))
    refine ⟨_, written, ?_⟩
    simp only [List.length_append, show (ascii "multi RX: ").length = 10 from rfl,
      show (ascii "...").length = 3 from rfl, msgSize]
    omega
  · refine (writable_string (show Ends _ 10 .string by decide)).mpr ?_
    simp only [msgSize]
    omega

theorem receiveLogs_quiet (fragment : Fragment UInt8) : Quiet level (receiveLogs ex m w ctx fragment) ↔
    (Debugs level → FragmentPrintable ex w ctx fragment) := by
  rw [receiveLogs, FragmentPrintable, completedText]
  by_cases single : (ctx.gatewayRxBuffer.isNone && fragment.final) = true
  · have fits : (debug "single RX: %s" [printed fragment.data]).Writable ↔ Fits 11 fragment.data :=
      writable_string (by decide)
    rw [if_pos single, if_pos single, quiet_append, parserLogs_quiet, quiet_debug fits]
    simp only [Option.some.injEq, forall_eq', single, forall_const]
    exact imp_and.symm
  rw [if_neg single, if_neg single, and_iff_left fun both => absurd both single]
  by_cases first : fragment.first = true
  · rw [if_pos first, if_pos first]
    refine iff_of_true quiet_nil ?_
    rintro _ _ ⟨⟩
  rw [if_neg first, if_neg first]
  by_cases final : (fragment.final && ctx.gatewayRxBuffer.isSome) = true
  · rw [if_pos final, if_pos final, quiet_cons, ← quiet_one, and_iff_right (multi_quiet (by simp [Block.read])),
      parserLogs_quiet]
    simp only [Option.some.injEq, forall_eq']
  · rw [if_neg final, if_neg final]
    refine iff_of_true quiet_nil ?_
    rintro _ _ ⟨⟩

/-- The length stands for an address, and the address for a limit: it can be read exactly if it is the null pointer or
the limit is zero. -/
theorem misplaced_readable (address len : UInt64) : (∃ text, (Argument.size len).text
    (if address.toUInt32.toInt32 < 0 then none else some address.toUInt32.toNat) = some text) ↔
      len = 0 ∨ address.toUInt32 = 0 := by
  simp only [Argument.text, Argument.textAt, decide_eq_true_eq]
  by_cases null : len = 0
  · rw [if_pos null]
    exact iff_of_true ⟨_, rfl⟩ (.inl null)
  rw [if_neg null, or_iff_right null]
  by_cases zero : address.toUInt32 = 0
  · rw [zero]
    exact iff_of_true ⟨[], rfl⟩ rfl
  · have limited : ¬(if address.toUInt32.toInt32 < 0 then none else some address.toUInt32.toNat) = some 0 := by
      split
      · exact nofun
      · exact fun same => zero (UInt32.toNat_inj.mp (Option.some.inj same))
    rw [if_neg limited]
    exact iff_of_false (fun ⟨_, same⟩ => nomatch same) zero

theorem connectionError_writable (address len : UInt64) :
    (error "lws: error connecting to gateway: %.*s(%d)" [.pointer address, .size len, .size len]).Writable ↔
      len = 0 ∨ address.toUInt32 = 0 := by
  have written : vsprintf "lws: error connecting to gateway: %.*s(%d)" [.pointer address, .size len, .size len] =
      ((Argument.size len).text
        (if address.toUInt32.toInt32 < 0 then none else some address.toUInt32.toNat)).map fun text =>
          ascii "lws: error connecting to gateway: " ++ (text ++ (ascii "(" ++
            (Format.digits len.toUInt32.toInt32.toInt ++ ascii ")"))) := by
    have pieces : Format.pieces ("lws: error connecting to gateway: %.*s(%d)".toList.drop 34) =
        some [.conversion .limited, .literal 40, .conversion .signed, .literal 41] := by decide +kernel
    have taken : Format.Conversion.take .limited [.pointer address, .size len, .size len] =
        ((Argument.size len).text
          (if address.toUInt32.toInt32 < 0 then none else some address.toUInt32.toNat)).map
            (·, [.size len]) := by
      simp only [Format.Conversion.take, Argument.low, Option.bind_eq_bind, Option.bind_some]
      exact Option.map_eq_bind.symm
    refine (vsprintf_lead 34 (by decide) _).trans ?_
    refine (congrArg (fun rest => (Option.bind rest (Format.render · _)).map _) pieces).trans ?_
    rw [Option.bind_some, Format.render, taken]
    cases (Argument.size len).text _ with
    | none => rfl
    | some text => rfl
  rw [← misplaced_readable]
  constructor
  · rintro ⟨_, printed, _⟩
    rw [error, written] at printed
    obtain ⟨text, read, _⟩ := Option.map_eq_some_iff.mp printed
    exact ⟨text, read⟩
  · rintro ⟨text, read⟩
    rw [read, Option.map_some] at written
    refine ⟨_, written, Nat.lt_of_le_of_lt (vsprintf_length written) ?_⟩
    exact show 42 + 33 < msgSize by decide

theorem close_printed (code : UInt32) (len : UInt64) (reason : Text) :
    vsprintf "lws: gateway initiated close of websocket: close code: %u\nCONTEXT (%d):\n%.*s"
      [.unsigned code, .size len, .size len, .string reason] =
    some (ascii "lws: gateway initiated close of websocket: close code: " ++ (Format.digits code.toNat ++
      (ascii "\nCONTEXT (" ++ (Format.digits len.toUInt32.toInt32.toInt ++ (ascii "):\n" ++
        ((if len.toUInt32.toInt32 < 0 then reason else reason.take len.toUInt32.toNat) ++ [])))))) := by
  have taken : Format.Conversion.take .limited [.size len, .string reason] =
      some (if len.toUInt32.toInt32 < 0 then reason else reason.take len.toUInt32.toNat, []) := by
    simp only [Format.Conversion.take, Argument.low, Option.bind_eq_bind, Option.bind_some]
    split <;> rfl
  have pieces : Format.pieces
      ("lws: gateway initiated close of websocket: close code: %u\nCONTEXT (%d):\n%.*s".toList.drop 55) =
        some (.conversion .unsigned :: (ascii "\nCONTEXT (").map .literal ++ .conversion .signed ::
          (ascii "):\n").map .literal ++ [.conversion .limited]) := by decide +kernel
  refine (vsprintf_lead 55 (by decide) _).trans ?_
  refine (congrArg (fun rest => (Option.bind rest (Format.render · _)).map _) pieces).trans ?_
  have unsigned (rest : List Argument) : Format.Conversion.take .unsigned (.unsigned code :: rest) =
      some (Format.digits code.toNat, rest) := rfl
  have signed (rest : List Argument) : Format.Conversion.take .signed (.size len :: rest) =
      some (Format.digits len.toUInt32.toInt32.toInt, rest) := rfl
  simp only [Option.bind_some, List.append_assoc, List.cons_append, Format.render, Format.render_literals, taken,
    unsigned, signed, Option.bind_eq_bind, Option.map_some]
  rfl

theorem close_writable (w : World) (frame : Text) :
    (info "lws: gateway initiated close of websocket: close code: %u\nCONTEXT (%d):\n%.*s"
      [.unsigned ((frameByte w frame 0).toUInt32 <<< 8 ||| (frameByte w frame 1).toUInt32),
        .size (.ofNat frame.length), .size (.ofNat frame.length), closeReason w frame]).Writable ↔
      (closeText w frame).length < msgSize := by
  rw [Log.Call.Writable, info, closeReason, printed, close_printed, closeText]
  simp only [Option.some.injEq, exists_eq_left', List.append_assoc, List.append_nil]

theorem callbackLogs_quiet (callback : Callback) :
    Quiet level (callbackLogs ex m w ctx callback) ↔ callback.Printable ex m w ctx level := by
  cases callback with
  | clientConnectionError => exact quiet_one.trans (imp_congr_right fun _ => connectionError_writable _ _)
  | wsPeerInitiatedClose frame => exact quiet_one.trans (imp_congr_right fun _ => close_writable w frame)
  | clientReceive fragment => exact receiveLogs_quiet fragment
  | clientFilterPreEstablish => exact iff_of_true (quiet_plain (by decide)) trivial
  | clientEstablished => exact iff_of_true (quiet_plain (by decide)) trivial
  | closed => exact iff_of_true (quiet_plain (by decide)) trivial
  | clientReceivePong => exact iff_of_true (quiet_plain (by decide)) trivial
  | clientWriteable =>
    refine iff_of_true ?_ trivial
    rw [callbackLogs, writeableLogs, quiet_cons, ← quiet_one]
    refine ⟨quiet_plain (by decide), ?_⟩
    cases ctx.gatewayRing.consume with
    | none => exact quiet_plain (by decide)
    | some taken =>
      dsimp only
      split
      · exact quiet_plain (by decide)
      · exact quiet_nil
  | wsClientDropProtocol => exact iff_of_true (quiet_short rfl (by decide)) trivial
  | clientClosed => exact iff_of_true (quiet_short rfl (by decide)) trivial
  | wsiDestroy =>
    refine iff_of_true (quiet_cons.mpr ⟨fun _ => writable_of_short rfl (by decide), ?_⟩) trivial
    exact quiet_short rfl (by decide)
  | other reason =>
    exact iff_of_true (quiet_short rfl (show 36 + 11 < msgSize by decide)) trivial
  | _ => exact iff_of_true quiet_nil trivial

end

end Libdiscord
