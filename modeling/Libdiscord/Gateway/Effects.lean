import Libdiscord.Gateway.Payload
import Libdiscord.Gateway.System

/-! What each operation of the library can do, said once.

Every relation below lists the outcomes of one operation, with the guards under which they arise.
Invariants are proved by cases on these relations; the definitions are not unfolded again.
-/

set_option autoImplicit false

namespace Libdiscord

open Libdiscord.Base
open Json (member?)

def Event.Quiet : Event → Prop
  | .unassigned _ | .userCalled _ _ _ => True
  | _ => False

def Event.Told : Event → Prop
  | .userCalled _ _ _ => True
  | _ => False

theorem Event.Told.quiet (e : Event) (told : e.Told) : e.Quiet := by cases e <;> trivial

structure UserCall where
  reason : CallbackReason
  data : CallbackData
  len : Int

def Event.userCall? : Event → Option UserCall
  | .userCalled reason data len => some ⟨reason, data, len⟩
  | _ => none

def userCalls (events : List Event) : List UserCall := events.filterMap Event.userCall?

theorem userCalls_append (events more : List Event) :
    userCalls (events ++ more) = userCalls events ++ userCalls more := List.filterMap_append

def Event.Apart : Event → Prop
  | .unassigned _ | .userCalled _ _ _ | .frameOverread _ | .bufferWrite .session _ _ _ => True
  | _ => False

def Event.Copied : Event → Prop
  | .bufferWrite .gatewayRx _ _ _ => True
  | _ => False

def Appended (ring next : BoundedQueue GatewayPayload) (text : Text) : Prop :=
  next.items = ring.items ++ [⟨text, text.length⟩] ∧ next.capacity = ring.capacity ∧
    ring.items.length < ring.capacity

section Parser
variable {ex : Externals} {w : World} {ctx : Context}

inductive Handled (w : World) (ctx : Context) (code : GatewayOpcode) : Outcome → Prop where
  | dispatch (session : Option Text) (ret : Status) (events : List Event) :
      code = .dispatch → Only Event.Quiet events →
      Handled w ctx code ⟨{ ctx with gatewaySessionId := session }, ret, events⟩
  | invalidated : code = .invalidateSession →
      Handled w ctx code ⟨{ ctx with gatewaySessionId := none, lastSeq := 0 }, .ok, []⟩
  | helloRefused (interval : UInt32) (events : List Event) : code = .hello → Only Event.Quiet events →
      Handled w ctx code ⟨{ ctx with heartbeatInterval := interval }, 1, events⟩
  | helloFull (interval : UInt32) (events : List Event) : code = .hello → Only Event.Quiet events →
      ctx.gatewayRing.items.length = ctx.gatewayRing.capacity →
      Handled w ctx code ⟨{ ctx with heartbeatInterval := interval, lastHb := w.now }, .ok, events⟩
  | helloQueued (interval : UInt32) (ring : BoundedQueue GatewayPayload) (text : Text) (events : List Event) :
      code = .hello → Only Event.Quiet events → Appended ctx.gatewayRing ring text →
      Handled w ctx code
        ⟨{ ctx with heartbeatInterval := interval, gatewayRing := ring, lastHb := w.now }, .ok,
          events ++ [.queued .handshake text]⟩
  | acked : code = .heartbeatAck → Handled w ctx code ⟨{ ctx with hbCount := ctx.hbCount - 1 }, .ok, []⟩
  | ignored (ret : Status) : code ≠ .dispatch → code ≠ .invalidateSession → code ≠ .hello →
      code ≠ .heartbeatAck → Handled w ctx code ⟨ctx, ret, []⟩

theorem callUser_some {reason : CallbackReason} {data : CallbackData} {len : Int} {out : Outcome}
    (called : callUser w ctx reason data len = some out) :
    ctx.userCallback = true ∧ out = ⟨ctx, w.userReturn, [.userCalled reason data len]⟩ := by
  unfold callUser at called
  split at called
  · next set => exact ⟨set, (Option.some.inj called).symm⟩
  · cases called

theorem dispatchReady_some {data : Option Json} {next : Context} {ret : Status}
    (ready : dispatchReady ctx data = some (next, ret)) :
    ∃ session, next = { ctx with gatewaySessionId := session } := by
  unfold dispatchReady at ready
  split at ready
  · cases ready
    exact ⟨ctx.gatewaySessionId, rfl⟩
  · next value _ =>
    cases value : Json.stringValue value with
    | none => simp [value] at ready
    | some id =>
      simp only [value, Option.map_some, Option.some.injEq, Prod.mk.injEq] at ready
      exact ⟨some id, ready.1.symm⟩

theorem gatewayDispatchParser_some {type data : Option Json} {out : Outcome}
    (parsed : gatewayDispatchParser w ctx type data = some out) :
    ∃ session, out.ctx = { ctx with gatewaySessionId := session } ∧ Only Event.Told out.events := by
  unfold gatewayDispatchParser at parsed
  split at parsed
  · cases parsed
    exact ⟨ctx.gatewaySessionId, rfl, by simp⟩
  split at parsed
  · cases parsed
    exact ⟨ctx.gatewaySessionId, rfl, by simp⟩
  split at parsed
  · obtain ⟨_, rfl⟩ := callUser_some parsed
    exact ⟨ctx.gatewaySessionId, rfl, by simp [Event.Told]⟩
  · next callback _ =>
    obtain ⟨⟨next, ret⟩, ran, rest⟩ := Option.bind_eq_some_iff.mp parsed
    cases callback
    obtain ⟨session, rfl⟩ := dispatchReady_some ran
    dsimp only at rest
    split at rest
    · cases rest
      exact ⟨session, rfl, by simp⟩
    · obtain ⟨_, rfl⟩ := callUser_some rest
      exact ⟨session, rfl, by simp [Event.Told]⟩

theorem quiet_saveResume (resume : Resume) : Only Event.Quiet (saveResume resume) := by
  unfold saveResume
  split
  · simp
  · simp [Json.unpackResume, Event.Quiet]

theorem quiet_helloIdentify (w : World) (ctx : Context) : Only Event.Quiet (helloIdentify w ctx).2 := by
  unfold helloIdentify
  split
  · simp [quiet_saveResume, Event.Quiet]
  · simp

theorem gatewayHello_cases {d : Option Json} {out : Outcome} (ran : gatewayHello ex w ctx d = some out) :
    let timed := { ctx with heartbeatInterval := helloInterval d }
    let chosen := helloIdentify w timed
    (Json.unpackIdentify ex w.beyondRoles chosen.1 = none ∧ out = ⟨timed, 1, chosen.2⟩) ∨
    ∃ data text, Json.unpackIdentify ex w.beyondRoles chosen.1 = some data ∧
      text = ex.dumps (Json.createPayload (.integer 2) (some data) none none) ∧
      out = ⟨{ timed with
          gatewayRing := (ctx.gatewayRing.insert ⟨text, text.length⟩).1, lastHb := w.now }, .ok,
        chosen.2 ++ if (ctx.gatewayRing.insert ⟨text, text.length⟩).2 = 1 then [.queued .handshake text]
          else []⟩ := by
  unfold gatewayHello at ran
  dsimp only at ran ⊢
  split at ran
  · next encoded =>
    cases ran
    exact .inl ⟨encoded, rfl⟩
  · next data encoded =>
    cases ran
    exact .inr ⟨data, _, encoded, rfl, rfl⟩

theorem gatewayHello_some {d : Option Json} {out : Outcome} (parsed : gatewayHello ex w ctx d = some out) :
    Handled w ctx .hello out := by
  have quiet := quiet_helloIdentify w { ctx with heartbeatInterval := helloInterval d }
  rcases gatewayHello_cases parsed with ⟨_, rfl⟩ | ⟨_, text, _, _, rfl⟩
  · exact .helloRefused _ _ rfl quiet
  · have capacity := ctx.gatewayRing.insert_capacity ⟨text, text.length⟩
    rcases ctx.gatewayRing.insert_cases ⟨text, text.length⟩ with ⟨one, items, room⟩ | ⟨refused, full⟩
    · rw [if_pos one]
      exact .helloQueued _ _ _ _ rfl quiet ⟨items, capacity, room⟩
    · rw [refused]
      simpa using Handled.helloFull (w := w) (helloInterval d) _ rfl quiet full

theorem gatewayOpcode_some {scan : Scan} {out : Outcome} (parsed : gatewayOpcode ex w ctx scan = some out) :
    Handled w ctx (.ofCode scan.opcode) out := by
  unfold gatewayOpcode at parsed
  cases code : GatewayOpcode.ofCode scan.opcode
  case dispatch =>
    simp only [code] at parsed
    cases type : scan.t with
    | some t =>
      simp only [type] at parsed
      obtain ⟨session, same, told⟩ := gatewayDispatchParser_some parsed
      obtain ⟨_, ret, events⟩ := out
      subst same
      exact .dispatch session ret events rfl (told.mono Event.Told.quiet)
    | none =>
      simp only [type, Option.map_eq_some_iff] at parsed
      obtain ⟨inner, called, rfl⟩ := parsed
      obtain ⟨session, same, told⟩ := gatewayDispatchParser_some called
      rw [same]
      exact .dispatch session _ _ rfl ((only_cons _ _).mpr ⟨trivial, told.mono Event.Told.quiet⟩)
  case hello =>
    simp only [code] at parsed
    exact gatewayHello_some parsed
  case invalidateSession =>
    simp only [code, Option.some.injEq] at parsed
    exact parsed ▸ .invalidated rfl
  case heartbeatAck =>
    simp only [code, Option.some.injEq] at parsed
    exact parsed ▸ .acked rfl
  all_goals
    simp only [code, Option.some.injEq] at parsed
    exact parsed ▸ .ignored _ (by simp) (by simp) (by simp) (by simp)

inductive Parsed (ex : Externals) (w : World) (ctx : Context) (text : Text) : Outcome → Prop where
  | malformed : ex.loadb text = none → Parsed ex w ctx text ⟨ctx, 1, []⟩
  | unknownKey (payload : Json) (seq : Int32) : ex.loadb text = some payload → ¬Known payload.members →
      Parsed ex w ctx text ⟨{ ctx with lastSeq := seq }, 1, []⟩
  | known (payload : Json) (out : Outcome) : ex.loadb text = some payload → Known payload.members →
      Handled w { ctx with lastSeq := storedSeq ctx.lastSeq payload.members }
        (selectedOpcode payload.members) out → Parsed ex w ctx text out

theorem gatewayPayloadParser_some {text : Text} {out : Outcome}
    (parsed : gatewayPayloadParser ex w ctx text = some out) : Parsed ex w ctx text out := by
  unfold gatewayPayloadParser at parsed
  cases loaded : ex.loadb text with
  | none =>
    simp only [loaded, Option.some.injEq] at parsed
    exact parsed ▸ .malformed loaded
  | some payload =>
    simp only [loaded] at parsed
    by_cases known : Known payload.members
    · rw [scanMembers_known _ _ known] at parsed
      exact .known payload out loaded known (gatewayOpcode_some parsed)
    · cases scanned : scanMembers ⟨ctx.lastSeq, opcodeUnknown, none, none⟩ payload.members with
      | ok scan => exact absurd (known_of_scanMembers scanned) known
      | error scan =>
        simp only [scanned, Option.some.injEq] at parsed
        exact parsed ▸ .unknownKey payload scan.lastSeq loaded known

theorem gatewayPayloadParser_known {text : Text} {payload : Json} (loaded : ex.loadb text = some payload)
    (known : Known payload.members) :
    gatewayPayloadParser ex w ctx text =
      let ctx := { ctx with lastSeq := storedSeq ctx.lastSeq payload.members }
      match selectedOpcode payload.members with
      | .dispatch => match member? "t" payload.members with
        | some t => gatewayDispatchParser w ctx (some t) (member? "d" payload.members)
        | none => (gatewayDispatchParser w ctx w.staleType (member? "d" payload.members)).map fun out =>
          { out with events := .unassigned .dispatchType :: out.events }
      | .invalidateSession => some ⟨{ ctx with gatewaySessionId := none, lastSeq := 0 }, .ok, []⟩
      | .hello => gatewayHello ex w ctx (member? "d" payload.members)
      | .heartbeatAck => some ⟨{ ctx with hbCount := ctx.hbCount - 1 }, .ok, []⟩
      | .unknown => some ⟨ctx, 1, []⟩
      | _ => some ⟨ctx, .ok, []⟩ := by
  unfold gatewayPayloadParser
  simp only [loaded, scanMembers_known _ _ known, gatewayOpcode, Option.or_none]
  unfold selectedOpcode
  cases GatewayOpcode.ofCode ((member? "op" payload.members).elim opcodeUnknown
    fun value => value.integerValue.toUInt64.toUInt32) <;> rfl

theorem gatewayHello_total (ex : Externals) (w : World) (ctx : Context) (d : Option Json) :
    ∃ out, gatewayHello ex w ctx d = some out := by
  unfold gatewayHello
  dsimp only
  split <;> exact ⟨_, rfl⟩

theorem callUser_returns (w : World) {ctx : Context} (set : ctx.userCallback = true) (reason : CallbackReason)
    (data : CallbackData) (len : Int) : ∃ out, callUser w ctx reason data len = some out := by
  unfold callUser
  exact ⟨_, if_pos set⟩

/-- A session id that `strdup` can copy, or none. -/
def Copyable (d : Option Json) : Prop :=
  ∀ entry ∈ d.elim [] Json.members, entry.1 = "session_id" → entry.2.stringValue.isSome = true

instance (d : Option Json) : Decidable (Copyable d) :=
  inferInstanceAs (Decidable (∀ entry ∈ d.elim [] Json.members, _ → _))

theorem dispatchReady_returns (ctx : Context) {d : Option Json} (copyable : Copyable d) :
    ∃ ready, dispatchReady ctx d = some ready := by
  unfold dispatchReady
  cases found : (d.elim [] Json.members).find? (·.1 = "session_id") with
  | none => exact ⟨_, rfl⟩
  | some entry =>
    have named : entry.1 = "session_id" := by simpa using List.find?_some found
    obtain ⟨id, value⟩ := Option.isSome_iff_exists.mp (copyable entry (List.mem_of_find?_eq_some found) named)
    simp only [value, Option.map_some]
    exact ⟨_, rfl⟩

theorem gatewayDispatchParser_returns {type d : Option Json} (set : ctx.userCallback = true)
    (copyable : Copyable d) : ∃ out, gatewayDispatchParser w ctx type d = some out := by
  unfold gatewayDispatchParser
  split
  · exact ⟨_, rfl⟩
  split
  · exact ⟨_, rfl⟩
  split
  · exact callUser_returns w set ..
  · next callback _ =>
    cases callback
    obtain ⟨⟨next, ret⟩, ran⟩ := dispatchReady_returns ctx copyable
    obtain ⟨session, rfl⟩ := dispatchReady_some ran
    simp only [DispatchCallback.run, ran, Option.bind_eq_bind, Option.bind_some]
    split
    · exact ⟨_, rfl⟩
    · exact callUser_returns w (by exact set) ..

/-- With a user callback the parser returns, but where READY has a session id that is no string. -/
theorem gatewayPayloadParser_returns (w : World) {text : Text} (set : ctx.userCallback = true)
    (copyable : ∀ payload ∈ ex.loadb text, Copyable (Json.member? "d" payload.members)) :
    ∃ out, gatewayPayloadParser ex w ctx text = some out := by
  unfold gatewayPayloadParser
  cases loaded : ex.loadb text with
  | none => exact ⟨_, rfl⟩
  | some payload =>
    have copyable := copyable payload loaded
    dsimp only
    by_cases known : Known payload.members
    · rw [scanMembers_known _ _ known]
      unfold gatewayOpcode
      simp only [Option.or_none]
      split
      · split
        · exact gatewayDispatchParser_returns set copyable
        · let seen := { ctx with lastSeq := storedSeq ctx.lastSeq payload.members }
          have set : seen.userCallback = true := set
          obtain ⟨out, ran⟩ : ∃ out, gatewayDispatchParser w seen w.staleType _ = some out :=
            gatewayDispatchParser_returns set copyable
          exact ⟨_, Option.map_eq_some_iff.mpr ⟨out, ran, rfl⟩⟩
      case h_3 => exact gatewayHello_total ..
      all_goals exact ⟨_, rfl⟩
    · cases scanned : scanMembers ⟨ctx.lastSeq, opcodeUnknown, none, none⟩ payload.members with
      | ok scan => exact absurd (known_of_scanMembers scanned) known
      | error scan => exact ⟨_, rfl⟩

end Parser

section Callback
variable {ex : Externals} {w : World} {ctx : Context} {wsi : Wsi}

def Callback.Neutral : Callback → Prop
  | .clientConnectionError | .clientEstablished | .clientReceive _ | .clientWriteable
  | .wsPeerInitiatedClose _
  | .wsiDestroy => False
  | _ => True

inductive Called (ex : Externals) (w : World) (ctx : Context) (wsi : Wsi) : Callback → Outcome → Prop where
  | neutral (callback : Callback) : callback.Neutral → Called ex w ctx wsi callback ⟨ctx, .ok, []⟩
  | failed (ret : Status) (events : List Event) : Only Event.Apart events →
      Called ex w ctx wsi .clientConnectionError ⟨{ ctx with lwsWsi := none }, ret, events⟩
  | destroyed : Called ex w ctx wsi .wsiDestroy ⟨{ ctx with lwsWsi := none }, .ok, []⟩
  | established (ret : Status) (events : List Event) : Only Event.Apart events →
      Called ex w ctx wsi .clientEstablished ⟨{ ctx with lastHb := w.now }, ret, events⟩
  | buffered (fragment : Fragment UInt8) (buffer : Option (Block UInt8)) (len : Nat) (events : List Event) :
      Only Event.Copied events → Called ex w ctx wsi (.clientReceive fragment)
        ⟨{ ctx with gatewayRxBuffer := buffer, gatewayRxBufferLen := len }, .ok, events⟩
  | parsed (fragment : Fragment UInt8) (buffer : Option (Block UInt8)) (len : Nat) (text : Text)
      (events : List Event) (out : Outcome) : Only Event.Copied events →
      Parsed ex w { ctx with gatewayRxBuffer := buffer, gatewayRxBufferLen := len } text out →
      Called ex w ctx wsi (.clientReceive fragment)
        ⟨{ out.ctx with gatewayRxBuffer := none, gatewayRxBufferLen := 0 }, out.ret,
          events ++ .parsed text :: out.events⟩
  | drained : ctx.gatewayRing.items = [] → Called ex w ctx wsi .clientWriteable ⟨ctx, 0, []⟩
  | consumed (payload : GatewayPayload) (ring : BoundedQueue GatewayPayload) (ret : Status)
      (events : List Event) : ctx.gatewayRing.consume = some (payload, ring) →
      ctx.gatewayRing.items = payload :: ring.items → Only Event.Apart events →
      Called ex w ctx wsi .clientWriteable
        ⟨{ ctx with gatewayRing := ring }, ret, .dequeued payload.payload :: events ++
          if payload.payload.length = 0 then [] else [.written wsi payload.payload]⟩
  | closed (frame : Text) (code : UInt32) (gi : Option Gi) (events : List Event) : Only Event.Apart events →
      Called ex w ctx wsi (.wsPeerInitiatedClose frame)
        ⟨{ ctx with closeCode := code, gi := gi }, .ok, events⟩

theorem clientReceive_cases {fragment : Fragment UInt8} {out : Outcome}
    (received : clientReceive ex w ctx fragment = some out) :
    ∃ buffer len events, Only Event.Copied events ∧
      (out = ⟨{ ctx with gatewayRxBuffer := buffer, gatewayRxBufferLen := len }, .ok, events⟩ ∨
      ∃ text inner, gatewayPayloadParser ex w
          { ctx with gatewayRxBuffer := buffer, gatewayRxBufferLen := len } text = some inner ∧
        out = ⟨{ inner.ctx with gatewayRxBuffer := none, gatewayRxBufferLen := 0 }, inner.ret,
          events ++ .parsed text :: inner.events⟩) := by
  unfold clientReceive at received
  dsimp only at received
  split at received
  · obtain ⟨inner, parsed, rfl⟩ := Option.map_eq_some_iff.mp received
    exact ⟨ctx.gatewayRxBuffer, ctx.gatewayRxBufferLen, [], only_nil, .inr ⟨fragment.data, inner, parsed, rfl⟩⟩
  split at received
  · cases received
    exact ⟨_, _, _, by simp [Event.Copied], .inl rfl⟩
  split at received
  · obtain ⟨inner, parsed, rfl⟩ := Option.map_eq_some_iff.mp received
    exact ⟨_, _, [_, _], by simp [Event.Copied], .inr ⟨_, inner, parsed, rfl⟩⟩
  · cases received
    exact ⟨_, _, _, by simp [Event.Copied], .inl rfl⟩

theorem clientReceive_some {fragment : Fragment UInt8} {out : Outcome}
    (received : clientReceive ex w ctx fragment = some out) :
    Called ex w ctx wsi (.clientReceive fragment) out := by
  obtain ⟨buffer, len, events, copied, rfl | ⟨text, inner, parsed, rfl⟩⟩ := clientReceive_cases received
  · exact .buffered fragment buffer len events copied
  · exact .parsed fragment buffer len text events inner copied (gatewayPayloadParser_some parsed)

theorem clientWriteable_cases (ex : Externals) (w : World) (ctx : Context) (wsi : Wsi) :
    ctx.gatewayRing.items = [] ∧ clientWriteable ex w ctx wsi = ⟨ctx, 0, []⟩ ∨
    ∃ payload ring ret, ctx.gatewayRing.consume = some (payload, ring) ∧
      ctx.gatewayRing.items = payload :: ring.items ∧
      clientWriteable ex w ctx wsi = ⟨{ ctx with gatewayRing := ring }, ret, .dequeued payload.payload ::
        .bufferWrite .session ex.lwsPre (payload.payload.length + 1) sessionSize ::
        if payload.payload.length = 0 then [] else [.written wsi payload.payload]⟩ := by
  unfold clientWriteable
  cases taken : ctx.gatewayRing.consume with
  | none => exact .inl ⟨BoundedQueue.consume_none taken, rfl⟩
  | some pair =>
    obtain ⟨payload, ring⟩ := pair
    have items := BoundedQueue.consume_some taken
    by_cases empty : payload.payload.length = 0
    · exact .inr ⟨payload, ring, -1, rfl, items, by simp [empty]⟩
    · simp only [if_neg empty]
      split
      · exact .inr ⟨payload, ring, -1, rfl, items, by simp [empty]⟩
      split
      · exact .inr ⟨payload, ring, -1, rfl, items, by simp [empty]⟩
      · exact .inr ⟨payload, ring, 0, rfl, items, by simp [empty]⟩

theorem clientWriteable_called : Called ex w ctx wsi .clientWriteable (clientWriteable ex w ctx wsi) := by
  rcases clientWriteable_cases ex w ctx wsi with ⟨empty, idle⟩ | ⟨payload, ring, ret, taken, items, sent⟩
  · rw [idle]
    exact .drained empty
  · rw [sent]
    exact .consumed payload ring ret [.bufferWrite .session ex.lwsPre (payload.payload.length + 1) sessionSize]
      taken items (by simp [Event.Apart])

theorem overreads_only {kind : Event → Prop} (frame : Text) (own : ∀ index, kind (.frameOverread index))
    (indices : List Nat) : Only kind (overreads frame indices) := by
  intro e member
  obtain ⟨index, _, rfl⟩ := List.mem_map.mp member
  exact own index

theorem peerInitiatedClose_cases {frame : Text} {out : Outcome}
    (closed : peerInitiatedClose w ctx frame = some out) :
    let code := (frameByte w frame 0).toUInt32 <<< 8 ||| (frameByte w frame 1).toUInt32
    let copied := ((List.range frame.length).map fun i => frameByte w frame (i + 1)).takeWhile (· ≠ 0)
    let message := if frame.length ≠ 0 then .closeMessage copied else .null
    ctx.userCallback = true ∧ ∃ gi read, out = ⟨{ ctx with closeCode := code, gi := gi }, .ok,
      (overreads frame [0, 1] ++ if frame.length ≠ 0 then overreads frame read else []) ++
        [.userCalled .wsGatewayInitClose message code.toNat]⟩ := by
  unfold peerInitiatedClose at closed
  dsimp only at closed ⊢
  split at closed
  · cases closed
  · next user called =>
    obtain ⟨set, rfl⟩ := callUser_some called
    refine ⟨set, ?_⟩
    split at closed
    · obtain ⟨_, _, rfl⟩ := Option.map_eq_some_iff.mp closed
      exact ⟨_, _, rfl⟩
    · cases closed
      exact ⟨_, _, rfl⟩

theorem peerInitiatedClose_some {frame : Text} {out : Outcome}
    (closed : peerInitiatedClose w ctx frame = some out) :
    Called ex w ctx wsi (.wsPeerInitiatedClose frame) out := by
  obtain ⟨_, gi, read, rfl⟩ := peerInitiatedClose_cases closed
  have reads : ∀ indices, Only Event.Apart (overreads frame indices) := overreads_only frame fun _ => trivial
  refine .closed frame _ gi _ ?_
  split <;> simp [reads, Event.Apart]

theorem lwsCallback_some {callback : Callback} {out : Outcome}
    (ran : lwsCallback ex w ctx wsi callback = some out) : Called ex w ctx wsi callback out := by
  cases callback with
  | clientConnectionError =>
    obtain ⟨inner, called, rfl⟩ := Option.map_eq_some_iff.mp ran
    obtain ⟨_, rfl⟩ := callUser_some called
    exact .failed _ _ (by simp [Event.Apart])
  | clientEstablished =>
    obtain ⟨inner, called, rfl⟩ := Option.map_eq_some_iff.mp ran
    obtain ⟨_, rfl⟩ := callUser_some called
    exact .established _ _ (by simp [Event.Apart])
  | clientReceive fragment => exact clientReceive_some ran
  | clientWriteable =>
    cases ran
    exact clientWriteable_called
  | wsPeerInitiatedClose frame => exact peerInitiatedClose_some ran
  | wsiDestroy =>
    cases ran
    exact .destroyed
  | _ =>
    cases ran
    exact .neutral _ trivial

def Event.Inside : Event → Prop
  | .exchanged _ _ | .connecting _ | .delivered _ _ | .returned _ _ | .writableRequested => False
  | _ => True

/-- What holds of the events of the parser and of a handshake that it queues holds of all it does. -/
theorem Parsed.only {kind : Event → Prop} {text : Text} {out : Outcome} (parsed : Parsed ex w ctx text out)
    (quiet : ∀ e : Event, e.Quiet → kind e) (handshake : ∀ text, kind (.queued .handshake text)) :
    Only kind out.events := by
  cases parsed with
  | malformed => exact only_nil
  | unknownKey => exact only_nil
  | known _ _ _ _ handled =>
    cases handled with
    | dispatch _ _ _ _ only => exact only.mono quiet
    | helloRefused _ _ _ only => exact only.mono quiet
    | helloFull _ _ _ only => exact only.mono quiet
    | helloQueued _ _ text _ _ only => simp [only.mono quiet, handshake text]
    | invalidated => exact only_nil
    | acked => exact only_nil
    | ignored => exact only_nil

theorem Parsed.inside {text : Text} {out : Outcome} (parsed : Parsed ex w ctx text out) :
    Only Event.Inside out.events :=
  parsed.only (fun e quiet => by cases e <;> trivial) fun _ => trivial

theorem Called.inside {callback : Callback} {out : Outcome} (called : Called ex w ctx wsi callback out) :
    Only Event.Inside out.events := by
  have apart : ∀ e : Event, e.Apart → e.Inside := fun e apart => by cases e <;> trivial
  have copied : ∀ e : Event, e.Copied → e.Inside := fun e copied => by cases e <;> trivial
  cases called with
  | neutral => simp
  | failed _ _ only => exact only.mono apart
  | destroyed => simp
  | established _ _ only => exact only.mono apart
  | buffered _ _ _ _ only => exact only.mono copied
  | parsed _ _ _ _ _ inner only parsed => simp [Event.Inside, only.mono copied, parsed.inside]
  | drained => simp
  | consumed payload _ _ _ _ _ only =>
    have written : Only Event.Inside
        (if payload.payload.length = 0 then [] else [.written wsi payload.payload]) := by
      split <;> simp [Event.Inside]
    exact (only_append _ _).mpr ⟨by simp [Event.Inside, only.mono apart], written⟩
  | closed _ _ _ _ only => exact only.mono apart

end Callback

section Service
variable {ex : Externals} {ctx : Context}

inductive Beat (ex : Externals) (ctx : Context) (now later : UInt64) : Outcome → Prop where
  | early : heartbeatDue ctx now = false → Beat ex ctx now later ⟨ctx, .ok, []⟩
  | missed : heartbeatDue ctx now = true → 0 < ctx.hbCount →
      Beat ex ctx now later
        ⟨{ ctx with hbCount := ctx.hbCount + 1 }, .websocketHeartbeatAcknowledegementMissed, []⟩
  | full : heartbeatDue ctx now = true → ctx.hbCount ≤ 0 →
      ctx.gatewayRing.items.length = ctx.gatewayRing.capacity →
      Beat ex ctx now later ⟨ctx, .websocketCantfitHeartbeatErr, []⟩
  | queued (ring : BoundedQueue GatewayPayload) (text : Text) : heartbeatDue ctx now = true →
      ctx.hbCount ≤ 0 → Appended ctx.gatewayRing ring text →
      text = ex.dumps (Json.createPayload (.integer 1) (some (.integer ctx.lastSeq.toInt64)) none none) →
      Beat ex ctx now later
        ⟨{ ctx with hbCount := ctx.hbCount + 1, gatewayRing := ring, lastHb := later }, .ok,
          [.queued .heartbeat text]⟩

theorem queueHeartbeat_cases (ex : Externals) (ctx : Context) :
    (∃ ring text, Appended ctx.gatewayRing ring text ∧
      text = ex.dumps (Json.createPayload (.integer 1) (some (.integer ctx.lastSeq.toInt64)) none none) ∧
      queueHeartbeat ex ctx = ⟨{ ctx with gatewayRing := ring }, .ok, [.queued .heartbeat text]⟩) ∨
    (ctx.gatewayRing.items.length = ctx.gatewayRing.capacity ∧
      queueHeartbeat ex ctx = ⟨ctx, .websocketCantfitPayloadErr, []⟩) := by
  unfold queueHeartbeat
  dsimp only
  generalize same : ex.dumps
    (Json.createPayload (.integer 1) (some (.integer ctx.lastSeq.toInt64)) none none) = text
  have inserted := ctx.gatewayRing.insert_cases ⟨text, text.length⟩
  have capacity := ctx.gatewayRing.insert_capacity ⟨text, text.length⟩
  generalize ctx.gatewayRing.insert ⟨text, text.length⟩ = taken at inserted capacity
  obtain ⟨ring, count⟩ := taken
  rcases inserted with ⟨one, items, room⟩ | ⟨_, full⟩
  · have free : ctx.gatewayRing.free ≠ 0 := by
      rw [Ne, BoundedQueue.free_eq_zero]
      omega
    simp only at one
    refine .inl ⟨ring, text, ⟨items, capacity, room⟩, rfl, ?_⟩
    simp [free, one]
  · have free : ctx.gatewayRing.free = 0 := (BoundedQueue.free_eq_zero _).mpr full
    exact .inr ⟨full, by simp [free]⟩

theorem heartbeatBlock_beat (ex : Externals) (ctx : Context) (now later : UInt64) :
    Beat ex ctx now later (heartbeatBlock ex ctx now later) := by
  unfold heartbeatBlock
  cases due : heartbeatDue ctx now with
  | false => simpa using Beat.early due
  | true =>
    simp only [if_true]
    by_cases waiting : ctx.hbCount + 1 > 1
    · simp only [if_pos waiting]
      exact .missed due (by omega)
    · have quietCount : ctx.hbCount ≤ 0 := by omega
      simp only [if_neg waiting]
      rcases queueHeartbeat_cases ex { ctx with hbCount := ctx.hbCount + 1 } with
        ⟨ring, text, appended, same, result⟩ | ⟨full, result⟩
      · simpa [result] using Beat.queued ring text due quietCount appended same
      · have refused : Beat ex ctx now later _ := .full due quietCount full
        simpa [result, Status.ok, Status.websocketCantfitPayloadErr] using refused

end Service

end Libdiscord
