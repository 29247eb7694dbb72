import Libdiscord.Base.Simulation
import Libdiscord.Gateway.Client
import Libdiscord.Gateway.Heard
import Libdiscord.Gateway.Validation

/-! The library is the gateway client: whatever it does in a run, the client does. -/

set_option autoImplicit false

namespace Libdiscord

open Libdiscord.Base
open Json (member?)

def Outgoing.spell (ex : Externals) : Outgoing → Text
  | .heartbeat seq => ex.dumps (Json.createPayload (.integer 1) (some (.integer seq.toInt64)) none none)
  | .identify data => ex.dumps (Json.createPayload (.integer 2) (some data) none none)

/-- What can be seen of the library: payloads taken from the ring to be sent, calls of the user callback, and the
two errors of the heartbeat. -/
inductive Shown where
  | sent (text : Text)
  | told (call : UserCall)
  | missed
  | full

def Seen.display (ex : Externals) : Seen → Shown
  | .sent payload => .sent (payload.spell ex)
  | .told call => .told call
  | .missed => .missed
  | .full => .full

def Event.shown? : Event → Option Shown
  | .dequeued text => some (.sent text)
  | .userCalled reason data len => some (.told (UserCall.bare ⟨reason, data, len⟩))
  | .returned .service status =>
    if status = .websocketHeartbeatAcknowledegementMissed then some .missed
    else if status = .websocketCantfitHeartbeatErr then some .full
    else none
  | _ => none

def shown (events : List Event) : List Shown := events.filterMap Event.shown?

def newsOf (w : World) (members : List (String × Json)) : News :=
  match selectedOpcode members with
  | .dispatch =>
    if dispatchType w members = some (ascii "READY") then
      ((sessionMember (member? "d" members)).bind Json.stringValue).elim .none .session
    else .none
  | .invalidateSession => .invalidated
  | .hello => .hello (helloInterval (member? "d" members))
  | .heartbeatAck => .acknowledged
  | _ => .none

/-- What the text of a message says. Of one with an unknown field only the sequence number in front of that field
is taken. -/
def incoming (ex : Externals) (w : World) (text : Text) : Incoming where
  seq := (ex.loadb text).bind fun payload =>
    (member? "s" (scannedMembers payload.members)).map fun value => value.integerValue.toInt32
  news := (ex.loadb text).elim .none fun payload =>
    if Known payload.members then newsOf w payload.members else .none
  calls := parserCalls ex w text

def Callback.actions (ex : Externals) (w : World) (ctx : Context) : Callback → List Action
  | .clientConnectionError => [.failed]
  | .clientEstablished => [.opened w.now]
  | .clientReceive fragment => (completedText w ctx fragment).toList.map fun text =>
    .heard (incoming ex w text) (Json.unpackIdentify ex w.beyondRoles) w.staleIdentify w.now
  | .clientWriteable => [.drained]
  | .wsPeerInitiatedClose _ => [.closed]
  | _ => []

def matchingActions (ex : Externals) (s : System) (m : Move) (next : System) : List Action :=
  match m with
  | .service w => if s.ctx.lwsWsi.isNone then [.learned next.ctx.shards] else [.ticked w.now w.later]
  | .connect _ _ => [.learned next.ctx.shards]
  | .callback _ callback w => callback.actions ex w s.ctx
  | .leave => []

def Client.of (ctx : Context) (outbox : BoundedQueue Outgoing) : Client where
  identity := setIdentify ctx
  seq := ctx.lastSeq
  session := ctx.gatewaySessionId
  interval := ctx.heartbeatInterval
  since := ctx.lastHb
  unanswered := ctx.hbCount
  outbox := outbox

structure SpelledOut (ex : Externals) (ring : BoundedQueue GatewayPayload) (outbox : BoundedQueue Outgoing) :
    Prop where
  capacity : ring.capacity = outbox.capacity
  items : ring.items.map (·.payload) = outbox.items.map (Outgoing.spell ex)

def Stores (ex : Externals) (ctx : Context) (c : Client) : Prop :=
  ∃ outbox, c = .of ctx outbox ∧ SpelledOut ex ctx.gatewayRing outbox

section Queue
variable {ex : Externals} {ring next : BoundedQueue GatewayPayload} {outbox : BoundedQueue Outgoing}

theorem SpelledOut.length (spelled : SpelledOut ex ring outbox) : ring.items.length = outbox.items.length := by
  simpa using congrArg List.length spelled.items

theorem SpelledOut.appended {payload : Outgoing} (spelled : SpelledOut ex ring outbox)
    (appended : Appended ring next (payload.spell ex)) : SpelledOut ex next (outbox.insert payload).1 := by
  obtain ⟨items, capacity, room⟩ := appended
  have space : outbox.items.length < outbox.capacity := by
    rw [← spelled.length, ← spelled.capacity]
    exact room
  obtain ⟨taken, _⟩ := outbox.insert_of_room payload space
  refine ⟨?_, ?_⟩
  · rw [capacity, BoundedQueue.insert_capacity, spelled.capacity]
  · rw [items, taken, List.map_append, List.map_append, spelled.items]
    rfl

theorem SpelledOut.insert (spelled : SpelledOut ex ring outbox) (payload : Outgoing) (len : Nat) :
    SpelledOut ex (ring.insert ⟨payload.spell ex, len⟩).1 (outbox.insert payload).1 := by
  by_cases room : ring.items.length < ring.capacity
  · have space : outbox.items.length < outbox.capacity := by
      rw [← spelled.length, ← spelled.capacity]
      exact room
    refine ⟨by simpa using spelled.capacity, ?_⟩
    rw [(ring.insert_of_room _ room).1, (outbox.insert_of_room _ space).1, List.map_append, List.map_append,
      spelled.items]
    rfl
  · have space : ¬outbox.items.length < outbox.capacity := by
      rw [← spelled.length, ← spelled.capacity]
      exact room
    rw [ring.insert_of_full _ room, outbox.insert_of_full _ space]
    exact spelled

theorem SpelledOut.drained (spelled : SpelledOut ex ring outbox) (empty : ring.items = []) : outbox.consume = none := by
  have both := spelled.length
  rw [empty] at both
  cases here : outbox.consume with
  | none => rfl
  | some pair =>
    obtain ⟨first, rest⟩ := pair
    rw [BoundedQueue.consume_some here] at both
    cases both

theorem SpelledOut.consume {payload : GatewayPayload} (spelled : SpelledOut ex ring outbox)
    (taken : ring.consume = some (payload, next)) :
    ∃ first rest, outbox.consume = some (first, rest) ∧ payload.payload = first.spell ex ∧
      SpelledOut ex next rest := by
  have items := BoundedQueue.consume_some taken
  have both := spelled.items
  rw [items] at both
  cases here : outbox.consume with
  | none => simp [BoundedQueue.consume_none here] at both
  | some pair =>
    obtain ⟨first, rest⟩ := pair
    rw [BoundedQueue.consume_some here, List.map_cons, List.map_cons, List.cons.injEq] at both
    refine ⟨first, rest, rfl, both.1, ?_, both.2⟩
    rw [BoundedQueue.consume_capacity taken, BoundedQueue.consume_capacity here, spelled.capacity]

end Queue

section Message
variable {ex : Externals} {w : World} {ctx : Context} {outbox : BoundedQueue Outgoing} {out : Outcome}

theorem storedSeq_getD (seq : Int32) (members : List (String × Json)) :
    storedSeq seq members = ((member? "s" members).map fun value => value.integerValue.toInt32).getD seq := by
  unfold storedSeq
  cases member? "s" members <;> rfl

theorem helloIdentify_chosen (w : World) (ctx : Context) :
    (helloIdentify w ctx).1 = if ctx.gatewaySessionId.isNone then setIdentify ctx else w.staleIdentify := by
  unfold helloIdentify
  cases ctx.gatewaySessionId <;> rfl

theorem gatewayHello_stores {d : Option Json} (spelled : SpelledOut ex ctx.gatewayRing outbox)
    (ran : gatewayHello ex w ctx d = some out) :
    Stores ex out.ctx ((Client.of ctx outbox).greet (helloInterval d) (Json.unpackIdentify ex w.beyondRoles)
      w.staleIdentify w.now) := by
  have chosen := helloIdentify_chosen w { ctx with heartbeatInterval := helloInterval d }
  unfold Client.greet
  rcases gatewayHello_cases ran with ⟨refused, rfl⟩ | ⟨data, text, encoded, rfl, rfl⟩
  · rw [chosen] at refused
    refine ⟨outbox, ?_, spelled⟩
    dsimp only [Client.of]
    rw [show setIdentify ctx = setIdentify { ctx with heartbeatInterval := helloInterval d } from rfl, refused]
  · rw [chosen] at encoded
    refine ⟨(outbox.insert (.identify data)).1, ?_, spelled.insert (.identify data) _⟩
    dsimp only [Client.of]
    rw [show setIdentify ctx = setIdentify { ctx with heartbeatInterval := helloInterval d } from rfl, encoded]
    rfl

theorem callUser_ctx {reason : CallbackReason} {data : CallbackData} {len : Int}
    (called : callUser w ctx reason data len = some out) : out.ctx = ctx := by
  obtain ⟨_, rfl⟩ := callUser_some called
  rfl

theorem gatewayDispatchParser_ctx {type d : Option Json}
    (ran : gatewayDispatchParser w ctx type d = some out) :
    out.ctx = if type.bind Json.stringValue = some (ascii "READY") then
      ((sessionMember d).bind Json.stringValue).elim ctx fun id => { ctx with gatewaySessionId := some id }
    else ctx := by
  cases typed : type.bind Json.stringValue with
  | none =>
    rw [gatewayDispatchParser_untyped typed] at ran
    cases ran
    rfl
  | some name =>
    have dispatched : Dispatched w ctx name d (gatewayDispatchParser w ctx type d) :=
      gatewayDispatchParser_dispatched typed
    rw [ran] at dispatched
    generalize same : some out = result at dispatched
    cases dispatched with
    | unknown absent =>
      cases same
      obtain ⟨entry, member, named⟩ := ready_named
      rw [if_neg]
      intro ready
      exact absent entry member (named.trans (Option.some.inj ready).symm)
    | sessionless ready missing =>
      cases same
      rw [missing, ready, if_pos rfl]
      rfl
    | unreadable => cases same
    | ready entry id member named ready found =>
      rw [callUser_ctx same.symm, found, ready, if_pos rfl]
      rfl
    | known entry member named other =>
      rw [callUser_ctx same.symm, if_neg (mt Option.some.inj other)]

theorem incoming_malformed {text : Text} (failed : ex.loadb text = none) :
    incoming ex w text = ⟨none, .none, parserCalls ex w text⟩ := by
  simp [incoming, failed]

theorem incoming_unknown {text : Text} {payload : Json} (loaded : ex.loadb text = some payload)
    (unknown : ¬Known payload.members) : incoming ex w text =
      ⟨(member? "s" (scannedMembers payload.members)).map fun value => value.integerValue.toInt32, .none,
        parserCalls ex w text⟩ := by
  simp [incoming, loaded, unknown]

theorem incoming_known {text : Text} {payload : Json} (loaded : ex.loadb text = some payload)
    (known : Known payload.members) : incoming ex w text =
      ⟨(member? "s" payload.members).map fun value => value.integerValue.toInt32, newsOf w payload.members,
        parserCalls ex w text⟩ := by
  simp [incoming, loaded, known, scannedMembers_of_known]

theorem newsOf_dispatch {members : List (String × Json)} (code : selectedOpcode members = .dispatch) :
    newsOf w members = if dispatchType w members = some (ascii "READY") then
      ((sessionMember (member? "d" members)).bind Json.stringValue).elim .none .session else .none := by
  simp [newsOf, code]

theorem react_session (c : Client) (id : Option Text) (encode : Identify → Option Json) (spare : Identify)
    (now : UInt64) :
    c.react (id.elim .none .session) encode spare now = id.elim c fun id => { c with session := some id } := by
  cases id <;> rfl

theorem gatewayDispatchParser_stores {type d : Option Json} {members : List (String × Json)}
    (spelled : SpelledOut ex ctx.gatewayRing outbox) (code : selectedOpcode members = .dispatch)
    (typed : dispatchType w members = type.bind Json.stringValue) (data : member? "d" members = d)
    (ran : gatewayDispatchParser w ctx type d = some out) (encode : Identify → Option Json) (spare : Identify)
    (now : UInt64) : Stores ex out.ctx ((Client.of ctx outbox).react (newsOf w members) encode spare now) := by
  rw [gatewayDispatchParser_ctx ran, newsOf_dispatch code, typed, data]
  split
  · rw [react_session]
    cases (sessionMember d).bind Json.stringValue <;> exact ⟨outbox, rfl, spelled⟩
  · exact ⟨outbox, rfl, spelled⟩

theorem gatewayPayloadParser_stores {text : Text} (spelled : SpelledOut ex ctx.gatewayRing outbox)
    (ran : gatewayPayloadParser ex w ctx text = some out) :
    Stores ex out.ctx ((Client.of ctx outbox).hear (incoming ex w text) (Json.unpackIdentify ex w.beyondRoles)
      w.staleIdentify w.now) := by
  cases loaded : ex.loadb text with
  | none =>
    simp only [gatewayPayloadParser, loaded, Option.some.injEq] at ran
    rw [incoming_malformed loaded, ← ran]
    exact ⟨outbox, rfl, spelled⟩
  | some payload =>
    by_cases known : Known payload.members
    case neg =>
      obtain ⟨found, scanned, lastSeq⟩ := scanMembers_unknown ⟨ctx.lastSeq, opcodeUnknown, none, none⟩ known
      simp only [gatewayPayloadParser, loaded, scanned, Option.some.injEq] at ran
      rw [incoming_unknown loaded known, ← ran, lastSeq, storedSeq_getD]
      exact ⟨outbox, rfl, spelled⟩
    rw [gatewayPayloadParser_known loaded known, storedSeq_getD] at ran
    rw [incoming_known loaded known]
    dsimp only at ran
    generalize numbered : ((member? "s" payload.members).map fun value => value.integerValue.toInt32).getD
      ctx.lastSeq = seq at ran
    have heard : { Client.of ctx outbox with seq := seq } = Client.of { ctx with lastSeq := seq } outbox := rfl
    have spelled : SpelledOut ex { ctx with lastSeq := seq }.gatewayRing outbox := spelled
    rw [Client.hear, show (Client.of ctx outbox).seq = ctx.lastSeq from rfl, numbered, heard]
    cases code : selectedOpcode payload.members
    case dispatch =>
      simp only [code] at ran
      cases typed : member? "t" payload.members with
      | some t =>
        simp only [typed] at ran
        have named : dispatchType w payload.members = (some t).bind Json.stringValue := by
          rw [dispatchType, typed, Option.some_or]
        exact gatewayDispatchParser_stores spelled code named rfl ran _ _ _
      | none =>
        simp only [typed] at ran
        obtain ⟨inner, called, rfl⟩ := Option.map_eq_some_iff.mp ran
        have named : dispatchType w payload.members = w.staleType.bind Json.stringValue := by
          rw [dispatchType, typed, Option.none_or]
        exact gatewayDispatchParser_stores spelled code named rfl called _ _ _
    case hello =>
      simp only [code] at ran
      rw [newsOf, code]
      exact gatewayHello_stores spelled ran
    all_goals
      simp only [code, Option.some.injEq] at ran
      rw [newsOf, code, ← ran]
      exact ⟨outbox, rfl, spelled⟩

end Message

section Shown
variable {events : List Event}

def Event.Calling : Event → Prop
  | .dequeued _ | .returned _ _ => False
  | _ => True

theorem shown_append (events more : List Event) : shown (events ++ more) = shown events ++ shown more :=
  List.filterMap_append

theorem shown_calling (only : Only Event.Calling events) :
    shown events = (userCalls events).map fun call => .told call.bare := by
  induction events with
  | nil => rfl
  | cons e events ih =>
    obtain ⟨here, rest⟩ := (only_cons _ _).mp only
    have tail := ih rest
    unfold shown userCalls at tail ⊢
    rw [List.filterMap_cons, List.filterMap_cons, tail]
    cases e <;> first | exact here.elim | rfl

theorem shown_silent (only : Only Event.Calling events) (silent : userCalls events = []) : shown events = [] := by
  rw [shown_calling only, silent, List.map_nil]

theorem Event.Copied.calling (e : Event) (copied : e.Copied) : e.Calling := by cases e <;> trivial

theorem userCalls_copied (copied : Only Event.Copied events) : userCalls events = [] :=
  copied.filterMap fun e kind => by cases e <;> first | rfl | cases kind

theorem shown_returned {caller : Caller} {status : Status}
    (other : status ≠ .websocketHeartbeatAcknowledegementMissed ∧ status ≠ .websocketCantfitHeartbeatErr ∨
      caller = .connect) : Event.shown? (.returned caller status) = none := by
  cases caller with
  | connect => rfl
  | service =>
    obtain ⟨notMissed, notFull⟩ := other.resolve_right (by decide)
    simp [Event.shown?, notMissed, notFull]

end Shown

section Callback
variable {ex : Externals} {w : World} {ctx : Context} {wsi : Wsi} {outbox : BoundedQueue Outgoing}
  {out : Outcome}

theorem clientReceive_completed {fragment : Fragment UInt8} (ran : clientReceive ex w ctx fragment = some out) :
    ∃ buffer len events, Only Event.Copied events ∧
      (completedText w ctx fragment = none ∧
          out = ⟨{ ctx with gatewayRxBuffer := buffer, gatewayRxBufferLen := len }, .ok, events⟩ ∨
        ∃ text inner, completedText w ctx fragment = some text ∧
          gatewayPayloadParser ex w { ctx with gatewayRxBuffer := buffer, gatewayRxBufferLen := len } text =
            some inner ∧
          out = ⟨{ inner.ctx with gatewayRxBuffer := none, gatewayRxBufferLen := 0 }, inner.ret,
            events ++ .parsed text :: inner.events⟩) := by
  unfold clientReceive at ran
  unfold completedText
  dsimp only at ran ⊢
  split at ran
  · next alone =>
    obtain ⟨inner, parsed, rfl⟩ := Option.map_eq_some_iff.mp ran
    rw [if_pos alone]
    exact ⟨ctx.gatewayRxBuffer, ctx.gatewayRxBufferLen, [], only_nil, .inr ⟨_, inner, rfl, parsed, rfl⟩⟩
  next several =>
  rw [if_neg several]
  split at ran
  · next first =>
    cases ran
    rw [if_pos first]
    exact ⟨_, _, _, by simp [Event.Copied], .inl ⟨rfl, rfl⟩⟩
  next later =>
  rw [if_neg later]
  split at ran
  · next last =>
    obtain ⟨inner, parsed, rfl⟩ := Option.map_eq_some_iff.mp ran
    rw [if_pos last]
    exact ⟨_, _, [_, _], by simp [Event.Copied], .inr ⟨_, inner, rfl, parsed, rfl⟩⟩
  · next more =>
    cases ran
    rw [if_neg more]
    exact ⟨_, _, _, by simp [Event.Copied], .inl ⟨rfl, rfl⟩⟩

theorem parser_calling {text : Text} (ran : gatewayPayloadParser ex w ctx text = some out) :
    Only Event.Calling out.events :=
  (gatewayPayloadParser_some ran).only (fun e quiet => by cases e <;> trivial) fun _ => trivial

theorem parserCalls_bare (text : Text) : (parserCalls ex w text).map UserCall.bare = parserCalls ex w text := by
  have same : (parserCalls ex w text).map UserCall.bare = (parserCalls ex w text).map id := by
    apply List.map_congr_left
    intro call member
    unfold parserCalls at member
    split at member
    · cases member
    split at member
    · exact (dispatchCalls_dispatches _ _ call member).bare
    · cases member
  rw [same, List.map_id]

theorem lwsCallback_stores {callback : Callback} (spelled : SpelledOut ex ctx.gatewayRing outbox)
    (ran : lwsCallback ex w ctx wsi callback = some out) :
    let done := perform Client.act (.of ctx outbox) (callback.actions ex w ctx)
    Stores ex out.ctx done.1 ∧ shown out.events = done.2.map (Seen.display ex) := by
  cases callback with
  | clientConnectionError =>
    obtain ⟨inner, called, rfl⟩ := Option.map_eq_some_iff.mp ran
    obtain ⟨_, rfl⟩ := callUser_some called
    exact ⟨⟨outbox, rfl, spelled⟩, rfl⟩
  | clientEstablished =>
    obtain ⟨inner, called, rfl⟩ := Option.map_eq_some_iff.mp ran
    obtain ⟨_, rfl⟩ := callUser_some called
    exact ⟨⟨outbox, rfl, spelled⟩, rfl⟩
  | clientReceive fragment =>
    obtain ⟨buffer, len, events, copied, ⟨unfinished, rfl⟩ | ⟨text, inner, complete, parsed, rfl⟩⟩ :=
      clientReceive_completed ran
    · have silent := shown_silent (copied.mono Event.Copied.calling) (userCalls_copied copied)
      rw [Callback.actions, unfinished]
      exact ⟨⟨outbox, rfl, spelled⟩, silent⟩
    · have silent := shown_silent (copied.mono Event.Copied.calling) (userCalls_copied copied)
      have spelled : SpelledOut ex { ctx with gatewayRxBuffer := buffer, gatewayRxBufferLen := len }.gatewayRing
        outbox := spelled
      obtain ⟨later, same, kept⟩ := gatewayPayloadParser_stores spelled parsed
      simp only [Callback.actions, complete, Option.toList_some, List.map_cons, List.map_nil, perform_one]
      refine ⟨⟨later, same, kept⟩, ?_⟩
      have told : shown (.parsed text :: inner.events) = shown inner.events := rfl
      rw [shown_append, silent, told, shown_calling (parser_calling parsed), gatewayPayloadParser_calls parsed]
      calc (parserCalls ex w text).map (fun call => Shown.told call.bare)
        _ = ((parserCalls ex w text).map UserCall.bare).map Shown.told := by simp
        _ = ((parserCalls ex w text).map Seen.told).map (Seen.display ex) := by
          rw [parserCalls_bare, List.map_map]
          rfl
  | clientWriteable =>
    cases ran
    simp only [Callback.actions, perform_one, Client.act, Client.of]
    rcases clientWriteable_cases ex w ctx wsi with ⟨empty, idle⟩ | ⟨payload, ring, ret, taken, _, sent⟩
    · rw [spelled.drained empty, idle]
      exact ⟨⟨outbox, rfl, spelled⟩, rfl⟩
    · obtain ⟨first, rest, took, same, kept⟩ := spelled.consume taken
      rw [took, sent]
      refine ⟨⟨rest, rfl, kept⟩, ?_⟩
      dsimp only
      rw [same]
      split <;> rfl
  | wsPeerInitiatedClose frame =>
    obtain ⟨_, gi, read, rfl⟩ := peerInitiatedClose_cases ran
    refine ⟨⟨outbox, rfl, spelled⟩, ?_⟩
    have calling : ∀ indices, Only Event.Calling (overreads frame indices) := overreads_only frame fun _ => trivial
    have quiet : ∀ indices, shown (overreads frame indices) = [] := fun indices =>
      shown_silent (calling indices) (userCalls_overreads frame indices)
    dsimp only
    split
    · rw [shown_append, shown_append, quiet, quiet]
      rfl
    · rw [shown_append, shown_append, quiet]
      rfl
  | _ =>
    cases ran
    exact ⟨⟨outbox, rfl, spelled⟩, rfl⟩

end Callback

section System
variable {ex : Externals} {s next : System} {m : Move} {c : Client}

theorem shown_web {events : List Event} (only : Only Event.Web events) : shown events = [] :=
  only.filterMap fun e kind => by cases e <;> first | rfl | cases kind

theorem shown_writable (ctx : Context) : shown (requestWritable ctx) = [] := by
  unfold requestWritable
  split <;> rfl

theorem Asked.stores {ctx next : Context} {outbox : BoundedQueue Outgoing} (asked : Asked ctx next)
    (spelled : SpelledOut ex ctx.gatewayRing outbox) :
    Stores ex next ((Client.of ctx outbox).act (.learned next.shards)).1 := by
  obtain ⟨_, _, _, _, _, rfl⟩ := asked
  exact ⟨outbox, rfl, spelled⟩

theorem Attempts.learned {http : Http} {created : Bool} {caller : Caller}
    (attempts : Attempts s m http created caller) :
    matchingActions ex s m next = [.learned next.ctx.shards] := by
  cases attempts with
  | service w missing =>
    rw [matchingActions, missing]
    rfl
  | connect => rfl

theorem connectError_shown (ret : Status) (caller : Caller) :
    Event.shown? (.returned caller (connectError ret caller)) = none := by
  cases caller with
  | service =>
    have shown : Event.shown? (.returned .service .connectionErr) = none :=
      shown_returned (.inl ⟨by decide, by decide⟩)
    exact shown
  | connect => rfl

theorem connectStatus_shown (ctx : Context) (caller : Caller) :
    Event.shown? (.returned caller (connectStatus ctx caller)) = none := by
  cases caller with
  | service =>
    apply shown_returned
    unfold connectStatus
    dsimp only
    split <;> exact .inl ⟨by decide, by decide⟩
  | connect => rfl

theorem Beat.stores {ctx : Context} {outbox : BoundedQueue Outgoing} {now later : UInt64} {out : Outcome}
    (spelled : SpelledOut ex ctx.gatewayRing outbox) (beat : Beat ex ctx now later out) :
    let ticked := (Client.of ctx outbox).tick now later
    Stores ex out.ctx ticked.1 ∧
      shown (out.events ++ if out.ret = .ok then [] else [.returned .service out.ret]) =
        ticked.2.map (Seen.display ex) := by
  have due : (Client.of ctx outbox).due now = heartbeatDue ctx now := rfl
  unfold Client.tick
  dsimp only
  rw [due]
  cases beat with
  | early early =>
    rw [early, if_pos Bool.false_ne_true]
    exact ⟨⟨outbox, rfl, spelled⟩, rfl⟩
  | missed due waiting =>
    rw [due, if_neg (not_not_intro rfl), if_pos (show 0 < (Client.of ctx outbox).unanswered from waiting)]
    exact ⟨⟨outbox, rfl, spelled⟩, rfl⟩
  | full due quiet full =>
    have crowded : outbox.free = 0 := by
      rw [BoundedQueue.free_eq_zero, ← spelled.length, ← spelled.capacity]
      exact full
    rw [due, if_neg (not_not_intro rfl), if_neg (show ¬0 < (Client.of ctx outbox).unanswered from Int.not_lt.mpr quiet),
      if_pos (show (Client.of ctx outbox).outbox.free = 0 from crowded)]
    exact ⟨⟨outbox, rfl, spelled⟩, rfl⟩
  | queued ring text due quiet appended encoded =>
    have roomy : ¬outbox.free = 0 := by
      rw [BoundedQueue.free_eq_zero, ← spelled.length, ← spelled.capacity]
      exact Nat.ne_of_lt appended.2.2
    rw [due, if_neg (not_not_intro rfl), if_neg (show ¬0 < (Client.of ctx outbox).unanswered from Int.not_lt.mpr quiet),
      if_neg (show ¬(Client.of ctx outbox).outbox.free = 0 from roomy)]
    subst encoded
    have kept : SpelledOut ex ring (outbox.insert (.heartbeat ctx.lastSeq)).1 := spelled.appended appended
    exact ⟨⟨_, rfl, kept⟩, rfl⟩

theorem step_matched (stores : Stores ex s.ctx c) (stepped : step ex s m = some next) :
    let done := perform Client.act c (matchingActions ex s m next)
    Stores ex next.ctx done.1 ∧
      shown next.history = shown s.history ++ done.2.map (Seen.display ex) := by
  obtain ⟨outbox, rfl, spelled⟩ := stores
  cases step_stepped stepped with
  | refused http created caller out bot attempts ran failed =>
    obtain ⟨asked, only⟩ := bootstrap_frame ran
    have silent : shown [.returned caller (connectError out.ret caller)] = [] := by
      rw [shown, List.filterMap_cons_none (connectError_shown out.ret caller), List.filterMap_nil]
    rw [attempts.learned, perform_one]
    refine ⟨asked.stores spelled, ?_⟩
    show shown (s.history ++ (out.events ++ [.returned caller (connectError out.ret caller)])) = _
    rw [shown_append, shown_append, shown_web only, silent]
    rfl
  | attempted http created caller out bot attempts ran ok =>
    obtain ⟨asked, only⟩ := bootstrap_frame ran
    obtain ⟨later, same, kept⟩ := asked.stores spelled
    rw [attempts.learned, perform_one]
    refine ⟨⟨later, same, kept⟩, ?_⟩
    rw [shown_append, shown_append, shown_web only]
    rfl
  | alarmed w out bot connected beat failed =>
    obtain ⟨kept, seen⟩ := beat.stores spelled
    rw [if_neg failed] at seen
    rw [matchingActions, if_neg (by simp [Option.isSome_iff_ne_none.mp connected]), perform_one]
    refine ⟨kept, ?_⟩
    show shown (s.history ++ (out.events ++ [.returned .service out.ret])) = _
    rw [shown_append, seen]
    rfl
  | served w out bot connected beat ok =>
    obtain ⟨kept, seen⟩ := beat.stores spelled
    rw [if_pos ok, List.append_nil] at seen
    rw [matchingActions, if_neg (by simp [Option.isSome_iff_ne_none.mp connected]), perform_one]
    refine ⟨kept, ?_⟩
    rw [shown_append, shown_append, seen, shown_writable, List.append_nil]
    rfl
  | called wsi callback w out away ran =>
    obtain ⟨kept, seen⟩ := lwsCallback_stores spelled ran
    refine ⟨kept, ?_⟩
    rw [shown_append]
    exact congrArg _ seen
  | left caller status away returned =>
    have silent : Event.shown? (.returned caller status) = none := by
      rcases returned with ⟨_, rfl⟩ | ⟨_, rfl, rfl⟩
      · exact connectStatus_shown s.ctx caller
      · exact shown_returned (.inl ⟨by decide, by decide⟩)
    refine ⟨⟨outbox, rfl, spelled⟩, ?_⟩
    rw [shown_append, shown, shown, List.filterMap_cons_none silent]
    rfl

def gatewaySimulation (ex : Externals) : Simulation (step ex) Client.act Shown where
  actions := matchingActions ex
  Related s c := Stores ex s.ctx c
  shown s := shown s.history
  display := Seen.display ex
  matched _ _ _ _ stores stepped := step_matched stores stepped

def Client.fresh (ctx : Context) : Client := .of ctx (.empty ctx.gatewayRing.capacity)

/-- In every run the library does what the client does: it stores what the client has in mind, its ring holds
the client's outbox, and everything seen of it, in order, is seen of the client. -/
theorem refines_client {final : System} (moves : List Move) (booted : Booted ex s)
    (ran : run (step ex) s moves = some final) :
    let done := perform Client.act (.fresh s.ctx) ((gatewaySimulation ex).trace s moves)
    Stores ex final.ctx done.1 ∧ shown final.history = done.2.map (Seen.display ex) := by
  obtain ⟨history, _, _, _, _, _, _, _, empty, _⟩ := booted.fresh
  have start : Stores ex s.ctx (.fresh s.ctx) := ⟨_, rfl, rfl, by rw [empty]; rfl⟩
  have done := (gatewaySimulation ex).run_matched moves start ran
  have nothing : (gatewaySimulation ex).shown s = [] := by
    show shown s.history = []
    rw [history]
    rfl
  rw [nothing] at done
  exact done

theorem refines_client_ready :
    ∃ final, run (step heardExternals) (.ofBot heardExternals 16 99) readyThenClose = some final ∧
      let done := perform Client.act (.fresh (System.ofBot heardExternals 16 99).ctx)
        ((gatewaySimulation heardExternals).trace (.ofBot heardExternals 16 99) readyThenClose)
      Stores heardExternals final.ctx done.1 ∧ done.1.session = some (ascii "abc") ∧
        shown final.history = done.2.map (Seen.display heardExternals) := by
  obtain ⟨final, ran⟩ : ∃ final, run (step heardExternals) (.ofBot heardExternals 16 99) readyThenClose =
      some final := Option.isSome_iff_exists.mp (by decide +kernel)
  obtain ⟨stores, seen⟩ := refines_client readyThenClose (booted_ofBot _ 16 99) ran
  exact ⟨final, ran, stores, by decide +kernel, seen⟩

end System

end Libdiscord
