import Libdiscord.Gateway.Effects
import Libdiscord.Json.Text
import Mathlib.Data.List.TakeWhile

/-! Reassembly of the messages that arrive in CLIENT_RECEIVE callbacks. -/

set_option autoImplicit false

namespace Libdiscord

open Libdiscord.Base

def Event.parsedText? : Event → Option Text
  | .parsed text => some text
  | _ => none

def parsedTexts (events : List Event) : List Text := events.filterMap Event.parsedText?

def Callback.fragment? : Callback → Option (Fragment UInt8)
  | .clientReceive fragment => some fragment
  | _ => none

def received (deliveries : List (Callback × World)) : List (Fragment UInt8) :=
  deliveries.filterMap fun delivery => delivery.1.fragment?

/-- Every write into the receive buffer stays inside the size last requested for it. -/
def InBounds (events : List Event) : Prop :=
  ∀ offset count size, .bufferWrite .gatewayRx offset count size ∈ events → offset + count ≤ size

def Holding (ctx : Context) : Option Text → Prop
  | none => ctx.gatewayRxBuffer = none
  | some got => ∃ block, ctx.gatewayRxBuffer = some block ∧ block.Holds got ∧
      ctx.gatewayRxBufferLen = got.length ∧ got.length < block.requested

theorem Holding.kept {ctx next : Context} {pending : Option Text} (holding : Holding ctx pending)
    (buffer : next.gatewayRxBuffer = ctx.gatewayRxBuffer)
    (len : next.gatewayRxBufferLen = ctx.gatewayRxBufferLen) : Holding next pending := by
  cases pending <;> simpa only [Holding, buffer, len] using holding

@[simp] theorem parsedTexts_append (events more : List Event) :
    parsedTexts (events ++ more) = parsedTexts events ++ parsedTexts more := by
  simp [parsedTexts]

@[simp] theorem parsedTexts_nil : parsedTexts [] = [] := rfl

theorem parsedTexts_cons (e : Event) (events : List Event) :
    parsedTexts (e :: events) = e.parsedText?.toList ++ parsedTexts events := by
  cases e <;> rfl

theorem inBounds_append {events more : List Event} (first : InBounds events) (second : InBounds more) :
    InBounds (events ++ more) := by
  intro offset count size member
  rcases List.mem_append.mp member with member | member
  · exact first offset count size member
  · exact second offset count size member

section
variable {ex : Externals} {w : World} {ctx : Context} {wsi : Wsi}

def Event.Unreceived : Event → Prop
  | .parsed _ | .bufferWrite .gatewayRx _ _ _ => False
  | _ => True

theorem parsedTexts_unreceived {events : List Event} (only : Only Event.Unreceived events) :
    parsedTexts events = [] := by
  apply only.filterMap
  intro e kind
  cases e <;> first | rfl | cases kind

theorem inBounds_unreceived {events : List Event} (only : Only Event.Unreceived events) : InBounds events :=
  fun _ _ _ member => (only _ member).elim

theorem Parsed.unreceived {text : Text} {out : Outcome} (parsed : Parsed ex w ctx text out) :
    Only Event.Unreceived out.events :=
  parsed.only (fun e quiet => by cases e <;> trivial) fun _ => trivial

theorem strncpy_self {data : Text} (nulFree : 0 ∉ data) : strncpy data data.length = data := by
  have all : data.takeWhile (· ≠ 0) = data :=
    List.takeWhile_eq_self_iff.mpr fun byte member => decide_eq_true fun zero => nulFree (zero ▸ member)
  simp only [strncpy, all, List.take_length, Nat.sub_self, List.replicate_zero, List.append_nil]

theorem strncpy_length (source : Text) (count : Nat) : (strncpy source count).length = count := by
  simp only [strncpy, List.length_append, List.length_replicate, List.length_take]
  omega

/-- What is kept of a fragment: all but a message in one piece is copied as a string is. -/
def kept (fragment : Fragment UInt8) : Fragment UInt8 :=
  if fragment.first && fragment.final then fragment
  else { fragment with data := strncpy fragment.data fragment.data.length }

theorem kept_self {fragment : Fragment UInt8} (nulFree : 0 ∉ fragment.data) : kept fragment = fragment := by
  unfold kept
  split
  · rfl
  · rw [strncpy_self nulFree]

structure Taken (fragment : Fragment UInt8) (whole : Assembly UInt8) (out : Outcome) : Prop where
  holding : Holding out.ctx whole.pending
  texts : parsedTexts out.events = whole.messages
  inBounds : InBounds out.events
  cleared : fragment.final = true → out.ctx.gatewayRxBufferLen = 0

theorem clientReceive_last (ex : Externals) (w : World) {fragment : Fragment UInt8} {pending : Option Text}
    (holding : Holding ctx pending) (accepts : fragment.first = pending.isNone)
    (last : fragment.final = true) :
    ∃ seen events, seen.userCallback = ctx.userCallback ∧ parsedTexts events = [] ∧ InBounds events ∧
      clientReceive ex w ctx fragment =
        (gatewayPayloadParser ex w seen (pending.getD [] ++ (kept fragment).data)).map fun out =>
          ⟨{ out.ctx with gatewayRxBuffer := none, gatewayRxBufferLen := 0 }, out.ret,
            events ++ .parsed (pending.getD [] ++ (kept fragment).data) :: out.events⟩ := by
  obtain ⟨data, first, final⟩ := fragment
  obtain rfl : final = true := last
  cases pending with
  | none =>
    -- a message in one piece, the buffer is not used
    have empty : ctx.gatewayRxBuffer = none := holding
    obtain rfl : first = true := accepts
    refine ⟨ctx, [], rfl, rfl, by simp [InBounds], ?_⟩
    simp [clientReceive, kept, empty]
  | some got =>
    obtain ⟨block, held, holds, soFar, room⟩ := holding
    obtain rfl : first = false := accepts
    have length := strncpy_length data data.length
    unfold clientReceive kept
    dsimp only
    generalize strncpy data data.length = copy at length ⊢
    have fits : got.length ≤ got.length + copy.length + 2 := by omega
    have behind : (got ++ copy).length ≤ got.length + copy.length := by simp
    have written := ((holds.resize (by omega) fits).write_end copy).write_behind behind [0]
    have text := written.read w.strayByte
    simp only [List.length_append] at text
    simp only [held, soFar, ← length, Option.isNone_some, Option.isSome_some, Bool.and_true,
      Bool.false_eq_true, if_false, if_true, Block.realloc, text, Option.getD_some]
    refine ⟨_, [_, _], ?_, ?_, ?_, rfl⟩
    · rfl
    · rfl
    · intro offset count size member
      simp only [List.mem_cons, Event.bufferWrite.injEq, List.not_mem_nil, or_false, Block.write_requested,
        Block.resize_requested] at member
      omega

theorem clientReceive_more (ex : Externals) (w : World) {fragment : Fragment UInt8} {pending : Option Text}
    (holding : Holding ctx pending) (accepts : fragment.first = pending.isNone)
    (more : fragment.final = false) :
    ∃ out, clientReceive ex w ctx fragment = some out ∧
      Holding out.ctx (some (pending.getD [] ++ (kept fragment).data)) ∧
      parsedTexts out.events = [] ∧ InBounds out.events := by
  obtain ⟨data, first, final⟩ := fragment
  obtain rfl : final = false := more
  have length := strncpy_length data data.length
  unfold clientReceive kept
  dsimp only
  generalize strncpy data data.length = copy at length ⊢
  cases pending with
  | none =>
    obtain rfl : first = true := accepts
    have written := (Block.holds_nil (Block.malloc (data.length + 1))).write_end copy
    simp only [Bool.and_false, Bool.false_eq_true, if_false, if_true]
    refine ⟨_, rfl, ⟨_, rfl, written, length.symm, by simp [length]⟩, rfl, ?_⟩
    intro offset count size member
    simp only [List.mem_singleton, Event.bufferWrite.injEq] at member
    omega
  | some got =>
    obtain ⟨block, held, holds, soFar, room⟩ := holding
    obtain rfl : first = false := accepts
    have fits : got.length ≤ got.length + copy.length + 1 := by omega
    have written := (holds.resize (by omega) fits).write_end copy
    simp only [held, soFar, ← length, Option.isNone_some, Option.isSome_some, Bool.false_and,
      Bool.false_eq_true, if_false, Block.realloc]
    refine ⟨_, rfl, ⟨_, rfl, written, by simp, by simp⟩, rfl, ?_⟩
    intro offset count size member
    simp only [List.mem_singleton, Event.bufferWrite.injEq, Block.write_requested,
      Block.resize_requested] at member
    omega

theorem kept_accepted {fragment : Fragment UInt8} {pending : Option Text}
    (accepts : fragment.first = pending.isNone) :
    Assembly.push ⟨[], pending⟩ (kept fragment) =
      if fragment.final then ⟨[pending.getD [] ++ (kept fragment).data], none⟩
      else ⟨[], some (pending.getD [] ++ (kept fragment).data)⟩ := by
  have flags : (kept fragment).first = fragment.first ∧ (kept fragment).final = fragment.final := by
    unfold kept
    split <;> exact ⟨rfl, rfl⟩
  have accepts : Assembly.Accepts ⟨[], pending⟩ (kept fragment) := flags.1.trans accepts
  rw [Assembly.push_accepted accepts, flags.2]
  rfl

theorem clientReceive_taken {fragment : Fragment UInt8} {pending : Option Text} {out : Outcome}
    (holding : Holding ctx pending) (accepts : fragment.first = pending.isNone)
    (ran : clientReceive ex w ctx fragment = some out) :
    Taken fragment (Assembly.push ⟨[], pending⟩ (kept fragment)) out := by
  rw [kept_accepted accepts]
  cases final : fragment.final with
  | true =>
    obtain ⟨seen, events, _, silent, bounds, same⟩ := clientReceive_last ex w holding accepts final
    rw [same] at ran
    obtain ⟨inner, parsed, rfl⟩ := Option.map_eq_some_iff.mp ran
    have inside := (gatewayPayloadParser_some parsed).unreceived
    refine ⟨rfl, ?_, ?_, fun _ => rfl⟩
    · simp only [parsedTexts_append, parsedTexts_cons, silent, parsedTexts_unreceived inside]
      rfl
    · apply inBounds_append bounds
      intro offset count size member
      rcases List.mem_cons.mp member with same | member
      · cases same
      · exact inBounds_unreceived inside offset count size member
  | false =>
    obtain ⟨_, same, holds, silent, bounds⟩ := clientReceive_more ex w holding accepts final
    obtain rfl := Option.some.inj (same.symm.trans ran)
    exact ⟨holds, silent, bounds, fun last => nomatch final.symm.trans last⟩

theorem lwsCallback_unreceived {callback : Callback} {out : Outcome} (other : callback.fragment? = none)
    (ran : lwsCallback ex w ctx wsi callback = some out) :
    out.ctx.gatewayRxBuffer = ctx.gatewayRxBuffer ∧ out.ctx.gatewayRxBufferLen = ctx.gatewayRxBufferLen ∧
      Only Event.Unreceived out.events := by
  have apart : ∀ e : Event, e.Apart → e.Unreceived := fun e apart => by
    rcases e with _ | _ | _ | _ | _ | ⟨buffer, _⟩ | _ | _ | _ | _ | _ | _ | _
    case bufferWrite => cases buffer <;> trivial
    all_goals trivial
  cases lwsCallback_some ran with
  | neutral => exact ⟨rfl, rfl, by simp⟩
  | failed _ _ only => exact ⟨rfl, rfl, only.mono apart⟩
  | destroyed => exact ⟨rfl, rfl, by simp⟩
  | established _ _ only => exact ⟨rfl, rfl, only.mono apart⟩
  | buffered => cases other
  | parsed => cases other
  | drained => exact ⟨rfl, rfl, by simp⟩
  | consumed payload ring ret events taken items only =>
    refine ⟨rfl, rfl, ?_⟩
    have written : Only Event.Unreceived
        (if payload.payload.length = 0 then [] else [.written wsi payload.payload]) := by
      split <;> simp [Event.Unreceived]
    exact (only_append _ _).mpr ⟨by simp [Event.Unreceived, only.mono apart], written⟩
  | closed _ _ _ _ only => exact ⟨rfl, rfl, only.mono apart⟩

theorem Called.userCallback {callback : Callback} {out : Outcome}
    (called : Called ex w ctx wsi callback out) : out.ctx.userCallback = ctx.userCallback := by
  cases called with
  | parsed _ _ _ _ _ inner _ parsed =>
    cases parsed with
    | known _ _ _ _ handled => cases handled <;> rfl
    | _ => rfl
  | _ => rfl

theorem lwsCallback_returns (ex : Externals) (w : World) (wsi : Wsi) {callback : Callback}
    (other : callback.fragment? = none) (noClose : ∀ frame, callback ≠ .wsPeerInitiatedClose frame)
    (set : ctx.userCallback = true) : ∃ out, lwsCallback ex w ctx wsi callback = some out := by
  cases callback with
  | clientReceive => cases other
  | wsPeerInitiatedClose frame => exact absurd rfl (noClose frame)
  | clientConnectionError =>
    obtain ⟨out, called⟩ := callUser_returns w set .wsConnectionError .null 0
    exact ⟨_, Option.map_eq_some_iff.mpr ⟨out, called, rfl⟩⟩
  | clientEstablished =>
    obtain ⟨out, called⟩ := callUser_returns w set .wsEstablished .null 0
    exact ⟨_, Option.map_eq_some_iff.mpr ⟨out, called, rfl⟩⟩
  | _ => exact ⟨_, rfl⟩

def Digestible (ex : Externals) (text : Text) : Prop :=
  ∀ payload ∈ ex.loadb text, Copyable (Json.member? "d" payload.members)

theorem clientReceive_returns (w : World) {fragment : Fragment UInt8} {pending : Option Text}
    (holding : Holding ctx pending) (accepts : fragment.first = pending.isNone)
    (set : ctx.userCallback = true)
    (digestible : ∀ message ∈ (Assembly.push ⟨[], pending⟩ (kept fragment)).messages, Digestible ex message) :
    ∃ out, clientReceive ex w ctx fragment = some out := by
  cases final : fragment.final with
  | true =>
    obtain ⟨seen, events, callback, _, _, same⟩ := clientReceive_last ex w holding accepts final
    rw [kept_accepted accepts, if_pos final] at digestible
    obtain ⟨out, parsed⟩ := gatewayPayloadParser_returns w (callback.trans set)
      (digestible _ (List.mem_singleton_self _))
    exact ⟨_, same.trans (Option.map_eq_some_iff.mpr ⟨out, parsed, rfl⟩)⟩
  | false =>
    obtain ⟨out, same, _⟩ := clientReceive_more ex w holding accepts final
    exact ⟨out, same⟩

theorem received_unreceived {callback : Callback} (w : World) (rest : List (Callback × World))
    (other : callback.fragment? = none) : received ((callback, w) :: rest) = received rest := by
  simp [received, other]

theorem received_fragment {callback : Callback} {fragment : Fragment UInt8} (w : World)
    (rest : List (Callback × World)) (delivered : callback.fragment? = some fragment) :
    received ((callback, w) :: rest) = fragment :: received rest := by
  simp [received, delivered]

theorem lwsCallbacks_assemble (deliveries : List (Callback × World)) (messages : List Text)
    (pending : Option Text) {ctx final : Context} {events : List Event} (holding : Holding ctx pending)
    (flagged : WellFlagged ⟨messages, pending⟩ (received deliveries))
    (nulFree : ∀ fragment ∈ received deliveries, 0 ∉ fragment.data)
    (ran : lwsCallbacks ex wsi ctx deliveries = some (final, events)) :
    let reached := assembleFrom ⟨messages, pending⟩ (received deliveries)
    reached.messages = messages ++ parsedTexts events ∧ Holding final reached.pending ∧ InBounds events ∧
      (reached.pending = none →
        (received deliveries = [] ∧ final.gatewayRxBufferLen = ctx.gatewayRxBufferLen) ∨
          final.gatewayRxBufferLen = 0) := by
  induction deliveries generalizing ctx messages pending events with
  | nil =>
    cases ran
    exact ⟨by simp [received, assembleFrom], holding, by simp [InBounds], fun _ => .inl ⟨rfl, rfl⟩⟩
  | cons delivery rest ih =>
    obtain ⟨callback, w⟩ := delivery
    obtain ⟨out, called, ran⟩ := Option.bind_eq_some_iff.mp ran
    obtain ⟨⟨last, more⟩, ranRest, same⟩ := Option.bind_eq_some_iff.mp ran
    cases same
    cases delivered : callback.fragment? with
    | none =>
      obtain ⟨buffer, len, only⟩ := lwsCallback_unreceived delivered called
      have holding : Holding out.ctx pending := holding.kept buffer len
      rw [received_unreceived w rest delivered] at flagged nulFree ⊢
      obtain ⟨texts, holds, bounds, cleared⟩ := ih messages pending holding flagged nulFree ranRest
      refine ⟨?_, holds, inBounds_append (inBounds_unreceived only) bounds,
        fun between => len ▸ cleared between⟩
      rw [parsedTexts_append, parsedTexts_unreceived only]
      exact texts
    | some fragment =>
      rw [received_fragment w rest delivered] at flagged nulFree ⊢
      have ran' : clientReceive ex w ctx fragment = some out := by
        cases callback <;> cases delivered
        exact called
      have step := clientReceive_taken holding flagged.1 ran'
      rw [kept_self (nulFree fragment (by simp))] at step
      have push : Assembly.push ⟨messages, pending⟩ fragment =
          ⟨messages ++ parsedTexts out.events, (Assembly.push ⟨[], pending⟩ fragment).pending⟩ := by
        rw [step.texts]
        simp only [Assembly.push]
        split <;> simp
      obtain ⟨texts, holds, bounds, cleared⟩ := ih _ _ step.holding (push ▸ flagged.2)
        (fun f member => nulFree f (by simp [member])) ranRest
      simp only [assembleFrom, List.foldl_cons, push] at texts holds cleared ⊢
      refine ⟨?_, holds, inBounds_append step.inBounds bounds, fun between => .inr ?_⟩
      · rw [texts, parsedTexts_append, List.append_assoc]
      · rcases cleared between with ⟨last, kept⟩ | zero
        · -- no fragment comes after this one, so it was the final one of its message
          rw [last, List.foldl_nil] at between
          rw [kept]
          apply step.cleared
          cases flag : fragment.final with
          | true => rfl
          | false => simp [Assembly.push, flag] at between
        · exact zero

theorem lwsCallbacks_returns (deliveries : List (Callback × World)) (messages : List Text)
    (pending : Option Text) {ctx : Context} (holding : Holding ctx pending)
    (flagged : WellFlagged ⟨messages, pending⟩ (received deliveries))
    (nulFree : ∀ fragment ∈ received deliveries, 0 ∉ fragment.data) (set : ctx.userCallback = true)
    (digestible : ∀ message ∈ (assembleFrom ⟨messages, pending⟩ (received deliveries)).messages,
      Digestible ex message)
    (noClose : ∀ delivery ∈ deliveries, ∀ frame, delivery.1 ≠ .wsPeerInitiatedClose frame) :
    ∃ final events, lwsCallbacks ex wsi ctx deliveries = some (final, events) := by
  induction deliveries generalizing ctx messages pending with
  | nil => exact ⟨ctx, [], rfl⟩
  | cons delivery rest ih =>
    obtain ⟨callback, w⟩ := delivery
    have noCloseRest : ∀ delivery ∈ rest, ∀ frame, delivery.1 ≠ .wsPeerInitiatedClose frame :=
      fun delivery member => noClose delivery (List.mem_cons_of_mem _ member)
    have chained : ∀ out, lwsCallback ex w ctx wsi callback = some out →
        (∃ final events, lwsCallbacks ex wsi out.ctx rest = some (final, events)) →
        ∃ final events, lwsCallbacks ex wsi ctx ((callback, w) :: rest) = some (final, events) := by
      rintro out called ⟨final, events, ran⟩
      exact ⟨final, out.events ++ events, by simp [lwsCallbacks, called, ran]⟩
    cases delivered : callback.fragment? with
    | none =>
      obtain ⟨out, called⟩ := lwsCallback_returns ex w wsi delivered
        (noClose _ (List.mem_cons_self ..)) set
      obtain ⟨buffer, len, _⟩ := lwsCallback_unreceived delivered called
      have holding : Holding out.ctx pending := holding.kept buffer len
      rw [received_unreceived w rest delivered] at flagged nulFree digestible
      exact chained out called (ih messages pending holding flagged nulFree
        ((lwsCallback_some called).userCallback.trans set) digestible noCloseRest)
    | some fragment =>
      rw [received_fragment w rest delivered] at flagged nulFree digestible
      obtain rfl : callback = .clientReceive fragment := by
        cases callback <;> cases delivered
        rfl
      have self := kept_self (nulFree fragment (by simp))
      have whole := Assembly.push_messages ⟨messages, pending⟩ fragment
      obtain ⟨out, called⟩ := clientReceive_returns w holding flagged.1 set (by
        intro message member
        rw [self] at member
        apply digestible message (mem_assembleFrom (received rest) _)
        rw [whole]
        exact List.mem_append_right _ member)
      have step := (clientReceive_taken holding flagged.1 called).holding
      rw [self, ← Assembly.push_pending ⟨messages, pending⟩] at step
      have called : lwsCallback ex w ctx wsi (.clientReceive fragment) = some out := called
      exact chained out called (ih _ _ step flagged.2 (fun f member => nulFree f (by simp [member]))
        ((lwsCallback_some called).userCallback.trans set) digestible noCloseRest)

/-- The parser was called once for each message that is complete, and the buffer holds the message in
progress and nothing between messages. -/
structure Reassembled (done : List (List Text)) (current : List Text) (final : Context)
    (events : List Event) : Prop where
  texts : parsedTexts events = done.map List.flatten
  between : current = [] → final.gatewayRxBuffer = none ∧ (done ≠ [] → final.gatewayRxBufferLen = 0)
  within : current ≠ [] → ∃ block, final.gatewayRxBuffer = some block ∧ block.Holds current.flatten ∧
    final.gatewayRxBufferLen = current.flatten.length ∧ current.flatten.length < block.requested
  inBounds : InBounds events

/-- The fragments of complete messages and of the one in progress, however these are split. -/
theorem assemble_arrived {done : List (List Text)} (current : List Text)
    (nonempty : ∀ chunks ∈ done, chunks ≠ []) :
    let fragments := done.flatMap (split true) ++ opening true current
    assembleFrom ⟨[], none⟩ fragments =
        ⟨done.map List.flatten, if current = [] then none else some current.flatten⟩ ∧
      WellFlagged ⟨[], none⟩ fragments := by
  obtain ⟨assembled, flagged⟩ := assemble_splits done nonempty []
  dsimp only
  rw [assembleFrom_append, wellFlagged_append, assembled]
  cases current with
  | nil => exact ⟨rfl, flagged, trivial⟩
  | cons chunk rest =>
    obtain ⟨opened, openedFlagged⟩ := assemble_opening ([] ++ done.map List.flatten) (chunk :: rest) (by simp)
    exact ⟨opened, flagged, openedFlagged⟩

/-- However the messages are split and whatever comes in between, they are reassembled; and the
callbacks all return, but for a session id or a close frame that nothing can be made of. -/
theorem messages_reassembled (ex : Externals) (wsi : Wsi) (done : List (List Text)) (current : List Text)
    (deliveries : List (Callback × World)) (nonempty : ∀ chunks ∈ done, chunks ≠ [])
    (arrived : received deliveries = done.flatMap (split true) ++ opening true current)
    (nulFree : ∀ fragment ∈ received deliveries, 0 ∉ fragment.data)
    (fresh : ctx.gatewayRxBuffer = none) :
    (∀ final events, lwsCallbacks ex wsi ctx deliveries = some (final, events) →
      Reassembled done current final events) ∧
    (ctx.userCallback = true → (∀ chunks ∈ done, Digestible ex chunks.flatten) →
      (∀ delivery ∈ deliveries, ∀ frame, delivery.1 ≠ .wsPeerInitiatedClose frame) →
      ∃ final events, lwsCallbacks ex wsi ctx deliveries = some (final, events)) := by
  have start : Holding ctx none := fresh
  obtain ⟨assembled, flagged⟩ := assemble_arrived current nonempty
  rw [← arrived] at assembled flagged
  constructor
  · intro final events ran
    have run := lwsCallbacks_assemble deliveries [] none start flagged nulFree ran
    rw [assembled] at run
    obtain ⟨texts, holds, bounds, cleared⟩ := run
    refine ⟨texts.symm, fun idle => ?_, fun busy => ?_, bounds⟩
    · simp only [if_pos idle] at holds cleared
      refine ⟨holds, fun some_message => ?_⟩
      rcases cleared trivial with ⟨none_arrived, _⟩ | zero
      · have none_done : [] = done.map List.flatten := by
          rw [none_arrived] at assembled
          exact congrArg Assembly.messages assembled
        exact absurd (List.map_eq_nil_iff.mp none_done.symm) some_message
      · exact zero
    · simp only [if_neg busy] at holds
      exact holds
  · intro set digestible noClose
    refine lwsCallbacks_returns deliveries [] none start flagged nulFree set ?_ noClose
    intro message member
    rw [assembled] at member
    obtain ⟨chunks, complete, rfl⟩ := List.mem_map.mp member
    exact digestible chunks complete

end

-- An acknowledgement in two chunks around a pong, another one in one chunk, and the start of a third.
def acknowledged : List (Callback × World) :=
  let text := heartbeatAckMessage.encode
  [.clientReceive ⟨text.take 9, true, false⟩, .clientReceivePong, .clientReceive ⟨text.drop 9, false, true⟩,
    .clientReceive ⟨text, true, true⟩, .clientReceive ⟨text.take 3, true, false⟩].map (·, .calm 100)

theorem messages_reassembled_acknowledged :
    ∃ final events, lwsCallbacks (.knowing [heartbeatAckMessage]) 1
        (System.ofBot (.knowing [heartbeatAckMessage]) 16 99).ctx acknowledged = some (final, events) ∧
      parsedTexts events = [heartbeatAckMessage.encode, heartbeatAckMessage.encode] := by
  have fresh : (System.ofBot (.knowing [heartbeatAckMessage]) 16 99).ctx.gatewayRxBuffer = none := rfl
  obtain ⟨reassembled, returns⟩ := messages_reassembled (.knowing [heartbeatAckMessage]) 1
    [[heartbeatAckMessage.encode.take 9, heartbeatAckMessage.encode.drop 9], [heartbeatAckMessage.encode]]
    [heartbeatAckMessage.encode.take 3] acknowledged (by simp) rfl (by decide +kernel) fresh
  have digestible : Digestible (.knowing [heartbeatAckMessage]) heartbeatAckMessage.encode := by
    intro payload loaded
    obtain rfl := Option.some.inj ((knowing_first heartbeatAckMessage []).symm.trans loaded)
    decide
  obtain ⟨final, events, ran⟩ := returns rfl (by simpa using digestible) (by simp [acknowledged])
  exact ⟨final, events, ran, by simpa using (reassembled final events ran).texts⟩

end Libdiscord
