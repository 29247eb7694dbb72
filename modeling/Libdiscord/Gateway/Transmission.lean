import Libdiscord.Gateway.Handshake
import Libdiscord.Gateway.Isolation
import Libdiscord.Gateway.Recovery
import Libdiscord.Gateway.Session
import Libdiscord.Gateway.Spacing
import Libdiscord.Json.Size

/-! Whether what is put into the ring fits the buffer from which it is sent. -/

set_option autoImplicit false

namespace Libdiscord

open Libdiscord.Base

/-- jansson writes out every value without real numbers as `Json.encode` says. -/
def Externals.Encodes (ex : Externals) : Prop := ∀ json : Json, json.Integral → ex.dumps json = json.encode

/-- A text of this size fits the buffer of a session, with the room in front of it and its terminator. -/
def FitsSession (ex : Externals) (size : Nat) : Prop := ex.lwsPre + size + 1 ≤ sessionSize

instance (ex : Externals) (size : Nat) : Decidable (FitsSession ex size) :=
  inferInstanceAs (Decidable (_ ≤ _))

def Event.dequeuedText? : Event → Option Text
  | .dequeued text => some text
  | _ => none

def dequeuedTexts (events : List Event) : List Text := events.filterMap Event.dequeuedText?

/-- Everything in the ring fits the buffer of a session, no write to that buffer went past its end, and
`lws_write` was given what was taken from the ring. -/
structure Transmits (ex : Externals) (s : System) : Prop where
  waiting : ∀ payload ∈ s.ctx.gatewayRing.items, FitsSession ex payload.payload.length
  inside : ∀ offset count size, .bufferWrite .session offset count size ∈ s.history → offset + count ≤ size
  whole : writtenTexts s.history = dequeuedTexts s.history

/-- A heartbeat that falls due fits, and so does what a HELLO that finds room in the ring is answered with. -/
def Fitting (ex : Externals) (s : System) (m : Move) (next : System) : Prop :=
  (Beats s m → FitsSession ex (heartbeatSize s.ctx.lastSeq)) ∧
  ∀ w ∈ m.world?, ForParsed ex s next fun members => Known members → selectedOpcode members = .hello →
    s.ctx.gatewayRing.items.length < s.ctx.gatewayRing.capacity →
    ∀ size ∈ handshakeSize ex w.beyondRoles (helloIdentify w s.ctx).1, FitsSession ex size

instance (ex : Externals) (s next : System) (m : Move) : Decidable (Fitting ex s m next) := by
  unfold Fitting
  infer_instance

def Event.Unsent : Event → Prop
  | .dequeued _ | .written _ _ | .bufferWrite .session _ _ _ => False
  | _ => True

section
variable {ex : Externals} {s next : System} {m : Move} {w : World} {ctx : Context} {out : Outcome}

theorem Event.Idle.unsent (e : Event) (idle : e.Idle) : e.Unsent := by cases e <;> trivial

theorem Event.Copied.unsent (e : Event) (copied : e.Copied) : e.Unsent := by
  rcases e with _ | _ | _ | _ | _ | ⟨buffer, _⟩ | _ | _ | _ | _ | _ | _ | _
  case bufferWrite => cases buffer <;> trivial
  all_goals cases copied

theorem Parsed.unsent {text : Text} (parsed : Parsed ex w ctx text out) : Only Event.Unsent out.events :=
  parsed.only (fun e quiet => by cases e <;> trivial) fun _ => trivial

theorem texts_unsent {events : List Event} (only : Only Event.Unsent events) :
    writtenTexts events = [] ∧ dequeuedTexts events = [] := by
  constructor
  all_goals
    apply only.filterMap
    intro e kind
    cases e <;> first | rfl | cases kind

theorem dequeuedTexts_append (events more : List Event) :
    dequeuedTexts (events ++ more) = dequeuedTexts events ++ dequeuedTexts more := List.filterMap_append

theorem Transmits.unsent {events : List Event} (good : Transmits ex s)
    (history : next.history = s.history ++ events) (only : Only Event.Unsent events) :
    (∀ offset count size, .bufferWrite .session offset count size ∈ next.history → offset + count ≤ size) ∧
      writtenTexts next.history = dequeuedTexts next.history := by
  obtain ⟨written, dequeued⟩ := texts_unsent only
  constructor
  · intro offset count size member
    rw [history] at member
    rcases List.mem_append.mp member with old | new
    · exact good.inside offset count size old
    · exact (only _ new).elim
  · rw [history, writtenTexts_append, dequeuedTexts_append, written, dequeued, good.whole]

theorem Transmits.kept {events : List Event} (good : Transmits ex s)
    (history : next.history = s.history ++ events) (only : Only Event.Unsent events)
    (items : next.ctx.gatewayRing.items = s.ctx.gatewayRing.items) :
    Transmits ex next := by
  obtain ⟨inside, whole⟩ := good.unsent history only
  refine ⟨fun payload member => ?_, inside, whole⟩
  rw [items] at member
  exact good.waiting payload member

theorem Transmits.added {events : List Event} {text : Text} {len : Nat} (good : Transmits ex s)
    (history : next.history = s.history ++ events) (only : Only Event.Unsent events)
    (items : next.ctx.gatewayRing.items = s.ctx.gatewayRing.items ++ [⟨text, len⟩]) :
    Transmits ex next ↔ FitsSession ex text.length := by
  constructor
  · intro transmits
    apply transmits.waiting ⟨text, len⟩
    rw [items]
    exact List.mem_append_right _ (List.mem_singleton_self _)
  · intro fits
    obtain ⟨inside, whole⟩ := good.unsent history only
    refine ⟨fun payload member => ?_, inside, whole⟩
    rw [items] at member
    rcases List.mem_append.mp member with old | new
    · exact good.waiting payload old
    · exact List.mem_singleton.mp new ▸ fits

theorem Transmits.taken {wsi : Wsi} {callback : Callback} {payload : GatewayPayload} (good : Transmits ex s)
    (items : s.ctx.gatewayRing.items = payload :: next.ctx.gatewayRing.items)
    (history : next.history = s.history ++ [.delivered wsi callback, .dequeued payload.payload,
      .bufferWrite .session ex.lwsPre (payload.payload.length + 1) sessionSize, .written wsi payload.payload]) :
    Transmits ex next := by
  have fits := good.waiting payload (items ▸ List.mem_cons_self ..)
  refine ⟨fun other member => ?_, fun offset count size member => ?_, ?_⟩
  · apply good.waiting other
    rw [items]
    exact List.mem_cons_of_mem _ member
  · rw [history] at member
    rcases List.mem_append.mp member with old | new
    · exact good.inside offset count size old
    · simp only [List.mem_cons, List.not_mem_nil, or_false, reduceCtorEq, false_or, Event.bufferWrite.injEq,
        true_and] at new
      obtain ⟨rfl, rfl, rfl⟩ := new
      exact fits
  · rw [history, writtenTexts_append, dequeuedTexts_append, good.whole]
    rfl

/-- What the parser has to queue is as long as the struct it is made of says. -/
theorem handshakeText_length (encodes : ex.Encodes) (w : World) (ctx : Context) (text : Text) :
    (handshakeText ex w ctx text).map List.length = (ex.loadb text).bind fun payload =>
      if Known payload.members ∧ selectedOpcode payload.members = .hello then
        handshakeSize ex w.beyondRoles (helloIdentify w ctx).1 else none := by
  have hello : (helloText ex w ctx).map List.length =
      handshakeSize ex w.beyondRoles (helloIdentify w ctx).1 := by
    rw [← handshake_length, helloText]
    cases made : Json.unpackIdentify ex w.beyondRoles (helloIdentify w ctx).1 with
    | none => rfl
    | some d =>
      have integral := createPayload_integral (.integer 2) (unpackIdentify_integral made)
      rw [Option.map_some, Option.map_some, Option.map_some, encodes _ integral]
  unfold handshakeText
  cases ex.loadb text with
  | none => rfl
  | some payload =>
    rw [Option.bind_some, Option.bind_some]
    split
    · exact hello
    · rfl

theorem fitting_text (encodes : ex.Encodes) (w : World) (ctx : Context) (text : Text) :
    (∀ payload ∈ ex.loadb text, Known payload.members → selectedOpcode payload.members = .hello →
      ctx.gatewayRing.items.length < ctx.gatewayRing.capacity →
      ∀ size ∈ handshakeSize ex w.beyondRoles (helloIdentify w ctx).1, FitsSession ex size) ↔
    (ctx.gatewayRing.items.length < ctx.gatewayRing.capacity →
      ∀ sent ∈ handshakeText ex w ctx text, FitsSession ex sent.length) := by
  have sizes : (∀ sent ∈ handshakeText ex w ctx text, FitsSession ex sent.length) ↔
      ∀ size ∈ (handshakeText ex w ctx text).map List.length, FitsSession ex size := by
    simp only [Option.mem_def, Option.map_eq_some_iff, forall_exists_index, and_imp, forall_apply_eq_imp_iff₂]
  rw [sizes, handshakeText_length encodes]
  cases ex.loadb text with
  | none => simp
  | some payload =>
    simp only [Option.mem_some_iff, forall_eq', Option.bind_some]
    by_cases hello : Known payload.members ∧ selectedOpcode payload.members = .hello
    · rw [if_pos hello]
      exact ⟨fun fits => fits hello.1 hello.2, fun fits _ _ => fits⟩
    · rw [if_neg hello]
      exact iff_of_true (fun known code => absurd ⟨known, code⟩ hello) (fun _ _ none => nomatch none)

inductive Carries (ex : Externals) (s : System) (m : Move) (next : System) : Prop where
  | kept (events : List Event) : Fitting ex s m next → next.history = s.history ++ events →
      Only Event.Unsent events → next.ctx.gatewayRing.items = s.ctx.gatewayRing.items → Carries ex s m next
  | added (text : Text) (events : List Event) : (Fitting ex s m next ↔ FitsSession ex text.length) →
      text ≠ [] → next.history = s.history ++ events → Only Event.Unsent events →
      next.ctx.gatewayRing.items = s.ctx.gatewayRing.items ++ [⟨text, text.length⟩] → Carries ex s m next
  | taken (wsi : Wsi) (callback : Callback) (payload : GatewayPayload) : Fitting ex s m next →
      s.ctx.gatewayRing.items = payload :: next.ctx.gatewayRing.items →
      next.history = s.history ++ (.delivered wsi callback :: .dequeued payload.payload ::
        .bufferWrite .session ex.lwsPre (payload.payload.length + 1) sessionSize ::
        if payload.payload.length = 0 then [] else [.written wsi payload.payload]) → Carries ex s m next

theorem Move.world?_none (own : m.wsi? = none) : m.world? = none := by
  cases m <;> first | rfl | cases own

theorem fitting_quiet (own : m.wsi? = none) (quiet : ¬Beats s m) : Fitting ex s m next := by
  refine ⟨fun beats => absurd beats quiet, fun w inside => ?_⟩
  rw [Move.world?_none own] at inside
  cases inside

theorem beats_queued (beats : Beats s m) (stepped : step ex s m = some next) :
    ∃ text, .queued .heartbeat text ∈ newEvents s next := by
  cases m with
  | service sw =>
    obtain ⟨connected, due, quiet, room⟩ := beats
    have late : ¬heartbeatDue s.ctx sw.now = false := by simp [due]
    cases step_stepped stepped with
    | refused _ _ _ _ _ attempts =>
      cases attempts with
      | service _ missing => simp [missing] at connected
    | attempted _ _ _ _ _ attempts =>
      cases attempts with
      | service _ missing => simp [missing] at connected
    | alarmed _ _ _ _ beat failed =>
      cases beat with
      | early early => exact absurd early late
      | missed _ waiting => omega
      | full _ _ full => omega
      | queued => exact absurd rfl failed
    | served _ out _ _ beat ok =>
      cases beat with
      | early early => exact absurd early late
      | missed => cases ok
      | full => cases ok
      | queued ring text =>
        refine ⟨text, ?_⟩
        rw [newEvents_of_append rfl]
        exact List.mem_cons_self ..
  | connect => cases beats
  | callback => cases beats
  | leave => cases beats

theorem Beats.noisy {events : List Event} (beats : Beats s m) (stepped : step ex s m = some next)
    (history : next.history = s.history ++ events) (only : Only Event.Uncounted events) : False := by
  obtain ⟨text, queued⟩ := beats_queued beats stepped
  rw [newEvents_of_append history] at queued
  exact only _ queued

theorem peerInitiatedClose_unsent {frame : Text} (closed : peerInitiatedClose w ctx frame = some out) :
    Only Event.Unsent out.events := by
  have reads : ∀ indices, Only Event.Unsent (overreads frame indices) :=
    overreads_only frame fun _ => trivial
  obtain ⟨-, gi, read, rfl⟩ := peerInitiatedClose_cases closed
  split <;> simp [reads, Event.Unsent]

theorem lwsCallback_unsent {wsi : Wsi} {callback : Callback}
    (ran : lwsCallback ex w ctx wsi callback = some out) (other : callback.fragment? = none)
    (idle : callback ≠ .clientWriteable) :
    Only Event.Unsent out.events ∧ out.ctx.gatewayRing = ctx.gatewayRing := by
  cases callback with
  | clientConnectionError =>
    obtain ⟨inner, called, rfl⟩ := Option.map_eq_some_iff.mp ran
    obtain ⟨-, rfl⟩ := callUser_some called
    exact ⟨by simp [Event.Unsent], rfl⟩
  | clientEstablished =>
    obtain ⟨inner, called, rfl⟩ := Option.map_eq_some_iff.mp ran
    obtain ⟨-, rfl⟩ := callUser_some called
    exact ⟨by simp [Event.Unsent], rfl⟩
  | clientReceive => cases other
  | clientWriteable => exact absurd rfl idle
  | wsPeerInitiatedClose frame =>
    refine ⟨peerInitiatedClose_unsent ran, ?_⟩
    have called : Called ex w ctx wsi (.wsPeerInitiatedClose frame) out := peerInitiatedClose_some ran
    cases called with
    | neutral _ neutral => cases neutral
    | closed => rfl
  | _ =>
    cases ran
    exact ⟨only_nil, rfl⟩

theorem objectSize_pos (sizes : List (String × Option Nat)) : 0 < objectSize sizes := Nat.succ_pos _

theorem handshakeText_nonempty {text sent : Text} (encodes : ex.Encodes)
    (handshake : handshakeText ex w ctx text = some sent) : sent ≠ [] := by
  have size := handshakeText_length encodes w ctx text
  rw [handshake, Option.map_some] at size
  obtain ⟨payload, -, chosen⟩ := Option.bind_eq_some_iff.mp size.symm
  split at chosen
  · obtain ⟨token, -, chosen⟩ := Option.bind_eq_some_iff.mp chosen
    obtain ⟨properties, -, same⟩ := Option.map_eq_some_iff.mp chosen
    exact List.ne_nil_of_length_pos (same ▸ objectSize_pos _)
  · cases chosen

theorem carries_called {wsi : Wsi} {callback : Callback} (encodes : ex.Encodes)
    (ran : lwsCallback ex w s.ctx wsi callback = some out)
    (history : next.history = s.history ++ .delivered wsi callback :: out.events) (same : next.ctx = out.ctx) :
    Carries ex s (.callback wsi callback w) next := by
  -- what has to fit is what the message calls for that the callback parses
  have fitting : Fitting ex s (.callback wsi callback w) next ↔ ∀ text ∈ parsedTexts out.events,
      s.ctx.gatewayRing.items.length < s.ctx.gatewayRing.capacity →
      ∀ sent ∈ handshakeText ex w s.ctx text, FitsSession ex sent.length := by
    simp only [Fitting, Beats, false_imp_iff, true_and, Move.world?, Option.mem_some_iff, forall_eq',
      forParsed_delivered history, ← fitting_text encodes]
  have silent : parsedTexts out.events = [] → Fitting ex s (.callback wsi callback w) next := by
    intro none
    rw [fitting, none]
    simp
  cases received : callback.fragment? with
  | none =>
    have quiet := parsedTexts_unreceived (lwsCallback_unreceived received ran).2.2
    by_cases writeable : callback = .clientWriteable
    · subst writeable
      cases ran
      rcases clientWriteable_cases ex w s.ctx wsi with ⟨-, idle⟩ | ⟨payload, ring, ret, -, items, sent⟩
      · rw [idle] at history same
        exact .kept _ (silent quiet) history (by simp [Event.Unsent]) (by rw [same])
      · rw [sent] at history same
        exact .taken wsi .clientWriteable payload (silent quiet) (by rw [same]; exact items) history
    · obtain ⟨only, ring⟩ := lwsCallback_unsent ran received writeable
      exact .kept _ (silent quiet) history ((only_cons _ _).mpr ⟨trivial, only⟩) (by rw [same, ring])
  | some fragment =>
    cases callback <;> cases received
    obtain ⟨buffer, len, events, copied, rfl | ⟨text, inner, parsed, rfl⟩⟩ := clientReceive_cases ran
    · have quiet := parsedTexts_uncounted (copied.mono Event.Copied.uncounted)
      refine .kept _ (silent quiet) history ?_ (by rw [same])
      exact (only_cons _ _).mpr ⟨trivial, copied.mono Event.Copied.unsent⟩
    · have after := gatewayPayloadParser_some parsed
      have only : Only Event.Unsent
          (.delivered wsi (.clientReceive fragment) :: (events ++ .parsed text :: inner.events)) := by
        refine (only_cons _ _).mpr ⟨trivial, (only_append _ _).mpr ⟨copied.mono Event.Copied.unsent, ?_⟩⟩
        exact (only_cons _ _).mpr ⟨trivial, after.unsent⟩
      rw [parsedTexts_one (copied.mono Event.Copied.uncounted) after.uncounted] at fitting
      simp only [List.mem_singleton, forall_eq] at fitting
      have answered := gatewayPayloadParser_answered parsed
      rw [handshakeText_buffer] at answered
      cases handshake : handshakeText ex w s.ctx text with
      | none =>
        rw [handshake] at answered fitting
        refine .kept _ (fitting.mpr (by simp)) history only ?_
        rw [same]
        exact congrArg BoundedQueue.items answered.1
      | some sent =>
        rw [handshake] at answered fitting
        simp only [Option.mem_some_iff, forall_eq'] at fitting
        obtain ⟨-, ring, -⟩ := answered
        rcases s.ctx.gatewayRing.insert_cases ⟨sent, sent.length⟩ with ⟨-, items, room⟩ | ⟨refused, full⟩
        · refine .added sent _ (fitting.trans (imp_iff_right room)) (handshakeText_nonempty encodes handshake)
            history only ?_
          rw [same]
          exact (congrArg BoundedQueue.items ring).trans items
        · refine .kept _ (fitting.mpr fun room => absurd room (by omega)) history only ?_
          rw [same]
          exact (congrArg BoundedQueue.items ring).trans (congrArg (fun taken => taken.1.items) refused)

theorem step_carries (encodes : ex.Encodes) (stepped : step ex s m = some next) : Carries ex s m next := by
  cases step_acts stepped with
  | idle events own _ history only asked =>
    obtain ⟨_, _, _, _, _, same⟩ := asked
    have uncounted := only.mono Event.Idle.uncounted
    exact .kept events (fitting_quiet own fun beats => beats.noisy stepped history uncounted) history
      (only.mono Event.Idle.unsent) (by rw [same])
  | connecting events wsi ctx own _ history only asked same =>
    obtain ⟨_, _, _, _, _, rfl⟩ := asked
    have uncounted : Only Event.Uncounted (events ++ [.connecting (s.wsis + 1)]) :=
      (only_append _ _).mpr ⟨only.mono Event.Idle.uncounted, by simp [Event.Uncounted]⟩
    have unsent : Only Event.Unsent (events ++ [.connecting (s.wsis + 1)]) :=
      (only_append _ _).mpr ⟨only.mono Event.Idle.unsent, by simp [Event.Unsent]⟩
    exact .kept _ (fitting_quiet own fun beats => beats.noisy stepped history uncounted) history unsent
      (by rw [same])
  | missed own alarms history same =>
    exact .kept _ (fitting_quiet own fun beats => beats.calm alarms) history (by simp [Event.Unsent])
      (by rw [same])
  | queued later ring text events own beats appended encoded history only same =>
    have length : text.length = heartbeatSize s.ctx.lastSeq := by
      rw [encoded, encodes _ (createPayload_integral (.integer 1) (.integer _)), heartbeat_length]
    have fitting : Fitting ex s m next ↔ FitsSession ex text.length := by
      rw [length]
      refine ⟨fun fits => fits.1 beats, fun fits => ⟨fun _ => fits, fun w inside => ?_⟩⟩
      rw [Move.world?_none own] at inside
      cases inside
    exact .added text _ fitting (List.ne_nil_of_length_pos (length ▸ objectSize_pos _)) history
      ((only_cons _ _).mpr ⟨trivial, only.mono Event.Idle.unsent⟩) (by rw [same]; exact appended.1)
  | called wsi callback w out move ran history same =>
    subst move
    exact carries_called encodes ran history same

theorem hello_queued {token device text : Text} {payload : Json} {wsi : Wsi} (encodes : ex.Encodes)
    (away : s.control ≠ .bot) (loaded : ex.loadb text = some payload) (hello : IsPayload 10 payload)
    (fresh : s.ctx.gatewaySessionId = none) (between : s.ctx.gatewayRxBuffer = none)
    (set : s.ctx.botToken = some token) (named : s.ctx.device = some device)
    (accepted : ex.checkUtf8 device = true)
    (room : s.ctx.gatewayRing.items.length < s.ctx.gatewayRing.capacity) :
    ∃ next, step ex s (.callback wsi (.clientReceive ⟨text, true, true⟩) w) = some next ∧
      ∃ queued ∈ next.ctx.gatewayRing.items, device.length ≤ queued.payload.length := by
  let seen := { s.ctx with lastSeq := storedSeq s.ctx.lastSeq payload.members }
  obtain ⟨out, ran⟩ := gatewayHello_total ex w seen (Json.member? "d" payload.members)
  obtain ⟨sent, made, -, -, items⟩ := gatewayHello_encoding ran fresh set room
  have parsed : gatewayPayloadParser ex w s.ctx text = some out :=
    (gatewayPayloadParser_hello loaded hello).trans ran
  have stepped : step ex s (.callback wsi (.clientReceive ⟨text, true, true⟩) w) = some (
      { s.after ⟨{ out.ctx with gatewayRxBuffer := none, gatewayRxBufferLen := 0 }, out.ret,
          .delivered wsi (.clientReceive ⟨text, true, true⟩) :: .parsed text :: out.events⟩ s.control with
        clock := w.now }) := by
    simp [step, away, lwsCallback, clientReceive, between, parsed]
  refine ⟨_, stepped, ⟨ex.dumps sent, (ex.dumps sent).length⟩, ?_, ?_⟩
  · show _ ∈ out.ctx.gatewayRing.items
    rw [items]
    exact List.mem_append_right _ (List.mem_singleton_self _)
  · obtain ⟨d, encoded, rfl⟩ := Option.map_eq_some_iff.mp made
    have chosen : helloIdentify w seen = (setIdentify seen, []) := helloIdentify_fresh w fresh
    rw [chosen] at encoded
    have held : (setIdentify seen).token = some token := set
    obtain ⟨size, sized, longer⟩ := device_le_handshakeSize w.beyondRoles held rfl named accepted
    have length := handshake_length ex w.beyondRoles (setIdentify seen)
    rw [encoded, sized, Option.map_some, Option.some.injEq] at length
    show device.length ≤ (ex.dumps _).length
    rw [encodes _ (createPayload_integral (.integer 2) (unpackIdentify_integral encoded)), length]
    exact longer

def Filled (s : System) : Prop := ∀ payload ∈ s.ctx.gatewayRing.items, payload.payload ≠ []

theorem filled_step (encodes : ex.Encodes) (filled : Filled s) (stepped : step ex s m = some next) :
    Filled next := by
  intro payload member
  cases step_carries encodes stepped with
  | kept _ _ _ _ items => exact filled payload (items ▸ member)
  | added text _ _ nonempty _ _ items =>
    rw [items] at member
    rcases List.mem_append.mp member with old | new
    · exact filled payload old
    · exact List.mem_singleton.mp new ▸ nonempty
  | taken _ _ first _ items =>
    apply filled payload
    rw [items]
    exact List.mem_cons_of_mem _ member

theorem transmits_step (encodes : ex.Encodes) (filled : Filled s) (good : Transmits ex s)
    (stepped : step ex s m = some next) : Transmits ex next ↔ Fitting ex s m next := by
  cases step_carries encodes stepped with
  | kept _ fitting history only items => exact iff_of_true (good.kept history only items) fitting
  | added _ _ fitting _ history only items => exact (good.added history only items).trans fitting.symm
  | taken wsi callback payload fitting items history =>
    have some_byte : payload.payload.length ≠ 0 := by
      have nonempty := filled payload (items ▸ List.mem_cons_self ..)
      simpa using nonempty
    rw [if_neg some_byte] at history
    exact iff_of_true (good.taken items history) fitting

/-- In every run all that is sent fits the buffer of the session, and is what was taken from the ring, exactly
if every heartbeat that falls due and every answer to a HELLO that finds room are short enough. -/
theorem transmits_iff (moves : List Move) (encodes : ex.Encodes) (booted : Booted ex s) :
    Always (step ex) (Transmits ex) s moves ↔ Each (step ex) (Fitting ex) s moves := by
  obtain ⟨history, _, _, _, _, _, _, _, empty, _⟩ := booted.fresh
  have filled : Filled s := by simp [Filled, empty]
  have start : Transmits ex s :=
    ⟨by simp [empty], by simp [history], by rw [history]; rfl⟩
  exact always_iff_each (fun _ _ _ filled _ stepped => filled_step encodes filled stepped)
    (fun _ _ _ filled good _ stepped => transmits_step encodes filled good stepped) filled start
    (each_true s moves)

/-- What is wanted: whatever the bot passes to `ld_init_context`, all that is sent fits. -/
def PayloadsFit (ex : Externals) : Prop :=
  ∀ s moves, Booted ex s → Always (step ex) (Transmits ex) s moves

-- A name of as many bytes as the buffer of a session has.
def longDevice : Text := List.replicate sessionSize 97

def System.longNamed : System :=
  .start { (System.ofBot helloExternals 16 99).ctx with device := some longDevice } 99

theorem booted_longNamed : Booted helloExternals .longNamed :=
  ⟨⟨true, true, true, 99⟩, some ⟨some (ascii "token"), true, 16, none, some longDevice, none, none⟩, _,
    rfl, rfl⟩

-- A connection is started, and HELLO comes on it.
def connectThenHello : List Move :=
  [.connect (.answering webAnswer.encode noUser) true,
    .callback 1 (.clientReceive ⟨(helloMessage 41250).encode, true, true⟩) (.calm 100)]

/-- The first HELLO puts an IDENTIFY into the ring that the buffer cannot hold. -/
theorem long_device_overflows : ¬PayloadsFit helloExternals := by
  intro fit
  obtain ⟨_, events, ⟨_, _, _, _, _, rfl⟩, entered⟩ :=
    enterConnect_answering System.longNamed .connect (show helloExternals.loads _ = _ from rfl)
  obtain ⟨connected, stepped, away, token, device, fresh, between, room⟩ : ∃ connected,
      step helloExternals .longNamed (.connect (.answering webAnswer.encode noUser) true) = some connected ∧
      connected.control ≠ .bot ∧ connected.ctx.botToken = some (ascii "token") ∧
      connected.ctx.device = some longDevice ∧ connected.ctx.gatewaySessionId = none ∧
      connected.ctx.gatewayRxBuffer = none ∧
      connected.ctx.gatewayRing.items.length < connected.ctx.gatewayRing.capacity :=
    ⟨_, entered, by simp, rfl, rfl, rfl, rfl, show 0 < 15 by decide⟩
  have accepted : helloExternals.checkUtf8 longDevice = true := by
    apply List.all_eq_true.mpr
    intro byte member
    rw [List.eq_of_mem_replicate member]
    rfl
  have loaded : helloExternals.loadb (helloMessage 41250).encode = some (helloMessage 41250) := rfl
  obtain ⟨next, received, queued, member, longer⟩ := hello_queued (w := .calm 100) (fun _ _ => rfl) away
    loaded (gatewayMessage_isPayload _ _ _ _) fresh between token device accepted room
  have always := fit .longNamed connectThenHello booted_longNamed
  have transmits := ((always.2 connected stepped).2 next received).first
  have small := transmits.waiting queued member
  rw [longDevice, List.length_replicate] at longer
  unfold FitsSession at small
  omega

-- A HELLO is answered, and the answer is sent.
def helloThenWriteable : List Move :=
  Move.serving 100 1 [] ++ Move.serving 101 1
    [.clientEstablished, .clientReceive ⟨(helloMessage 41250).encode, true, true⟩, .clientWriteable]

theorem transmits_iff_short :
    Always (step helloExternals) (Transmits helloExternals) (.ofBot helloExternals 16 99) helloThenWriteable ∧
    (run (step helloExternals) (.ofBot helloExternals 16 99) helloThenWriteable).map (fun s =>
      (writtenTexts s.history).length) = some 1 :=
  ⟨(transmits_iff helloThenWriteable (fun _ _ => rfl) (booted_ofBot _ 16 99)).mpr (by decide +kernel),
    by decide +kernel⟩

end

end Libdiscord
