import Libdiscord.Gateway.Steps

/-! What becomes of the payloads that are queued. -/

set_option autoImplicit false

namespace Libdiscord

open Libdiscord.Base
open Json (member?)

inductive RingMove where
  | heartbeat
  | payload (w : World) (text : Text)
  | writeable (wsi : Wsi) (w : World)

structure Sending where
  ctx : Context
  accepted : List Text
  written : List Text
  -- whether an operation that left the ring as it was has reported success
  silent : Bool

-- Nothing was queued or written yet.
def Sending.start (ctx : Context) : Sending := ⟨ctx, [], [], false⟩

def Sending.waiting (s : Sending) : List Text := s.ctx.gatewayRing.items.map (·.payload)

def Sending.queueing (s : Sending) (text : Option Text) (out : Outcome) : Sending where
  ctx := out.ctx
  accepted := s.accepted ++ if out.ret = .ok then text.toList else []
  written := s.written
  silent := s.silent || (text.isSome && out.ret = .ok && out.ctx.gatewayRing.items = s.ctx.gatewayRing.items)

def Event.writtenText? : Event → Option Text
  | .written _ text => some text
  | _ => none

def writtenTexts (events : List Event) : List Text := events.filterMap Event.writtenText?

def heartbeatText (ex : Externals) (ctx : Context) : Text :=
  ex.dumps (Json.createPayload (.integer 1) (some (.integer ctx.lastSeq.toInt64)) none none)

def helloText (ex : Externals) (w : World) (ctx : Context) : Option Text :=
  (Json.unpackIdentify ex w.beyondRoles (helloIdentify w ctx).1).map fun d =>
    ex.dumps (Json.createPayload (.integer 2) (some d) none none)

/-- The text the parser has to queue: only a payload that it takes for a HELLO brings one. -/
def handshakeText (ex : Externals) (w : World) (ctx : Context) (text : Text) : Option Text :=
  (ex.loadb text).bind fun payload =>
    if Known payload.members ∧ selectedOpcode payload.members = .hello then helloText ex w ctx else none

/-- One operation; what `lws_write` does not take of a text is not written. -/
def sendStep (ex : Externals) (s : Sending) : RingMove → Option Sending
  | .heartbeat => some (s.queueing (some (heartbeatText ex s.ctx)) (queueHeartbeat ex s.ctx))
  | .payload w text =>
    (gatewayPayloadParser ex w s.ctx text).map (s.queueing (handshakeText ex w s.ctx text))
  | .writeable wsi w =>
    let out := clientWriteable ex w s.ctx wsi
    some { s with
      ctx := out.ctx
      written := s.written ++ (writtenTexts out.events).map (·.take w.writeResult.toInt.toNat) }

/-- The texts written, followed by those in the ring, are those whose queueing was reported a success;
and what was not put into the ring was reported. -/
def Lossless (s : Sending) : Prop := s.written ++ s.waiting = s.accepted ∧ s.silent = false

def WritesWhole (s : Sending) (m : RingMove) (_ : Sending) : Prop :=
  match m with
  | .writeable _ w => ∀ text ∈ s.waiting.head?, (text.length : Int) ≤ w.writeResult.toInt
  | _ => True

def HelloFits (ex : Externals) (s : Sending) (m : RingMove) (_ : Sending) : Prop :=
  match m with
  | .payload w text => (handshakeText ex w s.ctx text).isSome = true →
      s.ctx.gatewayRing.items.length < s.ctx.gatewayRing.capacity
  | _ => True

instance (s next : Sending) (m : RingMove) : Decidable (WritesWhole s m next) := by
  unfold WritesWhole
  split <;> infer_instance

instance (ex : Externals) (s next : Sending) (m : RingMove) : Decidable (HelloFits ex s m next) := by
  unfold HelloFits
  split <;> infer_instance

def Sendable (s : Sending) : Prop := ∀ text ∈ s.waiting, text ≠ []

section
variable {ex : Externals} {s next : Sending} {m : RingMove} {w : World} {ctx : Context} {out : Outcome}

theorem writtenTexts_append (events more : List Event) :
    writtenTexts (events ++ more) = writtenTexts events ++ writtenTexts more := List.filterMap_append

theorem writtenTexts_apart {events : List Event} (only : Only Event.Apart events) :
    writtenTexts events = [] := by
  apply only.filterMap
  intro e kind
  cases e <;> first | rfl | cases kind

theorem helloIdentify_congr (w : World) (ctx : Context) (interval : UInt32) (seq : Int32) :
    (helloIdentify w { ctx with heartbeatInterval := interval, lastSeq := seq }).1 =
      (helloIdentify w ctx).1 := by
  unfold helloIdentify
  cases ctx.gatewaySessionId <;> rfl

theorem gatewayHello_answered {d : Option Json} {seq : Int32}
    (ran : gatewayHello ex w { ctx with lastSeq := seq } d = some out) :
    match helloText ex w ctx with
    | some text => out.ret = .ok ∧
        out.ctx.gatewayRing = (ctx.gatewayRing.insert ⟨text, text.length⟩).1 ∧ out.ctx.lastHb = w.now
    | none => out.ret = 1 ∧ out.ctx.gatewayRing = ctx.gatewayRing ∧ out.ctx.lastHb = ctx.lastHb := by
  unfold helloText
  rw [← helloIdentify_congr w ctx (helloInterval d) seq]
  rcases gatewayHello_cases ran with ⟨refused, rfl⟩ | ⟨data, text, encoded, rfl, rfl⟩
  · rw [refused]
    exact ⟨rfl, rfl, rfl⟩
  · rw [encoded]
    exact ⟨rfl, rfl, rfl⟩

theorem gatewayPayloadParser_answered {text : Text} (parsed : gatewayPayloadParser ex w ctx text = some out) :
    match handshakeText ex w ctx text with
    | some text => out.ret = .ok ∧
        out.ctx.gatewayRing = (ctx.gatewayRing.insert ⟨text, text.length⟩).1 ∧ out.ctx.lastHb = w.now
    | none => out.ctx.gatewayRing = ctx.gatewayRing ∧ out.ctx.lastHb = ctx.lastHb := by
  unfold handshakeText
  cases gatewayPayloadParser_some parsed with
  | malformed failed => simp [failed]
  | unknownKey payload seq loaded unknown => simp [loaded, unknown]
  | known payload _ loaded known handled =>
    simp only [loaded, Option.bind_some, known, true_and]
    by_cases hello : selectedOpcode payload.members = .hello
    · rw [gatewayPayloadParser_known loaded known] at parsed
      simp only [hello] at parsed
      have answered := gatewayHello_answered parsed
      rw [if_pos hello]
      cases text : helloText ex w ctx with
      | some text => simpa [text] using answered
      | none =>
        simp only [text] at answered
        exact answered.2
    · rw [if_neg hello]
      cases handled with
      | helloRefused _ _ same => exact absurd same hello
      | helloFull _ _ same => exact absurd same hello
      | helloQueued _ _ _ _ same => exact absurd same hello
      | _ => exact ⟨rfl, rfl⟩

theorem lossless_unqueued {text : Option Text} (lossless : Lossless s)
    (failed : text = none ∨ out.ret ≠ .ok) (same : out.ctx.gatewayRing = s.ctx.gatewayRing) :
    Lossless (s.queueing text out) := by
  obtain ⟨conserved, silent⟩ := lossless
  have nothing : (if out.ret = .ok then text.toList else []) = [] := by
    rcases failed with rfl | failed
    · simp
    · rw [if_neg failed]
  constructor
  · simpa only [Sending.queueing, Sending.waiting, same, nothing, List.append_nil] using conserved
  · rcases failed with rfl | failed <;> simp [Sending.queueing, *]

theorem lossless_queued {text : Text} (lossless : Lossless s) (ok : out.ret = .ok)
    (items : out.ctx.gatewayRing.items = s.ctx.gatewayRing.items ++ [⟨text, text.length⟩]) :
    Lossless (s.queueing (some text) out) := by
  obtain ⟨conserved, silent⟩ := lossless
  constructor
  · simp only [Sending.queueing, Sending.waiting, items, ok, if_true, List.map_append, ← List.append_assoc]
    rw [show s.written ++ s.ctx.gatewayRing.items.map (·.payload) = s.accepted from conserved]
    rfl
  · simp [Sending.queueing, silent, items]

theorem lossless_dropped {text : Text} (ok : out.ret = .ok)
    (same : out.ctx.gatewayRing = s.ctx.gatewayRing) : ¬Lossless (s.queueing (some text) out) := by
  intro lossless
  have silent := lossless.2
  simp [Sending.queueing, ok, same] at silent

theorem clientWriteable_lossless {wsi : Wsi} (sendable : Sendable s) (lossless : Lossless s)
    (whole : ∀ text ∈ s.waiting.head?, (text.length : Int) ≤ w.writeResult.toInt)
    (stepped : sendStep ex s (.writeable wsi w) = some next) : Lossless next := by
  cases stepped
  obtain ⟨conserved, silent⟩ := lossless
  refine ⟨?_, silent⟩
  have called : Called ex w s.ctx wsi .clientWriteable (clientWriteable ex w s.ctx wsi) :=
    clientWriteable_called
  generalize clientWriteable ex w s.ctx wsi = out at called
  cases called with
  | neutral _ neutral => cases neutral
  | drained => simpa [writtenTexts] using conserved
  | consumed payload ring ret events taken items apart =>
    have first : payload.payload ∈ s.waiting.head? := by simp [Sending.waiting, items]
    have some_byte : payload.payload.length ≠ 0 := by
      simpa using sendable payload.payload (List.mem_of_mem_head? first)
    have taken_whole : payload.payload.take w.writeResult.toInt.toNat = payload.payload := by
      have fits := whole payload.payload first
      exact List.take_of_length_le (by omega)
    have texts : writtenTexts (.dequeued payload.payload :: events ++
        if payload.payload.length = 0 then [] else [.written wsi payload.payload]) = [payload.payload] := by
      rw [if_neg some_byte, writtenTexts_append]
      have before : writtenTexts (.dequeued payload.payload :: events) = writtenTexts events := rfl
      rw [before, writtenTexts_apart apart]
      rfl
    rw [Sending.waiting, items] at conserved
    simp only [texts, List.map_cons, List.map_nil, taken_whole, Sending.waiting]
    simpa using conserved

theorem Sendable.fewer (sendable : Sendable s) (fewer : next.waiting ⊆ s.waiting) : Sendable next :=
  fun text member => sendable text (fewer member)

theorem Sendable.push {text : Text} {len : Nat} (sendable : Sendable s) (nonempty : text ≠ [])
    (items : next.ctx.gatewayRing.items = s.ctx.gatewayRing.items ++ [⟨text, len⟩]) : Sendable next := by
  intro other member
  rw [Sending.waiting, items, List.map_append, List.mem_append] at member
  rcases member with member | member
  · exact sendable other member
  · rw [List.mem_singleton.mp member]
    exact nonempty

theorem handshakeText_encoded {text sent : Text} (handshake : handshakeText ex w ctx text = some sent) :
    ∃ members, sent = ex.dumps (.object members) := by
  unfold handshakeText helloText at handshake
  obtain ⟨payload, _, chosen⟩ := Option.bind_eq_some_iff.mp handshake
  split at chosen
  · obtain ⟨d, _, rfl⟩ := Option.map_eq_some_iff.mp chosen
    exact ⟨_, rfl⟩
  · cases chosen

theorem sendable_step (encodes : ∀ members, ex.dumps (.object members) ≠ []) (sendable : Sendable s)
    (stepped : sendStep ex s m = some next) : Sendable next := by
  cases m with
  | heartbeat =>
    cases stepped
    rcases queueHeartbeat_cases ex s.ctx with ⟨ring, text, appended, rfl, result⟩ | ⟨_, result⟩
    · rw [result]
      exact sendable.push (encodes _) appended.1
    · rw [result]
      exact sendable.fewer fun _ member => member
  | payload w text =>
    obtain ⟨out, parsed, rfl⟩ := Option.map_eq_some_iff.mp stepped
    have answered := gatewayPayloadParser_answered parsed
    cases handshake : handshakeText ex w s.ctx text with
    | none =>
      rw [handshake] at answered
      refine sendable.fewer fun text member => ?_
      rwa [Sending.waiting, Sending.queueing, answered.1] at member
    | some sent =>
      rw [handshake] at answered
      obtain ⟨_, ring, _⟩ := answered
      obtain ⟨members, rfl⟩ := handshakeText_encoded handshake
      rcases s.ctx.gatewayRing.insert_cases ⟨ex.dumps (.object members), _⟩ with
        ⟨_, items, _⟩ | ⟨refused, _⟩
      · exact sendable.push (encodes members) ((congrArg BoundedQueue.items ring).trans items)
      · refine sendable.fewer fun text member => ?_
        rwa [Sending.waiting, Sending.queueing, ring, refused] at member
  | writeable wsi w =>
    cases stepped
    have called : Called ex w s.ctx wsi .clientWriteable (clientWriteable ex w s.ctx wsi) :=
      clientWriteable_called
    refine sendable.fewer fun text member => ?_
    generalize clientWriteable ex w s.ctx wsi = out at called member
    cases called with
    | neutral _ neutral => cases neutral
    | drained => exact member
    | consumed payload ring _ _ _ items =>
      rw [Sending.waiting, items, List.map_cons]
      exact List.mem_cons_of_mem _ member

theorem lossless_step (sendable : Sendable s) (lossless : Lossless s) (whole : WritesWhole s m next)
    (stepped : sendStep ex s m = some next) : Lossless next ↔ HelloFits ex s m next := by
  cases m with
  | heartbeat =>
    cases stepped
    apply iff_of_true _ trivial
    rcases queueHeartbeat_cases ex s.ctx with ⟨ring, text, appended, rfl, result⟩ | ⟨_, result⟩
    · rw [result]
      exact lossless_queued lossless rfl appended.1
    · rw [result]
      have failed : Status.websocketCantfitPayloadErr ≠ .ok := by decide
      exact lossless_unqueued lossless (.inr failed) rfl
  | payload w text =>
    obtain ⟨out, parsed, rfl⟩ := Option.map_eq_some_iff.mp stepped
    have answered := gatewayPayloadParser_answered parsed
    unfold HelloFits
    cases handshake : handshakeText ex w s.ctx text with
    | none =>
      rw [handshake] at answered
      exact iff_of_true (lossless_unqueued lossless (.inl rfl) answered.1) (by simp [handshake])
    | some sent =>
      rw [handshake] at answered
      obtain ⟨ok, ring, _⟩ := answered
      simp only [handshake, Option.isSome_some, forall_const]
      rcases s.ctx.gatewayRing.insert_cases ⟨sent, sent.length⟩ with ⟨_, items, room⟩ | ⟨refused, full⟩
      · exact iff_of_true (lossless_queued lossless ok (ring ▸ items)) room
      · have same : out.ctx.gatewayRing = s.ctx.gatewayRing := by rw [ring, refused]
        exact iff_of_false (lossless_dropped ok same) (by omega)
  | writeable wsi w => exact iff_of_true (clientWriteable_lossless sendable lossless whole stepped) trivial

/-- From an empty ring of any size and in any order of operations, no payload is lost, doubled or
reordered, and none is refused without an error, exactly if each HELLO finds room for its answer. -/
theorem delivered_iff {ctx : Context} (moves : List RingMove)
    (encodes : ∀ members, ex.dumps (.object members) ≠ []) (empty : ctx.gatewayRing.items = [])
    (whole : Each (sendStep ex) WritesWhole (.start ctx) moves) :
    Always (sendStep ex) Lossless (.start ctx) moves ↔
      Each (sendStep ex) (HelloFits ex) (.start ctx) moves := by
  have sendable : Sendable (.start ctx) := by simp [Sendable, Sending.waiting, Sending.start, empty]
  have lossless : Lossless (.start ctx) := by simp [Lossless, Sending.waiting, Sending.start, empty]
  exact always_iff_each (fun _ _ _ sendable _ stepped => sendable_step encodes sendable stepped)
    (fun _ _ _ sendable lossless whole stepped => lossless_step sendable lossless whole stepped)
    sendable lossless whole

/-- What is wanted: no payload is lost, whatever the order of operations. -/
def AllDelivered (ex : Externals) : Prop :=
  ∀ ctx moves final, ctx.gatewayRing.items = [] → Each (sendStep ex) WritesWhole (.start ctx) moves →
    run (sendStep ex) (.start ctx) moves = some final → Lossless final

abbrev greetingExternals : Externals := .knowing [helloMessage 41250]

-- A heartbeat, a HELLO, and a writable socket.
def heartbeatThenHello : List RingMove :=
  [.heartbeat, .payload (.calm 100) (helloMessage 41250).encode, .writeable 1 (.calm 101)]

/-- With one place in the ring, and a heartbeat in it, the answer to HELLO is lost and HELLO reports
success. -/
theorem identify_lost : ¬AllDelivered greetingExternals := by
  intro delivered
  have reached : (run (sendStep greetingExternals) (.start (System.ofBot greetingExternals 2 99).ctx)
      heartbeatThenHello).map (·.silent) = some true := by decide +kernel
  obtain ⟨final, ran, silent⟩ := Option.map_eq_some_iff.mp reached
  have lossless := delivered _ _ final rfl (by decide +kernel) ran
  rw [lossless.2] at silent
  cases silent

theorem delivered_iff_roomy :
    Always (sendStep greetingExternals) Lossless (.start (System.ofBot greetingExternals 3 99).ctx)
      heartbeatThenHello := by
  have encodes : ∀ members, greetingExternals.dumps (.object members) ≠ [] := by
    intro members
    simp [greetingExternals, Externals.knowing, Json.encode]
  exact (delivered_iff _ encodes rfl (by decide +kernel)).mpr (by decide +kernel)

end

end Libdiscord
