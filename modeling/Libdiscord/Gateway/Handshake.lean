import Libdiscord.Gateway.Effects
import Libdiscord.Gateway.Steps

/-! The answer to HELLO: resume the session or identify. -/

set_option autoImplicit false

namespace Libdiscord

open Libdiscord.Base
open Json (member? member?_set ofText)

def Event.queuedPayload? : Event → Option (Queued × Text)
  | .queued kind text => some (kind, text)
  | _ => none

def queuedPayloads (events : List Event) : List (Queued × Text) := events.filterMap Event.queuedPayload?

structure IsResume (ex : Externals) (ctx : Context) (id : Text) (payload : Json) : Prop where
  op : member? "op" payload.members = some (.integer 6)
  d : ∃ d, member? "d" payload.members = some d ∧
    member? "token" d.members = ofText ex ctx.botToken ∧
    member? "session_id" d.members = ofText ex (some id) ∧
    member? "seq" d.members = some (.integer ctx.lastSeq.toInt64)

/-- An IDENTIFY that says what the context holds; the presence is encoded with the memory `beyond`
its roles. -/
structure IsIdentify (ex : Externals) (beyond : Nat → UInt64) (ctx : Context) (payload : Json) : Prop where
  op : member? "op" payload.members = some (.integer 2)
  d : ∃ d, member? "d" payload.members = some d ∧
    member? "token" d.members = ofText ex ctx.botToken ∧
    (∃ properties, member? "properties" d.members = some properties ∧
      member? "$os" properties.members = ofText ex (some (ctx.os.getD (ascii "unknown"))) ∧
      member? "$browser" properties.members = ofText ex (some (ctx.browser.getD Json.libname)) ∧
      member? "$device" properties.members = ofText ex (some (ctx.device.getD Json.libname))) ∧
    member? "compress" d.members = some (.boolean false) ∧
    member? "large_threshold" d.members = some (.integer 250) ∧
    member? "shard" d.members = some (.array [.integer 0, .integer ctx.shards.toInt64]) ∧
    member? "presence" d.members = ctx.initPresence.map (Json.unpackStatusUpdate ex beyond)

def helloPayload (ex : Externals) (w : World) (ctx : Context) : Option Json :=
  (Json.unpackIdentify ex w.beyondRoles (helloIdentify w ctx).1).map fun d =>
    Json.createPayload (.integer 2) (some d) none none

/-- What a HELLO is to do: one payload goes into the ring, the one the session calls for, and the
struct it is encoded from was assigned. -/
structure Answers (ex : Externals) (w : World) (ctx : Context) (out : Outcome) : Prop where
  queued : ∃ payload, queuedPayloads out.events = [(.handshake, ex.dumps payload)] ∧
    out.ctx.gatewayRing.items =
      ctx.gatewayRing.items ++ [⟨ex.dumps payload, (ex.dumps payload).length⟩] ∧
    match ctx.gatewaySessionId with
    | some id => IsResume ex ctx id payload
    | none => IsIdentify ex w.beyondRoles ctx payload
  assigned : .unassigned .identify ∉ out.events

section
variable {ex : Externals} {w : World} {ctx : Context}

theorem gatewayPayloadParser_hello {text : Text} {payload : Json} (loaded : ex.loadb text = some payload)
    (hello : IsPayload 10 payload) :
    gatewayPayloadParser ex w ctx text =
      gatewayHello ex w { ctx with lastSeq := storedSeq ctx.lastSeq payload.members }
        (member? "d" payload.members) := by
  obtain ⟨known, op⟩ := hello
  have code : selectedOpcode payload.members = .hello := selectedOpcode_of_integer op
  unfold gatewayPayloadParser
  simp only [loaded, scanMembers_known _ _ known, gatewayOpcode]
  unfold selectedOpcode at code
  simp only [code, Option.or_none]

theorem createPayload_members (op d : Json) :
    member? "op" (Json.createPayload op (some d) none none).members = some op ∧
    member? "d" (Json.createPayload op (some d) none none).members = some d := by
  constructor <;> simp [Json.createPayload, Json.members, member?_set]

theorem setIdentify_isIdentify (ex : Externals) (beyond : Nat → UInt64) (ctx : Context) {token : Text}
    (set : ctx.botToken = some token) :
    ∃ d, Json.unpackIdentify ex beyond (setIdentify ctx) = some d ∧
      IsIdentify ex beyond ctx (Json.createPayload (.integer 2) (some d) none none) := by
  unfold Json.unpackIdentify
  simp only [setIdentify, set]
  refine ⟨_, rfl, (createPayload_members _ _).1, _, (createPayload_members _ _).2, ?_,
    ⟨Json.unpackIdentifyConnectionProperties ex ⟨ctx.os, ctx.browser, ctx.device⟩, ?_, ?_, ?_, ?_⟩,
    ?_, ?_, ?_, ?_⟩
  case refine_3 | refine_4 | refine_5 =>
    simp [Json.unpackIdentifyConnectionProperties, Json.members, member?_set]
  all_goals cases ctx.initPresence <;> simp [Json.members, member?_set, set]

theorem gatewayHello_resuming {d : Option Json} {out : Outcome} {id : Text}
    (ran : gatewayHello ex w ctx d = some out) (stored : ctx.gatewaySessionId = some id) :
    .unassigned .identify ∈ out.events := by
  have read : .unassigned .identify ∈ (helloIdentify w { ctx with heartbeatInterval := helloInterval d }).2 := by
    unfold helloIdentify
    simp [stored]
  rcases gatewayHello_cases ran with ⟨_, rfl⟩ | ⟨_, _, _, _, rfl⟩
  · exact read
  · exact List.mem_append_left _ read

theorem helloIdentify_fresh (w : World) {ctx : Context} (fresh : ctx.gatewaySessionId = none) :
    helloIdentify w ctx = (setIdentify ctx, []) := by
  unfold helloIdentify
  rw [fresh]

theorem gatewayHello_tokenless {d : Option Json} {out : Outcome} (ran : gatewayHello ex w ctx d = some out)
    (fresh : ctx.gatewaySessionId = none) (missing : ctx.botToken = none) : out.events = [] := by
  let timed := { ctx with heartbeatInterval := helloInterval d }
  have chosen : helloIdentify w timed = (setIdentify timed, []) := helloIdentify_fresh w fresh
  rcases gatewayHello_cases ran with ⟨_, rfl⟩ | ⟨_, _, encoded, _⟩
  · exact congrArg Prod.snd chosen
  · have nothing : Json.unpackIdentify ex w.beyondRoles (setIdentify timed) = none := by
      simp only [Json.unpackIdentify, setIdentify, timed, missing]
    rw [chosen, nothing] at encoded
    cases encoded

theorem gatewayHello_encoding {d : Option Json} {out : Outcome} {token : Text}
    (ran : gatewayHello ex w ctx d = some out) (fresh : ctx.gatewaySessionId = none)
    (set : ctx.botToken = some token) (room : ctx.gatewayRing.items.length < ctx.gatewayRing.capacity) :
    ∃ payload, helloPayload ex w ctx = some payload ∧ IsIdentify ex w.beyondRoles ctx payload ∧
      out.events = [.queued .handshake (ex.dumps payload)] ∧
      out.ctx.gatewayRing.items =
        ctx.gatewayRing.items ++ [⟨ex.dumps payload, (ex.dumps payload).length⟩] := by
  let timed := { ctx with heartbeatInterval := helloInterval d }
  obtain ⟨data, encoded, identifies⟩ := setIdentify_isIdentify ex w.beyondRoles timed set
  have chosen : helloIdentify w timed = (setIdentify timed, []) := helloIdentify_fresh w fresh
  have sent : helloPayload ex w ctx = some (Json.createPayload (.integer 2) (some data) none none) := by
    rw [helloPayload, helloIdentify_fresh w fresh]
    exact congrArg (Option.map _) encoded
  rcases gatewayHello_cases ran with ⟨refused, _⟩ | ⟨_, text, same, rfl, rfl⟩
  · rw [chosen, encoded] at refused
    cases refused
  · rw [chosen, encoded, Option.some.injEq] at same
    subst same
    obtain ⟨items, count⟩ := ctx.gatewayRing.insert_of_room ⟨_, _⟩ room
    rw [chosen, if_pos count]
    exact ⟨_, sent, ⟨identifies.op, identifies.d⟩, rfl, items⟩

theorem gatewayHello_identifying {d : Option Json} {out : Outcome} {token : Text}
    (ran : gatewayHello ex w ctx d = some out) (fresh : ctx.gatewaySessionId = none)
    (set : ctx.botToken = some token) (room : ctx.gatewayRing.items.length < ctx.gatewayRing.capacity) :
    Answers ex w ctx out := by
  obtain ⟨payload, _, identifies, events, items⟩ := gatewayHello_encoding ran fresh set room
  refine ⟨⟨payload, by rw [events]; rfl, items, ?_⟩, by simp [events]⟩
  rw [fresh]
  exact identifies

/-- A HELLO is answered as the session calls for exactly if there is no session, and a token. -/
theorem hello_answers_iff {text : Text} {payload : Json} (loaded : ex.loadb text = some payload)
    (hello : IsPayload 10 payload) (room : ctx.gatewayRing.items.length < ctx.gatewayRing.capacity) :
    ∃ out, gatewayPayloadParser ex w ctx text = some out ∧
      (Answers ex w ctx out ↔ ctx.gatewaySessionId = none ∧ ctx.botToken ≠ none) := by
  rw [gatewayPayloadParser_hello loaded hello]
  obtain ⟨out, ran⟩ := gatewayHello_total ex w
    { ctx with lastSeq := storedSeq ctx.lastSeq payload.members } (member? "d" payload.members)
  refine ⟨out, ran, ?_⟩
  cases session : ctx.gatewaySessionId with
  | some id =>
    have unassigned := gatewayHello_resuming ran session
    exact iff_of_false (fun answers => answers.assigned unassigned) nofun
  | none =>
    cases token : ctx.botToken with
    | none =>
      have silent := gatewayHello_tokenless ran session token
      refine iff_of_false (fun answers => ?_) (fun ⟨_, given⟩ => given rfl)
      obtain ⟨_, queued, _⟩ := answers.queued
      simp [queuedPayloads, silent] at queued
    | some token' =>
      obtain ⟨⟨sent, queued, items, shape⟩, assigned⟩ := gatewayHello_identifying ran session token room
      rw [session] at shape
      refine iff_of_true ⟨⟨sent, queued, items, ?_⟩, assigned⟩ ⟨rfl, by simp⟩
      rw [session]
      exact ⟨shape.op, shape.d⟩

end

/-- What is wanted: in every state a run reaches, a HELLO is answered as the session calls for. -/
def HelloAnswered (ex : Externals) : Prop :=
  ∀ s moves final, Booted ex s → run (step ex) s moves = some final →
    ∀ w text payload, ex.loadb text = some payload → IsPayload 10 payload →
      final.ctx.gatewayRing.items.length < final.ctx.gatewayRing.capacity →
      ∃ out, gatewayPayloadParser ex w final.ctx text = some out ∧ Answers ex w final.ctx out

abbrev sessionExternals : Externals := .knowing [helloMessage 41250, readyMessage 1 (ascii "abc"), webAnswer]

-- HELLO and READY come, and then the connection is lost and the next one begins.
def sessionThenLoss : List Move :=
  Move.serving 100 1 [] ++
  Move.serving 101 1 [.clientEstablished, .clientReceive ⟨(helloMessage 41250).encode, true, true⟩,
    .clientReceive ⟨(readyMessage 1 (ascii "abc")).encode, true, true⟩, .clientClosed, .wsiDestroy] ++
  Move.serving 102 2 [.clientEstablished]

/-- A session that READY has left is not resumed. -/
theorem session_not_resumed : ¬HelloAnswered sessionExternals := by
  intro answered
  have reached : (run (step sessionExternals) (.ofBot sessionExternals 16 99) sessionThenLoss).map (fun s =>
      (s.ctx.gatewaySessionId, s.ctx.gatewayRing.items.length, s.ctx.gatewayRing.capacity)) =
      some (some (ascii "abc"), 1, 15) := by decide +kernel
  obtain ⟨final, ran, here⟩ := Option.map_eq_some_iff.mp reached
  obtain ⟨session, waiting, capacity⟩ : final.ctx.gatewaySessionId = some (ascii "abc") ∧
      final.ctx.gatewayRing.items.length = 1 ∧ final.ctx.gatewayRing.capacity = 15 := by simpa using here
  have hello : IsPayload 10 (helloMessage 41250) := gatewayMessage_isPayload _ _ _ _
  have loaded := knowing_first (helloMessage 41250) [readyMessage 1 (ascii "abc"), webAnswer]
  obtain ⟨out, parsed, answers⟩ := answered _ _ final (booted_ofBot _ 16 99) ran (.calm 103) _ _ loaded hello
    (by rw [waiting, capacity]; decide)
  rw [gatewayPayloadParser_hello loaded hello] at parsed
  exact answers.assigned (gatewayHello_resuming parsed session)

theorem hello_answers_iff_fresh :
    ∃ out, gatewayPayloadParser sessionExternals (.calm 100) (System.ofBot sessionExternals 16 99).ctx
        (helloMessage 41250).encode = some out ∧
      Answers sessionExternals (.calm 100) (System.ofBot sessionExternals 16 99).ctx out := by
  obtain ⟨out, parsed, answers⟩ := hello_answers_iff (knowing_first _ _) (gatewayMessage_isPayload _ _ _ _)
    (show (System.ofBot sessionExternals 16 99).ctx.gatewayRing.items.length < 15 by decide)
  exact ⟨out, parsed, answers.mpr ⟨rfl, nofun⟩⟩

end Libdiscord
