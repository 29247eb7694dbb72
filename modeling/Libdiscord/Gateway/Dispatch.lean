import Mathlib.Data.List.Forall2
import Mathlib.Data.List.Nodup
import Libdiscord.Gateway.Effects

/-! What the user is told of the dispatches that arrive. -/

set_option autoImplicit false

namespace Libdiscord

open Libdiscord.Base
open Json (member?)

/-- A dispatch payload as it arrives: its text decodes to known fields, the op 0 and a type that is
a string. The world is the one in which it is parsed. -/
structure DispatchPayload (ex : Externals) where
  w : World
  text : Text
  payload : Json
  type : Text
  loaded : ex.loadb text = some payload
  dispatch : IsPayload 0 payload
  typed : member? "t" payload.members = some (.string type)

def DispatchPayload.d {ex : Externals} (p : DispatchPayload ex) : Option Json :=
  member? "d" p.payload.members

-- The member `ld_dispatch_ready` takes for the session id.
def sessionMember (d : Option Json) : Option Json :=
  ((d.elim [] Json.members).find? (·.1 = "session_id")).map (·.2)

def CallbackReason.number : CallbackReason → Int
  | .ready => 1
  | .channelCreate => 4
  | .channelUpdate => 5
  | .channelDelete => 6
  | .channelPinsUpdate => 7
  | .guildCreate => 8
  | .guildUpdate => 9
  | .guildDelete => 10
  | .guildBanAdd => 11
  | .guildBanRemove => 12
  | .guildEmojisUpdate => 13
  | .guildIntegrationsUpdate => 14
  | .guildMemberAdd => 15
  | .guildMemberRemove => 16
  | .guildMemberUpdate => 17
  | .guildMembersChunk => 18
  | .guildRoleCreate => 19
  | .guildRoleUpdate => 20
  | .guildRoleDelete => 21
  | .messageCreate => 22
  | .messageUpdate => 23
  | .messageDelete => 24
  | .messageDeleteBulk => 25
  | .messageReactionAdd => 26
  | .messageReactionRemove => 27
  | .messageReactionRemoveAll => 28
  | .presenceUpdate => 29
  | .typingStart => 30
  | .userUpdate => 31
  | .voiceStateUpdate => 32
  | .voiceServerUpdate => 33
  | .webhooksUpdate => 34
  | .wsEstablished => 35
  | .wsConnectionError => 36
  | .wsGatewayInitClose => 37

structure Report where
  calls : List UserCall
  ret : Status

def Outcome.report (out : Outcome) : Report := ⟨userCalls out.events, out.ret⟩

def parseAll (ex : Externals) : Context → List (World × Text) → Option (List Report)
  | _, [] => some []
  | ctx, (w, text) :: rest => do
    let out ← gatewayPayloadParser ex w ctx text
    let reports ← parseAll ex out.ctx rest
    some (out.report :: reports)

structure Reported (w : World) (type : Text) (d : Option Json) (report : Report) : Prop where
  known : ∀ entry ∈ dispatchDict, ascii entry.name = type →
    (type = ascii "READY" → (sessionMember d).isSome = true) →
    report = ⟨[⟨entry.cbkReason, d.elim .null .json, 0⟩], w.userReturn⟩
  sessionless : type = ascii "READY" → sessionMember d = none → report.calls = [] ∧ report.ret ≠ .ok
  unknown : (∀ entry ∈ dispatchDict, ascii entry.name ≠ type) → report = ⟨[], .ok⟩

def AllReported (ex : Externals) (ctx : Context) (payloads : List (DispatchPayload ex)) : Prop :=
  ∃ reports, parseAll ex ctx (payloads.map fun p => (p.w, p.text)) = some reports ∧
    List.Forall₂ (fun p report => Reported p.w p.type p.d report) payloads reports

def DispatchPayload.Readable {ex : Externals} (p : DispatchPayload ex) : Prop :=
  p.type = ascii "READY" → ∀ value ∈ sessionMember p.d, value.stringValue.isSome = true

instance {ex : Externals} (p : DispatchPayload ex) : Decidable p.Readable :=
  inferInstanceAs (Decidable (_ → ∀ value ∈ sessionMember p.d, _))

theorem dispatchDict_names : (dispatchDict.map fun entry => ascii entry.name).Nodup := by decide +kernel

theorem dispatchDict_reasons : (dispatchDict.map fun entry => entry.cbkReason.number).Nodup := by
  decide +kernel

theorem dispatchDict_named {a b : Dispatch} (first : a ∈ dispatchDict) (second : b ∈ dispatchDict)
    (same : ascii a.name = ascii b.name) : a = b :=
  List.inj_on_of_nodup_map dispatchDict_names first second same

theorem dispatchDict_numbered {a b : Dispatch} (first : a ∈ dispatchDict) (second : b ∈ dispatchDict)
    (same : a.cbkReason.number = b.cbkReason.number) : a = b :=
  List.inj_on_of_nodup_map dispatchDict_reasons first second same

theorem dispatchDict_callback : ∀ entry ∈ dispatchDict, entry.dispatchCallback =
    if ascii entry.name = ascii "READY" then some .dispatchReady else none := by
  decide +kernel

/-- What the dispatch parser does with a type that is a string. On a session id that is none it crashes. -/
inductive Dispatched (w : World) (ctx : Context) (name : Text) (d : Option Json) : Option Outcome → Prop where
  | unknown : (∀ entry ∈ dispatchDict, ascii entry.name ≠ name) →
      Dispatched w ctx name d (some ⟨ctx, .ok, []⟩)
  | sessionless : name = ascii "READY" → sessionMember d = none →
      Dispatched w ctx name d (some ⟨ctx, .error, []⟩)
  | unreadable (value : Json) : name = ascii "READY" → sessionMember d = some value →
      value.stringValue = none → Dispatched w ctx name d none
  | ready (entry : Dispatch) (id : Text) : entry ∈ dispatchDict → ascii entry.name = name →
      name = ascii "READY" → (sessionMember d).bind Json.stringValue = some id → Dispatched w ctx name d
        (callUser w { ctx with gatewaySessionId := some id } entry.cbkReason (d.elim .null .json) 0)
  | known (entry : Dispatch) : entry ∈ dispatchDict → ascii entry.name = name → name ≠ ascii "READY" →
      Dispatched w ctx name d (callUser w ctx entry.cbkReason (d.elim .null .json) 0)

section
variable {ex : Externals} {w : World} {ctx : Context}

theorem dispatchReady_eq (d : Option Json) :
    dispatchReady ctx d = match sessionMember d with
      | none => some (ctx, .error)
      | some value => value.stringValue.map fun id => ({ ctx with gatewaySessionId := some id }, .ok) := by
  unfold dispatchReady sessionMember
  cases (d.elim [] Json.members).find? (·.1 = "session_id") <;> rfl

theorem gatewayDispatchParser_dispatched {type d : Option Json} {name : Text}
    (typed : type.bind Json.stringValue = some name) :
    Dispatched w ctx name d (gatewayDispatchParser w ctx type d) := by
  unfold gatewayDispatchParser
  simp only [typed]
  cases found : dispatchDict.find? (ascii ·.name = name) with
  | none => exact .unknown (by simpa using found)
  | some entry =>
    have member := List.mem_of_find?_eq_some found
    have named : ascii entry.name = name := by simpa using List.find?_some found
    have callback := dispatchDict_callback entry member
    rw [named] at callback
    by_cases ready : name = ascii "READY"
    · rw [if_pos ready] at callback
      simp only [callback, DispatchCallback.run, dispatchReady_eq]
      cases session : sessionMember d with
      | none => exact .sessionless ready session
      | some value =>
        cases string : value.stringValue with
        | none =>
          simp only [string, Option.map_none, Option.bind_eq_bind, Option.bind_none]
          exact .unreadable value ready session string
        | some id =>
          have stored : (sessionMember d).bind Json.stringValue = some id := by
            rw [session, Option.bind_some, string]
          simp only [string, Option.map_some, Option.bind_eq_bind, Option.bind_some, ne_eq, not_true_eq_false,
            if_false]
          exact .ready entry id member named ready stored
    · rw [if_neg ready] at callback
      simp only [callback]
      exact .known entry member named ready

theorem gatewayDispatchParser_untyped {type d : Option Json}
    (untyped : type.bind Json.stringValue = none) :
    gatewayDispatchParser w ctx type d = some ⟨ctx, .jsonGatewayDispatchTypeErr, []⟩ := by
  unfold gatewayDispatchParser
  rw [untyped]

theorem callUser_set (set : ctx.userCallback = true) (reason : CallbackReason) (data : CallbackData)
    (len : Int) :
    callUser w ctx reason data len = some ⟨ctx, w.userReturn, [.userCalled reason data len]⟩ := by
  unfold callUser
  exact if_pos set

section
variable {type : Text} {d : Option Json} {entry : Dispatch}

theorem reported_unknown (absent : ∀ entry ∈ dispatchDict, ascii entry.name ≠ type) :
    Reported w type d ⟨[], .ok⟩ := by
  constructor
  · exact fun entry member named => absurd named (absent entry member)
  · exact fun ready => absurd ready.symm (absent _ List.mem_cons_self)
  · exact fun _ => rfl

theorem reported_known (member : entry ∈ dispatchDict) (named : ascii entry.name = type)
    (session : type = ascii "READY" → (sessionMember d).isSome = true) :
    Reported w type d ⟨[⟨entry.cbkReason, d.elim .null .json, 0⟩], w.userReturn⟩ := by
  constructor
  · intro other row same _
    rw [dispatchDict_named row member (same.trans named.symm)]
  · intro ready missing
    have present := session ready
    simp [missing] at present
  · exact fun absent => absurd named (absent entry member)

theorem reported_sessionless (ready : type = ascii "READY") (missing : sessionMember d = none) :
    Reported w type d ⟨[], .error⟩ := by
  constructor
  · intro _ _ _ session
    have present := session ready
    simp [missing] at present
  · exact fun _ _ => ⟨rfl, show Status.error ≠ .ok by decide⟩
  · exact fun absent => absurd ready.symm (absent _ List.mem_cons_self)

theorem gatewayDispatchParser_reported (set : ctx.userCallback = true) (type : Text) (d : Option Json) :
    if type = ascii "READY" ∧ ∃ value ∈ sessionMember d, value.stringValue = none then
      gatewayDispatchParser w ctx (some (.string type)) d = none
    else ∃ out, gatewayDispatchParser w ctx (some (.string type)) d = some out ∧
      out.ctx.userCallback = true ∧ Reported w type d out.report := by
  have typed : (some (Json.string type)).bind Json.stringValue = some type := rfl
  have dispatched : Dispatched w ctx type d _ := gatewayDispatchParser_dispatched typed
  generalize gatewayDispatchParser w ctx (some (.string type)) d = result at dispatched
  cases dispatched with
  | unknown absent =>
    rw [if_neg fun crash => absent _ List.mem_cons_self crash.1.symm]
    exact ⟨_, rfl, set, reported_unknown absent⟩
  | sessionless ready missing =>
    rw [if_neg (by simp [missing])]
    exact ⟨_, rfl, set, reported_sessionless ready missing⟩
  | unreadable value ready session string => rw [if_pos ⟨ready, value, session, string⟩]
  | ready entry id member named ready session =>
    obtain ⟨value, present, string⟩ := Option.bind_eq_some_iff.mp session
    have set : { ctx with gatewaySessionId := some id }.userCallback = true := set
    rw [if_neg (by simp [present, string])]
    refine ⟨_, callUser_set set .., set, reported_known member named fun _ => ?_⟩
    rw [present, Option.isSome_some]
  | known entry member named other =>
    rw [if_neg fun crash => other crash.1]
    exact ⟨_, callUser_set set .., set, reported_known member named fun same => absurd same other⟩

end

theorem DispatchPayload.parsed (p : DispatchPayload ex) :
    gatewayPayloadParser ex p.w ctx p.text =
      gatewayDispatchParser p.w { ctx with lastSeq := storedSeq ctx.lastSeq p.payload.members }
        (some (.string p.type)) p.d := by
  have dispatch : selectedOpcode p.payload.members = .dispatch := selectedOpcode_of_integer p.dispatch.2
  rw [gatewayPayloadParser_known p.loaded p.dispatch.1]
  simp only [dispatch, p.typed]
  rfl

theorem DispatchPayload.reported_iff (p : DispatchPayload ex) (set : ctx.userCallback = true) :
    if p.Readable then ∃ out, gatewayPayloadParser ex p.w ctx p.text = some out ∧
      out.ctx.userCallback = true ∧ Reported p.w p.type p.d out.report
    else gatewayPayloadParser ex p.w ctx p.text = none := by
  rw [p.parsed]
  have set : { ctx with lastSeq := storedSeq ctx.lastSeq p.payload.members }.userCallback = true := set
  have parser := gatewayDispatchParser_reported (w := p.w) set p.type p.d
  by_cases readable : p.Readable
  · rw [if_pos readable]
    rwa [if_neg] at parser
    rintro ⟨ready, value, session, none⟩
    have string := readable ready value session
    simp [none] at string
  · rw [if_neg readable]
    rwa [if_pos] at parser
    simpa [Readable] using readable

/-- Every sequence of dispatches is reported to the user as it is to be, in order, exactly if no READY
has a session id that is not a string; and different names have different reasons. -/
theorem all_reported_iff (payloads : List (DispatchPayload ex)) (set : ctx.userCallback = true) :
    (AllReported ex ctx payloads ↔ ∀ p ∈ payloads, p.Readable) ∧
    ∀ a ∈ dispatchDict, ∀ b ∈ dispatchDict, ascii a.name ≠ ascii b.name →
      a.cbkReason.number ≠ b.cbkReason.number := by
  refine ⟨?_, fun a first b second other same => other (dispatchDict_numbered first second same ▸ rfl)⟩
  induction payloads generalizing ctx with
  | nil => exact iff_of_true ⟨[], rfl, .nil⟩ (by simp)
  | cons p rest ih =>
    have one := p.reported_iff set
    rw [List.forall_mem_cons]
    by_cases readable : p.Readable
    · rw [if_pos readable] at one
      obtain ⟨out, parsed, set, reported⟩ := one
      rw [← ih set, and_iff_right readable]
      constructor
      · rintro ⟨reports, ran, all⟩
        cases all with
        | cons _ tail =>
          simp only [List.map_cons, parseAll, parsed, Option.bind_eq_bind, Option.bind_some,
            Option.bind_eq_some_iff, Option.some.injEq, List.cons.injEq] at ran
          obtain ⟨_, ran, _, rfl⟩ := ran
          exact ⟨_, ran, tail⟩
      · rintro ⟨reports, ran, all⟩
        refine ⟨out.report :: reports, ?_, .cons reported all⟩
        simp [parseAll, parsed, ran]
    · rw [if_neg readable] at one
      refine iff_of_false ?_ fun all => readable all.1
      rintro ⟨reports, ran, _⟩
      simp [parseAll, one] at ran

end

/-- What is wanted: with a user callback set, every sequence of dispatches is reported. -/
def DispatchesReported (ex : Externals) : Prop :=
  ∀ ctx (payloads : List (DispatchPayload ex)), ctx.userCallback = true → AllReported ex ctx payloads

-- A READY with this session id, parsed at second 100 by a library that knows its text.
def DispatchPayload.ready (session : Json) : DispatchPayload (.knowing
    [gatewayMessage 0 (.string (ascii "READY")) (.integer 1) (.object [("session_id", session)])]) :=
  ⟨.calm 100, _, _, ascii "READY", knowing_first _ _, gatewayMessage_isPayload _ _ _ _, rfl⟩

/-- A READY with a number for a session id is not reported: the parser crashes. -/
theorem ready_unreported :
    ¬DispatchesReported (.knowing [gatewayMessage 0 (.string (ascii "READY")) (.integer 1)
      (.object [("session_id", .integer 5)])]) := by
  intro wanted
  have set : (System.ofBot (.knowing []) 16 99).ctx.userCallback = true := rfl
  obtain ⟨reports, ran, _⟩ := wanted _ [.ready (.integer 5)] set
  have one := (DispatchPayload.ready (.integer 5)).reported_iff set
  rw [if_neg (by decide +kernel)] at one
  simp [parseAll, one] at ran

theorem all_reported_iff_strings :
    AllReported _ (System.ofBot (.knowing []) 16 99).ctx
      [.ready (.string (ascii "abc")), .ready (.string (ascii "abc"))] :=
  (all_reported_iff _ rfl).1.mpr (by decide +kernel)

end Libdiscord
