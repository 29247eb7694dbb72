import Libdiscord.Gateway.Dispatch
import Libdiscord.Gateway.Sequence

/-! The session that READY begins and INVALIDATE_SESSION ends. -/

set_option autoImplicit false

namespace Libdiscord

open Libdiscord.Base
open Json (member?)

def readySession (members : List (String × Json)) : Option Text :=
  if integerMember "op" members = some 0 ∧
      (member? "t" members).bind Json.stringValue = some (ascii "READY") then
    (sessionMember (member? "d" members)).bind Json.stringValue
  else none

/-- The session after a payload: none after INVALIDATE_SESSION, the one of an accepted READY, or
else the one before it. -/
def nextSession (session : Option Text) (members : List (String × Json)) : Option Text :=
  if integerMember "op" members = some 9 then none else (readySession members).or session

def observeSession (ex : Externals) (session : Option Text) : Event → Option Text
  | .parsed text => match ex.loadb text with
    | some payload => if Known payload.members then nextSession session payload.members else session
    | none => session
  | _ => session

def sessionMonitor (ex : Externals) : Monitor Event (Option Text) := ⟨none, observeSession ex⟩

def SessionKept (ex : Externals) (s : System) : Prop :=
  s.ctx.gatewaySessionId = (sessionMonitor ex).after s.history

/-- The session id the parser stores. The type of a dispatch without one is what its variable is left
with. -/
def storedSession (w : World) (members : List (String × Json)) : Option Text :=
  if selectedOpcode members = .dispatch ∧
      ((member? "t" members).or w.staleType).bind Json.stringValue = some (ascii "READY") then
    (sessionMember (member? "d" members)).bind Json.stringValue
  else none

/-- What the parser takes as the end of a session that is stored is one, and what it takes as a READY
is one or brings the session that is stored. -/
def SessionSafe (w : World) (session : Option Text) (members : List (String × Json)) : Prop :=
  Known members →
    (selectedOpcode members = .invalidateSession → integerMember "op" members = some 9 ∨ session = none) ∧
    ∀ id ∈ storedSession w members, readySession members = some id ∨ session = some id

def Move.world? : Move → Option World
  | .callback _ _ w => some w
  | _ => none

def SessionSafely (ex : Externals) (s : System) (m : Move) (next : System) : Prop :=
  ∀ w ∈ m.world?, ForParsed ex s next (SessionSafe w s.ctx.gatewaySessionId)

instance (w : World) (session : Option Text) (members : List (String × Json)) :
    Decidable (SessionSafe w session members) :=
  have : Decidable (∀ id ∈ storedSession w members, readySession members = some id ∨ session = some id) :=
    Option.decidableForallMem _
  inferInstanceAs (Decidable (_ → (_ → _) ∧ ∀ id ∈ storedSession w members, _))

instance (ex : Externals) (s next : System) (m : Move) : Decidable (SessionSafely ex s m next) :=
  have : Decidable (∀ w ∈ m.world?, ForParsed ex s next (SessionSafe w s.ctx.gatewaySessionId)) :=
    Option.decidableForallMem _
  this

section
variable {ex : Externals} {s next : System} {m : Move} {w : World} {ctx : Context}

theorem callUser_session {reason : CallbackReason} {data : CallbackData} {len : Int} {out : Outcome}
    (called : callUser w ctx reason data len = some out) :
    out.ctx.gatewaySessionId = ctx.gatewaySessionId := by
  obtain ⟨_, rfl⟩ := callUser_some called
  rfl

theorem gatewayDispatchParser_session {type d : Option Json} {out : Outcome}
    (parsed : gatewayDispatchParser w ctx type d = some out) :
    out.ctx.gatewaySessionId =
      (if type.bind Json.stringValue = some (ascii "READY") then (sessionMember d).bind Json.stringValue
        else none).or ctx.gatewaySessionId := by
  cases typestr : type.bind Json.stringValue with
  | none =>
    rw [gatewayDispatchParser_untyped typestr] at parsed
    cases parsed
    rfl
  | some name =>
    have dispatched : Dispatched w ctx name d _ := gatewayDispatchParser_dispatched typestr
    rw [parsed] at dispatched
    generalize same : some out = result at dispatched
    cases dispatched with
    | unknown absent =>
      cases same
      have other : name ≠ ascii "READY" := fun ready => absent _ List.mem_cons_self ready.symm
      simp [other]
    | sessionless ready missing =>
      cases same
      simp [missing]
    | unreadable => cases same
    | ready _ id _ _ ready session => simpa [ready, session] using callUser_session same.symm
    | known _ _ _ other => simpa [other] using callUser_session same.symm

theorem gatewayPayloadParser_session {text : Text} {payload : Json} {out : Outcome}
    (loaded : ex.loadb text = some payload) (known : Known payload.members)
    (parsed : gatewayPayloadParser ex w ctx text = some out) :
    out.ctx.gatewaySessionId =
      if selectedOpcode payload.members = .invalidateSession then none
      else (storedSession w payload.members).or ctx.gatewaySessionId := by
  rw [gatewayPayloadParser_known loaded known] at parsed
  unfold storedSession
  cases code : selectedOpcode payload.members
  case dispatch =>
    simp only [code] at parsed
    cases type : member? "t" payload.members with
    | some t =>
      simp only [type] at parsed
      have stored := gatewayDispatchParser_session parsed
      by_cases ready : t.stringValue = some (ascii "READY") <;> simpa [ready] using stored
    | none =>
      simp only [type, Option.map_eq_some_iff] at parsed
      obtain ⟨inner, called, rfl⟩ := parsed
      have stored := gatewayDispatchParser_session called
      by_cases ready : w.staleType.bind Json.stringValue = some (ascii "READY") <;>
        simpa [ready] using stored
  case hello =>
    simp only [code] at parsed
    cases gatewayHello_some parsed with
    | dispatch _ _ _ other => cases other
    | invalidated other => cases other
    | _ => simp
  all_goals
    simp only [code, Option.some.injEq] at parsed
    subst parsed
    simp

theorem typed_or_stale {members : List (String × Json)} {stale : Option Json} {text : Text}
    (typed : (member? "t" members).bind Json.stringValue = some text) :
    ((member? "t" members).or stale).bind Json.stringValue = some text := by
  cases type : member? "t" members with
  | none => simp [type] at typed
  | some t => simpa [type] using typed

theorem storedSession_of_ready {members : List (String × Json)} {id : Text}
    (ready : readySession members = some id) : storedSession w members = some id := by
  unfold readySession at ready
  split at ready
  · next shape =>
    obtain ⟨op, typed⟩ := shape
    rw [storedSession, if_pos ⟨selectedOpcode_of_integer op, typed_or_stale typed⟩]
    exact ready
  · cases ready

theorem sessionSafe_iff (session : Option Text) {members : List (String × Json)} (known : Known members) :
    (if selectedOpcode members = .invalidateSession then none else (storedSession w members).or session) =
      nextSession session members ↔ SessionSafe w session members := by
  unfold nextSession SessionSafe
  rw [forall_prop_of_true known]
  by_cases ends : selectedOpcode members = .invalidateSession
  · -- the parser takes the payload as the end of the session, and stores nothing
    have silent : storedSession w members = none := by simp [storedSession, ends]
    have unready : readySession members = none := by
      cases ready : readySession members with
      | none => rfl
      | some id => simp [storedSession_of_ready ready] at silent
    by_cases nine : integerMember "op" members = some 9
    · simp [ends, nine, silent]
    · simp [ends, nine, silent, unready, eq_comm]
  · have other : integerMember "op" members ≠ some 9 := fun nine => ends (selectedOpcode_of_integer nine)
    simp only [ends, other, if_false, false_implies, true_and]
    cases ready : readySession members with
    | some id => simp [storedSession_of_ready ready]
    | none =>
      cases stored : storedSession w members with
      | none => simp
      | some id => simp [eq_comm]

theorem session_ignores {e : Event} (other : e.parsedText? = none) : (sessionMonitor ex).Ignores e := by
  intro session
  cases e <;> first | rfl | cases other

inductive SessionActs (ex : Externals) (s : System) (m : Move) (next : System) : Prop where
  | still (events : List Event) : next.history = s.history ++ events → parsedTexts events = [] →
      next.ctx.gatewaySessionId = s.ctx.gatewaySessionId → SessionActs ex s m next
  | parsed (w : World) (ctx : Context) (text : Text) (before after : List Event) (out : Outcome) :
      m.world? = some w → Only Event.Uncounted before → Only Event.Uncounted after →
      ctx.gatewaySessionId = s.ctx.gatewaySessionId → gatewayPayloadParser ex w ctx text = some out →
      next.ctx.gatewaySessionId = out.ctx.gatewaySessionId →
      next.history = s.history ++ (before ++ .parsed text :: after) → SessionActs ex s m next

theorem Called.session {wsi : Wsi} {callback : Callback} {out : Outcome}
    (called : Called ex w ctx wsi callback out) (other : callback.fragment? = none) :
    out.ctx.gatewaySessionId = ctx.gatewaySessionId := by
  cases called with
  | buffered => cases other
  | parsed => cases other
  | _ => rfl

theorem step_session (stepped : step ex s m = some next) : SessionActs ex s m next := by
  cases step_acts stepped with
  | idle events _ _ history only asked =>
    obtain ⟨_, _, _, _, _, same⟩ := asked
    exact .still events history (parsedTexts_uncounted (only.mono Event.Idle.uncounted)) (by rw [same])
  | connecting events _ _ _ _ history only asked same =>
    obtain ⟨_, _, _, _, _, rfl⟩ := asked
    refine .still _ history (parsedTexts_uncounted ?_) (by rw [same])
    exact (only_append _ _).mpr ⟨only.mono Event.Idle.uncounted, by simp [Event.Uncounted]⟩
  | missed _ _ history same => exact .still _ history rfl (by rw [same])
  | queued _ _ _ events _ _ _ _ history only same =>
    exact .still _ history (parsedTexts_queued (only.mono Event.Idle.uncounted)) (by rw [same])
  | called wsi callback w out move ran history same =>
    have delivered : Event.Uncounted (.delivered wsi callback) := trivial
    cases received : callback.fragment? with
    | none =>
      refine .still _ history ?_ (by rw [same, (lwsCallback_some ran).session received])
      exact (parsedTexts_cons _ _).trans (parsedTexts_unreceived (lwsCallback_unreceived received ran).2.2)
    | some fragment =>
      cases callback <;> cases received
      obtain ⟨buffer, len, events, only, rfl | ⟨text, inner, parsed, rfl⟩⟩ := clientReceive_cases ran
      · refine .still _ history (parsedTexts_uncounted ?_) (by rw [same])
        exact (only_cons _ _).mpr ⟨delivered, only.mono Event.Copied.uncounted⟩
      · have world : m.world? = some w := by
          rw [move]
          rfl
        refine .parsed w { s.ctx with gatewayRxBuffer := buffer, gatewayRxBufferLen := len } text
          (.delivered wsi (.clientReceive fragment) :: events) inner.events inner world
          ((only_cons _ _).mpr ⟨delivered, only.mono Event.Copied.uncounted⟩)
          (gatewayPayloadParser_some parsed).uncounted rfl parsed (by rw [same]) ?_
        rw [history, List.cons_append]

theorem parsed_session_iff {text : Text} {out : Outcome}
    (parsed : gatewayPayloadParser ex w ctx text = some out) :
    out.ctx.gatewaySessionId = observeSession ex ctx.gatewaySessionId (.parsed text) ↔
      ∀ payload ∈ ex.loadb text, SessionSafe w ctx.gatewaySessionId payload.members := by
  unfold observeSession
  cases gatewayPayloadParser_some parsed with
  | malformed failed => simp [failed]
  | unknownKey payload seq loaded unknown =>
    simp only [loaded, Option.mem_some_iff, forall_eq', if_neg unknown, true_iff]
    exact fun known => absurd known unknown
  | known payload out loaded known handled =>
    simp only [loaded, Option.mem_some_iff, forall_eq', if_pos known]
    rw [gatewayPayloadParser_session loaded known parsed]
    exact sessionSafe_iff ctx.gatewaySessionId known

theorem sessionKept_step (kept : SessionKept ex s) (stepped : step ex s m = some next) :
    SessionKept ex next ↔ SessionSafely ex s m next := by
  have blind : ∀ e : Event, e.Uncounted → (sessionMonitor ex).Ignores e := fun e uncounted =>
    session_ignores (by cases e <;> first | rfl | cases uncounted)
  unfold SessionKept at kept ⊢
  cases step_session stepped with
  | still events history silent same =>
    have ignored : ∀ e ∈ events, (sessionMonitor ex).Ignores e := fun e member =>
      session_ignores (List.filterMap_eq_nil_iff.mp silent e member)
    refine iff_of_true ?_ fun _ _ => forParsed_silent history silent
    rw [history, Monitor.after_ignored _ ignored, same, kept]
  | parsed w ctx text before after out world first last old parsed new history =>
    have moved : (sessionMonitor ex).after next.history =
        observeSession ex ((sessionMonitor ex).after s.history) (.parsed text) :=
      after_parsed blind history first last
    have one : SessionSafely ex s m next ↔
        ∀ payload ∈ ex.loadb text, SessionSafe w s.ctx.gatewaySessionId payload.members := by
      simp [SessionSafely, world, forParsed_iff history first last]
    rw [one, new, moved, ← kept, ← old]
    exact parsed_session_iff parsed

/-- In every run the stored session is the one the payloads call for exactly if every payload is safe
for the session stored when it comes. -/
theorem session_kept_iff (moves : List Move) (booted : Booted ex s) :
    Always (step ex) (SessionKept ex) s moves ↔ Each (step ex) (SessionSafely ex) s moves := by
  have start : SessionKept ex s := by
    obtain ⟨w, info, ctx, initialised, rfl⟩ := booted
    obtain ⟨_, _, _, _, _, _, _, rfl⟩ := initContext_ok initialised
    rfl
  have exact_step : ∀ s m next, True → SessionKept ex s → True → step ex s m = some next →
      (SessionKept ex next ↔ SessionSafely ex s m next) := fun _ _ _ _ kept _ => sessionKept_step kept
  exact always_iff_each (fun _ _ _ _ _ _ => trivial) exact_step trivial start (each_true s moves)

/-- What is wanted of a run: the session that is stored at its end is the one its payloads call for. -/
def KeepsSession (ex : Externals) (moves : List Move) : Prop :=
  ∀ s final, Booted ex s → run (step ex) s moves = some final → SessionKept ex final

end

-- An op that is not 9, but is so in the low 32 bits.
def wrappedInvalidateMessage : Json := gatewayMessage 4294967305 .null .null (.boolean false)

def invalidateMessage : Json := gatewayMessage 9 .null .null (.boolean false)

-- A dispatch without a type.
def typelessMessage (session : Text) : Json :=
  .object [("op", .integer 0), ("d", .object [("session_id", .string session)])]

abbrev sessionsExternals : Externals :=
  .knowing [helloMessage 41250, readyMessage 5 (ascii "abc"), invalidateMessage, wrappedInvalidateMessage,
    typelessMessage (ascii "def"), webAnswer]

-- READY begins a session, and then this payload comes, with the variable for the type left as by READY.
def afterReady (payload : Json) : List Move :=
  afterHello [readyMessage 5 (ascii "abc")] ++
  [.service (.calm 102),
    .callback 1 (.clientReceive ⟨payload.encode, true, true⟩)
      { World.calm 102 with staleType := some (.string (ascii "READY")) },
    .leave]

theorem keepsSession_at {moves : List Move} {stored owed : Option Text} (differ : stored ≠ owed)
    (reached : (run (step sessionsExternals) (.ofBot sessionsExternals 16 99) moves).map (fun s =>
      (s.ctx.gatewaySessionId, (sessionMonitor sessionsExternals).after s.history)) = some (stored, owed)) :
    ¬KeepsSession sessionsExternals moves := by
  intro keeps
  obtain ⟨final, ran, here⟩ := Option.map_eq_some_iff.mp reached
  obtain ⟨rfl, rfl⟩ := Prod.mk.inj here
  exact differ (keeps _ final (booted_ofBot _ 16 99) ran)

/-- An op that is only 9 in its low half ends the session, and a dispatch without a type changes it. -/
theorem session_mistracked :
    ¬KeepsSession sessionsExternals (afterReady wrappedInvalidateMessage) ∧
    ¬KeepsSession sessionsExternals (afterReady (typelessMessage (ascii "def"))) := by
  constructor
  · have differ : (none : Option Text) ≠ some (ascii "abc") := by decide
    exact keepsSession_at differ (by decide +kernel)
  · have differ : some (ascii "def") ≠ some (ascii "abc") := by decide
    exact keepsSession_at differ (by decide +kernel)

theorem session_kept_iff_invalidated :
    Always (step sessionsExternals) (SessionKept sessionsExternals) (.ofBot sessionsExternals 16 99)
      (afterReady invalidateMessage) :=
  (session_kept_iff _ (booted_ofBot _ 16 99)).mpr (by decide +kernel)

end Libdiscord
