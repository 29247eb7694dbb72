import Libdiscord.Gateway.Close
import Libdiscord.Gateway.Counting
import Libdiscord.Gateway.Crash
import Libdiscord.Gateway.Dispatch

/-! What the bot hears of what the gateway sends. -/

set_option autoImplicit false

namespace Libdiscord

open Libdiscord.Base
open Json (member?)

/-- The calls that a dispatch with this type and these data leads to: one for each name in the dictionary, none
for a READY without a session. -/
def dispatchCalls (type : Option Text) (d : Option Json) : List UserCall :=
  match type.bind fun name => dispatchDict.find? (ascii ·.name = name) with
  | none => []
  | some entry =>
    if entry.dispatchCallback.isSome ∧ (sessionMember d).isNone then []
    else [⟨entry.cbkReason, d.elim .null .json, 0⟩]

def heard (ex : Externals) (text : Text) : List UserCall :=
  match ex.loadb text with
  | none => []
  | some payload =>
    if Known payload.members ∧ selectedOpcode payload.members = .dispatch then
      dispatchCalls ((member? "t" payload.members).bind Json.stringValue) (member? "d" payload.members)
    else []

/-- The calls that a message leads to, where a dispatch without a type is taken to have the one that the variable
happens to hold. -/
def parserCalls (ex : Externals) (w : World) (text : Text) : List UserCall :=
  match ex.loadb text with
  | none => []
  | some payload =>
    if Known payload.members ∧ selectedOpcode payload.members = .dispatch then
      dispatchCalls (dispatchType w payload.members) (member? "d" payload.members)
    else []

def Callback.tells : Callback → List UserCall
  | .clientConnectionError => [⟨.wsConnectionError, .null, 0⟩]
  | .clientEstablished => [⟨.wsEstablished, .null, 0⟩]
  | .wsPeerInitiatedClose _ => [⟨.wsGatewayInitClose, .null, 0⟩]
  | _ => []

def Event.tells (ex : Externals) : Event → List UserCall
  | .delivered _ callback => callback.tells
  | .parsed text => heard ex text
  | _ => []

def UserCall.bare (call : UserCall) : UserCall :=
  if call.reason = .wsGatewayInitClose then ⟨.wsGatewayInitClose, .null, 0⟩ else call

def Typed (members : List (String × Json)) : Prop :=
  Known members → selectedOpcode members = .dispatch → (member? "t" members).isSome = true

instance (members : List (String × Json)) : Decidable (Typed members) :=
  inferInstanceAs (Decidable (_ → _ → _))

def Heard (ex : Externals) (s : System) : Prop :=
  (userCalls s.history).map UserCall.bare = s.history.flatMap (Event.tells ex)

def UserCall.Dispatches (call : UserCall) : Prop :=
  call.reason ≠ .wsEstablished ∧ call.reason ≠ .wsConnectionError ∧ call.reason ≠ .wsGatewayInitClose

instance (call : UserCall) : Decidable call.Dispatches := inferInstanceAs (Decidable (_ ∧ _ ∧ _))

section
variable {ex : Externals} {w : World} {ctx : Context} {wsi : Wsi} {out : Outcome}

theorem dispatchDict_dispatches : ∀ entry ∈ dispatchDict,
    entry.cbkReason ≠ .wsEstablished ∧ entry.cbkReason ≠ .wsConnectionError ∧
      entry.cbkReason ≠ .wsGatewayInitClose := by
  decide +kernel

theorem dispatchCalls_dispatches (type : Option Text) (d : Option Json) :
    ∀ call ∈ dispatchCalls type d, call.Dispatches := by
  intro call member
  unfold dispatchCalls at member
  split at member
  · cases member
  · next entry found =>
    obtain ⟨name, _, found⟩ := Option.bind_eq_some_iff.mp found
    split at member
    · cases member
    · rw [List.mem_singleton.mp member]
      exact dispatchDict_dispatches entry (List.mem_of_find?_eq_some found)

theorem heard_dispatches (text : Text) : ∀ call ∈ heard ex text, call.Dispatches := by
  intro call member
  unfold heard at member
  split at member
  · cases member
  · split at member
    · exact dispatchCalls_dispatches _ _ call member
    · cases member

theorem UserCall.Dispatches.bare {call : UserCall} (dispatches : call.Dispatches) : call.bare = call := by
  rw [UserCall.bare, if_neg dispatches.2.2]

theorem bare_heard (text : Text) : (heard ex text).map UserCall.bare = heard ex text := by
  have same : (heard ex text).map UserCall.bare = (heard ex text).map id :=
    List.map_congr_left fun call member => (heard_dispatches text call member).bare
  rw [same, List.map_id]

theorem dispatchDict_find {entry : Dispatch} {name : Text} (member : entry ∈ dispatchDict)
    (named : ascii entry.name = name) : dispatchDict.find? (ascii ·.name = name) = some entry := by
  cases found : dispatchDict.find? (ascii ·.name = name) with
  | none =>
    have absent := List.find?_eq_none.mp found entry member
    simp [named] at absent
  | some other =>
    have same : ascii other.name = name := by simpa using List.find?_some found
    rw [dispatchDict_named (List.mem_of_find?_eq_some found) member (same.trans named.symm)]

theorem gatewayDispatchParser_heard {type d : Option Json}
    (ran : gatewayDispatchParser w ctx type d = some out) :
    userCalls out.events = dispatchCalls (type.bind Json.stringValue) d := by
  cases typed : type.bind Json.stringValue with
  | none =>
    rw [gatewayDispatchParser_untyped typed] at ran
    cases ran
    rfl
  | some name =>
    have dispatched : Dispatched w ctx name d (gatewayDispatchParser w ctx type d) :=
      gatewayDispatchParser_dispatched typed
    rw [ran] at dispatched
    unfold dispatchCalls
    rw [Option.bind_some]
    generalize same : some out = result at dispatched
    cases dispatched with
    | unknown absent =>
      cases same
      have missing : dispatchDict.find? (ascii ·.name = name) = none := by simpa using absent
      rw [missing]
      rfl
    | sessionless ready missing =>
      cases same
      obtain ⟨entry, member, named⟩ : ∃ entry ∈ dispatchDict, ascii entry.name = name :=
        ⟨_, List.mem_cons_self, ready.symm⟩
      have callback := dispatchDict_callback entry member
      rw [named, if_pos ready] at callback
      rw [dispatchDict_find member named]
      simp [callback, missing, userCalls]
    | unreadable => cases same
    | ready entry id member named ready found =>
      obtain ⟨_, rfl⟩ := callUser_some same.symm
      obtain ⟨value, session, _⟩ := Option.bind_eq_some_iff.mp found
      rw [dispatchDict_find member named]
      simp [session, userCalls, Event.userCall?]
    | known entry member named other =>
      obtain ⟨_, rfl⟩ := callUser_some same.symm
      have callback := dispatchDict_callback entry member
      rw [named, if_neg other] at callback
      rw [dispatchDict_find member named]
      simp [callback, userCalls, Event.userCall?]

theorem helloIdentify_silent (w : World) (ctx : Context) : userCalls (helloIdentify w ctx).2 = [] := by
  unfold helloIdentify
  cases ctx.gatewaySessionId with
  | none => rfl
  | some id =>
    simp only [userCalls_append]
    unfold saveResume
    split <;> rfl

theorem gatewayPayloadParser_calls {text : Text} (ran : gatewayPayloadParser ex w ctx text = some out) :
    userCalls out.events = parserCalls ex w text := by
  unfold parserCalls
  cases gatewayPayloadParser_some ran with
  | malformed failed =>
    rw [failed]
    rfl
  | unknownKey payload seq loaded unknown =>
    simp only [loaded, unknown, false_and, if_false]
    rfl
  | known payload _ loaded known handled =>
    rw [gatewayPayloadParser_known loaded known] at ran
    simp only [loaded, known, true_and]
    cases code : selectedOpcode payload.members
    case dispatch =>
      simp only [code] at ran
      rw [if_pos rfl, dispatchType]
      cases typed : member? "t" payload.members with
      | some t =>
        rw [typed] at ran
        exact gatewayDispatchParser_heard ran
      | none =>
        rw [typed] at ran
        obtain ⟨inner, called, rfl⟩ := Option.map_eq_some_iff.mp ran
        have told := gatewayDispatchParser_heard called
        exact told
    case hello =>
      simp only [code] at ran
      rw [if_neg (by decide)]
      rcases gatewayHello_cases ran with ⟨_, rfl⟩ | ⟨_, _, _, _, rfl⟩
      · exact helloIdentify_silent _ _
      · dsimp only
        rw [userCalls_append, helloIdentify_silent]
        split <;> rfl
    all_goals
      simp only [code, Option.some.injEq] at ran
      rw [if_neg (by decide), ← ran]
      rfl

theorem parserCalls_typed {text : Text} (typed : ∀ payload ∈ ex.loadb text, Typed payload.members) :
    parserCalls ex w text = heard ex text := by
  unfold parserCalls heard
  cases loaded : ex.loadb text with
  | none => rfl
  | some payload =>
    dsimp only
    split
    · next dispatch =>
      obtain ⟨t, present⟩ := Option.isSome_iff_exists.mp (typed payload loaded dispatch.1 dispatch.2)
      rw [dispatchType, present, Option.some_or]
    · rfl

theorem gatewayPayloadParser_heard {text : Text} (ran : gatewayPayloadParser ex w ctx text = some out)
    (typed : ∀ payload ∈ ex.loadb text, Typed payload.members) : userCalls out.events = heard ex text :=
  (gatewayPayloadParser_calls ran).trans (parserCalls_typed typed)

theorem lwsCallback_heard {callback : Callback} (ran : lwsCallback ex w ctx wsi callback = some out)
    (typed : ∀ text ∈ parsedTexts out.events, ∀ payload ∈ ex.loadb text, Typed payload.members) :
    (userCalls out.events).map UserCall.bare =
      callback.tells ++ (parsedTexts out.events).flatMap (heard ex) := by
  cases callback with
  | clientConnectionError =>
    obtain ⟨inner, called, rfl⟩ := Option.map_eq_some_iff.mp ran
    obtain ⟨_, rfl⟩ := callUser_some called
    rfl
  | clientEstablished =>
    obtain ⟨inner, called, rfl⟩ := Option.map_eq_some_iff.mp ran
    obtain ⟨_, rfl⟩ := callUser_some called
    rfl
  | clientReceive fragment =>
    obtain ⟨buffer, len, events, copied, rfl | ⟨text, inner, parsed, rfl⟩⟩ := clientReceive_cases ran
    · have silent : userCalls events = [] := copied.filterMap fun e kind => by cases e <;> first | rfl | cases kind
      dsimp only
      rw [silent, parsedTexts_uncounted (copied.mono Event.Copied.uncounted)]
      rfl
    · have silent : userCalls events = [] := copied.filterMap fun e kind => by cases e <;> first | rfl | cases kind
      have one : parsedTexts (events ++ .parsed text :: inner.events) = [text] :=
        parsedTexts_one (copied.mono Event.Copied.uncounted) (gatewayPayloadParser_some parsed).uncounted
      dsimp only at typed ⊢
      rw [one] at typed ⊢
      have told := gatewayPayloadParser_heard parsed (typed text (List.mem_singleton_self _))
      rw [userCalls_append, silent]
      show (userCalls inner.events).map UserCall.bare = _
      rw [told, bare_heard]
      simp [Callback.tells]
  | clientWriteable =>
    cases ran
    rcases clientWriteable_cases ex w ctx wsi with ⟨_, idle⟩ | ⟨payload, ring, ret, _, _, sent⟩
    · rw [idle]
      rfl
    · rw [sent]
      dsimp only
      split <;> rfl
  | wsPeerInitiatedClose frame =>
    obtain ⟨_, gi, read, rfl⟩ := peerInitiatedClose_cases ran
    dsimp only
    have quiet : ∀ indices, parsedTexts (overreads frame indices) = [] := fun indices =>
      parsedTexts_unreceived (overreads_only frame (fun _ => trivial) indices)
    split
    · simp only [userCalls_append, parsedTexts_append, userCalls_overreads, quiet]
      rfl
    · simp only [userCalls_append, parsedTexts_append, userCalls_overreads, quiet]
      rfl
  | _ =>
    cases ran
    rfl

theorem tells_inside {events : List Event} (inside : Only Event.Inside events) :
    events.flatMap (Event.tells ex) = (parsedTexts events).flatMap (heard ex) := by
  induction events with
  | nil => rfl
  | cons e events ih =>
    obtain ⟨here, rest⟩ := (only_cons _ _).mp inside
    rw [List.flatMap_cons, ih rest, parsedTexts_cons]
    cases e <;> first | exact here.elim | rfl

end

section
variable {ex : Externals} {s next : System} {m : Move}

def Event.Unheard : Event → Prop
  | .delivered _ _ | .parsed _ | .userCalled _ _ _ => False
  | _ => True

theorem Event.Idle.unheard (e : Event) (idle : e.Idle) : e.Unheard := by cases e <;> trivial

theorem Heard.still {events : List Event} (good : Heard ex s) (history : next.history = s.history ++ events)
    (only : Only Event.Unheard events) : Heard ex next := by
  have silent : userCalls events = [] := only.filterMap fun e kind => by cases e <;> first | rfl | cases kind
  have untold : events.flatMap (Event.tells ex) = [] := by
    apply List.flatMap_eq_nil_iff.mpr
    intro e member
    have kind := only e member
    cases e <;> first | rfl | cases kind
  rw [Heard, history, userCalls_append, List.flatMap_append, silent, untold, List.append_nil, List.append_nil]
  exact good

theorem heard_step (good : Heard ex s) (typed : ForParsed ex s next Typed)
    (stepped : step ex s m = some next) : Heard ex next := by
  cases step_acts stepped with
  | idle events _ _ history only => exact good.still history (only.mono Event.Idle.unheard)
  | connecting events wsi ctx _ _ history only =>
    exact good.still history
      ((only_append _ _).mpr ⟨only.mono Event.Idle.unheard, by simp [Event.Unheard]⟩)
  | missed _ _ history => exact good.still history (by simp [Event.Unheard])
  | queued later ring text events _ _ _ _ history only =>
    exact good.still history ((only_cons _ _).mpr ⟨trivial, only.mono Event.Idle.unheard⟩)
  | called wsi callback w out _ ran history =>
    have told := lwsCallback_heard ran ((forParsed_delivered history).mp typed)
    have same : userCalls (.delivered wsi callback :: out.events) = userCalls out.events := rfl
    rw [Heard, history, userCalls_append, List.map_append, List.flatMap_append, same, told,
      List.flatMap_cons, tells_inside (lwsCallback_some ran).inside, good]
    rfl

/-- In every run in which every dispatch has a type, the bot is told of all there is to hear and of nothing
else, in the order in which it happened. -/
theorem heard_kept (moves : List Move) (booted : Booted ex s)
    (typed : Each (step ex) (fun s _ next => ForParsed ex s next Typed) s moves) :
    Always (step ex) (Heard ex) s moves := by
  have start : Heard ex s := by
    rw [Heard, booted.fresh.1]
    rfl
  exact always_of_each (Heard ex) (fun _ _ _ good typed stepped => heard_step good typed stepped) start typed

abbrev heardExternals : Externals := .knowing [readyMessage 1 (ascii "abc"), webAnswer]

-- A session begins, and the gateway closes the connection with code 1001.
def readyThenClose : List Move :=
  [.connect (.answering webAnswer.encode noUser) true, .callback 1 .clientEstablished (.calm 100),
    .callback 1 (.clientReceive ⟨(readyMessage 1 (ascii "abc")).encode, true, true⟩) (.calm 101),
    .callback 1 (.wsPeerInitiatedClose [3, 233]) (.calm 102), .leave]

theorem heard_kept_ready :
    Always (step heardExternals) (Heard heardExternals) (.ofBot heardExternals 16 99) readyThenClose ∧
    (run (step heardExternals) (.ofBot heardExternals 16 99) readyThenClose).map (fun s =>
      (userCalls s.history).map (·.reason)) = some [.wsEstablished, .ready, .wsGatewayInitClose] :=
  ⟨heard_kept readyThenClose (booted_ofBot _ 16 99) (by decide +kernel), by decide +kernel⟩

end

section
variable {ex : Externals} {ctx final : Context} {wsi : Wsi} {events : List Event}

theorem Callback.tells_undispatched (callback : Callback) : callback.tells.filter (·.Dispatches) = [] := by
  cases callback <;> rfl

theorem filter_heard (texts : List Text) :
    (texts.flatMap (heard ex)).filter (·.Dispatches) = texts.flatMap (heard ex) := by
  rw [List.filter_eq_self]
  intro call member
  obtain ⟨text, _, told⟩ := List.mem_flatMap.mp member
  exact decide_eq_true (heard_dispatches text call told)

theorem UserCall.bare_dispatches (call : UserCall) : call.bare.Dispatches ↔ call.Dispatches := by
  unfold UserCall.bare
  split
  · next closes => exact iff_of_false (fun bare => bare.2.2 rfl) (fun dispatches => dispatches.2.2 closes)
  · exact Iff.rfl

theorem filter_bare (calls : List UserCall) :
    (calls.map UserCall.bare).filter (·.Dispatches) = calls.filter (·.Dispatches) := by
  induction calls with
  | nil => rfl
  | cons call calls ih =>
    rw [List.map_cons, List.filter_cons, List.filter_cons, ih]
    by_cases dispatches : call.Dispatches
    · simp only [dispatches, decide_true, if_true, dispatches.bare]
    · simp only [mt call.bare_dispatches.mp dispatches, dispatches, decide_false, Bool.false_eq_true, if_false]

theorem lwsCallbacks_heard (deliveries : List (Callback × World))
    (ran : lwsCallbacks ex wsi ctx deliveries = some (final, events))
    (typed : ∀ text ∈ parsedTexts events, ∀ payload ∈ ex.loadb text, Typed payload.members) :
    (userCalls events).filter (·.Dispatches) = (parsedTexts events).flatMap (heard ex) := by
  induction deliveries generalizing ctx events with
  | nil =>
    cases ran
    rfl
  | cons delivery rest ih =>
    obtain ⟨callback, w⟩ := delivery
    obtain ⟨out, here, tail⟩ := Option.bind_eq_some_iff.mp ran
    obtain ⟨⟨_, later⟩, there, same⟩ := Option.bind_eq_some_iff.mp tail
    cases same
    rw [parsedTexts_append] at typed
    have told := lwsCallback_heard here fun text member => typed text (List.mem_append_left _ member)
    have after := ih there fun text member => typed text (List.mem_append_right _ member)
    rw [userCalls_append, parsedTexts_append, List.filter_append, List.flatMap_append, after,
      ← filter_bare, told, List.filter_append, callback.tells_undispatched, filter_heard, List.nil_append]

/-- However messages are cut into chunks, and whatever callbacks run between the chunks, the bot is called for
exactly the dispatches among the complete messages, in their order. -/
theorem messages_heard (done : List (List Text)) (current : List Text) (deliveries : List (Callback × World))
    (nonempty : ∀ chunks ∈ done, chunks ≠ [])
    (arrived : received deliveries = done.flatMap (split true) ++ opening true current)
    (nulFree : ∀ fragment ∈ received deliveries, 0 ∉ fragment.data) (fresh : ctx.gatewayRxBuffer = none)
    (typed : ∀ chunks ∈ done, ∀ payload ∈ ex.loadb chunks.flatten, Typed payload.members)
    (ran : lwsCallbacks ex wsi ctx deliveries = some (final, events)) :
    (userCalls events).filter (·.Dispatches) = done.flatMap fun chunks => heard ex chunks.flatten := by
  have start : Holding ctx none := fresh
  obtain ⟨assembled, flagged⟩ := assemble_arrived current nonempty
  rw [← arrived] at assembled flagged
  have whole := (lwsCallbacks_assemble deliveries [] none start flagged nulFree ran).1
  rw [assembled] at whole
  have texts : parsedTexts events = done.map List.flatten := whole.symm
  have told : ∀ text ∈ parsedTexts events, ∀ payload ∈ ex.loadb text, Typed payload.members := by
    intro text member
    rw [texts] at member
    obtain ⟨chunks, complete, rfl⟩ := List.mem_map.mp member
    exact typed chunks complete
  rw [lwsCallbacks_heard deliveries ran told, texts, List.flatMap_map]

-- The same message in two chunks with a pong between them, and the start of another one.
def readyInChunks : List (Callback × World) :=
  let text := (readyMessage 1 (ascii "abc")).encode
  [.clientReceive ⟨text.take 9, true, false⟩, .clientReceivePong, .clientReceive ⟨text.drop 9, false, true⟩,
    .clientReceive ⟨text.take 3, true, false⟩].map (·, .calm 100)

theorem messages_heard_ready :
    ∃ final events, lwsCallbacks heardExternals 1 (System.ofBot heardExternals 16 99).ctx readyInChunks =
        some (final, events) ∧
      (userCalls events).filter (·.Dispatches) = heard heardExternals (readyMessage 1 (ascii "abc")).encode := by
  obtain ⟨⟨final, events⟩, ran⟩ : ∃ reached, lwsCallbacks heardExternals 1 (System.ofBot heardExternals 16 99).ctx
      readyInChunks = some reached := Option.isSome_iff_exists.mp (by decide +kernel)
  have told := messages_heard
    [[(readyMessage 1 (ascii "abc")).encode.take 9, (readyMessage 1 (ascii "abc")).encode.drop 9]]
    [(readyMessage 1 (ascii "abc")).encode.take 3] readyInChunks (by simp) rfl (by decide +kernel) rfl
    (by decide +kernel) ran
  exact ⟨final, events, ran, by simpa using told⟩

end

end Libdiscord
