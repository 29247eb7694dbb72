import Libdiscord.Gateway.Allocation

/-! What each function leaves of the memory.

The pointers still are what the context says, and what is lost is told beforehand.
-/

set_option autoImplicit false

namespace Libdiscord

open Libdiscord.Base
open Json (member?)

/-- What there is to be for a context; `calling` tells whether `ld_gateway_connect` waits for libwebsockets. -/
def Context.inventory (ctx : Context) (texts : Nat) (calling : Bool) : Inventory where
  has
    | .initPresence => ctx.initPresence.isSome
    | .gatewayUrl => ctx.gatewayUrl.isSome
    | .gatewayBotUrl => ctx.gatewayBotUrl.isSome
    | .currentUser => ctx.currentUser.isSome
    | .gatewayRxBuffer => ctx.gatewayRxBuffer.isSome
    | .gatewaySessionId => ctx.gatewaySessionId.isSome
    | .connectInfo | .adsPort => calling
  texts
  waiting := ctx.gatewayRing.items.length

section Callbacks
variable {ex : Externals} {w : World} {ctx : Context} {texts : Nat} {calling : Bool} {memory : Memory}
  {lost : List BlockKind} {out : Outcome}

/-- READY is the only dispatch that stores anything. -/
theorem dispatchMemory_typed {type d : Option Json} {name : Text} (typed : type.bind Json.stringValue = some name) :
    dispatchMemory type d memory = if name = ascii "READY" then readyMemory d memory else memory := by
  unfold dispatchMemory
  simp only [typed]
  cases found : dispatchDict.find? (ascii ·.name = name) with
  | none =>
    have other : name ≠ ascii "READY" := by
      rintro rfl
      obtain ⟨entry, member, named⟩ := ready_named
      simpa [named] using List.find?_eq_none.mp found entry member
    rw [if_neg other]
  | some entry =>
    have named : ascii entry.name = name := by simpa using List.find?_some found
    have callback := dispatchDict_callback entry (List.mem_of_find?_eq_some found)
    rw [named] at callback
    simp only [callback]
    split <;> simp_all

theorem dispatchMemory_owns {type d : Option Json} (owns : Owns (ctx.inventory texts calling) memory lost)
    (parsed : gatewayDispatchParser w ctx type d = some out) :
    Owns (out.ctx.inventory texts calling) (dispatchMemory type d memory) (lost ++ dispatchLosses ctx type d) := by
  unfold dispatchLosses
  cases typed : type.bind Json.stringValue with
  | none =>
    rw [gatewayDispatchParser_untyped typed] at parsed
    cases parsed
    simpa [dispatchMemory, typed] using owns
  | some name =>
    have dispatched : Dispatched w ctx name d (gatewayDispatchParser w ctx type d) :=
      gatewayDispatchParser_dispatched typed
    rw [parsed] at dispatched
    rw [dispatchMemory_typed typed]
    generalize same : some out = result at dispatched
    cases dispatched with
    | unknown absent =>
      cases same
      have other : name ≠ ascii "READY" := by
        rintro rfl
        obtain ⟨entry, member, named⟩ := ready_named
        exact absent entry member named
      simpa [other] using owns
    | sessionless ready missing =>
      cases same
      simpa [ready, readyMemory, missing] using owns
    | unreadable => cases same
    | ready entry id member named ready stored =>
      obtain ⟨_, rfl⟩ := callUser_some same.symm
      obtain ⟨value, session, _⟩ := Option.bind_eq_some_iff.mp stored
      have kept := owns.store .gatewaySessionId
      rw [if_pos ready, readyMemory, session]
      simp only [ready, Option.isSome_some, true_and]
      exact kept.congr (fun v => by cases v <;> rfl) rfl rfl
    | known entry member named other =>
      obtain ⟨_, rfl⟩ := callUser_some same.symm
      simpa [other] using owns

theorem helloMemory_owns {d : Option Json} (fresh : ctx.gatewaySessionId = none)
    (owns : Owns (ctx.inventory texts calling) memory lost) (ran : gatewayHello ex w ctx d = some out) :
    ∃ after, helloMemory ex w ctx memory = some after ∧
      Owns (out.ctx.inventory texts calling) after (lost ++ helloLosses ex w ctx) := by
  obtain ⟨freed, ranFree, owns⟩ := owns.malloc_free .properties
  have chosen : (helloIdentify w { ctx with heartbeatInterval := helloInterval d }).1 = setIdentify ctx := by
    simp only [helloIdentify, fresh]
    rfl
  unfold helloMemory helloLosses
  simp only [fresh, Option.isSome_none, Bool.false_eq_true, if_false, ranFree, Option.bind_eq_bind, Option.bind_some]
  obtain ⟨encoded, rfl⟩ | ⟨data, text, encoded, same, rfl⟩ := gatewayHello_cases ran
  · rw [chosen] at encoded
    simp only [encoded, List.append_nil]
    exact ⟨freed, rfl, owns.congr (fun v => by cases v <;> rfl) rfl rfl⟩
  · rw [chosen] at encoded
    simp only [encoded, ← same]
    refine ⟨_, rfl, ?_⟩
    have queued := ((owns.leak .gatewayPayload).leak .dump).insert ctx.gatewayRing text rfl
    simp only [List.append_assoc, List.cons_append, List.nil_append] at queued ⊢
    exact queued.congr (fun v => by cases v <;> rfl) rfl rfl

theorem parserMemory_known {text : Text} {payload : Json} (loaded : ex.loadb text = some payload)
    (known : Known payload.members) :
    parserMemory ex w ctx text memory =
      match selectedOpcode payload.members with
      | .dispatch => some (dispatchMemory ((member? "t" payload.members).or w.staleType)
          (member? "d" payload.members) memory)
      | .invalidateSession => memory.release .gatewaySessionId
      | .hello => helloMemory ex w { ctx with lastSeq := storedSeq ctx.lastSeq payload.members } memory
      | _ => some memory := by
  unfold parserMemory
  simp only [loaded, scanMembers_known _ _ known, Option.or_none]
  rfl

theorem parserMemory_owns {text : Text} (owns : Owns (ctx.inventory texts calling) memory lost)
    (fresh : ¬ResumingText ex ctx text) (parsed : gatewayPayloadParser ex w ctx text = some out) :
    ∃ after, parserMemory ex w ctx text memory = some after ∧
      Owns (out.ctx.inventory texts calling) after (lost ++ parserLosses ex w ctx text) := by
  unfold parserLosses
  cases loaded : ex.loadb text with
  | none =>
    simp only [gatewayPayloadParser, loaded, Option.some.injEq] at parsed
    subst parsed
    simp only [parserMemory, loaded, List.append_nil]
    exact ⟨memory, rfl, owns⟩
  | some payload =>
    by_cases known : Known payload.members
    case neg =>
      simp only [known, not_false_iff, if_true, List.append_nil]
      unfold gatewayPayloadParser at parsed
      unfold parserMemory
      simp only [loaded] at parsed ⊢
      cases scanned : scanMembers ⟨ctx.lastSeq, opcodeUnknown, none, none⟩ payload.members with
      | ok scan => exact absurd (known_of_scanMembers scanned) known
      | error scan =>
        simp only [scanned, Option.some.injEq] at parsed
        subst parsed
        exact ⟨memory, rfl, owns.congr (fun v => by cases v <;> rfl) rfl rfl⟩
    rw [gatewayPayloadParser_known loaded known] at parsed
    rw [parserMemory_known loaded known]
    simp only [known, not_true, if_false]
    have seen : Owns ({ ctx with lastSeq := storedSeq ctx.lastSeq payload.members }.inventory texts calling)
        memory lost := owns.congr (fun v => by cases v <;> rfl) rfl rfl
    cases opcode : selectedOpcode payload.members
    case dispatch =>
      simp only [opcode] at parsed ⊢
      refine ⟨_, rfl, ?_⟩
      cases typed : member? "t" payload.members with
      | some t =>
        simp only [typed] at parsed
        have stored := dispatchMemory_owns seen parsed
        exact stored
      | none =>
        simp only [typed] at parsed
        obtain ⟨inner, ran, rfl⟩ := Option.map_eq_some_iff.mp parsed
        have stored := dispatchMemory_owns seen ran
        exact stored
    case invalidateSession =>
      simp only [opcode, Option.some.injEq] at parsed ⊢
      subst parsed
      obtain ⟨after, released, owns⟩ := owns.release .gatewaySessionId
      rw [List.append_nil]
      exact ⟨after, released, owns.congr (fun v => by cases v <;> rfl) rfl rfl⟩
    case hello =>
      simp only [opcode] at parsed ⊢
      have none : ctx.gatewaySessionId = none := by
        cases session : ctx.gatewaySessionId with
        | none => rfl
        | some id => exact absurd ⟨by rw [session]; rfl, payload, loaded, known, opcode⟩ fresh
      exact helloMemory_owns none seen parsed
    all_goals
      simp only [opcode, Option.some.injEq] at parsed ⊢
      subst parsed
      rw [List.append_nil]
      exact ⟨memory, rfl, owns.congr (fun v => by cases v <;> rfl) rfl rfl⟩

theorem Parsed.gatewayRxBuffer {text : Text} (parsed : Parsed ex w ctx text out) :
    out.ctx.gatewayRxBuffer = ctx.gatewayRxBuffer := by
  cases parsed with
  | malformed => rfl
  | unknownKey => rfl
  | known _ _ _ _ handled => cases handled <;> rfl

theorem receiveMemory_owns {fragment : Fragment UInt8} (owns : Owns (ctx.inventory texts calling) memory lost)
    (fresh : ∀ text ∈ completedText w ctx fragment, ¬ResumingText ex ctx text)
    (received : clientReceive ex w ctx fragment = some out) :
    ∃ after, receiveMemory ex w ctx fragment memory = some after ∧
      Owns (out.ctx.inventory texts calling) after (lost ++ receiveLosses ex w ctx fragment) := by
  unfold clientReceive at received
  unfold receiveMemory receiveLosses
  unfold completedText at fresh ⊢
  dsimp only at received fresh ⊢
  split at received
  · next single =>
    rw [if_pos single] at fresh ⊢
    rw [if_pos single]
    have missing : ctx.gatewayRxBuffer = none := by
      rw [Bool.and_eq_true, Option.isNone_iff_eq_none] at single
      exact single.1
    obtain ⟨inner, parsed, rfl⟩ := Option.map_eq_some_iff.mp received
    obtain ⟨after, ran, owns⟩ := parserMemory_owns owns (fresh _ rfl) parsed
    refine ⟨after.set .gatewayRxBuffer none, by rw [ran]; rfl, ?_⟩
    have none : (inner.ctx.inventory texts calling).has .gatewayRxBuffer = false := by
      show inner.ctx.gatewayRxBuffer.isSome = false
      rw [(gatewayPayloadParser_some parsed).gatewayRxBuffer, missing, Option.isSome_none]
    have forgotten := owns.forget .gatewayRxBuffer
    rw [none, if_neg Bool.false_ne_true, List.append_nil] at forgotten
    exact forgotten.congr (fun v => by cases v <;> rfl) rfl rfl
  next several =>
  rw [if_neg several] at fresh ⊢
  rw [if_neg several]
  split at received
  · next first =>
    cases received
    simp only [first, if_true, true_and]
    exact ⟨_, rfl, (owns.store .gatewayRxBuffer).congr (fun v => by cases v <;> rfl) rfl rfl⟩
  next later =>
  rw [if_neg later] at fresh ⊢
  rw [if_neg later]
  obtain ⟨resized, ranResize, grown⟩ := owns.resize .gatewayRxBuffer
  have appended : ∀ block len, Owns ({ ctx with gatewayRxBuffer := some block, gatewayRxBufferLen := len }.inventory
      texts calling) resized lost := fun _ _ => grown.congr (fun v => by cases v <;> rfl) rfl rfl
  split at received
  · next last =>
    rw [if_pos last] at fresh ⊢
    rw [if_pos last]
    obtain ⟨inner, parsed, rfl⟩ := Option.map_eq_some_iff.mp received
    simp only [ranResize, Option.bind_eq_bind, Option.bind_some]
    obtain ⟨parsing, ranParser, owns⟩ := parserMemory_owns (appended _ _) (fresh _ rfl) parsed
    obtain ⟨after, ranRelease, owns⟩ := owns.release .gatewayRxBuffer
    refine ⟨after, ?_, owns.congr (fun v => by cases v <;> rfl) rfl rfl⟩
    rw [ranParser, Option.bind_some, ranRelease]
  · next unfinished =>
    cases received
    simp only [if_neg unfinished, later, Bool.false_eq_true, false_and, if_false, List.append_nil]
    exact ⟨resized, ranResize, appended _ _⟩

theorem clientWriteable_ctx (ex : Externals) (w : World) (wsi : Wsi) {taken : GatewayPayload}
    {ring : BoundedQueue GatewayPayload} (consumed : ctx.gatewayRing.consume = some (taken, ring)) :
    (clientWriteable ex w ctx wsi).ctx = { ctx with gatewayRing := ring } := by
  unfold clientWriteable
  rw [consumed]
  dsimp only
  split
  · rfl
  split
  · rfl
  split <;> rfl

theorem writeableMemory_owns (ex : Externals) (w : World) (wsi : Wsi)
    (owns : Owns (ctx.inventory texts calling) memory lost) :
    ∃ after, writeableMemory w ctx memory = some after ∧
      Owns ((clientWriteable ex w ctx wsi).ctx.inventory texts calling) after (lost ++ writeableLosses w ctx) := by
  unfold writeableMemory writeableLosses
  cases consumed : ctx.gatewayRing.consume with
  | none =>
    rw [clientWriteable, consumed]
    exact ⟨_, rfl, owns.leak .gatewayPayload⟩
  | some pair =>
    obtain ⟨taken, ring⟩ := pair
    have items := BoundedQueue.consume_some consumed
    rw [clientWriteable_ctx ex w wsi consumed]
    cases pointers : memory.ring with
    | nil =>
      have waiting : memory.ring.length = ctx.gatewayRing.items.length := owns.waiting
      simp [pointers, items] at waiting
    | cons payload rest =>
      have new := owns.holds.malloc .gatewayPayload
      have both := new.perm (((Memory.held_taken pointers).cons _).trans (List.Perm.swap _ _ _))
      have shorter : rest.length = ring.items.length := by
        have waiting : memory.ring.length = ctx.gatewayRing.items.length := owns.waiting
        simpa [pointers, items] using waiting
      have allocated := both.allocated List.mem_cons_self
      simp only [Memory.malloc, pointers]
      rw [if_neg (not_not_intro allocated)]
      by_cases unsent : Unsent w taken.payload
      · rw [if_pos unsent, if_pos unsent]
        have struct := (both.perm (List.Perm.swap _ _ _)).lose_block
        have gone := struct.lose_block
        rw [List.append_assoc] at gone
        exact ⟨_, rfl, gone, owns.stored, owns.texts, shorter⟩
      · rw [if_neg unsent, if_neg unsent, List.append_nil]
        obtain ⟨heap, freed, holds⟩ := both.free_block
        obtain ⟨emptied, struct, holds⟩ := holds.free_block
        have freedToo : heap.free (some (memory.heap.malloc .gatewayPayload).1) = some emptied := struct
        refine ⟨⟨emptied, memory.stored, memory.texts, rest⟩, ?_, holds, owns.stored, owns.texts, shorter⟩
        simp only [Memory.free, freed, Option.map_some, Option.bind_eq_bind, Option.bind_some, freedToo]

theorem peerInitiatedClose_inventory {frame : Text} (closed : peerInitiatedClose w ctx frame = some out) :
    out.ctx.inventory texts calling = ctx.inventory texts calling := by
  unfold peerInitiatedClose at closed
  dsimp only at closed
  split at closed
  · cases closed
  next user called =>
  obtain ⟨_, rfl⟩ := callUser_some called
  split at closed
  · obtain ⟨gi, _, rfl⟩ := Option.map_eq_some_iff.mp closed
    rfl
  · cases closed
    rfl

theorem heartbeatMemory_owns {now later : UInt64} (owns : Owns (ctx.inventory texts calling) memory lost)
    (beat : Beat ex ctx now later out) :
    Owns (out.ctx.inventory texts calling) (heartbeatMemory ex ctx now memory) (lost ++ heartbeatLosses ctx now) := by
  unfold heartbeatMemory heartbeatLosses
  cases beat with
  | early due => simpa [due] using owns
  | missed due waiting =>
    have missed : ctx.hbCount + 1 > 1 ∧ ¬ctx.hbCount + 1 ≤ 1 := by omega
    simp only [due, missed, if_true, false_and, and_false, if_false, List.append_nil]
    exact owns.congr (fun v => by cases v <;> rfl) rfl rfl
  | full due quiet full =>
    have none := ctx.gatewayRing.free_eq_zero.mpr full
    have calm : ¬ctx.hbCount + 1 > 1 := by omega
    simpa [due, calm, queueHeartbeatMemory, none] using owns
  | queued ring text due quiet appended same =>
    obtain ⟨items, _, room⟩ := appended
    have free : ctx.gatewayRing.free ≠ 0 := fun none => Nat.ne_of_lt room (ctx.gatewayRing.free_eq_zero.mp none)
    have calm : ¬ctx.hbCount + 1 > 1 ∧ ctx.hbCount + 1 ≤ 1 := by omega
    have queued := (((owns.leak .gatewayPayload).leak .dump).leak .dump).insert ctx.gatewayRing text rfl
    simp only [free, if_false, (ctx.gatewayRing.insert_of_room _ room).1, List.append_assoc, List.cons_append,
      List.nil_append, List.append_nil] at queued
    simp only [due, calm, queueHeartbeatMemory, free, ← same, ne_eq, not_false_iff, and_self, if_true, if_false]
    exact queued.congr (fun v => by cases v <;> rfl) rfl (by rw [← items]; rfl)

theorem bootstrap_kept {http : Http} (ran : ctx.bootstrap ex http = some out) :
    (ctx.gatewayUrl.isSome = true → out.ctx.gatewayUrl.isSome = true) ∧
    (ctx.gatewayBotUrl.isSome = true → out.ctx.gatewayBotUrl.isSome = true) ∧
    (ctx.currentUser.isSome = true → out.ctx.currentUser.isSome = true) := by
  refine bootstrap_rule (R := fun ctx _ next => (ctx.gatewayUrl.isSome = true → next.gatewayUrl.isSome = true) ∧
    (ctx.gatewayBotUrl.isSome = true → next.gatewayBotUrl.isSome = true) ∧
    (ctx.currentUser.isSome = true → next.currentUser.isSome = true)) ?refl ?trans ?gateway ?bot ?user ran
  case refl => exact fun _ => ⟨id, id, id⟩
  case trans =>
    rintro a _ b _ c ⟨url, bot, user⟩ ⟨url', bot', user'⟩
    exact ⟨url' ∘ url, bot' ∘ bot, user' ∘ user⟩
  case gateway =>
    intro ctx out missing asked
    cases asked <;> exact ⟨fun stored => by simp_all, id, id⟩
  case bot =>
    intro ctx out missing asked
    cases asked <;> exact ⟨id, fun stored => by simp_all, id⟩
  case user =>
    intro ctx out missing asked
    cases asked <;> exact ⟨id, id, fun _ => rfl⟩

theorem Owns.fill {α : Type} {inventory : Inventory} {v : Variable} {before after : Option α}
    (owns : Owns inventory memory lost) (has : inventory.has v = before.isSome)
    (kept : before.isSome = true → after.isSome = true) :
    Owns (inventory.set v after.isSome) (if before.isNone && after.isSome then memory.store v else memory) lost := by
  have same (stays : inventory.has v = after.isSome) : Owns (inventory.set v after.isSome) memory lost := by
    rw [← stays, Inventory.set, Function.update_eq_self]
    exact owns
  cases before with
  | some old =>
    have stored := kept rfl
    exact same (by rw [has, stored]; rfl)
  | none =>
    cases after with
    | none => exact same has
    | some new => exact owns.store_new has

theorem connectMemory_owns {http : Http} (ran : ctx.bootstrap ex http = some out)
    (owns : Owns (ctx.inventory texts false) memory lost) :
    Owns (out.ctx.inventory texts (out.ret = .ok)) (connectMemory ex http ctx memory)
      (lost ++ connectLosses ex http ctx) := by
  obtain ⟨url, bot, user⟩ := bootstrap_kept ran
  obtain ⟨⟨_, _, _, _, _, asked⟩, _⟩ := bootstrap_frame ran
  unfold connectMemory connectLosses
  rw [ran]
  dsimp only
  have filled := ((owns.fill (v := .gatewayUrl) rfl url).fill (v := .gatewayBotUrl) rfl bot).fill
    (v := .currentUser) rfl user
  generalize (if ctx.currentUser.isNone && out.ctx.currentUser.isSome then _ else _ : Memory) = memory at filled ⊢
  have stored : Owns (out.ctx.inventory texts false) memory lost := by
    rw [asked] at filled ⊢
    exact filled.congr (fun v => by cases v <;> rfl) rfl rfl
  by_cases ok : out.ret = .ok
  · have connecting := ((stored.store_new (v := .connectInfo) rfl).leak .path).store_new (v := .adsPort) rfl
    rw [if_neg (not_not_intro ok), if_pos ok, decide_eq_true ok]
    exact connecting.congr (fun v => by cases v <;> rfl) rfl rfl
  · rw [if_pos ok, if_neg ok, decide_eq_false ok, List.append_nil]
    exact stored

theorem leaveMemory_owns (owns : Owns (ctx.inventory texts true) memory lost) :
    ∃ after, leaveMemory ctx memory = some after ∧ Owns (ctx.inventory texts false) after
      (lost ++ if ctx.lwsWsi.isNone then [.of .connectInfo, .of .adsPort] else []) := by
  unfold leaveMemory
  cases ctx.lwsWsi.isNone with
  | true =>
    have forgotten := (owns.forget .connectInfo).forget .adsPort
    have held : (ctx.inventory texts true).has .connectInfo = true ∧
        ((ctx.inventory texts true).set .connectInfo false).has .adsPort = true := ⟨rfl, rfl⟩
    rw [held.1, held.2, if_pos rfl, if_pos rfl, List.append_assoc] at forgotten
    rw [if_pos rfl, if_pos rfl]
    exact ⟨_, rfl, forgotten.congr (fun v => by cases v <;> rfl) rfl rfl⟩
  | false =>
    obtain ⟨first, freed, owns⟩ := owns.release .adsPort
    obtain ⟨after, freedToo, owns⟩ := owns.release .connectInfo
    rw [if_neg Bool.false_ne_true, if_neg Bool.false_ne_true, freed, Option.bind_some, List.append_nil]
    exact ⟨after, freedToo, owns.congr (fun v => by cases v <;> rfl) rfl rfl⟩

end Callbacks

end Libdiscord
