import Libdiscord.Gateway.Heartbeat

/-! In what order payloads are written on a connection. -/

set_option autoImplicit false

namespace Libdiscord

open Libdiscord.Base

/-- What an observer of all connections keeps: where a HELLO was received, where something was
written, and for each payload that waits the connections on which it may be the first. -/
structure Turn where
  heard : Wsi
  greeted : List Wsi
  begun : List Wsi
  openers : List (List Wsi)
  -- the connections on which the payload taken last may be the first
  hand : List Wsi
  early : Bool
  deriving DecidableEq

def Turn.queue (turn : Turn) (openers : List Wsi) : Turn := { turn with openers := turn.openers ++ [openers] }

def Turn.observe (ex : Externals) (turn : Turn) : Event → Turn
  | .delivered wsi _ => { turn with heard := wsi }
  | .parsed text => match ex.loadb text with
    | some payload =>
      if IsPayload 10 payload then { turn with greeted := turn.heard :: turn.greeted } else turn
    | none => turn
  | .queued .heartbeat _ => turn.queue turn.greeted
  -- a HELLO answers for its own connection
  | .queued .handshake _ => turn.queue (turn.greeted.filter (· = turn.heard))
  | .dequeued _ => { turn with hand := turn.openers.headD [], openers := turn.openers.tail }
  | .written wsi _ => { turn with
      begun := wsi :: turn.begun
      early := turn.early || !(wsi ∈ turn.greeted && (wsi ∈ turn.begun || wsi ∈ turn.hand)) }
  | _ => turn

def turnMonitor (ex : Externals) : Monitor Event Turn := ⟨⟨0, [], [], [], [], false⟩, Turn.observe ex⟩

def System.turn (ex : Externals) (s : System) : Turn := (turnMonitor ex).after s.history

/-- Nothing was written on a connection before its HELLO, and first on each came a handshake or a
heartbeat that its HELLO had preceded. -/
def Ordered (ex : Externals) (s : System) : Prop := (s.turn ex).early = false

def Move.writes? : Move → Option Wsi
  | .callback wsi .clientWriteable _ => some wsi
  | _ => none

/-- No payload waits when a connection is started, and no heartbeat is queued before its HELLO. What
is writable while payloads wait is the latest connection, and what the parser takes for HELLO is one,
on the latest connection. -/
def Unhurried (ex : Externals) (s : System) (m : Move) (next : System) : Prop :=
  (next.wsis ≠ s.wsis → s.ctx.gatewayRing.items = []) ∧
  (Beats s m → s.wsis ∈ (s.turn ex).greeted) ∧
  (s.ctx.gatewayRing.items ≠ [] → ∀ wsi ∈ m.writes?, wsi = s.wsis) ∧
  ForParsed ex s next fun members => Known members → selectedOpcode members = .hello →
    integerMember "op" members = some 10 ∧ m.wsi? = some s.wsis

instance (ex : Externals) (s next : System) (m : Move) : Decidable (Unhurried ex s m next) := by
  have : Decidable (s.ctx.gatewayRing.items = []) := decidable_of_iff _ List.isEmpty_iff
  unfold Unhurried
  infer_instance

/-- No payload waits before the HELLO of the latest connection, and after it every payload that waits
may be the first on this connection. -/
structure InTurn (turn : Turn) (latest : Wsi) (waiting : Nat) : Prop where
  ordered : turn.early = false
  paired : turn.openers.length = waiting
  awaited : latest ∉ turn.greeted → waiting = 0
  own : ∀ openers ∈ turn.openers, latest ∈ openers

def Event.Still : Event → Prop
  | .delivered _ _ | .parsed _ | .queued _ _ | .dequeued _ | .written _ _ => False
  | _ => True

section
variable {ex : Externals} {s next : System} {m : Move} {turn : Turn} {latest : Wsi} {waiting : Nat}

theorem turn_ignores (e : Event) (still : e.Still) : (turnMonitor ex).Ignores e := by
  cases e <;> first | exact fun _ => rfl | cases still

theorem foldl_still {events : List Event} (still : Only Event.Still events) :
    events.foldl (Turn.observe ex) turn = turn :=
  (turnMonitor ex).foldl_ignored (fun e member => turn_ignores e (still e member)) turn

theorem Event.Idle.still {e : Event} (idle : e.Idle) : e.Still := by
  cases e <;> trivial

theorem Event.Still.uncounted {e : Event} (still : e.Still) : e.Uncounted := by
  cases e <;> trivial

theorem Parsed.ring {w : World} {ctx : Context} {text : Text} {out : Outcome}
    (parsed : Parsed ex w ctx text out) :
    (Only Event.Still out.events ∧ out.ctx.gatewayRing = ctx.gatewayRing) ∨
    (∃ payload events handshake, ex.loadb text = some payload ∧ Known payload.members ∧
      selectedOpcode payload.members = .hello ∧ Only Event.Still events ∧
      out.events = events ++ [.queued .handshake handshake] ∧
      out.ctx.gatewayRing.items.length = ctx.gatewayRing.items.length + 1) := by
  have quiet : ∀ e : Event, e.Quiet → e.Still := fun e quiet => by cases e <;> trivial
  cases parsed with
  | malformed => exact .inl ⟨only_nil, rfl⟩
  | unknownKey => exact .inl ⟨only_nil, rfl⟩
  | known payload _ loaded known handled =>
    cases handled with
    | dispatch _ _ _ _ only => exact .inl ⟨only.mono quiet, rfl⟩
    | helloRefused _ _ _ only => exact .inl ⟨only.mono quiet, rfl⟩
    | helloFull _ _ _ only => exact .inl ⟨only.mono quiet, rfl⟩
    | helloQueued _ ring _ events same only appended =>
      refine .inr ⟨payload, events, _, loaded, known, same, only.mono quiet, rfl, ?_⟩
      rw [appended.1, List.length_append]
      rfl
    | invalidated => exact .inl ⟨only_nil, rfl⟩
    | acked => exact .inl ⟨only_nil, rfl⟩
    | ignored => exact .inl ⟨only_nil, rfl⟩

inductive Rings (ex : Externals) (w : World) (ctx : Context) (wsi : Wsi) : Callback → Outcome → Prop where
  | still (callback : Callback) (out : Outcome) : Only Event.Still out.events →
      out.ctx.gatewayRing = ctx.gatewayRing → Rings ex w ctx wsi callback out
  | parsed (callback : Callback) (seen : Context) (text : Text) (before : List Event) (inner out : Outcome) :
      Only Event.Still before → seen.gatewayRing = ctx.gatewayRing → Parsed ex w seen text inner →
      out.events = before ++ .parsed text :: inner.events → out.ctx.gatewayRing = inner.ctx.gatewayRing →
      Rings ex w ctx wsi callback out
  | consumed (payload : GatewayPayload) (between : List Event) (out : Outcome) :
      ctx.gatewayRing.items = payload :: out.ctx.gatewayRing.items → Only Event.Still between →
      (out.events = .dequeued payload.payload :: between ∨
        out.events = .dequeued payload.payload :: between ++ [.written wsi payload.payload]) →
      Rings ex w ctx wsi .clientWriteable out

theorem Called.rings {w : World} {ctx : Context} {wsi : Wsi} {callback : Callback} {out : Outcome}
    (called : Called ex w ctx wsi callback out) : Rings ex w ctx wsi callback out := by
  have apart : ∀ e : Event, e.Apart → e.Still := fun e apart => by cases e <;> trivial
  have copied : ∀ e : Event, e.Copied → e.Still := fun e copied => by cases e <;> trivial
  cases called with
  | neutral => exact .still _ _ only_nil rfl
  | failed _ _ only => exact .still _ _ (only.mono apart) rfl
  | destroyed => exact .still _ _ only_nil rfl
  | established _ _ only => exact .still _ _ (only.mono apart) rfl
  | buffered _ _ _ _ only => exact .still _ _ (only.mono copied) rfl
  | parsed _ buffer len text events inner only parsed =>
    exact .parsed _ { ctx with gatewayRxBuffer := buffer, gatewayRxBufferLen := len } text events inner _
      (only.mono copied) rfl parsed rfl rfl
  | drained => exact .still _ _ only_nil rfl
  | consumed payload ring ret events _ items only =>
    refine .consumed payload events _ items (only.mono apart) ?_
    split
    · exact .inl (List.append_nil _)
    · exact .inr rfl
  | closed _ _ _ _ only => exact .still _ _ (only.mono apart) rfl

theorem InTurn.queue {openers : List Wsi} (good : InTurn turn latest waiting)
    (greeted : latest ∈ turn.greeted) (opens : latest ∈ openers) :
    InTurn (turn.queue openers) latest (waiting + 1) := by
  refine ⟨good.ordered, ?_, fun fresh => absurd greeted fresh, fun other member => ?_⟩
  · rw [Turn.queue, List.length_append, good.paired]
    rfl
  · rcases List.mem_append.mp member with old | new
    · exact good.own other old
    · rw [List.mem_singleton.mp new]
      exact opens

theorem InTurn.greet (good : InTurn turn latest waiting) (here : turn.heard = latest) :
    InTurn { turn with greeted := turn.heard :: turn.greeted } latest waiting := by
  refine ⟨good.ordered, good.paired, fun fresh => ?_, good.own⟩
  exact absurd (List.mem_cons.mpr (.inl here.symm)) fresh

theorem InTurn.connect (good : InTurn turn latest 0) (wsi : Wsi) : InTurn turn wsi 0 := by
  have none : turn.openers = [] := List.length_eq_zero_iff.mp good.paired
  refine ⟨good.ordered, good.paired, fun _ => rfl, fun openers member => ?_⟩
  rw [none] at member
  cases member

theorem InTurn.parsed {w : World} {ctx : Context} {text : Text} {out : Outcome}
    (good : InTurn turn latest ctx.gatewayRing.items.length) (parsed : Parsed ex w ctx text out)
    (unhurried : ∀ payload ∈ ex.loadb text, Known payload.members → selectedOpcode payload.members = .hello →
      integerMember "op" payload.members = some 10 ∧ turn.heard = latest) :
    InTurn (out.events.foldl (Turn.observe ex) (turn.observe ex (.parsed text))) latest
      out.ctx.gatewayRing.items.length := by
  have greets : InTurn (turn.observe ex (.parsed text)) latest ctx.gatewayRing.items.length := by
    cases loaded : ex.loadb text with
    | none =>
      simp only [Turn.observe, loaded]
      exact good
    | some payload =>
      simp only [Turn.observe, loaded]
      split
      · next hello =>
        obtain ⟨_, here⟩ := unhurried payload loaded hello.1 (selectedOpcode_of_integer hello.2)
        exact good.greet here
      · exact good
  rcases parsed.ring with ⟨still, same⟩ | ⟨payload, events, handshake, loaded, known, hello, still, all, more⟩
  · rw [foldl_still still, same]
    exact greets
  · obtain ⟨op, here⟩ := unhurried payload loaded known hello
    have greeting : turn.observe ex (.parsed text) =
        { turn with greeted := turn.heard :: turn.greeted } := by
      simp only [Turn.observe, loaded, if_pos (show IsPayload 10 payload from ⟨known, op⟩)]
    have greeted : latest ∈ (turn.observe ex (.parsed text)).greeted := by
      rw [greeting, here]
      exact List.mem_cons_self
    have heard : (turn.observe ex (.parsed text)).heard = latest := by
      rw [greeting]
      exact here
    rw [all, more, List.foldl_append, foldl_still still]
    apply greets.queue greeted
    rw [heard]
    exact List.mem_filter.mpr ⟨greeted, decide_eq_true rfl⟩

theorem InTurn.consumed (ex : Externals) {wsi : Wsi} (text : Text)
    (good : InTurn turn latest (waiting + 1)) (here : wsi = latest) :
    InTurn (turn.observe ex (.dequeued text)) latest waiting ∧
      InTurn ((turn.observe ex (.dequeued text)).observe ex (.written wsi text)) latest waiting := by
  obtain ⟨openers, rest, same⟩ : ∃ openers rest, turn.openers = openers :: rest := by
    cases same : turn.openers with
    | nil =>
      have paired := good.paired
      rw [same] at paired
      cases paired
    | cons openers rest => exact ⟨openers, rest, rfl⟩
  have greeted : wsi ∈ turn.greeted :=
    here ▸ Decidable.not_not.mp fun fresh => nomatch good.awaited fresh
  have opens := good.own
  have paired := good.paired
  rw [same] at paired opens
  have shorter : rest.length = waiting := Nat.succ.inj paired
  have kept : ∀ other ∈ rest, latest ∈ other := fun other member => opens other (by simp [member])
  have inHand : wsi ∈ openers := here ▸ opens openers (by simp)
  constructor
  · refine ⟨good.ordered, ?_, fun fresh => absurd (here ▸ greeted) fresh, ?_⟩
    · simpa [Turn.observe, same] using shorter
    · simpa [Turn.observe, same] using kept
  · refine ⟨?_, ?_, fun fresh => absurd (here ▸ greeted) fresh, ?_⟩
    · simp [Turn.observe, same, good.ordered, greeted, inHand]
    · simpa [Turn.observe, same] using shorter
    · simpa [Turn.observe, same] using kept

theorem InTurn.called {w : World} {ctx : Context} {wsi : Wsi} {callback : Callback} {out : Outcome}
    (good : InTurn turn latest ctx.gatewayRing.items.length) (called : Called ex w ctx wsi callback out)
    (writable : ctx.gatewayRing.items ≠ [] → callback = .clientWriteable → wsi = latest)
    (unhurried : ∀ text ∈ parsedTexts out.events, ∀ payload ∈ ex.loadb text, Known payload.members →
      selectedOpcode payload.members = .hello →
      integerMember "op" payload.members = some 10 ∧ turn.heard = latest) :
    InTurn (out.events.foldl (Turn.observe ex) turn) latest out.ctx.gatewayRing.items.length := by
  cases called.rings with
  | still _ _ still ring =>
    rw [foldl_still still, ring]
    exact good
  | parsed _ seen text before inner _ still old parsed events ring =>
    have first : Only Event.Uncounted before := still.mono fun e still => still.uncounted
    rw [events, parsedTexts_one first parsed.uncounted] at unhurried
    rw [events, List.foldl_append, List.foldl_cons, foldl_still still, ring]
    apply (old ▸ good).parsed parsed
    exact unhurried text (List.mem_singleton.mpr rfl)
  | consumed payload between _ items still events =>
    have waits : ctx.gatewayRing.items ≠ [] := by
      rw [items]
      exact nofun
    have here : wsi = latest := writable waits rfl
    rw [items] at good
    obtain ⟨taken, written⟩ := good.consumed ex payload.payload here
    rcases events with events | events
    · rw [events, List.foldl_cons, foldl_still still]
      exact taken
    · rw [events, List.cons_append, List.foldl_cons, List.foldl_append, foldl_still still]
      exact written

theorem turn_still {events : List Event} (history : next.history = s.history ++ events)
    (still : Only Event.Still events) : next.turn ex = s.turn ex := by
  rw [System.turn, history]
  exact (turnMonitor ex).after_ignored fun e member => turn_ignores e (still e member)

theorem inTurn_step (good : InTurn (s.turn ex) s.wsis s.ctx.gatewayRing.items.length)
    (unhurried : Unhurried ex s m next) (stepped : step ex s m = some next) :
    InTurn (next.turn ex) next.wsis next.ctx.gatewayRing.items.length := by
  obtain ⟨emptied, awaited, writable, parses⟩ := unhurried
  cases step_acts stepped with
  | idle events _ _ history only asked wsis =>
    obtain ⟨_, _, _, _, _, same⟩ := asked
    rw [turn_still history (only.mono fun e idle => idle.still), same, wsis]
    exact good
  | connecting events wsi ctx _ _ history only asked same wsis =>
    obtain ⟨_, _, _, _, _, rfl⟩ := asked
    have still : Only Event.Still (events ++ [.connecting (s.wsis + 1)]) :=
      (only_append _ _).mpr ⟨only.mono fun e idle => idle.still, by simp [Event.Still]⟩
    rw [turn_still history still, same, wsis]
    have empty : s.ctx.gatewayRing.items = [] :=
      emptied fun unchanged => Nat.succ_ne_self _ (wsis.symm.trans unchanged)
    rw [empty] at good ⊢
    exact good.connect _
  | missed _ _ history same wsis =>
    rw [turn_still history (by simp [Event.Still]), same, wsis]
    exact good
  | queued later ring text events _ beats appended _ history only same wsis =>
    have greeted := awaited beats
    rw [System.turn, history, same, wsis, Monitor.after_append, List.foldl_cons,
      (turnMonitor ex).foldl_ignored fun e member => turn_ignores e (only e member).still]
    dsimp only
    rw [appended.1, List.length_append]
    exact good.queue greeted greeted
  | called wsi callback w out move ran history same wsis =>
    have heard : InTurn { s.turn ex with heard := wsi } s.wsis s.ctx.gatewayRing.items.length :=
      ⟨good.ordered, good.paired, good.awaited, good.own⟩
    have total : next.turn ex = out.events.foldl (Turn.observe ex) { s.turn ex with heard := wsi } := by
      rw [System.turn, history, Monitor.after_append]
      rfl
    rw [total, same, wsis]
    refine heard.called (lwsCallback_some ran) (fun waits writes => ?_) fun text member payload loaded => ?_
    · apply writable waits wsi
      rw [move, writes]
      rfl
    · intro known hello
      rw [move] at parses
      obtain ⟨op, here⟩ := (forParsed_delivered history).mp parses text member payload loaded known hello
      exact ⟨op, Option.some.inj here⟩

/-- In a run whose steps are all unhurried nothing is sent on a connection before its HELLO, nor ahead
of what its HELLO starts. -/
theorem nothing_before_hello (moves : List Move) (booted : Booted ex s)
    (unhurried : Each (step ex) (Unhurried ex) s moves) : Always (step ex) (Ordered ex) s moves := by
  have start : InTurn (s.turn ex) s.wsis s.ctx.gatewayRing.items.length := by
    obtain ⟨history, _, _, _, _, _, _, _, empty, _⟩ := booted.fresh
    rw [System.turn, history, empty]
    exact ⟨rfl, rfl, fun _ => rfl, nofun⟩
  have inTurn := always_of_each (fun s => InTurn (s.turn ex) s.wsis s.ctx.gatewayRing.items.length)
    (fun _ _ _ => inTurn_step) start unhurried
  exact inTurn.mono fun _ good => good.ordered

/-- What is wanted: every run keeps the order. -/
def AlwaysOrdered (ex : Externals) : Prop :=
  ∀ s moves final, Booted ex s → run (step ex) s moves = some final → Ordered ex final

/-- A new connection is sent what the last one left in the ring. -/
theorem sent_before_hello : ¬AlwaysOrdered heartbeatExternals := by
  intro ordered
  have reached : (run (step heartbeatExternals) (.ofBot heartbeatExternals 16 99)
      (afterHeartbeat (Move.serving 104 1 [.wsiDestroy] ++
        Move.serving 105 2 [.clientEstablished, .clientWriteable]))).map
      (fun s => (s.turn heartbeatExternals).early) = some true := by decide +kernel
  obtain ⟨final, ran, early⟩ := Option.map_eq_some_iff.mp reached
  exact nomatch early.symm.trans (ordered _ _ final (booted_ofBot _ 16 99) ran)

theorem nothing_before_hello_written :
    Always (step heartbeatExternals) (Ordered heartbeatExternals) (.ofBot heartbeatExternals 16 99)
      (afterHeartbeat (Move.serving 104 1 [.clientWriteable, .clientWriteable])) :=
  nothing_before_hello _ (booted_ofBot _ 16 99) (by decide +kernel)

end

end Libdiscord
