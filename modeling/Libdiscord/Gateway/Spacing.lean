import Libdiscord.Gateway.Heartbeat
import Libdiscord.Gateway.Delivery

/-! The heartbeat timer, and how far apart heartbeats are. -/

set_option autoImplicit false

namespace Libdiscord

open Libdiscord.Base

def Forward (s : System) : Move → System → Prop
  | .service w, _ => s.clock ≤ w.now ∧ w.now ≤ w.later
  | .callback _ _ w, _ => s.clock ≤ w.now
  | .connect _ _, _ | .leave, _ => True

instance (s next : System) : (m : Move) → Decidable (Forward s m next)
  | .service w => @instDecidableAnd _ _ (UInt64.decLe s.clock w.now) (UInt64.decLe w.now w.later)
  | .callback _ _ w => UInt64.decLe s.clock w.now
  | .connect _ _ | .leave => isTrue trivial

def Event.isHeartbeat : Event → Bool
  | .queued .heartbeat _ => true
  | _ => false

def queuesHeartbeat (s next : System) : Bool := (newEvents s next).any Event.isHeartbeat

/-- Whether a message that is parsed is a HELLO. One that cannot be answered reads no clock, and does
not count. -/
def greets (ex : Externals) (w : World) (ctx : Context) (events : List Event) : Bool :=
  (parsedTexts events).any fun text => (handshakeText ex w ctx text).isSome

/-- The readings of the clock taken at the last heartbeat queued, at the last HELLO and at the last
CLIENT_ESTABLISHED. -/
structure Readings where
  beat : UInt64
  hello : UInt64
  established : UInt64

-- As long as there was none, the reading that `ld_init_context` took stands in for it.
def Readings.start (now : UInt64) : Readings := ⟨now, now, now⟩

def Readings.latest (readings : Readings) : Nat :=
  max readings.beat.toNat (max readings.hello.toNat readings.established.toNat)

def Readings.hear (readings : Readings) (now : UInt64) (hello : Bool) : Callback → Readings
  | .clientEstablished => { readings with established := now }
  | _ => if hello then { readings with hello := now } else readings

def Readings.note (ex : Externals) (s : System) (m : Move) (next : System) (readings : Readings) :
    Readings :=
  match m with
  | .service w => if queuesHeartbeat s next then { readings with beat := w.later } else readings
  | .callback _ callback w => readings.hear w.now (greets ex w s.ctx (newEvents s next)) callback
  | _ => readings

/-- A heartbeat is queued by `ld_service` only, and then more milliseconds than the interval in force have
gone since the latest of the three readings. -/
def Spaced (s : System × Readings) (m : Move) (next : System × Readings) : Prop :=
  queuesHeartbeat s.1 next.1 = true → ∃ w, m = .service w ∧
    s.1.ctx.heartbeatInterval.toNat + 1000 * s.2.latest < 1000 * w.now.toNat

/-- The timer was set at the latest of the three readings, which the clock has not gone behind. -/
def InTime (s : System × Readings) : Prop :=
  s.1.ctx.lastHb.toNat = s.2.latest ∧ s.1.ctx.lastHb ≤ s.1.clock

section
variable {ex : Externals} {s next : System} {m : Move} {w : World} {ctx : Context} {readings : Readings}

theorem heartbeatDue_iff {now : UInt64} (timer : ctx.lastHb ≤ now) :
    heartbeatDue ctx now = true ↔
      ctx.heartbeatInterval.toNat / 1000 < now.toNat - ctx.lastHb.toNat ∧ ctx.heartbeatInterval ≠ 0 := by
  have elapsed : (now - ctx.lastHb).toNat = now.toNat - ctx.lastHb.toNat := UInt64.toNat_sub_of_le _ _ timer
  simp only [heartbeatDue, Bool.and_eq_true, decide_eq_true_eq, gt_iff_lt, UInt64.lt_iff_toNat_lt, elapsed]
  exact Iff.rfl

theorem queuesHeartbeat_iff :
    queuesHeartbeat s next = true ↔ ∃ text, .queued .heartbeat text ∈ newEvents s next := by
  rw [queuesHeartbeat, List.any_eq_true]
  constructor
  · rintro ⟨e, member, beat⟩
    unfold Event.isHeartbeat at beat
    split at beat
    · exact ⟨_, member⟩
    · cases beat
  · rintro ⟨text, member⟩
    exact ⟨_, member, rfl⟩

theorem queuesHeartbeat_uncounted {events : List Event} (history : next.history = s.history ++ events)
    (only : Only Event.Uncounted events) : queuesHeartbeat s next = false := by
  apply Bool.eq_false_iff.mpr
  intro queues
  obtain ⟨text, member⟩ := queuesHeartbeat_iff.mp queues
  rw [newEvents_of_append history] at member
  exact only _ member

theorem note_uncounted {events : List Event} {sw : ServiceWorld} (history : next.history = s.history ++ events)
    (only : Only Event.Uncounted events) : readings.note ex s (.service sw) next = readings := by
  rw [Readings.note, queuesHeartbeat_uncounted history only]
  rfl

theorem Attempts.note {http : Http} {created : Bool} {caller : Caller} {events : List Event}
    (attempts : Attempts s m http created caller) (history : next.history = s.history ++ events)
    (only : Only Event.Uncounted events) : readings.note ex s m next = readings := by
  cases attempts with
  | service => exact note_uncounted history only
  | connect => rfl

theorem handshakeText_buffer {text : Text} (buffer : Option (Block UInt8)) (len : Nat) :
    handshakeText ex w { ctx with gatewayRxBuffer := buffer, gatewayRxBufferLen := len } text =
      handshakeText ex w ctx text := by
  have same : (helloIdentify w { ctx with gatewayRxBuffer := buffer, gatewayRxBufferLen := len }).1 =
      (helloIdentify w ctx).1 := by
    unfold helloIdentify
    cases ctx.gatewaySessionId <;> rfl
  unfold handshakeText helloText
  rw [same]

theorem clientReceive_timer {fragment : Fragment UInt8} {out : Outcome}
    (received : clientReceive ex w ctx fragment = some out) :
    out.ctx.lastHb = if greets ex w ctx out.events then w.now else ctx.lastHb := by
  obtain ⟨buffer, len, events, copied, rfl | ⟨text, inner, parsed, rfl⟩⟩ := clientReceive_cases received
  · rw [greets, parsedTexts_uncounted (copied.mono Event.Copied.uncounted)]
    rfl
  · have after := (gatewayPayloadParser_some parsed).uncounted
    rw [greets, parsedTexts_one (copied.mono Event.Copied.uncounted) after]
    have answered := gatewayPayloadParser_answered parsed
    rw [handshakeText_buffer] at answered
    cases handshake : handshakeText ex w ctx text with
    | none =>
      rw [handshake] at answered
      simpa [handshake] using answered.2
    | some sent =>
      rw [handshake] at answered
      simpa [handshake] using answered.2.2

inductive Timed (s next : System) (readings : Readings) : Readings → Prop where
  | kept : next.ctx.lastHb = s.ctx.lastHb → Timed s next readings readings
  | beat : next.ctx.lastHb = next.clock → Timed s next readings { readings with beat := next.clock }
  | hello : next.ctx.lastHb = next.clock → Timed s next readings { readings with hello := next.clock }
  | established : next.ctx.lastHb = next.clock →
      Timed s next readings { readings with established := next.clock }

theorem Asked.lastHb {next : Context} (asked : Asked ctx next) : next.lastHb = ctx.lastHb := by
  obtain ⟨_, _, _, _, _, rfl⟩ := asked
  rfl

theorem Called.timed {wsi : Wsi} {callback : Callback} {out : Outcome}
    (called : Called ex w ctx wsi callback out) (other : callback.fragment? = none) :
    callback = .clientEstablished ∧ out.ctx.lastHb = w.now ∨
      readings.hear w.now false callback = readings ∧ out.ctx.lastHb = ctx.lastHb := by
  cases called with
  | established => exact .inl ⟨rfl, rfl⟩
  | buffered => cases other
  | parsed => cases other
  | neutral _ neutral =>
    refine .inr ⟨?_, rfl⟩
    cases callback <;> first | rfl | cases neutral
  | _ => exact .inr ⟨rfl, rfl⟩

theorem step_timed (readings : Readings) (stepped : step ex s m = some next) :
    Timed s next readings (readings.note ex s m next) := by
  have web : ∀ e : Event, e.Web → e.Uncounted := fun e web => by cases e <;> trivial
  cases step_stepped stepped with
  | refused http created caller out _ attempts ran =>
    obtain ⟨asked, only⟩ := bootstrap_frame ran
    rw [attempts.note rfl ((only_append _ _).mpr ⟨only.mono web, by simp [Event.Uncounted]⟩)]
    exact .kept asked.lastHb
  | attempted http created caller out _ attempts ran =>
    obtain ⟨asked, only⟩ := bootstrap_frame ran
    rw [attempts.note rfl ((only_append _ _).mpr ⟨only.mono web, by simp [Event.Uncounted]⟩)]
    exact .kept asked.lastHb
  | alarmed sw out _ _ beat failed =>
    have timer : out.events = [] ∧ out.ctx.lastHb = s.ctx.lastHb := by
      cases beat with
      | queued => exact absurd rfl failed
      | _ => exact ⟨rfl, rfl⟩
    rw [note_uncounted rfl (by simp [timer.1, Event.Uncounted])]
    exact .kept timer.2
  | served sw out _ _ beat ok =>
    have requested : Only Event.Uncounted (requestWritable out.ctx) :=
      (requestWritable_idle out.ctx).mono Event.Idle.uncounted
    cases beat with
    | early =>
      rw [note_uncounted rfl requested]
      exact .kept rfl
    | missed => cases ok
    | full => cases ok
    | queued =>
      rw [Readings.note, queuesHeartbeat, newEvents_of_append rfl]
      exact .beat rfl
  | called wsi callback w out _ ran =>
    rw [Readings.note, newEvents_of_append rfl]
    show Timed s _ readings (readings.hear w.now (greets ex w s.ctx out.events) callback)
    cases received : callback.fragment? with
    | none =>
      have silent := parsedTexts_unreceived (lwsCallback_unreceived received ran).2.2
      rw [greets, silent, List.any_nil]
      rcases (lwsCallback_some ran).timed received with ⟨rfl, set⟩ | ⟨same, kept⟩
      · exact .established set
      · rw [same]
        exact .kept kept
    | some fragment =>
      cases callback <;> cases received
      have timer := clientReceive_timer ran
      cases hello : greets ex w s.ctx out.events with
      | true =>
        rw [hello] at timer
        exact .hello timer
      | false =>
        rw [hello] at timer
        exact .kept timer
  | left => exact .kept rfl

theorem clock_step (forward : Forward s m next) (stepped : step ex s m = some next) :
    s.clock ≤ next.clock := by
  cases step_stepped stepped with
  | refused => exact UInt64.le_refl s.clock
  | attempted => exact UInt64.le_refl s.clock
  | alarmed => exact UInt64.le_trans forward.1 forward.2
  | served => exact UInt64.le_trans forward.1 forward.2
  | called => exact forward
  | left => exact UInt64.le_refl s.clock

theorem timer_step (timer : s.ctx.lastHb ≤ s.clock) (forward : Forward s m next)
    (stepped : step ex s m = some next) : next.ctx.lastHb ≤ next.clock := by
  have timed := step_timed (.start s.clock) stepped
  generalize Readings.note ex s m next (.start s.clock) = noted at timed
  cases timed with
  | kept same => exact same ▸ UInt64.le_trans timer (clock_step forward stepped)
  | beat same => exact same ▸ UInt64.le_refl _
  | hello same => exact same ▸ UInt64.le_refl _
  | established same => exact same ▸ UInt64.le_refl _

theorem inTime_step (inTime : InTime (s, readings)) (forward : Forward s m next)
    (stepped : step ex s m = some next) : InTime (next, readings.note ex s m next) := by
  obtain ⟨timer, behind⟩ := inTime
  refine ⟨?_, timer_step behind forward stepped⟩
  have reached : s.ctx.lastHb.toNat ≤ next.clock.toNat :=
    UInt64.le_iff_toNat_le.mp (UInt64.le_trans behind (clock_step forward stepped))
  have timed := step_timed readings stepped
  generalize readings.note ex s m next = noted at timed
  simp only [Readings.latest] at timer
  cases timed with
  | kept same => exact same ▸ timer
  | beat same =>
    simp only [same, Readings.latest]
    omega
  | hello same =>
    simp only [same, Readings.latest]
    omega
  | established same =>
    simp only [same, Readings.latest]
    omega

theorem spaced_step {noted : Readings} (inTime : InTime (s, readings)) (forward : Forward s m next)
    (stepped : step ex s m = some next) : Spaced (s, readings) m (next, noted) := by
  intro queues
  obtain ⟨timer, behind⟩ := inTime
  obtain ⟨text, queued⟩ := queuesHeartbeat_iff.mp queues
  have beats := (step_acts stepped).beats queued
  cases m with
  | service sw =>
    refine ⟨sw, rfl, ?_⟩
    have elapsed := ((heartbeatDue_iff (UInt64.le_trans behind forward.1)).mp beats.2.1).1
    dsimp only at timer elapsed ⊢
    omega
  | _ => cases beats

theorem late_step {sw : ServiceWorld} (bot : s.control = .bot) (connected : s.ctx.lwsWsi.isSome = true)
    (armed : s.ctx.heartbeatInterval ≠ 0)
    (late : s.ctx.heartbeatInterval.toNat + 1000 ≤ 1000 * (sw.now.toNat - s.ctx.lastHb.toNat)) :
    ∃ next, step ex s (.service sw) = some next ∧ (queuesHeartbeat s next = true ∨
      .returned .service .websocketHeartbeatAcknowledegementMissed ∈ newEvents s next ∨
      .returned .service .websocketCantfitHeartbeatErr ∈ newEvents s next) := by
  have present : s.ctx.lwsWsi ≠ none := Option.isSome_iff_ne_none.mp connected
  have timer : s.ctx.lastHb ≤ sw.now := UInt64.le_iff_toNat_le.mpr (by omega)
  have due : heartbeatDue s.ctx sw.now = true := (heartbeatDue_iff timer).mpr ⟨by omega, armed⟩
  have beat := heartbeatBlock_beat ex s.ctx sw.now sw.later
  simp only [step, bot, if_true, enterService, Option.isNone_iff_eq_none, present, if_false]
  generalize heartbeatBlock ex s.ctx sw.now sw.later = out at beat
  cases beat with
  | early quiet => exact absurd (quiet.symm.trans due) Bool.false_ne_true
  | missed =>
    refine ⟨_, rfl, .inr (.inl ?_)⟩
    rw [newEvents_of_append rfl]
    exact List.mem_singleton_self _
  | full =>
    refine ⟨_, rfl, .inr (.inr ?_)⟩
    rw [newEvents_of_append rfl]
    exact List.mem_singleton_self _
  | queued =>
    refine ⟨_, rfl, .inl ?_⟩
    rw [queuesHeartbeat, newEvents_of_append rfl]
    rfl

/-- With a clock that does not go back, heartbeats are spaced by more than the interval in force; and a
call that finds the interval exceeded by a second queues a heartbeat or returns an error of the heartbeat
block. -/
theorem heartbeats_spaced (moves : List Move) (booted : Booted ex s) (forward : Each (step ex) Forward s moves) :
    Each (watched (step ex) (Readings.note ex)) Spaced (s, .start s.clock) moves ∧
    ∀ now sw, now.control = .bot → now.ctx.lwsWsi.isSome = true → now.ctx.heartbeatInterval ≠ 0 →
      now.ctx.heartbeatInterval.toNat + 1000 ≤ 1000 * (sw.now.toNat - now.ctx.lastHb.toNat) →
      ∃ next, step ex now (.service sw) = some next ∧ (queuesHeartbeat now next = true ∨
        .returned .service .websocketHeartbeatAcknowledegementMissed ∈ newEvents now next ∨
        .returned .service .websocketCantfitHeartbeatErr ∈ newEvents now next) := by
  refine ⟨?_, fun now sw => late_step⟩
  obtain ⟨_, _, _, clock, _⟩ := booted.fresh
  have start : InTime (s, .start s.clock) := ⟨by simp [Readings.latest, Readings.start, clock], by simp [clock]⟩
  have watching : Each (watched (step ex) (Readings.note ex)) (fun s m next => Forward s.1 m next.1)
      (s, .start s.clock) moves := each_watched.mpr forward
  refine each_of_invariant InTime ?_ ?_ start watching
  · rintro ⟨s, readings⟩ m ⟨next, noted⟩ inTime forward stepped
    obtain ⟨ran, same⟩ := watched_some stepped
    have same : noted = readings.note ex s m next := same
    rw [same]
    exact inTime_step inTime forward ran
  · rintro ⟨s, readings⟩ m ⟨next, noted⟩ inTime forward stepped
    exact spaced_step inTime forward (watched_some stepped).1

/-- HELLO asks for a heartbeat every second, and one is queued two seconds later. -/
theorem heartbeats_spaced_second :
    Each (watched (step heartbeatExternals) (Readings.note heartbeatExternals)) Spaced
      (.ofBot heartbeatExternals 16 99, .start 99) (afterHeartbeat []) ∧
    (run (step heartbeatExternals) (.ofBot heartbeatExternals 16 99) (afterHeartbeat [])).any
      (·.history.any Event.isHeartbeat) = true :=
  ⟨(heartbeats_spaced _ (booted_ofBot heartbeatExternals 16 99) (by decide +kernel)).1, by decide +kernel⟩

end

end Libdiscord
