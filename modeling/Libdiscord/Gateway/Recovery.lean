import Libdiscord.Gateway.Spacing

/-! Whether a loop of `ld_service` calls gets out of a heartbeat error. -/

set_option autoImplicit false

namespace Libdiscord

open Libdiscord.Base Rest

/-- The bot calls nothing but `ld_service`, and the clock does not go back. -/
def Steady (s : System) : Move → System → Prop
  | .service w, _ => s.clock ≤ w.now ∧ w.now ≤ w.later
  | .connect _ _, _ => False
  | .callback _ _ w, _ => s.clock ≤ w.now
  | .leave, _ => True

instance (s next : System) : (m : Move) → Decidable (Steady s m next)
  | .service w => @instDecidableAnd _ _ (UInt64.decLe s.clock w.now) (UInt64.decLe w.now w.later)
  | .connect _ _ => isFalse id
  | .callback _ _ w => UInt64.decLe s.clock w.now
  | .leave => isTrue trivial

def Recovers (ex : Externals) (s : System) : Prop :=
  ∃ before w inside middle final, Each (step ex) Steady s before ∧ run (step ex) s before = some middle ∧
    Each (step ex) Steady middle (.service w :: inside) ∧
    run (step ex) middle (.service w :: inside) = some final ∧
    .returned .service .ok ∈ newEvents middle final

/-- The bot is to call `ld_service` with a connection object and a due heartbeat, and either the last
heartbeat is not acknowledged or the next one does not fit into the ring. -/
def Dead (s : System) : Prop :=
  s.control = .bot ∧ s.ctx.lwsWsi.isSome = true ∧ heartbeatDue s.ctx s.clock = true ∧
    (0 < s.ctx.hbCount ∨ s.ctx.gatewayRing.items.length = s.ctx.gatewayRing.capacity)

instance (s : System) : Decidable (Dead s) :=
  inferInstanceAs (Decidable (_ ∧ _ ∧ _ ∧ _))

section
variable {ex : Externals} {s next : System} {m : Move}

theorem Steady.forward (steady : Steady s m next) : Forward s m next := by
  cases m with
  | service => exact steady
  | connect => trivial
  | callback => exact steady
  | leave => trivial

theorem heartbeatDue_mono {ctx : Context} {now later : UInt64} (timer : ctx.lastHb ≤ now)
    (forward : now ≤ later) (due : heartbeatDue ctx now = true) : heartbeatDue ctx later = true := by
  rw [heartbeatDue_iff timer] at due
  rw [heartbeatDue_iff (UInt64.le_trans timer forward)]
  have further := UInt64.le_iff_toNat_le.mp forward
  exact ⟨by omega, due.2⟩

theorem Attempts.unconnected {http : Http} {created : Bool} {caller : Caller}
    (attempts : Attempts s m http created caller) (steady : Steady s m next) : s.ctx.lwsWsi = none := by
  cases attempts with
  | service w missing => exact missing
  | connect => exact steady.elim

theorem dead_step (timer : s.ctx.lastHb ≤ s.clock) (dead : Dead s) (steady : Steady s m next)
    (stepped : step ex s m = some next) :
    Dead next ∧ ∃ status, status ≠ .ok ∧ next.history = s.history ++ [.returned .service status] := by
  obtain ⟨bot, connected, due, stuck⟩ := dead
  have missing : s.ctx.lwsWsi ≠ none := Option.isSome_iff_ne_none.mp connected
  cases step_stepped stepped with
  | refused _ _ _ _ _ attempts => exact absurd (attempts.unconnected steady) missing
  | attempted _ _ _ _ _ attempts => exact absurd (attempts.unconnected steady) missing
  | alarmed w out _ _ beat failed =>
    have forward := UInt64.le_trans steady.1 steady.2
    have still := heartbeatDue_mono timer forward due
    cases beat with
    | early => exact absurd rfl failed
    | missed _ waiting =>
      have more : 0 < s.ctx.hbCount + 1 := by omega
      exact ⟨⟨rfl, connected, still, .inl more⟩, _, failed, rfl⟩
    | full => exact ⟨⟨rfl, connected, still, stuck⟩, _, failed, rfl⟩
    | queued => exact absurd rfl failed
  | served w out _ _ beat ok =>
    have still := heartbeatDue_mono timer steady.1 due
    cases beat with
    | early quiet => exact nomatch quiet.symm.trans still
    | missed => cases ok
    | full => cases ok
    | queued _ _ _ quiet appended =>
      obtain ⟨_, _, room⟩ := appended
      rcases stuck with waiting | full
      · omega
      · omega
  | called _ _ _ _ away => exact absurd bot away
  | left _ _ away => exact absurd bot away

theorem dead_forever {final : System} (timer : s.ctx.lastHb ≤ s.clock) (dead : Dead s) (moves : List Move)
    (steady : Each (step ex) Steady s moves) (ran : run (step ex) s moves = some final) :
    final.ctx.lastHb ≤ final.clock ∧ Dead final ∧
      ∃ events, final.history = s.history ++ events ∧ .returned .service .ok ∉ events := by
  refine invariant_of_each (fun now => now.ctx.lastHb ≤ now.clock ∧ Dead now ∧
    ∃ events, now.history = s.history ++ events ∧ .returned .service .ok ∉ events) ?_
    ⟨timer, dead, [], by simp, by simp⟩ steady ran
  rintro now m next ⟨timer, dead, events, history, none⟩ steady stepped
  obtain ⟨dead', status, failed, returned⟩ := dead_step timer dead steady stepped
  refine ⟨timer_step timer steady.forward stepped, dead', events ++ [.returned .service status], ?_, ?_⟩
  · rw [returned, history, List.append_assoc]
  · simp [none, Ne.symm failed]

theorem not_recovers_of_dead (timer : s.ctx.lastHb ≤ s.clock) (dead : Dead s) : ¬Recovers ex s := by
  rintro ⟨before, w, inside, middle, final, steadyBefore, reached, steadyAfter, served, returned⟩
  obtain ⟨timer, dead, _⟩ := dead_forever timer dead before steadyBefore reached
  obtain ⟨_, _, events, history, none⟩ := dead_forever timer dead (.service w :: inside) steadyAfter served
  rw [newEvents_of_append history] at returned
  exact none returned

theorem returns_ok {w : ServiceWorld} {events : List Event} (entered : step ex s (.service w) = some next)
    (history : next.history = s.history ++ events)
    (inside : next.control = .serving ∨ next.control = .connecting .service ∧ next.ctx.lwsWsi.isSome = true) :
    ∃ final, run (step ex) s [.service w, .leave] = some final ∧
      .returned .service .ok ∈ newEvents s final := by
  have left : step ex next .leave = some (next.returning ⟨next.ctx, .ok, []⟩ .service .ok) := by
    rcases inside with serving | ⟨connecting, object⟩
    · simp only [step, serving]
    · simp [step, connecting, connectStatus, Context.connectReturn, Option.isSome_iff_ne_none.mp object]
  refine ⟨_, by rw [run_cons, entered, Option.bind_some, run_cons, left, Option.bind_some, run_nil], ?_⟩
  have returned : (next.returning ⟨next.ctx, .ok, []⟩ .service .ok).history =
      s.history ++ (events ++ [.returned .service .ok]) := by
    simp [System.returning, System.after, history]
  rw [newEvents_of_append returned]
  simp

theorem serves_beat (bot : s.control = .bot) (connected : s.ctx.lwsWsi.isSome = true)
    (calm : (heartbeatBlock ex s.ctx s.clock s.clock).ret = .ok) :
    ∃ final, run (step ex) s [.service (.calm s.clock), .leave] = some final ∧
      .returned .service .ok ∈ newEvents s final := by
  have present : s.ctx.lwsWsi ≠ none := Option.isSome_iff_ne_none.mp connected
  have entered : step ex s (.service (.calm s.clock)) = some { s with
      ctx := (heartbeatBlock ex s.ctx s.clock s.clock).ctx, control := .serving
      history := s.history ++ ((heartbeatBlock ex s.ctx s.clock s.clock).events ++
        requestWritable (heartbeatBlock ex s.ctx s.clock s.clock).ctx) } := by
    simp [step, bot, enterService, present, ServiceWorld.calm, calm, System.after]
  exact returns_ok entered rfl (.inl rfl)

theorem webAnswer_supplies (decodes : ex.loads (some webAnswer.encode) = some webAnswer) :
    (Exchange.answer webAnswer.encode).url ex = some (ascii "wss://gateway.discord.gg") ∧
      (Exchange.answer webAnswer.encode).shards ex = 1 := by
  have body : (Exchange.answer webAnswer.encode).body = some webAnswer.encode := by
    simp [Exchange.body, Exchange.answer]
  rw [Exchange.url, Exchange.shards, Exchange.member?, Exchange.member?, body, decodes]
  exact ⟨rfl, rfl⟩

theorem enterConnect_answering (s : System) (caller : Caller)
    (decodes : ex.loads (some webAnswer.encode) = some webAnswer) :
    ∃ ctx events, Asked s.ctx ctx ∧ enterConnect ex (.answering webAnswer.encode noUser) true caller s = some {
      ctx := { ctx with lwsWsi := some (s.wsis + 1) }, control := .connecting caller
      wsis := s.wsis + 1, clock := s.clock
      history := s.history ++ (events ++ [.connecting (s.wsis + 1)]) } := by
  obtain ⟨out, ran⟩ := Option.isSome_iff_exists.mp
    (bootstrap_total ex (.answering webAnswer.encode noUser) s.ctx)
  obtain ⟨supplied, counted⟩ := webAnswer_supplies decodes
  have ok := bootstrap_answering noUser supplied (by rw [counted]; decide) ran
  refine ⟨out.ctx, out.events, (bootstrap_frame ran).1, ?_⟩
  simp [enterConnect, ran, ok, System.after, Context.gatewayConnect]

theorem serves_connect (bot : s.control = .bot) (missing : s.ctx.lwsWsi = none)
    (decodes : ex.loads (some webAnswer.encode) = some webAnswer) :
    ∃ final, run (step ex) s [.service (.calm s.clock), .leave] = some final ∧
      .returned .service .ok ∈ newEvents s final := by
  obtain ⟨ctx, events, _, entered⟩ := enterConnect_answering s .service decodes
  have same : step ex s (.service (.calm s.clock)) =
      enterConnect ex (.answering webAnswer.encode noUser) true .service s := by
    simp only [step, bot, if_true, enterService, missing, Option.isNone_none, ServiceWorld.calm]
  exact returns_ok (same.trans entered) rfl (.inr ⟨rfl, rfl⟩)

theorem heartbeatBlock_alive (bot : s.control = .bot) (connected : s.ctx.lwsWsi.isSome = true)
    (alive : ¬Dead s) :
    (heartbeatBlock ex s.ctx s.clock s.clock).ret = .ok := by
  have beat := heartbeatBlock_beat ex s.ctx s.clock s.clock
  generalize heartbeatBlock ex s.ctx s.clock s.clock = out at beat
  cases beat with
  | early => rfl
  | missed due waiting => exact absurd ⟨bot, connected, due, .inl waiting⟩ alive
  | full due _ full => exact absurd ⟨bot, connected, due, .inr full⟩ alive
  | queued => rfl

theorem leaves (ex : Externals) {s : System} (away : s.control ≠ .bot) :
    ∃ idle, step ex s .leave = some idle ∧ idle.control = .bot ∧ idle.ctx = s.ctx := by
  cases control : s.control with
  | bot => exact absurd control away
  | connecting caller =>
    exact ⟨s.returning ⟨s.ctx, .ok, []⟩ caller (connectStatus s.ctx caller), by simp [step, control],
      rfl, rfl⟩
  | serving => exact ⟨s.returning ⟨s.ctx, .ok, []⟩ .service .ok, by simp [step, control], rfl, rfl⟩

theorem loses_connection (ex : Externals) {s : System} (away : s.control ≠ .bot) :
    ∃ idle, Each (step ex) Steady s [.callback 0 .wsiDestroy (.calm s.clock), .leave] ∧
      run (step ex) s [.callback 0 .wsiDestroy (.calm s.clock), .leave] = some idle ∧
      idle.control = .bot ∧ idle.ctx.lwsWsi = none := by
  have steady : Each (step ex) Steady s [.callback 0 .wsiDestroy (.calm s.clock), .leave] :=
    fun _ _ => ⟨UInt64.le_refl _, fun _ _ => ⟨trivial, trivial⟩⟩
  have lost : step ex s (.callback 0 .wsiDestroy (.calm s.clock)) = some { s with
      ctx := { s.ctx with lwsWsi := none }, history := s.history ++ [.delivered 0 .wsiDestroy] } := by
    simp [step, away, lwsCallback, System.after, World.calm]
  obtain ⟨idle, left, bot, ctx⟩ := leaves ex (s := { s with
    ctx := { s.ctx with lwsWsi := none }, history := s.history ++ [.delivered 0 .wsiDestroy] }) away
  refine ⟨idle, steady, ?_, bot, ?_⟩
  · rw [run_cons, lost, Option.bind_some, run_cons, left, Option.bind_some, run_nil]
  · rw [ctx]

theorem recovers_of_alive (decodes : ex.loads (some webAnswer.encode) = some webAnswer) (alive : ¬Dead s) :
    Recovers ex s := by
  have steady : ∀ s : System, Each (step ex) Steady s [.service (.calm s.clock), .leave] :=
    fun s _ _ => ⟨⟨UInt64.le_refl _, UInt64.le_refl _⟩, fun _ _ => ⟨trivial, trivial⟩⟩
  by_cases bot : s.control = .bot
  · cases connected : s.ctx.lwsWsi with
    | none =>
      obtain ⟨final, ran, returned⟩ := serves_connect bot connected decodes
      exact ⟨[], _, _, s, final, trivial, rfl, steady s, ran, returned⟩
    | some wsi =>
      have connected : s.ctx.lwsWsi.isSome = true := by rw [connected]; rfl
      obtain ⟨final, ran, returned⟩ := serves_beat bot connected (heartbeatBlock_alive bot connected alive)
      exact ⟨[], _, _, s, final, trivial, rfl, steady s, ran, returned⟩
  · -- the call in progress may lose the connection, so that the next one is free to connect
    obtain ⟨idle, steadyBefore, before, bot, missing⟩ := loses_connection ex bot
    obtain ⟨final, ran, returned⟩ := serves_connect bot missing decodes
    exact ⟨_, _, _, idle, final, steadyBefore, before, steady idle, ran, returned⟩

/-- In every state that a bot reaches which calls only `ld_service`, with a clock that does not go
back, a later call can return `LDS_OK` exactly if the state is not dead. -/
theorem recovers_iff (moves : List Move) (booted : Booted ex s) (steady : Each (step ex) Steady s moves)
    (ran : run (step ex) s moves = some next) (decodes : ex.loads (some webAnswer.encode) = some webAnswer) :
    Recovers ex next ↔ ¬Dead next := by
  have timer : next.ctx.lastHb ≤ next.clock := by
    obtain ⟨_, _, _, clock, _⟩ := booted.fresh
    refine invariant_of_each (fun s => s.ctx.lastHb ≤ s.clock)
      (fun _ _ _ timer steady => timer_step timer steady.forward) ?_ steady ran
    exact clock ▸ UInt64.le_refl _
  exact ⟨fun recovers dead => not_recovers_of_dead timer dead recovers, recovers_of_alive decodes⟩

/-- What is wanted: there is a way out of every state that is reached. -/
def AlwaysRecovers (ex : Externals) : Prop :=
  ∀ s moves final, Booted ex s → Each (step ex) Steady s moves → run (step ex) s moves = some final →
    Recovers ex final

/-- No call after the first alarm returns anything but errors. -/
theorem never_recovers : ¬AlwaysRecovers heartbeatExternals := by
  intro recovers
  have reached : (run (step heartbeatExternals) (.ofBot heartbeatExternals 16 99)
      (afterHeartbeat [.service (.calm 105)])).map (fun s => decide (Dead s ∧ s.ctx.lastHb ≤ s.clock)) =
      some true := by decide +kernel
  obtain ⟨final, ran, here⟩ := Option.map_eq_some_iff.mp reached
  obtain ⟨dead, timer⟩ := of_decide_eq_true here
  exact not_recovers_of_dead timer dead (recovers _ _ final (booted_ofBot _ 16 99) (by decide +kernel) ran)

-- With one heartbeat outstanding the bot can still recover, and after the alarm it is dead.
theorem recovers_iff_queued :
    (∃ final, run (step heartbeatExternals) (.ofBot heartbeatExternals 16 99) (afterHeartbeat []) = some final ∧
      Recovers heartbeatExternals final) ∧
    ∃ final, run (step heartbeatExternals) (.ofBot heartbeatExternals 16 99)
      (afterHeartbeat [.service (.calm 105)]) = some final ∧ ¬Recovers heartbeatExternals final := by
  have alive : (run (step heartbeatExternals) (.ofBot heartbeatExternals 16 99) (afterHeartbeat [])).map
      (fun s => decide (Dead s)) = some false := by decide +kernel
  have dead : (run (step heartbeatExternals) (.ofBot heartbeatExternals 16 99)
      (afterHeartbeat [.service (.calm 105)])).map (fun s => decide (Dead s)) = some true := by decide +kernel
  obtain ⟨queued, ran, here⟩ := Option.map_eq_some_iff.mp alive
  obtain ⟨alarmed, ranToo, there⟩ := Option.map_eq_some_iff.mp dead
  have recovers := recovers_iff _ (booted_ofBot _ 16 99) (by decide +kernel) ran rfl
  have stuck := recovers_iff _ (booted_ofBot _ 16 99) (by decide +kernel) ranToo rfl
  exact ⟨⟨queued, ran, recovers.mpr (of_decide_eq_false here)⟩,
    ⟨alarmed, ranToo, fun again => stuck.mp again (of_decide_eq_true there)⟩⟩

end

end Libdiscord
