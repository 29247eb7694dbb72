import Libdiscord.Bootstrap
import Libdiscord.Gateway.Effects

/-! What each step of the system can do. -/

set_option autoImplicit false

namespace Libdiscord

open Libdiscord.Base

variable {ex : Externals} {s next : System} {m : Move}

-- The connection a callback is for.
def Move.wsi? : Move → Option Wsi
  | .callback wsi _ _ => some wsi
  | _ => none

inductive Attempts (s : System) : Move → Http → Bool → Caller → Prop where
  | service (w : ServiceWorld) : s.ctx.lwsWsi = none → Attempts s (.service w) w.http w.created .service
  | connect (http : Http) (created : Bool) : Attempts s (.connect http created) http created .connect

inductive Stepped (ex : Externals) (s : System) : Move → System → Prop where
  | refused {m : Move} (http : Http) (created : Bool) (caller : Caller) (out : Outcome) : s.control = .bot →
      Attempts s m http created caller → s.ctx.bootstrap ex http = some out → out.ret ≠ .ok →
      Stepped ex s m (s.returning out caller (connectError out.ret caller))
  | attempted {m : Move} (http : Http) (created : Bool) (caller : Caller) (out : Outcome) : s.control = .bot →
      Attempts s m http created caller → s.ctx.bootstrap ex http = some out → out.ret = .ok →
      Stepped ex s m {
        ctx := { out.ctx with lwsWsi := if created then some (s.wsis + 1) else none }
        control := .connecting caller
        wsis := s.wsis + 1
        clock := s.clock
        history := s.history ++ (out.events ++ [.connecting (s.wsis + 1)]) }
  | alarmed (w : ServiceWorld) (out : Outcome) : s.control = .bot → s.ctx.lwsWsi.isSome →
      Beat ex s.ctx w.now w.later out → out.ret ≠ .ok →
      Stepped ex s (.service w) (({ s with clock := w.later } : System).returning out .service out.ret)
  | served (w : ServiceWorld) (out : Outcome) : s.control = .bot → s.ctx.lwsWsi.isSome →
      Beat ex s.ctx w.now w.later out → out.ret = .ok →
      Stepped ex s (.service w) {
        ctx := out.ctx, control := .serving, wsis := s.wsis, clock := w.later
        history := s.history ++ (out.events ++ requestWritable out.ctx) }
  | called (wsi : Wsi) (callback : Callback) (w : World) (out : Outcome) : s.control ≠ .bot →
      lwsCallback ex w s.ctx wsi callback = some out →
      Stepped ex s (.callback wsi callback w) {
        ctx := out.ctx, control := s.control, wsis := s.wsis, clock := w.now
        history := s.history ++ (.delivered wsi callback :: out.events) }
  | left (caller : Caller) (status : Status) : s.control ≠ .bot →
      (s.control = .connecting caller ∧ status = connectStatus s.ctx caller ∨
        s.control = .serving ∧ caller = .service ∧ status = .ok) →
      Stepped ex s .leave {
        ctx := s.ctx, control := .bot, wsis := s.wsis, clock := s.clock
        history := s.history ++ [.returned caller status] }

theorem enterConnect_stepped {http : Http} {created : Bool} {caller : Caller} (bot : s.control = .bot)
    (attempts : Attempts s m http created caller)
    (entered : enterConnect ex http created caller s = some next) : Stepped ex s m next := by
  unfold enterConnect at entered
  obtain ⟨out, ran, rfl⟩ := Option.map_eq_some_iff.mp entered
  by_cases ok : out.ret = .ok
  · have reached := Stepped.attempted http created caller out bot attempts ran ok
    simpa [ok, System.after, Context.gatewayConnect] using reached
  · have reached := Stepped.refused http created caller out bot attempts ran ok
    simpa [ok] using reached

theorem step_stepped (stepped : step ex s m = some next) : Stepped ex s m next := by
  cases m with
  | service w =>
    by_cases bot : s.control = .bot
    case neg => simp [step, bot] at stepped
    simp only [step, bot, if_true] at stepped
    unfold enterService at stepped
    cases missing : s.ctx.lwsWsi with
    | none =>
      simp only [missing, Option.isNone_none, if_true] at stepped
      exact enterConnect_stepped bot (.service w missing) stepped
    | some wsi =>
      have connected : s.ctx.lwsWsi.isSome := by simp [missing]
      have beat := heartbeatBlock_beat ex s.ctx w.now w.later
      simp only [missing, Option.isNone_some] at stepped
      generalize heartbeatBlock ex s.ctx w.now w.later = out at stepped beat
      by_cases ok : out.ret = .ok
      · have reached := Stepped.served w out bot connected beat ok
        simp only [ok, ne_eq, not_true, if_false] at stepped
        exact Option.some.inj stepped ▸ reached
      · have reached := Stepped.alarmed w out bot connected beat ok
        simp only [ok, ne_eq, not_false_iff, if_true] at stepped
        exact Option.some.inj stepped ▸ reached
  | connect http created =>
    by_cases bot : s.control = .bot
    case neg => simp [step, bot] at stepped
    simp only [step, bot, if_true] at stepped
    exact enterConnect_stepped bot (.connect http created) stepped
  | callback wsi callback w =>
    by_cases bot : s.control = .bot
    case pos => simp [step, bot] at stepped
    simp only [step, bot, if_false] at stepped
    obtain ⟨out, ran, rfl⟩ := Option.map_eq_some_iff.mp stepped
    exact .called wsi callback w out bot ran
  | leave =>
    cases control : s.control with
    | bot => simp [step, control] at stepped
    | connecting caller =>
      simp only [step, control, Option.some.injEq] at stepped
      subst stepped
      exact .left caller _ (by simp [control]) (.inl ⟨control, rfl⟩)
    | serving =>
      simp only [step, control, Option.some.injEq] at stepped
      subst stepped
      exact .left .service .ok (by simp [control]) (.inr ⟨control, rfl, rfl⟩)

def Alarms (s : System) : Move → Prop
  | .service w => s.ctx.lwsWsi.isSome = true ∧ heartbeatDue s.ctx w.now = true ∧ 0 < s.ctx.hbCount
  | _ => False

instance (s : System) (m : Move) : Decidable (Alarms s m) := by
  unfold Alarms
  split <;> infer_instance

def Beats (s : System) : Move → Prop
  | .service w => s.ctx.lwsWsi.isSome = true ∧ heartbeatDue s.ctx w.now = true ∧ s.ctx.hbCount ≤ 0 ∧
      s.ctx.gatewayRing.items.length < s.ctx.gatewayRing.capacity
  | _ => False

instance (s : System) (m : Move) : Decidable (Beats s m) := by
  unfold Beats
  split <;> infer_instance

theorem alarms_waiting (alarms : Alarms s m) : 0 < s.ctx.hbCount := by
  cases m with
  | service w => exact alarms.2.2
  | connect => cases alarms
  | callback => cases alarms
  | leave => cases alarms

theorem Beats.quiet (beats : Beats s m) : s.ctx.hbCount ≤ 0 := by
  cases m with
  | service w => exact beats.2.2.1
  | connect => cases beats
  | callback => cases beats
  | leave => cases beats

theorem Beats.calm (beats : Beats s m) : ¬Alarms s m := by
  intro alarms
  have waiting := alarms_waiting alarms
  have quiet := beats.quiet
  omega

/-- Events in which the gateway takes no part; the one return value that speaks of it is no such
event. -/
def Event.Idle : Event → Prop
  | .exchanged _ _ | .writableRequested | .returned .connect _ => True
  | .returned .service status => status ≠ .websocketHeartbeatAcknowledegementMissed
  | _ => False

/-- What a step does to the gateway: nothing, or it starts a connection, raises the alarm, queues a
heartbeat, or runs a callback. -/
inductive Acts (ex : Externals) (s : System) (m : Move) (next : System) : Prop where
  | idle (events : List Event) : m.wsi? = none → ¬Alarms s m → next.history = s.history ++ events →
      Only Event.Idle events → Asked s.ctx next.ctx → next.wsis = s.wsis → Acts ex s m next
  | connecting (events : List Event) (wsi : Option Wsi) (ctx : Context) : m.wsi? = none → ¬Alarms s m →
      next.history = s.history ++ (events ++ [.connecting (s.wsis + 1)]) → Only Event.Idle events →
      Asked s.ctx ctx → next.ctx = { ctx with lwsWsi := wsi } → next.wsis = s.wsis + 1 → Acts ex s m next
  | missed : m.wsi? = none → Alarms s m → next.history = s.history ++
      [.returned .service .websocketHeartbeatAcknowledegementMissed] →
      next.ctx = { s.ctx with hbCount := s.ctx.hbCount + 1 } → next.wsis = s.wsis → Acts ex s m next
  | queued (later : UInt64) (ring : BoundedQueue GatewayPayload) (text : Text) (events : List Event) :
      m.wsi? = none → Beats s m → Appended s.ctx.gatewayRing ring text →
      text = ex.dumps (Json.createPayload (.integer 1) (some (.integer s.ctx.lastSeq.toInt64)) none none) →
      next.history = s.history ++ .queued .heartbeat text :: events → Only Event.Idle events →
      next.ctx = { s.ctx with hbCount := s.ctx.hbCount + 1, gatewayRing := ring, lastHb := later } →
      next.wsis = s.wsis → Acts ex s m next
  | called (wsi : Wsi) (callback : Callback) (w : World) (out : Outcome) : m = .callback wsi callback w →
      lwsCallback ex w s.ctx wsi callback = some out →
      next.history = s.history ++ .delivered wsi callback :: out.events → next.ctx = out.ctx →
      next.wsis = s.wsis → Acts ex s m next

theorem Asked.refl (ctx : Context) : Asked ctx ctx := ⟨_, _, _, _, _, rfl⟩

theorem Attempts.calm {http : Http} {created : Bool} {caller : Caller}
    (attempts : Attempts s m http created caller) :
    m.wsi? = none ∧ ¬Alarms s m := by
  cases attempts with
  | service w missing => exact ⟨rfl, by simp [Alarms, missing]⟩
  | connect => exact ⟨rfl, id⟩

theorem connectError_idle (ret : Status) (caller : Caller) :
    Event.Idle (.returned caller (connectError ret caller)) := by
  cases caller
  · exact show Status.connectionErr ≠ _ by decide
  · trivial

theorem connectStatus_idle (ctx : Context) (caller : Caller) :
    Event.Idle (.returned caller (connectStatus ctx caller)) := by
  cases caller
  · show connectStatus ctx .service ≠ _
    unfold connectStatus
    dsimp only
    split <;> decide
  · trivial

theorem requestWritable_idle (ctx : Context) : Only Event.Idle (requestWritable ctx) := by
  unfold requestWritable
  split <;> simp [Event.Idle]

theorem Stepped.acts (stepped : Stepped ex s m next) : Acts ex s m next := by
  have web : ∀ e : Event, e.Web → e.Idle := fun e web => by cases e <;> trivial
  cases stepped with
  | refused http created caller out bot attempts ran failed =>
    obtain ⟨asked, only⟩ := bootstrap_frame ran
    have returned := connectError_idle out.ret caller
    exact .idle _ attempts.calm.1 attempts.calm.2 rfl
      ((only_append _ _).mpr ⟨only.mono web, by simp [returned]⟩) asked rfl
  | attempted http created caller out bot attempts ran ok =>
    obtain ⟨asked, only⟩ := bootstrap_frame ran
    exact .connecting out.events _ out.ctx attempts.calm.1 attempts.calm.2 rfl (only.mono web) asked rfl rfl
  | alarmed w out bot connected beat failed =>
    cases beat with
    | early => exact absurd rfl failed
    | missed due waiting => exact .missed rfl ⟨connected, due, waiting⟩ rfl rfl rfl
    | full due quiet =>
      refine .idle _ rfl (fun alarms => ?_) rfl ?_ (.refl _) rfl
      · have := alarms.2.2
        omega
      · exact (only_cons _ _).mpr
          ⟨show Status.websocketCantfitHeartbeatErr ≠ _ by decide, only_nil⟩
    | queued => exact absurd rfl failed
  | served w out bot connected beat ok =>
    cases beat with
    | early due =>
      refine .idle _ rfl (fun alarms => ?_) rfl (requestWritable_idle _) (.refl _) rfl
      exact nomatch due.symm.trans alarms.2.1
    | missed => cases ok
    | full => cases ok
    | queued ring text due quiet appended same =>
      exact .queued w.later ring text _ rfl ⟨connected, due, quiet, appended.2.2⟩ appended same rfl
        (requestWritable_idle _) rfl rfl
  | called wsi callback w out away ran => exact .called wsi callback w out rfl ran rfl rfl rfl
  | left caller status away returned =>
    have idle : Event.Idle (.returned caller status) := by
      rcases returned with ⟨_, rfl⟩ | ⟨_, rfl, rfl⟩
      · exact connectStatus_idle s.ctx caller
      · exact show Status.ok ≠ _ by decide
    exact .idle _ rfl id rfl ((only_cons _ _).mpr ⟨idle, only_nil⟩) (.refl _) rfl

theorem step_acts (stepped : step ex s m = some next) : Acts ex s m next := (step_stepped stepped).acts

end Libdiscord
