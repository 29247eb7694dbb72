import Libdiscord.Gateway.Identity
import Libdiscord.Gateway.Obtained
import Libdiscord.Rest.Wire

/-! The requests that the library makes with the curl handle of a context. -/

set_option autoImplicit false

namespace Libdiscord

open Libdiscord.Base Rest

def Endpoint.request (botToken : Option Text) : Endpoint → Request
  | .gateway => Rest.getGateway (initRequest none)
  | .gatewayBot => Rest.getGatewayBot botToken (initRequest none)
  | .currentUser =>
    { initRequest (some botToken) with verb := .get, endpoint := some (ascii "/users/@me") }

def Event.call? (botToken : Option Text) : Event → Option Rest.Call
  | .exchanged endpoint exchange => some ⟨endpoint.request botToken, exchange⟩
  | _ => none

def webCalls (botToken : Option Text) (events : List Event) : List Rest.Call := events.filterMap (Event.call? botToken)

def Sends (ctx : Context) (events : List Event) (next : Context) : Prop :=
  run send ctx.curlHandle (webCalls ctx.botToken events) = some next.curlHandle ∧ next.botToken = ctx.botToken

/-- Where libwebsockets has had control, everything that a connection attempt asks the web servers for is there. -/
def Prepared (s : System) : Prop := s.control ≠ .bot ∨ s.ctx.lwsWsi.isSome = true → s.ctx.Complete

section
variable {ex : Externals} {s next : System} {m : Move} {ctx middle final : Context} {events more : List Event}
  {http : Http} {out : Outcome}

theorem Endpoint.request_sendable (botToken : Option Text) (endpoint : Endpoint) :
    (endpoint.request botToken).Sendable := by
  cases endpoint <;> exact ⟨.inl rfl, rfl, rfl⟩

theorem Endpoint.request_get (botToken : Option Text) (endpoint : Endpoint) :
    (endpoint.request botToken).verb = .get := by
  cases endpoint <;> rfl

theorem mem_webCalls {botToken : Option Text} {call : Rest.Call} (member : call ∈ webCalls botToken events) :
    ∃ endpoint : Endpoint, call.request = endpoint.request botToken := by
  obtain ⟨e, _, called⟩ := List.mem_filterMap.mp member
  cases e with
  | exchanged endpoint exchange =>
    cases called
    exact ⟨endpoint, rfl⟩
  | _ => cases called

theorem webCalls_unasked {botToken : Option Text} (unasked : Only Event.Unasked events) :
    webCalls botToken events = [] :=
  unasked.filterMap fun e kind => by cases e <;> first | rfl | cases kind

theorem Sends.kept (handle : final.curlHandle = ctx.curlHandle) (token : final.botToken = ctx.botToken)
    (unasked : Only Event.Unasked events) : Sends ctx events final := by
  refine ⟨?_, token⟩
  rw [webCalls_unasked unasked, handle]
  rfl

theorem Sends.trans (first : Sends ctx events middle) (second : Sends middle more final) :
    Sends ctx (events ++ more) final := by
  obtain ⟨ran, token⟩ := first
  obtain ⟨rest, same⟩ := second
  refine ⟨?_, same.trans token⟩
  rw [webCalls, List.filterMap_append, run_append, ← webCalls, ran, Option.bind_some, ← token]
  exact rest

theorem Sends.one (endpoint : Endpoint) {exchange : Exchange} {sent : Sent}
    (sending : sendRequest ctx.curlHandle initResponse (endpoint.request ctx.botToken) exchange = some sent)
    (handle : final.curlHandle = sent.handle) (token : final.botToken = ctx.botToken) :
    Sends ctx [.exchanged endpoint exchange] final := by
  refine ⟨?_, token⟩
  show (send ctx.curlHandle ⟨endpoint.request ctx.botToken, exchange⟩).bind (run send · []) = _
  rw [send, sending, handle]
  rfl

theorem getGateway_sends {exchange : Exchange} (asked : ctx.getGateway ex exchange = some out) :
    Sends ctx out.events out.ctx := by
  obtain ⟨sent, sending, rfl⟩ := Option.map_eq_some_iff.mp asked
  dsimp only
  split
  · exact .one .gateway sending rfl rfl
  split
  · exact .one .gateway sending rfl rfl
  split
  · exact .one .gateway sending rfl rfl
  split <;> exact .one .gateway sending rfl rfl

theorem getGatewayBot_sends {exchange : Exchange} (asked : ctx.getGatewayBot ex exchange = some out) :
    Sends ctx out.events out.ctx := by
  obtain ⟨sent, sending, rfl⟩ := Option.map_eq_some_iff.mp asked
  dsimp only
  split
  · exact .one .gatewayBot sending rfl rfl
  split
  · exact .one .gatewayBot sending rfl rfl
  split
  · exact .one .gatewayBot sending rfl rfl
  split
  · exact .one .gatewayBot sending rfl rfl
  split <;> exact .one .gatewayBot sending rfl rfl

theorem bootstrapCurrentUser_sends (asked : ctx.bootstrapCurrentUser ex http = some out) :
    Sends ctx out.events out.ctx := by
  unfold Context.bootstrapCurrentUser at asked
  split at asked
  · obtain ⟨⟨inner, user⟩, ran, rfl⟩ := Option.map_eq_some_iff.mp asked
    obtain ⟨sent, sending, same⟩ := Option.map_eq_some_iff.mp ran
    dsimp only at same ⊢
    split at same
    · cases same
      exact .one .currentUser sending rfl rfl
    split at same <;> cases same <;> exact .one .currentUser sending rfl rfl
  · cases asked
    exact .kept rfl rfl only_nil

theorem andThen_sends {further : Context → Option Outcome} (first : Sends ctx out.events out.ctx)
    (later : ∀ ctx rest, further ctx = some rest → Sends ctx rest.events rest.ctx) {whole : Outcome}
    (ran : out.andThen further = some whole) : Sends ctx whole.events whole.ctx := by
  rcases andThen_some ran with ⟨_, rfl⟩ | ⟨_, rest, called, rfl⟩
  · exact first
  · exact first.trans (later _ _ called)

theorem bootstrap_sends (ran : ctx.bootstrap ex http = some out) : Sends ctx out.events out.ctx := by
  obtain ⟨first, gateway, rest⟩ := Option.bind_eq_some_iff.mp ran
  obtain ⟨second, bot, user⟩ := Option.bind_eq_some_iff.mp rest
  have here : Sends ctx first.events first.ctx := by
    unfold Context.bootstrapGateway at gateway
    split at gateway
    · exact getGateway_sends gateway
    · cases gateway
      exact .kept rfl rfl only_nil
  have there : Sends ctx second.events second.ctx := by
    refine andThen_sends here (fun ctx rest asked => ?_) bot
    unfold Context.bootstrapGatewayBot at asked
    split at asked
    · exact getGatewayBot_sends asked
    · cases asked
      exact .kept rfl rfl only_nil
  exact andThen_sends there (fun _ _ => bootstrapCurrentUser_sends) user

theorem bootstrap_complete (complete : ctx.Complete) (ran : ctx.bootstrap ex http = some out) :
    out = ⟨ctx, .ok, []⟩ := by
  obtain ⟨url, bot, user⟩ := complete
  obtain ⟨first, asked, rest⟩ := Option.bind_eq_some_iff.mp ran
  obtain ⟨second, andBot, andUser⟩ := Option.bind_eq_some_iff.mp rest
  have here : first = ⟨ctx, .ok, []⟩ := by
    rcases bootstrapGateway_some asked with ⟨_, same⟩ | ⟨missing, _⟩
    · exact same
    · simp [missing] at url
  subst here
  have there : second = ⟨ctx, .ok, []⟩ := by
    rcases andThen_some andBot with ⟨bad, _⟩ | ⟨_, later, called, rfl⟩
    · exact absurd rfl bad
    rcases bootstrapGatewayBot_some called with ⟨_, rfl⟩ | ⟨missing, _⟩
    · rfl
    · have unset : ctx.gatewayBotUrl = none := missing
      simp [unset] at bot
  subst there
  rcases andThen_some andUser with ⟨bad, _⟩ | ⟨_, later, called, rfl⟩
  · exact absurd rfl bad
  rcases bootstrapCurrentUser_cases called with ⟨_, rfl⟩ | ⟨missing, _⟩
  · rfl
  · have unset : ctx.currentUser = none := missing
    simp [unset] at user

theorem Called.handle {w : World} {wsi : Wsi} {callback : Callback} (called : Called ex w ctx wsi callback out) :
    out.ctx.curlHandle = ctx.curlHandle := by
  cases called with
  | parsed _ _ _ _ _ inner _ parsed =>
    cases parsed with
    | known _ _ _ _ handled => cases handled <;> rfl
    | _ => rfl
  | _ => rfl

theorem Beat.handle {now later : UInt64} (beat : Beat ex ctx now later out) :
    out.ctx.curlHandle = ctx.curlHandle ∧ out.ctx.botToken = ctx.botToken := by
  cases beat <;> exact ⟨rfl, rfl⟩

theorem step_sends (stepped : step ex s m = some next) : Sends s.ctx (newEvents s next) next.ctx := by
  cases step_stepped stepped with
  | refused http created caller out _ _ ran =>
    have returned : Sends out.ctx [.returned caller (connectError out.ret caller)] out.ctx :=
      .kept rfl rfl (by simp [Event.Unasked])
    rw [newEvents_of_append rfl]
    exact (bootstrap_sends ran).trans returned
  | attempted http created caller out _ _ ran =>
    have connecting : Sends out.ctx [.connecting (s.wsis + 1)]
        { out.ctx with lwsWsi := if created then some (s.wsis + 1) else none } :=
      .kept rfl rfl (by simp [Event.Unasked])
    rw [newEvents_of_append rfl]
    exact (bootstrap_sends ran).trans connecting
  | alarmed w out _ _ beat =>
    rw [newEvents_of_append rfl]
    exact .kept beat.handle.1 beat.handle.2 ((only_append _ _).mpr ⟨beat.kept.2, by simp [Event.Unasked]⟩)
  | served w out _ _ beat =>
    rw [newEvents_of_append rfl]
    exact .kept beat.handle.1 beat.handle.2 ((only_append _ _).mpr ⟨beat.kept.2, requestWritable_unasked _⟩)
  | called wsi callback w out _ ran =>
    have called := lwsCallback_some ran
    have unasked : Only Event.Unasked out.events :=
      called.inside.mono fun e inside => by cases e <;> trivial
    rw [newEvents_of_append rfl]
    exact .kept called.handle called.identity.botToken ((only_cons _ _).mpr ⟨trivial, unasked⟩)
  | left =>
    rw [newEvents_of_append rfl]
    exact .kept rfl rfl (by simp [Event.Unasked])

theorem complete_kept (complete : s.ctx.Complete) (stepped : step ex s m = some next) :
    next.ctx.Complete ∧ next.ctx.currentUser = s.ctx.currentUser ∧ Only Event.Unasked (newEvents s next) := by
  cases step_stepped stepped with
  | refused http created caller out _ _ ran =>
    rw [bootstrap_complete complete ran, newEvents_of_append rfl]
    exact ⟨complete, rfl, by simp [Event.Unasked]⟩
  | attempted http created caller out _ _ ran =>
    rw [bootstrap_complete complete ran, newEvents_of_append rfl]
    exact ⟨complete, rfl, by simp [Event.Unasked]⟩
  | alarmed w out _ _ beat =>
    obtain ⟨⟨url, bot, _, user⟩, unasked⟩ := beat.kept
    rw [newEvents_of_append rfl]
    refine ⟨?_, user, (only_append _ _).mpr ⟨unasked, by simp [Event.Unasked]⟩⟩
    exact ⟨url ▸ complete.1, bot ▸ complete.2.1, user ▸ complete.2.2⟩
  | served w out _ _ beat =>
    obtain ⟨⟨url, bot, _, user⟩, unasked⟩ := beat.kept
    rw [newEvents_of_append rfl]
    refine ⟨?_, user, (only_append _ _).mpr ⟨unasked, requestWritable_unasked _⟩⟩
    exact ⟨url ▸ complete.1, bot ▸ complete.2.1, user ▸ complete.2.2⟩
  | called wsi callback w out _ ran =>
    have called := lwsCallback_some ran
    obtain ⟨url, bot, _, user⟩ := called.kept
    have unasked : Only Event.Unasked out.events :=
      called.inside.mono fun e inside => by cases e <;> trivial
    rw [newEvents_of_append rfl]
    refine ⟨?_, user, (only_cons _ _).mpr ⟨trivial, unasked⟩⟩
    exact ⟨url ▸ complete.1, bot ▸ complete.2.1, user ▸ complete.2.2⟩
  | left =>
    rw [newEvents_of_append rfl]
    exact ⟨complete, rfl, by simp [Event.Unasked]⟩

theorem prepared_start (booted : Booted ex s) : Prepared s := by
  obtain ⟨_, bot, _, _, unconnected, _⟩ := booted.fresh
  rintro (away | connected)
  · exact absurd bot away
  · rw [unconnected] at connected
    cases connected

theorem prepared_step (prepared : Prepared s) (stepped : step ex s m = some next) : Prepared next := by
  intro busy
  cases step_stepped stepped with
  | refused http created caller out bot attempts ran bad =>
    obtain ⟨_, _, _, _, _, same⟩ := (bootstrap_frame ran).1
    have connected : s.ctx.lwsWsi.isSome = true := by
      rcases busy with away | here
      · exact absurd rfl away
      · have kept : out.ctx.lwsWsi = s.ctx.lwsWsi := by rw [same]
        exact kept ▸ here
    exact (complete_kept (prepared (.inr connected)) stepped).1
  | attempted http created caller out _ _ ran ok => exact bootstrap_ok ran ok
  | alarmed w out _ connected => exact (complete_kept (prepared (.inr connected)) stepped).1
  | served w out _ connected => exact (complete_kept (prepared (.inr connected)) stepped).1
  | called wsi callback w out control => exact (complete_kept (prepared (.inl control)) stepped).1
  | left caller status control => exact (complete_kept (prepared (.inl control)) stepped).1

end

end Libdiscord
