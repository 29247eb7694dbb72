import Libdiscord.Bot.Posting

/-! The main programs of the example bots, from where their context is set up.

A bot calls the library until it is told to stop, which it looks at between two calls only.
-/

set_option autoImplicit false

namespace Libdiscord

def Event.return? : Event → Option (Caller × Status)
  | .returned caller status => some (caller, status)
  | _ => none

def returns (events : List Event) : List (Caller × Status) := events.filterMap Event.return?

-- The call of the library that control is in.
def Control.caller? : Control → Option Caller
  | .bot => none
  | .connecting caller => some caller
  | .serving => some .service

def Move.caller? : Move → Option Caller
  | .service _ => some .service
  | .connect _ _ => some .connect
  | .callback _ _ _ | .leave => none

section
variable {ex : Externals} {s next : System} {m : Move} {ctx : Context} {out : Outcome} {http : Http}
  {events more : List Event}

@[simp] theorem returns_append : returns (events ++ more) = returns events ++ returns more := List.filterMap_append

@[simp] theorem endpoints_append : endpoints (events ++ more) = endpoints events ++ endpoints more :=
  List.filterMap_append

theorem Only.unreturned (web : Only Event.Web events) : returns events = [] :=
  web.filterMap fun e kind => by cases e <;> first | rfl | cases kind

theorem endpoints_unasked (unasked : Only Event.Unasked events) : endpoints events = [] :=
  unasked.filterMap fun e kind => by cases e <;> first | rfl | cases kind

theorem bootstrap_endpoints (ran : ctx.bootstrap ex http = some out) :
    (endpoints out.events).Sublist [.gateway, .gatewayBot, .currentUser] := by
  obtain ⟨first, gateway, rest⟩ := Option.bind_eq_some_iff.mp ran
  obtain ⟨second, bot, user⟩ := Option.bind_eq_some_iff.mp rest
  have here : (endpoints first.events).Sublist [.gateway] := by
    rcases bootstrapGateway_some gateway with ⟨_, rfl⟩ | ⟨_, asked⟩
    · exact List.nil_sublist _
    · cases asked <;> exact List.Sublist.refl _
  have there : (endpoints second.events).Sublist [.gateway, .gatewayBot] := by
    rcases andThen_some bot with ⟨_, rfl⟩ | ⟨_, later, asked, rfl⟩
    · exact here.trans (by simp)
    rw [endpoints_append]
    refine here.append (show _ from ?_ : List.Sublist _ [Endpoint.gatewayBot])
    rcases bootstrapGatewayBot_some asked with ⟨_, rfl⟩ | ⟨_, asked⟩
    · exact List.nil_sublist _
    · cases asked <;> exact List.Sublist.refl _
  rcases andThen_some user with ⟨_, rfl⟩ | ⟨_, last, asked, rfl⟩
  · exact there.trans (by simp)
  rw [endpoints_append]
  refine there.append (show _ from ?_ : List.Sublist _ [Endpoint.currentUser])
  rcases bootstrapCurrentUser_cases asked with ⟨_, rfl⟩ | ⟨_, asked⟩
  · exact List.nil_sublist _
  · cases asked <;> exact List.Sublist.refl _

inductive Passes (s : System) (m : Move) (next : System) : Prop where
  | bounced (caller : Caller) (status : Status) : s.control = .bot → m.caller? = some caller →
      next.control = .bot → returns (newEvents s next) = [(caller, status)] → status ≠ .ok → Passes s m next
  | entered (caller : Caller) : s.control = .bot → m.caller? = some caller →
      next.control.caller? = some caller → returns (newEvents s next) = [] → Passes s m next
  | stayed : s.control ≠ .bot → m.caller? = none → next.control = s.control → returns (newEvents s next) = [] →
      Passes s m next
  | left (caller : Caller) (status : Status) : s.control.caller? = some caller → m.caller? = none →
      next.control = .bot → returns (newEvents s next) = [(caller, status)] → Passes s m next

theorem Passes.call (passes : Passes s m next) (bot : s.control = .bot) : ∃ caller, m.caller? = some caller := by
  cases passes with
  | bounced caller _ _ call => exact ⟨caller, call⟩
  | entered caller _ call => exact ⟨caller, call⟩
  | stayed away => exact absurd bot away
  | left caller _ away => exact nomatch (congrArg Control.caller? bot).symm.trans away

theorem Passes.returned (passes : Passes s m next) (bot : next.control = .bot) : returns (newEvents s next) ≠ [] := by
  cases passes with
  | bounced _ _ _ _ _ same =>
    rw [same]
    exact List.cons_ne_nil _ _
  | entered _ _ _ inside => exact nomatch (congrArg Control.caller? bot).symm.trans inside
  | stayed away _ same => exact absurd (same.symm.trans bot) away
  | left _ _ _ _ _ same =>
    rw [same]
    exact List.cons_ne_nil _ _

theorem Attempts.caller {created : Bool} {caller : Caller} (attempts : Attempts s m http created caller) :
    m.caller? = some caller := by
  cases attempts <;> rfl

theorem step_passes (stepped : step ex s m = some next) : Passes s m next := by
  cases step_stepped stepped with
  | refused http created caller out bot attempts ran bad =>
    have web := (bootstrap_frame ran).2.unreturned
    refine .bounced caller (connectError out.ret caller) bot attempts.caller rfl ?_ ?_
    · rw [newEvents_of_append rfl, returns_append, web]
      rfl
    · cases caller
      · exact show Status.connectionErr ≠ .ok by decide
      · exact bad
  | attempted http created caller out bot attempts ran ok =>
    have web := (bootstrap_frame ran).2.unreturned
    refine .entered caller bot attempts.caller rfl ?_
    rw [newEvents_of_append rfl, returns_append, web]
    rfl
  | alarmed w out bot connected beat bad =>
    refine .bounced .service out.ret bot rfl rfl ?_ bad
    rw [newEvents_of_append rfl, returns_append]
    cases beat <;> rfl
  | served w out bot connected beat ok =>
    refine .entered .service bot rfl rfl ?_
    rw [newEvents_of_append rfl, returns_append, requestWritable]
    cases beat <;> split <;> rfl
  | called wsi callback w out away ran =>
    refine .stayed away rfl rfl ?_
    rw [newEvents_of_append rfl]
    exact (lwsCallback_some ran).inside.filterMap fun e kind => by cases e <;> first | rfl | cases kind
  | left caller status away returned =>
    refine .left caller status ?_ rfl rfl ?_
    · rcases returned with ⟨same, _⟩ | ⟨same, rfl, _⟩ <;> · rw [same]; rfl
    · rw [newEvents_of_append rfl]
      rfl

theorem step_endpoints (stepped : step ex s m = some next) :
    (endpoints (newEvents s next)).Sublist [.gateway, .gatewayBot, .currentUser] := by
  have none {events : List Event} (unasked : Only Event.Unasked events) :
      (endpoints events).Sublist [.gateway, .gatewayBot, .currentUser] := by
    rw [endpoints_unasked unasked]
    exact List.nil_sublist _
  cases step_stepped stepped with
  | refused http created caller out bot attempts ran =>
    rw [newEvents_of_append rfl, endpoints_append]
    exact (List.append_nil (endpoints out.events)).symm ▸ bootstrap_endpoints ran
  | attempted http created caller out bot attempts ran =>
    rw [newEvents_of_append rfl, endpoints_append]
    exact (List.append_nil (endpoints out.events)).symm ▸ bootstrap_endpoints ran
  | alarmed w out bot connected beat =>
    rw [newEvents_of_append rfl]
    exact none ((only_append _ _).mpr ⟨beat.kept.2, by simp [Event.Unasked]⟩)
  | served w out bot connected beat =>
    rw [newEvents_of_append rfl]
    exact none ((only_append _ _).mpr ⟨beat.kept.2, requestWritable_unasked _⟩)
  | called wsi callback w out away ran =>
    rw [newEvents_of_append rfl]
    have unasked : Only Event.Unasked out.events :=
      (lwsCallback_some ran).inside.mono fun e inside => by cases e <;> trivial
    exact none ((only_cons _ _).mpr ⟨trivial, unasked⟩)
  | left =>
    rw [newEvents_of_append rfl]
    exact none (by simp [Event.Unasked])

end

end Libdiscord

namespace Libdiscord.Bot

open Libdiscord.Base Rest

/-- The bot calls `ld_connect` before it calls `ld_service`. -/
def Program.connects : Program → Bool
  | .ayylmao _ _ => false
  | .counter | .hash _ _ => true

/-- The bot goes on after an error; its `fail_mode` is never 0. -/
def Program.retries : Program → Bool
  | .ayylmao _ _ => true
  | .counter | .hash _ _ => false

def Program.farewell? : Program → Option Text
  | .hash _ _ => some (ascii "example-bot-hash: received SIGINT or HALT_TRIGGER, cleaning up")
  | .ayylmao _ _ | .counter => none

/-- The hash bot keeps the channel of a message that stops it, and that of a command it answers. -/
def Program.target? (channelId : UInt64) (reply : Reply) : Program → Option UInt64
  | .hash _ _ => if reply.exits || reply.post.isSome then some channelId else none
  | .ayylmao _ _ | .counter => none

structure Main where
  process : Process
  botExit : Bool
  -- `bot_state` is 1
  connected : Bool
  -- only the hash bot has a variable for it
  targetChannel : UInt64
  finished : Bool

inductive Input where
  | move (m : Move) (shown : Printed) (w : World) (exchange : Exchange)
  -- SIGINT
  | interrupt
  -- the loop is left
  | finish (shown : Printed) (exchange : Exchange)

def Main.start (level : UInt64) (s : System) : Main := ⟨.start level s, false, false, 0, false⟩

/-- Of the calls of the library the bot makes only the one that is due. -/
def Main.Makes (program : Program) (main : Main) : Move → Prop
  | .connect _ _ => program.connects = true ∧ main.connected = false ∧ main.botExit = false
  | .service _ => (program.connects = true → main.connected = true) ∧ main.botExit = false
  | .callback _ _ _ | .leave => True

instance (program : Program) (main : Main) : (m : Move) → Decidable (main.Makes program m)
  | .connect _ _ => inferInstanceAs (Decidable (_ ∧ _ ∧ _))
  | .service _ => inferInstanceAs (Decidable ((_ → _) ∧ _))
  | .callback _ _ _ => isTrue trivial
  | .leave => isTrue trivial

def Cause.exits (program : Program) (user : Option User) : Cause → Bool
  | .told call w => (program.callback user w call.reason call.data.value).any (·.exits)
  | .own _ => false

def Cause.target? (program : Program) (user : Option User) : Cause → Option UInt64
  | .told call w => (program.callback user w call.reason call.data.value).bind fun reply =>
    program.target? (Json.packMessage w.fresh Json.messageInit call.data.value).channelId reply
  | .own _ => none

def Main.after (program : Program) (main : Main) (next : Process) : Main :=
  let causes := next.causes.drop main.process.causes.length
  let user := next.system.ctx.currentUser
  let returned := returns (newEvents main.process.system next.system)
  { main with
    process := next
    botExit := main.botExit || causes.any (·.exits program user) || !program.retries && returned.any (·.2 ≠ .ok)
    connected := main.connected || returned.any (·.1 = .connect)
    targetChannel := (causes.filterMap (Cause.target? program user)).getLast?.getD main.targetChannel }

def Main.farewell (program : Program) (main : Main) : Option Post :=
  if main.targetChannel = 0 then none else program.farewell?.map (⟨main.targetChannel, ·⟩)

def Main.step (ex : Externals) (program : Program) (main : Main) : Input → Option Main
  | .move m shown w exchange =>
    if main.Makes program m then
      (Process.step ex program main.process (.move m shown w exchange)).map (main.after program)
    else none
  | .interrupt => some { main with botExit := true }
  | .finish shown exchange =>
    if main.process.system.control ≠ .bot ∨ main.botExit = false ∨ main.finished = true then none
    else match main.farewell program with
      | none => some { main with finished := true }
      | some post => (Process.step ex program main.process (.post post shown exchange)).map fun process =>
        { main with process, finished := true }

def Main.history (main : Main) : List Event := main.process.system.history

def Main.targets (program : Program) (main : Main) : List UInt64 :=
  main.process.causes.filterMap (Cause.target? program main.process.system.ctx.currentUser)

def Main.said (program : Program) (main : Main) : List Cause :=
  if main.finished then (main.farewell program).toList.map .own else []

structure Orderly (program : Program) (main : Main) : Prop where
  built : AsBuilt .fresh main.process.calls
  -- an error is the last thing that a bot learns that does not retry
  errors : program.retries = false → ∀ r ∈ (returns main.history).dropLast, r.2 = .ok
  connects : program.connects = true →
    returns main.history = [] ∨ ∃ n, (returns main.history).map (·.1) = .connect :: .replicate n .service
  asked : program.connects = true → (endpoints main.history).Sublist [.gateway, .gatewayBot, .currentUser]
  target : main.targetChannel = (main.targets program).getLast?.getD 0
  -- the one post that the callback has not made, and no cause comes after it
  farewell : ∃ told, main.process.causes = told ++ main.said program ∧ ∀ cause ∈ told, ∃ call w, cause = .told call w

structure Flow (program : Program) (rets : List (Caller × Status)) (control : Control) (botExit connected : Bool)
    (complete : Prop) : Prop where
  errors : program.retries = false → ∀ r ∈ rets.dropLast, r.2 = .ok
  sound : program.retries = false → botExit = false ∨ control ≠ .bot → ∀ r ∈ rets, r.2 = .ok
  unconnected : program.connects = true → connected = false → rets = [] ∧ control.caller? ≠ some .service
  connected : program.connects = true → connected = true →
    (∃ n, rets.map (·.1) = .connect :: .replicate n .service) ∧ control.caller? ≠ some .connect ∧
      (botExit = true ∨ complete)

structure Running (ex : Externals) (program : Program) (main : Main) : Prop where
  recorded : Recorded ex program main.process
  posted : main.process.HasPosted → main.process.system.ctx.Complete
  built : GetsFirst main.process.calls
  flow : Flow program (returns main.history) main.process.system.control main.botExit main.connected
    main.process.system.ctx.Complete
  asked : program.connects = true → (endpoints main.history).Sublist [.gateway, .gatewayBot, .currentUser]
  unasked : program.connects = true → main.connected = false → main.process.system.control = .bot →
    endpoints main.history = []
  target : main.targetChannel = (main.targets program).getLast?.getD 0
  farewell : ∃ told, main.process.causes = told ++ main.said program ∧ ∀ cause ∈ told, ∃ call w, cause = .told call w
  ended : main.finished = true → main.botExit = true ∧ main.process.system.control = .bot

section
variable {program : Program} {rets : List (Caller × Status)} {control next : Control} {botExit connected : Bool}
  {complete after : Prop} {caller : Caller} {status : Status}

theorem Program.stops {program : Program} (connects : program.connects = true) : program.retries = false := by
  cases program with
  | ayylmao => cases connects
  | counter => rfl
  | hash => rfl

theorem Flow.interrupt (flow : Flow program rets control botExit connected complete) (exit : Bool) :
    Flow program rets control (botExit || exit) connected complete where
  errors := flow.errors
  sound stops going := flow.sound stops (going.imp_left fun running => (Bool.or_eq_false_iff.mp running).1)
  unconnected := flow.unconnected
  connected connects known :=
    have ⟨order, away, ended⟩ := flow.connected connects known
    ⟨order, away, ended.imp_left fun ended => by rw [ended, Bool.true_or]⟩

theorem Flow.return (flow : Flow program rets control botExit connected complete)
    (good : program.retries = false → ∀ r ∈ rets, r.2 = .ok)
    (due : program.connects = true → (caller = .connect ↔ connected = false))
    (filled : status = .ok → after) :
    Flow program (rets ++ [(caller, status)]) .bot
      (botExit || !program.retries && [(caller, status)].any (·.2 ≠ .ok))
      (connected || [(caller, status)].any (·.1 = .connect)) after where
  errors stops r member := by
    rw [List.dropLast_concat] at member
    exact good stops r member
  sound stops going r member := by
    rcases going with going | away
    · rcases List.mem_append.mp member with before | here
      · exact good stops r before
      · rw [List.mem_singleton] at here
        subst here
        have both : botExit = false ∧ status = .ok := by simpa [stops] using going
        exact both.2
    · exact absurd rfl away
  unconnected connects unknown := by
    have both : connected = false ∧ caller ≠ .connect := by simpa using unknown
    exact absurd ((due connects).mpr both.1) both.2
  connected connects known := by
    refine ⟨?_, nofun, ?_⟩
    · rw [List.map_append]
      cases before : connected with
      | false =>
        obtain rfl := (due connects).mpr before
        rw [(flow.unconnected connects before).1]
        exact ⟨0, rfl⟩
      | true =>
        obtain ⟨n, order⟩ := (flow.connected connects before).1
        have service : caller = .service := by
          cases caller with
          | service => rfl
          | connect => exact nomatch before.symm.trans ((due connects).mp rfl)
        rw [order, service]
        exact ⟨n + 1, congrArg _ List.replicate_succ'.symm⟩
    · by_cases ok : status = .ok
      · exact .inr (filled ok)
      · exact .inl (by simp [Program.stops connects, ok])

theorem Flow.enter (flow : Flow program rets control botExit connected complete) (going : botExit = false)
    (due : program.connects = true → (caller = .connect ↔ connected = false)) (inside : next.caller? = some caller)
    (filled : after) : Flow program rets next botExit connected after where
  errors := flow.errors
  sound stops _ := flow.sound stops (.inl going)
  unconnected connects unknown := by
    refine ⟨(flow.unconnected connects unknown).1, ?_⟩
    rw [inside, (due connects).mpr unknown]
    decide
  connected connects known := by
    refine ⟨(flow.connected connects known).1, ?_, .inr filled⟩
    rw [inside]
    rintro ⟨⟩
    exact nomatch known.symm.trans ((due connects).mp rfl)

theorem Flow.stay (flow : Flow program rets control botExit connected complete) (away : control ≠ .bot) (exit : Bool)
    (filled : after) : Flow program rets control exit connected after where
  errors := flow.errors
  sound stops _ := flow.sound stops (.inr away)
  unconnected := flow.unconnected
  connected connects known :=
    have ⟨order, other, _⟩ := flow.connected connects known
    ⟨order, other, .inr filled⟩

end

section
variable {ex : Externals} {program : Program} {main after : Main} {p next : Process} {m : Move} {w : World}
  {shown : Printed} {exchange : Exchange} {level : UInt64} {s : System}

theorem move_some (stepped : Process.step ex program p (.move m shown w exchange) = some next) :
    ∃ middle handle, Libdiscord.step ex p.system m = some middle ∧
      next.system = { middle with ctx := { middle.ctx with curlHandle := handle } } ∧
      next.causes = p.causes ++ (userCalls (newEvents p.system middle)).map (.told · w) := by
  cases step_acted stepped with
  | move m shown w exchange middle ran posted =>
    obtain ⟨handle, _, rfl, _, _⟩ := posted
    exact ⟨middle, handle, ran, rfl, rfl⟩

theorem Running.targets_kept {middle : System} (running : Running ex program main)
    (ran : Libdiscord.step ex main.process.system m = some middle) :
    main.process.causes.filterMap (Cause.target? program middle.ctx.currentUser) = main.targets program := by
  by_cases silent : userCalls main.process.system.history = []
  · exact filterMap_untold (fun _ => rfl) (running.recorded.told.trans silent)
  · rw [(complete_kept (running.recorded.complete silent) ran).2.1]
    rfl

theorem getLast_append {α : Type} (first second : List α) (default : α) :
    (first ++ second).getLast?.getD default = second.getLast?.getD (first.getLast?.getD default) := by
  rw [List.getLast?_append]
  cases second.getLast? <;> rfl

theorem Main.Makes.due {caller : Caller} (makes : main.Makes program m) (call : m.caller? = some caller) :
    main.botExit = false ∧ (program.connects = true → (caller = .connect ↔ main.connected = false)) := by
  cases m with
  | service =>
    cases call
    refine ⟨makes.2, fun connects => iff_of_false nofun fun unknown => ?_⟩
    exact nomatch unknown.symm.trans (makes.1 connects)
  | connect =>
    cases call
    exact ⟨makes.2.2, fun _ => iff_of_true rfl makes.2.1⟩
  | callback => cases call
  | leave => cases call

theorem Main.said_unfinished (unfinished : main.finished = false) : main.said program = [] := by
  rw [Main.said, if_neg]
  exact fun finished => nomatch unfinished.symm.trans finished

theorem Running.causes_told (running : Running ex program main) (unfinished : main.finished = false) :
    ∀ cause ∈ main.process.causes, ∃ call w, cause = .told call w := by
  obtain ⟨told, whole, all⟩ := running.farewell
  rw [Main.said_unfinished unfinished, List.append_nil] at whole
  rwa [whole]

theorem Running.flowed {middle : System} (running : Running ex program main) (makes : main.Makes program m)
    (ran : Libdiscord.step ex main.process.system m = some middle) (exit : Bool) :
    let returned := returns (newEvents main.process.system middle)
    Flow program (returns main.history ++ returned) middle.control
      (main.botExit || exit || !program.retries && returned.any (·.2 ≠ .ok))
      (main.connected || returned.any (·.1 = .connect)) middle.ctx.Complete := by
  have prepared := prepared_step running.recorded.coherent.prepared ran
  dsimp only
  cases step_passes ran with
  | bounced caller status bot call here same bad =>
    obtain ⟨going, due⟩ := makes.due call
    rw [same, here]
    exact (running.flow.interrupt exit).return (fun stops => running.flow.sound stops (.inl going)) due
      fun ok => absurd ok bad
  | entered caller bot call inside same =>
    obtain ⟨going, due⟩ := makes.due call
    have away : middle.control ≠ .bot := fun here => nomatch (congrArg Control.caller? here).symm.trans inside
    rw [same, List.append_nil, List.any_nil, List.any_nil, Bool.or_false]
    exact ((running.flow.enter going due inside (prepared (.inl away))).interrupt exit).interrupt _
  | stayed away _ same none =>
    rw [none, same, List.append_nil, List.any_nil, List.any_nil, Bool.or_false]
    exact running.flow.stay away _ (prepared (.inl (same ▸ away)))
  | left caller status inside _ here same =>
    have away : main.process.system.control ≠ .bot := fun bot =>
      nomatch (congrArg Control.caller? bot).symm.trans inside
    have due : program.connects = true → (caller = .connect ↔ main.connected = false) := by
      intro connects
      cases known : main.connected with
      | false =>
        have other := (running.flow.unconnected connects known).2
        rw [inside] at other
        cases caller
        · exact absurd rfl other
        · exact iff_of_true rfl rfl
      | true =>
        obtain ⟨_, other, _⟩ := running.flow.connected connects known
        rw [inside] at other
        exact iff_of_false (fun connect => other (congrArg some connect)) nofun
    rw [same, here]
    exact (running.flow.interrupt exit).return (fun stops => running.flow.sound stops (.inr away)) due
      fun _ => (complete_kept (running.recorded.coherent.prepared (.inl away)) ran).1

theorem Running.asked_once {middle : System} (running : Running ex program main) (connects : program.connects = true)
    (makes : main.Makes program m) (ran : Libdiscord.step ex main.process.system m = some middle) :
    (endpoints main.history ++ endpoints (newEvents main.process.system middle)).Sublist
      [.gateway, .gatewayBot, .currentUser] := by
  have filled (complete : main.process.system.ctx.Complete) :
      (endpoints main.history ++ endpoints (newEvents main.process.system middle)).Sublist
        [.gateway, .gatewayBot, .currentUser] := by
    rw [endpoints_unasked (complete_kept complete ran).2.2, List.append_nil]
    exact running.asked connects
  by_cases bot : main.process.system.control = .bot
  case neg => exact filled (running.recorded.coherent.prepared (.inl bot))
  cases known : main.connected with
  | false =>
    rw [running.unasked connects known bot]
    exact step_endpoints ran
  | true =>
    obtain ⟨_, _, ended | complete⟩ := running.flow.connected connects known
    · obtain ⟨caller, call⟩ := (step_passes ran).call bot
      exact absurd ended (by rw [(makes.due call).1]; decide)
    · exact filled complete

theorem Running.unfinished {middle : System} (running : Running ex program main) (makes : main.Makes program m)
    (ran : Libdiscord.step ex main.process.system m = some middle) : main.finished = false := by
  cases finished : main.finished with
  | false => rfl
  | true =>
    obtain ⟨ended, bot⟩ := running.ended finished
    obtain ⟨caller, call⟩ := (step_passes ran).call bot
    exact nomatch ended.symm.trans (makes.due call).1

theorem running_move (running : Running ex program main) (makes : main.Makes program m)
    (stepped : Process.step ex program main.process (.move m shown w exchange) = some next) :
    Running ex program (main.after program next) := by
  obtain ⟨middle, handle, ran, system, causes⟩ := move_some stepped
  obtain ⟨events, history, _⟩ := step_fetches ran
  have fresh := newEvents_of_append history
  have same : newEvents main.process.system next.system = newEvents main.process.system middle := by
    rw [system]
    rfl
  have grown : next.system.history = main.history ++ newEvents main.process.system middle := by
    rw [system, fresh]
    exact history
  have unfinished := running.unfinished makes ran
  have control : next.system.control = middle.control := by rw [system]
  have flow : Flow program (returns (main.after program next).history) next.system.control
      (main.after program next).botExit (main.after program next).connected next.system.ctx.Complete := by
    have complete : next.system.ctx.Complete = middle.ctx.Complete := by
      rw [system]
      rfl
    show Flow program (returns next.system.history) next.system.control
      (main.botExit || _ || !program.retries && (returns (newEvents main.process.system next.system)).any _)
      (main.connected || (returns (newEvents main.process.system next.system)).any _) next.system.ctx.Complete
    rw [grown, returns_append, same, control, complete]
    exact running.flowed makes ran _
  constructor
  case recorded => exact recorded_step running.recorded stepped
  case posted =>
    have late : Action.Late main.process (.move m shown w exchange) := trivial
    exact late_step running.recorded.coherent late running.posted stepped
  case built =>
    refine (getsFirst_step running.built stepped).mpr fun posted => ?_
    show Only Event.Unasked (newEvents main.process.system next.system)
    rw [same]
    exact (complete_kept (running.posted posted) ran).2.2
  case flow => exact flow
  case asked =>
    intro connects
    show (endpoints next.system.history).Sublist _
    rw [grown, endpoints_append]
    exact running.asked_once connects makes ran
  case unasked =>
    intro connects unknown bot
    have nothing : returns next.system.history = [] := (flow.unconnected connects unknown).1
    rw [grown, returns_append, List.append_eq_nil_iff] at nothing
    exact absurd nothing.2 ((step_passes ran).returned (control.symm.trans bot))
  case target =>
    show ((next.causes.drop main.process.causes.length).filterMap _).getLast?.getD main.targetChannel =
      (next.causes.filterMap (Cause.target? program next.system.ctx.currentUser)).getLast?.getD 0
    have user : next.system.ctx.currentUser = middle.ctx.currentUser := by rw [system]
    rw [causes, List.drop_left, List.filterMap_append, getLast_append, user, running.targets_kept ran, running.target]
  case farewell =>
    have unsaid : (main.after program next).said program = [] := Main.said_unfinished unfinished
    refine ⟨next.causes, by rw [unsaid, List.append_nil]; rfl, ?_⟩
    rw [causes]
    intro cause member
    rcases List.mem_append.mp member with earlier | here
    · exact running.causes_told unfinished cause earlier
    · obtain ⟨call, _, rfl⟩ := List.mem_map.mp here
      exact ⟨call, w, rfl⟩
  case ended => exact fun finished => nomatch unfinished.symm.trans finished

theorem running_start (booted : Booted ex s) : Running ex program (.start level s) := by
  have history : (Main.start level s).history = [] := booted.fresh.1
  have silent : userCalls s.history = [] := by
    rw [booted.fresh.1]
    rfl
  have bot : (Main.start level s).process.system.control = .bot := booted.fresh.2.1
  constructor
  case recorded => exact ⟨coherent_start booted, silent.symm, fun called => absurd silent called, rfl⟩
  case posted => exact fun ⟨_, member, _⟩ => nomatch member
  case built => exact List.Pairwise.nil
  case flow =>
    rw [history, bot]
    exact ⟨fun _ => List.forall_mem_nil _, fun _ _ => List.forall_mem_nil _, fun _ _ => ⟨rfl, nofun⟩,
      fun _ known => nomatch known⟩
  case asked =>
    rw [history]
    exact fun _ => List.nil_sublist _
  case unasked =>
    rw [history]
    exact fun _ _ _ => rfl
  case target => rfl
  case farewell =>
    have unsaid : (Main.start level s).said program = [] := if_neg Bool.false_ne_true
    exact ⟨[], by rw [unsaid]; rfl, List.forall_mem_nil _⟩
  case ended => exact fun no => nomatch no

theorem running_interrupt (running : Running ex program main) : Running ex program { main with botExit := true } where
  recorded := running.recorded
  posted := running.posted
  built := running.built
  flow := by
    have flow := running.flow.interrupt true
    rwa [Bool.or_true] at flow
  asked := running.asked
  unasked := running.unasked
  target := running.target
  farewell := running.farewell
  ended finished := ⟨rfl, (running.ended finished).2⟩

theorem Running.told (running : Running ex program main) (known : main.targetChannel ≠ 0) :
    main.process.system.ctx.Complete := by
  refine running.recorded.complete fun silent => known ?_
  have untold : main.process.causes.filterMap Cause.call? = [] := running.recorded.told.trans silent
  have targets : main.targets program = [] := calc
    main.targets program = main.process.causes.filterMap fun _ => none := filterMap_untold (fun _ => rfl) untold
    _ = [] := List.filterMap_eq_nil_iff.mpr fun _ _ => rfl
  rw [running.target, targets]
  rfl

theorem running_silent (running : Running ex program main) (bot : main.process.system.control = .bot)
    (ended : main.botExit = true) (unfinished : main.finished = false) (nothing : main.farewell program = none) :
    Running ex program { main with finished := true } where
  recorded := running.recorded
  posted := running.posted
  built := running.built
  flow := running.flow
  asked := running.asked
  unasked := running.unasked
  target := running.target
  farewell := by
    have unsaid : ({ main with finished := true } : Main).said program = [] := by
      rw [Main.said, if_pos rfl]
      show (main.farewell program).toList.map Cause.own = []
      rw [nothing]
      rfl
    exact ⟨main.process.causes, by rw [unsaid, List.append_nil], running.causes_told unfinished⟩
  ended _ := ⟨ended, bot⟩

theorem running_farewell {post : Post} (running : Running ex program main)
    (bot : main.process.system.control = .bot) (ended : main.botExit = true) (unfinished : main.finished = false)
    (last : main.farewell program = some post)
    (ran : Process.step ex program main.process (.post post shown exchange) = some next) :
    Running ex program { main with process := next, finished := true } := by
  have complete : main.process.system.ctx.Complete := by
    refine running.told fun unknown => ?_
    rw [Main.farewell, if_pos unknown] at last
    cases last
  have recorded := recorded_step running.recorded ran
  have late : Action.Late main.process (.post post shown exchange) := complete
  have posted := late_step running.recorded.coherent late running.posted ran
  cases step_acted ran with
  | post post shown exchange _ done =>
    obtain ⟨handle, calls, rfl, _, _⟩ := done
    constructor
    case recorded => exact recorded
    case posted => exact posted
    case built => exact (getsFirst_step running.built ran).mpr fun _ => unasked_of_history rfl
    case flow => exact running.flow
    case asked => exact running.asked
    case unasked => exact running.unasked
    case target =>
      show main.targetChannel = ((main.process.causes ++ [Cause.own post]).filterMap _).getLast?.getD 0
      rw [List.filterMap_append]
      exact (List.append_nil (main.targets program)).symm ▸ running.target
    case farewell =>
      refine ⟨main.process.causes, ?_, running.causes_told unfinished⟩
      rw [Main.said, if_pos rfl]
      show _ = main.process.causes ++ (main.farewell program).toList.map Cause.own
      rw [last]
      rfl
    case ended => exact fun _ => ⟨ended, bot⟩

theorem running_step {input : Input} (running : Running ex program main)
    (stepped : main.step ex program input = some after) : Running ex program after := by
  cases input with
  | move m shown w exchange =>
    by_cases makes : main.Makes program m
    · rw [Main.step, if_pos makes] at stepped
      obtain ⟨next, ran, rfl⟩ := Option.map_eq_some_iff.mp stepped
      exact running_move running makes ran
    · rw [Main.step, if_neg makes] at stepped
      cases stepped
  | interrupt =>
    cases stepped
    exact running_interrupt running
  | finish shown exchange =>
    by_cases busy : main.process.system.control ≠ .bot ∨ main.botExit = false ∨ main.finished = true
    · rw [Main.step, if_pos busy] at stepped
      cases stepped
    · rw [Main.step, if_neg busy] at stepped
      simp only [not_or, Bool.not_eq_false, Bool.not_eq_true, ne_eq, Decidable.not_not] at busy
      obtain ⟨bot, ended, unfinished⟩ := busy
      split at stepped
      · next same =>
        cases stepped
        exact running_silent running bot ended unfinished same
      · next post same =>
        obtain ⟨process, ran, rfl⟩ := Option.map_eq_some_iff.mp stepped
        exact running_farewell running bot ended unfinished same ran

theorem Running.orderly (running : Running ex program main) : Orderly program main where
  built := running.recorded.coherent.asBuilt_iff.mpr running.built
  errors := running.flow.errors
  connects connects := by
    cases known : main.connected with
    | false => exact .inl (running.flow.unconnected connects known).1
    | true => exact .inr (running.flow.connected connects known).1
  asked := running.asked
  target := running.target
  farewell := running.farewell

/-- Every main program behaves, in every run. -/
theorem main_orderly (program : Program) (level : UInt64) (inputs : List Input) (booted : Booted ex s) :
    Always (Main.step ex program) (Orderly program) (.start level s) inputs := by
  have always : Always (Main.step ex program) (Running ex program) (.start level s) inputs :=
    always_of_each (Running ex program) (fun _ _ _ running _ stepped => running_step running stepped)
      (running_start booted) (each_true _ inputs)
  exact always.mono fun _ running => running.orderly

end

def haltingBot : Program := .hash (fun _ => none) (ascii "!hash")

def hearingText (content : Text) : Input :=
  .move (.callback 1 (.clientReceive ⟨(messageDispatch content).encode, true, true⟩) (.calm 101)) .blank .calm
    (.answer [])

def starting : Input := .move (.connect (.answering webAnswer.encode noUser) true) .blank .calm (.answer [])

def leaving : Input := .move .leave .blank .calm (.answer [])

abbrev haltExternals : Externals :=
  .knowing [messageDispatch (ascii "hcf"), messageDispatch (ascii "!hash md5 a"), webAnswer]

abbrev haltingStart : Main := .start Log.defaultLevel (.ofBot haltExternals 16 99)

-- A user tells the bot to stop.
def halting : List Input := [starting, hearingText (ascii "hcf"), leaving, .finish .blank (.answer [])]

-- A user gives a command, which is answered, and then the bot is interrupted.
def interrupted : List Input :=
  [starting, hearingText (ascii "!hash md5 a"), leaving, .interrupt, .finish .blank (.answer [])]

theorem main_orderly_halting :
    Always (Main.step haltExternals haltingBot) (Orderly haltingBot) haltingStart halting ∧
    (run (Main.step haltExternals haltingBot) haltingStart halting).map (fun main =>
      (main.targetChannel, main.process.calls.length)) = some (7, 4) ∧
    (run (Main.step haltExternals haltingBot) haltingStart interrupted).map (fun main =>
      (main.targetChannel, main.process.calls.length)) = some (7, 5) :=
  ⟨main_orderly haltingBot _ halting (booted_ofBot _ 16 99), by decide +kernel, by decide +kernel⟩

end Libdiscord.Bot
