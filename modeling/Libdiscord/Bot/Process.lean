import Libdiscord.Bot.Chat
import Libdiscord.Gateway.Heard
import Libdiscord.Gateway.Journal
import Libdiscord.Gateway.Requests

/-! The process of a bot: the library with its log, and the callback that posts messages while libwebsockets has
control.

The requests of the library and those of the bot share the curl handle of the context.
-/

set_option autoImplicit false

namespace Libdiscord

def CallbackData.value : CallbackData → Json
  | .json value => value
  | _ => .null

def Event.endpoint? : Event → Option Endpoint
  | .exchanged endpoint _ => some endpoint
  | _ => none

def endpoints (events : List Event) : List Endpoint := events.filterMap Event.endpoint?

end Libdiscord

namespace Libdiscord.Bot

open Libdiscord.Base Rest Log
open Json (member?)

-- `char tmp[1000]` of the functions that build a request
def requestTmpSize : Nat := 1000

/-- What is sent for the token fits the array that it is printed into. -/
def TokenFits (botToken : Option Text) : Prop := (authorization botToken).length < requestTmpSize

instance (botToken : Option Text) : Decidable (TokenFits botToken) := inferInstanceAs (Decidable (_ < _))

def Authorizes (events : List Event) : Prop := ∃ endpoint ∈ endpoints events, endpoint ≠ .gateway

instance (events : List Event) : Decidable (Authorizes events) :=
  inferInstanceAs (Decidable (∃ endpoint ∈ endpoints events, endpoint ≠ .gateway))

def createBasicMessageLogs (ex : Externals) (content : Text) : List Log.Call :=
  debug "user-agent: %s" [.string defaultUserAgent] ::
    match Json.ofText ex (some content) with
    | none => [error "couldn't create JSON object for lmao data" []]
    | some text => [debug "body to post: %s" [printed (ex.dumps (.object [("content", text)]))]]

def sendBasicMessageLogs (ex : Externals) (shown : Printed) (content : Text) (exchange : Exchange) : List Log.Call :=
  let status := if exchange.performed then exchange.status else -1
  createBasicMessageLogs ex content ++ sendLogs shown exchange ++
    if status ≥ 400 then [notice "ld_send_basic_message: request returned %d" [.long status]] else []

/-- A post is harmless: the transfer does not fail where warnings are printed, and where the body is printed, it is
not too long. -/
def PostPrintable (ex : Externals) (level : UInt64) (content : Text) (exchange : Exchange) : Prop :=
  (Warns level → exchange.performed = true) ∧
  (Debugs level → ∀ text ∈ Json.ofText ex (some content), Fits 14 (ex.dumps (.object [("content", text)])))

theorem sendBasicMessageLogs_quiet {ex : Externals} {level : UInt64} {shown : Printed} {content : Text}
    {exchange : Exchange} :
    Quiet level (sendBasicMessageLogs ex shown content exchange) ↔ PostPrintable ex level content exchange := by
  have agent : Quiet level [debug "user-agent: %s" [.string defaultUserAgent]] := quiet_short rfl (by decide +kernel)
  have returned : ∀ status : Int64, Quiet level
      (if status ≥ 400 then [notice "ld_send_basic_message: request returned %d" [.long status]] else []) := by
    intro status
    split
    · exact quiet_short rfl (show 42 + 11 < msgSize by decide)
    · exact quiet_nil
  rw [sendBasicMessageLogs, PostPrintable, quiet_append, and_iff_left (returned _), quiet_append, sendLogs_quiet,
    createBasicMessageLogs, quiet_cons, ← quiet_one, and_iff_right agent, and_comm]
  refine and_congr_right fun _ => ?_
  cases Json.ofText ex (some content) with
  | none => exact iff_of_true (quiet_plain (by decide)) fun _ _ member => by cases member
  | some text =>
    have shown : (debug "body to post: %s" [printed (ex.dumps (.object [("content", text)]))]).Writable ↔
        Fits 14 (ex.dumps (.object [("content", text)])) := writable_string (by decide)
    simp only [Option.mem_some_iff, forall_eq']
    exact quiet_debug shown

/-- Why a message is posted: the callback was called, with this memory around, or the bot wants to. -/
inductive Cause where
  | told (call : UserCall) (w : World)
  | own (post : Post)

structure Process where
  system : System
  level : UInt64
  calls : List Rest.Call
  causes : List Cause

inductive Action where
  -- where the callback is called in this move, it finds this and its request is answered so
  | move (m : Move) (shown : Printed) (w : World) (exchange : Exchange)
  -- the bot posts on its own
  | post (post : Post) (shown : Printed) (exchange : Exchange)

def Process.start (level : UInt64) (s : System) : Process := ⟨s, level, [], []⟩

def Process.request (ex : Externals) (p : Process) (post : Post) : Request :=
  createBasicMessage ex p.system.ctx.botToken (initRequest none) post.channelId (some post.content)

/-- `ld_send_basic_message` with the handle of the context, `none` where it uses memory that is not its own. -/
def Process.send (ex : Externals) (p : Process) (shown : Printed) (post : Post) (exchange : Exchange) :
    Option Process :=
  let ctx := p.system.ctx
  if TokenFits ctx.botToken ∧ Quiet p.level (sendBasicMessageLogs ex shown post.content exchange) then
    (sendBasicMessage ex ctx.curlHandle ctx.botToken initResponse post.channelId (some post.content) exchange).map
      fun sent => { p with
        system := { p.system with ctx := { ctx with curlHandle := sent.handle } }
        calls := p.calls ++ [⟨p.request ex post, exchange⟩] }
  else none

/-- A call of the user callback, `none` where it crashes or misuses memory. What it logs itself is
short and can be printed. -/
def Process.tell (ex : Externals) (program : Program) (shown : Printed) (w : World) (exchange : Exchange)
    (p : Process) (call : UserCall) : Option Process := do
  let reply ← program.callback p.system.ctx.currentUser w call.reason call.data.value
  if reply.mishaps ≠ [] then none
  else
    let p := { p with causes := p.causes ++ [.told call w] }
    match reply.post with
    | none => some p
    | some post => p.send ex shown post exchange

def Process.after (p : Process) (next : System) : Process :=
  { p with system := next, calls := p.calls ++ webCalls p.system.ctx.botToken (newEvents p.system next) }

def Process.step (ex : Externals) (program : Program) (p : Process) : Action → Option Process
  | .move m shown w exchange => do
    let next ← Libdiscord.step ex p.system m
    let events := newEvents p.system next
    if Quiet p.level (m.logs ex shown p.system) ∧ (Authorizes events → TokenFits p.system.ctx.botToken) then
      (userCalls events).foldlM (Process.tell ex program shown w exchange) (p.after next)
    else none
  | .post post shown exchange =>
    if p.system.control = .bot then
      ({ p with causes := p.causes ++ [.own post] } : Process).send ex shown post exchange
    else none

def Cause.post? (program : Program) (user : Option User) : Cause → Option Post
  | .told call w => (program.callback user w call.reason call.data.value).bind (·.post)
  | .own post => some post

def Posted (ex : Externals) (program : Program) (p : Process) (causes : List Cause) (next : Process) : Prop :=
  ∃ handle calls,
    next = { p with
      system := { p.system with ctx := { p.system.ctx with curlHandle := handle } }
      calls := p.calls ++ calls
      causes := p.causes ++ causes } ∧
    run Rest.send p.system.ctx.curlHandle calls = some handle ∧
    calls.map (·.request) = (causes.filterMap (Cause.post? program p.system.ctx.currentUser)).map (p.request ex)

inductive Acted (ex : Externals) (program : Program) (p next : Process) : Action → Prop where
  | move (m : Move) (shown : Printed) (w : World) (exchange : Exchange) (middle : System) :
      Libdiscord.step ex p.system m = some middle →
      Posted ex program (p.after middle) ((userCalls (newEvents p.system middle)).map (.told · w)) next →
      Acted ex program p next (.move m shown w exchange)
  | post (post : Post) (shown : Printed) (exchange : Exchange) : p.system.control = .bot →
      Posted ex program p [.own post] next → Acted ex program p next (.post post shown exchange)

def Process.Sends (ex : Externals) (p : Process) (post : Post) (exchange : Exchange) : Prop :=
  TokenFits p.system.ctx.botToken ∧ PostPrintable ex p.level post.content exchange

section
variable {ex : Externals} {program : Program} {p next final : Process} {a : Action} {w : World} {shown : Printed}
  {exchange : Exchange} {causes more : List Cause}

theorem Process.request_sendable (ex : Externals) (p : Process) (post : Post) : (p.request ex post).Sendable := by
  obtain ⟨baseUrl, endpoint⟩ := createBasicMessage_endpoint ex p.system.ctx.botToken (initRequest none)
    post.channelId (some post.content)
  exact ⟨.inr (createBasicMessage_verb _ _ _ _ _), baseUrl, endpoint⟩

theorem Process.send_fitting {post : Post} (fits : p.Sends ex post exchange) (shown : Printed) :
    ∃ handle, Rest.send p.system.ctx.curlHandle ⟨p.request ex post, exchange⟩ = some handle ∧
      p.send ex shown post exchange = some { p with
        system := { p.system with ctx := { p.system.ctx with curlHandle := handle } }
        calls := p.calls ++ [⟨p.request ex post, exchange⟩] } := by
  have sendable : (Rest.Call.mk (p.request ex post) exchange).request.Sendable := p.request_sendable ex post
  obtain ⟨sent, sending, made, _⟩ := send_sendable p.system.ctx.curlHandle sendable
  refine ⟨sent.handle, made, ?_⟩
  have whole : sendBasicMessage ex p.system.ctx.curlHandle p.system.ctx.botToken initResponse post.channelId
      (some post.content) exchange =
        some { sent with ret := if sent.response.httpStatus ≥ 400 then 1 else .ok } :=
    Option.map_eq_some_iff.mpr ⟨sent, sending, rfl⟩
  rw [Process.send, if_pos ⟨fits.1, sendBasicMessageLogs_quiet.mpr fits.2⟩, whole]
  rfl

theorem Process.sends_of_some {post : Post} (sent : p.send ex shown post exchange = some next) :
    p.Sends ex post exchange := by
  rw [Process.send] at sent
  split at sent
  · next fits => exact ⟨fits.1, sendBasicMessageLogs_quiet.mp fits.2⟩
  · cases sent

theorem Posted.refl (p : Process) : Posted ex program p [] p :=
  ⟨p.system.ctx.curlHandle, [], by simp, rfl, rfl⟩

theorem Posted.trans (first : Posted ex program p causes next) (second : Posted ex program next more final) :
    Posted ex program p (causes ++ more) final := by
  obtain ⟨handle, calls, rfl, ran, posts⟩ := first
  obtain ⟨last, later, rfl, rest, further⟩ := second
  refine ⟨last, calls ++ later, by simp, ?_, ?_⟩
  · rw [run_append, ran]
    exact rest
  · rw [List.map_append, List.filterMap_append, List.map_append, posts, further]
    rfl

theorem Posted.one {cause : Cause} {post : Post}
    (posts : cause.post? program p.system.ctx.currentUser = some post)
    (sent : ({ p with causes := p.causes ++ [cause] } : Process).send ex shown post exchange = some next) :
    Posted ex program p [cause] next := by
  obtain ⟨handle, made, same⟩ := Process.send_fitting (Process.sends_of_some sent) shown
  cases same.symm.trans sent
  refine ⟨handle, [⟨p.request ex post, exchange⟩], rfl, ?_, ?_⟩
  · rw [run_cons]
    exact Option.bind_eq_some_iff.mpr ⟨handle, made, rfl⟩
  · simp [posts]

theorem tell_posted {call : UserCall} (told : p.tell ex program shown w exchange call = some next) :
    Posted ex program p [.told call w] next := by
  obtain ⟨reply, ran, rest⟩ := Option.bind_eq_some_iff.mp told
  have posts : Cause.post? program p.system.ctx.currentUser (.told call w) = reply.post := by
    rw [Cause.post?, ran]
    rfl
  split at rest
  · cases rest
  cases post : reply.post with
  | none =>
    simp only [post, Option.some.injEq] at rest
    subst rest
    refine ⟨p.system.ctx.curlHandle, [], by simp, rfl, ?_⟩
    simp [posts, post]
  | some post' =>
    simp only [post] at rest
    exact .one (posts.trans post) rest

theorem tells_posted (calls : List UserCall)
    (told : calls.foldlM (Process.tell ex program shown w exchange) p = some next) :
    Posted ex program p (calls.map (.told · w)) next := by
  induction calls generalizing p with
  | nil =>
    cases told
    exact .refl _
  | cons call calls ih =>
    obtain ⟨middle, here, rest⟩ := Option.bind_eq_some_iff.mp told
    exact (tell_posted here).trans (ih rest)

theorem step_acted (stepped : Process.step ex program p a = some next) : Acted ex program p next a := by
  cases a with
  | move m shown w exchange =>
    obtain ⟨middle, ran, rest⟩ := Option.bind_eq_some_iff.mp stepped
    dsimp only at rest
    split at rest
    · exact .move m shown w exchange middle ran (tells_posted _ rest)
    · cases rest
  | post post shown exchange =>
    by_cases bot : p.system.control = .bot
    · rw [Process.step, if_pos bot] at stepped
      exact .post post shown exchange bot (.one rfl stepped)
    · rw [Process.step, if_neg bot] at stepped
      cases stepped

end

end Libdiscord.Bot
