import Libdiscord.Bot.Process

/-! What the process of a bot puts on the wire. -/

set_option autoImplicit false

namespace Libdiscord.Bot

open Libdiscord.Base Rest
open Json (member?)

structure Coherent (p : Process) : Prop where
  handle : run Rest.send .fresh p.calls = some p.system.ctx.curlHandle
  sendable : ∀ call ∈ p.calls, call.request.Sendable
  prepared : Prepared p.system

def Process.HasPosted (p : Process) : Prop := ∃ call ∈ p.calls, call.request.verb = .post

def Process.Unasked (p next : Process) : Prop := Only Event.Unasked (newEvents p.system next.system)

/-- On its own the bot posts only when everything is there that a connection attempt asks for. -/
def Action.Late (p : Process) : Action → Prop
  | .move _ _ _ _ => True
  | .post _ _ _ => p.system.ctx.Complete

instance (p : Process) : (a : Action) → Decidable (a.Late p)
  | .move _ _ _ _ => isTrue trivial
  | .post _ _ _ => inferInstanceAs (Decidable (_ ∧ _ ∧ _))

section
variable {ex : Externals} {program : Program} {p middle next : Process} {a : Action} {causes : List Cause}
  {level : UInt64} {s : System}

theorem coherent_start (booted : Booted ex s) : Coherent (.start level s) := by
  have prepared := prepared_start booted
  obtain ⟨_, info, ctx, initialised, rfl⟩ := booted
  obtain ⟨_, _, _, _, _, _, _, rfl⟩ := initContext_ok initialised
  exact ⟨rfl, nofun, prepared⟩

theorem Posted.posts (posted : Posted ex program p causes next) :
    ∃ calls, next.calls = p.calls ++ calls ∧ (∀ call ∈ calls, call.request.verb = .post) ∧
      ∀ call ∈ calls, call.request.Sendable := by
  obtain ⟨handle, calls, rfl, ran, requests⟩ := posted
  refine ⟨calls, rfl, ?_⟩
  have built : ∀ call ∈ calls, ∃ post, call.request = p.request ex post := by
    intro call member
    have inside : call.request ∈ calls.map (·.request) := List.mem_map_of_mem member
    rw [requests] at inside
    obtain ⟨post, _, same⟩ := List.mem_map.mp inside
    exact ⟨post, same.symm⟩
  constructor
  · intro call member
    obtain ⟨post, same⟩ := built call member
    rw [same]
    exact createBasicMessage_verb _ _ _ _ _
  · intro call member
    obtain ⟨post, same⟩ := built call member
    rw [same]
    exact p.request_sendable ex post

theorem Posted.coherent (coherent : Coherent p) (posted : Posted ex program p causes next) : Coherent next := by
  obtain ⟨calls, same, _, sendable⟩ := posted.posts
  obtain ⟨handle, more, rfl, ran, _⟩ := posted
  obtain rfl := List.append_cancel_left same
  refine ⟨?_, ?_, coherent.prepared⟩
  · rw [run_append, coherent.handle]
    exact ran
  · intro call member
    rcases List.mem_append.mp member with before | here
    · exact coherent.sendable call before
    · exact sendable call here

theorem Coherent.after {m : Move} {middle : System} (coherent : Coherent p)
    (stepped : Libdiscord.step ex p.system m = some middle) : Coherent (p.after middle) := by
  refine ⟨?_, ?_, prepared_step coherent.prepared stepped⟩
  · rw [Process.after, run_append, coherent.handle]
    exact (step_sends stepped).1
  · intro call member
    rcases List.mem_append.mp member with before | here
    · exact coherent.sendable call before
    · obtain ⟨endpoint, same⟩ := mem_webCalls here
      rw [same]
      exact endpoint.request_sendable _

theorem coherent_step (coherent : Coherent p) (stepped : Process.step ex program p a = some next) :
    Coherent next := by
  cases step_acted stepped with
  | move m shown w exchange middle ran posted => exact posted.coherent (coherent.after ran)
  | post post shown exchange _ posted => exact posted.coherent coherent

theorem Coherent.asBuilt_iff (coherent : Coherent p) : AsBuilt .fresh p.calls ↔ GetsFirst p.calls := by
  rw [Rest.asBuilt_iff _ coherent.sendable]
  exact and_iff_right fun posted => Bool.noConfusion posted

theorem webCalls_nil {botToken : Option Text} {events : List Event} :
    webCalls botToken events = [] ↔ Only Event.Unasked events := by
  refine ⟨fun nothing e member => ?_, webCalls_unasked⟩
  have uncalled := List.filterMap_eq_nil_iff.mp nothing e member
  cases e <;> first | contradiction | trivial

theorem unasked_of_history (same : next.system.history = p.system.history) : p.Unasked next := by
  have nothing : newEvents p.system next.system = [] := by
    rw [newEvents, same, List.drop_length]
  rw [Process.Unasked, nothing]
  exact only_nil

theorem step_calls (stepped : Process.step ex program p a = some next) :
    ∃ gets posts, next.calls = p.calls ++ (gets ++ posts) ∧ (∀ call ∈ gets, call.request.verb = .get) ∧
      (∀ call ∈ posts, call.request.verb = .post) ∧ (gets = [] ↔ p.Unasked next) := by
  cases step_acted stepped with
  | move m shown w exchange middle ran posted =>
    obtain ⟨posts, same, verbs, _⟩ := posted.posts
    obtain ⟨handle, _, rfl, _, _⟩ := posted
    refine ⟨webCalls p.system.ctx.botToken (newEvents p.system middle), posts, ?_, ?_, verbs, webCalls_nil⟩
    · rw [same, Process.after, List.append_assoc]
    · intro call member
      obtain ⟨endpoint, same⟩ := mem_webCalls member
      rw [same]
      exact endpoint.request_get _
  | post post shown exchange _ posted =>
    obtain ⟨posts, same, verbs, _⟩ := posted.posts
    obtain ⟨handle, _, rfl, _, _⟩ := posted
    refine ⟨[], posts, same, by simp, verbs, iff_of_true rfl ?_⟩
    exact unasked_of_history rfl

theorem getsFirst_step (good : GetsFirst p.calls) (stepped : Process.step ex program p a = some next) :
    GetsFirst next.calls ↔ (p.HasPosted → p.Unasked next) := by
  obtain ⟨gets, posts, same, getting, posting, asked⟩ := step_calls stepped
  have both : GetsFirst (gets ++ posts) :=
    getsFirst_append.mpr ⟨getsFirst_of_all getting, getsFirst_of_all posting, fun _ => posting⟩
  rw [same, getsFirst_append, and_iff_right good, and_iff_right both, Process.HasPosted, ← asked]
  refine imp_congr_right fun _ => ?_
  constructor
  · intro all
    refine List.eq_nil_iff_forall_not_mem.mpr fun call member => ?_
    have post := all call (List.mem_append_left _ member)
    rw [getting call member] at post
    cases post
  · rintro rfl
    exact posting

theorem userCalls_away {m : Move} {next : System} (stepped : Libdiscord.step ex s m = some next)
    (called : userCalls (newEvents s next) ≠ []) : s.control ≠ .bot := by
  have silent : ∀ {events : List Event}, Only Event.Unheard events → userCalls events = [] := fun only =>
    only.filterMap fun e kind => by cases e <;> first | rfl | cases kind
  cases step_acts stepped with
  | idle events _ _ history only =>
    rw [newEvents_of_append history, silent (only.mono Event.Idle.unheard)] at called
    exact absurd rfl called
  | connecting events wsi ctx _ _ history only =>
    rw [newEvents_of_append history] at called
    have unheard : Only Event.Unheard (events ++ [.connecting (s.wsis + 1)]) :=
      (only_append _ _).mpr ⟨only.mono Event.Idle.unheard, by simp [Event.Unheard]⟩
    rw [silent unheard] at called
    exact absurd rfl called
  | missed _ _ history =>
    rw [newEvents_of_append history] at called
    exact absurd rfl called
  | queued later ring text events _ _ _ _ history only =>
    rw [newEvents_of_append history] at called
    have unheard : Only Event.Unheard (.queued .heartbeat text :: events) :=
      (only_cons _ _).mpr ⟨trivial, only.mono Event.Idle.unheard⟩
    rw [silent unheard] at called
    exact absurd rfl called
  | called wsi callback w out same =>
    subst same
    intro bot
    rw [Libdiscord.step, if_pos bot] at stepped
    cases stepped

theorem called_complete {m : Move} {next : System} (prepared : Prepared s)
    (stepped : Libdiscord.step ex s m = some next) (called : userCalls (newEvents s next) ≠ []) :
    s.ctx.Complete := prepared (.inl (userCalls_away stepped called))

theorem Posted.complete (posted : Posted ex program p causes next) :
    next.system.ctx.Complete ↔ p.system.ctx.Complete := by
  obtain ⟨_, _, rfl, _, _⟩ := posted
  exact Iff.rfl

theorem Posted.still (posted : Posted ex program p [] next) : next.calls = p.calls := by
  obtain ⟨handle, calls, rfl, _, requests⟩ := posted
  rw [List.map_eq_nil_iff.mp requests, List.append_nil]

theorem late_step (coherent : Coherent p) (late : a.Late p) (complete : p.HasPosted → p.system.ctx.Complete)
    (stepped : Process.step ex program p a = some next) : next.HasPosted → next.system.ctx.Complete := by
  intro hasPosted
  cases step_acted stepped with
  | move m shown w exchange middle ran posted =>
    rw [posted.complete]
    have before : p.system.ctx.Complete := by
      by_cases called : userCalls (newEvents p.system middle) = []
      · rw [called] at posted
        obtain ⟨call, member, post⟩ := hasPosted
        rw [posted.still] at member
        rcases List.mem_append.mp member with earlier | asked
        · exact complete ⟨call, earlier, post⟩
        · obtain ⟨endpoint, same⟩ := mem_webCalls asked
          rw [same, endpoint.request_get] at post
          cases post
      · exact called_complete coherent.prepared ran called
    exact (complete_kept before ran).1
  | post post shown exchange _ posted => exact posted.complete.mpr late

/-- In every run the requests of library and bot go on the wire as they were built exactly if the web servers are
never asked for anything after a post; so it is where the bot posts in its callback only, or else late. -/
theorem requests_built (program : Program) (level : UInt64) (actions : List Action) (booted : Booted ex s) :
    (Always (Process.step ex program) (fun p => AsBuilt .fresh p.calls) (.start level s) actions ↔
      Each (Process.step ex program) (fun p _ next => p.HasPosted → p.Unasked next) (.start level s) actions) ∧
    (Each (Process.step ex program) (fun p a _ => a.Late p) (.start level s) actions →
      Always (Process.step ex program) (fun p => AsBuilt .fresh p.calls) (.start level s) actions) := by
  have start : Coherent (.start level s) := coherent_start booted
  have unposted : ¬(Process.start level s).HasPosted := fun ⟨_, member, _⟩ => nomatch member
  have exactly : Always (Process.step ex program) (fun p => AsBuilt .fresh p.calls) (.start level s) actions ↔
      Each (Process.step ex program) (fun p _ next => p.HasPosted → p.Unasked next) (.start level s) actions :=
    always_iff_each (fun _ _ _ coherent _ stepped => coherent_step coherent stepped)
      (fun _ _ _ coherent good _ stepped => by
        rw [(coherent_step coherent stepped).asBuilt_iff]
        exact getsFirst_step (coherent.asBuilt_iff.mp good) stepped)
      start rfl (each_true _ actions)
  refine ⟨exactly, fun late => exactly.mpr ?_⟩
  refine each_of_invariant (fun p => Coherent p ∧ (p.HasPosted → p.system.ctx.Complete)) ?_ ?_
    ⟨start, fun posted => absurd posted unposted⟩ late
  · exact fun _ _ _ ⟨coherent, complete⟩ late stepped =>
      ⟨coherent_step coherent stepped, late_step coherent late complete stepped⟩
  · intro p a next ⟨coherent, complete⟩ late stepped posted
    cases step_acted stepped with
    | move m shown w exchange middle ran done =>
      obtain ⟨_, _, rfl, _, _⟩ := done
      exact (complete_kept (complete posted) ran).2.2
    | post post shown exchange _ done =>
      obtain ⟨_, _, rfl, _, _⟩ := done
      exact unasked_of_history rfl

end

/-- The request for a post as it is to leave. A content that jansson does not take leaves an empty body. -/
def postWire (ex : Externals) (botToken : Option Text) (post : Post) : WireRequest where
  method := .post
  url := some (ascii "https://discordapp.com/api/v6/channels/" ++ decimalDigits post.channelId ++ ascii "/messages")
  headers := [ascii "Authorization: Bot " ++ botToken.getD (ascii "(null)"), ascii "Content-Type: application/json"]
  userAgent := some defaultUserAgent
  body := some ((Json.ofText ex (some post.content)).elim [] fun content => ex.dumps (.object [("content", content)]))

def Process.messagesOnWire (p : Process) : List (Option WireRequest) :=
  ((p.calls.zip (wires .fresh p.calls)).filter (·.1.request.verb = .post)).map (·.2)

/-- What leaves as a POST, whatever made it. -/
def Process.postsOnWire (p : Process) : List (Option WireRequest) := (wires .fresh p.calls).filter LeavesAsPost

def Cause.call? : Cause → Option UserCall
  | .told call _ => some call
  | .own _ => none

def Process.wanted (ex : Externals) (program : Program) (p : Process) : List (Option WireRequest) :=
  (p.causes.filterMap (Cause.post? program p.system.ctx.currentUser)).map fun post =>
    some (postWire ex p.system.ctx.botToken post)

/-- Every call of the callback is a cause, and every cause was answered with the request that is due. Nothing else
leaves as a POST exactly if all requests leave as they were built. -/
structure Answered (ex : Externals) (program : Program) (p : Process) : Prop where
  told : p.causes.filterMap Cause.call? = userCalls p.system.history
  posted : p.messagesOnWire = p.wanted ex program
  alone : p.postsOnWire = p.wanted ex program ↔ AsBuilt .fresh p.calls

section
variable {ex : Externals} {program : Program} {p middle next : Process} {a : Action} {causes : List Cause}
  {s : System}

theorem request_wire (ex : Externals) (p : Process) (post : Post) :
    (p.request ex post).wire = postWire ex p.system.ctx.botToken post := by
  have path : apiUrl ++ restApiVersion ++ ascii "/channels/" = ascii "https://discordapp.com/api/v6/channels/" := by
    decide +kernel
  have name : ascii "Authorization" ++ ascii ": " ++ ascii "Bot " = ascii "Authorization: Bot " := by decide +kernel
  have type : Headers.line (ascii "Content-Type") (ascii "application/json") =
      ascii "Content-Type: application/json" := by decide +kernel
  have address : (apiUrl ++ restApiVersion) ++ (ascii "/channels/" ++ decimalDigits post.channelId ++
      ascii "/messages") = ascii "https://discordapp.com/api/v6/channels/" ++ decimalDigits post.channelId ++
        ascii "/messages" := by
    rw [← path]
    simp only [List.append_assoc]
  have bearer : Headers.line (ascii "Authorization") (authorization p.system.ctx.botToken) =
      ascii "Authorization: Bot " ++ p.system.ctx.botToken.getD (ascii "(null)") := by
    rw [← name, Headers.line, authorization]
    simp only [List.append_assoc]
  have headers : (((Headers.init.put (ascii "Authorization") (authorization p.system.ctx.botToken)).put
      (ascii "Content-Type") (ascii "application/json")).toCurl []) =
        [ascii "Authorization: Bot " ++ p.system.ctx.botToken.getD (ascii "(null)"),
          ascii "Content-Type: application/json"] := by
    rw [← bearer, ← type]
    rfl
  unfold Process.request createBasicMessage postWire
  cases taken : Json.ofText ex (some post.content) with
  | none =>
    simp only [Request.wire, Option.getD_some, address]
    rw [show (initRequest none).headers = .init from rfl, headers]
    rfl
  | some content =>
    simp only [Request.wire, Option.getD_some, address, if_true, List.take_length, Option.elim_some]
    rw [show (initRequest none).headers = .init from rfl, headers]

structure Recorded (ex : Externals) (program : Program) (p : Process) : Prop where
  coherent : Coherent p
  told : p.causes.filterMap Cause.call? = userCalls p.system.history
  complete : userCalls p.system.history ≠ [] → p.system.ctx.Complete
  requests : (p.calls.filter (·.request.verb = .post)).map (·.request) =
    (p.causes.filterMap (Cause.post? program p.system.ctx.currentUser)).map (p.request ex)

theorem Recorded.answered (recorded : Recorded ex program p) : Answered ex program p := by
  have wanted : (p.calls.filter (·.request.verb = .post)).map (fun call => some call.request.wire) =
      p.wanted ex program := by
    have built := congrArg (List.map fun request : Request => some request.wire) recorded.requests
    rw [List.map_map, List.map_map] at built
    refine built.trans (List.map_congr_left fun post _ => ?_)
    rw [Function.comp, request_wire]
  refine ⟨recorded.told, ?_, ?_⟩
  · rw [Process.messagesOnWire, posts_built _ recorded.coherent.sendable, wanted]
  · rw [Process.postsOnWire, ← wanted, posts_alone_iff _ recorded.coherent.sendable]

theorem filterMap_untold {α : Type} {first second : Cause → Option α}
    (own : ∀ post, first (.own post) = second (.own post)) (untold : causes.filterMap Cause.call? = []) :
    causes.filterMap first = causes.filterMap second := by
  refine List.filterMap_congr fun cause member => ?_
  have silent := List.filterMap_eq_nil_iff.mp untold cause member
  cases cause with
  | told call w => cases silent
  | own post => exact own post

theorem filter_posts {calls : List Rest.Call} (posting : ∀ call ∈ calls, call.request.verb = .post) :
    calls.filter (·.request.verb = .post) = calls :=
  List.filter_eq_self.mpr fun call member => decide_eq_true (posting call member)

theorem Recorded.after {m : Move} {middle : System} (recorded : Recorded ex program p)
    (stepped : Libdiscord.step ex p.system m = some middle) :
    ((p.after middle).calls.filter (·.request.verb = .post)).map (·.request) =
      ((p.after middle).causes.filterMap (Cause.post? program middle.ctx.currentUser)).map
        ((p.after middle).request ex) := by
  have gets : (webCalls p.system.ctx.botToken (newEvents p.system middle)).filter (·.request.verb = .post) = [] := by
    refine List.filter_eq_nil_iff.mpr fun call member => ?_
    obtain ⟨endpoint, same⟩ := mem_webCalls member
    rw [same, endpoint.request_get]
    decide
  have token : middle.ctx.botToken = p.system.ctx.botToken := (step_sends stepped).2
  have same : (p.after middle).request ex = p.request ex := by
    funext post
    rw [Process.request, Process.request, Process.after, token]
  have users : p.causes.filterMap (Cause.post? program middle.ctx.currentUser) =
      p.causes.filterMap (Cause.post? program p.system.ctx.currentUser) := by
    by_cases silent : userCalls p.system.history = []
    · exact filterMap_untold (fun _ => rfl) (recorded.told.trans silent)
    · rw [(complete_kept (recorded.complete silent) stepped).2.1]
  rw [same, Process.after, List.filter_append, gets, List.append_nil, users, recorded.requests]

theorem Posted.requests (posted : Posted ex program p causes next)
    (requests : (p.calls.filter (·.request.verb = .post)).map (·.request) =
      (p.causes.filterMap (Cause.post? program p.system.ctx.currentUser)).map (p.request ex)) :
    (next.calls.filter (·.request.verb = .post)).map (·.request) =
      (next.causes.filterMap (Cause.post? program next.system.ctx.currentUser)).map (next.request ex) := by
  obtain ⟨calls, same, posting, _⟩ := posted.posts
  obtain ⟨handle, more, rfl, _, asked⟩ := posted
  obtain rfl := List.append_cancel_left same
  dsimp only
  rw [List.filter_append, filter_posts posting, List.map_append, requests, asked, List.filterMap_append,
    List.map_append]
  rfl

theorem recorded_step (recorded : Recorded ex program p) (stepped : Process.step ex program p a = some next) :
    Recorded ex program next := by
  have coherent := coherent_step recorded.coherent stepped
  cases step_acted stepped with
  | move m shown w exchange middle ran posted =>
    have requests := posted.requests (recorded.after ran)
    obtain ⟨events, history, _⟩ := step_fetches ran
    obtain ⟨_, _, rfl, _, _⟩ := posted
    refine ⟨coherent, ?_, fun called => ?_, requests⟩
    · have back : ((userCalls events).map (Cause.told · w)).filterMap Cause.call? = userCalls events := by
        rw [List.filterMap_map]
        exact List.filterMap_some
      show (p.causes ++ _).filterMap Cause.call? = userCalls middle.history
      rw [List.filterMap_append, recorded.told, newEvents_of_append history, back, history, userCalls_append]
    · have before : p.system.ctx.Complete := by
        by_cases silent : userCalls p.system.history = []
        · refine called_complete recorded.coherent.prepared ran ?_
          have whole : userCalls middle.history ≠ [] := called
          rwa [history, userCalls_append, silent, List.nil_append, ← newEvents_of_append history] at whole
        · exact recorded.complete silent
      exact (complete_kept before ran).1
  | post post shown exchange _ posted =>
    have requests := posted.requests recorded.requests
    obtain ⟨_, _, rfl, _, _⟩ := posted
    refine ⟨coherent, ?_, recorded.complete, requests⟩
    show (p.causes ++ [Cause.own post]).filterMap Cause.call? = userCalls p.system.history
    rw [List.filterMap_append, recorded.told]
    exact List.append_nil _

/-- In every run the bot is called as the history has it, and its answers and its own posts leave as POST requests, in
order and each with its channel and its content, whatever else the handle was used for. Only where a request of the
library leaves as something else than it was built, there are other POST requests. -/
theorem posts_answer (program : Program) (level : UInt64) (actions : List Action) (booted : Booted ex s) :
    Always (Process.step ex program) (Answered ex program) (.start level s) actions := by
  have history : userCalls s.history = [] := by
    rw [booted.fresh.1]
    rfl
  have start : Recorded ex program (.start level s) :=
    ⟨coherent_start booted, history.symm, fun called => absurd history called, rfl⟩
  have always : Always (Process.step ex program) (Recorded ex program) (.start level s) actions :=
    always_of_each (Recorded ex program) (fun _ _ _ recorded _ stepped => recorded_step recorded stepped) start
      (each_true _ actions)
  exact always.mono fun _ recorded => recorded.answered

end

def messageDispatch (content : Text) : Json :=
  .object [("t", .string (ascii "MESSAGE_CREATE")), ("s", .integer 2), ("op", .integer 0), ("d", userMessage content)]

abbrev messageExternals : Externals := .knowing [messageDispatch (ascii "Ayy!"), webAnswer]

def echoBot : Program := .ayylmao (ascii "ayy") (ascii "ayy lmao")

def quietly (m : Move) : Action := .move m .blank .calm (.answer [])

def asking : Action := quietly (.connect (.answering webAnswer.encode noUser) true)

def hearingAyy : Action :=
  quietly (.callback 1 (.clientReceive ⟨(messageDispatch (ascii "Ayy!")).encode, true, true⟩) (.calm 101))

def saying : Action := .post ⟨8, ascii "bye"⟩ .blank (.answer [])

abbrev answeringStart : Process := .start Log.defaultLevel (.ofBot messageExternals 16 99)

-- A user writes, and then the bot posts on its own.
theorem requests_built_answering :
    Always (Process.step messageExternals echoBot) (fun p => AsBuilt .fresh p.calls) answeringStart
      [asking, hearingAyy, quietly .leave, saying] :=
  (requests_built echoBot _ _ (booted_ofBot _ 16 99)).2 (by decide +kernel)

-- The bot posts before it connects, so that the three requests of the library leave as POST requests too.
theorem posts_answer_hasty :
    Always (Process.step messageExternals echoBot) (Answered messageExternals echoBot) answeringStart
      [saying, asking, hearingAyy] ∧
    (run (Process.step messageExternals echoBot) answeringStart [saying, asking, hearingAyy]).map (fun p =>
      (p.messagesOnWire.map fun wire => wire.bind (·.body), p.postsOnWire.length)) =
      some ([some (ascii "\x7b\"content\": \"bye\"\x7d"), some (ascii "\x7b\"content\": \"ayy lmao\"\x7d")], 5) :=
  ⟨posts_answer echoBot _ _ (booted_ofBot _ 16 99), by decide +kernel⟩

end Libdiscord.Bot
