import Libdiscord.Gateway.Counting

/-! What a connection attempt has obtained from the web servers. -/

set_option autoImplicit false

namespace Libdiscord

open Libdiscord.Base Rest

-- The answer came, and with a number of shards that `shards` can hold.
def Rest.Exchange.Counts (ex : Externals) (exchange : Exchange) : Prop :=
  exchange.performed = true ∧ exchange.shards ex ≠ 0 ∧
    (exchange.shards ex).toInt32.toInt64 = exchange.shards ex

instance (ex : Externals) (exchange : Exchange) : Decidable (exchange.Counts ex) :=
  inferInstanceAs (Decidable (_ ∧ _ ∧ _))

instance (ex : Externals) (exchange : Exchange) : Decidable (exchange.Identifies ex) :=
  inferInstanceAs (Decidable (_ ∧ _ ∧ _))

def UrlObtained (ex : Externals) (history : List Event) (ctx : Context) : Prop :=
  ∀ url, ctx.gatewayUrl = some url → ∃ exchange, .exchanged .gateway exchange ∈ history ∧
    exchange.performed = true ∧ exchange.url ex = some url

def BotObtained (ex : Externals) (history : List Event) (ctx : Context) : Prop :=
  ∀ url, ctx.gatewayBotUrl = some url → ∃ exchange, .exchanged .gatewayBot exchange ∈ history ∧
    exchange.Counts ex ∧ exchange.url ex = some url ∧ ctx.shards.toInt64 = exchange.shards ex

def UserObtained (ex : Externals) (history : List Event) (ctx : Context) : Prop :=
  ∀ user, ctx.currentUser = some user → ∃ exchange object stale, .exchanged .currentUser exchange ∈ history ∧
    exchange.Identifies ex ∧ ex.loads exchange.body = some object ∧ user = Json.loadUser stale object

def Context.Complete (ctx : Context) : Prop :=
  ctx.gatewayUrl.isSome = true ∧ ctx.gatewayBotUrl.isSome = true ∧ ctx.currentUser.isSome = true

/-- What is stored was obtained, and with all of it stored the gateway is connected to. -/
structure Obtained (ex : Externals) (s : System) : Prop where
  url : UrlObtained ex s.history s.ctx
  bot : BotObtained ex s.history s.ctx
  user : UserObtained ex s.history s.ctx
  complete : ∀ caller, s.control = .connecting caller → s.ctx.Complete

/-- An answer supplies all of what its request is for, or nothing that would be stored. -/
def Event.Supplies (ex : Externals) : Event → Prop
  | .exchanged .gatewayBot exchange => (exchange.url ex).isSome = true → exchange.Counts ex
  | .exchanged .currentUser exchange => exchange.Identifies ex
  | _ => True

instance (ex : Externals) (e : Event) : Decidable (e.Supplies ex) := by
  unfold Event.Supplies
  split <;> infer_instance

def Supplied (ex : Externals) (s : System) (_ : Move) (next : System) : Prop :=
  Only (Event.Supplies ex) (newEvents s next)

instance (ex : Externals) (s next : System) (m : Move) : Decidable (Supplied ex s m next) :=
  inferInstanceAs (Decidable (∀ e ∈ newEvents s next, e.Supplies ex))

/-- A pointer that is null has no answer behind it that would have set it. -/
structure Consistent (ex : Externals) (history : List Event) (ctx : Context) : Prop where
  url : UrlObtained ex history ctx
  bot : ctx.gatewayBotUrl = none → ∀ exchange, .exchanged .gatewayBot exchange ∈ history →
    exchange.url ex = none
  user : ctx.currentUser = none → ∀ exchange, .exchanged .currentUser exchange ∉ history

def Fetches (ex : Externals) (ctx : Context) (events : List Event) (next : Context) : Prop :=
  ∀ history, Consistent ex history ctx → Consistent ex (history ++ events) next ∧
    (BotObtained ex (history ++ events) next ∧ UserObtained ex (history ++ events) next ↔
      (BotObtained ex history ctx ∧ UserObtained ex history ctx) ∧ Only (Event.Supplies ex) events)

def Kept (ctx next : Context) : Prop :=
  next.gatewayUrl = ctx.gatewayUrl ∧ next.gatewayBotUrl = ctx.gatewayBotUrl ∧ next.shards = ctx.shards ∧
    next.currentUser = ctx.currentUser

def Event.Unasked : Event → Prop
  | .exchanged _ _ => False
  | _ => True

section
variable {ex : Externals} {s next : System} {m : Move} {ctx : Context} {events history : List Event}

theorem mem_unasked (unasked : Only Event.Unasked events) (endpoint : Endpoint) (exchange : Exchange) :
    .exchanged endpoint exchange ∈ history ++ events ↔ .exchanged endpoint exchange ∈ history := by
  refine List.mem_append.trans (or_iff_left fun member => ?_)
  exact (unasked _ member).elim

theorem Fetches.kept {next : Context} (kept : Kept ctx next) (unasked : Only Event.Unasked events) :
    Fetches ex ctx events next := by
  obtain ⟨url, bot, shards, user⟩ := kept
  have supplied : Only (Event.Supplies ex) events := unasked.mono fun e unasked => by
    cases e <;> trivial
  intro history consistent
  constructor
  · constructor
    · simpa only [UrlObtained, url, mem_unasked unasked] using consistent.url
    · simpa only [bot, mem_unasked unasked] using consistent.bot
    · simpa only [user, mem_unasked unasked] using consistent.user
  · simp only [BotObtained, UserObtained, bot, shards, user, mem_unasked unasked]
    exact (and_iff_left supplied).symm

theorem Fetches.refl (ctx : Context) : Fetches ex ctx [] ctx := .kept ⟨rfl, rfl, rfl, rfl⟩ only_nil

theorem Fetches.trans {a b c : Context} {more : List Event} (first : Fetches ex a events b)
    (second : Fetches ex b more c) : Fetches ex a (events ++ more) c := by
  intro history consistent
  obtain ⟨consistentFirst, firstIff⟩ := first history consistent
  obtain ⟨consistentSecond, secondIff⟩ := second (history ++ events) consistentFirst
  rw [← List.append_assoc]
  refine ⟨consistentSecond, ?_⟩
  rw [secondIff, firstIff, only_append, and_assoc]

theorem mem_other {endpoint asked : Endpoint} {answer : Exchange} (other : endpoint ≠ asked)
    (exchange : Exchange) :
    .exchanged endpoint exchange ∈ history ++ [.exchanged asked answer] ↔
      .exchanged endpoint exchange ∈ history := by
  simp [other]

theorem fetches_gateway {exchange : Exchange} {out : Outcome} (missing : ctx.gatewayUrl = none)
    (asked : GatewayAsked ex ctx exchange out) : Fetches ex ctx out.events out.ctx := by
  intro history consistent
  cases asked with
  | failed handle ret =>
    constructor
    · constructor
      · intro url stored
        exact nomatch missing.symm.trans stored
      · simpa only [mem_other (by decide : Endpoint.gatewayBot ≠ .gateway)] using consistent.bot
      · simpa only [mem_other (by decide : Endpoint.currentUser ≠ .gateway)] using consistent.user
    · simp only [BotObtained, UserObtained, mem_other (by decide : Endpoint.gatewayBot ≠ .gateway),
        mem_other (by decide : Endpoint.currentUser ≠ .gateway)]
      exact (and_iff_left (by simp [Event.Supplies])).symm
  | stored handle url performed supplied =>
    constructor
    · constructor
      · rintro _ ⟨⟩
        exact ⟨exchange, by simp, performed, supplied⟩
      · simpa only [mem_other (by decide : Endpoint.gatewayBot ≠ .gateway)] using consistent.bot
      · simpa only [mem_other (by decide : Endpoint.currentUser ≠ .gateway)] using consistent.user
    · simp only [BotObtained, UserObtained, mem_other (by decide : Endpoint.gatewayBot ≠ .gateway),
        mem_other (by decide : Endpoint.currentUser ≠ .gateway)]
      exact (and_iff_left (by simp [Event.Supplies])).symm

theorem mem_own {endpoint : Endpoint} {answer : Exchange} (exchange : Exchange) :
    .exchanged endpoint exchange ∈ history ++ [.exchanged endpoint answer] ↔
      .exchanged endpoint exchange ∈ history ∨ exchange = answer := by
  simp

/-- The url is missing, so it can only come from this exchange. -/
theorem botObtained_own {exchange : Exchange} {url : Text} {next : Context}
    (missing : ctx.gatewayBotUrl = none)
    (consistent : Consistent ex history ctx) (supplied : exchange.url ex = some url)
    (stored : next.gatewayBotUrl = some url) :
    BotObtained ex (history ++ [.exchanged .gatewayBot exchange]) next ↔
      exchange.Counts ex ∧ next.shards.toInt64 = exchange.shards ex := by
  constructor
  · intro obtained
    obtain ⟨source, member, counts, from_url, shards⟩ := obtained url stored
    rcases (mem_own source).mp member with old | rfl
    · exact nomatch (consistent.bot missing source old).symm.trans from_url
    · exact ⟨counts, shards⟩
  · rintro ⟨counts, shards⟩ other same
    obtain rfl := Option.some.inj (stored.symm.trans same)
    exact ⟨exchange, by simp, counts, supplied, shards⟩

theorem fetches_bot {exchange : Exchange} {out : Outcome} (missing : ctx.gatewayBotUrl = none)
    (asked : BotAsked ex ctx exchange out) : Fetches ex ctx out.events out.ctx := by
  intro history consistent
  have before : BotObtained ex history ctx := fun url stored => nomatch missing.symm.trans stored
  have gateway : Endpoint.gateway ≠ .gatewayBot := by decide
  have user : Endpoint.currentUser ≠ .gatewayBot := by decide
  have own : Only (Event.Supplies ex) [.exchanged .gatewayBot exchange] ↔
      ((exchange.url ex).isSome = true → exchange.Counts ex) := by simp [Event.Supplies]
  cases asked with
  | failed handle ret _ none =>
    refine ⟨⟨?_, ?_, ?_⟩, ?_⟩
    · simpa only [UrlObtained, mem_other gateway] using consistent.url
    · intro _ other member
      rcases (mem_own other).mp member with old | rfl
      · exact consistent.bot missing other old
      · exact none
    · simpa only [mem_other user] using consistent.user
    · have after : BotObtained ex (history ++ [.exchanged .gatewayBot exchange])
          { ctx with curlHandle := handle } :=
        fun url stored => nomatch missing.symm.trans stored
      rw [own, none, and_iff_right after, and_iff_right before]
      simp only [UserObtained, mem_other user]
      exact (and_iff_left nofun).symm
  | halfway handle ret url _ supplied zero =>
    refine ⟨⟨?_, nofun, ?_⟩, ?_⟩
    · simpa only [UrlObtained, mem_other gateway] using consistent.url
    · simpa only [mem_other user] using consistent.user
    · rw [own, botObtained_own missing consistent supplied rfl]
      apply iff_of_false (fun obtained => obtained.1.1.2.1 zero)
      intro supplies
      exact (supplies.2 (by rw [supplied]; rfl)).2.1 zero
  | stored handle url supplied nonzero =>
    refine ⟨⟨?_, nofun, ?_⟩, ?_⟩
    · simpa only [UrlObtained, mem_other gateway] using consistent.url
    · simpa only [mem_other user] using consistent.user
    · rw [own, botObtained_own missing consistent supplied rfl, and_iff_right before]
      simp only [UserObtained, mem_other user, supplied, Option.isSome_some, true_imp_iff]
      exact ⟨fun obtained => ⟨obtained.2, obtained.1.1⟩, fun both => ⟨⟨both.2, both.2.2.2⟩, both.1⟩⟩

theorem fetches_user {http : Http} {out : Outcome} (missing : ctx.currentUser = none)
    (asked : UserAsked ex ctx http out) : Fetches ex ctx out.events out.ctx := by
  intro history consistent
  have before : UserObtained ex history ctx := fun user stored => nomatch missing.symm.trans stored
  have gateway : Endpoint.gateway ≠ .currentUser := by decide
  have bot : Endpoint.gatewayBot ≠ .currentUser := by decide
  have own : Only (Event.Supplies ex) [.exchanged .currentUser http.currentUser] ↔
      http.currentUser.Identifies ex := by simp [Event.Supplies]
  cases asked with
  | failed handle ret _ refused =>
    refine ⟨⟨?_, ?_, nofun⟩, ?_⟩
    · simpa only [UrlObtained, mem_other gateway] using consistent.url
    · simpa only [mem_other bot] using consistent.bot
    · rw [own]
      refine iff_of_false (fun obtained => ?_) fun supplies => refused supplies.2
      -- no exchange that came before has left the pointer null
      obtain ⟨source, _, _, member, identifies, _⟩ := obtained.2 _ rfl
      rcases (mem_own source).mp member with old | rfl
      · exact consistent.user missing source old
      · exact refused identifies
  | loaded handle user identifies decoded =>
    refine ⟨⟨?_, ?_, nofun⟩, ?_⟩
    · simpa only [UrlObtained, mem_other gateway] using consistent.url
    · simpa only [mem_other bot] using consistent.bot
    · have after : UserObtained ex (history ++ [.exchanged .currentUser http.currentUser])
          { ctx with curlHandle := handle, currentUser := some (Json.loadUser http.staleUser user) } := by
        rintro _ ⟨⟩
        exact ⟨http.currentUser, user, http.staleUser, by simp, identifies, decoded, rfl⟩
      rw [own, and_iff_left after, and_iff_left before]
      simp only [BotObtained, mem_other bot]
      exact (and_iff_left identifies).symm

theorem fetches_bootstrap {http : Http} {out : Outcome} (ran : ctx.bootstrap ex http = some out) :
    Fetches ex ctx out.events out.ctx :=
  bootstrap_rule (R := Fetches ex) .refl (fun _ _ _ _ _ => .trans) (fun _ _ => fetches_gateway)
    (fun _ _ => fetches_bot) (fun _ _ => fetches_user) ran

theorem Called.kept {w : World} {wsi : Wsi} {callback : Callback} {out : Outcome}
    (called : Called ex w ctx wsi callback out) : Kept ctx out.ctx := by
  cases called with
  | parsed _ _ _ _ _ inner _ parsed =>
    cases parsed with
    | known _ _ _ _ handled => cases handled <;> exact ⟨rfl, rfl, rfl, rfl⟩
    | _ => exact ⟨rfl, rfl, rfl, rfl⟩
  | _ => exact ⟨rfl, rfl, rfl, rfl⟩

theorem Beat.kept {now later : UInt64} {out : Outcome} (beat : Beat ex ctx now later out) :
    Kept ctx out.ctx ∧ Only Event.Unasked out.events := by
  cases beat <;> exact ⟨⟨rfl, rfl, rfl, rfl⟩, by simp [Event.Unasked]⟩

theorem requestWritable_unasked (ctx : Context) : Only Event.Unasked (requestWritable ctx) := by
  unfold requestWritable
  split <;> simp [Event.Unasked]

theorem step_fetches (stepped : step ex s m = some next) :
    ∃ events, next.history = s.history ++ events ∧ Fetches ex s.ctx events next.ctx := by
  cases step_stepped stepped with
  | refused http created caller out _ _ ran =>
    have returned : Fetches ex out.ctx [.returned caller (connectError out.ret caller)] out.ctx :=
      .kept ⟨rfl, rfl, rfl, rfl⟩ (by simp [Event.Unasked])
    exact ⟨_, rfl, (fetches_bootstrap ran).trans returned⟩
  | attempted http created caller out _ _ ran =>
    have connecting : Fetches ex out.ctx [.connecting (s.wsis + 1)]
        { out.ctx with lwsWsi := if created then some (s.wsis + 1) else none } :=
      .kept ⟨rfl, rfl, rfl, rfl⟩ (by simp [Event.Unasked])
    exact ⟨_, rfl, (fetches_bootstrap ran).trans connecting⟩
  | alarmed w out _ _ beat =>
    obtain ⟨kept, unasked⟩ := beat.kept
    exact ⟨_, rfl, .kept kept ((only_append _ _).mpr ⟨unasked, by simp [Event.Unasked]⟩)⟩
  | served w out _ _ beat =>
    obtain ⟨kept, unasked⟩ := beat.kept
    exact ⟨_, rfl, .kept kept ((only_append _ _).mpr ⟨unasked, requestWritable_unasked _⟩)⟩
  | called wsi callback w out _ ran =>
    have called := lwsCallback_some ran
    have unasked : Only Event.Unasked out.events :=
      called.inside.mono fun e inside => by cases e <;> trivial
    exact ⟨_, rfl, .kept called.kept ((only_cons _ _).mpr ⟨trivial, unasked⟩)⟩
  | left => exact ⟨_, rfl, .kept ⟨rfl, rfl, rfl, rfl⟩ (by simp [Event.Unasked])⟩

def Traced (ex : Externals) (s : System) : Prop :=
  Consistent ex s.history s.ctx ∧ ∀ caller, s.control = .connecting caller → s.ctx.Complete

theorem complete_step (complete : ∀ caller, s.control = .connecting caller → s.ctx.Complete)
    (stepped : step ex s m = some next) :
    ∀ caller, next.control = .connecting caller → next.ctx.Complete := by
  intro caller connecting
  cases step_stepped stepped with
  | refused => cases connecting
  | attempted _ _ _ _ _ _ ran ok => exact bootstrap_ok ran ok
  | alarmed => cases connecting
  | served => cases connecting
  | called wsi callback w out _ ran =>
    obtain ⟨url, bot, _, user⟩ := (lwsCallback_some ran).kept
    show out.ctx.Complete
    rw [Context.Complete, url, bot, user]
    exact complete caller connecting
  | left => cases connecting

theorem traced_step (traced : Traced ex s) (stepped : step ex s m = some next) : Traced ex next := by
  obtain ⟨consistent, complete⟩ := traced
  obtain ⟨events, history, fetches⟩ := step_fetches stepped
  refine ⟨?_, complete_step complete stepped⟩
  rw [history]
  exact (fetches s.history consistent).1

theorem obtained_step (traced : Traced ex s) (obtained : Obtained ex s) (stepped : step ex s m = some next) :
    Obtained ex next ↔ Supplied ex s m next := by
  obtain ⟨consistent, complete⟩ := traced
  obtain ⟨events, history, fetches⟩ := step_fetches stepped
  obtain ⟨consistent, same⟩ := fetches s.history consistent
  have before : BotObtained ex s.history s.ctx ∧ UserObtained ex s.history s.ctx :=
    ⟨obtained.bot, obtained.user⟩
  rw [and_iff_right before, ← history] at same
  rw [Supplied, newEvents_of_append history, ← same]
  constructor
  · exact fun obtained => ⟨obtained.bot, obtained.user⟩
  · exact fun both => ⟨history ▸ consistent.url, both.1, both.2, complete_step complete stepped⟩

/-- Every run has obtained what it stores, exactly if every answer it asked for supplied all that it
was for or nothing that would be stored. -/
theorem obtained_iff (moves : List Move) (booted : Booted ex s) :
    Always (step ex) (Obtained ex) s moves ↔ Each (step ex) (Supplied ex) s moves := by
  obtain ⟨history, control, _, _, _, _, _, _, _, url, bot, user⟩ := booted.fresh
  have idle : ∀ caller, s.control = .connecting caller → s.ctx.Complete :=
    fun _ connecting => nomatch control.symm.trans connecting
  have noUrl : UrlObtained ex s.history s.ctx := fun _ stored => nomatch url.symm.trans stored
  have traced : Traced ex s := by
    refine ⟨⟨noUrl, fun _ exchange member => ?_, fun _ exchange member => ?_⟩, idle⟩
    · rw [history] at member
      cases member
    · rw [history] at member
      cases member
  have noBot : BotObtained ex s.history s.ctx := fun _ stored => nomatch bot.symm.trans stored
  have noUser : UserObtained ex s.history s.ctx := fun _ stored => nomatch user.symm.trans stored
  have obtained : Obtained ex s := ⟨noUrl, noBot, noUser, idle⟩
  have kept : ∀ s m next, Traced ex s → True → step ex s m = some next → Traced ex next :=
    fun _ _ _ traced _ => traced_step traced
  have exact_step : ∀ s m next, Traced ex s → Obtained ex s → True → step ex s m = some next →
      (Obtained ex next ↔ Supplied ex s m next) :=
      fun _ _ _ traced obtained _ => obtained_step traced obtained
  exact always_iff_each kept exact_step traced obtained (each_true s moves)

/-- What is wanted: every run has obtained what it stores. -/
def AlwaysObtained (ex : Externals) : Prop :=
  ∀ s moves final, Booted ex s → run (step ex) s moves = some final → Obtained ex final

def urlOnly : Json := .object [("url", .string (ascii "wss://gateway.discord.gg"))]

abbrev attemptExternals : Externals := .knowing [urlOnly, webAnswer]

-- The servers answer `/gateway/bot` with a url alone, and all else in full.
def shardless : Http := { Http.answering webAnswer.encode noUser with gatewayBot := .answer urlOnly.encode }

/-- The first attempt fails for want of shards, and the second connects without. -/
theorem shards_missing : ¬AlwaysObtained attemptExternals := by
  intro obtained
  have reached : (run (step attemptExternals) (.ofBot attemptExternals 16 99)
      [.connect shardless true, .connect shardless true]).map
        (fun s => (s.ctx.gatewayBotUrl.isSome, decide (s.control = .connecting .connect), s.ctx.shards)) =
      some (true, true, 0) := by decide +kernel
  obtain ⟨final, ran, here⟩ := Option.map_eq_some_iff.mp reached
  obtain ⟨stored, rest⟩ := Prod.mk.inj here
  obtain ⟨url, same⟩ := Option.isSome_iff_exists.mp stored
  obtain ⟨exchange, _, counts, _, shards⟩ := (obtained _ _ final (booted_ofBot _ 16 99) ran).bot url same
  rw [(Prod.mk.inj rest).2] at shards
  exact counts.2.1 shards.symm

theorem obtained_iff_answered :
    Always (step attemptExternals) (Obtained attemptExternals) (.ofBot attemptExternals 16 99)
      [.connect (.answering webAnswer.encode noUser) true, .leave] :=
  (obtained_iff _ (booted_ofBot _ 16 99)).mpr (by decide +kernel)

end

end Libdiscord
