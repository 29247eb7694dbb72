import Libdiscord.Connect

/-! What the three REST requests of `ld_connect` leave in the context. -/

set_option autoImplicit false

namespace Libdiscord

open Rest

-- A member of the body of an exchange, where the body decodes.
def Rest.Exchange.member? (ex : Externals) (exchange : Exchange) (key : String) : Option Json :=
  Json.get? (ex.loads exchange.body) key

def Rest.Exchange.url (ex : Externals) (exchange : Exchange) : Option Text :=
  (exchange.member? ex "url").bind Json.stringValue

-- The shard count an exchange supplies, 0 where it has none.
def Rest.Exchange.shards (ex : Externals) (exchange : Exchange) : Int64 :=
  (exchange.member? ex "shards").elim 0 Json.integerValue

section
variable {ex : Externals} {ctx : Context} {exchange : Exchange} {out : Outcome}

inductive GatewayAsked (ex : Externals) (ctx : Context) (exchange : Exchange) : Outcome → Prop where
  | failed (handle : EasyHandle) (ret : Status) : ret ≠ .ok →
      ¬(exchange.performed = true ∧ (exchange.url ex).isSome) → GatewayAsked ex ctx exchange
        ⟨{ ctx with curlHandle := handle }, ret, [.exchanged .gateway exchange]⟩
  | stored (handle : EasyHandle) (url : Text) : exchange.performed = true → exchange.url ex = some url →
      GatewayAsked ex ctx exchange
        ⟨{ ctx with curlHandle := handle, gatewayUrl := some url }, .ok, [.exchanged .gateway exchange]⟩

theorem getGateway_some (asked : ctx.getGateway ex exchange = some out) :
    GatewayAsked ex ctx exchange out := by
  unfold Context.getGateway at asked
  dsimp only at asked
  obtain ⟨sent, sending, answered⟩ :=
    sendRequest_answered ctx.curlHandle initResponse (Rest.getGateway (initRequest none)) exchange rfl rfl
  rw [sending, Option.map_some, answered.text, answered.ret] at asked
  cases performed : exchange.performed with
  | false =>
    have refused : (if exchange.performed then Status.ok else .curlErr) ≠ .ok := by rw [performed]; decide
    rw [if_pos refused] at asked
    cases asked
    exact .failed sent.handle .error (by decide) fun supplied => nomatch performed.symm.trans supplied.1
  | true =>
    simp only [performed, if_true, ne_eq, not_true, if_false] at asked
    split at asked
    · next decoded =>
      cases asked
      exact .failed sent.handle _ (by decide) (by simp [Exchange.url, Exchange.member?, Json.get?, decoded])
    · next decoded =>
      split at asked
      · next missing =>
        cases asked
        exact .failed sent.handle _ (by decide) (by simp [Exchange.url, Exchange.member?, decoded, missing])
      · next found =>
        split at asked
        · next value =>
          cases asked
          exact .failed sent.handle _ (by decide)
            (by simp [Exchange.url, Exchange.member?, decoded, found, value])
        · next value =>
          cases asked
          refine .stored sent.handle _ performed ?_
          rw [Exchange.url, Exchange.member?, decoded, found, Option.bind_some, value]

/-- The outcomes of `_ld_get_gateway_bot`: a url is stored also where the shards are missing, and also
where the request failed. -/
inductive BotAsked (ex : Externals) (ctx : Context) (exchange : Exchange) : Outcome → Prop where
  | failed (handle : EasyHandle) (ret : Status) : ret ≠ .ok → exchange.url ex = none →
      BotAsked ex ctx exchange ⟨{ ctx with curlHandle := handle }, ret, [.exchanged .gatewayBot exchange]⟩
  | halfway (handle : EasyHandle) (ret : Status) (url : Text) : ret ≠ .ok → exchange.url ex = some url →
      exchange.shards ex = 0 → BotAsked ex ctx exchange
        ⟨{ ctx with curlHandle := handle, gatewayBotUrl := some url }, ret, [.exchanged .gatewayBot exchange]⟩
  | stored (handle : EasyHandle) (url : Text) : exchange.url ex = some url → exchange.shards ex ≠ 0 →
      BotAsked ex ctx exchange
        ⟨{ ctx with curlHandle := handle, gatewayBotUrl := some url, shards := (exchange.shards ex).toInt32 },
          .ok, [.exchanged .gatewayBot exchange]⟩

theorem getGatewayBot_some (asked : ctx.getGatewayBot ex exchange = some out) :
    BotAsked ex ctx exchange out := by
  unfold Context.getGatewayBot at asked
  dsimp only at asked
  obtain ⟨sent, sending, answered⟩ := sendRequest_answered ctx.curlHandle initResponse
    (Rest.getGatewayBot ctx.botToken (initRequest none)) exchange rfl rfl
  rw [sending, Option.map_some, answered.text] at asked
  split at asked
  · next decoded =>
    cases asked
    refine .failed sent.handle _ (by decide) ?_
    rw [Exchange.url, Exchange.member?, decoded]
    rfl
  · next object decoded =>
    split at asked
    · next missing =>
      cases asked
      refine .failed sent.handle _ (by decide) ?_
      rw [Exchange.url, Exchange.member?, decoded, missing, Option.bind_none]
    · next tmp found =>
      split at asked
      · next value =>
        cases asked
        refine .failed sent.handle _ (by decide) ?_
        rw [Exchange.url, Exchange.member?, decoded, found, Option.bind_some, value]
      · next url value =>
        have supplied : exchange.url ex = some url := by
          rw [Exchange.url, Exchange.member?, decoded, found, Option.bind_some, value]
        split at asked
        · next missing =>
          cases asked
          refine .halfway sent.handle _ url (by decide) supplied ?_
          rw [Exchange.shards, Exchange.member?, decoded, missing, Option.elim_none]
        · next tmp found =>
          have count : exchange.shards ex = tmp.integerValue := by
            rw [Exchange.shards, Exchange.member?, decoded, found, Option.elim_some]
          split at asked
          · next zero =>
            cases asked
            exact .halfway sent.handle _ url (by decide) supplied (count.trans zero)
          · next nonzero =>
            cases asked
            rw [← count]
            exact .stored sent.handle url supplied (count ▸ nonzero)

def Rest.Exchange.Identifies (ex : Externals) (exchange : Exchange) : Prop :=
  exchange.performed = true ∧ exchange.status = 200 ∧ (ex.loads exchange.body).isSome

/-- The outcomes of the third step of `ld_connect`, which stores its pointer before it asks. -/
inductive UserAsked (ex : Externals) (ctx : Context) (http : Http) : Outcome → Prop where
  | failed (handle : EasyHandle) (ret : Status) : ret ≠ .ok → ¬http.currentUser.Identifies ex →
      UserAsked ex ctx http ⟨{ ctx with curlHandle := handle, currentUser := some http.staleUser }, ret,
        [.exchanged .currentUser http.currentUser]⟩
  | loaded (handle : EasyHandle) (user : Json) : http.currentUser.Identifies ex →
      ex.loads http.currentUser.body = some user →
      UserAsked ex ctx http
        ⟨{ ctx with curlHandle := handle, currentUser := some (Json.loadUser http.staleUser user) }, .ok,
          [.exchanged .currentUser http.currentUser]⟩

theorem bootstrapCurrentUser_some {http : Http} (missing : ctx.currentUser = none)
    (asked : ctx.bootstrapCurrentUser ex http = some out) : UserAsked ex ctx http out := by
  unfold Context.bootstrapCurrentUser at asked
  simp only [missing, Option.isNone_none, if_true, Context.getCurrentUser] at asked
  generalize requested : ({ initRequest (some ctx.botToken) with
    verb := .get, endpoint := some (ascii "/users/@me") } : Request) = request at asked
  obtain ⟨sent, sending, answered⟩ :=
    sendRequest_answered ctx.curlHandle initResponse request http.currentUser
    (by rw [← requested]; rfl) (by rw [← requested]; rfl)
  rw [sending, Option.map_some, Option.map_some, answered.text, answered.status] at asked
  cases performed : http.currentUser.performed with
  | false =>
    simp only [performed] at asked
    cases asked
    exact .failed sent.handle 1 (by decide) fun identifies => nomatch performed.symm.trans identifies.1
  | true =>
    simp only [performed, if_true] at asked
    by_cases success : http.currentUser.status = 200
    case neg =>
      simp only [ne_eq, success, not_false_iff, if_true] at asked
      cases asked
      exact .failed sent.handle 1 (by decide) fun identifies => success identifies.2.1
    simp only [success, ne_eq, not_true, if_false] at asked
    cases decoded : ex.loads http.currentUser.body with
    | none =>
      simp only [decoded] at asked
      cases asked
      refine .failed sent.handle 1 (by decide) fun identifies => ?_
      have := identifies.2.2
      simp [decoded] at this
    | some user =>
      simp only [decoded] at asked
      cases asked
      exact .loaded sent.handle user ⟨performed, success, by simp [decoded]⟩ decoded

theorem andThen_some {next : Context → Option Outcome} {final : Outcome}
    (ran : out.andThen next = some final) :
    (out.ret ≠ .ok ∧ final = out) ∨
    (out.ret = .ok ∧ ∃ rest, next out.ctx = some rest ∧
      final = { rest with events := out.events ++ rest.events }) := by
  unfold Outcome.andThen at ran
  split at ran
  · next failed =>
    cases ran
    exact .inl ⟨failed, rfl⟩
  · next succeeded =>
    obtain ⟨rest, asked, rfl⟩ := Option.map_eq_some_iff.mp ran
    exact .inr ⟨Decidable.not_not.mp succeeded, rest, asked, rfl⟩

section Steps
variable {http : Http}

theorem bootstrapGateway_some (ran : ctx.bootstrapGateway ex http = some out) :
    (ctx.gatewayUrl.isSome ∧ out = ⟨ctx, .ok, []⟩) ∨
    (ctx.gatewayUrl = none ∧ GatewayAsked ex ctx http.gateway out) := by
  unfold Context.bootstrapGateway at ran
  cases stored : ctx.gatewayUrl with
  | none =>
    simp only [stored, Option.isNone_none, if_true] at ran
    exact .inr ⟨rfl, getGateway_some ran⟩
  | some url =>
    simp only [stored, Option.isNone_some] at ran
    exact .inl ⟨rfl, (Option.some.inj ran).symm⟩

theorem bootstrapGatewayBot_some (ran : ctx.bootstrapGatewayBot ex http = some out) :
    (ctx.gatewayBotUrl.isSome ∧ out = ⟨ctx, .ok, []⟩) ∨
    (ctx.gatewayBotUrl = none ∧ BotAsked ex ctx http.gatewayBot out) := by
  unfold Context.bootstrapGatewayBot at ran
  cases stored : ctx.gatewayBotUrl with
  | none =>
    simp only [stored, Option.isNone_none, if_true] at ran
    exact .inr ⟨rfl, getGatewayBot_some ran⟩
  | some url =>
    simp only [stored, Option.isNone_some] at ran
    exact .inl ⟨rfl, (Option.some.inj ran).symm⟩

theorem bootstrapCurrentUser_cases (ran : ctx.bootstrapCurrentUser ex http = some out) :
    (ctx.currentUser.isSome ∧ out = ⟨ctx, .ok, []⟩) ∨
    (ctx.currentUser = none ∧ UserAsked ex ctx http out) := by
  cases stored : ctx.currentUser with
  | none => exact .inr ⟨rfl, bootstrapCurrentUser_some stored ran⟩
  | some user =>
    unfold Context.bootstrapCurrentUser at ran
    simp only [stored, Option.isNone_some] at ran
    exact .inl ⟨rfl, (Option.some.inj ran).symm⟩

/-- What holds of each request and composes holds of the whole bootstrap. -/
theorem bootstrap_rule {R : Context → List Event → Context → Prop} (refl : ∀ ctx, R ctx [] ctx)
    (trans : ∀ a events b more c, R a events b → R b more c → R a (events ++ more) c)
    (gateway : ∀ ctx out, ctx.gatewayUrl = none → GatewayAsked ex ctx http.gateway out →
      R ctx out.events out.ctx)
    (bot : ∀ ctx out, ctx.gatewayBotUrl = none → BotAsked ex ctx http.gatewayBot out →
      R ctx out.events out.ctx)
    (user : ∀ ctx out, ctx.currentUser = none → UserAsked ex ctx http out → R ctx out.events out.ctx)
    (ran : ctx.bootstrap ex http = some out) : R ctx out.events out.ctx := by
  obtain ⟨first, ranFirst, ran⟩ := Option.bind_eq_some_iff.mp ran
  obtain ⟨second, ranSecond, ran⟩ := Option.bind_eq_some_iff.mp ran
  have one : R ctx first.events first.ctx := by
    rcases bootstrapGateway_some ranFirst with ⟨_, rfl⟩ | ⟨missing, asked⟩
    · exact refl ctx
    · exact gateway ctx first missing asked
  have two : R ctx second.events second.ctx := by
    rcases andThen_some ranSecond with ⟨_, rfl⟩ | ⟨_, rest, asked, rfl⟩
    · exact one
    rcases bootstrapGatewayBot_some asked with ⟨_, rfl⟩ | ⟨missing, asked⟩
    · exact trans _ _ _ _ _ one (refl _)
    · exact trans _ _ _ _ _ one (bot _ rest missing asked)
  rcases andThen_some ran with ⟨_, rfl⟩ | ⟨_, rest, asked, rfl⟩
  · exact two
  rcases bootstrapCurrentUser_cases asked with ⟨_, rfl⟩ | ⟨missing, asked⟩
  · exact trans _ _ _ _ _ two (refl _)
  · exact trans _ _ _ _ _ two (user _ rest missing asked)

/-- Only the fields that the bootstrap asks for are changed. -/
def Asked (ctx next : Context) : Prop :=
  ∃ url botUrl shards handle user, next = { ctx with
    gatewayUrl := url, gatewayBotUrl := botUrl, shards := shards, curlHandle := handle, currentUser := user }

def Event.Web : Event → Prop
  | .exchanged _ _ => True
  | _ => False

theorem bootstrap_frame (ran : ctx.bootstrap ex http = some out) :
    Asked ctx out.ctx ∧ Only Event.Web out.events := by
  refine bootstrap_rule (R := fun ctx events next => Asked ctx next ∧ Only Event.Web events)
    ?refl ?trans ?gateway ?bot ?user ran
  case refl => exact fun ctx => ⟨⟨_, _, _, _, _, rfl⟩, by simp⟩
  case trans =>
    rintro a events b more c ⟨⟨_, _, _, _, _, rfl⟩, web⟩ ⟨⟨url, botUrl, shards, handle, user, rfl⟩, web'⟩
    exact ⟨⟨url, botUrl, shards, handle, user, rfl⟩, (only_append _ _).mpr ⟨web, web'⟩⟩
  case gateway =>
    intro ctx out _ asked
    cases asked <;> exact ⟨⟨_, _, _, _, _, rfl⟩, by simp [Event.Web]⟩
  case bot =>
    intro ctx out _ asked
    cases asked <;> exact ⟨⟨_, _, _, _, _, rfl⟩, by simp [Event.Web]⟩
  case user =>
    intro ctx out _ asked
    cases asked <;> exact ⟨⟨_, _, _, _, _, rfl⟩, by simp [Event.Web]⟩

theorem bootstrapGateway_ok (ran : ctx.bootstrapGateway ex http = some out) (ok : out.ret = .ok) :
    out.ctx.gatewayUrl.isSome := by
  rcases bootstrapGateway_some ran with ⟨stored, rfl⟩ | ⟨_, asked⟩
  · exact stored
  cases asked with
  | failed _ _ failed _ => exact absurd ok failed
  | stored => rfl

theorem bootstrapGatewayBot_ok (ran : ctx.bootstrapGatewayBot ex http = some out) (ok : out.ret = .ok) :
    out.ctx.gatewayBotUrl.isSome ∧ out.ctx.gatewayUrl = ctx.gatewayUrl := by
  rcases bootstrapGatewayBot_some ran with ⟨stored, rfl⟩ | ⟨_, asked⟩
  · exact ⟨stored, rfl⟩
  cases asked with
  | failed _ _ failed => exact absurd ok failed
  | halfway _ _ _ failed => exact absurd ok failed
  | stored => exact ⟨rfl, rfl⟩

theorem bootstrapCurrentUser_ok (ran : ctx.bootstrapCurrentUser ex http = some out) :
    out.ctx.currentUser.isSome ∧ out.ctx.gatewayUrl = ctx.gatewayUrl ∧
      out.ctx.gatewayBotUrl = ctx.gatewayBotUrl := by
  rcases bootstrapCurrentUser_cases ran with ⟨stored, rfl⟩ | ⟨_, asked⟩
  · exact ⟨stored, rfl, rfl⟩
  cases asked <;> exact ⟨rfl, rfl, rfl⟩

theorem bootstrap_ok (ran : ctx.bootstrap ex http = some out) (ok : out.ret = .ok) :
    out.ctx.gatewayUrl.isSome ∧ out.ctx.gatewayBotUrl.isSome ∧ out.ctx.currentUser.isSome := by
  obtain ⟨first, ranFirst, ran⟩ := Option.bind_eq_some_iff.mp ran
  obtain ⟨second, ranSecond, ran⟩ := Option.bind_eq_some_iff.mp ran
  rcases andThen_some ran with ⟨failed, rfl⟩ | ⟨secondOk, third, ranThird, rfl⟩
  · exact absurd ok failed
  rcases andThen_some ranSecond with ⟨failed, rfl⟩ | ⟨firstOk, rest, asked, rfl⟩
  · exact absurd secondOk failed
  have gateway := bootstrapGateway_ok ranFirst firstOk
  obtain ⟨bot, gatewayKept⟩ := bootstrapGatewayBot_ok asked secondOk
  obtain ⟨user, gatewayKept', botKept⟩ := bootstrapCurrentUser_ok ranThird
  dsimp only at gatewayKept' botKept
  exact ⟨by rw [gatewayKept', gatewayKept]; exact gateway, by rw [botKept]; exact bot, user⟩

theorem bootstrapCurrentUser_total (ex : Externals) (http : Http) (ctx : Context) :
    ∃ out, ctx.bootstrapCurrentUser ex http = some out := by
  unfold Context.bootstrapCurrentUser
  split
  · obtain ⟨sent, sending, _⟩ := sendRequest_answered ctx.curlHandle initResponse
      { initRequest (some ctx.botToken) with verb := .get, endpoint := some (ascii "/users/@me") }
      http.currentUser rfl rfl
    apply Option.isSome_iff_exists.mp
    simp only [Context.getCurrentUser, sending, Option.map_some, Option.isSome_some]
  · exact ⟨_, rfl⟩

theorem bootstrap_total (ex : Externals) (http : Http) (ctx : Context) : (ctx.bootstrap ex http).isSome := by
  have gateway : ∀ ctx, ∃ out, Context.bootstrapGateway ex http ctx = some out := by
    intro ctx
    unfold Context.bootstrapGateway
    split
    · obtain ⟨sent, sending, _⟩ := sendRequest_answered ctx.curlHandle initResponse
        (Rest.getGateway (initRequest none)) http.gateway rfl rfl
      exact ⟨_, by rw [Context.getGateway, sending, Option.map_some]⟩
    · exact ⟨_, rfl⟩
  have bot : ∀ ctx, ∃ out, Context.bootstrapGatewayBot ex http ctx = some out := by
    intro ctx
    unfold Context.bootstrapGatewayBot
    split
    · obtain ⟨sent, sending, _⟩ := sendRequest_answered ctx.curlHandle initResponse
        (Rest.getGatewayBot ctx.botToken (initRequest none)) http.gatewayBot rfl rfl
      exact ⟨_, by rw [Context.getGatewayBot, sending, Option.map_some]⟩
    · exact ⟨_, rfl⟩
  have chained : ∀ (out : Outcome) next, (∀ ctx, ∃ out, next ctx = some out) →
      ∃ rest, out.andThen next = some rest := by
    intro out next total
    unfold Outcome.andThen
    split
    · exact ⟨_, rfl⟩
    · obtain ⟨rest, ran⟩ := total out.ctx
      exact ⟨_, by rw [ran, Option.map_some]⟩
  obtain ⟨first, ranFirst⟩ := gateway ctx
  obtain ⟨second, ranSecond⟩ := chained first _ bot
  obtain ⟨third, ranThird⟩ := chained second _ (bootstrapCurrentUser_total ex http)
  simp [Context.bootstrap, ranFirst, ranSecond, ranThird]

end Steps

-- An exchange that goes well and delivers this body.
def Rest.Exchange.answer (body : Text) : Exchange := ⟨true, 200, [body]⟩

def Http.answering (body : Text) (staleUser : User) : Http :=
  ⟨.answer body, .answer body, .answer body, staleUser⟩

theorem bootstrap_answering {body url : Text} (staleUser : User)
    (supplied : (Exchange.answer body).url ex = some url) (counted : (Exchange.answer body).shards ex ≠ 0)
    (ran : ctx.bootstrap ex (.answering body staleUser) = some out) : out.ret = .ok := by
  have decoded : (ex.loads (Exchange.answer body).body).isSome := by
    cases same : ex.loads (Exchange.answer body).body with
    | none => simp [Exchange.url, Exchange.member?, Json.get?, same] at supplied
    | some object => rfl
  obtain ⟨first, ranFirst, ran⟩ := Option.bind_eq_some_iff.mp ran
  obtain ⟨second, ranSecond, ran⟩ := Option.bind_eq_some_iff.mp ran
  have firstOk : first.ret = .ok := by
    rcases bootstrapGateway_some ranFirst with ⟨_, rfl⟩ | ⟨_, asked⟩
    · rfl
    cases asked with
    | failed _ _ _ refused => exact absurd ⟨rfl, by rw [Http.answering, supplied]; rfl⟩ refused
    | stored => rfl
  have secondOk : second.ret = .ok := by
    rcases andThen_some ranSecond with ⟨failed, _⟩ | ⟨_, rest, asked, rfl⟩
    · exact absurd firstOk failed
    rcases bootstrapGatewayBot_some asked with ⟨_, rfl⟩ | ⟨_, asked⟩
    · rfl
    cases asked with
    | failed _ _ _ missing => simp [Http.answering, supplied] at missing
    | halfway _ _ _ _ _ zero => exact absurd zero counted
    | stored => rfl
  rcases andThen_some ran with ⟨failed, _⟩ | ⟨_, rest, asked, rfl⟩
  · exact absurd secondOk failed
  rcases bootstrapCurrentUser_cases asked with ⟨_, rfl⟩ | ⟨_, asked⟩
  · rfl
  cases asked with
  | failed _ _ _ refused => exact absurd ⟨rfl, rfl, decoded⟩ refused
  | loaded => rfl

-- What a web server may answer to each of the three requests.
def webAnswer : Json :=
  .object [("url", .string (ascii "wss://gateway.discord.gg")), ("shards", .integer 1),
    ("username", .string (ascii "bot"))]

def noUser : User := ⟨0, none, none, none, 0, 0, none, 0, none⟩

end

end Libdiscord
