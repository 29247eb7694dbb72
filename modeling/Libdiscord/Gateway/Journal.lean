import Libdiscord.Gateway.Logging

/-! The library with its log: what every step logs, and what a run prints. -/

set_option autoImplicit false

namespace Libdiscord

open Libdiscord.Base Rest Log

/-- A body as it is printed; without a chunk it is a null pointer. -/
def Rest.Exchange.shown (exchange : Exchange) : Argument := exchange.body.elim (.pointer 0) printed

/-- `ld_rest_send_request`, where the number of the line is passed for a string. -/
def sendLogs (p : Printed) (exchange : Exchange) : List Log.Call :=
  if exchange.performed then []
  else [warning "%s (%s:%s): curl_easy_perform returned error: %s"
    [.string (ascii "ld_rest_send_request"), .string p.file, .int 285, .string p.curlError]]

def getGatewayLogs (ex : Externals) (p : Printed) (exchange : Exchange) : List Log.Call :=
  sendLogs p exchange ++
  if ¬exchange.performed then [error "_ld_get_gateway: couldn't send request to /gateway (%d)" [.int Status.curlErr]]
  else
    debug "get gateway response: %s" [exchange.shown] ::
    match ex.loads exchange.body with
    | none =>
      [error "jansson: couldn't decode string returned from /gateway in ld_connext: %s" [exchange.shown]]
    | some object => match Json.get? (some object) "url" with
      | none => [error "jansson: couldn't find key \"url\" in JSON object from /gateway" []]
      | some tmp => match tmp.stringValue with
        | none => [error "jansson: didn't receive string object from JSON payload received from gateway" []]
        | some _ => []

set_option maxRecDepth 2000 in
def getGatewayBotLogs (ex : Externals) (p : Printed) (exchange : Exchange) : List Log.Call :=
  let function := Argument.string (ascii "_ld_get_gateway_bot")
  sendLogs p exchange ++
  (if exchange.performed then [] else [error "%s, couldn't send request to /gateway/bot" [function]]) ++
  debug "_ld_get_gateway_bot: get gateway bot response: %s" [exchange.shown] ::
  match ex.loads exchange.body with
  | none =>
    [error "_ld_get_gateway_bot: couldn't decode string returned from /gateway/bot in ld_connect: %s"
      [exchange.shown]]
  | some object => match Json.get? (some object) "url" with
    | none =>
      [error
        "_ld_get_gateway_bot: couldn't find key \"url\" in JSON object from /gateway/bot. is the bot token valid? are we being ratelimited?"
        []]
    | some tmp => match tmp.stringValue with
      | none =>
        [error
          "_ld_get_gateway_bot: didn't receive string object in \"url\" from JSON payload received from /gateway/bot"
          []]
      | some tmpurl =>
        debug "%s: gateway_bot_url: %s" [function, .string tmpurl] ::
        match Json.get? (some object) "shards" with
        | none =>
          [error "jansson: couldn't find key \"shards\" in JSON object from /gateway/bot.is the bot token valid?" []]
        | some tmp =>
          if tmp.integerValue = 0 then
            [error
              "jansson: didn't receive integer object in \"shards\" from JSON payload received from /gateway/bot"
              []]
          else [info "shards: %d" [.int tmp.integerValue.toInt32]]

def userLog : String → Option Log.Call
  | "id" => some (warning "ld_json_load_user: couldn't get user id" [])
  | "username" => some (warning "ld_json_load_user: couldn't get username" [])
  | "discriminator" => some (warning "ld_json_load_user: couldn't get user discriminator" [])
  | "avatar" => some (warning "ld_json_load_user: couldn't get user avatar" [])
  | "locale" => some (warning "ld_json_load_user: couldn't get user locale" [])
  | "email" => some (notice "ld_json_load_user: couldn't get user email" [])
  | _ => none

def loadUserLogs (user : Json) : List Log.Call :=
  user.members.filterMap fun entry => if entry.2.stringValue.isSome then none else userLog entry.1

/-- `ld_get_current_user`; the status is a long. -/
def getCurrentUserLogs (ex : Externals) (p : Printed) (exchange : Exchange) : List Log.Call :=
  let status := if exchange.performed then exchange.status else -1
  sendLogs p exchange ++
  if status ≠ 200 then [warning "ld_get_current_user: request returned HTTP code %d" [.long status]]
  else match ex.loads exchange.body with
    | none => [warning "ld_get_current_user: could not read JSON body" []]
    | some user => loadUserLogs user

def connectUserLogs (ex : Externals) (p : Printed) (http : Http) (ctx : Context) : List Log.Call :=
  (if ctx.currentUser.isNone then getCurrentUserLogs ex p http.currentUser else []) ++
  match ctx.bootstrapCurrentUser ex http with
  | none => []
  | some out =>
    if out.ret ≠ .ok then [error "ld_connect: couldn't get current user info from /users/@me" []]
    else [debug "ld_gateway_connect: connecting to gateway" []]

def connectBotLogs (ex : Externals) (p : Printed) (http : Http) (ctx : Context) : List Log.Call :=
  (if ctx.gatewayBotUrl.isNone then getGatewayBotLogs ex p http.gatewayBot else []) ++
  match ctx.bootstrapGatewayBot ex http with
  | none => []
  | some out =>
    if out.ret ≠ .ok then [error "ld_connect: couldn't get gateway URL from /gateway/bot" []]
    else
      debug "%s: gateway_bot_url: %s"
        [.string (ascii "ld_connect"), out.ctx.gatewayBotUrl.elim (.pointer 0) .string] ::
      connectUserLogs ex p http out.ctx

def connectLogs (ex : Externals) (p : Printed) (http : Http) (ctx : Context) : List Log.Call :=
  (if ctx.gatewayUrl.isNone then getGatewayLogs ex p http.gateway else []) ++
  match ctx.bootstrapGateway ex http with
  | none => []
  | some out =>
    if out.ret ≠ .ok then [error "ld_connect: couldn't get gateway URL from /gateway" []]
    else connectBotLogs ex p http out.ctx

-- `LD_CONNECT_DELAY_INTERVAL`
def connectDelayInterval : Int32 := 5

def retryLogs (ret : Status) : Caller → List Log.Call
  | .service =>
    if ret ≠ .ok then
      [notice "%s: ld_connect returned error, will retry in %d secs"
        [.string (ascii "ld_service"), .int connectDelayInterval]]
    else []
  | .connect => []

def enterConnectLogs (ex : Externals) (p : Printed) (http : Http) (caller : Caller) (ctx : Context) :
    List Log.Call :=
  connectLogs ex p http ctx ++
    match ctx.bootstrap ex http with
    | none => []
    | some out => retryLogs out.ret caller

def queueHeartbeatLogs (ex : Externals) (ctx : Context) : List Log.Call :=
  if ctx.gatewayRing.free = 0 then
    [warning "%s: can't fit any new payloads into gateway ringbuffer"
      [.string (ascii "ld_gateway_queue_heartbeat")]]
  else
    let text := ex.dumps (Json.createPayload (.integer 1) (some (.integer ctx.lastSeq.toInt64)) none none)
    if (ctx.gatewayRing.insert ⟨text, text.length⟩).2 ≠ 1 then
      [warning "couldn't fit heartbeat payload into gateway ringbuffer" []]
    else []

def heartbeatLogs (ex : Externals) (ctx : Context) (now : UInt64) : List Log.Call :=
  if heartbeatDue ctx now then
    if ctx.hbCount + 1 > 1 then
      [warning "%s: didn't recieve a HB_ACK" [.string (ascii "ld_service")]]
    else
      let ctx := { ctx with hbCount := ctx.hbCount + 1 }
      queueHeartbeatLogs ex ctx ++
      if (queueHeartbeat ex ctx).ret ≠ .ok then
        [warning "couldn't put heartbeat into gateway tx ringbuffer" []]
      else []
  else []

/-- `i->address`, which skips six bytes of the url; a shorter url is left behind. -/
def addressArgument (ctx : Context) : Argument :=
  match ctx.gatewayBotUrl with
  | none => .pointer 6
  | some url => if 6 ≤ url.length then .string (url.drop 6) else .stray

def leaveLogs (ctx : Context) (caller : Caller) : List Log.Call :=
  if ctx.lwsWsi.isNone then
    [error "ld_gateway_connect: failed to connect to gateway (%s)" [addressArgument ctx],
      warning "ld_connect: ld_gateway_connect returned bad" []] ++ retryLogs ctx.connectReturn caller
  else []

def Move.logs (ex : Externals) (p : Printed) (s : System) : Move → List Log.Call
  | .service w =>
    if s.ctx.lwsWsi.isNone then enterConnectLogs ex p w.http .service s.ctx
    else heartbeatLogs ex s.ctx w.now
  | .connect http _ => enterConnectLogs ex p http .connect s.ctx
  | .callback _ reason w => callbackLogs ex p w s.ctx reason
  | .leave => match s.control with
    | .connecting caller => leaveLogs s.ctx caller
    | .bot | .serving => []

-- Warnings are printed.
def Warns (level : UInt64) : Prop := level &&& levelWarning ≠ 0

def Rest.Exchange.Shown (before : Nat) (exchange : Exchange) : Prop := ∀ body ∈ exchange.body, Fits before body

/-- A request that is harmless: it is answered where warnings are printed, and where the answer is printed, it is not
too long. -/
def GatewayPrintable (ex : Externals) (level : UInt64) (exchange : Exchange) : Prop :=
  (Warns level → exchange.performed = true) ∧
  (exchange.performed = true → (Debugs level → exchange.Shown 22) ∧
    (ex.loads exchange.body = none → Complains level → exchange.Shown 70))

def BotPrintable (ex : Externals) (level : UInt64) (exchange : Exchange) : Prop :=
  (Warns level → exchange.performed = true) ∧ (Debugs level → exchange.Shown 47) ∧
  (ex.loads exchange.body = none → Complains level → exchange.Shown 86) ∧
  (Debugs level → ∀ url ∈ exchange.url ex, 38 + url.length < msgSize)

def UserPrintable (level : UInt64) (exchange : Exchange) : Prop :=
  Warns level → exchange.performed = true

def ConnectPrintable (ex : Externals) (level : UInt64) (http : Http) (ctx : Context) : Prop :=
  (ctx.gatewayUrl = none → GatewayPrintable ex level http.gateway) ∧
  ((ctx.gatewayUrl = none → http.gateway.performed = true ∧ (http.gateway.url ex).isSome = true) →
    (ctx.gatewayBotUrl = none → BotPrintable ex level http.gatewayBot) ∧
    ((ctx.gatewayBotUrl = none → (http.gatewayBot.url ex).isSome = true ∧ http.gatewayBot.shards ex ≠ 0) →
      (Debugs level → ∀ url ∈ ctx.gatewayBotUrl.or (http.gatewayBot.url ex), 29 + url.length < msgSize) ∧
      (ctx.currentUser = none → UserPrintable level http.currentUser)))

def LeavePrintable (level : UInt64) (ctx : Context) : Prop :=
  ctx.lwsWsi = none → Complains level →
    ∃ url ∈ ctx.gatewayBotUrl, 6 ≤ url.length ∧ 51 + (url.length - 6) < msgSize

def Move.Printable (ex : Externals) (p : Printed) (level : UInt64) (s : System) : Move → Prop
  | .service w => s.ctx.lwsWsi = none → ConnectPrintable ex level w.http s.ctx
  | .connect http _ => ConnectPrintable ex level http s.ctx
  | .callback _ reason w => reason.Printable ex p w s.ctx level
  | .leave => ∀ caller, s.control = .connecting caller → LeavePrintable level s.ctx

section
variable {ex : Externals} {p : Printed} {level : UInt64} {http : Http} {ctx : Context} {exchange : Exchange}

theorem writable_shown {of : UInt64} {format : List Char} {before : Nat}
    {spelled : Format.Spelled (String.ofList format)} (ends : Ends format before .string)
    (short : before + 6 < msgSize) :
    (Log.Call.mk of (String.ofList format) [exchange.shown] spelled).Writable ↔ exchange.Shown before := by
  rw [Exchange.shown, Exchange.Shown]
  cases exchange.body with
  | none => exact iff_of_true (writable_null ends short) fun _ member => nomatch member
  | some text =>
    rw [Option.elim_some, printed, writable_string ends]
    simp [Fits]

theorem sendLogs_quiet : Quiet level (sendLogs p exchange) ↔ (Warns level → exchange.performed = true) := by
  rw [sendLogs]
  cases exchange.performed with
  | true => exact iff_of_true quiet_nil fun _ => rfl
  | false =>
    have unreadable : ∀ function file error : Text,
        vsprintf "%s (%s:%s): curl_easy_perform returned error: %s"
          [.string function, .string file, .int 285, .string error] = none :=
      fun _ _ _ => (vsprintf_ofList _ _).trans rfl
    refine (quiet_unreadable (unreadable _ _ _)).trans ?_
    simp [Warns, warning]

theorem getGatewayLogs_quiet : Quiet level (getGatewayLogs ex p exchange) ↔ GatewayPrintable ex level exchange := by
  rw [getGatewayLogs, GatewayPrintable, quiet_append, sendLogs_quiet]
  refine and_congr_right fun _ => ?_
  by_cases performed : exchange.performed = true
  · have response : (debug "get gateway response: %s" [exchange.shown]).Writable ↔ exchange.Shown 22 :=
      writable_shown (by decide) (by decide)
    rw [if_neg (not_not.mpr performed), quiet_cons, ← quiet_one, quiet_debug response]
    simp only [performed, forall_const]
    refine and_congr_right fun _ => ?_
    cases ex.loads exchange.body with
    | none =>
      have undecoded : (error "jansson: couldn't decode string returned from /gateway in ld_connext: %s"
          [exchange.shown]).Writable ↔ exchange.Shown 70 := writable_shown (by decide) (by decide)
      dsimp only
      rw [quiet_one, undecoded]
      exact ⟨fun writable _ => writable, fun writable => writable rfl⟩
    | some object =>
      refine iff_of_true ?_ ?_
      · dsimp only
        split
        · exact quiet_plain (by decide)
        · split
          · exact quiet_plain (by decide)
          · exact quiet_nil
      · rintro ⟨⟩
  · rw [if_pos performed]
    exact iff_of_true (quiet_short rfl (by decide)) fun done => absurd done performed

theorem writable_botUrl {function : String} {url : Text} {before : Nat}
    (length : (ascii function).length + 19 = before) :
    (debug "%s: gateway_bot_url: %s" [.string (ascii function), .string url]).Writable ↔
      before + url.length < msgSize := by
  have written : ∀ name url : Text, vsprintf "%s: gateway_bot_url: %s" [.string name, .string url] =
      some (name ++ (ascii ": gateway_bot_url: " ++ (url ++ []))) := fun _ _ => (vsprintf_ofList _ _).trans rfl
  have between : (ascii ": gateway_bot_url: ").length = 19 := by decide +kernel
  rw [Log.Call.Writable, debug, written]
  simp [between, ← length, Nat.add_assoc]

set_option maxRecDepth 2000 in
theorem getGatewayBotLogs_quiet :
    Quiet level (getGatewayBotLogs ex p exchange) ↔ BotPrintable ex level exchange := by
  have unsent : Quiet level (if exchange.performed then [] else
      [error "%s, couldn't send request to /gateway/bot" [.string (ascii "_ld_get_gateway_bot")]]) := by
    split
    · exact quiet_nil
    · exact quiet_short rfl (by decide)
  have response : (debug "_ld_get_gateway_bot: get gateway bot response: %s" [exchange.shown]).Writable ↔
      exchange.Shown 47 := writable_shown (by decide) (by decide)
  rw [getGatewayBotLogs, BotPrintable, quiet_append, quiet_append, sendLogs_quiet, and_iff_left unsent, quiet_cons,
    ← quiet_one, quiet_debug response]
  refine and_congr_right fun _ => and_congr_right fun _ => ?_
  rw [Exchange.url, Exchange.member?]
  cases ex.loads exchange.body with
  | none =>
    have undecoded : (error
        "_ld_get_gateway_bot: couldn't decode string returned from /gateway/bot in ld_connect: %s"
          [exchange.shown]).Writable ↔ exchange.Shown 86 := writable_shown (by decide) (by decide)
    dsimp only
    rw [quiet_one, undecoded]
    simp [Json.get?, Complains, Log.Call.Enabled, error]
  | some object =>
    have decoded : ¬some object = none := Option.some_ne_none object
    simp only [decoded, false_implies, true_and]
    cases Json.get? (some object) "url" with
    | none =>
      refine iff_of_true ?_ ?_
      · exact quiet_of_writable (by decide +kernel)
      · rintro _ _ ⟨⟩
    | some tmp =>
      dsimp only
      rw [Option.bind_some]
      cases tmp.stringValue with
      | none =>
        refine iff_of_true ?_ ?_
        · exact quiet_plain (by decide)
        · rintro _ _ ⟨⟩
      | some url =>
        have shown : (debug "%s: gateway_bot_url: %s"
            [.string (ascii "_ld_get_gateway_bot"), .string url]).Writable ↔ 38 + url.length < msgSize :=
          writable_botUrl (by decide +kernel)
        dsimp only
        rw [quiet_cons, ← quiet_one, quiet_debug shown]
        simp only [Option.mem_some_iff, forall_eq']
        refine and_iff_left ?_
        cases Json.get? (some object) "shards" with
        | none => exact quiet_plain (by decide)
        | some tmp =>
          dsimp only
          split
          · exact quiet_plain (by decide)
          · exact quiet_short rfl (show 10 + 11 < msgSize by decide)

theorem loadUserLogs_quiet (user : Json) : Quiet level (loadUserLogs user) := by
  intro call member _
  obtain ⟨entry, _, logged⟩ := List.mem_filterMap.mp member
  split at logged
  · cases logged
  · unfold userLog at logged
    split at logged <;> cases logged <;> decide +kernel

theorem getCurrentUserLogs_quiet :
    Quiet level (getCurrentUserLogs ex p exchange) ↔ UserPrintable level exchange := by
  rw [getCurrentUserLogs, UserPrintable, quiet_append, sendLogs_quiet]
  refine and_iff_left ?_
  generalize (if exchange.performed = true then exchange.status else -1) = status
  split
  · exact quiet_short rfl (show 50 + 11 < msgSize by decide)
  · cases ex.loads exchange.body with
    | none => exact quiet_plain (by decide)
    | some user => exact loadUserLogs_quiet user

theorem connectUserLogs_quiet : Quiet level (connectUserLogs ex p http ctx) ↔
    (ctx.currentUser = none → UserPrintable level http.currentUser) := by
  obtain ⟨out, ran⟩ := bootstrapCurrentUser_total ex http ctx
  have rest : Quiet level (if out.ret ≠ .ok then
      [error "ld_connect: couldn't get current user info from /users/@me" []]
      else [debug "ld_gateway_connect: connecting to gateway" []]) := by
    split <;> exact quiet_plain (by decide)
  rw [connectUserLogs, ran, quiet_append, and_iff_left rest]
  cases ctx.currentUser with
  | none => exact getCurrentUserLogs_quiet.trans ⟨fun printable _ => printable, fun printable => printable rfl⟩
  | some user =>
    refine iff_of_true quiet_nil ?_
    rintro ⟨⟩

theorem bootstrapGatewayBot_ran (ex : Externals) (http : Http) (ctx : Context) :
    ∃ out, ctx.bootstrapGatewayBot ex http = some out ∧
      (out.ret = .ok ↔ (ctx.gatewayBotUrl = none →
        (http.gatewayBot.url ex).isSome = true ∧ http.gatewayBot.shards ex ≠ 0)) ∧
      (out.ret = .ok → out.ctx.gatewayBotUrl = ctx.gatewayBotUrl.or (http.gatewayBot.url ex)) ∧
      out.ctx.currentUser = ctx.currentUser := by
  obtain ⟨out, ran⟩ : ∃ out, ctx.bootstrapGatewayBot ex http = some out := by
    unfold Context.bootstrapGatewayBot
    split
    · obtain ⟨sent, sending, _⟩ := sendRequest_answered ctx.curlHandle initResponse
        (Rest.getGatewayBot ctx.botToken (initRequest none)) http.gatewayBot rfl rfl
      exact ⟨_, by rw [Context.getGatewayBot, sending, Option.map_some]⟩
    · exact ⟨_, rfl⟩
  refine ⟨out, ran, ?_⟩
  rcases bootstrapGatewayBot_some ran with ⟨stored, rfl⟩ | ⟨missing, asked⟩
  · obtain ⟨url, stored⟩ := Option.isSome_iff_exists.mp stored
    simp [stored]
  · cases asked with
    | failed handle ret failed absent => simp [missing, failed, absent]
    | halfway handle ret url failed supplied zero => simp [missing, failed, zero]
    | stored handle url supplied counted => simp [missing, supplied, counted]

theorem bootstrapGateway_ran (ex : Externals) (http : Http) (ctx : Context) :
    ∃ out, ctx.bootstrapGateway ex http = some out ∧
      (out.ret = .ok ↔ (ctx.gatewayUrl = none →
        http.gateway.performed = true ∧ (http.gateway.url ex).isSome = true)) ∧
      out.ctx.gatewayBotUrl = ctx.gatewayBotUrl ∧ out.ctx.currentUser = ctx.currentUser := by
  obtain ⟨out, ran⟩ : ∃ out, ctx.bootstrapGateway ex http = some out := by
    unfold Context.bootstrapGateway
    split
    · obtain ⟨sent, sending, _⟩ := sendRequest_answered ctx.curlHandle initResponse
        (Rest.getGateway (initRequest none)) http.gateway rfl rfl
      exact ⟨_, by rw [Context.getGateway, sending, Option.map_some]⟩
    · exact ⟨_, rfl⟩
  refine ⟨out, ran, ?_⟩
  rcases bootstrapGateway_some ran with ⟨stored, rfl⟩ | ⟨missing, asked⟩
  · obtain ⟨url, stored⟩ := Option.isSome_iff_exists.mp stored
    simp [stored]
  · cases asked with
    | failed handle ret failed unsupplied => simp [missing, failed, unsupplied]
    | stored handle url performed supplied => simp [missing, performed, supplied]

theorem connectBotLogs_quiet : Quiet level (connectBotLogs ex p http ctx) ↔
    (ctx.gatewayBotUrl = none → BotPrintable ex level http.gatewayBot) ∧
    ((ctx.gatewayBotUrl = none → (http.gatewayBot.url ex).isSome = true ∧ http.gatewayBot.shards ex ≠ 0) →
      (Debugs level → ∀ url ∈ ctx.gatewayBotUrl.or (http.gatewayBot.url ex), 29 + url.length < msgSize) ∧
      (ctx.currentUser = none → UserPrintable level http.currentUser)) := by
  obtain ⟨out, ran, succeeds, stored, user⟩ := bootstrapGatewayBot_ran ex http ctx
  rw [connectBotLogs, ran, quiet_append]
  refine and_congr ?_ ?_
  · cases ctx.gatewayBotUrl with
    | none => exact getGatewayBotLogs_quiet.trans ⟨fun printable _ => printable, fun printable => printable rfl⟩
    | some url =>
      refine iff_of_true quiet_nil ?_
      rintro ⟨⟩
  · dsimp only
    rw [← succeeds]
    by_cases ok : out.ret = .ok
    · obtain ⟨url, found⟩ := Option.isSome_iff_exists.mp (bootstrapGatewayBot_ok ran ok).1
      have shown : (debug "%s: gateway_bot_url: %s" [.string (ascii "ld_connect"), .string url]).Writable ↔
          29 + url.length < msgSize := writable_botUrl (by decide +kernel)
      rw [if_neg (not_not.mpr ok), ← stored ok, found, Option.elim_some, quiet_cons, ← quiet_one, quiet_debug shown,
        connectUserLogs_quiet, user]
      simp only [ok, Option.mem_some_iff, forall_eq', forall_const]
    · rw [if_pos ok]
      exact iff_of_true (quiet_plain (by decide)) fun done => absurd done ok

theorem connectLogs_quiet : Quiet level (connectLogs ex p http ctx) ↔ ConnectPrintable ex level http ctx := by
  obtain ⟨out, ran, succeeds, botUrl, user⟩ := bootstrapGateway_ran ex http ctx
  rw [connectLogs, ConnectPrintable, ran, quiet_append]
  refine and_congr ?_ ?_
  · cases ctx.gatewayUrl with
    | none => exact getGatewayLogs_quiet.trans ⟨fun printable _ => printable, fun printable => printable rfl⟩
    | some url =>
      refine iff_of_true quiet_nil ?_
      rintro ⟨⟩
  · dsimp only
    rw [← succeeds]
    by_cases ok : out.ret = .ok
    · rw [if_neg (not_not.mpr ok), connectBotLogs_quiet, botUrl, user]
      exact ⟨fun printable _ => printable, fun printable => printable ok⟩
    · rw [if_pos ok]
      exact iff_of_true (quiet_plain (by decide)) fun done => absurd done ok

theorem retryLogs_quiet (ret : Status) (caller : Caller) : Quiet level (retryLogs ret caller) := by
  cases caller with
  | connect => exact quiet_nil
  | service =>
    rw [retryLogs]
    split
    · exact quiet_short rfl (by decide)
    · exact quiet_nil

theorem enterConnectLogs_quiet (caller : Caller) :
    Quiet level (enterConnectLogs ex p http caller ctx) ↔ ConnectPrintable ex level http ctx := by
  rw [enterConnectLogs, quiet_append, connectLogs_quiet]
  refine and_iff_left ?_
  cases ctx.bootstrap ex http with
  | none => exact quiet_nil
  | some out => exact retryLogs_quiet out.ret caller

theorem heartbeatLogs_quiet (now : UInt64) : Quiet level (heartbeatLogs ex ctx now) := by
  rw [heartbeatLogs]
  split
  · split
    · exact quiet_short rfl (by decide)
    · refine quiet_append.mpr ⟨?_, ?_⟩
      · rw [queueHeartbeatLogs]
        split
        · exact quiet_short rfl (by decide)
        · dsimp only
          split
          · exact quiet_plain (by decide)
          · exact quiet_nil
      · split
        · exact quiet_plain (by decide)
        · exact quiet_nil
  · exact quiet_nil

theorem leaveLogs_quiet (caller : Caller) :
    Quiet level (leaveLogs ctx caller) ↔ LeavePrintable level ctx := by
  have bad : Quiet level [warning "ld_connect: ld_gateway_connect returned bad" []] :=
    quiet_plain (by decide)
  have missing : vsprintf "ld_gateway_connect: failed to connect to gateway (%s)" [.pointer 6] = none :=
    (vsprintf_ofList _ _).trans rfl
  have outside : vsprintf "ld_gateway_connect: failed to connect to gateway (%s)" [.stray] = none :=
    (vsprintf_ofList _ _).trans rfl
  rw [leaveLogs, LeavePrintable]
  cases ctx.lwsWsi with
  | some wsi =>
    refine iff_of_true quiet_nil ?_
    rintro ⟨⟩
  | none =>
    rw [Option.isNone_none, if_pos rfl, quiet_append, and_iff_left (retryLogs_quiet _ caller), quiet_cons,
      ← quiet_one, and_iff_left bad, addressArgument]
    simp only [forall_const]
    cases ctx.gatewayBotUrl with
    | none =>
      refine (quiet_unreadable missing).trans ?_
      simp [Complains, error]
    | some url =>
      dsimp only
      by_cases long : 6 ≤ url.length
      · rw [if_pos long]
        have written : ∀ address : Text, vsprintf "ld_gateway_connect: failed to connect to gateway (%s)"
            [.string address] =
              some (ascii "ld_gateway_connect: failed to connect to gateway (" ++ (address ++ ascii ")")) :=
          fun _ => (vsprintf_ofList _ _).trans rfl
        have before : (ascii "ld_gateway_connect: failed to connect to gateway (").length = 50 := by decide +kernel
        have behind : (ascii ")").length = 1 := by decide +kernel
        rw [quiet_one, Log.Call.Writable, error, written]
        simp only [Option.some.injEq, exists_eq_left', List.length_append, List.length_drop, before, behind]
        have room : 50 + (url.length - 6 + 1) < msgSize ↔ 51 + (url.length - 6) < msgSize := by omega
        rw [room]
        simp [Complains, Log.Call.Enabled, long]
      · rw [if_neg long]
        refine (quiet_unreadable outside).trans ?_
        simp [Complains, error, long]

theorem logs_quiet (s : System) (m : Move) : Quiet level (m.logs ex p s) ↔ m.Printable ex p level s := by
  cases m with
  | service w =>
    rw [Move.logs, Move.Printable]
    cases s.ctx.lwsWsi with
    | none =>
      rw [Option.isNone_none, if_pos rfl, enterConnectLogs_quiet]
      exact ⟨fun printable _ => printable, fun printable => printable rfl⟩
    | some wsi =>
      refine iff_of_true (heartbeatLogs_quiet w.now) ?_
      rintro ⟨⟩
  | connect http created => exact enterConnectLogs_quiet .connect
  | callback wsi callback w => exact callbackLogs_quiet callback
  | leave =>
    rw [Move.logs, Move.Printable]
    cases s.control with
    | connecting caller => simp [leaveLogs_quiet]
    | _ =>
      refine iff_of_true quiet_nil ?_
      rintro _ ⟨⟩

end

end Libdiscord
