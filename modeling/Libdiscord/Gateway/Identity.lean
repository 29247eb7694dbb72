import Libdiscord.Gateway.Handshake

/-! How the identity the bot configures gets into IDENTIFY. -/

set_option autoImplicit false

namespace Libdiscord

open Libdiscord.Base
open Json (member? ofText)

/-- The fields of the context that `ld_init_context` sets from the bot's information, and IDENTIFY is made
of. -/
structure SameIdentity (ctx next : Context) : Prop where
  botToken : next.botToken = ctx.botToken
  device : next.device = ctx.device
  browser : next.browser = ctx.browser
  os : next.os = ctx.os
  initPresence : next.initPresence = ctx.initPresence

structure CarriesIdentity (ex : Externals) (info : ContextInfo) (shards : Int32) (payload : Json) : Prop where
  op : member? "op" payload.members = some (.integer 2)
  d : ∃ d, member? "d" payload.members = some d ∧
    member? "token" d.members = info.botToken.map .string ∧
    (∃ properties, member? "properties" d.members = some properties ∧
      member? "$device" properties.members = some (.string (info.device.getD Json.libname)) ∧
      member? "$browser" properties.members = some (.string (info.browser.getD Json.libname)) ∧
      member? "$os" properties.members = some (.string (info.os.getD ex.systemos))) ∧
    member? "shard" d.members = some (.array [.integer 0, .integer shards.toInt64]) ∧
    ((member? "presence" d.members).isSome = true ↔ info.initPresence.isSome = true)

structure Spelled (ex : Externals) (info : ContextInfo) : Prop where
  token : ∀ text ∈ info.botToken, ex.checkUtf8 text = true
  device : ∀ text ∈ info.device, ex.checkUtf8 text = true
  browser : ∀ text ∈ info.browser, ex.checkUtf8 text = true
  os : ∀ text ∈ info.os, ex.checkUtf8 text = true
  libname : ex.checkUtf8 Json.libname = true
  systemos : ex.checkUtf8 ex.systemos = true

/-- The initialisation succeeds, and in every state that is reached from it a HELLO that is answered with
IDENTIFY and finds room in the ring queues one with the configured identity. -/
def IdentityReaches (ex : Externals) (w : InitWorld) (info : ContextInfo) : Prop :=
  ∃ ctx, initContext ex w (some info) = some (.ok ctx) ∧
    ∀ moves final, run (step ex) (.start ctx w.now) moves = some final →
      ∀ world text payload, ex.loadb text = some payload → IsPayload 10 payload →
        final.ctx.gatewaySessionId = none →
        final.ctx.gatewayRing.items.length < final.ctx.gatewayRing.capacity →
        ∃ out sent, gatewayPayloadParser ex world final.ctx text = some out ∧
          helloPayload ex world final.ctx = some sent ∧
          queuedPayloads out.events = [(.handshake, ex.dumps sent)] ∧
          CarriesIdentity ex info final.ctx.shards sent

section
variable {ex : Externals} {s next : System} {m : Move} {ctx : Context}

theorem SameIdentity.refl (ctx : Context) : SameIdentity ctx ctx := ⟨rfl, rfl, rfl, rfl, rfl⟩

theorem SameIdentity.trans {a b c : Context} (first : SameIdentity a b) (second : SameIdentity b c) :
    SameIdentity a c :=
  ⟨second.botToken.trans first.botToken, second.device.trans first.device, second.browser.trans first.browser,
    second.os.trans first.os, second.initPresence.trans first.initPresence⟩

theorem Asked.identity {next : Context} (asked : Asked ctx next) : SameIdentity ctx next := by
  obtain ⟨_, _, _, _, _, rfl⟩ := asked
  exact ⟨rfl, rfl, rfl, rfl, rfl⟩

theorem Called.identity {w : World} {wsi : Wsi} {callback : Callback} {out : Outcome}
    (called : Called ex w ctx wsi callback out) : SameIdentity ctx out.ctx := by
  cases called with
  | parsed _ _ _ _ _ inner _ parsed =>
    cases parsed with
    | known _ _ _ _ handled => cases handled <;> exact ⟨rfl, rfl, rfl, rfl, rfl⟩
    | _ => exact ⟨rfl, rfl, rfl, rfl, rfl⟩
  | _ => exact ⟨rfl, rfl, rfl, rfl, rfl⟩

theorem step_identity (stepped : step ex s m = some next) : SameIdentity s.ctx next.ctx := by
  cases step_acts stepped with
  | idle _ _ _ _ _ asked => exact asked.identity
  | connecting _ _ _ _ _ _ _ asked same =>
    rw [same]
    exact asked.identity.trans ⟨rfl, rfl, rfl, rfl, rfl⟩
  | missed _ _ _ same =>
    rw [same]
    exact ⟨rfl, rfl, rfl, rfl, rfl⟩
  | queued _ _ _ _ _ _ _ _ _ _ same =>
    rw [same]
    exact ⟨rfl, rfl, rfl, rfl, rfl⟩
  | called _ _ _ _ _ ran _ same =>
    rw [same]
    exact (lwsCallback_some ran).identity

theorem run_identity {final : System} (moves : List Move) (ran : run (step ex) s moves = some final) :
    SameIdentity s.ctx final.ctx :=
  invariant_of_each (fun now => SameIdentity s.ctx now.ctx)
    (fun _ _ _ same _ stepped => same.trans (step_identity stepped)) (.refl s.ctx) (each_true s moves) ran

def configured (ex : Externals) (w : InitWorld) (info : ContextInfo) (token os : Text) : Context := {
  zeroContext (.empty (ex.ringCapacity info.gatewayRingbufferSize)) with
  lastHb := w.now
  device := some (info.device.getD Json.libname)
  browser := some (info.browser.getD Json.libname)
  os := some os
  userCallback := info.userCallback
  botToken := some token
  initPresence := info.initPresence }

-- What `ld_init_context` copies for the name of the operating system.
def copiedOs (ex : Externals) (info : ContextInfo) : Option Text :=
  match info.os with
  | none => some ex.systemos
  | some _ => info.browser

theorem initContext_configured {w : InitWorld} {info : ContextInfo} {token : Text} (curl : w.curl = true)
    (lws : w.lws = true) (ring : w.ring = true) (set : info.botToken = some token) :
    initContext ex w (some info) = (copiedOs ex info).map fun os => .ok (configured ex w info token os) := by
  unfold initContext copiedOs
  simp only [curl, lws, ring, set, not_true, if_false]
  cases info.os with
  | none => rfl
  | some os => cases browser : info.browser <;> simp [configured, browser]

theorem ofText_utf8 {text : Text} (utf8 : ex.checkUtf8 text = true) :
    ofText ex (some text) = some (.string text) := by simp [ofText, utf8]

theorem Spelled.default {given : Option Text} {default : Text} (utf8 : ∀ text ∈ given, ex.checkUtf8 text = true)
    (other : ex.checkUtf8 default = true) : ex.checkUtf8 (given.getD default) = true := by
  cases given with
  | none => exact other
  | some text => exact utf8 text rfl

theorem Spelled.copied {info : ContextInfo} {os : Text} (spelled : Spelled ex info)
    (copied : copiedOs ex info = some os) : ex.checkUtf8 os = true := by
  unfold copiedOs at copied
  split at copied
  · cases copied
    exact spelled.systemos
  · exact spelled.browser os copied

/-- An IDENTIFY made of a context that still holds the configured identity carries it exactly if the name of
the operating system was copied right. -/
theorem carriesIdentity_iff {w : InitWorld} {info : ContextInfo} {token os : Text} {beyond : Nat → UInt64}
    {payload : Json} (spelled : Spelled ex info) (set : info.botToken = some token)
    (copied : copiedOs ex info = some os) (same : SameIdentity (configured ex w info token os) ctx)
    (identifies : IsIdentify ex beyond ctx payload) :
    CarriesIdentity ex info ctx.shards payload ↔ os = info.os.getD ex.systemos := by
  obtain ⟨d, data, tokens, ⟨properties, found, oses, browsers, devices⟩, _, _, shard, presence⟩ := identifies.d
  rw [same.botToken, configured, ofText_utf8 (spelled.token token set)] at tokens
  rw [same.os, configured, Option.getD_some, ofText_utf8 (spelled.copied copied)] at oses
  rw [same.browser, configured, Option.getD_some,
    ofText_utf8 (Spelled.default spelled.browser spelled.libname)] at browsers
  rw [same.device, configured, Option.getD_some,
    ofText_utf8 (Spelled.default spelled.device spelled.libname)] at devices
  rw [same.initPresence] at presence
  constructor
  · intro carries
    obtain ⟨d', data', _, ⟨properties', found', _, _, oses'⟩, _⟩ := carries.d
    obtain rfl := Option.some.inj (data.symm.trans data')
    obtain rfl := Option.some.inj (found.symm.trans found')
    exact Json.string.inj (Option.some.inj (oses.symm.trans oses'))
  · rintro rfl
    refine ⟨identifies.op, d, data, ?_, ⟨properties, found, devices, browsers, oses⟩, shard, ?_⟩
    · rw [tokens, set, Option.map_some]
    · rw [presence, Option.isSome_map]
      exact Iff.rfl

theorem copiedOs_right (ex : Externals) (info : ContextInfo) :
    copiedOs ex info = some (info.os.getD ex.systemos) ↔ info.os = none ∨ info.browser = info.os := by
  unfold copiedOs
  cases info.os with
  | none => simp
  | some os => simp

theorem hello_configured {w : InitWorld} {info : ContextInfo} {token os : Text} {text : Text} {payload : Json}
    (same : SameIdentity (configured ex w info token os) ctx) (world : World)
    (loaded : ex.loadb text = some payload) (hello : IsPayload 10 payload) (fresh : ctx.gatewaySessionId = none)
    (room : ctx.gatewayRing.items.length < ctx.gatewayRing.capacity) :
    ∃ out sent, gatewayPayloadParser ex world ctx text = some out ∧ helloPayload ex world ctx = some sent ∧
      queuedPayloads out.events = [(.handshake, ex.dumps sent)] ∧ IsIdentify ex world.beyondRoles ctx sent := by
  let seen := { ctx with lastSeq := storedSeq ctx.lastSeq payload.members }
  obtain ⟨out, ran⟩ := gatewayHello_total ex world seen (member? "d" payload.members)
  obtain ⟨sent, encoded, identifies, events, _⟩ := gatewayHello_encoding ran fresh same.botToken room
  refine ⟨out, sent, (gatewayPayloadParser_hello loaded hello).trans ran, ?_, by rw [events]; rfl,
    ⟨identifies.op, identifies.d⟩⟩
  -- the sequence number that comes with the payload is no part of IDENTIFY
  have freshSeen : seen.gatewaySessionId = none := fresh
  rw [helloPayload, helloIdentify_fresh world freshSeen] at encoded
  rw [helloPayload, helloIdentify_fresh world fresh]
  exact encoded

/-- The configured identity reaches the wire if no name of an operating system is passed, or the one that
the browser has; and, where a HELLO can be read and the ring has a place, only then. -/
theorem identity_reaches_iff {w : InitWorld} {info : ContextInfo} {token : Text} (curl : w.curl = true)
    (lws : w.lws = true) (ring : w.ring = true) (set : info.botToken = some token) (spelled : Spelled ex info) :
    (info.os = none ∨ info.browser = info.os → IdentityReaches ex w info) ∧
    ∀ text payload, ex.loadb text = some payload → IsPayload 10 payload →
      0 < ex.ringCapacity info.gatewayRingbufferSize →
      IdentityReaches ex w info → info.os = none ∨ info.browser = info.os := by
  rw [← copiedOs_right ex]
  constructor
  · intro copied
    refine ⟨_, by rw [initContext_configured curl lws ring set, copied, Option.map_some], ?_⟩
    intro moves final ran world text payload loaded hello fresh room
    have same := run_identity moves ran
    obtain ⟨out, sent, parsed, encoded, queued, identifies⟩ :=
      hello_configured same world loaded hello fresh room
    exact ⟨out, sent, parsed, encoded, queued,
      (carriesIdentity_iff spelled set copied same identifies).mpr rfl⟩
  · rintro text payload loaded hello roomy ⟨ctx, initialised, reaches⟩
    rw [initContext_configured curl lws ring set] at initialised
    obtain ⟨os, copied, same⟩ := Option.map_eq_some_iff.mp initialised
    cases same
    obtain ⟨_, sent, _, encoded, _, carries⟩ :=
      reaches [] _ rfl (.calm 0) text payload loaded hello rfl roomy
    obtain ⟨_, other, _, encoded', _, identifies⟩ :=
      hello_configured (.refl _) (.calm 0) loaded hello rfl roomy
    obtain rfl := Option.some.inj (encoded.symm.trans encoded')
    rw [copied, (carriesIdentity_iff spelled set copied (.refl _) identifies).mp carries]

/-- What is wanted: whatever of the three names a bot passes next to its token, it is initialised and
identifies with them. -/
def AlwaysReaches (ex : Externals) : Prop :=
  ∀ w info token, w.curl = true → w.lws = true → w.ring = true → info.botToken = some token →
    Spelled ex info → IdentityReaches ex w info

-- A bot that names these, next to its token.
def namingBot (device browser os : Option Text) : ContextInfo :=
  ⟨some (ascii "token"), true, 16, none, device, browser, os⟩

theorem namingBot_spelled (names : List Json) {device browser os : Option Text}
    (plain : ∀ text, text ∈ device ∨ text ∈ browser ∨ text ∈ os → text.all (· < 128) = true) :
    Spelled (.knowing names) (namingBot device browser os) where
  token := by
    rintro _ ⟨⟩
    exact (by decide : (ascii "token").all (· < 128) = true)
  device := fun text named => plain text (.inl named)
  browser := fun text named => plain text (.inr (.inl named))
  os := fun text named => plain text (.inr (.inr named))
  libname := (by decide : Json.libname.all (· < 128) = true)
  systemos := (by decide : (ascii "Linux").all (· < 128) = true)

/-- A bot that names an operating system and no browser is not initialised. -/
theorem os_copied_from_browser : ¬AlwaysReaches (.knowing []) := by
  intro wanted
  have spelled : Spelled (.knowing []) (namingBot none none (some (ascii "Linux"))) :=
    namingBot_spelled [] fun text named => by
      obtain rfl : ascii "Linux" = text := by simpa using named
      decide
  obtain ⟨ctx, initialised, _⟩ := wanted ⟨true, true, true, 99⟩ _ (ascii "token") rfl rfl rfl rfl spelled
  cases initialised

theorem identity_reaches_iff_browser :
    IdentityReaches (.knowing [helloMessage 41250]) ⟨true, true, true, 99⟩
      (namingBot none (some (ascii "Firefox")) none) := by
  have spelled : Spelled (.knowing [helloMessage 41250]) (namingBot none (some (ascii "Firefox")) none) :=
    namingBot_spelled _ fun text named => by
      obtain rfl : ascii "Firefox" = text := by simpa using named
      decide
  exact (identity_reaches_iff rfl rfl rfl rfl spelled).1 (.inl rfl)

end

end Libdiscord
