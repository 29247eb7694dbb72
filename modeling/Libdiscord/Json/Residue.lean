import Libdiscord.Bootstrap
import Libdiscord.Json.Filling
import Libdiscord.Json.Text

/-! What a decoded user keeps of the memory it is decoded into. -/

set_option autoImplicit false

namespace Libdiscord

open Libdiscord.Base Rest

def Json.isBoolean : Json → Bool
  | .boolean _ => true
  | _ => false

def UserField.Right : UserField → Json → Prop
  | bot, value | mfaEnabled, value | verified, value => value.isBoolean = true
  | id, value | username, value | discriminator, value | avatar, value | locale, value | email, value =>
    value.stringValue.isSome = true

/-- The user that comes out is the same whatever the memory held, and a field that no member of the right
kind is there for is 0 or null. -/
structure Alone (decoded : User → Option User) (json : Json) : Prop where
  same : ∀ stale other, decoded stale = decoded other
  zero : ∀ stale user (f : UserField), decoded stale = some user →
    (∀ entry ∈ json.members, entry.1 = f.key → ¬f.Right entry.2) → f.get user = f.get noUser

/-- Every field has a member, and the id, the username, the discriminator, the avatar and the email have one
that is a string. -/
def Complete (json : Json) : Prop :=
  ∀ f : UserField, ∃ entry ∈ json.members, entry.1 = f.key ∧
    (f.Textual → entry.2.stringValue.isSome = true)

/-- `message.author` after `ld_json_message_init` and `ld_json_pack_message`, with the memory `malloc`
returned for it. -/
def authorOf (message : Json) (stale : User) : Option User :=
  (Json.packMessage stale Json.messageInit message).author

/-- `context->current_user` after the step of `ld_connect` that fetches it. -/
def currentUserOf (ex : Externals) (http : Http) (ctx : Context) (stale : User) : Option User :=
  (ctx.bootstrapCurrentUser ex { http with staleUser := stale }).bind (·.ctx.currentUser)

theorem UserField.decode_isSome_iff (f : UserField) (value : Json) :
    (f.decode value).isSome = true ↔ (f.Textual → value.stringValue.isSome = true) := by
  cases f <;> simp [decode, Textual]

theorem UserField.decode_wrong (f : UserField) {value : Json} (wrong : ¬f.Right value) {stored : f.Value}
    (decoded : f.decode value = some stored) : stored = f.get noUser := by
  cases f
  case bot | mfaEnabled | verified =>
    cases decoded
    cases value with
    | boolean => exact absurd rfl wrong
    | _ => rfl
  case locale =>
    cases decoded
    exact Option.not_isSome_iff_eq_none.mp wrong
  all_goals simp [decode, Option.not_isSome_iff_eq_none.mp wrong] at decoded

theorem alone_iff (json : Json) :
    Alone (fun stale => some (Json.loadUser stale json)) json ↔ Complete json := by
  have apart : ∀ f : UserField, f.get noUser ≠ f.get ⟨1, some [], some [], some [], 1, 1, some [], 1, some []⟩ := by
    intro f
    cases f <;> decide
  have written := userDecoder.fill_alone_iff apart json.members
  have stored : Complete json ↔ ∀ f : UserField, ∃ entry ∈ json.members, some f.key = some entry.1 ∧
      (f.decode entry.2).isSome = true := by
    refine forall_congr' fun f => exists_congr fun entry => and_congr_right fun _ => ?_
    rw [f.decode_isSome_iff, Option.some.injEq, eq_comm]
  rw [stored]
  constructor
  · intro alone
    exact written.mp fun stale other => Option.some.inj (alone.same stale other)
  · intro complete
    refine ⟨fun stale other => congrArg some (written.mpr complete stale other), ?_⟩
    rintro stale user f ⟨⟩ wrong
    rcases userDecoder.get_fill_cases f stale json.members with ⟨entry, inside, named, decoded⟩ | ⟨_, undecoded⟩
    · exact f.decode_wrong (wrong entry inside (Option.some.inj named).symm) decoded
    · obtain ⟨entry, inside, named, decodes⟩ := complete f
      exact absurd (undecoded entry inside named) (Option.isSome_iff_ne_none.mp decodes)

theorem authorOf_eq {message author : Json} (authored : Json.member? "author" message.members = some author) :
    authorOf message = fun stale => some (Json.loadUser stale author) := by
  funext stale
  rw [authorOf, packMessage_author, authored]
  rfl

theorem currentUserOf_eq {ex : Externals} {http : Http} {ctx : Context} {user : Json}
    (missing : ctx.currentUser = none) (identifies : http.currentUser.Identifies ex)
    (decodes : ex.loads http.currentUser.body = some user) :
    currentUserOf ex http ctx = fun stale => some (Json.loadUser stale user) := by
  funext stale
  obtain ⟨out, ran⟩ := bootstrapCurrentUser_total ex { http with staleUser := stale } ctx
  rw [currentUserOf, ran, Option.bind_some]
  cases bootstrapCurrentUser_some missing ran with
  | failed _ _ _ refused => exact absurd identifies refused
  | loaded _ loaded _ decoded =>
    obtain rfl := Option.some.inj (decoded.symm.trans decodes)
    rfl

/-- The author of a message and the current user are decoded as wanted exactly if every field is stored. -/
theorem decoded_alone_iff (ex : Externals) :
    (∀ message author, Json.member? "author" message.members = some author →
      (Alone (authorOf message) author ↔ Complete author)) ∧
    ∀ http ctx user, ctx.currentUser = none → http.currentUser.Identifies ex →
      ex.loads http.currentUser.body = some user →
      (Alone (currentUserOf ex http ctx) user ↔ Complete user) := by
  constructor
  · intro message author authored
    rw [authorOf_eq authored]
    exact alone_iff author
  · intro http ctx user missing identifies decodes
    rw [currentUserOf_eq missing identifies decodes]
    exact alone_iff user

/-- What is wanted: no decoded user tells what the memory held. -/
def DecodedAlone (ex : Externals) : Prop :=
  (∀ message author, Json.member? "author" message.members = some author → Alone (authorOf message) author) ∧
  ∀ http ctx user, ctx.currentUser = none → http.currentUser.Identifies ex →
    ex.loads http.currentUser.body = some user → Alone (currentUserOf ex http ctx) user

/-- A human author, who has no member `bot`, is a bot if the memory says so. -/
theorem author_left_over : ¬DecodedAlone (.knowing []) := by
  intro wanted
  let author := Json.object [("id", .string (ascii "1")), ("username", .string (ascii "a"))]
  have same := (wanted.1 (.object [("author", author)]) author rfl).same noUser { noUser with bot := 1 }
  have bots := congrArg (Option.map User.bot) same
  exact absurd bots (by decide)

-- A user with all its members.
def webUser : Json :=
  .object [("id", .string (ascii "80351110224678912")), ("username", .string (ascii "Nelly")),
    ("discriminator", .string (ascii "1337")), ("avatar", .string (ascii "8342")), ("bot", .boolean true),
    ("mfa_enabled", .boolean true), ("locale", .string (ascii "en-US")), ("verified", .boolean true),
    ("email", .string (ascii "nelly@example.com"))]

theorem webUser_complete : Complete webUser := by
  intro f
  cases f <;> simp [webUser, Json.members, UserField.key, UserField.Textual, Json.stringValue]

theorem decoded_alone_iff_complete :
    Alone (authorOf (.object [("author", webUser)])) webUser ∧
    Alone (currentUserOf (.knowing [webUser]) (.answering webUser.encode noUser) (zeroContext (.empty 1)))
      webUser := by
  obtain ⟨author, currentUser⟩ := decoded_alone_iff (.knowing [webUser])
  have body : (Http.answering webUser.encode noUser).currentUser.body = some webUser.encode := by
    simp [Http.answering, Exchange.body, Exchange.answer]
  have printable : webUser.encode.takeWhile (· ≠ 0) = webUser.encode := by decide +kernel
  have decodes : (Externals.knowing [webUser]).loads (Http.answering webUser.encode noUser).currentUser.body =
      some webUser := by
    rw [body, Externals.loads, Option.bind_some, printable]
    exact knowing_first webUser []
  have identifies : (Http.answering webUser.encode noUser).currentUser.Identifies (.knowing [webUser]) :=
    ⟨rfl, rfl, by rw [decodes]; rfl⟩
  exact ⟨(author _ _ rfl).mpr webUser_complete,
    (currentUser _ _ _ rfl identifies decodes).mpr webUser_complete⟩

end Libdiscord
