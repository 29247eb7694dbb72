import Libdiscord.Base.Record
import Libdiscord.Json.Message

/-! The decoders of users and messages as records that are filled in member by member. -/

set_option autoImplicit false

namespace Libdiscord

open Libdiscord.Base

theorem Json.member?_eq_last? (key : String) (members : List (String × Json)) :
    Json.member? key members = last? (fun entry => if entry.1 = key then some entry.2 else none) members := by
  induction members with
  | nil => rfl
  | cons entry rest ih => rw [Json.member?_cons, last?_cons, ih]

theorem Json.member?_perm {members other : List (String × Json)} (perm : members.Perm other)
    (distinct : (members.map (·.1)).Nodup) (key : String) :
    Json.member? key members = Json.member? key other := by
  rw [Json.member?_eq_last?, Json.member?_eq_last?]
  refine last?_perm perm (once_of_nodup (·.1) key distinct fun entry set => ?_)
  by_cases same : entry.1 = key
  · exact same
  · simp [same] at set

inductive UserField where
  | id | username | discriminator | avatar | bot | mfaEnabled | locale | verified | email
  deriving DecidableEq, Repr

namespace UserField

def key : UserField → String
  | id => "id"
  | username => "username"
  | discriminator => "discriminator"
  | avatar => "avatar"
  | bot => "bot"
  | mfaEnabled => "mfa_enabled"
  | locale => "locale"
  | verified => "verified"
  | email => "email"

abbrev Value : UserField → Type
  | id => UInt64
  | bot | mfaEnabled | verified => Int32
  | username | discriminator | avatar | locale | email => Option Text

def get : (f : UserField) → User → f.Value
  | id => User.id
  | username => User.username
  | discriminator => User.discriminator
  | avatar => User.avatar
  | bot => User.bot
  | mfaEnabled => User.mfaEnabled
  | locale => User.locale
  | verified => User.verified
  | email => User.email

def put : (f : UserField) → f.Value → User → User
  | id, value, user => { user with id := value }
  | username, value, user => { user with username := value }
  | discriminator, value, user => { user with discriminator := value }
  | avatar, value, user => { user with avatar := value }
  | bot, value, user => { user with bot := value }
  | mfaEnabled, value, user => { user with mfaEnabled := value }
  | locale, value, user => { user with locale := value }
  | verified, value, user => { user with verified := value }
  | email, value, user => { user with email := value }

def decode : (f : UserField) → Json → Option f.Value
  | id, value => value.stringValue.map strtoull
  | username, value | discriminator, value | avatar, value | email, value => value.stringValue.map some
  | bot, value | mfaEnabled, value | verified, value => some value.booleanValue
  | locale, value => some value.stringValue

theorem key_injective {f g : UserField} (same : f.key = g.key) : f = g := by
  cases f <;> cases g <;> first | rfl | simp [key] at same

theorem get_put_same (f : UserField) (value : f.Value) (user : User) : f.get (f.put value user) = value := by
  cases f <;> rfl

theorem get_put_other {f g : UserField} (other : g ≠ f) (value : g.Value) (user : User) :
    f.get (g.put value user) = f.get user := by
  cases f <;> cases g <;> first | rfl | exact absurd rfl other

end UserField

theorem User.ext_fields {user other : User} (same : ∀ f : UserField, f.get user = f.get other) :
    user = other := by
  cases user
  cases other
  simp only [User.mk.injEq]
  exact ⟨same .id, same .username, same .discriminator, same .avatar, same .bot, same .mfaEnabled,
    same .locale, same .verified, same .email⟩

namespace Json

theorem loadUserMember_known (user : User) (f : UserField) (value : Json) :
    loadUserMember user f.key value = (f.decode value).elim user fun stored => f.put stored user := by
  cases f
  case bot | mfaEnabled | verified | locale =>
    simp only [loadUserMember, UserField.key, String.reduceEq, if_true, if_false]
    rfl
  all_goals
    simp only [loadUserMember, UserField.key, UserField.decode, String.reduceEq, if_true, if_false]
    cases value.stringValue <;> rfl

theorem loadUserMember_unknown (user : User) {key : String} (unknown : ∀ f : UserField, key ≠ f.key)
    (value : Json) : loadUserMember user key value = user := by
  have id : key ≠ "id" := unknown .id
  have username : key ≠ "username" := unknown .username
  have discriminator : key ≠ "discriminator" := unknown .discriminator
  have avatar : key ≠ "avatar" := unknown .avatar
  have bot : key ≠ "bot" := unknown .bot
  have mfaEnabled : key ≠ "mfa_enabled" := unknown .mfaEnabled
  have locale : key ≠ "locale" := unknown .locale
  have verified : key ≠ "verified" := unknown .verified
  have email : key ≠ "email" := unknown .email
  simp only [loadUserMember, id, username, discriminator, avatar, bot, mfaEnabled, locale, verified, email,
    if_false]

end Json

def userDecoder : Decoder User String Json UserField UserField.Value where
  name := fun f => some f.key
  decode := UserField.decode
  get := UserField.get
  put := UserField.put
  step := fun user entry => Json.loadUserMember user entry.1 entry.2
  ext := User.ext_fields
  name_injective := fun left right => UserField.key_injective (Option.some.inj (left.trans right.symm))
  get_put_same := UserField.get_put_same
  get_put_other := fun value user other => UserField.get_put_other other value user
  known := by
    intro f key user value named
    cases named
    exact Json.loadUserMember_known user f value
  unknown := by
    intro key user value unknown
    exact Json.loadUserMember_unknown user (fun f same => unknown f (same ▸ rfl)) value

theorem Json.loadUser_fill (user : User) (json : Json) :
    loadUser user json = userDecoder.fill user json.members := rfl

inductive MessageField where
  | content | channelId | id | type | author | rest
  deriving DecidableEq, Repr

namespace MessageField

def key : MessageField → Option String
  | content => some "content"
  | channelId => some "channel_id"
  | id => some "id"
  | type => some "type"
  | author => some "author"
  | rest => none

abbrev Value : MessageField → Type
  | content => Option Text
  | channelId | id => UInt64
  | type => Int32
  | author => Option User
  | rest => MessageRest

def get : (f : MessageField) → Message → f.Value
  | content => Message.content
  | channelId => Message.channelId
  | id => Message.id
  | type => Message.type
  | author => Message.author
  | rest => Message.toMessageRest

def put : (f : MessageField) → f.Value → Message → Message
  | content, value, message => { message with content := value }
  | channelId, value, message => { message with channelId := value }
  | id, value, message => { message with id := value }
  | type, value, message => { message with type := value }
  | author, value, message => { message with author := value }
  | rest, value, message => { message with toMessageRest := value }

def decode (fresh : User) : (f : MessageField) → Json → Option f.Value
  | content, value => value.stringValue.map some
  | channelId, value | id, value => value.stringValue.map strtoull
  | type, value => value.stringValue.map fun tmp => (strtol tmp).toInt32
  | author, value => some (some (Json.loadUser fresh value))
  | rest, _ => none

theorem key_injective {f g : MessageField} {key : String} (left : f.key = some key) (right : g.key = some key) :
    f = g := by
  cases f <;> cases left <;> cases g <;> first | rfl | simp [MessageField.key] at right

theorem get_put_same (f : MessageField) (value : f.Value) (message : Message) :
    f.get (f.put value message) = value := by
  cases f <;> rfl

theorem get_put_other {f g : MessageField} (other : g ≠ f) (value : g.Value) (message : Message) :
    f.get (g.put value message) = f.get message := by
  cases f <;> cases g <;> first | rfl | exact absurd rfl other

end MessageField

theorem Message.ext_fields {message other : Message}
    (same : ∀ f : MessageField, f.get message = f.get other) : message = other := by
  cases message
  cases other
  simp only [Message.mk.injEq]
  exact ⟨same .rest, same .id, same .channelId, same .author, same .content, same .type⟩

namespace Json

theorem packMessageMember_known (fresh : User) (message : Message) {f : MessageField} {key : String}
    (known : f.key = some key) (value : Json) :
    packMessageMember fresh message key value =
      (f.decode fresh value).elim message fun stored => f.put stored message := by
  cases f
  case rest => cases known
  case author =>
    cases known
    simp only [packMessageMember, String.reduceEq, if_true, if_false]
    rfl
  all_goals
    cases known
    simp only [packMessageMember, MessageField.decode, String.reduceEq, if_true, if_false]
    cases value.stringValue <;> rfl

theorem packMessageMember_unknown (fresh : User) (message : Message) {key : String}
    (unknown : ∀ f : MessageField, f.key ≠ some key) (value : Json) :
    packMessageMember fresh message key value = message := by
  have other : ∀ {f : MessageField} {name : String}, f.key = some name → key ≠ name :=
    fun named same => unknown _ (same ▸ named)
  have content : key ≠ "content" := other (f := .content) rfl
  have channelId : key ≠ "channel_id" := other (f := .channelId) rfl
  have id : key ≠ "id" := other (f := .id) rfl
  have type : key ≠ "type" := other (f := .type) rfl
  have author : key ≠ "author" := other (f := .author) rfl
  simp only [packMessageMember, content, channelId, id, type, author, if_false]

end Json

def messageDecoder (fresh : User) : Decoder Message String Json MessageField MessageField.Value where
  name := MessageField.key
  decode := MessageField.decode fresh
  get := MessageField.get
  put := MessageField.put
  step := fun message entry => Json.packMessageMember fresh message entry.1 entry.2
  ext := Message.ext_fields
  name_injective := MessageField.key_injective
  get_put_same := MessageField.get_put_same
  get_put_other := fun value message other => MessageField.get_put_other other value message
  known := fun message value named => Json.packMessageMember_known fresh message named value
  unknown := fun message value unknown => Json.packMessageMember_unknown fresh message unknown value

theorem Json.packMessage_fill (fresh : User) (message : Message) (json : Json) :
    packMessage fresh message json = (messageDecoder fresh).fill message json.members := rfl

def UserField.Textual : UserField → Prop
  | id | username | discriminator | avatar | email => True
  | bot | mfaEnabled | locale | verified => False

def MessageField.Textual : MessageField → Prop
  | content | channelId | id | type => True
  | author | rest => False

/-- Decoding an object does not depend on the order of its members, and every member concerns at most the
one field of its name. -/
structure Framed {Record Field : Type} {Value : Field → Type} (decode : Record → Json → Record)
    (key : Field → Option String) (get : (f : Field) → Record → Value f) (textual : Field → Prop) : Prop where
  ordered : ∀ r members other, (members.map (·.1)).Nodup → members.Perm other →
    decode r (.object members) = decode r (.object other)
  own : ∀ r before after entry f, key f ≠ some entry.1 →
    get f (decode r (.object (before ++ entry :: after))) = get f (decode r (.object (before ++ after)))
  unknown : ∀ r before after entry, (∀ f, key f ≠ some entry.1) →
    decode r (.object (before ++ entry :: after)) = decode r (.object (before ++ after))
  text : ∀ r members f, textual f → (∀ entry ∈ members, key f = some entry.1 → entry.2.stringValue = none) →
    get f (decode r (.object members)) = get f r

theorem framed_of_decoder {Record Field : Type} {Value : Field → Type} {textual : Field → Prop}
    {decode : Record → Json → Record} (decoder : Decoder Record String Json Field Value)
    (filled : ∀ r json, decode r json = decoder.fill r json.members)
    (strings : ∀ f value, textual f → value.stringValue = none → decoder.decode f value = none) :
    Framed decode decoder.name decoder.get textual := by
  obtain rfl : decode = fun r json => decoder.fill r json.members := by
    funext r json
    exact filled r json
  exact {
    ordered := fun r _ _ distinct perm => decoder.fill_perm perm distinct r
    own := fun r before after _ _ other => decoder.get_fill_insert other r before after
    unknown := fun r before after _ unknown =>
      decoder.ext fun f => decoder.get_fill_insert (unknown f) r before after
    text := fun r _ f textual none => decoder.get_fill_of_undecoded
      (fun entry inside named => strings f entry.2 textual (none entry inside named)) r }

theorem UserField.decode_textual (f : UserField) (value : Json) (textual : f.Textual)
    (none : value.stringValue = none) : f.decode value = .none := by
  cases f <;> first | exact textual.elim | (simp only [decode, none]; rfl)

theorem MessageField.decode_textual (fresh : User) (f : MessageField) (value : Json) (textual : f.Textual)
    (none : value.stringValue = none) : f.decode fresh value = .none := by
  cases f <;> first | exact textual.elim | (simp only [decode, none]; rfl)

theorem packMessage_author (fresh : User) (message : Message) (json : Json) :
    (Json.packMessage fresh message json).author =
      ((Json.member? "author" json.members).map (Json.loadUser fresh)).or message.author := by
  have filled := (messageDecoder fresh).filling.get_fill .author message json.members
  have written : last? ((messageDecoder fresh).writes .author) json.members =
      (Json.member? "author" json.members).map fun value => some (Json.loadUser fresh value) := by
    rw [Json.member?_eq_last?, ← last?_map]
    congr 1
    funext entry
    by_cases named : entry.1 = "author"
    · rw [if_pos named]
      exact if_pos (congrArg some named.symm)
    · rw [if_neg named]
      exact if_neg fun same => named (Option.some.inj same).symm
  have kept := congrArg (fun stored : Option (Option User) => stored.getD message.author) written
  refine (filled.trans kept).trans ?_
  cases Json.member? "author" json.members <;> rfl

/-- Users and messages are decoded in any order, field by field; the rest of a message is never touched. -/
theorem decoding_framed (fresh : User) :
    Framed Json.loadUser (fun f : UserField => some f.key) UserField.get UserField.Textual ∧
    Framed (Json.packMessage fresh) MessageField.key MessageField.get MessageField.Textual ∧
    ∀ message json,
      (Json.packMessage fresh message json).toMessageRest = message.toMessageRest ∧
      (Json.packMessage fresh message json).author =
        ((Json.member? "author" json.members).map (Json.loadUser fresh)).or message.author := by
  refine ⟨framed_of_decoder userDecoder Json.loadUser_fill UserField.decode_textual,
    framed_of_decoder (messageDecoder fresh) (Json.packMessage_fill fresh) (MessageField.decode_textual fresh),
    fun message json => ⟨?_, ?_⟩⟩
  · exact (messageDecoder fresh).get_fill_of_undecoded (f := .rest) (fun _ _ _ => rfl) message
  · exact packMessage_author fresh message json

end Libdiscord
