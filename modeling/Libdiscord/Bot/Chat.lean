import Mathlib.Data.List.ProdSigma
import Mathlib.Data.List.Nodup
import Mathlib.Data.List.Perm.Subperm
import Libdiscord.Base.Transition
import Libdiscord.Bot.Callback

/-! Several bots in one conversation.

Every message that is sent is delivered to every bot, in any order and at any time, but not twice to
the same bot. What a bot posts becomes a message itself, which is delivered to all bots in turn.
-/

set_option autoImplicit false

namespace Libdiscord.Bot

open Libdiscord.Base
open Json (member?)

inductive Program where
  | ayylmao (trigger response : Text)
  | counter
  | hash (digests : Digests) (trigger : Text)

def Program.callback : Program → Option User → World → CallbackReason → Json → Option Reply
  | .ayylmao trigger response => Bot.ayylmao trigger response
  | .counter => Bot.counter
  | .hash digests trigger => Bot.hash digests trigger

structure Member where
  program : Program
  currentUser : Option User

inductive Origin where
  | user
  -- posted by this bot in answer to this message
  | bot (index answered : Nat)
  deriving DecidableEq

structure Chat where
  messages : List (Origin × Json)
  delivered : List (Nat × Nat)

inductive Turn where
  | speaks (data : Json)
  -- `published` is the message that is made of what the bot posts, if it gets through
  | delivers (index message : Nat) (w : World) (published : Option Json)

def chatStep (members : List Member) (chat : Chat) : Turn → Option Chat
  | .speaks data => some { chat with messages := chat.messages ++ [(.user, data)] }
  | .delivers index message w published => do
    let member ← members[index]?
    let (_, data) ← chat.messages[message]?
    if (index, message) ∈ chat.delivered then none
    else
      let reply ← member.program.callback member.currentUser w .messageCreate data
      let delivered := chat.delivered ++ [(index, message)]
      some ⟨chat.messages ++ match reply.post, published with
        | some _, some published => [(.bot index message, published)]
        | _, _ => [], delivered⟩

def Marked (data : Json) : Prop :=
  (member? "author" data.members).bind (member? "bot" ·.members) = some (.boolean true)

/-- What is made of a bot's post is marked. -/
def Turn.Marking : Turn → Prop
  | .speaks _ => True
  | .delivers _ _ _ published => ∀ data ∈ published, Marked data

def Chat.empty : Chat := ⟨[], []⟩

def Chat.users (chat : Chat) : Nat := (chat.messages.filter (·.1 = .user)).length

def Origin.answer? : Origin → Option (Nat × Nat)
  | .user => none
  | .bot index answered => some (index, answered)

def Chat.answers (chat : Chat) : List (Nat × Nat) := chat.messages.filterMap (·.1.answer?)

section Reply
variable {currentUser : Option User} {w : World} {data : Json} {reply : Reply}

theorem loadUser_bot (user : User) {author : Json} {flag : Bool}
    (found : member? "bot" author.members = some (.boolean flag)) :
    (Json.loadUser user author).bot = (Json.boolean flag).booleanValue := by
  rw [Json.loadUser_fill]
  rw [Json.member?_eq_last?] at found
  exact userDecoder.get_fill_last (f := .bot) rfl found rfl user

theorem marked_author (fresh : User) (marked : Marked data) :
    ∃ author, (Json.packMessage fresh Json.messageInit data).author = some author ∧ author.bot = 1 := by
  obtain ⟨author, present, flag⟩ := Option.bind_eq_some_iff.mp marked
  refine ⟨Json.loadUser fresh author, ?_, loadUser_bot fresh flag⟩
  rw [packMessage_author, present]
  rfl

theorem ayylmao_marked {trigger response : Text} (marked : Marked data)
    (ran : ayylmao trigger response currentUser w .messageCreate data = some reply) : reply.post = none := by
  obtain ⟨author, decoded, bot⟩ := marked_author w.fresh marked
  rw [ayylmao, if_neg (by decide)] at ran
  simp only [decoded, Option.bind_eq_bind, Option.bind_some] at ran
  obtain ⟨user, _, rest⟩ := Option.bind_eq_some_iff.mp ran
  split at rest <;> cases rest <;> rfl

theorem counter_marked (marked : Marked data) (ran : counter currentUser w .messageCreate data = some reply) :
    reply.post = none := by
  obtain ⟨author, decoded, bot⟩ := marked_author w.fresh marked
  rw [counter, if_neg (by decide)] at ran
  simp only [decoded, Option.bind_eq_bind, Option.bind_some] at ran
  split at ran
  · cases ran
    rfl
  split at ran
  · cases ran
    rfl
  obtain ⟨user, _, rest⟩ := Option.bind_eq_some_iff.mp ran
  split at rest <;> cases rest <;> rfl

theorem hash_marked {digests : Digests} {trigger : Text} (marked : Marked data)
    (ran : hash digests trigger currentUser w .messageCreate data = some reply) : reply.post = none := by
  obtain ⟨author, decoded, bot⟩ := marked_author w.fresh marked
  rw [hash, if_neg (by decide)] at ran
  simp only [decoded, Option.bind_eq_bind, Option.bind_some] at ran
  split at ran
  · cases ran
    rfl
  split at ran
  · cases ran
    rfl
  obtain ⟨user, _, rest⟩ := Option.bind_eq_some_iff.mp ran
  split at rest <;> cases rest <;> rfl

/-- No bot answers a bot. -/
theorem callback_marked {program : Program} (marked : Marked data)
    (ran : program.callback currentUser w .messageCreate data = some reply) : reply.post = none := by
  cases program with
  | ayylmao trigger response => exact ayylmao_marked marked ran
  | counter => exact counter_marked marked ran
  | hash digests trigger => exact hash_marked marked ran

end Reply

section Chat
variable {members : List Member} {chat next : Chat} {turn : Turn}

inductive Turned (members : List Member) (chat : Chat) : Turn → Chat → Prop where
  | said (data : Json) :
      Turned members chat (.speaks data) { chat with messages := chat.messages ++ [(.user, data)] }
  | silent (index message : Nat) (w : World) (published : Option Json) :
      Turned members chat (.delivers index message w published)
        ⟨chat.messages, chat.delivered ++ [(index, message)]⟩
  | answered (index message : Nat) (w : World) (origin : Origin) (data published : Json) :
      index < members.length → chat.messages[message]? = some (origin, data) → ¬Marked data →
      (index, message) ∉ chat.delivered →
      Turned members chat (.delivers index message w (some published))
        ⟨chat.messages ++ [(.bot index message, published)], chat.delivered ++ [(index, message)]⟩

theorem chatStep_turned (stepped : chatStep members chat turn = some next) : Turned members chat turn next := by
  cases turn with
  | speaks data =>
    cases stepped
    exact .said data
  | delivers index message w published =>
    obtain ⟨member, here, stepped⟩ := Option.bind_eq_some_iff.mp stepped
    obtain ⟨⟨origin, data⟩, there, stepped⟩ := Option.bind_eq_some_iff.mp stepped
    dsimp only at stepped
    split at stepped
    · cases stepped
    next undelivered =>
    obtain ⟨reply, replied, stepped⟩ := Option.bind_eq_some_iff.mp stepped
    cases stepped
    cases posted : reply.post with
    | none => simpa using Turned.silent index message w published
    | some post =>
      cases published with
      | none => simpa using Turned.silent index message w none
      | some published =>
        have unmarked : ¬Marked data := fun marked => by
          rw [callback_marked marked replied] at posted
          cases posted
        exact .answered index message w origin data published (List.getElem?_eq_some_iff.mp here).1 there unmarked
          undelivered

/-- The messages of bots are marked, and each of them is the one answer of a bot to an unmarked message of a user that
was delivered to it. -/
structure Calm (members : List Member) (chat : Chat) : Prop where
  marked : ∀ entry ∈ chat.messages, entry.1 ≠ .user → Marked entry.2
  answering : ∀ pair ∈ chat.answers, pair.1 < members.length ∧
    ∃ data, chat.messages[pair.2]? = some (.user, data) ∧ ¬Marked data
  once : chat.answers.Nodup
  delivered : ∀ pair ∈ chat.answers, pair ∈ chat.delivered

theorem answers_append (messages : List (Origin × Json)) (delivered : List (Nat × Nat)) (origin : Origin)
    (data : Json) :
    Chat.answers ⟨messages ++ [(origin, data)], delivered⟩ =
      Chat.answers ⟨messages, delivered⟩ ++ origin.answer?.toList := by
  unfold Chat.answers
  rw [List.filterMap_append]
  cases origin <;> rfl

theorem Calm.answering_append (calm : Calm members chat) (entry : Origin × Json) :
    ∀ pair ∈ chat.answers, pair.1 < members.length ∧
      ∃ data, (chat.messages ++ [entry])[pair.2]? = some (.user, data) ∧ ¬Marked data := by
  intro pair member
  obtain ⟨bound, data, found, unmarked⟩ := calm.answering pair member
  obtain ⟨inside, _⟩ := List.getElem?_eq_some_iff.mp found
  exact ⟨bound, data, (List.getElem?_append_left inside).trans found, unmarked⟩

theorem calm_step (calm : Calm members chat) (marking : turn.Marking)
    (stepped : chatStep members chat turn = some next) : Calm members next := by
  cases chatStep_turned stepped with
  | said data =>
    have same := answers_append chat.messages chat.delivered .user data
    rw [Origin.answer?, Option.toList_none, List.append_nil] at same
    refine ⟨?_, ?_, ?_, ?_⟩
    · intro entry member other
      rcases List.mem_append.mp member with old | new
      · exact calm.marked entry old other
      · rw [List.mem_singleton.mp new] at other
        exact absurd rfl other
    · rw [same]
      exact calm.answering_append _
    · rw [same]
      exact calm.once
    · rw [same]
      exact calm.delivered
  | silent index message w published =>
    exact ⟨calm.marked, calm.answering, calm.once, fun pair member =>
      List.mem_append_left _ (calm.delivered pair member)⟩
  | answered index message w origin data published bound found unmarked undelivered =>
    have asked : origin = .user := by
      by_contra other
      exact unmarked (calm.marked _ (List.mem_of_getElem? found) other)
    have more := answers_append chat.messages (chat.delivered ++ [(index, message)]) (.bot index message) published
    rw [Origin.answer?, Option.toList_some] at more
    have old : Chat.answers ⟨chat.messages, chat.delivered ++ [(index, message)]⟩ = chat.answers := rfl
    rw [old] at more
    have fresh : (index, message) ∉ chat.answers := fun member => undelivered (calm.delivered _ member)
    obtain ⟨inside, _⟩ := List.getElem?_eq_some_iff.mp found
    refine ⟨?_, ?_, ?_, ?_⟩
    · intro entry member other
      rcases List.mem_append.mp member with old | new
      · exact calm.marked entry old other
      · rw [List.mem_singleton.mp new]
        exact marking published rfl
    · rw [more]
      intro pair member
      rcases List.mem_append.mp member with old | new
      · exact calm.answering_append _ pair old
      · rw [List.mem_singleton.mp new]
        exact ⟨bound, data, (List.getElem?_append_left inside).trans (asked ▸ found), unmarked⟩
    · rw [more]
      refine List.nodup_append.mpr ⟨calm.once, by simp, fun pair old other new same => ?_⟩
      rw [same, List.mem_singleton.mp new] at old
      exact fresh old
    · rw [more]
      intro pair member
      rcases List.mem_append.mp member with old | new
      · exact List.mem_append_left _ (calm.delivered pair old)
      · exact List.mem_append_right _ new

def Chat.asked (chat : Chat) : List Nat := (chat.messages.zipIdx.filter (·.1.1 = .user)).map (·.2)

theorem asked_length (chat : Chat) : chat.asked.length = chat.users := by
  have whole : chat.messages.zipIdx.map (·.1) = chat.messages := List.zipIdx_map_fst _ _
  have same : chat.messages.filter (·.1 = .user) =
      (chat.messages.zipIdx.filter (·.1.1 = .user)).map (·.1) := by
    conv_lhs => rw [← whole, List.filter_map]
    rfl
  rw [Chat.asked, Chat.users, same, List.length_map, List.length_map]

theorem Calm.answers_le (calm : Calm members chat) :
    chat.answers.length ≤ members.length * chat.users := by
  have inside : chat.answers ⊆ List.range members.length ×ˢ chat.asked := by
    intro pair member
    obtain ⟨bound, data, found, _⟩ := calm.answering pair member
    refine List.mem_product.mpr ⟨List.mem_range.mpr bound, List.mem_map.mpr ⟨((.user, data), pair.2), ?_, rfl⟩⟩
    exact List.mem_filter.mpr ⟨List.mem_zipIdx_iff_getElem?.mpr found, decide_eq_true rfl⟩
  have short := (calm.once.subperm inside).length_le
  rwa [List.length_product, List.length_range, asked_length] at short

/-- Whatever bots take part, in whatever order messages are delivered and whatever the memory holds: each bot
answers each message of a user at most once, and no message of a bot or one that is marked as a bot's at all, so that
a finite number of messages of users leads to a finite number of answers. -/
theorem chat_calm (members : List Member) (turns : List Turn) (marking : ∀ turn ∈ turns, turn.Marking) :
    Always (chatStep members) (fun chat => Calm members chat ∧
      chat.answers.length ≤ members.length * chat.users) .empty turns := by
  have start : Calm members .empty := ⟨by simp [Chat.empty], by simp [Chat.answers, Chat.empty],
    by simp [Chat.answers, Chat.empty], by simp [Chat.answers, Chat.empty]⟩
  have each : Each (chatStep members) (fun _ turn _ => turn.Marking) .empty turns := each_of_all marking
  have always := always_of_each (Calm members)
    (fun _ turn _ calm (marking : turn.Marking) stepped => calm_step calm marking stepped) start each
  exact always.mono fun chat calm => ⟨calm, calm.answers_le⟩

-- A bot with the id 9 writes.
def botMessage (content : Text) : Json :=
  .object [("channel_id", .string (ascii "7")), ("content", .string content),
    ("author", .object [("id", .string (ascii "9")), ("bot", .boolean true)])]

-- Two bots that would answer each other for ever if they answered bots.
def echoes : List Member :=
  [⟨.ayylmao (ascii "ayy") (ascii "ayy lmao"), some botUser⟩, ⟨.ayylmao (ascii "ayy") (ascii "ayy"), some botUser⟩]

def echoing : List Turn :=
  [.speaks (userMessage (ascii "Ayyy")), .delivers 0 0 .calm (some (botMessage (ascii "ayy lmao"))),
    .delivers 1 1 .calm (some (botMessage (ascii "ayy"))), .delivers 1 0 .calm (some (botMessage (ascii "ayy"))),
    .delivers 0 2 .calm (some (botMessage (ascii "ayy lmao")))]

theorem chat_calm_echoes :
    Always (chatStep echoes) (fun chat => Calm echoes chat ∧
      chat.answers.length ≤ echoes.length * chat.users) .empty echoing ∧
    (run (chatStep echoes) .empty echoing).map Chat.answers = some [(0, 0), (1, 0)] := by
  refine ⟨chat_calm echoes echoing ?_, by decide +kernel⟩
  have marked : ∀ content, Marked (botMessage content) := fun _ => rfl
  intro turn member
  simp only [echoing, List.mem_cons, List.not_mem_nil, or_false] at member
  rcases member with rfl | rfl | rfl | rfl | rfl <;> simp [Turn.Marking, marked]

end Chat

end Libdiscord.Bot
