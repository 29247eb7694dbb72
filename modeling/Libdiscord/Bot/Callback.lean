import Libdiscord.Base.CString
import Libdiscord.Context
import Libdiscord.Json.Filling
import Libdiscord.Json.Text

/-! The user callbacks of the example bots. -/

set_option autoImplicit false

namespace Libdiscord.Bot

open Libdiscord.Base
open Json (member?)

structure Post where
  channelId : UInt64
  content : Text
  deriving DecidableEq

/-- A use of memory that is not the program's. -/
inductive Mishap where
  -- a string is read that begins behind the end of its block
  | readBehind
  -- so many bytes are written into an array of this size
  | writeBehind (count size : Nat)
  deriving DecidableEq

/-- What a callback does. `exits` sets `bot_exit`. -/
structure Reply where
  exits : Bool
  post : Option Post
  mishaps : List Mishap

def Reply.quiet : Reply := ⟨false, none, []⟩

/-- What a callback finds outside: the memory that `malloc` returns for the author and for a hash, the string
behind the end of a message, and whether the dice fall in favour of an answer. -/
structure World where
  fresh : User
  stale : Nat → UInt8
  beyond : Text
  lucky : Bool

def lower (byte : UInt8) : UInt8 := if 65 ≤ byte && byte ≤ 90 then byte + 32 else byte

/-- `strncmp` finds no difference: the strings are compared up to a terminator or the limit. -/
def sameFor (count : Nat) (a b : Text) : Bool := (a ++ [0]).take count = (b ++ [0]).take count

def sameCaselessFor (count : Nat) (a b : Text) : Bool := sameFor count (a.map lower) (b.map lower)

/-- `callback` of example-ayylmao.c. `none` is a null pointer that is used. -/
def ayylmao (trigger response : Text) (currentUser : Option User) (w : World) (reason : CallbackReason)
    (data : Json) : Option Reply :=
  if reason ≠ .messageCreate then some .quiet
  else
    let message := Json.packMessage w.fresh Json.messageInit data
    do
      let author ← message.author
      let user ← currentUser
      if author.id = user.id then some .quiet
      else if author.bot = 1 then some .quiet
      else if message.channelId = 0 then some .quiet
      else
        let content ← message.content
        if ¬sameCaselessFor trigger.length content trigger then some .quiet
        else some ⟨false, some ⟨message.channelId, response⟩, []⟩

/-- `strtoll` in base 10, `none` where `endptr` stays at the start. -/
def strtoll (text : Text) : Option Int64 :=
  let digits := match text.dropWhile isSpace with
    | [] => []
    | sign :: rest => if sign = 45 || sign = 43 then rest else sign :: rest
  if (digits.head?.map isDigit).getD false then some (strtol text) else none

/-- `callback` of example-counter.c, where the greatest number is followed by the least one. `none` is a null
pointer that is used. -/
def counter (currentUser : Option User) (w : World) (reason : CallbackReason) (data : Json) : Option Reply :=
  if reason ≠ .messageCreate then some .quiet
  else
    let message := Json.packMessage w.fresh Json.messageInit data
    match message.content with
    | none => some .quiet
    | some content =>
      let exits := decide (content = ascii "hcf")
      match strtoll content with
      | none => some ⟨exits, none, []⟩
      | some count => do
        let author ← message.author
        let user ← currentUser
        if author.id = user.id then some ⟨exits, none, []⟩
        else if author.bot = 1 then some ⟨exits, none, []⟩
        else if ¬w.lucky then some ⟨exits, none, []⟩
        else some ⟨exits, some ⟨message.channelId, Json.decimalText (count + 1)⟩, []⟩

def hexByte (byte : UInt8) : Text :=
  let digit := fun (n : UInt8) => if n < 10 then 48 + n else 87 + n
  [digit (byte / 16), digit (byte % 16)]

/-- `binary2hex` up to its result: the block is not cleared before the first `strcat`. -/
def binary2hexBlock (stale : Nat → UInt8) (bytes : Text) : Option (Block UInt8) :=
  let hex : Block UInt8 := ⟨bytes.length * 2 + 1, fun i => some (stale i)⟩
  bytes.foldl (fun hex byte => hex.bind fun hex => hex.strcat (hexByte byte)) (some hex)

abbrev Digests := Text → Option (Text → Text)

def toHash2 (digests : Digests) (input hashfun : Text) : Option Text :=
  (digests hashfun).map fun digest => digest input

inductive Hashing where
  | ignored
  | invalid (hashFunction : Text)
  | hashed (hash : Text) (overread : Bool)

/-- `to_hash`. The text to hash begins one byte behind as many bytes as the name has, wherever the name
itself was found. -/
def toHash (digests : Digests) (trigger content beyond : Text) : Hashing :=
  if content.length < trigger.length + 4 then .ignored
  else if ¬sameFor trigger.length content trigger then .ignored
  else match content.drop trigger.length with
    | [] => .ignored
    | blank :: head =>
      if blank ≠ 32 then .ignored
      else
        -- `sscanf(head, "%s", hash_function)`
        let hashFunction := (head.dropWhile isSpace).takeWhile (!isSpace ·)
        if hashFunction = [] then .ignored
        else
          let start := hashFunction.length + 1
          let overread := decide (head.length < start)
          let input := if overread then beyond else head.drop start
          match toHash2 digests input hashFunction with
          | none => .invalid hashFunction
          | some hash => .hashed hash overread

def invalidText (hashFunction : Text) : Text := ascii "invalid hash function (" ++ hashFunction ++ ascii ")"

-- `char tmp[100]`
def tmpSize : Nat := 100

/-- `callback` of example-hash.c with the halt trigger "hcf". `none` is a null pointer that is used, or a string
that does not end in its block. -/
def hash (digests : Digests) (trigger : Text) (currentUser : Option User) (w : World)
    (reason : CallbackReason) (data : Json) : Option Reply :=
  if reason ≠ .messageCreate then some .quiet
  else
    let message := Json.packMessage w.fresh Json.messageInit data
    match message.content with
    | none => some .quiet
    | some content =>
      if content = ascii "hcf" then some ⟨true, none, []⟩
      else do
        let author ← message.author
        let user ← currentUser
        if author.id = user.id then some .quiet
        else if author.bot = 1 then some .quiet
        else match toHash digests trigger content w.beyond with
          | .ignored => some .quiet
          | .invalid hashFunction =>
            let text := invalidText hashFunction
            some ⟨false, some ⟨message.channelId, text⟩,
              if tmpSize < text.length + 1 then [.writeBehind (text.length + 1) tmpSize] else []⟩
          | .hashed md overread =>
            match (binary2hexBlock w.stale md).bind Block.string with
            | none => none
            | some hex =>
              some ⟨false, some ⟨message.channelId, hex⟩, if overread then [.readBehind] else []⟩

-- All foreign memory is zero, and the dice fall in favour of an answer.
def World.calm : World := ⟨⟨0, none, none, none, 0, 0, none, 0, none⟩, fun _ => 0, [], true⟩

def botUser : User := ⟨1, none, none, none, 1, 0, none, 0, none⟩

-- A user with the id 5 writes.
def userMessage (content : Text) : Json :=
  .object [("channel_id", .string (ascii "7")), ("content", .string content),
    ("author", .object [("id", .string (ascii "5"))])]

end Libdiscord.Bot
