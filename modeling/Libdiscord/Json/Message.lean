import Libdiscord.Json.User

/-! Decoding of message objects. -/

set_option autoImplicit false

namespace Libdiscord

/-- `strtol` in base 10 with a 64-bit result: a value out of range gives the nearest one. -/
def strtol (text : Text) : Int64 :=
  let value := fun (digits : Text) => (decimal (digits.takeWhile isDigit) : Int)
  let positive := fun (digits : Text) => Int64.ofInt (min (value digits) Int64.maxValue.toInt)
  match text.dropWhile isSpace with
  | [] => 0
  | sign :: digits =>
    if sign = 45 then Int64.ofInt (max (-value digits) Int64.minValue.toInt)
    else if sign = 43 then positive digits
    else positive (sign :: digits)

-- What a pointer member holds that no decoder assigns.
abbrev Pointer := Nat

structure MessageRest where
  timestamp : Option Text
  editedTimestamp : Option Text
  tts : Int32
  mentionEveryone : Int32
  mentions : Option Pointer
  mentionRoles : Option Pointer
  attachments : Option Pointer
  embeds : Option Pointer
  reactions : Option Pointer
  webhookId : UInt64
  activity : Option Pointer
  application : Option Pointer

structure Message extends MessageRest where
  id : UInt64
  channelId : UInt64
  author : Option User
  content : Option Text
  type : Int32

namespace Json

def messageInit : Message where
  id := 0
  channelId := 0
  author := none
  content := none
  timestamp := none
  editedTimestamp := none
  tts := 0
  mentionEveryone := 0
  mentions := none
  mentionRoles := none
  attachments := none
  embeds := none
  reactions := none
  webhookId := 0
  type := 0
  activity := none
  application := none

/-- One round of the member loop of `ld_json_pack_message`. An author, of whatever kind the member is, is
decoded into a new struct; `fresh` is what the memory holds that `malloc` returns for it. -/
def packMessageMember (fresh : User) (message : Message) (key : String) (value : Json) : Message :=
  let message := if key = "content" then
    match value.stringValue with
    | none => message
    | some tmp => { message with content := some tmp } else message
  let message := if key = "channel_id" then
    match value.stringValue with
    | none => message
    | some tmp => { message with channelId := strtoull tmp } else message
  let message := if key = "id" then
    match value.stringValue with
    | none => message
    | some tmp => { message with id := strtoull tmp } else message
  let message := if key = "type" then
    match value.stringValue with
    | none => message
    | some tmp => { message with type := (strtol tmp).toInt32 } else message
  if key = "author" then { message with author := some (loadUser fresh value) } else message

/-- `ld_json_pack_message`, which always returns a null pointer. -/
def packMessage (fresh : User) (newMessage : Message) (message : Json) : Message :=
  message.members.foldl (fun packed entry => packMessageMember fresh packed entry.1 entry.2) newMessage

end Json

end Libdiscord
