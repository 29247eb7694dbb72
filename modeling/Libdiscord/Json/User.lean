import Libdiscord.Json.Value

/-! Decoding of user objects. -/

set_option autoImplicit false

namespace Libdiscord

def isSpace (byte : UInt8) : Bool := byte = 32 || (9 ≤ byte && byte ≤ 13)

def isDigit (byte : UInt8) : Bool := 48 ≤ byte && byte ≤ 57

def decimal (digits : Text) : Nat :=
  digits.foldl (fun value digit => 10 * value + (digit.toNat - 48)) 0

/-- `strtoull` in base 10 with a 64-bit result: a value out of range gives the largest one, and
a minus sign negates a value in range. -/
def strtoull (text : Text) : UInt64 :=
  let saturated := fun (digits : Text) (negate : UInt64 → UInt64) =>
    let value := decimal (digits.takeWhile isDigit)
    if UInt64.size ≤ value then UInt64.ofNat (UInt64.size - 1) else negate (UInt64.ofNat value)
  match text.dropWhile isSpace with
  | [] => 0
  | sign :: digits =>
    if sign = 45 then saturated digits (fun value => -value)
    else if sign = 43 then saturated digits id
    else saturated (sign :: digits) id

structure User where
  id : UInt64
  username : Option Text
  discriminator : Option Text
  avatar : Option Text
  bot : Int32
  mfaEnabled : Int32
  locale : Option Text
  verified : Int32
  email : Option Text
  deriving DecidableEq

namespace Json

/-- One round of the member loop of `ld_json_load_user`. A member that should be a string and
is none leaves its field alone, except for the locale, which is cleared. -/
def loadUserMember (user : User) (key : String) (value : Json) : User :=
  let user := if key = "id" then
    match value.stringValue with
    | none => user
    | some tmp => { user with id := strtoull tmp } else user
  let user := if key = "username" then
    match value.stringValue with
    | none => user
    | some tmp => { user with username := some tmp } else user
  let user := if key = "discriminator" then
    match value.stringValue with
    | none => user
    | some tmp => { user with discriminator := some tmp } else user
  let user := if key = "avatar" then
    match value.stringValue with
    | none => user
    | some tmp => { user with avatar := some tmp } else user
  let user := if key = "bot" then { user with bot := value.booleanValue } else user
  let user := if key = "mfa_enabled" then { user with mfaEnabled := value.booleanValue } else user
  let user := if key = "locale" then { user with locale := value.stringValue } else user
  let user := if key = "verified" then { user with verified := value.booleanValue } else user
  if key = "email" then
    match value.stringValue with
    | none => user
    | some tmp => { user with email := some tmp } else user

/-- `ld_json_load_user`, which always returns 0. -/
def loadUser (newUser : User) (user : Json) : User :=
  user.members.foldl (fun loaded entry => loadUserMember loaded entry.1 entry.2) newUser

end Json

end Libdiscord
