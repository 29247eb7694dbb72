import Libdiscord.Json.Value

/-! JSON texts as jansson writes them with flags 0, and an instance of `Externals` built on them. -/

set_option autoImplicit false

namespace Libdiscord

namespace Json

def hexDigit (n : UInt8) : UInt8 := if n < 10 then 48 + n else 55 + n

-- Quotes, backslashes and control characters are escaped.
def escape (byte : UInt8) : Text :=
  if byte = 34 || byte = 92 then [92, byte]
  else if byte = 8 then ascii "\\b"
  else if byte = 12 then ascii "\\f"
  else if byte = 10 then ascii "\\n"
  else if byte = 13 then ascii "\\r"
  else if byte = 9 then ascii "\\t"
  else if byte < 32 then ascii "\\u00" ++ [hexDigit (byte / 16), hexDigit (byte % 16)]
  else [byte]

def quote (text : Text) : Text := [34] ++ text.flatMap escape ++ [34]

def decimalText (n : Int64) : Text :=
  let digits := (Nat.toDigits 10 n.toInt.natAbs).map fun c => c.toNat.toUInt8
  if n < 0 then 45 :: digits else digits

mutual

/-- Members and elements are separated by a comma and a blank, and a key ends with a colon and a
blank. Real numbers are not spelled out. -/
def encode : Json → Text
  | .null => ascii "null"
  | .boolean true => ascii "true"
  | .boolean false => ascii "false"
  | .integer n => decimalText n
  | .real _ => ascii "0.0"
  | .string text => quote text
  | .array elements => [91] ++ encodeElements elements ++ [93]
  | .object members => [123] ++ encodeMembers members ++ [125]

def encodeElements : List Json → Text
  | [] => []
  | element :: rest => encode element ++ match rest with
    | [] => []
    | _ :: _ => ascii ", " ++ encodeElements rest

def encodeMembers : List (String × Json) → Text
  | [] => []
  | (key, value) :: rest => quote (ascii key) ++ ascii ": " ++ encode value ++ match rest with
    | [] => []
    | _ :: _ => ascii ", " ++ encodeMembers rest

end

example : encode (.object [("op", .integer 1), ("d", .integer (-251))]) =
    ascii "\x7b\"op\": 1, \"d\": -251\x7d" := by decide +kernel

end Json

/-- A decoder that knows the texts of these values, next to the encoder. A ring created for
`count` elements keeps one of them free. -/
def Externals.knowing (values : List Json) : Externals where
  loadb := fun text => values.find? fun value => value.encode = text
  dumps := Json.encode
  checkUtf8 := fun text => text.all (· < 128)
  lwsPre := 16
  ringCapacity := fun count => count - 1
  systemos := ascii "Linux"

theorem knowing_first (value : Json) (rest : List Json) :
    (Externals.knowing (value :: rest)).loadb value.encode = some value := by
  simp [Externals.knowing]

end Libdiscord
