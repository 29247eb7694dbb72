/-! JSON values as jansson hands them to the library, and the accessors the library uses.

An object is the list of its members in iteration order. jansson itself is not modelled: what
it decodes and encodes is a parameter, `Externals`.
-/

set_option autoImplicit false

namespace Libdiscord

abbrev Text := List UInt8

/-- A string constant of the source. They are all ASCII. -/
def ascii (s : String) : Text := s.toList.map fun c => c.toNat.toUInt8

inductive Json where
  | null
  | boolean (value : Bool)
  | integer (value : Int64)
  | real (bits : UInt64)
  | string (value : Text)
  | array (elements : List Json)
  | object (members : List (String × Json))

/-- What the library takes from jansson and libwebsockets without knowing more about it. -/
structure Externals where
  -- `json_loadb` and `json_loads`, with flags 0
  loadb : Text → Option Json
  -- `json_dumps`, with flags 0
  dumps : Json → Text
  -- the byte strings `json_string` accepts
  checkUtf8 : Text → Bool
  -- `LWS_PRE`, the room kept in front of a payload
  lwsPre : Nat
  -- how many elements a ring created for `count` of them holds
  ringCapacity : Nat → Nat
  -- `LD_SYSTEMOS`, fixed when the library is built
  systemos : Text

/-- `json_loads` reads up to the terminator and rejects a null pointer. -/
def Externals.loads (ex : Externals) (body : Option Text) : Option Json :=
  body.bind fun text => ex.loadb (text.takeWhile (· ≠ 0))

namespace Json

/-- `json_object_foreach`: only objects have members to iterate over. -/
def members : Json → List (String × Json)
  | .object members => members
  | _ => []

/-- `json_integer_value`, which is 0 for every other kind of value. -/
def integerValue : Json → Int64
  | .integer value => value
  | _ => 0

def stringValue : Json → Option Text
  | .string value => some value
  | _ => none

def booleanValue : Json → Int32
  | .boolean true => 1
  | _ => 0

def member? (key : String) (members : List (String × Json)) : Option Json :=
  members.foldl (fun found entry => if entry.1 = key then some entry.2 else found) none

/-- `json_object_get`, also on a null pointer. -/
def get? (object : Option Json) (key : String) : Option Json :=
  object.bind fun object => member? key object.members

/-- `json_object_set`: a null value is refused, a present key keeps its place. -/
def set (members : List (String × Json)) (key : String) : Option Json → List (String × Json)
  | none => members
  | some value =>
    if members.any (·.1 = key) then
      members.map fun entry => if entry.1 = key then (key, value) else entry
    else members ++ [(key, value)]

/-- `json_string`, which is null for a null pointer and for text that is not UTF-8. -/
def ofText (ex : Externals) (text : Option Text) : Option Json :=
  text.bind fun text => if ex.checkUtf8 text then some (.string text) else none

theorem member?_from (key : String) (start : Option Json) (members : List (String × Json)) :
    members.foldl (fun found entry => if entry.1 = key then some entry.2 else found) start =
      (member? key members).or start := by
  induction members generalizing start with
  | nil => rfl
  | cons entry rest ih =>
    simp only [member?, List.foldl_cons]
    rw [ih, ih (if entry.1 = key then some entry.2 else none)]
    cases member? key rest with
    | some value => rfl
    | none => by_cases same : entry.1 = key <;> simp [same]

@[simp] theorem member?_nil (key : String) : member? key [] = none := rfl

theorem member?_cons (key : String) (entry : String × Json) (rest : List (String × Json)) :
    member? key (entry :: rest) = (member? key rest).or (if entry.1 = key then some entry.2 else none) := by
  simp only [member?, List.foldl_cons]
  exact member?_from key _ rest

theorem member?_append (key : String) (members more : List (String × Json)) :
    member? key (members ++ more) = (member? key more).or (member? key members) := by
  rw [member?, List.foldl_append, member?_from]
  rfl

theorem member?_absent {key : String} {members : List (String × Json)}
    (absent : ¬members.any (·.1 = key)) : member? key members = none := by
  induction members with
  | nil => rfl
  | cons entry rest ih =>
    simp only [List.any_cons, Bool.or_eq_true, decide_eq_true_eq, not_or] at absent
    rw [member?_cons, ih absent.2, if_neg absent.1, Option.or_none]

theorem member?_replace (key k : String) (value : Json) (members : List (String × Json)) :
    member? key (members.map fun entry => if entry.1 = k then (k, value) else entry) =
      if k = key ∧ members.any (·.1 = k) then some value else member? key members := by
  induction members with
  | nil => simp
  | cons entry rest ih =>
    rw [List.map_cons, member?_cons, member?_cons, ih, List.any_cons]
    by_cases same : k = key
    · subst same
      by_cases later : rest.any (·.1 = k) = true
      · simp [later]
      · rw [member?_absent later]
        by_cases here : entry.1 = k <;> simp [here, later]
    · by_cases here : entry.1 = k <;> simp [here, same]

theorem member?_set (key k : String) (members : List (String × Json)) (value : Option Json) :
    member? key (set members k value) =
      if k = key then value.or (member? key members) else member? key members := by
  cases value with
  | none => simp [set]
  | some value =>
    by_cases present : members.any (·.1 = k) = true
    · simp only [set, present, if_true, member?_replace, and_true, Option.some_or]
    · simp only [set, if_neg present, member?_append, member?_cons, member?_nil, Option.none_or]
      by_cases same : k = key <;> simp [same]

end Json

abbrev Status := Int32

namespace Status
def ok : Status := 0
def error : Status := 1
def connectionErr : Status := 100
def curlErr : Status := 101
def websocketRingbufferErr : Status := 200
def websocketCantfitPayloadErr : Status := 210
def websocketCantfitHeartbeatErr : Status := 211
def websocketHeartbeatAcknowledegementMissed : Status := 220
def websocketInitErr : Status := 230
def jsonErr : Status := 300
def jsonDecodingErr : Status := 301
def jsonCantfindkeyErr : Status := 310
def jsonCantfindvalueErr : Status := 311
def jsonGatewayDispatchTypeErr : Status := 320
def tokenMissingErr : Status := 900
end Status

end Libdiscord
