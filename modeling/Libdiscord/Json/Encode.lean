import Libdiscord.Json.Value

/-! The encoders of json.c: gateway payloads and the data of IDENTIFY. -/

set_option autoImplicit false

namespace Libdiscord

structure StatusUpdate where
  -- the snowflakes in front of the terminating zero
  roles : Option (List UInt64)
  guildId : UInt64
  status : UInt32
  deriving DecidableEq

structure ConnectionProperties where
  os : Option Text
  browser : Option Text
  device : Option Text
  deriving DecidableEq

structure Identify where
  token : Option Text
  properties : Option ConnectionProperties
  compress : Int32
  largeThreshold : Int32
  shard : Int32 × Int32
  statusUpdate : Option StatusUpdate
  deriving DecidableEq

structure Resume where
  token : Option Text
  sessionId : Option Text
  seq : Int32

namespace Json

/-- `ld_snowflake2str`: decimal, cut off by a limit of 127 bytes with the terminator. -/
def snowflake2str (flake : UInt64) : Text :=
  ((Nat.toDigits 10 flake.toNat).map fun c => c.toNat.toUInt8).take 126

/-- `ld_json_create_payload`. Only `d`, `t` and `s` may be null pointers; the setters fail on
nothing else. -/
def createPayload (op : Json) (d t s : Option Json) : Json :=
  let payload := set [] "op" (some op)
  let payload := set payload "d" d
  let payload := set payload "t" t
  .object (set payload "s" s)

def status2str (status : UInt32) : Option Text :=
  if status = 0 then some (ascii "idle")
  else if status = 1 then some (ascii "dnd")
  else if status = 2 then some (ascii "online")
  else if status = 3 then some (ascii "offline")
  else if status = 4 then some (ascii "invisible")
  else none

def bytesOf (word : UInt64) : Text :=
  (List.range 8).map fun i => (word >>> (8 * i).toUInt64).toUInt8

/-- `strlen((char *) roles)` on the array as it lies in memory, low byte first. -/
def rolesStrlen (roles : List UInt64) : Nat := ((roles.flatMap bytesOf).takeWhile (· ≠ 0)).length

/-- `ld_json_unpack_status_update`. The loop runs to the string length of the array's bytes;
`beyond` is the memory behind the terminator. The game is never encoded. -/
def unpackStatusUpdate (ex : Externals) (beyond : Nat → UInt64) (update : StatusUpdate) : Json :=
  let su := set [] "user" (ofText ex (some (snowflake2str update.guildId)))
  let su := match update.roles with
    | none => su
    | some roles =>
      let element := fun i => ((roles ++ [0])[i]?).getD (beyond i)
      set su "roles" (some (.array ((List.range (rolesStrlen roles)).filterMap fun i =>
        ofText ex (some (snowflake2str (element i))))))
  .object (set su "status" (ofText ex (status2str update.status)))

/-- `LD_LIBNAME`, the name of the CMake project -/
def libname : Text := ascii "libdiscord"

def unpackIdentifyConnectionProperties (ex : Externals) (properties : ConnectionProperties) : Json :=
  let p := set [] "$os" (ofText ex (some (properties.os.getD (ascii "unknown"))))
  let p := set p "$device" (ofText ex (some (properties.device.getD libname)))
  .object (set p "$browser" (ofText ex (some (properties.browser.getD libname))))

/-- `ld_json_unpack_identify`, `none` where it returns null. -/
def unpackIdentify (ex : Externals) (beyond : Nat → UInt64) (identify : Identify) : Option Json :=
  match identify.token, identify.properties with
  | none, _ => none
  | some _, none => none
  | some token, some properties =>
    let ident := set [] "token" (ofText ex (some token))
    let ident := set ident "properties" (some (unpackIdentifyConnectionProperties ex properties))
    let ident := set ident "compress" (some (.boolean (identify.compress ≠ 0)))
    let ident := set ident "large_threshold" (some (.integer identify.largeThreshold.toInt64))
    let ident := set ident "shard"
      (some (.array [.integer identify.shard.1.toInt64, .integer identify.shard.2.toInt64]))
    let ident := match identify.statusUpdate with
      | none => ident
      | some update => set ident "presence" (some (unpackStatusUpdate ex beyond update))
    some (.object ident)

/-- `ld_json_unpack_resume` returns success and assigns nothing. -/
def unpackResume (_ : Resume) : Option Json × Status := (none, .ok)

end Json

end Libdiscord
