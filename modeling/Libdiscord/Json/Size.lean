import Libdiscord.Json.Snowflake
import Libdiscord.Json.Text
import Mathlib.Algebra.GroupWithZero.Nat
import Mathlib.Algebra.Order.BigOperators.Group.List
import Mathlib.Algebra.Order.Group.Nat

/-! How many bytes the texts of JSON values have, and those of the payloads the library sends. -/

set_option autoImplicit false

namespace Libdiscord

open Json (ofText)

-- The bytes a byte of a string takes in its text.
def escapedSize (byte : UInt8) : Nat :=
  if byte ∈ [34, 92, 8, 12, 10, 13, 9] then 2 else if byte < 32 then 6 else 1

def quotedSize (text : Text) : Nat := (text.map escapedSize).sum + 2

def integerSize (n : Int64) : Nat := (Nat.toDigits 10 n.toInt.natAbs).length + if n < 0 then 1 else 0

def listedSize (sizes : List Nat) : Nat := sizes.sum + 2 * (sizes.length - 1) + 2

def memberSize (key : String) (size : Nat) : Nat := quotedSize (ascii key) + 2 + size

def objectSize (entries : List (String × Option Nat)) : Nat :=
  listedSize (entries.filterMap fun entry => entry.2.map (memberSize entry.1))

def Json.built (entries : List (String × Option Json)) : List (String × Json) :=
  entries.foldl (fun members entry => Json.set members entry.1 entry.2) []

inductive Json.Integral : Json → Prop where
  | null : Integral .null
  | boolean (value : Bool) : Integral (.boolean value)
  | integer (value : Int64) : Integral (.integer value)
  | string (value : Text) : Integral (.string value)
  | array {elements : List Json} : (∀ element ∈ elements, Integral element) → Integral (.array elements)
  | object {members : List (String × Json)} : (∀ entry ∈ members, Integral entry.2) →
      Integral (.object members)

section Text
variable {entries : List (String × Option Json)}

theorem escape_length (byte : UInt8) : (Json.escape byte).length = escapedSize byte := by
  unfold Json.escape escapedSize
  by_cases short : byte ∈ [34, 92, 8, 12, 10, 13, 9]
  · rw [if_pos short]
    simp only [List.mem_cons, List.not_mem_nil, or_false] at short
    rcases short with rfl | rfl | rfl | rfl | rfl | rfl | rfl <;> rfl
  · rw [if_neg short]
    simp only [List.mem_cons, List.not_mem_nil, or_false, not_or] at short
    obtain ⟨quote, backslash, backspace, formFeed, newline, carriage, tab⟩ := short
    simp only [quote, backslash, backspace, formFeed, newline, carriage, tab, decide_false, Bool.or_self,
      Bool.false_eq_true, if_false]
    split <;> rfl

theorem quote_length (text : Text) : (Json.quote text).length = quotedSize text := by
  simp [Json.quote, quotedSize, List.length_flatMap, escape_length]

theorem length_le_quotedSize (text : Text) : text.length ≤ quotedSize text := by
  have bytes : ∀ byte, 1 ≤ escapedSize byte := by
    intro byte
    unfold escapedSize
    split
    · decide
    · split <;> decide
  induction text with
  | nil => simp [quotedSize]
  | cons byte text ih =>
    have here := bytes byte
    simp only [quotedSize, List.map_cons, List.sum_cons, List.length_cons] at ih ⊢
    omega

theorem decimalText_length (n : Int64) : (Json.decimalText n).length = integerSize n := by
  unfold Json.decimalText integerSize
  split <;> simp

theorem encode_array_length (elements : List Json) :
    (Json.array elements).encode.length = listedSize (elements.map (·.encode.length)) := by
  have inside : (Json.encodeElements elements).length + 2 = listedSize (elements.map (·.encode.length)) := by
    induction elements with
    | nil => rfl
    | cons element rest ih =>
      cases rest with
      | nil => simp [Json.encodeElements, listedSize]
      | cons next rest =>
        have separator : (ascii ", ").length = 2 := rfl
        simp only [Json.encodeElements, List.length_append, separator, listedSize, List.map_cons, List.sum_cons,
          List.length_cons, List.length_map] at ih ⊢
        omega
  simp only [Json.encode, List.length_append, List.length_cons, List.length_nil]
  omega

theorem encode_object_length (members : List (String × Json)) :
    (Json.object members).encode.length =
      listedSize (members.map fun entry => memberSize entry.1 entry.2.encode.length) := by
  have inside : (Json.encodeMembers members).length + 2 =
      listedSize (members.map fun entry => memberSize entry.1 entry.2.encode.length) := by
    induction members with
    | nil => rfl
    | cons entry rest ih =>
      obtain ⟨key, value⟩ := entry
      have separator : (ascii ", ").length = 2 := rfl
      have colon : (ascii ": ").length = 2 := rfl
      cases rest with
      | nil =>
        simp [Json.encodeMembers, listedSize, memberSize, quote_length, colon, Nat.add_assoc]
      | cons next rest =>
        simp only [Json.encodeMembers, List.length_append, separator, colon, quote_length, listedSize, memberSize,
          List.map_cons, List.sum_cons, List.length_cons, List.length_map] at ih ⊢
        omega
  simp only [Json.encode, List.length_append, List.length_cons, List.length_nil]
  omega

theorem set_fresh {members : List (String × Json)} {key : String} (fresh : key ∉ members.map (·.1))
    (value : Option Json) : Json.set members key value = members ++ (value.map (key, ·)).toList := by
  cases value with
  | none => simp [Json.set]
  | some value =>
    have absent : ¬members.any (·.1 = key) = true := by
      intro present
      obtain ⟨entry, member, same⟩ := List.any_eq_true.mp present
      exact fresh (of_decide_eq_true same ▸ List.mem_map_of_mem member)
    simp [Json.set, if_neg absent]

theorem built_eq (distinct : (entries.map (·.1)).Nodup) :
    Json.built entries = entries.filterMap fun entry => entry.2.map (entry.1, ·) := by
  have from_members : ∀ members : List (String × Json), (∀ entry ∈ entries, entry.1 ∉ members.map (·.1)) →
      entries.foldl (fun members entry => Json.set members entry.1 entry.2) members =
        members ++ entries.filterMap fun entry => entry.2.map (entry.1, ·) := by
    induction entries with
    | nil => simp
    | cons entry entries ih =>
      intro members fresh
      obtain ⟨other, distinct⟩ := List.nodup_cons.mp distinct
      have still : ∀ later ∈ entries, later.1 ∉ (members ++ (entry.2.map (entry.1, ·)).toList).map (·.1) := by
        intro later member
        rw [List.map_append, List.mem_append, not_or]
        refine ⟨fresh later (List.mem_cons_of_mem _ member), ?_⟩
        cases entry.2 with
        | none => simp
        | some value =>
          intro same
          rw [Option.map_some, Option.toList_some, List.map_singleton, List.mem_singleton] at same
          exact other (List.mem_map.mpr ⟨later, member, same⟩)
      rw [List.foldl_cons, set_fresh (fresh entry (List.mem_cons_self ..)), ih distinct _ still,
        List.append_assoc]
      cases found : entry.2 with
      | none => rw [List.filterMap_cons_none (by rw [found]; rfl)]; rfl
      | some value => rw [List.filterMap_cons_some (by rw [found]; rfl)]; rfl
  exact from_members [] (by simp)

theorem encode_built_length (distinct : (entries.map (·.1)).Nodup) :
    (Json.object (Json.built entries)).encode.length =
      objectSize (entries.map fun entry => (entry.1, entry.2.map (·.encode.length))) := by
  have sizes : ((entries.filterMap fun entry => entry.2.map (entry.1, ·)).map fun entry =>
      memberSize entry.1 entry.2.encode.length) =
      (entries.map fun entry => (entry.1, entry.2.map (·.encode.length))).filterMap fun entry =>
        entry.2.map (memberSize entry.1) := by
    rw [List.map_filterMap, List.filterMap_map]
    congr 1
    funext entry
    simp [Function.comp_def]
  rw [encode_object_length, built_eq distinct, sizes, objectSize]

theorem integral_built (distinct : (entries.map (·.1)).Nodup)
    (integral : ∀ entry ∈ entries, ∀ value ∈ entry.2, value.Integral) :
    (Json.object (Json.built entries)).Integral := by
  refine .object fun member inside => ?_
  rw [built_eq distinct] at inside
  obtain ⟨entry, listed, found⟩ := List.mem_filterMap.mp inside
  obtain ⟨value, present, rfl⟩ := Option.map_eq_some_iff.mp found
  exact integral entry listed value present

theorem le_objectSize {sizes : List (String × Option Nat)} {key : String} {size : Nat}
    (listed : (key, some size) ∈ sizes) : size ≤ objectSize sizes := by
  have member : memberSize key size ∈ sizes.filterMap fun entry => entry.2.map (memberSize entry.1) :=
    List.mem_filterMap.mpr ⟨_, listed, rfl⟩
  have summed := List.le_sum_of_mem member
  have own : size ≤ memberSize key size := Nat.le_add_left _ _
  unfold objectSize listedSize
  omega

end Text

-- A text that `json_string` accepts.
def textSize (ex : Externals) (text : Text) : Option Nat :=
  if ex.checkUtf8 text then some (quotedSize text) else none

def propertiesSize (ex : Externals) (properties : ConnectionProperties) : Nat :=
  objectSize [
    ("$os", textSize ex (properties.os.getD (ascii "unknown"))),
    ("$device", textSize ex (properties.device.getD Json.libname)),
    ("$browser", textSize ex (properties.browser.getD Json.libname))]

-- The roles that are read, up to the string length of the array's bytes and from `beyond` behind its end.
def rolesSize (ex : Externals) (beyond : Nat → UInt64) (roles : List UInt64) : Nat :=
  listedSize ((List.range (Json.rolesStrlen roles)).filterMap fun i =>
    textSize ex (decimalString (((roles ++ [0])[i]?).getD (beyond i))))

def statusUpdateSize (ex : Externals) (beyond : Nat → UInt64) (update : StatusUpdate) : Nat :=
  objectSize [
    ("user", textSize ex (decimalString update.guildId)),
    ("roles", update.roles.map (rolesSize ex beyond)),
    ("status", (Json.status2str update.status).bind (textSize ex))]

def identifySize (ex : Externals) (beyond : Nat → UInt64) (identify : Identify) (token : Text)
    (properties : ConnectionProperties) : Nat :=
  objectSize [
    ("token", textSize ex token),
    ("properties", some (propertiesSize ex properties)),
    ("compress", some (if identify.compress ≠ 0 then 4 else 5)),
    ("large_threshold", some (integerSize identify.largeThreshold.toInt64)),
    ("shard", some (listedSize [integerSize identify.shard.1.toInt64, integerSize identify.shard.2.toInt64])),
    ("presence", identify.statusUpdate.map (statusUpdateSize ex beyond))]

/-- The size of an IDENTIFY, where there is one: of its opcode, and of what the struct says. -/
def handshakeSize (ex : Externals) (beyond : Nat → UInt64) (identify : Identify) : Option Nat :=
  identify.token.bind fun token => identify.properties.map fun properties =>
    objectSize [("op", some 1), ("d", some (identifySize ex beyond identify token properties))]

def heartbeatSize (seq : Int32) : Nat := objectSize [("op", some 1), ("d", some (integerSize seq.toInt64))]

section Payloads
variable {ex : Externals} {beyond : Nat → UInt64} {identify : Identify}

theorem ofText_length (ex : Externals) (text : Text) :
    (ofText ex (some text)).map (·.encode.length) = textSize ex text := by
  unfold ofText textSize
  rw [Option.bind_some]
  split
  · simp [Json.encode, quote_length]
  · rfl

theorem ofText_integral {text : Option Text} {value : Json} (made : value ∈ ofText ex text) :
    value.Integral := by
  obtain ⟨text, -, accepted⟩ := Option.bind_eq_some_iff.mp made
  split at accepted
  · cases accepted
    exact .string text
  · cases accepted

theorem unpackIdentifyConnectionProperties_built (ex : Externals) (properties : ConnectionProperties) :
    Json.unpackIdentifyConnectionProperties ex properties = .object (Json.built [
      ("$os", ofText ex (some (properties.os.getD (ascii "unknown")))),
      ("$device", ofText ex (some (properties.device.getD Json.libname))),
      ("$browser", ofText ex (some (properties.browser.getD Json.libname)))]) := rfl

theorem unpackIdentifyConnectionProperties_length (ex : Externals) (properties : ConnectionProperties) :
    (Json.unpackIdentifyConnectionProperties ex properties).encode.length = propertiesSize ex properties := by
  rw [unpackIdentifyConnectionProperties_built, encode_built_length (by simp)]
  simp only [List.map_cons, List.map_nil, ofText_length, propertiesSize]

theorem unpackStatusUpdate_built (ex : Externals) (beyond : Nat → UInt64) (update : StatusUpdate) :
    Json.unpackStatusUpdate ex beyond update = .object (Json.built [
      ("user", ofText ex (some (Json.snowflake2str update.guildId))),
      ("roles", update.roles.map fun roles => .array ((List.range (Json.rolesStrlen roles)).filterMap fun i =>
        ofText ex (some (Json.snowflake2str (((roles ++ [0])[i]?).getD (beyond i)))))),
      ("status", ofText ex (Json.status2str update.status))]) := by
  unfold Json.unpackStatusUpdate
  cases update.roles <;> rfl

theorem unpackStatusUpdate_length (ex : Externals) (beyond : Nat → UInt64) (update : StatusUpdate) :
    (Json.unpackStatusUpdate ex beyond update).encode.length = statusUpdateSize ex beyond update := by
  have roles : ∀ roles : List UInt64,
      (Json.array ((List.range (Json.rolesStrlen roles)).filterMap fun i =>
        ofText ex (some (Json.snowflake2str (((roles ++ [0])[i]?).getD (beyond i)))))).encode.length =
      rolesSize ex beyond roles := by
    intro roles
    simp only [encode_array_length, List.map_filterMap, ofText_length, snowflake2str_eq, rolesSize]
  have status : (ofText ex (Json.status2str update.status)).map (·.encode.length) =
      (Json.status2str update.status).bind (textSize ex) := by
    cases Json.status2str update.status with
    | none => rfl
    | some text => exact ofText_length ex text
  rw [unpackStatusUpdate_built, encode_built_length (by simp)]
  simp only [List.map_cons, List.map_nil, ofText_length, Option.map_map, Function.comp_def, roles, status]
  rw [snowflake2str_eq, statusUpdateSize]

theorem unpackIdentify_built (ex : Externals) (beyond : Nat → UInt64) (identify : Identify) :
    Json.unpackIdentify ex beyond identify = identify.token.bind fun token =>
      identify.properties.map fun properties => .object (Json.built [
        ("token", ofText ex (some token)),
        ("properties", some (Json.unpackIdentifyConnectionProperties ex properties)),
        ("compress", some (.boolean (identify.compress ≠ 0))),
        ("large_threshold", some (.integer identify.largeThreshold.toInt64)),
        ("shard", some (.array [.integer identify.shard.1.toInt64, .integer identify.shard.2.toInt64])),
        ("presence", identify.statusUpdate.map (Json.unpackStatusUpdate ex beyond))]) := by
  unfold Json.unpackIdentify
  cases identify.token <;> cases identify.properties <;> cases identify.statusUpdate <;> rfl

theorem createPayload_built (op : Json) (d : Option Json) :
    Json.createPayload op d none none = .object (Json.built [("op", some op), ("d", d)]) := rfl

theorem unpackIdentify_length (ex : Externals) (beyond : Nat → UInt64) (identify : Identify) :
    (Json.unpackIdentify ex beyond identify).map (·.encode.length) =
      identify.token.bind fun token => identify.properties.map (identifySize ex beyond identify token) := by
  have compress : (Json.boolean (identify.compress ≠ 0)).encode.length =
      if identify.compress ≠ 0 then 4 else 5 := by
    by_cases zero : identify.compress = 0 <;> simp only [zero, ne_eq, decide_true, decide_false,
      not_true, not_false_iff, if_true, if_false] <;> rfl
  have integer : ∀ n : Int64, (Json.integer n).encode.length = integerSize n := decimalText_length
  rw [unpackIdentify_built]
  cases identify.token with
  | none => rfl
  | some token =>
    cases identify.properties with
    | none => rfl
    | some properties =>
      rw [Option.bind_some, Option.map_some, Option.map_some, encode_built_length (by simp)]
      simp only [List.map_cons, List.map_nil, Option.map_some, Option.map_map, Function.comp_def, ofText_length,
        unpackIdentifyConnectionProperties_length, unpackStatusUpdate_length, compress, integer,
        encode_array_length]
      rfl

/-- The answer to HELLO is as long as `handshakeSize` says, and is not made where that says nothing. -/
theorem handshake_length (ex : Externals) (beyond : Nat → UInt64) (identify : Identify) :
    ((Json.unpackIdentify ex beyond identify).map fun d =>
      (Json.createPayload (.integer 2) (some d) none none).encode.length) =
        handshakeSize ex beyond identify := by
  have op : (Json.integer 2).encode.length = 1 := by decide +kernel
  have payload : ∀ d : Json, (Json.createPayload (.integer 2) (some d) none none).encode.length =
      objectSize [("op", some 1), ("d", some d.encode.length)] := by
    intro d
    rw [createPayload_built, encode_built_length (by simp)]
    simp only [List.map_cons, List.map_nil, Option.map_some, op]
  have sizes := congrArg (Option.map fun size => objectSize [("op", some 1), ("d", some size)])
    (unpackIdentify_length ex beyond identify)
  rw [Option.map_map] at sizes
  simp only [payload]
  refine sizes.trans ?_
  unfold handshakeSize
  cases identify.token with
  | none => rfl
  | some token => cases identify.properties <;> rfl

theorem heartbeat_length (seq : Int32) :
    (Json.createPayload (.integer 1) (some (.integer seq.toInt64)) none none).encode.length =
      heartbeatSize seq := by
  have op : (Json.integer 1).encode.length = 1 := by decide +kernel
  have data : (Json.integer seq.toInt64).encode.length = integerSize seq.toInt64 := decimalText_length _
  rw [createPayload_built, encode_built_length (by simp)]
  simp only [List.map_cons, List.map_nil, Option.map_some, op, data, heartbeatSize]

theorem createPayload_integral {op d : Json} (number : op.Integral) (data : d.Integral) :
    (Json.createPayload op (some d) none none).Integral := by
  rw [createPayload_built]
  refine integral_built (by simp) ?_
  simpa using ⟨number, data⟩

theorem unpackIdentify_integral {d : Json} (made : Json.unpackIdentify ex beyond identify = some d) :
    d.Integral := by
  have properties : ∀ properties, (Json.unpackIdentifyConnectionProperties ex properties).Integral := by
    intro properties
    rw [unpackIdentifyConnectionProperties_built]
    refine integral_built (by simp) ?_
    simp only [List.forall_mem_cons, List.not_mem_nil, false_imp_iff, implies_true, and_true]
    exact ⟨fun _ => ofText_integral, fun _ => ofText_integral, fun _ => ofText_integral⟩
  have update : ∀ update, (Json.unpackStatusUpdate ex beyond update).Integral := by
    intro update
    rw [unpackStatusUpdate_built]
    refine integral_built (by simp) ?_
    simp only [List.forall_mem_cons, List.not_mem_nil, false_imp_iff, implies_true, and_true]
    refine ⟨fun _ => ofText_integral, ?_, fun _ => ofText_integral⟩
    intro value listed
    obtain ⟨roles, -, rfl⟩ := Option.map_eq_some_iff.mp listed
    refine .array fun element member => ?_
    obtain ⟨i, -, text⟩ := List.mem_filterMap.mp member
    exact ofText_integral text
  rw [unpackIdentify_built] at made
  obtain ⟨token, -, made⟩ := Option.bind_eq_some_iff.mp made
  obtain ⟨given, -, rfl⟩ := Option.map_eq_some_iff.mp made
  refine integral_built (by simp) ?_
  simp only [List.forall_mem_cons, List.not_mem_nil, false_imp_iff, implies_true, and_true, Option.mem_some_iff,
    forall_eq']
  refine ⟨fun _ => ofText_integral, properties given, .boolean _, .integer _, ?_, ?_⟩
  · refine .array ?_
    simpa using ⟨.integer _, .integer _⟩
  · intro value present
    obtain ⟨presence, -, rfl⟩ := Option.map_eq_some_iff.mp present
    exact update presence

theorem device_le_handshakeSize (beyond : Nat → UInt64) {token device : Text}
    {properties : ConnectionProperties} (held : identify.token = some token)
    (given : identify.properties = some properties) (named : properties.device = some device)
    (accepted : ex.checkUtf8 device = true) :
    ∃ size, handshakeSize ex beyond identify = some size ∧ device.length ≤ size := by
  refine ⟨objectSize [("op", some 1), ("d", some (identifySize ex beyond identify token properties))], ?_, ?_⟩
  · rw [handshakeSize, held, given]
    rfl
  · have second : ∀ (first entry : String × Option Nat) (rest : List (String × Option Nat)),
        entry ∈ first :: entry :: rest := fun _ _ _ => List.mem_cons_of_mem _ (List.mem_cons_self ..)
    have quoted : textSize ex (properties.device.getD Json.libname) = some (quotedSize device) := by
      rw [named]
      exact if_pos accepted
    calc device.length
        ≤ quotedSize device := length_le_quotedSize device
      _ ≤ propertiesSize ex properties := le_objectSize (by rw [quoted]; exact second _ _ _)
      _ ≤ identifySize ex beyond identify token properties := le_objectSize (second _ _ _)
      _ ≤ _ := le_objectSize (second _ _ _)

end Payloads

end Libdiscord
