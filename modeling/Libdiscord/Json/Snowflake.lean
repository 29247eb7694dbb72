import Libdiscord.Base.BitField
import Libdiscord.Json.Encode
import Libdiscord.Json.Filling
import Mathlib.Data.List.TakeWhile

/-! Snowflakes: their decimal texts and back, and the fields of their bits. -/

set_option autoImplicit false

namespace Libdiscord

open Libdiscord.Base
open Json (member?)

def decimalString (flake : UInt64) : Text := (Nat.toDigits 10 flake.toNat).map fun c => c.toNat.toUInt8

-- `snprintf(tmp, 127, ..)`, the terminator included
def snowflakeLimit : Nat := 127

structure Spells (text : Text) (flake : UInt64) : Prop where
  digits : text = decimalString flake
  plain : ∀ byte ∈ text, isDigit byte = true
  fits : text.length < snowflakeLimit

section Text
variable {flake : UInt64}

theorem snowflake2str_eq (flake : UInt64) : Json.snowflake2str flake = decimalString flake := by
  have small : flake.toNat < 10 ^ 126 := Nat.lt_of_lt_of_le flake.toNat_lt (by decide)
  have short : (Nat.toDigits 10 flake.toNat).length ≤ 126 :=
    (Nat.length_toDigits_le_iff (by decide) (by decide)).mpr small
  exact List.take_of_length_le (by rw [List.length_map]; exact short)

theorem digit_byte {c : Char} (digit : c.isDigit = true) :
    c.toNat.toUInt8.toNat = c.toNat ∧ 48 ≤ c.toNat ∧ c.toNat ≤ 57 := by
  obtain ⟨low, high⟩ : 48 ≤ c.toNat ∧ c.toNat ≤ 57 := by
    simp only [Char.isDigit, Bool.and_eq_true, decide_eq_true_eq, ge_iff_le, UInt32.le_iff_toNat_le] at digit
    exact digit
  exact ⟨Nat.mod_eq_of_lt (by omega), low, high⟩

theorem decimalString_digits (flake : UInt64) : ∀ byte ∈ decimalString flake, 48 ≤ byte ∧ byte ≤ 57 := by
  intro byte member
  obtain ⟨c, inside, rfl⟩ := List.mem_map.mp member
  obtain ⟨kept, low, high⟩ := digit_byte (Nat.isDigit_of_mem_toDigits (by decide) (by decide) inside)
  rw [UInt8.le_iff_toNat_le, UInt8.le_iff_toNat_le, kept]
  exact ⟨low, high⟩

theorem decimalString_spells (flake : UInt64) : Spells (decimalString flake) flake where
  digits := rfl
  plain := by
    intro byte member
    simpa [isDigit] using decimalString_digits flake byte member
  fits := by
    have small : flake.toNat < 10 ^ 20 := Nat.lt_of_lt_of_le flake.toNat_lt (by decide)
    have short := (Nat.length_toDigits_le_iff (by decide) (by decide)).mpr small
    rw [decimalString, List.length_map]
    exact Nat.lt_of_le_of_lt short (by decide)

theorem decimal_from (chars : List Char) (digits : ∀ c ∈ chars, c.isDigit = true) (start : Nat) :
    (chars.map fun c => c.toNat.toUInt8).foldl (fun value digit => 10 * value + (digit.toNat - 48)) start =
      Nat.ofDigitChars 10 chars start := by
  induction chars generalizing start with
  | nil => rfl
  | cons c chars ih =>
    have here := (digit_byte (digits c (by simp))).1
    rw [List.map_cons, List.foldl_cons, here, ih fun later member => digits later (by simp [member])]
    rfl

theorem decimal_decimalString (flake : UInt64) : decimal (decimalString flake) = flake.toNat := by
  have digits : ∀ c ∈ Nat.toDigits 10 flake.toNat, c.isDigit = true := fun c inside =>
    Nat.isDigit_of_mem_toDigits (by decide) (by decide) inside
  exact (decimal_from _ digits 0).trans Nat.ofDigitChars_ten_toDigits

/-- A text of digits has no blanks and no sign in front, and is read to its end. -/
theorem strtoull_digits {text : Text} (plain : ∀ byte ∈ text, isDigit byte = true)
    (inside : decimal text < UInt64.size) : strtoull text = UInt64.ofNat (decimal text) := by
  cases text with
  | nil => rfl
  | cons first rest =>
    have digit := plain first (by simp)
    simp only [isDigit, Bool.and_eq_true, decide_eq_true_eq, UInt8.le_iff_toNat_le] at digit
    have low : 48 ≤ first.toNat := digit.1
    have blank : isSpace first = false := by
      simp only [isSpace, Bool.or_eq_false_iff, decide_eq_false_iff_not, Bool.and_eq_false_iff,
        UInt8.le_iff_toNat_le, ← UInt8.toNat_inj]
      exact ⟨show first.toNat ≠ 32 by omega, .inr (show ¬first.toNat ≤ 13 by omega)⟩
    have minus : first ≠ 45 := fun same => absurd (same ▸ low) (by decide)
    have plus : first ≠ 43 := fun same => absurd (same ▸ low) (by decide)
    have all : (first :: rest).takeWhile isDigit = first :: rest := List.takeWhile_eq_self_iff.mpr plain
    unfold strtoull
    rw [List.dropWhile_cons_of_neg (by simp [blank])]
    simp only [if_neg minus, if_neg plus, all, if_neg (Nat.not_le.mpr inside), id_eq]

theorem strtoull_decimalString (flake : UInt64) : strtoull (decimalString flake) = flake := by
  have value := decimal_decimalString flake
  rw [strtoull_digits (decimalString_spells flake).plain (value ▸ flake.toNat_lt), value]
  exact UInt64.ofNat_toNat

end Text

def Restores {Record : Type} (decode : Record → Json → Record) (key : String) (get : Record → UInt64)
    (flake : UInt64) : Prop :=
  ∀ r json, member? key json.members = some (.string (Json.snowflake2str flake)) → get (decode r json) = flake

theorem restores_of_decoder {Record Field : Type} {Value : Field → Type}
    {decode : Record → Json → Record} (decoder : Decoder Record String Json Field Value)
    (filled : ∀ r json, decode r json = decoder.fill r json.members) {f : Field} {key : String}
    (named : decoder.name f = some key) {get : Record → UInt64} {put : UInt64 → Value f}
    (shown : ∀ r value, decoder.get f r = put value → get r = value)
    (text : ∀ text, decoder.decode f (.string text) = some (put (strtoull text))) (flake : UInt64) :
    Restores decode key get flake := by
  intro r json found
  rw [Json.member?_eq_last?] at found
  have stored := decoder.get_fill_last named found (text (Json.snowflake2str flake)) r
  rw [snowflake2str_eq, strtoull_decimalString] at stored
  rw [filled]
  exact shown _ flake stored

/-- The text of an identifier is decimal and complete, the decoders of users and messages give back the
identifier, and no other identifier has that text. -/
theorem snowflake_round_trip (flake : UInt64) :
    Spells (Json.snowflake2str flake) flake ∧ strtoull (Json.snowflake2str flake) = flake ∧
    Restores Json.loadUser "id" User.id flake ∧
    (∀ fresh, Restores (Json.packMessage fresh) "id" Message.id flake ∧
      Restores (Json.packMessage fresh) "channel_id" Message.channelId flake) ∧
    ∀ other, Json.snowflake2str other = Json.snowflake2str flake → other = flake := by
  have back : ∀ flake, strtoull (Json.snowflake2str flake) = flake := by
    intro flake
    rw [snowflake2str_eq]
    exact strtoull_decimalString flake
  refine ⟨?_, back flake, ?_, fun fresh => ⟨?_, ?_⟩, fun other same => ?_⟩
  · rw [snowflake2str_eq]
    exact decimalString_spells flake
  · exact restores_of_decoder userDecoder Json.loadUser_fill (f := .id) rfl
      (fun _ _ shown => shown) (fun _ => rfl) flake
  · exact restores_of_decoder (messageDecoder fresh) (Json.packMessage_fill fresh) (f := .id) rfl
      (fun _ _ shown => shown) (fun _ => rfl) flake
  · exact restores_of_decoder (messageDecoder fresh) (Json.packMessage_fill fresh) (f := .channelId) rfl
      (fun _ _ shown => shown) (fun _ => rfl) flake
  · rw [← back other, same, back flake]

structure Snowflake where
  timestamp : UInt64
  workerId : UInt64
  processId : UInt64
  increment : UInt64
  unixTimestamp : UInt64
  deriving DecidableEq

/-- `ld_json_pack_snowflake`. A null pointer is passed over; every field of the struct is assigned. -/
def Json.packSnowflake (newFlake : Option Snowflake) (snowflake : UInt64) : Option Snowflake × Status :=
  match newFlake with
  | none => (none, .ok)
  | some _ =>
    (some {
      timestamp := snowflake >>> 22
      -- to unix time in milliseconds
      unixTimestamp := (snowflake >>> 22) + 1420070400000
      workerId := (snowflake &&& 0x3E0000) >>> 17
      processId := (snowflake &&& 0x1F000) >>> 12
      increment := snowflake &&& 0xFFF }, .ok)

/-- The fields are the bits of the snowflake, each in its range, and the unix time is after the epoch of the
timestamps. -/
structure Decomposed (flake : UInt64) (fields : Snowflake) : Prop where
  timestamp : fields.timestamp.toNat < 2 ^ 42
  workerId : fields.workerId.toNat < 2 ^ 5
  processId : fields.processId.toNat < 2 ^ 5
  increment : fields.increment.toNat < 2 ^ 12
  whole : fields.timestamp.toNat * 2 ^ 22 + fields.workerId.toNat * 2 ^ 17 + fields.processId.toNat * 2 ^ 12 +
    fields.increment.toNat = flake.toNat
  unixTimestamp : fields.unixTimestamp.toNat = fields.timestamp.toNat + 1420070400000

section Fields
variable {flake : UInt64}

theorem packSnowflake_fields (old : Snowflake) (flake : UInt64) :
    ∃ fields, Json.packSnowflake (some old) flake = (some fields, .ok) ∧
      fields.timestamp.toNat = flake.toNat / 2 ^ 22 ∧
      fields.workerId.toNat = bitField flake.toNat 17 5 ∧
      fields.processId.toNat = bitField flake.toNat 12 5 ∧
      fields.increment.toNat = bitField flake.toNat 0 12 ∧
      fields.unixTimestamp = fields.timestamp + 1420070400000 := by
  refine ⟨_, rfl, ?_, ?_, ?_, ?_, rfl⟩
  · rw [UInt64.toNat_shiftRight, Nat.shiftRight_eq_div_pow]
    rfl
  · exact toNat_masked 17 5 (by decide) (by decide)
  · exact toNat_masked 12 5 (by decide) (by decide)
  · exact toNat_masked 0 12 (by decide) (by decide)

theorem packSnowflake_decomposed (old : Snowflake) (flake : UInt64) :
    ∃ fields, Json.packSnowflake (some old) flake = (some fields, .ok) ∧ Decomposed flake fields ∧
      fields.timestamp.toNat = flake.toNat / 2 ^ 22 := by
  obtain ⟨fields, packed, timestamp, workerId, processId, increment, unix⟩ := packSnowflake_fields old flake
  have early : flake.toNat / 2 ^ 22 < 2 ^ 42 := by
    have word : flake.toNat < 2 ^ 64 := flake.toNat_lt
    omega
  refine ⟨fields, packed, ?_, timestamp⟩
  exact {
    timestamp := timestamp ▸ early
    workerId := workerId ▸ bitField_lt _ _ _
    processId := processId ▸ bitField_lt _ _ _
    increment := increment ▸ bitField_lt _ _ _
    -- the three masks lie side by side below the timestamp
    whole := by
      have tiles := tiled_whole flake.toNat [12, 5, 5]
      simp only [tiled, Nat.zero_add, Nat.reduceAdd] at tiles
      rw [timestamp, workerId, processId, increment]
      omega
    unixTimestamp := by
      rw [unix, UInt64.toNat_add, timestamp]
      exact Nat.mod_eq_of_lt (Nat.lt_of_lt_of_le (Nat.add_lt_add_right early _) (by decide)) }

end Fields

/-- A snowflake is taken apart without loss, whatever the struct held before: it can be put together again
from the fields, so that no two have the same fields, and a later timestamp belongs to a larger one. -/
theorem packSnowflake_lossless (old : Snowflake) (flake : UInt64) :
    ∃ fields, Json.packSnowflake (some old) flake = (some fields, .ok) ∧ Decomposed flake fields ∧
      ∀ (older : Snowflake) (other : UInt64), ∃ others,
        Json.packSnowflake (some older) other = (some others, .ok) ∧
        (fields = others → flake = other) ∧ (flake ≤ other → fields.timestamp ≤ others.timestamp) := by
  obtain ⟨fields, packed, decomposed, timestamp⟩ := packSnowflake_decomposed old flake
  refine ⟨fields, packed, decomposed, fun older other => ?_⟩
  obtain ⟨others, also, apart, later⟩ := packSnowflake_decomposed older other
  refine ⟨others, also, ?_, ?_⟩
  · intro same
    apply UInt64.toNat_inj.mp
    rw [← decomposed.whole, ← apart.whole, same]
  · intro before
    rw [UInt64.le_iff_toNat_le, timestamp, later]
    exact Nat.div_le_div_right (UInt64.le_iff_toNat_le.mp before)

end Libdiscord
