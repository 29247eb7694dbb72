import Mathlib.Data.List.Basic

/-! Formats with conversions, and what they make of arguments.

The conversions are %s, %.*s, %d, %u and %%. Every argument is passed in eight bytes, whatever its type, and a
conversion takes from them what it asks for: a number of four bytes, or an address. A null pointer is printed as such.
-/

set_option autoImplicit false

namespace Libdiscord.Base

inductive Argument where
  | int (n : Int32)
  | unsigned (n : UInt32)
  | long (n : Int64)
  | size (n : UInt64)
  -- a pointer to a terminated string, one to memory that is not the program's, and one that has left its block
  | string (text : List UInt8)
  | pointer (address : UInt64)
  | stray

inductive Conversion where
  | string
  -- %.*s
  | limited
  | signed
  | unsigned
  deriving DecidableEq

def Conversion.spelled : Conversion → List Char
  | .string => ['%', 's']
  | .limited => ['%', '.', '*', 's']
  | .signed => ['%', 'd']
  | .unsigned => ['%', 'u']

inductive Piece where
  | literal (byte : UInt8)
  | conversion (c : Conversion)
  deriving DecidableEq

namespace Format

def byte (c : Char) : UInt8 := c.toNat.toUInt8

/-- A format taken apart, `none` where a conversion is none of these. -/
def pieces : List Char → Option (List Piece)
  | [] => some []
  | '%' :: 's' :: rest => (pieces rest).map (.conversion .string :: ·)
  | '%' :: '.' :: '*' :: 's' :: rest => (pieces rest).map (.conversion .limited :: ·)
  | '%' :: 'd' :: rest => (pieces rest).map (.conversion .signed :: ·)
  | '%' :: 'u' :: rest => (pieces rest).map (.conversion .unsigned :: ·)
  | '%' :: '%' :: rest => (pieces rest).map (.literal 37 :: ·)
  | '%' :: _ => none
  | c :: rest => (pieces rest).map (.literal (byte c) :: ·)

def digits (n : Int) : List UInt8 :=
  let shown := (Nat.toDigits 10 n.natAbs).map fun c => c.toNat.toUInt8
  if n < 0 then 45 :: shown else shown

end Format

namespace Argument

/-- The low half of what is passed. The address of a string is not known. -/
def low : Argument → Option UInt32
  | .int n => some n.toUInt32
  | .unsigned n => some n
  | .long n => some n.toUInt64.toUInt32
  | .size n | .pointer n => some n.toUInt32
  | .string _ | .stray => none

def nullText : List UInt8 := "(null)".toList.map Format.byte

-- What is read at an address that is no string's.
def textAt (null : Bool) (limit : Option Nat) : Option (List UInt8) :=
  if null then some (if limit.all (nullText.length ≤ ·) then nullText else [])
  else if limit = some 0 then some []
  else none

/-- The text that is read up to a limit. `none` is a read of memory that is not the program's. -/
def text (limit : Option Nat) : Argument → Option (List UInt8)
  | .string text => some (limit.elim text text.take)
  | .long n => textAt (n = 0) limit
  | .size n | .pointer n => textAt (n = 0) limit
  | .int _ | .unsigned _ | .stray => textAt false limit

end Argument

namespace Format

def Conversion.take : Conversion → List Argument → Option (List UInt8 × List Argument)
  | .string, arg :: rest => (arg.text none).map (·, rest)
  | .limited, limit :: arg :: rest => do
    let limit ← limit.low
    let text ← arg.text (if limit.toInt32 < 0 then none else some limit.toNat)
    some (text, rest)
  | .signed, arg :: rest => arg.low.map fun n => (digits n.toInt32.toInt, rest)
  | .unsigned, arg :: rest => arg.low.map fun n => (digits n.toNat, rest)
  | _, _ => none

def render : List Piece → List Argument → Option (List UInt8)
  | [], _ => some []
  | .literal byte :: rest, args => (render rest args).map (byte :: ·)
  | .conversion c :: rest, args => do
    let (text, args) ← Conversion.take c args
    let more ← render rest args
    some (text ++ more)

end Format

def Format.Spelled (format : String) : Prop := (Format.pieces format.toList).isSome = true

theorem Format.spelled_ofList {format : List Char} (parsed : (Format.pieces format).isSome = true) :
    Format.Spelled (String.ofList format) := by
  rwa [Format.Spelled, String.toList_ofList]

def vsprintf (format : String) (args : List Argument) : Option (List UInt8) :=
  (Format.pieces format.toList).bind (Format.render · args)

/-- The most bytes that are made of an argument; a number of 32 bits has at most eleven. -/
def Argument.width : Argument → Nat
  | .int _ | .unsigned _ | .long _ | .size _ | .pointer _ => 11
  | .string text => text.length
  | .stray => 0

def widths (args : List Argument) : Nat := args.foldr (·.width + ·) 0

namespace Format

theorem render_literals (bytes : List UInt8) (rest : List Piece) (args : List Argument) :
    render (bytes.map .literal ++ rest) args = (render rest args).map (bytes ++ ·) := by
  induction bytes with
  | nil => simp
  | cons byte bytes ih =>
    rw [List.map_cons, List.cons_append, render, ih, Option.map_map]
    rfl

theorem digits_length {n : Int} (low : -0x80000000 ≤ n) (high : n < 0x100000000) : (digits n).length ≤ 11 := by
  have small : n.natAbs < 10 ^ 10 := by omega
  have shown : (Nat.toDigits 10 n.natAbs).length ≤ 10 :=
    (Nat.length_toDigits_le_iff (by decide) (by decide)).mpr small
  unfold digits
  split <;> simp only [List.length_cons, List.length_map] <;> omega

end Format

namespace Argument

theorem low_width {arg : Argument} {n : UInt32} (known : arg.low = some n) : 11 ≤ arg.width := by
  cases arg
  case string => cases known
  case stray => cases known
  all_goals exact Nat.le_refl 11

theorem textAt_short {null : Bool} {limit : Option Nat} {text : List UInt8} (read : textAt null limit = some text) :
    text.length ≤ 11 ∧ (null = false → text = []) := by
  have short : nullText.length ≤ 11 := by decide +kernel
  unfold textAt at read
  cases null with
  | true =>
    obtain rfl := Option.some.inj read
    refine ⟨?_, nofun⟩
    split
    · exact short
    · exact Nat.zero_le 11
  | false =>
    rw [if_neg Bool.false_ne_true] at read
    split at read
    · cases read
      exact ⟨Nat.zero_le 11, fun _ => rfl⟩
    · cases read

theorem text_width {arg : Argument} {limit : Option Nat} {text : List UInt8}
    (read : arg.text limit = some text) : text.length ≤ arg.width := by
  cases arg
  case string shown =>
    obtain rfl := Option.some.inj read
    cases limit with
    | none => exact Nat.le_refl _
    | some limit => exact List.length_take_le' _ _
  case stray =>
    unfold Argument.text at read
    rw [(textAt_short read).2 rfl]
    exact Nat.zero_le _
  all_goals
    unfold Argument.text at read
    exact (textAt_short read).1

end Argument

namespace Format

theorem take_width {c : Conversion} {args rest : List Argument} {text : List UInt8}
    (taken : Conversion.take c args = some (text, rest)) : text.length + widths rest ≤ widths args := by
  unfold Conversion.take at taken
  split at taken
  · obtain ⟨shown, read, same⟩ := Option.map_eq_some_iff.mp taken
    cases same
    exact Nat.add_le_add_right (Argument.text_width read) _
  · next limit arg left =>
    obtain ⟨n, _, taken⟩ := Option.bind_eq_some_iff.mp taken
    obtain ⟨shown, read, same⟩ := Option.bind_eq_some_iff.mp taken
    cases same
    have short := Argument.text_width read
    simp only [widths, List.foldr_cons]
    omega
  · obtain ⟨n, known, same⟩ := Option.map_eq_some_iff.mp taken
    cases same
    have short : (digits n.toInt32.toInt).length ≤ 11 :=
      digits_length n.toInt32.le_toInt (by have high := n.toInt32.toInt_lt; omega)
    exact Nat.add_le_add_right (Nat.le_trans short (Argument.low_width known)) _
  · obtain ⟨n, known, same⟩ := Option.map_eq_some_iff.mp taken
    cases same
    have short : (digits n.toNat).length ≤ 11 := digits_length (by omega) (by have high := n.toNat_lt; omega)
    exact Nat.add_le_add_right (Nat.le_trans short (Argument.low_width known)) _
  · cases taken

theorem render_length {ps : List Piece} {args : List Argument} {text : List UInt8}
    (rendered : render ps args = some text) : text.length ≤ ps.length + widths args := by
  induction ps generalizing args text with
  | nil =>
    cases rendered
    simp
  | cons p rest ih =>
    cases p with
    | literal byte =>
      obtain ⟨more, done, rfl⟩ := Option.map_eq_some_iff.mp rendered
      have short := ih done
      simp only [List.length_cons]
      omega
    | conversion c =>
      obtain ⟨⟨shown, left⟩, taken, tail⟩ := Option.bind_eq_some_iff.mp rendered
      obtain ⟨more, done, same⟩ := Option.bind_eq_some_iff.mp tail
      cases same
      have here := take_width taken
      have short := ih done
      simp only [List.length_append, List.length_cons]
      omega

theorem pieces_append {lead : List Char} (plain : lead.all (· ≠ '%') = true) (format : List Char) :
    pieces (lead ++ format) = (pieces format).map (lead.map (.literal ∘ byte) ++ ·) := by
  induction lead with
  | nil => simp
  | cons c lead ih =>
    rw [List.all_cons, Bool.and_eq_true, decide_eq_true_eq] at plain
    obtain ⟨other, plain⟩ := plain
    have step : pieces (c :: (lead ++ format)) = (pieces (lead ++ format)).map (.literal (byte c) :: ·) := by
      rw [pieces] <;> simp [other]
    rw [List.cons_append, step, ih plain, Option.map_map]
    rfl

theorem pieces_spelled (c : Conversion) : pieces c.spelled = some [.conversion c] := by
  cases c <;> rfl

theorem pieces_length {format : List Char} {ps : List Piece} (parsed : pieces format = some ps) :
    ps.length ≤ format.length := by
  fun_induction pieces format generalizing ps with
  | case1 =>
    cases parsed
    simp
  | case7 => cases parsed
  | _ =>
    obtain ⟨more, done, rfl⟩ := Option.map_eq_some_iff.mp parsed
    rename_i ih
    have short := ih done
    simp only [List.length_cons]
    omega

end Format

/-- The text is no longer than the format and the arguments. -/
theorem vsprintf_length {format : String} {args : List Argument} {text : List UInt8}
    (printed : vsprintf format args = some text) : text.length ≤ format.length + widths args := by
  obtain ⟨ps, parsed, rendered⟩ := Option.bind_eq_some_iff.mp printed
  have size := Format.pieces_length parsed
  rw [String.length_toList] at size
  have short := Format.render_length rendered
  omega

theorem vsprintf_ofList (format : List Char) (args : List Argument) :
    vsprintf (String.ofList format) args = (Format.pieces format).bind (Format.render · args) := by
  rw [vsprintf, String.toList_ofList]

theorem vsprintf_lead (before : Nat) {format : List Char} (plain : (format.take before).all (· ≠ '%') = true)
    (args : List Argument) : vsprintf (String.ofList format) args =
      ((Format.pieces (format.drop before)).bind (Format.render · args)).map
        ((format.take before).map Format.byte ++ ·) := by
  have parsed := Format.pieces_append plain (format.drop before)
  rw [List.take_append_drop] at parsed
  rw [vsprintf_ofList, parsed]
  cases Format.pieces (format.drop before) with
  | none => rfl
  | some rest =>
    have rendered := Format.render_literals ((format.take before).map Format.byte) rest args
    rw [List.map_map] at rendered
    exact rendered

theorem vsprintf_plain {format : List Char} (plain : format.all (· ≠ '%') = true) (args : List Argument) :
    vsprintf (String.ofList format) args = some (format.map Format.byte) := by
  have whole : format.take format.length = format := List.take_length
  rw [vsprintf_lead format.length (by rwa [whole]), whole, List.drop_length]
  simp [Format.pieces, Format.render]

theorem vsprintf_one {format : List Char} {before : Nat} {c : Conversion}
    (plain : (format.take before).all (· ≠ '%') = true) (ends : format.drop before = c.spelled)
    (args : List Argument) : vsprintf (String.ofList format) args =
      (Format.Conversion.take c args).map fun taken => (format.take before).map Format.byte ++ taken.1 := by
  rw [vsprintf_lead before plain, ends, Format.pieces_spelled, Option.bind_some, Format.render]
  cases Format.Conversion.take c args with
  | none => rfl
  | some taken => simp [Format.render]

-- Of eight bytes, %d takes four.
example : vsprintf "%s: %d%%" [.string [97], .size 0x10000000c] = some [97, 58, 32, 49, 50, 37] := by decide +kernel

end Libdiscord.Base
