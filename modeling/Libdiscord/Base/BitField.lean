import Mathlib.Algebra.Group.Nat.Defs

/-! Numbers and words as rows of bit fields. -/

set_option autoImplicit false

namespace Libdiscord.Base

/-- The `width` bits of `n` from the bit `low` on. -/
def bitField (n low width : Nat) : Nat := n / 2 ^ low % 2 ^ width

/-- Fields of these widths side by side from the bit `low` on, each at its place, and above them what is
left of `n`. -/
def tiled (n : Nat) : Nat → List Nat → Nat
  | low, [] => n / 2 ^ low * 2 ^ low
  | low, width :: widths => bitField n low width * 2 ^ low + tiled n (low + width) widths

theorem bitField_lt (n low width : Nat) : bitField n low width < 2 ^ width :=
  Nat.mod_lt _ (Nat.two_pow_pos width)

theorem bitField_add (n low width : Nat) :
    bitField n low width * 2 ^ low + n / 2 ^ (low + width) * 2 ^ (low + width) =
      n / 2 ^ low * 2 ^ low := by
  have above : n / 2 ^ (low + width) = n / 2 ^ low / 2 ^ width := by
    rw [Nat.pow_add, Nat.div_div_eq_div_mul]
  have whole := Nat.div_add_mod (n / 2 ^ low) (2 ^ width)
  calc bitField n low width * 2 ^ low + n / 2 ^ (low + width) * 2 ^ (low + width)
      = n / 2 ^ low % 2 ^ width * 2 ^ low + 2 ^ width * (n / 2 ^ low / 2 ^ width) * 2 ^ low := by
        rw [bitField, above, Nat.pow_add, Nat.mul_comm (2 ^ low), ← Nat.mul_assoc,
          Nat.mul_comm (n / 2 ^ low / 2 ^ width)]
    _ = (2 ^ width * (n / 2 ^ low / 2 ^ width) + n / 2 ^ low % 2 ^ width) * 2 ^ low := by
        rw [Nat.add_mul, Nat.add_comm]
    _ = n / 2 ^ low * 2 ^ low := by rw [whole]

theorem tiled_eq (n low : Nat) (widths : List Nat) : tiled n low widths = n / 2 ^ low * 2 ^ low := by
  induction widths generalizing low with
  | nil => rfl
  | cons width widths ih => rw [tiled, ih, bitField_add]

/-- Fields that lie side by side from the lowest bit on lose nothing of a number. -/
theorem tiled_whole (n : Nat) (widths : List Nat) : tiled n 0 widths = n := by
  rw [tiled_eq, Nat.pow_zero, Nat.div_one, Nat.mul_one]

theorem masked_shiftRight (n low width : Nat) :
    (n &&& (2 ^ width - 1) * 2 ^ low) >>> low = bitField n low width := by
  have ones : ((2 ^ width - 1) * 2 ^ low) >>> low = 2 ^ width - 1 := by
    rw [Nat.shiftRight_eq_div_pow, Nat.mul_div_cancel _ (Nat.two_pow_pos low)]
  rw [Nat.shiftRight_and_distrib, ones, Nat.and_two_pow_sub_one_eq_mod, Nat.shiftRight_eq_div_pow, bitField]

theorem toNat_masked {word mask : UInt64} (shift : UInt64) (width : Nat) (inside : shift.toNat < 64)
    (ones : mask.toNat = (2 ^ width - 1) * 2 ^ shift.toNat) :
    ((word &&& mask) >>> shift).toNat = bitField word.toNat shift.toNat width := by
  rw [UInt64.toNat_shiftRight, UInt64.toNat_and, ones, Nat.mod_eq_of_lt inside, masked_shiftRight]

end Libdiscord.Base
