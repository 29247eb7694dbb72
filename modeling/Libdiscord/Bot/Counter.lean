import Libdiscord.Bot.Hash
import Libdiscord.Json.Snowflake

/-! What the counting bot makes of a number. -/

set_option autoImplicit false

namespace Libdiscord.Bot

open Libdiscord.Base

/-- The digits of a number, as `%lld` prints them behind the sign. -/
def digitsOf (n : Nat) : Text := (Nat.toDigits 10 n).map fun c => c.toNat.toUInt8

section
variable {user : User} {w : World} {data : Json}

theorem digitsOf_digits (n : Nat) : ∀ byte ∈ digitsOf n, isDigit byte = true := by
  intro byte member
  obtain ⟨c, inside, rfl⟩ := List.mem_map.mp member
  obtain ⟨kept, low, high⟩ := digit_byte (Nat.isDigit_of_mem_toDigits (by decide) (by decide) inside)
  simp only [isDigit, Bool.and_eq_true, decide_eq_true_eq, UInt8.le_iff_toNat_le, kept]
  exact ⟨low, high⟩

theorem decimal_digitsOf (n : Nat) : decimal (digitsOf n) = n := by
  have digits : ∀ c ∈ Nat.toDigits 10 n, c.isDigit = true := fun c inside =>
    Nat.isDigit_of_mem_toDigits (by decide) (by decide) inside
  exact (decimal_from _ digits 0).trans Nat.ofDigitChars_ten_toDigits

theorem digitsOf_cons (n : Nat) : ∃ first rest, digitsOf n = first :: rest := by
  cases whole : digitsOf n with
  | nil =>
    have empty := List.map_eq_nil_iff.mp whole
    exact absurd empty Nat.toDigits_ne_nil
  | cons first rest => exact ⟨first, rest, rfl⟩

theorem digit_plain {byte : UInt8} (digit : isDigit byte = true) :
    isSpace byte = false ∧ byte ≠ 45 ∧ byte ≠ 43 := by
  simp only [isDigit, Bool.and_eq_true, decide_eq_true_eq, UInt8.le_iff_toNat_le] at digit
  have low : 48 ≤ byte.toNat := digit.1
  refine ⟨?_, fun same => absurd (same ▸ low) (by decide), fun same => absurd (same ▸ low) (by decide)⟩
  simp only [isSpace, Bool.or_eq_false_iff, decide_eq_false_iff_not, Bool.and_eq_false_iff,
    UInt8.le_iff_toNat_le, ← UInt8.toNat_inj]
  exact ⟨show byte.toNat ≠ 32 by omega, .inr (show ¬byte.toNat ≤ 13 by omega)⟩

theorem takeWhile_digitsOf (n : Nat) {rest : Text} (ends : ∀ byte ∈ rest.head?, isDigit byte = false) :
    (digitsOf n ++ rest).takeWhile isDigit = digitsOf n := by
  rw [List.takeWhile_append_of_pos (digitsOf_digits n)]
  cases rest with
  | nil => simp
  | cons byte rest =>
    have stops : isDigit byte = false := ends byte rfl
    rw [List.takeWhile_cons_of_neg (by simp [stops]), List.append_nil]

theorem decimalText_eq (n : Int64) :
    Json.decimalText n = if n < 0 then 45 :: digitsOf n.toInt.natAbs else digitsOf n.toInt.natAbs := rfl

/-- The text of a number is read back, whatever follows it. -/
theorem strtoll_decimalText (n : Int64) {rest : Text} (ends : ∀ byte ∈ rest.head?, isDigit byte = false) :
    strtoll (Json.decimalText n ++ rest) = some n := by
  have low := n.minValue_le_toInt
  have high := n.toInt_le
  obtain ⟨first, more, digits⟩ := digitsOf_cons n.toInt.natAbs
  have digit : isDigit first = true := digitsOf_digits _ first (by rw [digits]; simp)
  have read := takeWhile_digitsOf n.toInt.natAbs ends
  rw [decimalText_eq]
  have zero : n < 0 ↔ n.toInt < 0 := Int64.lt_iff_toInt_lt
  by_cases negative : n < 0
  · have value : -(n.toInt.natAbs : Int) = n.toInt := by
      have below := zero.mp negative
      omega
    have skipped : (45 :: (digitsOf n.toInt.natAbs ++ rest)).dropWhile isSpace =
        45 :: (digitsOf n.toInt.natAbs ++ rest) := List.dropWhile_cons_of_neg (by decide)
    rw [if_pos negative, List.cons_append, strtoll, skipped]
    simp only [decide_true, Bool.true_or, if_true]
    rw [digits, List.cons_append, List.head?_cons, Option.map_some, Option.getD_some, if_pos digit, strtol,
      ← List.cons_append, ← digits, skipped]
    simp only [if_true, read, decimal_digitsOf, value, Int.max_eq_left low, Int64.ofInt_toInt]
  · have value : (n.toInt.natAbs : Int) = n.toInt := by
      have above := mt zero.mpr negative
      omega
    obtain ⟨blank, minus, plus⟩ := digit_plain digit
    have skipped : (digitsOf n.toInt.natAbs ++ rest).dropWhile isSpace = digitsOf n.toInt.natAbs ++ rest := by
      rw [digits, List.cons_append]
      exact List.dropWhile_cons_of_neg (by simp [blank])
    have sign : (first = 45 || first = 43) = false := by simp [minus, plus]
    rw [if_neg negative, strtoll, strtol, skipped, digits, List.cons_append]
    simp only [sign, if_neg Bool.false_ne_true, if_neg minus, if_neg plus, List.head?_cons, Option.map_some,
      Option.getD_some, if_pos digit]
    rw [← List.cons_append, ← digits, read, decimal_digitsOf, value, Int.min_eq_left high, Int64.ofInt_toInt]

theorem toInt_succ {n : Int64} (smaller : n ≠ Int64.maxValue) : (n + 1).toInt = n.toInt + 1 := by
  have low : -2 ^ 63 ≤ n.toInt := n.le_toInt
  have high : n.toInt < 2 ^ 63 := n.toInt_lt
  have distinct : n.toInt ≠ 2 ^ 63 - 1 := fun same => smaller (Int64.toInt_inj.mp same)
  rw [Int64.toInt_add, Int64.toInt_one]
  exact Int.bmod_eq_of_le (by omega) (by omega)

/-- A number that a user writes, whatever follows it, is answered with the next one, which is read as such, exactly
if the dice are in favour of it and there is a next one. -/
theorem counter_counts_iff (n : Int64) {rest : Text} (asked : Asked user w data (Json.decimalText n ++ rest))
    (ends : ∀ byte ∈ rest.head?, isDigit byte = false) :
    (∃ reply post next, counter (some user) w .messageCreate data = some reply ∧ reply.post = some post ∧
      strtoll post.content = some next ∧ next.toInt = n.toInt + 1) ↔ w.lucky = true ∧ n ≠ Int64.maxValue := by
  obtain ⟨author, decoded, other, human⟩ := asked.author
  rw [counter, if_neg (by decide)]
  simp only [asked.content, decoded, strtoll_decimalText n ends, Option.bind_eq_bind, Option.bind_some,
    if_neg other, if_neg human]
  cases lucky : w.lucky with
  | false => simp
  | true =>
    have read : strtoll (Json.decimalText (n + 1) ++ []) = some (n + 1) := strtoll_decimalText (n + 1) (by simp)
    rw [List.append_nil] at read
    simp only [not_true, if_false, Option.some.injEq, true_and]
    constructor
    · rintro ⟨_, _, next, rfl, posted, counted, succ⟩ last
      cases posted
      cases read.symm.trans counted
      rw [last] at succ
      exact absurd succ (by decide)
    · exact fun smaller => ⟨_, _, n + 1, rfl, rfl, read, toInt_succ smaller⟩

end

theorem counter_counts_iff_last :
    ¬∃ reply post next, counter (some botUser) .calm .messageCreate
        (userMessage (Json.decimalText Int64.maxValue ++ ascii " is next")) = some reply ∧
      reply.post = some post ∧ strtoll post.content = some next ∧ next.toInt = Int64.maxValue.toInt + 1 :=
  have ends : ∀ byte ∈ (ascii " is next").head?, isDigit byte = false := fun byte member => by
    rw [show (ascii " is next").head? = some 32 by decide +kernel] at member
    cases member
    rfl
  fun counts => ((counter_counts_iff Int64.maxValue (asked_userMessage _) ends).mp counts).2 rfl

end Libdiscord.Bot
