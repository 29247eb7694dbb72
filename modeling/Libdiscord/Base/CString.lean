import Libdiscord.Base.Block
import Mathlib.Data.List.TakeWhile

/-! Strings that end with a zero, in lists of bytes and in blocks of memory. -/

set_option autoImplicit false

namespace Libdiscord.Base

section Prefix
variable {α : Type} {p : α → Bool}

/-- The prefix of elements that satisfy `p` has the length of `n` exactly if the first `n` elements are there
and do, and the next one is not there or does not. -/
theorem length_takeWhile_iff {xs : List α} {n : Nat} :
    (xs.takeWhile p).length = n ↔
      (∀ i < n, ∃ x, xs[i]? = some x ∧ p x = true) ∧ ∀ x, xs[n]? = some x → p x = false := by
  induction xs generalizing n with
  | nil =>
    simp only [List.takeWhile_nil, List.length_nil, List.getElem?_nil]
    constructor
    · rintro rfl
      exact ⟨nofun, nofun⟩
    · rintro ⟨all, _⟩
      by_contra nonzero
      obtain ⟨x, found, _⟩ := all 0 (by omega)
      cases found
  | cons x xs ih =>
    cases here : p x with
    | false =>
      rw [List.takeWhile_cons_of_neg (by simp [here]), List.length_nil]
      constructor
      · rintro rfl
        refine ⟨nofun, fun y found => ?_⟩
        cases found
        exact here
      · rintro ⟨all, _⟩
        by_contra nonzero
        obtain ⟨y, found, good⟩ := all 0 (by omega)
        cases found
        exact nomatch here.symm.trans good
    | true =>
      rw [List.takeWhile_cons_of_pos here, List.length_cons]
      cases n with
      | zero =>
        refine iff_of_false nofun fun both => ?_
        exact nomatch here.symm.trans (both.2 x rfl)
      | succ n =>
        rw [Nat.succ_inj, ih]
        simp only [List.getElem?_cons_succ]
        refine and_congr_left fun _ => ⟨fun all i bound => ?_, fun all i bound => all (i + 1) (by omega)⟩
        cases i with
        | zero => exact ⟨x, rfl, here⟩
        | succ i => exact all i (by omega)

end Prefix

abbrev CString := { bytes : List UInt8 // 0 ∉ bytes }

namespace Block

/-- The place of the first zero; `none` if a cell that was never written, or the end of the block, comes
before it. -/
def strlen (block : Block UInt8) : Option Nat :=
  ((List.range block.requested).find? fun i => (block.cells i).getD 0 = 0).filter fun i =>
    block.cells i = some 0

def string (block : Block UInt8) : Option (List UInt8) := block.strlen.map (block.read fun _ => 0)

def strcat (block : Block UInt8) (more : List UInt8) : Option (Block UInt8) :=
  block.strlen.map fun offset => block.write offset (more ++ [0])

structure Terminated (block : Block UInt8) (text : List UInt8) : Prop where
  holds : block.Holds (text ++ [0])
  nonzero : 0 ∉ text
  inside : text.length < block.requested

variable {block : Block UInt8} {text : List UInt8}

theorem Holds.left {α : Type} {block : Block α} {data more : List α} (holds : block.Holds (data ++ more)) :
    block.Holds data := by
  intro i bound
  rw [holds i (by rw [List.length_append]; omega), List.getElem?_append_left bound]

theorem Terminated.strlen (terminated : Terminated block text) : block.strlen = some text.length := by
  obtain ⟨holds, nonzero, inside⟩ := terminated
  have stop : block.cells text.length = some 0 := by
    rw [holds text.length (by simp), List.getElem?_concat_length]
  have found : ((List.range block.requested).find? fun i => (block.cells i).getD 0 = 0) = some text.length := by
    rw [List.find?_range_eq_some]
    refine ⟨by simp [stop], List.mem_range.mpr inside, fun i before => ?_⟩
    have byte : text[i] ≠ 0 := fun zero => nonzero (zero ▸ List.getElem_mem before)
    simp [holds.left i before, before, byte]
  rw [Block.strlen, found, Option.filter_some, if_pos (by simp [stop])]

theorem Terminated.string (terminated : Terminated block text) : block.string = some text := by
  rw [Block.string, terminated.strlen, Option.map_some, terminated.holds.left.read]

theorem Terminated.strcat (terminated : Terminated block text) (more : CString)
    (fits : text.length + more.val.length < block.requested) :
    ∃ next, block.strcat more.val = some next ∧ Terminated next (text ++ more.val) ∧
      next.requested = block.requested := by
  refine ⟨block.write text.length (more.val ++ [0]), by rw [Block.strcat, terminated.strlen]; rfl, ?_, rfl⟩
  refine ⟨?_, by simp [terminated.nonzero, more.property], by simpa using fits⟩
  rw [List.append_assoc]
  exact terminated.holds.left.write_end _

theorem terminated_empty (block : Block UInt8) (room : 0 < block.requested) :
    Terminated (block.write 0 [0]) [] :=
  ⟨(block.holds_nil).write_end [0], nofun, room⟩

end Block

end Libdiscord.Base
