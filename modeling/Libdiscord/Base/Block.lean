/-! Memory blocks that remember the size last requested for them.

A block has contents at every offset, so that a write past the requested size is not lost:
whether it stayed inside is a statement about `requested`, made by the writer.
-/

set_option autoImplicit false

namespace Libdiscord.Base

/-- Contents by offset; `none` marks a cell that was never written. -/
structure Block (α : Type) where
  requested : Nat
  cells : Nat → Option α

namespace Block
variable {α : Type}

def malloc (size : Nat) : Block α := ⟨size, fun _ => none⟩

def resize (block : Block α) (size : Nat) : Block α :=
  ⟨size, fun i => if i < min block.requested size then block.cells i else none⟩

def realloc : Option (Block α) → Nat → Block α
  | none, size => malloc size
  | some block, size => block.resize size

def write (block : Block α) (offset : Nat) (data : List α) : Block α :=
  { block with cells := fun i =>
      if offset ≤ i ∧ i < offset + data.length then data[i - offset]? else block.cells i }

/-- The first `count` cells; what a cell holds that was never written is up to `stray`. -/
def read (block : Block α) (stray : Nat → α) (count : Nat) : List α :=
  (List.range count).map fun i => (block.cells i).getD (stray i)

def Holds (block : Block α) (data : List α) : Prop :=
  ∀ i, i < data.length → block.cells i = data[i]?

@[simp] theorem malloc_requested (size : Nat) : (malloc size : Block α).requested = size := rfl
@[simp] theorem resize_requested (block : Block α) (size : Nat) : (block.resize size).requested = size := rfl
@[simp] theorem write_requested (block : Block α) (offset : Nat) (data : List α) :
    (block.write offset data).requested = block.requested := rfl

@[simp] theorem holds_nil (block : Block α) : block.Holds [] := by simp [Holds]

theorem Holds.resize {block : Block α} {data : List α} {size : Nat} (holds : block.Holds data)
    (inside : data.length ≤ block.requested) (fits : data.length ≤ size) :
    (block.resize size).Holds data := by
  intro i bound
  have kept : i < min block.requested size := by omega
  simp only [Block.resize, if_pos kept]
  exact holds i bound

theorem Holds.write_end {block : Block α} {data : List α} (holds : block.Holds data) (more : List α) :
    (block.write data.length more).Holds (data ++ more) := by
  intro i bound
  rw [List.length_append] at bound
  by_cases old : i < data.length
  · have outside : ¬(data.length ≤ i ∧ i < data.length + more.length) := by omega
    simp only [write, if_neg outside]
    rw [List.getElem?_append_left old]
    exact holds i old
  · have within : data.length ≤ i ∧ i < data.length + more.length := by omega
    simp only [write, if_pos within]
    rw [List.getElem?_append_right (by omega)]

theorem Holds.write_behind {block : Block α} {data : List α} {offset : Nat} (holds : block.Holds data)
    (behind : data.length ≤ offset) (more : List α) : (block.write offset more).Holds data := by
  intro i bound
  have outside : ¬(offset ≤ i ∧ i < offset + more.length) := by omega
  simp only [write, if_neg outside]
  exact holds i bound

theorem Holds.read {block : Block α} {data : List α} (holds : block.Holds data) (stray : Nat → α) :
    block.read stray data.length = data := by
  apply List.ext_getElem?
  intro i
  by_cases bound : i < data.length
  · simp [Block.read, bound, holds i bound]
  · simp [Block.read, bound]

end Block

end Libdiscord.Base
