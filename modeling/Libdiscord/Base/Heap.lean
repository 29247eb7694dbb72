import Mathlib.Data.List.Perm.Basic

/-! Blocks of memory that are allocated and freed, and who holds them.

Every pointer is given out once. To free what is not allocated is undefined.
-/

set_option autoImplicit false

namespace Libdiscord.Base

abbrev Address := Nat

structure Heap (Kind : Type) where
  next : Address
  blocks : List (Address × Kind)

namespace Heap
variable {Kind : Type}

def empty : Heap Kind := ⟨0, []⟩

def pointers (heap : Heap Kind) : List Address := heap.blocks.map Prod.fst

def malloc (heap : Heap Kind) (kind : Kind) : Address × Heap Kind :=
  (heap.next, ⟨heap.next + 1, (heap.next, kind) :: heap.blocks⟩)

/-- `free`, `none` where it is undefined. -/
def free (heap : Heap Kind) : Option Address → Option (Heap Kind)
  | none => some heap
  | some p => if p ∈ heap.pointers then some { heap with blocks := heap.blocks.filter (·.1 ≠ p) } else none

def realloc (heap : Heap Kind) (p : Option Address) (kind : Kind) : Option (Address × Heap Kind) :=
  (heap.free p).map (·.malloc kind)

def pointed (p : Option Address) (kind : Kind) : List (Address × Kind) := (p.map (·, kind)).toList

/-- The blocks are those that are held and those that are lost, each once. The lost ones are told by what they were
for, in the order they were lost. -/
structure Holds (heap : Heap Kind) (held : List (Address × Kind)) (lost : List Kind) : Prop where
  blocks : ∃ others, heap.blocks.Perm (held ++ others) ∧ others.map Prod.snd = lost
  distinct : heap.pointers.Nodup
  fresh : ∀ p ∈ heap.pointers, p < heap.next

namespace Holds
variable {heap : Heap Kind} {held more : List (Address × Kind)} {lost : List Kind} {p : Address} {kind : Kind}

theorem empty : (Heap.empty : Heap Kind).Holds [] [] :=
  ⟨⟨[], .refl _, rfl⟩, List.nodup_nil, by simp [Heap.empty, pointers]⟩

theorem perm (holds : heap.Holds held lost) (same : held.Perm more) : heap.Holds more lost := by
  obtain ⟨others, blocks, kinds⟩ := holds.blocks
  exact ⟨⟨others, blocks.trans (same.append_right others), kinds⟩, holds.distinct, holds.fresh⟩

theorem malloc (holds : heap.Holds held lost) (kind : Kind) :
    (heap.malloc kind).2.Holds ((heap.next, kind) :: held) lost := by
  obtain ⟨others, blocks, kinds⟩ := holds.blocks
  refine ⟨⟨others, blocks.cons _, kinds⟩, ?_, ?_⟩
  · refine List.nodup_cons.mpr ⟨fun old => ?_, holds.distinct⟩
    exact Nat.lt_irrefl _ (holds.fresh _ old)
  · intro p member
    rcases List.mem_cons.mp member with rfl | old
    · exact Nat.lt_succ_self _
    · exact Nat.lt_succ_of_lt (holds.fresh p old)

theorem allocated (holds : heap.Holds held lost) (member : (p, kind) ∈ held) : p ∈ heap.pointers := by
  obtain ⟨others, blocks, _⟩ := holds.blocks
  exact List.mem_map.mpr ⟨(p, kind), blocks.mem_iff.mpr (List.mem_append_left _ member), rfl⟩

theorem free_block (holds : heap.Holds ((p, kind) :: held) lost) :
    ∃ next, heap.free (some p) = some next ∧ next.Holds held lost := by
  have allocated := holds.allocated List.mem_cons_self
  obtain ⟨others, blocks, kinds⟩ := holds.blocks
  refine ⟨{ heap with blocks := heap.blocks.filter (·.1 ≠ p) }, if_pos allocated, ⟨others, ?_, kinds⟩, ?_, ?_⟩
  · have distinct : ((p, kind) :: (held ++ others)).map Prod.fst |>.Nodup :=
      (blocks.map Prod.fst).nodup_iff.mp holds.distinct
    have apart : ∀ b ∈ held ++ others, decide (b.1 ≠ p) = true := by
      intro b member
      rw [decide_eq_true_eq]
      rintro rfl
      exact (List.nodup_cons.mp distinct).1 (List.mem_map.mpr ⟨b, member, rfl⟩)
    have filtered := blocks.filter (·.1 ≠ p)
    rw [List.cons_append, List.filter_cons_of_neg (by simp), List.filter_eq_self.mpr apart] at filtered
    exact filtered
  · exact holds.distinct.sublist (List.filter_sublist.map Prod.fst)
  · intro q member
    exact holds.fresh q ((List.filter_sublist.map Prod.fst).subset member)

theorem free {p : Option Address} (holds : heap.Holds (pointed p kind ++ held) lost) :
    ∃ next, heap.free p = some next ∧ next.Holds held lost := by
  cases p with
  | none => exact ⟨heap, rfl, holds⟩
  | some p => exact holds.free_block

theorem realloc {p : Option Address} (holds : heap.Holds (pointed p kind ++ held) lost) :
    ∃ q next, heap.realloc p kind = some (q, next) ∧ next.Holds (pointed (some q) kind ++ held) lost := by
  obtain ⟨freed, ran, rest⟩ := holds.free
  exact ⟨freed.next, (freed.malloc kind).2, by rw [Heap.realloc, ran, Option.map_some]; rfl, rest.malloc kind⟩

theorem lose_block (holds : heap.Holds ((p, kind) :: held) lost) : heap.Holds held (lost ++ [kind]) := by
  obtain ⟨others, blocks, kinds⟩ := holds.blocks
  refine ⟨⟨others ++ [(p, kind)], ?_, by simp [kinds]⟩, holds.distinct, holds.fresh⟩
  refine blocks.trans ?_
  rw [← List.append_assoc]
  exact (List.perm_append_singleton (p, kind) (held ++ others)).symm

theorem lose {p : Option Address} (holds : heap.Holds (pointed p kind ++ held) lost) :
    heap.Holds held (lost ++ if p.isSome then [kind] else []) := by
  cases p with
  | none =>
    rw [Option.isSome_none, if_neg Bool.false_ne_true, List.append_nil]
    exact holds
  | some p => exact holds.lose_block

theorem malloc_lost (holds : heap.Holds held lost) (kind : Kind) :
    (heap.malloc kind).2.Holds held (lost ++ [kind]) :=
  (holds.malloc kind).lose_block

theorem overwrite {p : Option Address} (holds : heap.Holds (pointed p kind ++ held) lost) :
    (heap.malloc kind).2.Holds (pointed (some heap.next) kind ++ held)
      (lost ++ if p.isSome then [kind] else []) := by
  refine Holds.lose ((holds.malloc kind).perm ?_)
  exact (List.perm_append_comm_assoc [(heap.next, kind)] (pointed p kind) held)

theorem kinds (holds : heap.Holds held lost) :
    (heap.blocks.map Prod.snd).Perm (held.map Prod.snd ++ lost) := by
  obtain ⟨others, blocks, rfl⟩ := holds.blocks
  rw [← List.map_append]
  exact blocks.map Prod.snd

end Holds

end Heap

end Libdiscord.Base
