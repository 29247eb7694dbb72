/-! A queue that holds at most `capacity` elements.

Insertion reports how many elements it took, so that a full queue is visible to the caller
and never changes.
-/

set_option autoImplicit false

namespace Libdiscord.Base

structure BoundedQueue (α : Type) where
  capacity : Nat
  items : List α
  bounded : items.length ≤ capacity

namespace BoundedQueue
variable {α : Type}

def empty (capacity : Nat) : BoundedQueue α := ⟨capacity, [], Nat.zero_le _⟩

def waiting (queue : BoundedQueue α) : Nat := queue.items.length

def free (queue : BoundedQueue α) : Nat := queue.capacity - queue.items.length

/-- Append one element where there is room; the number is how many elements were taken. -/
def insert (queue : BoundedQueue α) (element : α) : BoundedQueue α × Nat :=
  if room : queue.items.length < queue.capacity then
    (⟨queue.capacity, queue.items ++ [element], by rw [List.length_append]; exact room⟩, 1)
  else (queue, 0)

def consume (queue : BoundedQueue α) : Option (α × BoundedQueue α) :=
  match shape : queue.items with
  | [] => none
  | first :: rest => some (first, ⟨queue.capacity, rest, by
      have := queue.bounded
      simp only [shape, List.length_cons] at this
      omega⟩)

theorem free_eq_zero (queue : BoundedQueue α) : queue.free = 0 ↔ queue.items.length = queue.capacity := by
  have := queue.bounded
  unfold free
  omega

theorem insert_of_room (queue : BoundedQueue α) (element : α) (room : queue.items.length < queue.capacity) :
    (queue.insert element).1.items = queue.items ++ [element] ∧ (queue.insert element).2 = 1 := by
  simp [insert, room]

theorem insert_of_full (queue : BoundedQueue α) (element : α) (full : ¬queue.items.length < queue.capacity) :
    queue.insert element = (queue, 0) := by
  simp [insert, full]

@[simp] theorem insert_capacity (queue : BoundedQueue α) (element : α) :
    (queue.insert element).1.capacity = queue.capacity := by
  unfold insert
  split <;> rfl

theorem insert_cases (queue : BoundedQueue α) (element : α) :
    ((queue.insert element).2 = 1 ∧ (queue.insert element).1.items = queue.items ++ [element] ∧
      queue.items.length < queue.capacity) ∨
    (queue.insert element = (queue, 0) ∧ queue.items.length = queue.capacity) := by
  by_cases room : queue.items.length < queue.capacity
  · obtain ⟨items, count⟩ := queue.insert_of_room element room
    exact .inl ⟨count, items, room⟩
  · have := queue.bounded
    exact .inr ⟨queue.insert_of_full element room, by omega⟩

theorem consume_items (queue : BoundedQueue α) :
    (queue.consume.map fun taken => (taken.1, taken.2.items)) =
      match queue.items with
      | [] => none
      | first :: rest => some (first, rest) := by
  unfold consume
  split <;> simp_all

theorem consume_some {queue rest : BoundedQueue α} {element : α}
    (taken : queue.consume = some (element, rest)) : queue.items = element :: rest.items := by
  have items := queue.consume_items
  rw [taken] at items
  cases shape : queue.items with
  | nil => simp [shape] at items
  | cons first tail =>
    simp only [shape, Option.map_some, Option.some.injEq, Prod.mk.injEq] at items
    rw [items.1, items.2]

theorem consume_capacity {queue rest : BoundedQueue α} {element : α}
    (taken : queue.consume = some (element, rest)) : rest.capacity = queue.capacity := by
  unfold consume at taken
  split at taken
  · cases taken
  · cases taken
    rfl

theorem consume_none {queue : BoundedQueue α} (empty : queue.consume = none) : queue.items = [] := by
  have items := queue.consume_items
  rw [empty] at items
  cases shape : queue.items with
  | nil => rfl
  | cons first tail => simp [shape] at items

end BoundedQueue

end Libdiscord.Base
