import Libdiscord.Base.Heap
import Libdiscord.Gateway.System
import Mathlib.Logic.Function.Basic

/-! The heap beside the context, and the pointers into it.

The fields of the context hold what the pointers point to. Every block is held by one pointer or lost for good.
-/

set_option autoImplicit false

namespace Libdiscord

open Libdiscord.Base
open Heap (pointed)

inductive Variable where
  | initPresence | gatewayUrl | gatewayBotUrl | currentUser | gatewayRxBuffer | gatewaySessionId
  -- `i` and `ads_port` in `ld_gateway_connect`
  | connectInfo | adsPort
  deriving DecidableEq

inductive BlockKind where
  | of (v : Variable)
  -- the copies of the token and of the names
  | text
  | path
  | properties
  | closeMessage
  -- a payload, its text, and a text that `json_dumps` returns
  | gatewayPayload
  | payload
  | dump
  deriving DecidableEq

structure Memory where
  heap : Heap BlockKind
  stored : Variable → Option Address
  texts : List Address
  -- the payloads in the ring
  ring : List Address

namespace Memory

def empty : Memory := ⟨.empty, fun _ => none, [], []⟩

def malloc (memory : Memory) (kind : BlockKind) : Address × Memory :=
  let (p, heap) := memory.heap.malloc kind
  (p, { memory with heap })

def free (memory : Memory) (p : Option Address) : Option Memory :=
  (memory.heap.free p).map fun heap => { memory with heap }

def leak (memory : Memory) (kind : BlockKind) : Memory := (memory.malloc kind).2

def set (memory : Memory) (v : Variable) (p : Option Address) : Memory :=
  { memory with stored := Function.update memory.stored v p }

/-- A new block for a variable, whose old value is forgotten. -/
def store (memory : Memory) (v : Variable) : Memory :=
  let (p, memory) := memory.malloc (.of v)
  memory.set v (some p)

def resize (memory : Memory) (v : Variable) : Option Memory :=
  (memory.heap.realloc (memory.stored v) (.of v)).map fun (p, heap) => { memory with heap }.set v (some p)

def release (memory : Memory) (v : Variable) : Option Memory :=
  (memory.free (memory.stored v)).map (·.set v none)

def keepText (memory : Memory) : Memory :=
  let (text, memory) := memory.malloc .text
  { memory with texts := memory.texts ++ [text] }

/-- The text of a payload is copied for the ring, which takes it where there is room. -/
def insert (memory : Memory) (ring : BoundedQueue GatewayPayload) (text : Text) : Memory :=
  let (payload, memory) := memory.malloc .payload
  if (ring.insert ⟨text, text.length⟩).2 = 1 then { memory with ring := memory.ring ++ [payload] } else memory

end Memory

def Variable.all : List Variable :=
  [.initPresence, .gatewayUrl, .gatewayBotUrl, .currentUser, .gatewayRxBuffer, .gatewaySessionId, .connectInfo,
    .adsPort]

/-- What the pointers point to: which of the variables, and how many texts and payloads. -/
structure Inventory where
  has : Variable → Bool
  texts : Nat
  waiting : Nat

namespace Inventory

def set (inventory : Inventory) (v : Variable) (has : Bool) : Inventory :=
  { inventory with has := Function.update inventory.has v has }

def kinds (inventory : Inventory) : List BlockKind :=
  .replicate inventory.texts .text ++ .replicate inventory.waiting .payload ++
    (Variable.all.filter inventory.has).map .of

end Inventory

namespace Memory

def held (memory : Memory) : List (Address × BlockKind) :=
  memory.texts.map (·, .text) ++ memory.ring.map (·, .payload) ++
    Variable.all.flatMap fun v => pointed (memory.stored v) (.of v)

theorem held_stored (memory : Memory) (v : Variable) :
    memory.held.Perm (pointed (memory.stored v) (.of v) ++ (memory.set v none).held) := by
  refine List.perm_iff_count.mpr fun b => ?_
  cases v <;>
  · simp [held, Variable.all, set, Function.update, pointed, List.count_append]
    try omega

theorem held_set (memory : Memory) (heap : Heap BlockKind) (v : Variable) (p : Address) :
    ({ memory with heap }.set v (some p)).held.Perm
      (pointed (some p) (BlockKind.of v) ++ (memory.set v none).held) := by
  have taken := ({ memory with heap }.set v (some p)).held_stored v
  simp only [set, Function.update_self, Function.update_idem] at taken
  exact taken

theorem stored_kinds (memory : Memory) (all : List Variable) :
    (all.flatMap fun v => pointed (memory.stored v) (BlockKind.of v)).map Prod.snd =
      (all.filter fun v => (memory.stored v).isSome).map BlockKind.of := by
  induction all with
  | nil => rfl
  | cons v rest ih =>
    rw [List.flatMap_cons, List.map_append, ih]
    cases stored : memory.stored v <;> simp [pointed, stored]

theorem held_queued (memory : Memory) (p : Address) : { memory with ring := memory.ring ++ [p] }.held.Perm
    ((p, .payload) :: memory.held) := by
  refine List.perm_iff_count.mpr fun b => ?_
  simp [held, List.count_append, List.count_cons]
  omega

theorem held_taken {memory : Memory} {p : Address} {ring : List Address} (taken : memory.ring = p :: ring) :
    memory.held.Perm ((p, .payload) :: { memory with ring }.held) := by
  refine List.perm_iff_count.mpr fun b => ?_
  simp [held, taken, List.count_append, List.count_cons]
  omega

theorem held_text (memory : Memory) (p : Address) : { memory with texts := memory.texts ++ [p] }.held.Perm
    ((p, .text) :: memory.held) := by
  refine List.perm_iff_count.mpr fun b => ?_
  simp [held, List.count_append, List.count_cons]
  omega

end Memory

/-- Every pointer points to a block of its own, and what else is allocated was lost. -/
structure Owns (inventory : Inventory) (memory : Memory) (lost : List BlockKind) : Prop where
  holds : memory.heap.Holds memory.held lost
  stored : ∀ v, (memory.stored v).isSome = inventory.has v
  texts : memory.texts.length = inventory.texts
  waiting : memory.ring.length = inventory.waiting

namespace Owns
variable {inventory : Inventory} {memory : Memory} {lost : List BlockKind}

theorem congr {other : Inventory} (owns : Owns inventory memory lost) (has : ∀ v, inventory.has v = other.has v)
    (texts : inventory.texts = other.texts) (waiting : inventory.waiting = other.waiting) :
    Owns other memory lost where
  holds := owns.holds
  stored v := (owns.stored v).trans (has v)
  texts := owns.texts.trans texts
  waiting := owns.waiting.trans waiting

theorem stored_set (owns : Owns inventory memory lost) (v : Variable) (p : Option Address) (u : Variable) :
    ((memory.set v p).stored u).isSome = (inventory.set v p.isSome).has u := by
  by_cases same : u = v
  · subst same
    simp [Memory.set, Inventory.set]
  · simpa [Memory.set, Inventory.set, same] using owns.stored u

theorem leak (owns : Owns inventory memory lost) (kind : BlockKind) :
    Owns inventory (memory.leak kind) (lost ++ [kind]) :=
  { owns with holds := owns.holds.malloc_lost kind }

theorem malloc_free (owns : Owns inventory memory lost) (kind : BlockKind) :
    ∃ after, (memory.malloc kind).2.free (some (memory.malloc kind).1) = some after ∧
      Owns inventory after lost := by
  obtain ⟨heap, freed, holds⟩ := Heap.Holds.free (p := some memory.heap.next) (owns.holds.malloc kind)
  exact ⟨{ memory with heap }, Option.map_eq_some_iff.mpr ⟨heap, freed, rfl⟩, { owns with holds }⟩

theorem store (owns : Owns inventory memory lost) (v : Variable) :
    Owns (inventory.set v true) (memory.store v) (lost ++ if inventory.has v then [.of v] else []) := by
  have holds := (owns.holds.perm (memory.held_stored v)).overwrite
  rw [owns.stored v] at holds
  refine ⟨holds.perm ?_, owns.stored_set v (some memory.heap.next), owns.texts, owns.waiting⟩
  exact (memory.held_set _ v _).symm

theorem store_new (owns : Owns inventory memory lost) {v : Variable} (unset : inventory.has v = false) :
    Owns (inventory.set v true) (memory.store v) lost := by
  have stored := owns.store v
  rw [unset, if_neg Bool.false_ne_true, List.append_nil] at stored
  exact stored

theorem forget (owns : Owns inventory memory lost) (v : Variable) :
    Owns (inventory.set v false) (memory.set v none) (lost ++ if inventory.has v then [.of v] else []) := by
  have holds := (owns.holds.perm (memory.held_stored v)).lose
  rw [owns.stored v] at holds
  exact ⟨holds, owns.stored_set v none, owns.texts, owns.waiting⟩

theorem release (owns : Owns inventory memory lost) (v : Variable) :
    ∃ after, memory.release v = some after ∧ Owns (inventory.set v false) after lost := by
  obtain ⟨heap, freed, holds⟩ := (owns.holds.perm (memory.held_stored v)).free
  refine ⟨{ memory with heap }.set v none, ?_, holds, owns.stored_set v none, owns.texts, owns.waiting⟩
  rw [Memory.release, Memory.free, freed]
  rfl

theorem resize (owns : Owns inventory memory lost) (v : Variable) :
    ∃ after, memory.resize v = some after ∧ Owns (inventory.set v true) after lost := by
  obtain ⟨p, heap, resized, holds⟩ := (owns.holds.perm (memory.held_stored v)).realloc
  refine ⟨{ memory with heap }.set v (some p), ?_, holds.perm (memory.held_set heap v p).symm,
    owns.stored_set v (some p), owns.texts, owns.waiting⟩
  rw [Memory.resize, resized]
  rfl

theorem insert (owns : Owns inventory memory lost) (ring : BoundedQueue GatewayPayload) (text : Text)
    (waiting : inventory.waiting = ring.items.length) :
    Owns { inventory with waiting := (ring.insert ⟨text, text.length⟩).1.items.length } (memory.insert ring text)
      (lost ++ if ring.free = 0 then [.payload] else []) := by
  rcases ring.insert_cases ⟨text, text.length⟩ with ⟨one, items, room⟩ | ⟨refused, full⟩
  · have free : ¬ring.free = 0 := fun none => Nat.ne_of_lt room (ring.free_eq_zero.mp none)
    rw [if_neg free, List.append_nil, Memory.insert]
    dsimp only
    rw [if_pos one, items]
    refine ⟨(owns.holds.malloc .payload).perm (Memory.held_queued _ _).symm, owns.stored, owns.texts, ?_⟩
    simp [Memory.malloc, owns.waiting, waiting]
  · rw [if_pos (ring.free_eq_zero.mpr full), Memory.insert]
    dsimp only
    rw [refused, if_neg Nat.zero_ne_one, ← waiting]
    exact owns.leak .payload

theorem keepText (owns : Owns inventory memory lost) :
    Owns { inventory with texts := inventory.texts + 1 } memory.keepText lost where
  holds := (owns.holds.malloc .text).perm (Memory.held_text _ _).symm
  stored := owns.stored
  texts := by simp [Memory.keepText, Memory.malloc, owns.texts]
  waiting := owns.waiting

theorem kinds (owns : Owns inventory memory lost) :
    (memory.heap.blocks.map Prod.snd).Perm (inventory.kinds ++ lost) := by
  have same : memory.held.map Prod.snd = inventory.kinds := by
    simp only [Memory.held, List.map_append, List.map_map, Memory.stored_kinds, owns.stored, Inventory.kinds,
      ← owns.texts, ← owns.waiting]
    simp [Function.comp_def, List.map_const']
  exact same ▸ owns.holds.kinds

end Owns

end Libdiscord
