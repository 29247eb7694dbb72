/-! Messages that arrive in fragments.

A message is sent as one or more fragments, the first and the last of them flagged. `assemble`
says what the receiver of a sequence of fragments is owed: the complete messages in order, and
what has arrived of the message in progress.
-/

set_option autoImplicit false

namespace Libdiscord.Base

structure Fragment (α : Type) where
  data : List α
  first : Bool
  final : Bool
  deriving DecidableEq

/-- `pending` is the part of an unfinished message, `none` between messages. -/
structure Assembly (α : Type) where
  messages : List (List α)
  pending : Option (List α)

namespace Assembly
variable {α : Type}

def start : Assembly α := ⟨[], none⟩

def push (assembly : Assembly α) (fragment : Fragment α) : Assembly α :=
  let whole := if fragment.first then fragment.data else assembly.pending.getD [] ++ fragment.data
  if fragment.final then ⟨assembly.messages ++ [whole], none⟩ else ⟨assembly.messages, some whole⟩

theorem push_pending (assembly : Assembly α) (fragment : Fragment α) :
    (assembly.push fragment).pending = (push ⟨[], assembly.pending⟩ fragment).pending := by
  unfold push
  cases fragment.final <;> rfl

theorem push_messages (assembly : Assembly α) (fragment : Fragment α) :
    (assembly.push fragment).messages =
      assembly.messages ++ (push ⟨[], assembly.pending⟩ fragment).messages := by
  unfold push
  cases fragment.final <;> simp

/-- The flags of the next fragment agree with the progress made: a message begins exactly where
none is in progress. -/
def Accepts (assembly : Assembly α) (fragment : Fragment α) : Prop :=
  fragment.first = assembly.pending.isNone

theorem push_accepted {assembly : Assembly α} {fragment : Fragment α} (accepts : assembly.Accepts fragment) :
    assembly.push fragment =
      if fragment.final then ⟨assembly.messages ++ [assembly.pending.getD [] ++ fragment.data], none⟩
      else ⟨assembly.messages, some (assembly.pending.getD [] ++ fragment.data)⟩ := by
  unfold push
  rw [accepts]
  cases assembly.pending <;> rfl

end Assembly

section
variable {α : Type}

def assembleFrom (assembly : Assembly α) (fragments : List (Fragment α)) : Assembly α :=
  fragments.foldl Assembly.push assembly

def assemble (fragments : List (Fragment α)) : Assembly α := assembleFrom .start fragments

theorem assemble_concat (fragments : List (Fragment α)) (fragment : Fragment α) :
    assemble (fragments ++ [fragment]) = (assemble fragments).push fragment := by
  simp [assemble, assembleFrom]

theorem assembleFrom_append (assembly : Assembly α) (fragments more : List (Fragment α)) :
    assembleFrom assembly (fragments ++ more) = assembleFrom (assembleFrom assembly fragments) more := by
  simp [assembleFrom]

theorem mem_assembleFrom {message : List α} (fragments : List (Fragment α)) {assembly : Assembly α}
    (complete : message ∈ assembly.messages) : message ∈ (assembleFrom assembly fragments).messages := by
  induction fragments generalizing assembly with
  | nil => exact complete
  | cons fragment rest ih =>
    apply ih
    rw [Assembly.push_messages]
    exact List.mem_append_left _ complete

def WellFlagged (assembly : Assembly α) : List (Fragment α) → Prop
  | [] => True
  | fragment :: rest => assembly.Accepts fragment ∧ WellFlagged (assembly.push fragment) rest

theorem wellFlagged_append (assembly : Assembly α) (fragments more : List (Fragment α)) :
    WellFlagged assembly (fragments ++ more) ↔
      WellFlagged assembly fragments ∧ WellFlagged (assembleFrom assembly fragments) more := by
  induction fragments generalizing assembly with
  | nil => simp [WellFlagged, assembleFrom]
  | cons fragment rest ih =>
    simp only [List.cons_append, WellFlagged, ih, and_assoc]
    rfl

def opening (first : Bool) : List (List α) → List (Fragment α)
  | [] => []
  | chunk :: rest => ⟨chunk, first, false⟩ :: opening false rest

/-- The chunks of a complete message: the first one flagged first, the last one final. -/
def split (first : Bool) : List (List α) → List (Fragment α)
  | [] => []
  | [chunk] => [⟨chunk, first, true⟩]
  | chunk :: next :: rest => ⟨chunk, first, false⟩ :: split false (next :: rest)

theorem assemble_opening_rest (messages : List (List α)) (got : List α) (chunks : List (List α)) :
    assembleFrom ⟨messages, some got⟩ (opening false chunks) = ⟨messages, some (got ++ chunks.flatten)⟩ ∧
      WellFlagged ⟨messages, some got⟩ (opening false chunks) := by
  induction chunks generalizing got with
  | nil => simp [opening, assembleFrom, WellFlagged]
  | cons chunk rest ih =>
    obtain ⟨assembled, flagged⟩ := ih (got ++ chunk)
    refine ⟨?_, rfl, flagged⟩
    simpa [opening, assembleFrom, Assembly.push] using assembled

theorem assemble_opening (messages : List (List α)) (chunks : List (List α)) (some_chunk : chunks ≠ []) :
    assembleFrom ⟨messages, none⟩ (opening true chunks) = ⟨messages, some chunks.flatten⟩ ∧
      WellFlagged ⟨messages, none⟩ (opening true chunks) := by
  cases chunks with
  | nil => contradiction
  | cons chunk rest =>
    obtain ⟨assembled, flagged⟩ := assemble_opening_rest messages chunk rest
    exact ⟨assembled, rfl, flagged⟩

theorem assemble_split_rest (messages : List (List α)) (got : List α) (chunks : List (List α))
    (some_chunk : chunks ≠ []) :
    assembleFrom ⟨messages, some got⟩ (split false chunks) = ⟨messages ++ [got ++ chunks.flatten], none⟩ ∧
      WellFlagged ⟨messages, some got⟩ (split false chunks) := by
  induction chunks generalizing got with
  | nil => contradiction
  | cons chunk rest ih =>
    cases rest with
    | nil => simp [split, assembleFrom, Assembly.push, WellFlagged, Assembly.Accepts]
    | cons next rest =>
      obtain ⟨assembled, flagged⟩ := ih (got ++ chunk) (by simp)
      refine ⟨?_, rfl, flagged⟩
      simpa [split, assembleFrom, Assembly.push] using assembled

/-- However a message is split, it arrives as one message. -/
theorem assemble_split (messages : List (List α)) (chunks : List (List α)) (some_chunk : chunks ≠ []) :
    assembleFrom ⟨messages, none⟩ (split true chunks) = ⟨messages ++ [chunks.flatten], none⟩ ∧
      WellFlagged ⟨messages, none⟩ (split true chunks) := by
  cases chunks with
  | nil => contradiction
  | cons chunk rest =>
    cases rest with
    | nil => simp [split, assembleFrom, Assembly.push, WellFlagged, Assembly.Accepts]
    | cons next rest =>
      obtain ⟨assembled, flagged⟩ := assemble_split_rest messages chunk (next :: rest) (by simp)
      exact ⟨assembled, rfl, flagged⟩

theorem assemble_splits (done : List (List (List α))) (nonempty : ∀ chunks ∈ done, chunks ≠ [])
    (messages : List (List α)) :
    assembleFrom ⟨messages, none⟩ (done.flatMap (split true)) =
        ⟨messages ++ done.map List.flatten, none⟩ ∧
      WellFlagged ⟨messages, none⟩ (done.flatMap (split true)) := by
  induction done generalizing messages with
  | nil => simp [assembleFrom, WellFlagged]
  | cons chunks rest ih =>
    obtain ⟨assembled, flagged⟩ := assemble_split messages chunks (nonempty chunks (by simp))
    obtain ⟨tail, tailFlagged⟩ := ih (fun c member => nonempty c (by simp [member]))
      (messages ++ [chunks.flatten])
    rw [List.flatMap_cons, assembleFrom_append, wellFlagged_append, assembled]
    refine ⟨?_, flagged, tailFlagged⟩
    simpa using tail

end

end Libdiscord.Base
