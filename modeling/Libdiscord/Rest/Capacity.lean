import Libdiscord.Base.Transition
import Libdiscord.Rest.Headers

/-! Whether the arrays of headers and the block of a response body are as large as what is written to them. -/

set_option autoImplicit false

namespace Libdiscord.Rest

open Libdiscord.Base

def Slots.Inside (slots : Slots) (i : Nat) : Prop := pointerSize * (i + 1) ≤ slots.requested

/-- All pointers below this length lie inside the bytes requested: `ld_headers_put` writes the last of them,
`ld_headers_clean` and `ld_headers2curl` read all. -/
def Slots.Roomy (slots : Slots) (length : Nat) : Prop := ∀ i < length, slots.Inside i

def Headers.Roomy (headers : Headers) : Prop :=
  headers.key.Roomy headers.length ∧ headers.value.Roomy headers.length

def HeadersCall.step (headers : Headers) (call : HeadersCall) : Option Headers := some (call.run headers)

section Arrays
variable {headers : Headers}

theorem Slots.roomy_iff {slots : Slots} {length : Nat} :
    slots.Roomy length ↔ pointerSize * length ≤ slots.requested := by
  cases length with
  | zero => simp [Slots.Roomy]
  | succ n =>
    constructor
    · intro roomy
      exact roomy n (Nat.lt_succ_self n)
    · intro enough i below
      exact Nat.le_trans (Nat.mul_le_mul_left _ below) enough

theorem Headers.roomy_of_empty (empty : headers.length = 0) : headers.Roomy := by
  constructor <;> · rw [empty]; exact fun _ below => absurd below (Nat.not_lt_zero _)

/-- The parenthesis of the key array's size is missing in the value array's: of the last pointer it asks
for a single byte. -/
theorem Headers.put_short (headers : Headers) (key value : Text) :
    (headers.put key value).value.requested + (pointerSize - 1) =
      pointerSize * (headers.put key value).length := by
  simp only [Headers.put, pointerSize]
  omega

theorem Headers.put_not_roomy (headers : Headers) (key value : Text) : ¬(headers.put key value).Roomy := by
  rintro ⟨_, values⟩
  have enough := Slots.roomy_iff.mp values
  have short := headers.put_short key value
  simp only [pointerSize] at enough short
  omega

theorem keys_roomy (calls : List HeadersCall) :
    Always HeadersCall.step (fun headers => headers.key.Roomy headers.length) .init calls := by
  refine always_of_each _ ?_ (fun _ below => absurd below (Nat.not_lt_zero _)) (each_true _ calls)
  intro headers call next _ _ stepped
  cases stepped
  cases call with
  | put key value => exact Slots.roomy_iff.mpr (Nat.le_refl _)
  | clean => exact fun _ below => absurd below (Nat.not_lt_zero _)

/-- The arrays are large enough in every state exactly if no header is put. -/
theorem headers_roomy_iff (calls : List HeadersCall) :
    (Always HeadersCall.step Headers.Roomy .init calls ↔ ∀ call ∈ calls, call = .clean) ∧
    Always HeadersCall.step (fun headers => headers.key.Roomy headers.length) .init calls := by
  refine ⟨?_, keys_roomy calls⟩
  have exact_step : ∀ headers call next, True → Headers.Roomy headers → True →
      HeadersCall.step headers call = some next → (next.Roomy ↔ call = .clean) := by
    rintro headers call _ - - - ⟨⟩
    cases call with
    | put key value => exact iff_of_false (headers.put_not_roomy key.val value.val) nofun
    | clean => exact iff_of_true (Headers.roomy_of_empty rfl) rfl
  exact (always_iff_each (fun _ _ _ _ _ _ => trivial) exact_step trivial (Headers.roomy_of_empty rfl)
    (each_true _ calls)).trans each_total

end Arrays

/-- What is wanted: after any calls both arrays are large enough. -/
def HeadersRoomy : Prop := ∀ calls, Always HeadersCall.step Headers.Roomy .init calls

/-- One header, and eight bytes are written to an array of one. -/
theorem first_header_outside : ¬HeadersRoomy := by
  intro roomy
  have after := (roomy [.put ⟨ascii "a", by decide⟩ ⟨ascii "b", by decide⟩]).2 _ rfl
  have last : pointerSize ≤ 1 := after.2 0 (Nat.lt_succ_self 0)
  exact absurd last (by decide)

def Response.Roomy (response : Response) : Prop :=
  ∀ block, response.body = some block → response.bodyLength + 1 ≤ block.requested

def Response.step (response : Response) (chunk : Text) : Option Response := some (writefunction response chunk)

section Body
variable {response : Response}

theorem initResponse_roomy : initResponse.Roomy := nofun

/-- Only a block that is enlarged gets a byte for the terminator. -/
theorem Response.writefunction_roomy (response : Response) (chunk : Text) :
    (writefunction response chunk).Roomy ↔ response.body ≠ none := by
  cases found : response.body with
  | none =>
    refine iff_of_false (fun roomy => ?_) (fun some => some rfl)
    have enough := roomy _ rfl
    simp only [writefunction, found, Block.write_requested, Block.malloc_requested] at enough
    omega
  | some body =>
    refine iff_of_true (fun block written => ?_) (Option.some_ne_none body)
    simp only [writefunction, found, Option.some.injEq] at written
    subst written
    simp only [writefunction, Block.write_requested, Block.resize_requested]
    exact Nat.le_refl _

theorem foldl_body (before : List Text) : (before.foldl writefunction response).body ≠ none ↔
    response.body ≠ none ∨ before ≠ [] := by
  induction before generalizing response with
  | nil => simp
  | cons chunk before ih =>
    rw [List.foldl_cons, ih]
    simp [writefunction]

/-- Behind a first chunk the terminator is written outside the block, behind every later one inside. -/
theorem body_roomy_iff (chunks : List Text) :
    (Always Response.step Response.Roomy initResponse chunks ↔ chunks = []) ∧
    ∀ before chunk, ((before ++ [chunk]).foldl writefunction initResponse).Roomy ↔ before ≠ [] := by
  constructor
  · cases chunks with
    | nil => exact iff_of_true initResponse_roomy rfl
    | cons chunk chunks =>
      refine iff_of_false (fun roomy => ?_) (List.cons_ne_nil _ _)
      have first := (roomy.2 _ rfl).first
      exact (initResponse.writefunction_roomy chunk).mp first rfl
  · intro before chunk
    rw [List.foldl_append, List.foldl_cons, List.foldl_nil, Response.writefunction_roomy, foldl_body]
    simp [initResponse]

end Body

/-- What is wanted: after any chunks that are not empty there is room for the terminator. -/
def BodyRoomy : Prop :=
  ∀ chunks : List Text, (∀ chunk ∈ chunks, chunk ≠ []) →
    Always Response.step Response.Roomy initResponse chunks

/-- A body that arrives in one chunk. -/
theorem first_chunk_outside : ¬BodyRoomy := by
  intro roomy
  have filled : ∀ chunk ∈ [ascii "a"], chunk ≠ [] := by decide
  have after := (roomy [ascii "a"] filled).2 _ rfl
  have last : 2 ≤ 1 := after _ rfl
  exact absurd last (by decide)

end Libdiscord.Rest
