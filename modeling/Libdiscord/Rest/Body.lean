import Libdiscord.Rest.Request

/-! The two functions that accumulate a response body for curl, chunk by chunk. -/

set_option autoImplicit false

namespace Libdiscord.Rest

open Libdiscord.Base

/-- `ld_rest_writefunction` with what it returns, allocation succeeding. -/
def restWritefunction (response : Response) (chunk : Text) : Response × Nat :=
  (writefunction response chunk, chunk.length)

-- `struct _ld_buffer`
structure Buffer where
  string : Option (Block UInt8)
  size : Nat

def emptyBuffer : Buffer := ⟨none, 0⟩

/-- `_ld_curl_response_string` with what it returns, allocation succeeding. -/
def curlResponseString (buffer : Buffer) (contents : Text) : Buffer × Nat :=
  let string := (Block.realloc buffer.string (buffer.size + contents.length + 1)).write buffer.size contents
  let size := buffer.size + contents.length
  (⟨some (string.write size [0]), size⟩, contents.length)

def deliver {State : Type} (callback : State → Text → State × Nat) : State → List Text → State × Bool
  | state, [] => (state, true)
  | state, chunk :: rest =>
    let (next, taken) := callback state chunk
    if taken = chunk.length then deliver callback next rest else (next, false)

def contents (stray : Nat → UInt8) (string : Option (Block UInt8)) (size : Nat) : Option Text :=
  string.map fun block => block.read stray (size + 1)

/-- The block holds the body and a terminator; at least the body lies inside the size requested. -/
structure Grown (string : Option (Block UInt8)) (size : Nat) (body : Text) : Prop where
  size : size = body.length
  block : ∃ block, string = some block ∧ block.Holds (body ++ [0]) ∧ body.length ≤ block.requested

structure Accumulates {State : Type} (callback : State → Text → State × Nat) (string : State → Option (Block UInt8))
    (size : State → Nat) (start : State) : Prop where
  taken : ∀ state chunk, (callback state chunk).2 = chunk.length
  unallocated : string start = none
  empty : size start = 0
  first : ∀ chunk, Grown (string (callback start chunk).1) (size (callback start chunk).1) chunk
  later : ∀ state body chunk, Grown (string state) (size state) body →
    Grown (string (callback state chunk).1) (size (callback state chunk).1) (body ++ chunk)

section
variable {string : Option (Block UInt8)} {size : Nat} {body : Text}

theorem Grown.contents (grown : Grown string size body) (stray : Nat → UInt8) :
    contents stray string size = some (body ++ [0]) := by
  obtain ⟨rfl, block, rfl, holds, _⟩ := grown
  have read := holds.read stray
  rw [List.length_append] at read
  exact congrArg some read

theorem grown_write {block : Block UInt8} (holds : block.Holds body) (chunk : Text)
    (room : body.length + chunk.length ≤ block.requested) :
    Grown (some ((block.write body.length chunk).write (body.length + chunk.length) [0]))
      (body.length + chunk.length) (body ++ chunk) := by
  have terminated := (holds.write_end chunk).write_end [0]
  rw [List.length_append] at terminated
  exact ⟨by rw [List.length_append], _, rfl, terminated, by simpa using room⟩

theorem Grown.resize (grown : Grown string size body) (more : Nat) :
    ∃ block, string = some block ∧ (block.resize (body.length + more + 1)).Holds body := by
  obtain ⟨rfl, block, rfl, holds, inside⟩ := grown
  refine ⟨block, rfl, Block.Holds.resize (fun i bound => ?_) inside (by omega)⟩
  rw [holds i (by rw [List.length_append]; omega), List.getElem?_append_left bound]

theorem restWritefunction_accumulates :
    Accumulates restWritefunction Response.body Response.bodyLength initResponse where
  taken := fun _ _ => rfl
  unallocated := rfl
  empty := rfl
  first := fun chunk => grown_write (Block.holds_nil (Block.malloc (0 + chunk.length))) chunk (Nat.le_refl _)
  later := by
    intro response body chunk grown
    obtain ⟨block, found, holds⟩ := grown.resize chunk.length
    have written := grown_write holds chunk (Nat.le_succ _)
    simpa only [restWritefunction, writefunction, found, grown.size] using written

theorem curlResponseString_accumulates :
    Accumulates curlResponseString Buffer.string Buffer.size emptyBuffer where
  taken := fun _ _ => rfl
  unallocated := rfl
  empty := rfl
  first := fun chunk => grown_write (Block.holds_nil (Block.malloc (0 + chunk.length + 1))) chunk (Nat.le_succ _)
  later := by
    intro buffer body chunk grown
    obtain ⟨block, found, holds⟩ := grown.resize chunk.length
    have written := grown_write holds chunk (Nat.le_succ _)
    simpa only [curlResponseString, Block.realloc, found, grown.size] using written

end

namespace Accumulates
variable {State : Type} {callback : State → Text → State × Nat} {string : State → Option (Block UInt8)}
  {size : State → Nat} {start : State}

theorem deliver_later (accumulates : Accumulates callback string size start) {state : State} {body : Text}
    (grown : Grown (string state) (size state) body) (chunks : List Text) :
    ∃ final, deliver callback state chunks = (final, true) ∧
      Grown (string final) (size final) (body ++ chunks.flatten) := by
  induction chunks generalizing state body with
  | nil => exact ⟨state, rfl, by simpa using grown⟩
  | cons chunk chunks ih =>
    obtain ⟨final, delivered, grown⟩ := ih (accumulates.later state body chunk grown)
    refine ⟨final, ?_, by simpa using grown⟩
    simp only [deliver, accumulates.taken, if_true, delivered]

theorem deliver (accumulates : Accumulates callback string size start) (chunks : List Text)
    (stray : Nat → UInt8) :
    ∃ final, Rest.deliver callback start chunks = (final, true) ∧ size final = chunks.flatten.length ∧
      contents stray (string final) (size final) =
        if chunks = [] then none else some (chunks.flatten ++ [0]) := by
  cases chunks with
  | nil =>
    refine ⟨start, rfl, accumulates.empty, ?_⟩
    rw [accumulates.unallocated]
    rfl
  | cons chunk chunks =>
    obtain ⟨final, delivered, grown⟩ := accumulates.deliver_later (accumulates.first chunk) chunks
    refine ⟨final, ?_, grown.size, ?_⟩
    · simp only [Rest.deliver, accumulates.taken, if_true, delivered]
    · rw [grown.contents, if_neg (List.cons_ne_nil _ _)]
      rfl

end Accumulates

/-- From a first chunk on both hold the concatenation of the chunks with a terminator; without any both hold
nothing. -/
theorem bodies_accumulated (chunks : List Text) (stray : Nat → UInt8) :
    ∃ response buffer,
      deliver restWritefunction initResponse chunks = (response, true) ∧
      deliver curlResponseString emptyBuffer chunks = (buffer, true) ∧
      response.bodyLength = chunks.flatten.length ∧ buffer.size = response.bodyLength ∧
      contents stray response.body response.bodyLength =
        (if chunks = [] then none else some (chunks.flatten ++ [0])) ∧
      contents stray buffer.string buffer.size = contents stray response.body response.bodyLength := by
  obtain ⟨response, responded, length, body⟩ := restWritefunction_accumulates.deliver chunks stray
  obtain ⟨buffer, buffered, size, string⟩ := curlResponseString_accumulates.deliver chunks stray
  exact ⟨response, buffer, responded, buffered, length, size.trans length.symm, body, string.trans body.symm⟩

/-- What is wanted: every sequence of chunks leaves the concatenation with a terminator. -/
def BodiesTerminated : Prop :=
  ∀ chunks stray, ∃ response, deliver restWritefunction initResponse chunks = (response, true) ∧
    contents stray response.body response.bodyLength = some (chunks.flatten ++ [0])

/-- Without a chunk there is no body. -/
theorem no_chunk_no_body : ¬BodiesTerminated := by
  intro terminated
  obtain ⟨response, delivered, body⟩ := terminated [] fun _ => 0
  cases delivered
  cases body

end Libdiscord.Rest
