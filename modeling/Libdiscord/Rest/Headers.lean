import Libdiscord.Base.CString
import Libdiscord.Rest.Request

/-! The headers of a request through puts and cleans, and their conversion line by line. -/

set_option autoImplicit false

namespace Libdiscord.Rest

open Libdiscord.Base

inductive HeadersCall where
  | put (key value : CString)
  | clean

def HeadersCall.run (headers : Headers) : HeadersCall → Headers
  | put key value => headers.put key.val value.val
  | clean => headers.clean

def HeadersCall.pairs (pairs : List (CString × CString)) : HeadersCall → List (CString × CString)
  | put key value => pairs ++ [(key, value)]
  | clean => []

-- `char tmp[2000]`
def lineBufferSize : Nat := 2000

namespace Headers

/-- One round of the loop of `ld_headers2curl`: the line is put together in `tmp`, and
`curl_slist_append` appends a copy of it. -/
def convert (headers : Headers) (state : Block UInt8 × List Text) (i : Nat) :
    Option (Block UInt8 × List Text) := do
  let key ← headers.key.strings[i]?
  let value ← headers.value.strings[i]?
  let tmp ← (state.1.write 0 [0]).strcat key
  let tmp ← tmp.strcat (ascii ": ")
  let tmp ← tmp.strcat value
  let copy ← tmp.string
  some (tmp, state.2 ++ [copy])

/-- `ld_headers2curl`, where `curl_slist_append` succeeds; `stack` is what the line buffer holds at first. -/
def headers2curl (headers : Headers) (stack : Nat → Option UInt8) (slist : List Text) : Option (List Text) :=
  ((List.range headers.length).foldlM headers.convert (⟨lineBufferSize, stack⟩, slist)).map (·.2)

structure Represents (headers : Headers) (pairs : List (CString × CString)) : Prop where
  length : headers.length = pairs.length
  key : headers.key.strings.take headers.length = pairs.map fun pair => pair.1.val
  value : headers.value.strings.take headers.length = pairs.map fun pair => pair.2.val

end Headers

-- The line of a pair, and whether it fits the buffer with its terminator.
def lineOf (pair : CString × CString) : Text := Headers.line pair.1.val pair.2.val

def Fits (pair : CString × CString) : Prop := (lineOf pair).length < lineBufferSize

instance (pair : CString × CString) : Decidable (Fits pair) := inferInstanceAs (Decidable (_ < _))

namespace Headers
variable {headers : Headers} {pairs : List (CString × CString)}

theorem represents_init : Represents .init [] := ⟨rfl, rfl, rfl⟩

theorem Represents.put (represents : Represents headers pairs) (key value : CString) :
    Represents (headers.put key.val value.val) (pairs ++ [(key, value)]) := by
  obtain ⟨length, keys, values⟩ := represents
  refine ⟨by simp [Headers.put, length], ?_, ?_⟩
  · rw [Headers.put, keys, List.take_of_length_le (by simp [length]), List.map_append]
    rfl
  · rw [Headers.put, values, List.take_of_length_le (by simp [length]), List.map_append]
    rfl

theorem represents_clean (headers : Headers) : Represents headers.clean [] := ⟨rfl, rfl, rfl⟩

theorem Represents.call (represents : Represents headers pairs) (call : HeadersCall) :
    Represents (call.run headers) (call.pairs pairs) := by
  cases call with
  | put key value => exact represents.put key value
  | clean => exact represents_clean headers

theorem Represents.calls (represents : Represents headers pairs) (calls : List HeadersCall) :
    Represents (calls.foldl HeadersCall.run headers) (calls.foldl HeadersCall.pairs pairs) := by
  induction calls generalizing headers pairs with
  | nil => exact represents
  | cons call calls ih => exact ih (represents.call call)

theorem Represents.pair (represents : Represents headers pairs) {i : Nat} (bound : i < pairs.length) :
    headers.key.strings[i]? = some pairs[i].1.val ∧ headers.value.strings[i]? = some pairs[i].2.val := by
  have inside : i < headers.length := represents.length ▸ bound
  constructor
  · rw [← List.getElem?_take_of_lt inside, represents.key]
    simp [bound]
  · rw [← List.getElem?_take_of_lt inside, represents.value]
    simp [bound]

def separator : CString := ⟨ascii ": ", by decide⟩

/-- A round leaves nothing of what the line buffer held, but its size. -/
theorem Represents.convert (represents : Represents headers pairs) {i : Nat} (bound : i < pairs.length)
    (fits : Fits pairs[i]) (tmp : Block UInt8) (size : tmp.requested = lineBufferSize) (slist : List Text) :
    ∃ next, headers.convert (tmp, slist) i = some (next, slist ++ [lineOf pairs[i]]) ∧
      next.requested = lineBufferSize := by
  obtain ⟨key, value⟩ := represents.pair bound
  have two : separator.val.length = 2 := by decide
  have within : pairs[i].1.val.length + 2 + pairs[i].2.val.length < lineBufferSize := by
    simpa [Fits, lineOf, Headers.line, ← two, separator, Nat.add_assoc] using fits
  have empty := Block.terminated_empty tmp (by rw [size]; decide)
  obtain ⟨first, copiedKey, terminated, kept⟩ := empty.strcat pairs[i].1 (by
    rw [Block.write_requested, size, List.length_nil]
    omega)
  have sizeFirst : first.requested = lineBufferSize := kept.trans size
  obtain ⟨second, copiedSeparator, terminated, kept⟩ := terminated.strcat separator (by
    rw [sizeFirst, List.nil_append]
    omega)
  have sizeSecond : second.requested = lineBufferSize := kept.trans sizeFirst
  obtain ⟨third, copiedValue, terminated, kept⟩ := terminated.strcat pairs[i].2 (by
    rw [sizeSecond, List.nil_append, List.length_append]
    omega)
  refine ⟨third, ?_, kept.trans sizeSecond⟩
  unfold separator at copiedSeparator
  simp only [Headers.convert, key, value, copiedKey, copiedSeparator, copiedValue, terminated.string,
    Option.bind_eq_bind, Option.bind_some]
  rfl

theorem Represents.loop (represents : Represents headers pairs) (fits : ∀ pair ∈ pairs, Fits pair)
    (stack : Nat → Option UInt8) (slist : List Text) {n : Nat} (bound : n ≤ pairs.length) :
    ∃ tmp, (List.range n).foldlM headers.convert (⟨lineBufferSize, stack⟩, slist) =
      some (tmp, slist ++ (pairs.take n).map lineOf) ∧ tmp.requested = lineBufferSize := by
  induction n with
  | zero => exact ⟨⟨lineBufferSize, stack⟩, by simp, rfl⟩
  | succ n ih =>
    obtain ⟨tmp, ran, size⟩ := ih (Nat.le_of_succ_le bound)
    obtain ⟨next, converted, kept⟩ := represents.convert bound (fits _ (List.getElem_mem bound)) tmp size
      (slist ++ (pairs.take n).map lineOf)
    refine ⟨next, ?_, kept⟩
    rw [List.range_succ, List.foldlM_append, ran]
    simp only [Option.bind_eq_bind, Option.bind_some, List.foldlM_cons, List.foldlM_nil, converted]
    rw [List.take_succ_eq_append_getElem bound, List.map_append, List.append_assoc]
    rfl

theorem Represents.headers2curl (represents : Represents headers pairs) (fits : ∀ pair ∈ pairs, Fits pair)
    (stack : Nat → Option UInt8) (slist : List Text) :
    headers.headers2curl stack slist = some (slist ++ pairs.map lineOf) := by
  obtain ⟨tmp, ran, _⟩ := represents.loop fits stack slist (Nat.le_refl pairs.length)
  rw [Headers.headers2curl, represents.length, ran, List.take_length]
  rfl

theorem Represents.toCurl (represents : Represents headers pairs) (fits : ∀ pair ∈ pairs, Fits pair)
    (stack : Nat → Option UInt8) (slist : List Text) :
    headers.headers2curl stack slist = some (headers.toCurl slist) := by
  rw [represents.headers2curl fits, Headers.toCurl, List.zip, List.take_zipWith, represents.key,
    represents.value, ← List.zip, List.zip_map', List.map_map]
  rfl

/-- The headers hold the pairs put since the last clean, and are converted to their lines. -/
theorem headers_kept (calls : List HeadersCall) (stack : Nat → Option UInt8) (slist : List Text) :
    Represents (calls.foldl HeadersCall.run .init) (calls.foldl HeadersCall.pairs []) ∧
    ((∀ pair ∈ calls.foldl HeadersCall.pairs [], Fits pair) →
      (calls.foldl HeadersCall.run .init).headers2curl stack slist =
        some (slist ++ (calls.foldl HeadersCall.pairs []).map lineOf)) := by
  have represents := represents_init.calls calls
  exact ⟨represents, fun fits => represents.headers2curl fits stack slist⟩

-- A header that is cleaned away, and two after it.
def cleanedHeaders : List HeadersCall :=
  [.put ⟨ascii "accept", by decide⟩ ⟨ascii "text/html", by decide⟩, .clean,
    .put ⟨ascii "authorization", by decide⟩ ⟨ascii "Bot token", by decide⟩,
    .put ⟨ascii "accept", by decide⟩ ⟨ascii "application/json", by decide⟩]

theorem headers_kept_cleaned :
    (cleanedHeaders.foldl HeadersCall.run .init).headers2curl (fun _ => some 65) [ascii "host: discord"] =
      some [ascii "host: discord", ascii "authorization: Bot token", ascii "accept: application/json"] :=
  ((headers_kept cleanedHeaders (fun _ => some 65) [ascii "host: discord"]).2 (by decide)).trans (by decide)

end Headers

end Libdiscord.Rest
