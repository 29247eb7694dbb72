import Mathlib.Data.List.Basic
import Libdiscord.Rest.Sending

/-! What goes on the wire in a whole sequence of requests with one handle. -/

set_option autoImplicit false

namespace Libdiscord.Rest

open Libdiscord.Base

def wires : EasyHandle → List Call → List (Option WireRequest)
  | _, [] => []
  | handle, call :: rest =>
    match sendRequest handle initResponse call.request call.exchange with
    | none => []
    | some sent => sent.wire :: wires sent.handle rest

def LeavesAsPost (wire : Option WireRequest) : Bool := wire.any (·.method = .post)

/-- A request of the library: a GET or a POST to a known address. -/
structure Request.Sendable (request : Request) : Prop where
  plain : request.Plain
  baseUrl : request.baseUrl.isSome = true
  endpoint : request.endpoint.isSome = true

def GetsFirst (calls : List Call) : Prop :=
  calls.Pairwise fun call later => call.request.verb = .post → later.request.verb = .post

instance (calls : List Call) : Decidable (GetsFirst calls) := by
  unfold GetsFirst
  infer_instance

def AsBuilt (handle : EasyHandle) (calls : List Call) : Prop :=
  wires handle calls = calls.map fun call => some call.request.wire

section
variable {handle next : EasyHandle} {call : Call} {calls more : List Call} {exchange : Exchange}

theorem getsFirst_cons : GetsFirst (call :: calls) ↔
    (call.request.verb = .post → ∀ later ∈ calls, later.request.verb = .post) ∧ GetsFirst calls := by
  rw [GetsFirst, List.pairwise_cons]
  exact and_congr_left fun _ => ⟨fun all post later member => all later member post,
    fun all later member post => all post later member⟩

theorem wire_post (handle : EasyHandle) : handle.wire.method = .post ↔ handle.post = true := by
  rw [EasyHandle.wire]
  cases handle.post <;> simp

theorem send_sendable (handle : EasyHandle) (sendable : call.request.Sendable) :
    ∃ sent, sendRequest handle initResponse call.request call.exchange = some sent ∧
      send handle call = some sent.handle ∧
      (sent.handle.post = true ↔ handle.post = true ∨ call.request.verb = .post) ∧
      ∃ wire, sent.wire = some wire ∧ (wire.method = .post ↔ sent.handle.post = true) ∧
        (wire = call.request.wire ↔ call.request.verb = .post ∨ ¬handle.post = true) := by
  obtain ⟨sent, sending, _⟩ :=
    sendRequest_answered handle initResponse call.request call.exchange sendable.baseUrl sendable.endpoint
  refine ⟨sent, sending, by rw [send, sending]; rfl, ?_⟩
  rcases sendRequest_some sending with ⟨missing, _⟩ | ⟨_, _, rfl, same, wire⟩
  · have present := sendable.baseUrl
    rw [missing] at present
    cases present
  · rw [same]
    exact ⟨configure_post _ _ _, _, wire, wire_post _, configure_wire handle sendable.plain⟩

theorem wires_cons {sent : Sent} (sending : sendRequest handle initResponse call.request call.exchange = some sent) :
    wires handle (call :: calls) = sent.wire :: wires sent.handle calls := by
  rw [wires, sending]

/-- Requests go on the wire as they were built exactly if no GET follows a POST. -/
theorem asBuilt_iff (handle : EasyHandle) (sendable : ∀ call ∈ calls, call.request.Sendable) :
    AsBuilt handle calls ↔
      (handle.post = true → ∀ call ∈ calls, call.request.verb = .post) ∧ GetsFirst calls := by
  induction calls generalizing handle with
  | nil => simp [AsBuilt, wires, GetsFirst]
  | cons call rest ih =>
    obtain ⟨here, later⟩ := List.forall_mem_cons.mp sendable
    obtain ⟨sent, sending, _, posts, wire, left, _, same⟩ := send_sendable handle here
    have tail := ih sent.handle later
    rw [AsBuilt] at tail ⊢
    rw [wires_cons sending, List.map_cons, List.cons.injEq, tail, left, Option.some.injEq, same, posts,
      getsFirst_cons]
    by_cases post : call.request.verb = .post
    · simp only [post, true_or, or_true, true_and, forall_const, List.forall_mem_cons]
      exact ⟨fun both => ⟨fun _ => both.1, both⟩, fun both => both.2⟩
    · simp only [post, false_or, or_false, List.forall_mem_cons, false_and, imp_false, false_implies,
        true_and]
      constructor
      · rintro ⟨clean, _, gets⟩
        exact ⟨clean, gets⟩
      · rintro ⟨clean, gets⟩
        exact ⟨clean, fun posted => absurd posted clean, gets⟩

theorem posts_built (handle : EasyHandle) (sendable : ∀ call ∈ calls, call.request.Sendable) :
    ((calls.zip (wires handle calls)).filter (·.1.request.verb = .post)).map (·.2) =
      (calls.filter (·.request.verb = .post)).map fun call => some call.request.wire := by
  induction calls generalizing handle with
  | nil => rfl
  | cons call rest ih =>
    obtain ⟨here, later⟩ := List.forall_mem_cons.mp sendable
    obtain ⟨sent, sending, _, _, wire, left, _, same⟩ := send_sendable handle here
    have tail := ih sent.handle later
    rw [wires_cons sending, List.zip_cons_cons, List.filter_cons, List.filter_cons]
    by_cases post : call.request.verb = .post
    · simp only [post, decide_true, if_true, List.map_cons, tail, left, same.mpr (.inl post)]
    · simp only [post, decide_false, Bool.false_eq_true, if_false, tail]

theorem posts_le (handle : EasyHandle) (sendable : ∀ call ∈ calls, call.request.Sendable) :
    (calls.filter (·.request.verb = .post)).length ≤ ((wires handle calls).filter LeavesAsPost).length := by
  induction calls generalizing handle with
  | nil => exact Nat.le_refl _
  | cons call rest ih =>
    obtain ⟨here, later⟩ := List.forall_mem_cons.mp sendable
    obtain ⟨sent, sending, _, posts, wire, left, method, _⟩ := send_sendable handle here
    have tail := ih sent.handle later
    rw [wires_cons sending, left, List.filter_cons, List.filter_cons]
    by_cases post : call.request.verb = .post
    · have leaves : LeavesAsPost (some wire) = true := decide_eq_true (method.mpr (posts.mpr (.inr post)))
      simpa [post, leaves] using tail
    · rw [if_neg (by simpa using post)]
      refine Nat.le_trans tail ?_
      split
      · exact Nat.le_succ _
      · exact Nat.le_refl _

/-- No others leave as a POST exactly if all requests leave as they were built. -/
theorem posts_alone_iff (handle : EasyHandle) (sendable : ∀ call ∈ calls, call.request.Sendable) :
    (wires handle calls).filter LeavesAsPost =
        (calls.filter (·.request.verb = .post)).map (fun call => some call.request.wire) ↔
      AsBuilt handle calls := by
  induction calls generalizing handle with
  | nil => exact iff_of_true rfl rfl
  | cons call rest ih =>
    obtain ⟨here, later⟩ := List.forall_mem_cons.mp sendable
    obtain ⟨sent, sending, _, posts, wire, left, method, same⟩ := send_sendable handle here
    have tail := ih sent.handle later
    rw [AsBuilt] at tail ⊢
    rw [wires_cons sending, left, List.filter_cons, List.filter_cons, List.map_cons, List.cons.injEq,
      Option.some.injEq, ← tail, show LeavesAsPost (some wire) = decide (handle.post = true ∨ call.request.verb = .post)
      from decide_eq_decide.mpr (method.trans posts)]
    by_cases post : call.request.verb = .post
    · have built := same.mpr (.inl post)
      simp [post, built]
    · by_cases used : handle.post = true
      · have more : ((wires sent.handle rest).filter LeavesAsPost).length + 1 ≠
            (rest.filter (·.request.verb = .post)).length := by
          have fewer := posts_le sent.handle later
          omega
        refine iff_of_false (fun whole => ?_) fun both => ?_
        · refine more ?_
          have lengths := congrArg List.length whole
          simpa [post, used] using lengths
        · rcases same.mp both.1 with posted | unused
          · exact post posted
          · exact unused used
      · have built := same.mpr (.inr used)
        simp [post, used, built]

theorem getsFirst_append : GetsFirst (calls ++ more) ↔ GetsFirst calls ∧ GetsFirst more ∧
    ((∃ call ∈ calls, call.request.verb = .post) → ∀ call ∈ more, call.request.verb = .post) := by
  rw [GetsFirst, List.pairwise_append]
  refine and_congr_right fun _ => and_congr_right fun _ => ?_
  constructor
  · rintro all ⟨call, member, post⟩ later inside
    exact all call member later inside post
  · exact fun all call member later inside post => all ⟨call, member, post⟩ later inside

theorem getsFirst_of_all {verb : Verb} (all : ∀ call ∈ calls, call.request.verb = verb) : GetsFirst calls := by
  refine List.pairwise_of_forall_mem_list fun call member later inside post => ?_
  rw [all later inside, ← all call member, post]

end

end Libdiscord.Rest
