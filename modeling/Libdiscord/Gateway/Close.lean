import Libdiscord.Gateway.Effects

/-! The close frame of the gateway. -/

set_option autoImplicit false

namespace Libdiscord

open Libdiscord.Base

-- `LD_LOG_INFO`
def logInfo : UInt64 := 8

/-- The bytes `ld_info` reads to print the reason: `%.*s` on `in + 2` reads up to `len` bytes, or to the
first zero. Nothing is printed unless the level is enabled. -/
def printedIndices (level : UInt64) (w : World) (frame : Text) : List Nat :=
  if level &&& logInfo = 0 then []
  else
    let printed := ((List.range frame.length).map fun i => frameByte w frame (i + 2)).takeWhile (· ≠ 0)
    (List.range (min frame.length (printed.length + 1))).map (· + 2)

/-- The case WS_PEER_INITIATED_CLOSE with its log message, `level` being the logging level. -/
def loggedClose (level : UInt64) (w : World) (ctx : Context) (frame : Text) : Option Outcome :=
  (peerInitiatedClose w ctx frame).map fun out =>
    { out with events := overreads frame (printedIndices level w frame) ++ out.events }

/-- The status code of a close frame, in network byte order. -/
def closeCodeOf (high low : UInt8) : UInt32 := high.toUInt32 <<< 8 ||| low.toUInt32

def closeCall (code : UInt32) (message : Text) : UserCall :=
  ⟨.wsGatewayInitClose, .closeMessage message, code.toNat⟩

structure ClosedWith (ctx : Context) (code : UInt32) (reason : Text) (out : Outcome) : Prop where
  stored : out.ctx.closeCode = code
  told : userCalls out.events = [closeCall code reason]
  ended : code = 1000 ∨ code = 4006 → out.ctx.gatewaySessionId = none
  kept : ¬(code = 1000 ∨ code = 4006) →
    out.ctx.gatewaySessionId = ctx.gatewaySessionId ∧ out.ctx.lastSeq = ctx.lastSeq

/-- The frame is read inside its bounds, no null pointer is followed, and where it has a code that is
told to the user. -/
def ClosesRight (level : UInt64) (w : World) (ctx : Context) (frame : Text) : Prop :=
  ∃ out, loggedClose level w ctx frame = some out ∧ (∀ index, .frameOverread index ∉ out.events) ∧
    match frame with
    | high :: low :: reason => ClosedWith ctx (closeCodeOf high low) reason out
    | _ => True

section
variable {level : UInt64} {w : World} {ctx : Context}

theorem mem_overreads {frame : Text} {indices : List Nat} {index : Nat} (read : index ∈ indices)
    (beyond : frame.length ≤ index) : .frameOverread index ∈ overreads frame indices :=
  List.mem_map.mpr ⟨index, List.mem_filter.mpr ⟨read, by simpa using beyond⟩, rfl⟩

theorem userCalls_overreads (frame : Text) (indices : List Nat) : userCalls (overreads frame indices) = [] :=
  (overreads_only frame (fun _ => rfl) indices).filterMap fun _ silent => silent

/-- What is copied starts with the low byte of the code, so that it is never the reason unless both
are empty. -/
theorem copied_ne_reason (low stray : UInt8) (reason : Text) (nonzero : low ≠ 0) :
    low :: (reason ++ [stray]).takeWhile (· ≠ 0) ≠ reason := by
  induction reason with
  | nil => simp
  | cons first rest ih =>
    intro same
    obtain ⟨rfl, tail⟩ := List.cons.inj same
    apply ih
    simpa [nonzero] using tail

/-- The bytes `strndup` looks at: the low byte of the code, the reason, and a byte behind the frame. -/
theorem copied_bytes (high low : UInt8) (reason : Text) :
    (List.range (high :: low :: reason).length).map (fun i => frameByte w (high :: low :: reason) (i + 1)) =
      low :: (reason ++ [w.strayByte (reason.length + 2)]) := by
  apply List.ext_getElem?
  intro i
  cases i with
  | zero => simp [frameByte]
  | succ i =>
    rw [List.getElem?_map, List.getElem?_cons_succ]
    by_cases inside : i + 1 < (high :: low :: reason).length
    · rw [List.getElem?_range inside, Option.map_some]
      simp only [List.length_cons] at inside
      by_cases last : i = reason.length
      · simp [frameByte, last]
      · have before : i < reason.length := by omega
        rw [List.getElem?_append_left before]
        simp [frameByte, before]
    · have none : (List.range (high :: low :: reason).length)[i + 1]? = none :=
        List.getElem?_eq_none (by simpa only [List.length_range] using Nat.le_of_not_lt inside)
      rw [none, Option.map_none, eq_comm]
      simp only [List.length_cons] at inside
      exact List.getElem?_eq_none (by simp only [List.length_append, List.length_singleton]; omega)

def copiedReason (w : World) (frame : Text) : Text :=
  ((List.range frame.length).map fun i => frameByte w frame (i + 1)).takeWhile (· ≠ 0)

theorem peerInitiatedClose_told {frame : Text} {out : Outcome}
    (closed : peerInitiatedClose w ctx frame = some out) :
    ctx.userCallback = true ∧ (∃ more, out.events = overreads frame [0, 1] ++ more) ∧
      (frame.length ≠ 0 → userCalls out.events =
        [closeCall (closeCodeOf (frameByte w frame 0) (frameByte w frame 1)) (copiedReason w frame)]) := by
  obtain ⟨set, gi, read, rfl⟩ := peerInitiatedClose_cases closed
  refine ⟨set, ⟨_, List.append_assoc _ _ _⟩, fun some_byte => ?_⟩
  simp only [if_pos some_byte, userCalls_append, userCalls_overreads]
  rfl

theorem copiedReason_eq {high low : UInt8} {reason : Text}
    (same : copiedReason w (high :: low :: reason) = reason) : low = 0 ∧ reason = [] := by
  rw [copiedReason, copied_bytes] at same
  by_cases zero : low = 0
  · simp only [zero, List.takeWhile_cons] at same
    exact ⟨zero, by simpa using same.symm⟩
  · have nonzero : (low :: (reason ++ [w.strayByte (reason.length + 2)])).takeWhile (· ≠ 0) =
        low :: (reason ++ [w.strayByte (reason.length + 2)]).takeWhile (· ≠ 0) := by simp [zero]
    exact absurd (nonzero ▸ same) (copied_ne_reason low _ reason zero)

theorem closeCodeOf_even (high : UInt8) : ¬(closeCodeOf high 0 = 1000 ∨ closeCodeOf high 0 = 4006) := by
  have all : ∀ high : Fin 256,
      ¬(closeCodeOf (.ofNat high) 0 = 1000 ∨ closeCodeOf (.ofNat high) 0 = 4006) := by decide +kernel
  simpa using all ⟨high.toNat, high.toNat_lt⟩

theorem peerInitiatedClose_even (set : ctx.userCallback = true) (high : UInt8) :
    peerInitiatedClose w ctx [high, 0] = some ⟨{ ctx with closeCode := closeCodeOf high 0 }, .ok,
      [.userCalled .wsGatewayInitClose (.closeMessage []) (closeCodeOf high 0).toNat]⟩ := by
  have resumable : ¬(high.toUInt32 <<< 8 = 1000 ∨ high.toUInt32 <<< 8 = 4006) := by
    simpa [closeCodeOf] using closeCodeOf_even high
  simp [peerInitiatedClose, callUser, set, frameByte, closeCodeOf, overreads, resumable, List.range_succ]

/-- What is printed of such a frame lies behind it. -/
theorem printed_behind (enabled : level &&& logInfo ≠ 0) (high low : UInt8) :
    2 ∈ printedIndices level w [high, low] := by
  simp only [printedIndices, if_neg enabled, List.mem_map, List.mem_range]
  exact ⟨0, Nat.lt_min.mpr ⟨by simp, Nat.succ_pos _⟩, rfl⟩

theorem ClosesRight.bare {level : UInt64} {w : World} {ctx : Context} {frame : Text}
    (right : ClosesRight level w ctx frame) (wellFormed : frame.length ≠ 1) :
    level &&& logInfo = 0 ∧ ctx.userCallback = true ∧ ∃ high, frame = [high, 0] := by
  obtain ⟨out, logged, inside, closed⟩ := right
  obtain ⟨inner, ran, rfl⟩ := Option.map_eq_some_iff.mp logged
  obtain ⟨set, ⟨more, events⟩, told⟩ := peerInitiatedClose_told ran
  rcases frame with _ | ⟨high, _ | ⟨low, reason⟩⟩
  · -- the two bytes of the code are read all the same
    have first : .frameOverread 0 ∈ overreads [] [0, 1] := mem_overreads (by simp) (by simp)
    exact absurd (by simp [events, first]) (inside 0)
  · exact absurd rfl wellFormed
  · replace told := told (by simp)
    have owed := closed.told
    rw [userCalls_append, userCalls_overreads, told, List.nil_append] at owed
    simp only [closeCall, List.cons.injEq, UserCall.mk.injEq, CallbackData.closeMessage.injEq] at owed
    obtain ⟨rfl, rfl⟩ := copiedReason_eq owed.1.2.1
    refine ⟨Decidable.byContradiction fun enabled => ?_, set, high, rfl⟩
    have read : .frameOverread 2 ∈ overreads [high, 0] (printedIndices level w [high, 0]) :=
      mem_overreads (printed_behind enabled high 0) (by simp)
    exact inside 2 (List.mem_append_left _ read)

/-- A close frame, empty or with a code, is handled right exactly if it is not logged, a user callback is
set, and it is a code with the low byte 0 and no reason. -/
theorem closes_right_iff (level : UInt64) (w : World) (ctx : Context) (frame : Text)
    (wellFormed : frame.length ≠ 1) :
    ClosesRight level w ctx frame ↔
      level &&& logInfo = 0 ∧ ctx.userCallback = true ∧ ∃ high, frame = [high, 0] := by
  refine ⟨fun right => right.bare wellFormed, ?_⟩
  rintro ⟨disabled, set, high, rfl⟩
  have other := closeCodeOf_even high
  have silent : overreads [high, 0] (printedIndices level w [high, 0]) = [] := by
    simp [printedIndices, disabled, overreads]
  refine ⟨_, Option.map_eq_some_iff.mpr ⟨_, peerInitiatedClose_even set high, rfl⟩, ?_, ⟨rfl, ?_, ?_, ?_⟩⟩
  · simp [silent]
  · rw [silent]
    rfl
  · exact fun ends => absurd ends other
  · exact fun _ => ⟨rfl, rfl⟩

end

/-- What is wanted: in every state a run reaches, every close frame is handled right. -/
def ClosesAlwaysRight (ex : Externals) : Prop :=
  ∀ s moves final, Booted ex s → run (step ex) s moves = some final →
    ∀ level w frame, frame.length ≠ 1 → ClosesRight level w final.ctx frame

-- The code 4004, and why.
def authenticationFrame : Text := [15, 164] ++ ascii "Authentication failed"

/-- A close frame with a code and a reason is told with the low byte of the code in front, and is read
behind its end. -/
theorem close_misread : ¬ClosesAlwaysRight (.knowing []) := by
  intro wanted
  have right := wanted _ [] _ (booted_ofBot _ 16 99) rfl logInfo (.calm 100) authenticationFrame (by decide)
  obtain ⟨_, _, high, frame⟩ := right.bare (by decide)
  have length : authenticationFrame.length = 2 := by rw [frame]; rfl
  exact absurd length (by decide)

theorem closes_right_iff_silent :
    ClosesRight 0 (.calm 100) (System.ofBot (.knowing []) 16 99).ctx [4, 0] :=
  (closes_right_iff 0 _ _ [4, 0] (by decide)).mpr ⟨by decide, rfl, 4, rfl⟩

end Libdiscord
