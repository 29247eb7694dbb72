import Libdiscord.Gateway.Handshake
import Libdiscord.Json.Filling

/-! What the parser reads of a payload: the members in any order, and the interval of HELLO. -/

set_option autoImplicit false

namespace Libdiscord

open Libdiscord.Base
open Json (member?)

def givenInterval (members : List (String × Json)) : Option Int64 :=
  (member? "d" members).bind fun d => integerMember "heartbeat_interval" d.members

/-- A number of milliseconds that `heartbeat_interval` can hold, and that does not switch it off. -/
def Usable (n : Int64) : Prop := 1 ≤ n.toInt ∧ n.toInt ≤ 4294967295

/-- The timer test of `ld_service` is armed with the interval given, or with the fallback where there is
no usable one. -/
structure Armed (given : Option Int64) (ctx : Context) : Prop where
  nonzero : ctx.heartbeatInterval ≠ 0
  usable : ∀ n ∈ given, Usable n → (ctx.heartbeatInterval.toNat : Int) = n.toInt
  fallback : (∀ n ∈ given, ¬Usable n) → ctx.heartbeatInterval = 41250
  timer : ∀ now, heartbeatDue ctx now = true ↔ now - ctx.lastHb > (ctx.heartbeatInterval / 1000).toUInt64

section
variable {ex : Externals} {w : World} {ctx : Context}

/-- The order of the members of a payload does not matter. -/
theorem gatewayPayloadParser_perm {text other : Text} {members reordered : List (String × Json)}
    (loaded : ex.loadb text = some (.object members)) (reloaded : ex.loadb other = some (.object reordered))
    (known : Known members) (distinct : (members.map (·.1)).Nodup) (perm : members.Perm reordered) :
    gatewayPayloadParser ex w ctx text = gatewayPayloadParser ex w ctx other := by
  have reknown : Known reordered := fun entry member => known entry (perm.mem_iff.mpr member)
  have found := Json.member?_perm perm distinct
  have seq : storedSeq ctx.lastSeq members = storedSeq ctx.lastSeq reordered := by
    rw [storedSeq, found, storedSeq]
  have opcode : selectedOpcode members = selectedOpcode reordered := by
    rw [selectedOpcode, found, selectedOpcode]
  rw [gatewayPayloadParser_known loaded known, gatewayPayloadParser_known reloaded reknown]
  simp only [Json.members, seq, opcode, found]

-- A HELLO as the gateway sends it, and with its members the other way round.
abbrev turnedHello : Json :=
  .object [("d", .object [("heartbeat_interval", .integer 41250)]), ("op", .integer 10), ("s", .null), ("t", .null)]

theorem gatewayPayloadParser_turned :
    gatewayPayloadParser (.knowing [helloMessage 41250, turnedHello]) (.calm 100) (zeroContext (.empty 15))
        (helloMessage 41250).encode =
      gatewayPayloadParser (.knowing [helloMessage 41250, turnedHello]) (.calm 100) (zeroContext (.empty 15))
        turnedHello.encode := by
  have apart : (helloMessage 41250).encode ≠ turnedHello.encode := by decide +kernel
  have reloaded : (Externals.knowing [helloMessage 41250, turnedHello]).loadb turnedHello.encode =
      some turnedHello := by simp [Externals.knowing, apart]
  exact gatewayPayloadParser_perm (knowing_first _ _) reloaded (by decide) (by decide)
    (List.reverse_perm [_, _, _, _]).symm

theorem narrowed (n : Int64) : (n.toUInt64.toUInt32.toNat : Int) = n.toInt % 4294967296 := by
  have bits : n.toInt = if 2 * n.toUInt64.toNat < 2 ^ 64 then (n.toUInt64.toNat : Int)
      else n.toUInt64.toNat - (2 ^ 64 : Nat) := BitVec.toInt_eq_toNat_cond n.toBitVec
  rw [UInt64.toNat_toUInt32]
  split at bits <;> omega

theorem gatewayHello_interval {d : Option Json} {out : Outcome} (ran : gatewayHello ex w ctx d = some out) :
    out.ctx.heartbeatInterval = helloInterval d := by
  rcases gatewayHello_cases ran with ⟨_, rfl⟩ | ⟨_, _, _, _, rfl⟩ <;> rfl

/-- The interval that is stored: the low half of what is given, unless that is 0. -/
theorem helloInterval_given (members : List (String × Json)) :
    ((helloInterval (member? "d" members)).toNat : Int) =
      (givenInterval members).elim 41250 fun n => if n.toInt = 0 then 41250 else n.toInt % 4294967296 := by
  unfold helloInterval givenInterval integerMember Json.get?
  cases member? "d" members with
  | none => rfl
  | some d =>
    simp only [Option.bind_some]
    cases member? "heartbeat_interval" d.members with
    | none => rfl
    | some value =>
      cases value with
      | integer n =>
        show ((if n ≠ 0 then n.toUInt64.toUInt32 else 41250 : UInt32).toNat : Int) =
          if n.toInt = 0 then 41250 else n.toInt % 4294967296
        by_cases zero : n = 0
        · rw [zero]
          rfl
        · have other : n.toInt ≠ 0 := fun same => zero (Int64.toInt_inj.mp same)
          rw [if_pos zero, if_neg other, narrowed]
      | _ => rfl

theorem armed_of_nonzero (nonzero : ctx.heartbeatInterval ≠ 0) (now : UInt64) :
    heartbeatDue ctx now = true ↔ now - ctx.lastHb > (ctx.heartbeatInterval / 1000).toUInt64 := by
  simp [heartbeatDue, nonzero]

theorem armed_iff (given : Option Int64) (ctx : Context) :
    Armed given ctx ↔ (ctx.heartbeatInterval.toNat : Int) ≠ 0 ∧
      (∀ n ∈ given, Usable n → (ctx.heartbeatInterval.toNat : Int) = n.toInt) ∧
      ((∀ n ∈ given, ¬Usable n) → (ctx.heartbeatInterval.toNat : Int) = 41250) := by
  have zero : ctx.heartbeatInterval = 0 ↔ (ctx.heartbeatInterval.toNat : Int) = 0 := by
    rw [← UInt32.toNat_inj]
    exact Int.natCast_inj.symm
  have fallback : ctx.heartbeatInterval = 41250 ↔ (ctx.heartbeatInterval.toNat : Int) = 41250 := by
    rw [← UInt32.toNat_inj]
    exact Int.natCast_inj.symm
  rw [← fallback, Ne, ← zero]
  exact ⟨fun armed => ⟨armed.nonzero, armed.usable, armed.fallback⟩,
    fun ⟨nonzero, usable, fallback⟩ => ⟨nonzero, usable, fallback, armed_of_nonzero nonzero⟩⟩

/-- A HELLO arms the timer as wanted exactly if its interval is no integer that is cut to another one than
the fallback, and switches it off exactly if the interval is cut to 0. -/
theorem hello_arms_iff {text : Text} {payload : Json} (loaded : ex.loadb text = some payload)
    (hello : IsPayload 10 payload) :
    ∃ out, gatewayPayloadParser ex w ctx text = some out ∧
      (Armed (givenInterval payload.members) out.ctx ↔ ∀ n ∈ givenInterval payload.members,
        0 ≤ n.toInt ∧ n.toInt ≤ 4294967295 ∨ n.toInt % 4294967296 = 41250) ∧
      (out.ctx.heartbeatInterval = 0 ↔ ∃ n ∈ givenInterval payload.members,
        n.toInt ≠ 0 ∧ n.toInt % 4294967296 = 0) := by
  rw [gatewayPayloadParser_hello loaded hello]
  obtain ⟨out, ran⟩ := gatewayHello_total ex w
    { ctx with lastSeq := storedSeq ctx.lastSeq payload.members } (member? "d" payload.members)
  have stored := helloInterval_given payload.members
  rw [← gatewayHello_interval ran] at stored
  refine ⟨out, ran, ?_, ?_⟩
  · rw [armed_iff]
    cases given : givenInterval payload.members with
    | none =>
      rw [given, Option.elim_none] at stored
      simp [stored]
    | some n =>
      rw [given, Option.elim_some] at stored
      simp only [Option.mem_some_iff, forall_eq', Usable, stored]
      split <;> omega
  · rw [← UInt32.toNat_inj, ← Int.natCast_inj, stored]
    cases givenInterval payload.members with
    | none => simp
    | some n =>
      simp only [Option.elim_some, Option.mem_some_iff, exists_eq_left']
      split <;> simp_all

/-- What is wanted: every HELLO arms the timer. -/
def HelloAlwaysArms (ex : Externals) : Prop :=
  ∀ w ctx text payload, ex.loadb text = some payload → IsPayload 10 payload →
    ∃ out, gatewayPayloadParser ex w ctx text = some out ∧ Armed (givenInterval payload.members) out.ctx

/-- The interval 2^32 is not 0, and is stored as 0. -/
theorem hello_disarms : ¬HelloAlwaysArms (.knowing [helloMessage 4294967296]) := by
  intro wanted
  have hello : IsPayload 10 (helloMessage 4294967296) := gatewayMessage_isPayload _ _ _ _
  obtain ⟨out, parsed, armed⟩ := wanted (.calm 100) (zeroContext (.empty 15)) _ _ (knowing_first _ _) hello
  rw [gatewayPayloadParser_hello (knowing_first _ _) hello] at parsed
  exact armed.nonzero (gatewayHello_interval parsed)

theorem hello_arms_iff_usual :
    ∃ out, gatewayPayloadParser (.knowing [helloMessage 41250]) (.calm 100) (zeroContext (.empty 15))
        (helloMessage 41250).encode = some out ∧ Armed (some 41250) out.ctx := by
  obtain ⟨out, parsed, armed, _⟩ : ∃ out, gatewayPayloadParser (.knowing [helloMessage 41250]) (.calm 100)
      (zeroContext (.empty 15)) (helloMessage 41250).encode = some out ∧ _ :=
    hello_arms_iff (knowing_first _ _) (gatewayMessage_isPayload _ _ _ _)
  refine ⟨out, parsed, armed.mpr ?_⟩
  rintro n ⟨⟩
  decide

end

end Libdiscord
