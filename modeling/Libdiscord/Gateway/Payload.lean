import Libdiscord.Gateway.Parser

/-! Gateway payloads, and what the parser makes of one. -/

set_option autoImplicit false

namespace Libdiscord

open Json (member?)

def Known (members : List (String × Json)) : Prop :=
  ∀ entry ∈ members, gatewayPayloadObjectparser entry.1 ≠ .unknown

instance (members : List (String × Json)) : Decidable (Known members) :=
  inferInstanceAs (Decidable (∀ entry ∈ members, gatewayPayloadObjectparser entry.1 ≠ .unknown))

def integerMember (key : String) (members : List (String × Json)) : Option Int64 :=
  (member? key members).bind fun value => match value with
    | .integer n => some n
    | _ => none

-- The opcode the parser selects, from the low half of whatever the member holds.
def selectedOpcode (members : List (String × Json)) : GatewayOpcode :=
  .ofCode ((member? "op" members).elim opcodeUnknown fun value => value.integerValue.toUInt64.toUInt32)

theorem selectedOpcode_of_integer {members : List (String × Json)} {n : Int64}
    (op : integerMember "op" members = some n) : selectedOpcode members = .ofCode n.toUInt64.toUInt32 := by
  obtain ⟨value, found, integer⟩ := Option.bind_eq_some_iff.mp op
  rw [selectedOpcode, found, Option.elim_some]
  cases value <;> cases integer
  rfl

-- What the parser stores as the last sequence number.
def storedSeq (lastSeq : Int32) (members : List (String × Json)) : Int32 :=
  (member? "s" members).elim lastSeq fun value => value.integerValue.toInt32

/-- The payload is the one of the opcode `n`: known fields, and an op that is the integer `n`. -/
def IsPayload (n : Int64) (payload : Json) : Prop :=
  Known payload.members ∧ integerMember "op" payload.members = some n

instance (n : Int64) (payload : Json) : Decidable (IsPayload n payload) :=
  inferInstanceAs (Decidable (_ ∧ _))

-- A payload as the gateway sends it, with all four fields.
def gatewayMessage (op : Int64) (t s d : Json) : Json :=
  .object [("t", t), ("s", s), ("op", .integer op), ("d", d)]

theorem gatewayMessage_isPayload (op : Int64) (t s d : Json) : IsPayload op (gatewayMessage op t s d) := by
  refine ⟨?_, rfl⟩
  intro entry member
  simp only [gatewayMessage, Json.members, List.mem_cons, List.not_mem_nil, or_false] at member
  rcases member with rfl | rfl | rfl | rfl <;> simp [gatewayPayloadObjectparser]

def helloMessage (interval : Int64) : Json :=
  gatewayMessage 10 .null .null (.object [("heartbeat_interval", .integer interval)])

def heartbeatAckMessage : Json := gatewayMessage 11 .null .null .null

def readyMessage (seq : Int64) (session : Text) : Json :=
  gatewayMessage 0 (.string (ascii "READY")) (.integer seq) (.object [("session_id", .string session)])

theorem scanMembers_known (scan : Scan) (members : List (String × Json)) (known : Known members) :
    scanMembers scan members = .ok {
      lastSeq := storedSeq scan.lastSeq members
      opcode := (member? "op" members).elim scan.opcode fun value => value.integerValue.toUInt64.toUInt32
      d := (member? "d" members).or scan.d
      t := (member? "t" members).or scan.t } := by
  induction members generalizing scan with
  | nil => rfl
  | cons entry rest ih =>
    obtain ⟨key, value⟩ := entry
    have here := known (key, value) (by simp)
    have tail : Known rest := fun entry member => known entry (by simp [member])
    simp only [storedSeq] at ih ⊢
    simp only [scanMembers, Json.member?_cons]
    unfold gatewayPayloadObjectparser at here ⊢
    by_cases op : key = "op"
    · subst op
      simp only [if_true, ih _ tail]
      cases member? "op" rest <;> simp
    by_cases d : key = "d"
    · subst d
      simp only [if_neg op, if_true, ih _ tail]
      cases member? "d" rest <;> simp
    by_cases t : key = "t"
    · subst t
      simp only [if_neg op, if_neg d, if_true, ih _ tail]
      cases member? "t" rest <;> simp
    by_cases s : key = "s"
    · subst s
      simp only [if_neg op, if_neg d, if_neg t, if_true, ih _ tail]
      cases member? "s" rest <;> simp
    · simp [op, d, t, s] at here

theorem known_of_scanMembers {scan found : Scan} {members : List (String × Json)}
    (scanned : scanMembers scan members = .ok found) : Known members := by
  induction members generalizing scan with
  | nil => simp [Known]
  | cons entry rest ih =>
    obtain ⟨key, value⟩ := entry
    have split : gatewayPayloadObjectparser key ≠ .unknown ∧ Known rest := by
      simp only [scanMembers] at scanned
      cases kind : gatewayPayloadObjectparser key <;> simp only [kind] at scanned
      case unknown => cases scanned
      all_goals exact ⟨by simp, ih scanned⟩
    intro entry member
    rcases List.mem_cons.mp member with same | member
    · exact same ▸ split.1
    · exact split.2 entry member

end Libdiscord
