import Mathlib.Data.List.TakeWhile
import Libdiscord.Gateway.Dispatch
import Libdiscord.Gateway.Handshake

/-! What the parser makes of payloads it cannot use. -/

set_option autoImplicit false

namespace Libdiscord

open Libdiscord.Base
open Json (member?)

/-- The parser gives up before it acts on the opcode: the text is no JSON, a key is unknown, or the
opcode is. -/
def Rejected (ex : Externals) (text : Text) : Prop :=
  ∀ payload ∈ ex.loadb text, ¬Known payload.members ∨ selectedOpcode payload.members = .unknown

def Intact (ex : Externals) (w : World) (ctx : Context) (text : Text) : Prop :=
  ∃ out, gatewayPayloadParser ex w ctx text = some out ∧ out.ret ≠ .ok ∧ out.events = [] ∧ out.ctx = ctx

def scannedMembers (members : List (String × Json)) : List (String × Json) :=
  members.takeWhile fun entry => gatewayPayloadObjectparser entry.1 ≠ .unknown

def SeqUntouched (ex : Externals) (lastSeq : Int32) (text : Text) : Prop :=
  ∀ payload ∈ ex.loadb text, storedSeq lastSeq (scannedMembers payload.members) = lastSeq

section
variable {ex : Externals} {w : World} {ctx : Context}

theorem scannedMembers_known (members : List (String × Json)) : Known (scannedMembers members) := by
  intro entry member
  simpa using List.mem_takeWhile_imp member

theorem scannedMembers_of_known {members : List (String × Json)} (known : Known members) :
    scannedMembers members = members := by
  apply List.takeWhile_eq_self_iff.mpr
  intro entry member
  simpa using known entry member

theorem scanMembers_append {scan found : Scan} {members : List (String × Json)}
    (more : List (String × Json)) (scanned : scanMembers scan members = .ok found) :
    scanMembers scan (members ++ more) = scanMembers found more := by
  induction members generalizing scan with
  | nil =>
    cases scanned
    rfl
  | cons entry rest ih =>
    obtain ⟨key, value⟩ := entry
    simp only [List.cons_append, scanMembers] at scanned ⊢
    cases kind : gatewayPayloadObjectparser key <;> simp only [kind] at scanned ⊢
    case unknown => cases scanned
    all_goals exact ih scanned

theorem scanMembers_unknown (scan : Scan) {members : List (String × Json)} (unknown : ¬Known members) :
    ∃ found, scanMembers scan members = .error found ∧
      found.lastSeq = storedSeq scan.lastSeq (scannedMembers members) := by
  obtain ⟨found, scanned, lastSeq⟩ : ∃ found, scanMembers scan (scannedMembers members) = .ok found ∧
      found.lastSeq = storedSeq scan.lastSeq (scannedMembers members) :=
    ⟨_, scanMembers_known scan _ (scannedMembers_known members), rfl⟩
  have whole : scannedMembers members ++ members.dropWhile _ = members := List.takeWhile_append_dropWhile
  cases rest : members.dropWhile fun entry => gatewayPayloadObjectparser entry.1 ≠ .unknown with
  | nil =>
    rw [rest, List.append_nil] at whole
    exact absurd (whole ▸ scannedMembers_known members) unknown
  | cons entry tail =>
    obtain ⟨key, value⟩ := entry
    have stop := List.head?_dropWhile_not (fun entry : String × Json =>
      decide (gatewayPayloadObjectparser entry.1 ≠ .unknown)) members
    rw [rest] at whole stop
    refine ⟨found, ?_, lastSeq⟩
    rw [← whole, scanMembers_append _ scanned, scanMembers]
    simp only [List.head?_cons, decide_not, Bool.not_eq_false', decide_eq_true_eq] at stop
    simp only [stop]

theorem gatewayPayloadParser_rejected {text : Text} (w : World) (ctx : Context)
    (rejected : Rejected ex text) :
    gatewayPayloadParser ex w ctx text = some ⟨{ ctx with
      lastSeq := (ex.loadb text).elim ctx.lastSeq fun payload =>
        storedSeq ctx.lastSeq (scannedMembers payload.members) }, 1, []⟩ := by
  cases loaded : ex.loadb text with
  | none => simp [gatewayPayloadParser, loaded]
  | some payload =>
    by_cases known : Known payload.members
    · have unknown : selectedOpcode payload.members = .unknown := by
        simpa [known] using rejected payload loaded
      rw [gatewayPayloadParser_known loaded known, unknown, Option.elim_some, scannedMembers_of_known known]
    · obtain ⟨found, scanned, lastSeq⟩ := scanMembers_unknown ⟨ctx.lastSeq, opcodeUnknown, none, none⟩ known
      unfold gatewayPayloadParser
      simp only [loaded, scanned, lastSeq, Option.elim_some]

theorem withLastSeq_eq (seq : Int32) : { ctx with lastSeq := seq } = ctx ↔ seq = ctx.lastSeq := by
  constructor
  · exact fun same => congrArg Context.lastSeq same
  · rintro rfl
    rfl

theorem intact_iff_seq {text : Text} (w : World) (ctx : Context) (rejected : Rejected ex text) :
    Intact ex w ctx text ↔ ((ex.loadb text).elim ctx.lastSeq fun payload =>
      storedSeq ctx.lastSeq (scannedMembers payload.members)) = ctx.lastSeq := by
  have error : (1 : Status) ≠ .ok := by decide
  rw [Intact, gatewayPayloadParser_rejected w ctx rejected, ← withLastSeq_eq]
  simp [error]

/-- A rejected payload changes nothing exactly if what was scanned of it brings no sequence number but
the one that is stored. -/
theorem rejected_intact_iff (w : World) (ctx : Context) (text : Text) (rejected : Rejected ex text) :
    Intact ex w ctx text ↔ SeqUntouched ex ctx.lastSeq text := by
  rw [intact_iff_seq w ctx rejected, SeqUntouched]
  cases ex.loadb text <;> simp

end

/-- What is wanted: in every state a run reaches, a rejected payload changes nothing. -/
def RejectedIntact (ex : Externals) : Prop :=
  ∀ s moves final, Booted ex s → run (step ex) s moves = some final →
    ∀ w text, Rejected ex text → Intact ex w final.ctx text

-- A payload with a sequence number and a key that is unknown.
def strangeMessage (seq : Int64) : Json := .object [("s", .integer seq), ("x", .null)]

/-- The number in front of an unknown key is stored. -/
theorem rejected_stored : ¬RejectedIntact (.knowing [strangeMessage 5]) := by
  intro wanted
  have rejected : Rejected (.knowing [strangeMessage 5]) (strangeMessage 5).encode := by
    intro payload loaded
    rw [knowing_first] at loaded
    cases loaded
    exact .inl (by decide)
  have intact := wanted _ [] _ (booted_ofBot _ 16 99) rfl (.calm 100) _ rejected
  rw [intact_iff_seq _ _ rejected, knowing_first] at intact
  exact absurd intact (by decide)

theorem rejected_intact_iff_stored :
    Intact (.knowing [strangeMessage 0]) (.calm 100) (System.ofBot (.knowing [strangeMessage 0]) 16 99).ctx
      (strangeMessage 0).encode := by
  refine (rejected_intact_iff _ _ _ fun payload loaded => ?_).mpr fun payload loaded => ?_
  · rw [knowing_first] at loaded
    cases loaded
    exact .inl (by decide)
  · rw [knowing_first] at loaded
    cases loaded
    decide

def Typeless (members : List (String × Json)) : Prop :=
  Known members ∧ selectedOpcode members = .dispatch ∧ member? "t" members = none

def Unreadable (members : List (String × Json)) : Prop :=
  Known members ∧ selectedOpcode members = .dispatch ∧
    (member? "t" members).bind Json.stringValue = some (ascii "READY") ∧
    ∃ value ∈ sessionMember (member? "d" members), value.stringValue = none

instance (members : List (String × Json)) : Decidable (Typeless members) :=
  inferInstanceAs (Decidable (_ ∧ _ ∧ _))

instance (members : List (String × Json)) : Decidable (Unreadable members) :=
  have : Decidable (∃ value ∈ sessionMember (member? "d" members), value.stringValue = none) :=
    Option.decidableExistsMem _
  inferInstanceAs (Decidable (_ ∧ _ ∧ _ ∧ ∃ value ∈ sessionMember (member? "d" members), _))

/-- The parser reads no variable that was not assigned and copies no null pointer, and reports the
dispatches it cannot use. Whether a user callback is set does not matter here, so that one is taken to
be: what remains is the crash of `strdup`. -/
structure Defined (ex : Externals) (w : World) (ctx : Context) (text : Text)
    (members : List (String × Json)) (out : Outcome) : Prop where
  parsed : gatewayPayloadParser ex w { ctx with userCallback := true } text = some out
  assigned : ∀ name, .unassigned name ∉ out.events
  typeless : Typeless members → out.ret = .jsonGatewayDispatchTypeErr
  unreadable : Unreadable members → out.ret ≠ .ok

section
variable {ex : Externals} {w : World} {ctx : Context}

theorem told_assigned {events : List Event} (told : Only Event.Told events) (name : Local) :
    .unassigned name ∉ events :=
  fun member => told _ member

theorem gatewayHello_assigned {d : Option Json} {out : Outcome} (ran : gatewayHello ex w ctx d = some out)
    (fresh : ctx.gatewaySessionId = none) (name : Local) : .unassigned name ∉ out.events := by
  have chosen : helloIdentify w { ctx with heartbeatInterval := helloInterval d } = (setIdentify _, []) :=
    helloIdentify_fresh w fresh
  rcases gatewayHello_cases ran with ⟨_, rfl⟩ | ⟨_, _, _, _, rfl⟩
  · simp [chosen]
  · rw [chosen]
    split <;> simp

section
variable {text : Text} {payload : Json}

theorem gatewayPayloadParser_assigned (w : World) (fresh : ctx.gatewaySessionId = none)
    (loaded : ex.loadb text = some payload)
    (other : ¬(Known payload.members ∧ selectedOpcode payload.members = .dispatch)) :
    ∃ out, gatewayPayloadParser ex w ctx text = some out ∧ ∀ name, .unassigned name ∉ out.events := by
  by_cases known : Known payload.members
  · rw [gatewayPayloadParser_known loaded known]
    cases code : selectedOpcode payload.members
    case dispatch => exact absurd ⟨known, code⟩ other
    case hello =>
      obtain ⟨out, ran⟩ := gatewayHello_total ex w { ctx with
        lastSeq := storedSeq ctx.lastSeq payload.members } (member? "d" payload.members)
      exact ⟨out, ran, gatewayHello_assigned ran fresh⟩
    all_goals exact ⟨_, rfl, by simp⟩
  · have rejected : Rejected ex text := by
      intro found same
      cases loaded.symm.trans same
      exact .inl known
    exact ⟨_, gatewayPayloadParser_rejected w ctx rejected, by simp⟩

theorem typeless_unassigned {out : Outcome} (loaded : ex.loadb text = some payload)
    (typeless : Typeless payload.members) (parsed : gatewayPayloadParser ex w ctx text = some out) :
    .unassigned .dispatchType ∈ out.events := by
  obtain ⟨known, dispatch, type⟩ := typeless
  rw [gatewayPayloadParser_known loaded known] at parsed
  simp only [dispatch, type, Option.map_eq_some_iff] at parsed
  obtain ⟨inner, _, rfl⟩ := parsed
  exact List.mem_cons_self

theorem dispatch_parsed (w : World) (set : ctx.userCallback = true) (loaded : ex.loadb text = some payload)
    (known : Known payload.members) (dispatch : selectedOpcode payload.members = .dispatch) {t : Json}
    (type : member? "t" payload.members = some t) :
    if Unreadable payload.members then gatewayPayloadParser ex w ctx text = none
    else ∃ out, gatewayPayloadParser ex w ctx text = some out ∧ ∀ name, .unassigned name ∉ out.events := by
  rw [gatewayPayloadParser_known loaded known]
  simp only [dispatch, type]
  cases string : t.stringValue with
  | none =>
    have untyped : (some t).bind Json.stringValue = none := string
    have readable : ¬Unreadable payload.members := by simp [Unreadable, type, string]
    rw [if_neg readable]
    exact ⟨_, gatewayDispatchParser_untyped untyped, by simp⟩
  | some name =>
    have named : t = .string name := by cases t <;> cases string; rfl
    subst named
    have set : { ctx with lastSeq := storedSeq ctx.lastSeq payload.members }.userCallback = true := set
    have reported := gatewayDispatchParser_reported (w := w) set name (member? "d" payload.members)
    have unreadable : Unreadable payload.members ↔
        name = ascii "READY" ∧
          ∃ value ∈ sessionMember (member? "d" payload.members), value.stringValue = none := by
      simp [Unreadable, known, dispatch, type, Json.stringValue]
    by_cases bad : Unreadable payload.members
    · rw [if_pos bad]
      rwa [if_pos (unreadable.mp bad)] at reported
    · rw [if_neg bad]
      rw [if_neg (mt unreadable.mpr bad)] at reported
      obtain ⟨out, parsed, _⟩ := reported
      obtain ⟨_, _, told⟩ := gatewayDispatchParser_some parsed
      exact ⟨out, parsed, told_assigned told⟩

/-- Without a stored session the parser is defined on a JSON text exactly if it is neither a dispatch
without a type nor a READY whose session id is not a string. -/
theorem defined_iff (w : World) (fresh : ctx.gatewaySessionId = none)
    (loaded : ex.loadb text = some payload) :
    (∃ out, Defined ex w ctx text payload.members out) ↔
      ¬Typeless payload.members ∧ ¬Unreadable payload.members := by
  have usable : (∃ out, gatewayPayloadParser ex w { ctx with userCallback := true } text = some out ∧
      ∀ name, .unassigned name ∉ out.events) → ¬Typeless payload.members ∧ ¬Unreadable payload.members →
      ∃ out, Defined ex w ctx text payload.members out := by
    rintro ⟨out, parsed, assigned⟩ ⟨typed, readable⟩
    exact ⟨out, parsed, assigned, fun typeless => absurd typeless typed,
      fun unreadable => absurd unreadable readable⟩
  by_cases dispatch : Known payload.members ∧ selectedOpcode payload.members = .dispatch
  · cases type : member? "t" payload.members with
    | none =>
      have typeless : Typeless payload.members := ⟨dispatch.1, dispatch.2, type⟩
      refine iff_of_false ?_ fun sound => sound.1 typeless
      rintro ⟨out, parsed, assigned, _, _⟩
      exact assigned _ (typeless_unassigned loaded typeless parsed)
    | some t =>
      have typed : ¬Typeless payload.members := fun typeless => nomatch type.symm.trans typeless.2.2
      have set : { ctx with userCallback := true }.userCallback = true := rfl
      have parsed := dispatch_parsed w set loaded dispatch.1 dispatch.2 type
      by_cases bad : Unreadable payload.members
      · rw [if_pos bad] at parsed
        refine iff_of_false ?_ fun sound => sound.2 bad
        rintro ⟨out, ran, _⟩
        cases parsed.symm.trans ran
      · rw [if_neg bad] at parsed
        exact iff_of_true (usable parsed ⟨typed, bad⟩) ⟨typed, bad⟩
  · have sound : ¬Typeless payload.members ∧ ¬Unreadable payload.members :=
      ⟨fun typeless => dispatch ⟨typeless.1, typeless.2.1⟩, fun bad => dispatch ⟨bad.1, bad.2.1⟩⟩
    have fresh : { ctx with userCallback := true }.gatewaySessionId = none := fresh
    have parsed := gatewayPayloadParser_assigned w fresh loaded dispatch
    exact iff_of_true (usable parsed sound) sound

end

end

/-- What is wanted: in every state without a stored session that a run reaches, the parser is defined on
every JSON text. -/
def AlwaysDefined (ex : Externals) : Prop :=
  ∀ s moves final, Booted ex s → run (step ex) s moves = some final → final.ctx.gatewaySessionId = none →
    ∀ w text payload, ex.loadb text = some payload → ∃ out, Defined ex w final.ctx text payload.members out

-- A dispatch with no member but its op.
def bareMessage : Json := .object [("op", .integer 0)]

/-- A dispatch without a type is parsed with a variable that was not assigned, and a READY whose session
id is a number hands a null pointer to `strdup`. -/
theorem parser_undefined : ¬AlwaysDefined (.knowing [bareMessage]) ∧
    ¬AlwaysDefined (.knowing [gatewayMessage 0 (.string (ascii "READY")) (.integer 1)
      (.object [("session_id", .integer 5)])]) := by
  constructor
  · intro wanted
    obtain ⟨out, parsed, assigned, _, _⟩ :=
      wanted _ [] _ (booted_ofBot _ 16 99) rfl rfl (.calm 100) _ _ (knowing_first _ _)
    exact assigned _ (typeless_unassigned (knowing_first _ _) (by decide +kernel) parsed)
  · intro wanted
    obtain ⟨out, ran, _⟩ := wanted _ [] _ (booted_ofBot _ 16 99) rfl rfl (.calm 100) _ _ (knowing_first _ _)
    have loaded := knowing_first (gatewayMessage 0 (.string (ascii "READY")) (.integer 1)
      (.object [("session_id", .integer 5)])) []
    have set : { (System.ofBot (.knowing []) 16 99).ctx with userCallback := true }.userCallback = true := rfl
    have parsed := dispatch_parsed (.calm 100) set loaded (by decide) (by decide) rfl
    rw [if_pos (by decide +kernel)] at parsed
    cases parsed.symm.trans ran

theorem defined_iff_ready :
    ∃ out, Defined (.knowing [readyMessage 1 (ascii "abc")]) (.calm 100)
      (System.ofBot (.knowing []) 16 99).ctx
      (readyMessage 1 (ascii "abc")).encode (readyMessage 1 (ascii "abc")).members out :=
  (defined_iff (.calm 100) rfl (knowing_first _ _)).mpr (by decide +kernel)

def GatewayOpcode.number : GatewayOpcode → Option Nat
  | .dispatch => some 0
  | .heartbeat => some 1
  | .identify => some 2
  | .presence => some 3
  | .voiceState => some 4
  | .voicePing => some 5
  | .resume => some 6
  | .reconnect => some 7
  | .requestMembers => some 8
  | .invalidateSession => some 9
  | .hello => some 10
  | .heartbeatAck => some 11
  | .guildSync => some 12
  | .unknown => none

/-- The member loop ends with the opcode `n`, and the parser does what its switch does for this opcode. -/
def TakesBranch (ex : Externals) (w : World) (ctx : Context) (text : Text) (members : List (String × Json))
    (n : Nat) : Prop :=
  let scan := {
    lastSeq := storedSeq ctx.lastSeq members
    opcode := UInt32.ofNat n
    d := member? "d" members
    t := member? "t" members : Scan }
  scanMembers ⟨ctx.lastSeq, opcodeUnknown, none, none⟩ members = .ok scan ∧
    gatewayPayloadParser ex w ctx text = gatewayOpcode ex w { ctx with lastSeq := scan.lastSeq } scan

/-- The parser takes the branch of an opcode exactly if the op is the integer of that opcode, and for
every other op returns an error and does nothing but store the sequence number. -/
structure Recognises (ex : Externals) (w : World) (ctx : Context) (text : Text)
    (members : List (String × Json)) : Prop where
  branch : ∀ n ≤ 12, TakesBranch ex w ctx text members n ↔ integerMember "op" members = some (Int64.ofNat n)
  other : (∀ n ≤ 12, integerMember "op" members ≠ some (Int64.ofNat n)) →
    gatewayPayloadParser ex w ctx text =
      some ⟨{ ctx with lastSeq := storedSeq ctx.lastSeq members }, 1, []⟩

/-- The op is absent, or an integer that is an opcode if its low half is one. -/
def OpExact (members : List (String × Json)) : Prop :=
  match member? "op" members with
  | none => True
  | some (.integer n) => n.toUInt64.toUInt32.toNat ≤ 12 → 0 ≤ n ∧ n ≤ 12
  | some _ => False

instance (members : List (String × Json)) : Decidable (OpExact members) := by
  unfold OpExact
  split <;> infer_instance

section
variable {ex : Externals} {w : World} {ctx : Context} {text : Text} {payload : Json}

theorem ofCode_number (code : UInt32) :
    (GatewayOpcode.ofCode code).number = if code.toNat ≤ 12 then some code.toNat else none := by
  unfold GatewayOpcode.ofCode
  split <;> simp_all [GatewayOpcode.number]
  omega

theorem low_of_opcode {n : Nat} (small : n ≤ 12) : (Int64.ofNat n).toUInt64.toUInt32.toNat = n := by
  have all : ∀ n : Fin 13, (Int64.ofNat n).toUInt64.toUInt32.toNat = n := by decide
  exact all ⟨n, by omega⟩

theorem opcode_of_range {n : Int64} (low : 0 ≤ n) (high : n ≤ 12) :
    n = Int64.ofNat n.toUInt64.toUInt32.toNat := by
  have lower : 0 ≤ n.toInt := Int64.le_iff_toInt_le.mp low
  have upper : n.toInt ≤ 12 := Int64.le_iff_toInt_le.mp high
  have same : n = Int64.ofNat n.toInt.toNat := by
    rw [← Int64.ofInt_eq_ofNat, Int.toNat_of_nonneg lower, Int64.ofInt_toInt]
  rw [same, low_of_opcode (by omega)]

theorem number_unknown {code : GatewayOpcode} (none : ∀ n ≤ 12, code.number ≠ some n) :
    code = .unknown := by
  cases code
  case unknown => rfl
  all_goals exact absurd rfl (none _ (by decide))

/-- An integer op selects by its low half, which is right exactly if it is an opcode itself. -/
theorem branches_integer {members : List (String × Json)} {k : Int64}
    (integer : integerMember "op" members = some k) :
    (∀ n ≤ 12, (selectedOpcode members).number = some n ↔
      integerMember "op" members = some (Int64.ofNat n)) ↔
      (k.toUInt64.toUInt32.toNat ≤ 12 → 0 ≤ k ∧ k ≤ 12) := by
  have number : (selectedOpcode members).number =
      if k.toUInt64.toUInt32.toNat ≤ 12 then some k.toUInt64.toUInt32.toNat else none := by
    rw [selectedOpcode_of_integer integer, ofCode_number]
  rw [integer]
  constructor
  · intro branch small
    rw [if_pos small] at number
    have same : k = Int64.ofNat k.toUInt64.toUInt32.toNat :=
      Option.some.inj ((branch _ small).mp number)
    have range : ∀ n : Fin 13, 0 ≤ Int64.ofNat n ∧ Int64.ofNat n ≤ 12 := by decide
    rw [same]
    exact range ⟨k.toUInt64.toUInt32.toNat, Nat.lt_succ_of_le small⟩
  · intro exact n small
    rw [number, Option.some.injEq]
    constructor
    · intro here
      split at here
      · next low =>
        obtain ⟨lower, upper⟩ := exact low
        rw [opcode_of_range lower upper, Option.some.inj here]
      · cases here
    · rintro rfl
      rw [low_of_opcode small, if_pos small]

theorem branches_iff (members : List (String × Json)) :
    (∀ n ≤ 12, (selectedOpcode members).number = some n ↔
      integerMember "op" members = some (Int64.ofNat n)) ↔ OpExact members := by
  unfold OpExact
  cases op : member? "op" members with
  | none =>
    have unknown : (selectedOpcode members).number = none := by
      rw [selectedOpcode, op]
      rfl
    simp [unknown, integerMember, op]
  | some value =>
    cases value
    case integer k => exact branches_integer (by rw [integerMember, op]; rfl)
    all_goals
      -- the getter makes 0 of what is no integer, which is an opcode
      have missing : integerMember "op" members = none := by rw [integerMember, op]; rfl
      have zero : (selectedOpcode members).number = some 0 := by rw [selectedOpcode, op]; rfl
      refine iff_of_false (fun branch => ?_) id
      have integer := (branch 0 (by decide)).mp zero
      rw [missing] at integer
      cases integer

theorem ofCode_number_iff (code : UInt32) {n : Nat} (small : n ≤ 12) :
    (GatewayOpcode.ofCode code).number = some n ↔ code = UInt32.ofNat n := by
  have same : code = UInt32.ofNat n ↔ code.toNat = n := by
    rw [← UInt32.toNat_inj, UInt32.toNat_ofNat', Nat.mod_eq_of_lt (by omega)]
  rw [ofCode_number, same]
  split
  · rw [Option.some.injEq]
  · exact iff_of_false nofun (by omega)

/-- With known fields it is the selected opcode whose branch is taken. -/
theorem takesBranch_iff (w : World) (ctx : Context) (loaded : ex.loadb text = some payload)
    (known : Known payload.members) {n : Nat} (small : n ≤ 12) :
    TakesBranch ex w ctx text payload.members n ↔ (selectedOpcode payload.members).number = some n := by
  have scanned := scanMembers_known ⟨ctx.lastSeq, opcodeUnknown, none, none⟩ _ known
  rw [selectedOpcode, ofCode_number_iff _ small]
  constructor
  · rintro ⟨found, _⟩
    exact congrArg Scan.opcode (Except.ok.inj (scanned.symm.trans found))
  · intro code
    have found : scanMembers ⟨ctx.lastSeq, opcodeUnknown, none, none⟩ payload.members = .ok {
        lastSeq := storedSeq ctx.lastSeq payload.members
        opcode := UInt32.ofNat n
        d := member? "d" payload.members
        t := member? "t" payload.members } := by
      rw [scanned, ← code, Option.or_none, Option.or_none]
    refine ⟨found, ?_⟩
    unfold gatewayPayloadParser
    simp only [loaded, found]

/-- The parser recognises the opcode of a payload with known fields exactly if its op is absent or is an
integer whose low half is an opcode only where it is one itself. -/
theorem recognises_iff (w : World) (ctx : Context) (loaded : ex.loadb text = some payload)
    (known : Known payload.members) :
    Recognises ex w ctx text payload.members ↔ OpExact payload.members := by
  have taken : (∀ n ≤ 12, TakesBranch ex w ctx text payload.members n ↔
      integerMember "op" payload.members = some (Int64.ofNat n)) ↔ OpExact payload.members := by
    rw [← branches_iff]
    exact forall₂_congr fun n small => by rw [takesBranch_iff w ctx loaded known small]
  rw [← taken]
  refine ⟨Recognises.branch, fun branch => ⟨branch, fun other => ?_⟩⟩
  have unknown : selectedOpcode payload.members = .unknown := by
    refine number_unknown fun n small here => other n small ((branch n small).mp ?_)
    exact (takesBranch_iff w ctx loaded known small).mpr here
  rw [gatewayPayloadParser_known loaded known, unknown]

end

/-- What is wanted: the parser recognises the opcode of every payload with known fields. -/
def AlwaysRecognises (ex : Externals) : Prop :=
  ∀ w ctx text payload, ex.loadb text = some payload → Known payload.members →
    Recognises ex w ctx text payload.members

/-- An op that is null selects the branch of a dispatch. -/
theorem null_recognised :
    ¬AlwaysRecognises (.knowing [.object [("op", .null), ("t", .string (ascii "GUILD_CREATE"))]]) := by
  intro wanted
  have recognises := wanted (.calm 100) (System.ofBot (.knowing []) 16 99).ctx _ _
    (knowing_first _ _) (by decide)
  have taken := (takesBranch_iff (.calm 100) (System.ofBot (.knowing []) 16 99).ctx
    (knowing_first (.object [("op", .null), ("t", .string (ascii "GUILD_CREATE"))]) []) (by decide)
    (Nat.zero_le 12)).mpr rfl
  have integer := (recognises.branch 0 (by decide)).mp taken
  exact absurd integer (by decide)

theorem recognises_iff_hello :
    Recognises (.knowing [helloMessage 41250]) (.calm 100) (System.ofBot (.knowing []) 16 99).ctx
      (helloMessage 41250).encode (helloMessage 41250).members :=
  (recognises_iff _ _ (knowing_first _ _) (by decide)).mpr (by decide)

end Libdiscord
