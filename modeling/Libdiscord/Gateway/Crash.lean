import Libdiscord.Gateway.Close
import Libdiscord.Gateway.Dispatch
import Libdiscord.Gateway.Steps

/-! What from outside crashes the process. -/

set_option autoImplicit false

namespace Libdiscord

open Libdiscord.Base
open Json (member?)

/-- The move can be made: control is where the move starts. -/
def Offered (s : System) : Move → Prop
  | .service _ | .connect _ _ => s.control = .bot
  | .callback _ _ _ | .leave => s.control ≠ .bot

def completedText (w : World) (ctx : Context) (fragment : Fragment UInt8) : Option Text :=
  let len := fragment.data.length
  if ctx.gatewayRxBuffer.isNone && fragment.final then some fragment.data
  else if fragment.first then none
  else if fragment.final && ctx.gatewayRxBuffer.isSome then
    let block := Block.realloc ctx.gatewayRxBuffer (ctx.gatewayRxBufferLen + len + 2)
    let block := block.write ctx.gatewayRxBufferLen (strncpy fragment.data len)
    let total := ctx.gatewayRxBufferLen + len
    some ((block.write total [0]).read w.strayByte total)
  else none

/-- The type that a dispatch is taken to have; without one it is what the variable happens to hold. -/
def dispatchType (w : World) (members : List (String × Json)) : Option Text :=
  ((member? "t" members).or w.staleType).bind Json.stringValue

def FatalDispatch (userCallback : Bool) (d : Option Json) (type : Text) : Prop :=
  if type = ascii "READY" then
    ∃ value ∈ sessionMember d, value.stringValue = none ∨ userCallback = false
  else userCallback = false ∧ ∃ entry ∈ dispatchDict, ascii entry.name = type

def FatalText (ex : Externals) (w : World) (userCallback : Bool) (text : Text) : Prop :=
  ∃ payload ∈ ex.loadb text, Known payload.members ∧ selectedOpcode payload.members = .dispatch ∧
    ∃ type ∈ dispatchType w payload.members,
      FatalDispatch userCallback (member? "d" payload.members) type

def closeCode (w : World) (frame : Text) : UInt32 := closeCodeOf (frameByte w frame 0) (frameByte w frame 1)

def Fatal (ex : Externals) (s : System) : Move → Prop
  | .callback _ (.clientReceive fragment) w =>
    ∃ text ∈ completedText w s.ctx fragment, FatalText ex w s.ctx.userCallback text
  | .callback _ (.wsPeerInitiatedClose frame) w =>
    s.ctx.userCallback = false ∨ closeCode w frame = 1000 ∨ closeCode w frame = 4006
  | .callback _ .clientConnectionError _ | .callback _ .clientEstablished _ => s.ctx.userCallback = false
  | _ => False

section Callbacks
variable {ex : Externals} {w : World} {ctx : Context} {wsi : Wsi}

theorem callUser_eq_none (reason : CallbackReason) (data : CallbackData) (len : Int) :
    callUser w ctx reason data len = none ↔ ctx.userCallback = false := by
  unfold callUser
  cases ctx.userCallback <;> simp

theorem ready_named : ∃ entry ∈ dispatchDict, ascii entry.name = ascii "READY" :=
  ⟨⟨"READY", .ready, some .dispatchReady⟩, List.mem_cons_self .., rfl⟩

theorem gatewayDispatchParser_eq_none (type d : Option Json) :
    gatewayDispatchParser w ctx type d = none ↔
      ∃ name ∈ type.bind Json.stringValue, FatalDispatch ctx.userCallback d name := by
  cases typed : type.bind Json.stringValue with
  | none => simp [gatewayDispatchParser_untyped typed]
  | some name =>
    have dispatched : Dispatched w ctx name d (gatewayDispatchParser w ctx type d) :=
      gatewayDispatchParser_dispatched typed
    generalize gatewayDispatchParser w ctx type d = result at dispatched
    simp only [Option.mem_def, Option.some.injEq, exists_eq_left', FatalDispatch]
    cases dispatched with
    | unknown absent =>
      have other : name ≠ ascii "READY" := by
        rintro rfl
        obtain ⟨entry, member, named⟩ := ready_named
        exact absent entry member named
      rw [if_neg other]
      exact iff_of_false nofun fun ⟨_, entry, member, named⟩ => absent entry member named
    | sessionless ready missing =>
      rw [if_pos ready, missing]
      exact iff_of_false nofun nofun
    | unreadable value ready found unreadable =>
      rw [if_pos ready]
      exact iff_of_true rfl ⟨value, found, .inl unreadable⟩
    | ready entry id member named ready found =>
      obtain ⟨value, session, string⟩ := Option.bind_eq_some_iff.mp found
      rw [if_pos ready, callUser_eq_none, session]
      simp [string]
    | known entry member named other =>
      rw [if_neg other, callUser_eq_none, and_iff_left ⟨entry, member, named⟩]

theorem gatewayPayloadParser_eq_none (text : Text) :
    gatewayPayloadParser ex w ctx text = none ↔ FatalText ex w ctx.userCallback text := by
  unfold FatalText
  cases loaded : ex.loadb text with
  | none => simp [gatewayPayloadParser, loaded]
  | some payload =>
    simp only [Option.mem_def, Option.some.injEq, exists_eq_left']
    by_cases known : Known payload.members
    case neg =>
      obtain ⟨out, parsed⟩ : ∃ out, gatewayPayloadParser ex w ctx text = some out := by
        unfold gatewayPayloadParser
        simp only [loaded]
        cases scanned : scanMembers ⟨ctx.lastSeq, opcodeUnknown, none, none⟩ payload.members with
        | ok scan => exact absurd (known_of_scanMembers scanned) known
        | error scan => exact ⟨_, rfl⟩
      rw [parsed]
      exact iff_of_false nofun fun fatal => known fatal.1
    rw [gatewayPayloadParser_known loaded known, and_iff_right known]
    dsimp only
    cases selectedOpcode payload.members
    case dispatch =>
      dsimp only
      rw [and_iff_right rfl, dispatchType]
      cases typed : member? "t" payload.members with
      | some t => exact gatewayDispatchParser_eq_none (some t) _
      | none => exact Option.map_eq_none_iff.trans (gatewayDispatchParser_eq_none w.staleType _)
    case hello =>
      obtain ⟨out, answered⟩ := gatewayHello_total ex w
        { ctx with lastSeq := storedSeq ctx.lastSeq payload.members } (member? "d" payload.members)
      rw [answered]
      exact iff_of_false nofun fun fatal => nomatch fatal.1
    all_goals exact iff_of_false nofun fun fatal => nomatch fatal.1

theorem clientReceive_eq_none (fragment : Fragment UInt8) :
    clientReceive ex w ctx fragment = none ↔
      ∃ text ∈ completedText w ctx fragment, FatalText ex w ctx.userCallback text := by
  unfold clientReceive completedText
  dsimp only
  split
  · rw [Option.map_eq_none_iff, gatewayPayloadParser_eq_none]
    simp
  split
  · simp
  split
  · rw [Option.map_eq_none_iff, gatewayPayloadParser_eq_none]
    simp
  · simp

theorem peerInitiatedClose_eq_none (frame : Text) (unset : ctx.gi = none) :
    peerInitiatedClose w ctx frame = none ↔
      ctx.userCallback = false ∨ closeCode w frame = 1000 ∨ closeCode w frame = 4006 := by
  unfold peerInitiatedClose closeCode closeCodeOf
  dsimp only
  cases set : ctx.userCallback with
  | false => simp [callUser]
  | true =>
    simp only [callUser, if_true]
    split <;> simp_all

theorem peerInitiatedClose_gi {frame : Text} {out : Outcome} (unset : ctx.gi = none)
    (closed : peerInitiatedClose w ctx frame = some out) : out.ctx.gi = none := by
  unfold peerInitiatedClose at closed
  dsimp only at closed
  split at closed
  · cases closed
  · next user called =>
    obtain ⟨_, rfl⟩ := callUser_some called
    split at closed
    · simp [unset] at closed
    · cases closed
      exact unset

theorem Parsed.gi {text : Text} {out : Outcome} (parsed : Parsed ex w ctx text out) :
    out.ctx.gi = ctx.gi := by
  cases parsed with
  | malformed => rfl
  | unknownKey => rfl
  | known _ _ _ _ handled => cases handled <;> rfl

theorem lwsCallback_gi {callback : Callback} {out : Outcome} (unset : ctx.gi = none)
    (ran : lwsCallback ex w ctx wsi callback = some out) : out.ctx.gi = none := by
  cases lwsCallback_some ran with
  | closed frame => exact peerInitiatedClose_gi unset ran
  | parsed _ _ _ _ _ _ _ parsed => exact parsed.gi.trans unset
  | _ => exact unset

end Callbacks

section System
variable {ex : Externals} {s next : System} {m : Move}

/-- Nothing ever allocates `gi`. -/
theorem step_gi (unset : s.ctx.gi = none) (stepped : step ex s m = some next) : next.ctx.gi = none := by
  cases step_acts stepped with
  | idle _ _ _ _ _ asked =>
    obtain ⟨_, _, _, _, _, same⟩ := asked
    rw [same]
    exact unset
  | connecting _ _ ctx _ _ _ _ asked same =>
    obtain ⟨_, _, _, _, _, rfl⟩ := asked
    rw [same]
    exact unset
  | missed _ _ _ same =>
    rw [same]
    exact unset
  | queued _ _ _ _ _ _ _ _ _ _ same =>
    rw [same]
    exact unset
  | called _ _ _ _ _ ran _ same =>
    rw [same]
    exact lwsCallback_gi unset ran

theorem enterConnect_total (ex : Externals) (http : Http) (created : Bool) (caller : Caller) (s : System) :
    ¬enterConnect ex http created caller s = none := by
  obtain ⟨out, ran⟩ := Option.isSome_iff_exists.mp (bootstrap_total ex http s.ctx)
  rw [enterConnect, ran]
  exact Option.some_ne_none _

theorem lwsCallback_eq_none {ctx : Context} {w : World} {wsi : Wsi} {callback : Callback}
    (control : Control) (wsis : Nat) (clock : UInt64) (history : List Event) (unset : ctx.gi = none) :
    lwsCallback ex w ctx wsi callback = none ↔
      Fatal ex ⟨ctx, control, wsis, clock, history⟩ (.callback wsi callback w) := by
  cases callback
  case clientConnectionError => rw [lwsCallback, Option.map_eq_none_iff, callUser_eq_none, Fatal]
  case clientEstablished => rw [lwsCallback, Option.map_eq_none_iff, callUser_eq_none, Fatal]
  case clientReceive fragment => exact clientReceive_eq_none fragment
  case wsPeerInitiatedClose frame => exact peerInitiatedClose_eq_none frame unset
  all_goals exact iff_of_false nofun id

theorem step_crashes (unset : s.ctx.gi = none) (offered : Offered s m) :
    step ex s m = none ↔ Fatal ex s m := by
  cases m with
  | service w =>
    refine iff_of_false ?_ id
    rw [step, if_pos (show s.control = .bot from offered), enterService]
    split
    · exact enterConnect_total ex w.http w.created .service s
    dsimp only
    split <;> exact Option.some_ne_none _
  | connect http created =>
    refine iff_of_false ?_ id
    rw [step, if_pos (show s.control = .bot from offered)]
    exact enterConnect_total ex http created .connect s
  | callback wsi callback w =>
    rw [step, if_neg (show ¬s.control = .bot from offered), Option.map_eq_none_iff]
    exact lwsCallback_eq_none s.control s.wsis s.clock s.history unset
  | leave =>
    refine iff_of_false ?_ id
    cases control : s.control with
    | bot => exact absurd control offered
    | connecting caller => simp [step, control]
    | serving => simp [step, control]

/-- Whatever happened before, the process crashes on a move exactly if the move is one of the fatal ones. -/
theorem crashes_iff {final : System} (moves : List Move) (booted : Booted ex s)
    (ran : run (step ex) s moves = some final) (offered : Offered final m) :
    step ex final m = none ↔ Fatal ex final m := by
  have unset : s.ctx.gi = none := by
    obtain ⟨w, info, ctx, initialised, rfl⟩ := booted
    obtain ⟨_, _, _, _, _, _, _, rfl⟩ := initContext_ok initialised
    rfl
  have reached : final.ctx.gi = none :=
    invariant_of_each (fun s => s.ctx.gi = none) (fun _ _ _ unset _ stepped => step_gi unset stepped) unset
      (each_true s moves) ran
  exact step_crashes reached offered

/-- A connection that the gateway closes with 4006, in the connection attempt. -/
theorem crashes_iff_closed :
    ∃ final, run (step (.knowing [webAnswer])) (.ofBot (.knowing [webAnswer]) 16 99)
        [.connect (.answering webAnswer.encode noUser) true] = some final ∧
      step (.knowing [webAnswer]) final (.callback 1 (.wsPeerInitiatedClose [15, 166]) (.calm 100)) = none := by
  obtain ⟨final, ran, away⟩ : ∃ final, run (step (.knowing [webAnswer])) (.ofBot (.knowing [webAnswer]) 16 99)
      [.connect (.answering webAnswer.encode noUser) true] = some final ∧ final.control ≠ .bot :=
    ⟨_, rfl, show Control.connecting .connect ≠ .bot by decide⟩
  have offered : Offered final (.callback 1 (.wsPeerInitiatedClose [15, 166]) (.calm 100)) := away
  exact ⟨final, ran, (crashes_iff _ (booted_ofBot _ 16 99) ran offered).mpr (.inr (.inr rfl))⟩

end System

end Libdiscord
