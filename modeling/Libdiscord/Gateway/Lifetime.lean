import Libdiscord.Gateway.Leaks
import Libdiscord.Gateway.Values

/-! The memory of a context from `ld_init_context` to `ld_cleanup_context`.

With its own blocks nothing undefined happens unless a session is resumed, and what is left in the end is what the moves
have lost and what is never freed. With the jansson values something does as soon as /gateway supplies a url.
-/

set_option autoImplicit false

namespace Libdiscord

open Libdiscord.Base

section System
variable {ex : Externals} {s next : System} {m : Move} {texts : Nat} {memory : Memory} {lost : List BlockKind}

theorem callbackMemory_owns {w : World} {wsi : Wsi} {callback : Callback} {calling : Bool} {out : Outcome}
    (owns : Owns (s.ctx.inventory texts calling) memory lost) (fresh : ¬(Move.callback wsi callback w).Resumes ex s)
    (ran : lwsCallback ex w s.ctx wsi callback = some out) :
    ∃ after, callbackMemory ex w s.ctx memory callback = some after ∧
      Owns (out.ctx.inventory texts calling) after (lost ++ (Move.callback wsi callback w).losses ex s) := by
  cases callback
  case clientReceive fragment =>
    exact receiveMemory_owns owns (fun text completed resuming => fresh ⟨text, completed, resuming⟩) ran
  case clientWriteable =>
    cases ran
    exact writeableMemory_owns ex w wsi owns
  case wsPeerInitiatedClose frame =>
    simp only [Move.losses, List.append_nil, callbackMemory]
    rw [peerInitiatedClose_inventory ran]
    split
    · exact owns.malloc_free .closeMessage
    · exact ⟨memory, rfl, owns⟩
  case clientConnectionError =>
    obtain ⟨inner, called, rfl⟩ := Option.map_eq_some_iff.mp ran
    obtain ⟨_, rfl⟩ := callUser_some called
    simp only [Move.losses, List.append_nil]
    exact ⟨memory, rfl, owns⟩
  case clientEstablished =>
    obtain ⟨inner, called, rfl⟩ := Option.map_eq_some_iff.mp ran
    obtain ⟨_, rfl⟩ := callUser_some called
    simp only [Move.losses, List.append_nil]
    exact ⟨memory, rfl, owns⟩
  all_goals
    cases ran
    simp only [Move.losses, List.append_nil]
    exact ⟨memory, rfl, owns⟩

-- `ld_gateway_connect` waits for libwebsockets.
def Control.calling : Control → Bool
  | .connecting _ => true
  | .bot | .serving => false

theorem move_owns (owns : Owns (s.ctx.inventory texts s.control.calling) memory lost) (fresh : ¬m.Resumes ex s)
    (stepped : step ex s m = some next) :
    ∃ after, m.memory ex s memory = some after ∧
      Owns (next.ctx.inventory texts next.control.calling) after (lost ++ m.losses ex s) := by
  cases step_stepped stepped with
  | refused http created caller out bot attempts ran failed =>
    rw [bot] at owns
    have connected := connectMemory_owns ran owns
    rw [decide_eq_false failed] at connected
    cases attempts with
    | service w missing =>
      simp only [Move.memory, Move.losses, missing, Option.isNone_none, if_true]
      exact ⟨_, rfl, connected⟩
    | connect => exact ⟨_, rfl, connected⟩
  | attempted http created caller out bot attempts ran ok =>
    rw [bot] at owns
    have connected := connectMemory_owns ran owns
    rw [decide_eq_true ok] at connected
    have started : Owns ({ out.ctx with lwsWsi := if created then some (s.wsis + 1) else none }.inventory texts true)
        _ _ := connected.congr (fun v => by cases v <;> rfl) rfl rfl
    cases attempts with
    | service w missing =>
      simp only [Move.memory, Move.losses, missing, Option.isNone_none, if_true]
      exact ⟨_, rfl, started⟩
    | connect => exact ⟨_, rfl, started⟩
  | alarmed w out bot connected beat failed =>
    rw [bot] at owns
    simp only [Move.memory, Move.losses, Option.isSome_iff_ne_none.mp connected, Option.isNone_iff_eq_none, if_false]
    exact ⟨_, rfl, heartbeatMemory_owns owns beat⟩
  | served w out bot connected beat ok =>
    rw [bot] at owns
    simp only [Move.memory, Move.losses, Option.isSome_iff_ne_none.mp connected, Option.isNone_iff_eq_none, if_false]
    exact ⟨_, rfl, heartbeatMemory_owns owns beat⟩
  | called wsi callback w out away ran =>
    obtain ⟨after, ranMemory, owns⟩ := callbackMemory_owns owns fresh ran
    exact ⟨after, ranMemory, owns⟩
  | left caller status away returned =>
    rcases returned with ⟨connecting, _⟩ | ⟨serving, _⟩
    · simp only [Move.memory, Move.losses, connecting] at owns ⊢
      exact leaveMemory_owns owns
    · simp only [Move.memory, Move.losses, serving, List.append_nil] at owns ⊢
      exact ⟨memory, rfl, owns⟩

def losses (ex : Externals) : System → List Move → List BlockKind
  | _, [] => []
  | s, m :: moves => m.losses ex s ++ (step ex s m).elim [] (losses ex · moves)

theorem parserMemory_resuming {w : World} {ctx : Context} {text : Text} (resuming : ResumingText ex ctx text) :
    parserMemory ex w ctx text memory = none := by
  obtain ⟨session, payload, loaded, known, hello⟩ := resuming
  rw [parserMemory_known loaded known]
  simp only [hello]
  exact if_pos session

theorem memory_resuming (resumes : m.Resumes ex s) : m.memory ex s memory = none := by
  cases m with
  | service => cases resumes
  | connect => cases resumes
  | leave => cases resumes
  | callback wsi callback w =>
    cases callback
    case clientReceive fragment =>
      obtain ⟨text, completed, resuming⟩ := resumes
      simp only [Move.memory, callbackMemory]
      unfold completedText at completed
      unfold receiveMemory
      dsimp only at completed ⊢
      split at completed
      · next single =>
        cases completed
        rw [if_pos single, parserMemory_resuming resuming, Option.map_none]
      next several =>
      split at completed
      · cases completed
      next later =>
      split at completed
      · next last =>
        cases completed
        rw [if_neg several, if_neg later, if_pos last]
        refine Option.bind_eq_none_iff.mpr fun resized _ => Option.bind_eq_none_iff.mpr fun parsed ran => ?_
        rw [parserMemory_resuming (by exact resuming)] at ran
        cases ran
      · cases completed
    all_goals cases resumes

theorem memoryStep_some {after : Memory} (stepped : memoryStep ex (s, memory) m = some (next, after)) :
    step ex s m = some next ∧ ¬m.Resumes ex s ∧ m.memory ex s memory = some after := by
  obtain ⟨updated, ran, rest⟩ := Option.bind_eq_some_iff.mp stepped
  obtain ⟨reached, stepping, same⟩ := Option.bind_eq_some_iff.mp rest
  cases same
  refine ⟨stepping, fun resumes => ?_, ran⟩
  rw [memory_resuming resumes] at ran
  cases ran

theorem run_memory_some {final : System} {after : Memory} {moves : List Move}
    (ran : run (memoryStep ex) (s, memory) moves = some (final, after)) :
    run (step ex) s moves = some final ∧ Each (step ex) (fun s m _ => ¬m.Resumes ex s) s moves := by
  induction moves generalizing s memory with
  | nil =>
    cases ran
    exact ⟨rfl, trivial⟩
  | cons m moves ih =>
    obtain ⟨⟨next, updated⟩, stepped, rest⟩ := run_cons_some ran
    obtain ⟨stepping, fresh, _⟩ := memoryStep_some stepped
    obtain ⟨rest, each⟩ := ih rest
    refine ⟨by rw [run_cons, stepping, Option.bind_some, rest], fun other again => ?_⟩
    cases stepping.symm.trans again
    exact ⟨fresh, each⟩

theorem run_owns {final : System} {moves : List Move}
    (owns : Owns (s.ctx.inventory texts s.control.calling) memory lost)
    (ran : run (step ex) s moves = some final)
    (fresh : Each (step ex) (fun s m _ => ¬m.Resumes ex s) s moves) :
    ∃ after, run (memoryStep ex) (s, memory) moves = some (final, after) ∧
      Owns (final.ctx.inventory texts final.control.calling) after (lost ++ losses ex s moves) := by
  induction moves generalizing s memory lost with
  | nil =>
    cases ran
    exact ⟨memory, rfl, by rwa [losses, List.append_nil]⟩
  | cons m moves ih =>
    obtain ⟨next, stepped, rest⟩ := run_cons_some ran
    obtain ⟨here, each⟩ := fresh next stepped
    obtain ⟨updated, moved, owns⟩ := move_owns owns here stepped
    obtain ⟨after, ran, owns⟩ := ih owns rest each
    refine ⟨after, ?_, ?_⟩
    · rw [run_cons, memoryStep]
      simp only [moved, stepped, Option.bind_eq_bind, Option.bind_some, ran]
    · rwa [losses, stepped, Option.elim_some, ← List.append_assoc]

end System

section Life
variable {ex : Externals} {w : InitWorld} {info : Option ContextInfo} {ctx : Context} {final : System}
  {memory after : Memory} {lost : List BlockKind} {inventory : Inventory}

def ContextInfo.copies (info : ContextInfo) : Nat :=
  info.device.isSome.toNat + info.browser.isSome.toNat + info.os.isSome.toNat + 1

def initCopies (info : Option ContextInfo) : Nat := info.elim 0 ContextInfo.copies

def initLosses (info : Option ContextInfo) : List BlockKind :=
  match info with
  | none => []
  | some info => if info.initPresence.isNone then [.of .initPresence] else []

theorem empty_owns : Owns ⟨fun _ => false, 0, 0⟩ .empty [] :=
  ⟨.empty, fun _ => rfl, rfl, rfl⟩

theorem Owns.keepText_if (owns : Owns inventory memory lost) (copied : Bool) :
    Owns { inventory with texts := inventory.texts + copied.toNat } (if copied then memory.keepText else memory)
      lost := by
  cases copied
  · exact owns
  · exact owns.keepText

theorem init_owns (initialised : initContext ex w info = some (.ok ctx)) :
    Owns (ctx.inventory (initCopies info) false) (.init info) (initLosses info) := by
  unfold initContext at initialised
  dsimp only at initialised
  split at initialised
  · cases initialised
  split at initialised
  · cases initialised
  split at initialised
  · cases initialised
  split at initialised
  · cases initialised
    exact empty_owns.congr (fun v => by cases v <;> rfl) rfl rfl
  next info =>
  split at initialised
  · cases initialised
  · cases initialised
  cases initialised
  have named := ((empty_owns.keepText_if info.device.isSome).keepText_if info.browser.isSome).keepText_if
    info.os.isSome
  have stored := named.keepText.store_new (v := .initPresence) rfl
  have count : 0 + info.device.isSome.toNat + info.browser.isSome.toNat + info.os.isSome.toNat + 1 =
      initCopies (some info) := by
    simp only [initCopies, Option.elim_some, ContextInfo.copies]
    omega
  unfold Memory.init initLosses
  dsimp only
  cases presence : info.initPresence with
  | some status => exact stored.congr (fun v => by cases v <;> rfl) count rfl
  | none => exact (stored.forget .initPresence).congr (fun v => by cases v <;> rfl) count rfl

def Inventory.cleaned (inventory : Inventory) : Inventory :=
  ((inventory.set .gatewaySessionId false).set .currentUser false).set .initPresence false

theorem cleanup_owns (owns : Owns inventory memory lost) :
    ∃ after, memory.cleanup = some after ∧ Owns inventory.cleaned after lost := by
  obtain ⟨first, ran, owns⟩ := owns.release .gatewaySessionId
  obtain ⟨second, ranToo, owns⟩ := owns.release .currentUser
  obtain ⟨after, ranLast, owns⟩ := owns.release .initPresence
  refine ⟨after, ?_, owns⟩
  rw [Memory.cleanup, ran]
  simp only [Option.bind_eq_bind, Option.bind_some, ranToo, ranLast]

/-- What a run and `ld_cleanup_context` leave in the memory. -/
def leftovers (ex : Externals) (info : Option ContextInfo) (s final : System) (moves : List Move) :
    List BlockKind :=
  (final.ctx.inventory (initCopies info) final.control.calling).cleaned.kinds ++
    (initLosses info ++ losses ex s moves)

/-- In the end there is just what was never freed and what the moves have lost. -/
theorem life_leaks (moves : List Move) (initialised : initContext ex w info = some (.ok ctx))
    (lived : run (memoryStep ex) (.start ctx w.now, .init info) moves = some (final, memory))
    (cleaned : memory.cleanup = some after) :
    (after.heap.blocks.map Prod.snd).Perm (leftovers ex info (.start ctx w.now) final moves) := by
  obtain ⟨ran, fresh⟩ := run_memory_some lived
  obtain ⟨reached, again, owns⟩ := run_owns (init_owns initialised) ran fresh
  cases lived.symm.trans again
  obtain ⟨emptied, freed, owns⟩ := cleanup_owns owns
  cases cleaned.symm.trans freed
  exact owns.kinds

-- What a bot passes that has a token and a callback only.
def ContextInfo.plain : ContextInfo := ⟨some (ascii "token"), true, 16, none, none, none, none⟩

-- The bot connects, and nothing happens.
def Move.connectOnly : List Move := [.connect (.answering webAnswer.encode noUser) true, .leave]

theorem life_leaks_connected : ∃ final memory after,
    run (memoryStep (.knowing [webAnswer])) (.ofBot (.knowing [webAnswer]) 16 99, .init (some .plain))
      Move.connectOnly = some (final, memory) ∧ memory.cleanup = some after ∧
    (after.heap.blocks.map Prod.snd).Perm [.text, .of .gatewayUrl, .of .gatewayBotUrl, .of .initPresence, .path] := by
  have initialised : initContext (.knowing [webAnswer]) ⟨true, true, true, 99⟩ (some .plain) =
      some (.ok (System.ofBot (.knowing [webAnswer]) 16 99).ctx) := rfl
  have ran : run (step (.knowing [webAnswer])) (.start (System.ofBot (.knowing [webAnswer]) 16 99).ctx 99)
      Move.connectOnly = some _ := rfl
  obtain ⟨memory, lived, owns⟩ := run_owns (init_owns initialised) ran
    fun _ _ => ⟨id, fun _ _ => ⟨id, trivial⟩⟩
  obtain ⟨after, cleaned, _⟩ := cleanup_owns owns
  exact ⟨_, memory, after, lived, cleaned, life_leaks Move.connectOnly initialised lived cleaned⟩

end Life

end Libdiscord
