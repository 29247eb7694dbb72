import Libdiscord.Gateway.Receive
import Libdiscord.Gateway.Steps

/-! What one gateway connection leaves behind for the messages of the next. -/

set_option autoImplicit false

namespace Libdiscord

open Libdiscord.Base

variable {ex : Externals} {s next : System} {m : Move}

/-- What has arrived on the current connection, and what the parser was called with on it. -/
structure Link where
  fragments : List (Fragment UInt8)
  texts : List Text
  deriving DecidableEq

def Link.observe (link : Link) : Event → Link
  | .connecting _ => ⟨[], []⟩
  | .delivered _ (.clientReceive fragment) => { link with fragments := link.fragments ++ [fragment] }
  | .parsed text => { link with texts := link.texts ++ [text] }
  | _ => link

def linkMonitor : Monitor Event Link := ⟨⟨[], []⟩, Link.observe⟩

def System.link (s : System) : Link := linkMonitor.after s.history

def owed (fragments : List (Fragment UInt8)) : Assembly UInt8 := assemble (fragments.map kept)

theorem owed_concat (fragments : List (Fragment UInt8)) (fragment : Fragment UInt8) :
    owed (fragments ++ [fragment]) = (owed fragments).push (kept fragment) := by
  rw [owed, List.map_append, List.map_singleton, assemble_concat]
  rfl

def Move.fragment? : Move → Option (Fragment UInt8)
  | .callback _ reason _ => reason.fragment?
  | _ => none

/-- What libwebsockets keeps to: one connection follows another, and the fragments are flagged as the
messages on their connection demand. -/
def Successive (s : System) (m : Move) (_ : System) : Prop :=
  (∀ wsi ∈ m.wsi?, wsi = s.wsis) ∧
    ∀ fragment ∈ m.fragment?, fragment.first = (owed s.link.fragments).pending.isNone

def Unspoilt (s : System) (m : Move) (_ : System) : Prop :=
  ∀ fragment ∈ m.fragment?, fragment.first = true → fragment.final = true → s.ctx.gatewayRxBuffer = none

instance (s next : System) (m : Move) : Decidable (Successive s m next) :=
  inferInstanceAs (Decidable (_ ∧ _))

instance (s next : System) (m : Move) : Decidable (Unspoilt s m next) :=
  inferInstanceAs (Decidable (∀ fragment ∈ m.fragment?, _))

def OwnMessages (s : System) : Prop := s.link.texts = (owed s.link.fragments).messages

theorem foldl_inside {events : List Event} (inside : Only Event.Inside events) (link : Link) :
    events.foldl Link.observe link = { link with texts := link.texts ++ parsedTexts events } := by
  induction events generalizing link with
  | nil => simp
  | cons e events ih =>
    obtain ⟨here, rest⟩ := (only_cons e events).mp inside
    rw [List.foldl_cons, ih rest, parsedTexts_cons]
    cases e <;> first | cases here; done | simp [Link.observe, Event.parsedText?]

theorem link_ignores_idle (e : Event) (idle : e.Idle) : linkMonitor.Ignores e := by
  cases e <;> first | exact fun _ => rfl | cases idle

theorem Acts.link (acts : Acts ex s m next) :
    (m.fragment? = none ∧ next.link = ⟨[], []⟩) ∨
    (m.fragment? = none ∧ next.link = s.link ∧ next.ctx.gatewayRxBuffer = s.ctx.gatewayRxBuffer ∧
      next.ctx.gatewayRxBufferLen = s.ctx.gatewayRxBufferLen) ∨
    (∃ fragment w out, m.fragment? = some fragment ∧ clientReceive ex w s.ctx fragment = some out ∧
      next.ctx = out.ctx ∧
      next.link = ⟨s.link.fragments ++ [fragment], s.link.texts ++ parsedTexts out.events⟩) := by
  have silent : m.wsi? = none → m.fragment? = none := by
    cases m <;> first | exact fun _ => rfl | exact nofun
  cases acts with
  | idle events quiet _ history only asked =>
    obtain ⟨_, _, _, _, _, same⟩ := asked
    refine .inr (.inl ⟨silent quiet, ?_, by rw [same], by rw [same]⟩)
    rw [System.link, history]
    exact linkMonitor.after_ignored fun e member => link_ignores_idle e (only e member)
  | connecting events wsi ctx quiet _ history =>
    refine .inl ⟨silent quiet, ?_⟩
    rw [System.link, history, Monitor.after_append, List.foldl_append]
    rfl
  | missed quiet _ history same =>
    refine .inr (.inl ⟨silent quiet, ?_, by rw [same], by rw [same]⟩)
    rw [System.link, history, Monitor.after_append]
    rfl
  | queued later ring text events quiet _ _ _ history only same =>
    refine .inr (.inl ⟨silent quiet, ?_, by rw [same], by rw [same]⟩)
    rw [System.link, history, Monitor.after_append, List.foldl_cons]
    exact linkMonitor.foldl_ignored (fun e member => link_ignores_idle e (only e member)) _
  | called wsi callback w out move ran history same =>
    have inside := (lwsCallback_some ran).inside
    subst move
    cases arrived : callback.fragment? with
    | none =>
      obtain ⟨buffer, len, only⟩ := lwsCallback_unreceived arrived ran
      refine .inr (.inl ⟨arrived, ?_, by rw [same, buffer], by rw [same, len]⟩)
      have ignored : linkMonitor.observe s.link (.delivered wsi callback) = s.link := by
        cases callback <;> first | rfl | cases arrived
      rw [System.link, history, Monitor.after_append, List.foldl_cons, ← System.link, ignored]
      apply (foldl_inside inside s.link).trans
      rw [parsedTexts_unreceived only, List.append_nil]
    | some fragment =>
      obtain rfl : callback = .clientReceive fragment := by
        cases callback <;> cases arrived
        rfl
      refine .inr (.inr ⟨fragment, w, out, rfl, ran, same, ?_⟩)
      rw [System.link, history, Monitor.after_append, List.foldl_cons]
      exact foldl_inside inside _

/-- The receive buffer holds what has come of a message in progress. Between messages it may hold
anything, also what an earlier connection has left there. -/
def InProgress (s : System) : Prop :=
  ∀ got, (owed s.link.fragments).pending = some got → Holding s.ctx (some got)

theorem clientReceive_progress {w : World} {ctx : Context} {fragment : Fragment UInt8} {pending : Option Text}
    {out : Outcome} (progress : ∀ got, pending = some got → Holding ctx (some got))
    (accepts : fragment.first = pending.isNone) (ran : clientReceive ex w ctx fragment = some out) :
    (Taken fragment (Assembly.push ⟨[], pending⟩ (kept fragment)) out ∧
      (fragment.first = true → fragment.final = true → ctx.gatewayRxBuffer = none)) ∨
    (fragment.first = true ∧ fragment.final = true ∧ ctx.gatewayRxBuffer ≠ none ∧
      parsedTexts out.events = []) := by
  cases pending with
  | some got =>
    exact .inl ⟨clientReceive_taken (progress got rfl) accepts ran,
      fun first => nomatch accepts.symm.trans first⟩
  | none =>
    by_cases empty : ctx.gatewayRxBuffer = none
    case pos =>
      exact .inl ⟨clientReceive_taken (show Holding ctx none from empty) accepts ran,
        fun _ _ => empty⟩
    obtain ⟨data, first, final⟩ := fragment
    obtain rfl : first = true := accepts
    have used : ctx.gatewayRxBuffer.isNone = false := by
      rwa [Option.isNone_eq_false_iff, Option.isSome_iff_ne_none]
    unfold clientReceive at ran
    simp only [used, Bool.false_and, Bool.false_eq_true, if_false, if_true, Option.some.injEq] at ran
    cases final with
    | true => exact .inr ⟨rfl, rfl, empty, by rw [← ran]; rfl⟩
    | false =>
      -- the first of several chunks: the buffer is replaced, whatever it held
      have fresh : clientReceive ex w { ctx with gatewayRxBuffer := none } ⟨data, true, false⟩ =
          some out := by
        rw [← ran]
        rfl
      have holding : Holding { ctx with gatewayRxBuffer := none } none := rfl
      exact .inl ⟨clientReceive_taken holding rfl fresh, nofun⟩

theorem inProgress_step (progress : InProgress s) (successive : Successive s m next)
    (stepped : step ex s m = some next) : InProgress next := by
  intro got pending
  rcases (step_acts stepped).link with ⟨_, reset⟩ | ⟨_, same, buffer, len⟩ |
    ⟨fragment, w, out, arrived, ran, ctx, link⟩
  · rw [reset] at pending
    cases pending
  · rw [same] at pending
    simpa only [Holding, buffer, len] using progress got pending
  · rw [link, owed_concat, Assembly.push_pending] at pending
    rcases clientReceive_progress progress (successive.2 fragment arrived) ran with
      ⟨taken, _⟩ | ⟨first, final, _, _⟩
    · have holding := taken.holding
      rwa [pending, ← ctx] at holding
    · -- the message that begins here also ends here
      simp [Assembly.push, kept, first, final] at pending

theorem ownMessages_step (progress : InProgress s) (own : OwnMessages s) (successive : Successive s m next)
    (stepped : step ex s m = some next) : OwnMessages next ↔ Unspoilt s m next := by
  rcases (step_acts stepped).link with ⟨silent, reset⟩ | ⟨silent, same, _, _⟩ |
    ⟨fragment, w, out, arrived, ran, ctx, link⟩
  · have good : OwnMessages next := by rw [OwnMessages, reset]; rfl
    exact iff_of_true good fun fragment arrived => nomatch silent.symm.trans arrived
  · have good : OwnMessages next := by rw [OwnMessages, same]; exact own
    exact iff_of_true good fun fragment arrived => nomatch silent.symm.trans arrived
  · have whole := (owed s.link.fragments).push_messages (kept fragment)
    rw [OwnMessages, link, owed_concat, whole, ← own, List.append_cancel_left_eq]
    rcases clientReceive_progress progress (successive.2 fragment arrived) ran with
      ⟨taken, empty⟩ | ⟨first, final, used, unparsed⟩
    · apply iff_of_true taken.texts
      intro other same
      obtain rfl := Option.some.inj (arrived.symm.trans same)
      exact empty
    · refine iff_of_false ?_ fun unspoilt => used (unspoilt fragment arrived first final)
      simp [unparsed, Assembly.push, kept, first, final]

/-- What is wanted: what is parsed on a connection depends on its own fragments only. -/
def Isolated (ex : Externals) : Prop :=
  ∀ s s' moves moves' final final', Booted ex s → Booted ex s' →
    Each (step ex) Successive s moves → Each (step ex) Successive s' moves' →
    run (step ex) s moves = some final → run (step ex) s' moves' = some final' →
    final.link.fragments = final'.link.fragments → final.link.texts = final'.link.texts

/-- A run parses the messages of each connection exactly if no message in one piece finds the receive
buffer in use; any two such runs parse the same messages where the same fragments arrive. -/
theorem own_messages_iff (moves : List Move) (booted : Booted ex s)
    (successive : Each (step ex) Successive s moves) :
    (Always (step ex) OwnMessages s moves ↔ Each (step ex) Unspoilt s moves) ∧
    ∀ s' moves' final final', Booted ex s' → Each (step ex) Successive s' moves' →
      Each (step ex) Unspoilt s moves → Each (step ex) Unspoilt s' moves' →
      run (step ex) s moves = some final → run (step ex) s' moves' = some final' →
      final.link.fragments = final'.link.fragments → final.link.texts = final'.link.texts := by
  have every : ∀ {s : System} {moves : List Move}, Booted ex s → Each (step ex) Successive s moves →
      (Always (step ex) OwnMessages s moves ↔ Each (step ex) Unspoilt s moves) := by
    intro s moves booted successive
    have fresh : s.link = ⟨[], []⟩ := by rw [System.link, booted.fresh.1]; rfl
    have start : InProgress s := by
      intro got pending
      rw [fresh] at pending
      cases pending
    have own : OwnMessages s := by rw [OwnMessages, fresh]; rfl
    have kept : ∀ s m next, InProgress s → Successive s m next → step ex s m = some next → InProgress next :=
      fun _ _ _ => inProgress_step
    have exact_step : ∀ s m next, InProgress s → OwnMessages s → Successive s m next →
        step ex s m = some next → (OwnMessages next ↔ Unspoilt s m next) := fun _ _ _ => ownMessages_step
    exact always_iff_each kept exact_step start own successive
  refine ⟨every booted successive, ?_⟩
  intro s' moves' final final' booted' successive' unspoilt unspoilt' ran ran' same
  have own := ((every booted successive).mpr unspoilt).last ran
  have own' := ((every booted' successive').mpr unspoilt').last ran'
  rw [own, own', same]

-- A connection on which these fragments arrive is lost, and HELLO comes in one piece on the next one.
def lossThenHello (fragments : List (Fragment UInt8)) : List Move :=
  Move.serving 100 1 [] ++
  Move.serving 101 1 (.clientEstablished :: fragments.map .clientReceive ++ [.clientClosed, .wsiDestroy]) ++
  Move.serving 102 2 [] ++
  Move.serving 103 2 [.clientEstablished, .clientReceive ⟨(helloMessage 41250).encode, true, true⟩]

abbrev helloExternals : Externals := .knowing [webAnswer, helloMessage 41250]

/-- Lost in the middle of a message, the first connection costs the second one its HELLO. -/
theorem hello_lost : ¬Isolated helloExternals := by
  intro isolated
  have lost : (run (step helloExternals) (.ofBot helloExternals 16 99)
      (lossThenHello [⟨(helloMessage 41250).encode.take 9, true, false⟩])).map System.link =
      some ⟨[⟨(helloMessage 41250).encode, true, true⟩], []⟩ := by decide +kernel
  have calm : (run (step helloExternals) (.ofBot helloExternals 16 99) (lossThenHello [])).map System.link =
      some ⟨[⟨(helloMessage 41250).encode, true, true⟩], [(helloMessage 41250).encode]⟩ := by decide +kernel
  obtain ⟨final, ran, link⟩ := Option.map_eq_some_iff.mp lost
  obtain ⟨final', ran', link'⟩ := Option.map_eq_some_iff.mp calm
  have same := isolated _ _ _ _ final final' (booted_ofBot _ 16 99) (booted_ofBot _ 16 99)
    (by decide +kernel) (by decide +kernel) ran ran' (by rw [link, link'])
  rw [link, link'] at same
  cases same

theorem own_messages_iff_calm :
    Always (step helloExternals) OwnMessages (.ofBot helloExternals 16 99) (lossThenHello []) :=
  (own_messages_iff (lossThenHello []) (booted_ofBot _ 16 99) (by decide +kernel)).1.mpr (by decide +kernel)

end Libdiscord
