import Libdiscord.Gateway.Steps

/-! Which connection `lws_wsi` names. -/

set_option autoImplicit false

namespace Libdiscord

open Libdiscord.Base

/-- The callbacks that say of a connection that it is no more. -/
def Callback.Teardown : Callback → Prop
  | .clientConnectionError | .wsiDestroy => True
  | _ => False

instance (callback : Callback) : Decidable callback.Teardown := by
  unfold Callback.Teardown
  split <;> infer_instance

/-- The gateway connection that is current after a step: the one the step starts, unless no object
could be created for it; none, where the current one fails or is destroyed. -/
def follow (s : System) (m : Move) (next : System) (current : Option Wsi) : Option Wsi :=
  match m with
  | .service w => if next.wsis = s.wsis then current else if w.created then some next.wsis else none
  | .connect _ created => if next.wsis = s.wsis then current else if created then some next.wsis else none
  | .callback wsi callback _ => if callback.Teardown ∧ current = some wsi then none else current
  | .leave => current

def NamesCurrent (s : System × Option Wsi) : Prop := s.1.ctx.lwsWsi = s.2

/-- A teardown callback comes for the stored connection object, or while none is stored. -/
def Undisturbed (s : System) (m : Move) (_ : System) : Prop :=
  match m with
  | .callback wsi callback _ => callback.Teardown → s.ctx.lwsWsi = none ∨ s.ctx.lwsWsi = some wsi
  | _ => True

instance (s next : System) (m : Move) : Decidable (Undisturbed s m next) := by
  unfold Undisturbed
  split <;> infer_instance

section
variable {ex : Externals} {s next : System} {m : Move}

theorem Handled.lwsWsi {w : World} {ctx : Context} {code : GatewayOpcode} {out : Outcome}
    (handled : Handled w ctx code out) : out.ctx.lwsWsi = ctx.lwsWsi := by
  cases handled <;> rfl

theorem Parsed.lwsWsi {w : World} {ctx : Context} {text : Text} {out : Outcome}
    (parsed : Parsed ex w ctx text out) : out.ctx.lwsWsi = ctx.lwsWsi := by
  cases parsed with
  | malformed => rfl
  | unknownKey => rfl
  | known _ _ _ _ handled => exact handled.lwsWsi

theorem Called.lwsWsi {w : World} {ctx : Context} {wsi : Wsi} {callback : Callback} {out : Outcome}
    (called : Called ex w ctx wsi callback out) :
    out.ctx.lwsWsi = if callback.Teardown then none else ctx.lwsWsi := by
  cases called with
  | neutral callback neutral => cases callback <;> first | rfl | cases neutral
  | parsed _ _ _ _ _ inner _ parsed => exact parsed.lwsWsi
  | _ => rfl

theorem follow_step {current : Option Wsi} (names : s.ctx.lwsWsi = current)
    (stepped : step ex s m = some next) :
    next.ctx.lwsWsi = follow s m next current ↔ Undisturbed s m next := by
  cases step_stepped stepped with
  | refused http created caller out _ attempts ran =>
    obtain ⟨⟨_, _, _, _, _, same⟩, _⟩ := bootstrap_frame ran
    have kept : out.ctx.lwsWsi = current := by rw [same]; exact names
    cases attempts <;> simpa [follow, Undisturbed, System.returning, System.after] using kept
  | attempted http created caller out _ attempts =>
    cases attempts <;> simp [follow, Undisturbed]
  | alarmed w out _ _ beat =>
    cases beat <;> simpa [follow, Undisturbed, System.returning, System.after] using names
  | served w out _ _ beat =>
    cases beat <;> simpa [follow, Undisturbed] using names
  | left => simpa [follow, Undisturbed] using names
  | called wsi callback w out _ ran =>
    have cleared := (lwsCallback_some ran).lwsWsi
    subst names
    simp only [follow, Undisturbed, cleared]
    by_cases teardown : callback.Teardown
    · simp only [teardown, if_true, true_and, forall_const]
      cases s.ctx.lwsWsi with
      | none => simp
      | some stored => by_cases same : stored = wsi <;> simp [same]
    · simp [teardown]

/-- In every run `lws_wsi` names the current connection exactly if every teardown callback comes for
the stored connection object or while none is stored. -/
theorem names_current_iff (moves : List Move) (booted : Booted ex s) :
    Always (watched (step ex) follow) NamesCurrent (s, none) moves ↔
      Each (step ex) Undisturbed s moves := by
  have start : NamesCurrent (s, none) := by
    obtain ⟨_, _, _, _, lwsWsi, _⟩ := booted.fresh
    exact lwsWsi
  have exact_step : ∀ s m next, True → NamesCurrent s → True → watched (step ex) follow s m = some next →
      (NamesCurrent next ↔ Undisturbed s.1 m next.1) := by
    intro s m next _ names _ stepped
    obtain ⟨ran, value⟩ := watched_some stepped
    rw [NamesCurrent, value]
    exact follow_step names ran
  rw [← each_watched]
  exact always_iff_each (fun _ _ _ _ _ _ => trivial) exact_step trivial start (each_true _ moves)

/-- What is wanted: `lws_wsi` names the current connection in every state a run reaches. -/
def AlwaysNamesCurrent (ex : Externals) : Prop :=
  ∀ s moves final, Booted ex s → run (watched (step ex) follow) (s, none) moves = some final →
    NamesCurrent final

abbrev answeringExternals : Externals := .knowing [webAnswer]

-- The first connection fails and the second is established; then this happens on the first.
def afterReconnect (late : List Callback) : List Move :=
  Move.serving 100 1 [.clientConnectionError] ++ Move.serving 101 2 [.clientEstablished] ++
  Move.serving 102 1 late

/-- The late end of the first connection makes the library forget the second. -/
theorem connection_forgotten : ¬AlwaysNamesCurrent answeringExternals := by
  intro always
  have reached : (run (watched (step answeringExternals) follow) (.ofBot answeringExternals 16 99, none)
      (afterReconnect [.wsiDestroy])).map (fun s => (s.1.ctx.lwsWsi, s.2)) = some (none, some 2) := by
    decide +kernel
  obtain ⟨final, ran, here⟩ := Option.map_eq_some_iff.mp reached
  obtain ⟨stored, current⟩ := Prod.mk.inj here
  have names := always _ _ final (booted_ofBot _ 16 99) ran
  rw [NamesCurrent, stored, current] at names
  cases names

theorem names_current_iff_closed :
    Always (watched (step answeringExternals) follow) NamesCurrent (.ofBot answeringExternals 16 99, none)
      (afterReconnect [.clientClosed]) :=
  (names_current_iff _ (booted_ofBot _ 16 99)).mpr (by decide +kernel)

end

end Libdiscord
