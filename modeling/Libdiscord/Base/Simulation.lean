import Libdiscord.Base.Transition

/-! Simulation of one machine by a simpler one.

The simpler machine can always act, and some of what it does is seen. A step of the other one is
matched by any number of actions, and what is seen of both agrees.
-/

set_option autoImplicit false

namespace Libdiscord.Base

variable {State Move Abstract Action Seen Shown : Type}

def perform (act : Abstract → Action → Abstract × List Seen) : Abstract → List Action → Abstract × List Seen
  | a, [] => (a, [])
  | a, action :: rest =>
    let after := perform act (act a action).1 rest
    (after.1, (act a action).2 ++ after.2)

section
variable {act : Abstract → Action → Abstract × List Seen}

@[simp] theorem perform_nil (a : Abstract) : perform act a [] = (a, []) := rfl

@[simp] theorem perform_one (a : Abstract) (action : Action) : perform act a [action] = act a action := by
  simp [perform]

theorem perform_append (a : Abstract) (actions more : List Action) :
    perform act a (actions ++ more) =
      ((perform act (perform act a actions).1 more).1,
        (perform act a actions).2 ++ (perform act (perform act a actions).1 more).2) := by
  induction actions generalizing a with
  | nil => rfl
  | cons action rest ih => simp [perform, ih]

end

/-- The machine `step` does what `act` does: which actions match a step, which states are related, what has been
seen in a state, and how that shows what is seen of an action. -/
structure Simulation (step : State → Move → Option State) (act : Abstract → Action → Abstract × List Seen)
    (Shown : Type) where
  actions : State → Move → State → List Action
  Related : State → Abstract → Prop
  shown : State → List Shown
  display : Seen → Shown
  matched : ∀ s m next a, Related s a → step s m = some next →
    Related next (perform act a (actions s m next)).1 ∧
      shown next = shown s ++ (perform act a (actions s m next)).2.map display

namespace Simulation
variable {step : State → Move → Option State} {act : Abstract → Action → Abstract × List Seen}

def trace (simulation : Simulation step act Shown) : State → List Move → List Action
  | _, [] => []
  | s, m :: moves =>
    (step s m).elim [] fun next => simulation.actions s m next ++ simulation.trace next moves

theorem trace_cons (simulation : Simulation step act Shown) {s next : State} {m : Move} (moves : List Move)
    (stepped : step s m = some next) :
    simulation.trace s (m :: moves) = simulation.actions s m next ++ simulation.trace next moves := by
  rw [trace, stepped, Option.elim_some]

/-- A run ends where the matching actions end, and everything seen on the way is seen of them. -/
theorem run_matched (simulation : Simulation step act Shown) {s final : State} {a : Abstract} (moves : List Move)
    (related : simulation.Related s a) (ran : run step s moves = some final) :
    let done := perform act a (simulation.trace s moves)
    simulation.Related final done.1 ∧
      simulation.shown final = simulation.shown s ++ done.2.map simulation.display := by
  induction moves generalizing s a with
  | nil =>
    cases ran
    simp [trace, related]
  | cons m moves ih =>
    obtain ⟨next, stepped, rest⟩ := run_cons_some ran
    obtain ⟨here, seen⟩ := simulation.matched s m next a related stepped
    obtain ⟨there, later⟩ := ih here rest
    rw [simulation.trace_cons moves stepped, perform_append]
    refine ⟨there, ?_⟩
    rw [later, seen, List.map_append, List.append_assoc]

end Simulation

end Libdiscord.Base
