import Libdiscord.Gateway.Journal

/-! The library and its log together: a run with logging is the run without it, as long as what is enabled can be
printed. -/

set_option autoImplicit false

namespace Libdiscord

open Libdiscord.Base

namespace Log

def stamped (time : Nat → Text) : List Call → List Move
  | [] => []
  | call :: rest => .call (time 0) call :: stamped (fun i => time (i + 1)) rest

theorem sound_stamped {time : Nat → Text} {level : UInt64} {calls : List Call} :
    Sound level (stamped time calls) ↔ Quiet level calls := by
  induction calls generalizing time with
  | nil => exact iff_of_true sound_nil quiet_nil
  | cons call rest ih => rw [stamped, sound_call, quiet_cons, ih]

theorem levelAfter_stamped {time : Nat → Text} {level : UInt64} {calls : List Call} :
    levelAfter level (stamped time calls) = level := by
  induction calls generalizing time with
  | nil => rfl
  | cons call rest ih => exact ih

end Log

/-- A move of the library with what its messages show, or a change of the level between two moves. -/
inductive LoggedMove where
  | move (m : Move) (p : Printed) (time : Nat → Text)
  | setLevel (level : UInt64)

def LoggedMove.logged (ex : Externals) (s : System) : LoggedMove → List Log.Move
  | .move m p time => Log.stamped time (m.logs ex p s)
  | .setLevel level => [.setLevel level]

def silentStep (ex : Externals) (s : System) : LoggedMove → Option System
  | .move m _ _ => step ex s m
  | .setLevel _ => some s

/-- The library with its log, `none` where one of them uses memory that is not the program's. -/
def loggedStep (ex : Externals) (l : System × Log.State) (m : LoggedMove) : Option (System × Log.State) := do
  let log ← run Log.step l.2 (m.logged ex l.1)
  let s ← silentStep ex l.1 m
  some (s, log)

def prints (ex : Externals) (s : System) (m : LoggedMove) (_ : System) (log : Log.State) : Log.State :=
  ⟨Log.levelAfter log.level (m.logged ex s), log.stderr ++ Log.enabledLines log.level (m.logged ex s)⟩

def printingStep (ex : Externals) : System × Log.State → LoggedMove → Option (System × Log.State) :=
  watched (silentStep ex) (prints ex)

def LoggedMove.Printable (ex : Externals) (l : System × Log.State) : LoggedMove → Prop
  | .move m p _ => m.Printable ex p l.2.level l.1
  | .setLevel _ => True

section
variable {ex : Externals} {l next final : System × Log.State} {m : LoggedMove} {moves : List LoggedMove}

theorem sound_logged : Log.Sound l.2.level (m.logged ex l.1) ↔ m.Printable ex l := by
  cases m with
  | move m p time => exact Log.sound_stamped.trans (logs_quiet l.1 m)
  | setLevel level => exact iff_of_true (Log.sound_setLevel.mpr Log.sound_nil) trivial

theorem loggedStep_iff :
    loggedStep ex l m = some next ↔ printingStep ex l m = some next ∧ m.Printable ex l := by
  rw [← sound_logged]
  constructor
  · intro stepped
    obtain ⟨log, ran, rest⟩ := Option.bind_eq_some_iff.mp stepped
    obtain ⟨s, moved, same⟩ := Option.bind_eq_some_iff.mp rest
    cases same
    have sound := Log.sound_of_run ran
    cases (Log.run_sound sound).symm.trans ran
    exact ⟨Option.map_eq_some_iff.mpr ⟨s, moved, rfl⟩, sound⟩
  · rintro ⟨stepped, sound⟩
    obtain ⟨s, moved, rfl⟩ := Option.map_eq_some_iff.mp stepped
    rw [loggedStep, Log.run_sound sound, moved]
    rfl

theorem loggedStep_move {s after : System} {log : Log.State} {m : Move} (p : Printed) (time : Nat → Text)
    (moved : step ex s m = some after) (printable : m.Printable ex p log.level s) :
    ∃ printed, loggedStep ex (s, log) (.move m p time) = some (after, printed) ∧ printed.level = log.level := by
  refine ⟨prints ex s (.move m p time) after log, loggedStep_iff.mpr ⟨?_, printable⟩, Log.levelAfter_stamped⟩
  exact Option.map_eq_some_iff.mpr ⟨after, moved, rfl⟩

theorem loggedStep_gi (unset : l.1.ctx.gi = none) (stepped : loggedStep ex l m = some next) :
    next.1.ctx.gi = none := by
  obtain ⟨moved, _⟩ := watched_some (loggedStep_iff.mp stepped).1
  cases m with
  | move m p time => exact step_gi unset moved
  | setLevel level =>
    rw [← Option.some.inj moved]
    exact unset

/-- With any logging: whatever happened before, the process misuses memory in a move exactly if the move is fatal to
the library alone, or something that it logs at the level in force cannot be printed. -/
theorem logged_fails_iff {s : System} {log : Log.State} {m : Move} {p : Printed} {time : Nat → Text}
    (moves : List LoggedMove) (booted : Booted ex s) (ran : run (loggedStep ex) (s, log) moves = some final)
    (offered : Offered final.1 m) :
    loggedStep ex final (.move m p time) = none ↔
      Fatal ex final.1 m ∨ ¬m.Printable ex p final.2.level final.1 := by
  have unset : s.ctx.gi = none := by
    obtain ⟨w, info, ctx, initialised, rfl⟩ := booted
    obtain ⟨_, _, _, _, _, _, _, rfl⟩ := initContext_ok initialised
    rfl
  have reached : final.1.ctx.gi = none :=
    invariant_of_each (fun l => l.1.ctx.gi = none) (fun _ _ _ unset _ stepped => loggedStep_gi unset stepped) unset
      (each_true (s, log) moves) ran
  rw [← step_crashes reached offered, Option.eq_none_iff_forall_ne_some]
  constructor
  · intro stuck
    by_contra fine
    obtain ⟨steps, printable⟩ := not_or.mp fine
    obtain ⟨next, stepped⟩ := Option.ne_none_iff_exists'.mp steps
    obtain ⟨printed, both, _⟩ := loggedStep_move p time stepped (not_not.mp printable)
    exact stuck _ both
  · rintro fails next stepped
    obtain ⟨printing, printable⟩ := loggedStep_iff.mp stepped
    obtain ⟨moved, _⟩ := watched_some printing
    rcases fails with stuck | unprintable
    · exact Option.some_ne_none _ (moved.symm.trans stuck)
    · exact unprintable printable

end

-- The web server cannot be reached.
def Http.unreachable : Http := ⟨⟨false, 0, []⟩, ⟨false, 0, []⟩, ⟨false, 0, []⟩, noUser⟩

/-- A transfer that fails, at the level that is set by default. -/
theorem logged_fails_iff_default :
    loggedStep (.knowing []) (.ofBot (.knowing []) 16 99, ⟨Log.defaultLevel, []⟩)
      (.move (.connect .unreachable true) .blank fun _ => []) = none := by
  have offered : Offered (.ofBot (.knowing []) 16 99) (.connect .unreachable true) := rfl
  refine (logged_fails_iff [] (booted_ofBot _ 16 99) rfl offered).mpr (.inr fun printable => ?_)
  have warned : Log.defaultLevel &&& Log.levelWarning ≠ 0 := by decide
  have performed := ((printable : ConnectPrintable _ _ _ _).1 rfl).1 warned
  exact nomatch performed

end Libdiscord
