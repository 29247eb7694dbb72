/-! Partial transition functions, their runs, and properties held along a run.

`step s m` is the state after the move `m`, or `none` where no such step exists.
-/

set_option autoImplicit false

namespace Libdiscord.Base

variable {State Move : Type} {step : State → Move → Option State}

def run (step : State → Move → Option State) : State → List Move → Option State
  | s, [] => some s
  | s, m :: moves => (step s m).bind fun next => run step next moves

@[simp] theorem run_nil (s : State) : run step s [] = some s := rfl

theorem run_cons (s : State) (m : Move) (moves : List Move) :
    run step s (m :: moves) = (step s m).bind fun next => run step next moves := rfl

theorem run_cons_some {s final : State} {m : Move} {moves : List Move}
    (ran : run step s (m :: moves) = some final) :
    ∃ next, step s m = some next ∧ run step next moves = some final :=
  Option.bind_eq_some_iff.mp ran

theorem run_append (s : State) (moves more : List Move) :
    run step s (moves ++ more) = (run step s moves).bind fun next => run step next more := by
  induction moves generalizing s with
  | nil => rfl
  | cons m moves ih =>
    rw [List.cons_append, run_cons, run_cons, Option.bind_assoc]
    simp only [ih]

def Each (step : State → Move → Option State) (allowed : State → Move → State → Prop) :
    State → List Move → Prop
  | _, [] => True
  | s, m :: moves => ∀ next, step s m = some next → allowed s m next ∧ Each step allowed next moves

/-- `P` holds in every state the run visits, the first one included. -/
def Always (step : State → Move → Option State) (P : State → Prop) : State → List Move → Prop
  | s, [] => P s
  | s, m :: moves => P s ∧ ∀ next, step s m = some next → Always step P next moves

instance Each.decide {allowed : State → Move → State → Prop}
    [∀ s m next, Decidable (allowed s m next)] : (s : State) → (moves : List Move) →
    Decidable (Each step allowed s moves)
  | _, [] => isTrue trivial
  | s, m :: moves =>
    match stepped : step s m with
    | none => isTrue fun _ taken => nomatch stepped.symm.trans taken
    | some next =>
      have : Decidable (Each step allowed next moves) := Each.decide next moves
      decidable_of_iff (allowed s m next ∧ Each step allowed next moves)
        ⟨fun here _ taken => Option.some.inj (stepped.symm.trans taken) ▸ here, fun each => each next stepped⟩

section Rules
variable {allowed legal : State → Move → State → Prop} {P : State → Prop}

theorem each_true (s : State) (moves : List Move) : Each step (fun _ _ _ => True) s moves := by
  induction moves generalizing s with
  | nil => trivial
  | cons m moves ih => exact fun next _ => ⟨trivial, ih next⟩

theorem each_of_all {allowed : Move → Prop} {s : State} {moves : List Move} (all : ∀ m ∈ moves, allowed m) :
    Each step (fun _ m _ => allowed m) s moves := by
  induction moves generalizing s with
  | nil => trivial
  | cons m moves ih =>
    exact fun next _ => ⟨all m (by simp), ih fun other member => all other (by simp [member])⟩

theorem each_total {next : State → Move → State} {allowed : Move → Prop} {s : State} {moves : List Move} :
    Each (fun s m => some (next s m)) (fun _ m _ => allowed m) s moves ↔ ∀ m ∈ moves, allowed m := by
  induction moves generalizing s with
  | nil => simp [Each]
  | cons m moves ih =>
    rw [List.forall_mem_cons]
    constructor
    · intro each
      obtain ⟨here, rest⟩ := each _ rfl
      exact ⟨here, ih.mp rest⟩
    · rintro ⟨here, rest⟩ _ ⟨⟩
      exact ⟨here, ih.mpr rest⟩

theorem Always.first {s : State} {moves : List Move} (always : Always step P s moves) : P s := by
  cases moves with
  | nil => exact always
  | cons m moves => exact always.1

theorem Always.mono {Q : State → Prop} {s : State} {moves : List Move} (always : Always step P s moves)
    (weaker : ∀ s, P s → Q s) : Always step Q s moves := by
  induction moves generalizing s with
  | nil => exact weaker s always
  | cons m moves ih => exact ⟨weaker s always.1, fun next stepped => ih (always.2 next stepped)⟩

theorem Always.last {s final : State} {moves : List Move} (always : Always step P s moves)
    (ran : run step s moves = some final) : P final := by
  induction moves generalizing s with
  | nil => cases ran; exact always
  | cons m moves ih =>
    obtain ⟨next, stepped, rest⟩ := run_cons_some ran
    exact ih (always.2 next stepped) rest

/-- The invariant rule: what every allowed step keeps holds in every state of the run. -/
theorem always_of_each (Inv : State → Prop)
    (kept : ∀ s m next, Inv s → allowed s m next → step s m = some next → Inv next)
    {s : State} {moves : List Move} (start : Inv s) (each : Each step allowed s moves) :
    Always step Inv s moves := by
  induction moves generalizing s with
  | nil => exact start
  | cons m moves ih =>
    refine ⟨start, fun next stepped => ?_⟩
    obtain ⟨here, rest⟩ := each next stepped
    exact ih (kept s m next start here stepped) rest

theorem invariant_of_each (Inv : State → Prop)
    (kept : ∀ s m next, Inv s → allowed s m next → step s m = some next → Inv next)
    {s final : State} {moves : List Move} (start : Inv s) (each : Each step allowed s moves)
    (ran : run step s moves = some final) : Inv final :=
  (always_of_each Inv kept start each).last ran

theorem each_of_invariant (Inv : State → Prop)
    (kept : ∀ s m next, Inv s → allowed s m next → step s m = some next → Inv next)
    (sure : ∀ s m next, Inv s → allowed s m next → step s m = some next → legal s m next)
    {s : State} {moves : List Move} (start : Inv s) (each : Each step allowed s moves) :
    Each step legal s moves := by
  induction moves generalizing s with
  | nil => trivial
  | cons m moves ih =>
    intro next stepped
    obtain ⟨here, rest⟩ := each next stepped
    exact ⟨sure s m next start here stepped, ih (kept s m next start here stepped) rest⟩

/-- The exactness rule: where a step from a good state leads to a good state exactly if it is
allowed, a run stays good exactly if it takes allowed steps only. -/
theorem always_iff_each {Inv : State → Prop}
    (kept : ∀ s m next, Inv s → legal s m next → step s m = some next → Inv next)
    (exact_step : ∀ s m next, Inv s → P s → legal s m next → step s m = some next →
      (P next ↔ allowed s m next))
    {s : State} {moves : List Move} (start : Inv s) (good : P s) (lawful : Each step legal s moves) :
    Always step P s moves ↔ Each step allowed s moves := by
  induction moves generalizing s with
  | nil => exact ⟨fun _ => trivial, fun _ => good⟩
  | cons m moves ih =>
    constructor
    · intro always next stepped
      obtain ⟨here, rest⟩ := lawful next stepped
      have tail := always.2 next stepped
      exact ⟨(exact_step s m next start good here stepped).mp tail.first,
        (ih (kept s m next start here stepped) tail.first rest).mp tail⟩
    · intro each
      refine ⟨good, fun next stepped => ?_⟩
      obtain ⟨here, rest⟩ := lawful next stepped
      obtain ⟨allowedHere, tail⟩ := each next stepped
      have goodNext := (exact_step s m next start good here stepped).mpr allowedHere
      exact (ih (kept s m next start here stepped) goodNext rest).mpr tail

end Rules

/-- A machine with an observer at its side, who sees every step and has no part in it. -/
def watched {Value : Type} (step : State → Move → Option State) (watch : State → Move → State → Value → Value) :
    State × Value → Move → Option (State × Value)
  | (s, value), m => (step s m).map fun next => (next, watch s m next value)

theorem watched_some {Value : Type} {watch : State → Move → State → Value → Value} {s next : State × Value}
    {m : Move} (stepped : watched step watch s m = some next) :
    step s.1 m = some next.1 ∧ next.2 = watch s.1 m next.1 s.2 := by
  obtain ⟨after, ran, rfl⟩ := Option.map_eq_some_iff.mp stepped
  exact ⟨ran, rfl⟩

theorem each_watched {Value : Type} {watch : State → Move → State → Value → Value}
    {allowed : State → Move → State → Prop} {s : State} {value : Value} {moves : List Move} :
    Each (watched step watch) (fun s m next => allowed s.1 m next.1) (s, value) moves ↔
      Each step allowed s moves := by
  induction moves generalizing s value with
  | nil => exact Iff.rfl
  | cons m moves ih =>
    constructor
    · intro each next stepped
      obtain ⟨here, rest⟩ := each (next, watch s m next value) (Option.map_eq_some_iff.mpr ⟨next, stepped, rfl⟩)
      exact ⟨here, ih.mp rest⟩
    · intro each next stepped
      obtain ⟨after, ran, rfl⟩ := Option.map_eq_some_iff.mp stepped
      obtain ⟨here, rest⟩ := each after ran
      exact ⟨here, ih.mpr rest⟩

/-- What a sequence of events adds up to. -/
structure Monitor (Event Value : Type) where
  start : Value
  observe : Value → Event → Value

namespace Monitor
variable {Event Value : Type} (monitor : Monitor Event Value)

def after (events : List Event) : Value := events.foldl monitor.observe monitor.start

def Ignores (e : Event) : Prop := ∀ value, monitor.observe value e = value

theorem foldl_ignored {events : List Event} (ignored : ∀ e ∈ events, monitor.Ignores e) (value : Value) :
    events.foldl monitor.observe value = value := by
  induction events with
  | nil => rfl
  | cons e events ih =>
    rw [List.foldl_cons, ignored e (by simp) value]
    exact ih fun other member => ignored other (by simp [member])

theorem after_append (events more : List Event) :
    monitor.after (events ++ more) = more.foldl monitor.observe (monitor.after events) := List.foldl_append

theorem after_ignored {events more : List Event} (ignored : ∀ e ∈ more, monitor.Ignores e) :
    monitor.after (events ++ more) = monitor.after events := by
  rw [after_append, foldl_ignored monitor ignored]

end Monitor

end Libdiscord.Base
