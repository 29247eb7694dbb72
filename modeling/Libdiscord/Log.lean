import Libdiscord.Base.Format
import Libdiscord.Base.Transition
import Libdiscord.Json.Value

/-! The logging functions. -/

set_option autoImplicit false

namespace Libdiscord

open Libdiscord.Base

namespace Log

-- The bits of `enum ld_log_level`.
def levelError : UInt64 := 1
def levelWarning : UInt64 := 2
def levelNotice : UInt64 := 4
def levelInfo : UInt64 := 8
def levelDebug : UInt64 := 16

-- `_ld_ll` before it is set.
def defaultLevel : UInt64 := levelError ||| levelWarning ||| levelNotice ||| levelInfo

/-- A call of one of the logging functions, with a message of the conversions that the library uses. -/
structure Call where
  level : UInt64
  message : String
  args : List Argument
  spelled : Format.Spelled message

def error (message : String) (args : List Argument)
    (spelled : Format.Spelled message := by exact Format.spelled_ofList rfl) : Call :=
  ⟨levelError, message, args, spelled⟩

def warning (message : String) (args : List Argument)
    (spelled : Format.Spelled message := by exact Format.spelled_ofList rfl) : Call :=
  ⟨levelWarning, message, args, spelled⟩

def notice (message : String) (args : List Argument)
    (spelled : Format.Spelled message := by exact Format.spelled_ofList rfl) : Call :=
  ⟨levelNotice, message, args, spelled⟩

def info (message : String) (args : List Argument)
    (spelled : Format.Spelled message := by exact Format.spelled_ofList rfl) : Call :=
  ⟨levelInfo, message, args, spelled⟩

def debug (message : String) (args : List Argument)
    (spelled : Format.Spelled message := by exact Format.spelled_ofList rfl) : Call :=
  ⟨levelDebug, message, args, spelled⟩

def levelString (level : UInt64) : Text :=
  if level = levelError then ascii "ERROR"
  else if level = levelWarning then ascii "WARNING"
  else if level = levelInfo then ascii "INFO"
  else if level = levelNotice then ascii "NOTICE"
  else if level = levelDebug then ascii "DEBUG"
  else ascii "UNKNOWN(?)"

-- `char msg[16000]`
def msgSize : Nat := 16000

/-- `ld_log_generate_string` with the text that `asctime_r` gives, `none` where a text does not fit the memory it is
written into or memory is read that is not the program's. -/
def generateString (time : Text) (level : UInt64) (message : String) (args : List Argument) : Option Text := do
  let msg ← vsprintf message args
  if msgSize < msg.length + 1 then none
  else
    let line := ascii "[" ++ time ++ ascii "] LD_" ++ levelString level ++ ascii ": " ++ msg
    if time.length + (levelString level).length + msg.length + 15 < line.length + 1 then none
    else some line

/-- `_ld_log`, which looks at the level again. -/
def log (time : Text) (level enabled : UInt64) (message : String) (args : List Argument) : Option (List Text) :=
  if level &&& enabled = 0 then some []
  else (generateString time level message args).map ([·])

def Call.run (time : Text) (enabled : UInt64) (call : Call) : Option (List Text) :=
  if enabled &&& call.level = 0 then some []
  else log time call.level enabled call.message call.args

structure State where
  level : UInt64
  stderr : List Text

inductive Move where
  -- `ld_set_logging_level`
  | setLevel (level : UInt64)
  | call (time : Text) (call : Call)

def step (s : State) : Move → Option State
  | .setLevel level => some { s with level }
  | .call time call => (call.run time s.level).map fun lines => { s with stderr := s.stderr ++ lines }

def Call.Enabled (call : Call) (enabled : UInt64) : Prop := enabled &&& call.level ≠ 0

instance (call : Call) (enabled : UInt64) : Decidable (call.Enabled enabled) := inferInstanceAs (Decidable (¬_))

def Call.Writable (call : Call) : Prop :=
  ∃ text, vsprintf call.message call.args = some text ∧ text.length < msgSize

instance (call : Call) : Decidable call.Writable :=
  decidable_of_iff ((vsprintf call.message call.args).any fun text => text.length < msgSize) (by
    simp [Call.Writable, Option.any_eq_true])

def Quiet (enabled : UInt64) (calls : List Call) : Prop :=
  ∀ call ∈ calls, call.Enabled enabled → call.Writable

instance (enabled : UInt64) (calls : List Call) : Decidable (Quiet enabled calls) :=
  inferInstanceAs (Decidable (∀ call ∈ calls, call.Enabled enabled → call.Writable))

def Call.line (time : Text) (call : Call) : Text :=
  ascii "[" ++ time ++ ascii "] LD_" ++ levelString call.level ++ ascii ": " ++
    (vsprintf call.message call.args).getD []

section
variable {enabled : UInt64} {call : Call} {calls more : List Call} {s next : State} {m : Move}

theorem run_enabled (time : Text) (active : call.Enabled enabled) (writable : call.Writable) :
    call.run time enabled = some [call.line time] := by
  obtain ⟨text, printed, short⟩ := writable
  have same : ¬(call.level &&& enabled = 0) := by
    rw [UInt64.and_comm]
    exact active
  have fits : ¬msgSize < text.length + 1 := by omega
  rw [Call.run, if_neg active, log, if_neg same, generateString, printed]
  simp only [Option.bind_eq_bind, Option.bind_some, if_neg fits]
  rw [if_neg]
  · simp [Call.line, printed]
  · simp only [List.length_append, show (ascii "[").length = 1 from rfl, show (ascii "] LD_").length = 5 from rfl,
      show (ascii ": ").length = 2 from rfl]
    omega

theorem run_disabled (time : Text) (inactive : ¬call.Enabled enabled) : call.run time enabled = some [] := by
  rw [Call.run, if_pos (not_not.mp inactive)]

theorem run_some {time : Text} {lines : List Text} (ran : call.run time enabled = some lines)
    (active : call.Enabled enabled) : call.Writable := by
  rw [Call.run, if_neg active, log] at ran
  split at ran
  · next off =>
    rw [UInt64.and_comm] at off
    exact absurd off active
  · obtain ⟨line, made, _⟩ := Option.map_eq_some_iff.mp ran
    obtain ⟨text, printed, rest⟩ := Option.bind_eq_some_iff.mp made
    refine ⟨text, printed, ?_⟩
    by_contra long
    rw [if_pos (by omega)] at rest
    cases rest

theorem quiet_append : Quiet enabled (calls ++ more) ↔ Quiet enabled calls ∧ Quiet enabled more := by
  simp only [Quiet, List.mem_append]
  exact ⟨fun all => ⟨fun call member => all call (.inl member), fun call member => all call (.inr member)⟩,
    fun both call member => member.elim (both.1 call) (both.2 call)⟩

@[simp] theorem quiet_nil : Quiet enabled [] := List.forall_mem_nil _

theorem quiet_cons : Quiet enabled (call :: calls) ↔
    (call.Enabled enabled → call.Writable) ∧ Quiet enabled calls := List.forall_mem_cons

theorem writable_of_short {format : List Char} {args : List Argument} {level : UInt64}
    {spelled : Format.Spelled (String.ofList format)}
    (printed : ((Format.pieces format).bind (Format.render · args)).isSome = true)
    (short : format.length + widths args < msgSize) :
    (Call.mk level (String.ofList format) args spelled).Writable := by
  rw [← vsprintf_ofList] at printed
  obtain ⟨text, written⟩ := Option.isSome_iff_exists.mp printed
  refine ⟨text, written, Nat.lt_of_le_of_lt (vsprintf_length written) ?_⟩
  rwa [String.length_ofList]

theorem quiet_plain {format : List Char} {args : List Argument} {level : UInt64}
    {spelled : Format.Spelled (String.ofList format)}
    (plain : (format.all (· ≠ '%') && decide (format.length < msgSize)) = true) :
    Quiet enabled [Call.mk level (String.ofList format) args spelled] := by
  rw [Bool.and_eq_true, decide_eq_true_eq] at plain
  refine quiet_cons.mpr ⟨fun _ => ⟨_, vsprintf_plain plain.1 args, ?_⟩, quiet_nil⟩
  rw [List.length_map]
  exact plain.2

theorem quiet_short {format : List Char} {args : List Argument} {level : UInt64}
    {spelled : Format.Spelled (String.ofList format)}
    (printed : ((Format.pieces format).bind (Format.render · args)).isSome = true)
    (short : format.length + widths args < msgSize) :
    Quiet enabled [Call.mk level (String.ofList format) args spelled] :=
  quiet_cons.mpr ⟨fun _ => writable_of_short printed short, quiet_nil⟩

end

def levelAfter (level : UInt64) : List Move → UInt64
  | [] => level
  | .setLevel level :: rest => levelAfter level rest
  | .call _ _ :: rest => levelAfter level rest

def enabledLines (level : UInt64) : List Move → List Text
  | [] => []
  | .setLevel level :: rest => enabledLines level rest
  | .call time call :: rest => (if call.Enabled level then [call.line time] else []) ++ enabledLines level rest

def Sound (level : UInt64) (moves : List Move) : Prop :=
  ∀ before time call after, moves = before ++ .call time call :: after →
    call.Enabled (levelAfter level before) → call.Writable

section
variable {level : UInt64} {moves : List Move} {call : Call} {time : Text} {s : State}

theorem sound_nil : Sound level [] := by
  intro before time call after same
  cases before <;> cases same

theorem sound_setLevel {next : UInt64} : Sound level (.setLevel next :: moves) ↔ Sound next moves := by
  constructor
  · rintro sound before time call after rfl
    exact sound (.setLevel next :: before) time call after rfl
  · intro sound before time call after same
    cases before with
    | nil => cases same
    | cons m before =>
      cases same
      exact sound before time call after rfl

theorem sound_call : Sound level (.call time call :: moves) ↔
    (call.Enabled level → call.Writable) ∧ Sound level moves := by
  constructor
  · intro sound
    refine ⟨sound [] time call moves rfl, ?_⟩
    rintro before other later after rfl
    exact sound (.call time call :: before) other later after rfl
  · rintro ⟨here, sound⟩ before other later after same
    cases before with
    | nil =>
      cases same
      exact here
    | cons m before =>
      cases same
      exact sound before other later after rfl

theorem step_call (harmless : call.Enabled s.level → call.Writable) : step s (.call time call) =
    some { s with stderr := s.stderr ++ if call.Enabled s.level then [call.line time] else [] } := by
  rw [step]
  by_cases active : call.Enabled s.level
  · rw [run_enabled time active (harmless active), if_pos active, Option.map_some]
  · rw [run_disabled time active, if_neg active, Option.map_some]

theorem step_call_none (active : call.Enabled s.level) (unwritable : ¬call.Writable) :
    step s (.call time call) = none := by
  rw [step, Option.map_eq_none_iff, Option.eq_none_iff_forall_ne_some]
  exact fun lines ran => unwritable (run_some ran active)

theorem run_sound {moves : List Move} (sound : Sound s.level moves) :
    run step s moves = some ⟨levelAfter s.level moves, s.stderr ++ enabledLines s.level moves⟩ := by
  induction moves generalizing s with
  | nil =>
    rw [run_nil, enabledLines, levelAfter, List.append_nil]
  | cons m moves ih =>
    cases m with
    | setLevel level => exact ih (sound_setLevel.mp sound)
    | call time call =>
      obtain ⟨harmless, rest⟩ := sound_call.mp sound
      rw [run_cons, step_call harmless, Option.bind_some, enabledLines, levelAfter, ← List.append_assoc]
      exact ih (s := ⟨s.level, _⟩) rest

theorem sound_of_run {moves : List Move} {final : State} (ran : run step s moves = some final) :
    Sound s.level moves := by
  induction moves generalizing s with
  | nil => exact sound_nil
  | cons m moves ih =>
    obtain ⟨next, stepped, rest⟩ := run_cons_some ran
    cases m with
    | setLevel level =>
      cases stepped
      exact sound_setLevel.mpr (ih rest)
    | call time call =>
      have harmless : call.Enabled s.level → call.Writable := by
        intro active
        by_contra unwritable
        cases (step_call_none active unwritable).symm.trans stepped
      cases (step_call harmless).symm.trans stepped
      have tail := ih rest
      exact sound_call.mpr ⟨harmless, tail⟩

/-- However the level is changed in between: all calls stay inside the program's memory exactly if each one that is
enabled has arguments that can be read and a text of less than 16000 bytes, and then one line is printed for each of
these, in order. Every line fits the memory that is allocated for it. -/
theorem log_run_iff (s final : State) (moves : List Move) : run step s moves = some final ↔
    Sound s.level moves ∧ final.stderr = s.stderr ++ enabledLines s.level moves ∧
      final.level = levelAfter s.level moves := by
  constructor
  · intro ran
    have sound := sound_of_run ran
    cases (run_sound sound).symm.trans ran
    exact ⟨sound, rfl, rfl⟩
  · rintro ⟨sound, lines, level⟩
    rw [run_sound sound, ← lines, ← level]

end

end Log

end Libdiscord
