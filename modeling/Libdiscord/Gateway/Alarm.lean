import Libdiscord.Gateway.Heartbeat

/-! When `ld_service` says that an acknowledgement is missing. -/

set_option autoImplicit false

namespace Libdiscord

open Libdiscord.Base

/-- What an observer of the current connection keeps count of: the heartbeats queued since it was
established that are not acknowledged on it, and whether an alarm was raised without any. -/
structure Watch where
  current : Wsi
  heard : Wsi
  established : Bool
  outstanding : Nat
  unfounded : Bool
  deriving DecidableEq

def Watch.hear (watch : Watch) (wsi : Wsi) : Callback → Watch
  | .clientEstablished =>
    if wsi = watch.current ∧ watch.established = false then
      { watch with heard := wsi, established := true, outstanding := 0 }
    else { watch with heard := wsi }
  | _ => { watch with heard := wsi }

def Watch.observe (ex : Externals) (watch : Watch) : Event → Watch
  | .connecting wsi => { watch with current := wsi, established := false, outstanding := 0 }
  | .delivered wsi callback => watch.hear wsi callback
  | .queued .heartbeat _ =>
    if watch.established then { watch with outstanding := watch.outstanding + 1 } else watch
  | .parsed text => match ex.loadb text with
    | some payload =>
      if IsPayload 11 payload ∧ watch.heard = watch.current then
        { watch with outstanding := watch.outstanding - 1 }
      else watch
    | none => watch
  | .returned .service status =>
    if status = .websocketHeartbeatAcknowledegementMissed then
      { watch with unfounded := watch.unfounded || watch.outstanding = 0 }
    else watch
  | _ => watch

def watchMonitor (ex : Externals) : Monitor Event Watch := ⟨⟨0, 0, false, 0, false⟩, Watch.observe ex⟩

def System.watch (ex : Externals) (s : System) : Watch := (watchMonitor ex).after s.history

def Founded (ex : Externals) (s : System) : Prop := (s.watch ex).unfounded = false

def Move.establishes? : Move → Option Wsi
  | .callback wsi .clientEstablished _ => some wsi
  | _ => none

/-- No alarm is raised while a connection is set up, the counter is carried into no connection, and
no acknowledgement comes on it when the counter has also counted an alarm. -/
def Timely (ex : Externals) (s : System) (m : Move) (next : System) : Prop :=
  (Alarms s m → (s.watch ex).established = true) ∧
  (∀ wsi ∈ m.establishes?, wsi = (s.watch ex).current → (s.watch ex).established = false →
    s.ctx.hbCount ≤ 0) ∧
  ForParsed ex s next fun members => Known members → integerMember "op" members = some 11 →
    m.wsi? = some (s.watch ex).current → s.ctx.hbCount ≤ 1

instance (ex : Externals) (s next : System) (m : Move) : Decidable (Timely ex s m next) := by
  unfold Timely
  infer_instance

/-- A counter that would raise the alarm counts a heartbeat that waits. -/
def Sound (count : Int) (watch : Watch) : Prop :=
  watch.unfounded = false ∧ (watch.established = true → 0 < count → 0 < watch.outstanding)

section
variable {ex : Externals} {s next : System} {m : Move}

theorem watch_ignores (e : Event) (uncounted : e.Uncounted) (inside : e.Inside) :
    (watchMonitor ex).Ignores e := by
  intro watch
  rcases e with _ | _ | _ | text | _ | _ | _ | _ | ⟨kind, text⟩ | _ | _ | _ | _
  case parsed => cases uncounted
  case queued => cases kind <;> first | rfl | cases uncounted
  all_goals first | rfl | cases inside

theorem foldl_uncounted {events : List Event} {watch : Watch} (only : Only Event.Uncounted events)
    (inside : Only Event.Inside events) : events.foldl (Watch.observe ex) watch = watch :=
  (watchMonitor ex).foldl_ignored (fun e member => watch_ignores e (only e member) (inside e member)) watch

theorem watch_ignores_idle (e : Event) (idle : e.Idle) : (watchMonitor ex).Ignores e := by
  rcases e with _ | _ | _ | _ | _ | _ | _ | _ | _ | _ | _ | _ | ⟨caller, status⟩
  case returned =>
    cases caller
    · exact fun _ => if_neg idle
    · exact fun _ => rfl
  all_goals first | exact fun _ => rfl | cases idle

theorem hear_cases (watch : Watch) (wsi : Wsi) (callback : Callback) :
    watch.hear wsi callback = { watch with heard := wsi } ∨
      (callback = .clientEstablished ∧ wsi = watch.current ∧ watch.established = false ∧
        watch.hear wsi callback = { watch with heard := wsi, established := true, outstanding := 0 }) := by
  cases callback
  case clientEstablished =>
    by_cases first : wsi = watch.current ∧ watch.established = false
    · exact .inr ⟨rfl, first.1, first.2, if_pos first⟩
    · exact .inl (if_neg first)
  all_goals exact .inl rfl

theorem sound_hear {count : Int} {watch : Watch} {wsi : Wsi} {callback : Callback} (sound : Sound count watch)
    (fresh : callback = .clientEstablished → wsi = watch.current → watch.established = false → count ≤ 0) :
    Sound count (watch.hear wsi callback) := by
  rcases hear_cases watch wsi callback with same | ⟨establishes, here, down, same⟩
  · rw [same]
    exact sound
  · have quiet := fresh establishes here down
    rw [same]
    exact ⟨sound.1, fun _ waiting => absurd waiting (by omega)⟩

theorem hear_current (watch : Watch) (wsi : Wsi) (callback : Callback) :
    (watch.hear wsi callback).heard = wsi ∧ (watch.hear wsi callback).current = watch.current := by
  rcases hear_cases watch wsi callback with same | ⟨_, _, _, same⟩ <;> (rw [same]; exact ⟨rfl, rfl⟩)

theorem sound_parsed {watch : Watch} {w : World} {ctx : Context} {text : Text} {out : Outcome}
    (sound : Sound ctx.hbCount watch) (parsed : Parsed ex w ctx text out)
    (early : ∀ payload ∈ ex.loadb text, IsPayload 11 payload → watch.heard = watch.current →
      ctx.hbCount ≤ 1) :
    Sound out.ctx.hbCount (watch.observe ex (.parsed text)) := by
  have counted := parsed.hbCount
  have falls : out.ctx.hbCount ≤ ctx.hbCount := by
    rw [counted]
    split
    · split
      · exact Int.sub_le_self _ (by decide)
      · exact Int.le_refl _
    · exact Int.le_refl _
  have kept : Sound out.ctx.hbCount watch :=
    ⟨sound.1, fun established waiting => sound.2 established (by omega)⟩
  cases loaded : ex.loadb text with
  | none =>
    simp only [Watch.observe, loaded]
    exact kept
  | some payload =>
    by_cases here : IsPayload 11 payload ∧ watch.heard = watch.current
    · -- the counter goes back to nothing, so it need not count anything
      have passes := isPayload_acknowledged here.1
      have counted : out.ctx.hbCount = ctx.hbCount - 1 := by simpa [loaded, passes] using counted
      have few := early payload loaded here.1 here.2
      simp only [Watch.observe, loaded, if_pos here]
      exact ⟨sound.1, fun _ waiting => absurd waiting (by omega)⟩
    · simp only [Watch.observe, loaded, if_neg here]
      exact kept

theorem sound_called {watch : Watch} {w : World} {ctx : Context} {wsi : Wsi} {callback : Callback}
    {out : Outcome} (sound : Sound ctx.hbCount watch) (called : Called ex w ctx wsi callback out)
    (early : ∀ text ∈ parsedTexts out.events, ∀ payload ∈ ex.loadb text, IsPayload 11 payload →
      watch.heard = watch.current → ctx.hbCount ≤ 1) :
    Sound out.ctx.hbCount (out.events.foldl (Watch.observe ex) watch) := by
  have inside := called.inside
  cases called.counts with
  | still only _ hbCount =>
    rw [foldl_uncounted only inside, hbCount]
    exact sound
  | parsed seen text before inner first _ oldCount parsed _ newCount events =>
    rw [events] at inside early ⊢
    obtain ⟨insideBefore, _, _⟩ := by simpa using inside
    have last := parsed.uncounted
    rw [List.foldl_append, List.foldl_cons, foldl_uncounted first insideBefore,
      foldl_uncounted last parsed.inside, newCount]
    apply sound_parsed (oldCount ▸ sound) parsed
    intro payload loaded ack here
    rw [oldCount]
    rw [parsedTexts_one first last] at early
    exact early text (List.mem_singleton.mpr rfl) payload loaded ack here

theorem sound_step (sound : Sound s.ctx.hbCount (s.watch ex)) (timely : Timely ex s m next)
    (stepped : step ex s m = some next) : Sound next.ctx.hbCount (next.watch ex) := by
  obtain ⟨established, fresh, early⟩ := timely
  cases step_acts stepped with
  | idle events _ _ history only asked =>
    obtain ⟨_, _, _, _, _, same⟩ := asked
    rw [System.watch, history, same,
      (watchMonitor ex).after_ignored fun e member => watch_ignores_idle e (only e member)]
    exact sound
  | connecting events wsi ctx _ _ history only =>
    rw [System.watch, history, Monitor.after_append, List.foldl_append,
      (watchMonitor ex).foldl_ignored fun e member => watch_ignores_idle e (only e member)]
    exact ⟨sound.1, nofun⟩
  | missed _ alarms history same =>
    have waits := sound.2 (established alarms) (alarms_waiting alarms)
    rw [System.watch, history, Monitor.after_append, same]
    refine ⟨?_, fun _ _ => waits⟩
    show ((s.watch ex).unfounded || decide ((s.watch ex).outstanding = 0)) = false
    rw [sound.1, Bool.false_or, decide_eq_false_iff_not]
    omega
  | queued later ring text events _ _ _ _ history only same =>
    rw [System.watch, history, Monitor.after_append, List.foldl_cons,
      (watchMonitor ex).foldl_ignored fun e member => watch_ignores_idle e (only e member), same]
    show Sound (s.ctx.hbCount + 1) ((s.watch ex).observe ex (.queued .heartbeat text))
    simp only [Watch.observe]
    split
    · exact ⟨sound.1, fun _ _ => Nat.succ_pos _⟩
    · next down => exact ⟨sound.1, fun up => absurd up down⟩
  | called wsi callback w out move ran history same =>
    have heard : Sound s.ctx.hbCount ((s.watch ex).hear wsi callback) := by
      refine sound_hear sound fun establishes here down => fresh wsi ?_ here down
      rw [move, establishes]
      rfl
    have total : next.watch ex = out.events.foldl (Watch.observe ex) ((s.watch ex).hear wsi callback) := by
      rw [System.watch, history, Monitor.after_append]
      rfl
    rw [total, same]
    apply sound_called heard (lwsCallback_some ran)
    intro text member payload loaded ack here
    obtain ⟨by_wsi, of_current⟩ := hear_current (s.watch ex) wsi callback
    have current : wsi = (s.watch ex).current := by
      rw [← by_wsi, ← of_current]
      exact here
    apply (forParsed_delivered history).mp early text member payload loaded ack.1 ack.2
    rw [move, ← current]
    rfl

/-- In a run whose steps are all timely no alarm is raised without a heartbeat that waits for its
acknowledgement. -/
theorem alarms_founded (moves : List Move) (booted : Booted ex s)
    (timely : Each (step ex) (Timely ex) s moves) :
    Always (step ex) (Founded ex) s moves := by
  have start : Sound s.ctx.hbCount (s.watch ex) := by
    obtain ⟨history, _⟩ := booted.fresh
    rw [System.watch, history]
    exact ⟨rfl, nofun⟩
  have sound := always_of_each (fun s => Sound s.ctx.hbCount (s.watch ex))
    (fun _ _ _ => sound_step) start timely
  exact sound.mono fun _ sound => sound.1

/-- What is wanted: every alarm is founded, in every run. -/
def AlarmsFounded (ex : Externals) : Prop :=
  ∀ s moves final, Booted ex s → run (step ex) s moves = some final → Founded ex final

-- The connection is lost while a heartbeat waits for its acknowledgement, and there is a new one.
def afterLoss : List Move :=
  afterHeartbeat (Move.serving 104 1 [.wsiDestroy] ++ Move.serving 105 2 [.clientEstablished])

/-- The heartbeat that was lost with its connection raises the alarm on the next one. -/
theorem alarm_unfounded : ¬AlarmsFounded heartbeatExternals := by
  intro founded
  have reached : (run (step heartbeatExternals) (.ofBot heartbeatExternals 16 99)
      (afterLoss ++ [.service (.calm 107)])).map (fun s => s.watch heartbeatExternals) =
      some ⟨2, 2, true, 0, true⟩ := by decide +kernel
  obtain ⟨final, ran, here⟩ := Option.map_eq_some_iff.mp reached
  have sound := founded _ _ final (booted_ofBot _ 16 99) ran
  rw [Founded, here] at sound
  cases sound

theorem alarms_founded_missed :
    Always (step heartbeatExternals) (Founded heartbeatExternals) (.ofBot heartbeatExternals 16 99)
      (afterHeartbeat [.service (.calm 105)]) :=
  alarms_founded _ (booted_ofBot _ 16 99) (by decide +kernel)

end

end Libdiscord
