import Libdiscord.Gateway.Receive
import Libdiscord.Gateway.Steps

/-! What a step does to the sequence number and to the count of heartbeats. -/

set_option autoImplicit false

namespace Libdiscord

open Libdiscord.Base

variable {ex : Externals} {s next : System} {m : Move}

def newEvents (s next : System) : List Event := next.history.drop s.history.length

theorem newEvents_of_append {events : List Event} (history : next.history = s.history ++ events) :
    newEvents s next = events := by
  rw [newEvents, history, List.drop_left]

def Event.Uncounted : Event → Prop
  | .parsed _ | .queued .heartbeat _ => False
  | _ => True

theorem Event.Idle.uncounted (e : Event) (idle : e.Idle) : e.Uncounted := by cases e <;> trivial

theorem Event.Copied.uncounted (e : Event) (copied : e.Copied) : e.Uncounted := by cases e <;> trivial

theorem Event.Apart.uncounted (e : Event) (apart : e.Apart) : e.Uncounted := by cases e <;> trivial

theorem parsedTexts_uncounted {events : List Event} (only : Only Event.Uncounted events) :
    parsedTexts events = [] := by
  apply only.filterMap
  intro e kind
  cases e <;> first | rfl | cases kind

theorem parsedTexts_queued {text : Text} {events : List Event} (only : Only Event.Uncounted events) :
    parsedTexts (.queued .heartbeat text :: events) = [] := by
  rw [parsedTexts_cons, parsedTexts_uncounted only]
  rfl

theorem parsedTexts_one {text : Text} {before after : List Event} (first : Only Event.Uncounted before)
    (last : Only Event.Uncounted after) : parsedTexts (before ++ .parsed text :: after) = [text] := by
  rw [parsedTexts_append, parsedTexts_cons, parsedTexts_uncounted first, parsedTexts_uncounted last]
  rfl

theorem uncounted_missed :
    Only Event.Uncounted [.returned .service .websocketHeartbeatAcknowledegementMissed] := by
  simp [Event.Uncounted]

inductive Counted (ex : Externals) (s : System) (m : Move) (next : System) : Prop where
  | still (events : List Event) : next.history = s.history ++ events → Only Event.Uncounted events →
      next.ctx.lastSeq = s.ctx.lastSeq → next.ctx.hbCount = s.ctx.hbCount → ¬Alarms s m → Counted ex s m next
  | missed : Alarms s m → next.ctx.lastSeq = s.ctx.lastSeq →
      next.ctx.hbCount = s.ctx.hbCount + 1 → next.history = s.history ++
        [.returned .service .websocketHeartbeatAcknowledegementMissed] → Counted ex s m next
  | queued (text : Text) (events : List Event) : ¬Alarms s m → Only Event.Uncounted events →
      text = ex.dumps (Json.createPayload (.integer 1) (some (.integer s.ctx.lastSeq.toInt64)) none none) →
      next.history = s.history ++ .queued .heartbeat text :: events → next.ctx.lastSeq = s.ctx.lastSeq →
      next.ctx.hbCount = s.ctx.hbCount + 1 → Counted ex s m next
  | parsed (w : World) (ctx : Context) (text : Text) (before after : List Event) (out : Outcome) :
      ¬Alarms s m → Only Event.Uncounted before → Only Event.Uncounted after →
      ctx.lastSeq = s.ctx.lastSeq → ctx.hbCount = s.ctx.hbCount → Parsed ex w ctx text out →
      next.ctx.lastSeq = out.ctx.lastSeq → next.ctx.hbCount = out.ctx.hbCount →
      next.history = s.history ++ (before ++ .parsed text :: after) → Counted ex s m next

theorem Parsed.uncounted {w : World} {ctx : Context} {text : Text} {out : Outcome}
    (parsed : Parsed ex w ctx text out) : Only Event.Uncounted out.events :=
  parsed.only (fun e quiet => by cases e <;> trivial) fun _ => trivial

inductive Counts (ex : Externals) (w : World) (ctx : Context) (out : Outcome) : Prop where
  | still : Only Event.Uncounted out.events → out.ctx.lastSeq = ctx.lastSeq →
      out.ctx.hbCount = ctx.hbCount → Counts ex w ctx out
  | parsed (seen : Context) (text : Text) (before : List Event) (inner : Outcome) :
      Only Event.Uncounted before → seen.lastSeq = ctx.lastSeq → seen.hbCount = ctx.hbCount →
      Parsed ex w seen text inner → out.ctx.lastSeq = inner.ctx.lastSeq →
      out.ctx.hbCount = inner.ctx.hbCount → out.events = before ++ .parsed text :: inner.events →
      Counts ex w ctx out

theorem Called.counts {w : World} {ctx : Context} {wsi : Wsi} {callback : Callback} {out : Outcome}
    (called : Called ex w ctx wsi callback out) : Counts ex w ctx out := by
  cases called with
  | neutral => exact .still only_nil rfl rfl
  | failed _ _ only => exact .still (only.mono Event.Apart.uncounted) rfl rfl
  | destroyed => exact .still only_nil rfl rfl
  | established _ _ only => exact .still (only.mono Event.Apart.uncounted) rfl rfl
  | buffered _ _ _ _ only => exact .still (only.mono Event.Copied.uncounted) rfl rfl
  | parsed _ buffer len text events inner only parsed =>
    exact .parsed { ctx with gatewayRxBuffer := buffer, gatewayRxBufferLen := len } text events inner
      (only.mono Event.Copied.uncounted) rfl rfl parsed rfl rfl rfl
  | drained => exact .still only_nil rfl rfl
  | consumed payload ring ret events taken items only =>
    have written : Only Event.Uncounted
        (if payload.payload.length = 0 then [] else [.written wsi payload.payload]) := by
      split <;> simp [Event.Uncounted]
    refine .still ((only_append _ _).mpr ⟨?_, written⟩) rfl rfl
    exact (only_cons _ _).mpr ⟨trivial, only.mono Event.Apart.uncounted⟩
  | closed _ _ _ _ only => exact .still (only.mono Event.Apart.uncounted) rfl rfl

theorem Acts.counted (acts : Acts ex s m next) : Counted ex s m next := by
  cases acts with
  | idle events _ calm history only asked =>
    obtain ⟨_, _, _, _, _, same⟩ := asked
    exact .still events history (only.mono Event.Idle.uncounted) (by rw [same]) (by rw [same]) calm
  | connecting events wsi ctx _ calm history only asked same =>
    obtain ⟨_, _, _, _, _, rfl⟩ := asked
    refine .still _ history ?_ (by rw [same]) (by rw [same]) calm
    exact (only_append _ _).mpr ⟨only.mono Event.Idle.uncounted, by simp [Event.Uncounted]⟩
  | missed _ alarms history same => exact .missed alarms (by rw [same]) (by rw [same]) history
  | queued later ring text events _ beats _ text_eq history only same =>
    exact .queued text events beats.calm (only.mono Event.Idle.uncounted) text_eq history (by rw [same]) (by rw [same])
  | called wsi callback w out move ran history same =>
    have delivered : Event.Uncounted (.delivered wsi callback) := trivial
    have calm : ¬Alarms s m := by
      rw [move]
      exact id
    cases (lwsCallback_some ran).counts with
    | still only lastSeq hbCount =>
      exact .still _ history ((only_cons _ _).mpr ⟨delivered, only⟩) (by rw [same, lastSeq])
        (by rw [same, hbCount]) calm
    | parsed seen text before inner only oldSeq oldCount parsed newSeq newCount events =>
      refine .parsed w seen text (.delivered wsi callback :: before) inner.events inner calm
        ((only_cons _ _).mpr ⟨delivered, only⟩) parsed.uncounted oldSeq oldCount parsed
        (by rw [same, newSeq]) (by rw [same, newCount]) ?_
      rw [history, events, List.cons_append]

theorem Acts.beats {text : Text} (acts : Acts ex s m next)
    (queued : .queued .heartbeat text ∈ newEvents s next) : Beats s m := by
  have idle : ∀ {events : List Event}, Only Event.Idle events → .queued .heartbeat text ∉ events :=
    fun only member => only _ member
  cases acts with
  | idle events _ _ history only =>
    rw [newEvents_of_append history] at queued
    exact absurd queued (idle only)
  | connecting events _ _ _ _ history only =>
    rw [newEvents_of_append history] at queued
    rcases List.mem_append.mp queued with member | member
    · exact absurd member (idle only)
    · simp at member
  | missed _ _ history =>
    rw [newEvents_of_append history] at queued
    simp at queued
  | queued _ _ _ _ _ beats => exact beats
  | called wsi callback w out _ ran history =>
    rw [newEvents_of_append history] at queued
    rcases List.mem_cons.mp queued with member | member
    · cases member
    cases (lwsCallback_some ran).counts with
    | still only => exact (only _ member).elim
    | parsed _ _ before inner first _ _ parsed _ _ events =>
      rw [events, List.mem_append, List.mem_cons] at member
      rcases member with member | member | member
      · exact (first _ member).elim
      · cases member
      · exact (parsed.uncounted _ member).elim

section Monitors
variable {Value : Type} {monitor : Monitor Event Value} {before after : List Event} {text : Text}

theorem after_still (blind : ∀ e : Event, e.Uncounted → monitor.Ignores e) {events : List Event}
    (history : next.history = s.history ++ events) (only : Only Event.Uncounted events) :
    monitor.after next.history = monitor.after s.history := by
  rw [history]
  exact monitor.after_ignored fun e member => blind e (only e member)

theorem after_queued (blind : ∀ e : Event, e.Uncounted → monitor.Ignores e) {events : List Event}
    (history : next.history = s.history ++ .queued .heartbeat text :: events)
    (only : Only Event.Uncounted events) :
    monitor.after next.history = monitor.observe (monitor.after s.history) (.queued .heartbeat text) := by
  rw [history, Monitor.after_append, List.foldl_cons]
  exact monitor.foldl_ignored (fun e member => blind e (only e member)) _

theorem after_parsed (blind : ∀ e : Event, e.Uncounted → monitor.Ignores e)
    (history : next.history = s.history ++ (before ++ .parsed text :: after))
    (first : Only Event.Uncounted before) (last : Only Event.Uncounted after) :
    monitor.after next.history = monitor.observe (monitor.after s.history) (.parsed text) := by
  rw [history, Monitor.after_append, List.foldl_append, List.foldl_cons,
    monitor.foldl_ignored fun e member => blind e (first e member)]
  exact monitor.foldl_ignored (fun e member => blind e (last e member)) _

end Monitors

def ForParsed (ex : Externals) (s next : System) (P : List (String × Json) → Prop) : Prop :=
  ∀ text ∈ parsedTexts (newEvents s next), ∀ payload ∈ ex.loadb text, P payload.members

instance (ex : Externals) (s next : System) (P : List (String × Json) → Prop) [DecidablePred P] :
    Decidable (ForParsed ex s next P) :=
  inferInstanceAs (Decidable (∀ text ∈ parsedTexts (newEvents s next), ∀ payload ∈ ex.loadb text, _))

theorem forParsed_silent {P : List (String × Json) → Prop} {events : List Event}
    (history : next.history = s.history ++ events) (silent : parsedTexts events = []) :
    ForParsed ex s next P := by
  intro text member
  rw [newEvents_of_append history, silent] at member
  cases member

theorem forParsed_iff {P : List (String × Json) → Prop} {text : Text} {before after : List Event}
    (history : next.history = s.history ++ (before ++ .parsed text :: after))
    (first : Only Event.Uncounted before) (last : Only Event.Uncounted after) :
    ForParsed ex s next P ↔ ∀ payload ∈ ex.loadb text, P payload.members := by
  rw [ForParsed, newEvents_of_append history, parsedTexts_one first last]
  simp

theorem forParsed_delivered {P : List (String × Json) → Prop} {wsi : Wsi} {callback : Callback}
    {events : List Event} (history : next.history = s.history ++ .delivered wsi callback :: events) :
    ForParsed ex s next P ↔ ∀ text ∈ parsedTexts events, ∀ payload ∈ ex.loadb text, P payload.members := by
  rw [ForParsed, newEvents_of_append history, parsedTexts_cons]
  rfl

end Libdiscord
