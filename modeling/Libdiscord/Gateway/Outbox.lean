import Libdiscord.Gateway.Transmission

/-! What becomes of a payload, whatever fails: the account of the ring over whole runs. -/

set_option autoImplicit false

namespace Libdiscord

open Libdiscord.Base
open Json (member?)

def Spoken (ex : Externals) : Queued × Text → Prop
  | (.heartbeat, text) => ∃ payload, text = ex.dumps payload ∧ IsPayload 1 payload
  | (.handshake, text) => ∃ payload, text = ex.dumps payload ∧ IsPayload 2 payload

/-- Every payload that was put into the ring was taken out once and in order, or still waits there; what was
taken out was handed to `lws_write` unless it was empty; and nothing else was. -/
structure Outbox (ex : Externals) (s : System) : Prop where
  fifo : (queuedPayloads s.history).map (·.2) =
    dequeuedTexts s.history ++ s.ctx.gatewayRing.items.map (·.payload)
  written : writtenTexts s.history = (dequeuedTexts s.history).filter (· ≠ [])
  lengths : ∀ payload ∈ s.ctx.gatewayRing.items, payload.len = payload.payload.length
  spoken : ∀ queued ∈ queuedPayloads s.history, Spoken ex queued

def Event.Unmoved : Event → Prop
  | .queued _ _ | .dequeued _ | .written _ _ => False
  | _ => True

section
variable {ex : Externals} {s next : System} {m : Move} {w : World} {ctx : Context} {out : Outcome}
  {wsi : Wsi}

theorem Event.Idle.unmoved (e : Event) (idle : e.Idle) : e.Unmoved := by cases e <;> trivial

theorem Event.Copied.unmoved (e : Event) (copied : e.Copied) : e.Unmoved := by cases e <;> trivial

theorem Event.Apart.unmoved (e : Event) (apart : e.Apart) : e.Unmoved := by cases e <;> trivial

theorem Event.Quiet.unmoved (e : Event) (quiet : e.Quiet) : e.Unmoved := by cases e <;> trivial

theorem queuedPayloads_append (events more : List Event) :
    queuedPayloads (events ++ more) = queuedPayloads events ++ queuedPayloads more := List.filterMap_append

theorem texts_unmoved {events : List Event} (only : Only Event.Unmoved events) :
    queuedPayloads events = [] ∧ dequeuedTexts events = [] ∧ writtenTexts events = [] := by
  refine ⟨?_, ?_, ?_⟩
  all_goals
    apply only.filterMap
    intro e kind
    cases e <;> first | rfl | cases kind

theorem Outbox.unmoved {events : List Event} (good : Outbox ex s) (history : next.history = s.history ++ events)
    (only : Only Event.Unmoved events) (ring : next.ctx.gatewayRing.items = s.ctx.gatewayRing.items) :
    Outbox ex next := by
  obtain ⟨queued, dequeued, written⟩ := texts_unmoved only
  refine ⟨?_, ?_, ?_, ?_⟩
  · rw [history, queuedPayloads_append, dequeuedTexts_append, queued, dequeued, List.append_nil,
      List.append_nil, ring]
    exact good.fifo
  · rw [history, writtenTexts_append, dequeuedTexts_append, written, dequeued, List.append_nil,
      List.append_nil]
    exact good.written
  · rw [ring]
    exact good.lengths
  · rw [history, queuedPayloads_append, queued, List.append_nil]
    exact good.spoken

theorem Outbox.put {before after : List Event} {kind : Queued} {text : Text} (good : Outbox ex s)
    (history : next.history = s.history ++ (before ++ .queued kind text :: after))
    (first : Only Event.Unmoved before) (last : Only Event.Unmoved after)
    (ring : next.ctx.gatewayRing.items = s.ctx.gatewayRing.items ++ [⟨text, text.length⟩])
    (spoken : Spoken ex (kind, text)) : Outbox ex next := by
  obtain ⟨queued, dequeued, written⟩ := texts_unmoved first
  obtain ⟨queued', dequeued', written'⟩ := texts_unmoved last
  have one : queuedPayloads (before ++ .queued kind text :: after) = [(kind, text)] := by
    rw [queuedPayloads_append, queued]
    exact congrArg ((kind, text) :: ·) queued'
  have none : dequeuedTexts (before ++ .queued kind text :: after) = [] := by
    rw [dequeuedTexts_append, dequeued]
    exact dequeued'
  have silent : writtenTexts (before ++ .queued kind text :: after) = [] := by
    rw [writtenTexts_append, written]
    exact written'
  refine ⟨?_, ?_, ?_, ?_⟩
  · rw [history, queuedPayloads_append, dequeuedTexts_append, one, none, ring, List.map_append, List.map_append,
      good.fifo, List.append_nil, List.append_assoc]
    rfl
  · rw [history, writtenTexts_append, dequeuedTexts_append, silent, none, List.append_nil, List.append_nil]
    exact good.written
  · intro payload member
    rw [ring] at member
    rcases List.mem_append.mp member with old | new
    · exact good.lengths payload old
    · rw [List.mem_singleton.mp new]
  · intro queued member
    rw [history, queuedPayloads_append, one] at member
    rcases List.mem_append.mp member with old | new
    · exact good.spoken queued old
    · exact List.mem_singleton.mp new ▸ spoken

theorem Outbox.take {callback : Callback} {offset count size : Nat} {payload : GatewayPayload}
    (good : Outbox ex s) (items : s.ctx.gatewayRing.items = payload :: next.ctx.gatewayRing.items)
    (history : next.history = s.history ++ (.delivered wsi callback :: .dequeued payload.payload ::
      .bufferWrite .session offset count size ::
      if payload.payload.length = 0 then [] else [.written wsi payload.payload])) : Outbox ex next := by
  generalize moved : Event.delivered wsi callback :: .dequeued payload.payload ::
    .bufferWrite .session offset count size ::
    (if payload.payload.length = 0 then [] else [.written wsi payload.payload]) = events at history
  have queued : queuedPayloads events = [] := by
    rw [← moved]
    split <;> rfl
  have dequeued : dequeuedTexts events = [payload.payload] := by
    rw [← moved]
    split <;> rfl
  have written : writtenTexts events = [payload.payload].filter (· ≠ []) := by
    rw [← moved]
    by_cases empty : payload.payload = [] <;> simp [empty, writtenTexts, List.filterMap, Event.writtenText?]
  refine ⟨?_, ?_, ?_, ?_⟩
  · rw [history, queuedPayloads_append, dequeuedTexts_append, queued, dequeued, List.append_nil, good.fifo,
      items, List.map_cons, List.append_assoc]
    rfl
  · rw [history, writtenTexts_append, dequeuedTexts_append, written, dequeued, good.written, List.filter_append]
  · intro other member
    apply good.lengths other
    rw [items]
    exact List.mem_cons_of_mem _ member
  · rw [history, queuedPayloads_append, queued, List.append_nil]
    exact good.spoken

theorem known_set {members : List (String × Json)} {key : String} (known : Known members)
    (named : gatewayPayloadObjectparser key ≠ .unknown) (value : Option Json) :
    Known (Json.set members key value) := by
  cases value with
  | none => exact known
  | some value =>
    intro entry member
    rw [Json.set] at member
    split at member
    · obtain ⟨old, inside, rfl⟩ := List.mem_map.mp member
      split
      · exact named
      · exact known old inside
    · rcases List.mem_append.mp member with old | new
      · exact known entry old
      · exact List.mem_singleton.mp new ▸ named

theorem createPayload_isPayload (op : Int64) (d : Json) :
    IsPayload op (Json.createPayload (.integer op) (some d) none none) := by
  constructor
  · show Known (Json.set (Json.set (Json.set (Json.set [] "op" (some (.integer op))) "d" (some d)) "t" none)
      "s" none)
    have empty : Known [] := by simp [Known]
    have one : Known (Json.set [] "op" (some (.integer op))) := known_set empty (by decide) _
    exact known_set (known_set (known_set one (by decide) (some d)) (by decide) none) (by decide) none
  · rw [integerMember, (createPayload_members _ _).1]
    rfl

theorem gatewayPayloadParser_puts {text : Text} (parsed : gatewayPayloadParser ex w ctx text = some out) :
    (Only Event.Unmoved out.events ∧ out.ctx.gatewayRing.items = ctx.gatewayRing.items) ∨
    ∃ before sent, Only Event.Unmoved before ∧ out.events = before ++ [.queued .handshake sent] ∧
      out.ctx.gatewayRing.items = ctx.gatewayRing.items ++ [⟨sent, sent.length⟩] ∧
      Spoken ex (.handshake, sent) := by
  cases gatewayPayloadParser_some parsed with
  | malformed => exact .inl ⟨only_nil, rfl⟩
  | unknownKey => exact .inl ⟨only_nil, rfl⟩
  | known payload _ loaded known handled =>
    by_cases hello : selectedOpcode payload.members = .hello
    · rw [gatewayPayloadParser_known loaded known, hello] at parsed
      have quiet := fun interval seq => (quiet_helloIdentify w
        { ctx with heartbeatInterval := interval, lastSeq := seq }).mono Event.Quiet.unmoved
      rcases gatewayHello_cases parsed with ⟨-, rfl⟩ | ⟨d, sent, -, encoded, rfl⟩
      · exact .inl ⟨quiet _ _, rfl⟩
      · rcases ctx.gatewayRing.insert_cases ⟨sent, sent.length⟩ with ⟨one, items, -⟩ | ⟨refused, -⟩
        · refine .inr ⟨_, sent, quiet _ _, by rw [if_pos one], items, ?_⟩
          exact ⟨_, encoded, createPayload_isPayload 2 d⟩
        · refine .inl ⟨?_, by rw [refused]⟩
          simpa [refused] using quiet _ _
    · cases handled with
      | dispatch _ _ _ _ only => exact .inl ⟨only.mono Event.Quiet.unmoved, rfl⟩
      | invalidated => exact .inl ⟨only_nil, rfl⟩
      | helloRefused _ _ code => exact absurd code hello
      | helloFull _ _ code => exact absurd code hello
      | helloQueued _ _ _ _ code => exact absurd code hello
      | acked => exact .inl ⟨only_nil, rfl⟩
      | ignored => exact .inl ⟨only_nil, rfl⟩

theorem Called.unmoved {callback : Callback} (called : Called ex w ctx wsi callback out)
    (other : callback.fragment? = none) (idle : callback ≠ .clientWriteable) :
    Only Event.Unmoved out.events ∧ out.ctx.gatewayRing = ctx.gatewayRing := by
  cases called with
  | neutral => exact ⟨only_nil, rfl⟩
  | failed _ _ only => exact ⟨only.mono Event.Apart.unmoved, rfl⟩
  | destroyed => exact ⟨only_nil, rfl⟩
  | established _ _ only => exact ⟨only.mono Event.Apart.unmoved, rfl⟩
  | buffered => cases other
  | parsed => cases other
  | drained => exact absurd rfl idle
  | consumed => exact absurd rfl idle
  | closed _ _ _ _ only => exact ⟨only.mono Event.Apart.unmoved, rfl⟩

theorem outbox_called {callback : Callback} (good : Outbox ex s)
    (ran : lwsCallback ex w s.ctx wsi callback = some out)
    (history : next.history = s.history ++ .delivered wsi callback :: out.events) (same : next.ctx = out.ctx) :
    Outbox ex next := by
  have plain : ∀ {events}, Only Event.Unmoved events → Only Event.Unmoved (.delivered wsi callback :: events) :=
    fun only => (only_cons _ _).mpr ⟨trivial, only⟩
  cases callback with
  | clientReceive fragment =>
    obtain ⟨buffer, len, events, copied, rfl | ⟨text, inner, parsed, rfl⟩⟩ := clientReceive_cases ran
    · exact good.unmoved history (plain (copied.mono Event.Copied.unmoved)) (by rw [same])
    · have before := copied.mono Event.Copied.unmoved
      rcases gatewayPayloadParser_puts parsed with ⟨only, ring⟩ | ⟨quiet, sent, only, split, ring, spoken⟩
      · refine good.unmoved history (plain ?_) (by rw [same]; exact ring)
        exact (only_append _ _).mpr ⟨before, (only_cons _ _).mpr ⟨trivial, only⟩⟩
      · have whole : next.history = s.history ++
            ((.delivered wsi (.clientReceive fragment) :: (events ++ .parsed text :: quiet)) ++
              .queued .handshake sent :: []) := by
          rw [history, split]
          simp
        refine good.put whole (plain ?_) only_nil (by rw [same]; exact ring) spoken
        exact (only_append _ _).mpr ⟨before, (only_cons _ _).mpr ⟨trivial, only⟩⟩
  | clientWriteable =>
    cases ran
    rcases clientWriteable_cases ex w s.ctx wsi with ⟨-, idle⟩ | ⟨payload, ring, ret, -, items, sent⟩
    · rw [idle] at history same
      exact good.unmoved history (plain only_nil) (by rw [same])
    · rw [sent] at history same
      exact good.take (by rw [same]; exact items) history
  | _ =>
    obtain ⟨only, ring⟩ := (lwsCallback_some ran).unmoved rfl (by simp)
    exact good.unmoved history (plain only) (by rw [same, ring])

theorem outbox_step (good : Outbox ex s) (stepped : step ex s m = some next) : Outbox ex next := by
  cases step_acts stepped with
  | idle events _ _ history only asked =>
    obtain ⟨_, _, _, _, _, same⟩ := asked
    exact good.unmoved history (only.mono Event.Idle.unmoved) (by rw [same])
  | connecting events wsi ctx _ _ history only asked same =>
    obtain ⟨_, _, _, _, _, rfl⟩ := asked
    refine good.unmoved history ?_ (by rw [same])
    exact (only_append _ _).mpr ⟨only.mono Event.Idle.unmoved, by simp [Event.Unmoved]⟩
  | missed _ _ history same => exact good.unmoved history (by simp [Event.Unmoved]) (by rw [same])
  | queued later ring text events _ _ appended encoded history only same =>
    have whole : next.history = s.history ++ ([] ++ .queued .heartbeat text :: events) := history
    refine good.put whole only_nil (only.mono Event.Idle.unmoved) ?_ ?_
    · rw [same]
      exact appended.1
    · exact ⟨_, encoded, createPayload_isPayload 1 _⟩
  | called wsi callback w out _ ran history same => exact outbox_called good ran history same

/-- In every run, whatever `lws_write` returns and however full the ring is, the account is right. -/
theorem outbox_kept (moves : List Move) (booted : Booted ex s) : Always (step ex) (Outbox ex) s moves := by
  obtain ⟨history, _, _, _, _, _, _, _, empty, _⟩ := booted.fresh
  have start : Outbox ex s := by
    refine ⟨?_, ?_, ?_, ?_⟩ <;> simp [history, empty, queuedPayloads, dequeuedTexts, writtenTexts]
  exact always_of_each (Outbox ex) (fun _ _ _ good _ stepped => outbox_step good stepped) start
    (each_true s moves)

-- The answer to HELLO is taken from the ring, and `lws_write` fails.
def helloThenFailure : List Move :=
  Move.serving 100 1 [] ++ [.service (.calm 101),
    .callback 1 (.clientReceive ⟨(helloMessage 41250).encode, true, true⟩) (.calm 101),
    .callback 1 .clientWriteable { World.calm 101 with writeResult := -1 }]

theorem outbox_kept_failure :
    Always (step helloExternals) (Outbox helloExternals) (.ofBot helloExternals 16 99) helloThenFailure ∧
    (run (step helloExternals) (.ofBot helloExternals 16 99) helloThenFailure).map (fun s =>
      (queuedPayloads s.history).length) = some 1 :=
  ⟨outbox_kept helloThenFailure (booted_ofBot _ 16 99), by decide +kernel⟩

end

end Libdiscord
