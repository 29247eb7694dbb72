import Libdiscord.Gateway.Heartbeat

/-! How many heartbeats are outstanding at a time. -/

set_option autoImplicit false

namespace Libdiscord

open Libdiscord.Base

def Bounded (ex : Externals) (s : System) : Prop := s.balance ex ≤ 1

def Genuine (ex : Externals) (s : System) (_ : Move) (next : System) : Prop :=
  ForParsed ex s next Acknowledges

instance (ex : Externals) (s next : System) (m : Move) : Decidable (Genuine ex s m next) :=
  inferInstanceAs (Decidable (ForParsed ex s next Acknowledges))

/-- Heartbeats queued less payloads that the parser takes as acknowledgements. -/
def unanswered (ex : Externals) (count : Int) : Event → Int
  | .queued .heartbeat _ => count + 1
  | .parsed text => match ex.loadb text with
    | some payload =>
      if Known payload.members ∧ selectedOpcode payload.members = .heartbeatAck then count - 1 else count
    | none => count
  | _ => count

def unansweredMonitor (ex : Externals) : Monitor Event Int := ⟨0, unanswered ex⟩

def System.unanswered (ex : Externals) (s : System) : Int := (unansweredMonitor ex).after s.history

/-- The counter covers what is unanswered. It may be ahead, as each alarm adds to it, and a heartbeat is
queued only while it is not positive. -/
structure Covered (ex : Externals) (s : System) : Prop where
  covers : s.unanswered ex ≤ s.ctx.hbCount
  bounded : s.unanswered ex ≤ 1

section
variable {ex : Externals} {s next : System} {m : Move}

theorem unanswered_ignores (e : Event) (uncounted : e.Uncounted) : (unansweredMonitor ex).Ignores e := by
  intro count
  rcases e with _ | _ | _ | text | _ | _ | _ | _ | ⟨kind, text⟩ | _ | _ | _ | _
  case parsed => cases uncounted
  case queued => cases kind <;> first | rfl | cases uncounted
  all_goals rfl

theorem Parsed.unanswered {w : World} {ctx : Context} {text : Text} {out : Outcome}
    (parsed : Parsed ex w ctx text out) :
    out.ctx.hbCount = Libdiscord.unanswered ex ctx.hbCount (.parsed text) := parsed.hbCount

theorem unanswered_parsed (text : Text) :
    ∃ taken : Int, 0 ≤ taken ∧ ∀ count, unanswered ex count (.parsed text) = count - taken := by
  cases loaded : ex.loadb text with
  | none => exact ⟨0, by decide, fun count => by simp [unanswered, loaded]⟩
  | some payload =>
    by_cases passes : Known payload.members ∧ selectedOpcode payload.members = .heartbeatAck
    · exact ⟨1, by decide, fun count => by simp [unanswered, loaded, passes]⟩
    · exact ⟨0, by decide, fun count => by simp [unanswered, loaded, passes]⟩

theorem covered_step (covered : Covered ex s) (stepped : step ex s m = some next) : Covered ex next := by
  obtain ⟨covers, bounded⟩ := covered
  suffices next.unanswered ex ≤ next.ctx.hbCount ∧ next.unanswered ex ≤ 1 from ⟨this.1, this.2⟩
  have acts := step_acts stepped
  cases acts.counted with
  | still events history only _ hbCount =>
    have same : next.unanswered ex = s.unanswered ex := after_still unanswered_ignores history only
    omega
  | missed _ _ hbCount history =>
    have same : next.unanswered ex = s.unanswered ex :=
      after_still unanswered_ignores history uncounted_missed
    omega
  | queued text events _ only _ history _ hbCount =>
    have more : next.unanswered ex = s.unanswered ex + 1 := after_queued unanswered_ignores history only
    have member : .queued .heartbeat text ∈ newEvents s next := by
      rw [newEvents_of_append history]
      exact List.mem_cons_self
    have quiet := (acts.beats member).quiet
    omega
  | parsed w ctx text before after out _ first last _ oldCount parsed _ newCount history =>
    have moved : next.unanswered ex = Libdiscord.unanswered ex (s.unanswered ex) (.parsed text) :=
      after_parsed unanswered_ignores history first last
    have count := parsed.unanswered
    obtain ⟨taken, _, takes⟩ := unanswered_parsed text
    rw [takes] at moved count
    omega

theorem balance_step (same : s.balance ex = s.unanswered ex) (genuine : Genuine ex s m next)
    (stepped : step ex s m = some next) : next.balance ex = next.unanswered ex := by
  cases (step_acts stepped).counted with
  | still events history only =>
    exact (after_still balance_ignores history only).trans
      (same.trans (after_still unanswered_ignores history only).symm)
  | missed _ _ _ history =>
    exact (after_still balance_ignores history uncounted_missed).trans
      (same.trans (after_still unanswered_ignores history uncounted_missed).symm)
  | queued text events _ only _ history =>
    have first : next.balance ex = s.balance ex + 1 := after_queued balance_ignores history only
    have second : next.unanswered ex = s.unanswered ex + 1 := after_queued unanswered_ignores history only
    rw [first, second, same]
  | parsed w ctx text before after out _ first last _ _ _ _ _ history =>
    have left : next.balance ex = balance ex (s.balance ex) (.parsed text) :=
      after_parsed balance_ignores history first last
    have right : next.unanswered ex = unanswered ex (s.unanswered ex) (.parsed text) :=
      after_parsed unanswered_ignores history first last
    rw [Genuine, forParsed_iff history first last] at genuine
    rw [left, right, same, balance, unanswered]
    cases loaded : ex.loadb text with
    | none => rfl
    | some payload =>
      have acknowledges := genuine payload loaded
      have taken : IsPayload 11 payload ↔
          Known payload.members ∧ selectedOpcode payload.members = .heartbeatAck :=
        ⟨isPayload_acknowledged, fun passes => ⟨passes.1, acknowledges passes.1 passes.2⟩⟩
      simp only [taken]

theorem Booted.covered (booted : Booted ex s) : Covered ex s ∧ s.balance ex = s.unanswered ex := by
  obtain ⟨history, _, _, _, _, _, hbCount, _⟩ := booted.fresh
  have balance : s.balance ex = 0 := by
    rw [System.balance, history]
    rfl
  have unanswered : s.unanswered ex = 0 := by
    rw [System.unanswered, history]
    rfl
  refine ⟨⟨?_, ?_⟩, balance.trans unanswered.symm⟩ <;> omega

/-- In every run at most one heartbeat more is queued than the parser has taken acknowledgements. -/
theorem unanswered_bounded (moves : List Move) (booted : Booted ex s) :
    Always (step ex) (fun s => s.unanswered ex ≤ 1) s moves := by
  have kept : ∀ s m next, Covered ex s → True → step ex s m = some next → Covered ex next :=
    fun _ _ _ covered _ => covered_step covered
  exact (always_of_each (Covered ex) kept booted.covered.1 (each_true s moves)).mono
    fun _ covered => covered.bounded

/-- In a run where nothing but acknowledgements is taken as one, at most one heartbeat is ever
outstanding. -/
theorem outstanding_bounded (moves : List Move) (booted : Booted ex s)
    (genuine : Each (step ex) (Genuine ex) s moves) : Always (step ex) (Bounded ex) s moves := by
  have kept : ∀ s m next, Covered ex s ∧ s.balance ex = s.unanswered ex → Genuine ex s m next →
      step ex s m = some next → Covered ex next ∧ next.balance ex = next.unanswered ex :=
    fun _ _ _ good genuine stepped =>
      ⟨covered_step good.1 stepped, balance_step good.2 genuine stepped⟩
  refine (always_of_each _ kept booted.covered genuine).mono ?_
  rintro s ⟨covered, same⟩
  rw [Bounded, same]
  exact covered.bounded

/-- What is wanted: in every state that is reached at most one heartbeat is outstanding. -/
def AlwaysBounded (ex : Externals) : Prop :=
  ∀ s moves final, Booted ex s → run (step ex) s moves = some final → Bounded ex final

-- An op that is not 11, but is so in the low 32 bits.
def wrappedAckMessage : Json := gatewayMessage 4294967307 .null .null .null

abbrev wrappedExternals : Externals :=
  .knowing [helloMessage 1000, wrappedAckMessage, heartbeatAckMessage, webAnswer]

-- After a heartbeat a payload comes, and the next heartbeat falls due.
def afterAnswer (answer : Json) : List Move :=
  afterHeartbeat
    (Move.serving 104 1 [.clientReceive ⟨answer.encode, true, true⟩] ++ Move.serving 105 1 [])

/-- A second heartbeat is queued with none acknowledged. -/
theorem two_outstanding : ¬AlwaysBounded wrappedExternals := by
  intro bounded
  have reached : (run (step wrappedExternals) (.ofBot wrappedExternals 16 99)
      (afterAnswer wrappedAckMessage)).map (fun s => s.balance wrappedExternals) = some 2 := by
    decide +kernel
  obtain ⟨final, ran, two⟩ := Option.map_eq_some_iff.mp reached
  have one := bounded _ _ final (booted_ofBot _ 16 99) ran
  rw [Bounded, two] at one
  exact absurd one (by decide)

theorem outstanding_bounded_acknowledged :
    Always (step wrappedExternals) (Bounded wrappedExternals) (.ofBot wrappedExternals 16 99)
      (afterAnswer heartbeatAckMessage) :=
  outstanding_bounded _ (booted_ofBot _ 16 99) (by decide +kernel)

end

end Libdiscord
