import Libdiscord.Gateway.Counting

/-! The sequence number: what it is to be, and what the parser makes of it. -/

set_option autoImplicit false

namespace Libdiscord

open Libdiscord.Base
open Json (member? member?_set)

/-- The sequence number after a payload: the one it carries, none after the end of the session. -/
def nextSeq (seq : Int64) (members : List (String × Json)) : Int64 :=
  if integerMember "op" members = some 9 then 0 else (integerMember "s" members).getD seq

/-- The sequence number that the payloads so far call for, and the heartbeats queued so far, each with
the number it is to carry. -/
structure Tracked where
  seq : Int64
  heartbeats : List (Text × Int64)

def Tracked.observe (ex : Externals) (tracked : Tracked) : Event → Tracked
  | .parsed text => match ex.loadb text with
    | some payload => { tracked with seq := nextSeq tracked.seq payload.members }
    | none => tracked
  | .queued .heartbeat text => { tracked with heartbeats := tracked.heartbeats ++ [(text, tracked.seq)] }
  | _ => tracked

def trackMonitor (ex : Externals) : Monitor Event Tracked := ⟨⟨0, []⟩, Tracked.observe ex⟩

def System.tracked (ex : Externals) (s : System) : Tracked := (trackMonitor ex).after s.history

def IsHeartbeat (ex : Externals) (text : Text) (seq : Int64) : Prop :=
  ∃ payload : Json, text = ex.dumps payload ∧ member? "op" payload.members = some (.integer 1) ∧
    member? "d" payload.members = some (.integer seq)

/-- The stored number is the one the payloads call for, and every heartbeat carries it. -/
structure InSequence (ex : Externals) (s : System) : Prop where
  lastSeq : s.ctx.lastSeq.toInt64 = (s.tracked ex).seq
  heartbeats : ∀ entry ∈ (s.tracked ex).heartbeats, IsHeartbeat ex entry.1 entry.2

/-- The payloads have known fields only, and where they carry an integer `s` it fits an `int`. -/
def Numbered (ex : Externals) (s : System) (_ : Move) (next : System) : Prop :=
  ForParsed ex s next fun members =>
    Known members ∧ ∀ n ∈ integerMember "s" members, n.toInt32.toInt64 = n

def Unnumbered (members : List (String × Json)) : Prop :=
  (member? "s" members).isSome = true ∧ integerMember "s" members = none

/-- A payload whose `s` is no integer comes only while the stored number is 0, or ends the session;
and what the parser takes as the end of a session that has a number is one. -/
def SeqSafe (lastSeq : Int32) (members : List (String × Json)) : Prop :=
  (Unnumbered members → lastSeq = 0 ∨ selectedOpcode members = .invalidateSession) ∧
    (selectedOpcode members = .invalidateSession → integerMember "op" members ≠ some 9 →
      (integerMember "s" members).getD lastSeq.toInt64 = 0)

def SeqSafely (ex : Externals) (s : System) (_ : Move) (next : System) : Prop :=
  ForParsed ex s next (SeqSafe s.ctx.lastSeq)

section
variable (ex : Externals) (s next : System) (m : Move)

instance : Decidable (Numbered ex s m next) :=
  -- by the one number there may be, not by all there are
  have (members : List (String × Json)) :
      Decidable (∀ n ∈ integerMember "s" members, n.toInt32.toInt64 = n) :=
    Option.decidableForallMem _
  inferInstanceAs (Decidable (ForParsed ex s next fun members => _ ∧ ∀ n ∈ integerMember "s" members, _))

instance (members : List (String × Json)) : Decidable (Unnumbered members) :=
  inferInstanceAs (Decidable (_ ∧ _))

instance (lastSeq : Int32) (members : List (String × Json)) : Decidable (SeqSafe lastSeq members) :=
  inferInstanceAs (Decidable ((_ → _) ∧ (_ → _ → _)))

instance : Decidable (SeqSafely ex s m next) :=
  inferInstanceAs (Decidable (ForParsed ex s next (SeqSafe s.ctx.lastSeq)))

end

section
variable {ex : Externals} {s next : System} {m : Move}

theorem Handled.lastSeq {w : World} {ctx : Context} {code : GatewayOpcode} {out : Outcome}
    (handled : Handled w ctx code out) :
    out.ctx.lastSeq = if code = .invalidateSession then 0 else ctx.lastSeq := by
  cases handled with
  | invalidated same => rw [if_pos same]
  | ignored _ _ other => rw [if_neg other]
  | dispatch _ _ _ same => simp [same]
  | helloRefused _ _ same => simp [same]
  | helloFull _ _ same => simp [same]
  | helloQueued _ _ _ _ same => simp [same]
  | acked same => simp [same]

theorem Parsed.lastSeq {w : World} {ctx : Context} {text : Text} {payload : Json} {out : Outcome}
    (parsed : Parsed ex w ctx text out) (loaded : ex.loadb text = some payload)
    (known : Known payload.members) :
    out.ctx.lastSeq =
      if selectedOpcode payload.members = .invalidateSession then 0
      else storedSeq ctx.lastSeq payload.members := by
  cases parsed with
  | malformed failed => cases failed.symm.trans loaded
  | unknownKey other _ same unknown =>
    cases same.symm.trans loaded
    exact absurd known unknown
  | known other _ same _ handled =>
    cases same.symm.trans loaded
    exact handled.lastSeq

theorem toInt64_inj {a b : Int32} (same : a.toInt64 = b.toInt64) : a = b := by
  rw [← Int32.toInt32_toInt64 a, same, Int32.toInt32_toInt64]

theorem storedSeq_of_integer {members : List (String × Json)} {n : Int64} (lastSeq : Int32)
    (s : integerMember "s" members = some n) : storedSeq lastSeq members = n.toInt32 := by
  obtain ⟨value, found, integer⟩ := Option.bind_eq_some_iff.mp s
  rw [storedSeq, found, Option.elim_some]
  cases value <;> cases integer
  rfl

theorem storedSeq_of_unnumbered {members : List (String × Json)} (lastSeq : Int32)
    (unnumbered : Unnumbered members) : storedSeq lastSeq members = 0 := by
  obtain ⟨present, noInteger⟩ := unnumbered
  obtain ⟨value, found⟩ := Option.isSome_iff_exists.mp present
  rw [integerMember, found, Option.bind_some] at noInteger
  rw [storedSeq, found, Option.elim_some]
  cases value <;> first | cases noInteger; done | rfl

/-- One payload keeps the stored number right exactly if it is safe for it. -/
theorem seqSafe_iff (lastSeq : Int32) (members : List (String × Json))
    (fits : ∀ n ∈ integerMember "s" members, n.toInt32.toInt64 = n) :
    (if selectedOpcode members = .invalidateSession then 0 else storedSeq lastSeq members).toInt64 =
      nextSeq lastSeq.toInt64 members ↔ SeqSafe lastSeq members := by
  by_cases ends : selectedOpcode members = .invalidateSession
  · -- the parser takes the payload as the end of the session
    by_cases nine : integerMember "op" members = some 9
    · simp [SeqSafe, nextSeq, ends, nine]
    · simp [SeqSafe, nextSeq, ends, nine, eq_comm]
  · have other : integerMember "op" members ≠ some 9 := fun nine => ends (selectedOpcode_of_integer nine)
    simp only [SeqSafe, nextSeq, if_neg other, ends, or_false, false_implies, and_true]
    cases integer : integerMember "s" members with
    | some n =>
      have numbered : ¬Unnumbered members := fun unnumbered => nomatch integer.symm.trans unnumbered.2
      simp [storedSeq_of_integer lastSeq integer, fits n integer, numbered]
    | none =>
      cases present : member? "s" members with
      | none =>
        have absent : ¬Unnumbered members := fun unnumbered => nomatch present ▸ unnumbered.1
        simp [storedSeq, present, absent]
      | some value =>
        have unnumbered : Unnumbered members := ⟨by simp [present], integer⟩
        simp only [storedSeq_of_unnumbered lastSeq unnumbered, unnumbered, true_implies, Option.getD_none]
        exact ⟨fun same => (toInt64_inj same).symm, fun zero => zero ▸ rfl⟩

theorem track_ignores (e : Event) (uncounted : e.Uncounted) : (trackMonitor ex).Ignores e := by
  intro tracked
  rcases e with _ | _ | _ | text | _ | _ | _ | _ | ⟨kind, text⟩ | _ | _ | _ | _
  case parsed => cases uncounted
  case queued => cases kind <;> first | rfl | cases uncounted
  all_goals rfl

theorem heartbeat_isHeartbeat (ex : Externals) (seq : Int64) :
    IsHeartbeat ex (ex.dumps (Json.createPayload (.integer 1) (some (.integer seq)) none none)) seq := by
  refine ⟨_, rfl, ?_, ?_⟩ <;> simp [Json.createPayload, Json.members, member?_set]

theorem observe_heartbeats (tracked : Tracked) (text : Text) :
    (tracked.observe ex (.parsed text)).heartbeats = tracked.heartbeats := by
  cases loaded : ex.loadb text <;> simp only [Tracked.observe, loaded]

theorem Parsed.inSequence {w : World} {ctx : Context} {text : Text} {out : Outcome} {tracked : Tracked}
    (parsed : Parsed ex w ctx text out) (seq : ctx.lastSeq.toInt64 = tracked.seq)
    (legal : ∀ payload ∈ ex.loadb text, Known payload.members ∧
      ∀ n ∈ integerMember "s" payload.members, n.toInt32.toInt64 = n) :
    out.ctx.lastSeq.toInt64 = (tracked.observe ex (.parsed text)).seq ↔
      ∀ payload ∈ ex.loadb text, SeqSafe ctx.lastSeq payload.members := by
  cases loaded : ex.loadb text with
  | none =>
    have same : out.ctx.lastSeq = ctx.lastSeq := by
      cases parsed with
      | malformed => rfl
      | unknownKey _ _ found => cases found.symm.trans loaded
      | known _ _ found => cases found.symm.trans loaded
    simp [Tracked.observe, loaded, same, seq]
  | some payload =>
    obtain ⟨known, fits⟩ := legal payload loaded
    simp only [Tracked.observe, loaded, Option.mem_some_iff, forall_eq']
    rw [parsed.lastSeq loaded known, ← seq]
    exact seqSafe_iff ctx.lastSeq payload.members fits

theorem inSequence_step (good : InSequence ex s) (numbered : Numbered ex s m next)
    (stepped : step ex s m = some next) : InSequence ex next ↔ SeqSafely ex s m next := by
  obtain ⟨seq, heartbeats⟩ := good
  cases (step_acts stepped).counted with
  | still events history only lastSeq _ _ =>
    have tracked : next.tracked ex = s.tracked ex := after_still track_ignores history only
    apply iff_of_true ⟨by rw [tracked, lastSeq, seq], by rw [tracked]; exact heartbeats⟩
    exact forParsed_silent history (parsedTexts_uncounted only)
  | missed _ lastSeq _ history =>
    have tracked : next.tracked ex = s.tracked ex := after_still track_ignores history uncounted_missed
    apply iff_of_true ⟨by rw [tracked, lastSeq, seq], by rw [tracked]; exact heartbeats⟩
    exact forParsed_silent history (parsedTexts_uncounted uncounted_missed)
  | queued text events _ only same history lastSeq _ =>
    have tracked : next.tracked ex = (s.tracked ex).observe ex (.queued .heartbeat text) :=
      after_queued track_ignores history only
    refine iff_of_true ⟨by rw [tracked, lastSeq, seq]; rfl, ?_⟩
      (forParsed_silent history (parsedTexts_queued only))
    rw [tracked]
    intro entry member
    rcases List.mem_append.mp member with old | new
    · exact heartbeats entry old
    · rw [List.mem_singleton.mp new, same, ← seq]
      exact heartbeat_isHeartbeat ex _
  | parsed w ctx text before after out _ first last oldSeq _ parsed newSeq _ history =>
    have tracked : next.tracked ex = (s.tracked ex).observe ex (.parsed text) :=
      after_parsed track_ignores history first last
    have legal := (forParsed_iff history first last).mp numbered
    rw [SeqSafely, forParsed_iff history first last, ← oldSeq]
    rw [← oldSeq] at seq
    rw [← parsed.inSequence seq legal, ← newSeq, ← tracked]
    refine ⟨fun good => good.lastSeq, fun same => ⟨same, ?_⟩⟩
    rw [tracked, observe_heartbeats]
    exact heartbeats

/-- In every run the number stays right and the heartbeats carry it exactly if every payload is safe
for the number stored when it comes. -/
theorem in_sequence_iff (moves : List Move) (booted : Booted ex s)
    (numbered : Each (step ex) (Numbered ex) s moves) :
    Always (step ex) (InSequence ex) s moves ↔ Each (step ex) (SeqSafely ex) s moves := by
  have start : InSequence ex s := by
    obtain ⟨history, _, _, _, _, lastSeq, _⟩ := booted.fresh
    have tracked : s.tracked ex = ⟨0, []⟩ := by rw [System.tracked, history]; rfl
    exact ⟨by rw [lastSeq, tracked]; rfl, by simp [tracked]⟩
  have exact_step : ∀ s m next, True → InSequence ex s → Numbered ex s m next → step ex s m = some next →
      (InSequence ex next ↔ SeqSafely ex s m next) := fun _ _ _ _ => inSequence_step
  exact always_iff_each (fun _ _ _ _ _ _ => trivial) exact_step trivial start numbered

end

/-- What is wanted: in every state a run reaches, the number is the one the payloads call for. -/
def SequenceTracked (ex : Externals) : Prop :=
  ∀ s moves final, Booted ex s → Each (step ex) (Numbered ex) s moves → run (step ex) s moves = some final →
    InSequence ex final

abbrev readyExternals : Externals :=
  .knowing [helloMessage 41250, readyMessage 5 (ascii "abc"), heartbeatAckMessage, webAnswer]

-- HELLO and these payloads come on the first connection.
def afterHello (payloads : List Json) : List Move :=
  Move.serving 100 1 [] ++
  Move.serving 101 1 (.clientEstablished ::
    (helloMessage 41250 :: payloads).map fun payload => .clientReceive ⟨payload.encode, true, true⟩)

/-- An acknowledgement, whose `s` is null, takes away the number that READY has set. -/
theorem sequence_lost : ¬SequenceTracked readyExternals := by
  intro tracked
  have reached : (run (step readyExternals) (.ofBot readyExternals 16 99)
      (afterHello [readyMessage 5 (ascii "abc"), heartbeatAckMessage])).map (fun s =>
        (s.ctx.lastSeq, (s.tracked readyExternals).seq)) = some (0, 5) := by decide +kernel
  obtain ⟨final, ran, here⟩ := Option.map_eq_some_iff.mp reached
  obtain ⟨stored, owed⟩ := Prod.mk.inj here
  have kept := (tracked _ _ final (booted_ofBot _ 16 99) (by decide +kernel) ran).lastSeq
  rw [stored, owed] at kept
  exact absurd kept (by decide)

theorem in_sequence_iff_ready :
    Always (step readyExternals) (InSequence readyExternals) (.ofBot readyExternals 16 99)
      (afterHello [readyMessage 5 (ascii "abc")]) :=
  (in_sequence_iff _ (booted_ofBot _ 16 99) (by decide +kernel)).mpr (by decide +kernel)

end Libdiscord
