import Libdiscord.Gateway.Counting

/-! The count of heartbeats that are not acknowledged. -/

set_option autoImplicit false

namespace Libdiscord

open Libdiscord.Base

def balance (ex : Externals) (count : Int) : Event → Int
  | .queued .heartbeat _ => count + 1
  | .parsed text => match ex.loadb text with
    | some payload => if IsPayload 11 payload then count - 1 else count
    | none => count
  | _ => count

def balanceMonitor (ex : Externals) : Monitor Event Int := ⟨0, balance ex⟩

def System.balance (ex : Externals) (s : System) : Int := (balanceMonitor ex).after s.history

def Accounted (ex : Externals) (s : System) : Prop := s.ctx.hbCount = s.balance ex

def Acknowledges (members : List (String × Json)) : Prop :=
  Known members → selectedOpcode members = .heartbeatAck → integerMember "op" members = some 11

/-- No heartbeat falls due while one is outstanding, and no other payload passes for an
acknowledgement. -/
def Settled (ex : Externals) (s : System) (m : Move) (next : System) : Prop :=
  ¬Alarms s m ∧ ForParsed ex s next Acknowledges

instance (members : List (String × Json)) : Decidable (Acknowledges members) :=
  inferInstanceAs (Decidable (_ → _ → _))

instance (ex : Externals) (s next : System) (m : Move) : Decidable (Settled ex s m next) :=
  inferInstanceAs (Decidable (_ ∧ _))

section
variable {ex : Externals} {s next : System} {m : Move}

theorem balance_ignores (e : Event) (uncounted : e.Uncounted) : (balanceMonitor ex).Ignores e := by
  intro count
  rcases e with _ | _ | _ | text | _ | _ | _ | _ | ⟨kind, text⟩ | _ | _ | _ | _
  case parsed => cases uncounted
  case queued => cases kind <;> first | rfl | cases uncounted
  all_goals rfl

theorem Handled.hbCount {w : World} {ctx : Context} {code : GatewayOpcode} {out : Outcome}
    (handled : Handled w ctx code out) :
    out.ctx.hbCount = if code = .heartbeatAck then ctx.hbCount - 1 else ctx.hbCount := by
  cases handled with
  | acked same => rw [if_pos same]
  | ignored _ _ _ _ other => rw [if_neg other]
  | dispatch _ _ _ same => simp [same]
  | helloRefused _ _ same => simp [same]
  | helloFull _ _ same => simp [same]
  | helloQueued _ _ _ _ same => simp [same]
  | invalidated same => simp [same]

theorem Parsed.hbCount {w : World} {ctx : Context} {text : Text} {out : Outcome}
    (parsed : Parsed ex w ctx text out) :
    out.ctx.hbCount = match ex.loadb text with
      | some payload => if Known payload.members ∧ selectedOpcode payload.members = .heartbeatAck
        then ctx.hbCount - 1 else ctx.hbCount
      | none => ctx.hbCount := by
  cases parsed with
  | malformed failed => rw [failed]
  | unknownKey payload _ loaded unknown => simp [loaded, unknown]
  | known payload _ loaded known handled => simp [loaded, known, handled.hbCount]

theorem isPayload_acknowledged {payload : Json} (ack : IsPayload 11 payload) :
    Known payload.members ∧ selectedOpcode payload.members = .heartbeatAck :=
  ⟨ack.1, selectedOpcode_of_integer ack.2⟩

theorem accounted_step (good : Accounted ex s) (stepped : step ex s m = some next) :
    Accounted ex next ↔ Settled ex s m next := by
  unfold Accounted at good ⊢
  cases (step_acts stepped).counted with
  | still events history only _ hbCount calm =>
    have same : next.balance ex = s.balance ex := after_still balance_ignores history only
    refine iff_of_true (by rw [same, hbCount, good]) ⟨calm, ?_⟩
    exact forParsed_silent history (parsedTexts_uncounted only)
  | missed alarms _ hbCount history =>
    have same : next.balance ex = s.balance ex :=
      after_still balance_ignores history uncounted_missed
    refine iff_of_false (fun equal => ?_) fun settled => settled.1 alarms
    rw [same, hbCount, good] at equal
    omega
  | queued text events calm only _ history _ hbCount =>
    have more : next.balance ex = s.balance ex + 1 := after_queued balance_ignores history only
    refine iff_of_true (by rw [more, hbCount, good]) ⟨calm, ?_⟩
    exact forParsed_silent history (parsedTexts_queued only)
  | parsed w ctx text before after out calm first last _ oldCount parsed _ newCount history =>
    have moved : next.balance ex = Libdiscord.balance ex (s.balance ex) (.parsed text) :=
      after_parsed balance_ignores history first last
    have count := parsed.hbCount
    rw [Settled, and_iff_right calm, forParsed_iff history first last, newCount, moved, balance, ← good]
    cases loaded : ex.loadb text with
    | none =>
      rw [loaded] at count
      apply iff_of_true (count.trans oldCount)
      intro _ member
      cases member
    | some payload =>
      simp only [loaded] at count
      rw [count, oldCount]
      simp only [Option.mem_some_iff, forall_eq', Acknowledges]
      by_cases ack : IsPayload 11 payload
      · simp [ack, isPayload_acknowledged ack, ack.2]
      · by_cases passes : Known payload.members ∧ selectedOpcode payload.members = .heartbeatAck
        · have other : integerMember "op" payload.members ≠ some 11 := fun op => ack ⟨passes.1, op⟩
          rw [if_pos passes, if_neg ack]
          exact iff_of_false (by omega) fun acknowledges => other (acknowledges passes.1 passes.2)
        · rw [if_neg passes, if_neg ack]
          exact iff_of_true rfl fun known code => absurd ⟨known, code⟩ passes

/-- In every run the counter is the balance exactly if every step is settled; and a call that returns
an error from the heartbeat block leaves counter, timer and ring alone exactly if it raises no alarm. -/
theorem accounted_iff (moves : List Move) (booted : Booted ex s) :
    (Always (step ex) (Accounted ex) s moves ↔ Each (step ex) (Settled ex) s moves) ∧
    ∀ now w next, now.ctx.lwsWsi.isSome = true → step ex now (.service w) = some next → next.control = .bot →
      ((next.ctx.hbCount = now.ctx.hbCount ∧ next.ctx.lastHb = now.ctx.lastHb ∧
        next.ctx.gatewayRing = now.ctx.gatewayRing) ↔ ¬Alarms now (.service w)) := by
  constructor
  · obtain ⟨history, _, _, _, _, _, hbCount, _⟩ := booted.fresh
    have start : Accounted ex s := by
      rw [Accounted, hbCount, System.balance, history]
      rfl
    have exact_step : ∀ s m next, True → Accounted ex s → True → step ex s m = some next →
        (Accounted ex next ↔ Settled ex s m next) := fun _ _ _ _ good _ => accounted_step good
    exact always_iff_each (fun _ _ _ _ _ _ => trivial) exact_step trivial start (each_true s moves)
  · intro now w next connected stepped returned
    cases step_stepped stepped with
    | refused _ _ _ _ _ attempts =>
      cases attempts with
      | service _ missing => simp [missing] at connected
    | attempted => cases returned
    | served => cases returned
    | alarmed _ out bot _ beat failed =>
      cases beat with
      | early => exact absurd rfl failed
      | queued => exact absurd rfl failed
      | full _ quiet =>
        apply iff_of_true ⟨rfl, rfl, rfl⟩
        intro alarms
        have := alarms.2.2
        omega
      | missed due waiting =>
        refine iff_of_false (fun same => ?_) fun calm => calm ⟨connected, due, waiting⟩
        have counted : now.ctx.hbCount + 1 = now.ctx.hbCount := same.1
        omega

/-- What is wanted: the counter is the balance in every state a run reaches. -/
def HeartbeatsAccounted (ex : Externals) : Prop :=
  ∀ s moves final, Booted ex s → run (step ex) s moves = some final → Accounted ex final

abbrev heartbeatExternals : Externals := .knowing [helloMessage 1000, heartbeatAckMessage, webAnswer]

-- HELLO asks for a heartbeat every second, one is queued, and this is called two seconds later.
def afterHeartbeat (later : List Move) : List Move :=
  Move.serving 100 1 [] ++
  Move.serving 101 1 [.clientEstablished, .clientReceive ⟨(helloMessage 1000).encode, true, true⟩] ++
  Move.serving 103 1 [] ++ later

/-- The alarm counts a heartbeat that is not queued. -/
theorem alarm_counted : ¬HeartbeatsAccounted heartbeatExternals := by
  intro accounted
  have reached : (run (step heartbeatExternals) (.ofBot heartbeatExternals 16 99)
      (afterHeartbeat [.service (.calm 105)])).map (fun s => (s.ctx.hbCount, s.balance heartbeatExternals)) =
      some (2, 1) := by decide +kernel
  obtain ⟨final, ran, here⟩ := Option.map_eq_some_iff.mp reached
  obtain ⟨count, owed⟩ := Prod.mk.inj here
  have same := accounted _ _ final (booted_ofBot _ 16 99) ran
  rw [Accounted, count, owed] at same
  cases same

theorem accounted_iff_acknowledged :
    Always (step heartbeatExternals) (Accounted heartbeatExternals) (.ofBot heartbeatExternals 16 99)
      (afterHeartbeat (Move.serving 104 1 [.clientReceive ⟨heartbeatAckMessage.encode, true, true⟩])) :=
  (accounted_iff _ (booted_ofBot _ 16 99)).1.mpr (by decide +kernel)

end

end Libdiscord
