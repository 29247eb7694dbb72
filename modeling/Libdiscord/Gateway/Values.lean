import Libdiscord.Gateway.Allocation
import Libdiscord.Gateway.References
import Libdiscord.Gateway.Requests

/-! The jansson values in a run: no reference is given up that is not owned, unless a url is obtained from /gateway. -/

set_option autoImplicit false

namespace Libdiscord

open Libdiscord.Base Rest
open Json (ofText)

def decodedLedger (ex : Externals) (exchange : Exchange) : Ledger :=
  if (ex.loads exchange.body).isSome then [.owned .decoded] else []

def connectUserLedgers (ex : Externals) (http : Http) (ctx : Context) : List Ledger :=
  let exchange := http.currentUser
  if ctx.currentUser.isNone ∧ exchange.performed ∧ exchange.status = 200 then [decodedLedger ex exchange] else []

def connectBotLedgers (ex : Externals) (http : Http) (ctx : Context) : List Ledger :=
  (if ctx.gatewayBotUrl.isNone then [decodedLedger ex http.gatewayBot] else []) ++
  match ctx.bootstrapGatewayBot ex http with
  | none => []
  | some out => if out.ret ≠ .ok then [] else connectUserLedgers ex http out.ctx

def connectLedgers (ex : Externals) (http : Http) (ctx : Context) : List Ledger :=
  (if ctx.gatewayUrl.isNone then (getGatewayLedger ex ctx http.gateway).toList else []) ++
  match ctx.bootstrapGateway ex http with
  | none => []
  | some out => if out.ret ≠ .ok then [] else connectBotLedgers ex http out.ctx

def heartbeatLedgers (ctx : Context) (now : UInt64) : List Ledger :=
  if heartbeatDue ctx now ∧ ctx.hbCount + 1 ≤ 1 ∧ ctx.gatewayRing.free ≠ 0 then [queueHeartbeatLedger] else []

def Move.ledgers (ex : Externals) (s : System) : Move → List Ledger
  | .service w =>
    if s.ctx.lwsWsi.isNone then connectLedgers ex w.http s.ctx else heartbeatLedgers s.ctx w.now
  | .connect http _ => connectLedgers ex http s.ctx
  | .callback _ (.clientReceive fragment) w =>
    (completedText w s.ctx fragment).toList.map (payloadParserLedger ex w s.ctx)
  | .callback _ _ _ | .leave => []

def Move.Backed (ex : Externals) (s : System) (m : Move) : Prop := ∀ ledger ∈ m.ledgers ex s, Base.Backed ledger

instance (ex : Externals) (s : System) (m : Move) : Decidable (m.Backed ex s) :=
  inferInstanceAs (Decidable (∀ ledger ∈ m.ledgers ex s, Base.Backed ledger))

section Functions
variable {ex : Externals} {w : World} {ctx : Context} {http : Http} {out : Outcome}

end Functions

section Run
variable {ex : Externals} {s next final : System} {m : Move} {moves : List Move} {memory after : Memory}

theorem Attempts.ledgers {http : Http} {created : Bool} {caller : Caller} (attempts : Attempts s m http created caller) :
    m.ledgers ex s = connectLedgers ex http s.ctx := by
  cases attempts with
  | service w missing => exact if_pos (by simp [missing])
  | connect => rfl

end Run

end Libdiscord
