import Libdiscord.Bot.Hash
import Libdiscord.Bot.Posting

/-! When the process of a bot fails. -/

set_option autoImplicit false

namespace Libdiscord.Bot

open Libdiscord.Base
open Json (member?)

def Foreign (user author : User) : Prop := author.id ≠ user.id ∧ author.bot ≠ 1

/-- The message is one on which the callback crashes or misuses memory: it has no author, or it is of a user and
lacks a content or is a harmful command. -/
def Program.Fails (user : User) (w : World) (data : Json) : Program → Prop
  | .ayylmao _ _ =>
    let message := Json.packMessage w.fresh Json.messageInit data
    ∀ author, message.author = some author →
      Foreign user author ∧ message.channelId ≠ 0 ∧ message.content = none
  | .counter =>
    let message := Json.packMessage w.fresh Json.messageInit data
    message.author = none ∧ ∃ content, message.content = some content ∧ (strtoll content).isSome = true
  | .hash digests trigger =>
    let message := Json.packMessage w.fresh Json.messageInit data
    ∃ content, message.content = some content ∧ content ≠ ascii "hcf" ∧
      ∀ author, message.author = some author →
        Foreign user author ∧ ∃ head, Commands trigger content head ∧ ¬Harmless digests w.stale head

section
variable {user : User} {w : World} {data : Json} {trigger response : Text} {digests : Digests} {program : Program}

end

def FailsOn (ex : Externals) (program : Program) (p : Process) (w : World) (exchange : Rest.Exchange)
    (call : UserCall) : Prop :=
  ∃ user, p.system.ctx.currentUser = some user ∧
    (call.reason = .messageCreate ∧ program.Fails user w call.data.value ∨
      ∃ post, Cause.post? program (some user) (.told call w) = some post ∧ ¬p.Sends ex post exchange)

section
variable {ex : Externals} {program : Program} {p next : Process} {user : User} {w : World} {shown : Printed}
  {exchange : Rest.Exchange} {call : UserCall} {level : UInt64} {s : System}

theorem FailsOn.congr {other : Process} {causes : List Cause} (posted : Posted ex program p causes other) :
    FailsOn ex program other w exchange call ↔ FailsOn ex program p w exchange call := by
  obtain ⟨_, _, rfl, _, _⟩ := posted
  exact Iff.rfl

end

end Libdiscord.Bot
