import Libdiscord.Gateway.Effects

/-! The gateway client without JSON, fragments, buffers and libwebsockets.

It hears messages, keeps time, and puts what it has to say into an outbox. This is the purpose of the
library as a machine of its own; the library is compared with it elsewhere.
-/

set_option autoImplicit false

namespace Libdiscord

open Libdiscord.Base

inductive Outgoing where
  | heartbeat (seq : Int32)
  -- the data of an IDENTIFY
  | identify (data : Json)

inductive News where
  | hello (interval : UInt32)
  | session (id : Text)
  | invalidated
  | acknowledged
  | none

/-- What a message says: a sequence number if it has one, and what else is new. -/
structure Incoming where
  seq : Option Int32
  news : News
  -- whom it is to be passed on to
  calls : List UserCall

structure Client where
  identity : Identify
  seq : Int32
  session : Option Text
  interval : UInt32
  -- when the heartbeat timer was last reset
  since : UInt64
  unanswered : Int
  outbox : BoundedQueue Outgoing

inductive Action where
  -- the web tells the number of shards
  | learned (shards : Int32)
  | opened (now : UInt64)
  | failed
  | closed
  -- how an identity is encoded, and what is at hand in its place while a session is known
  | heard (message : Incoming) (encode : Identify → Option Json) (spare : Identify) (now : UInt64)
  | ticked (now later : UInt64)
  -- the connection takes something to send
  | drained

inductive Seen where
  | sent (payload : Outgoing)
  | told (call : UserCall)
  -- a heartbeat is due and the last one is not acknowledged
  | missed
  -- a heartbeat is due and the outbox is full
  | full

namespace Client

def say (c : Client) (payload : Outgoing) : Client := { c with outbox := (c.outbox.insert payload).1 }

def due (c : Client) (now : UInt64) : Bool := now - c.since > (c.interval / 1000).toUInt64 && c.interval ≠ 0

/-- The answer to HELLO. While a session is known the identity is not filled in. -/
def greet (c : Client) (interval : UInt32) (encode : Identify → Option Json) (spare : Identify) (now : UInt64) :
    Client :=
  let c := { c with interval }
  match encode (if c.session.isNone then c.identity else spare) with
  | none => c
  | some data => { c.say (.identify data) with since := now }

def react (c : Client) (news : News) (encode : Identify → Option Json) (spare : Identify) (now : UInt64) :
    Client :=
  match news with
  | .hello interval => c.greet interval encode spare now
  | .session id => { c with session := some id }
  | .invalidated => { c with session := none, seq := 0 }
  | .acknowledged => { c with unanswered := c.unanswered - 1 }
  | .none => c

def hear (c : Client) (message : Incoming) (encode : Identify → Option Json) (spare : Identify) (now : UInt64) :
    Client :=
  { c with seq := message.seq.getD c.seq }.react message.news encode spare now

def tick (c : Client) (now later : UInt64) : Client × List Seen :=
  if ¬c.due now then (c, [])
  else if 0 < c.unanswered then ({ c with unanswered := c.unanswered + 1 }, [.missed])
  else if c.outbox.free = 0 then (c, [.full])
  else ({ c.say (.heartbeat c.seq) with unanswered := c.unanswered + 1, since := later }, [])

def act (c : Client) : Action → Client × List Seen
  | .learned shards => ({ c with identity := { c.identity with shard := (0, shards) } }, [])
  | .opened now => ({ c with since := now }, [.told ⟨.wsEstablished, .null, 0⟩])
  | .failed => (c, [.told ⟨.wsConnectionError, .null, 0⟩])
  | .closed => (c, [.told ⟨.wsGatewayInitClose, .null, 0⟩])
  | .heard message encode spare now => (c.hear message encode spare now, message.calls.map .told)
  | .ticked now later => c.tick now later
  | .drained => match c.outbox.consume with
    | none => (c, [])
    | some (payload, rest) => ({ c with outbox := rest }, [.sent payload])

end Client

end Libdiscord
