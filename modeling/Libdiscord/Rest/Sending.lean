import Libdiscord.Rest.Isolation

/-! What `ld_send_basic_message` reports of the message it sends. -/

set_option autoImplicit false

namespace Libdiscord.Rest

-- `LDE_JSON`
def jsonProblem : Status := 2

def createBasicMessageStatus (ex : Externals) (messageContent : Option Text) : Status :=
  match Json.ofText ex messageContent with
  | none => jsonProblem
  | some _ => .ok

/-- `ld_send_basic_message`, which looks at neither of the two results but at the HTTP status alone;
`stale` is the response as it lies on the stack. -/
def sendBasicMessage (ex : Externals) (handle : EasyHandle) (botToken : Option Text) (stale : Response)
    (channelId : UInt64) (message : Option Text) (exchange : Exchange) : Option Sent :=
  let request := createBasicMessage ex botToken (initRequest none) channelId message
  (sendRequest handle stale request exchange).map fun sent =>
    { sent with ret := if sent.response.httpStatus ≥ 400 then 1 else .ok }

def Built (ex : Externals) (message : Option Text) : Prop := createBasicMessageStatus ex message = .ok

/-- 0 is returned exactly if the message was built, transferred and accepted, and what could not be built is
not sent. -/
structure Truthful (ex : Externals) (message : Option Text) (exchange : Exchange) (sent : Sent) : Prop where
  ret : sent.ret = .ok ↔ Built ex message ∧ exchange.performed = true ∧ exchange.status < 400
  unbuilt : ¬Built ex message → sent.wire = none ∧ sent.ret ≠ .ok

theorem createBasicMessage_endpoint (ex : Externals) (botToken : Option Text) (request : Request)
    (channelId : UInt64) (message : Option Text) :
    (createBasicMessage ex botToken request channelId message).baseUrl.isSome = true ∧
    (createBasicMessage ex botToken request channelId message).endpoint.isSome = true := by
  unfold createBasicMessage
  dsimp only
  split <;> exact ⟨rfl, rfl⟩

theorem sendRequest_wire {handle : EasyHandle} {stale : Response} {request : Request} {exchange : Exchange}
    {sent : Sent} (sending : sendRequest handle stale request exchange = some sent)
    (baseUrl : request.baseUrl.isSome = true) : sent.wire.isSome = true := by
  rcases sendRequest_some sending with ⟨missing, _⟩ | ⟨_, _, _, _, wire⟩
  · rw [missing] at baseUrl
    cases baseUrl
  · rw [wire]
    rfl

theorem sendBasicMessage_some (ex : Externals) (handle : EasyHandle) (botToken : Option Text) (stale : Response)
    (channelId : UInt64) (message : Option Text) (exchange : Exchange) :
    ∃ sent, sendBasicMessage ex handle botToken stale channelId message exchange = some sent ∧
      sent.wire.isSome = true ∧
      (sent.ret = .ok ↔ exchange.performed = false ∨ exchange.status < 400) := by
  obtain ⟨baseUrl, endpoint⟩ := createBasicMessage_endpoint ex botToken (initRequest none) channelId message
  obtain ⟨sent, sending, answered⟩ := sendRequest_answered handle stale _ exchange baseUrl endpoint
  have wire := sendRequest_wire sending baseUrl
  refine ⟨_, Option.map_eq_some_iff.mpr ⟨sent, sending, rfl⟩, wire, ?_⟩
  show (if sent.response.httpStatus ≥ 400 then (1 : Status) else .ok) = .ok ↔ _
  rw [answered.status]
  cases exchange.performed with
  | false =>
    rw [if_neg Bool.false_ne_true]
    exact iff_of_true (by decide) (.inl rfl)
  | true =>
    rw [if_pos rfl]
    by_cases refused : exchange.status ≥ 400
    · rw [if_pos refused]
      simp [Status.ok, Int64.not_lt.mpr refused]
    · rw [if_neg refused]
      exact iff_of_true rfl (.inr (Int64.not_le.mp refused))

/-- Where the message is built and transferred the result is true, and nowhere else. -/
theorem sends_truly_iff (ex : Externals) (handle : EasyHandle) (botToken : Option Text) (stale : Response)
    (channelId : UInt64) (message : Option Text) (exchange : Exchange) :
    ∃ sent, sendBasicMessage ex handle botToken stale channelId message exchange = some sent ∧
      (Truthful ex message exchange sent ↔ Built ex message ∧ exchange.performed = true) := by
  obtain ⟨sent, sending, wire, ret⟩ :=
    sendBasicMessage_some ex handle botToken stale channelId message exchange
  refine ⟨sent, sending, ?_⟩
  constructor
  · intro truthful
    by_cases built : Built ex message
    · refine ⟨built, ?_⟩
      cases performed : exchange.performed with
      | true => rfl
      | false =>
        have zero := ret.mpr (.inl performed)
        exact absurd (truthful.ret.mp zero).2.1 (by simp [performed])
    · rw [(truthful.unbuilt built).1] at wire
      cases wire
  · rintro ⟨built, performed⟩
    refine ⟨?_, fun unbuilt => absurd built unbuilt⟩
    rw [ret]
    simp [built, performed]

/-- What is wanted: the result tells the truth about every message. -/
def AlwaysTruthful (ex : Externals) : Prop :=
  ∀ handle botToken stale channelId message exchange, ∃ sent,
    sendBasicMessage ex handle botToken stale channelId message exchange = some sent ∧
    Truthful ex message exchange sent

/-- A transfer that fails is reported as a success. -/
theorem failure_unreported : ¬AlwaysTruthful (.knowing []) := by
  intro truthful
  obtain ⟨sent, sending, truth⟩ :=
    truthful .fresh (some (ascii "token")) initResponse 7 (some (ascii "hello")) ⟨false, 0, []⟩
  have zero : sent.ret = .ok := by
    cases sending
    rfl
  exact absurd (truth.ret.mp zero).2.1 (by decide)

end Libdiscord.Rest
