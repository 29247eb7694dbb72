import Libdiscord.Base.Transition
import Libdiscord.Json.Text
import Libdiscord.Rest.Request

/-! What one REST request leaves on the easy handle for the next. -/

set_option autoImplicit false

namespace Libdiscord.Rest

open Libdiscord.Base

-- `%llu`
def decimalDigits (n : UInt64) : Text := (Nat.toDigits 10 n.toNat).map fun c => c.toNat.toUInt8

/-- `ld_create_basic_message`, which leaves the body out where jansson does not take the content. -/
def createBasicMessage (ex : Externals) (botToken : Option Text) (request : Request) (channelId : UInt64)
    (messageContent : Option Text) : Request :=
  let request := { request with
    baseUrl := some (apiUrl ++ restApiVersion)
    endpoint := some (ascii "/channels/" ++ decimalDigits channelId ++ ascii "/messages")
    userAgent := some defaultUserAgent
    verb := .post
    headers := (request.headers.put (ascii "Authorization") (authorization botToken)).put
      (ascii "Content-Type") (ascii "application/json") }
  match Json.ofText ex messageContent with
  | none => request
  | some content =>
    let jsonBody := ex.dumps (.object [("content", content)])
    { request with body := some jsonBody, bodySize := jsonBody.length }

theorem createBasicMessage_verb (ex : Externals) (botToken : Option Text) (request : Request)
    (channelId : UInt64) (messageContent : Option Text) :
    (createBasicMessage ex botToken request channelId messageContent).verb = .post := by
  unfold createBasicMessage
  dsimp only
  split <;> rfl

-- A request as `ld_rest_send_request` is called with it, and what is then answered.
structure Call where
  request : Request
  exchange : Exchange

def send (handle : EasyHandle) (call : Call) : Option EasyHandle :=
  (sendRequest handle initResponse call.request call.exchange).map (·.handle)

def Request.wire (request : Request) : WireRequest where
  method := request.verb
  url := some (request.baseUrl.getD [] ++ request.endpoint.getD [])
  headers := request.headers.toCurl []
  userAgent := request.userAgent
  body := if request.verb = .post then some ((request.body.getD []).take request.bodySize) else none

def Request.Plain (request : Request) : Prop := request.verb = .get ∨ request.verb = .post

def Call.Posts (call : Call) : Prop := call.request.verb = .post ∧ call.request.baseUrl.isSome = true

section
variable {handle next : EasyHandle} {response : Response} {request : Request} {exchange : Exchange}
  {sent : Sent}

theorem sendRequest_some (sending : sendRequest handle response request exchange = some sent) :
    (request.baseUrl = none ∧ sent.handle = handle ∧ sent.wire = none) ∨
    (∃ url, request.baseUrl.isSome = true ∧ request.baseUrl.getD [] ++ request.endpoint.getD [] = url ∧
      sent.handle = configure handle request url ∧ sent.wire = some (configure handle request url).wire) := by
  unfold sendRequest at sending
  cases base : request.baseUrl with
  | none =>
    simp only [base, Option.some.injEq] at sending
    subst sending
    exact .inl ⟨rfl, rfl, rfl⟩
  | some baseUrl =>
    cases path : request.endpoint with
    | none => simp [base, path] at sending
    | some endpoint =>
      simp only [base, path] at sending
      refine .inr ⟨baseUrl ++ endpoint, rfl, rfl, ?_⟩
      split at sending
      · cases sending
        exact ⟨rfl, rfl⟩
      · cases sending
        exact ⟨rfl, rfl⟩

theorem configure_post (handle : EasyHandle) (request : Request) (url : Text) :
    (configure handle request url).post = true ↔ handle.post = true ∨ request.verb = .post := by
  unfold configure
  by_cases posts : request.verb = .post <;> simp [posts]

theorem send_post {call : Call} (sending : send handle call = some next) :
    next.post = true ↔ handle.post = true ∨ call.Posts := by
  obtain ⟨sent, ran, rfl⟩ := Option.map_eq_some_iff.mp sending
  rcases sendRequest_some ran with ⟨missing, same, _⟩ | ⟨url, present, _, configured, _⟩
  · rw [same, Call.Posts, missing]
    simp
  · rw [configured, configure_post, Call.Posts, and_iff_left present]

theorem run_post (history : List Call) (ran : run send handle history = some next) :
    next.post = true ↔ handle.post = true ∨ ∃ call ∈ history, call.Posts := by
  induction history generalizing handle with
  | nil =>
    cases ran
    simp
  | cons call rest ih =>
    obtain ⟨middle, sending, ran⟩ := run_cons_some ran
    rw [ih ran, send_post sending, or_assoc]
    simp

theorem configure_wire (handle : EasyHandle) {request : Request} (plain : request.Plain) :
    (configure handle request (request.baseUrl.getD [] ++ request.endpoint.getD [])).wire = request.wire ↔
      request.verb = .post ∨ ¬handle.post = true := by
  rcases plain with get | post
  · cases posted : handle.post with
    | false => simp [configure, EasyHandle.wire, Request.wire, get, posted]
    | true => simp [configure, EasyHandle.wire, Request.wire, get, posted]
  · simp [configure, EasyHandle.wire, Request.wire, post]

/-- After any history of calls on a fresh handle, a GET or POST request leaves as it asks for exactly
if it is a POST or nothing was posted before. -/
theorem wire_iff {wire : WireRequest} (history : List Call) (ran : run send .fresh history = some handle)
    (plain : request.Plain) (sending : sendRequest handle response request exchange = some sent)
    (left : sent.wire = some wire) :
    wire = request.wire ↔ request.verb = .post ∨ ∀ call ∈ history, ¬call.Posts := by
  rcases sendRequest_some sending with ⟨_, _, none⟩ | ⟨url, _, rfl, _, same⟩
  · exact nomatch none.symm.trans left
  · obtain rfl := Option.some.inj (same.symm.trans left)
    rw [configure_wire handle plain, run_post history ran]
    simp [EasyHandle.fresh]

/-- What is wanted: what leaves is what the request asks for, whatever was sent before. -/
def RequestsIsolated : Prop :=
  ∀ (history : List Call) handle request response exchange sent wire,
    (∀ call ∈ history, call.request.Plain) → request.Plain → run send .fresh history = some handle →
    sendRequest handle response request exchange = some sent → sent.wire = some wire → wire = request.wire

-- The message that `ld_send_basic_message` sends, and the request of `ld_get_current_user`.
def greeting : Request :=
  createBasicMessage (.knowing []) (some (ascii "token")) (initRequest none) 7 (some (ascii "hello"))

def whoAmI : Request :=
  { initRequest (some (some (ascii "token"))) with verb := .get, endpoint := some (ascii "/users/@me") }

/-- A GET after a message is a POST of the message. -/
theorem message_leaks : ¬RequestsIsolated := by
  intro isolated
  have plain : ∀ call ∈ [Call.mk greeting ⟨true, 200, []⟩], call.request.Plain := by
    intro call member
    rw [List.mem_singleton.mp member]
    exact .inr (createBasicMessage_verb _ _ _ _ _)
  have leaked := isolated _ _ whoAmI initResponse ⟨true, 200, []⟩ _ _ plain (.inl rfl) rfl rfl rfl
  have method : Verb.post = .get := congrArg WireRequest.method leaked
  cases method

theorem wire_iff_after_get :
    ∃ handle sent wire, run send .fresh [⟨whoAmI, ⟨true, 200, []⟩⟩] = some handle ∧
      sendRequest handle initResponse whoAmI ⟨true, 200, []⟩ = some sent ∧ sent.wire = some wire ∧
      (wire = whoAmI.wire ↔ whoAmI.verb = .post ∨ ∀ call ∈ [Call.mk whoAmI ⟨true, 200, []⟩],
        ¬call.Posts) := by
  obtain ⟨handle, ran⟩ : ∃ handle, run send .fresh [⟨whoAmI, ⟨true, 200, []⟩⟩] = some handle := ⟨_, rfl⟩
  obtain ⟨sent, wire, sending, left⟩ : ∃ sent wire,
      sendRequest handle initResponse whoAmI ⟨true, 200, []⟩ = some sent ∧ sent.wire = some wire :=
      ⟨_, _, rfl, rfl⟩
  exact ⟨handle, sent, wire, ran, sending, left, wire_iff _ ran (.inl rfl) sending left⟩

end

end Libdiscord.Rest
