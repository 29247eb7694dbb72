import Libdiscord.Base.Block
import Libdiscord.Json.Value

/-! REST requests: headers, requests, responses, and sending over the shared curl easy handle. -/

set_option autoImplicit false

namespace Libdiscord.Rest

open Libdiscord.Base

-- An array of string pointers with the number of bytes last requested for it.
structure Slots where
  requested : Nat
  strings : List Text

structure Headers where
  length : Nat
  key : Slots
  value : Slots

-- `sizeof(char *)`
def pointerSize : Nat := 8

namespace Headers

def init : Headers := ⟨0, ⟨pointerSize, []⟩, ⟨pointerSize, []⟩⟩

/-- `ld_headers_put` for a key and a value that are not null, allocation succeeding. -/
def put (headers : Headers) (key value : Text) : Headers where
  length := headers.length + 1
  key := ⟨pointerSize * (headers.length + 1), headers.key.strings.take headers.length ++ [key]⟩
  value := ⟨pointerSize * headers.length + 1, headers.value.strings.take headers.length ++ [value]⟩

-- The pointers stay behind in the arrays.
def clean (headers : Headers) : Headers := { headers with length := 0 }

def line (key value : Text) : Text := key ++ ascii ": " ++ value

/-- `ld_headers2curl`, where `curl_slist_append` succeeds. -/
def toCurl (headers : Headers) (slist : List Text) : List Text :=
  slist ++ ((headers.key.strings.zip headers.value.strings).take headers.length).map
    fun entry => line entry.1 entry.2

end Headers

inductive Verb where | get | put | post | patch | delete
  deriving DecidableEq, Repr

structure Request where
  verb : Verb
  baseUrl : Option Text
  endpoint : Option Text
  body : Option Text
  bodySize : Nat
  headers : Headers
  userAgent : Option Text

def apiUrl : Text := ascii "https://discordapp.com/api"
def restApiVersion : Text := ascii "/v6"
def defaultUserAgent : Text := ascii "DiscordBot (https://github.com/dxing97/libdiscord 0.3)"

-- `sprintf` writes "(null)" for a null token.
def authorization (botToken : Option Text) : Text := ascii "Bot " ++ botToken.getD (ascii "(null)")

/-- `ld_rest_init_request`; `context` is the bot token of the context, where one is passed. -/
def initRequest (context : Option (Option Text)) : Request where
  verb := .get
  baseUrl := some (apiUrl ++ restApiVersion)
  endpoint := none
  body := none
  bodySize := 0
  headers := match context with
    | none => .init
    | some botToken => Headers.init.put (ascii "Authorization") (authorization botToken)
  userAgent := some defaultUserAgent

def getGateway (request : Request) : Request :=
  { request with
    baseUrl := some (apiUrl ++ restApiVersion)
    endpoint := some (ascii "/gateway")
    userAgent := some defaultUserAgent
    verb := .get }

def getGatewayBot (botToken : Option Text) (request : Request) : Request :=
  { request with
    baseUrl := some (apiUrl ++ restApiVersion)
    endpoint := some (ascii "/gateway/bot")
    userAgent := some defaultUserAgent
    verb := .get
    headers := request.headers.put (ascii "Authorization") (authorization botToken) }

structure Response where
  httpStatus : Int64
  body : Option (Block UInt8)
  bodyLength : Nat

def initResponse : Response := ⟨-1, none, 0⟩

/-- `ld_rest_writefunction`, allocation succeeding. The first chunk gets a block without room
for the terminator. -/
def writefunction (response : Response) (chunk : Text) : Response :=
  let newLen := response.bodyLength + chunk.length
  let tmp := match response.body with
    | none => Block.malloc newLen
    | some body => body.resize (newLen + 1)
  { response with
    body := some ((tmp.write response.bodyLength chunk).write newLen [0])
    bodyLength := newLen }

-- The body as the C string that json_loads is given.
def Response.text (response : Response) : Option Text :=
  response.body.map fun body => body.read (fun _ => 0) response.bodyLength

/-- The options set on an easy handle so far. They persist from one transfer to the next, and
setting `CURLOPT_POSTFIELDS` makes every later transfer a POST. -/
structure EasyHandle where
  url : Option Text
  httpHeader : List Text
  userAgent : Option Text
  post : Bool
  postFields : Option Text
  postFieldSize : Nat

-- `curl_easy_init`: a fresh handle does GET.
def EasyHandle.fresh : EasyHandle := ⟨none, [], none, false, none, 0⟩

structure WireRequest where
  method : Verb
  url : Option Text
  headers : List Text
  userAgent : Option Text
  body : Option Text
  deriving DecidableEq

def EasyHandle.wire (handle : EasyHandle) : WireRequest where
  method := if handle.post then .post else .get
  url := handle.url
  headers := handle.httpHeader
  userAgent := handle.userAgent
  body := if handle.post then some ((handle.postFields.getD []).take handle.postFieldSize) else none

/-- How the server and the network answer one request: whether `curl_easy_perform` succeeds,
the HTTP status, and the chunks of the body that arrive, also when the transfer then fails. -/
structure Exchange where
  performed : Bool
  status : Int64
  chunks : List Text

structure Sent where
  handle : EasyHandle
  response : Response
  wire : Option WireRequest
  ret : Status

-- `LDE_MISSING_PARAM`
def missingParam : Status := 5

def configure (handle : EasyHandle) (request : Request) (url : Text) : EasyHandle :=
  let handle := { handle with
    url := some url
    httpHeader := request.headers.toCurl []
    userAgent := request.userAgent }
  if request.verb = .post then
    { handle with post := true, postFields := request.body, postFieldSize := request.bodySize }
  else handle

/-- `ld_rest_send_request`; `none` is the crash on a null endpoint. -/
def sendRequest (handle : EasyHandle) (response : Response) (request : Request) (exchange : Exchange) :
    Option Sent :=
  match request.baseUrl, request.endpoint with
  | none, _ => some ⟨handle, response, none, missingParam⟩
  | some _, none => none
  | some baseUrl, some endpoint =>
    let handle := configure handle request (baseUrl ++ endpoint)
    let response := exchange.chunks.foldl writefunction initResponse
    if exchange.performed then
      some ⟨handle, { response with httpStatus := exchange.status }, some handle.wire, .ok⟩
    else some ⟨handle, response, some handle.wire, .curlErr⟩

-- The body an exchange delivers, a null pointer where no chunk arrives.
def Exchange.body (exchange : Exchange) : Option Text :=
  if exchange.chunks = [] then none else some exchange.chunks.flatten

structure Accumulated (response : Response) (body : Text) : Prop where
  length : response.bodyLength = body.length
  block : ∃ block, response.body = some block ∧ block.Holds body ∧ body.length ≤ block.requested

theorem Accumulated.writefunction {response : Response} {body : Text} (done : Accumulated response body)
    (chunk : Text) : Accumulated (writefunction response chunk) (body ++ chunk) := by
  obtain ⟨length, block, found, holds, inside⟩ := done
  have fits : body.length ≤ response.bodyLength + chunk.length + 1 := by omega
  have resized := holds.resize inside fits
  refine ⟨by simp [Rest.writefunction, length], ⟨_, rfl, ?_, ?_⟩⟩
  · simp only [found, length] at resized ⊢
    exact (resized.write_end chunk).write_behind (by simp) [0]
  · simp [found, length]

theorem accumulated_first (response : Response) (fresh : response.body = none)
    (empty : response.bodyLength = 0) (chunk : Text) :
    Accumulated (writefunction response chunk) chunk := by
  have written := (Block.holds_nil (Block.malloc chunk.length)).write_end chunk
  refine ⟨by simp [writefunction, empty], ⟨_, rfl, ?_, ?_⟩⟩
  · simp only [fresh, empty, Nat.zero_add]
    exact written.write_behind (Nat.le_refl _) [0]
  · simp [fresh, empty]

theorem accumulated_fold (chunks : List Text) (response : Response) (body : Text)
    (done : Accumulated response body) :
    Accumulated (chunks.foldl writefunction response) (body ++ chunks.flatten) := by
  induction chunks generalizing response body with
  | nil => simpa using done
  | cons chunk rest ih => simpa using ih _ _ (done.writefunction chunk)

theorem text_of_chunks (exchange : Exchange) (status : Int64) :
    ({ exchange.chunks.foldl writefunction initResponse with httpStatus := status } : Response).text =
      exchange.body := by
  cases shape : exchange.chunks with
  | nil => simp [Response.text, Exchange.body, shape, initResponse]
  | cons chunk rest =>
    obtain ⟨length, block, found, holds, _⟩ :=
      accumulated_fold rest _ chunk (accumulated_first initResponse rfl rfl chunk)
    simp only [Response.text, Exchange.body, shape, List.foldl_cons, found, length, Option.map_some,
      holds.read, List.flatten_cons]
    rfl

theorem writefunction_status (chunks : List Text) (response : Response) :
    (chunks.foldl writefunction response).httpStatus = response.httpStatus := by
  induction chunks generalizing response with
  | nil => rfl
  | cons chunk rest ih => exact ih (writefunction response chunk)

structure Answered (exchange : Exchange) (sent : Sent) : Prop where
  text : sent.response.text = exchange.body
  ret : sent.ret = if exchange.performed then .ok else .curlErr
  status : sent.response.httpStatus = if exchange.performed then exchange.status else -1

theorem sendRequest_answered (handle : EasyHandle) (response : Response) (request : Request)
    (exchange : Exchange) (baseUrl : request.baseUrl.isSome) (endpoint : request.endpoint.isSome) :
    ∃ sent, sendRequest handle response request exchange = some sent ∧ Answered exchange sent := by
  obtain ⟨base, baseUrl⟩ := Option.isSome_iff_exists.mp baseUrl
  obtain ⟨path, endpoint⟩ := Option.isSome_iff_exists.mp endpoint
  unfold sendRequest
  simp only [baseUrl, endpoint]
  cases performed : exchange.performed with
  | true => exact ⟨_, rfl, text_of_chunks exchange _, by simp [performed], by simp [performed]⟩
  | false =>
    refine ⟨_, rfl, text_of_chunks exchange (exchange.chunks.foldl writefunction initResponse).httpStatus,
      by simp [performed], ?_⟩
    simp [performed, writefunction_status, initResponse]

end Libdiscord.Rest
