import AgentPlan.Web.Address
import AgentPlan.Chat.Question
import AgentPlan.Chat.Completion
import AgentPlan.Text.Utf16

/-!
# Exchanges with a provider

A call goes out as one web request (`prepare`), and something comes back or not (`Arrival`). An
answer outside of 200 to 299 is an error whatever its body says, and an answer inside is the reply
that its body holds.
-/

namespace AgentPlan.Chat

open Model (Config Error Reply)
open Web (Address)

/-! ## Going out -/

/-- A web request on its way. Reference: the request in `OpenAIProvider.send_message`. -/
structure Posted where
  address : Address
  authorization : String
  body : String
deriving DecidableEq, Repr

/-- The media type of a call's body. Reference: the header in `OpenAIProvider.send_message`. -/
def bodyType : String := "application/json"

/-- The error of a call for which no key is configured. Reference: `missing_api_key_error`. -/
def missingKey (provider : String) : Error :=
  .authentication ("API key not configured for " ++ provider)

/-- The error of a call that cannot be put together. Reference: `network_error`. -/
def notPrepared : Error :=
  .network "builder error"

/-- The text can stand in the head of a web request: it has no control characters but tabs. -/
def fitsHeader (s : String) : Bool :=
  s.toList.all fun c => c = '\t' || (decide (0x20 ≤ c.toNat) && c.toNat != 0x7f)

/-- The error of a call to an address that no web request can go to. Reference: `network_error`. -/
def unreachable (a : Address) : Error :=
  .network ("builder error for url (" ++ a.text ++ ")")

/-- A character that no host of a web request has, though hosts of addresses may have it. -/
def isOddInHost (c : Char) : Bool :=
  ['"', '\x60', '\x7b', '\x7d'].contains c

/-- A web request can go to the address: it is one of the web's, and neither odd nor too long. -/
def isReachable (a : Address) : Bool :=
  (a.scheme == "http" || a.scheme == "https") &&
    a.host?.all (fun h => !h.text.toList.any isOddInHost) && a.text.utf8ByteSize < 65535

/-- The address that a text spells, which has a host. The name and the password of a user in it are
not used. -/
def findAddress (s : String) : Except Error Address :=
  match Address.ofText? s with
  | none => .error notPrepared
  | some a => if a.host?.isNone then .error (unreachable a) else .ok a.withoutUser

/-- The web request of a call: to the address of the configuration or else of the provider, with the
key in its head. Reference: `OpenAIProvider.send_message`, with `OpenAIProvider.base_url`, up to the
sending. -/
def prepare (c : Config) (q : Question) : Except Error Posted :=
  match c.apiKey with
  | none => .error (missingKey c.provider.name)
  | some key => do
    let address ← findAddress (c.baseUrl.getD c.provider.address)
    if !fitsHeader key then .error notPrepared
    else if !isReachable address then .error (unreachable address)
    else return { address, authorization := "Bearer " ++ key, body := (q.body c).compact }

/-! ## Coming back -/

/-- What comes back to a web request: an answer; an answer whose body breaks off; the end of the
connection before an answer; nothing in time; or nothing because no one is there. -/
inductive Arrival where
  | answer (status : Nat) (body : List UInt8)
  | cutOff (status : Nat)
  | closed
  | silence
  | nobody

/-- A status that an answer can have: one of three digits. Those from 100 to 199 only announce an
answer, but for 101, after which there is none. -/
def isFinal (status : Nat) : Bool :=
  status == 101 || (decide (200 ≤ status) && decide (status ≤ 999))

/-- A status of answers that have no body, whatever follows their heads. -/
def isBodiless (status : Nat) : Bool :=
  status == 101 || status == 204 || status == 304

/-- What an arrival counts as: one without a final status is the end of the connection, and what has
no body cannot break off. -/
def Arrival.settled : Arrival → Arrival
  | .answer status body =>
    if !isFinal status then .closed
    else if isBodiless status then .answer status []
    else .answer status body
  | .cutOff status =>
    if !isFinal status then .closed
    else if isBodiless status then .answer status []
    else .cutOff status
  | a => a

/-- The error of an answer that does not report success. Reference: `parse_http_error`. -/
def statusError (status : Nat) (body provider : String) : Error :=
  if status = 401 then .authentication (provider ++ ": Invalid API key")
  else if status = 403 then .authentication (provider ++ ": Access denied")
  else if status = 404 then .modelNotFound body
  else if status = 429 then .rateLimited body
  else if status = 400 then .invalidRequest body
  else if 500 ≤ status ∧ status ≤ 599 then .server body (some (UInt16.ofNat status))
  else .other ("HTTP " ++ toString status ++ ": " ++ body)

/-- An answer reports success. Reference: the condition on `status` in
`OpenAIProvider.send_message`. -/
def isSuccess (status : Nat) : Bool :=
  decide (200 ≤ status) && decide (status < 300)

/-- The reply in a body, or the error that the body is no completion. Reference: the end of
`OpenAIProvider.send_message`. -/
def replyIn (body : String) : Except Error Reply :=
  match Completion.reader.runText body with
  | .ok c => .ok c.reply
  | .error m => .error (.unreadable ("Failed to parse response: " ++ m))

/-- The result of a call whose web request went out. Reference: `OpenAIProvider.send_message` after
the sending, and `network_error`. -/
def received (c : Config) (posted : Posted) : Arrival → Except Error Reply
  | .answer status body =>
    if isSuccess status then replyIn (Text.decodeMarked body)
    else .error (statusError status (Text.decodeMarked body) c.provider.name)
  | .cutOff _ => .error (.network "error decoding response body")
  | .silence => .error (.network ("request timed out after " ++ toString c.timeout.toNat ++ "s"))
  | .closed | .nobody =>
    .error (.network ("error sending request for url (" ++ posted.address.text ++ ")"))

/-- What is noted when something comes back: an answer that reports success, before its body is
read. Reference: the log line of `OpenAIProvider.send_message`. -/
def arrivalEvents (c : Config) : Arrival → List Event
  | .answer status body =>
    if isSuccess status then
      [.completionReceived c.provider.name status (Text.decodeMarked body).utf8ByteSize]
    else []
  | _ => []

/-- A finished call: the web request that went out, if one did, the result, and what was noted. -/
structure Exchange where
  posted : Option Posted
  result : Except Error Reply
  events : List Event

/-- Makes a call, given what comes back to it. Nothing is sent twice. Reference:
`OpenAIProvider.send_message`. -/
def exchange (c : Config) (q : Question) (arrival : Arrival) : Exchange :=
  match prepare c q with
  | .error e => ⟨none, .error e, []⟩
  | .ok posted =>
    let arrival := arrival.settled
    ⟨some posted, received c posted arrival, arrivalEvents c arrival⟩

/-- A call whose web request went out comes to what counts of the arrival. -/
theorem exchange_of_posted {c : Config} {q : Question} {arrival : Arrival}
    (hposted : (exchange c q arrival).posted.isSome) :
    ∃ posted, exchange c q arrival =
      ⟨some posted, received c posted arrival.settled, arrivalEvents c arrival.settled⟩ := by
  rw [exchange] at hposted ⊢
  cases hprepare : prepare c q with
  | error e =>
    rw [hprepare] at hposted
    cases hposted
  | ok posted => exact ⟨posted, rfl⟩

/-- What a planner's call comes to, given what comes back to it after some milliseconds. This links
the exchange to the outcomes that `Model.receive` judges. Reference: the call in
`ModelClient.complete`. -/
def outcome (c : Config) (call : Model.Call) (arrival : Arrival) (delay : Nat) : Model.Outcome :=
  ⟨(exchange c (.ofCall call) arrival).result, delay⟩

end AgentPlan.Chat
