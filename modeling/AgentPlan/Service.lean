import AgentPlan.Planner.Run
import AgentPlan.Request.Reader
import AgentPlan.Settings.Basic

/-!
# The web service

What the service answers to the requests of the web: `POST /v1/plan` and `POST /plan` make a plan,
`GET /health` tells who answers. Whatever goes wrong with a plan request is answered with status 400
and an object that has the code and the message of the failure. Requests other than accepted plan
requests leave the session as it is.
-/

namespace AgentPlan

namespace Service

/-- A request of the web: what the service looks at of it. -/
structure Incoming where
  method : String
  target : String
  body : List UInt8
deriving DecidableEq, Repr

/-- An answer to a request of the web: its status, the two of its headers that depend on the
request, and its body. -/
structure Answer where
  status : Nat
  contentType : Option String
  allow : Option String
  body : String
deriving DecidableEq, Repr

namespace Answer

/-- An answer that holds a JSON text. -/
def json (status : Nat) (text : String) : Answer :=
  ⟨status, some "application/json", none, text⟩

/-- There is nothing under the path. Reference: the paths that `build_router` does not have. -/
def notFound : Answer :=
  ⟨404, none, none, ""⟩

/-- The path exists, but only for the methods of `allow`. Reference: the methods in
`build_router`. -/
def wrongMethod (allow : String) : Answer :=
  ⟨405, none, some allow, ""⟩

/-- The answer without its body, as `HEAD` is answered. -/
def headOnly (a : Answer) : Answer :=
  { a with body := "" }

end Answer

/-! ## Failures -/

/-- The message of a failure in an answer, with the code in front. Reference: the conversion of
`AppError` to `ApiError`. -/
def refusal (f : Failure) : String :=
  "Planner failed: " ++ f.code ++ ": " ++ f.message

/-- The value that answers a failed plan request. Reference: `ApiErrorResponse`. -/
def envelope (f : Failure) : Json :=
  .obj [("ok", .bool false), ("error", .obj [("code", .str f.code), ("message", .str (refusal f))])]

/-- The answer to a failed plan request. Its status is 400 for every failure. Reference: the
conversion of `AppError` to `ApiError`. -/
def failureAnswer (f : Failure) : Answer :=
  .json 400 (envelope f).compact

/-- What is noted when a plan request fails. Reference: the log line in the conversion of `AppError`
to `ApiError`. -/
def failureEvent (f : Failure) : Event :=
  .refused f.code (refusal f)

/-! ## Routes -/

/-- What a path stands for. Reference: the handlers `plan` and `health`. -/
inductive Route where
  | plan
  | health
deriving DecidableEq, Repr

/-- The path at the start of some characters, before a question mark or a number sign. -/
def pathBefore (cs : List Char) : String :=
  String.ofList (cs.takeWhile fun c => c ≠ '?' ∧ c ≠ '#')

/-- The path of a target: the target itself, or what follows the host in a full address, where an
empty path is the root. Other targets have none. -/
def path? (target : String) : Option String :=
  match target.toList with
  | '/' :: rest => some (pathBefore ('/' :: rest))
  | cs =>
    match cs.dropWhile fun c => c.isAlphanum || c == '+' || c == '-' || c == '.' with
    | ':' :: '/' :: '/' :: rest =>
      let path := pathBefore (rest.dropWhile fun c => c ≠ '/' ∧ c ≠ '?' ∧ c ≠ '#')
      some (if path.isEmpty then "/" else path)
    | _ => none

/-- The route of a target. Two paths make plans. Reference: `build_router`. -/
def route? (target : String) : Option Route := do
  let path ← path? target
  if path = "/v1/plan" ∨ path = "/plan" then some .plan
  else if path = "/health" then some .health
  else none

end Service

/-! ## Answers -/

/-- A web service: a planner, and the names of the provider and the model that it asks. Reference:
`AppState`. -/
structure Service (ρ : Type) where
  planner : Planner ρ
  provider : String
  model : String

namespace Service

/-- The name of the service. Reference: `SERVICE_NAME`. -/
def name : String := "toolplan-service"

/-- An answer with the session after it and what happened. -/
structure Served (ρ : Type) where
  answer : Answer
  session : Session ρ
  transcript : List Happening

/-- Tells who answers. Reference: `health`, which gives a `HealthResponse`. -/
def health (s : Service ρ) : Answer :=
  .json 200 <| Json.compact <| .obj [("status", .str "ok"), ("service", .str name),
    ("provider", .str s.provider), ("model", .str s.model)]

/-- Answers a plan request that is accepted: notes it, runs the planner, and turns a failure into an
envelope. Reference: `plan`, after the body is read. -/
def answerRequest (s : Service ρ) (request : Request) (session : Session ρ) : Served ρ :=
  let requested := Event.requested (request.caller.conversationId.getD "") request.maxSteps
  let run := s.planner.run request session
  let happened := .logged requested :: run.transcript
  match run.result with
  | .ok plan => ⟨.json 200 plan.text, run.session, happened⟩
  | .error f => ⟨failureAnswer f, run.session, happened ++ [.logged (failureEvent f)]⟩

/-- Answers the body of a plan request. A body that is refused leaves the session as it is.
Reference: `plan`. -/
def answerBody (s : Service ρ) (body : List UInt8) (session : Session ρ) : Served ρ :=
  match Request.parse body with
  | .ok request => s.answerRequest request session
  | .error f => ⟨failureAnswer f, session, [.logged (failureEvent f)]⟩

/-- Answers a request of the web, by its path and then by its method. Reference: `build_router`. -/
def serve (s : Service ρ) (incoming : Incoming) (session : Session ρ) : Served ρ :=
  match route? incoming.target with
  | none => ⟨.notFound, session, []⟩
  | some .plan =>
    if incoming.method = "POST" then s.answerBody incoming.body session
    else ⟨.wrongMethod "POST", session, []⟩
  | some .health =>
    if incoming.method = "GET" then ⟨s.health, session, []⟩
    else if incoming.method = "HEAD" then ⟨s.health.headOnly, session, []⟩
    else ⟨.wrongMethod "GET,HEAD", session, []⟩

/-- Answers requests of the web in order, each with the session that the one before leaves. -/
def serveAll (s : Service ρ) : List Incoming → Session ρ → List (Served ρ)
  | [], _ => []
  | incoming :: rest, session =>
    let served := s.serve incoming session
    served :: serveAll s rest served.session

end Service

/-! ## The service of some settings

The model repairs its own documents, and a repair may take as long as a first call. -/

namespace Settings

/-- The number of milliseconds that a call may take. Reference: the timeout in
`PlanOrchestrator.from_settings`. -/
def milliseconds (s : Settings) : Nat :=
  s.timeout.toNat * 1000

/-- The planner of some settings. Reference: `PlanOrchestrator.from_settings`. -/
def planner (s : Settings) : Planner Unit :=
  { timeout := s.milliseconds
    ceiling := s.maxSteps
    budget := s.repairAttempts
    repairer := .model s.milliseconds }

/-- The web service of some settings. Reference: `AppState`, `PlanOrchestrator.provider_name` and
`PlanOrchestrator.model`. -/
def service (s : Settings) : Service Unit :=
  { planner := s.planner
    provider := s.provider.name
    model := s.model }

end Settings

end AgentPlan
