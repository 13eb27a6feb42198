import AgentPlan.Request.Basic
import AgentPlan.Plan.Encode
import AgentPlan.Json.Reader

/-!
# Requests and JSON

The JSON value of a request, with the members of each record in the order of its fields, and how a
request is read from the bytes of a document. `Request.parse` also checks the rules for requests;
this is what stands between the service and its callers.
-/

namespace AgentPlan.Request

open Json (Reader)

/-! ## Writing -/

/-- The value of the limits of a request. It is part of the prompt, too. Reference: the encoder of
`PlannerConstraints`. -/
def limits (r : Request) : Json :=
  .obj [("maxSteps", .num (.int r.maxSteps.toNat))]

/-- The value of a request, with all of its members. Reference: the encoder of `PlannerInput`. -/
def toJson (r : Request) : Json :=
  .obj [("schema", .str r.schema), ("userPrompt", .str r.prompt),
    ("conversationContext", .obj r.context), ("toolCatalog", .obj r.tools),
    ("uiComponentCatalog", .obj r.components), ("constraints", r.limits),
    ("meta", .obj [("conversationId", Json.orNull .str r.caller.conversationId),
      ("userId", Json.orNull .str r.caller.userId)])]

/-- The JSON text of a request. Reference: the encoder of `PlannerInput`. -/
def text (r : Request) : String :=
  r.toJson.compact

/-! ## Reading -/

/-- Reads the limits of a request. Reference: the decoder of `PlannerConstraints`. -/
def limitsReader : Reader UInt32 := fun room t =>
  let fields := .cons (.withDefault "maxSteps" .uint32 defaultMaxSteps) .nil
  (Reader.record "PlannerConstraints" fields room t).map fun (maxSteps, _) => maxSteps

/-- Reads who asks. Reference: the decoder of `PlannerMeta`. -/
def callerReader : Reader Caller := fun room t =>
  let fields := .cons (.maybe "conversationId" .text) <| .cons (.maybe "userId" .text) .nil
  (Reader.record "PlannerMeta" fields room t).map fun (conversationId, userId, _) =>
    { conversationId, userId }

/-- Reads a request. All of its members but the prompt have defaults; none of them may be null.
Reference: the decoder of `PlannerInput`. -/
def reader : Reader Request := fun room t =>
  let fields := .cons (.withDefault "schema" .text schemaTag) <|
    .cons (.required "userPrompt" .text) <|
    .cons (.withDefault "conversationContext" .members []) <|
    .cons (.withDefault "toolCatalog" .members []) <|
    .cons (.withDefault "uiComponentCatalog" .members []) <|
    .cons (.withDefault "constraints" limitsReader defaultMaxSteps) <|
    .cons (.withDefault "meta" callerReader ⟨none, none⟩) .nil
  (Reader.record "PlannerInput" fields room t).map
    fun (schema, prompt, context, tools, components, maxSteps, caller, _) =>
      { schema, prompt, context, tools, components, maxSteps, caller }

/-- The request that a body holds, if it keeps the rules for requests. Reference:
`parse_planner_input`. -/
def parse (body : List UInt8) : Except Failure Request :=
  match reader.run body with
  | .error message => .error (.inputValidation ("invalid request body: " ++ message))
  | .ok r =>
    match r.fault? with
    | some f => .error (.inputValidation f.message)
    | none => .ok r

end AgentPlan.Request
