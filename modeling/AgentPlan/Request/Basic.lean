import AgentPlan.Json.Value
import AgentPlan.Failure

/-!
# Planning requests

What a caller sends: a prompt, what was said before, the catalogs of tools and of view components,
and a limit on the number of steps. `Request.fault?` says which of the two rules for requests is
broken: the schema tag, or the range of the limit.
-/

namespace AgentPlan

open Json (Members)

/-- Who asks, for the log only: a plan does not depend on it. Reference: `PlannerMeta`. -/
structure Caller where
  conversationId : Option String
  userId : Option String
deriving DecidableEq

/-- A planning request. The limit on the number of steps is a record of its own on the wire.
Reference: `PlannerInput`, with `PlannerConstraints` and `PlannerMeta`. -/
structure Request where
  schema : String
  prompt : String
  context : Members
  tools : Members
  components : Members
  maxSteps : UInt32
  caller : Caller
deriving DecidableEq

/-- The least limit on the number of steps. Reference: `MIN_MAX_STEPS`. -/
def leastMaxSteps : UInt32 := 1

/-- The greatest limit on the number of steps. Reference: `MAX_MAX_STEPS`. -/
def greatestMaxSteps : UInt32 := 32

/-- The limit on the number of steps where none is given. Reference: `DEFAULT_MAX_STEPS`. -/
def defaultMaxSteps : UInt32 := 8

namespace Request

/-- The schema tag of every valid request. Reference: `PLANNER_INPUT_SCHEMA`. -/
def schemaTag : String := "planner_input.v1"

/-- A request with a prompt and nothing else. It breaks no rule. Reference: `PlannerInput.new`. -/
def ofPrompt (prompt : String) : Request :=
  { schema := schemaTag, prompt, context := [], tools := [], components := []
    maxSteps := defaultMaxSteps, caller := ⟨none, none⟩ }

/-- A rule that a request breaks, with the value that breaks it. Reference: the errors of
`PlannerInput.validate`. -/
inductive Fault where
  | wrongSchema (schema : String)
  | stepsOutOfRange (maxSteps : UInt32)
deriving DecidableEq, Repr

/-- The message of a broken rule. Reference: `PlannerInput.validate`. -/
def Fault.message : Fault → String
  | .wrongSchema schema =>
    "schema: expected \"" ++ schemaTag ++ "\", got \"" ++ schema ++ "\""
  | .stepsOutOfRange n =>
    "constraints.maxSteps: must be between " ++ toString leastMaxSteps.toNat ++ " and " ++
      toString greatestMaxSteps.toNat ++ ", got " ++ toString n.toNat

/-- The message of a broken rule where it is not clear that a request is meant. The web service does
not use it. Reference: the error text of `CoreError`. -/
def Fault.longMessage (f : Fault) : String :=
  "Validation error: " ++ f.message

/-- The first rule that a request breaks. Reference: `PlannerInput.validate`. -/
def fault? (r : Request) : Option Fault :=
  if r.schema ≠ schemaTag then some (.wrongSchema r.schema)
  else if r.maxSteps < leastMaxSteps ∨ greatestMaxSteps < r.maxSteps then
    some (.stepsOutOfRange r.maxSteps)
  else none

/-- The limit on the number of steps is at most `ceiling`; nothing else changes. Reference:
`PlannerConstraints.clamped`. -/
def clamp (ceiling : UInt32) (r : Request) : Request :=
  { r with maxSteps := min r.maxSteps ceiling }

/-- The names of the entries that a catalog lists under a key. An entry without a name that is a
string has none, and a catalog without a list has none at all. Reference: `catalog_names`. -/
def catalogNames (key : String) (catalog : Members) : List String :=
  match catalog.get? key with
  | some (.arr entries) => entries.filterMap fun e => (e.get? "name").bind Json.text?
  | _ => []

/-- The names of the tools in the catalog. Reference: `PlannerInput.tool_names`. -/
def toolNames (r : Request) : List String :=
  catalogNames "tools" r.tools

/-- The names of the view components in the catalog. Reference: `PlannerInput.component_names`. -/
def componentNames (r : Request) : List String :=
  catalogNames "components" r.components

end Request

end AgentPlan
