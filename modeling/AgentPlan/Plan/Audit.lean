import AgentPlan.Plan.Basic
import AgentPlan.Request.Basic

/-!
# Audit of a plan

What is odd about a valid plan for a request: tools and components that no catalog lists, a view
without steps, more steps than the limit. Findings are advice; they change nothing. A catalog that
lists no name is not consulted.
-/

namespace AgentPlan

/-- Something odd about a plan. A finding is advice for whoever reads the log, and changes nothing.
Reference: the texts in `audit_plan`. -/
inductive Finding where
  | unknownTool (step tool : String)
  | unknownComponent (name : String)
  | viewWithoutSteps
  | tooManySteps (steps : Nat) (limit : UInt32)
deriving DecidableEq, Repr

/-- The text of a finding, as it stands in the log. Reference: `audit_plan`. -/
def Finding.text : Finding → String
  | .unknownTool step tool =>
    "step '" ++ step ++ "' uses tool '" ++ tool ++ "' which is not in the tool catalog"
  | .unknownComponent name => "component '" ++ name ++ "' is not in the UI component catalog"
  | .viewWithoutSteps => "uiIntent is set but the plan has no steps"
  | .tooManySteps steps limit =>
    "plan has " ++ toString steps ++ " steps, above maxSteps " ++ toString limit.toNat

namespace Plan

/-- The steps whose tool is not in the catalog, in the order of the plan. A catalog without names is
not consulted. Reference: the first loop in `audit_plan`. -/
def toolFindings (p : Plan) (names : List String) : List Finding :=
  if names.isEmpty then []
  else (p.steps.filter fun s => s.tool ∉ names).map fun s => .unknownTool s.id s.tool

/-- The components of a view that are not in the catalog, once for each node, depth first.
Reference: the second loop in `audit_plan`. -/
def componentFindings (v : View) (names : List String) : List Finding :=
  if names.isEmpty then []
  else (v.componentNames.filter (· ∉ names)).map .unknownComponent

/-- What is odd about the view of a plan: components that are not in the catalog, and that there is
nothing to show. Reference: the part of `audit_plan` on `ui_intent`. -/
def viewFindings (p : Plan) (names : List String) : List Finding :=
  match p.view with
  | none => []
  | some v =>
    componentFindings v names ++ if p.steps.isEmpty then [.viewWithoutSteps] else []

/-- What is odd about a plan for a request: findings on tools, on the view, and on the number of
steps, in this order. The limit is the one of the request at hand, which the planner has clamped.
Reference: `audit_plan`. -/
def audit (p : Plan) (r : Request) : List Finding :=
  p.toolFindings r.toolNames ++ p.viewFindings r.componentNames ++
    if r.maxSteps.toNat < p.steps.length then [.tooManySteps p.steps.length r.maxSteps] else []

end Plan

end AgentPlan
