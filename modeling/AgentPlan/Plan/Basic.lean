import AgentPlan.Json.Value

/-!
# Tool plans

A plan is what the service hands out: the tool calls to make, in order, and a description of the
view that shows their results. The view is a tree of layouts and components, with bindings from tool
results to component properties and with subscriptions that refresh it.
-/

namespace AgentPlan

/-- One tool call. Its identifier is unique in the plan; the time to live is in seconds, and may be
negative. Reference: `ToolStep`. -/
structure Step where
  id : String
  tool : String
  args : Json.Members
  cacheTtl : Option Int64
deriving DecidableEq

/-- What a node of a view is: an arrangement of nodes, or a component of the catalog. Reference:
`NodeKind`. -/
inductive NodeKind where
  | layout
  | component
deriving DecidableEq, Repr

/-- A node of a view with the nodes below it. Reference: `ComponentNode`. -/
inductive Node where
  | mk (kind : NodeKind) (name : String) (props : Json.Members) (children : List Node)

/-- A tool result that a component shows: the component's path, its property, and the key of the
result. Reference: `Binding`. -/
structure Binding where
  componentPath : String
  prop : String
  source : String
deriving DecidableEq

/-- A tool call that an event triggers, and the place of its result. Reference: `RefreshAction`. -/
structure Refresh where
  tool : String
  args : Json.Members
  patchPath : Option String
deriving DecidableEq

/-- An event and the tool calls that it triggers. Reference: `Subscription`. -/
structure Subscription where
  event : String
  refresh : List Refresh
deriving DecidableEq

/-- A view. Lists that are absent and lists that are null are the same here. Reference:
`UiIntent`. -/
structure View where
  tree : Node
  bindings : Option (List Binding)
  subscriptions : Option (List Subscription)

/-- A tool plan. A view or a safety note that is absent and one that is null are the same here.
Reference: `ToolPlan`. -/
structure Plan where
  schema : String
  rationale : String
  steps : List Step
  view : Option View
  safety : Option Json.Members

/-- The schema tag of every valid plan. Reference: `TOOL_PLAN_SCHEMA`. -/
def Plan.schemaTag : String := "tool_plan.v1"

/-- The plan asks for an answer without tools: its safety note says so with a truth value.
Reference: `ToolPlan.needs_assistant_answer`. -/
def Plan.needsAssistantAnswer (p : Plan) : Bool :=
  ((p.safety.bind (Json.Members.get? "needAssistantAnswer")).bind Json.bool?).getD false

namespace Node

mutual

/-- The names of the components of a tree, a node before its children. Layouts are passed through.
Reference: `ComponentNode.collect_component_names`. -/
def componentNames : Node → List String
  | .mk kind name _ children =>
    (if kind = .component then [name] else []) ++ componentNamesOf children

/-- The names of the components of several trees, tree by tree. Reference: the loop in
`ComponentNode.collect_component_names`. -/
def componentNamesOf : List Node → List String
  | [] => []
  | node :: rest => componentNames node ++ componentNamesOf rest

end

end Node

/-- The names of the components of a view, with repetitions. Reference:
`UiIntent.component_names`. -/
def View.componentNames (v : View) : List String :=
  v.tree.componentNames

end AgentPlan
