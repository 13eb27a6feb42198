import AgentPlan.Plan.Basic
import AgentPlan.Json.Printer

/-!
# Plans as JSON

The JSON value of a plan, with the members of each record in the order of its fields.
-/

namespace AgentPlan

open Json (Members)

/-- The value of an option: null where there is nothing. -/
def Json.orNull (encode : α → Json) : Option α → Json
  | none => .null
  | some a => encode a

/-- The value of a tool call. A time to live that is absent is null. Reference: the encoder of
`ToolStep`. -/
def Step.toJson (s : Step) : Json :=
  .obj [("id", .str s.id), ("tool", .str s.tool), ("args", .obj s.args),
    ("cache_ttl_seconds", Json.orNull (fun t => .num (.int t.toInt)) s.cacheTtl)]

/-- The wire name of a kind of node. Reference: the encoder of `NodeKind`. -/
def NodeKind.name : NodeKind → String
  | .layout => "layout"
  | .component => "component"

mutual

/-- The value of a node, with all four members in any case. Reference: the encoder of
`ComponentNode`. -/
def Node.toJson : Node → Json
  | .mk kind name props children =>
    .obj [("type", .str kind.name), ("name", .str name), ("props", .obj props),
      ("children", .arr (Node.toJsonList children))]

/-- The values of several nodes, in their order. Reference: the encoder of `children`. -/
def Node.toJsonList : List Node → List Json
  | [] => []
  | node :: rest => node.toJson :: Node.toJsonList rest

end

/-- The value of a binding. Reference: the encoder of `Binding`. -/
def Binding.toJson (b : Binding) : Json :=
  .obj [("componentPath", .str b.componentPath), ("prop", .str b.prop), ("from", .str b.source)]

/-- The value of a refresh action. Reference: the encoder of `RefreshAction`. -/
def Refresh.toJson (r : Refresh) : Json :=
  .obj [("tool", .str r.tool), ("args", .obj r.args), ("patchPath", Json.orNull .str r.patchPath)]

/-- The value of a subscription. Reference: the encoder of `Subscription`. -/
def Subscription.toJson (s : Subscription) : Json :=
  .obj [("event", .str s.event), ("refresh", .arr (s.refresh.map Refresh.toJson))]

/-- The value of a view, with null for lists that are absent. Reference: the encoder of
`UiIntent`. -/
def View.toJson (v : View) : Json :=
  .obj [("component_tree", v.tree.toJson),
    ("bindings", Json.orNull (fun bs => .arr (bs.map Binding.toJson)) v.bindings),
    ("subscriptions", Json.orNull (fun ss => .arr (ss.map Subscription.toJson)) v.subscriptions)]

/-- The value of a plan, with all five members in any case. Reference: the encoder of `ToolPlan`. -/
def Plan.toJson (p : Plan) : Json :=
  .obj [("schema", .str p.schema), ("rationale", .str p.rationale),
    ("steps", .arr (p.steps.map Step.toJson)), ("uiIntent", Json.orNull View.toJson p.view),
    ("safety", Json.orNull .obj p.safety)]

/-- The JSON text of a plan, which is the body that answers a plan request. Reference: the answer of
`plan`. -/
def Plan.text (p : Plan) : String :=
  p.toJson.compact

end AgentPlan
