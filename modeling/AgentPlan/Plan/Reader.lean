import AgentPlan.Plan.Basic
import AgentPlan.Json.Reader

/-!
# Plans from JSON texts

How a plan is read straight from the text of a document. Nothing is checked beyond the types of the
fields.
-/

namespace AgentPlan

open Json (Reader Field Fields)

/-- Reads a tool call. Reference: the decoder of `ToolStep`. -/
def Step.reader : Reader Step := fun room t =>
  let fields := .cons (.required "id" .text) <| .cons (.required "tool" .text) <|
    .cons (.withDefault "args" .members []) <|
    .cons (.maybe "cache_ttl_seconds" .int64) .nil
  (Reader.record "ToolStep" fields room t).map fun (id, tool, args, cacheTtl, _) =>
    { id, tool, args, cacheTtl }

/-- Reads a kind of node, by its wire name. Reference: the decoder of `NodeKind`. -/
def NodeKind.reader : Reader NodeKind :=
  .choice [("layout", .unit .layout), ("component", .unit .component)]

/-- Reads a node whose children are read with `child`. The reader of nodes is this, applied to
itself. Reference: the decoder of `ComponentNode`. -/
def Node.readWith (child : Json.Tree → Except Json.Fault Node) : Reader Node := fun room t =>
  let fields := .cons (.required "type" NodeKind.reader) <| .cons (.required "name" .text) <|
    .cons (.withDefault "props" .members []) <|
    .cons (.withDefault "children" (.elements child) []) .nil
  (Reader.record "ComponentNode" fields room t).map fun (kind, name, props, children, _) =>
    .mk kind name props children

/-- Reads a node. A node and the list of its children take a level each, so the children of a node
have two levels less; with less than two nothing can be inside the list. Reference: the decoder of
`ComponentNode`. -/
def Node.reader : Reader Node
  | 0 => Node.readWith (fun t => .error (Json.Cause.tooDeep.at t.token.peeked)) 0
  | 1 => Node.readWith (fun t => .error (Json.Cause.tooDeep.at t.token.peeked)) 1
  | room + 2 => Node.readWith (Node.reader room) (room + 2)

/-- Reads a binding. Reference: the decoder of `Binding`. -/
def Binding.reader : Reader Binding := fun room t =>
  let fields := .cons (.required "componentPath" .text) <| .cons (.required "prop" .text) <|
    .cons (.required "from" .text) .nil
  (Reader.record "Binding" fields room t).map fun (componentPath, prop, source, _) =>
    { componentPath, prop, source }

/-- Reads a refresh action. Reference: the decoder of `RefreshAction`. -/
def Refresh.reader : Reader Refresh := fun room t =>
  let fields := .cons (.required "tool" .text) <| .cons (.withDefault "args" .members []) <|
    .cons (.maybe "patchPath" .text) .nil
  (Reader.record "RefreshAction" fields room t).map fun (tool, args, patchPath, _) =>
    { tool, args, patchPath }

/-- Reads a subscription. Reference: the decoder of `Subscription`. -/
def Subscription.reader : Reader Subscription := fun room t =>
  let fields := .cons (.required "event" .text) <|
    .cons (.required "refresh" (.list Refresh.reader)) .nil
  (Reader.record "Subscription" fields room t).map fun (event, refresh, _) => { event, refresh }

/-- Reads a view. Reference: the decoder of `UiIntent`. -/
def View.reader : Reader View := fun room t =>
  let fields := .cons (.required "component_tree" Node.reader) <|
    .cons (.maybe "bindings" (.list Binding.reader)) <|
    .cons (.maybe "subscriptions" (.list Subscription.reader)) .nil
  (Reader.record "UiIntent" fields room t).map fun (tree, bindings, subscriptions, _) =>
    { tree, bindings, subscriptions }

/-- Reads a plan, as one from a text that somebody keeps; the planner itself reads drafts with
`Plan.ofJson?`. Reference: the decoder of `ToolPlan`. -/
def Plan.reader : Reader Plan := fun room t =>
  let fields := .cons (.required "schema" .text) <| .cons (.required "rationale" .text) <|
    .cons (.withDefault "steps" (.list Step.reader) []) <|
    .cons (.maybe "uiIntent" View.reader) <|
    .cons (.maybe "safety" .members) .nil
  (Reader.record "ToolPlan" fields room t).map fun (schema, rationale, steps, view, safety, _) =>
    { schema, rationale, steps, view, safety }

end AgentPlan
