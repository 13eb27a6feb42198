import AgentPlan.Plan.Basic
import AgentPlan.Json.Value

/-!
# Plans from JSON

The plan that a JSON value is, if it is one. Absent fields get their defaults, and unknown members
are left out. Nothing is checked beyond the types of the fields.
-/

namespace AgentPlan

open Json (Members)

/-- An integer as one of 64 bits, if it is in their range. -/
def Json.signed? (i : Int) : Option Int64 :=
  if Int64.minValue.toInt ≤ i ∧ i ≤ Int64.maxValue.toInt then some (Int64.ofInt i) else none

/-- The integer of 64 bits that a value is. No float is one, not even with an integral value, which
is why a draft is rewritten before it is read (`withIntegerTtls`). Reference: the type of
`cache_ttl_seconds`. -/
def Json.int64? : Json → Option Int64
  | .num (.int i) => Json.signed? i
  | _ => none

/-- The tool call that a value is. The identifier may be blank or used twice: this is for the checks
of a draft to say. Reference: the decoder of `ToolStep`. -/
def Step.ofJson? (v : Json) : Option Step := do
  let m ← v.members?
  return {
    id := ← m.text? "id"
    tool := ← m.text? "tool"
    args := ← m.objectOrEmpty? "args"
    cacheTtl := ← m.nullable? "cache_ttl_seconds" Json.int64? }

/-- The kind of node with a wire name. Reference: the decoder of `NodeKind`. -/
def NodeKind.ofName? (name : String) : Option NodeKind :=
  if name = "layout" then some .layout
  else if name = "component" then some .component
  else none

mutual

/-- The node that a value is, with all that is below it. Reference: the decoder of
`ComponentNode`. -/
def Node.ofJson? : Json → Option Node
  | .obj m => do
    let kind ← (Members.text? "type" m).bind NodeKind.ofName?
    let name ← Members.text? "name" m
    let props ← Members.objectOrEmpty? "props" m
    let children ← Node.childrenOf? m
    return .mk kind name props children
  | _ => none

/-- The nodes under the key `children`, none if it is absent. As in `childrenDefects`, the object is
searched here for the recursion. Reference: the default of `children`. -/
def Node.childrenOf? : List (String × Json) → Option (List Node)
  | [] => some []
  | (k, v) :: rest =>
    if k = "children" then
      match v with
      | .arr items => Node.ofJsonList? items
      | _ => none
    else Node.childrenOf? rest

/-- The nodes that several values are, if all of them are nodes. Reference: the decoder of
`children`. -/
def Node.ofJsonList? : List Json → Option (List Node)
  | [] => some []
  | v :: rest => do
    let node ← Node.ofJson? v
    let nodes ← Node.ofJsonList? rest
    return node :: nodes

end

/-- The binding that a value is. Reference: the decoder of `Binding`. -/
def Binding.ofJson? (v : Json) : Option Binding := do
  let m ← v.members?
  return {
    componentPath := ← m.text? "componentPath"
    prop := ← m.text? "prop"
    source := ← m.text? "from" }

/-- The refresh action that a value is. Reference: the decoder of `RefreshAction`. -/
def Refresh.ofJson? (v : Json) : Option Refresh := do
  let m ← v.members?
  return {
    tool := ← m.text? "tool"
    args := ← m.objectOrEmpty? "args"
    patchPath := ← m.nullable? "patchPath" Json.text? }

/-- The subscription that a value is. Reference: the decoder of `Subscription`. -/
def Subscription.ofJson? (v : Json) : Option Subscription := do
  let m ← v.members?
  return {
    event := ← m.text? "event"
    refresh := ← m.list? "refresh" Refresh.ofJson? }

/-- The view that a value is, with its lists absent where they are null. Reference: the decoder of
`UiIntent`. -/
def View.ofJson? (v : Json) : Option View := do
  let m ← v.members?
  return {
    tree := ← (m.get? "component_tree").bind Node.ofJson?
    bindings := ← m.nullable? "bindings" fun v => v.items?.bind fun items =>
      items.mapM Binding.ofJson?
    subscriptions := ← m.nullable? "subscriptions" fun v => v.items?.bind fun items =>
      items.mapM Subscription.ofJson? }

/-- The plan that a value is: the last step of `Draft.validate`, on values at hand. `Plan.reader`
reads texts. Reference: the decoder of `ToolPlan`. -/
def Plan.ofJson? (v : Json) : Option Plan := do
  let m ← v.members?
  return {
    schema := ← m.text? "schema"
    rationale := ← m.text? "rationale"
    steps := ← m.listOrEmpty? "steps" Step.ofJson?
    view := ← m.nullable? "uiIntent" View.ofJson?
    safety := ← m.nullable? "safety" Json.members? }

end AgentPlan
