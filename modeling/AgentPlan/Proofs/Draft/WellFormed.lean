import AgentPlan.Text.Basic
import AgentPlan.Proofs.Json.NumberValue

/-!
# Well-formed drafts

What the document of a tool plan looks like, said of the JSON value itself and without the walk that
collects defects or the reader that makes a plan of it. `WellFormed` is the whole format; the
structures before it are its records, each a property of the members of an object, and `IsNode` is
the format of the trees, whose depth is not bounded.
-/

namespace AgentPlan.Draft

open Json (Members)

/-! ## Kinds of values -/

/-- The value is a string. -/
def IsText (v : Json) : Prop :=
  ∃ s, v = .str s

/-- The value is a string of which trimming leaves something. -/
def IsVisibleText (v : Json) : Prop :=
  ∃ s, v = .str s ∧ Text.trim s ≠ ""

/-- The value is an object. -/
def IsObject (v : Json) : Prop :=
  ∃ m, v = .obj m

/-- The value is an object whose members satisfy `P`. -/
def ObjectOf (P : Members → Prop) (v : Json) : Prop :=
  ∃ m, v = .obj m ∧ P m

/-- The value is an array whose items satisfy `P`. -/
def ListOf (P : Json → Prop) (v : Json) : Prop :=
  ∃ items, v = .arr items ∧ ∀ item ∈ items, P item

/-- The value is null or satisfies `P`. -/
def NullOr (P : Json → Prop) (v : Json) : Prop :=
  v = .null ∨ P v

/-- The value is a number that stands for an integer of 64 bits, however it is written. -/
def IsTtl (v : Json) : Prop :=
  ∃ n, v = .num n ∧ ∃ i : Int, n.value = i ∧ -2 ^ 63 ≤ i ∧ i < 2 ^ 63

/-! ## Members of an object -/

/-- The key has a value, which satisfies `P`. -/
def Has (key : String) (P : Json → Prop) (m : Members) : Prop :=
  ∃ v, m.get? key = some v ∧ P v

/-- The key is absent, or its value satisfies `P`. -/
def MayHave (key : String) (P : Json → Prop) (m : Members) : Prop :=
  ∀ v, m.get? key = some v → P v

/-! ## The format -/

/-- The members of a step. -/
structure IsStep (m : Members) : Prop where
  id : Has "id" IsVisibleText m
  tool : Has "tool" IsText m
  args : MayHave "args" IsObject m
  cacheTtl : MayHave "cache_ttl_seconds" (NullOr IsTtl) m

/-- An array of steps with pairwise different identifiers. -/
def IsStepList (v : Json) : Prop :=
  ∃ steps, v = .arr steps ∧ (∀ step ∈ steps, ObjectOf IsStep step) ∧
    steps.Pairwise fun a b => a.get? "id" ≠ b.get? "id"

/-- The name of a kind of node. -/
def IsKind (v : Json) : Prop :=
  v = .str "layout" ∨ v = .str "component"

/-- The members of a node, its children apart. -/
structure IsNodeHead (m : Members) : Prop where
  kind : Has "type" IsKind m
  name : Has "name" IsText m
  props : MayHave "props" IsObject m

/-- A node: an object with the members of a node, whose children are absent or nodes again. -/
inductive IsNode : Json → Prop
  | leaf {m : Members} : IsNodeHead m → m.get? "children" = none → IsNode (.obj m)
  | parent {m : Members} {children : List Json} : IsNodeHead m →
      m.get? "children" = some (.arr children) → (∀ child ∈ children, IsNode child) →
      IsNode (.obj m)

/-- The members of a binding. -/
structure IsBinding (m : Members) : Prop where
  componentPath : Has "componentPath" IsText m
  prop : Has "prop" IsText m
  source : Has "from" IsText m

/-- The members of a refresh action. -/
structure IsRefresh (m : Members) : Prop where
  tool : Has "tool" IsText m
  args : MayHave "args" IsObject m
  patchPath : MayHave "patchPath" (NullOr IsText) m

/-- The members of a subscription. -/
structure IsSubscription (m : Members) : Prop where
  event : Has "event" IsText m
  refresh : Has "refresh" (ListOf (ObjectOf IsRefresh)) m

/-- The members of a view. -/
structure IsView (m : Members) : Prop where
  tree : Has "component_tree" IsNode m
  bindings : MayHave "bindings" (NullOr (ListOf (ObjectOf IsBinding))) m
  subscriptions : MayHave "subscriptions" (NullOr (ListOf (ObjectOf IsSubscription))) m

/-- The members of a plan. -/
structure IsPlan (m : Members) : Prop where
  schema : Has "schema" (· = .str "tool_plan.v1") m
  rationale : Has "rationale" IsVisibleText m
  steps : MayHave "steps" IsStepList m
  view : MayHave "uiIntent" (NullOr (ObjectOf IsView)) m
  safety : MayHave "safety" (NullOr IsObject) m

/-- A well-formed draft is an object with the members of a plan. Other members may be there, in
every record. -/
def WellFormed (draft : Json) : Prop :=
  ObjectOf IsPlan draft

end AgentPlan.Draft
