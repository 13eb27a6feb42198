import AgentPlan.Plan.Audit
import Mathlib.Data.List.Basic

/-!
# What an audit finds

The findings of an audit, told without the lists of names that it makes. A catalog misses a name if
it lists others (`Request.Misses`). The nodes of a tree have places, the positions of the children
on the way to them, and places are ordered like words, so that a node comes before its children and
these come one after another (`Node.components`, `Node.pairwise_components`,
`Node.mem_components_iff`). An audit finds the steps whose tools are missed, in their order, then
the components that are missed, in the order of their places, and then what is odd about the number
of steps (`Plan.audit_finds`).
-/

namespace AgentPlan

open Json (Members)

/-! ## Catalogs -/

namespace Request

section
variable {key name : String} {catalog : Members}

/-- The catalog has an array under the key, and an entry of it has the name. -/
def Lists (key : String) (catalog : Members) (name : String) : Prop :=
  ∃ entries, catalog.get? key = some (.arr entries) ∧
    ∃ entry ∈ entries, entry.get? "name" = some (.str name)

/-- The catalog lists names, but not this one. -/
def Misses (key : String) (catalog : Members) (name : String) : Prop :=
  (∃ other, Lists key catalog other) ∧ ¬ Lists key catalog name

/-- The names that are collected from a catalog are those that it lists. -/
theorem mem_catalogNames_iff : name ∈ catalogNames key catalog ↔ Lists key catalog name := by
  have hname : ∀ entry : Json, (entry.get? "name").bind Json.text? = some name ↔
      entry.get? "name" = some (.str name) := by
    intro entry
    cases entry.get? "name" with
    | none => simp
    | some v => cases v <;> simp [Json.text?]
  rw [catalogNames]
  split
  · next entries hget =>
    simp only [List.mem_filterMap, hname, Lists, hget, Option.some.injEq, Json.arr.injEq,
      exists_eq_left']
  · next hnone =>
    refine iff_of_false List.not_mem_nil ?_
    rintro ⟨entries, hget, -⟩
    exact hnone entries hget

/-- A catalog misses a name when it lists some, but not this one. -/
theorem misses_iff : Misses key catalog name ↔
    catalogNames key catalog ≠ [] ∧ name ∉ catalogNames key catalog := by
  simp only [Misses, ← mem_catalogNames_iff, ne_eq, List.eq_nil_iff_forall_not_mem, not_forall,
    not_not]

instance : Decidable (Misses key catalog name) :=
  decidable_of_iff _ misses_iff.symm

/-- Things are picked by the names that the catalog misses. If it lists none, nothing is picked. -/
theorem filter_misses {α : Type} (nameOf : α → String) (xs : List α) :
    (xs.filter fun x => Misses key catalog (nameOf x)) =
      if (catalogNames key catalog).isEmpty then []
      else xs.filter fun x => nameOf x ∉ catalogNames key catalog := by
  split_ifs with hempty
  · rw [List.isEmpty_iff] at hempty
    refine List.filter_eq_nil_iff.2 fun x _ => ?_
    rw [decide_eq_true_eq, misses_iff]
    exact fun h => h.1 hempty
  · rw [List.isEmpty_iff] at hempty
    refine List.filter_congr fun x _ => ?_
    rw [decide_eq_decide, misses_iff, and_iff_right hempty]

end

/-- The tool catalog lists tools, but none with the name. -/
abbrev MissesTool (r : Request) (name : String) : Prop :=
  Misses "tools" r.tools name

/-- The component catalog lists components, but none with the name. -/
abbrev MissesComponent (r : Request) (name : String) : Prop :=
  Misses "components" r.components name

end Request

/-! ## Places in a tree -/

namespace Node

/-- The node at a place: the positions of the children on the way from the root. -/
def at? : List Nat → Node → Option Node
  | [], node => some node
  | index :: place, .mk _ _ _ children => children[index]?.bind (at? place)

mutual

/-- The components of a tree with their places, a node before its children. -/
def components : Node → List (List Nat × String)
  | .mk kind name _ children =>
    (if kind = .component then [([], name)] else []) ++ componentsFrom 0 children

/-- The components of several trees, the first of which is the child at the index. -/
def componentsFrom (index : Nat) : List Node → List (List Nat × String)
  | [] => []
  | node :: rest =>
    (components node).map (fun c => (index :: c.1, c.2)) ++ componentsFrom (index + 1) rest

end

mutual

/-- The names of the components, in the order of their places. -/
theorem map_components : ∀ node : Node, node.components.map (·.2) = node.componentNames
  | .mk kind name props children => by
    rw [components, componentNames, List.map_append, map_componentsFrom 0 children]
    split <;> rfl

/-- The components of some nodes have the names that are collected from the nodes. -/
theorem map_componentsFrom : ∀ (index : Nat) (nodes : List Node),
    (componentsFrom index nodes).map (·.2) = componentNamesOf nodes
  | _, [] => rfl
  | index, node :: rest => by
    rw [componentsFrom, componentNamesOf, List.map_append, List.map_map, ← map_components node,
      map_componentsFrom (index + 1) rest]
    rfl

end

/-- The components of several trees stand in one of them each. -/
theorem mem_componentsFrom_iff {index : Nat} {nodes : List Node} {place : List Nat}
    {name : String} : (place, name) ∈ componentsFrom index nodes ↔
      ∃ i node rest, place = (index + i) :: rest ∧ nodes[i]? = some node ∧
        (rest, name) ∈ node.components := by
  induction nodes generalizing index with
  | nil => simp [componentsFrom]
  | cons first nodes ih =>
    rw [componentsFrom, List.mem_append, ih]
    constructor
    · rintro (hfirst | ⟨i, node, rest, rfl, hnode, hmem⟩)
      · obtain ⟨⟨rest, name⟩, hmem, heq⟩ := List.mem_map.1 hfirst
        cases heq
        exact ⟨0, first, rest, rfl, rfl, hmem⟩
      · exact ⟨i + 1, node, rest, by rw [Nat.add_assoc, Nat.add_comm 1], hnode, hmem⟩
    · rintro ⟨i, node, rest, rfl, hnode, hmem⟩
      cases i with
      | zero =>
        cases hnode
        exact .inl (List.mem_map.2 ⟨_, hmem, rfl⟩)
      | succ i => exact .inr ⟨i, node, rest, by rw [Nat.add_assoc, Nat.add_comm 1], hnode, hmem⟩

/-- A tree has a component at a place exactly if the node there is one. -/
theorem mem_components_iff {place : List Nat} {name : String} {node : Node} :
    (place, name) ∈ node.components ↔
      ∃ props children, node.at? place = some (.mk .component name props children) := by
  induction place generalizing node with
  | nil =>
    obtain ⟨kind, other, props, children⟩ := node
    have hroot : ([], name) ∉ componentsFrom 0 children := by
      rw [mem_componentsFrom_iff]
      rintro ⟨i, child, rest, hplace, -⟩
      cases hplace
    rw [components, List.mem_append, or_iff_left hroot, at?]
    split_ifs with hkind
    · simp [hkind, eq_comm]
    · simp [hkind]
  | cons index place ih =>
    obtain ⟨kind, other, props, children⟩ := node
    have hself : (index :: place, name) ∉ (if kind = .component then [([], other)] else []) := by
      split_ifs <;> simp
    rw [components, List.mem_append, or_iff_right hself, mem_componentsFrom_iff, at?]
    constructor
    · rintro ⟨i, child, rest, hplace, hchild, hmem⟩
      cases hplace
      rw [Nat.zero_add, hchild, Option.bind_some]
      exact ih.1 hmem
    · rintro ⟨props, grandchildren, hat⟩
      obtain ⟨child, hchild, hat⟩ := Option.bind_eq_some_iff.1 hat
      exact ⟨index, child, place, by rw [Nat.zero_add], hchild, ih.2 ⟨props, grandchildren, hat⟩⟩

mutual

/-- The components of a tree come in the order of their places, so each comes once. -/
theorem pairwise_components : ∀ node : Node, node.components.Pairwise fun a b => a.1 < b.1
  | .mk kind name props children => by
    rw [components, List.pairwise_append]
    refine ⟨?_, pairwise_componentsFrom 0 children, ?_⟩
    · split_ifs <;> simp
    · rintro self hself ⟨place, other⟩ hother
      obtain ⟨i, -, rest, rfl, -, -⟩ := mem_componentsFrom_iff.1 hother
      split_ifs at hself
      · rw [List.mem_singleton.1 hself]
        exact List.nil_lt_cons _ _
      · cases hself

/-- The components of some nodes come in the order of their places. -/
theorem pairwise_componentsFrom : ∀ (index : Nat) (nodes : List Node),
    (componentsFrom index nodes).Pairwise fun a b => a.1 < b.1
  | _, [] => .nil
  | index, node :: rest => by
    rw [componentsFrom, List.pairwise_append]
    refine ⟨?_, pairwise_componentsFrom (index + 1) rest, ?_⟩
    · refine List.pairwise_map.2 ((pairwise_components node).imp fun hlt => ?_)
      exact List.cons_lt_cons_iff.2 (.inr ⟨rfl, hlt⟩)
    · rintro first hfirst ⟨place, other⟩ hother
      obtain ⟨c, -, rfl⟩ := List.mem_map.1 hfirst
      obtain ⟨i, -, rest, rfl, -, -⟩ := mem_componentsFrom_iff.1 hother
      exact List.cons_lt_cons_iff.2 (.inl (by omega))

end

end Node

/-! ## Audits -/

namespace Plan

/-- The view of the plan has a component of the name at the place. -/
def ComponentAt (p : Plan) (place : List Nat) (name : String) : Prop :=
  ∃ view props children, p.view = some view ∧
    view.tree.at? place = some (.mk .component name props children)

/-- The components of the plan's view with their places, in the order of these. -/
def components (p : Plan) : List (List Nat × String) :=
  match p.view with
  | none => []
  | some view => view.tree.components

section
variable {p : Plan} {r : Request}

/-- The components of a plan are those of its view. -/
theorem mem_components_iff {place : List Nat} {name : String} :
    (place, name) ∈ p.components ↔ p.ComponentAt place name := by
  rw [components, ComponentAt]
  cases p.view with
  | none => simp
  | some view => simp [Node.mem_components_iff]

/-- The components of a plan come in the order of their places. -/
theorem pairwise_components : p.components.Pairwise fun a b => a.1 < b.1 := by
  rw [components]
  split
  · exact .nil
  · exact Node.pairwise_components _

/-- The names of a view's components, where there is a view. -/
theorem map_components {view : View} (h : p.view = some view) :
    p.components.map (·.2) = view.componentNames := by
  rw [components, h]
  exact Node.map_components view.tree

/-- The components that the catalog misses, in the order of their places. -/
def strangers (p : Plan) (r : Request) : List (List Nat × String) :=
  p.components.filter fun c => r.MissesComponent c.2

/-- The components that the catalog misses are among those of the plan. -/
theorem mem_strangers_iff {place : List Nat} {name : String} :
    (place, name) ∈ p.strangers r ↔ p.ComponentAt place name ∧ r.MissesComponent name := by
  rw [strangers, List.mem_filter, mem_components_iff, decide_eq_true_eq]

/-- The steps whose tools are missed are found, in their order. -/
theorem toolFindings_eq : p.toolFindings r.toolNames =
    (p.steps.filter fun s => r.MissesTool s.tool).map fun s => .unknownTool s.id s.tool := by
  rw [Request.filter_misses, toolFindings, Request.toolNames]
  split_ifs <;> rfl

/-- The components that are missed are found, in the order of their places, and then that there is a
view but no step. -/
theorem viewFindings_eq : p.viewFindings r.componentNames =
    ((p.strangers r).map fun c => .unknownComponent c.2) ++
      if p.view.isSome ∧ p.steps = [] then [.viewWithoutSteps] else [] := by
  rw [strangers, viewFindings]
  cases hview : p.view with
  | none => simp [components, hview]
  | some view =>
    have hcomponents : componentFindings view r.componentNames =
        (p.components.filter fun c => r.MissesComponent c.2).map fun c =>
          .unknownComponent c.2 := by
      rw [Request.filter_misses, componentFindings, Request.componentNames,
        ← map_components hview, List.filter_map, List.map_map]
      split_ifs <;> rfl
    simp [hcomponents]

/-- All findings of an audit. -/
theorem audit_eq : p.audit r =
    ((p.steps.filter fun s => r.MissesTool s.tool).map fun s => .unknownTool s.id s.tool) ++
    ((p.strangers r).map fun c => .unknownComponent c.2) ++
    (if p.view.isSome ∧ p.steps = [] then [.viewWithoutSteps] else []) ++
    if r.maxSteps.toNat < p.steps.length then
      [.tooManySteps p.steps.length r.maxSteps] else [] := by
  rw [audit, toolFindings_eq, viewFindings_eq, ← List.append_assoc]

end

/-- **An audit finds what is odd about a plan, in order, and nothing else.** It finds the steps
whose tools the catalog misses, the components that the catalog misses, each as often as it stands
in the tree and in the order of the places, a view without steps, and more steps than the limit. So
it finds nothing exactly if none of these is there, and of the catalogs only the names that they
list count. Reference: `audit_plan`. -/
theorem audit_finds (p : Plan) (r : Request) :
    (∃ strangers : List (List Nat × String),
      (strangers.Pairwise fun a b => a.1 < b.1) ∧
      (∀ place name, (place, name) ∈ strangers ↔
        p.ComponentAt place name ∧ r.MissesComponent name) ∧
      p.audit r =
        ((p.steps.filter fun s => r.MissesTool s.tool).map fun s => .unknownTool s.id s.tool) ++
        (strangers.map fun c => .unknownComponent c.2) ++
        (if p.view.isSome ∧ p.steps = [] then [.viewWithoutSteps] else []) ++
        if r.maxSteps.toNat < p.steps.length then [.tooManySteps p.steps.length r.maxSteps]
        else []) ∧
    (p.audit r = [] ↔
      (∀ step ∈ p.steps, ¬ r.MissesTool step.tool) ∧
      (∀ place name, p.ComponentAt place name → ¬ r.MissesComponent name) ∧
      ¬ (p.view.isSome ∧ p.steps = []) ∧ p.steps.length ≤ r.maxSteps.toNat) ∧
    ∀ r' : Request, r'.maxSteps = r.maxSteps →
      (∀ name, Request.Lists "tools" r'.tools name ↔ Request.Lists "tools" r.tools name) →
      (∀ name, Request.Lists "components" r'.components name ↔
        Request.Lists "components" r.components name) →
      p.audit r' = p.audit r := by
  refine ⟨⟨p.strangers r, ?ordered, fun _ _ => mem_strangers_iff, audit_eq⟩, ?nothing, ?names⟩
  case ordered => exact pairwise_components.filter _
  case nothing =>
    have hstrangers : p.strangers r = [] ↔
        ∀ place name, p.ComponentAt place name → ¬ r.MissesComponent name := by
      simp only [List.eq_nil_iff_forall_not_mem, Prod.forall, mem_strangers_iff, not_and]
    rw [audit_eq, List.append_eq_nil_iff, List.append_eq_nil_iff, List.append_eq_nil_iff,
      List.map_eq_nil_iff, List.map_eq_nil_iff, hstrangers, List.filter_eq_nil_iff]
    simp [and_assoc]
  case names =>
    intro r' hlimit htools hcomponents
    have hmisses : ∀ name, (r'.MissesTool name ↔ r.MissesTool name) ∧
        (r'.MissesComponent name ↔ r.MissesComponent name) := by
      intro name
      simp only [Request.Misses, htools, hcomponents, and_self]
    simp only [audit_eq, strangers, hmisses, hlimit]

/-- A tree with a layout, in which a component that the catalog misses stands twice and another one
below it, and a second request whose tool catalog names its tool twice and has entries without a
name. The audits for both requests find the same. -/
theorem audit_finds_nested :
    let card (children : List Node) : Node := .mk .component "Card" [] children
    let table : Node := .mk .component "Table" [] []
    let chart : Node := .mk .component "Chart" [] []
    let plan : Plan := {
      schema := schemaTag, rationale := "r", safety := none
      steps := [⟨"1", "a", [], none⟩, ⟨"2", "b", [], none⟩]
      view := some ⟨.mk .layout "column" [] [card [chart, table], card []], none, none⟩ }
    let tool : Json := .obj [("name", .str "a")]
    let r : Request := { Request.ofPrompt "x" with
      tools := [("tools", .arr [tool])], maxSteps := 1
      components := [("components", .arr [.obj [("name", .str "Table")]])] }
    let r' : Request := { r with
      tools := [("tools", .arr [tool, .str "b", .obj [("name", .num (.int 1))], tool])] }
    r'.maxSteps = r.maxSteps ∧
    (∀ name, Request.Lists "tools" r'.tools name ↔ Request.Lists "tools" r.tools name) ∧
    (∀ name, Request.Lists "components" r'.components name ↔
      Request.Lists "components" r.components name) ∧
    plan.audit r' = plan.audit r ∧
    plan.audit r = [.unknownTool "2" "b", .unknownComponent "Card", .unknownComponent "Chart",
      .unknownComponent "Card", .tooManySteps 2 1] := by
  intro card table chart plan tool r r'
  have htools : ∀ name,
      Request.Lists "tools" r'.tools name ↔ Request.Lists "tools" r.tools name := by
    intro name
    have hnames : Request.catalogNames "tools" r'.tools = ["a", "a"] := by decide
    have hname : Request.catalogNames "tools" r.tools = ["a"] := by decide
    rw [← Request.mem_catalogNames_iff, ← Request.mem_catalogNames_iff, hnames, hname]
    simp
  have hcomponents : ∀ name, Request.Lists "components" r'.components name ↔
      Request.Lists "components" r.components name := fun _ => Iff.rfl
  exact ⟨rfl, htools, hcomponents, (audit_finds plan r).2.2 r' rfl htools hcomponents, by decide⟩

end Plan

end AgentPlan
