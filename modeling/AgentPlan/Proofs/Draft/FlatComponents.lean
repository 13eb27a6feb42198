import AgentPlan.Proofs.Draft.NormalForm

/-!
# Flat lists of components

A view may list its components instead of a tree. Normalization makes a column of them, with one
leaf for each entry of the list that is an object (`column_eq`). The leaves are what the entries
say, so the column has a defect exactly where an entry has a name that is no string or properties
that are no object (`mem_nodeDefects_column_iff`), and else it is read as the components in their
order (`read_column`). `flat_components_survive` says what becomes of a draft with such a view, if
nothing else is wrong with it.
-/

namespace AgentPlan.Draft

open Json (Members)

/-! ## Entries -/

/-- The entries of a flat list that are objects, in their order. -/
def flatEntries (components : List Json) : List Members :=
  components.filterMap Json.members?

/-- The members of an entry that is a component: it may have a name and properties. -/
structure IsFlatEntry (c : Members) : Prop where
  name : MayHave "name" IsText c
  props : MayHave "props" IsObject c

/-- The name of an entry. -/
def flatName (c : Members) : String :=
  (c.text? "name").getD "unknown"

/-- The component that an entry is: it has no children. -/
def flatNode (c : Members) : Node :=
  .mk .component (flatName c) ((c.objectOrEmpty? "props").getD []) []

/-- The node of an entry that is an object. -/
def flatLeaf (c : Members) : Json :=
  .obj [("children", .arr []), ("name", (c.get? "name").getD (.str "unknown")),
    ("props", (c.get? "props").getD (.obj [])), ("type", .str "component")]

section
variable {c : Members} {components : List Json}

/-- The leaves of a column are those of the entries that are objects. -/
theorem filterMap_leaf? : components.filterMap leaf? = (flatEntries components).map flatLeaf := by
  have hleaf : leaf? = fun v => v.members?.map flatLeaf := by
    funext v
    cases v <;> rfl
  rw [flatEntries, List.map_filterMap, hleaf]

/-- The column of some components, written out: a layout with a leaf for each entry that is an
object. -/
theorem column_eq : column components =
    .obj [("children", .arr ((flatEntries components).map flatLeaf)), ("name", .str "column"),
      ("props", .obj [("gap", .num (.int 12))]), ("type", .str "layout")] := by
  rw [column, filterMap_leaf?]

/-! ## Defects of a column -/

/-- A leaf has a defect at its name or at its properties, if these are not what they should be. -/
theorem mem_nodeDefects_flatLeaf_iff {d : Defect} : d ∈ nodeDefects (flatLeaf c) ↔
    (¬ MayHave "name" IsText c ∧ d = ⟨[.key "name"], .notText⟩) ∨
      (¬ MayHave "props" IsObject c ∧ d = ⟨[.key "props"], .notDictionary⟩) := by
  have hsplit : nodeDefects (flatLeaf c) =
      below (.key "name") (requiredText (some ((c.get? "name").getD (.str "unknown")))) ++
        below (.key "props") (optionalObject (some ((c.get? "props").getD (.obj [])))) := by
    simp [flatLeaf, nodeDefects, childrenDefects, nodesFrom, member, Members.get?, kindDefects,
      NodeKind.ofName?, below]
  have hname (d : Defect) : d ∈ requiredText (some ((c.get? "name").getD (.str "unknown"))) ↔
      ¬ MayHave "name" IsText c ∧ d = ⟨[], .notText⟩ := by
    cases hget : c.get? "name" with
    | none => simp [requiredText, MayHave, hget]
    | some v => cases v <;> simp [requiredText, MayHave, hget, IsText, here]
  have hprops (d : Defect) : d ∈ optionalObject (some ((c.get? "props").getD (.obj []))) ↔
      ¬ MayHave "props" IsObject c ∧ d = ⟨[], .notDictionary⟩ := by
    cases hget : c.get? "props" with
    | none => simp [optionalObject, MayHave, hget]
    | some v => cases v <;> simp [optionalObject, MayHave, hget, IsObject, here]
  rw [hsplit]
  simp [below, hname, hprops, Defect.below, eq_comm]

/-- The defects of nodes are those of one of them, below its index. -/
theorem mem_nodesFrom_iff {d : Defect} {index : Nat} {nodes : List Json} :
    d ∈ nodesFrom index nodes ↔
      ∃ j node, nodes[j]? = some node ∧ d ∈ below (.index (index + j)) (nodeDefects node) := by
  induction nodes generalizing index with
  | nil => simp [nodesFrom]
  | cons first rest ih =>
    rw [nodesFrom, List.mem_append, ih]
    constructor
    · rintro (hfirst | ⟨j, node, hnode, hd⟩)
      · exact ⟨0, first, rfl, hfirst⟩
      · exact ⟨j + 1, node, hnode, by rwa [Nat.add_assoc, Nat.add_comm 1] at hd⟩
    · rintro ⟨j, node, hnode, hd⟩
      cases j with
      | zero =>
        cases hnode
        exact .inl hd
      | succ j => exact .inr ⟨j, node, hnode, by rwa [Nat.add_assoc, Nat.add_comm 1]⟩

/-- A column has the defects of its leaves, and no other. -/
theorem nodeDefects_column : nodeDefects (column components) =
    below (.key "children") (nodesFrom 0 ((flatEntries components).map flatLeaf)) := by
  rw [column_eq]
  simp [nodeDefects, childrenDefects, member, Members.get?, kindDefects, requiredText,
    optionalObject, NodeKind.ofName?, below]

end

/-- **A column has a defect exactly where an entry of the list has one**: at the name or at the
properties of its leaf, which has the entry's position among those that are objects. -/
theorem mem_nodeDefects_column_iff {components : List Json} {d : Defect} :
    d ∈ nodeDefects (column components) ↔ ∃ (j : Nat) (c : Members),
      (flatEntries components)[j]? = some c ∧
      ((¬ MayHave "name" IsText c ∧
          d = ⟨[.key "children", .index j, .key "name"], .notText⟩) ∨
        (¬ MayHave "props" IsObject c ∧
          d = ⟨[.key "children", .index j, .key "props"], .notDictionary⟩)) := by
  simp only [nodeDefects_column, below, List.mem_map, mem_nodesFrom_iff, List.getElem?_map,
    Option.map_eq_some_iff, Nat.zero_add]
  constructor
  · rintro ⟨_, ⟨j, _, ⟨c, hc, rfl⟩, d', hleaf, rfl⟩, rfl⟩
    refine ⟨j, c, hc, ?_⟩
    rcases mem_nodeDefects_flatLeaf_iff.1 hleaf with ⟨hname, rfl⟩ | ⟨hprops, rfl⟩
    · exact .inl ⟨hname, rfl⟩
    · exact .inr ⟨hprops, rfl⟩
  · rintro ⟨j, c, hc, ⟨hname, rfl⟩ | ⟨hprops, rfl⟩⟩
    · exact ⟨_, ⟨j, _, ⟨c, hc, rfl⟩, _, mem_nodeDefects_flatLeaf_iff.2 (.inl ⟨hname, rfl⟩), rfl⟩,
        rfl⟩
    · exact ⟨_, ⟨j, _, ⟨c, hc, rfl⟩, _, mem_nodeDefects_flatLeaf_iff.2 (.inr ⟨hprops, rfl⟩), rfl⟩,
        rfl⟩

/-- A column without defects is one whose entries are components. -/
theorem nodeDefects_column_eq_nil_iff {components : List Json} :
    nodeDefects (column components) = [] ↔ ∀ c ∈ flatEntries components, IsFlatEntry c := by
  rw [List.eq_nil_iff_forall_not_mem]
  constructor
  · intro hnone c hc
    obtain ⟨j, hj⟩ := List.mem_iff_getElem?.1 hc
    constructor
    · by_contra hname
      exact hnone _ (mem_nodeDefects_column_iff.2 ⟨j, c, hj, .inl ⟨hname, rfl⟩⟩)
    · by_contra hprops
      exact hnone _ (mem_nodeDefects_column_iff.2 ⟨j, c, hj, .inr ⟨hprops, rfl⟩⟩)
  · intro heach d hd
    obtain ⟨j, c, hj, ⟨hname, -⟩ | ⟨hprops, -⟩⟩ := mem_nodeDefects_column_iff.1 hd
    · exact hname (heach c (List.mem_of_getElem? hj)).name
    · exact hprops (heach c (List.mem_of_getElem? hj)).props

/-! ## Reading a column -/

/-- The leaf of a component is read as the component. -/
theorem read_flatLeaf {c : Members} (h : IsFlatEntry c) :
    Node.ofJson? (flatLeaf c) = some (flatNode c) := by
  have hname : ((c.get? "name").getD (.str "unknown")).text? = some (flatName c) := by
    rw [flatName, Members.text?]
    cases hget : c.get? "name" with
    | none => rfl
    | some v =>
      obtain ⟨s, rfl⟩ := h.name v hget
      rfl
  have hprops : ((c.get? "props").getD (.obj [])).members? =
      some ((c.objectOrEmpty? "props").getD []) := by
    rw [Members.objectOrEmpty?]
    cases hget : c.get? "props" with
    | none => rfl
    | some v =>
      obtain ⟨o, rfl⟩ := h.props v hget
      rfl
  exact Node.ofJson?_obj_eq_some_iff.2 ⟨rfl, hname, hprops, rfl⟩

/-- A column whose entries are components is read as a layout of their nodes, in their order. -/
theorem read_column {components : List Json}
    (h : ∀ c ∈ flatEntries components, IsFlatEntry c) :
    Node.ofJson? (column components) = some (.mk .layout "column" [("gap", .num (.int 12))]
      ((flatEntries components).map flatNode)) := by
  rw [column_eq]
  refine Node.ofJson?_obj_eq_some_iff.2 ⟨rfl, rfl, rfl, ?_⟩
  have hleaves : ((flatEntries components).map flatLeaf).mapM Node.ofJson? =
      some ((flatEntries components).map flatNode) := by
    rw [mapM_eq_some_iff_forall₂, List.forall₂_map_left_iff, List.forall₂_map_right_iff,
      List.forall₂_same]
    exact fun c hc => read_flatLeaf (h c hc)
  exact hleaves

/-- The components of a column are those of the list. -/
theorem componentNamesOf_map_flatNode (entries : List Members) :
    Node.componentNamesOf (entries.map flatNode) = entries.map flatName := by
  induction entries with
  | nil => rfl
  | cons c rest ih =>
    rw [List.map_cons, Node.componentNamesOf, ih, List.map_cons]
    rfl

/-! ## Drafts with a flat view -/

/-- The rest of a draft with members `m` is well-formed: the draft without its view, once it is
normalized, and what the view says besides its components. -/
structure RestWellFormed (m view : Members) : Prop where
  others : WellFormed (normalize (.obj (m.erase "uiIntent")))
  bindings : MayHave "bindings" (NullOr (ListOf (ObjectOf IsBinding))) view
  subscriptions : MayHave "subscriptions" (NullOr (ListOf (ObjectOf IsSubscription))) view

section
variable {m n view : Members} {components : List Json}

/-- A flat view gets a column in place of its components, and keeps what else it says. -/
theorem normalizeView_flat (htree : view.get? "component_tree" = none)
    (hlist : view.get? "components" = some (.arr components)) :
    ∃ normal : Members, normalizeView (.obj view) = .obj normal ∧
      normal.get? "component_tree" = some (column components) ∧
      normal.get? "bindings" = some ((view.get? "bindings").getD .null) ∧
      normal.get? "subscriptions" = some ((view.get? "subscriptions").getD .null) := by
  refine ⟨_, normalizeView_of_flat htree hlist, ?_, ?_, ?_⟩
  all_goals
    simp (disch := decide) only [Members.get?_insertNew_self, Members.get?_insertNew_of_ne,
      Members.get?_insert_self, Members.get?_insert_of_ne, Members.get?_erase_of_ne]

/-- A check finds the same in a null that is filled in as in a member that is absent. -/
theorem member_optionalList_of_getD {key : String} {check : Json → List Defect}
    (hget : n.get? key = some ((m.get? key).getD .null)) :
    member key (optionalList check) n = member key (optionalList check) m := by
  rw [member, member, hget]
  cases m.get? key <;> rfl

/-- A check looks at nothing but the value of its key. -/
theorem member_congr {key : String} {check : Option Json → List Defect}
    (h : n.get? key = m.get? key) : member key check n = member key check m := by
  rw [member, member, h]

/-- Nothing but the tree is wrong with the normal form of a flat view, if nothing is wrong with what
else it says. -/
theorem viewDefects_flat (htree : n.get? "component_tree" = some (column components))
    (hbindings : n.get? "bindings" = some ((view.get? "bindings").getD .null))
    (hsubscriptions : n.get? "subscriptions" = some ((view.get? "subscriptions").getD .null))
    (hrest : RestWellFormed m view) :
    viewDefects n = below (.key "component_tree") (nodeDefects (column components)) := by
  have hbind : member "bindings" (optionalList bindingDefects) n = [] := by
    rw [member_optionalList_of_getD hbindings]
    exact (member_optionalList_eq_nil_iff bindingDefects_eq_nil_iff).2 hrest.bindings
  have hsub : member "subscriptions" (optionalList subscriptionDefects) n = [] := by
    rw [member_optionalList_of_getD hsubscriptions]
    exact (member_optionalList_eq_nil_iff subscriptionDefects_eq_nil_iff).2 hrest.subscriptions
  rw [viewDefects, hbind, hsub, List.append_nil, List.append_nil, member, htree, treeDefects]

/-- A defect of a draft with a flat view: something is wrong with a member of a leaf, whose index is
the entry's position among those that are objects. -/
def leafDefect (j : Nat) (key : String) (p : Problem) : Defect :=
  ⟨[.key "uiIntent", .key "component_tree", .key "children", .index j, .key key], p⟩

/-- The path of a member of a leaf. -/
theorem pathText_leafDefect (j : Nat) (key : String) (p : Problem) :
    (leafDefect j key p).pathText =
      "uiIntent.component_tree.children." ++ toString j ++ ("." ++ key) :=
  String.append_assoc

/-- The normal form of a draft has the same members besides its view as the normal form of the draft
without its view, and an empty safety note in place of none. -/
theorem NormalOf.rest_eq {n' : Members} (hn : NormalOf m n)
    (hn' : NormalOf (m.erase "uiIntent") n') :
    n.get? "schema" = n'.get? "schema" ∧ n.get? "rationale" = n'.get? "rationale" ∧
      n.get? "steps" = n'.get? "steps" ∧
      member "safety" safetyDefects n = member "safety" safetyDefects n' := by
  refine ⟨?_, ?_, ?_, ?_⟩
  · rw [hn.schema, hn'.schema, Members.get?_erase_of_ne _ (by decide)]
  · rw [hn.rationale, hn'.rationale, Members.get?_erase_of_ne _ (by decide)]
  · rw [hn.steps, hn'.steps, Members.get?_erase_of_ne _ (by decide)]
  · have hnone : ¬ HasView (m.erase "uiIntent") := by
      rw [not_hasView_iff, Members.get?_erase_self]
      rfl
    rw [member, member, hn'.noSafety hnone, Members.get?_erase_of_ne _ (by decide)]
    by_cases hview : HasView m
    · rw [hn.safety hview]
      cases m.get? "safety" <;> rfl
    · rw [hn.noSafety hview]

/-- If the rest of a draft is well-formed, the defects of its normal form are those of the column,
below the path of the tree. -/
theorem defects_flat (hview : m.get? "uiIntent" = some (.obj view))
    (htree : view.get? "component_tree" = none)
    (hlist : view.get? "components" = some (.arr components)) (hrest : RestWellFormed m view) :
    defects (normalize (.obj m)) =
      below (.key "uiIntent")
        (below (.key "component_tree") (nodeDefects (column components))) := by
  obtain ⟨n, hnormal, hn⟩ := exists_normalOf m
  obtain ⟨n', hnormal', hn'⟩ := exists_normalOf (m.erase "uiIntent")
  obtain ⟨normal, hflat, htree', hbindings, hsubscriptions⟩ := normalizeView_flat htree hlist
  have hothers := hrest.others
  rw [hnormal', ← defects_eq_nil_iff, defects, object] at hothers
  simp only [List.append_eq_nil_iff] at hothers
  obtain ⟨⟨⟨⟨hschema, hrationale⟩, hsteps⟩, -⟩, hsafety⟩ := hothers
  obtain ⟨hschema', hrationale', hsteps', hsafety'⟩ := hn.rest_eq hn'
  have htop : Members.get? "uiIntent" n = some (.obj normal) := by
    rw [hn.view, hview, Option.getD_some, hflat]
  have hviewPart : member "uiIntent" optionalView n =
      below (.key "uiIntent")
        (below (.key "component_tree") (nodeDefects (column components))) := by
    rw [member, htop, optionalView, viewDefects_flat htree' hbindings hsubscriptions hrest]
  rw [hnormal, defects, object, member_congr hschema', hschema, member_congr hrationale',
    hrationale, member_congr hsteps', hsteps, hsafety', hsafety, hviewPart, List.nil_append,
    List.nil_append, List.nil_append, List.append_nil]

/-- If the rest of a draft is well-formed, its defects lie at names and at properties of entries. -/
theorem mem_defects_flat_iff (hview : m.get? "uiIntent" = some (.obj view))
    (htree : view.get? "component_tree" = none)
    (hlist : view.get? "components" = some (.arr components)) (hrest : RestWellFormed m view)
    {d : Defect} : d ∈ defects (normalize (.obj m)) ↔ ∃ (j : Nat) (c : Members),
      (flatEntries components)[j]? = some c ∧
      ((¬ MayHave "name" IsText c ∧ d = leafDefect j "name" .notText) ∨
        (¬ MayHave "props" IsObject c ∧ d = leafDefect j "props" .notDictionary)) := by
  simp only [defects_flat hview htree hlist hrest, below, List.map_map, List.mem_map,
    mem_nodeDefects_column_iff]
  constructor
  · rintro ⟨_, ⟨j, c, hj, ⟨hname, rfl⟩ | ⟨hprops, rfl⟩⟩, rfl⟩
    · exact ⟨j, c, hj, .inl ⟨hname, rfl⟩⟩
    · exact ⟨j, c, hj, .inr ⟨hprops, rfl⟩⟩
  · rintro ⟨j, c, hj, ⟨hname, rfl⟩ | ⟨hprops, rfl⟩⟩
    · exact ⟨_, ⟨j, c, hj, .inl ⟨hname, rfl⟩⟩, rfl⟩
    · exact ⟨_, ⟨j, c, hj, .inr ⟨hprops, rfl⟩⟩, rfl⟩

/-- A draft whose normal form has a flat view with components for entries is read with the column of
these components for a tree. -/
theorem exists_view_flat {plan : Plan} (hview : m.get? "uiIntent" = some (.obj view))
    (htree : view.get? "component_tree" = none)
    (hlist : view.get? "components" = some (.arr components))
    (heach : ∀ c ∈ flatEntries components, IsFlatEntry c)
    (hread : Plan.ofJson? (withIntegerTtls (normalize (.obj m))) = some plan) :
    ∃ v, plan.view = some v ∧ v.tree = .mk .layout "column" [("gap", .num (.int 12))]
      ((flatEntries components).map flatNode) := by
  obtain ⟨n, hnormal, hn⟩ := exists_normalOf m
  obtain ⟨normal, hflat, htree', -, -⟩ := normalizeView_flat htree hlist
  rw [hnormal] at hread
  have hplan := (Plan.ofJson?_withIntegerTtls_obj_eq_some_iff.1 hread).2.2.2.1
  have htop : Members.get? "uiIntent" n = some (.obj normal) := by
    rw [hn.view, hview, Option.getD_some, hflat]
  cases hv : plan.view with
  | none =>
    rw [hv, nullable?_eq_none_iff, htop] at hplan
    cases hplan
  | some v =>
    rw [hv, nullable?_eq_some_iff rfl, htop, Option.bind_some] at hplan
    have hnode := (View.ofJson?_obj_eq_some_iff.1 hplan).1
    rw [htree', Option.bind_some, read_column heach] at hnode
    exact ⟨v, rfl, (Option.some.inj hnode).symm⟩

end

/-- **A flat list of components survives without loss, duplication or reordering.** If every entry
that is an object has a string for its name and an object for its properties, where it has any, the
normal form of the draft is a plan. The plan's tree is one layout, and its children are the
components of these entries, in their order. Else the normal form is rejected, with defects exactly
at the names that are no strings and at the properties that are no objects. Reference:
`column_layout`, with `normalize_ui_intent` and `check_ui_intent`. -/
theorem flat_components_survive {m view : Members} {components : List Json}
    (hview : m.get? "uiIntent" = some (.obj view)) (htree : view.get? "component_tree" = none)
    (hlist : view.get? "components" = some (.arr components)) (hrest : RestWellFormed m view) :
    ((∀ c ∈ flatEntries components, IsFlatEntry c) →
      ∃ plan v, validate (normalize (.obj m)) = .ok plan ∧ plan.view = some v ∧
        v.tree = .mk .layout "column" [("gap", .num (.int 12))]
          ((flatEntries components).map flatNode) ∧
        v.componentNames = (flatEntries components).map flatName) ∧
    ((∃ c ∈ flatEntries components, ¬ IsFlatEntry c) →
      ∃ ds, validate (normalize (.obj m)) = .error ds ∧ ∀ (path : String) (problem : Problem),
        (∃ d ∈ ds, d.pathText = path ∧ d.problem = problem) ↔
          ∃ (j : Nat) (c : Members), (flatEntries components)[j]? = some c ∧
            ((¬ MayHave "name" IsText c ∧ problem = .notText ∧
                path = "uiIntent.component_tree.children." ++ toString j ++ ".name") ∨
              (¬ MayHave "props" IsObject c ∧ problem = .notDictionary ∧
                path = "uiIntent.component_tree.children." ++ toString j ++ ".props"))) := by
  have hmem {d : Defect} := mem_defects_flat_iff hview htree hlist hrest (d := d)
  have hwell : WellFormed (normalize (.obj m)) ↔ ∀ c ∈ flatEntries components, IsFlatEntry c := by
    rw [← defects_eq_nil_iff, defects_flat hview htree hlist hrest, below_eq_nil_iff,
      below_eq_nil_iff, nodeDefects_column_eq_nil_iff]
  constructor
  · intro heach
    obtain ⟨plan, hplan⟩ := exists_plan (hwell.2 heach)
    obtain ⟨v, hv, htree'⟩ := exists_view_flat hview htree hlist heach hplan
    refine ⟨plan, v, validate_eq_ok_iff.2 ⟨hwell.2 heach, hplan⟩, hv, htree', ?_⟩
    rw [View.componentNames, htree', Node.componentNames, componentNamesOf_map_flatNode]
    rfl
  · rintro ⟨c, hc, hbad⟩
    refine ⟨_, validate_eq_error_iff.2 ⟨fun h => hbad (hwell.1 h c hc), rfl⟩,
      fun path problem => ?_⟩
    constructor
    · rintro ⟨d, hd, rfl, rfl⟩
      obtain ⟨j, c, hj, ⟨hname, rfl⟩ | ⟨hprops, rfl⟩⟩ := hmem.1 hd
      · exact ⟨j, c, hj, .inl ⟨hname, rfl, pathText_leafDefect j "name" _⟩⟩
      · exact ⟨j, c, hj, .inr ⟨hprops, rfl, pathText_leafDefect j "props" _⟩⟩
    · rintro ⟨j, c, hj, ⟨hname, rfl, rfl⟩ | ⟨hprops, rfl, rfl⟩⟩
      · exact ⟨_, hmem.2 ⟨j, c, hj, .inl ⟨hname, rfl⟩⟩, pathText_leafDefect j "name" _, rfl⟩
      · exact ⟨_, hmem.2 ⟨j, c, hj, .inr ⟨hprops, rfl⟩⟩, pathText_leafDefect j "props" _, rfl⟩

/-- An object without a key may have anything there. -/
theorem mayHave_of_get?_eq_none {key : String} {P : Json → Prop} {m : Members}
    (h : m.get? key = none) : MayHave key P m := by
  simp [MayHave, h]

/-- A draft that says nothing but that its view has the given components. -/
def flatDraft (components : List Json) : Members :=
  [("uiIntent", .obj [("components", .arr components)])]

/-- Entries that are no objects are left out, and a component without a name is unknown. With a
number for its name, the entry behind them is found at its place among the components. -/
theorem flat_components_survive_three :
    let entries : List Json := [.obj [("name", .str "A"), ("props", .obj [("k", .null)])], .null,
      .obj []]
    let bad : List Json := entries ++ [.str "B", .obj [("name", .num (.int 1))]]
    let view (components : List Json) : Members := [("components", .arr components)]
    (∀ components, (flatDraft components).get? "uiIntent" = some (.obj (view components)) ∧
      (view components).get? "component_tree" = none ∧
      (view components).get? "components" = some (.arr components) ∧
      RestWellFormed (flatDraft components) (view components)) ∧
    (∃ plan v, validate (normalize (.obj (flatDraft entries))) = .ok plan ∧ plan.view = some v ∧
      v.tree = .mk .layout "column" [("gap", .num (.int 12))]
        [.mk .component "A" [("k", .null)] [], .mk .component "unknown" [] []] ∧
      v.componentNames = ["A", "unknown"]) ∧
    ∃ ds, validate (normalize (.obj (flatDraft bad))) = .error ds ∧ ∃ d ∈ ds,
      d.pathText = "uiIntent.component_tree.children.2.name" ∧ d.problem = .notText := by
  intro entries bad view
  have hothers : WellFormed (normalize (.obj [])) := by decide +kernel
  have hrest (components : List Json) :
      RestWellFormed (flatDraft components) (view components) :=
    ⟨hothers, mayHave_of_get?_eq_none rfl, mayHave_of_get?_eq_none rfl⟩
  have hname : ¬ MayHave "name" IsText [("name", .num (.int 1))] := fun h => by
    obtain ⟨_, hs⟩ := h _ rfl
    cases hs
  refine ⟨fun components => ⟨rfl, rfl, rfl, hrest components⟩, ?_, ?_⟩
  · refine (flat_components_survive rfl rfl rfl (hrest entries)).1 fun c hc => ?_
    have hcases : c = [("name", .str "A"), ("props", .obj [("k", .null)])] ∨ c = [] := by
      simpa [flatEntries, entries, Json.members?] using hc
    rcases hcases with rfl | rfl
    · exact ⟨fun _ h => ⟨"A", (Option.some.inj h).symm⟩,
        fun _ h => ⟨[("k", .null)], (Option.some.inj h).symm⟩⟩
    · exact ⟨mayHave_of_get?_eq_none rfl, mayHave_of_get?_eq_none rfl⟩
  · obtain ⟨ds, hrejected, hds⟩ := (flat_components_survive rfl rfl rfl (hrest bad)).2
      ⟨[("name", .num (.int 1))], by simp [flatEntries, bad, entries, Json.members?],
        fun h => hname h.name⟩
    exact ⟨ds, hrejected, (hds _ _).2 ⟨2, _, rfl, .inl ⟨hname, rfl, rfl⟩⟩⟩

end AgentPlan.Draft
