import AgentPlan.Plan.Basic

/-!
# Normal drafts

A draft is the JSON value that a model proposes as a plan. `normalize` mends the usual slips without
looking at what the draft says: it fills in what is absent, and it leaves alone what is there.
Every value has a normal form.
-/

namespace AgentPlan.Draft

open Json (Members)

/-- The rationale of a plan whose draft has none. Reference: `DEFAULT_RATIONALE`. -/
def defaultRationale : String :=
  "Planned tool steps based on the user request and available tools/components."

/-- The identifier of a step that has none: its position, counted from one. It is given without a
look at the other steps, so two steps may come to have the same one. Reference: `position` in
`normalize_steps`. -/
def positionalId (index : Nat) : String :=
  "step_" ++ toString (index + 1)

/-- A step that is no object is replaced by one that calls nothing. Its members are sorted by their
keys, as those of every object that is built by insertion. Reference: the last case in
`normalize_steps`. -/
def placeholderStep (index : Nat) : Members :=
  [("args", .obj []), ("cache_ttl_seconds", .null), ("id", .str (positionalId index)),
    ("tool", .str "")]

/-- The step at an index with its identifier, arguments and time to live filled in. A member that is
there stays, whatever its value; the tool is not filled in. Reference: the closure in
`normalize_steps`. -/
def normalizeStep (index : Nat) : Json → Json
  | .obj step =>
    .obj <| Members.insertNew "cache_ttl_seconds" .null <| Members.insertNew "args" (.obj []) <|
      Members.insertNew "id" (.str (positionalId index)) step
  | _ => .obj (placeholderStep index)

/-- The steps from an index on, each normalized for itself. Reference: the loop over `enumerate` in
`normalize_steps`. -/
def normalizeStepsFrom (index : Nat) : List Json → List Json
  | [] => []
  | step :: rest => normalizeStep index step :: normalizeStepsFrom (index + 1) rest

/-- The steps of a draft; none if they are absent or not a list. Reference: `normalize_steps`. -/
def normalizeSteps : Option Json → List Json
  | some (.arr steps) => normalizeStepsFrom 0 steps
  | _ => []

/-- The node of a component from a flat list; an item that is no object is left out. Name and
properties are taken over as they are, whatever their kind. Reference: the closure in
`column_layout`. -/
def leaf? : Json → Option Json
  | .obj c => some <| .obj [
      ("children", .arr []),
      ("name", (Members.get? "name" c).getD (.str "unknown")),
      ("props", (Members.get? "props" c).getD (.obj [])),
      ("type", .str "component")]
  | _ => none

/-- The components of a flat list in one column. Reference: `column_layout`. -/
def column (components : List Json) : Json :=
  .obj [("children", .arr (components.filterMap leaf?)), ("name", .str "column"),
    ("props", .obj [("gap", .num (.int 12))]), ("type", .str "layout")]

/-- A view whose components stand in a flat list gets a tree of them instead, if it has none. The
list is dropped only then. Reference: the first half of `normalize_ui_intent`. -/
def withTree (view : Members) : Members :=
  if view.contains "component_tree" then view
  else match view.get? "components" with
    | some (.arr components) =>
      (view.erase "components").insert "component_tree" (column components)
    | _ => view

/-- The view of a draft: null if it is no object or has no tree. Otherwise its bindings and
subscriptions are filled in with null. Reference: `normalize_ui_intent`. -/
def normalizeView : Json → Json
  | .obj view =>
    let view := withTree view
    if view.contains "component_tree" then
      .obj (Members.insertNew "subscriptions" .null (view.insertNew "bindings" .null))
    else .null
  | _ => .null

section
variable {view : Members}

/-- A view with a tree keeps what it says, and what every view has is filled in. -/
theorem normalizeView_of_contains (htree : view.contains "component_tree" = true) :
    normalizeView (.obj view) =
      .obj ((view.insertNew "bindings" .null).insertNew "subscriptions" .null) := by
  have hsame : withTree view = view := if_pos htree
  rw [normalizeView, hsame, if_pos htree]

/-- A view without a tree that lists its components gets the column of them in place of the list,
and what every view has is filled in. -/
theorem normalizeView_of_flat {components : List Json}
    (htree : view.get? "component_tree" = none)
    (hlist : view.get? "components" = some (.arr components)) :
    normalizeView (.obj view) =
      .obj ((((view.erase "components").insert "component_tree" (column components)).insertNew
        "bindings" .null).insertNew "subscriptions" .null) := by
  have hwith : withTree view =
      (view.erase "components").insert "component_tree" (column components) := by
    rw [withTree, Members.contains, htree, if_neg (by decide), hlist]
  have hcontains : (withTree view).contains "component_tree" = true := by
    rw [hwith, Members.contains, Members.get?_insert_self]
    rfl
  rw [normalizeView, if_pos hcontains, hwith]

end

/-- The members of a draft that is an object, with what every plan has except its view: the schema
tag and the rationale if they are absent, and the steps in any case. Reference:
`normalize_tool_plan`, up to the view. -/
def normalizeBase (draft : Members) : Members :=
  let base := Members.insertNew "rationale" (.str defaultRationale) <|
    draft.insertNew "schema" (.str Plan.schemaTag)
  base.insert "steps" (.arr (normalizeSteps (base.get? "steps")))

/-- The normal form of a draft; a draft that is no object is taken for an empty one. A draft without
a view is not given a safety note. Reference: `normalize_tool_plan`. -/
def normalize (draft : Json) : Json :=
  let base := normalizeBase (draft.members?.getD [])
  match base.get? "uiIntent" with
  | none | some .null => .obj (base.insert "uiIntent" .null)
  | some view =>
    .obj (Members.insertNew "safety" (.obj []) (base.insert "uiIntent" (normalizeView view)))

end AgentPlan.Draft
