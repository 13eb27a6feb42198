import AgentPlan.Draft.TimeToLive
import AgentPlan.Text.Basic

/-!
# Defects of a draft

What keeps a draft from being a plan. `defects` lists every one in the order of the plan's fields,
each with the path to the place in the draft where it lies.
-/

namespace AgentPlan.Draft

open Json (Members)

/-- A step of a path into a draft: a key of an object, or an index of an array. Paths are kept as
lists of steps and written out with dots only at the end. Reference: the second argument of
`join`. -/
inductive Segment where
  | key (name : String)
  | index (position : Nat)
deriving DecidableEq, Repr

/-- What is wrong at a place: the kinds of messages that the checks report. `unreadable` is for a
draft in which the walk finds nothing wrong and which still is no plan. Reference: the messages
pushed by `check_plan` and the functions that it calls. -/
inductive Problem where
  | required
  | notDictionary
  | notDictionaryOrNull
  | notText
  | notTextOrNull
  | emptyText
  | notList
  | notListOrNull
  | notIntegerOrNull
  | wrongSchema
  | wrongKind
  | duplicateId (id : String)
  | unreadable
deriving DecidableEq, Repr

/-- A problem and the path to it, from the root of the draft. Reference: an entry of `Defects`. -/
structure Defect where
  path : List Segment
  problem : Problem
deriving DecidableEq, Repr

/-! ## Messages -/

/-- The text of a segment: the key as it is, or the index in decimal digits. Reference: `join`. -/
def Segment.text : Segment → String
  | .key name => name
  | .index position => toString position

/-- The message of a problem, as it stands in a report and, by way of the report, in the prompt of a
repair. Reference: `REQUIRED` and the messages pushed by `check_plan`. -/
def Problem.message : Problem → String
  | .required => "field required"
  | .notDictionary => "input should be a valid dictionary"
  | .notDictionaryOrNull => "input should be a valid dictionary or null"
  | .notText => "input should be a valid string"
  | .notTextOrNull => "input should be a valid string or null"
  | .emptyText => "string should not be empty"
  | .notList => "input should be a valid list"
  | .notListOrNull => "input should be a valid list or null"
  | .notIntegerOrNull => "input should be a valid integer or null"
  | .wrongSchema => "input should be '" ++ Plan.schemaTag ++ "'"
  | .wrongKind => "input should be 'layout' or 'component'"
  | .duplicateId id => "duplicate step id '" ++ id ++ "'"
  | .unreadable => "input should be a valid plan"

/-- The path of a defect, its segments joined by dots; the draft itself is called `(root)`.
Reference: `join`. -/
def Defect.pathText (d : Defect) : String :=
  match d.path with
  | [] => "(root)"
  | path => String.intercalate "." (path.map Segment.text)

/-- The line of a defect in a report, without the line break in front. Reference:
`Defects.render`. -/
def Defect.line (d : Defect) : String :=
  d.pathText ++ ": " ++ d.problem.message

/-- The report of some defects: how many there are, and a line for each, in their order. Reference:
`Defects.render`. -/
def report (defects : List Defect) : String :=
  toString defects.length ++ " validation error(s) for ToolPlan" ++
    String.join (defects.map fun d => "\n" ++ d.line)

/-! ## Building blocks -/

/-- The defect one level further down: what is found in a part is a defect of the whole at a longer
path. Reference: `join`. -/
def Defect.below (s : Segment) (d : Defect) : Defect :=
  { d with path := s :: d.path }

/-- The defects of a part, seen from the whole. A check is given no path, as `check_node` is; its
defects are moved below the path by whoever calls it. Reference: `join`. -/
def below (s : Segment) (ds : List Defect) : List Defect :=
  ds.map (Defect.below s)

/-- The one defect of a place, which is the value itself that is checked. Reference:
`Defects.push`. -/
def here (p : Problem) : List Defect :=
  [⟨[], p⟩]

/-- The defects of a member, which `check` finds in its value, or in its absence. Every check of a
field is an instance of this. Reference: the matches on `get` in `check_plan` and the functions that
it calls. -/
def member (key : String) (check : Option Json → List Defect) (m : Members) : List Defect :=
  below (.key key) (check (m.get? key))

/-- A string has to be there. It may be blank: only identifiers and rationales may not. Reference:
`check_required_string`. -/
def requiredText : Option Json → List Defect
  | none => here .required
  | some (.str _) => []
  | some _ => here .notText

/-- An object may be there; null is not one. Reference: `check_optional_object`. -/
def optionalObject : Option Json → List Defect
  | none | some (.obj _) => []
  | some _ => here .notDictionary

/-- The defects of the items of a list, each below its index, from an index on. Reference: the loops
over `enumerate` in `check_ui_intent` and `check_subscription`. -/
def itemsFrom (check : Json → List Defect) (index : Nat) : List Json → List Defect
  | [] => []
  | v :: rest => below (.index index) (check v) ++ itemsFrom check (index + 1) rest

/-- An object with the given defects of its members. Any other value has one defect, and nothing in
it is looked at. Reference: the guards on `as_object` at the start of `check_plan`,
`check_subscription` and `check_node`. -/
def object (check : Members → List Defect) : Json → List Defect
  | .obj m => check m
  | _ => here .notDictionary

/-! ## Steps -/

/-- The identifier of a step is a string that is not blank and not among those already seen.
Identifiers are compared as they are, without trimming. Reference: the match on `id` in
`check_steps`. -/
def idDefects (seen : List String) : Option Json → List Defect
  | none => here .required
  | some (.str id) =>
    if Text.blank id then here .emptyText
    else if id ∈ seen then here (.duplicateId id)
    else []
  | some _ => here .notText

/-- A time to live is null or a number with an integral value of 64 bits, written as an integer or
as a float. Reference: the match on `cache_ttl_seconds` in `check_steps`, by `integral_ttl`. -/
def ttlDefects : Option Json → List Defect
  | none | some .null => []
  | some v => if v.ttl?.isSome then [] else here .notIntegerOrNull

/-- The defects of a step, with the identifiers of the steps before it. Reference: the body of the
loop in `check_steps`. -/
def stepDefects (seen : List String) : Json → List Defect :=
  object fun m => member "id" (idDefects seen) m ++ member "tool" requiredText m ++
    member "args" optionalObject m ++ member "cache_ttl_seconds" ttlDefects m

/-- The identifier that a step adds to those seen: a string that is not blank. A step without one,
or one that is no object, adds nothing. Reference: `seen.insert` in `check_steps`. -/
def stepId? (step : Json) : Option String :=
  ((step.get? "id").bind Json.text?).filter fun id => !Text.blank id

/-- The defects of the steps from an index on, where `seen` holds the identifiers of the steps
before. Reference: the loop in `check_steps`. -/
def stepsFrom (seen : List String) (index : Nat) : List Json → List Defect
  | [] => []
  | step :: rest =>
    below (.index index) (stepDefects seen step) ++
      stepsFrom (seen ++ (stepId? step).toList) (index + 1) rest

/-- The defects of the steps of a draft. Steps may be absent, but not null. Reference: the match on
`steps` in `check_plan`. -/
def stepsDefects : Option Json → List Defect
  | none => []
  | some (.arr steps) => stepsFrom [] 0 steps
  | some _ => here .notList

/-! ## Nodes -/

/-- The kind of a node has one of two names; another string has the same defect as another value.
Reference: the match on `type` in `check_node`. -/
def kindDefects : Option Json → List Defect
  | none => here .required
  | some (.str name) => if (NodeKind.ofName? name).isSome then [] else here .wrongKind
  | some _ => here .wrongKind

mutual

/-- The defects of a node and of what is below it, however deep that is. Reference: `check_node`. -/
def nodeDefects : Json → List Defect
  | .obj m =>
    member "type" kindDefects m ++ member "name" requiredText m ++
      member "props" optionalObject m ++ below (.key "children") (childrenDefects m)
  | _ => here .notDictionary

/-- The defects of the children that an object lists, below their key. The object is searched here,
and not by `member`, so that the recursion is seen to go to parts of the node. Reference: the match
on `children` in `check_node`. -/
def childrenDefects : List (String × Json) → List Defect
  | [] => []
  | (k, v) :: rest =>
    if k = "children" then
      match v with
      | .arr nodes => nodesFrom 0 nodes
      | _ => here .notList
    else childrenDefects rest

/-- The defects of the nodes from an index on. This is `itemsFrom nodeDefects`, spelled out for the
recursion. Reference: the loop in `check_node`. -/
def nodesFrom (index : Nat) : List Json → List Defect
  | [] => []
  | v :: rest => below (.index index) (nodeDefects v) ++ nodesFrom (index + 1) rest

end

/-! ## Views -/

/-- A view has a tree, which is checked as a node whatever its kind of value. Reference: the match
on `component_tree` in `check_ui_intent`. -/
def treeDefects : Option Json → List Defect
  | none => here .required
  | some v => nodeDefects v

/-- A list may be absent or null; the items of one that is there are checked. Reference: the matches
on `bindings` and `subscriptions` in `check_ui_intent`. -/
def optionalList (check : Json → List Defect) : Option Json → List Defect
  | none | some .null => []
  | some (.arr items) => itemsFrom check 0 items
  | some _ => here .notListOrNull

/-- The defects of a binding, whose three members are strings. Reference: the loop over bindings in
`check_ui_intent`. -/
def bindingDefects : Json → List Defect :=
  object fun m => member "componentPath" requiredText m ++ member "prop" requiredText m ++
    member "from" requiredText m

/-- The place for the result of a refresh action is a string, null, or absent. Reference: the match
on `patchPath` in `check_subscription`. -/
def patchPathDefects : Option Json → List Defect
  | none | some .null | some (.str _) => []
  | some _ => here .notTextOrNull

/-- The defects of a refresh action. Reference: the body of the loop in `check_subscription`. -/
def refreshDefects : Json → List Defect :=
  object fun m => member "tool" requiredText m ++ member "args" optionalObject m ++
    member "patchPath" patchPathDefects m

/-- A list of refresh actions has to be there; unlike the lists of a view it may not be null.
Reference: the match on `refresh` in `check_subscription`. -/
def refreshListDefects : Option Json → List Defect
  | none => here .required
  | some (.arr actions) => itemsFrom refreshDefects 0 actions
  | some _ => here .notList

/-- The defects of a subscription: of its event, then of its refresh actions. Reference:
`check_subscription`. -/
def subscriptionDefects : Json → List Defect :=
  object fun m => member "event" requiredText m ++ member "refresh" refreshListDefects m

/-- The defects of a view that is an object: of the tree, the bindings and the subscriptions.
Reference: `check_ui_intent`. -/
def viewDefects (m : Members) : List Defect :=
  member "component_tree" treeDefects m ++ member "bindings" (optionalList bindingDefects) m ++
    member "subscriptions" (optionalList subscriptionDefects) m

/-! ## Plans -/

/-- The schema tag is the one of plans; a string that is not, and a value that is no string, have
the same defect. Reference: the match on `schema` in `check_plan`. -/
def schemaDefects : Option Json → List Defect
  | none => here .required
  | some (.str tag) => if tag = Plan.schemaTag then [] else here .wrongSchema
  | some _ => here .wrongSchema

/-- A rationale is a string that is not blank. Reference: the match on `rationale` in
`check_plan`. -/
def rationaleDefects : Option Json → List Defect
  | none => here .required
  | some (.str s) => if Text.blank s then here .emptyText else []
  | some _ => here .notText

/-- A view may be absent or null; one that is an object is checked. Reference: the match on
`uiIntent` in `check_plan`. -/
def optionalView : Option Json → List Defect
  | none | some .null => []
  | some (.obj view) => viewDefects view
  | some _ => here .notDictionaryOrNull

/-- A safety note may be absent or null, and an object says what it likes. Reference: the match on
`safety` in `check_plan`. -/
def safetyDefects : Option Json → List Defect
  | none | some .null | some (.obj _) => []
  | some _ => here .notDictionaryOrNull

/-- The defects of a draft, in the order of the plan's fields. Reference: `check_plan`. -/
def defects : Json → List Defect :=
  object fun m => member "schema" schemaDefects m ++ member "rationale" rationaleDefects m ++
    member "steps" stepsDefects m ++ member "uiIntent" optionalView m ++
    member "safety" safetyDefects m

/-- The plan that a draft is, or its defects. The walk decides: a draft without a defect reads as a
plan (`validate_returns_plan_iff_wellFormed`), once its floats with integral values are integers.
Reference: `validate_tool_plan`. -/
def validate (draft : Json) : Except (List Defect) Plan :=
  match defects draft with
  | [] => match Plan.ofJson? (withIntegerTtls draft) with
    | some plan => .ok plan
    | none => .error (here .unreadable)
  | ds => .error ds

end AgentPlan.Draft
