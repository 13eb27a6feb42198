import AgentPlan.Proofs.Draft.Acceptance
import AgentPlan.Proofs.Json.Places
import AgentPlan.Plan.Encode

/-!
# What validation changes in a draft

The plan of an accepted draft, as a JSON value, is the draft with three kinds of changes: members
that the format does not know are dropped from its records, absent members that have a default are
filled in, and a time to live that is a float becomes the integer that it is equal to. `Shape` is
the format as data, and `Shape.tidy` makes these changes and no other; the members of a record come
out in the order of the format. Records are tidied one after another, from the texts and objects
that they hold to the whole plan (`toJson_eq_tidy`). Since a list is tidied item by item and the
values in `args`, `props` and `safety` not at all, both are found again at their old places
(`validate_tidies`).
-/

namespace AgentPlan

open Json (Members)

/-- A number with an integral value as an integer; another number as it is. -/
def Json.Number.integral (n : Json.Number) : Json.Number :=
  if n.value.den = 1 then .int n.value.num else n

/-- A number that is equal to an integer becomes this integer. -/
theorem Json.Number.integral_of_value {n : Json.Number} {i : Int} (h : n.value = i) :
    n.integral = .int i := by
  rw [integral, h, if_pos (Rat.den_intCast i), Rat.num_intCast]

/-- The value of a key is smaller than the object. -/
theorem Json.Members.sizeOf_lt_of_get? {key : String} {m : Members} {v : Json}
    (h : get? key m = some v) : sizeOf v < sizeOf m := by
  induction m with
  | nil => cases h
  | cons member rest ih =>
    obtain ⟨k, w⟩ := member
    rw [get?] at h
    simp only [List.cons.sizeOf_spec, Prod.mk.sizeOf_spec]
    split at h
    · cases h
      omega
    · have := ih h
      omega

namespace Draft

/-! ## The format -/

/-- What a part of a draft is: one of the records, a time to live, a list, or a value that the
format does not look into. -/
inductive Shape where
  | plan
  | step
  | view
  | node
  | binding
  | subscription
  | refresh
  | ttl
  | verbatim
  | list (item : Shape)
deriving DecidableEq, Repr

/-- A member of a record: its key, its value where the member is absent, if it may be, and the shape
of its value. -/
structure Field where
  key : String
  default? : Option Json
  shape : Shape

/-- A member that has to be there. -/
def Field.required (key : String) (shape : Shape := .verbatim) : Field :=
  ⟨key, none, shape⟩

/-- A member with a default. -/
def Field.optional (key : String) (default : Json) (shape : Shape := .verbatim) : Field :=
  ⟨key, some default, shape⟩

namespace Shape

/-- The members of the records. -/
def fields? : Shape → Option (List Field)
  | .plan => some [.required "schema", .required "rationale",
      .optional "steps" (.arr []) (.list .step), .optional "uiIntent" .null .view,
      .optional "safety" .null]
  | .step => some [.required "id", .required "tool", .optional "args" (.obj []),
      .optional "cache_ttl_seconds" .null .ttl]
  | .view => some [.required "component_tree" .node,
      .optional "bindings" .null (.list .binding),
      .optional "subscriptions" .null (.list .subscription)]
  | .node => some [.required "type", .required "name", .optional "props" (.obj []),
      .optional "children" (.arr []) (.list .node)]
  | .binding => some [.required "componentPath", .required "prop", .required "from"]
  | .subscription => some [.required "event", .required "refresh" (.list .refresh)]
  | .refresh => some [.required "tool", .optional "args" (.obj []), .optional "patchPath" .null]
  | .ttl | .verbatim | .list _ => none

/-- The keys of a record are pairwise different. -/
theorem nodup_keys {shape : Shape} {fields : List Field} (h : shape.fields? = some fields) :
    (fields.map Field.key).Nodup := by
  cases shape <;> cases h <;> decide

/-- A value of a shape without unknown members, with its defaults filled in and with integers for
its times to live. A value that is not of the shape stays as it is. -/
def tidy (shape : Shape) (v : Json) : Json :=
  match shape, v with
  | .list item, .arr items => .arr (items.map fun v => item.tidy v)
  | .ttl, .num n => .num n.integral
  | shape, .obj m =>
    match shape.fields? with
    | none => .obj m
    | some fields => .obj (fields.filterMap fun field =>
        match _hget : Members.get? field.key m with
        | some v => some (field.key, field.shape.tidy v)
        | none => field.default?.map (field.key, ·))
  | _, v => v
termination_by sizeOf v
decreasing_by
  · have := List.sizeOf_lt_of_mem ‹_›
    simp only [Json.arr.sizeOf_spec]
    omega
  · have := Members.sizeOf_lt_of_get? _hget
    simp only [Json.obj.sizeOf_spec]
    omega

end Shape

/-- The member of a tidy record that comes from a field. -/
def Field.member? (field : Field) (m : Members) : Option (String × Json) :=
  match Members.get? field.key m with
  | some v => some (field.key, field.shape.tidy v)
  | none => field.default?.map (field.key, ·)

namespace Shape

variable {shape : Shape}

/-- A list is tidied item by item. -/
theorem tidy_arr (item : Shape) (items : List Json) :
    (Shape.list item).tidy (.arr items) = .arr (items.map item.tidy) := by
  rw [tidy]

/-- A record is tidied field by field. -/
theorem tidy_obj {fields : List Field} (h : shape.fields? = some fields) (m : Members) :
    shape.tidy (.obj m) = .obj (fields.filterMap (·.member? m)) := by
  have hmember : (fun field : Field => match _hget : Members.get? field.key m with
      | some v => some (field.key, field.shape.tidy v)
      | none => field.default?.map (field.key, ·)) = (·.member? m) := by
    funext field
    rw [Field.member?]
    split <;> simp_all
  rw [tidy, h]
  exact congrArg (fun f => Json.obj (fields.filterMap f)) hmember

/-- A time to live becomes an integer if it is one. -/
theorem tidy_num (n : Json.Number) : ttl.tidy (.num n) = .num n.integral := by
  rw [tidy]

/-- A value that the format does not look into stays as it is. -/
theorem tidy_verbatim (v : Json) : verbatim.tidy v = v := by
  cases v <;> simp [tidy, fields?]

/-- A text that was read stays as it is. -/
theorem str_eq_tidy (v : Json) (s : String) (h : v.text? = some s) :
    .str s = verbatim.tidy v := by
  rw [tidy_verbatim]
  cases v <;> cases h
  rfl

/-- An object that was read stays as it is. -/
theorem obj_eq_tidy (v : Json) (m : Members) (h : v.members? = some m) :
    .obj m = verbatim.tidy v := by
  rw [tidy_verbatim]
  cases v <;> cases h
  rfl

/-- Null is tidy in every shape. -/
theorem tidy_null (shape : Shape) : shape.tidy .null = .null := by
  cases shape <;> simp [tidy]

end Shape

/-! ## Fields

What was read from the members of a record, against the member of the tidy record. -/

namespace Field

variable {key : String} {m : Members} {v : Json}

/-- A member that is there is tidied. -/
theorem member?_of_get? {field : Field} {w : Json} (h : Members.get? field.key m = some v)
    (hw : w = field.shape.tidy v) : field.member? m = some (field.key, w) := by
  simp only [member?, h, hw]

/-- The default stands in for a member that is absent. -/
theorem member?_of_none {field : Field} (h : Members.get? field.key m = none) :
    field.member? m = field.default?.map (field.key, ·) := by
  simp only [member?, h]

/-- A text stays as it is. -/
theorem member?_of_text {s : String} (h : m.text? key = some s) :
    (required key).member? m = some (key, .str s) :=
  member?_of_get? (text?_eq_some_iff.1 h) (Shape.tidy_verbatim _).symm

/-- An object stays as it is, and is empty where it is absent. -/
theorem member?_of_object {o : Members} (h : m.objectOrEmpty? key = some o) :
    (optional key (.obj [])).member? m = some (key, .obj o) := by
  rw [Members.objectOrEmpty?] at h
  split at h
  · next hget =>
    cases h
    exact member?_of_none hget
  · next v hget =>
    cases v <;> cases h
    exact member?_of_get? hget (Shape.tidy_verbatim _).symm

section
variable {α : Type} {read : Json → Option α} {encode : α → Json} {shape item : Shape}

/-- A value that may be null is tidied if it is not, and is null where it is absent. -/
theorem member?_of_nullable (hread : ∀ v a, read v = some a → encode a = shape.tidy v)
    {a : Option α} (h : m.nullable? key read = some a) :
    (optional key .null shape).member? m = some (key, Json.orNull encode a) := by
  rw [Members.nullable?] at h
  split at h
  · next hget =>
    cases h
    exact member?_of_none hget
  · next hget =>
    cases h
    exact member?_of_get? hget (Shape.tidy_null shape).symm
  · next v _ hget =>
    obtain ⟨b, hb, rfl⟩ := Option.map_eq_some_iff.1 h
    exact member?_of_get? hget (hread v b hb)

variable {as : List α} (hread : ∀ a ∈ as, ∀ v, read v = some a → encode a = item.tidy v)
include hread

/-- The items of a list that was read are tidied one by one. -/
theorem map_eq_map_tidy {items : List Json} (h : items.mapM read = some as) :
    as.map encode = items.map item.tidy := by
  rw [mapM_eq_some_iff_forall₂] at h
  induction h with
  | nil => rfl
  | cons hitem _ ih =>
    rw [List.forall_mem_cons] at hread
    rw [List.map_cons, List.map_cons, hread.1 _ hitem, ih hread.2]

/-- A list that was read is tidied. -/
theorem arr_eq_tidy (h : (v.items?.bind fun items => items.mapM read) = some as) :
    .arr (as.map encode) = (Shape.list item).tidy v := by
  obtain ⟨items, hitems, has⟩ := Option.bind_eq_some_iff.1 h
  cases v <;> cases hitems
  rw [Shape.tidy_arr, map_eq_map_tidy hread has]

/-- A list that has to be there is tidied. -/
theorem member?_of_list (h : m.list? key read = some as) :
    (required key (.list item)).member? m = some (key, .arr (as.map encode)) := by
  rw [Members.list?, Option.bind_assoc] at h
  obtain ⟨v, hget, hv⟩ := Option.bind_eq_some_iff.1 h
  exact member?_of_get? hget (arr_eq_tidy hread hv)

/-- A list that may be absent is tidied, and is empty where it is absent. -/
theorem member?_of_listOrEmpty (h : m.listOrEmpty? key read = some as) :
    (optional key (.arr []) (.list item)).member? m = some (key, .arr (as.map encode)) := by
  rw [Members.listOrEmpty?] at h
  split at h
  · next hget =>
    cases h
    exact member?_of_none hget
  · next v hget => exact member?_of_get? hget (arr_eq_tidy hread h)

end

end Field

end Draft

open Draft

/-! ## Views -/

/-- A binding that is read and written again is tidied. -/
theorem Binding.toJson_eq_tidy (v : Json) (b : Binding) (h : Binding.ofJson? v = some b) :
    b.toJson = Shape.binding.tidy v := by
  cases v with
  | obj m =>
    obtain ⟨hpath, hprop, hsource⟩ := Binding.ofJson?_obj_eq_some_iff.1 h
    rw [Shape.tidy_obj rfl]
    simp only [List.filterMap_cons, Field.member?_of_text hpath, Field.member?_of_text hprop,
      Field.member?_of_text hsource]
    rfl
  | null | bool | num | str | arr => cases h

/-- A refresh action that is read and written again is tidied. -/
theorem Refresh.toJson_eq_tidy (v : Json) (r : Refresh) (h : Refresh.ofJson? v = some r) :
    r.toJson = Shape.refresh.tidy v := by
  cases v with
  | obj m =>
    obtain ⟨htool, hargs, hpath⟩ := Refresh.ofJson?_obj_eq_some_iff.1 h
    rw [Shape.tidy_obj rfl]
    simp only [List.filterMap_cons, Field.member?_of_text htool, Field.member?_of_object hargs,
      Field.member?_of_nullable Shape.str_eq_tidy hpath]
    rfl
  | null | bool | num | str | arr => cases h

/-- A subscription that is read and written again is tidied, with its actions. -/
theorem Subscription.toJson_eq_tidy (v : Json) (s : Subscription)
    (h : Subscription.ofJson? v = some s) : s.toJson = Shape.subscription.tidy v := by
  cases v with
  | obj m =>
    obtain ⟨hevent, hrefresh⟩ := Subscription.ofJson?_obj_eq_some_iff.1 h
    rw [Shape.tidy_obj rfl]
    simp only [List.filterMap_cons, Field.member?_of_text hevent,
      Field.member?_of_list (fun r _ v => Refresh.toJson_eq_tidy v r) hrefresh]
    rfl
  | null | bool | num | str | arr => cases h

/-- The kind of a node stays as it is. -/
theorem Draft.Field.member?_of_kind {m : Members} {kind : NodeKind}
    (h : (m.text? "type").bind NodeKind.ofName? = some kind) :
    (required "type").member? m = some ("type", .str kind.name) := by
  obtain ⟨name, htext, hname⟩ := Option.bind_eq_some_iff.1 h
  rw [member?_of_text htext]
  rw [NodeKind.ofName?] at hname
  split_ifs at hname with hlayout hcomponent
  · cases hname
    rw [hlayout]
    rfl
  · cases hname
    rw [hcomponent]
    rfl

/-- Nodes are written one by one. -/
theorem Node.toJsonList_eq_map : ∀ nodes : List Node, Node.toJsonList nodes = nodes.map toJson
  | [] => rfl
  | node :: nodes => by rw [toJsonList, toJsonList_eq_map nodes, List.map_cons]

mutual

/-- A node that was read is tidied, whatever its depth. -/
theorem Node.toJson_eq_tidy : ∀ (node : Node) (v : Json), Node.ofJson? v = some node →
    node.toJson = Shape.node.tidy v
  | .mk kind name props children, .obj m, h => by
    obtain ⟨hkind, hname, hprops, hchildren⟩ := Node.ofJson?_obj_eq_some_iff.1 h
    rw [Shape.tidy_obj rfl, toJson, toJsonList_eq_map]
    simp only [List.filterMap_cons, Field.member?_of_kind hkind, Field.member?_of_text hname,
      Field.member?_of_object hprops, Field.member?_of_listOrEmpty (toJson_eq_tidy_of_mem children)
        hchildren]
    rfl
  | _, .null, h | _, .bool _, h | _, .num _, h | _, .str _, h | _, .arr _, h => by
    simp [Node.ofJson?] at h

/-- Nodes that were read are tidied. -/
theorem Node.toJson_eq_tidy_of_mem : ∀ nodes : List Node, ∀ node ∈ nodes, ∀ v,
    Node.ofJson? v = some node → node.toJson = Shape.node.tidy v
  | node :: nodes, node', hmem, v, h => by
    rcases List.mem_cons.1 hmem with heq | hmem
    · rw [heq] at h ⊢
      exact toJson_eq_tidy node v h
    · exact toJson_eq_tidy_of_mem nodes node' hmem v h

end

/-- A view that is read and written again is tidied, in all its parts. -/
theorem View.toJson_eq_tidy (v : Json) (view : View) (h : View.ofJson? v = some view) :
    view.toJson = Shape.view.tidy v := by
  cases v with
  | obj m =>
    obtain ⟨htree, hbindings, hsubscriptions⟩ := View.ofJson?_obj_eq_some_iff.1 h
    obtain ⟨tree, hget, htree⟩ := Option.bind_eq_some_iff.1 htree
    have htree : (Field.required "component_tree" .node).member? m =
        some ("component_tree", view.tree.toJson) :=
      Field.member?_of_get? hget (Node.toJson_eq_tidy _ tree htree)
    have hbindings : (Field.optional "bindings" .null (.list .binding)).member? m =
        some ("bindings", Json.orNull (fun bs => .arr (bs.map Binding.toJson)) view.bindings) :=
      Field.member?_of_nullable
        (fun v bs => Field.arr_eq_tidy fun b _ v => Binding.toJson_eq_tidy v b) hbindings
    have hsubscriptions :
        (Field.optional "subscriptions" .null (.list .subscription)).member? m =
          some ("subscriptions",
            Json.orNull (fun ss => .arr (ss.map Subscription.toJson)) view.subscriptions) :=
      Field.member?_of_nullable
        (fun v ss => Field.arr_eq_tidy fun s _ v => Subscription.toJson_eq_tidy v s) hsubscriptions
    rw [Shape.tidy_obj rfl]
    simp only [List.filterMap_cons, htree, hbindings, hsubscriptions]
    rfl
  | null | bool | num | str | arr => cases h

/-! ## Plans -/

/-- A time to live that was read is tidied to the integer that it is equal to. -/
theorem Draft.Shape.int_eq_tidy (v : Json) (t : Int64) (h : v.ttl? = some t) :
    .num (.int t.toInt) = Shape.ttl.tidy v := by
  cases v with
  | num n =>
    have hvalue : n.value = t.toInt := Json.Number.toInt64?_eq_some_iff.1 h
    rw [Shape.tidy_num, Json.Number.integral_of_value hvalue]
  | null | bool | str | arr | obj => cases h

/-- A step that is read, with its time to live made an integer, and written again is tidied. -/
theorem Step.toJson_eq_tidy (v : Json) (s : Step) (h : Step.ofJson? (integerStep v) = some s) :
    s.toJson = Shape.step.tidy v := by
  cases v with
  | obj m =>
    obtain ⟨hid, htool, hargs, httl⟩ := Step.ofJson?_integerStep_obj_eq_some_iff.1 h
    rw [Shape.tidy_obj rfl]
    simp only [List.filterMap_cons, Field.member?_of_text hid, Field.member?_of_text htool,
      Field.member?_of_object hargs, Field.member?_of_nullable Shape.int_eq_tidy httl]
    rfl
  | null | bool | num | str | arr => cases h

/-- A draft that is read as a plan and written again is tidied, in all its parts. -/
theorem Plan.toJson_eq_tidy {draft : Json} {plan : Plan}
    (h : Plan.ofJson? (withIntegerTtls draft) = some plan) :
    plan.toJson = Shape.plan.tidy draft := by
  cases draft with
  | obj m =>
    obtain ⟨hschema, hrationale, hsteps, hview, hsafety⟩ :=
      Plan.ofJson?_withIntegerTtls_obj_eq_some_iff.1 h
    rw [Shape.tidy_obj rfl]
    simp only [List.filterMap_cons, Field.member?_of_text hschema,
      Field.member?_of_text hrationale,
      Field.member?_of_listOrEmpty (fun s _ v => Step.toJson_eq_tidy v s) hsteps,
      Field.member?_of_nullable View.toJson_eq_tidy hview,
      Field.member?_of_nullable Shape.obj_eq_tidy hsafety]
    rfl
  | null | bool | num | str | arr => cases h

/-! ## Places -/

namespace Draft

/-- The member of a tidy record has the key of its field. -/
theorem Field.key_of_member? {field : Field} {m : Members} {member : String × Json}
    (h : field.member? m = some member) : member.1 = field.key := by
  cases hget : Members.get? field.key m with
  | some v =>
    rw [member?_of_get? hget rfl] at h
    cases h
    rfl
  | none =>
    rw [member?_of_none hget] at h
    obtain ⟨_, _, rfl⟩ := Option.map_eq_some_iff.1 h
    rfl

namespace Shape

/-- Under the key of a field, a tidy record has the tidy value that was there. -/
theorem get?_members {fields : List Field} (hnodup : (fields.map Field.key).Nodup) {field : Field}
    (hfield : field ∈ fields) {m : Members} {v : Json}
    (hget : Members.get? field.key m = some v) :
    Members.get? field.key (fields.filterMap (·.member? m)) = some (field.shape.tidy v) := by
  induction fields with
  | nil => cases hfield
  | cons first rest ih =>
    rw [List.map_cons, List.nodup_cons] at hnodup
    rcases List.mem_cons.1 hfield with rfl | hrest
    · rw [List.filterMap_cons, Field.member?_of_get? hget rfl]
      exact if_pos rfl
    · have hne : first.key ≠ field.key :=
        fun heq => hnodup.1 (heq ▸ List.mem_map_of_mem hrest)
      rw [List.filterMap_cons]
      split
      · exact ih hnodup.2 hrest
      · next member hmember =>
        obtain ⟨key, w⟩ := member
        obtain rfl : key = first.key := Field.key_of_member? hmember
        rw [Members.get?, if_neg hne]
        exact ih hnodup.2 hrest

/-- In a value of a shape, some words lead to a part of another shape: each of them is the key of a
member that the format knows, or the index of an item of a list. -/
inductive Leads : Shape → Json → List String → Shape → Json → Prop
  | here {shape : Shape} {v : Json} : Leads shape v [] shape v
  | member {shape target : Shape} {fields : List Field} (field : Field) {m : Members} {v w : Json}
      {words : List String} :
      shape.fields? = some fields → field ∈ fields → m.get? field.key = some v →
      Leads field.shape v words target w → Leads shape (.obj m) (field.key :: words) target w
  | item {item target : Shape} {items : List Json} {index : Nat} {v w : Json}
      {words : List String} :
      items[index]? = some v → Leads item v words target w →
      Leads (.list item) (.arr items) (toString index :: words) target w

namespace Leads

variable {shape target : Shape} {v w : Json} {words : List String}

/-- The words lead there whatever the shapes are. -/
theorem toLeads (h : shape.Leads v words target w) : v.Leads words w := by
  induction h with
  | here => exact .here
  | member _ _ _ hget _ ih => exact .key hget ih
  | item hget _ ih => exact .item hget ih

/-- **A part stays at its place.** In the tidy value, the words lead to the tidy part. -/
theorem tidy (h : shape.Leads v words target w) : (shape.tidy v).Leads words (target.tidy w) := by
  induction h with
  | here => exact .here
  | member _ hfields hfield hget _ ih =>
    rw [tidy_obj hfields]
    exact .key (get?_members (nodup_keys hfields) hfield hget) ih
  | item hget _ ih =>
    rw [tidy_arr]
    exact .item (by rw [List.getElem?_map, hget, Option.map_some]) ih

end Leads

end Shape

/-- **Validation tidies a draft and changes nothing else.** The JSON value of the plan is the draft
without unknown members, with the defaults filled in and with integers for the times to live. So
every list has as many items as in the draft, in the same order, each of them tidied, and every
value that the format does not look into stands where it stood, unchanged. Reference:
`validate_tool_plan` and the decoder of `ToolPlan`. -/
theorem validate_tidies {draft : Json} {plan : Plan} (h : validate draft = .ok plan) :
    plan.toJson = Shape.plan.tidy draft ∧
    (∀ words item items, Shape.plan.Leads draft words (.list item) (.arr items) →
      plan.toJson.Leads words (.arr (items.map item.tidy))) ∧
    ∀ words v, Shape.plan.Leads draft words .verbatim v →
      draft.Leads words v ∧ plan.toJson.Leads words v := by
  have htidy := Plan.toJson_eq_tidy (validate_eq_ok_iff_read.1 h).1
  refine ⟨htidy, fun words item items hlist => ?_, fun words v hverbatim => ?_⟩
  · rw [htidy, ← Shape.tidy_arr]
    exact hlist.tidy
  · refine ⟨hverbatim.toLeads, ?_⟩
    rw [htidy]
    have hplace := hverbatim.tidy
    rwa [Shape.tidy_verbatim] at hplace

/-- A step with unknown members and a time to live of `60.0`, with another `60.0` under the same key
of its arguments, and a view of two nodes: only the first float becomes an integer. -/
theorem validate_tidies_floats :
    let float : Json := .num (.float ⟨false, 60, 0⟩)
    let args : Json := .obj [("cache_ttl_seconds", float)]
    let draft : Json := .obj [("extra", .bool true), ("rationale", .str "r"),
      ("schema", .str "tool_plan.v1"),
      ("steps", .arr [.obj [("args", args), ("cache_ttl_seconds", float), ("id", .str "a"),
        ("note", float), ("tool", .str "t")]]),
      ("uiIntent", .obj [("component_tree", .obj [("name", .str "row"), ("type", .str "layout"),
        ("children", .arr [.obj [("name", .str "c"), ("type", .str "component")]])])])]
    ∃ plan, validate draft = .ok plan ∧
      plan.toJson = .obj [("schema", .str "tool_plan.v1"), ("rationale", .str "r"),
        ("steps", .arr [.obj [("id", .str "a"), ("tool", .str "t"), ("args", args),
          ("cache_ttl_seconds", .num (.int 60))]]),
        ("uiIntent", .obj [("component_tree", .obj [("type", .str "layout"), ("name", .str "row"),
          ("props", .obj []), ("children", .arr [.obj [("type", .str "component"),
            ("name", .str "c"), ("props", .obj []), ("children", .arr [])]])]),
          ("bindings", .null), ("subscriptions", .null)]),
        ("safety", .null)] ∧
      draft.Leads ["steps", "0", "args"] args ∧ plan.toJson.Leads ["steps", "0", "args"] args := by
  intro float args draft
  have haccepted : ∀ o, validate draft = o → o.toBool = true := by
    rintro _ rfl
    decide +kernel
  cases hvalidate : validate draft with
  | error ds => cases haccepted _ hvalidate
  | ok plan =>
    obtain ⟨htidy, -, hverbatim⟩ := validate_tidies hvalidate
    have hargs : Shape.plan.Leads draft ["steps", toString 0, "args"] .verbatim args :=
      .member (.optional "steps" (.arr []) (.list .step)) rfl (.tail _ (.tail _ (.head _))) rfl
        (.item rfl
          (.member (.optional "args" (.obj [])) rfl (.tail _ (.tail _ (.head _))) rfl .here))
    exact ⟨plan, rfl, htidy.trans (by decide +kernel), hverbatim _ _ hargs⟩

end Draft

end AgentPlan
