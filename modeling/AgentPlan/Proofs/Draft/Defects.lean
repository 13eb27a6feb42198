import AgentPlan.Draft.Defect
import AgentPlan.Proofs.Draft.WellFormed

/-!
# A draft without defects is well-formed

The walk that collects the defects of a draft finds none exactly in the well-formed drafts
(`defects_eq_nil_iff`). Each check of the walk has one lemma that says which values it lets pass;
the checks of a member are joined to `Has` and `MayHave` once for all (`member_eq_nil_iff_has`,
`member_eq_nil_iff_mayHave`), the checks of a list by induction on its items, and the check of a
node by the recursion of the walk itself (`nodeDefects_eq_nil_iff`).
-/

namespace AgentPlan.Draft

open Json (Members)

/-! ## Building blocks -/

/-- Seen from the whole, a part has no defects when it has none by itself. -/
@[simp] theorem below_eq_nil_iff {s : Segment} {ds : List Defect} : below s ds = [] ↔ ds = [] :=
  List.map_eq_nil_iff

/-- A problem of a place is a defect. -/
@[simp] theorem here_ne_nil (p : Problem) : here p ≠ [] :=
  List.cons_ne_nil _ _

/-- A check of one condition finds nothing when the condition holds. -/
@[simp] theorem ite_here_eq_nil_iff {c : Prop} [Decidable c] {p : Problem} :
    (if c then [] else here p) = [] ↔ c := by
  split <;> simp_all

/-- A check that wants a value lets those objects pass that have one it lets pass. -/
theorem member_eq_nil_iff_has {key : String} {check : Option Json → List Defect}
    {P : Json → Prop} {m : Members} (hnone : check none ≠ [])
    (hsome : ∀ v, check (some v) = [] ↔ P v) : member key check m = [] ↔ Has key P m := by
  rw [member, below_eq_nil_iff, Has]
  cases m.get? key with
  | none => simp [hnone]
  | some v => simp [hsome]

/-- A check that lets an absent value pass lets those objects pass whose value, if there is one,
it lets pass. -/
theorem member_eq_nil_iff_mayHave {key : String} {check : Option Json → List Defect}
    {P : Json → Prop} {m : Members} (hnone : check none = [])
    (hsome : ∀ v, check (some v) = [] ↔ P v) : member key check m = [] ↔ MayHave key P m := by
  rw [member, below_eq_nil_iff, MayHave]
  cases m.get? key with
  | none => simp [hnone]
  | some v => simp [hsome]

/-- An object is let pass with its members, and no other value is. -/
theorem object_eq_nil_iff {check : Members → List Defect} {P : Members → Prop}
    (h : ∀ m, check m = [] ↔ P m) (v : Json) : object check v = [] ↔ ObjectOf P v := by
  cases v <;> simp [object, ObjectOf, h]

/-- The items of a list are let pass one by one, whatever their indices. -/
theorem itemsFrom_eq_nil_iff {check : Json → List Defect} {P : Json → Prop}
    (h : ∀ v, check v = [] ↔ P v) (index : Nat) (items : List Json) :
    itemsFrom check index items = [] ↔ ∀ item ∈ items, P item := by
  induction items generalizing index with
  | nil => simp [itemsFrom]
  | cons v rest ih => simp [itemsFrom, h, ih]

/-! ## Simple members -/

/-- A string has to be there. -/
theorem member_requiredText_eq_nil_iff {key : String} {m : Members} :
    member key requiredText m = [] ↔ Has key IsText m :=
  member_eq_nil_iff_has (here_ne_nil _) fun v => by cases v <;> simp [requiredText, IsText]

/-- An object may be there. -/
theorem member_optionalObject_eq_nil_iff {key : String} {m : Members} :
    member key optionalObject m = [] ↔ MayHave key IsObject m :=
  member_eq_nil_iff_mayHave rfl fun v => by cases v <;> simp [optionalObject, IsObject]

/-- A list, null or nothing may be there. -/
theorem member_optionalList_eq_nil_iff {key : String} {m : Members}
    {check : Json → List Defect} {P : Json → Prop} (h : ∀ v, check v = [] ↔ P v) :
    member key (optionalList check) m = [] ↔ MayHave key (NullOr (ListOf P)) m :=
  member_eq_nil_iff_mayHave rfl fun v => by
    cases v <;> simp [optionalList, NullOr, ListOf, itemsFrom_eq_nil_iff h]

/-- A text that is blank is one of which trimming leaves nothing. -/
theorem blank_eq_false_iff {s : String} : Text.blank s = false ↔ Text.trim s ≠ "" := by
  rw [← Bool.not_eq_true, Text.blank_iff_trim_eq]

/-! ## Steps -/

/-- A time to live is let pass exactly when it is a number that stands for an integer of 64 bits,
or null. -/
theorem ttlDefects_eq_nil_iff (v : Json) : ttlDefects (some v) = [] ↔ NullOr IsTtl v := by
  cases v with
  | null => simp [ttlDefects, NullOr]
  | num n =>
    have hread : n.toInt64?.isSome = true ↔ ∃ t : Int64, n.value = t.toInt := by
      simp only [Option.isSome_iff_exists, Json.Number.toInt64?_eq_some_iff]
    have hvalue : (∃ t : Int64, n.value = t.toInt) ↔
        ∃ i : Int, n.value = i ∧ -2 ^ 63 ≤ i ∧ i < 2 ^ 63 := by
      constructor
      · rintro ⟨t, ht⟩
        exact ⟨t.toInt, ht, Json.exists_int64_iff.1 ⟨t, rfl⟩⟩
      · rintro ⟨i, hi, hrange⟩
        obtain ⟨t, rfl⟩ := Json.exists_int64_iff.2 hrange
        exact ⟨t, hi⟩
    have hpass : ttlDefects (some (.num n)) = [] ↔ n.toInt64?.isSome = true :=
      ite_here_eq_nil_iff
    rw [hpass, hread, hvalue]
    simp [NullOr, IsTtl]
  | bool | str | arr | obj => simp [ttlDefects, Json.ttl?, NullOr, IsTtl]

/-- An identifier is let pass exactly when it is a visible string that has not been seen. -/
theorem idDefects_eq_nil_iff {seen : List String} {id? : Option Json} :
    idDefects seen id? = [] ↔
      ∃ id, id? = some (.str id) ∧ Text.trim id ≠ "" ∧ id ∉ seen := by
  cases id? with
  | none => simp [idDefects]
  | some v =>
    cases v with
    | str id =>
      have hblank := blank_eq_false_iff (s := id)
      simp only [idDefects]
      split
      · simp_all
      · split <;> simp_all
    | null | bool | num | arr | obj => simp [idDefects]

/-- A step is let pass exactly when it is well-formed and its identifier has not been seen. -/
theorem stepDefects_eq_nil_iff {seen : List String} {step : Json} :
    stepDefects seen step = [] ↔
      ObjectOf IsStep step ∧ ∀ id ∈ seen, step.get? "id" ≠ some (.str id) := by
  cases step with
  | obj m =>
    have hid : member "id" (idDefects seen) m = [] ↔
        Has "id" IsVisibleText m ∧ ∀ id ∈ seen, Members.get? "id" m ≠ some (.str id) := by
      rw [member, below_eq_nil_iff, idDefects_eq_nil_iff]
      constructor
      · rintro ⟨id, hget, hvisible, hnew⟩
        refine ⟨⟨_, hget, id, rfl, hvisible⟩, fun other hother heq => ?_⟩
        cases hget.symm.trans heq
        exact hnew hother
      · rintro ⟨⟨_, hget, id, rfl, hvisible⟩, hnew⟩
        exact ⟨id, hget, hvisible, fun hseen => hnew id hseen hget⟩
    have httl : member "cache_ttl_seconds" ttlDefects m = [] ↔
        MayHave "cache_ttl_seconds" (NullOr IsTtl) m :=
      member_eq_nil_iff_mayHave rfl ttlDefects_eq_nil_iff
    simp only [stepDefects, object, List.append_eq_nil_iff, hid, httl,
      member_requiredText_eq_nil_iff, member_optionalObject_eq_nil_iff, ObjectOf, Json.get?]
    constructor
    · rintro ⟨⟨⟨⟨hid, hnew⟩, htool⟩, hargs⟩, hcache⟩
      exact ⟨⟨m, rfl, hid, htool, hargs, hcache⟩, hnew⟩
    · rintro ⟨⟨_, heq, hid, htool, hargs, hcache⟩, hnew⟩
      cases heq
      exact ⟨⟨⟨⟨hid, hnew⟩, htool⟩, hargs⟩, hcache⟩
  | null | bool | num | str | arr => simp [stepDefects, object, ObjectOf]

/-- The identifier that a well-formed step adds to those seen is its own. -/
theorem exists_stepId?_of_isStep {step : Json} (h : ObjectOf IsStep step) :
    ∃ id, stepId? step = some id ∧ step.get? "id" = some (.str id) := by
  obtain ⟨m, rfl, hstep⟩ := h
  obtain ⟨_, hget, id, rfl, hvisible⟩ := hstep.id
  refine ⟨id, ?_, hget⟩
  simp [stepId?, Json.get?, hget, Json.text?, Option.filter, blank_eq_false_iff.2 hvisible]

/-- Steps are let pass exactly when each is well-formed, no two have one identifier, and none has
an identifier already seen. -/
theorem stepsFrom_eq_nil_iff (seen : List String) (index : Nat) (steps : List Json) :
    stepsFrom seen index steps = [] ↔
      (∀ step ∈ steps, ObjectOf IsStep step) ∧
      (steps.Pairwise fun a b => a.get? "id" ≠ b.get? "id") ∧
      ∀ step ∈ steps, ∀ id ∈ seen, step.get? "id" ≠ some (.str id) := by
  induction steps generalizing seen index with
  | nil => simp [stepsFrom]
  | cons step rest ih =>
    simp only [stepsFrom, List.append_eq_nil_iff, below_eq_nil_iff, stepDefects_eq_nil_iff, ih,
      List.forall_mem_cons, List.pairwise_cons]
    constructor
    · rintro ⟨⟨hstep, hnew⟩, hrest, hpair, hseen⟩
      obtain ⟨id, hadd, hget⟩ := exists_stepId?_of_isStep hstep
      refine ⟨⟨hstep, hrest⟩, ⟨fun other hother heq => ?_, hpair⟩, hnew, fun other hother id hid =>
        hseen other hother id (List.mem_append_left _ hid)⟩
      exact hseen other hother id (by simp [hadd]) (heq.symm.trans hget)
    · rintro ⟨⟨hstep, hrest⟩, ⟨hfirst, hpair⟩, hnew, hseen⟩
      obtain ⟨id, hadd, hget⟩ := exists_stepId?_of_isStep hstep
      refine ⟨⟨hstep, hnew⟩, hrest, hpair, fun other hother id' hid' => ?_⟩
      rcases List.mem_append.1 hid' with hid' | hid'
      · exact hseen other hother id' hid'
      · obtain rfl : id' = id := by simpa [hadd] using hid'
        exact fun heq => hfirst other hother (hget.trans heq.symm)

/-- A list of steps is let pass exactly when it is well-formed. -/
theorem stepsDefects_eq_nil_iff (v : Json) : stepsDefects (some v) = [] ↔ IsStepList v := by
  cases v <;> simp [stepsDefects, IsStepList, stepsFrom_eq_nil_iff]

/-! ## Nodes -/

/-- A kind is let pass exactly when it has one of the two names. -/
theorem kindDefects_eq_nil_iff (v : Json) : kindDefects (some v) = [] ↔ IsKind v := by
  cases v with
  | str name =>
    rw [kindDefects, ite_here_eq_nil_iff, NodeKind.ofName?]
    split <;> simp_all [IsKind]
  | null | bool | num | arr | obj => simp [kindDefects, IsKind]

/-- The members of a node, its children apart, are let pass exactly when they are well-formed. -/
theorem nodeHead_eq_nil_iff (m : Members) :
    member "type" kindDefects m ++ member "name" requiredText m ++
      member "props" optionalObject m = [] ↔ IsNodeHead m := by
  have hkind : member "type" kindDefects m = [] ↔ Has "type" IsKind m :=
    member_eq_nil_iff_has (here_ne_nil _) kindDefects_eq_nil_iff
  simp only [List.append_eq_nil_iff, hkind, member_requiredText_eq_nil_iff,
    member_optionalObject_eq_nil_iff]
  exact ⟨fun ⟨⟨hk, hn⟩, hp⟩ => ⟨hk, hn, hp⟩, fun h => ⟨⟨h.kind, h.name⟩, h.props⟩⟩

/-- An object is a node exactly when its members are those of a node, and its children, if there
are any, are nodes. -/
theorem isNode_obj_iff (m : Members) :
    IsNode (.obj m) ↔ IsNodeHead m ∧ (Members.get? "children" m = none ∨
      ∃ children, Members.get? "children" m = some (.arr children) ∧
        ∀ child ∈ children, IsNode child) := by
  constructor
  · rintro (⟨hhead, hnone⟩ | ⟨hhead, hsome, heach⟩)
    · exact ⟨hhead, .inl hnone⟩
    · exact ⟨hhead, .inr ⟨_, hsome, heach⟩⟩
  · rintro ⟨hhead, hnone | ⟨children, hsome, heach⟩⟩
    · exact .leaf hhead hnone
    · exact .parent hhead hsome heach

mutual

/-- A node is let pass exactly when it is well-formed. -/
theorem nodeDefects_eq_nil_iff : ∀ v : Json, nodeDefects v = [] ↔ IsNode v
  | .obj m => by
    rw [nodeDefects, List.append_eq_nil_iff, below_eq_nil_iff, nodeHead_eq_nil_iff,
      childrenDefects_eq_nil_iff m, isNode_obj_iff]
  | .null | .bool _ | .num _ | .str _ | .arr _ => by
    simp only [nodeDefects, here_ne_nil, false_iff]
    exact nofun

/-- The children of an object are let pass exactly when there are none or all are nodes. -/
theorem childrenDefects_eq_nil_iff : ∀ m : List (String × Json), childrenDefects m = [] ↔
    Members.get? "children" m = none ∨
      ∃ children, Members.get? "children" m = some (.arr children) ∧
        ∀ child ∈ children, IsNode child
  | [] => by simp [childrenDefects, Members.get?]
  | (k, .arr nodes) :: rest => by
    by_cases hk : k = "children"
    · simp [childrenDefects, Members.get?, hk, nodesFrom_eq_nil_iff 0 nodes]
    · simp [childrenDefects, Members.get?, hk, childrenDefects_eq_nil_iff rest]
  | (k, .null) :: rest | (k, .bool _) :: rest | (k, .num _) :: rest | (k, .str _) :: rest
  | (k, .obj _) :: rest => by
    by_cases hk : k = "children"
    · simp [childrenDefects, Members.get?, hk]
    · simp [childrenDefects, Members.get?, hk, childrenDefects_eq_nil_iff rest]

/-- Nodes are let pass one by one, whatever their indices. -/
theorem nodesFrom_eq_nil_iff : ∀ (index : Nat) (nodes : List Json),
    nodesFrom index nodes = [] ↔ ∀ node ∈ nodes, IsNode node
  | _, [] => by simp [nodesFrom]
  | index, v :: rest => by
    simp [nodesFrom, nodeDefects_eq_nil_iff v, nodesFrom_eq_nil_iff (index + 1) rest]

end

/-! ## Views -/

/-- A binding is let pass exactly when it is well-formed. -/
theorem bindingDefects_eq_nil_iff (v : Json) : bindingDefects v = [] ↔ ObjectOf IsBinding v :=
  object_eq_nil_iff (fun m => by
    simp only [List.append_eq_nil_iff, member_requiredText_eq_nil_iff]
    exact ⟨fun ⟨⟨hc, hp⟩, hs⟩ => ⟨hc, hp, hs⟩, fun h => ⟨⟨h.componentPath, h.prop⟩, h.source⟩⟩) v

/-- A refresh action is let pass exactly when it is well-formed. -/
theorem refreshDefects_eq_nil_iff (v : Json) : refreshDefects v = [] ↔ ObjectOf IsRefresh v :=
  object_eq_nil_iff (fun m => by
    have hpath : member "patchPath" patchPathDefects m = [] ↔
        MayHave "patchPath" (NullOr IsText) m :=
      member_eq_nil_iff_mayHave rfl fun v => by
        cases v <;> simp [patchPathDefects, NullOr, IsText]
    simp only [List.append_eq_nil_iff, member_requiredText_eq_nil_iff,
      member_optionalObject_eq_nil_iff, hpath]
    exact ⟨fun ⟨⟨ht, ha⟩, hp⟩ => ⟨ht, ha, hp⟩, fun h => ⟨⟨h.tool, h.args⟩, h.patchPath⟩⟩) v

/-- A subscription is let pass exactly when it is well-formed. -/
theorem subscriptionDefects_eq_nil_iff (v : Json) :
    subscriptionDefects v = [] ↔ ObjectOf IsSubscription v :=
  object_eq_nil_iff (fun m => by
    have hrefresh : member "refresh" refreshListDefects m = [] ↔
        Has "refresh" (ListOf (ObjectOf IsRefresh)) m :=
      member_eq_nil_iff_has (here_ne_nil _) fun v => by
        cases v <;>
          simp [refreshListDefects, ListOf, itemsFrom_eq_nil_iff refreshDefects_eq_nil_iff]
    simp only [List.append_eq_nil_iff, member_requiredText_eq_nil_iff, hrefresh]
    exact ⟨fun ⟨he, hr⟩ => ⟨he, hr⟩, fun h => ⟨h.event, h.refresh⟩⟩) v

/-- The members of a view are let pass exactly when they are well-formed. -/
theorem viewDefects_eq_nil_iff (m : Members) : viewDefects m = [] ↔ IsView m := by
  have htree : member "component_tree" treeDefects m = [] ↔ Has "component_tree" IsNode m :=
    member_eq_nil_iff_has (here_ne_nil _) nodeDefects_eq_nil_iff
  simp only [viewDefects, List.append_eq_nil_iff, htree,
    member_optionalList_eq_nil_iff bindingDefects_eq_nil_iff,
    member_optionalList_eq_nil_iff subscriptionDefects_eq_nil_iff]
  exact ⟨fun ⟨⟨ht, hb⟩, hs⟩ => ⟨ht, hb, hs⟩, fun h => ⟨⟨h.tree, h.bindings⟩, h.subscriptions⟩⟩

/-! ## Plans -/

/-- A schema tag is let pass exactly when it is the one of plans. -/
theorem schemaDefects_eq_nil_iff (v : Json) :
    schemaDefects (some v) = [] ↔ v = .str Plan.schemaTag := by
  cases v <;> simp [schemaDefects]

/-- The members of a plan have no defect exactly when they are well-formed. -/
theorem planDefects_eq_nil_iff (m : Members) :
    member "schema" schemaDefects m ++ member "rationale" rationaleDefects m ++
      member "steps" stepsDefects m ++ member "uiIntent" optionalView m ++
      member "safety" safetyDefects m = [] ↔ IsPlan m := by
  have hschema : member "schema" schemaDefects m = [] ↔
      Has "schema" (· = .str "tool_plan.v1") m :=
    member_eq_nil_iff_has (here_ne_nil _) schemaDefects_eq_nil_iff
  have hrationale : member "rationale" rationaleDefects m = [] ↔
      Has "rationale" IsVisibleText m :=
    member_eq_nil_iff_has (here_ne_nil _) fun v => by
      cases v <;> simp [rationaleDefects, IsVisibleText, blank_eq_false_iff]
  have hsteps : member "steps" stepsDefects m = [] ↔ MayHave "steps" IsStepList m :=
    member_eq_nil_iff_mayHave rfl stepsDefects_eq_nil_iff
  have hview : member "uiIntent" optionalView m = [] ↔
      MayHave "uiIntent" (NullOr (ObjectOf IsView)) m :=
    member_eq_nil_iff_mayHave rfl fun v => by
      cases v <;> simp [optionalView, NullOr, ObjectOf, viewDefects_eq_nil_iff]
  have hsafety : member "safety" safetyDefects m = [] ↔ MayHave "safety" (NullOr IsObject) m :=
    member_eq_nil_iff_mayHave rfl fun v => by
      cases v <;> simp [safetyDefects, NullOr, IsObject]
  simp only [List.append_eq_nil_iff, hschema, hrationale, hsteps, hview, hsafety]
  exact ⟨fun ⟨⟨⟨⟨hs, hr⟩, hl⟩, hv⟩, hn⟩ => ⟨hs, hr, hl, hv, hn⟩,
    fun h => ⟨⟨⟨⟨h.schema, h.rationale⟩, h.steps⟩, h.view⟩, h.safety⟩⟩

/-- **A draft has no defect exactly when it is well-formed.** -/
theorem defects_eq_nil_iff (draft : Json) : defects draft = [] ↔ WellFormed draft :=
  object_eq_nil_iff planDefects_eq_nil_iff draft

end AgentPlan.Draft
