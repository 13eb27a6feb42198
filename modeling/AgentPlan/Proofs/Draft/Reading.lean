import AgentPlan.Draft.Defect
import AgentPlan.Proofs.Draft.WellFormed
import Mathlib.Data.List.Forall2

/-!
# Reading a draft as a plan

A well-formed draft, with integers for its times to live, reads as a plan (`exists_plan`).
The reader is another description of the format than the walk that collects defects, so each record
has a lemma here that says when it is read, and the first part of the module does the same for the
views of members that the reader is made of. Conversely, what was read from a record is what the
record says, and putting integers in place of times to live changes only how these are read
(`Step.ofJson?_integerStep_obj_eq_some_iff`, `Plan.ofJson?_withIntegerTtls_obj_eq_some_iff`).
-/

namespace AgentPlan

open Json (Members)

/-! ## Lists -/

/-- A list is read item by item, in order. -/
theorem mapM_eq_some_iff_forall₂ {α β : Type} {read : α → Option β} {items : List α}
    {values : List β} :
    items.mapM read = some values ↔ List.Forall₂ (fun a b => read a = some b) items values := by
  induction items generalizing values with
  | nil => cases values <;> simp
  | cons a rest ih =>
    cases values with
    | nil => simp [Option.bind_eq_some_iff]
    | cons b bs =>
      simp only [List.mapM_cons, Option.bind_eq_bind, Option.bind_eq_some_iff, Option.pure_def,
        Option.some_inj, List.forall₂_cons, ← ih]
      constructor
      · rintro ⟨_, ha, _, hrest, heq⟩
        cases heq
        exact ⟨ha, hrest⟩
      · rintro ⟨ha, hrest⟩
        exact ⟨b, ha, bs, hrest, rfl⟩

/-- A list is read if each of its items is. -/
theorem exists_mapM {α β : Type} {read : α → Option β} {items : List α}
    (h : ∀ item ∈ items, ∃ b, read item = some b) : ∃ values, items.mapM read = some values := by
  induction items with
  | nil => exact ⟨[], rfl⟩
  | cons a rest ih =>
    rw [List.forall_mem_cons] at h
    obtain ⟨b, hb⟩ := h.1
    obtain ⟨bs, hbs⟩ := ih h.2
    exact ⟨b :: bs, mapM_eq_some_iff_forall₂.2 (.cons hb (mapM_eq_some_iff_forall₂.1 hbs))⟩

/-- A value that has a member is an object. -/
theorem Json.eq_obj_of_get? {v w : Json} {key : String} (h : v.get? key = some w) :
    ∃ m, v = .obj m := by
  cases v with
  | obj m => exact ⟨m, rfl⟩
  | null | bool | num | str | arr => cases h

namespace Draft

/-! ## Views of members -/

section
variable {key : String} {m : Members} {P : Json → Prop} {α : Type} {read : Json → Option α}

/-- The text of a key is read exactly from a string. -/
theorem text?_eq_some_iff {s : String} :
    m.text? key = some s ↔ m.get? key = some (.str s) := by
  rw [Members.text?, Option.bind_eq_some_iff]
  constructor
  · rintro ⟨v, hget, hv⟩
    cases v <;> cases hv
    exact hget
  · intro hget
    exact ⟨_, hget, rfl⟩

/-- A string is read as text. -/
theorem IsText.text? {v : Json} (h : IsText v) : ∃ s, v.text? = some s := by
  obtain ⟨s, rfl⟩ := h
  exact ⟨s, rfl⟩

/-- An object is read as its members. -/
theorem IsObject.members? {v : Json} (h : IsObject v) : ∃ m, v.members? = some m := by
  obtain ⟨m, rfl⟩ := h
  exact ⟨m, rfl⟩

/-- A string that has to be there is read. -/
theorem exists_text (h : Has key IsText m) : ∃ s, m.text? key = some s := by
  obtain ⟨v, hget, hv⟩ := h
  obtain ⟨s, hs⟩ := IsText.text? hv
  exact ⟨s, by simp [Members.text?, hget, hs]⟩

/-- A visible string is a string. -/
theorem Has.isText (h : Has key IsVisibleText m) : Has key IsText m := by
  obtain ⟨v, hget, s, hs, _⟩ := h
  exact ⟨v, hget, s, hs⟩

/-- An object that may be there is read. -/
theorem exists_object (h : MayHave key IsObject m) : ∃ o, m.objectOrEmpty? key = some o := by
  unfold Members.objectOrEmpty?
  split
  · exact ⟨[], rfl⟩
  · next v hget =>
    obtain ⟨o, rfl⟩ := h v hget
    exact ⟨o, rfl⟩

/-- A value that may be there or null is read if every such value is. -/
theorem exists_nullable (h : MayHave key (NullOr P) m) (hread : ∀ v, P v → ∃ a, read v = some a) :
    ∃ a, m.nullable? key read = some a := by
  unfold Members.nullable?
  split
  · exact ⟨none, rfl⟩
  · exact ⟨none, rfl⟩
  · next v hne hget =>
    rcases h v hget with rfl | hv
    · exact absurd rfl hne
    · obtain ⟨a, ha⟩ := hread v hv
      exact ⟨some a, by rw [ha]; rfl⟩

/-- The items of an array are read if each of them is. -/
theorem exists_items (hread : ∀ v, P v → ∃ a, read v = some a) {v : Json} (h : ListOf P v) :
    ∃ values, (v.items?.bind fun items => items.mapM read) = some values := by
  obtain ⟨items, rfl, heach⟩ := h
  exact exists_mapM fun item hitem => hread item (heach item hitem)

/-- An array that has to be there is read if each of its items is. -/
theorem exists_list (h : Has key (ListOf P) m) (hread : ∀ v, P v → ∃ a, read v = some a) :
    ∃ values, m.list? key read = some values := by
  obtain ⟨v, hget, hlist⟩ := h
  obtain ⟨values, hvalues⟩ := exists_items hread hlist
  exact ⟨values, by simpa [Members.list?, hget] using hvalues⟩

end

end Draft

open Draft

/-! ## Steps -/

/-- The members that were read as a step say what the step says. -/
theorem Step.ofJson?_obj_eq_some_iff {m : Members} {s : Step} :
    Step.ofJson? (.obj m) = some s ↔
      m.text? "id" = some s.id ∧ m.text? "tool" = some s.tool ∧
      m.objectOrEmpty? "args" = some s.args ∧
      m.nullable? "cache_ttl_seconds" Json.int64? = some s.cacheTtl := by
  cases s
  simp [Step.ofJson?, Json.members?, Option.bind_eq_some_iff]

/-- An integer of 64 bits is read as itself. -/
theorem Json.int64?_toInt (t : Int64) : Json.int64? (.num (.int t.toInt)) = some t :=
  Json.signed?_eq_some_iff.2 rfl

/-- A time to live that is let pass is one. -/
theorem Json.exists_ttl? {v : Json} (h : IsTtl v) : ∃ t, v.ttl? = some t := by
  obtain ⟨n, rfl, i, hi, hrange⟩ := h
  obtain ⟨t, rfl⟩ := Json.exists_int64_iff.2 hrange
  exact ⟨t, Json.Number.toInt64?_eq_some_iff.2 hi⟩

/-- With its integer in place of it, a time to live reads as the integer that it is equal to. -/
theorem Draft.int64?_integerTtl (v : Json) : (integerTtl v).int64? = v.ttl? := by
  rw [integerTtl]
  cases httl : v.ttl? with
  | some t => exact Json.int64?_toInt t
  | none =>
    cases v with
    | num n =>
      cases n with
      | int i => exact httl
      | float b => rfl
    | null | bool | str | arr | obj => rfl

/-- With its integer in place of it, a time to live is read as it stands. -/
theorem Draft.nullable?_modify_integerTtl (key : String) (m : Members) :
    (m.modify key integerTtl).nullable? key Json.int64? = m.nullable? key Json.ttl? := by
  rw [Members.nullable?, Members.get?_modify_self, Members.nullable?]
  cases m.get? key with
  | none => rfl
  | some v =>
    have hread := int64?_integerTtl v
    cases v with
    | num n =>
      -- whether it is replaced or not, it stays a number
      have hnum : ∃ n', integerTtl (.num n) = .num n' := by
        rw [integerTtl]
        split <;> exact ⟨_, rfl⟩
      obtain ⟨n', hn'⟩ := hnum
      rw [hn'] at hread
      simp only [Option.map_some, hn', hread]
    | null | bool | str | arr | obj => rfl

/-- With integers for their times to live, steps are read as steps of which each has one. -/
theorem Draft.listOrEmpty?_modify_integerSteps (key : String) (m : Members) :
    (m.modify key integerSteps).listOrEmpty? key Step.ofJson? =
      m.listOrEmpty? key (Step.ofJson? ∘ integerStep) := by
  rw [Members.listOrEmpty?, Members.get?_modify_self, Members.listOrEmpty?]
  cases m.get? key with
  | none => rfl
  | some v =>
    cases v with
    | arr steps => exact List.mapM_map
    | null | bool | num | str | obj => rfl

/-- The members that were read as a step, with an integer for its time to live, say what the step
says. -/
theorem Step.ofJson?_integerStep_obj_eq_some_iff {m : Members} {s : Step} :
    Step.ofJson? (integerStep (.obj m)) = some s ↔
      m.text? "id" = some s.id ∧ m.text? "tool" = some s.tool ∧
      m.objectOrEmpty? "args" = some s.args ∧
      m.nullable? "cache_ttl_seconds" Json.ttl? = some s.cacheTtl := by
  rw [integerStep, Step.ofJson?_obj_eq_some_iff, nullable?_modify_integerTtl]
  simp (disch := decide) only [Members.text?, Members.objectOrEmpty?, Members.get?_modify_of_ne]

/-- A well-formed step, with an integer for its time to live, is read. -/
theorem exists_step {v : Json} (h : ObjectOf IsStep v) :
    ∃ s, Step.ofJson? (integerStep v) = some s := by
  obtain ⟨m, rfl, hstep⟩ := h
  obtain ⟨id, hid⟩ := exists_text hstep.id.isText
  obtain ⟨tool, htool⟩ := exists_text hstep.tool
  obtain ⟨args, hargs⟩ := exists_object hstep.args
  obtain ⟨cacheTtl, hcache⟩ := exists_nullable hstep.cacheTtl fun _ => Json.exists_ttl?
  exact ⟨⟨id, tool, args, cacheTtl⟩,
    Step.ofJson?_integerStep_obj_eq_some_iff.2 ⟨hid, htool, hargs, hcache⟩⟩

/-- Well-formed steps, with integers for their times to live, are read. -/
theorem exists_steps {m : Members} (h : MayHave "steps" IsStepList m) :
    ∃ steps, m.listOrEmpty? "steps" (Step.ofJson? ∘ integerStep) = some steps := by
  rw [Members.listOrEmpty?]
  cases hget : m.get? "steps" with
  | none => exact ⟨[], rfl⟩
  | some v =>
    obtain ⟨steps, rfl, heach, _⟩ := h v hget
    exact exists_mapM fun step hstep => exists_step (heach step hstep)

/-! ## Nodes -/

/-- Nodes are read one by one. -/
theorem Node.ofJsonList?_eq_mapM (items : List Json) :
    Node.ofJsonList? items = items.mapM Node.ofJson? := by
  induction items with
  | nil => rfl
  | cons v rest ih => simp [Node.ofJsonList?, ih]

/-- The children of a node are the nodes of a member, none if it is absent. -/
theorem Node.childrenOf?_eq_listOrEmpty? (m : Members) :
    Node.childrenOf? m = m.listOrEmpty? "children" Node.ofJson? := by
  induction m with
  | nil => rfl
  | cons e m ih =>
    obtain ⟨k, v⟩ := e
    by_cases hk : k = "children"
    · cases v <;>
        simp [Node.childrenOf?, Members.listOrEmpty?, Members.get?, hk, Json.items?,
          Node.ofJsonList?_eq_mapM]
    · rw [Node.childrenOf?.eq_def]
      simpa [hk, Members.listOrEmpty?, Members.get?] using ih

/-- The members that were read as a node say what the node says. -/
theorem Node.ofJson?_obj_eq_some_iff {m : Members} {kind : NodeKind} {name : String}
    {props : Members} {children : List Node} :
    Node.ofJson? (.obj m) = some (.mk kind name props children) ↔
      (m.text? "type").bind NodeKind.ofName? = some kind ∧ m.text? "name" = some name ∧
      m.objectOrEmpty? "props" = some props ∧
      m.listOrEmpty? "children" Node.ofJson? = some children := by
  rw [Node.ofJson?, Node.childrenOf?_eq_listOrEmpty?]
  simp [Option.bind_eq_some_iff]

/-- A kind with one of the two names is read. -/
theorem exists_kind {m : Members} (h : Has "type" IsKind m) :
    ∃ kind, (m.text? "type").bind NodeKind.ofName? = some kind := by
  obtain ⟨_, hget, rfl | rfl⟩ := h
  · exact ⟨.layout, by simp [Members.text?, hget, Json.text?, NodeKind.ofName?]⟩
  · exact ⟨.component, by simp [Members.text?, hget, Json.text?, NodeKind.ofName?]⟩

/-- Well-formed members of a node are read once its children are. -/
theorem exists_node_of_head {m : Members} {children : List Node} (h : IsNodeHead m)
    (hchildren : m.listOrEmpty? "children" Node.ofJson? = some children) :
    ∃ node, Node.ofJson? (.obj m) = some node := by
  obtain ⟨kind, hkind⟩ := exists_kind h.kind
  obtain ⟨name, hname⟩ := exists_text h.name
  obtain ⟨props, hprops⟩ := exists_object h.props
  exact ⟨.mk kind name props children,
    Node.ofJson?_obj_eq_some_iff.2 ⟨hkind, hname, hprops, hchildren⟩⟩

/-- A well-formed node is read, whatever its depth. -/
theorem exists_node {v : Json} (h : IsNode v) : ∃ node, Node.ofJson? v = some node := by
  induction h with
  | @leaf m hhead hnone =>
    have hchildren : m.listOrEmpty? "children" Node.ofJson? = some [] := by
      simp [Members.listOrEmpty?, hnone]
    exact exists_node_of_head hhead hchildren
  | @parent m _ hhead hget _ ih =>
    obtain ⟨nodes, hnodes⟩ := exists_mapM ih
    have hchildren : m.listOrEmpty? "children" Node.ofJson? = some nodes := by
      simpa [Members.listOrEmpty?, hget, Json.items?] using hnodes
    exact exists_node_of_head hhead hchildren

/-! ## Views -/

/-- A well-formed binding is read. -/
theorem exists_binding (v : Json) (h : ObjectOf IsBinding v) :
    ∃ b, Binding.ofJson? v = some b := by
  obtain ⟨m, rfl, hbinding⟩ := h
  obtain ⟨componentPath, hpath⟩ := exists_text hbinding.componentPath
  obtain ⟨prop, hprop⟩ := exists_text hbinding.prop
  obtain ⟨source, hsource⟩ := exists_text hbinding.source
  exact ⟨⟨componentPath, prop, source⟩,
    by simp [Binding.ofJson?, Json.members?, hpath, hprop, hsource]⟩

/-- A well-formed refresh action is read. -/
theorem exists_refresh (v : Json) (h : ObjectOf IsRefresh v) :
    ∃ r, Refresh.ofJson? v = some r := by
  obtain ⟨m, rfl, hrefresh⟩ := h
  obtain ⟨tool, htool⟩ := exists_text hrefresh.tool
  obtain ⟨args, hargs⟩ := exists_object hrefresh.args
  obtain ⟨patchPath, hpath⟩ := exists_nullable hrefresh.patchPath fun _ => IsText.text?
  exact ⟨⟨tool, args, patchPath⟩, by simp [Refresh.ofJson?, Json.members?, htool, hargs, hpath]⟩

/-- A well-formed subscription is read. -/
theorem exists_subscription (v : Json) (h : ObjectOf IsSubscription v) :
    ∃ s, Subscription.ofJson? v = some s := by
  obtain ⟨m, rfl, hsubscription⟩ := h
  obtain ⟨event, hevent⟩ := exists_text hsubscription.event
  obtain ⟨refresh, hrefresh⟩ := exists_list hsubscription.refresh exists_refresh
  exact ⟨⟨event, refresh⟩, by simp [Subscription.ofJson?, Json.members?, hevent, hrefresh]⟩

/-- A well-formed view is read. -/
theorem exists_view (v : Json) (h : ObjectOf IsView v) : ∃ view, View.ofJson? v = some view := by
  obtain ⟨m, rfl, hview⟩ := h
  obtain ⟨_, hget, hnode⟩ := hview.tree
  obtain ⟨tree, htree⟩ := exists_node hnode
  obtain ⟨bindings, hbindings⟩ := exists_nullable hview.bindings
    fun _ => exists_items exists_binding
  obtain ⟨subscriptions, hsubscriptions⟩ := exists_nullable hview.subscriptions
    fun _ => exists_items exists_subscription
  exact ⟨⟨tree, bindings, subscriptions⟩,
    by simp [View.ofJson?, Json.members?, hget, htree, hbindings, hsubscriptions]⟩

/-! ## Plans -/

/-- The members that were read as a plan say what the plan says. -/
theorem Plan.ofJson?_obj_eq_some_iff {m : Members} {p : Plan} :
    Plan.ofJson? (.obj m) = some p ↔
      m.text? "schema" = some p.schema ∧ m.text? "rationale" = some p.rationale ∧
      m.listOrEmpty? "steps" Step.ofJson? = some p.steps ∧
      m.nullable? "uiIntent" View.ofJson? = some p.view ∧
      m.nullable? "safety" Json.members? = some p.safety := by
  cases p
  simp [Plan.ofJson?, Json.members?, Option.bind_eq_some_iff]

/-- The members that were read as a plan, with integers for the times to live of its steps, say what
the plan says. -/
theorem Plan.ofJson?_withIntegerTtls_obj_eq_some_iff {m : Members} {p : Plan} :
    Plan.ofJson? (withIntegerTtls (.obj m)) = some p ↔
      m.text? "schema" = some p.schema ∧ m.text? "rationale" = some p.rationale ∧
      m.listOrEmpty? "steps" (Step.ofJson? ∘ integerStep) = some p.steps ∧
      m.nullable? "uiIntent" View.ofJson? = some p.view ∧
      m.nullable? "safety" Json.members? = some p.safety := by
  rw [withIntegerTtls, Plan.ofJson?_obj_eq_some_iff, listOrEmpty?_modify_integerSteps]
  simp (disch := decide) only [Members.text?, Members.nullable?, Members.get?_modify_of_ne]

/-- A well-formed draft, with integers for the times to live of its steps, is read as a plan. -/
theorem exists_plan {draft : Json} (h : WellFormed draft) :
    ∃ plan, Plan.ofJson? (withIntegerTtls draft) = some plan := by
  obtain ⟨m, rfl, hplan⟩ := h
  obtain ⟨_, hschema, rfl⟩ := hplan.schema
  obtain ⟨rationale, hrationale⟩ := exists_text hplan.rationale.isText
  obtain ⟨steps, hsteps⟩ := exists_steps hplan.steps
  obtain ⟨view, hview⟩ := exists_nullable hplan.view exists_view
  obtain ⟨safety, hsafety⟩ := exists_nullable hplan.safety fun _ => IsObject.members?
  exact ⟨⟨_, rationale, steps, view, safety⟩,
    Plan.ofJson?_withIntegerTtls_obj_eq_some_iff.2
      ⟨text?_eq_some_iff.2 hschema, hrationale, hsteps, hview, hsafety⟩⟩

end AgentPlan
