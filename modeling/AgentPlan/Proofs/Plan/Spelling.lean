import AgentPlan.Plan.Encode
import AgentPlan.Proofs.Draft.FixedPoints
import AgentPlan.Proofs.Planner.Validity

/-!
# Plans that are spelled out

The JSON value of a plan states every field of every record. `Plan.SpelledBy` says so of a value
without a word on the order of an object's members, so it holds of the value of a plan
(`Plan.spelledBy_toJson`) and of each of its rearrangements. A value that spells out a plan reads as
this plan (`Plan.ofJson?_of_spelledBy`), is its own normal form (`normalize_of_spelledBy`) and is
accepted exactly if the plan is valid (`validate_of_spelledBy`).
-/

namespace AgentPlan

open Json (Members)

/-! ## Spellings -/

namespace Json

section
variable {α : Type} (S : α → Json → Prop)

/-- The value is an array that spells some things, item by item. -/
def SpellsList (as : List α) (v : Json) : Prop :=
  ∃ items, v = .arr items ∧ List.Forall₂ S as items

/-- The value spells a thing, or is null if there is none. -/
def SpellsOption : Option α → Json → Prop
  | none, v => v = .null
  | some a, v => S a v

/-- The value is an object that spells a thing under a key. -/
def SpellsAt (key : String) (a : α) (v : Json) : Prop :=
  ∃ w, v.get? key = some w ∧ S a w

end

end Json

open Json (SpellsList SpellsOption SpellsAt)

/-- The value states the fields of a step. -/
structure Step.SpelledBy (s : Step) (v : Json) : Prop where
  id : v.get? "id" = some (.str s.id)
  tool : v.get? "tool" = some (.str s.tool)
  args : v.get? "args" = some (.obj s.args)
  cacheTtl : SpellsAt (SpellsOption fun t w => w = .num (.int t.toInt)) "cache_ttl_seconds"
    s.cacheTtl v

/-- The value states the fields of a node, and its children are stated in turn. -/
inductive Node.SpelledBy : Node → Json → Prop
  | mk {kind : NodeKind} {name : String} {props : Members} {children : List Node} {v : Json}
    {items : List Json} : v.get? "type" = some (.str kind.name) →
      v.get? "name" = some (.str name) → v.get? "props" = some (.obj props) →
      v.get? "children" = some (.arr items) → List.Forall₂ Node.SpelledBy children items →
      Node.SpelledBy (.mk kind name props children) v

/-- The value states the fields of a binding. -/
structure Binding.SpelledBy (b : Binding) (v : Json) : Prop where
  componentPath : v.get? "componentPath" = some (.str b.componentPath)
  prop : v.get? "prop" = some (.str b.prop)
  source : v.get? "from" = some (.str b.source)

/-- The value states the fields of a refresh action. -/
structure Refresh.SpelledBy (r : Refresh) (v : Json) : Prop where
  tool : v.get? "tool" = some (.str r.tool)
  args : v.get? "args" = some (.obj r.args)
  patchPath : SpellsAt (SpellsOption fun s w => w = .str s) "patchPath" r.patchPath v

/-- The value states the fields of a subscription. -/
structure Subscription.SpelledBy (s : Subscription) (v : Json) : Prop where
  event : v.get? "event" = some (.str s.event)
  refresh : SpellsAt (SpellsList Refresh.SpelledBy) "refresh" s.refresh v

/-- The value states the fields of a view. -/
structure View.SpelledBy (view : View) (v : Json) : Prop where
  tree : SpellsAt Node.SpelledBy "component_tree" view.tree v
  bindings : SpellsAt (SpellsOption (SpellsList Binding.SpelledBy)) "bindings" view.bindings v
  subscriptions : SpellsAt (SpellsOption (SpellsList Subscription.SpelledBy)) "subscriptions"
    view.subscriptions v

/-- The value states the fields of a plan. -/
structure Plan.SpelledBy (p : Plan) (v : Json) : Prop where
  schema : v.get? "schema" = some (.str p.schema)
  rationale : v.get? "rationale" = some (.str p.rationale)
  steps : SpellsAt (SpellsList Step.SpelledBy) "steps" p.steps v
  view : SpellsAt (SpellsOption View.SpelledBy) "uiIntent" p.view v
  safety : SpellsAt (SpellsOption fun o w => w = .obj o) "safety" p.safety v

/-! ## The JSON value of a plan spells it out -/

section
variable {α : Type} {S : α → Json → Prop} {encode : α → Json}

/-- The items of an array spell what they are the values of. -/
theorem spellsList_map (h : ∀ a, S a (encode a)) (as : List α) :
    SpellsList S as (.arr (as.map encode)) :=
  ⟨_, rfl, List.forall₂_map_right_iff.2 (List.forall₂_same.2 fun a _ => h a)⟩

/-- A value or null spells what it is the value of. -/
theorem spellsOption_orNull (h : ∀ a, S a (encode a)) (a : Option α) :
    SpellsOption S a (Json.orNull encode a) := by
  cases a with
  | none => rfl
  | some a => exact h a

end

/-- A step is spelled by the value that it is written as. -/
theorem Step.spelledBy_toJson (s : Step) : s.SpelledBy s.toJson where
  id := rfl
  tool := rfl
  args := rfl
  cacheTtl := ⟨_, rfl, spellsOption_orNull (fun _ => by rfl) _⟩

mutual

/-- A node is spelled by the value that it is written as. By induction on the tree. -/
theorem Node.spelledBy_toJson : ∀ node : Node, node.SpelledBy node.toJson
  | .mk kind name props children => by
    rw [Node.toJson]
    exact .mk rfl rfl
      rfl rfl
      (Node.spelledBy_toJsonList children)

/-- Nodes are spelled by the values that they are written as, one by one. -/
theorem Node.spelledBy_toJsonList : ∀ nodes : List Node,
    List.Forall₂ Node.SpelledBy nodes (Node.toJsonList nodes)
  | [] => .nil
  | node :: rest => .cons (Node.spelledBy_toJson node) (Node.spelledBy_toJsonList rest)

end

/-- A binding is spelled by the value that it is written as. -/
theorem Binding.spelledBy_toJson (b : Binding) : b.SpelledBy b.toJson where
  componentPath := rfl
  prop := rfl
  source := rfl

/-- A refresh action is spelled by the value that it is written as. -/
theorem Refresh.spelledBy_toJson (r : Refresh) : r.SpelledBy r.toJson where
  tool := rfl
  args := rfl
  patchPath := ⟨_, rfl, spellsOption_orNull (fun _ => by rfl) _⟩

/-- A subscription is spelled by the value that it is written as. -/
theorem Subscription.spelledBy_toJson (s : Subscription) : s.SpelledBy s.toJson where
  event := rfl
  refresh := ⟨_, rfl,
    spellsList_map Refresh.spelledBy_toJson _⟩

/-- A view is spelled by the value that it is written as. -/
theorem View.spelledBy_toJson (view : View) : view.SpelledBy view.toJson where
  tree := ⟨_, rfl, Node.spelledBy_toJson _⟩
  bindings := ⟨_, rfl,
    spellsOption_orNull (spellsList_map Binding.spelledBy_toJson) _⟩
  subscriptions := ⟨_, rfl,
    spellsOption_orNull (spellsList_map Subscription.spelledBy_toJson) _⟩

/-- The JSON value of a plan spells it out. -/
theorem Plan.spelledBy_toJson (p : Plan) : p.SpelledBy p.toJson where
  schema := rfl
  rationale := rfl
  steps := ⟨_, rfl, spellsList_map Step.spelledBy_toJson _⟩
  view := ⟨_, rfl,
    spellsOption_orNull View.spelledBy_toJson _⟩
  safety := ⟨_, rfl, spellsOption_orNull (fun _ => by rfl) _⟩

/-! ## Reading what is spelled out -/

section
variable {α : Type} {S : α → Json → Prop} {read : Json → Option α} {key : String} {m : Members}

/-- An array that spells some things reads as them. -/
theorem read_of_spellsList {as : List α} {v : Json} (h : SpellsList S as v)
    (hread : ∀ a v, S a v → read v = some a) :
    (v.items?.bind fun items => items.mapM read) = some as := by
  obtain ⟨items, rfl, heach⟩ := h
  exact mapM_eq_some_iff_forall₂.2 (heach.flip.imp fun v a hv => hread a v hv)

/-- A member that spells a thing, or is null without one, reads as it. -/
theorem nullable?_of_spells {a : Option α} (h : SpellsAt (SpellsOption S) key a (.obj m))
    (hnull : read .null = none) (hread : ∀ a v, S a v → read v = some a) :
    m.nullable? key read = some a := by
  obtain ⟨v, hget, hv⟩ := h
  rw [Json.get?] at hget
  cases a with
  | none =>
    rw [Draft.nullable?_eq_none_iff, hget, Option.getD_some]
    exact hv
  | some a =>
    rw [Draft.nullable?_eq_some_iff hnull, hget, Option.bind_some]
    exact hread a v hv

/-- A member that is an object reads as it. -/
theorem objectOrEmpty?_of_get? {o : Members} (h : m.get? key = some (.obj o)) :
    m.objectOrEmpty? key = some o := by
  rw [Members.objectOrEmpty?, h]
  rfl

end

/-- A value that states a step reads as it. -/
theorem Step.ofJson?_of_spelledBy {s : Step} {v : Json} (h : s.SpelledBy v) :
    Step.ofJson? v = some s := by
  obtain ⟨m, rfl⟩ := Json.eq_obj_of_get? h.id
  exact Step.ofJson?_obj_eq_some_iff.2 ⟨Draft.text?_eq_some_iff.2 h.id,
    Draft.text?_eq_some_iff.2 h.tool, objectOrEmpty?_of_get? h.args,
    nullable?_of_spells h.cacheTtl rfl fun t v hv => hv ▸ Json.int64?_toInt t⟩

/-- The name of a kind of node is read as the kind. -/
theorem NodeKind.ofName?_name (kind : NodeKind) : ofName? kind.name = some kind := by
  cases kind <;> rfl

mutual

/-- A value that states a node reads as it. -/
theorem Node.ofJson?_of_spelledBy : ∀ {node : Node} {v : Json}, node.SpelledBy v →
    Node.ofJson? v = some node
  | .mk kind name props children, v, .mk hkind hname hprops hchildren heach => by
    obtain ⟨m, rfl⟩ := Json.eq_obj_of_get? hkind
    refine Node.ofJson?_obj_eq_some_iff.2 ⟨?_, Draft.text?_eq_some_iff.2 hname,
      objectOrEmpty?_of_get? hprops, ?_⟩
    · rw [Draft.text?_eq_some_iff.2 hkind, Option.bind_some, NodeKind.ofName?_name]
    · rw [Json.get?] at hchildren
      rw [Members.listOrEmpty?, hchildren]
      exact mapM_eq_some_iff_forall₂.2 (Node.ofJson?_of_spelledBy_list heach)

/-- Values that state nodes read as them. -/
theorem Node.ofJson?_of_spelledBy_list : ∀ {nodes : List Node} {items : List Json},
    List.Forall₂ Node.SpelledBy nodes items →
    List.Forall₂ (fun v node => Node.ofJson? v = some node) items nodes
  | [], [], .nil => .nil
  | _ :: _, _ :: _, .cons h hrest =>
    .cons (Node.ofJson?_of_spelledBy h) (Node.ofJson?_of_spelledBy_list hrest)

end

/-- A value that states a binding reads as it. -/
theorem Binding.ofJson?_of_spelledBy {b : Binding} {v : Json} (h : b.SpelledBy v) :
    Binding.ofJson? v = some b := by
  obtain ⟨m, rfl⟩ := Json.eq_obj_of_get? h.prop
  exact Binding.ofJson?_obj_eq_some_iff.2 ⟨Draft.text?_eq_some_iff.2 h.componentPath,
    Draft.text?_eq_some_iff.2 h.prop, Draft.text?_eq_some_iff.2 h.source⟩

/-- A value that states a refresh action reads as it. -/
theorem Refresh.ofJson?_of_spelledBy {r : Refresh} {v : Json} (h : r.SpelledBy v) :
    Refresh.ofJson? v = some r := by
  obtain ⟨m, rfl⟩ := Json.eq_obj_of_get? h.tool
  exact Refresh.ofJson?_obj_eq_some_iff.2 ⟨Draft.text?_eq_some_iff.2 h.tool,
    objectOrEmpty?_of_get? h.args, nullable?_of_spells h.patchPath rfl fun s v hv => hv ▸ rfl⟩

/-- A value that states a subscription reads as it. -/
theorem Subscription.ofJson?_of_spelledBy {s : Subscription} {v : Json} (h : s.SpelledBy v) :
    Subscription.ofJson? v = some s := by
  obtain ⟨m, rfl⟩ := Json.eq_obj_of_get? h.event
  refine Subscription.ofJson?_obj_eq_some_iff.2 ⟨Draft.text?_eq_some_iff.2 h.event, ?_⟩
  obtain ⟨w, hget, hrefresh⟩ := h.refresh
  rw [Json.get?] at hget
  rw [Members.list?, hget, Option.bind_some]
  exact read_of_spellsList hrefresh fun _ _ => Refresh.ofJson?_of_spelledBy

/-- A value that states a view reads as it. -/
theorem View.ofJson?_of_spelledBy {view : View} {v : Json} (h : view.SpelledBy v) :
    View.ofJson? v = some view := by
  obtain ⟨w, hget, htree⟩ := h.tree
  obtain ⟨m, rfl⟩ := Json.eq_obj_of_get? hget
  rw [Json.get?] at hget
  refine View.ofJson?_obj_eq_some_iff.2 ⟨?_, ?_, ?_⟩
  · rw [hget, Option.bind_some]
    exact Node.ofJson?_of_spelledBy htree
  · exact nullable?_of_spells h.bindings rfl fun _ _ hlist =>
      read_of_spellsList hlist fun _ _ => Binding.ofJson?_of_spelledBy
  · exact nullable?_of_spells h.subscriptions rfl fun _ _ hlist =>
      read_of_spellsList hlist fun _ _ => Subscription.ofJson?_of_spelledBy

/-- A value that states a plan reads as it. -/
theorem Plan.ofJson?_of_spelledBy {p : Plan} {v : Json} (h : p.SpelledBy v) :
    Plan.ofJson? v = some p := by
  obtain ⟨m, rfl⟩ := Json.eq_obj_of_get? h.schema
  obtain ⟨w, hget, hsteps⟩ := h.steps
  rw [Json.get?] at hget
  refine Plan.ofJson?_obj_eq_some_iff.2 ⟨Draft.text?_eq_some_iff.2 h.schema,
    Draft.text?_eq_some_iff.2 h.rationale, ?_, ?_, ?_⟩
  · rw [Members.listOrEmpty?, hget]
    exact read_of_spellsList hsteps fun _ _ => Step.ofJson?_of_spelledBy
  · exact nullable?_of_spells h.view rfl fun _ _ => View.ofJson?_of_spelledBy
  · exact nullable?_of_spells h.safety rfl fun o v hv => hv ▸ rfl

/-! ## What is spelled out is left alone -/

namespace Draft

/-- A change that leaves the value of a key alone leaves the object alone. -/
theorem modify_eq_self {key : String} {f : Json → Json} {v : Json} {m : Members}
    (h : m.get? key = some v) (hf : f v = v) : Members.modify key f m = m := by
  induction m with
  | nil => rfl
  | cons e m ih =>
    obtain ⟨k, w⟩ := e
    by_cases hk : k = key
    · obtain rfl : w = v := by simpa [Members.get?, hk] using h
      simp [Members.modify, hk, hf]
    · have hm : Members.get? key m = some v := by simpa [Members.get?, hk] using h
      simp [Members.modify, hk, ih hm]

/-- A step that is stated has an integer for its time to live. -/
theorem integerStep_of_spelledBy {s : Step} {v : Json} (h : s.SpelledBy v) :
    integerStep v = v := by
  obtain ⟨m, rfl⟩ := Json.eq_obj_of_get? h.id
  obtain ⟨w, hget, hw⟩ := h.cacheTtl
  rw [Json.get?] at hget
  have hsame : integerTtl w = w := by
    cases httl : s.cacheTtl with
    | none =>
      rw [httl] at hw
      cases hw
      rfl
    | some t =>
      rw [httl] at hw
      cases hw
      have hread : Json.ttl? (.num (.int t.toInt)) = some t := Json.int64?_toInt t
      rw [integerTtl, hread]
  rw [integerStep, modify_eq_self hget hsame]

/-- Steps that are stated have integers for their times to live. -/
theorem map_integerStep_of_spelledBy {steps : List Step} {items : List Json}
    (h : List.Forall₂ Step.SpelledBy steps items) : items.map integerStep = items := by
  induction h with
  | nil => rfl
  | cons hstep _ ih => rw [List.map_cons, integerStep_of_spelledBy hstep, ih]

/-- The steps of a plan that is stated have integers for their times to live. -/
theorem withIntegerTtls_of_spelledBy {p : Plan} {v : Json} (h : p.SpelledBy v) :
    withIntegerTtls v = v := by
  obtain ⟨m, rfl⟩ := Json.eq_obj_of_get? h.schema
  obtain ⟨_, hget, items, rfl, heach⟩ := h.steps
  rw [withIntegerTtls,
    modify_eq_self hget (by rw [integerSteps, map_integerStep_of_spelledBy heach])]

/-- A value that states a step is a normal step. -/
theorem isNormalStep_of_spelledBy {s : Step} {v : Json} (h : s.SpelledBy v) :
    ObjectOf IsNormalStep v := by
  obtain ⟨m, rfl⟩ := Json.eq_obj_of_get? h.id
  obtain ⟨ttl, httl, -⟩ := h.cacheTtl
  exact ⟨m, rfl, (Members.contains_iff _ _).2 ⟨_, h.id⟩, (Members.contains_iff _ _).2 ⟨_, h.args⟩,
    (Members.contains_iff _ _).2 ⟨ttl, httl⟩⟩

/-- Values that state steps are normal steps. -/
theorem isNormalStep_of_mem_spelled {steps : List Step} {items : List Json}
    (h : List.Forall₂ Step.SpelledBy steps items) : ∀ item ∈ items, ObjectOf IsNormalStep item := by
  induction h with
  | nil => exact List.forall_mem_nil _
  | cons hstep _ ih => exact List.forall_mem_cons.2 ⟨isNormalStep_of_spelledBy hstep, ih⟩

/-- A value that states a view is a normal view. -/
theorem isNormalView_of_spelledBy {view : View} {v : Json} (h : view.SpelledBy v) :
    ObjectOf IsNormalView v := by
  obtain ⟨tree, htree, -⟩ := h.tree
  obtain ⟨bindings, hbindings, -⟩ := h.bindings
  obtain ⟨subscriptions, hsubscriptions, -⟩ := h.subscriptions
  obtain ⟨m, rfl⟩ := Json.eq_obj_of_get? htree
  exact ⟨m, rfl, (Members.contains_iff _ _).2 ⟨tree, htree⟩,
    (Members.contains_iff _ _).2 ⟨bindings, hbindings⟩,
    (Members.contains_iff _ _).2 ⟨subscriptions, hsubscriptions⟩⟩

/-- A value that states a plan is a normal draft. -/
theorem isNormal_of_spelledBy {p : Plan} {v : Json} (h : p.SpelledBy v) : ObjectOf IsNormal v := by
  obtain ⟨_, hsteps, items, rfl, heach⟩ := h.steps
  obtain ⟨view, hview, hspelled⟩ := h.view
  obtain ⟨safety, hsafety, -⟩ := h.safety
  obtain ⟨m, rfl⟩ := Json.eq_obj_of_get? hview
  have hnormal : NullOr (ObjectOf IsNormalView) view := by
    cases hp : p.view with
    | none =>
      rw [hp] at hspelled
      exact .inl hspelled
    | some view' =>
      rw [hp] at hspelled
      exact .inr (isNormalView_of_spelledBy hspelled)
  exact ⟨m, rfl,
    { schema := (Members.contains_iff _ _).2 ⟨_, h.schema⟩
      rationale := (Members.contains_iff _ _).2 ⟨_, h.rationale⟩
      steps := ⟨_, hsteps, items, rfl, isNormalStep_of_mem_spelled heach⟩
      view := ⟨view, hview, hnormal⟩
      safety := fun _ => (Members.contains_iff _ _).2 ⟨safety, hsafety⟩ }⟩

/-- A plan that is stated is its own normal form. -/
theorem normalize_of_spelledBy {p : Plan} {v : Json} (h : p.SpelledBy v) : normalize v = v := by
  obtain ⟨m, rfl, hnormal⟩ := isNormal_of_spelledBy h
  exact normalize_eq_self hnormal

/-- A value that states a plan is accepted as it exactly if the plan is valid. -/
theorem validate_of_spelledBy {p : Plan} {v : Json} (h : p.SpelledBy v) :
    (p.Valid → validate v = .ok p) ∧ (¬ p.Valid → validate v = .error (defects v)) := by
  have hread : Plan.ofJson? (withIntegerTtls v) = some p := by
    rw [withIntegerTtls_of_spelledBy h]
    exact Plan.ofJson?_of_spelledBy h
  refine ⟨fun hvalid => validate_eq_ok_iff_read.2 ⟨hread, hvalid⟩, fun hinvalid => ?_⟩
  refine validate_eq_error_iff.2 ⟨fun hwell => hinvalid ?_, rfl⟩
  exact valid_of_validate (validate_eq_ok_iff.2 ⟨hwell, hread⟩)

end Draft

/-- **A plan and its JSON value are one and the same.** The value of a plan spells it out, and every
value that does so, however the members of its objects are ordered, reads as the plan, is its own
normal form, and is accepted as the plan if the plan is valid and rejected otherwise. So each plan
that a run ends with is what its own value is normalized and validated to. Reference: `ToolPlan`,
with `normalize_tool_plan` and `validate_tool_plan`. -/
theorem Plan.spelled_fixed (p : Plan) :
    p.SpelledBy p.toJson ∧ ∀ e, p.SpelledBy e →
      Plan.ofJson? e = some p ∧ Draft.normalize e = e ∧
      (p.Valid → Draft.validate e = .ok p) ∧
      (¬ p.Valid → Draft.validate e = .error (Draft.defects e)) ∧
      ∀ (ρ : Type) (planner : Planner ρ) (request : Request) (session : Session ρ),
        (planner.run request session).result = .ok p →
          Draft.validate (Draft.normalize e) = .ok p := by
  refine ⟨p.spelledBy_toJson, fun e he => ?_⟩
  obtain ⟨haccept, hreject⟩ := Draft.validate_of_spelledBy he
  have hnormal := Draft.normalize_of_spelledBy he
  refine ⟨Plan.ofJson?_of_spelledBy he, hnormal, haccept, hreject,
    fun ρ planner request session hrun => ?_⟩
  obtain ⟨value, hvalue⟩ := Planner.exists_validated_of_run hrun
  rw [hnormal]
  exact haccept (Draft.valid_of_validate hvalue)

/-- The value of a valid plan is accepted, that of a plan with a blank rationale is rejected, and a
model that replies with an empty object gets a plan that is fixed. -/
theorem Plan.spelled_fixed_instances :
    Draft.validate Draft.barePlan.toJson = .ok Draft.barePlan ∧
    (∃ blank : Plan, blank.rationale = " " ∧
      Draft.validate blank.toJson = .error (Draft.defects blank.toJson)) ∧
    ∃ plan, (Planner.run ⟨20000, 8, 0, .scripted⟩ (.ofPrompt "budget")
        ⟨[.ofText "\x7b\x7d"], []⟩).result = .ok plan ∧
      Draft.validate (Draft.normalize plan.toJson) = .ok plan := by
  refine ⟨?_, ⟨{ Draft.barePlan with rationale := " " }, rfl, ?_⟩, ?_⟩
  · have hvalid : Draft.barePlan.Valid := ⟨rfl, by decide, by decide, by decide⟩
    obtain ⟨hspelled, hfixed⟩ := Plan.spelled_fixed Draft.barePlan
    exact (hfixed _ hspelled).2.2.1 hvalid
  · obtain ⟨hspelled, hfixed⟩ := Plan.spelled_fixed { Draft.barePlan with rationale := " " }
    exact (hfixed _ hspelled).2.2.2.1 fun hvalid => hvalid.rationale (by decide)
  · generalize hrun : Planner.run _ _ _ = r
    have hsome : r.plan?.isSome = true := by
      rw [← hrun]
      decide +kernel
    obtain ⟨plan, hplan⟩ := Option.isSome_iff_exists.1 hsome
    have hresult := Run.plan?_eq_some_iff.1 hplan
    obtain ⟨hspelled, hfixed⟩ := Plan.spelled_fixed plan
    exact ⟨plan, hresult, (hfixed _ hspelled).2.2.2.2 _ _ _ _ (hrun ▸ hresult)⟩

end AgentPlan
