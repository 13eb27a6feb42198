import AgentPlan.Proofs.Draft.Validation

/-!
# A draft is accepted when it reads as a valid plan

`WellFormed` says what an accepted draft looks like. The same drafts are those that, with integers
for their times to live, read as a plan that is valid (`validate_eq_ok_iff_read`): what the reader
takes for granted has the right shape, and what it does not look at is said by `Plan.Valid`. With
this a change of a draft is known to keep it accepted as soon as it is known what it reads as.
-/

namespace AgentPlan

open Json (Members)

/-! ## Records -/

/-- The members that were read as a binding say what the binding says. -/
theorem Binding.ofJson?_obj_eq_some_iff {m : Members} {b : Binding} :
    Binding.ofJson? (.obj m) = some b ↔
      m.text? "componentPath" = some b.componentPath ∧ m.text? "prop" = some b.prop ∧
      m.text? "from" = some b.source := by
  cases b
  simp [Binding.ofJson?, Json.members?, Option.bind_eq_some_iff]

/-- The members that were read as a refresh action say what the action says. -/
theorem Refresh.ofJson?_obj_eq_some_iff {m : Members} {r : Refresh} :
    Refresh.ofJson? (.obj m) = some r ↔
      m.text? "tool" = some r.tool ∧ m.objectOrEmpty? "args" = some r.args ∧
      m.nullable? "patchPath" Json.text? = some r.patchPath := by
  cases r
  simp [Refresh.ofJson?, Json.members?, Option.bind_eq_some_iff]

/-- The members that were read as a subscription say what the subscription says. -/
theorem Subscription.ofJson?_obj_eq_some_iff {m : Members} {s : Subscription} :
    Subscription.ofJson? (.obj m) = some s ↔
      m.text? "event" = some s.event ∧ m.list? "refresh" Refresh.ofJson? = some s.refresh := by
  cases s
  simp [Subscription.ofJson?, Json.members?, Option.bind_eq_some_iff]

/-- The members that were read as a view say what the view says. -/
theorem View.ofJson?_obj_eq_some_iff {m : Members} {view : View} :
    View.ofJson? (.obj m) = some view ↔
      (m.get? "component_tree").bind Node.ofJson? = some view.tree ∧
      m.nullable? "bindings" (fun v => v.items?.bind fun items => items.mapM Binding.ofJson?) =
        some view.bindings ∧
      m.nullable? "subscriptions"
        (fun v => v.items?.bind fun items => items.mapM Subscription.ofJson?) =
        some view.subscriptions := by
  cases view
  simp [View.ofJson?, Json.members?, Option.bind_eq_some_iff]

/-- Every item of a list that was read was read as one of the values. -/
theorem exists_read_of_mem {α β : Type} {read : α → Option β} {items : List α} {values : List β}
    (h : items.mapM read = some values) {item : α} (hitem : item ∈ items) :
    ∃ b ∈ values, read item = some b := by
  rw [mapM_eq_some_iff_forall₂] at h
  induction h with
  | nil => cases hitem
  | cons hread _ ih =>
    rcases List.mem_cons.1 hitem with rfl | hitem
    · exact ⟨_, List.mem_cons_self, hread⟩
    · obtain ⟨b, hb, hitem⟩ := ih hitem
      exact ⟨b, List.mem_cons_of_mem _ hb, hitem⟩

namespace Draft

/-! ## What a view of a member has seen -/

section
variable {key : String} {m : Members} {P : Json → Prop} {α : Type} {read : Json → Option α}

/-- A text that was read is a string. -/
theorem has_text {s : String} (h : m.text? key = some s) : Has key IsText m :=
  ⟨_, text?_eq_some_iff.1 h, s, rfl⟩

/-- A text that was read and is visible is a visible string. -/
theorem has_visibleText {s : String} (h : m.text? key = some s) (hs : Text.trim s ≠ "") :
    Has key IsVisibleText m :=
  ⟨_, text?_eq_some_iff.1 h, s, rfl, hs⟩

/-- A member that was read as an object, the empty one where it is absent, is an object. -/
theorem mayHave_object {o : Members} (h : m.objectOrEmpty? key = some o) :
    MayHave key IsObject m := by
  intro v hget
  rw [Members.objectOrEmpty?, hget] at h
  cases v <;> cases h
  exact ⟨_, rfl⟩

/-- A member that was read, unless it was absent or null, is what the reading of a value makes
sure of. -/
theorem mayHave_nullOr (hread : ∀ v b, read v = some b → P v) {a : Option α}
    (h : m.nullable? key read = some a) : MayHave key (NullOr P) m := by
  intro v hget
  rw [Members.nullable?, hget] at h
  by_cases hnull : v = .null
  · exact .inl hnull
  · cases hv : read v with
    | none => cases v <;> simp_all
    | some b => exact .inr (hread v b hv)

/-- A value whose items were read is an array of what the reading of an item makes sure of. -/
theorem listOf_of_read (hread : ∀ v b, read v = some b → P v) {v : Json} {values : List α}
    (h : (v.items?.bind fun items => items.mapM read) = some values) : ListOf P v := by
  obtain ⟨items, hitems, hvalues⟩ := Option.bind_eq_some_iff.1 h
  cases v <;> cases hitems
  refine ⟨items, rfl, fun item hitem => ?_⟩
  obtain ⟨b, -, hb⟩ := exists_read_of_mem hvalues hitem
  exact hread item b hb

/-- An array that was read is an array of what the reading of an item makes sure of. -/
theorem has_listOf (hread : ∀ v b, read v = some b → P v) {values : List α}
    (h : m.list? key read = some values) : Has key (ListOf P) m := by
  rw [Members.list?] at h
  cases hget : m.get? key with
  | none =>
    rw [hget] at h
    cases h
  | some v =>
    rw [hget] at h
    exact ⟨v, hget, listOf_of_read hread h⟩

end

/-! ## Steps -/

/-- A time to live that was read is one. -/
theorem isTtl_of_ttl? (v : Json) (t : Int64) (h : v.ttl? = some t) : IsTtl v := by
  cases v with
  | num n =>
    exact ⟨n, rfl, t.toInt, Json.Number.toInt64?_eq_some_iff.1 h, Json.exists_int64_iff.1 ⟨t, rfl⟩⟩
  | null | bool | str | arr | obj => cases h

/-- A step that was read, with an integer for its time to live, is well-formed if its identifier
is visible. -/
theorem isStep_of_read {v : Json} {s : Step} (h : Step.ofJson? (integerStep v) = some s)
    (hid : Text.trim s.id ≠ "") : ObjectOf IsStep v := by
  cases v with
  | obj m =>
    obtain ⟨hreadId, hreadTool, hreadArgs, hreadTtl⟩ :=
      Step.ofJson?_integerStep_obj_eq_some_iff.1 h
    exact ⟨m, rfl, has_visibleText hreadId hid, has_text hreadTool, mayHave_object hreadArgs,
      mayHave_nullOr isTtl_of_ttl? hreadTtl⟩
  | null | bool | num | str | arr => cases h

/-- Steps that were read are well-formed if their identifiers are visible and pairwise different. -/
theorem isStepList_of_read {m : Members} {steps : List Step}
    (h : m.listOrEmpty? "steps" (Step.ofJson? ∘ integerStep) = some steps)
    (hvisible : ∀ step ∈ steps, Text.trim step.id ≠ "")
    (hdistinct : (steps.map (·.id)).Nodup) : MayHave "steps" IsStepList m := by
  intro v hget
  rw [Members.listOrEmpty?, hget] at h
  cases v with
  | arr drafts =>
    have hread : drafts.mapM (Step.ofJson? ∘ integerStep) = some steps := h
    refine ⟨drafts, rfl, fun draft hdraft => ?_, ?_⟩
    · obtain ⟨step, hstep, hs⟩ := exists_read_of_mem hread hdraft
      exact isStep_of_read hs (hvisible step hstep)
    · have hnodup : (drafts.map (Json.get? "id")).Nodup := by
        rw [map_get?_id_of_read hread]
        exact hdistinct.map fun a b hab => by simpa using hab
      exact List.pairwise_map.1 hnodup
  | null | bool | num | str | obj => cases h

/-! ## Views -/

/-- A kind that was read has one of the two names. -/
theorem has_kind {m : Members} {kind : NodeKind}
    (h : (m.text? "type").bind NodeKind.ofName? = some kind) : Has "type" IsKind m := by
  obtain ⟨name, htext, hname⟩ := Option.bind_eq_some_iff.1 h
  refine ⟨_, text?_eq_some_iff.1 htext, ?_⟩
  rw [NodeKind.ofName?] at hname
  split at hname
  · next hlayout => exact .inl (hlayout ▸ rfl)
  · split at hname
    · next hcomponent => exact .inr (hcomponent ▸ rfl)
    · cases hname

mutual

/-- A node that was read is well-formed, whatever its depth. -/
theorem isNode_of_read : ∀ (node : Node) (v : Json), Node.ofJson? v = some node → IsNode v
  | .mk kind name props children, .obj m, h => by
    obtain ⟨hkind, hname, hprops, hchildren⟩ := Node.ofJson?_obj_eq_some_iff.1 h
    refine (isNode_obj_iff m).2 ⟨⟨has_kind hkind, has_text hname, mayHave_object hprops⟩, ?_⟩
    rw [Members.listOrEmpty?] at hchildren
    cases hget : Members.get? "children" m with
    | none => exact .inl rfl
    | some v =>
      rw [hget] at hchildren
      obtain ⟨items, hitems, hread⟩ := Option.bind_eq_some_iff.1 hchildren
      cases v <;> cases hitems
      exact .inr ⟨items, rfl, areNodes_of_read children items hread⟩
  | _, .null, h | _, .bool _, h | _, .num _, h | _, .str _, h | _, .arr _, h => by
    simp [Node.ofJson?] at h

/-- Nodes that were read are well-formed. -/
theorem areNodes_of_read : ∀ (nodes : List Node) (vs : List Json),
    vs.mapM Node.ofJson? = some nodes → ∀ v ∈ vs, IsNode v
  | _, [], _ => nofun
  | [], _ :: _, h => by simp [Option.bind_eq_some_iff] at h
  | node :: nodes, v :: vs, h => by
    obtain ⟨hv, hvs⟩ := List.forall₂_cons.1 (mapM_eq_some_iff_forall₂.1 h)
    rw [List.forall_mem_cons]
    exact ⟨isNode_of_read node v hv,
      areNodes_of_read nodes vs (mapM_eq_some_iff_forall₂.2 hvs)⟩

end

/-- A binding that was read is well-formed. -/
theorem isBinding_of_read (v : Json) (b : Binding) (h : Binding.ofJson? v = some b) :
    ObjectOf IsBinding v := by
  cases v with
  | obj m =>
    obtain ⟨hpath, hprop, hsource⟩ := Binding.ofJson?_obj_eq_some_iff.1 h
    exact ⟨m, rfl, has_text hpath, has_text hprop, has_text hsource⟩
  | null | bool | num | str | arr => cases h

/-- A refresh action that was read is well-formed. -/
theorem isRefresh_of_read (v : Json) (r : Refresh) (h : Refresh.ofJson? v = some r) :
    ObjectOf IsRefresh v := by
  cases v with
  | obj m =>
    obtain ⟨htool, hargs, hpath⟩ := Refresh.ofJson?_obj_eq_some_iff.1 h
    refine ⟨m, rfl, has_text htool, mayHave_object hargs, mayHave_nullOr (fun v s hv => ?_) hpath⟩
    cases v <;> cases hv
    exact ⟨s, rfl⟩
  | null | bool | num | str | arr => cases h

/-- A subscription that was read is well-formed. -/
theorem isSubscription_of_read (v : Json) (s : Subscription)
    (h : Subscription.ofJson? v = some s) : ObjectOf IsSubscription v := by
  cases v with
  | obj m =>
    obtain ⟨hevent, hrefresh⟩ := Subscription.ofJson?_obj_eq_some_iff.1 h
    exact ⟨m, rfl, has_text hevent, has_listOf isRefresh_of_read hrefresh⟩
  | null | bool | num | str | arr => cases h

/-- A view that was read is well-formed. -/
theorem isView_of_read (v : Json) (view : View) (h : View.ofJson? v = some view) :
    ObjectOf IsView v := by
  cases v with
  | obj m =>
    obtain ⟨htree, hbindings, hsubscriptions⟩ := View.ofJson?_obj_eq_some_iff.1 h
    obtain ⟨tree, hget, hread⟩ := Option.bind_eq_some_iff.1 htree
    exact ⟨m, rfl, ⟨tree, hget, isNode_of_read _ tree hread⟩,
      mayHave_nullOr (fun _ _ => listOf_of_read isBinding_of_read) hbindings,
      mayHave_nullOr (fun _ _ => listOf_of_read isSubscription_of_read) hsubscriptions⟩
  | null | bool | num | str | arr => cases h

/-! ## Plans -/

/-- A draft that reads as a valid plan, with integers for its times to live, is well-formed. -/
theorem wellFormed_of_read {draft : Json} {plan : Plan}
    (h : Plan.ofJson? (withIntegerTtls draft) = some plan) (hvalid : plan.Valid) :
    WellFormed draft := by
  cases draft with
  | obj m =>
    obtain ⟨hschema, hrationale, hsteps, hview, hsafety⟩ :=
      Plan.ofJson?_withIntegerTtls_obj_eq_some_iff.1 h
    refine ⟨m, rfl, ⟨_, text?_eq_some_iff.1 hschema, by rw [hvalid.schema]⟩,
      has_visibleText hrationale hvalid.rationale,
      isStepList_of_read hsteps hvalid.visible hvalid.distinct,
      mayHave_nullOr isView_of_read hview, mayHave_nullOr (fun v o hv => ?_) hsafety⟩
    cases v <;> cases hv
    exact ⟨o, rfl⟩
  | null | bool | num | str | arr => cases h

/-- **A draft is accepted as a plan exactly when it reads as that plan, with integers for its times
to live, and the plan is valid.** -/
theorem validate_eq_ok_iff_read {draft : Json} {plan : Plan} :
    validate draft = .ok plan ↔
      Plan.ofJson? (withIntegerTtls draft) = some plan ∧ plan.Valid := by
  constructor
  · intro h
    exact ⟨(validate_eq_ok_iff.1 h).2, valid_of_validate h⟩
  · rintro ⟨hread, hvalid⟩
    exact validate_eq_ok_iff.2 ⟨wellFormed_of_read hread hvalid, hread⟩

end Draft

end AgentPlan
