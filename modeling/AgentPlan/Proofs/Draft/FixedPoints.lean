import AgentPlan.Proofs.Draft.NormalForm

/-!
# Normal drafts

What every normal form has, whatever value it is the normal form of: an object with a schema tag, a
rationale, a list of steps and a view or null (`IsNormal`, `exists_isNormal`). An object that has
all this is left alone by normalization (`normalize_eq_self`). So the normal drafts are the fixed
points of normalization, and to normalize once is enough (`normalize_idempotent`).
-/

namespace AgentPlan

open Json (Members)

/-! ## Keys that are there -/

namespace Json.Members

section
variable {key : String} {m : Members}

/-- A key that is filled in is there. -/
theorem contains_insertNew_self (key : String) (value : Json) (m : Members) :
    (m.insertNew key value).contains key = true :=
  (contains_iff _ _).2 ⟨_, get?_insertNew_self key value m⟩

/-- A key that is there stays when another member is filled in. -/
theorem contains_insertNew (other : String) (value : Json) (h : m.contains key = true) :
    (m.insertNew other value).contains key = true := by
  by_cases hkey : key = other
  · subst hkey
    exact contains_insertNew_self key value m
  · rwa [contains, get?_insertNew_of_ne value m hkey]

/-- Nothing is filled in where the key is there. -/
theorem insertNew_of_contains (value : Json) (h : m.contains key = true) :
    m.insertNew key value = m :=
  if_pos h

end

end Json.Members

namespace Draft

/-! ## What a normal form has -/

/-- The members of a normal step. It may lack a tool. -/
structure IsNormalStep (m : Members) : Prop where
  id : m.contains "id" = true
  args : m.contains "args" = true
  cacheTtl : m.contains "cache_ttl_seconds" = true

/-- The members of a normal view. -/
structure IsNormalView (m : Members) : Prop where
  tree : m.contains "component_tree" = true
  bindings : m.contains "bindings" = true
  subscriptions : m.contains "subscriptions" = true

/-- The members of a normal draft. -/
structure IsNormal (m : Members) : Prop where
  schema : m.contains "schema" = true
  rationale : m.contains "rationale" = true
  steps : Has "steps" (ListOf (ObjectOf IsNormalStep)) m
  view : Has "uiIntent" (NullOr (ObjectOf IsNormalView)) m
  safety : HasView m → m.contains "safety" = true

/-- A step is normal after normalization, whether it is an object or gets replaced by one. -/
theorem isNormalStep_normalizeStep (index : Nat) (step : Json) :
    ObjectOf IsNormalStep (normalizeStep index step) := by
  cases step with
  | obj m =>
    refine ⟨_, rfl, ?_, ?_, Members.contains_insertNew_self ..⟩
    · exact Members.contains_insertNew _ _ (Members.contains_insertNew _ _
        (Members.contains_insertNew_self ..))
    · exact Members.contains_insertNew _ _ (Members.contains_insertNew_self ..)
  | null | bool | num | str | arr => exact ⟨placeholderStep index, rfl, rfl, rfl, rfl⟩

/-- The steps from an index on are normal after normalization. -/
theorem isNormalStep_of_mem_normalizeStepsFrom {steps : List Json} {index : Nat} {step : Json}
    (h : step ∈ normalizeStepsFrom index steps) : ObjectOf IsNormalStep step := by
  induction steps generalizing index with
  | nil => cases h
  | cons first rest ih =>
    rcases List.mem_cons.1 h with rfl | h
    · exact isNormalStep_normalizeStep index first
    · exact ih h

/-- The steps of a draft are normal after normalization, also where they are no list. -/
theorem isNormalStep_of_mem_normalizeSteps {steps? : Option Json} {step : Json}
    (h : step ∈ normalizeSteps steps?) : ObjectOf IsNormalStep step := by
  unfold normalizeSteps at h
  split at h
  · exact isNormalStep_of_mem_normalizeStepsFrom h
  · cases h

/-- A view is null or normal after normalization. -/
theorem isNormalView_normalizeView (view : Json) :
    NullOr (ObjectOf IsNormalView) (normalizeView view) := by
  cases view with
  | obj m =>
    rw [normalizeView]
    split
    · next htree =>
      refine .inr ⟨_, rfl, ?_, ?_, Members.contains_insertNew_self ..⟩
      · exact Members.contains_insertNew _ _ (Members.contains_insertNew _ _ htree)
      · exact Members.contains_insertNew _ _ (Members.contains_insertNew_self ..)
    · exact .inl rfl
  | null | bool | num | str | arr => exact .inl rfl

/-- The normal form of some members is normal. Its view is null if the draft has none, so it has a
safety note if it has a view. -/
theorem NormalOf.isNormal {m n : Members} (h : NormalOf m n) : IsNormal n where
  schema := (Members.contains_iff _ _).2 ⟨_, h.schema⟩
  rationale := (Members.contains_iff _ _).2 ⟨_, h.rationale⟩
  steps := ⟨_, h.steps, _, rfl, fun _ => isNormalStep_of_mem_normalizeSteps⟩
  view := ⟨_, h.view, isNormalView_normalizeView _⟩
  safety := by
    rintro ⟨view, hview, hne⟩
    refine (Members.contains_iff _ _).2 ⟨_, h.safety ?_⟩
    by_contra hnone
    rw [h.view, not_hasView_iff.1 hnone] at hview
    exact hne (Option.some.inj hview).symm

/-- A draft that is no object is normalized like an empty one. -/
theorem normalize_eq_normalize_obj (draft : Json) :
    normalize draft = normalize (.obj (draft.members?.getD [])) := by
  cases draft <;> rfl

/-- Every value has a normal form, which is a normal draft. -/
theorem exists_isNormal (draft : Json) : ∃ m, normalize draft = .obj m ∧ IsNormal m := by
  obtain ⟨m, hm, hnormal⟩ := exists_normalOf (draft.members?.getD [])
  exact ⟨m, (normalize_eq_normalize_obj draft).trans hm, hnormal.isNormal⟩

/-! ## Fixed points -/

/-- A normal step is its own normal form. -/
theorem normalizeStep_eq_self {m : Members} (h : IsNormalStep m) (index : Nat) :
    normalizeStep index (.obj m) = .obj m := by
  rw [normalizeStep, Members.insertNew_of_contains _ h.id, Members.insertNew_of_contains _ h.args,
    Members.insertNew_of_contains _ h.cacheTtl]

/-- Normal steps are their own normal forms, whatever their indices. -/
theorem normalizeStepsFrom_eq_self {steps : List Json}
    (h : ∀ step ∈ steps, ObjectOf IsNormalStep step) (index : Nat) :
    normalizeStepsFrom index steps = steps := by
  induction steps generalizing index with
  | nil => rfl
  | cons step rest ih =>
    obtain ⟨⟨m, rfl, hstep⟩, hrest⟩ := List.forall_mem_cons.1 h
    rw [normalizeStepsFrom, normalizeStep_eq_self hstep, ih hrest]

/-- A view that is null or normal is its own normal form. -/
theorem normalizeView_eq_self {view : Json} (h : NullOr (ObjectOf IsNormalView) view) :
    normalizeView view = view := by
  rcases h with rfl | ⟨m, rfl, hview⟩
  · rfl
  · rw [normalizeView_of_contains hview.tree, Members.insertNew_of_contains _ hview.bindings,
      Members.insertNew_of_contains _ hview.subscriptions]

/-- The base of a normal draft is the draft. -/
theorem normalizeBase_eq_self {m : Members} (h : IsNormal m) : normalizeBase m = m := by
  obtain ⟨_, hsteps, steps, rfl, heach⟩ := h.steps
  rw [normalizeBase, Members.insertNew_of_contains _ h.schema,
    Members.insertNew_of_contains _ h.rationale, hsteps, normalizeSteps,
    normalizeStepsFrom_eq_self heach, Members.insert_eq_self hsteps]

/-- A normal draft is its own normal form. -/
theorem normalize_eq_self {m : Members} (h : IsNormal m) : normalize (.obj m) = .obj m := by
  obtain ⟨view, hview, hnormal⟩ := h.view
  simp only [normalize, Json.members?, Option.getD_some, normalizeBase_eq_self h, hview]
  split
  · next hnone => cases hnone
  · next hnull =>
    cases hnull
    rw [Members.insert_eq_self hview]
  · next v hne hsome =>
    cases hsome
    have hsafety : m.contains "safety" = true := h.safety ⟨view, hview, hne⟩
    rw [normalizeView_eq_self hnormal, Members.insert_eq_self hview,
      Members.insertNew_of_contains _ hsafety]

/-- **To normalize a draft once is enough**, whatever value it is: its normal form is its own normal
form. Reference: `normalize_tool_plan`. -/
theorem normalize_idempotent (draft : Json) : normalize (normalize draft) = normalize draft := by
  obtain ⟨m, hm, hnormal⟩ := exists_isNormal draft
  rw [hm, normalize_eq_self hnormal]

end Draft

end AgentPlan
