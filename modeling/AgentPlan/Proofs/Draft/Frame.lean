import AgentPlan.Proofs.Draft.FixedPoints

/-!
# What normalization leaves alone

Normalization owns the steps, the view and what it fills in, and it keeps all else. Where it fills
in members of an object, the object is extended (`Members.Extends`): nothing of it is lost or
changed, and only some keys may be new. Steps and views are extended one by one
(`extends_normalizeStep`, `extends_normalizeView`), but for the flat list of components, which gives
way to a tree (`extends_erase_normalizeView`). `normalize_frame` says this of whole drafts.
-/

namespace AgentPlan

open Json (Members)

/-! ## Objects that are extended -/

namespace Json.Members

/-- The object `n` keeps every member of the object `m`, and only the given keys may be new. -/
structure Extends (keys : List String) (m n : Members) : Prop where
  kept : ∀ key v, m.get? key = some v → n.get? key = some v
  gained : ∀ key, n.contains key = true → m.contains key = true ∨ key ∈ keys

variable {keys : List String} {m n : Members}

/-- An object is extended by no key. -/
theorem Extends.refl (m : Members) : m.Extends [] m :=
  ⟨fun _ _ h => h, fun _ h => .inl h⟩

/-- An object that has got a new member is extended by its key. -/
theorem Extends.insertNew (h : m.Extends keys n) (key : String) (value : Json) :
    m.Extends (key :: keys) (n.insertNew key value) where
  kept other v hget := by
    have hother := h.kept other v hget
    by_cases hkey : other = key
    · subst hkey
      rwa [insertNew_eq_self hother]
    · rwa [get?_insertNew_of_ne _ _ hkey]
  gained other hcontains := by
    by_cases hkey : other = key
    · exact .inr (hkey ▸ List.mem_cons_self)
    · rw [contains, get?_insertNew_of_ne _ _ hkey] at hcontains
      exact (h.gained other hcontains).imp_right (List.mem_cons_of_mem key)

/-- A key that was not there is new when it is set. -/
theorem Extends.insert (h : m.Extends keys n) {key : String} (value : Json)
    (hnone : n.get? key = none) : m.Extends (key :: keys) (n.insert key value) := by
  have hsame : n.insert key value = n.insertNew key value := by
    have hcontains : n.contains key = false := (contains_eq_false_iff key n).2 hnone
    rw [Members.insert, Members.insertNew, hcontains]
    rfl
  rw [hsame]
  exact h.insertNew key value

end Json.Members

namespace Draft

/-! ## Steps -/

/-- A step that is an object keeps its members and gains at most what every step has. -/
def KeepsStep (step normal : Json) : Prop :=
  ∀ m : Members, step = .obj m →
    ∃ n, normal = .obj n ∧ m.Extends ["cache_ttl_seconds", "args", "id"] n

/-- Normalizing a step adds members and changes none, wherever the step stands. -/
theorem extends_normalizeStep (index : Nat) (step : Json) :
    KeepsStep step (normalizeStep index step) := by
  rintro m rfl
  exact ⟨_, rfl, ((Members.Extends.refl m).insertNew _ _).insertNew _ _ |>.insertNew _ _⟩

/-- The steps from an index on are kept one by one, in their order. -/
theorem forall₂_normalizeStepsFrom (index : Nat) (steps : List Json) :
    List.Forall₂ KeepsStep steps (normalizeStepsFrom index steps) := by
  induction steps generalizing index with
  | nil => exact .nil
  | cons step rest ih => exact .cons (extends_normalizeStep index step) (ih (index + 1))

/-! ## Views -/

section
variable {view : Members}

/-- A view with a tree keeps its members and gains at most what every view has. -/
theorem extends_normalizeView (htree : view.contains "component_tree" = true) :
    ∃ normal, normalizeView (.obj view) = .obj normal ∧
      view.Extends ["subscriptions", "bindings"] normal :=
  ⟨_, normalizeView_of_contains htree,
    ((Members.Extends.refl view).insertNew "bindings" .null).insertNew _ .null⟩

/-- A view with a flat list of components and no tree gets the tree for the list, and keeps its
other members. -/
theorem extends_erase_normalizeView {components : List Json}
    (htree : view.contains "component_tree" = false)
    (hlist : view.get? "components" = some (.arr components)) :
    ∃ normal : Members, normalizeView (.obj view) = .obj normal ∧
      normal.contains "components" = false ∧
      normal.get? "component_tree" = some (column components) ∧
      (view.erase "components").Extends ["subscriptions", "bindings", "component_tree"] normal := by
  have hnone : view.get? "component_tree" = none := (Members.contains_eq_false_iff _ _).1 htree
  have herased : (view.erase "components").get? "component_tree" = none := by
    rw [Members.get?_erase_of_ne _ (by decide), hnone]
  refine ⟨_, normalizeView_of_flat hnone hlist, ?_, ?_, ?_⟩
  · rw [Members.contains_eq_false_iff]
    simp (disch := decide) only [Members.get?_insertNew_of_ne, Members.get?_insert_of_ne,
      Members.get?_erase_self]
  · simp (disch := decide) only [Members.get?_insertNew_of_ne, Members.get?_insert_self]
  · exact ((Members.Extends.refl _).insert _ herased).insertNew _ _ |>.insertNew _ _

end

/-! ## Drafts -/

/-- The keys that every normal draft with a view has. -/
def ownKeys : List String :=
  ["schema", "rationale", "steps", "uiIntent", "safety"]

/-- Other members than those that normalization may write are the draft's. -/
theorem get?_of_normalize {m n : Members} (h : normalize (.obj m) = .obj n) {key : String}
    (hkey : key ∉ ownKeys) : n.get? key = m.get? key := by
  simp only [ownKeys, List.mem_cons, List.not_mem_nil, or_false, not_or] at hkey
  obtain ⟨hschema, hrationale, hsteps, hview, hsafety⟩ := hkey
  have hbase := get?_normalizeBase_of_ne m hschema hrationale hsteps
  simp only [normalize, Json.members?, Option.getD_some] at h
  split at h
  · cases h
    rw [Members.get?_insert_of_ne _ _ hview, hbase]
  · cases h
    rw [Members.get?_insert_of_ne _ _ hview, hbase]
  · cases h
    rw [Members.get?_insertNew_of_ne _ _ hsafety, Members.get?_insert_of_ne _ _ hview, hbase]

/-- What a normal form with members `n` leaves untouched of a draft with members `m`. -/
structure Untouched (m n : Members) : Prop where
  /-- Every key but those of the steps and the view keeps its value; a schema tag, a rationale and
  a safety note are only given to a draft that has none. -/
  others : ∀ key, key ≠ "steps" → key ≠ "uiIntent" → key ∉ ownKeys ∨ m.contains key = true →
    n.get? key = m.get? key
  /-- No other key is new. -/
  keys : ∀ key, n.contains key = true → m.contains key = true ∨ key ∈ ownKeys
  steps : ∀ steps, m.get? "steps" = some (.arr steps) →
    ∃ normal, n.get? "steps" = some (.arr normal) ∧ List.Forall₂ KeepsStep steps normal
  view : ∀ view : Members, m.get? "uiIntent" = some (.obj view) →
    view.contains "component_tree" = true → ∃ normal, n.get? "uiIntent" = some (.obj normal) ∧
      view.Extends ["subscriptions", "bindings"] normal
  /-- The components of a flat list give way to the tree for them, and nothing else does. -/
  flatView : ∀ (view : Members) (components : List Json), m.get? "uiIntent" = some (.obj view) →
    view.contains "component_tree" = false → view.get? "components" = some (.arr components) →
    ∃ normal : Members, n.get? "uiIntent" = some (.obj normal) ∧
      normal.contains "components" = false ∧
      normal.get? "component_tree" = some (column components) ∧
      (view.erase "components").Extends ["subscriptions", "bindings", "component_tree"] normal

/-- A member of an object is its value where there is one. -/
theorem getD_eq_of_contains {key : String} {m : Members} (value : Json)
    (h : m.contains key = true) : some ((m.get? key).getD value) = m.get? key := by
  obtain ⟨v, hv⟩ := (Members.contains_iff key m).1 h
  rw [hv, Option.getD_some]

/-- A schema tag, a rationale and a safety note that the draft has are kept. -/
theorem NormalOf.get?_of_contains {m n : Members} (h : NormalOf m n) {key : String}
    (hkey : key = "schema" ∨ key = "rationale" ∨ key = "safety")
    (hcontains : m.contains key = true) : n.get? key = m.get? key := by
  rcases hkey with rfl | rfl | rfl
  · rw [h.schema, getD_eq_of_contains _ hcontains]
  · rw [h.rationale, getD_eq_of_contains _ hcontains]
  · by_cases hhas : HasView m
    · rw [h.safety hhas, getD_eq_of_contains _ hcontains]
    · exact h.noSafety hhas

/-- **Normalization leaves alone what it does not own.** Of a draft that is an object it fills in
what is missing of the schema tag, the rationale and the safety note, works inside the steps and the
view, and keeps every other member as it is, unknown ones included. Reference:
`normalize_tool_plan`, with `normalize_steps` and `normalize_ui_intent`. -/
theorem normalize_frame (m : Members) : ∃ n, normalize (.obj m) = .obj n ∧ Untouched m n := by
  obtain ⟨n, hnormalize, hn⟩ := exists_normalOf m
  refine ⟨n, hnormalize, ?others, ?keys, ?steps, ?view, ?flatView⟩
  case others =>
    intro key hsteps hview hown
    by_cases hkey : key ∈ ownKeys
    · have hcontains := hown.resolve_left (not_not_intro hkey)
      simp only [ownKeys, List.mem_cons, List.not_mem_nil, or_false, hsteps, hview,
        false_or] at hkey
      exact hn.get?_of_contains hkey hcontains
    · exact get?_of_normalize hnormalize hkey
  case keys =>
    intro key hcontains
    by_cases hkey : key ∈ ownKeys
    · exact .inr hkey
    · rw [Members.contains, get?_of_normalize hnormalize hkey] at hcontains
      exact .inl hcontains
  case steps =>
    intro steps hget
    refine ⟨normalizeStepsFrom 0 steps, ?_, forall₂_normalizeStepsFrom 0 steps⟩
    rw [hn.steps, hget, normalizeSteps]
  case view =>
    intro view hget htree
    rw [hn.view, hget, Option.getD_some]
    obtain ⟨normal, hnormal, hextends⟩ := extends_normalizeView htree
    exact ⟨normal, congrArg some hnormal, hextends⟩
  case flatView =>
    intro view components hget htree hlist
    rw [hn.view, hget, Option.getD_some]
    obtain ⟨normal, hnormal, hrest⟩ := extends_erase_normalizeView htree hlist
    exact ⟨normal, congrArg some hnormal, hrest⟩

/-- A note that no plan has stays in the draft, in its step and in its view. -/
example : normalize (.obj [("note", .str "n"), ("steps", .arr [.obj [("note", .str "s")], .null]),
      ("uiIntent", .obj [("components", .arr []), ("note", .str "v")])]) =
    .obj [("note", .str "n"), ("rationale", .str defaultRationale), ("safety", .obj []),
      ("schema", .str "tool_plan.v1"),
      ("steps", .arr [.obj [("args", .obj []), ("cache_ttl_seconds", .null),
        ("id", .str "step_1"), ("note", .str "s")], .obj (placeholderStep 1)]),
      ("uiIntent", .obj [("bindings", .null), ("component_tree", column []),
        ("note", .str "v"), ("subscriptions", .null)])] := by
  decide +kernel

end Draft

end AgentPlan
