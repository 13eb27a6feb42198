import AgentPlan.Draft.Normalize
import AgentPlan.Proofs.Draft.Acceptance

/-!
# The normal form of an accepted draft

Normalization fills in what a draft leaves out, and the reader has defaults of its own for the same
members. The two agree: a step, a view and a draft read as the same before and after
(`read_normalizeStep`, `read_normalizeView`, `read_normalize`), but for the safety note that a draft
with a view is given. So the normal form of an accepted draft is accepted (`validate_normalize`).
-/

namespace AgentPlan

open Json (Members)

namespace Draft

/-! ## Members that are filled in -/

section
variable {key : String} {m : Members} {α : Type} {read : Json → Option α}

/-- An object that is filled in is the empty one, which is what an absent one is read as. -/
theorem objectOrEmpty?_insertNew :
    (m.insertNew key (.obj [])).objectOrEmpty? key = m.objectOrEmpty? key := by
  rw [Members.objectOrEmpty?, Members.objectOrEmpty?, Members.get?_insertNew_self]
  cases m.get? key <;> rfl

/-- A value that is filled in is null, which is read like an absent one. -/
theorem nullable?_insertNew : (m.insertNew key .null).nullable? key read = m.nullable? key read := by
  rw [Members.nullable?, Members.nullable?, Members.get?_insertNew_self]
  cases m.get? key <;> rfl

/-- A member is read as nothing exactly when it is absent or null. -/
theorem nullable?_eq_none_iff :
    m.nullable? key read = some none ↔ (m.get? key).getD .null = .null := by
  rw [Members.nullable?]
  split <;> simp_all

/-- A member is read as something exactly when its value is, if a null is not. -/
theorem nullable?_eq_some_iff (hnull : read .null = none) {a : α} :
    m.nullable? key read = some (some a) ↔ (m.get? key).bind read = some a := by
  rw [Members.nullable?]
  split <;> simp_all

end

/-! ## Steps -/

/-- A step reads as the same after normalization. -/
theorem read_normalizeStep {v : Json} {s : Step} (index : Nat)
    (h : Step.ofJson? (integerStep v) = some s) :
    Step.ofJson? (integerStep (normalizeStep index v)) = some s := by
  cases v with
  | obj m =>
    obtain ⟨hid, htool, hargs, httl⟩ := Step.ofJson?_integerStep_obj_eq_some_iff.1 h
    -- The step has an identifier, so it is not given one.
    have hsame : Members.insertNew "id" (.str (positionalId index)) m = m :=
      Members.insertNew_eq_self (text?_eq_some_iff.1 hid)
    rw [normalizeStep, hsame]
    refine Step.ofJson?_integerStep_obj_eq_some_iff.2 ⟨?_, ?_, ?_, ?_⟩
    · rw [← hid]
      simp (disch := decide) only [Members.text?, Members.get?_insertNew_of_ne]
    · rw [← htool]
      simp (disch := decide) only [Members.text?, Members.get?_insertNew_of_ne]
    · rw [Members.objectOrEmpty?, Members.get?_insertNew_of_ne _ _ (by decide)]
      exact objectOrEmpty?_insertNew.trans hargs
    · rw [nullable?_insertNew, ← httl]
      simp (disch := decide) only [Members.nullable?, Members.get?_insertNew_of_ne]
  | null | bool | num | str | arr => cases h

/-- Steps read as the same after normalization, whatever their indices. -/
theorem read_normalizeStepsFrom {drafts : List Json} {steps : List Step} (index : Nat)
    (h : drafts.mapM (Step.ofJson? ∘ integerStep) = some steps) :
    (normalizeStepsFrom index drafts).mapM (Step.ofJson? ∘ integerStep) = some steps := by
  rw [mapM_eq_some_iff_forall₂] at h ⊢
  induction h generalizing index with
  | nil => exact .nil
  | cons hread _ ih => exact .cons (read_normalizeStep index hread) (ih (index + 1))

/-- The steps of a draft read as the same after normalization: none, if it has no list of them. -/
theorem read_normalizeSteps {m : Members} {steps : List Step}
    (h : m.listOrEmpty? "steps" (Step.ofJson? ∘ integerStep) = some steps) :
    (normalizeSteps (m.get? "steps")).mapM (Step.ofJson? ∘ integerStep) = some steps := by
  rw [Members.listOrEmpty?] at h
  cases hget : m.get? "steps" with
  | none =>
    rw [hget] at h
    exact h
  | some v =>
    rw [hget] at h
    obtain ⟨items, hitems, hread⟩ := Option.bind_eq_some_iff.1 h
    cases v <;> cases hitems
    exact read_normalizeStepsFrom 0 hread

/-! ## Views -/

/-- A view reads as the same after normalization. -/
theorem read_normalizeView {v : Json} {view : View} (h : View.ofJson? v = some view) :
    View.ofJson? (normalizeView v) = some view := by
  cases v with
  | obj m =>
    obtain ⟨htree, hbindings, hsubscriptions⟩ := View.ofJson?_obj_eq_some_iff.1 h
    obtain ⟨tree, hget, hread⟩ := Option.bind_eq_some_iff.1 htree
    have hcontains : Members.contains "component_tree" m = true :=
      (Members.contains_iff _ _).2 ⟨tree, hget⟩
    rw [normalizeView_of_contains hcontains]
    refine View.ofJson?_obj_eq_some_iff.2 ⟨?_, ?_, ?_⟩
    · simp (disch := decide) only [Members.get?_insertNew_of_ne, htree]
    · rw [← hbindings, ← nullable?_insertNew (m := m)]
      simp (disch := decide) only [Members.nullable?, Members.get?_insertNew_of_ne]
    · rw [← hsubscriptions, nullable?_insertNew]
      simp (disch := decide) only [Members.nullable?, Members.get?_insertNew_of_ne]
  | null | bool | num | str | arr => cases h

/-! ## Drafts -/

/-- The draft has a view: a value that is not null. -/
def HasView (m : Members) : Prop :=
  Has "uiIntent" (· ≠ .null) m

/-- What the normal form of a draft with members `m` says: the members `n` state every field of a
plan but the safety note, which only a draft with a view is given. -/
structure NormalOf (m n : Members) : Prop where
  schema : n.get? "schema" = some ((m.get? "schema").getD (.str Plan.schemaTag))
  rationale : n.get? "rationale" = some ((m.get? "rationale").getD (.str defaultRationale))
  steps : n.get? "steps" = some (.arr (normalizeSteps (m.get? "steps")))
  view : n.get? "uiIntent" = some (normalizeView ((m.get? "uiIntent").getD .null))
  safety : HasView m → n.get? "safety" = some ((m.get? "safety").getD (.obj []))
  noSafety : ¬ HasView m → n.get? "safety" = m.get? "safety"

section
variable (m : Members)

/-- The base of a normal form has the draft's schema tag, or the one of plans. -/
theorem get?_normalizeBase_schema :
    (normalizeBase m).get? "schema" = some ((m.get? "schema").getD (.str Plan.schemaTag)) := by
  simp (disch := decide) only [normalizeBase, Members.get?_insert_of_ne,
    Members.get?_insertNew_of_ne, Members.get?_insertNew_self]

/-- The base of a normal form has the draft's rationale, or the default one. -/
theorem get?_normalizeBase_rationale :
    (normalizeBase m).get? "rationale" =
      some ((m.get? "rationale").getD (.str defaultRationale)) := by
  simp (disch := decide) only [normalizeBase, Members.get?_insert_of_ne,
    Members.get?_insertNew_of_ne, Members.get?_insertNew_self]

/-- The base of a normal form has a list of steps. -/
theorem get?_normalizeBase_steps :
    (normalizeBase m).get? "steps" = some (.arr (normalizeSteps (m.get? "steps"))) := by
  simp (disch := decide) only [normalizeBase, Members.get?_insert_self,
    Members.get?_insertNew_of_ne]

/-- The base of a normal form has all other members of the draft. -/
theorem get?_normalizeBase_of_ne {key : String} (hschema : key ≠ "schema")
    (hrationale : key ≠ "rationale") (hsteps : key ≠ "steps") :
    (normalizeBase m).get? key = m.get? key := by
  simp (disch := assumption) only [normalizeBase, Members.get?_insert_of_ne,
    Members.get?_insertNew_of_ne]

end

/-- A draft has no view exactly when its view is absent or null. -/
theorem not_hasView_iff {m : Members} :
    ¬ HasView m ↔ (m.get? "uiIntent").getD .null = .null := by
  rw [HasView, Has]
  cases m.get? "uiIntent" <;> simp

/-- Without a view, the base with a null for the view is a normal form. -/
theorem normalOf_of_not_hasView {m : Members} (h : ¬ HasView m) :
    NormalOf m ((normalizeBase m).insert "uiIntent" .null) where
  schema := by rw [Members.get?_insert_of_ne _ _ (by decide), get?_normalizeBase_schema]
  rationale := by rw [Members.get?_insert_of_ne _ _ (by decide), get?_normalizeBase_rationale]
  steps := by rw [Members.get?_insert_of_ne _ _ (by decide), get?_normalizeBase_steps]
  view := by
    rw [Members.get?_insert_self, not_hasView_iff.1 h]
    rfl
  safety hview := absurd hview h
  noSafety _ := by
    rw [Members.get?_insert_of_ne _ _ (by decide),
      get?_normalizeBase_of_ne m (by decide) (by decide) (by decide)]

/-- With a view, the base with the view's normal form and a safety note is a normal form. -/
theorem normalOf_of_view {m : Members} {v : Json} (hget : m.get? "uiIntent" = some v)
    (hv : v ≠ .null) :
    NormalOf m (Members.insertNew "safety" (.obj [])
      ((normalizeBase m).insert "uiIntent" (normalizeView v))) where
  schema := by
    rw [Members.get?_insertNew_of_ne _ _ (by decide), Members.get?_insert_of_ne _ _ (by decide),
      get?_normalizeBase_schema]
  rationale := by
    rw [Members.get?_insertNew_of_ne _ _ (by decide), Members.get?_insert_of_ne _ _ (by decide),
      get?_normalizeBase_rationale]
  steps := by
    rw [Members.get?_insertNew_of_ne _ _ (by decide), Members.get?_insert_of_ne _ _ (by decide),
      get?_normalizeBase_steps]
  view := by
    rw [Members.get?_insertNew_of_ne _ _ (by decide), Members.get?_insert_self, hget,
      Option.getD_some]
  safety _ := by
    rw [Members.get?_insertNew_self, Members.get?_insert_of_ne _ _ (by decide),
      get?_normalizeBase_of_ne m (by decide) (by decide) (by decide)]
  noSafety h := absurd ⟨v, hget, hv⟩ h

/-- The normal form of an object is a normal form of its members. -/
theorem exists_normalOf (m : Members) : ∃ n, normalize (.obj m) = .obj n ∧ NormalOf m n := by
  have hbase : (normalizeBase m).get? "uiIntent" = m.get? "uiIntent" :=
    get?_normalizeBase_of_ne m (by decide) (by decide) (by decide)
  simp only [normalize, Json.members?, Option.getD_some, hbase]
  split
  · next hnone => exact ⟨_, rfl, normalOf_of_not_hasView (not_hasView_iff.2 (by rw [hnone]; rfl))⟩
  · next hnull => exact ⟨_, rfl, normalOf_of_not_hasView (not_hasView_iff.2 (by rw [hnull]; rfl))⟩
  · next v hne hget => exact ⟨_, rfl, normalOf_of_view hget hne⟩

/-! ## Reading a normal form -/

/-- The view of a draft reads as the same after normalization. -/
theorem read_view_of_normalOf {m n : Members} (hn : NormalOf m n) {view : Option View}
    (h : m.nullable? "uiIntent" View.ofJson? = some view) :
    n.nullable? "uiIntent" View.ofJson? = some view := by
  cases view with
  | none =>
    rw [nullable?_eq_none_iff] at h ⊢
    rw [hn.view, h]
    rfl
  | some view =>
    rw [nullable?_eq_some_iff rfl] at h ⊢
    obtain ⟨v, hget, hread⟩ := Option.bind_eq_some_iff.1 h
    rw [hn.view, hget, Option.getD_some, Option.bind_some]
    exact read_normalizeView hread

/-- A draft reads as the same plan after normalization, but for the safety note. -/
theorem read_of_normalOf {m n : Members} (hn : NormalOf m n) {plan : Plan}
    (h : Plan.ofJson? (withIntegerTtls (.obj m)) = some plan) {safety : Option Members}
    (hsafety : n.nullable? "safety" Json.members? = some safety) :
    Plan.ofJson? (withIntegerTtls (.obj n)) = some { plan with safety } := by
  obtain ⟨hschema, hrationale, hsteps, hview, -⟩ :=
    Plan.ofJson?_withIntegerTtls_obj_eq_some_iff.1 h
  rw [text?_eq_some_iff] at hschema hrationale
  refine Plan.ofJson?_withIntegerTtls_obj_eq_some_iff.2 ⟨?_, ?_, ?_, ?_, hsafety⟩
  · rw [text?_eq_some_iff, hn.schema, hschema, Option.getD_some]
  · rw [text?_eq_some_iff, hn.rationale, hrationale, Option.getD_some]
  · rw [Members.listOrEmpty?, hn.steps]
    exact read_normalizeSteps hsteps
  · exact read_view_of_normalOf hn hview

/-- The draft gains a safety note by normalization: it has none, and it has a view. -/
def GainsSafety (draft : Json) : Prop :=
  draft.get? "safety" = none ∧ ∃ view, draft.get? "uiIntent" = some view ∧ view ≠ .null

/-- A draft that gains no safety note keeps what it says about safety. -/
theorem NormalOf.safety_eq {m n : Members} (hn : NormalOf m n) (h : ¬ GainsSafety (.obj m)) :
    n.get? "safety" = m.get? "safety" := by
  by_cases hview : HasView m
  · cases hget : m.get? "safety" with
    | none => exact absurd ⟨hget, hview⟩ h
    | some v => rw [hn.safety hview, hget, Option.getD_some]
  · exact hn.noSafety hview

/-- **The normal form of an accepted draft is accepted as the same plan**, but for an empty safety
note where the draft has a view and says nothing about safety, not even null. Reference:
`normalize_tool_plan` and `validate_tool_plan`. -/
theorem validate_normalize {draft : Json} {plan : Plan} (h : validate draft = .ok plan) :
    (GainsSafety draft → plan.safety = none ∧
      validate (normalize draft) = .ok { plan with safety := some [] }) ∧
    (¬ GainsSafety draft → validate (normalize draft) = .ok plan) := by
  obtain ⟨hread, hvalid⟩ := validate_eq_ok_iff_read.1 h
  obtain ⟨m, rfl, -⟩ := (validate_eq_ok_iff.1 h).1
  obtain ⟨n, hnormal, hn⟩ := exists_normalOf m
  rw [hnormal]
  have haccept {safety : Option Members}
      (hsafety : Members.nullable? "safety" Json.members? n = some safety) :
      validate (.obj n) = .ok { plan with safety } :=
    validate_eq_ok_iff_read.2 ⟨read_of_normalOf hn hread hsafety, hvalid.schema,
      hvalid.rationale, hvalid.visible, hvalid.distinct⟩
  have hdraft : Members.nullable? "safety" Json.members? m = some plan.safety := by
    have hplan := (Plan.ofJson?_obj_eq_some_iff.1 hread).2.2.2.2
    rwa [Members.nullable?, Members.get?_modify_of_ne _ _ (by decide)] at hplan
  constructor
  · rintro ⟨hnone, hview⟩
    rw [Json.get?] at hnone
    refine ⟨?_, haccept ?_⟩
    · rw [Members.nullable?, hnone] at hdraft
      exact (Option.some.inj hdraft).symm
    · rw [nullable?_eq_some_iff rfl, hn.safety hview, hnone]
      rfl
  · intro hkeeps
    refine haccept ?_
    rwa [Members.nullable?, hn.safety_eq hkeeps]

/-- A draft that leaves out all it may leave out, but for a view and for a time to live that is
written as a float. -/
def bareDraft : Json :=
  .obj [("schema", .str "tool_plan.v1"), ("rationale", .str "r"),
    ("steps", .arr [.obj [("id", .str "a"), ("tool", .str "t"),
      ("cache_ttl_seconds", .num (.float ⟨false, 25, 0⟩))]]),
    ("uiIntent", .obj [("component_tree", .obj [("type", .str "layout"), ("name", .str "column")])])]

/-- The plan of the bare draft. -/
def barePlan : Plan where
  schema := "tool_plan.v1"
  rationale := "r"
  steps := [⟨"a", "t", [], some 25⟩]
  view := some ⟨.mk .layout "column" [] [], none, none⟩
  safety := none

/-- The bare draft is accepted, and its normal form is, too, with an empty safety note. -/
theorem validate_normalize_bareDraft :
    validate bareDraft = .ok barePlan ∧ GainsSafety bareDraft ∧
      validate (normalize bareDraft) = .ok { barePlan with safety := some [] } := by
  have haccepted : validate bareDraft = .ok barePlan := by rfl
  have hgains : GainsSafety bareDraft := ⟨rfl, _, rfl, nofun⟩
  exact ⟨haccepted, hgains, ((validate_normalize haccepted).1 hgains).2⟩

end Draft

end AgentPlan
