import AgentPlan.Proofs.Draft.FixedPoints
import AgentPlan.Proofs.Draft.Pointers

/-!
# What is never wrong with a normal draft

Validation only sees normal drafts, and these have what normalization fills in. So a report on one
never finds fault with the draft as a whole, with its list of steps, with a step as a whole or with
its view as a whole (`WholePath`): whatever is wrong is wrong further inside
(`inside_of_mem_defects`). And it never asks for a member that normalization filled in
(`FilledPath`): a defect that asks for one points to an object that lacks it
(`IsNormal.contains_of_filledPath`).
-/

namespace AgentPlan.Draft

open Json (Members)

/-- The paths of the parts of a draft that have their shape after normalization. -/
inductive WholePath : String → Prop
  | root : WholePath "(root)"
  | steps : WholePath "steps"
  | step (index : Nat) : WholePath ("steps." ++ toString index)
  | view : WholePath "uiIntent"

/-- The paths of the members of a draft that are there after normalization. -/
inductive FilledPath : String → Prop
  | schema : FilledPath "schema"
  | rationale : FilledPath "rationale"
  | stepId (index : Nat) : FilledPath ("steps." ++ toString index ++ ".id")
  | tree : FilledPath "uiIntent.component_tree"

/-! ## Paths and their words -/

/-- The text of a number has no dot. -/
theorem dot_notMem_toString (n : Nat) : '.' ∉ (toString n).toList :=
  fun h => absurd (Text.isDigit_of_mem_toString h) (by decide)

/-- The words of a step's path. -/
theorem dotted_step (index : Nat) :
    Text.dotted ("steps." ++ toString index) = ["steps", toString index] := by
  have hpath : "steps." ++ toString index = String.intercalate "." ["steps", toString index] := rfl
  rw [hpath]
  refine Text.dotted_intercalate (by simp) ?_
  simpa using dot_notMem_toString index

/-- The words of the path of a step's identifier. -/
theorem dotted_stepId (index : Nat) :
    Text.dotted ("steps." ++ toString index ++ ".id") = ["steps", toString index, "id"] := by
  have hpath : "steps." ++ toString index ++ ".id" =
      String.intercalate "." ["steps", toString index, "id"] := by
    show _ = "steps." ++ toString index ++ "." ++ "id"
    rw [@String.append_assoc _ "." "id"]
    rfl
  rw [hpath]
  refine Text.dotted_intercalate (by simp) ?_
  simpa using dot_notMem_toString index

/-! ## Defects lie inside -/

section
variable {d : Defect} {m : Members} {key : String} {check : Option Json → List Defect}

/-- A defect of a member lies below its key. -/
theorem exists_below_of_mem_member (h : d ∈ member key check m) :
    ∃ d' ∈ check (m.get? key), d.words = key :: d'.words := by
  obtain ⟨d', hd', rfl⟩ := List.mem_map.1 h
  exact ⟨d', hd', rfl⟩

/-- A defect of a member is no defect of the object as a whole. -/
theorem words_ne_nil_of_mem_member (h : d ∈ member key check m) : d.words ≠ [] := by
  obtain ⟨d', -, hwords⟩ := exists_below_of_mem_member h
  simp [hwords]

/-- A step that is an object has its defects in its members. -/
theorem words_ne_nil_of_mem_stepDefects {seen : List String}
    (h : d ∈ stepDefects seen (.obj m)) : d.words ≠ [] := by
  simp only [stepDefects, object, List.mem_append] at h
  rcases h with ((h | h) | h) | h <;> exact words_ne_nil_of_mem_member h

/-- A view that is an object has its defects in its members. -/
theorem words_ne_nil_of_mem_viewDefects (h : d ∈ viewDefects m) : d.words ≠ [] := by
  simp only [viewDefects, List.mem_append] at h
  rcases h with (h | h) | h <;> exact words_ne_nil_of_mem_member h

/-- Steps that are objects have their defects inside, behind the index of the step. -/
theorem two_le_length_of_mem_stepsFrom {steps : List Json} {seen : List String} {index : Nat}
    (hobj : ∀ step ∈ steps, ObjectOf IsNormalStep step) (h : d ∈ stepsFrom seen index steps) :
    2 ≤ d.words.length := by
  induction steps generalizing seen index with
  | nil => cases h
  | cons step rest ih =>
    obtain ⟨⟨m, rfl, -⟩, hrest⟩ := List.forall_mem_cons.1 hobj
    rcases List.mem_append.1 h with hstep | hlater
    · obtain ⟨d', hd', rfl⟩ := List.mem_map.1 hstep
      have hpos := List.length_pos_iff.2 (words_ne_nil_of_mem_stepDefects hd')
      rw [Defect.words_below, List.length_cons]
      omega
    · exact ih hrest hlater

/-- The words of a defect of a normal draft begin with a key of a plan, and go on until they are
inside a step or inside the view, if this is the key. -/
theorem inside_of_mem_defects (hm : IsNormal m) (h : d ∈ defects (.obj m)) :
    ∃ key rest, d.words = key :: rest ∧ (key = "steps" → 2 ≤ rest.length) ∧
      (key = "uiIntent" → rest ≠ []) := by
  have hother {key : String} {check : Option Json → List Defect} (h : d ∈ member key check m)
      (hsteps : key ≠ "steps") (hview : key ≠ "uiIntent") :
      ∃ key rest, d.words = key :: rest ∧ (key = "steps" → 2 ≤ rest.length) ∧
        (key = "uiIntent" → rest ≠ []) := by
    obtain ⟨d', -, hwords⟩ := exists_below_of_mem_member h
    exact ⟨key, d'.words, hwords, fun hkey => absurd hkey hsteps, fun hkey => absurd hkey hview⟩
  simp only [defects, object, List.mem_append] at h
  rcases h with (((hschema | hrationale) | hsteps) | hview) | hsafety
  · exact hother hschema (by decide) (by decide)
  · exact hother hrationale (by decide) (by decide)
  · obtain ⟨d', hd', hwords⟩ := exists_below_of_mem_member hsteps
    obtain ⟨_, hget, steps, rfl, heach⟩ := hm.steps
    rw [hget] at hd'
    exact ⟨_, _, hwords, fun _ => two_le_length_of_mem_stepsFrom heach hd', by simp⟩
  · obtain ⟨d', hd', hwords⟩ := exists_below_of_mem_member hview
    obtain ⟨_, hget, hnormal⟩ := hm.view
    rw [hget] at hd'
    rcases hnormal with rfl | ⟨view, rfl, -⟩
    · cases hd'
    · exact ⟨_, _, hwords, by simp, fun _ => words_ne_nil_of_mem_viewDefects hd'⟩
  · exact hother hsafety (by decide) (by decide)

/-- No defect of a normal draft is one of the draft, its steps, a step or its view as a whole. -/
theorem not_wholePath_of_mem_defects (hm : IsNormal m) (h : d ∈ defects (.obj m)) :
    ¬ WholePath d.pathText := by
  obtain ⟨key, rest, hwords, hsteps, hview⟩ := inside_of_mem_defects hm h
  rw [← dotted_of_mem_defects h] at hwords
  intro hpath
  generalize htext : d.pathText = text at hpath hwords
  cases hpath with
  | root => exact pathText_ne_root h htext
  | steps =>
    rw [show Text.dotted "steps" = ["steps"] by decide] at hwords
    cases hwords
    exact absurd (hsteps rfl) (by decide)
  | step index =>
    rw [dotted_step] at hwords
    cases hwords
    exact absurd (hsteps rfl) (by simp)
  | view =>
    rw [show Text.dotted "uiIntent" = ["uiIntent"] by decide] at hwords
    cases hwords
    exact hview rfl rfl

/-! ## Members that are there -/

/-- The words of a filled path but the last one lead to an object, if to any, that has this last one
as a key. -/
theorem IsNormal.contains_of_filledPath (hm : IsNormal m) {path : String} (hpath : FilledPath path)
    {parent : List String} {o : Members} (hwords : Text.dotted path = parent ++ [key])
    (hleads : (Json.obj m).Leads parent (.obj o)) : o.contains key = true := by
  cases hpath with
  | schema =>
    rw [show Text.dotted "schema" = [] ++ ["schema"] by decide] at hwords
    obtain ⟨rfl, hkey⟩ := List.append_inj' hwords rfl
    cases hkey
    cases hleads
    exact hm.schema
  | rationale =>
    rw [show Text.dotted "rationale" = [] ++ ["rationale"] by decide] at hwords
    obtain ⟨rfl, hkey⟩ := List.append_inj' hwords rfl
    cases hkey
    cases hleads
    exact hm.rationale
  | stepId index =>
    have hsplit : ["steps", toString index, "id"] = ["steps", toString index] ++ ["id"] := rfl
    rw [dotted_stepId, hsplit] at hwords
    obtain ⟨rfl, hkey⟩ := List.append_inj' hwords rfl
    cases hkey
    obtain ⟨_, hget, steps, rfl, hsteps⟩ := hm.steps
    cases hleads with
    | key hget' hstep =>
      cases hget.symm.trans hget'
      generalize toString index = word at hstep
      cases hstep with
      | item hitem hhere =>
        cases hhere
        obtain ⟨_, hobj, hstep⟩ := hsteps _ (List.mem_of_getElem? hitem)
        cases hobj
        exact hstep.id
  | tree =>
    rw [show Text.dotted "uiIntent.component_tree" = ["uiIntent"] ++ ["component_tree"] by decide]
      at hwords
    obtain ⟨rfl, hkey⟩ := List.append_inj' hwords rfl
    cases hkey
    obtain ⟨view, hget, hview⟩ := hm.view
    cases hleads with
    | key hget' hhere =>
      cases hget.symm.trans hget'
      cases hhere
      rcases hview with hnull | ⟨_, hobj, hview⟩
      · cases hnull
      · cases hobj
        exact hview.tree

/-- No defect of a normal draft asks for a member that normalization fills in. -/
theorem not_filledPath_of_mem_defects (hm : IsNormal m) (h : d ∈ defects (.obj m))
    (hproblem : d.problem = .required) : ¬ FilledPath d.pathText := by
  intro hpath
  obtain ⟨parent, key, o, hwords, hleads, hnone⟩ :=
    ((sound_defects_obj m).located d h).lacks hproblem
  rw [← dotted_of_mem_defects h] at hwords
  have hcontains := hm.contains_of_filledPath hpath hwords hleads
  rw [Members.contains, hnone] at hcontains
  cases hcontains

end

/-- **Normalization and validation meet.** The normal form of every value is an object with all that
a normal draft has, and a report on it never finds fault with the draft, its steps, a step or its
view as a whole, nor does it ask for a schema tag, a rationale, a step's identifier or a view's
tree. Reference: `normalize_tool_plan` and `check_plan`. -/
theorem normalize_meets_validate (draft : Json) :
    ∃ m, normalize draft = .obj m ∧ IsNormal m ∧
      ∀ ds, validate (normalize draft) = .error ds → ∀ d ∈ ds, ¬ WholePath d.pathText ∧
        (d.problem.message = "field required" → ¬ FilledPath d.pathText) := by
  obtain ⟨m, hm, hnormal⟩ := exists_isNormal draft
  refine ⟨m, hm, hnormal, fun ds hrejected d hd => ?_⟩
  rw [hm] at hrejected
  obtain ⟨-, rfl⟩ := validate_eq_error_iff.1 hrejected
  exact ⟨not_wholePath_of_mem_defects hnormal hd, fun hmessage =>
    not_filledPath_of_mem_defects hnormal hd (Problem.message_eq_required_iff.1 hmessage)⟩

end AgentPlan.Draft
