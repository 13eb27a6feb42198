import AgentPlan.Proofs.Draft.Defects
import AgentPlan.Proofs.Draft.Reading

/-!
# Validation accepts exactly the well-formed drafts

Validation walks a draft for its defects and then reads it as a plan. The two agree: a draft without
defects is well-formed (`defects_eq_nil_iff`), and a well-formed draft is read (`exists_plan`), so
`validate_eq_ok_iff` and `validate_eq_error_iff` describe both answers, and the reader never has the
last word. The plan of a draft keeps what the format promises (`Plan.Valid`,
`valid_of_validate`).
-/

namespace AgentPlan

open Json (Members)

namespace Draft

instance : DecidablePred WellFormed :=
  fun draft => decidable_of_iff _ (defects_eq_nil_iff draft)

/-- A draft is validated as a plan exactly when it is well-formed and the plan is what is read from
it. -/
theorem validate_eq_ok_iff {draft : Json} {plan : Plan} :
    validate draft = .ok plan ↔
      WellFormed draft ∧ Plan.ofJson? (withIntegerTtls draft) = some plan := by
  rw [← defects_eq_nil_iff, validate]
  split
  · next hnil => split <;> simp_all
  · next ds hne => exact ⟨nofun, fun h => absurd h.1 hne⟩

/-- A draft is rejected exactly when it is not well-formed, with the defects of the walk. -/
theorem validate_eq_error_iff {draft : Json} {ds : List Defect} :
    validate draft = .error ds ↔ ¬ WellFormed draft ∧ ds = defects draft := by
  rw [validate]
  split
  · next hnil =>
    have hwell := (defects_eq_nil_iff draft).1 hnil
    obtain ⟨plan, hplan⟩ := exists_plan hwell
    simp [hplan, hwell]
  · next ds' hne =>
    rw [← defects_eq_nil_iff]
    constructor
    · rintro ⟨⟩
      exact ⟨hne, rfl⟩
    · rintro ⟨-, rfl⟩
      rfl

/-- **Validation returns a plan exactly for the well-formed drafts.** Any other draft is rejected
with the defects that the walk finds in it, of which there is at least one. Reference:
`validate_tool_plan`. -/
theorem validate_returns_plan_iff_wellFormed (draft : Json) :
    ((∃ plan, validate draft = .ok plan) ↔ WellFormed draft) ∧
    (¬ WellFormed draft → validate draft = .error (defects draft) ∧ defects draft ≠ []) := by
  refine ⟨⟨fun ⟨plan, h⟩ => (validate_eq_ok_iff.1 h).1, fun h => ?_⟩, fun h => ?_⟩
  · obtain ⟨plan, hplan⟩ := exists_plan h
    exact ⟨plan, validate_eq_ok_iff.2 ⟨h, hplan⟩⟩
  · exact ⟨validate_eq_error_iff.2 ⟨h, rfl⟩, fun hnil => h ((defects_eq_nil_iff draft).1 hnil)⟩

/-- A step without arguments and with a time to live that is written as a float, `25.0`. -/
example : WellFormed (.obj [("schema", .str "tool_plan.v1"), ("rationale", .str "r"),
    ("steps", .arr [.obj [("id", .str "a"), ("tool", .str "t"),
      ("cache_ttl_seconds", .num (.float ⟨false, 25, 0⟩))]])]) := by
  decide +kernel

/-! ## What the plan of a draft keeps -/

/-- The identifier of a step is the one of its draft. -/
theorem get?_id_of_read {v : Json} {s : Step} (h : Step.ofJson? (integerStep v) = some s) :
    v.get? "id" = some (.str s.id) := by
  cases v with
  | obj m => exact text?_eq_some_iff.1 (Step.ofJson?_integerStep_obj_eq_some_iff.1 h).1
  | null | bool | num | str | arr => cases h

/-- The identifiers of steps are those of their drafts, in order. -/
theorem map_get?_id_of_read {drafts : List Json} {steps : List Step}
    (h : drafts.mapM (Step.ofJson? ∘ integerStep) = some steps) :
    drafts.map (Json.get? "id") = (steps.map (·.id)).map (some ∘ Json.str) := by
  rw [mapM_eq_some_iff_forall₂] at h
  induction h with
  | nil => rfl
  | cons hread _ ih => simp only [List.map_cons, Function.comp, get?_id_of_read hread, ih]

/-- The steps of a plan that was read from a well-formed draft have visible identifiers, no two of
which are equal. -/
theorem ids_of_read {m : Members} {steps : List Step} (h : MayHave "steps" IsStepList m)
    (hread : m.listOrEmpty? "steps" (Step.ofJson? ∘ integerStep) = some steps) :
    (∀ step ∈ steps, Text.trim step.id ≠ "") ∧ (steps.map (·.id)).Nodup := by
  rw [Members.listOrEmpty?] at hread
  cases hget : m.get? "steps" with
  | none =>
    rw [hget] at hread
    cases hread
    simp
  | some v =>
    obtain ⟨drafts, rfl, heach, hpair⟩ := h v hget
    rw [hget] at hread
    have hids := map_get?_id_of_read hread
    refine ⟨fun step hstep => ?_, ?_⟩
    · have hmem : some (.str step.id) ∈ drafts.map (Json.get? "id") := by
        rw [hids]
        exact List.mem_map.2 ⟨step.id, List.mem_map_of_mem hstep, rfl⟩
      obtain ⟨draft, hdraft, hid⟩ := List.mem_map.1 hmem
      obtain ⟨m, rfl, hshape⟩ := heach draft hdraft
      obtain ⟨_, hget, id, rfl, hvisible⟩ := hshape.id
      cases hget.symm.trans hid
      exact hvisible
    · have hnodup : (drafts.map (Json.get? "id")).Nodup := List.pairwise_map.2 hpair
      rw [hids] at hnodup
      exact hnodup.of_map

end Draft

/-- What every plan keeps that leaves the service: its schema tag, a rationale that is not blank,
and identifiers of steps that are not blank and pairwise different. -/
structure Plan.Valid (p : Plan) : Prop where
  schema : p.schema = "tool_plan.v1"
  rationale : Text.trim p.rationale ≠ ""
  visible : ∀ step ∈ p.steps, Text.trim step.id ≠ ""
  distinct : (p.steps.map (·.id)).Nodup

namespace Draft

/-- The plan that a draft is validated as is valid. -/
theorem valid_of_validate {draft : Json} {plan : Plan} (h : validate draft = .ok plan) :
    plan.Valid := by
  obtain ⟨⟨m, rfl, hplan⟩, hread⟩ := validate_eq_ok_iff.1 h
  obtain ⟨hschema, hrationale, hsteps, -, -⟩ :=
    Plan.ofJson?_withIntegerTtls_obj_eq_some_iff.1 hread
  obtain ⟨hvisible, hdistinct⟩ := ids_of_read hplan.steps hsteps
  obtain ⟨_, hget, rfl⟩ := hplan.schema
  obtain ⟨_, hget', rationale, rfl, hrat⟩ := hplan.rationale
  have htag := (text?_eq_some_iff.2 hget).symm.trans hschema
  have hsame := (text?_eq_some_iff.2 hget').symm.trans hrationale
  exact ⟨(Option.some.inj htag).symm, Option.some.inj hsame ▸ hrat, hvisible, hdistinct⟩

end Draft

end AgentPlan
