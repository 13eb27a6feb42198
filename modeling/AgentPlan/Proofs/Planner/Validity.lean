import AgentPlan.Proofs.Draft.Validation
import AgentPlan.Proofs.Planner.Rounds

/-!
# Plans that leave the planner

Every way to a plan goes through validation: whatever the model replies and whatever the repairer
makes of it, a run that ends with a plan has validated the normal form of some value as this plan
(`exists_validated_of_run`). So no plan leaves the planner that lacks what the format promises
(`run_valid`).
-/

namespace AgentPlan.Planner

variable {ρ : Type}

/-- The plan that the rounds end with was validated: it comes from the draft they start with, or
from the normal form of a repaired document. -/
theorem exists_validated_of_rounds {repairer : Repairer ρ} {request : Request} {s : State ρ}
    {plan : Plan} (h : (rounds repairer request s).result = .ok plan) :
    ∃ draft, (draft = s.draft ∨ ∃ document, draft = Draft.normalize document) ∧
      Draft.validate draft = .ok plan := by
  induction s using rounds_induction repairer request with
  | done s plan' hvalid =>
    cases h
    exact ⟨s.draft, .inl rfl, hvalid⟩
  | exhausted => cases h
  | failed => cases h
  | goesOn s ds round budget document repaired _ _ _ _ ih =>
    obtain ⟨draft, hdraft, hvalid⟩ := ih h
    refine ⟨draft, .inr ?_, hvalid⟩
    rcases hdraft with rfl | hdraft
    · exact ⟨document, rfl⟩
    · exact hdraft

/-- The plan that a run ends with was validated, as the normal form of a value that the model or the
repairer gave. -/
theorem exists_validated_of_run {p : Planner ρ} {request : Request} {session : Session ρ}
    {plan : Plan} (h : (p.run request session).result = .ok plan) :
    ∃ value, Draft.validate (Draft.normalize value) = .ok plan := by
  have hrounds {repairer : Repairer ρ} {request : Request} {budget : Budget} {value : Json}
      {session : Session ρ}
      (h : (rounds repairer request ⟨budget, 0, Draft.normalize value, session⟩).result =
        .ok plan) : ∃ value, Draft.validate (Draft.normalize value) = .ok plan := by
    obtain ⟨_, rfl | ⟨document, rfl⟩, hvalid⟩ := exists_validated_of_rounds h
    · exact ⟨value, hvalid⟩
    · exact ⟨document, hvalid⟩
  have hcourse := p.run_course request session
  generalize p.run request session = r at h hcourse
  cases hcourse with
  | callFailed => cases h
  | parsed => exact hrounds h
  | notJson => cases h
  | textFailed => cases h
  | textRepaired => exact hrounds h

/-- **Every plan that leaves the planner is valid**, whatever the model replies and whatever the
repairer does, for every ceiling and every budget. Reference: `PlanOrchestrator.generate_plan`. -/
theorem run_valid (p : Planner ρ) (request : Request) (session : Session ρ) {plan : Plan}
    (h : (p.run request session).result = .ok plan) : plan.Valid := by
  obtain ⟨value, hvalid⟩ := exists_validated_of_run h
  exact Draft.valid_of_validate hvalid

/-- A reply that is not JSON and a repair with two equal identifiers are on the way to this plan. -/
theorem run_valid_after_two_repairs :
    ∃ plan, (run ⟨20000, 8, 2, .scripted⟩ (.ofPrompt "budget") ⟨[.ofText "no JSON"],
        [.ok (.obj [("steps", .arr [.obj [("id", .str "a"), ("tool", .str "t")],
            .obj [("id", .str "a"), ("tool", .str "u")]])]),
          .ok (.obj [("steps", .arr [.obj [("tool", .str "t")],
            .obj [("id", .str "a"), ("tool", .str "u")]])])]⟩).result = .ok plan ∧
      plan.steps.map (·.id) = ["step_1", "a"] ∧ plan.Valid := by
  generalize hrun : run _ _ _ = r
  have hids : r.plan?.map (·.steps.map (·.id)) = some ["step_1", "a"] := by
    rw [← hrun]
    decide +kernel
  obtain ⟨plan, hplan, hsteps⟩ := Option.map_eq_some_iff.1 hids
  have hresult := Run.plan?_eq_some_iff.1 hplan
  exact ⟨plan, hresult, hsteps, run_valid _ _ _ (hrun ▸ hresult)⟩

end AgentPlan.Planner
