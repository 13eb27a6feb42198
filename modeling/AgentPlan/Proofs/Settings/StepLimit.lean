import AgentPlan.Proofs.Settings.Reading
import AgentPlan.Proofs.Prompt.Blocks
import AgentPlan.Proofs.Planner.Warnings
import AgentPlan.Proofs.Request.Acceptance
import AgentPlan.Service

/-!
# The limit on the number of steps

Settings and requests that are read have limits between 1 and 32, so the smaller one of both, at
which a run is made, lies between 1 and the limit of the settings. The planning call states this
limit and no other (`statesLimit_firstCall_iff`), and a run that finds a plan notes that the plan
has too many steps exactly if it has more of them (`tooManySteps_mem_log_iff`).
-/

namespace AgentPlan

/-! ## Limits -/

/-- Of the limits of a request and of settings that are read, the smaller one is at least 1 and at
most that of the settings, which is at most 32. -/
theorem limit_bounds {r : Request} {s : Settings} (hr : r.fault? = none) (hs : s.fault? = none) :
    1 ≤ (min r.maxSteps s.maxSteps).toNat ∧
      (min r.maxSteps s.maxSteps).toNat ≤ s.maxSteps.toNat ∧ s.maxSteps.toNat ≤ 32 := by
  obtain ⟨-, hrequested, -⟩ := Request.fault?_eq_none_iff.1 hr
  obtain ⟨⟨hleast, hgreatest⟩, -, -⟩ := Settings.fault?_eq_none_iff.1 hs
  have hrequested : 1 ≤ r.maxSteps.toNat := UInt32.le_iff_toNat_le.1 hrequested
  have hleast : 1 ≤ s.maxSteps.toNat := UInt32.le_iff_toNat_le.1 hleast
  have hgreatest : s.maxSteps.toNat ≤ 32 := UInt32.le_iff_toNat_le.1 hgreatest
  rw [UInt32.toNat_min]
  exact ⟨Nat.le_min.2 ⟨hrequested, hleast⟩, Nat.min_le_right _ _, hgreatest⟩

/-! ## The audit -/

/-- The audit finds too many steps exactly if there are more than the limit of the request, and says
how many there are and what the limit is. -/
theorem Plan.tooManySteps_mem_audit_iff {plan : Plan} {r : Request} {steps : Nat}
    {limit : UInt32} : .tooManySteps steps limit ∈ plan.audit r ↔
      r.maxSteps.toNat < plan.steps.length ∧ steps = plan.steps.length ∧ limit = r.maxSteps := by
  have htools : .tooManySteps steps limit ∉ plan.toolFindings r.toolNames := by
    rw [toolFindings]
    split_ifs
    · exact List.not_mem_nil
    · simp
  have hview : .tooManySteps steps limit ∉ plan.viewFindings r.componentNames := by
    rw [viewFindings]
    split
    · exact List.not_mem_nil
    · rw [componentFindings, List.mem_append, not_or]
      constructor <;> split_ifs <;> simp
  rw [audit, List.mem_append, List.mem_append, or_assoc, or_iff_right htools, or_iff_right hview]
  split_ifs with hlength
  · rw [List.mem_singleton, Finding.tooManySteps.injEq, and_iff_right hlength]
  · exact iff_of_false List.not_mem_nil fun h => hlength h.1

/-! ## Runs -/

namespace Planner

variable {ρ : Type} {p : Planner ρ} {request : Request} {session : Session ρ}

/-- Every run makes the planning call first. -/
theorem head?_calls_run :
    (Happening.calls (p.run request session).transcript).head? = some (p.firstCall request) := by
  have hcourse := p.run_course request session
  generalize p.run request session = r at hcourse
  cases hcourse <;> simp

/-- The planning call states the clamped limit, and no other one. -/
theorem statesLimit_firstCall_iff {limit : UInt32} :
    Prompt.StatesLimit (p.firstCall request).user limit ↔
      limit = min request.maxSteps p.ceiling :=
  Prompt.statesLimit_plan_iff

/-- If the repairer warns of nothing, a run with a plan notes that there are too many steps exactly
if there are more than the clamped limit. -/
theorem tooManySteps_mem_log_iff (hquiet : p.repairer.Quiet) {plan : Plan}
    (hplan : (p.run request session).result = .ok plan) {steps : Nat} {limit : UInt32} :
    .finding (.tooManySteps steps limit) ∈ (p.run request session).log ↔
      (min request.maxSteps p.ceiling).toNat < plan.steps.length ∧
        steps = plan.steps.length ∧ limit = min request.maxSteps p.ceiling := by
  have hwarns := run_warns_recorded p request session
  have hresult := (run_records p request session []).result
  dsimp only at hwarns
  rw [hresult, hplan, warned_recorded hquiet] at hwarns
  have hlog : .finding (.tooManySteps steps limit) ∈ (p.run request session).log ↔
      .finding (.tooManySteps steps limit) ∈ (p.run request session).warned := by
    rw [Run.mem_warned_iff]
    exact (and_iff_left rfl).symm
  rw [hlog]
  generalize (p.run request session).warned = warnings at hwarns
  cases hwarns with
  | plan =>
    rw [List.mem_map_of_injective fun _ _ => Event.finding.inj]
    exact Plan.tooManySteps_mem_audit_iff

end Planner

/-- **One limit on the number of steps.** Where settings and a request are read, the smaller one of
their limits lies between 1 and that of the settings, which is at most 32. The first call states
this limit and no other, and if there is a plan, its having more steps is noted exactly if it has
more of them. Reference: `PlanOrchestrator.from_settings`, `PlannerConstraints.clamped` and
`audit_plan`. -/
theorem Settings.planner_limit {vars : Settings.Variables} {s : Settings} {body : List UInt8}
    {request : Request} (hs : Settings.ofVariables vars = .ok s)
    (hrequest : Request.parse body = .ok request) (session : Session Unit) :
    let limit := min request.maxSteps s.maxSteps
    let r := s.planner.run request session
    (1 ≤ limit.toNat ∧ limit.toNat ≤ s.maxSteps.toNat ∧ s.maxSteps.toNat ≤ 32) ∧
    (∃ prompt, (Happening.calls r.transcript).head? =
        some ⟨Prompt.plannerInstruction, prompt⟩ ∧
      ∀ n, Prompt.StatesLimit prompt n ↔ n = limit) ∧
    ∀ plan, r.result = .ok plan → ∀ steps n, .finding (.tooManySteps steps n) ∈ r.log ↔
      limit.toNat < plan.steps.length ∧ steps = plan.steps.length ∧ n = limit := by
  intro limit r
  refine ⟨?_, ?_, ?_⟩
  · exact limit_bounds (Request.parse_eq_ok_iff.1 hrequest).2 (ofVariables_eq_ok_iff.1 hs).2
  · exact ⟨_, Planner.head?_calls_run, fun n => Planner.statesLimit_firstCall_iff⟩
  · intro plan hplan steps n
    exact Planner.tooManySteps_mem_log_iff (Repairer.model_quiet _) hplan

/-- A request for nine steps, settings for one, and a plan with two: the call asks for one step, and
the second one is noted. -/
theorem Settings.planner_limit_two_steps :
    let vars : Variables := fun name =>
      [("LLM_API_KEY", "gsk-1"), ("PLANNER_MAX_STEPS", "1")].lookup name
    let body := Text.Utf8.encode "\x7b\"userPrompt\":\"x\",\"constraints\":\x7b\"maxSteps\":9\x7d\x7d"
    let reply := "\x7b\"steps\":[\x7b\"tool\":\"a\"\x7d,\x7b\"tool\":\"b\"\x7d]\x7d"
    ∃ s request plan prompt, ofVariables vars = .ok s ∧ Request.parse body = .ok request ∧
      let r := s.planner.run request ⟨[.ofText reply], ()⟩
      r.result = .ok plan ∧ .finding (.tooManySteps 2 1) ∈ r.log ∧
      (Happening.calls r.transcript).head? = some ⟨Prompt.plannerInstruction, prompt⟩ ∧
      Prompt.StatesLimit prompt 1 ∧ ¬ Prompt.StatesLimit prompt 9 := by
  intro vars body reply
  let s : Settings := { withKey "gsk-1" with maxSteps := 1 }
  let request : Request := { Request.ofPrompt "x" with maxSteps := 9 }
  have hs : ofVariables vars = .ok s := by decide +kernel
  have hrequest : Request.parse body = .ok request := by decide +kernel
  have hlength : ((s.planner.run request ⟨[.ofText reply], ()⟩).plan?.map fun plan =>
      plan.steps.length) = some 2 := by decide +kernel
  obtain ⟨plan, hplan, htwo⟩ := Option.map_eq_some_iff.1 hlength
  have hplan := Run.plan?_eq_some_iff.1 hplan
  obtain ⟨-, ⟨prompt, hcall, hstates⟩, hfinding⟩ :=
    planner_limit hs hrequest ⟨[.ofText reply], ()⟩
  refine ⟨s, request, plan, prompt, hs, hrequest, hplan, ?_, hcall, ?_, ?_⟩
  · refine (hfinding plan hplan 2 1).2 ⟨?_, htwo.symm, rfl⟩
    rw [htwo]
    decide
  · exact (hstates 1).2 rfl
  · rw [hstates]
    decide

end AgentPlan
