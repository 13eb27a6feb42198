import AgentPlan.Proofs.Planner.Repairs

/-!
# The request is advice

A run looks at its request in three places: it notes the limits, it writes the request into the
first prompt, and it audits the plan that it ends with. What the model and the repairer do is in the
session. So two runs on the same session, for whatever two requests, are the same run but for these
three places (`run_request_advisory`): the catalogs, the limit and the context have no say in the
budget, in the validations, in the repairs or in the plan.
-/

namespace AgentPlan

variable {ρ : Type}

namespace Planner

/-- The warnings of the audit in a run with a result: the findings about its plan. -/
def warnings (request : Request) : Except Failure Plan → List Happening
  | .ok plan => (plan.audit request).map fun f => .logged (.finding f)
  | .error _ => []

/-- Nothing is called by a warning. -/
@[simp] theorem calls_warnings (request : Request) (result : Except Failure Plan) :
    Happening.calls (warnings request result) = [] := by
  cases result with
  | ok plan =>
    have hcalls := Happening.calls_map_logged ((plan.audit request).map .finding)
    rwa [List.map_map] at hcalls
  | error failure => rfl

/-- What a run begins with: it notes the limits of its request and makes the first call. -/
def opening (p : Planner ρ) (request : Request) : List Happening :=
  [.logged (.drafting request.maxSteps (request.clamp p.ceiling).maxSteps),
    .called (p.firstCall request)]

/-- What happens before the first reply is read depends on the request in the opening only. -/
theorem drafted_eq_opening_append (p : Planner ρ) (request : Request) (script : Model.Script) :
    p.drafted request script =
      p.opening request ++ (Model.receiveEvents p.timeout script.next.1).map .logged := rfl

end Planner

open Planner (warnings)

/-- Runs for two requests agree: they have the same result and leave the same session, and what
happens in them differs only in the warnings of the audit. -/
structure Run.Agrees (a b : Request) (ra rb : Run ρ) : Prop where
  result : ra.result = rb.result
  session : ra.session = rb.session
  transcript : ∃ before after, ra.transcript = before ++ warnings a ra.result ++ after ∧
    rb.transcript = before ++ warnings b rb.result ++ after

namespace Run.Agrees

variable {a b : Request}

/-- A run that fails has no warnings, so it agrees with itself. -/
theorem of_failure (failure : Failure) (session : Session ρ) (transcript : List Happening) :
    Agrees a b ⟨.error failure, session, transcript⟩ ⟨.error failure, session, transcript⟩ :=
  ⟨rfl, rfl, transcript, [], by simp [warnings], by simp [warnings]⟩

/-- What happened before two runs alike changes nothing. -/
theorem after {ra rb : Run ρ} (h : Agrees a b ra rb) (happened : List Happening) :
    Agrees a b (ra.after happened) (rb.after happened) where
  result := h.result
  session := h.session
  transcript := by
    obtain ⟨before, after, ha, hb⟩ := h.transcript
    exact ⟨happened ++ before, after, by simp [ha], by simp [hb]⟩

end Run.Agrees

namespace Planner

/-- Rounds for two requests agree. -/
theorem rounds_agrees (repairer : Repairer ρ) (a b : Request) (s : State ρ) :
    (rounds repairer a s).Agrees a b (rounds repairer b s) := by
  induction s using rounds_induction repairer a with
  | done s plan hvalid =>
    rw [rounds_of_valid hvalid]
    exact ⟨rfl, rfl, [_], [_], rfl, rfl⟩
  | exhausted s ds hinvalid htake =>
    rw [rounds_of_spent hinvalid htake]
    exact .of_failure ..
  | failed s ds round budget failure repaired hinvalid htake hrepair hresult =>
    rw [rounds_of_failed hinvalid htake hrepair hresult]
    exact .of_failure ..
  | goesOn s ds round budget document repaired hinvalid htake hrepair hresult ih =>
    rw [rounds_of_repaired hinvalid htake hrepair hresult]
    exact ih.after _

/-- From the first value on, runs for two requests agree. -/
theorem start_agrees (p : Planner ρ) (a b : Request) (budget : Budget) (value : Json)
    (session : Session ρ) :
    (p.start a budget value session).Agrees a b (p.start b budget value session) :=
  (rounds_agrees p.repairer a b _).after _

/-- From the first text on, runs for two requests agree. -/
theorem read_agrees (p : Planner ρ) (a b : Request) (text : String) (session : Session ρ) :
    (p.read a text session).Agrees a b (p.read b text session) := by
  cases hparse : Extract.value text with
  | ok value =>
    rw [read_of_json hparse, read_of_json hparse]
    exact start_agrees ..
  | error error =>
    cases htake : (Budget.fresh p.budget).take with
    | none =>
      rw [read_of_spent hparse htake, read_of_spent hparse htake]
      exact .of_failure ..
    | some taken =>
      obtain ⟨round, budget⟩ := taken
      cases hresult : (p.repairer text (textDefect error) session).result with
      | error failure =>
        rw [read_of_failed hparse htake rfl hresult, read_of_failed hparse htake rfl hresult]
        exact .of_failure ..
      | ok value =>
        rw [read_of_repaired hparse htake rfl hresult, read_of_repaired hparse htake rfl hresult]
        exact (start_agrees ..).after _

/-- After their openings, runs for two requests agree. -/
theorem run_agrees (p : Planner ρ) (a b : Request) (session : Session ρ) :
    ∃ ra rb : Run ρ, p.run a session = ra.after (p.opening a) ∧
      p.run b session = rb.after (p.opening b) ∧
      ra.Agrees (a.clamp p.ceiling) (b.clamp p.ceiling) rb := by
  have hopening := drafted_eq_opening_append p
  generalize hnotes : (Model.receiveEvents p.timeout session.script.next.1).map Happening.logged =
    notes
  cases hreceive : Model.receive p.timeout session.script.next.1 with
  | error fault =>
    rw [run_of_fault hreceive, run_of_fault hreceive]
    refine ⟨_, _, ?_, ?_, .of_failure (.transport fault.message)
      { session with script := session.script.next.2 }
      (notes ++ [.logged (.planningFailed fault.message)])⟩
    · simp [hopening, hnotes, Run.after]
    · simp [hopening, hnotes, Run.after]
  | ok text =>
    rw [run_of_text hreceive, run_of_text hreceive]
    have hread := read_agrees p (a.clamp p.ceiling) (b.clamp p.ceiling) text
      { session with script := session.script.next.2 }
    refine ⟨_, _, ?_, ?_, hread.after (notes ++ [.logged (.parsing text.utf8ByteSize)])⟩
    · simp [hopening, hnotes]
    · simp [hopening, hnotes]

/-- **The request is advice.** Two runs on the same session have the same result, leave the same
outcomes and the same memory of the repairer, hand the same documents and defects to it and make the
same calls after the first one. All that happens in one of them happens in the other, in the same
order, but for the limits that are noted, the first call and the warnings of the audit. Reference:
`PlanOrchestrator.generate_plan`, in its first argument. -/
theorem run_request_advisory (p : Planner ρ) (a b : Request) (session : Session ρ) :
    let ra := p.run a session
    let rb := p.run b session
    ra.result = rb.result ∧ ra.session = rb.session ∧
    (∃ later, Happening.calls ra.transcript = p.firstCall a :: later ∧
      Happening.calls rb.transcript = p.firstCall b :: later) ∧
    (p.recorded.run a (session.recording [])).repairs =
      (p.recorded.run b (session.recording [])).repairs ∧
    ∃ before after,
      ra.transcript =
        p.opening a ++ before ++ warnings (a.clamp p.ceiling) ra.result ++ after ∧
      rb.transcript =
        p.opening b ++ before ++ warnings (b.clamp p.ceiling) rb.result ++ after := by
  intro ra rb
  obtain ⟨ra', rb', ha, hb, hagrees⟩ := run_agrees p a b session
  obtain ⟨before, after, hbefore, hafter⟩ := hagrees.transcript
  have hrepairs : (p.recorded.run a (session.recording [])).session =
      (p.recorded.run b (session.recording [])).session := by
    obtain ⟨_, _, ha', hb', hagrees'⟩ := run_agrees p.recorded a b (session.recording [])
    rw [ha', hb']
    exact hagrees'.session
  simp only [ra, rb, ha, hb]
  refine ⟨hagrees.result, hagrees.session,
    ⟨Happening.calls before ++ Happening.calls after, ?_, ?_⟩, ?_, before, after, ?_, ?_⟩
  · simp [hbefore, opening]
  · simp [hafter, opening]
  · rw [Run.repairs, hrepairs, Run.repairs]
  · simp [hbefore]
  · simp [hafter]

end Planner

end AgentPlan
