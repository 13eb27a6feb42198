import AgentPlan.Planner.Client
import AgentPlan.Prompt
import AgentPlan.Extract

/-!
# Repairers

A repairer gets a document that is no plan, with what is wrong with it, and gives a new document.
The usual repairer is the model itself (`Repairer.model`); `Repairer.scripted` answers from a list.
What a repairer gives is a JSON value, not yet normalized or validated.
-/

namespace AgentPlan

/-- What the calls of a run have left: the script of the model, and the memory of the repairer. It
is handed from one call to the next. -/
structure Session (ρ : Type) where
  script : Model.Script
  memory : ρ

/-- A finished repair: its document or failure, the session after it, and what happened. Reference:
what `DefectRepairer.repair` gives. -/
structure Repaired (ρ : Type) where
  result : Except Failure Json
  session : Session ρ
  transcript : List Happening

/-- Takes a document and its defect to a new document. It may call the model, and it may fail in any
way, also with a failure that the planner itself reports. Reference: `DefectRepairer`. -/
abbrev Repairer (ρ : Type) := (document defect : String) → Session ρ → Repaired ρ

namespace Repairer

/-- The document in the text of a repair. Unlike a first reply, one that is not JSON is not
repaired: it ends the run. Reference: the end of `ModelRepairer.repair`. -/
def ofText (text : String) : Except Failure Json :=
  (Extract.value text).mapError fun e => .parse ("repair output is not valid JSON: " ++ e)

/-- A text that is JSON is the document. -/
theorem ofText_of_ok {text : String} {value : Json} (h : Extract.value text = .ok value) :
    ofText text = .ok value := by
  rw [ofText, h]
  rfl

/-- Asks the model to repair its own document, with one call. Reference: `ModelRepairer.repair`. -/
def model (timeout : Nat) : Repairer Unit := fun document defect session =>
  let call : Model.Call := ⟨Prompt.repairInstruction, Prompt.repair document defect⟩
  let c := Model.complete timeout call session.script
  match c.result with
  | .error f => ⟨.error f, ⟨c.script, ()⟩, c.transcript⟩
  | .ok text => ⟨ofText text, ⟨c.script, ()⟩,
      c.transcript ++ [.logged (.repairReceived text.utf8ByteSize)]⟩

section
variable {timeout : Nat} {document defect : String} {session : Session Unit}

/-- The model takes the next outcome of the script for a repair. -/
theorem model_session :
    (model timeout document defect session).session = ⟨session.script.next.2, ()⟩ := by
  simp only [model]
  split <;> rfl

/-- A repair by the model is one call. -/
@[simp] theorem calls_model :
    Happening.calls (model timeout document defect session).transcript =
      [⟨Prompt.repairInstruction, Prompt.repair document defect⟩] := by
  simp only [model]
  split <;> simp [Model.complete]

end

/-- The document of a scripted repairer that has nothing left. It is no plan. -/
def leftover : Json :=
  .obj [("still", .str "invalid")]

/-- Answers from a list, without a call of the model, and keeps giving the same document at its end.
Reference: the repairer with which the tests of `PlanOrchestrator` are run. -/
def scripted : Repairer (List (Except Failure Json)) := fun document defect session =>
  let transcript := [.repairAsked document defect]
  match session.memory with
  | [] => ⟨.ok leftover, session, transcript⟩
  | result :: rest => ⟨result, { session with memory := rest }, transcript⟩

end Repairer

end AgentPlan
