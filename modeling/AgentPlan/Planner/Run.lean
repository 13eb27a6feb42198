import AgentPlan.Planner.Repairer
import AgentPlan.Draft.Normalize
import AgentPlan.Draft.Defect
import AgentPlan.Plan.Encode

/-!
# Runs of the planner

A run asks the model for a draft, normalizes and validates it, and hands what is no plan to a
repairer, as often as the budget allows:

    drafting → parsing → normalizing → validating → done
                  |                        |
                  +------ repairing <------+

A first reply that is not JSON costs a round of the budget, too. A failed call, a failed repair and
a spent budget end the run. The limit on the number of steps is clamped to the planner's ceiling,
and is advice to the model, not a rule for the plan.
-/

namespace AgentPlan

/-- A planner: how long a call may take, the greatest limit on the number of steps, the number of
repair rounds, and who repairs. Reference: `PlanOrchestrator`. -/
structure Planner (ρ : Type) where
  timeout : Nat
  ceiling : UInt32
  budget : UInt32
  repairer : Repairer ρ

/-- A finished run: its plan or failure, the session after it, and what happened. Reference: what
`PlanOrchestrator.generate_plan` gives. -/
structure Run (ρ : Type) where
  result : Except Failure Plan
  session : Session ρ
  transcript : List Happening

/-- The run with something that happened before. Result and session are the same. -/
def Run.after (before : List Happening) (r : Run ρ) : Run ρ :=
  { r with transcript := before ++ r.transcript }

/-! ## The budget -/

/-- The rounds of repair of a run: how many there are, and how many of them are used. Reference:
`RepairBudget`. -/
structure Budget where
  total : UInt32
  used : UInt32
deriving DecidableEq, Repr

namespace Budget

/-- The budget at the start of a run. Reference: `RepairBudget.new`. -/
def fresh (total : UInt32) : Budget :=
  ⟨total, 0⟩

/-- Uses a round. Gives its number, counted from one, and the budget after it. Reference:
`RepairBudget.take`. -/
def take (b : Budget) : Option (UInt32 × Budget) :=
  if b.used < b.total then some (b.used + 1, { b with used := b.used + 1 }) else none

/-- The number of rounds that are left: the measure by which a run ends. -/
def left (b : Budget) : Nat :=
  b.total.toNat - b.used.toNat

/-- At the start of a run all rounds are left. -/
@[simp] theorem left_fresh (total : UInt32) : (fresh total).left = total.toNat := rfl

/-- A round that is taken is a round less. -/
theorem left_of_take {b b' : Budget} {round : UInt32} (h : b.take = some (round, b')) :
    b.left = b'.left + 1 := by
  unfold take at h
  split at h
  · next hlt =>
    cases h
    have := UInt32.lt_iff_toNat_lt.1 hlt
    have := b.total.toNat_lt
    simp only [left, UInt32.toNat_add, UInt32.toNat_one]
    omega
  · cases h

/-- No round can be taken exactly when none is left. -/
theorem take_eq_none_iff {b : Budget} : b.take = none ↔ b.left = 0 := by
  simp only [take, left, UInt32.lt_iff_toNat_lt]
  split <;> simp <;> omega

end Budget

/-! ## Rounds -/

namespace Planner

/-- What is noted about a valid plan: the findings of the audit, and the end. Reference: the first
case of the match in `PlanOrchestrator.run`. -/
def doneEvents (request : Request) (plan : Plan) (attempt : UInt32) : List Happening :=
  ((plan.audit request).map fun f => .logged (.finding f)) ++
    [.logged (.done plan.steps.length attempt)]

/-- Where a run stands before a validation: its budget, the number of validations made so far, and
the normal draft to validate next. Reference: the variables of the loop in
`PlanOrchestrator.run`. -/
structure State (ρ : Type) where
  budget : Budget
  attempts : UInt32
  draft : Json
  session : Session ρ

/-- What a validation leads to: the end of the run, or the next validation, with what happened until
then. -/
inductive Turn (ρ : Type) where
  | last (run : Run ρ)
  | next (state : State ρ) (happened : List Happening)

/-- Validates a draft and has it repaired if it is no plan. The repairer gets the normal draft and
the report on it, and what it gives is normalized. A repair that fails ends the run with its
failure. Reference: the body of the loop in `PlanOrchestrator.run`. -/
def turn (repairer : Repairer ρ) (request : Request) (s : State ρ) : Turn ρ :=
  let attempt := s.attempts + 1
  let checked := [.logged (.validating attempt)]
  match Draft.validate s.draft with
  | .ok plan => .last ⟨.ok plan, s.session, checked ++ doneEvents request plan attempt⟩
  | .error defects =>
    let detail := Draft.report defects
    match s.budget.take with
    | none => .last ⟨.error (.exhausted attempt detail), s.session,
        checked ++ [.logged (.exhausted attempt detail)]⟩
    | some (round, budget) =>
      let asked := checked ++ [.logged (.repairingPlan round attempt)]
      let repaired := repairer s.draft.compact detail s.session
      match repaired.result with
      | .error failure =>
        .last ⟨.error failure, repaired.session, asked ++ repaired.transcript⟩
      | .ok document =>
        .next ⟨budget, attempt, Draft.normalize document, repaired.session⟩
          (asked ++ repaired.transcript ++ [.logged (.normalizing (some round))])

/-- A run that goes on has used a round. -/
theorem left_of_turn {repairer : Repairer ρ} {request : Request} {s s' : State ρ}
    {happened : List Happening} (h : turn repairer request s = .next s' happened) :
    s.budget.left = s'.budget.left + 1 := by
  simp only [turn] at h
  split at h
  · cases h
  · split at h
    · cases h
    · next htake =>
      split at h
      · cases h
      · cases h
        exact Budget.left_of_take htake

/-- Validates drafts until one is a plan or the run ends otherwise. Reference: the loop in
`PlanOrchestrator.run`. -/
def rounds (repairer : Repairer ρ) (request : Request) (s : State ρ) : Run ρ :=
  match _hturn : turn repairer request s with
  | .last run => run
  | .next state happened => (rounds repairer request state).after happened
termination_by s.budget.left
decreasing_by
  have := left_of_turn _hturn
  omega

/-- Goes on with the value of the first reply, or of its repair. Reference: `PlanOrchestrator.run`,
from the first normalization on. -/
def start (p : Planner ρ) (request : Request) (budget : Budget) (value : Json)
    (session : Session ρ) : Run ρ :=
  (rounds p.repairer request ⟨budget, 0, Draft.normalize value, session⟩).after
    [.logged (.normalizing none)]

/-- The defect of a reply that is not JSON, with the message of the first fault in it. Reference:
`defect` in `PlanOrchestrator.run`. -/
def textDefect (error : String) : String :=
  "JSON parse failed: " ++ error

/-- Goes on with the text of the first reply. If it is not JSON its repair takes the first round of
the budget. Reference: `PlanOrchestrator.run`, from the parsing on. -/
def read (p : Planner ρ) (request : Request) (text : String) (session : Session ρ) : Run ρ :=
  match Extract.value text with
  | .ok value => p.start request (.fresh p.budget) value session
  | .error error =>
    let defect := textDefect error
    match (Budget.fresh p.budget).take with
    | none => ⟨.error (.parse defect), session, [.logged (.notJson defect)]⟩
    | some (round, budget) =>
      let asked := [.logged (.repairingText round defect)]
      let repaired := p.repairer text defect session
      match repaired.result with
      | .error failure => ⟨.error failure, repaired.session, asked ++ repaired.transcript⟩
      | .ok value =>
        (p.start request budget value repaired.session).after (asked ++ repaired.transcript)

/-- Makes a plan for a request, whose limit on the number of steps is first clamped to the ceiling.
Reference: `PlanOrchestrator.run`, and with it `generate_plan`. -/
def run (p : Planner ρ) (request : Request) (session : Session ρ) : Run ρ :=
  let effective := request.clamp p.ceiling
  let call : Model.Call := ⟨Prompt.plannerInstruction, Prompt.plan effective⟩
  let first := Model.complete p.timeout call session.script
  let session := { session with script := first.script }
  let drafted :=
    .logged (.drafting request.maxSteps effective.maxSteps) :: first.transcript
  match first.result with
  | .error failure =>
    ⟨.error failure, session, drafted ++ [.logged (.planningFailed failure.message)]⟩
  | .ok text =>
    (p.read effective text session).after
      (drafted ++ [.logged (.parsing text.utf8ByteSize)])

end Planner

end AgentPlan
