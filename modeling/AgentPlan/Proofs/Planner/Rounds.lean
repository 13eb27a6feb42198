import AgentPlan.Planner.Run

/-!
# The course of a run

What a run can do, said once. A validation ends the run with a plan, with a spent budget or with a
failed repair, or it leads to the next validation with one round less (`rounds_induction`); before
the first validation a run can end with a failed call, with a text that is not JSON and no round to
repair it, or with a failed repair of the text (`run_course`). Whatever is proved of all runs is
proved by these two.
-/

namespace AgentPlan

variable {ρ : Type}

/-- A reply with a text, which comes at once. -/
def Model.Outcome.ofText (text : String) : Model.Outcome :=
  ⟨.ok ⟨some text, none, .endTurn, ⟨0, 0⟩, "scripted"⟩, 0⟩

namespace Run

/-- The plan of a run, if it ends with one. -/
def plan? (r : Run ρ) : Option Plan :=
  match r.result with
  | .ok plan => some plan
  | .error _ => none

/-- The failure of a run, if it ends with one. -/
def failure? (r : Run ρ) : Option Failure :=
  match r.result with
  | .ok _ => none
  | .error failure => some failure

/-- A run has a plan exactly when it ends with it. -/
theorem plan?_eq_some_iff {r : Run ρ} {plan : Plan} :
    r.plan? = some plan ↔ r.result = .ok plan := by
  rw [plan?]
  cases r.result <;> simp

/-- A run has a failure exactly when it ends with it. -/
theorem failure?_eq_some_iff {r : Run ρ} {failure : Failure} :
    r.failure? = some failure ↔ r.result = .error failure := by
  rw [failure?]
  cases r.result <;> simp

/-- What happened before a run does not change its result. -/
@[simp] theorem after_result (before : List Happening) (r : Run ρ) :
    (r.after before).result = r.result := rfl

/-- What happened before a run does not change the session after it. -/
@[simp] theorem after_session (before : List Happening) (r : Run ρ) :
    (r.after before).session = r.session := rfl

/-- What happened before a run comes first in its transcript. -/
@[simp] theorem after_transcript (before : List Happening) (r : Run ρ) :
    (r.after before).transcript = before ++ r.transcript := rfl

/-- What happened before what happened before comes first. -/
@[simp] theorem after_after (before earlier : List Happening) (r : Run ρ) :
    (r.after before).after earlier = r.after (earlier ++ before) := by
  simp [after]

end Run

namespace Planner

/-! ## Rounds -/

/-- A validation more, or a later start of the count. -/
theorem add_one_add_ofNat (attempts : UInt32) (n : Nat) :
    attempts + 1 + .ofNat n = attempts + .ofNat (n + 1) := by
  rw [UInt32.ofNat_add, UInt32.add_assoc, UInt32.add_comm 1]
  rfl

/-- Nothing is called once a plan is found. -/
@[simp] theorem calls_doneEvents (request : Request) (plan : Plan) (attempt : UInt32) :
    Happening.calls (doneEvents request plan attempt) = [] := by
  have haudit := Happening.calls_map_logged ((plan.audit request).map .finding)
  rw [List.map_map] at haudit
  rw [doneEvents, Happening.calls_append]
  exact List.append_eq_nil_iff.2 ⟨haudit, rfl⟩

section
variable {repairer : Repairer ρ} {request : Request} {s s' : State ρ}

/-- The run ends with a validation that leads no further. -/
theorem rounds_of_last {run : Run ρ} (h : turn repairer request s = .last run) :
    rounds repairer request s = run := by
  rw [rounds]
  split <;> simp_all

/-- The run goes on after a validation that leads to another one. -/
theorem rounds_of_next {happened : List Happening}
    (h : turn repairer request s = .next s' happened) :
    rounds repairer request s = (rounds repairer request s').after happened := by
  rw [rounds]
  split <;> simp_all

/-- Rounds from a draft that is a plan. -/
theorem rounds_of_valid {plan : Plan} (hvalid : Draft.validate s.draft = .ok plan) :
    rounds repairer request s = ⟨.ok plan, s.session,
      .logged (.validating (s.attempts + 1)) :: doneEvents request plan (s.attempts + 1)⟩ :=
  rounds_of_last (by simp only [turn, hvalid]; rfl)

section
variable {ds : List Draft.Defect} (hinvalid : Draft.validate s.draft = .error ds)
include hinvalid

/-- Rounds from a draft that is no plan, when no round is left. -/
theorem rounds_of_spent (htake : s.budget.take = none) :
    rounds repairer request s = ⟨.error (.exhausted (s.attempts + 1) (Draft.report ds)), s.session,
      [.logged (.validating (s.attempts + 1)),
        .logged (.exhausted (s.attempts + 1) (Draft.report ds))]⟩ :=
  rounds_of_last (by simp only [turn, hinvalid, htake]; rfl)

variable {round : UInt32} {budget : Budget} (htake : s.budget.take = some (round, budget))
  {repaired : Repaired ρ}
  (hrepair : repairer s.draft.compact (Draft.report ds) s.session = repaired)
include htake hrepair

/-- Rounds from a draft that is no plan, when its repair fails. -/
theorem rounds_of_failed {failure : Failure} (hresult : repaired.result = .error failure) :
    rounds repairer request s = ⟨.error failure, repaired.session,
      .logged (.validating (s.attempts + 1)) ::
        .logged (.repairingPlan round (s.attempts + 1)) :: repaired.transcript⟩ :=
  rounds_of_last (by simp only [turn, hinvalid, htake, hrepair, hresult]; rfl)

/-- Rounds from a draft that is no plan, when it is repaired. -/
theorem rounds_of_repaired {document : Json} (hresult : repaired.result = .ok document) :
    rounds repairer request s = (rounds repairer request
        ⟨budget, s.attempts + 1, Draft.normalize document, repaired.session⟩).after
      (.logged (.validating (s.attempts + 1)) ::
        .logged (.repairingPlan round (s.attempts + 1)) ::
        (repaired.transcript ++ [.logged (.normalizing (some round))])) :=
  rounds_of_next (by simp only [turn, hinvalid, htake, hrepair, hresult]; rfl)

end

end

/-- **The course of the rounds.** A property of a state and the run from it holds if it holds of
the three ways in which a validation ends the run, and goes back from the state after a repair to
the state before it. -/
theorem rounds_induction (repairer : Repairer ρ) (request : Request)
    {motive : State ρ → Run ρ → Prop}
    (done : ∀ (s : State ρ) (plan : Plan), Draft.validate s.draft = .ok plan →
      motive s ⟨.ok plan, s.session, .logged (.validating (s.attempts + 1)) ::
        doneEvents request plan (s.attempts + 1)⟩)
    (exhausted : ∀ (s : State ρ) (ds : List Draft.Defect), Draft.validate s.draft = .error ds →
      s.budget.take = none →
      motive s ⟨.error (.exhausted (s.attempts + 1) (Draft.report ds)), s.session,
        [.logged (.validating (s.attempts + 1)),
          .logged (.exhausted (s.attempts + 1) (Draft.report ds))]⟩)
    (failed : ∀ (s : State ρ) (ds : List Draft.Defect) (round : UInt32) (budget : Budget)
      (failure : Failure) (repaired : Repaired ρ), Draft.validate s.draft = .error ds →
      s.budget.take = some (round, budget) →
      repairer s.draft.compact (Draft.report ds) s.session = repaired →
      repaired.result = .error failure →
      motive s ⟨.error failure, repaired.session, .logged (.validating (s.attempts + 1)) ::
        .logged (.repairingPlan round (s.attempts + 1)) :: repaired.transcript⟩)
    (goesOn : ∀ (s : State ρ) (ds : List Draft.Defect) (round : UInt32) (budget : Budget)
      (document : Json) (repaired : Repaired ρ), Draft.validate s.draft = .error ds →
      s.budget.take = some (round, budget) →
      repairer s.draft.compact (Draft.report ds) s.session = repaired →
      repaired.result = .ok document →
      motive ⟨budget, s.attempts + 1, Draft.normalize document, repaired.session⟩
        (rounds repairer request
          ⟨budget, s.attempts + 1, Draft.normalize document, repaired.session⟩) →
      motive s ((rounds repairer request
          ⟨budget, s.attempts + 1, Draft.normalize document, repaired.session⟩).after
        (.logged (.validating (s.attempts + 1)) ::
          .logged (.repairingPlan round (s.attempts + 1)) ::
          (repaired.transcript ++ [.logged (.normalizing (some round))]))))
    (s : State ρ) : motive s (rounds repairer request s) := by
  -- On the rounds that are left: every turn that goes on takes one.
  induction hleft : s.budget.left using Nat.strongRecOn generalizing s with
  | ind n ih =>
    subst hleft
    cases hvalidate : Draft.validate s.draft with
    | ok plan =>
      rw [rounds_of_valid hvalidate]
      exact done s plan hvalidate
    | error ds =>
      cases htake : s.budget.take with
      | none =>
        rw [rounds_of_spent hvalidate htake]
        exact exhausted s ds hvalidate htake
      | some taken =>
        obtain ⟨round, budget⟩ := taken
        cases hresult : (repairer s.draft.compact (Draft.report ds) s.session).result with
        | error failure =>
          rw [rounds_of_failed hvalidate htake rfl hresult]
          exact failed s ds round budget failure _ hvalidate htake rfl hresult
        | ok document =>
          rw [rounds_of_repaired hvalidate htake rfl hresult]
          have hless := Budget.left_of_take htake
          exact goesOn s ds round budget document _ hvalidate htake rfl hresult
            (ih _ (by dsimp only; omega) _ rfl)

/-! ## Runs -/

/-- The first call of a run. -/
def firstCall (p : Planner ρ) (request : Request) : Model.Call :=
  ⟨Prompt.plannerInstruction, Prompt.plan (request.clamp p.ceiling)⟩

/-- What happens before the first reply is read. -/
def drafted (p : Planner ρ) (request : Request) (script : Model.Script) : List Happening :=
  .logged (.drafting request.maxSteps (request.clamp p.ceiling).maxSteps) ::
    (Model.complete p.timeout (p.firstCall request) script).transcript

/-- One call is made before the first reply is read. -/
@[simp] theorem calls_drafted (p : Planner ρ) (request : Request) (script : Model.Script) :
    Happening.calls (p.drafted request script) = [p.firstCall request] := by
  simp [drafted, Model.complete]

/-- **The course of a run.** A run ends before its first validation with a failed call, with a text
that is not JSON, or with a failed repair of this text. Otherwise the rounds follow the first reply
or its repair. -/
inductive Course (p : Planner ρ) (request : Request) (session : Session ρ) : Run ρ → Prop where
  | callFailed {fault : Model.Fault}
      (receive : Model.receive p.timeout session.script.next.1 = .error fault) :
      Course p request session ⟨.error (.transport fault.message),
        { session with script := session.script.next.2 },
        p.drafted request session.script ++ [.logged (.planningFailed fault.message)]⟩
  | parsed {text : String} {value : Json}
      (receive : Model.receive p.timeout session.script.next.1 = .ok text)
      (parse : Extract.value text = .ok value) :
      Course p request session ((rounds p.repairer (request.clamp p.ceiling) ⟨.fresh p.budget, 0,
          Draft.normalize value, { session with script := session.script.next.2 }⟩).after
        (p.drafted request session.script ++
          [.logged (.parsing text.utf8ByteSize), .logged (.normalizing none)]))
  | notJson {text error : String}
      (receive : Model.receive p.timeout session.script.next.1 = .ok text)
      (parse : Extract.value text = .error error)
      (take : (Budget.fresh p.budget).take = none) :
      Course p request session ⟨.error (.parse (textDefect error)),
        { session with script := session.script.next.2 },
        p.drafted request session.script ++
          [.logged (.parsing text.utf8ByteSize), .logged (.notJson (textDefect error))]⟩
  | textFailed {text error : String} {round : UInt32} {budget : Budget} {failure : Failure}
      {repaired : Repaired ρ}
      (receive : Model.receive p.timeout session.script.next.1 = .ok text)
      (parse : Extract.value text = .error error)
      (take : (Budget.fresh p.budget).take = some (round, budget))
      (repair : p.repairer text (textDefect error)
        { session with script := session.script.next.2 } = repaired)
      (result : repaired.result = .error failure) :
      Course p request session ⟨.error failure, repaired.session,
        p.drafted request session.script ++ (.logged (.parsing text.utf8ByteSize) ::
          .logged (.repairingText round (textDefect error)) :: repaired.transcript)⟩
  | textRepaired {text error : String} {round : UInt32} {budget : Budget} {value : Json}
      {repaired : Repaired ρ}
      (receive : Model.receive p.timeout session.script.next.1 = .ok text)
      (parse : Extract.value text = .error error)
      (take : (Budget.fresh p.budget).take = some (round, budget))
      (repair : p.repairer text (textDefect error)
        { session with script := session.script.next.2 } = repaired)
      (result : repaired.result = .ok value) :
      Course p request session ((rounds p.repairer (request.clamp p.ceiling) ⟨budget, 0,
          Draft.normalize value, repaired.session⟩).after
        (p.drafted request session.script ++ (.logged (.parsing text.utf8ByteSize) ::
          .logged (.repairingText round (textDefect error)) ::
          (repaired.transcript ++ [.logged (.normalizing none)]))))

section
variable {p : Planner ρ} {request : Request} {session : Session ρ} {text error : String}

/-- A run whose first call fails. -/
theorem run_of_fault {fault : Model.Fault}
    (hreceive : Model.receive p.timeout session.script.next.1 = .error fault) :
    p.run request session = ⟨.error (.transport fault.message),
      { session with script := session.script.next.2 },
      p.drafted request session.script ++ [.logged (.planningFailed fault.message)]⟩ := by
  simp only [run, Model.complete_script, Model.complete_result_of_fault hreceive]
  rfl

/-- A run whose first call gives a text. -/
theorem run_of_text (hreceive : Model.receive p.timeout session.script.next.1 = .ok text) :
    p.run request session = (p.read (request.clamp p.ceiling) text
        { session with script := session.script.next.2 }).after
      (p.drafted request session.script ++ [.logged (.parsing text.utf8ByteSize)]) := by
  simp only [run, Model.complete_script, Model.complete_result_of_text hreceive]
  rfl

/-- A first text that is JSON is what the rounds start with. -/
theorem read_of_json {value : Json} (hparse : Extract.value text = .ok value) :
    p.read request text session = p.start request (.fresh p.budget) value session := by
  simp only [read, hparse]

section
variable (hparse : Extract.value text = .error error)
include hparse

/-- A first text that is not JSON, when there is no round. -/
theorem read_of_spent (htake : (Budget.fresh p.budget).take = none) :
    p.read request text session =
      ⟨.error (.parse (textDefect error)), session, [.logged (.notJson (textDefect error))]⟩ := by
  simp only [read, hparse, htake]

variable {round : UInt32} {budget : Budget}
  (htake : (Budget.fresh p.budget).take = some (round, budget))
  {repaired : Repaired ρ} (hrepair : p.repairer text (textDefect error) session = repaired)
include htake hrepair

/-- A first text that is not JSON, when its repair fails. -/
theorem read_of_failed {failure : Failure} (hresult : repaired.result = .error failure) :
    p.read request text session = ⟨.error failure, repaired.session,
      .logged (.repairingText round (textDefect error)) :: repaired.transcript⟩ := by
  simp only [read, hparse, htake, hrepair, hresult, List.singleton_append]

/-- A first text that is not JSON, when it is repaired. -/
theorem read_of_repaired {value : Json} (hresult : repaired.result = .ok value) :
    p.read request text session = (p.start request budget value repaired.session).after
      (.logged (.repairingText round (textDefect error)) :: repaired.transcript) := by
  simp only [read, hparse, htake, hrepair, hresult, List.singleton_append]

end

end

/-- Every run takes its course. -/
theorem run_course (p : Planner ρ) (request : Request) (session : Session ρ) :
    p.Course request session (p.run request session) := by
  cases hreceive : Model.receive p.timeout session.script.next.1 with
  | error fault =>
    rw [run_of_fault hreceive]
    exact .callFailed hreceive
  | ok text =>
    rw [run_of_text hreceive]
    cases hparse : Extract.value text with
    | ok value =>
      have hcourse : p.Course request session _ := .parsed hreceive hparse
      simpa [read_of_json hparse, start] using hcourse
    | error error =>
      cases htake : (Budget.fresh p.budget).take with
      | none =>
        have hcourse : p.Course request session _ := .notJson hreceive hparse htake
        simpa [read_of_spent hparse htake, Run.after] using hcourse
      | some taken =>
        obtain ⟨round, budget⟩ := taken
        cases hresult : (p.repairer text (textDefect error)
            { session with script := session.script.next.2 }).result with
        | error failure =>
          have hcourse : p.Course request session _ := .textFailed hreceive hparse htake rfl hresult
          simpa [read_of_failed hparse htake rfl hresult, Run.after] using hcourse
        | ok value =>
          have hcourse : p.Course request session _ :=
            .textRepaired hreceive hparse htake rfl hresult
          simpa [read_of_repaired hparse htake rfl hresult, start] using hcourse

end Planner

end AgentPlan
