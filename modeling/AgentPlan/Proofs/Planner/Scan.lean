import AgentPlan.Proofs.Planner.Rounds

/-!
# A run is a scan

If the model repairs its own drafts, a run is no more than a scan of the outcomes of its calls, one
after the other and one more than there are rounds of repair: the first outcome that ends the scan
gives the result, and each outcome is passed over that gives a draft which is no plan. `scan` says
this without a budget, a state or a repairer, and `run_eq_scan` that runs do the same and take the
same outcomes from the script. The first outcome is special in one way: a text that is not JSON does
not end the scan there unless there are no rounds.
-/

namespace AgentPlan

namespace Model.Script

/-- The outcome of the call with an index. -/
def outcome (script : Script) (i : Nat) : Outcome :=
  script[i]?.getD unscripted

/-- The next outcome after some calls, and what is left then. -/
theorem next_drop (script : Script) (i : Nat) :
    Script.next (script.drop i) = (script.outcome i, script.drop (i + 1)) := by
  rw [outcome, ← List.head?_drop, ← List.tail_drop]
  cases script.drop i <;> rfl

end Model.Script

/-! ## The scan -/

/-- What there is to see in the outcome of a call. -/
inductive Sight where
  | noText (fault : Model.Fault)
  | notJson (error : String)
  | plan (plan : Plan)
  | noPlan (defects : List Draft.Defect)

namespace Sight

/-- A draft is a plan, or it is none. -/
def ofDraft (draft : Json) : Sight :=
  match Draft.validate draft with
  | .ok p => .plan p
  | .error ds => .noPlan ds

/-- Looks at an outcome. -/
def ofOutcome (timeout : Nat) (o : Model.Outcome) : Sight :=
  match Model.receive timeout o with
  | .error fault => .noText fault
  | .ok text =>
    match Extract.value text with
    | .error error => .notJson error
    | .ok value => .ofDraft (Draft.normalize value)

section
variable {timeout : Nat} {o : Model.Outcome} {text : String}

end

/-- The result of the scan if it ends with this outcome, the one with the index `i`. -/
def ending? (budget i : Nat) : Sight → Option (Except Failure Plan)
  | .noText fault => some (.error (.transport fault.message))
  | .notJson error =>
    if 0 < i then some (.error (.parse ("repair output is not valid JSON: " ++ error)))
    else if budget = 0 then some (.error (.parse ("JSON parse failed: " ++ error)))
    else none
  | .plan p => some (.ok p)
  | .noPlan _ => none

section
variable {budget i : Nat} {draft : Json}

end

/-- What is wrong with a draft that is no plan. -/
def report : Sight → String
  | .noPlan ds => Draft.report ds
  | _ => ""

end Sight

/-- What a scan comes to: its result, and the number of outcomes that it looked at. -/
structure Scan where
  result : Except Failure Plan
  looked : Nat

namespace Scan

variable (timeout budget : Nat) (script : Model.Script)

/-- What there is to see in the outcome with an index. -/
def sight (i : Nat) : Sight :=
  .ofOutcome timeout (script.outcome i)

/-- The end of the scan if the outcome with the index `i` ends it. -/
def endAt? (i : Nat) : Option Scan :=
  ((sight timeout script i).ending? budget i).map fun result => ⟨result, i + 1⟩

/-- The end of a scan that no outcome ends: the last draft is reported. -/
def spent (attempts : UInt32) : Scan :=
  ⟨.error (.exhausted attempts (sight timeout script budget).report), budget + 1⟩

/-- The end of a scan from the outcome with the index `i` on, `count` outcomes at most. -/
def first (i count : Nat) (attempts : UInt32) : Scan :=
  ((List.range' i count).findSome? (endAt? timeout budget script)).getD
    (spent timeout budget script attempts)

end Scan

namespace Scan

variable {timeout budget : Nat} {script : Model.Script} {i : Nat}

end Scan

/-! ## What the model sees and says -/

/-- A run comes to what a scan comes to, if `before` outcomes were looked at before the run. -/
structure Run.Scans (script : Model.Script) (before : Nat) (r : Run Unit) (s : Scan) : Prop where
  result : r.result = s.result
  script : r.session.script = script.drop s.looked
  calls : before + (Happening.calls r.transcript).length = s.looked

/-- What happened before a run counts its calls. -/
theorem Run.Scans.after {script : Model.Script} {before : Nat} {r : Run Unit} {s : Scan}
    (happened : List Happening)
    (h : r.Scans script (before + (Happening.calls happened).length) s) :
    (r.after happened).Scans script before s where
  result := h.result
  script := h.script
  calls := by
    rw [Run.after_transcript, Happening.calls_append, List.length_append, ← Nat.add_assoc]
    exact h.calls

namespace Planner

variable {timeout : Nat} {script : Model.Script}

end Planner

end AgentPlan
