import AgentPlan.Proofs.Planner.Log

/-!
# The warnings of a run

A run that ends with a plan warns of what the audit found, and of nothing else. A run that fails
warns of its failure, once and at its end, if it fails by itself: with its first call, with the text
of the first reply, or with a spent budget. A run that fails with a repair passes the failure on and
warns of nothing. `Warns` says so, `run_warns` proves it of every run, and
`failed_repair_unnoticed` shows a run that fails without a warning.
-/

namespace AgentPlan

variable {ρ : Type}

/-! ## Warnings -/

/-- The warnings among some happenings. -/
def Happening.warned (hs : List Happening) : List Event :=
  (events hs).filter fun e => e.level = .warn

namespace Happening

/-- Warnings are given part by part. -/
@[simp] theorem warned_append (hs hs' : List Happening) :
    warned (hs ++ hs') = warned hs ++ warned hs' := by
  rw [warned, events_append, List.filter_append]
  rfl

/-- An event of another level is no warning. -/
theorem warned_logged_of_ne {e : Event} (he : e.level ≠ .warn) (hs : List Happening) :
    warned (.logged e :: hs) = warned hs :=
  List.filter_cons_of_neg (by rwa [decide_eq_true_eq])

end Happening

/-- The warnings of a run. -/
def Run.warned (r : Run ρ) : List Event :=
  Happening.warned r.transcript

/-- The warnings that were noted before a run come first among its warnings. -/
@[simp] theorem Run.warned_after (before : List Happening) (r : Run ρ) :
    (r.after before).warned = Happening.warned before ++ r.warned :=
  Happening.warned_append before r.transcript

/-- The warnings of a run are the events of its log at the level `warn`. -/
theorem Run.mem_warned_iff {r : Run ρ} {e : Event} :
    e ∈ r.warned ↔ e ∈ r.log ∧ e.level = .warn := by
  rw [warned, Happening.warned, List.mem_filter, decide_eq_true_eq]
  rfl

/-- A call of the model warns of nothing. -/
@[simp] theorem Model.warned_complete (timeout : Nat) (call : Call) (script : Script) :
    Happening.warned (complete timeout call script).transcript = [] := by
  simp only [complete, Happening.warned, Happening.events_called, Happening.events_map_logged,
    receiveEvents]
  split
  · rfl
  · split
    · split <;> rfl
    · rfl

/-- A repairer that warns of nothing. -/
def Repairer.Quiet (repairer : Repairer ρ) : Prop :=
  ∀ document defect session, Happening.warned (repairer document defect session).transcript = []

/-- The model as a repairer warns of nothing, whether the repair fails or not. -/
theorem Repairer.model_quiet (timeout : Nat) : (model timeout).Quiet := by
  intro document defect session
  simp only [model]
  split
  · exact Model.warned_complete ..
  · rw [Happening.warned_append, Model.warned_complete]
    rfl

/-! ## What a run warns of -/

/-- The warning of a failure that a run comes to by itself. -/
def Failure.warning? : Failure → Option Event
  | .transport message => some (.planningFailed message)
  | .parse message => some (.notJson message)
  | .exhausted attempts error => some (.exhausted attempts error)
  | _ => none

namespace Planner

/-- What a run warns of that asked for the repairs `asked` and has a result. -/
inductive Warns (request : Request) (asked : List Repair) :
    Except Failure Plan → List Event → Prop
  | plan {plan : Plan} (succeeded : ∀ repair ∈ asked, repair.Succeeded) :
      Warns request asked (.ok plan) ((plan.audit request).map .finding)
  | failure {failure : Failure} {event : Event} (succeeded : ∀ repair ∈ asked, repair.Succeeded)
      (warning : failure.warning? = some event) :
      Warns request asked (.error failure) [event]
  | repair {failure : Failure} {document defect : String} (before : List Repair)
      (succeeded : ∀ repair ∈ before, repair.Succeeded)
      (last : asked = before ++ [⟨document, defect, .error failure⟩]) :
      Warns request asked (.error failure) []

namespace Warns

variable {request : Request} {asked : List Repair} {result : Except Failure Plan}
  {warnings : List Event}

/-- A repair that succeeded before is no reason for a warning. -/
theorem cons {repair : Repair} (hok : repair.Succeeded) (h : Warns request asked result warnings) :
    Warns request (repair :: asked) result warnings := by
  cases h with
  | plan succeeded => exact .plan (List.forall_mem_cons.2 ⟨hok, succeeded⟩)
  | failure succeeded warning => exact .failure (List.forall_mem_cons.2 ⟨hok, succeeded⟩) warning
  | repair before succeeded last =>
    exact .repair (repair :: before) (List.forall_mem_cons.2 ⟨hok, succeeded⟩)
      (congrArg (repair :: ·) last)

/-- A failed run warns of its failure exactly when no repair failed. -/
theorem mem_iff {failure : Failure} (h : Warns request asked (.error failure) warnings) :
    (∃ e ∈ warnings, failure.warning? = some e) ↔ ∀ repair ∈ asked, repair.Succeeded := by
  cases h with
  | failure succeeded warning =>
    exact iff_of_true ⟨_, List.mem_singleton_self _, warning⟩ succeeded
  | repair _ _ last =>
    refine iff_of_false (fun ⟨_, hmem, _⟩ => nomatch hmem) fun hall => ?_
    obtain ⟨document, hdocument⟩ :=
      hall _ (last ▸ List.mem_append_right _ (List.mem_singleton_self _))
    cases hdocument

/-- A failed run that warns of something warns of its failure only. -/
theorem eq_singleton {failure : Failure} (h : Warns request asked (.error failure) warnings)
    (hne : warnings ≠ []) : ∃ e, failure.warning? = some e ∧ warnings = [e] := by
  cases h with
  | failure _ warning => exact ⟨_, warning, rfl⟩
  | repair => exact absurd rfl hne

end Warns

/-- A run that finds a plan warns of the findings. -/
@[simp] theorem warned_doneEvents (request : Request) (plan : Plan) (attempt : UInt32) :
    Happening.warned (doneEvents request plan attempt) =
      (plan.audit request).map .finding := by
  have hfindings : ((plan.audit request).map Event.finding).filter (fun e => e.level = .warn) =
      (plan.audit request).map .finding :=
    List.filter_eq_self.2 (List.forall_mem_map.2 fun _ _ => rfl)
  rw [Happening.warned, events_doneEvents, List.filter_append, hfindings]
  exact List.append_nil _

/-- **The warnings of rounds.** A round adds a repair that succeeded, and no warning. -/
theorem rounds_warns (repairer : Repairer ρ) (request : Request)
    (s : State (ρ × List Repair)) :
    let r := rounds repairer.recorded request s
    ∃ asked, r.repairs = s.session.memory.2 ++ asked ∧ Warns request asked r.result r.warned := by
  induction s using rounds_induction repairer.recorded request with
  | done s plan hvalid =>
    refine ⟨[], (List.append_nil _).symm, ?_⟩
    have hchecked : (Event.validating (s.attempts + 1)).level ≠ .warn := nofun
    rw [Run.warned, Happening.warned_logged_of_ne hchecked, warned_doneEvents]
    exact .plan (List.forall_mem_nil _)
  | exhausted s ds hinvalid htake =>
    exact ⟨[], (List.append_nil _).symm, .failure (List.forall_mem_nil _) rfl⟩
  | failed s ds round b failure repaired hinvalid htake hrepair hresult =>
    obtain ⟨hrecord, hsilent⟩ := Repairer.recorded_spec hrepair
    rw [hresult] at hrecord
    refine ⟨_, hrecord, ?_⟩
    rw [Run.warned, hsilent]
    exact .repair [] (List.forall_mem_nil _) rfl
  | goesOn s ds round b document repaired hinvalid htake hrepair hresult ih =>
    obtain ⟨hrecord, hsilent⟩ := Repairer.recorded_spec hrepair
    obtain ⟨asked, hasked, hwarns⟩ := ih
    have hok : Repair.Succeeded ⟨s.draft.compact, Draft.report ds, repaired.result⟩ :=
      ⟨document, hresult⟩
    refine ⟨⟨s.draft.compact, Draft.report ds, repaired.result⟩ :: asked, ?_, ?_⟩
    · rw [Run.repairs_after, hasked, hrecord, List.append_assoc]
      rfl
    · rw [Run.warned_after, hsilent]
      exact hwarns.cons hok

/-- Nothing is warned of before the first reply is read. -/
@[simp] theorem warned_drafted (p : Planner ρ) (request : Request) (script : Model.Script) :
    Happening.warned (p.drafted request script) = [] := by
  have hdrafting : (Event.drafting request.maxSteps (request.clamp p.ceiling).maxSteps).level ≠
      .warn := nofun
  rw [drafted, Happening.warned_logged_of_ne hdrafting, Model.warned_complete]

/-- A recorded run warns of what there is to warn of. -/
theorem run_warns_recorded (p : Planner ρ) (request : Request) (session : Session ρ) :
    let r := p.recorded.run request (session.recording [])
    Warns (request.clamp p.ceiling) r.repairs r.result r.warned := by
  intro r
  have hcourse : p.recorded.Course request (session.recording []) r := run_course ..
  generalize r = r at hcourse
  cases hcourse with
  | callFailed hreceive =>
    rw [Run.warned, Happening.warned_append, warned_drafted]
    exact .failure (List.forall_mem_nil _) rfl
  | notJson hreceive hparse htake =>
    rw [Run.warned, Happening.warned_append, warned_drafted]
    exact .failure (List.forall_mem_nil _) rfl
  | textFailed hreceive hparse htake hrepair hresult =>
    obtain ⟨hrecord, hsilent⟩ := Repairer.recorded_spec hrepair
    rw [hresult] at hrecord
    rw [Run.warned, Run.repairs, Happening.warned_append, warned_drafted, hsilent, hrecord]
    exact .repair [] (List.forall_mem_nil _) rfl
  | @parsed text value hreceive hparse =>
    obtain ⟨asked, hasked, hwarns⟩ := rounds_warns p.repairer (request.clamp p.ceiling)
      ⟨.fresh p.budget, 0, Draft.normalize value, ⟨session.script.next.2, session.memory, []⟩⟩
    rw [Run.warned_after, Happening.warned_append, warned_drafted]
    exact (hasked.trans (List.nil_append _)) ▸ hwarns
  | @textRepaired text error round b value repaired hreceive hparse htake hrepair hresult =>
    obtain ⟨hrecord, hsilent⟩ := Repairer.recorded_spec hrepair
    obtain ⟨asked, hasked, hwarns⟩ := rounds_warns p.repairer (request.clamp p.ceiling)
      ⟨b, 0, Draft.normalize value, repaired.session⟩
    have hok : Repair.Succeeded ⟨text, textDefect error, repaired.result⟩ := ⟨value, hresult⟩
    rw [hrecord] at hasked
    rw [Run.warned_after, Happening.warned_append, warned_drafted, hsilent]
    exact hasked ▸ hwarns.cons hok

/-- If the repairer warns of nothing, all warnings of a run are in its record. -/
theorem warned_recorded {p : Planner ρ} (hquiet : p.repairer.Quiet) (request : Request)
    (session : Session ρ) :
    (p.recorded.run request (session.recording [])).warned = (p.run request session).warned :=
  filter_recorded hquiet request session

/-- **A failed run warns of its failure, unless a repair failed.** What the planner warns of in a
run is what `Warns` says, whoever repairs; so it warns of a failure exactly when every repair that
it asked for gave a document. If the repairer warns of nothing, as the model does, these are all the
warnings of the run. Reference: the warnings of `PlanOrchestrator.run`. -/
theorem run_warns (p : Planner ρ) (request : Request) (session : Session ρ) :
    let r := p.recorded.run request (session.recording [])
    r.Records (p.run request session) ∧
    Warns (request.clamp p.ceiling) r.repairs r.result r.warned ∧
    (∀ failure, r.result = .error failure →
      ((∃ e ∈ r.warned, failure.warning? = some e) ↔ ∀ repair ∈ r.repairs, repair.Succeeded)) ∧
    (p.repairer.Quiet → (p.run request session).warned = r.warned) := by
  intro r
  have hwarns : Warns (request.clamp p.ceiling) r.repairs r.result r.warned :=
    run_warns_recorded p request session
  refine ⟨run_records p request session [], hwarns, fun failure hfailure => ?_, fun hquiet => ?_⟩
  · rw [hfailure] at hwarns
    exact hwarns.mem_iff
  · exact (warned_recorded hquiet request session).symm

/-- A text that is not JSON and no round to repair it: the run warns of it. -/
theorem run_warns_no_round :
    let p : Planner Unit := ⟨20000, 8, 0, .model 20000⟩
    let r := p.run (.ofPrompt "x") ⟨[.ofText "x"], ()⟩
    r.warned = [.notJson "JSON parse failed: expected value at line 1 column 1"] := by
  intro p r
  obtain ⟨-, hwarns, -, hquiet⟩ := run_warns p (.ofPrompt "x") ⟨[.ofText "x"], ()⟩
  have hfailure : (p.recorded.run (.ofPrompt "x") (Session.recording ⟨[.ofText "x"], ()⟩ [])).result
      = .error (.parse "JSON parse failed: expected value at line 1 column 1") :=
    Run.failure?_eq_some_iff.1 (by decide +kernel)
  have hrepairs : ∀ repair ∈ (p.recorded.run (.ofPrompt "x")
      (Session.recording ⟨[.ofText "x"], ()⟩ [])).repairs, repair.Succeeded := by
    decide +kernel
  rw [hfailure] at hwarns
  obtain ⟨e, he, hwarning⟩ := hwarns.mem_iff.2 hrepairs
  obtain ⟨e', hwarning', hall⟩ := hwarns.eq_singleton (List.ne_nil_of_mem he)
  show (p.run (.ofPrompt "x") ⟨[.ofText "x"], ()⟩).warned = _
  rw [hquiet (Repairer.model_quiet 20000), hall]
  cases hwarning'
  rfl

/-- A text that is not JSON, and a repair that is not JSON either: the run fails, and nothing in its
log is a warning. -/
theorem failed_repair_unnoticed :
    ¬ ∀ (p : Planner Unit) (request : Request) (session : Session Unit) (failure : Failure),
      (p.run request session).result = .error failure →
      ∃ e ∈ (p.run request session).log, e.level = .warn := by
  intro h
  have hwarned := h ⟨20000, 8, 2, .model 20000⟩ (.ofPrompt "x") ⟨[.ofText "x", .ofText "y"], ()⟩
    (.parse "repair output is not valid JSON: expected value at line 1 column 1")
    (Run.failure?_eq_some_iff.1 (by decide +kernel))
  exact absurd hwarned (by decide +kernel)

end Planner

end AgentPlan
