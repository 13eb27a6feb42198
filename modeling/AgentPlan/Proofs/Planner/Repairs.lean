import AgentPlan.Proofs.Planner.Rounds

/-!
# The repairs of a run

How often a run has its drafts repaired and validated, whatever the repairer does. A recorded
repairer answers as the repairer does and keeps a record of its calls, so a recorded run is the run
(`run_records`) with a history that can be counted. `Accounts` is what holds of this history: it is
preserved by a round (`Accounts.cons`), holds of the rounds (`rounds_accounts`), and bounds the run
(`run_accounts`).
-/

namespace AgentPlan

variable {ρ : Type}

/-! ## Recorded runs -/

/-- A call of a repairer: what it was handed, and what it answered. -/
structure Repair where
  document : String
  defect : String
  answer : Except Failure Json

/-- The repairer answered with a document. -/
def Repair.Succeeded (repair : Repair) : Prop :=
  ∃ document, repair.answer = .ok document

instance : DecidablePred Repair.Succeeded
  | ⟨_, _, .ok document⟩ => .isTrue ⟨document, rfl⟩
  | ⟨_, _, .error _⟩ => .isFalse nofun

/-- A session with the record of the calls of a repairer. -/
def Session.recording (session : Session ρ) (record : List Repair) : Session (ρ × List Repair) :=
  ⟨session.script, session.memory, record⟩

/-- A session without the record. -/
def Session.plain (session : Session (ρ × List Repair)) : Session ρ :=
  ⟨session.script, session.memory.1⟩

/-- A session without the record that was put into it is the session before. -/
@[simp] theorem Session.plain_recording (session : Session ρ) (record : List Repair) :
    (session.recording record).plain = session := rfl

/-- A repairer that keeps a record of its calls. What it notes itself is left out of the transcript,
so that the transcript is what the planner does. -/
def Repairer.recorded (repairer : Repairer ρ) : Repairer (ρ × List Repair) :=
  fun document defect session =>
    let repaired := repairer document defect session.plain
    { result := repaired.result
      session := repaired.session.recording
        (session.memory.2 ++ [⟨document, defect, repaired.result⟩])
      transcript := [] }

/-- A recorded repairer adds its call to the record, with its answer. -/
theorem Repairer.recorded_spec {repairer : Repairer ρ} {document defect : String}
    {session : Session (ρ × List Repair)} {repaired : Repaired (ρ × List Repair)}
    (h : repairer.recorded document defect session = repaired) :
    repaired.session.memory.2 = session.memory.2 ++ [⟨document, defect, repaired.result⟩] ∧
      repaired.transcript = [] := by
  subst h
  exact ⟨rfl, rfl⟩

/-- A planner that keeps a record of the calls of its repairer. -/
def Planner.recorded (p : Planner ρ) : Planner (ρ × List Repair) :=
  ⟨p.timeout, p.ceiling, p.budget, p.repairer.recorded⟩

/-- Recording repairs does not touch the script of the model. -/
@[simp] theorem Session.recording_script (session : Session ρ) (record : List Repair) :
    (session.recording record).script = session.script := rfl

/-- A planner that records its repairs has the same time limit. -/
@[simp] theorem Planner.recorded_timeout (p : Planner ρ) : p.recorded.timeout = p.timeout := rfl

/-- A planner that records its repairs has the same ceiling. -/
@[simp] theorem Planner.recorded_ceiling (p : Planner ρ) : p.recorded.ceiling = p.ceiling := rfl

/-- The calls of the repairer in a run. -/
def Run.repairs (r : Run (ρ × List Repair)) : List Repair :=
  r.session.memory.2

/-- What happened before a run is no repair of it. -/
@[simp] theorem Run.repairs_after (before : List Happening) (r : Run (ρ × List Repair)) :
    (r.after before).repairs = r.repairs := rfl

/-- A recorded run is the run: it has the same result and the same session, and all that happened in
it happened in the run. -/
structure Run.Records (recorded : Run (ρ × List Repair)) (r : Run ρ) : Prop where
  result : recorded.result = r.result
  session : recorded.session.plain = r.session
  transcript : recorded.transcript.Sublist r.transcript

/-- A relation between what happens in two runs that holds of equal parts and goes from the parts to
the whole. -/
structure Happening.PartByPart (rel : List Happening → List Happening → Prop) : Prop where
  refl : ∀ hs, rel hs hs
  append : ∀ {as bs cs ds}, rel as bs → rel cs ds → rel (as ++ cs) (bs ++ ds)

/-- A recorded run is the run up to what the repairer noted: it has the same result and the same
session, and what happened in both is related. -/
structure Run.Mirrors (rel : List Happening → List Happening → Prop)
    (recorded : Run (ρ × List Repair)) (r : Run ρ) : Prop where
  result : recorded.result = r.result
  session : recorded.session.plain = r.session
  transcript : rel recorded.transcript r.transcript

/-- What happened before both runs is related, too. -/
theorem Run.Mirrors.after {rel : List Happening → List Happening → Prop}
    (hrel : Happening.PartByPart rel) {recorded : Run (ρ × List Repair)} {r : Run ρ}
    {happened happened' : List Happening} (h : recorded.Mirrors rel r)
    (hbefore : rel happened happened') :
    (recorded.after happened).Mirrors rel (r.after happened') :=
  ⟨h.result, h.session, hrel.append hbefore h.transcript⟩

namespace Planner

/-- A state with the record of the calls of a repairer. -/
def State.recording (s : State ρ) (record : List Repair) : State (ρ × List Repair) :=
  ⟨s.budget, s.attempts, s.draft, s.session.recording record⟩

section
variable {rel : List Happening → List Happening → Prop} (hrel : Happening.PartByPart rel)
include hrel

/-- Recorded rounds are the rounds, for every relation that what the repairer notes does not
break. -/
theorem rounds_mirrors {repairer : Repairer ρ}
    (hnotes : ∀ document defect session, rel [] (repairer document defect session).transcript)
    (request : Request) (s : State ρ) (record : List Repair) :
    (rounds repairer.recorded request (s.recording record)).Mirrors rel
      (rounds repairer request s) := by
  induction s using rounds_induction repairer request generalizing record with
  | done s plan hvalid =>
    rw [rounds_of_valid (s := s.recording record) hvalid]
    exact ⟨rfl, rfl, hrel.refl _⟩
  | exhausted s ds hinvalid htake =>
    rw [rounds_of_spent (s := s.recording record) hinvalid htake]
    exact ⟨rfl, rfl, hrel.refl _⟩
  | failed s ds round b failure repaired hinvalid htake hrepair hresult =>
    subst hrepair
    rw [rounds_of_failed (s := s.recording record) hinvalid htake rfl hresult]
    exact ⟨rfl, rfl, hrel.append (hrel.refl [_, _]) (hnotes _ _ _)⟩
  | goesOn s ds round b document repaired hinvalid htake hrepair hresult ih =>
    subst hrepair
    rw [rounds_of_repaired (s := s.recording record) hinvalid htake rfl hresult]
    exact (ih _).after hrel
      (hrel.append (hrel.refl [_, _]) (hrel.append (hnotes _ _ _) (hrel.refl [_])))

variable {p : Planner ρ}
  (hnotes : ∀ document defect session, rel [] (p.repairer document defect session).transcript)
include hnotes

/-- What is recorded of the reading of the first reply is what happens. -/
theorem read_mirrors (request : Request) (text : String) (session : Session ρ)
    (record : List Repair) :
    (p.recorded.read request text (session.recording record)).Mirrors rel
      (p.read request text session) := by
  simp only [read, recorded]
  cases hparse : Extract.value text with
  | ok value =>
    exact (rounds_mirrors hrel hnotes request ⟨_, 0, _, session⟩ record).after hrel (hrel.refl _)
  | error error =>
    cases htake : (Budget.fresh p.budget).take with
    | none => exact ⟨rfl, rfl, hrel.refl _⟩
    | some taken =>
      obtain ⟨round, budget⟩ := taken
      simp only [Repairer.recorded, Session.plain_recording]
      have hasked := hrel.append (hrel.refl [.logged (.repairingText round (textDefect error))])
        (hnotes text (textDefect error) session)
      cases hrepair : (p.repairer text (textDefect error) session).result with
      | error failure => exact ⟨rfl, rfl, hasked⟩
      | ok value =>
        exact ((rounds_mirrors hrel hnotes request ⟨_, 0, _, _⟩ _).after hrel (hrel.refl _)).after
          hrel hasked

/-- A recorded run is the run, for every relation that what the repairer notes does not break. -/
theorem run_mirrors (request : Request) (session : Session ρ) (record : List Repair) :
    (p.recorded.run request (session.recording record)).Mirrors rel (p.run request session) := by
  simp only [run, recorded_timeout, recorded_ceiling, Session.recording_script]
  generalize hfirst : Model.complete p.timeout _ session.script = first
  cases hresult : first.result with
  | error failure => exact ⟨rfl, rfl, hrel.refl _⟩
  | ok text =>
    exact (read_mirrors hrel hnotes _ text ⟨first.script, session.memory⟩ record).after hrel
      (hrel.refl _)

end

/-- A recorded run is the run. -/
theorem run_records (p : Planner ρ) (request : Request) (session : Session ρ)
    (record : List Repair) :
    (p.recorded.run request (session.recording record)).Records (p.run request session) := by
  have hparts : Happening.PartByPart List.Sublist := ⟨.refl, .append⟩
  obtain ⟨hresult, hsession, hsub⟩ :=
    run_mirrors hparts (fun _ _ _ => List.nil_sublist _) (p := p) request session record
  exact ⟨hresult, hsession, hsub⟩

end Planner

/-! ## Accounts -/

/-- The number of validations among some happenings. -/
def Happening.validations (hs : List Happening) : Nat :=
  hs.countP fun
    | .logged (.validating _) => true
    | _ => false

/-- Validations are counted part by part. -/
theorem Happening.validations_append (hs hs' : List Happening) :
    validations (hs ++ hs') = validations hs + validations hs' :=
  List.countP_append

/-- The account of a run that can make `rounds` repairs and `validations` validations, and that
reports `attempts` validations once its budget is spent. The repairs that it asked for are no more;
one that failed was the last and gave the result. -/
structure Accounts (rounds validations : Nat) (attempts : UInt32) (asked : List Repair)
    (r : Run ρ) : Prop where
  repairs_le : asked.length ≤ rounds
  validations_le : Happening.validations r.transcript ≤ validations
  failed : ∀ (i : Nat) (repair : Repair) (failure : Failure), asked[i]? = some repair →
    repair.answer = .error failure → i + 1 = asked.length ∧ r.result = .error failure
  exhausted : ∀ (n : UInt32) (error : String), r.result = .error (.exhausted n error) →
    (∀ repair ∈ asked, repair.Succeeded) → asked.length = rounds ∧ n = attempts

namespace Accounts

variable {rounds validations : Nat} {attempts : UInt32} {asked : List Repair} {r : Run ρ}

/-- The validations of what happened before a run are counted, too. -/
theorem after {total : Nat} {happened : List Happening}
    (h : Accounts rounds validations attempts asked r)
    (htotal : Happening.validations happened + validations ≤ total) :
    Accounts rounds total attempts asked (r.after happened) where
  repairs_le := h.repairs_le
  validations_le := by
    rw [Run.after_transcript, Happening.validations_append]
    exact Nat.le_trans (Nat.add_le_add_left h.validations_le _) htotal
  failed := h.failed
  exhausted := h.exhausted

/-- An account with a greater bound on the validations. -/
theorem mono {total : Nat} (h : Accounts rounds validations attempts asked r)
    (htotal : validations ≤ total) : Accounts rounds total attempts asked r where
  repairs_le := h.repairs_le
  validations_le := Nat.le_trans h.validations_le htotal
  failed := h.failed
  exhausted := h.exhausted

/-- A repair that succeeded before a run takes one round more. -/
theorem cons {repair : Repair} (hok : repair.Succeeded)
    (h : Accounts rounds validations attempts asked r) :
    Accounts (rounds + 1) validations attempts (repair :: asked) r where
  repairs_le := Nat.succ_le_succ h.repairs_le
  validations_le := h.validations_le
  failed i repair' failure hget hfailed := by
    obtain ⟨document, hdocument⟩ := hok
    cases i with
    | zero =>
      cases hget
      cases hdocument.symm.trans hfailed
    | succ i =>
      obtain ⟨hlast, hresult⟩ := h.failed i repair' failure hget hfailed
      exact ⟨congrArg (· + 1) hlast, hresult⟩
  exhausted n error hresult hall := by
    rw [List.forall_mem_cons] at hall
    obtain ⟨hlength, hn⟩ := h.exhausted n error hresult hall.2
    exact ⟨congrArg (· + 1) hlength, hn⟩

/-- A run that asks for no repair and does not end with a spent budget. -/
theorem nil (hvalidations : Happening.validations r.transcript ≤ validations)
    (hresult : ∀ n error, r.result ≠ .error (.exhausted n error)) :
    Accounts rounds validations attempts [] r where
  repairs_le := Nat.zero_le _
  validations_le := hvalidations
  failed i repair failure hget := by cases hget
  exhausted n error h := absurd h (hresult n error)

/-- A run that ends with a failed repair. -/
theorem singleton {repair : Repair} {failure : Failure} (hfailed : repair.answer = .error failure)
    (hresult : r.result = .error failure)
    (hvalidations : Happening.validations r.transcript ≤ validations) :
    Accounts (rounds + 1) validations attempts [repair] r where
  repairs_le := Nat.succ_le_succ (Nat.zero_le _)
  validations_le := hvalidations
  failed i repair' failure' hget hfailed' := by
    cases i with
    | zero =>
      cases hget
      cases hfailed.symm.trans hfailed'
      exact ⟨rfl, hresult⟩
    | succ i => cases hget
  exhausted n error _ hall := by
    obtain ⟨document, hdocument⟩ := hall repair (List.mem_singleton_self _)
    cases hdocument.symm.trans hfailed

end Accounts

namespace Planner

/-- Nothing is validated once a plan is found. -/
theorem validations_doneEvents (request : Request) (plan : Plan) (attempt : UInt32) :
    Happening.validations (doneEvents request plan attempt) = 0 := by
  simp [Happening.validations, doneEvents, List.countP_eq_zero]

/-- **The account of the rounds.** With the rounds that are left, as many repairs can be made, and
one validation more. -/
theorem rounds_accounts (repairer : Repairer ρ) (request : Request)
    (s : State (ρ × List Repair)) :
    ∃ asked, (rounds repairer.recorded request s).repairs = s.session.memory.2 ++ asked ∧
      Accounts s.budget.left (s.budget.left + 1) (s.attempts + .ofNat (s.budget.left + 1)) asked
        (rounds repairer.recorded request s) := by
  induction s using rounds_induction repairer.recorded request with
  | done s plan hvalid =>
    refine ⟨[], (List.append_nil _).symm, .nil ?_ nofun⟩
    have hdone := validations_doneEvents request plan (s.attempts + 1)
    simp only [Happening.validations] at hdone ⊢
    simp [hdone]
  | exhausted s ds hinvalid htake =>
    refine ⟨[], (List.append_nil _).symm, ?_⟩
    rw [Budget.take_eq_none_iff.1 htake]
    exact {
      repairs_le := Nat.le_refl _
      validations_le := Nat.le_refl _
      failed := nofun
      exhausted := fun n error h _ => by
        cases h
        exact ⟨rfl, rfl⟩ }
  | failed s ds round b failure repaired hinvalid htake hrepair hresult =>
    obtain ⟨hrecord, hsilent⟩ := Repairer.recorded_spec hrepair
    rw [Budget.left_of_take htake]
    refine ⟨_, hrecord, .singleton hresult rfl ?_⟩
    simp [Happening.validations, hsilent]
  | goesOn s ds round b document repaired hinvalid htake hrepair hresult ih =>
    obtain ⟨hrecord, hsilent⟩ := Repairer.recorded_spec hrepair
    obtain ⟨asked, hasked, haccount⟩ := ih
    -- The repair comes before those of the rest, and its round and its validation are one each.
    have hok : Repair.Succeeded ⟨s.draft.compact, Draft.report ds, repaired.result⟩ :=
      ⟨document, hresult⟩
    rw [add_one_add_ofNat] at haccount
    rw [Budget.left_of_take htake]
    refine ⟨_, ?_, (haccount.cons hok).after ?_⟩
    · rw [Run.repairs_after, hasked, hrecord, List.append_assoc]
      rfl
    · simp [Happening.validations, hsilent]
      omega

/-- Nothing is validated before the first reply is read. -/
theorem validations_drafted (p : Planner ρ) (request : Request) (script : Model.Script) :
    Happening.validations (p.drafted request script) = 0 := by
  simp only [Happening.validations, drafted, Model.complete, Model.receiveEvents]
  split
  · rfl
  · split
    · split <;> rfl
    · rfl

/-- The text of the first reply is JSON. -/
def firstIsJson (p : Planner ρ) (script : Model.Script) : Bool :=
  match Model.receive p.timeout script.next.1 with
  | .ok text => (Extract.value text).isOk
  | .error _ => false

section
variable {p : Planner ρ} {script : Model.Script} {text : String}

/-- A first reply that is read as JSON is JSON. -/
theorem firstIsJson_of_ok {value : Json}
    (hreceive : Model.receive p.timeout script.next.1 = .ok text)
    (hparse : Extract.value text = .ok value) : p.firstIsJson script = true := by
  simp only [firstIsJson, hreceive, hparse]
  rfl

/-- A first reply that is not read as JSON is not. -/
theorem firstIsJson_of_error {error : String}
    (hreceive : Model.receive p.timeout script.next.1 = .ok text)
    (hparse : Extract.value text = .error error) : p.firstIsJson script = false := by
  simp only [firstIsJson, hreceive, hparse]
  rfl

end

/-- **The account of a run.** A first reply that is not JSON costs a round, and with it a
validation. -/
theorem run_accounts_by_first {repairer : Repairer ρ} {p : Planner (ρ × List Repair)}
    (hrecorded : p.repairer = repairer.recorded) (request : Request)
    {session : Session (ρ × List Repair)} (hempty : session.memory.2 = []) :
    Accounts p.budget.toNat
      (if p.firstIsJson session.script then p.budget.toNat + 1 else p.budget.toNat)
      (.ofNat (if p.firstIsJson session.script then p.budget.toNat + 1 else p.budget.toNat))
      (p.run request session).repairs (p.run request session) := by
  have hdrafted := validations_drafted p request session.script
  have hcourse := run_course p request session
  generalize p.run request session = r at hcourse
  cases hcourse with
  | callFailed hreceive =>
    rw [Run.repairs, hempty]
    refine .nil ?_ nofun
    rw [Happening.validations_append, hdrafted]
    exact Nat.zero_le _
  | notJson hreceive hparse htake =>
    rw [Run.repairs, hempty]
    refine .nil ?_ nofun
    rw [Happening.validations_append, hdrafted]
    exact Nat.zero_le _
  | textFailed hreceive hparse htake hrepair hresult =>
    rw [hrecorded] at hrepair
    obtain ⟨hrecord, hsilent⟩ := Repairer.recorded_spec hrepair
    have hleft : p.budget.toNat = _ + 1 := Budget.left_of_take htake
    rw [Run.repairs, hrecord, hempty, hleft]
    refine .singleton hresult rfl ?_
    rw [Happening.validations_append, hdrafted, hsilent]
    exact Nat.zero_le _
  | @parsed text value hreceive hparse =>
    obtain ⟨asked, hasked, haccount⟩ := rounds_accounts repairer (request.clamp p.ceiling)
      ⟨.fresh p.budget, 0, Draft.normalize value, ⟨session.script.next.2, session.memory⟩⟩
    rw [firstIsJson_of_ok hreceive hparse, if_pos rfl, hrecorded]
    rw [Run.repairs_after, hasked, hempty, List.nil_append]
    rw [UInt32.zero_add] at haccount
    refine haccount.after ?_
    rw [Happening.validations_append, hdrafted]
    exact Nat.le_of_eq (Nat.zero_add _)
  | @textRepaired text error round b value repaired hreceive hparse htake hrepair hresult =>
    rw [hrecorded] at hrepair
    obtain ⟨hrecord, hsilent⟩ := Repairer.recorded_spec hrepair
    have hleft : p.budget.toNat = b.left + 1 := Budget.left_of_take htake
    obtain ⟨asked, hasked, haccount⟩ := rounds_accounts repairer (request.clamp p.ceiling)
      ⟨b, 0, Draft.normalize value, repaired.session⟩
    -- The repair of the text takes a round, too, but no draft was validated before it.
    have hok : Repair.Succeeded ⟨text, textDefect error, repaired.result⟩ := ⟨value, hresult⟩
    rw [firstIsJson_of_error hreceive hparse, hrecorded, hleft]
    rw [Run.repairs_after, hasked, hrecord, hempty]
    rw [UInt32.zero_add] at haccount
    refine (haccount.cons hok).after ?_
    rw [Happening.validations_append, hdrafted, hsilent]
    exact Nat.le_of_eq (Nat.zero_add _)

/-- Whatever the first reply was, there is at most one validation more than there are rounds. -/
theorem run_accounts {repairer : Repairer ρ} {p : Planner (ρ × List Repair)}
    (hrecorded : p.repairer = repairer.recorded) (request : Request)
    {session : Session (ρ × List Repair)} (hempty : session.memory.2 = []) :
    Accounts p.budget.toNat (p.budget.toNat + 1)
      (.ofNat (if p.firstIsJson session.script then p.budget.toNat + 1 else p.budget.toNat))
      (p.run request session).repairs (p.run request session) :=
  (run_accounts_by_first hrecorded request hempty).mono (by split <;> omega)

/-- **Runs are bounded by their budget.** With `n` rounds of repair, a run asks for at most `n`
repairs and makes at most `n + 1` validations. If its budget is spent while every repair gave a
document, it asked for exactly `n` repairs, and it reports `n + 1` validations, or `n` if its first
reply was not JSON. A repair that failed is the last one, and its failure is the result. Reference:
`PlanOrchestrator.run` and `RepairBudget`. -/
theorem run_bounded (p : Planner ρ) (request : Request) (session : Session ρ)
    (hbudget : p.budget.toNat < UInt32.size - 1) :
    let n := p.budget.toNat
    let r := p.recorded.run request (session.recording [])
    r.Records (p.run request session) ∧
    r.repairs.length ≤ n ∧
    Happening.validations r.transcript ≤ n + 1 ∧
    (∀ attempts error, (p.run request session).result = .error (.exhausted attempts error) →
      (∀ repair ∈ r.repairs, repair.Succeeded) →
      r.repairs.length = n ∧
        attempts.toNat = if p.firstIsJson session.script then n + 1 else n) ∧
    ∀ (i : Nat) (repair : Repair) (failure : Failure), r.repairs[i]? = some repair →
      repair.answer = .error failure →
      i + 1 = r.repairs.length ∧ (p.run request session).result = .error failure := by
  intro n r
  have hrecords : r.Records (p.run request session) := run_records p request session []
  have haccount := run_accounts (p := p.recorded) rfl request
    (show (session.recording []).memory.2 = [] from rfl)
  refine ⟨hrecords, haccount.repairs_le, haccount.validations_le, ?_, ?_⟩
  · intro attempts error hresult hall
    rw [← hrecords.result] at hresult
    obtain ⟨hlength, rfl⟩ := haccount.exhausted attempts error hresult hall
    refine ⟨hlength, ?_⟩
    rw [UInt32.toNat_ofNat_of_lt']
    · rfl
    · show _ < UInt32.size
      split
      · exact Nat.succ_lt_succ hbudget
      · exact Nat.lt_trans hbudget (by decide)
  · intro i repair failure hget hfailed
    rw [← hrecords.result]
    exact haccount.failed i repair failure hget hfailed

/-- A reply that is not JSON and two repairs that are no plans: two validations are reported. -/
theorem run_bounded_two_rounds :
    (2 : UInt32).toNat < UInt32.size - 1 ∧
    ∃ (attempts : UInt32) (error : String),
      (run ⟨20000, 8, 2, .scripted⟩ (.ofPrompt "x") ⟨[.ofText "x"],
        List.replicate 2 (.ok (.obj [("rationale", .null)]))⟩).result =
          .error (.exhausted attempts error) ∧
      attempts.toNat = 2 ∧
      (run (recorded ⟨20000, 8, 2, .scripted⟩) (.ofPrompt "x") (Session.recording ⟨[.ofText "x"],
        List.replicate 2 (.ok (.obj [("rationale", .null)]))⟩ [])).repairs.length = 2 := by
  have hbudget : (2 : UInt32).toNat < UInt32.size - 1 := by decide
  have hfailure : (run ⟨20000, 8, 2, .scripted⟩ (.ofPrompt "x") ⟨[.ofText "x"],
      List.replicate 2 (.ok (.obj [("rationale", .null)]))⟩).failure? = some (.exhausted 2
        "1 validation error(s) for ToolPlan\nrationale: input should be a valid string") := by
    decide +kernel
  have hresult := Run.failure?_eq_some_iff.1 hfailure
  obtain ⟨-, -, -, hexhausted, -⟩ := run_bounded ⟨20000, 8, 2, .scripted⟩ (.ofPrompt "x")
    ⟨[.ofText "x"], List.replicate 2 (.ok (.obj [("rationale", .null)]))⟩ hbudget
  obtain ⟨hlength, -⟩ := hexhausted _ _ hresult (by decide +kernel)
  exact ⟨hbudget, _, _, hresult, rfl, hlength⟩

/-- A repairer can itself fail with a spent budget, whatever is left of the budget of the run: then
the run ends with a spent budget although it asked for fewer repairs than it had rounds. -/
theorem exhausted_by_failed_repair :
    ¬ ∀ (p : Planner (List (Except Failure Json))) (request : Request)
        (session : Session (List (Except Failure Json))), p.budget.toNat < UInt32.size - 1 →
      ∀ attempts error, (p.run request session).result = .error (.exhausted attempts error) →
        (p.recorded.run request (session.recording [])).repairs.length = p.budget.toNat := by
  intro h
  have hlength := h ⟨20000, 8, 2, .scripted⟩ (.ofPrompt "x")
    ⟨[.ofText "x"], [.error (.exhausted 7 "gone")]⟩ (by decide) 7 "gone"
    (Run.failure?_eq_some_iff.1 (by decide +kernel))
  exact absurd hlength (by decide +kernel)

end Planner

end AgentPlan
