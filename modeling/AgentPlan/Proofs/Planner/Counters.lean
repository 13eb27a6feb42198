import AgentPlan.Proofs.Planner.Warnings
import AgentPlan.Settings.Lookup
import AgentPlan.Service

/-!
# The counters of a run

A run counts its rounds of repair and its validations in numbers of 32 bits, and tells them in its
log and in its failure. A `Counter` says which events are counted and which events tell the number.
A number that is told is the number of counted events so far, as far as 32 bits go
(`Counter.TellsFrom`). For the rounds of repair this is always far enough, as the budget guards
them. Nothing guards the validations, which can be one more than the rounds: `run_counts` says how
far they are counted, and `attempts_misreported` what is told where nothing is counted.
-/

namespace AgentPlan

variable {ρ : Type}

/-! ## Counters -/

/-- A counter of a run: the events that it counts, and the numbers that events tell of it. -/
structure Counter where
  counts : Event → Bool
  told? : Event → Option UInt32

namespace Counter

/-- The rounds of repair. -/
def repairs : Counter where
  counts e := e.round?.isSome
  told?
    | .repairingText round _ | .repairingPlan round _ => some round
    | .normalizing round => round
    | _ => none

/-- The validations. -/
def validations : Counter where
  counts e := e.attempt?.isSome
  told?
    | .validating attempts | .repairingPlan _ attempts | .done _ attempts
    | .exhausted attempts _ => some attempts
    | _ => none

variable (c : Counter)

/-- The number of events in a log that are counted. -/
def count (log : List Event) : Nat :=
  log.countP c.counts

/-- Every number that is told in a log is the number of counted events so far, `n` of which came
before the log. -/
def TellsFrom : Nat → List Event → Prop
  | _, [] => True
  | n, e :: log => (∀ told, c.told? e = some told → told = .ofNat (n + (c.counts e).toNat)) ∧
      TellsFrom (n + (c.counts e).toNat) log

/-- An event that is neither counted nor tells a number. -/
def Ignores (e : Event) : Prop :=
  c.counts e = false ∧ c.told? e = none

variable {c} {n : Nat} {log log' : List Event}

/-- The first event is counted before the others. -/
theorem count_cons (c : Counter) (e : Event) (log : List Event) :
    c.count (e :: log) = (c.counts e).toNat + c.count log := by
  rw [count, List.countP_cons, Nat.add_comm]
  cases c.counts e <;> rfl

/-- Events are counted part by part. -/
@[simp] theorem count_append : c.count (log ++ log') = c.count log + c.count log' :=
  List.countP_append

/-- Numbers are told part by part. -/
theorem tellsFrom_append :
    c.TellsFrom n (log ++ log') ↔ c.TellsFrom n log ∧ c.TellsFrom (n + c.count log) log' := by
  induction log generalizing n with
  | nil => exact (iff_of_eq (true_and _)).symm
  | cons e log ih =>
    rw [List.cons_append, TellsFrom, TellsFrom, ih, and_assoc, count_cons, Nat.add_assoc]

/-- Nothing is counted in a log that is ignored. -/
theorem count_eq_zero (h : ∀ e ∈ log, c.Ignores e) : c.count log = 0 :=
  List.countP_eq_zero.2 fun e he => by simp [(h e he).1]

/-- What is ignored before a log does not count. -/
theorem count_noted {noted : List Event} (h : ∀ e ∈ noted, c.Ignores e) :
    c.count (noted ++ log) = c.count log := by
  rw [count_append, count_eq_zero h, Nat.zero_add]

/-- What is ignored before a log tells nothing. -/
theorem tellsFrom_cons_of_ignores {e : Event} (he : c.Ignores e) :
    c.TellsFrom n (e :: log) ↔ c.TellsFrom n log := by
  rw [TellsFrom, he.1, he.2]
  exact and_iff_right nofun

section
variable {keeps : Event → Bool} (hignores : ∀ e, keeps e = false → c.Ignores e)
include hignores

/-- Nothing is counted in what is left out of a log if it is ignored. -/
theorem count_filter (log : List Event) : c.count (log.filter keeps) = c.count log := by
  rw [count, count, List.countP_filter]
  refine List.countP_congr fun e _ => ?_
  cases hkeeps : keeps e with
  | true => rw [Bool.and_true]
  | false => simp [(hignores e hkeeps).1]

/-- What is left out of a log tells nothing if it is ignored. -/
theorem tellsFrom_filter : c.TellsFrom n (log.filter keeps) ↔ c.TellsFrom n log := by
  induction log generalizing n with
  | nil => rfl
  | cons e log ih =>
    cases hkeeps : keeps e with
    | true => rw [List.filter_cons_of_pos hkeeps, TellsFrom, TellsFrom, ih]
    | false =>
      rw [List.filter_cons_of_neg (by simp [hkeeps]), ih,
        tellsFrom_cons_of_ignores (hignores e hkeeps)]

end

/-- The number that an event of the log tells is the number of counted events up to it. -/
theorem TellsFrom.eq_ofNat (h : c.TellsFrom n log) {before after : List Event} {e : Event}
    {told : UInt32} (hlog : log = before ++ e :: after) (htold : c.told? e = some told) :
    told = .ofNat (n + c.count (before ++ [e])) := by
  subst hlog
  have he := (tellsFrom_append.1 h).2.1 told htold
  rw [Nat.add_assoc] at he
  rw [count_append, count_cons]
  exact he

end Counter

/-- An event that neither counter takes notice of. -/
def Event.Uncounted (e : Event) : Prop :=
  Counter.repairs.Ignores e ∧ Counter.validations.Ignores e

/-! ## Counted logs -/

/-- A log that counts right after `made` validations and `used` rounds of repair: what it tells of
them is right in 32 bits. A plan and a spent budget are told at its end. -/
inductive Counts : Nat → Nat → List Event → Prop where
  | nil {made used : Nat} : Counts made used []
  | uncounted {made used : Nat} {e : Event} {log : List Event} (he : e.Uncounted)
      (rest : Counts made used log) : Counts made used (e :: log)
  | repairingText {made used : Nat} {round : UInt32} {defect : String} {log : List Event}
      (hround : round = .ofNat (used + 1)) (rest : Counts made (used + 1) log) :
      Counts made used (.repairingText round defect :: log)
  | normalizing {made used : Nat} {round : UInt32} {log : List Event}
      (hround : round = .ofNat used) (rest : Counts made used log) :
      Counts made used (.normalizing (some round) :: log)
  | validating {made used : Nat} {attempt : UInt32} {log : List Event}
      (hattempt : attempt = .ofNat (made + 1)) (rest : Counts (made + 1) used log) :
      Counts made used (.validating attempt :: log)
  | repairingPlan {made used : Nat} {round attempt : UInt32} {log : List Event}
      (hround : round = .ofNat (used + 1)) (hattempt : attempt = .ofNat made)
      (rest : Counts made (used + 1) log) :
      Counts made used (.repairingPlan round attempt :: log)
  | done {made used steps : Nat} {attempts : UInt32} (hattempts : attempts = .ofNat made) :
      Counts made used [.done steps attempts]
  | exhausted {made used : Nat} {attempts : UInt32} {error : String}
      (hattempts : attempts = .ofNat made) : Counts made used [.exhausted attempts error]

namespace Counts

variable {made used : Nat} {log noted : List Event}

/-- What neither counter takes notice of may come first. -/
theorem after (hnoted : ∀ e ∈ noted, e.Uncounted) (h : Counts made used log) :
    Counts made used (noted ++ log) := by
  induction noted with
  | nil => exact h
  | cons e noted ih =>
    rw [List.forall_mem_cons] at hnoted
    exact .uncounted hnoted.1 (ih hnoted.2)

/-- The text of the first reply is not counted. -/
theorem parsing {length : Nat} (h : Counts made used log) :
    Counts made used (.parsing length :: log) :=
  .uncounted ⟨⟨rfl, rfl⟩, rfl, rfl⟩ h

/-- The first draft is not counted. -/
theorem start (h : Counts made used log) : Counts made used (.normalizing none :: log) :=
  .uncounted ⟨⟨rfl, rfl⟩, rfl, rfl⟩ h

/-- Both counters tell the number of the events that they counted. -/
theorem tellsFrom (h : Counts made used log) :
    Counter.repairs.TellsFrom used log ∧ Counter.validations.TellsFrom made log := by
  induction h with
  | nil => exact ⟨trivial, trivial⟩
  | uncounted he _ ih =>
    exact ⟨(Counter.tellsFrom_cons_of_ignores he.1).2 ih.1,
      (Counter.tellsFrom_cons_of_ignores he.2).2 ih.2⟩
  | repairingText hround _ ih =>
    exact ⟨⟨fun _ htold => Option.some.inj htold ▸ hround, ih.1⟩, nofun, ih.2⟩
  | normalizing hround _ ih =>
    exact ⟨⟨fun _ htold => Option.some.inj htold ▸ hround, ih.1⟩, nofun, ih.2⟩
  | validating hattempt _ ih =>
    exact ⟨⟨nofun, ih.1⟩, fun _ htold => Option.some.inj htold ▸ hattempt, ih.2⟩
  | repairingPlan hround hattempt _ ih =>
    exact ⟨⟨fun _ htold => Option.some.inj htold ▸ hround, ih.1⟩,
      fun _ htold => Option.some.inj htold ▸ hattempt, ih.2⟩
  | done hattempts =>
    exact ⟨⟨nofun, trivial⟩, fun _ htold => Option.some.inj htold ▸ hattempts, trivial⟩
  | exhausted hattempts =>
    exact ⟨⟨nofun, trivial⟩, fun _ htold => Option.some.inj htold ▸ hattempts, trivial⟩

/-- A spent budget is told with the number of all validations. -/
theorem eq_of_exhausted (h : Counts made used log) {attempts : UInt32} {error : String}
    (hmem : .exhausted attempts error ∈ log) :
    attempts = .ofNat (made + Counter.validations.count log) := by
  induction h with
  | nil => cases hmem
  | uncounted he _ ih =>
    rcases List.mem_cons.1 hmem with rfl | hmem
    · cases he.2.2
    · rw [Counter.count_cons, he.2.1, Bool.toNat_false, Nat.zero_add]
      exact ih hmem
  | repairingText _ _ ih | normalizing _ _ ih | repairingPlan _ _ _ ih =>
    exact ih ((List.mem_cons.1 hmem).resolve_left nofun)
  | validating _ _ ih =>
    rw [Counter.count_cons, ← Nat.add_assoc]
    exact ih ((List.mem_cons.1 hmem).resolve_left nofun)
  | done => cases List.mem_singleton.1 hmem
  | exhausted hattempts =>
    cases List.mem_singleton.1 hmem
    exact hattempts

end Counts

/-- Neither counter takes notice of an event that is not of the planner. -/
theorem Event.uncounted_of_other {e : Event} (h : e.ofPlanner = false) : e.Uncounted := by
  cases e <;> cases h <;> exact ⟨⟨rfl, rfl⟩, rfl, rfl⟩

/-- The round that is taken is the next one, in 32 bits. -/
theorem Budget.round_eq_ofNat {b b' : Budget} {round : UInt32} (h : b.take = some (round, b')) :
    round = .ofNat (b.used.toNat + 1) := by
  rw [← (Budget.round_of_take h).1, UInt32.ofNat_toNat]

namespace Planner

/-- Neither counter takes notice of the findings about a plan. -/
theorem uncounted_findings (request : Request) (plan : Plan) :
    ∀ e ∈ (plan.audit request).map Event.finding, e.Uncounted :=
  List.forall_mem_map.2 fun _ _ => ⟨⟨rfl, rfl⟩, rfl, rfl⟩

/-- Neither counter takes notice of what comes before the first reply is read. -/
theorem uncounted_drafted (p : Planner ρ) (request : Request) (script : Model.Script) :
    ∀ e ∈ Happening.events (p.drafted request script), e.Uncounted := by
  rw [drafted, Happening.events_logged, List.forall_mem_cons]
  exact ⟨⟨⟨rfl, rfl⟩, rfl, rfl⟩, fun e he => Event.uncounted_of_other
    (Model.complete_aside p.timeout (p.firstCall request) script e he)⟩

/-- **The counters of rounds.** Rounds count right from where they start. -/
theorem rounds_counts (repairer : Repairer ρ) (request : Request) (s : State (ρ × List Repair)) :
    ∀ made, s.attempts = .ofNat made →
      Counts made s.budget.used.toNat (rounds repairer.recorded request s).log := by
  -- The budget guards the rounds, so their number is exact; the number of validations is any
  -- number that looks like `made` in 32 bits.
  have hnext {attempts : UInt32} {made : Nat} (h : attempts = .ofNat made) :
      attempts + 1 = .ofNat (made + 1) := by
    rw [h, UInt32.ofNat_add]
    rfl
  induction s using rounds_induction repairer.recorded request with
  | done s plan hvalid =>
    intro made hmade
    have hdone : Counts (made + 1) s.budget.used.toNat
        [.done plan.steps.length (s.attempts + 1)] := .done (hnext hmade)
    rw [Run.log, Happening.events_logged, events_doneEvents]
    exact .validating (hnext hmade) (hdone.after (uncounted_findings request plan))
  | exhausted s ds hinvalid htake =>
    intro made hmade
    exact .validating (hnext hmade) (.exhausted (hnext hmade))
  | failed s ds round b failure repaired hinvalid htake hrepair hresult =>
    intro made hmade
    obtain ⟨-, hsilent⟩ := Repairer.recorded_spec hrepair
    rw [Run.log, hsilent]
    exact .validating (hnext hmade) (.repairingPlan (Budget.round_eq_ofNat htake) (hnext hmade) .nil)
  | goesOn s ds round b document repaired hinvalid htake hrepair hresult ih =>
    intro made hmade
    obtain ⟨-, hsilent⟩ := Repairer.recorded_spec hrepair
    have hrest := ih (made + 1) (hnext hmade)
    rw [(Budget.round_of_take htake).2] at hrest
    rw [Run.log_after, hsilent]
    exact .validating (hnext hmade) (.repairingPlan (Budget.round_eq_ofNat htake) (hnext hmade)
      (.normalizing (Budget.round_eq_ofNat htake) hrest))

/-- A recorded run counts right from the start. -/
theorem run_counts_recorded (p : Planner ρ) (request : Request) (session : Session ρ) :
    Counts 0 0 (p.recorded.run request (session.recording [])).log := by
  have hdrafted := uncounted_drafted p.recorded request session.script
  have hcourse := run_course p.recorded request (session.recording [])
  generalize p.recorded.run request (session.recording []) = r at hcourse
  cases hcourse with
  | callFailed hreceive =>
    rw [Run.log, Happening.events_append]
    exact .after hdrafted (.uncounted ⟨⟨rfl, rfl⟩, rfl, rfl⟩ .nil)
  | notJson hreceive hparse htake =>
    rw [Run.log, Happening.events_append]
    exact .after hdrafted (.parsing (.uncounted ⟨⟨rfl, rfl⟩, rfl, rfl⟩ .nil))
  | textFailed hreceive hparse htake hrepair hresult =>
    obtain ⟨-, hsilent⟩ := Repairer.recorded_spec hrepair
    rw [Run.log, Happening.events_append, hsilent]
    exact .after hdrafted (.parsing (.repairingText (Budget.round_eq_ofNat htake) .nil))
  | @parsed text value hreceive hparse =>
    have hrounds := rounds_counts p.repairer (request.clamp p.ceiling)
      ⟨.fresh p.budget, 0, Draft.normalize value, ⟨session.script.next.2, session.memory, []⟩⟩ 0 rfl
    rw [Run.log_after, Happening.events_append, List.append_assoc]
    exact .after hdrafted (.parsing (.start hrounds))
  | @textRepaired text error round b value repaired hreceive hparse htake hrepair hresult =>
    obtain ⟨-, hsilent⟩ := Repairer.recorded_spec hrepair
    have hrounds := rounds_counts p.repairer (request.clamp p.ceiling)
      ⟨b, 0, Draft.normalize value, repaired.session⟩ 0 rfl
    rw [(Budget.round_of_take htake).2] at hrounds
    rw [Run.log_after, Happening.events_append, List.append_assoc, hsilent]
    exact .after hdrafted
      (.parsing (.repairingText (Budget.round_eq_ofNat htake) (.start hrounds)))

/-- In a recorded run, every call of the repairer is counted. -/
theorem count_repairs_run (p : Planner ρ) (request : Request) (session : Session ρ) :
    let r := p.recorded.run request (session.recording [])
    Counter.repairs.count r.log = r.repairs.length := by
  intro r
  have hlength : r.repairs.length = (r.states.filterMap Event.round?).length :=
    length_repairs_run p request session
  rw [hlength, Run.states, Happening.states, List.filterMap_filter, List.length_filterMap_eq_countP]
  refine List.countP_congr fun e _ => ?_
  cases e <;> rfl

/-- The validations that are counted are the validations. -/
theorem count_validations (hs : List Happening) :
    Counter.validations.count (Happening.events hs) = Happening.validations hs := by
  rw [Counter.count, Happening.events, List.countP_filterMap]
  refine List.countP_congr fun happening _ => ?_
  cases happening with
  | called call => rfl
  | repairAsked document defect => rfl
  | logged e => cases e <;> rfl

/-! ## True numbers -/

/-- What a run tells of its counters is true. There are no more rounds of repair than its budget,
and every number that is told of them is the number of rounds so far. There is at most one
validation more, and none more if the first reply was not JSON; every number that is told of them is
the number of validations so far if that is a number of 32 bits. -/
structure Counted (p : Planner ρ) (script : Model.Script) (r : Run ρ) : Prop where
  repairs_le : Counter.repairs.count r.log ≤ p.budget.toNat
  repairs : ∀ before e after told, r.log = before ++ e :: after →
    Counter.repairs.told? e = some told → told.toNat = Counter.repairs.count (before ++ [e])
  validations_le : Counter.validations.count r.log ≤
    if p.firstIsJson script then p.budget.toNat + 1 else p.budget.toNat
  validations : ∀ before e after told, r.log = before ++ e :: after →
    Counter.validations.told? e = some told →
    Counter.validations.count (before ++ [e]) < UInt32.size →
    told.toNat = Counter.validations.count (before ++ [e])

/-- A number in 32 bits that fits in them is the number. -/
theorem toNat_of_eq_ofNat {told : UInt32} {n : Nat} (h : told = .ofNat (0 + n))
    (hn : n < UInt32.size) : told.toNat = n := by
  rw [h, Nat.zero_add, UInt32.toNat_ofNat_of_lt' hn]

/-- A run tells what is true if its counters tell the number of the events that they count and
their bounds are kept. -/
theorem Counted.of_tellsFrom {p : Planner ρ} {script : Model.Script} {r : Run ρ}
    (hrepairs : Counter.repairs.TellsFrom 0 r.log)
    (hvalidations : Counter.validations.TellsFrom 0 r.log)
    (hrepairs_le : Counter.repairs.count r.log ≤ p.budget.toNat)
    (hvalidations_le : Counter.validations.count r.log ≤
      if p.firstIsJson script then p.budget.toNat + 1 else p.budget.toNat) :
    p.Counted script r where
  repairs_le := hrepairs_le
  repairs before e after told hlog htold := by
    have hpart : Counter.repairs.count (before ++ [e]) ≤ Counter.repairs.count r.log := by
      rw [hlog]
      exact List.Sublist.countP_le (by simp)
    have hsize : p.budget.toNat < UInt32.size := p.budget.toNat_lt
    exact toNat_of_eq_ofNat (hrepairs.eq_ofNat hlog htold) (by omega)
  validations_le := hvalidations_le
  validations before e after told hlog htold :=
    toNat_of_eq_ofNat (hvalidations.eq_ofNat hlog htold)

/-- A recorded run has the events of the planner if the repairer is discreet. -/
theorem ofPlanner_recorded {p : Planner ρ} (hdiscreet : p.repairer.Discreet) (request : Request)
    (session : Session ρ) :
    (p.recorded.run request (session.recording [])).log.filter Event.ofPlanner =
      (p.run request session).log.filter Event.ofPlanner := by
  refine filter_recorded (fun document defect session => ?_) request session
  refine List.filter_eq_nil_iff.2 fun e he => ?_
  rw [hdiscreet document defect session e he]
  exact Bool.false_ne_true

/-- What a counter tells that ignores all but the planner's events is the same of a run as of the
recorded run, if the repairer is discreet. -/
theorem counter_of_discreet {p : Planner ρ} (hdiscreet : p.repairer.Discreet) (request : Request)
    (session : Session ρ) {c : Counter} (hignores : ∀ e, e.ofPlanner = false → c.Ignores e) :
    c.count (p.run request session).log =
        c.count (p.recorded.run request (session.recording [])).log ∧
      (c.TellsFrom 0 (p.recorded.run request (session.recording [])).log →
        c.TellsFrom 0 (p.run request session).log) := by
  have hplanner := ofPlanner_recorded hdiscreet request session
  constructor
  · rw [← Counter.count_filter hignores, ← hplanner, Counter.count_filter hignores]
  · intro htells
    rwa [← Counter.tellsFrom_filter hignores, hplanner, Counter.tellsFrom_filter hignores]
      at htells

/-- A budget that is spent with every repair is told in the log of the recorded run. -/
theorem exhausted_mem_log {p : Planner ρ} {request : Request} {session : Session ρ}
    {attempts : UInt32} {error : String}
    (hresult : (p.run request session).result = .error (.exhausted attempts error))
    (hall : ∀ repair ∈ (p.recorded.run request (session.recording [])).repairs,
      repair.Succeeded) :
    .exhausted attempts error ∈ (p.recorded.run request (session.recording [])).log := by
  have hwarns := run_warns_recorded p request session
  dsimp only at hwarns
  rw [(run_records p request session []).result, hresult] at hwarns
  obtain ⟨e, hmem, hwarning⟩ := hwarns.mem_iff.2 hall
  cases hwarning
  exact (Run.mem_warned_iff.1 hmem).1

/-- **The counters of a run.** What a run tells of its counters is true, whatever its budget and
whoever repairs, and all calls of the repairer are counted. The number of validations fits in 32
bits unless the budget is the greatest one and the first reply was JSON. A spent budget is reported
with the number of all validations if that fits in 32 bits and no repair failed; a failed repair is
passed on with what it reports. If the repairer leaves the events of the planner to the planner,
this holds of the whole log of the run, whatever else the repairer notes. Reference: the counters in
the log lines and in the errors of `PlanOrchestrator.run`. -/
theorem run_counts (p : Planner ρ) (request : Request) (session : Session ρ) :
    let r := p.recorded.run request (session.recording [])
    r.Records (p.run request session) ∧
    p.recorded.Counted session.script r ∧
    Counter.repairs.count r.log = r.repairs.length ∧
    (p.budget.toNat + 1 < UInt32.size ∨ p.firstIsJson session.script = false →
      Counter.validations.count r.log < UInt32.size) ∧
    (∀ attempts error, (p.run request session).result = .error (.exhausted attempts error) →
      (∀ repair ∈ r.repairs, repair.Succeeded) →
      Counter.validations.count r.log < UInt32.size →
      attempts.toNat = Counter.validations.count r.log) ∧
    (∀ repair ∈ r.repairs, ∀ failure, repair.answer = .error failure →
      (p.run request session).result = .error failure) ∧
    (p.repairer.Discreet → p.Counted session.script (p.run request session) ∧
      ∀ c ∈ [Counter.repairs, Counter.validations],
        c.count (p.run request session).log = c.count r.log) := by
  intro r
  have hrecords : r.Records (p.run request session) := run_records p request session []
  have hcounts : Counts 0 0 r.log := run_counts_recorded p request session
  have hrepairs : Counter.repairs.count r.log = r.repairs.length :=
    count_repairs_run p request session
  have haccount := run_accounts_by_first (p := p.recorded) rfl request
    (show (session.recording []).memory.2 = [] from rfl)
  have hrepairs_le : Counter.repairs.count r.log ≤ p.budget.toNat :=
    hrepairs.trans_le haccount.repairs_le
  have hvalidations_le : Counter.validations.count r.log ≤
      if p.firstIsJson session.script then p.budget.toNat + 1 else p.budget.toNat := by
    rw [Run.log, count_validations]
    exact haccount.validations_le
  refine ⟨hrecords, .of_tellsFrom hcounts.tellsFrom.1 hcounts.tellsFrom.2 hrepairs_le
    hvalidations_le, hrepairs, ?_, ?_, ?_, ?_⟩
  · have hsize : p.budget.toNat < UInt32.size := p.budget.toNat_lt
    rintro (hbudget | hfirst)
    · split at hvalidations_le <;> omega
    · rw [hfirst] at hvalidations_le
      exact Nat.lt_of_le_of_lt hvalidations_le hsize
  · intro attempts error hresult hall
    exact toNat_of_eq_ofNat (hcounts.eq_of_exhausted (exhausted_mem_log hresult hall))
  · intro repair hmem failure hfailed
    obtain ⟨i, hi⟩ := List.mem_iff_getElem?.1 hmem
    rw [← hrecords.result]
    exact (haccount.failed i repair failure hi hfailed).2
  · intro hdiscreet
    obtain ⟨hrepairs', htoldRepairs⟩ := counter_of_discreet hdiscreet request session
      fun e he => (Event.uncounted_of_other he).1
    obtain ⟨hvalidations', htoldValidations⟩ := counter_of_discreet hdiscreet request session
      fun e he => (Event.uncounted_of_other he).2
    refine ⟨.of_tellsFrom (htoldRepairs hcounts.tellsFrom.1) (htoldValidations hcounts.tellsFrom.2)
      (hrepairs'.trans_le hrepairs_le) (hvalidations'.trans_le hvalidations_le), ?_⟩
    rw [List.forall_mem_cons, List.forall_mem_singleton]
    exact ⟨hrepairs', hvalidations'⟩

/-! ## Where the count ends -/

section
variable {timeout : Nat} {text : String} {value : Json}
  (hreceive : Model.receive timeout (.ofText text) = .ok text)
  (hparse : Extract.value text = .ok value)
include hreceive hparse

/-- A repair by a model that repeats itself gives the same value, and leaves one text less. -/
theorem repaired_of_stubborn {document defect : String} {session : Session Unit} {left : Nat}
    (hscript : session.script = List.replicate (left + 1) (.ofText text)) {repaired : Repaired Unit}
    (hrepair : Repairer.model timeout document defect session = repaired) :
    repaired.result = .ok value ∧
      repaired.session.script = List.replicate left (.ofText text) := by
  subst hrepair
  have hnext : session.script.next = (.ofText text, List.replicate left (.ofText text)) := by
    rw [hscript]
    rfl
  have hfirst : Model.receive timeout session.script.next.1 = .ok text := by
    rw [hnext]
    exact hreceive
  rw [Repairer.model_session, hnext]
  refine ⟨?_, rfl⟩
  simp only [Repairer.model, Model.complete_result_of_text hfirst, Repairer.ofText_of_ok hparse]

/-- Rounds with a model that repeats a draft that is no plan: there is one validation more than
there are rounds, and the number that is reported is right in 32 bits only. -/
theorem rounds_of_stubborn {ds : List Draft.Defect}
    (hinvalid : Draft.validate (Draft.normalize value) = .error ds) (request : Request)
    (s : State Unit) : s.draft = Draft.normalize value →
      s.session.script = List.replicate s.budget.left (.ofText text) →
      let r := rounds (.model timeout) request s
      r.result =
          .error (.exhausted (s.attempts + .ofNat (s.budget.left + 1)) (Draft.report ds)) ∧
        Counter.validations.count r.log = s.budget.left + 1 := by
  induction s using rounds_induction (.model timeout) request with
  | done s plan hvalid =>
    rintro hdraft -
    rw [hdraft, hinvalid] at hvalid
    cases hvalid
  | exhausted s ds' hinvalid' htake =>
    rintro hdraft - r
    rw [hdraft, hinvalid] at hinvalid'
    cases hinvalid'
    rw [Budget.take_eq_none_iff.1 htake]
    exact ⟨rfl, rfl⟩
  | failed s ds' round b failure repaired hinvalid' htake hrepair hresult =>
    rintro - hscript
    rw [Budget.left_of_take htake] at hscript
    rw [(repaired_of_stubborn hreceive hparse hscript hrepair).1] at hresult
    cases hresult
  | goesOn s ds' round b document repaired hinvalid' htake hrepair hresult ih =>
    rintro - hscript r
    rw [Budget.left_of_take htake] at hscript
    obtain ⟨hvalue, hrest⟩ := repaired_of_stubborn hreceive hparse hscript hrepair
    rw [hvalue] at hresult
    cases hresult
    obtain ⟨hend, hcount⟩ := ih rfl hrest
    have haside : Happening.Aside repaired.transcript :=
      hrepair ▸ Repairer.model_discreet timeout _ _ _
    have hlog : r.log = .validating (s.attempts + 1) :: .repairingPlan round (s.attempts + 1) ::
        (Happening.events repaired.transcript ++ .normalizing (some round) ::
          (rounds (.model timeout) request
            ⟨b, s.attempts + 1, Draft.normalize value, repaired.session⟩).log) := by
      simp [r]
    rw [Budget.left_of_take htake, ← add_one_add_ofNat, hlog, Counter.count_cons,
      Counter.count_cons, Counter.count_noted fun e he => (Event.uncounted_of_other (haside e he)).2,
      Counter.count_cons, hcount]
    refine ⟨hend, ?_⟩
    show 1 + (0 + (0 + (b.left + 1))) = b.left + 1 + 1
    omega

/-- A run with a model that repeats a draft that is no plan: it is given up after one validation
more than there are rounds, and this is reported in 32 bits. -/
theorem run_of_stubborn {ds : List Draft.Defect}
    (hinvalid : Draft.validate (Draft.normalize value) = .error ds) {p : Planner Unit}
    (hmodel : p.repairer = .model timeout) (htimeout : p.timeout = timeout) (request : Request) :
    let r := p.run request ⟨List.replicate (p.budget.toNat + 1) (.ofText text), ()⟩
    r.result = .error (.exhausted (.ofNat (p.budget.toNat + 1)) (Draft.report ds)) ∧
      Counter.validations.count r.log = p.budget.toNat + 1 := by
  intro r
  subst htimeout
  have hfirst : Model.receive p.timeout
      (Model.Script.next (List.replicate (p.budget.toNat + 1) (.ofText text))).1 = .ok text :=
    hreceive
  obtain ⟨hend, hcount⟩ := rounds_of_stubborn hreceive hparse hinvalid (request.clamp p.ceiling)
    ⟨.fresh p.budget, 0, Draft.normalize value,
      ⟨List.replicate p.budget.toNat (.ofText text), ()⟩⟩ rfl rfl
  have hrun : r = (rounds (.model p.timeout) (request.clamp p.ceiling)
      ⟨.fresh p.budget, 0, Draft.normalize value,
        ⟨List.replicate p.budget.toNat (.ofText text), ()⟩⟩).after
      (p.drafted request (List.replicate (p.budget.toNat + 1) (.ofText text)) ++
        [.logged (.parsing text.utf8ByteSize), .logged (.normalizing none)]) := by
    simp only [r]
    rw [run_of_text hfirst, read_of_json hparse, start, hmodel, Run.after_after, List.append_assoc]
    rfl
  rw [hrun, Run.log_after, Happening.events_append, List.append_assoc,
    Counter.count_noted fun e he => (uncounted_drafted _ _ _ e he).2]
  rw [UInt32.zero_add] at hend
  exact ⟨hend, hcount⟩

end

/-- What is reported need not be the number of validations. A repair can fail with a spent budget of
its own, and its number is passed on, here 7 after one validation. And settings can ask for so many
rounds that there is one validation more than 32 bits can count, which is reported as none. -/
theorem attempts_misreported :
    let noPlan := "\x7b\"rationale\":null\x7d"
    let p : Planner (List (Except Failure Json)) := ⟨20000, 8, 2, .scripted⟩
    let r := p.run (.ofPrompt "x") ⟨[.ofText noPlan], [.error (.exhausted 7 "gone")]⟩
    let vars : Settings.Variables := fun name =>
      [("LLM_API_KEY", "gsk-1"), ("PLANNER_REPAIR_ATTEMPTS", "4294967295")].lookup name
    (r.result = .error (.exhausted 7 "gone") ∧ Counter.validations.count r.log = 1) ∧
    ∃ (s : Settings) (error : String), Settings.ofVariables vars = .ok s ∧
      let t := s.planner.run (.ofPrompt "x") ⟨List.replicate UInt32.size (.ofText noPlan), ()⟩
      t.result = .error (.exhausted 0 error) ∧ Counter.validations.count t.log = UInt32.size := by
  intro noPlan p r vars
  refine ⟨⟨Run.failure?_eq_some_iff.1 (by decide +kernel), by decide +kernel⟩, ?_⟩
  let s : Settings := { Settings.withKey "gsk-1" with repairAttempts := 4294967295 }
  have hs : Settings.ofVariables vars = .ok s := by decide +kernel
  have hreceive : Model.receive s.planner.timeout (.ofText noPlan) = .ok noPlan := by
    decide +kernel
  have hparse : Extract.value noPlan = .ok (.obj [("rationale", .null)]) := by decide +kernel
  have hdefects : Draft.defects (Draft.normalize (.obj [("rationale", .null)])) =
      [⟨[.key "rationale"], .notText⟩] := by
    decide +kernel
  have hinvalid : Draft.validate (Draft.normalize (.obj [("rationale", .null)])) =
      .error [⟨[.key "rationale"], .notText⟩] := by
    rw [Draft.validate, hdefects]
  obtain ⟨hresult, hcount⟩ := run_of_stubborn (p := s.planner) hreceive hparse hinvalid rfl rfl
    (.ofPrompt "x")
  have hbudget : s.planner.budget.toNat + 1 = UInt32.size := by decide
  have hwrapped : UInt32.ofNat UInt32.size = 0 := by decide
  rw [hbudget] at hresult hcount
  rw [hwrapped] at hresult
  exact ⟨s, _, hs, hresult, hcount⟩

end Planner

end AgentPlan
