import AgentPlan.Proofs.Planner.Repairs
import Mathlib.Data.List.Chain

/-!
# The log of a run

What a planner notes in a run follows its states. The log starts with `drafting`; every state leads
to the next one as in the diagram of the planner (`Event.LeadsTo`); the validations and the rounds
of repair are numbered from one, without a gap; and the log ends with the findings about the plan
and `done` if there is a plan, and has neither of them otherwise (`Run.Closes`). `Protocol` is all
of this, and `run_protocol` proves it of every run.

What is noted by others, the model and the repairer, stands in the same log. It disturbs nothing as
long as they leave the events of the planner to the planner (`Happening.Aside`,
`Repairer.Discreet`).
-/

namespace AgentPlan

variable {ρ : Type}

/-! ## Kinds of events -/

namespace Event

/-- The event is noted by a planner, and by nobody else. -/
def ofPlanner : Event → Bool
  | .repairReceived _ | .thinkingUsed _ | .requested .. | .refused ..
  | .completionReceived .. => false
  | _ => true

/-- The event marks a state of a run. Both kinds of repair are the state of repairing. -/
def isState : Event → Bool
  | .drafting .. | .parsing _ | .normalizing _ | .validating _ | .done ..
  | .repairingText .. | .repairingPlan .. => true
  | _ => false

/-- The length of the text that is parsed. -/
def parsed? : Event → Option Nat
  | .parsing length => some length
  | _ => none

/-- The number of a validation. -/
def attempt? : Event → Option UInt32
  | .validating attempt => some attempt
  | _ => none

/-- The number of a round of repair. -/
def round? : Event → Option UInt32
  | .repairingText round _ | .repairingPlan round _ => some round
  | _ => none

/-- The event is about a plan that was found. -/
def isClosing : Event → Bool
  | .finding _ | .done .. => true
  | _ => false

/-- The state of an event leads to that of another one. -/
inductive LeadsTo : Event → Event → Prop
  | drafted {wanted limit : UInt32} {length : Nat} :
      LeadsTo (.drafting wanted limit) (.parsing length)
  | parsed {length : Nat} : LeadsTo (.parsing length) (.normalizing none)
  | unreadable {length : Nat} {round : UInt32} {defect : String} :
      LeadsTo (.parsing length) (.repairingText round defect)
  | textRepaired {round : UInt32} {defect : String} :
      LeadsTo (.repairingText round defect) (.normalizing none)
  | normalized {round : Option UInt32} {attempt : UInt32} :
      LeadsTo (.normalizing round) (.validating attempt)
  | invalid {round attempt : UInt32} :
      LeadsTo (.validating attempt) (.repairingPlan round attempt)
  | planRepaired {round attempt : UInt32} :
      LeadsTo (.repairingPlan round attempt) (.normalizing (some round))
  | valid {steps : Nat} {attempt : UInt32} : LeadsTo (.validating attempt) (.done steps attempt)

end Event

/-- The states that are noted among some happenings. -/
def Happening.states (hs : List Happening) : List Event :=
  (events hs).filter Event.isState

/-- States are noted part by part. -/
@[simp] theorem Happening.states_append (hs hs' : List Happening) :
    states (hs ++ hs') = states hs ++ states hs' := by
  rw [states, events_append, List.filter_append]
  rfl

/-- A state comes before the states that are noted after it. -/
theorem Happening.states_logged {e : Event} (he : e.isState = true) (hs : List Happening) :
    states (.logged e :: hs) = e :: states hs :=
  List.filter_cons_of_pos he

/-- Among some happenings, no event is one of a planner. -/
def Happening.Aside (hs : List Happening) : Prop :=
  ∀ e ∈ events hs, e.ofPlanner = false

namespace Happening.Aside

variable {hs : List Happening} (h : Aside hs)
include h

/-- What is noted aside marks no state. -/
theorem states_eq_nil : states hs = [] :=
  List.filter_eq_nil_iff.2 fun e he => by
    have hother := h e he
    cases e <;> cases hother <;> nofun

/-- What is noted aside tells nothing of a plan that was found. -/
theorem isClosing_eq_false {e : Event} (he : e ∈ events hs) : e.isClosing = false := by
  have hother := h e he
  cases e <;> cases hother <;> rfl

/-- Of a repair, and of what comes after it, the states are the one that asks for it, the one before
it and those after it. -/
theorem states_repair {before asked : Event} (hbefore : before.isState = true)
    (hasked : asked.isState = true) (after : List Happening) :
    states (.logged before :: .logged asked :: (hs ++ after)) = before :: asked :: states after := by
  rw [states_logged hbefore, states_logged hasked, states_append, h.states_eq_nil, List.nil_append]

/-- A repair tells nothing of a plan that was found, if what comes after it does not. -/
theorem isClosing_repair {before asked : Event} (hbefore : before.isClosing = false)
    (hasked : asked.isClosing = false) {after : List Happening}
    (hafter : ∀ e ∈ events after, e.isClosing = false) :
    ∀ e ∈ events (.logged before :: .logged asked :: (hs ++ after)), e.isClosing = false := by
  rw [events_logged, events_logged, events_append, List.forall_mem_cons, List.forall_mem_cons,
    List.forall_mem_append]
  exact ⟨hbefore, hasked, fun e he => h.isClosing_eq_false he, hafter⟩

end Happening.Aside

/-- What is noted when the model is called is not of the planner. -/
theorem Model.complete_aside (timeout : Nat) (call : Call) (script : Script) :
    Happening.Aside (complete timeout call script).transcript := by
  intro e he
  simp only [complete, Happening.events_called, Happening.events_map_logged, receiveEvents] at he
  split at he
  · cases he
  · split at he
    · split at he
      · cases List.mem_singleton.1 he
        rfl
      · cases he
    · cases he

/-- A repairer that leaves the events of a planner to the planner. -/
def Repairer.Discreet (repairer : Repairer ρ) : Prop :=
  ∀ document defect session, Happening.Aside (repairer document defect session).transcript

/-- The model as a repairer is discreet. -/
theorem Repairer.model_discreet (timeout : Nat) : (model timeout).Discreet := by
  intro document defect session e he
  have hcall := Model.complete_aside timeout
    ⟨Prompt.repairInstruction, Prompt.repair document defect⟩ session.script
  simp only [model] at he
  split at he
  · exact hcall e he
  · rw [Happening.events_append, List.mem_append] at he
    cases he with
    | inl he => exact hcall e he
    | inr he =>
      cases List.mem_singleton.1 he
      rfl

/-- A recorded repairer is discreet, whatever the repairer notes. -/
theorem Repairer.recorded_discreet (repairer : Repairer ρ) : repairer.recorded.Discreet :=
  fun _ _ _ _ he => nomatch he

/-! ## The end of a log -/

namespace Run

/-- The log of a run. -/
def log (r : Run ρ) : List Event :=
  Happening.events r.transcript

/-- The states of a run. -/
def states (r : Run ρ) : List Event :=
  Happening.states r.transcript

/-- The events that were noted before a run come first in its log. -/
@[simp] theorem log_after (before : List Happening) (r : Run ρ) :
    (r.after before).log = Happening.events before ++ r.log :=
  Happening.events_append before r.transcript

/-- The states that were entered before a run come first among its states. -/
@[simp] theorem states_after (before : List Happening) (r : Run ρ) :
    (r.after before).states = Happening.states before ++ r.states :=
  Happening.states_append before r.transcript

/-- The end of the log of a run with `attempts` validations. With a plan, the last events are the
findings about it and `done`, with the number of its steps and of the validations. There are no
other events of this kind. -/
structure Closes (request : Request) (attempts : Nat) (r : Run ρ) : Prop where
  done : ∀ plan, r.result = .ok plan → ∃ before attempt,
    r.log = before ++ ((plan.audit request).map .finding ++ [.done plan.steps.length attempt]) ∧
      attempt.toNat = attempts ∧ ∀ e ∈ before, e.isClosing = false
  failed : ∀ failure, r.result = .error failure → ∀ e ∈ r.log, e.isClosing = false

namespace Closes

variable {request : Request} {attempts : Nat}

/-- A run that fails and tells nothing of a plan. -/
theorem of_error {failure : Failure} {session : Session ρ} {transcript : List Happening}
    (h : ∀ e ∈ Happening.events transcript, e.isClosing = false) :
    Closes request attempts ⟨.error failure, session, transcript⟩ :=
  ⟨nofun, fun _ _ => h⟩

/-- What happened before a run and tells nothing of a plan does not change the end. -/
theorem after {r : Run ρ} (h : r.Closes request attempts) {happened : List Happening}
    (hquiet : ∀ e ∈ Happening.events happened, e.isClosing = false) :
    (r.after happened).Closes request attempts where
  done plan hplan := by
    obtain ⟨before, attempt, hlog, hattempt, hbefore⟩ := h.done plan hplan
    refine ⟨Happening.events happened ++ before, attempt, ?_, hattempt, ?_⟩
    · rw [log_after, hlog, List.append_assoc]
    · rw [List.forall_mem_append]
      exact ⟨hquiet, hbefore⟩
  failed failure hfailure := by
    rw [log_after, List.forall_mem_append]
    exact ⟨hquiet, h.failed failure hfailure⟩

end Closes

end Run

/-! ## The log of rounds -/

/-- The round that is taken is the next one. -/
theorem Budget.round_of_take {b b' : Budget} {round : UInt32} (h : b.take = some (round, b')) :
    round.toNat = b.used.toNat + 1 ∧ b'.used.toNat = b.used.toNat + 1 := by
  unfold take at h
  split at h
  · next hlt =>
    cases h
    have hlt := UInt32.lt_iff_toNat_lt.1 hlt
    have hsize := b.total.toNat_lt
    simp only [UInt32.toNat_add, UInt32.toNat_one]
    omega
  · cases h

/-- The numbers go on by one after the number `before`. -/
def Numbered (before : Nat) (ns : List UInt32) : Prop :=
  ns.map UInt32.toNat = List.range' (before + 1) ns.length

/-- The next number comes before those that go on after it. -/
theorem Numbered.cons {before : Nat} {n : UInt32} {ns : List UInt32} (hn : n.toNat = before + 1)
    (h : Numbered (before + 1) ns) : Numbered before (n :: ns) := by
  rw [Numbered] at h
  rw [Numbered, List.map_cons, hn, h]
  rfl

/-- The states of rounds that come after a state of normalizing, `made` validations and `used`
rounds of repair. -/
structure RoundStates (made used : Nat) (states : List Event) : Prop where
  chain : ∀ round, (Event.normalizing round :: states).IsChain Event.LeadsTo
  parsed : states.filterMap Event.parsed? = []
  attempts : Numbered made (states.filterMap Event.attempt?)
  rounds : Numbered used (states.filterMap Event.round?)
  pairs : ∀ round attempt, .repairingPlan round attempt ∈ states →
    round.toNat + made = attempt.toNat + used

namespace RoundStates

variable {made used : Nat} {attempt : UInt32} (hattempt : attempt.toNat = made + 1)
include hattempt

/-- A validation that is the last state. -/
theorem last : RoundStates made used [.validating attempt] where
  chain round := .cons_cons .normalized (.singleton _)
  parsed := rfl
  attempts := .cons hattempt rfl
  rounds := rfl
  pairs := by simp

/-- A validation that finds a plan. -/
theorem done (steps : Nat) : RoundStates made used [.validating attempt, .done steps attempt] where
  chain round := .cons_cons .normalized (.cons_cons .valid (.singleton _))
  parsed := rfl
  attempts := .cons hattempt rfl
  rounds := rfl
  pairs := by simp

variable {round : UInt32} (hround : round.toNat = used + 1)
include hround

/-- A validation and a repair that is the last state. -/
theorem repair : RoundStates made used [.validating attempt, .repairingPlan round attempt] where
  chain _ := .cons_cons .normalized (.cons_cons .invalid (.singleton _))
  parsed := rfl
  attempts := .cons hattempt rfl
  rounds := .cons hround rfl
  pairs round' attempt' hmem := by
    simp only [List.mem_cons, reduceCtorEq, false_or, Event.repairingPlan.injEq, List.not_mem_nil,
      or_false] at hmem
    obtain ⟨rfl, rfl⟩ := hmem
    omega

/-- A validation and a repair that lead to the next validation. -/
theorem cycle {states : List Event} (h : RoundStates (made + 1) (used + 1) states) :
    RoundStates made used (.validating attempt :: .repairingPlan round attempt ::
      .normalizing (some round) :: states) where
  chain _ := .cons_cons .normalized (.cons_cons .invalid (.cons_cons .planRepaired (h.chain _)))
  parsed := h.parsed
  attempts := .cons hattempt h.attempts
  rounds := .cons hround h.rounds
  pairs round' attempt' hmem := by
    simp only [List.mem_cons, reduceCtorEq, false_or, Event.repairingPlan.injEq] at hmem
    obtain ⟨rfl, rfl⟩ | hmem := hmem
    · omega
    · have := h.pairs round' attempt' hmem
      omega

end RoundStates

namespace Planner

/-- The events about a plan that is found. -/
@[simp] theorem events_doneEvents (request : Request) (plan : Plan) (attempt : UInt32) :
    Happening.events (doneEvents request plan attempt) =
      (plan.audit request).map .finding ++ [.done plan.steps.length attempt] := by
  have haudit := Happening.events_map_logged ((plan.audit request).map .finding)
  rw [List.map_map] at haudit
  rw [doneEvents, Happening.events_append]
  exact congrArg (· ++ _) haudit

/-- The state about a plan that is found. -/
@[simp] theorem states_doneEvents (request : Request) (plan : Plan) (attempt : UInt32) :
    Happening.states (doneEvents request plan attempt) = [.done plan.steps.length attempt] := by
  have hfindings : ((plan.audit request).map Event.finding).filter Event.isState = [] :=
    List.filter_eq_nil_iff.2 (List.forall_mem_map.2 fun _ _ => nofun)
  rw [Happening.states, events_doneEvents, List.filter_append, hfindings]
  rfl

/-- A validation more is counted as long as it can be. -/
theorem toNat_add_one {attempts : UInt32} (h : attempts.toNat + 1 < UInt32.size) :
    (attempts + 1).toNat = attempts.toNat + 1 := by
  rw [UInt32.toNat_add]
  exact Nat.mod_eq_of_lt h

/-- **The log of rounds.** Their states follow the diagram, with the numbers that come next, and
the log is closed by the plan if there is one. -/
theorem rounds_log {repairer : Repairer ρ} (hdiscreet : repairer.Discreet) (request : Request)
    (s : State ρ) : s.attempts.toNat + s.budget.left + 1 < UInt32.size →
      let r := rounds repairer request s
      RoundStates s.attempts.toNat s.budget.used.toNat r.states ∧
        r.Closes request (s.attempts.toNat + (r.states.filterMap Event.attempt?).length) := by
  -- The bound is on the validations that are made and those that can still come: a round changes
  -- one of the latter into one of the former, so the count never wraps around.
  induction s using rounds_induction repairer request with
  | done s plan hvalid =>
    intro hsize r
    have hattempt : (s.attempts + 1).toNat = s.attempts.toNat + 1 := toNat_add_one (by omega)
    have hstates : r.states = [.validating (s.attempts + 1),
        .done plan.steps.length (s.attempts + 1)] := by
      simp only [r, Run.states]
      rw [Happening.states_logged rfl, states_doneEvents]
    rw [hstates]
    refine ⟨.done hattempt _, ?_, nofun⟩
    rintro _ ⟨⟩
    refine ⟨[.validating (s.attempts + 1)], s.attempts + 1, ?_, hattempt, ?_⟩
    · simp [r, Run.log]
    · simp [Event.isClosing]
  | exhausted s ds hinvalid htake =>
    intro hsize r
    exact ⟨.last (toNat_add_one (by omega)), .of_error (by simp [Event.isClosing])⟩
  | failed s ds round b failure repaired hinvalid htake hrepair hresult =>
    intro hsize r
    have haside : Happening.Aside repaired.transcript := hrepair ▸ hdiscreet _ _ _
    have hattempt : (s.attempts + 1).toNat = s.attempts.toNat + 1 := toNat_add_one (by omega)
    have hstates : r.states = [.validating (s.attempts + 1),
        .repairingPlan round (s.attempts + 1)] := by
      simp only [r, Run.states]
      rw [← List.append_nil repaired.transcript, haside.states_repair rfl rfl]
      rfl
    rw [hstates]
    refine ⟨.repair hattempt (Budget.round_of_take htake).1, .of_error ?_⟩
    rw [← List.append_nil repaired.transcript]
    exact haside.isClosing_repair rfl rfl nofun
  | goesOn s ds round b document repaired hinvalid htake hrepair hresult ih =>
    intro hsize r
    have haside : Happening.Aside repaired.transcript := hrepair ▸ hdiscreet _ _ _
    have hattempt : (s.attempts + 1).toNat = s.attempts.toNat + 1 := toNat_add_one (by omega)
    obtain ⟨hround, hused⟩ := Budget.round_of_take htake
    have hleft := Budget.left_of_take htake
    obtain ⟨hrest, hcloses⟩ := ih (by dsimp only; omega)
    have hstates : r.states = .validating (s.attempts + 1) ::
        .repairingPlan round (s.attempts + 1) :: .normalizing (some round) ::
          (rounds repairer request
            ⟨b, s.attempts + 1, Draft.normalize document, repaired.session⟩).states := by
      simp only [r, Run.states_after]
      rw [haside.states_repair rfl rfl]
      rfl
    dsimp only at hrest hcloses
    rw [hattempt, hused] at hrest
    rw [hstates]
    refine ⟨hrest.cycle hattempt hround, ?_⟩
    rw [hattempt, Nat.add_assoc, Nat.add_comm 1] at hcloses
    exact hcloses.after (haside.isClosing_repair rfl rfl (by simp [Event.isClosing]))

/-! ## The log of a run -/

/-- The states of a run after the drafting, with the lengths of the texts that are parsed. The
rounds of repair are `ahead` of the validations. -/
structure RunStates (lengths : List Nat) (ahead : Nat) (states : List Event) : Prop where
  chain : ∀ wanted limit, (Event.drafting wanted limit :: states).IsChain Event.LeadsTo
  parsed : states.filterMap Event.parsed? = lengths
  attempts : Numbered 0 (states.filterMap Event.attempt?)
  rounds : Numbered 0 (states.filterMap Event.round?)
  pairs : ∀ round attempt, .repairingPlan round attempt ∈ states →
    round.toNat = attempt.toNat + ahead

namespace RunStates

variable {ahead length : Nat} {round : UInt32} {defect : String} {states : List Event}

/-- Nothing is parsed. -/
theorem nil : RunStates [] ahead [] where
  chain _ _ := .singleton _
  parsed := rfl
  attempts := rfl
  rounds := rfl
  pairs := nofun

/-- A text is parsed, and that is all. -/
theorem parsing : RunStates [length] ahead [.parsing length] where
  chain _ _ := .cons_cons .drafted (.singleton _)
  parsed := rfl
  attempts := rfl
  rounds := rfl
  pairs := by simp

/-- A text that is no JSON is repaired, and that is all. -/
theorem repairing (hround : round.toNat = 1) :
    RunStates [length] ahead [.parsing length, .repairingText round defect] where
  chain _ _ := .cons_cons .drafted (.cons_cons .unreadable (.singleton _))
  parsed := rfl
  attempts := rfl
  rounds := .cons hround rfl
  pairs := by simp

/-- A text that is JSON leads to rounds. -/
theorem read (h : RoundStates 0 0 states) :
    RunStates [length] 0 (.parsing length :: .normalizing none :: states) where
  chain _ _ := .cons_cons .drafted (.cons_cons .parsed (h.chain none))
  parsed := congrArg (length :: ·) h.parsed
  attempts := h.attempts
  rounds := h.rounds
  pairs round attempt hmem := by
    simp only [List.mem_cons, reduceCtorEq, false_or] at hmem
    exact h.pairs round attempt hmem

/-- A text that is no JSON leads to its repair, and then to rounds. -/
theorem repaired (hround : round.toNat = 1) (h : RoundStates 0 1 states) :
    RunStates [length] 1
      (.parsing length :: .repairingText round defect :: .normalizing none :: states) where
  chain _ _ :=
    .cons_cons .drafted (.cons_cons .unreadable (.cons_cons .textRepaired (h.chain none)))
  parsed := congrArg (length :: ·) h.parsed
  attempts := h.attempts
  rounds := .cons hround h.rounds
  pairs round attempt hmem := by
    simp only [List.mem_cons, reduceCtorEq, false_or] at hmem
    exact h.pairs round attempt hmem

end RunStates

/-- What a log is like in a run for a request on a script, with a number of calls of the repairer.
It starts with `drafting`, its states follow the diagram, and each state of validating comes right
after its own state of normalizing. The text of the first reply is parsed once if there is one,
after the call. Validations and rounds of repair are numbered from one without a gap, and there are
as many rounds as calls of the repairer; a round after a validation has its number, or the next one
if the first text was no JSON. The plan closes the log. -/
structure Protocol (p : Planner ρ) (request : Request) (script : Model.Script) (repairs : Nat)
    (r : Run ρ) : Prop where
  starts : r.log.head? = some (.drafting request.maxSteps (request.clamp p.ceiling).maxSteps)
  chain : r.states.IsChain Event.LeadsTo
  normalized : ∀ before attempt after, r.states = before ++ .validating attempt :: after →
    ∃ earlier round, before = earlier ++ [.normalizing round]
  parsed : r.states.filterMap Event.parsed? =
    ((Model.receive p.timeout script.next.1).map String.utf8ByteSize).toOption.toList
  called : ∀ before length after, r.transcript = before ++ .logged (.parsing length) :: after →
    .called (p.firstCall request) ∈ before
  attempts : (r.states.filterMap Event.attempt?).map UInt32.toNat =
    List.range' 1 (r.states.filterMap Event.attempt?).length
  rounds : (r.states.filterMap Event.round?).map UInt32.toNat = List.range' 1 repairs
  pairs : ∀ round attempt, .repairingPlan round attempt ∈ r.states →
    round.toNat = if p.firstIsJson script then attempt.toNat else attempt.toNat + 1
  closes : r.Closes (request.clamp p.ceiling) (r.states.filterMap Event.attempt?).length

section
variable {p : Planner ρ} {request : Request} {script : Model.Script}

/-- What is noted before the first reply is read. -/
theorem events_drafted : Happening.events (p.drafted request script) =
    .drafting request.maxSteps (request.clamp p.ceiling).maxSteps ::
      Model.receiveEvents p.timeout script.next.1 := by
  simp [drafted, Model.complete]

/-- Before the first reply is read, a run is drafting. -/
@[simp] theorem states_drafted : Happening.states (p.drafted request script) =
    [.drafting request.maxSteps (request.clamp p.ceiling).maxSteps] := by
  rw [drafted, Happening.states_logged rfl,
    (Model.complete_aside p.timeout (p.firstCall request) script).states_eq_nil]

/-- Before the first reply is read, nothing is told of a plan. -/
theorem isClosing_drafted :
    ∀ e ∈ Happening.events (p.drafted request script), e.isClosing = false := by
  rw [drafted, Happening.events_logged, List.forall_mem_cons]
  exact ⟨rfl, fun _ =>
    (Model.complete_aside p.timeout (p.firstCall request) script).isClosing_eq_false⟩

/-- The first call comes before all that is parsed. -/
theorem called_mem_of_drafted {rest before after : List Happening} {length : Nat}
    (h : p.drafted request script ++ rest = before ++ .logged (.parsing length) :: after) :
    .called (p.firstCall request) ∈ before := by
  match before with
  | [] => cases h
  | [_] => cases h
  | first :: second :: before =>
    obtain ⟨-, hrest⟩ := List.cons.inj h
    obtain ⟨rfl, -⟩ := List.cons.inj hrest
    exact .tail _ (.head _)

/-- In a run that drafts first, a state of validating comes right after one of normalizing. -/
theorem exists_normalizing_of_chain {e : Event} {rest before after : List Event} {attempt : UInt32}
    (he : e.attempt? = none) (hchain : (e :: rest).IsChain Event.LeadsTo)
    (h : e :: rest = before ++ .validating attempt :: after) :
    ∃ earlier round, before = earlier ++ [.normalizing round] := by
  obtain rfl | ⟨earlier, last, rfl⟩ := before.eq_nil_or_concat
  · cases h
    cases he
  · rw [List.concat_eq_append] at h ⊢
    rw [h, List.append_assoc] at hchain
    obtain ⟨-, hleads, -⟩ := List.isChain_append_cons_cons.1 hchain
    cases hleads with
    | normalized => exact ⟨earlier, _, rfl⟩

/-- The log of a run is a matter of the states after the drafting and of its end. -/
theorem Protocol.of_states {r : Run ρ} {lengths : List Nat}
    (hlengths : ((Model.receive p.timeout script.next.1).map String.utf8ByteSize).toOption.toList =
      lengths)
    (h : RunStates lengths (if p.firstIsJson script then 0 else 1) r.states)
    (hcloses : r.Closes (request.clamp p.ceiling) (r.states.filterMap Event.attempt?).length) :
    p.Protocol request script (r.states.filterMap Event.round?).length
      (r.after (p.drafted request script)) := by
  have hstates : (r.after (p.drafted request script)).states =
      .drafting request.maxSteps (request.clamp p.ceiling).maxSteps :: r.states := by
    rw [Run.states_after, states_drafted]
    rfl
  have hchain := h.chain request.maxSteps (request.clamp p.ceiling).maxSteps
  exact {
    starts := by
      rw [Run.log_after, events_drafted]
      rfl
    chain := hstates ▸ hchain
    normalized := fun before attempt after hsplit =>
      exists_normalizing_of_chain rfl hchain (hstates.symm.trans hsplit)
    parsed := by
      rw [hstates, hlengths]
      exact h.parsed
    called := fun before length after => called_mem_of_drafted
    attempts := by
      rw [hstates]
      exact h.attempts
    rounds := by
      rw [hstates]
      exact h.rounds
    pairs := fun round attempt hmem => by
      rw [hstates, List.mem_cons] at hmem
      rw [h.pairs round attempt (hmem.resolve_left nofun)]
      split <;> rfl
    closes := by
      rw [hstates]
      exact hcloses.after isClosing_drafted }

end

/-- Every run of a planner with a discreet repairer has such a log. -/
theorem protocol_of_discreet {p : Planner ρ} (hdiscreet : p.repairer.Discreet) (request : Request)
    (session : Session ρ) (hbudget : p.budget.toNat < UInt32.size - 1) :
    ∃ repairs, p.Protocol request session.script repairs (p.run request session) := by
  have hlength {text : String} (h : Model.receive p.timeout session.script.next.1 = .ok text) :
      ((Model.receive p.timeout session.script.next.1).map String.utf8ByteSize).toOption.toList =
        [text.utf8ByteSize] := by
    rw [h]
    rfl
  have hcourse := run_course p request session
  generalize p.run request session = r at hcourse
  cases hcourse with
  | callFailed hreceive =>
    exact ⟨_, .of_states (r := ⟨_, _, [_]⟩) (by rw [hreceive]; rfl) .nil
      (.of_error (by simp [Event.isClosing]))⟩
  | notJson hreceive hparse htake =>
    exact ⟨_, .of_states (r := ⟨_, _, [_, _]⟩) (hlength hreceive) .parsing
      (.of_error (by simp [Event.isClosing]))⟩
  | @textFailed text error round budget failure repaired hreceive hparse htake hrepair hresult =>
    have haside : Happening.Aside repaired.transcript := hrepair ▸ hdiscreet _ _ _
    refine ⟨_, .of_states (r := ⟨_, _, _ :: _ :: _⟩) (hlength hreceive) ?_ (.of_error ?_)⟩
    · rw [Run.states, ← List.append_nil repaired.transcript, haside.states_repair rfl rfl]
      exact .repairing (Budget.round_of_take htake).1
    · rw [← List.append_nil repaired.transcript]
      exact haside.isClosing_repair rfl rfl nofun
  | @parsed text value hreceive hparse =>
    obtain ⟨hstates, hcloses⟩ := rounds_log hdiscreet (request.clamp p.ceiling)
      ⟨.fresh p.budget, 0, Draft.normalize value, ⟨session.script.next.2, session.memory⟩⟩
      (by simp only [Budget.left_fresh, UInt32.toNat_zero]; omega)
    rw [← Run.after_after]
    refine ⟨_, .of_states (hlength hreceive) ?_ ?_⟩
    · rw [firstIsJson_of_ok hreceive hparse, if_pos rfl]
      exact .read hstates
    · rw [UInt32.toNat_zero, Nat.zero_add] at hcloses
      exact hcloses.after (by simp [Event.isClosing])
  | @textRepaired text error round budget value repaired hreceive hparse htake hrepair hresult =>
    have haside : Happening.Aside repaired.transcript := hrepair ▸ hdiscreet _ _ _
    obtain ⟨hround, hused⟩ := Budget.round_of_take htake
    have hleft : p.budget.toNat = budget.left + 1 := Budget.left_of_take htake
    obtain ⟨hstates, hcloses⟩ := rounds_log hdiscreet (request.clamp p.ceiling)
      ⟨budget, 0, Draft.normalize value, repaired.session⟩
      (by simp only [UInt32.toNat_zero]; omega)
    rw [← Run.after_after]
    have hbefore : Happening.states (.logged (.parsing text.utf8ByteSize) ::
        .logged (.repairingText round (textDefect error)) ::
          (repaired.transcript ++ [.logged (.normalizing none)])) =
        [.parsing text.utf8ByteSize, .repairingText round (textDefect error),
          .normalizing none] := by
      rw [haside.states_repair rfl rfl]
      rfl
    refine ⟨_, .of_states (hlength hreceive) ?_ ?_⟩
    · rw [firstIsJson_of_error hreceive hparse, Run.states_after, hbefore]
      rw [hused] at hstates
      exact .repaired hround hstates
    · rw [UInt32.toNat_zero, Nat.zero_add] at hcloses
      rw [Run.states_after, hbefore]
      exact hcloses.after (haside.isClosing_repair rfl rfl (by simp [Event.isClosing]))

/-- In recorded rounds, every call of the repairer is noted as a round of repair. -/
theorem length_repairs_rounds (repairer : Repairer ρ) (request : Request)
    (s : State (ρ × List Repair)) :
    (rounds repairer.recorded request s).repairs.length = s.session.memory.2.length +
      ((rounds repairer.recorded request s).states.filterMap Event.round?).length := by
  induction s using rounds_induction repairer.recorded request with
  | done s plan hvalid =>
    rw [Run.states, Happening.states_logged rfl, states_doneEvents]
    rfl
  | exhausted s ds hinvalid htake => rfl
  | failed s ds round b failure repaired hinvalid htake hrepair hresult =>
    obtain ⟨hrecord, hsilent⟩ := Repairer.recorded_spec hrepair
    rw [Run.repairs, Run.states, hrecord, hsilent, List.length_append]
    rfl
  | goesOn s ds round b document repaired hinvalid htake hrepair hresult ih =>
    obtain ⟨hrecord, hsilent⟩ := Repairer.recorded_spec hrepair
    rw [hrecord, List.length_append, Nat.add_assoc] at ih
    rw [Run.states_after, hsilent, List.filterMap_append, List.length_append]
    exact ih

/-- In a recorded run, every call of the repairer is noted as a round of repair. -/
theorem length_repairs_run (p : Planner ρ) (request : Request) (session : Session ρ) :
    let r := p.recorded.run request (session.recording [])
    r.repairs.length = (r.states.filterMap Event.round?).length := by
  intro r
  have hcourse : p.recorded.Course request (session.recording []) r := run_course ..
  generalize r = r at hcourse
  cases hcourse with
  | callFailed hreceive =>
    rw [Run.states, Happening.states_append, states_drafted]
    rfl
  | notJson hreceive hparse htake =>
    rw [Run.states, Happening.states_append, states_drafted]
    rfl
  | textFailed hreceive hparse htake hrepair hresult =>
    obtain ⟨hrecord, hsilent⟩ := Repairer.recorded_spec hrepair
    rw [Run.repairs, Run.states, hrecord, hsilent, Happening.states_append, states_drafted]
    rfl
  | parsed hreceive hparse =>
    rw [Run.states_after, Happening.states_append, states_drafted, List.filterMap_append]
    exact (length_repairs_rounds ..).trans (Nat.zero_add _)
  | textRepaired hreceive hparse htake hrepair hresult =>
    obtain ⟨hrecord, hsilent⟩ := Repairer.recorded_spec hrepair
    have hrounds := length_repairs_rounds p.repairer (request.clamp p.ceiling)
    rw [Run.states_after, Happening.states_append, states_drafted, hsilent, List.filterMap_append,
      List.length_append]
    refine (hrounds _).trans ?_
    rw [hrecord, List.length_append]
    rfl

/-- Of the events that the repairer never notes, a recorded run has those of the run. -/
theorem filter_recorded {p : Planner ρ} {keeps : Event → Bool}
    (hquiet : ∀ document defect session,
      (Happening.events (p.repairer document defect session).transcript).filter keeps = [])
    (request : Request) (session : Session ρ) :
    (p.recorded.run request (session.recording [])).log.filter keeps =
      (p.run request session).log.filter keeps := by
  have hparts : Happening.PartByPart fun hs hs' =>
      (Happening.events hs).filter keeps = (Happening.events hs').filter keeps := by
    refine ⟨fun _ => rfl, fun h h' => ?_⟩
    rw [Happening.events_append, Happening.events_append, List.filter_append, List.filter_append,
      h, h']
  have hnotes (document defect : String) (session : Session ρ) :
      (Happening.events []).filter keeps =
        (Happening.events (p.repairer document defect session).transcript).filter keeps :=
    (hquiet document defect session).symm
  exact (run_mirrors hparts hnotes request session []).transcript

/-- A recorded run has the states of the run if the repairer is discreet. -/
theorem states_recorded {p : Planner ρ} (hdiscreet : p.repairer.Discreet) (request : Request)
    (session : Session ρ) :
    (p.recorded.run request (session.recording [])).states = (p.run request session).states :=
  filter_recorded (fun document defect session =>
    (hdiscreet document defect session).states_eq_nil) request session

/-- There are as many rounds of repair in a log as calls of the repairer. -/
theorem Protocol.length_rounds {p : Planner ρ} {request : Request} {script : Model.Script}
    {repairs : Nat} {r : Run ρ} (h : p.Protocol request script repairs r) :
    (r.states.filterMap Event.round?).length = repairs := by
  simpa using congrArg List.length h.rounds

/-- **Every run has a log that follows its states.** What the planner notes is the log of the
recorded run, in which the repairer notes nothing. If the repairer leaves the events of the planner
to the planner, as the model does, then the whole log of the run is like this, too, whatever else
the repairer notes. Reference: the log lines of `PlanOrchestrator.run`. -/
theorem run_protocol (p : Planner ρ) (request : Request) (session : Session ρ)
    (hbudget : p.budget.toNat < UInt32.size - 1) :
    let r := p.recorded.run request (session.recording [])
    r.Records (p.run request session) ∧
    p.recorded.Protocol request session.script r.repairs.length r ∧
    (p.repairer.Discreet →
      p.Protocol request session.script r.repairs.length (p.run request session)) := by
  intro r
  have hrepairs : r.repairs.length = (r.states.filterMap Event.round?).length :=
    length_repairs_run p request session
  refine ⟨run_records p request session [], ?_, fun hdiscreet => ?_⟩
  · obtain ⟨repairs, hprotocol⟩ := protocol_of_discreet (p := p.recorded)
      p.repairer.recorded_discreet request (session.recording []) hbudget
    rw [hrepairs, hprotocol.length_rounds]
    exact hprotocol
  · obtain ⟨repairs, hprotocol⟩ := protocol_of_discreet hdiscreet request session hbudget
    rw [hrepairs, states_recorded hdiscreet, hprotocol.length_rounds]
    exact hprotocol

/-- A text that is not JSON and a repair that gives a plan: six states, with one repair and one
validation. -/
theorem run_protocol_one_repair :
    let p : Planner Unit := ⟨20000, 8, 2, .model 20000⟩
    let script : Model.Script := [.ofText "x", .ofText "\x7b\x7d"]
    let r := p.run (.ofPrompt "x") ⟨script, ()⟩
    p.budget.toNat < UInt32.size - 1 ∧ p.Protocol (.ofPrompt "x") script 1 r ∧
      r.states = [.drafting 8 8, .parsing 1,
        .repairingText 1 "JSON parse failed: expected value at line 1 column 1",
        .normalizing none, .validating 1, .done 0 1] := by
  intro p script r
  have hbudget : p.budget.toNat < UInt32.size - 1 := by decide
  have hrepairs :
      (p.recorded.run (.ofPrompt "x") (Session.recording ⟨script, ()⟩ [])).repairs.length = 1 := by
    decide +kernel
  obtain ⟨-, -, hprotocol⟩ := run_protocol p (.ofPrompt "x") ⟨script, ()⟩ hbudget
  rw [hrepairs] at hprotocol
  exact ⟨hbudget, hprotocol (Repairer.model_discreet 20000), by decide +kernel⟩

end Planner

end AgentPlan
