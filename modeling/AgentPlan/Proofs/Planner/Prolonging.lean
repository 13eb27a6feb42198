import AgentPlan.Proofs.Planner.Rounds

/-!
# More rounds of repair

A larger budget changes nothing before the smaller one is spent: with more rounds, a run is the same
run, or it goes on where the budget of the other one ended it (`Run.Prolongs`, `run_prolongs`). So
the calls of the run with fewer rounds are the first calls of the run with more, and a run that does
not end by its budget comes to the same with any larger one (`run_budget_mono`).
-/

namespace AgentPlan

variable {ρ : Type}

/-- A call of the model, or of a repairer other than the model. -/
def Happening.isCall : Happening → Bool
  | .called _ | .repairAsked .. => true
  | .logged _ => false

/-- A result of a run with `total` rounds that is due to this number: all are used after a
validation, or there is none for a first text that is not JSON. -/
inductive SpentBudget (total : UInt32) : Except Failure Plan → Prop where
  | exhausted (attempts : UInt32) (error : String) :
      SpentBudget total (.error (.exhausted attempts error))
  | notJson (error : String) (noRound : total = 0) :
      SpentBudget total (.error (.parse (Planner.textDefect error)))

/-- A run prolongs another one: it is the same, or the other one ended by its budget, and all that
happened until then begins the longer one, too. -/
inductive Run.Prolongs (total : UInt32) (short : Run ρ) : Run ρ → Prop where
  | same : Prolongs total short short
  | cut {long : Run ρ} {kept : List Happening} {note : Event}
      (spent : SpentBudget total short.result)
      (noted : short.transcript = kept ++ [.logged note])
      (begins : kept <+: long.transcript) : Prolongs total short long

namespace Run.Prolongs

variable {total : UInt32} {short long : Run ρ}

/-- What happened before both runs changes nothing. -/
theorem after (h : short.Prolongs total long) (happened : List Happening) :
    (short.after happened).Prolongs total (long.after happened) := by
  cases h with
  | same => exact .same
  | cut spent noted begins =>
    exact .cut spent (by rw [after_transcript, noted, List.append_assoc])
      ((List.prefix_append_right_inj happened).2 begins)

/-- The calls of a run are the first calls of a run that prolongs it. -/
theorem calls_prefix (h : short.Prolongs total long) :
    short.transcript.filter Happening.isCall <+: long.transcript.filter Happening.isCall := by
  cases h with
  | same => exact List.prefix_refl _
  | cut spent noted begins =>
    rw [noted, List.filter_append]
    simpa [Happening.isCall] using begins.filter Happening.isCall

/-- A run that does not end by its budget is the run that prolongs it. -/
theorem eq_of_not_spent (h : short.Prolongs total long)
    (hspent : ¬ SpentBudget total short.result) : long = short := by
  cases h with
  | same => rfl
  | cut spent noted begins => exact absurd spent hspent

end Run.Prolongs

/-- A budget with as many used rounds as another one, and no more rounds in all. -/
structure Budget.Within (b b' : Budget) : Prop where
  used_eq : b'.used = b.used
  total_le : b.total ≤ b'.total

/-- A round that a budget has, a larger budget has, too. -/
theorem Budget.Within.take {b b' rest : Budget} {round : UInt32} (h : b.Within b')
    (htake : b.take = some (round, rest)) :
    ∃ rest', b'.take = some (round, rest') ∧ rest.Within rest' := by
  unfold Budget.take at htake
  split at htake
  · next hlt =>
    cases htake
    have hlt' : b'.used < b'.total := h.used_eq ▸ UInt32.lt_of_lt_of_le hlt h.total_le
    refine ⟨{ b' with used := b'.used + 1 }, ?_, ?_, h.total_le⟩
    · rw [Budget.take, if_pos hlt', h.used_eq]
    · rw [h.used_eq]
  · cases htake

namespace Planner

/-- The rounds begin with a validation. -/
theorem validating_prefix_rounds (repairer : Repairer ρ) (request : Request) (s : State ρ) :
    [.logged (.validating (s.attempts + 1))] <+: (rounds repairer request s).transcript := by
  induction s using rounds_induction repairer request with
  | done | exhausted | failed | goesOn => exact ⟨_, rfl⟩

/-- Rounds with a larger budget prolong the rounds. -/
theorem rounds_prolongs (repairer : Repairer ρ) (request : Request) (total : UInt32)
    (s : State ρ) : ∀ {larger : Budget}, s.budget.Within larger →
      (rounds repairer request s).Prolongs total
        (rounds repairer request { s with budget := larger }) := by
  induction s using rounds_induction repairer request with
  | done s plan hvalid =>
    intro larger _
    rw [rounds_of_valid (s := { s with budget := larger }) hvalid]
    exact .same
  | exhausted s ds hinvalid htake =>
    intro larger _
    exact .cut (.exhausted _ _) (List.singleton_append ..).symm
      (validating_prefix_rounds repairer request { s with budget := larger })
  | failed s ds round budget failure repaired hinvalid htake hrepair hresult =>
    intro larger hwithin
    obtain ⟨rest, htake', -⟩ := hwithin.take htake
    rw [rounds_of_failed (s := { s with budget := larger }) hinvalid htake' hrepair hresult]
    exact .same
  | goesOn s ds round budget document repaired hinvalid htake hrepair hresult ih =>
    intro larger hwithin
    obtain ⟨rest, htake', hrest⟩ := hwithin.take htake
    rw [rounds_of_repaired (s := { s with budget := larger }) hinvalid htake' hrepair hresult]
    exact (ih hrest).after _

section
variable (p : Planner ρ) {total : UInt32} (hle : p.budget ≤ total) (request : Request)
include hle

/-- From the first text on, a run with more rounds prolongs the run. -/
theorem read_prolongs (text : String) (session : Session ρ) :
    (p.read request text session).Prolongs p.budget
      (read { p with budget := total } request text session) := by
  have hwithin : (Budget.fresh p.budget).Within (Budget.fresh total) := ⟨rfl, hle⟩
  cases hparse : Extract.value text with
  | ok value =>
    rw [read_of_json hparse, read_of_json hparse]
    exact (rounds_prolongs _ _ _ _ hwithin).after _
  | error error =>
    cases htake : (Budget.fresh p.budget).take with
    | none =>
      have hnone : p.budget = 0 := UInt32.toNat_inj.1 (Budget.take_eq_none_iff.1 htake)
      rw [read_of_spent hparse htake]
      exact .cut (.notJson error hnone) (List.nil_append _).symm (List.nil_prefix)
    | some taken =>
      obtain ⟨round, budget⟩ := taken
      obtain ⟨rest, htake', hrest⟩ := hwithin.take htake
      cases hresult : (p.repairer text (textDefect error) session).result with
      | error failure =>
        rw [read_of_failed hparse htake rfl hresult,
          read_of_failed (p := { p with budget := total }) hparse htake' rfl hresult]
        exact .same
      | ok value =>
        rw [read_of_repaired hparse htake rfl hresult,
          read_of_repaired (p := { p with budget := total }) hparse htake' rfl hresult]
        exact ((rounds_prolongs _ _ _ _ hrest).after _).after _

/-- A run with more rounds prolongs the run. -/
theorem run_prolongs (session : Session ρ) :
    (p.run request session).Prolongs p.budget
      (run { p with budget := total } request session) := by
  cases hreceive : Model.receive p.timeout session.script.next.1 with
  | error fault =>
    rw [run_of_fault hreceive, run_of_fault (p := { p with budget := total }) hreceive]
    exact .same
  | ok text =>
    rw [run_of_text hreceive, run_of_text (p := { p with budget := total }) hreceive]
    exact (p.read_prolongs hle _ text _).after _

/-- **A larger budget only adds.** The calls of a run are the first calls of the run with more
rounds. Unless it ends by its budget, both are the same run: the same calls, the same result, the
same log. Reference: `PlanOrchestrator.run`, in the rounds of its `RepairBudget`. -/
theorem run_budget_mono (session : Session ρ) :
    let short := p.run request session
    let long := run { p with budget := total } request session
    short.transcript.filter Happening.isCall <+: long.transcript.filter Happening.isCall ∧
      (¬ SpentBudget p.budget short.result → long = short) := by
  intro short long
  have hprolongs : short.Prolongs p.budget long := p.run_prolongs hle request session
  exact ⟨hprolongs.calls_prefix, hprolongs.eq_of_not_spent⟩

end

/-- A text that is not JSON and a repair that is no plan are too much for one round. A second round
makes one call more and gives a plan, and three more rounds give the same. -/
theorem run_budget_mono_one_two_five :
    let runWith (rounds : UInt32) := run ⟨20000, 8, rounds, .scripted⟩ (.ofPrompt "x")
      ⟨[.ofText "x"], [.ok (.obj [("rationale", .null)]), .ok (.obj [])]⟩
    let calls (rounds : UInt32) := (runWith rounds).transcript.filter Happening.isCall
    ((1 : UInt32) ≤ 2 ∧ calls 1 <+: calls 2 ∧ (calls 1).length = 2 ∧ (calls 2).length = 3) ∧
      (2 : UInt32) ≤ 5 ∧ ¬ SpentBudget 2 (runWith 2).result ∧ runWith 5 = runWith 2 := by
  intro runWith calls
  have hone : (1 : UInt32) ≤ 2 := by decide
  have htwo : (2 : UInt32) ≤ 5 := by decide
  have hplan : (runWith 2).failure? = none := by decide +kernel
  have hspent : ¬ SpentBudget 2 (runWith 2).result := by
    intro hspent
    rw [Run.failure?] at hplan
    generalize (runWith 2).result = result at hspent hplan
    cases hspent <;> cases hplan
  obtain ⟨hcalls, -⟩ := run_budget_mono ⟨20000, 8, 1, .scripted⟩ hone (.ofPrompt "x")
    ⟨[.ofText "x"], [.ok (.obj [("rationale", .null)]), .ok (.obj [])]⟩
  obtain ⟨-, hsame⟩ := run_budget_mono ⟨20000, 8, 2, .scripted⟩ htwo (.ofPrompt "x")
    ⟨[.ofText "x"], [.ok (.obj [("rationale", .null)]), .ok (.obj [])]⟩
  exact ⟨⟨hone, hcalls, by decide +kernel, by decide +kernel⟩, htwo, hspent, hsame hspent⟩

end Planner

end AgentPlan
