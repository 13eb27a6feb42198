import AgentPlan.Settings.Lookup
import AgentPlan.Proofs.Except
import AgentPlan.Proofs.Text.Ends
import Mathlib.Tactic.SplitIfs

/-!
# How settings are read

A reader of a variable depends on nothing but what `present` gives for it, and settings read from
variables are spelled by them and break no rule (`ofVariables_eq_ok_iff`).
-/

namespace AgentPlan.Settings

open Model (Provider)

/-! ## Single variables -/

section Variables

variable {vars vars' : Variables} {name : String}

/-- Whether a variable is present depends on its own value only. -/
theorem present_congr (h : vars name = vars' name) : present vars name = present vars' name := by
  rw [present, present, h]

/-- What is read from a variable depends on its value only, and on that only as far as it is
present. -/
theorem readVariable_congr {α : Type} (h : present vars name = present vars' name) (default : α)
    (read : String → Except String α) :
    readVariable vars name default read = readVariable vars' name default read := by
  rw [readVariable, readVariable, h]

/-- What is read from a switch depends on the value of its variable only. -/
theorem readTruth_congr (h : present vars name = present vars' name) (default : Bool) :
    readTruth vars name default = readTruth vars' name default := by
  rw [readTruth, readTruth, h]

/-- Which provider is read depends on the value of its variable only. -/
theorem readProvider_congr (h : present vars name = present vars' name) (default : Provider) :
    readProvider vars name default = readProvider vars' name default := by
  rw [readProvider, readProvider, h]

/-- A variable with a value that is not blank is present. -/
theorem present_eq_some {value : String} (h : vars name = some value)
    (hvalue : Text.trim value ≠ "") : present vars name = some (Text.trim value) := by
  rw [present, h, Option.map_some, Option.filter_some, if_pos (decide_eq_true hvalue)]

/-- What is present is not the empty text. -/
theorem ne_empty_of_present {value : String} (h : present vars name = some value) :
    value ≠ "" :=
  of_decide_eq_true (Option.filter_eq_some_iff.1 h).2

/-- What is present is trimmed. -/
theorem trim_of_present {value : String} (h : present vars name = some value) :
    Text.trim value = value := by
  obtain ⟨untrimmed, -, rfl⟩ := Option.map_eq_some_iff.1 (Option.filter_eq_some_iff.1 h).1
  exact Text.trim_trim untrimmed

/-- Values that are present are present as they are. -/
theorem present_present (vars : Variables) (name : String) :
    present (present vars) name = present vars name := by
  cases hpresent : present vars name with
  | none => rw [present, hpresent, Option.map_none, Option.filter_none]
  | some value =>
    have htrim := trim_of_present hpresent
    rw [present_eq_some hpresent (htrim.symm ▸ ne_empty_of_present hpresent), htrim]

end Variables

/-! ## Rules -/

variable {vars : Variables} {s t : Settings}

/-- Settings break no rule exactly if their limit on the number of steps, their time limit and their
temperature lie within the bounds. -/
theorem fault?_eq_none_iff :
    s.fault? = none ↔ (leastMaxSteps ≤ s.maxSteps ∧ s.maxSteps ≤ greatestMaxSteps) ∧
      s.timeout ≠ 0 ∧ temperate s.temperature = true := by
  rw [fault?]
  split_ifs with hsteps htimeout htemperature
  · refine iff_of_false (by simp) fun h => ?_
    rcases hsteps with hsteps | hsteps
    · exact absurd h.1.1 (UInt32.not_le.2 hsteps)
    · exact absurd h.1.2 (UInt32.not_le.2 hsteps)
  · exact iff_of_false (by simp) fun h => h.2.1 htimeout
  · rw [not_or, UInt32.not_lt, UInt32.not_lt] at hsteps
    exact iff_of_true rfl ⟨hsteps, htimeout, htemperature⟩
  · exact iff_of_false (by simp) fun h => htemperature h.2.2

/-- Settings that break no rule pass as they are. -/
theorem checked_eq_ok_iff : s.checked = .ok t ↔ s.fault? = none ∧ s = t := by
  rw [checked]
  cases s.fault? with
  | none => simp
  | some f => simp

/-- Settings read from variables are the ones that they spell, and break no rule. -/
theorem ofVariables_eq_ok_iff :
    ofVariables vars = .ok s ↔ spelled vars = .ok s ∧ s.fault? = none := by
  rw [ofVariables, Except.bind_eq_ok_iff]
  constructor
  · rintro ⟨t, hspelled, hchecked⟩
    obtain ⟨hfault, rfl⟩ := checked_eq_ok_iff.1 hchecked
    exact ⟨hspelled, hfault⟩
  · rintro ⟨hspelled, hfault⟩
    exact ⟨s, hspelled, checked_eq_ok_iff.2 ⟨hfault, rfl⟩⟩

end AgentPlan.Settings
