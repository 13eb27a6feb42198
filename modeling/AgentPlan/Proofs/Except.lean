/-!
# Results that may be errors

When a chain of fallible steps gives a result. The readers of JSON texts and of settings are such
chains; these laws take one apart at its first step (`Except.bind_eq_ok_iff`) or turn a question
about its result into one about an option (`Except.toOption_eq_some_iff`).
-/

namespace AgentPlan

variable {ε ε' α β : Type} {x : Except ε α}

/-- Two steps in a row give a result exactly if the first one does and the second one does from
there. -/
theorem Except.bind_eq_ok_iff {f : α → Except ε β} {b : β} :
    (x >>= f) = .ok b ↔ ∃ a, x = .ok a ∧ f a = .ok b := by
  cases x with
  | error e => exact ⟨nofun, fun ⟨_, h, _⟩ => nomatch h⟩
  | ok a =>
    refine ⟨fun h => ⟨a, rfl, h⟩, fun ⟨a', ha, h⟩ => ?_⟩
    cases ha
    exact h

/-- What is made from a result is there exactly if the result is. -/
theorem Except.map_eq_ok_iff {f : α → β} {b : β} :
    x.map f = .ok b ↔ ∃ a, x = .ok a ∧ f a = b := by
  cases x <;> simp [Except.map]

/-- Another report of an error changes no result. -/
theorem Except.mapError_eq_ok_iff {f : ε → ε'} {a : α} :
    x.mapError f = .ok a ↔ x = .ok a := by
  cases x with
  | error e => exact ⟨nofun, nofun⟩
  | ok b => constructor <;> intro h <;> cases h <;> rfl

/-- Without its report, an error is no result. -/
theorem Except.toOption_eq_some_iff {a : α} : x.toOption = some a ↔ x = .ok a := by
  cases x <;> simp [Except.toOption]

/-- It makes no difference whether the report is dropped before or after something is made from the
result. -/
theorem Except.toOption_map (f : α → β) (x : Except ε α) :
    (x.map f).toOption = x.toOption.map f := by
  cases x <;> rfl

end AgentPlan
