import AgentPlan.Text.Number

/-!
# Numbers in decimal

The text of a natural number: it holds digits only (`isDigit_of_mem_toString`), and no two numbers
have the same text (`toString_injective`). The other way round, `unsigned` reads just the numbers
below its bound, from digits that may follow a plus sign (`unsigned_eq_ok_iff`).
-/

namespace AgentPlan.Text

/-- The characters of a number's text are its digits. -/
theorem toList_toString (n : Nat) : (toString n).toList = Nat.toDigits 10 n :=
  Nat.toList_repr

/-- Numbers with the same text are equal. -/
theorem toString_injective {m n : Nat} (h : toString m = toString n) : m = n := by
  have hdigits : Nat.toDigits 10 m = Nat.toDigits 10 n := by
    rw [← toList_toString, ← toList_toString, h]
  calc m = Nat.ofDigitChars 10 (Nat.toDigits 10 m) 0 := Nat.ofDigitChars_ten_toDigits.symm
    _ = Nat.ofDigitChars 10 (Nat.toDigits 10 n) 0 := by rw [hdigits]
    _ = n := Nat.ofDigitChars_ten_toDigits

/-- A number's text holds digits only. -/
theorem isDigit_of_mem_toString {n : Nat} {c : Char} (h : c ∈ (toString n).toList) :
    c.isDigit = true := by
  rw [toList_toString] at h
  exact Nat.isDigit_of_mem_toDigits (by decide) (by decide) h

/-! ## Numbers that are read -/

/-- The text is a number in decimal, or a plus sign and the number in decimal. -/
def Numeral (n : Nat) (s : String) : Prop :=
  ∃ digits, (s.toList = digits ∨ s.toList = '+' :: digits) ∧ digits ≠ [] ∧
    digits.all Char.isDigit = true ∧ Nat.ofDigitChars 10 digits 0 = n

/-- More digits make no smaller number. -/
theorem le_ofDigitChars (value : Nat) (digits : List Char) :
    value ≤ Nat.ofDigitChars 10 digits value := by
  induction digits generalizing value with
  | nil => exact Nat.le_of_eq Nat.ofDigitChars_nil.symm
  | cons c rest ih =>
    rw [Nat.ofDigitChars_cons]
    exact Nat.le_trans (by omega) (ih _)

section
variable {bound n : Nat}

/-- Digits are read as their number, as long as it is below the bound. -/
theorem unsignedDigits_eq_ok_iff {value : Nat} (h : value < bound) (cs : List Char) :
    unsignedDigits bound value cs = .ok n ↔
      cs.all Char.isDigit = true ∧ Nat.ofDigitChars 10 cs value = n ∧ n < bound := by
  induction cs generalizing value with
  | nil =>
    rw [unsignedDigits, Nat.ofDigitChars_nil, Except.ok.injEq]
    exact ⟨fun hn => ⟨rfl, hn, hn ▸ h⟩, fun hn => hn.2.1⟩
  | cons c rest ih =>
    rw [unsignedDigits, Nat.ofDigitChars_cons, List.all_cons, Bool.and_eq_true, Nat.mul_comm 10]
    cases c.isDigit with
    | false => exact iff_of_false nofun (fun hn => absurd hn.1.1 (by decide))
    | true =>
      rw [if_neg (by decide)]
      dsimp only
      split
      · next hbelow => rw [ih hbelow, and_iff_right rfl]
      · next hbeyond =>
        refine iff_of_false nofun ?_
        rintro ⟨-, hn, hbound⟩
        have hle := le_ofDigitChars (value * 10 + (c.toNat - '0'.toNat)) rest
        omega

/-- A text is read as the number that it is in decimal, if this is below the bound. -/
theorem unsigned_eq_ok_iff (hbound : 0 < bound) (s : String) :
    unsigned bound s = .ok n ↔ Numeral n s ∧ n < bound := by
  have hdigits (digits : List Char) :
      (if digits.isEmpty then .error .badDigit else unsignedDigits bound 0 digits) = .ok n ↔
        (digits ≠ [] ∧ digits.all Char.isDigit = true ∧ Nat.ofDigitChars 10 digits 0 = n) ∧
          n < bound := by
    cases digits with
    | nil => exact iff_of_false nofun fun h => h.1.1 rfl
    | cons c rest =>
      rw [List.isEmpty_cons, if_neg (by decide), unsignedDigits_eq_ok_iff hbound]
      simp only [ne_eq, reduceCtorEq, not_false_eq_true, true_and, and_assoc]
  rw [unsigned, Numeral]
  split
  · next rest hs =>
    rw [hdigits, hs]
    refine and_congr_left fun _ => ⟨fun h => ⟨rest, .inr rfl, h⟩, ?_⟩
    rintro ⟨digits, rfl | hplus, h⟩
    · exact absurd h.2.1 (by simp)
    · rwa [(List.cons.inj hplus).2]
  · next hplus =>
    rw [hdigits]
    refine and_congr_left fun _ => ⟨fun h => ⟨_, .inl rfl, h⟩, ?_⟩
    rintro ⟨digits, rfl | hs, h⟩
    · exact h
    · exact absurd hs (hplus digits)

end

end AgentPlan.Text
