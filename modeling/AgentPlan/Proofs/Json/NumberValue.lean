import AgentPlan.Draft.TimeToLive
import Mathlib.Algebra.Order.Field.Power
import Mathlib.Data.Rat.Cast.Order
import Mathlib.Tactic.FieldSimp
import Mathlib.Tactic.Positivity
import Mathlib.Tactic.Ring

/-!
# The exact value of a number

A number of a document stands for a rational number (`Number.value`): an integer for itself, a float
for its mantissa times a power of two, with its sign. A time to live is read from a number exactly
when that rational is an integer of 64 bits, and it is that integer (`toInt64?_eq_some_iff`).
-/

namespace AgentPlan

namespace Binary

/-- The sign of a number, as a factor. -/
def sign (a : Binary) : Int :=
  if a.negative then -1 else 1

/-- The rational number that a binary number is. -/
def value (a : Binary) : ℚ :=
  a.sign * a.mantissa * (2 : ℚ) ^ a.exponent

/-- A sign times itself is one. -/
theorem sign_mul_sign (a : Binary) : a.sign * a.sign = 1 := by
  unfold sign; split <;> rfl

/-- The exact value of a number with an exponent that is not negative. -/
theorem value_of_nonneg {a : Binary} (h : 0 ≤ a.exponent) :
    a.value = ((a.sign * (a.mantissa * 2 ^ a.exponent.toNat : ℕ) : ℤ) : ℚ) := by
  have he : (2 : ℚ) ^ a.exponent = 2 ^ a.exponent.toNat := by
    rw [← zpow_natCast, Int.toNat_of_nonneg h]
  rw [value, he]
  push_cast
  ring

/-- The exact value of a number with a negative exponent is a quotient. -/
theorem value_of_neg {a : Binary} (h : a.exponent < 0) :
    a.value = a.sign * a.mantissa / 2 ^ (-a.exponent).toNat := by
  have he : (2 : ℚ) ^ a.exponent = (2 ^ (-a.exponent).toNat)⁻¹ := by
    rw [← zpow_natCast, Int.toNat_of_nonneg (by omega), zpow_neg, inv_inv]
  rw [value, he, div_eq_mul_inv]

/-- A quotient by a power of two is an integer only if the power divides the mantissa. -/
theorem mantissa_eq_of_value {a : Binary} {i : Int} (h : a.exponent < 0) (hi : a.value = i) :
    (a.mantissa : ℤ) = a.sign * i * 2 ^ (-a.exponent).toNat := by
  rw [value_of_neg h, div_eq_iff (by positivity)] at hi
  have hm : a.sign * a.mantissa = i * 2 ^ (-a.exponent).toNat := by exact_mod_cast hi
  calc (a.mantissa : ℤ) = a.sign * a.sign * a.mantissa := by rw [sign_mul_sign, one_mul]
    _ = a.sign * (a.sign * a.mantissa) := by ring
    _ = a.sign * i * 2 ^ (-a.exponent).toNat := by rw [hm]; ring

/-- `toInt?` gives the integer that the exact value is, if it is one. -/
theorem toInt?_eq_some_iff (a : Binary) (i : Int) : a.toInt? = some i ↔ a.value = i := by
  rcases lt_or_ge a.exponent 0 with hneg | hnonneg
  · have hpos : 0 < 2 ^ (-a.exponent).toNat := Nat.pow_pos (by decide)
    simp only [toInt?, if_neg (not_le.2 hneg), Nat.pow_eq]
    split
    · next hmod =>
      obtain ⟨q, hq⟩ := Nat.dvd_of_mod_eq_zero hmod
      have hv : a.value = ((a.sign * (q : ℤ) : ℤ) : ℚ) := by
        rw [value_of_neg hneg, hq]
        push_cast
        field_simp
      rw [hv, hq, Nat.mul_div_cancel_left _ hpos, Option.some_inj]
      exact_mod_cast Iff.rfl
    · next hmod =>
      refine ⟨nofun, fun hv => absurd ?_ hmod⟩
      have hm := mantissa_eq_of_value hneg hv
      refine Nat.mod_eq_zero_of_dvd (Int.natCast_dvd_natCast.1 ?_)
      rw [hm]
      exact ⟨a.sign * i, by push_cast; ring⟩
  · simp only [toInt?, if_pos hnonneg, Nat.pow_eq]
    rw [value_of_nonneg hnonneg, Option.some_inj]
    exact_mod_cast Iff.rfl

/-- A mantissa over the power of two that its exponent takes away is compared with a bound as the
product of both. -/
theorem scaled_le_iff (a : Binary) (bound : ℕ) :
    (scaled a.mantissa 1 (-a.exponent)).1 ≤ bound * (scaled a.mantissa 1 (-a.exponent)).2 ↔
      a.mantissa * (2 : ℚ) ^ a.exponent ≤ bound := by
  rcases le_or_gt a.exponent 0 with hneg | hpos
  · have he : (2 : ℚ) ^ a.exponent = (2 ^ (-a.exponent).toNat)⁻¹ := by
      rw [← zpow_natCast, Int.toNat_of_nonneg (by omega), zpow_neg, inv_inv]
    rw [scaled, if_pos (by omega), he, ← div_eq_mul_inv, div_le_iff₀ (by positivity), Nat.one_mul,
      Nat.pow_eq]
    exact_mod_cast Iff.rfl
  · have he : (2 : ℚ) ^ a.exponent = 2 ^ a.exponent.toNat := by
      rw [← zpow_natCast, Int.toNat_of_nonneg hpos.le]
    rw [scaled, if_neg (by omega), he, neg_neg, Nat.mul_one, Nat.pow_eq]
    exact_mod_cast Iff.rfl

/-- A number lies between zero and a bound if its exact value does. -/
theorem between_iff (a : Binary) (bound : ℕ) :
    a.between bound = true ↔ 0 ≤ a.value ∧ a.value ≤ bound := by
  have hpower : (0 : ℚ) < 2 ^ a.exponent := by positivity
  simp only [between, Bool.or_eq_true, Bool.and_eq_true, Bool.not_eq_true', decide_eq_true_eq,
    scaled_le_iff, value, sign]
  by_cases hzero : a.mantissa = 0
  · simp [hzero]
  have hmantissa : (0 : ℚ) < a.mantissa := by exact_mod_cast Nat.pos_of_ne_zero hzero
  have hproduct : 0 < a.mantissa * (2 : ℚ) ^ a.exponent := mul_pos hmantissa hpower
  cases a.negative with
  | false => simp [hzero, hproduct.le]
  | true => simp [hzero, hproduct]

end Binary

namespace Json

/-- The rational number that a number of a document is. -/
def Number.value : Number → ℚ
  | .int i => i
  | .float b => b.value

/-- An integer is read as the integer of 64 bits that it is, if it is one. -/
theorem signed?_eq_some_iff {i : Int} {t : Int64} :
    signed? i = some t ↔ i = t.toInt := by
  simp only [signed?]
  split
  · next h =>
    rw [Option.some_inj]
    refine ⟨fun ht => ?_, fun ht => ?_⟩
    · rw [← ht, Int64.toInt_ofInt_of_le h.1 (Int.lt_add_one_of_le h.2)]
    · rw [ht, Int64.ofInt_toInt]
  · next h =>
    refine ⟨nofun, fun ht => absurd ?_ h⟩
    rw [ht]
    exact ⟨Int64.minValue_le_toInt t, Int64.toInt_le t⟩

/-- A time to live is read from a number exactly when it is the number's exact value. -/
theorem Number.toInt64?_eq_some_iff {n : Number} {t : Int64} :
    n.toInt64? = some t ↔ n.value = t.toInt := by
  cases n with
  | int i =>
    simp only [toInt64?, Option.bind_some, signed?_eq_some_iff, value]
    exact_mod_cast Iff.rfl
  | float b =>
    simp only [toInt64?, value, Option.bind_eq_some_iff, signed?_eq_some_iff,
      Binary.toInt?_eq_some_iff]
    constructor
    · rintro ⟨i, hb, rfl⟩
      exact hb
    · intro hb
      exact ⟨_, hb, rfl⟩

/-- The integers of 64 bits are those from `-2^63` up to but not including `2^63`. -/
theorem exists_int64_iff {i : Int} : (∃ t : Int64, t.toInt = i) ↔ -2 ^ 63 ≤ i ∧ i < 2 ^ 63 := by
  constructor
  · rintro ⟨t, rfl⟩
    exact ⟨Int64.le_toInt t, Int64.toInt_lt t⟩
  · rintro ⟨hlow, hhigh⟩
    exact ⟨Int64.ofInt i, Int64.toInt_ofInt_of_le hlow hhigh⟩

end Json

end AgentPlan
