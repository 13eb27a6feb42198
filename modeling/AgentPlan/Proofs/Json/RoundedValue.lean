import AgentPlan.Json.Numeral
import AgentPlan.Proofs.Json.NumberValue

/-!
# Integers read by way of a float

A time to live can also be read with a float for every number that is no signed integer of 64 bits:
the number is rounded to a float, and the float is taken if it is integral and lies in
`[-2^63, 2^63)` (`Number.roundedInt64?`). The integers of a document lie in `[-2^63, 2^64)`
(`Number.IsWord`, `isWord_of_number`), so those that are rounded are not below `2^63`. Rounding
changes most of them, but it takes none of them below `2^63` (`two_pow_le_value_of_round`), and the
bound is strict. So nothing that was rounded is taken, and this way of reading is exact, too
(`roundedInt64?_eq_toInt64?`).
-/

namespace AgentPlan

namespace Binary

/-- The nearest natural number is not below the quotient without its fraction. -/
theorem div_le_nearest (tie : Tie) (num den : Nat) : num / den ≤ nearest tie num den := by
  unfold nearest
  dsimp only
  split <;> omega

/-- A natural number over a power of two. -/
theorem scaled_one (num e : Nat) : scaled num 1 e = (num, 2 ^ e) := by
  rw [scaled, if_pos (Int.natCast_nonneg e), Int.toNat_natCast, Nat.one_mul]
  rfl

/-- The largest power of two that is not above a natural number. -/
theorem logRatio_one {num : Nat} (h : num ≠ 0) : logRatio num 1 = num.log2 := by
  have hlog : ((num.log2 : Int) - (Nat.log2 1 : Nat)) = num.log2 := by
    rw [show Nat.log2 1 = 0 by decide, Int.natCast_zero, Int.sub_zero]
  simp only [logRatio, hlog, scaled_one, if_pos (Nat.log2_self_le h)]

/-- A result that is finite after all is the number that was rounded to. -/
theorem eq_of_finite {highest : Int} {c b : Binary}
    (h : (if highest < c.exponent then Extended.infinite c.negative else .finite c) = .finite b) :
    b = c := by
  split at h
  · cases h
  · exact (Extended.finite.inj h).symm

/-- The value of a number that is not negative and has no fraction. -/
theorem value_natural (m e : Nat) : value ⟨false, m, e⟩ = m * 2 ^ e := by
  rw [value, sign, if_neg Bool.false_ne_true, Int.cast_one, one_mul, zpow_natCast]

section
variable {num e : Nat}

/-- The mantissa of a natural number that is rounded to 53 bits has all of them. -/
theorem two_pow_le_nearest (hlog : num.log2 = 52 + e) (hnum : num ≠ 0) :
    2 ^ 52 ≤ nearest .even num (2 ^ e) := by
  refine le_trans ?_ (div_le_nearest .even num (2 ^ e))
  rw [Nat.le_div_iff_mul_le (Nat.two_pow_pos e), ← Nat.pow_add, ← hlog]
  exact Nat.log2_self_le hnum

/-- The float of 64 bits that a natural number is rounded to is its mantissa of 53 bits, moved to
its place. -/
theorem value_of_round {b : Binary} (hlog : num.log2 = 52 + e) (hnum : num ≠ 0)
    (h : Format.double.round false num 1 = .finite b) :
    b.value = nearest .even num (2 ^ e) * 2 ^ e := by
  have hexponent :
      max Format.double.lowest (logRatio num 1 - (Format.double.precision - 1)) = e := by
    rw [logRatio_one hnum, hlog]
    simp only [Format.double]
    omega
  simp only [Format.round, if_neg hnum, hexponent, scaled_one] at h
  generalize nearest .even num (2 ^ e) = m at h
  split at h
  · -- A carry moves the mantissa by one place, and the value stays.
    next hcarry =>
    have hhalf : m = 2 ^ 52 * 2 := hcarry
    rw [eq_of_finite (c := ⟨false, m / 2, ((e + 1 : ℕ) : ℤ)⟩) h, value_natural, hhalf,
      Nat.mul_div_cancel _ Nat.two_pos]
    push_cast
    ring
  · rw [eq_of_finite (c := ⟨false, m, e⟩) h, value_natural]

end

/-- Rounding a natural number to a float of 64 bits does not take it below a power of two, from
`2^52` on. -/
theorem two_pow_le_value_of_round {num k : Nat} {b : Binary} (hk : 52 ≤ k) (hle : 2 ^ k ≤ num)
    (h : Format.double.round false num 1 = .finite b) : (2 : ℚ) ^ k ≤ b.value := by
  have hnum : num ≠ 0 := Nat.ne_zero_of_lt (Nat.lt_of_lt_of_le (Nat.two_pow_pos k) hle)
  have hlog : k ≤ num.log2 := (Nat.le_log2 hnum).2 hle
  obtain ⟨e, he⟩ : ∃ e, num.log2 = 52 + e := Nat.exists_eq_add_of_le (hk.trans hlog)
  calc (2 : ℚ) ^ k ≤ 2 ^ (52 + e) := pow_le_pow_right₀ one_le_two (by omega)
    _ = 2 ^ 52 * 2 ^ e := pow_add 2 52 e
    _ ≤ nearest .even num (2 ^ e) * 2 ^ e := by
      gcongr
      exact_mod_cast two_pow_le_nearest he hnum
    _ = b.value := (value_of_round he hnum h).symm

end Binary

namespace Json

/-- An integer of a document has 64 bits, with a sign or without one. -/
def Number.IsWord : Number → Prop
  | .int i => -2 ^ 63 ≤ i ∧ i < 2 ^ 64
  | .float _ => True

/-! ## Numerals -/

namespace Numeral

/-- Digits are collected below the bound. -/
theorem collect_lt {bound value : Nat} (h : value < bound) (digits : List Nat) :
    (collect bound value digits).1 < bound := by
  induction digits generalizing value with
  | nil => exact h
  | cons d rest ih =>
    rw [collect]
    split
    · next hlt => exact ih hlt
    · exact h

/-- What is computed as a float is one. -/
theorem isWord_of_float {negative : Bool} {significand : Nat} {exponent : Int} {n : Number}
    (h : float negative significand exponent = .ok n) : n.IsWord := by
  rw [float] at h
  split at h
  · next b _ =>
    cases hscale : scale 4 b exponent with
    | error e =>
      rw [hscale] at h
      cases h
    | ok v =>
      rw [hscale] at h
      cases h
      trivial
  · cases h

/-- The integers that numerals stand for have 64 bits. -/
theorem isWord_of_number {numeral : Numeral} {n : Number} (h : numeral.number = .ok n) :
    n.IsWord := by
  have hwhole : (collect UInt64.size 0 numeral.whole).1 < 2 ^ 64 := collect_lt (by decide) _
  unfold number at h
  generalize collect UInt64.size 0 numeral.whole = collected at h hwhole
  obtain ⟨whole, dropped⟩ := collected
  dsimp only at h hwhole
  split at h
  · -- Without a fraction and an exponent the numeral is an integer, if it is one of 64 bits.
    split_ifs at h with _ _ hbig
    · exact isWord_of_float h
    · cases h
      exact ⟨by omega, by exact_mod_cast hwhole⟩
    · exact isWord_of_float h
    · cases h
      have hsmall : whole ≤ 2 ^ 63 := not_lt.1 fun hlt => hbig (.inr hlt)
      exact ⟨by omega, by omega⟩
  · split at h
    · exact isWord_of_float h
    · -- With an exponent of too many digits there is no number, or it is zero.
      split at h
      · exact isWord_of_float h
      · split at h
        · cases h
        · cases h
          trivial

end Numeral

/-! ## Floats -/

/-- The float that a number is converted to: the nearest one to an integer. -/
def Number.toDouble : Number → Binary.Extended
  | .int i => Binary.Format.double.ofInt i
  | .float b => .finite b

/-- An integer as one of 64 bits, the nearest one if it is out of their range. -/
def saturated (i : Int) : Int64 :=
  Int64.ofInt (max Int64.minValue.toInt (min Int64.maxValue.toInt i))

/-- The integer of 64 bits that a float is equal to. The range is tested on floats, with the
greatest integer of 64 bits as a float for its end, which is excluded. -/
def ofDouble? (f : Binary.Extended) : Option Int64 :=
  match f, Binary.Format.double.ofInt Int64.minValue.toInt,
      Binary.Format.double.ofInt Int64.maxValue.toInt with
  | .finite b, .finite low, .finite high =>
    if low.value ≤ b.value ∧ b.value < high.value then b.toInt?.map saturated else none
  | _, _, _ => none

/-- The time to live of a number, by way of a float where the number is no integer of 64 bits. -/
def Number.roundedInt64? (n : Number) : Option Int64 :=
  let integer := match n with
    | .int i => signed? i
    | .float _ => none
  integer <|> ofDouble? n.toDouble

/-- The least integer of 64 bits is a float. -/
theorem ofInt_minValue :
    Binary.Format.double.ofInt Int64.minValue.toInt = .finite ⟨true, 2 ^ 52, 11⟩ := by
  decide +kernel

/-- The greatest integer of 64 bits is no float, and the nearest one is greater by one. -/
theorem ofInt_maxValue :
    Binary.Format.double.ofInt Int64.maxValue.toInt = .finite ⟨false, 2 ^ 52, 11⟩ := by
  decide +kernel

/-- An integer of 64 bits is converted to itself. -/
theorem saturated_toInt (t : Int64) : saturated t.toInt = t := by
  rw [saturated, min_eq_right (Int64.toInt_le t), max_eq_right (Int64.minValue_le_toInt t),
    Int64.ofInt_toInt]

/-- Where a float is converted. -/
theorem ofDouble?_finite (b : Binary) :
    ofDouble? (.finite b) =
      if -2 ^ 63 ≤ b.value ∧ b.value < 2 ^ 63 then b.toInt?.map saturated else none := by
  have hlow : Binary.value ⟨true, 2 ^ 52, 11⟩ = -2 ^ 63 := by norm_num [Binary.value, Binary.sign]
  have hhigh : Binary.value ⟨false, 2 ^ 52, 11⟩ = 2 ^ 63 := by norm_num [Binary.value, Binary.sign]
  simp only [ofDouble?, ofInt_minValue, ofInt_maxValue, hlow, hhigh]

/-- A float is converted exactly where it is an integer of 64 bits, and to that integer. -/
theorem ofDouble?_eq_some_iff {b : Binary} {t : Int64} :
    ofDouble? (.finite b) = some t ↔ b.value = t.toInt := by
  rw [ofDouble?_finite, Option.ite_none_right_eq_some]
  simp only [Option.map_eq_some_iff, Binary.toInt?_eq_some_iff]
  constructor
  · rintro ⟨hrange, i, hi, rfl⟩
    rw [hi] at hrange
    obtain ⟨t, rfl⟩ := exists_int64_iff.2 (by exact_mod_cast hrange)
    rw [hi, saturated_toInt]
  · intro ht
    have hrange : -2 ^ 63 ≤ t.toInt ∧ t.toInt < 2 ^ 63 := exists_int64_iff.1 ⟨t, rfl⟩
    refine ⟨?_, t.toInt, ht, saturated_toInt t⟩
    rw [ht]
    exact_mod_cast hrange

/-- No float nearest to an integer from `2^63` on is converted. -/
theorem ofDouble?_ofInt_of_le {i : Int} (h : 2 ^ 63 ≤ i) :
    ofDouble? (Binary.Format.double.ofInt i) = none := by
  have hround : Binary.Format.double.ofInt i = Binary.Format.double.round false i.natAbs 1 := by
    rw [Binary.Format.ofInt, decide_eq_false (by omega)]
  cases hb : Binary.Format.double.ofInt i with
  | nan | infinite => rfl
  | finite b =>
    have hvalue : (2 : ℚ) ^ 63 ≤ b.value :=
      Binary.two_pow_le_value_of_round (by decide) (by omega) (hround.symm.trans hb)
    rw [ofDouble?_finite, if_neg fun hrange => absurd hrange.2 hvalue.not_gt]

/-- **Reading a time to live by way of a float is exact, too**: what rounding changed is not
taken. -/
theorem Number.roundedInt64?_eq_toInt64? {n : Number} (h : n.IsWord) :
    n.roundedInt64? = n.toInt64? := by
  cases n with
  | float b =>
    refine Option.ext fun t => ?_
    exact ofDouble?_eq_some_iff.trans (toInt64?_eq_some_iff (n := .float b)).symm
  | int i =>
    change (signed? i <|> ofDouble? (Binary.Format.double.ofInt i)) = signed? i
    cases hi : signed? i with
    | some t => rfl
    | none =>
      have hbig : 2 ^ 63 ≤ i := by
        by_contra hlt
        obtain ⟨t, ht⟩ := exists_int64_iff.2 ⟨h.1, not_le.1 hlt⟩
        rw [signed?_eq_some_iff.2 ht.symm] at hi
        cases hi
      exact ofDouble?_ofInt_of_le hbig

end Json

end AgentPlan
