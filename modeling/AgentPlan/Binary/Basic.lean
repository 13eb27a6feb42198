/-!
# Binary floating-point numbers

Finite numbers `± mantissa · 2 ^ exponent` as exact data, and the formats they are rounded to.
Every operation takes the exact quotient of two natural numbers and rounds it once to the nearest
number of the format, a tie going to the even mantissa (`Format.round`). A rounded number has one
spelling: its mantissa has the full precision, or its exponent is the format's lowest.
-/

namespace AgentPlan

/-- A finite binary number, `mantissa · 2 ^ exponent` with a sign. Zero has a sign, too, so that the
zeros of the two signs are different numbers here. -/
structure Binary where
  negative : Bool
  mantissa : Nat
  exponent : Int
deriving DecidableEq, Repr

namespace Binary

/-- A number format: mantissas have at most `precision` bits, exponents lie between `lowest` and
`highest`. Numbers that are smaller in magnitude keep the lowest exponent and lose bits. -/
structure Format where
  precision : Nat
  lowest : Int
  highest : Int
deriving DecidableEq, Repr

/-- Numbers of 32 bits: the format of temperatures, and of durations in seconds. -/
def Format.single : Format := ⟨24, -149, 104⟩

/-- Numbers of 64 bits: the format of the floats in a JSON text. -/
def Format.double : Format := ⟨53, -1074, 971⟩

/-- A result that may leave the finite numbers. A text can spell any of these; a JSON text spells
finite numbers only. -/
inductive Extended where
  | nan
  | infinite (negative : Bool)
  | finite (value : Binary)
deriving DecidableEq, Repr

/-- The quotient `num / den` over `2 ^ exponent`, as a quotient of natural numbers. Nothing is
rounded. -/
def scaled (num den : Nat) (exponent : Int) : Nat × Nat :=
  if 0 ≤ exponent then (num, den * Nat.pow 2 exponent.toNat)
  else (num * Nat.pow 2 (-exponent).toNat, den)

/-- The largest `k` with `2 ^ k ≤ num / den`, for positive `num` and `den`. The logarithms of the
two differ from it by at most one, which one comparison settles. -/
def logRatio (num den : Nat) : Int :=
  let k : Int := (num.log2 : Int) - den.log2
  let (n, d) := scaled num den k
  if d ≤ n then k else k - 1

/-- Which of two equally near numbers is taken: the even one, or the greater one. Arithmetic takes
the even one, and some printed forms take the greater one. -/
inductive Tie where
  | even
  | up
deriving DecidableEq, Repr

/-- A tie between a number and the next one goes to the next one. -/
def Tie.goesUp (tie : Tie) (lower : Nat) : Bool :=
  match tie with
  | .even => lower % 2 = 1
  | .up => true

/-- The natural number nearest to `num / den`, where the tie decides between two that are equally
near. -/
def nearest (tie : Tie) (num den : Nat) : Nat :=
  let q := num / den
  let r := num % den
  if den < 2 * r ∨ (den = 2 * r ∧ tie.goesUp q) then q + 1 else q

/-- The number of a format nearest to `num / den`, ties going to the even mantissa; infinite when
that is out of the format's range. Every other operation is an instance of this. -/
def Format.round (f : Format) (negative : Bool) (num den : Nat) : Extended :=
  if num = 0 then .finite ⟨negative, 0, f.lowest⟩
  else
    let e := max f.lowest (logRatio num den - (f.precision - 1))
    let (n, d) := scaled num den e
    let m := nearest .even n d
    let (m, e) := if m = Nat.pow 2 f.precision then (m / 2, e + 1) else (m, e)
    if f.highest < e then .infinite negative else .finite ⟨negative, m, e⟩

/-- The nearest number to `mantissa · 2 ^ exponent / divisor`, by exact arithmetic and one
rounding. -/
def Format.roundScaled (f : Format) (negative : Bool) (mantissa : Nat) (exponent : Int)
    (divisor : Nat) : Extended :=
  if 0 ≤ exponent then f.round negative (mantissa * Nat.pow 2 exponent.toNat) divisor
  else f.round negative mantissa (divisor * Nat.pow 2 (-exponent).toNat)

/-- The nearest number to an integer. Integers of at most `precision` bits are kept exactly. -/
def Format.ofInt (f : Format) (i : Int) : Extended :=
  f.round (decide (i < 0)) i.natAbs 1

/-- The rounded product. Zero times a number is a zero, whose sign is that of the product. -/
def Format.mul (f : Format) (a b : Binary) : Extended :=
  f.roundScaled (a.negative != b.negative) (a.mantissa * b.mantissa) (a.exponent + b.exponent) 1

/-- The rounded quotient; the divisor is not zero. -/
def Format.div (f : Format) (a b : Binary) : Extended :=
  f.roundScaled (a.negative != b.negative) a.mantissa (a.exponent - b.exponent) b.mantissa

/-- The rounded sum of two numbers that are not negative, by way of the exact sum. -/
def Format.addMagnitudes (f : Format) (a b : Binary) : Extended :=
  let low := min a.exponent b.exponent
  let m := a.mantissa * Nat.pow 2 (a.exponent - low).toNat +
    b.mantissa * Nat.pow 2 (b.exponent - low).toNat
  f.roundScaled false m low 1

/-- The number in another format, rounded once if it has too many bits for it. -/
def Format.convert (f : Format) (a : Binary) : Extended :=
  f.roundScaled a.negative a.mantissa a.exponent 1

/-- The exact value, if it is an integer. A number with a negative exponent is one when its mantissa
is a multiple of the power of two. -/
def toInt? (a : Binary) : Option Int :=
  let sign : Int := if a.negative then -1 else 1
  if 0 ≤ a.exponent then some (sign * (a.mantissa * Nat.pow 2 a.exponent.toNat : Nat))
  else
    let d := Nat.pow 2 (-a.exponent).toNat
    if a.mantissa % d = 0 then some (sign * (a.mantissa / d : Nat)) else none

/-- The number lies between zero and the natural number `bound`, ends included. A zero of either
sign does. -/
def between (a : Binary) (bound : Nat) : Bool :=
  let (n, d) := scaled a.mantissa 1 (-a.exponent)
  a.mantissa = 0 || (!a.negative && decide (n ≤ bound * d))

end Binary

end AgentPlan
