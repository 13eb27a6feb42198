import AgentPlan.Json.Value

/-!
# Numerals

The spelling of a number in a JSON text, and the number it stands for.

A numeral without fraction and exponent is an integer if it is at least `-2^63` and below `2^64`;
`-0` is the float. Every other numeral is a float, computed in this way: its digits are collected
as long as the number they spell stays below `2^64`, later digits before the point raise the
exponent and later digits after it are dropped, the collected number is rounded, and it is
multiplied or divided by rounded powers of ten, of which none is above `10^308`.
-/

namespace AgentPlan.Json

/-- The spelling of a number: its sign, the digits before and after the point, and the exponent with
its sign. Digits are kept one by one, so that leading and trailing zeros still count. -/
structure Numeral where
  negative : Bool
  whole : List Nat
  fraction : List Nat
  exponent : Option (Bool × List Nat)
deriving DecidableEq, Repr

namespace Numeral

/-- Collects digits while the number they spell is below `bound`. Gives the number and how many
digits were left over, from the first one that is too much. -/
def collect (bound : Nat) (value : Nat) : List Nat → Nat × Nat
  | [] => (value, 0)
  | d :: rest =>
    if value * 10 + d < bound then collect bound (value * 10 + d) rest
    else (value, rest.length + 1)

/-- A numeral whose value no float can hold. `unread` digits at its end were not needed to see this,
so the fault is placed before them. -/
structure OutOfRange where
  unread : Nat
deriving DecidableEq, Repr

/-- The float nearest to `10 ^ n`, for `n` up to 308. These are the constants of a table, each
rounded once. -/
def powerOfTen (n : Nat) : Binary.Extended :=
  Binary.Format.double.round false (Nat.pow 10 n) 1

/-- Multiplies or divides by a power of ten. Exponents beyond 308 are divided out 308 at a time, as
long as something is left of the number. Each step rounds, so the result need not be the float
nearest to the exact value. -/
def scale : (fuel : Nat) → Binary → Int → Except OutOfRange Binary
  | 0, b, _ => .ok b
  | fuel + 1, b, e =>
    if e.natAbs ≤ 308 then
      match powerOfTen e.natAbs with
      | .finite p =>
        let r := if 0 ≤ e then Binary.Format.double.mul b p else Binary.Format.double.div b p
        match r with
        | .finite v => .ok v
        | _ => .error ⟨0⟩
      | _ => .error ⟨0⟩
    else if b.mantissa = 0 then .ok b
    else if 0 ≤ e then .error ⟨0⟩
    else
      match powerOfTen 308 with
      | .finite p =>
        match Binary.Format.double.div b p with
        | .finite v => scale fuel v (e + 308)
        | _ => .error ⟨0⟩
      | _ => .error ⟨0⟩

/-- The float for `significand · 10 ^ exponent`. Four rounds are enough: a significand below `2 ^
64` is nothing after three divisions by `10 ^ 308`. -/
def float (negative : Bool) (significand : Nat) (exponent : Int) : Except OutOfRange Number :=
  match Binary.Format.double.round false significand 1 with
  | .finite b => (scale 4 b exponent).map fun v => .float { v with negative }
  | _ => .error ⟨0⟩

/-- The exponent, kept within what 32 bits hold. Beyond that it makes no difference: the number is
zero or out of range. -/
def clampExponent (e : Int) : Int :=
  max (-2147483648) (min 2147483647 e)

/-- The number that a numeral stands for: an integer where it can be one, and else a float. An
exponent that itself is too large to be read makes the number zero, or out of range. -/
def number (n : Numeral) : Except OutOfRange Number :=
  let (whole, dropped) := collect UInt64.size 0 n.whole
  match n.fraction, n.exponent with
  | [], none =>
    if dropped ≠ 0 then float n.negative whole dropped
    else if !n.negative then .ok (.int whole)
    else if whole = 0 ∨ Nat.pow 2 63 < whole then float true whole 0
    else .ok (.int (-whole))
  | fraction, exponent =>
    let (significand, ignored) := collect UInt64.size whole fraction
    let base : Int := (dropped : Int) - ((fraction.length - ignored : Nat) : Int)
    match exponent with
    | none => float n.negative significand base
    | some (negative, digits) =>
      let (e, unread) := collect (Nat.pow 2 31) 0 digits
      if unread = 0 then
        float n.negative significand (clampExponent (if negative then base - e else base + e))
      else if significand ≠ 0 ∧ !negative then .error ⟨unread - 1⟩
      else .ok (.float ⟨n.negative, 0, Binary.Format.double.lowest⟩)

end Numeral

end AgentPlan.Json
