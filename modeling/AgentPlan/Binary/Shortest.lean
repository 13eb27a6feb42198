import AgentPlan.Binary.Basic

/-!
# The shortest decimal of a binary number

Of the decimals that a format rounds back to a given number, `shortest` takes one with the fewest
digits, and of these the nearest. The decimals that round back fill an interval around the number
whose ends lie half way to its two neighbours; a decimal on an end rounds back when the mantissa is
even. `Layout` holds what a printed form decides beyond the digits: where positional notation ends
and how an exponent is written.
-/

namespace AgentPlan.Binary

/-- A decimal, `digits · 10 ^ exponent`. Zeros at the end of the digits are allowed, and taken away
by `strip`. -/
structure Decimal where
  digits : Nat
  exponent : Int
deriving DecidableEq, Repr

/-- The quotient `num / den` over `10 ^ exponent`, as a quotient of natural numbers. Nothing is
rounded. -/
def scaledTen (num den : Nat) (exponent : Int) : Nat × Nat :=
  if 0 ≤ exponent then (num, den * Nat.pow 10 exponent.toNat)
  else (num * Nat.pow 10 (-exponent).toNat, den)

/-- The power `10 ^ exponent` is at most `num / den`. -/
def tenLe (exponent : Int) (num den : Nat) : Bool :=
  let (n, d) := scaledTen num den exponent
  decide (d ≤ n)

/-- The largest `k` with `10 ^ k ≤ num / den`, for positive `num` and `den`. The binary logarithm
gives a guess that is off by at most one. -/
def logTen (num den : Nat) : Int :=
  let guess := (((num.log2 : Int) - den.log2) * 30103) / 100000
  if tenLe (guess + 1) num den then guess + 1
  else if tenLe guess num den then guess
  else guess - 1

/-- A number and the ends of the interval that rounds to it, over one denominator. The ends round to
the number if the interval is closed. -/
structure Interval where
  low : Nat
  value : Nat
  high : Nat
  den : Nat
  closed : Bool

/-- The interval that a format rounds to a positive number. The gap below is half as wide as the one
above where the exponent changes. -/
def Format.interval (f : Format) (mantissa : Nat) (exponent : Int) : Interval :=
  let atChange := mantissa = Nat.pow 2 (f.precision - 1) ∧ f.lowest < exponent
  let (unit, den) := scaled 1 1 (2 - exponent)
  { low := (4 * mantissa - if atChange then 1 else 2) * unit
    value := 4 * mantissa * unit
    high := (4 * mantissa + 2) * unit
    den := den
    closed := mantissa % 2 = 0 }

/-- The decimal `digits · 10 ^ exponent` rounds to the number of the interval: it lies between the
ends, or on one of them if they count. -/
def Interval.holds (i : Interval) (digits : Nat) (exponent : Int) : Bool :=
  let (n, d) := scaledTen digits 1 (-exponent)
  if i.closed then i.low * d ≤ n * i.den && n * i.den ≤ i.high * d
  else i.low * d < n * i.den && n * i.den < i.high * d

/-- The better of a number's two neighbours among the multiples of `10 ^ exponent`, if one of them
rounds to it: the nearer one, and of two equally near the one that the tie goes to. -/
def Interval.onGrid (i : Interval) (tie : Tie) (exponent : Int) : Option Nat :=
  let (n, d) := scaledTen i.value i.den exponent
  let below := n / d
  match i.holds below exponent, i.holds (below + 1) exponent with
  | true, true => some (nearest tie n d)
  | true, false => some below
  | false, true => some (below + 1)
  | false, false => none

/-- Tries grids with more and more digits, starting at `10 ^ exponent`. At the end of the tries the
nearest decimal is taken, which rounds back since there are enough digits then. -/
def Interval.search (i : Interval) (tie : Tie) : (tries : Nat) → (exponent : Int) → Decimal
  | 0, exponent => ⟨nearest tie (scaledTen i.value i.den exponent).1
      (scaledTen i.value i.den exponent).2, exponent⟩
  | tries + 1, exponent =>
    match i.onGrid tie exponent with
    | some digits => ⟨digits, exponent⟩
    | none => i.search tie tries (exponent - 1)

/-- The decimal without zeros at the end of its digits. There are at most as many of them as
`fuel`. -/
def Decimal.strip : (fuel : Nat) → Decimal → Decimal
  | 0, d => d
  | fuel + 1, d =>
    if d.digits ≠ 0 ∧ d.digits % 10 = 0 then Decimal.strip fuel ⟨d.digits / 10, d.exponent + 1⟩
    else d

/-- The shortest decimal that rounds to a number of the format, and of the shortest the nearest.
Seventeen digits are enough for 64 bits. -/
def Format.shortest (f : Format) (tie : Tie) (b : Binary) : Decimal :=
  if b.mantissa = 0 then ⟨0, 0⟩
  else
    let i := f.interval b.mantissa b.exponent
    (i.search tie 17 (logTen i.value i.den)).strip 20

/-! ## Printed forms -/

/-- How a number is printed: positional for decimal exponents of the leading digit from `lowest` to
`highest` (everywhere if they are absent), with `.0` after a whole number or not, with a plus sign
on positive exponents or not, and with which of two shortest decimals that are equally near. -/
structure Layout where
  positional : Option (Int × Int)
  pointZero : Bool
  plusSign : Bool
  tie : Tie

/-- Digits with a decimal point before position `point`, counted from the left. Zeros fill the
places that the digits leave, on either side. -/
def Layout.positionalText (l : Layout) (digits : String) (point : Int) : String :=
  let count : Int := digits.length
  if point ≤ 0 then "0." ++ "".pushn '0' (-point).toNat ++ digits
  else if count ≤ point then
    digits ++ "".pushn '0' (point - count).toNat ++ (if l.pointZero then ".0" else "")
  else
    String.ofList (digits.toList.take point.toNat) ++ "." ++
      String.ofList (digits.toList.drop point.toNat)

/-- Digits with the point after the first one, and a power of ten. A single digit has no point. -/
def Layout.exponentText (l : Layout) (digits : String) (leading : Int) : String :=
  let head := String.ofList (digits.toList.take 1)
  let tail := String.ofList (digits.toList.drop 1)
  let mark := if l.plusSign && decide (0 ≤ leading) then "e+" else "e"
  head ++ (if tail = "" then "" else "." ++ tail) ++ mark ++ toString leading

/-- The printed form of a decimal, positional or with a power of ten as the layout has it. Zero is
always positional. -/
def Layout.render (l : Layout) (negative : Bool) (d : Decimal) : String :=
  let digits := toString d.digits
  let leading : Int := d.exponent + digits.length - 1
  let usesPoint := match l.positional with
    | none => true
    | some (low, high) => d.digits = 0 || (decide (low ≤ leading) && decide (leading ≤ high))
  (if negative then "-" else "") ++
    if usesPoint then l.positionalText digits (leading + 1) else l.exponentText digits leading

/-- The printed form of a number of the format, from its shortest decimal. A zero has its sign,
too. -/
def Layout.text (l : Layout) (f : Format) (b : Binary) : String :=
  l.render b.negative (f.shortest l.tie b)

/-- The form that always writes every place: `0.00001`, `5`, `100000`. Durations and temperatures in
messages have it. -/
def Layout.places : Layout := ⟨none, false, false, .up⟩

end AgentPlan.Binary
