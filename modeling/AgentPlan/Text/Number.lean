import AgentPlan.Binary.Basic

/-!
# Numbers in texts

How a text spells a number. `Text.unsigned` reads a number below a bound, without sign or with a
plus sign; the digits are read from left to right, and the first thing that is wrong counts.
`Binary.Format.ofText?` reads a decimal with optional sign, point and exponent, or the words for
not-a-number and infinity in any letter case, and rounds its exact value once.
-/

namespace AgentPlan

namespace Text

/-- What is wrong with the text of a number. A text with both faults has the one that comes first in
it. -/
inductive NumberFault where
  | badDigit
  | tooLarge
deriving DecidableEq, Repr

/-- The message of a fault, as it stands in the report on a variable that is no number. -/
def NumberFault.message : NumberFault → String
  | .badDigit => "invalid digit found in string"
  | .tooLarge => "number too large to fit in target type"

/-- Reads digits after a number that is below the bound. The bound is checked after each digit, so
that a long text of digits is too large before a later character can be wrong. -/
def unsignedDigits (bound : Nat) : (value : Nat) → List Char → Except NumberFault Nat
  | value, [] => .ok value
  | value, c :: rest =>
    if ¬c.isDigit then .error .badDigit
    else
      let value := value * 10 + (c.toNat - '0'.toNat)
      if value < bound then unsignedDigits bound value rest else .error .tooLarge

/-- The number below the bound that a text spells, in decimal digits with or without a plus sign.
Zeros may stand in front. -/
def unsigned (bound : Nat) (s : String) : Except NumberFault Nat :=
  let digits := match s.toList with
    | '+' :: rest => rest
    | cs => cs
  if digits.isEmpty then .error .badDigit else unsignedDigits bound 0 digits

end Text

namespace Binary

/-- The value of a decimal digit of ASCII. -/
def digit? (c : Char) : Option Nat :=
  if '0' ≤ c ∧ c ≤ '9' then some (c.toNat - '0'.toNat) else none

/-- The number that decimal digits spell after `value`. The characters are digits, which the callers
have checked. -/
def readDigits (value : Nat) (cs : List Char) : Nat :=
  cs.foldl (fun n c => n * 10 + (digit? c).getD 0) value

/-- The leading decimal digits and the rest. -/
def spanDigits (cs : List Char) : List Char × List Char :=
  cs.span fun c => (digit? c).isSome

/-- The exponent after the digits: none, or a mark with a signed number that ends the text. A mark
without digits spells no number. -/
def readExponent? : List Char → Option Int
  | [] => some 0
  | mark :: rest =>
    if mark ≠ 'e' ∧ mark ≠ 'E' then none
    else
      let (negative, digits) := match rest with
        | '+' :: r => (false, r)
        | '-' :: r => (true, r)
        | r => (false, r)
      if digits.isEmpty ∨ digits.any fun c => (digit? c).isNone then none
      else
        let n : Int := readDigits 0 digits
        some (if negative then -n else n)

/-- The number nearest to `digits · 10 ^ exponent`. A decimal far outside the range of every format
is decided by its leading digit alone, which bounds the powers that are computed. -/
def Format.ofDecimal (f : Format) (negative : Bool) (digits : Nat) (exponent : Int) : Extended :=
  let leading : Int := exponent + (toString digits).length
  if digits = 0 then .finite ⟨negative, 0, f.lowest⟩
  else if 400 < leading then .infinite negative
  else if leading < -400 then .finite ⟨negative, 0, f.lowest⟩
  else if 0 ≤ exponent then f.round negative (digits * Nat.pow 10 exponent.toNat) 1
  else f.round negative digits (Nat.pow 10 (-exponent).toNat)

/-- The number that a text without its sign spells: one of the words, or at least one digit, perhaps
with a point before, among or after the digits, and an exponent at the end. -/
def Format.ofUnsigned? (f : Format) (negative : Bool) (cs : List Char) : Option Extended :=
  let word := String.ofList (cs.map Char.toLower)
  if word = "nan" then some .nan
  else if word = "inf" ∨ word = "infinity" then some (.infinite negative)
  else
    let (whole, rest) := spanDigits cs
    let (fraction, rest) := match rest with
      | '.' :: r => spanDigits r
      | r => ([], r)
    if whole.isEmpty ∧ fraction.isEmpty then none
    else (readExponent? rest).map fun e =>
      f.ofDecimal negative (readDigits 0 (whole ++ fraction)) (e - fraction.length)

/-- The number that a text spells, rounded to the format. White space is not allowed, and one sign
may stand in front, also of a word. -/
def Format.ofText? (f : Format) (s : String) : Option Extended :=
  match s.toList with
  | '+' :: rest => f.ofUnsigned? false rest
  | '-' :: rest => f.ofUnsigned? true rest
  | rest => f.ofUnsigned? false rest

end Binary

end AgentPlan
