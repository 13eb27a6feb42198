/-!
# Labels in ASCII

A label of a host name that has other characters than those of ASCII is written in ASCII: first the
characters that are ASCII, then a hyphen if there are any, then where the others go. These are taken
in ascending order, and a number says how many steps a counter takes from one to the next, which
runs over all places and then over all characters. The digits of the numbers are weighted so that
small numbers are short, and what is small is adapted to the numbers before.
-/

namespace AgentPlan.Web.Punycode

/-! ## Digits -/

/-- The letters are the digits from 0 to 25, and the digits those from 26 to 35. -/
def digitChar (d : Nat) : Char :=
  if d < 26 then Char.ofNat ('a'.toNat + d) else Char.ofNat ('0'.toNat + (d - 26))

/-- The value of a digit, whose letters may be in either case. -/
def digitValue? (c : Char) : Option Nat :=
  if c.isLower then some (c.toNat - 'a'.toNat)
  else if c.isUpper then some (c.toNat - 'A'.toNat)
  else if c.isDigit then some (c.toNat - '0'.toNat + 26)
  else none

/-- Below its threshold a digit is the last one of its number. `place` is 36 for the first digit, 72
for the second one, and so on. -/
def threshold (place bias : Nat) : Nat :=
  if place ≤ bias + 1 then 1 else if bias + 26 ≤ place then 26 else place - bias

/-- Thresholds are positive, so the number that is left after a digit is smaller. This is why
`digits` ends. -/
theorem threshold_pos (place bias : Nat) : 1 ≤ threshold place bias := by
  unfold threshold; split
  · exact Nat.le_refl 1
  · split <;> omega

/-- The number of digits by which a number is expected to be longer, in steps of 36, and what is
left of the number. -/
def shrink (steps number : Nat) : Nat × Nat :=
  if h : 455 < number then shrink (steps + 36) (number / 35) else (steps, number)
termination_by number
decreasing_by exact Nat.div_lt_self (by omega) (by omega)

/-- The bias after a number, with `count` characters so far. The first number is halved more
strongly than the others, since it steps over a whole script. -/
def adapt (number count : Nat) (isFirst : Bool) : Nat :=
  let number := if isFirst then number / 700 else number / 2
  let (steps, number) := shrink 0 (number + number / count)
  steps + 36 * number / (number + 38)

/-- The bias before the first number. -/
def firstBias : Nat := 72

/-- The first character outside of ASCII, where the counter starts. -/
def firstCode : Nat := 0x80

/-! ## Writing -/

/-- The digits of a number, from a place on, the least one first. The number that is left gets
smaller with each digit. -/
def digits (bias place number : Nat) : List Char :=
  let t := threshold place bias
  if h : number < t then [digitChar number]
  else
    digitChar (t + (number - t) % (36 - t)) :: digits bias (place + 36) ((number - t) / (36 - t))
termination_by number
decreasing_by
  have := threshold_pos place bias
  exact Nat.lt_of_le_of_lt (Nat.div_le_self _ _) (by omega)

/-- What is kept while a label is written: the digits so far, the steps since the last number, the
bias, and how many characters have their places. -/
structure Writing where
  written : List Char
  steps : Nat
  bias : Nat
  count : Nat

/-- Passes a character of the label while those with number `code` are given their places. `basic`
is the number of characters that are ASCII. -/
def Writing.pass (w : Writing) (basic code : Nat) (c : Char) : Writing :=
  if c.toNat < code then { w with steps := w.steps + 1 }
  else if c.toNat = code then
    { written := w.written ++ digits w.bias 36 w.steps
      steps := 0
      bias := adapt w.steps (w.count + 1) (w.count = basic)
      count := w.count + 1 }
  else w

/-- Gives the characters with each of some numbers their places, where `code` is the first number
not considered yet. -/
def Writing.passAll (label : List Char) (basic : Nat) : Writing → (code : Nat) → List Nat → Writing
  | w, _, [] => w
  | w, code, next :: rest =>
    let w := { w with steps := w.steps + (next - code) * (w.count + 1) }
    let w := label.foldl (fun w c => w.pass basic next c) w
    passAll label basic { w with steps := w.steps + 1 } (next + 1) rest

/-- Puts a number into an ascending list, unless it is there. The numbers of a label's characters
are considered in this order. -/
def insertNumber (n : Nat) : List Nat → List Nat
  | [] => [n]
  | m :: rest =>
    if n < m then n :: m :: rest
    else if n = m then m :: rest
    else m :: insertNumber n rest

/-- The character is ASCII: it is written as it is. -/
def isBasic (c : Char) : Bool :=
  c.toNat < firstCode

/-- A label in ASCII, without the mark in front. It is meant for labels with other characters. -/
def encode (label : List Char) : List Char :=
  let basic := label.filter isBasic
  let others := (label.filter fun c => !isBasic c).foldl (fun ns c => insertNumber c.toNat ns) []
  let w := Writing.passAll label basic.length ⟨[], 0, firstBias, basic.length⟩ firstCode others
  basic ++ (if basic.isEmpty then [] else ['-']) ++ w.written

/-! ## Reading -/

/-- The number of a character: one of Unicode that is not a surrogate. -/
def isCharacter (n : Nat) : Bool :=
  n < 0xd800 || (0xdfff < n && n < 0x110000)

/-- Puts an element at a place of a list, before what stands there. -/
def insertAt (place : Nat) (a : α) (as : List α) : List α :=
  as.take place ++ a :: as.drop place

/-- What is kept while a label is read: its characters so far, the last number put in, and the bias;
where the counter stood before the current number and where it is; and the weight and the place of
the next digit. -/
structure Reading where
  label : List Char
  code : Nat
  bias : Nat
  before : Nat
  counter : Nat
  weight : Nat
  place : Nat

/-- Reads a digit. The last one of a number says which character is put in next, and where. -/
def Reading.digit? (r : Reading) (d : Nat) : Option Reading :=
  let counter := r.counter + d * r.weight
  let t := threshold r.place r.bias
  if d < t then
    let count := r.label.length + 1
    let code := r.code + counter / count
    let index := counter % count
    if isCharacter code then
      some {
        label := insertAt index (Char.ofNat code) r.label
        code
        bias := adapt (counter - r.before) count (r.before = 0)
        before := index + 1
        counter := index + 1
        weight := 1
        place := 36 }
    else none
  else some { r with counter, weight := r.weight * (36 - t), place := r.place + 36 }

/-- Reads digits to the end of a number. A label that ends within a number is not sound. -/
def Reading.run? : Reading → List Char → Option (List Char)
  | r, [] => if r.place = 36 then some r.label else none
  | r, c :: rest => do (← r.digit? (← digitValue? c)).run? rest

/-- The label that is written in ASCII. The hyphen after the characters that are ASCII is the last
one, and they are at least one. -/
def decode? (written : List Char) : Option (List Char) :=
  let tail := (written.reverse.takeWhile (· ≠ '-')).reverse
  let head := written.take (written.length - tail.length - 1)
  let (basic, rest) := if head.isEmpty then ([], written) else (head, tail)
  Reading.run? ⟨basic, firstCode, firstBias, 0, 0, 1, 36⟩ rest

end AgentPlan.Web.Punycode
