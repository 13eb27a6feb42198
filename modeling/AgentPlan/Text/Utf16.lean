import AgentPlan.Text.Utf8

/-!
# UTF-16, and texts that tell how they are written

Bytes read in pairs as 16-bit units, and units as characters; a unit that is no character and no
half of one is read as U+FFFD, and so is what is left over at the end. `decodeMarked` reads bytes
that may begin with a byte order mark, which says whether they are UTF-16, and in which order the
bytes of a pair are; without a mark they are UTF-8.
-/

namespace AgentPlan.Text

namespace Utf16

/-- Which byte of a pair is the high one. A mark at the start of the bytes says which. -/
inductive Order where
  | highFirst
  | lowFirst
deriving DecidableEq, Repr

/-- The number that a pair of bytes spells, in the given order. -/
def Order.unit (order : Order) (a b : UInt8) : Nat :=
  match order with
  | .highFirst => a.toNat * 256 + b.toNat
  | .lowFirst => b.toNat * 256 + a.toNat

/-- The units of some bytes, and whether a byte is left over at their end. -/
def units (order : Order) : List UInt8 → List Nat × Bool
  | a :: b :: rest =>
    let (us, torn) := units order rest
    (order.unit a b :: us, torn)
  | [_] => ([], true)
  | [] => ([], false)

/-- The first half of a character beyond U+FFFF. -/
def isHigh (u : Nat) : Bool :=
  0xd800 ≤ u && u ≤ 0xdbff

/-- The second half of a character beyond U+FFFF. -/
def isLow (u : Nat) : Bool :=
  0xdc00 ≤ u && u ≤ 0xdfff

/-- The character with the given halves, which hold ten bits each. -/
def joined (high low : Nat) : Char :=
  Char.ofNat ((high - 0xd800) * 0x400 + (low - 0xdc00) + 0x10000)

/-- The characters of some units. `torn` says that a byte is left over after them; together with a
first half at the end it makes one broken unit. -/
def characters (torn : Bool) : List Nat → List Char
  | [] => if torn then ['\uFFFD'] else []
  | [u] =>
    if isHigh u then ['\uFFFD']
    else (if isLow u then '\uFFFD' else Char.ofNat u) :: characters torn []
  | u :: v :: rest =>
    if isHigh u then
      if isLow v then joined u v :: characters torn rest
      else '\uFFFD' :: characters torn (v :: rest)
    else (if isLow u then '\uFFFD' else Char.ofNat u) :: characters torn (v :: rest)

/-- The text of any bytes, with U+FFFD for every unit that is no character and no part of one. -/
def decodeLossy (order : Order) (bytes : List UInt8) : String :=
  let (us, torn) := units order bytes
  String.ofList (characters torn us)

end Utf16

/-- The text of bytes that may begin with a mark. The mark is no part of the text. The bodies of
answers are read so. -/
def decodeMarked : List UInt8 → String
  | 0xef :: 0xbb :: 0xbf :: rest => Utf8.decodeLossy rest
  | 0xfe :: 0xff :: rest => Utf16.decodeLossy .highFirst rest
  | 0xff :: 0xfe :: rest => Utf16.decodeLossy .lowFirst rest
  | bytes => Utf8.decodeLossy bytes

end AgentPlan.Text
