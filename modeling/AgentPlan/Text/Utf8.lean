/-!
# UTF-8

Bytes read as characters, one unit at a time: a unit is a character or a broken sequence, which is
the longest start of a sequence that could still have become a character, and at least one byte.
`decode?` accepts sound bytes only, `decodeLossy` puts the replacement character for every broken
sequence, and `firstBroken` says where the first one begins.
-/

namespace AgentPlan.Text.Utf8

/-- The bytes of a text, character by character. All that JSON readers see of a text is its
bytes. -/
def encode (s : String) : List UInt8 :=
  s.toList.flatMap String.utf8EncodeChar

/-- A character, or a broken sequence, with the number of bytes it covers. Each covers at least one
byte. -/
structure Unit where
  char? : Option Char
  width : Nat
deriving DecidableEq, Repr

/-- What a leading byte announces: how many bytes follow it, and the bounds of the first of these.
The narrower bounds keep out overlong forms, surrogates and numbers above U+10FFFF. -/
def announced (lead : UInt8) : Option (Nat × UInt8 × UInt8) :=
  if 0xc2 ≤ lead ∧ lead ≤ 0xdf then some (1, 0x80, 0xbf)
  else if lead = 0xe0 then some (2, 0xa0, 0xbf)
  else if lead = 0xed then some (2, 0x80, 0x9f)
  else if 0xe1 ≤ lead ∧ lead ≤ 0xef then some (2, 0x80, 0xbf)
  else if lead = 0xf0 then some (3, 0x90, 0xbf)
  else if lead = 0xf4 then some (3, 0x80, 0x8f)
  else if 0xf1 ≤ lead ∧ lead ≤ 0xf3 then some (3, 0x80, 0xbf)
  else none

/-- Adds `count` following bytes to the number `code`. `width` bytes are already covered; the next
byte lies between `low` and `high`, those after it between `0x80` and `0xbf`. -/
def follow (code width : Nat) (low high : UInt8) : Nat → List UInt8 → Unit
  | 0, _ => ⟨some (Char.ofNat code), width⟩
  | _ + 1, [] => ⟨none, width⟩
  | count + 1, b :: rest =>
    if low ≤ b ∧ b ≤ high then
      follow (code * 64 + b.toNat % 64) (width + 1) 0x80 0xbf count rest
    else ⟨none, width⟩

/-- The unit that starts with the byte `lead`, where `rest` are the bytes after it. A byte of ASCII
is a character by itself. -/
def unit (lead : UInt8) (rest : List UInt8) : Unit :=
  if lead < 0x80 then ⟨some (Char.ofNat lead.toNat), 1⟩
  else match announced lead with
    | none => ⟨none, 1⟩
    | some (count, low, high) =>
      follow (lead.toNat % Nat.pow 2 (6 - count)) 1 low high count rest

/-- The units of some bytes, the first `skip` of which belong to a unit already taken. The recursion
goes byte by byte. -/
def unitsFrom : (skip : Nat) → List UInt8 → List Unit
  | _, [] => []
  | skip + 1, _ :: rest => unitsFrom skip rest
  | 0, b :: rest =>
    let u := unit b rest
    u :: unitsFrom (u.width - 1) rest

/-- The units of some bytes, in order. Their widths add up to the number of bytes. -/
def units (bytes : List UInt8) : List Unit :=
  unitsFrom 0 bytes

/-- The number of bytes before the first broken sequence of the units, or nothing if all are
characters. -/
def brokenAt? : List Unit → Option Nat
  | [] => none
  | u :: rest => if u.char?.isNone then some 0 else (brokenAt? rest).map (· + u.width)

/-- The number of bytes before the first broken sequence, or nothing if the bytes are sound. -/
def firstBroken (bytes : List UInt8) : Option Nat :=
  brokenAt? (units bytes)

/-- The text that sound bytes spell; nothing if there is a broken sequence. -/
def decode? (bytes : List UInt8) : Option String :=
  ((units bytes).mapM Unit.char?).map String.ofList

/-- The text of any bytes, with U+FFFD for each broken sequence. For sound bytes it is the text that
they spell. -/
def decodeLossy (bytes : List UInt8) : String :=
  String.ofList ((units bytes).map fun u => u.char?.getD '\uFFFD')

end AgentPlan.Text.Utf8
