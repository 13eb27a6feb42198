import AgentPlan.Json.Numeral
import AgentPlan.Json.Fault
import AgentPlan.Text.Utf8

/-!
# Tokens

The lexical items of a JSON text. A number or a string can be read in two ways: strictly, to get
its value, or laxly, to pass over it; a lax reading checks the grammar but neither the range of a
number nor what the characters of a string are. A token keeps both results, and whoever uses it
decides which of them counts.
-/

namespace AgentPlan.Json

/-- What a token is. `broken` is an item with the same fault in either reading, `stray` a byte that
begins no item, and `finish` the end of the text. A number and a string hold the result of a strict
reading and the fault, if any, of a lax one. -/
inductive Token.Kind where
  | openBrace
  | closeBrace
  | openBracket
  | closeBracket
  | comma
  | colon
  | null
  | bool (value : Bool)
  | number (strict : Except Fault Number) (lax : Option Fault)
  | text (strict : Except Fault String) (lax : Option Fault)
  | broken (fault : Fault)
  | stray
  | finish

/-- A lexical item: what it is, the index of its first byte and the index after its last one.
Indices count bytes from the start of the text. -/
structure Token where
  kind : Token.Kind
  start : Nat
  stop : Nat

namespace Token

/-- The end of a text of the given length. It stands for every token that is looked for after the
last one. -/
def ending (length : Nat) : Token :=
  ⟨.finish, length, length⟩

/-- The place of a fault that is noticed by looking at the token: its first byte counts. The end of
a text has no byte, so the fault is where the text ends. -/
def peeked (t : Token) : Nat :=
  match t.kind with
  | .finish => t.start
  | _ => t.start + 1

/-! ## Words -/

/-- Compares the next bytes with the rest of a word. Gives the place after it, or the fault at the
first byte that differs. What follows the word is not looked at. -/
def word : List UInt8 → Nat → List UInt8 → Except Fault Nat
  | [], i, _ => .ok i
  | _ :: _, i, [] => .error (Cause.endInValue.at i)
  | e :: expected, i, b :: rest =>
    if b = e then word expected (i + 1) rest else .error (Cause.expectedIdent.at (i + 1))

/-! ## Numbers -/

/-- A decimal digit of ASCII. No other digits of Unicode can stand in a numeral. -/
def isDigit (b : UInt8) : Bool :=
  0x30 ≤ b && b ≤ 0x39

/-- The values of the leading digits, up to the first byte that is none. -/
def digits : List UInt8 → List Nat
  | [] => []
  | b :: rest => if isDigit b then (b.toNat - 0x30) :: digits rest else []

/-- A place where a numeral lacks a digit, and whether the text ends there. A strict reading reports
the end of the text as such; a lax one does not tell the two apart. -/
structure Gap where
  place : Nat
  atEnd : Bool

/-- The exponent of a numeral whose other digits end before place `i`, with the place after it.
There is none unless the next byte is an `e` in either case; after it a digit has to come, perhaps
after a sign. -/
def numeralExponent (i : Nat) : List UInt8 → Except Gap (Option (Bool × List Nat) × Nat)
  | [] => .ok (none, i)
  | b :: rest =>
    if b = 0x65 ∨ b = 0x45 then
      let (negative, j, rest) := match rest with
        | s :: r => if s = 0x2b then (false, i + 2, r) else if s = 0x2d then (true, i + 2, r)
          else (false, i + 1, rest)
        | [] => (false, i + 1, [])
      match digits rest with
      | [] => if rest.isEmpty then .error ⟨j, true⟩ else .error ⟨j + 1, false⟩
      | ds => .ok (some (negative, ds), j + ds.length)
    else .ok (none, i)

/-- What follows the whole part of a numeral: perhaps a point with at least one digit after it, and
perhaps an exponent. -/
def numeralRest (negative : Bool) (whole : List Nat) (i : Nat) (rest : List UInt8) :
    Except Gap (Numeral × Nat) :=
  match rest with
  | b :: after =>
    if b = 0x2e then
      match digits after with
      | [] => if after.isEmpty then .error ⟨i + 1, true⟩ else .error ⟨i + 2, false⟩
      | ds => do
        let (exponent, stop) ←
          numeralExponent (i + 1 + ds.length) (after.drop ds.length)
        return (⟨negative, whole, ds, exponent⟩, stop)
    else do
      let (exponent, stop) ← numeralExponent i rest
      return (⟨negative, whole, [], exponent⟩, stop)
  | [] => .ok (⟨negative, whole, [], none⟩, i)

/-- The numeral at place `i`, after its sign. A zero is the whole part by itself: no digit may
follow it. -/
def unsignedNumeral (negative : Bool) (i : Nat) (bytes : List UInt8) :
    Except Gap (Numeral × Nat) :=
  match bytes with
  | [] => .error ⟨i, true⟩
  | b :: rest =>
    if b = 0x30 then
      match rest with
      | d :: _ =>
        if isDigit d then .error ⟨i + 2, false⟩ else numeralRest negative [0] (i + 1) rest
      | [] => numeralRest negative [0] (i + 1) []
    else
      match digits bytes with
      | [] => .error ⟨i + 1, false⟩
      | ds => numeralRest negative ds (i + ds.length) (bytes.drop ds.length)

/-- The numeral at place `i`, with the place after it. A minus sign may stand in front, a plus sign
may not. -/
def numeral (i : Nat) : List UInt8 → Except Gap (Numeral × Nat)
  | [] => .error ⟨i, true⟩
  | b :: rest => if b = 0x2d then unsignedNumeral true (i + 1) rest
    else unsignedNumeral false i (b :: rest)

/-- The number at place `i` of a text that ends at `finish`. A lax reading passes over a numeral
that is out of range. -/
def number (i finish : Nat) (bytes : List UInt8) : Token :=
  match numeral i bytes with
  | .ok (n, stop) =>
    let value := match n.number with
      | .ok v => .ok v
      | .error o => .error (Cause.outOfRange.at (stop - o.unread))
    ⟨.number value none, i, stop⟩
  | .error gap =>
    let strict := if gap.atEnd then Cause.endInValue else Cause.invalidNumber
    ⟨.number (.error (strict.at gap.place)) (some (Cause.invalidNumber.at gap.place)), i, finish⟩

/-! ## Strings -/

/-- A part of a string, with the place where it starts: a byte that stands for itself, a byte
written with a short escape, or a number written with four hexadecimal digits. -/
inductive Piece where
  | byte (value : UInt8) (start : Nat)
  | escape (value : UInt8) (start : Nat)
  | hex (value : Nat) (start : Nat)

/-- What ends a string, with its place: the closing quote, the end of the text, a control character,
or an escape that is not one. -/
inductive Close where
  | quote (start : Nat)
  | finish (start : Nat)
  | control (start : Nat)
  | badEscape (start : Nat)
  | badHex (start : Nat)

/-- The byte that a short escape stands for: quote, backslash and slash stand for themselves, five
letters for controls. -/
def escaped (b : UInt8) : Option UInt8 :=
  if b = 0x22 ∨ b = 0x5c ∨ b = 0x2f then some b
  else if b = 0x62 then some 0x08
  else if b = 0x66 then some 0x0c
  else if b = 0x6e then some 0x0a
  else if b = 0x72 then some 0x0d
  else if b = 0x74 then some 0x09
  else none

/-- The value of a hexadecimal digit, whose letters may be in either case. -/
def hexDigit (b : UInt8) : Option Nat :=
  if 0x30 ≤ b ∧ b ≤ 0x39 then some (b.toNat - 0x30)
  else if 0x41 ≤ b ∧ b ≤ 0x46 then some (b.toNat - 0x41 + 10)
  else if 0x61 ≤ b ∧ b ≤ 0x66 then some (b.toNat - 0x61 + 10)
  else none

/-- The value of four hexadecimal digits, of which none may be missing. -/
def hexNumber (a b c d : UInt8) : Option Nat := do
  return (((← hexDigit a) * 16 + (← hexDigit b)) * 16 + (← hexDigit c)) * 16 + (← hexDigit d)

/-- The parts of a string from place `i` to its end. Nothing is decided about them yet: a half of a
surrogate pair is a part like others, and bytes need not be sound UTF-8. -/
def pieces : Nat → List UInt8 → List Piece × Close
  | i, [] => ([], .finish i)
  | i, b :: rest =>
    if b = 0x22 then ([], .quote i)
    else if b = 0x5c then
      match rest with
      | [] => ([], .finish (i + 1))
      | e :: after =>
        if e = 0x75 then
          match after with
          | h₁ :: h₂ :: h₃ :: h₄ :: more =>
            match hexNumber h₁ h₂ h₃ h₄ with
            | some n =>
              let (ps, close) := pieces (i + 6) more
              (.hex n i :: ps, close)
            | none => ([], .badHex i)
          | short => ([], .finish (i + 2 + short.length))
        else match escaped e with
          | some v =>
            let (ps, close) := pieces (i + 2) after
            (.escape v i :: ps, close)
          | none => ([], .badEscape i)
    else if b < 0x20 then ([], .control i)
    else
      let (ps, close) := pieces (i + 1) rest
      (.byte b i :: ps, close)

/-- The fault of a strict reading that comes to the end of the string: none at the closing quote. -/
def Close.strict : Close → Option Fault
  | .quote _ => none
  | .finish i => some (Cause.endInString.at i)
  | .control i => some (Cause.controlCharacter.at (i + 1))
  | .badEscape i => some (Cause.invalidEscape.at (i + 2))
  | .badHex i => some (Cause.invalidEscape.at (i + 6))

/-- The fault of a lax reading that comes to the end of the string. The place of a control character
is counted without it. -/
def Close.lax : Close → Option Fault
  | .control i => some (Cause.controlCharacter.at i)
  | close => close.strict

/-- The fault of a strict reading that waits for the second half of a surrogate pair and comes to
the end of the string instead. Every end is a fault then, also the closing quote. -/
def Close.afterHigh : Close → Fault
  | .quote i | .control i => Cause.unpairedHigh.at (i + 1)
  | .finish i => Cause.endInString.at i
  | .badEscape i => Cause.unpairedHigh.at (i + 2)
  | .badHex i => Cause.invalidEscape.at (i + 6)

/-- The bytes of the character with a number, in UTF-8. The number is not that of a surrogate. -/
def numbered (code : Nat) : List UInt8 :=
  String.utf8EncodeChar (Char.ofNat code)

/-- The bytes that a string stands for, by a strict reading. Two numbers that make a surrogate pair
are one character; a half by itself is a fault, in the first place where it can be noticed. -/
def spell : List Piece → Close → Except Fault (List UInt8)
  | [], close => match close.strict with
    | some f => .error f
    | none => .ok []
  | .byte b _ :: rest, close => do return b :: (← spell rest close)
  | .escape b _ :: rest, close => do return b :: (← spell rest close)
  | .hex n i :: rest, close =>
    if 0xdc00 ≤ n ∧ n ≤ 0xdfff then .error (Cause.unpairedLow.at (i + 6))
    else if 0xd800 ≤ n ∧ n ≤ 0xdbff then
      match rest with
      | .hex m j :: more =>
        if 0xdc00 ≤ m ∧ m ≤ 0xdfff then do
          return numbered ((n - 0xd800) * 0x400 + (m - 0xdc00) + 0x10000) ++ (← spell more close)
        else .error (Cause.unpairedLow.at (j + 6))
      | .byte _ j :: _ => .error (Cause.unpairedHigh.at (j + 1))
      | .escape _ j :: _ => .error (Cause.unpairedHigh.at (j + 2))
      | [] => .error close.afterHigh
    else do return numbered n ++ (← spell rest close)

/-- The text of a string that ends at place `stop`: its bytes have to be sound UTF-8. The place of
the first that are not is counted back from the end, without regard to escapes. -/
def spelled (ps : List Piece) (close : Close) (stop : Nat) : Except Fault String := do
  let bytes ← spell ps close
  match Text.Utf8.firstBroken bytes with
  | none => return Text.Utf8.decodeLossy bytes
  | some sound => .error (Cause.invalidCodePoint.at (stop - (bytes.length - sound)))

/-- The string whose opening quote is at place `i` of a text that ends at `finish`. A string that is
not closed covers the rest of the text. -/
def text (i finish : Nat) (rest : List UInt8) : Token :=
  let (ps, close) := pieces (i + 1) rest
  let stop := match close with
    | .quote j => j + 1
    | _ => finish
  ⟨.text (spelled ps close stop) close.lax, i, stop⟩

/-! ## The tokens of a text -/

/-- White space between tokens: space, line feed, tab and carriage return, and nothing else of
Unicode. -/
def isSpace (b : UInt8) : Bool :=
  b = 0x20 || b = 0x0a || b = 0x09 || b = 0x0d

/-- A word, or the fault in it. The first byte, by which the word was told, is already passed. -/
def wordToken (kind : Kind) (expected : List UInt8) (i finish : Nat) (rest : List UInt8) : Token :=
  match word expected (i + 1) rest with
  | .ok stop => ⟨kind, i, stop⟩
  | .error f => ⟨.broken f, i, finish⟩

/-- The token that starts at place `i` with the byte `b`, where `rest` are the bytes after it. The
first byte decides what the token is. -/
def first (i : Nat) (b : UInt8) (rest : List UInt8) : Token :=
  let finish := i + 1 + rest.length
  if b = 0x7b then ⟨.openBrace, i, i + 1⟩
  else if b = 0x7d then ⟨.closeBrace, i, i + 1⟩
  else if b = 0x5b then ⟨.openBracket, i, i + 1⟩
  else if b = 0x5d then ⟨.closeBracket, i, i + 1⟩
  else if b = 0x2c then ⟨.comma, i, i + 1⟩
  else if b = 0x3a then ⟨.colon, i, i + 1⟩
  else if b = 0x22 then text i finish rest
  else if b = 0x6e then wordToken .null [0x75, 0x6c, 0x6c] i finish rest
  else if b = 0x74 then wordToken (.bool true) [0x72, 0x75, 0x65] i finish rest
  else if b = 0x66 then wordToken (.bool false) [0x61, 0x6c, 0x73, 0x65] i finish rest
  else if b = 0x2d ∨ isDigit b then number i finish (b :: rest)
  else ⟨.stray, i, finish⟩

/-- The tokens of the bytes from place `i` on, the first `skip` of which belong to a token already
taken. A broken token covers the rest of the text. -/
def listFrom : (skip : Nat) → Nat → List UInt8 → List Token
  | _, _, [] => []
  | skip + 1, i, _ :: rest => listFrom skip (i + 1) rest
  | 0, i, b :: rest =>
    if isSpace b then listFrom 0 (i + 1) rest
    else
      let t := first i b rest
      t :: listFrom (t.stop - i - 1) (i + 1) rest

/-- The tokens of a text, in order. The end of the text is not among them. -/
def list (bytes : List UInt8) : List Token :=
  listFrom 0 0 bytes

end Token

end AgentPlan.Json
