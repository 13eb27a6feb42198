import AgentPlan.Text.Property

/-!
# Texts

What is done with the texts of messages, variables and log lines: their blank ends are dropped
(`trim`; a text is `blank` when nothing is left of it, `blank_iff_trim_eq`), their letters are made
small (`lower`), and they are put between quotes (`quoted`).
-/

namespace AgentPlan.Text

/-! ## Blank ends -/

/-- A character with the Unicode property `White_Space`. Every trimming and every check for a blank
text uses this set, and not that of JSON. -/
def isBlank (c : Char) : Bool :=
  let n := c.toNat
  (0x09 ≤ n && n ≤ 0x0d) || n == 0x20 || n == 0x85 || n == 0xa0 || n == 0x1680 ||
    (0x2000 ≤ n && n ≤ 0x200a) || n == 0x2028 || n == 0x2029 || n == 0x202f || n == 0x205f ||
    n == 0x3000

/-- The characters between the first and the last one that is not blank. Blank characters between
others stay. -/
def trimChars (cs : List Char) : List Char :=
  ((cs.dropWhile isBlank).reverse.dropWhile isBlank).reverse

/-- A text without the blank characters at its two ends. -/
def trim (s : String) : String :=
  String.ofList (trimChars s.toList)

/-- A text that holds blank characters only. The empty text is blank. Identifiers, rationales,
variables and the texts of replies must not be. -/
def blank (s : String) : Bool :=
  s.toList.all isBlank

/-- Dropping blank characters from the front leaves nothing when all characters are blank. -/
theorem dropWhile_isBlank_eq_nil_iff (cs : List Char) :
    cs.dropWhile isBlank = [] ↔ cs.all isBlank = true := by
  induction cs with
  | nil => simp
  | cons c cs ih => by_cases h : isBlank c = true <;> simp [h, ih]

/-- Trimming leaves no characters when all of them are blank. -/
theorem trimChars_eq_nil_iff (cs : List Char) : trimChars cs = [] ↔ cs.all isBlank = true := by
  unfold trimChars
  rw [List.reverse_eq_nil_iff, dropWhile_isBlank_eq_nil_iff, List.all_reverse]
  constructor
  · intro h
    induction cs with
    | nil => rfl
    | cons c cs ih =>
      by_cases hc : isBlank c = true
      · simp only [List.dropWhile_cons, hc, if_true] at h
        simp [hc, ih h]
      · simp [hc] at h
  · intro h
    simp [(dropWhile_isBlank_eq_nil_iff cs).2 h]

/-- A text is blank when trimming leaves nothing of it. The source asks in the latter way, the model
in the former. -/
theorem blank_iff_trim_eq (s : String) : blank s = true ↔ trim s = "" := by
  rw [blank, ← trimChars_eq_nil_iff, trim]
  constructor
  · intro h; simp [h]
  · intro h
    have := congrArg String.toList h
    simpa using this

/-! ## Small letters

The full mapping of Unicode: one capital becomes two characters (U+0130), and a capital sigma at the
end of a word has a form of its own. -/

/-- The small form of a character by itself, where there is one of its own; any other character
stays. -/
def smallForm (c : Char) : Char :=
  let n := c.toNat
  let holds := fun ((first, last, step, _) : Nat × Nat × Nat × Int) =>
    first ≤ n && n ≤ last && (n - first) % step == 0
  match capitals.find? holds with
  | some (_, _, _, distance) => Char.ofNat ((n : Int) + distance).toNat
  | none => c

/-- After the characters that letter case looks through comes one that has letter case. This tells
whether a sigma is at the end of a word. -/
def casedNext : List Char → Bool
  | [] => false
  | c :: rest => if within caseIgnorable c.toNat then casedNext rest else within cased c.toNat

/-- The small letters of `rest`; `before` holds the characters already passed, the last one first.
Only a capital sigma looks at them. -/
def lowerFrom (before : List Char) : List Char → List Char
  | [] => []
  | c :: rest =>
    let small :=
      if c = 'İ' then ['i', '\u0307']
      else if c = 'Σ' then [if casedNext before && !casedNext rest then 'ς' else 'σ']
      else [smallForm c]
    small ++ lowerFrom (c :: before) rest

/-- The text in small letters. Names of providers, of stop reasons and of the states of a switch are
compared in this form. -/
def lower (s : String) : String :=
  String.ofList (lowerFrom [] s.toList)

/-! ## Quotes -/

/-- The digits of a number in base 16, in small letters and without zeros in front. -/
def hexDigits (n : Nat) : String :=
  String.ofList (Nat.toDigits 16 n)

/-- A character inside quotes. What would not be seen is written as a backslash with a letter, or
with the number of the character. -/
def quotedChar (c : Char) : String :=
  if c = '\x00' then "\\0"
  else if c = '\t' then "\\t"
  else if c = '\r' then "\\r"
  else if c = '\n' then "\\n"
  else if c = '"' then "\\\""
  else if c = '\\' then "\\\\"
  else if within unprintable c.toNat then "\\u\x7b" ++ hexDigits c.toNat ++ "\x7d"
  else c.toString

/-- The text between quotes, as a message shows a text. This is not the JSON form
(`Json.stringText`), which escapes other characters. -/
def quoted (s : String) : String :=
  "\"" ++ String.join (s.toList.map quotedChar) ++ "\""

end AgentPlan.Text
