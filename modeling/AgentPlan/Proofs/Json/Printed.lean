import AgentPlan.Json.Printer
import AgentPlan.Proofs.Text.Decimal
import AgentPlan.Proofs.Text.EmptyLine

/-!
# Indented JSON has no empty line

Numbers and strings are printed on one line, the latter because a line break within them is escaped.
So the line breaks of an indented text are those between its tokens, and behind each of them stands
the indentation or a closing bracket (`noEmptyLine_pretty`).
-/

namespace AgentPlan

/-! ## Numbers -/

namespace Text

/-- A number's text is on one line. -/
theorem lineBreak_notMem_toString (n : Nat) : '\n' ∉ (toString n).toList := by
  intro h
  exact absurd (isDigit_of_mem_toString h) (by decide)

/-- The digits of an integer, with its sign, are on one line. -/
theorem lineBreak_notMem_toString_int (i : Int) : '\n' ∉ (toString i).toList := by
  cases i with
  | ofNat n => exact lineBreak_notMem_toString n
  | negSucc n =>
    have htext : toString (Int.negSucc n) = "-" ++ toString (n + 1) := rfl
    rw [htext, String.toList_append, List.mem_append]
    rintro (h | h)
    · exact absurd h (by decide)
    · exact lineBreak_notMem_toString (n + 1) h

/-- Some copies of a character behind a text. -/
theorem toList_pushn (s : String) (c : Char) (n : Nat) :
    (s.pushn c n).toList = s.toList ++ List.replicate n c := by
  rw [String.pushn_eq_repeat_push]
  induction n with
  | zero => simp [Nat.repeat]
  | succ n ih => rw [Nat.repeat, String.toList_push, ih, List.append_assoc, List.replicate_succ']

end Text

namespace Binary.Layout

variable {l : Layout} {digits : String}

/-- The first ones of some digits on one line are on one line. -/
theorem lineBreak_notMem_ofList_take (h : '\n' ∉ digits.toList) (n : Nat) :
    '\n' ∉ (String.ofList (digits.toList.take n)).toList := by
  rw [String.toList_ofList]
  exact fun hmem => h (List.mem_of_mem_take hmem)

/-- The last ones of some digits on one line are on one line. -/
theorem lineBreak_notMem_ofList_drop (h : '\n' ∉ digits.toList) (n : Nat) :
    '\n' ∉ (String.ofList (digits.toList.drop n)).toList := by
  rw [String.toList_ofList]
  exact fun hmem => h (List.mem_of_mem_drop hmem)

/-- Digits with a point stay on one line. -/
theorem lineBreak_notMem_positionalText (h : '\n' ∉ digits.toList) (point : Int) :
    '\n' ∉ (l.positionalText digits point).toList := by
  have htake := lineBreak_notMem_ofList_take h point.toNat
  have hdrop := lineBreak_notMem_ofList_drop h point.toNat
  simp only [positionalText]
  split
  · simp [Text.toList_pushn, h]
  · split
    · split <;> simp [Text.toList_pushn, h]
    · simp only [String.toList_append, List.mem_append, not_or]
      exact ⟨⟨htake, by decide⟩, hdrop⟩

/-- Digits with a power of ten stay on one line. -/
theorem lineBreak_notMem_exponentText (h : '\n' ∉ digits.toList) (leading : Int) :
    '\n' ∉ (l.exponentText digits leading).toList := by
  have htake := lineBreak_notMem_ofList_take h 1
  have hdrop := lineBreak_notMem_ofList_drop h 1
  have hleading := Text.lineBreak_notMem_toString_int leading
  simp only [exponentText, String.toList_append, List.mem_append, not_or]
  refine ⟨⟨⟨htake, ?_⟩, ?_⟩, hleading⟩
  · split
    · decide
    · simp only [String.toList_append, List.mem_append, not_or]
      exact ⟨by decide, hdrop⟩
  · split <;> decide

/-- A decimal is printed on one line. -/
theorem lineBreak_notMem_render (negative : Bool) (d : Decimal) :
    '\n' ∉ (l.render negative d).toList := by
  have hdigits := Text.lineBreak_notMem_toString d.digits
  rw [render, String.toList_append, List.mem_append, not_or]
  constructor
  · cases negative <;> decide
  · split
    · exact lineBreak_notMem_positionalText hdigits _
    · split
      · exact lineBreak_notMem_positionalText hdigits _
      · exact lineBreak_notMem_exponentText hdigits _

end Binary.Layout

namespace Json

/-- A number's text is on one line. -/
theorem Number.lineBreak_notMem_text (n : Number) : '\n' ∉ n.text.toList := by
  cases n with
  | int i => exact Text.lineBreak_notMem_toString_int i
  | float b => exact Binary.Layout.lineBreak_notMem_render _ _

/-! ## Strings -/

/-- A line break in a string is escaped, and no escape holds one. -/
theorem lineBreak_notMem_escapedChar (c : Char) : '\n' ∉ (escapedChar c).toList := by
  have hdigit : ∀ n < 16, '\n' ≠ Nat.digitChar n := by decide
  unfold escapedChar
  split_ifs with _ _ _ _ hbreak _ _ hcontrol
  iterate 7 decide
  · have hhigh := hdigit (c.toNat / 16) (by omega)
    have hlow := hdigit (c.toNat % 16) (by omega)
    simp [hhigh, hlow]
  · rw [Char.toString, String.toList_singleton, List.mem_singleton]
    exact fun h => hbreak h.symm

/-- A string is printed on one line. -/
theorem lineBreak_notMem_stringText (s : String) : '\n' ∉ (stringText s).toList := by
  simp [stringText, lineBreak_notMem_escapedChar]

/-! ## Line breaks between tokens -/

open Text (NoEmptyLine noEmptyLine_of_notMem noEmptyLine_line toList_pushn)

/-- Behind the line break before an item or a member stands its indentation. -/
theorem noEmptyLine_newLine_succ (level : Nat) : NoEmptyLine (newLine (level + 1)) :=
  noEmptyLine_line (by simp [toList_pushn]) (by simp [toList_pushn])

/-- Behind the line break at the end of an array or an object stands its closing bracket, on the
outermost level without an indentation. -/
theorem noEmptyLine_newLine_append (level : Nat) {s : String} (hs : '\n' ∉ s.toList)
    (hne : s.toList ≠ []) : NoEmptyLine (newLine level ++ s) := by
  rw [newLine, String.append_assoc]
  exact noEmptyLine_line (by simp [toList_pushn, hs]) (by simp [hne])

/-- A printed string makes no empty line: its line breaks are escaped. -/
theorem noEmptyLine_stringText (s : String) : NoEmptyLine (stringText s) :=
  noEmptyLine_of_notMem (lineBreak_notMem_stringText s)

mutual

/-- A value has no empty line on any level. -/
theorem noEmptyLine_prettyAt (level : Nat) : ∀ v : Json, NoEmptyLine (prettyAt level v)
  | .null | .arr [] | .obj [] => noEmptyLine_of_notMem (by rw [prettyAt]; decide)
  | .bool b => noEmptyLine_of_notMem (by rw [prettyAt]; cases b <;> decide)
  | .num n => noEmptyLine_of_notMem n.lineBreak_notMem_text
  | .str s => noEmptyLine_stringText s
  | .arr (v :: rest) => by
    have hopen : NoEmptyLine "[" := noEmptyLine_of_notMem (by decide)
    have hclose := noEmptyLine_newLine_append level (s := "]") (by decide) (by decide)
    rw [prettyAt, String.append_assoc]
    exact (((hopen.append (noEmptyLine_newLine_succ level)).append
      (noEmptyLine_prettyAt (level + 1) v)).append
      (noEmptyLine_prettyItems level rest)).append hclose
  | .obj ((k, v) :: rest) => by
    have hopen : NoEmptyLine "\x7b" := noEmptyLine_of_notMem (by decide)
    have hcolon : NoEmptyLine ": " := noEmptyLine_of_notMem (by decide)
    have hclose := noEmptyLine_newLine_append level (s := "\x7d") (by decide) (by decide)
    rw [prettyAt, String.append_assoc]
    exact (((((hopen.append (noEmptyLine_newLine_succ level)).append
      (noEmptyLine_stringText k)).append hcolon).append
      (noEmptyLine_prettyAt (level + 1) v)).append
      (noEmptyLine_prettyMembers level rest)).append hclose

/-- Items stand on a nested level. -/
theorem noEmptyLine_prettyItems (level : Nat) : ∀ items : List Json,
    NoEmptyLine (prettyItems (level + 1) items)
  | [] => noEmptyLine_of_notMem (by rw [prettyItems]; decide)
  | v :: rest => by
    have hcomma : NoEmptyLine "," := noEmptyLine_of_notMem (by decide)
    rw [prettyItems]
    exact ((hcomma.append (noEmptyLine_newLine_succ level)).append
      (noEmptyLine_prettyAt (level + 1) v)).append (noEmptyLine_prettyItems level rest)

/-- Members stand on a nested level. -/
theorem noEmptyLine_prettyMembers (level : Nat) : ∀ members : List (String × Json),
    NoEmptyLine (prettyMembers (level + 1) members)
  | [] => noEmptyLine_of_notMem (by rw [prettyMembers]; decide)
  | (k, v) :: rest => by
    have hcomma : NoEmptyLine "," := noEmptyLine_of_notMem (by decide)
    have hcolon : NoEmptyLine ": " := noEmptyLine_of_notMem (by decide)
    rw [prettyMembers]
    exact ((((hcomma.append (noEmptyLine_newLine_succ level)).append
      (noEmptyLine_stringText k)).append hcolon).append
      (noEmptyLine_prettyAt (level + 1) v)).append (noEmptyLine_prettyMembers level rest)

end

/-- **Indented JSON has no empty line**, whatever texts stand in the value. -/
theorem noEmptyLine_pretty (v : Json) : NoEmptyLine v.pretty :=
  noEmptyLine_prettyAt 0 v

/-- The text of an object starts with its bracket. -/
theorem head?_pretty_obj (m : Members) : (Json.obj m).pretty.toList.head? = some '\x7b' := by
  cases m with
  | nil => rfl
  | cons member rest =>
    simp only [pretty, prettyAt, String.append_assoc, String.toList_append]
    rfl

end Json

end AgentPlan
