import AgentPlan.Json.Printer
import AgentPlan.Json.Token
import AgentPlan.Proofs.Text.Utf8

/-!
# Printed strings are read back

A printed string is one token, which holds the string (`text_stringText`). What stands between the
quotes is a row of parts, each a byte or an escape, and it is said of each part which bytes it
stands for (`Spelled`): a character is printed as one escape or as its own bytes, and stands for
these bytes in either case (`spelled_escapedChar`).
-/

namespace AgentPlan.Json.Token

open Text.Utf8 (encode encode_append encode_ofList encode_toString firstBroken_encode
  decodeLossy_encode)

/-! ## Parts of a string -/

/-- Some bytes inside a string are parts of their own, which stand for the bytes `out`. -/
def Spelled (bytes out : List UInt8) : Prop :=
  ∀ i rest, ∃ ps,
    pieces i (bytes ++ rest) =
      (ps ++ (pieces (i + bytes.length) rest).1, (pieces (i + bytes.length) rest).2) ∧
    ∀ more close, spell (ps ++ more) close = (spell more close).map (out ++ ·)

variable {bytes bytes' out out' : List UInt8}

/-- No characters are spelled by no parts. -/
theorem Spelled.nil : Spelled [] [] := by
  refine fun i rest => ⟨[], rfl, fun more close => ?_⟩
  cases h : spell more close <;> simp [h, Except.map]

/-- Parts after one another stand for bytes after one another. -/
theorem Spelled.append (h : Spelled bytes out) (h' : Spelled bytes' out') :
    Spelled (bytes ++ bytes') (out ++ out') := by
  intro i rest
  obtain ⟨ps, hpieces, hspell⟩ := h i (bytes' ++ rest)
  obtain ⟨ps', hpieces', hspell'⟩ := h' (i + bytes.length) rest
  refine ⟨ps ++ ps', ?_, fun more close => ?_⟩
  · rw [List.append_assoc, hpieces, hpieces', List.length_append, List.append_assoc, Nat.add_assoc]
  · rw [List.append_assoc, hspell, hspell']
    cases spell more close <;> simp [Except.map]

/-- A byte that begins no escape, ends no string and is no control character stands for itself. -/
theorem spelled_byte {b : UInt8} (hquote : b ≠ 0x22) (hescape : b ≠ 0x5c) (hcontrol : ¬ b < 0x20) :
    Spelled [b] [b] := by
  refine fun i rest => ⟨[.byte b i], ?_, fun more close => ?_⟩
  · show pieces i (b :: rest) = _
    rw [pieces.eq_def]
    simp only [if_neg hquote, if_neg hescape, if_neg hcontrol]
    rfl
  · rw [List.cons_append, List.nil_append, spell]
    cases spell more close <;> rfl

/-- Bytes that stand for themselves one by one stand for themselves together. -/
theorem spelled_of_forall_mem (h : ∀ b ∈ bytes, Spelled [b] [b]) : Spelled bytes bytes := by
  induction bytes with
  | nil => exact .nil
  | cons b bytes ih =>
    exact (h b List.mem_cons_self).append (ih fun d hd => h d (List.mem_cons_of_mem b hd))

/-- A short escape stands for one byte. -/
theorem spelled_escape {e v : UInt8} (hshort : e ≠ 0x75) (hv : escaped e = some v) :
    Spelled [0x5c, e] [v] := by
  refine fun i rest => ⟨[.escape v i], ?_, fun more close => ?_⟩
  · show pieces i (0x5c :: e :: rest) = _
    rw [pieces.eq_def]
    simp only [if_neg hshort, hv]
    rfl
  · rw [List.cons_append, List.nil_append, spell]
    cases spell more close <;> rfl

/-- A long escape stands for the bytes of a character, if its number is no half of a pair. -/
theorem spelled_hex {a b c d : UInt8} {n : Nat} (hn : hexNumber a b c d = some n)
    (hsmall : n < 0xd800) : Spelled [0x5c, 0x75, a, b, c, d] (numbered n) := by
  refine fun i rest => ⟨[.hex n i], ?_, fun more close => ?_⟩
  · show pieces i (0x5c :: 0x75 :: a :: b :: c :: d :: rest) = _
    rw [pieces.eq_def]
    simp only [hn]
    rfl
  · have hlow : ¬ (0xdc00 ≤ n ∧ n ≤ 0xdfff) := by omega
    have hhigh : ¬ (0xd800 ≤ n ∧ n ≤ 0xdbff) := by omega
    rw [List.cons_append, List.nil_append, spell.eq_def]
    simp only [if_neg hlow, if_neg hhigh]
    cases spell more close <;> rfl

/-! ## Characters -/

/-- The digits of an escape are read as their values. -/
theorem exists_hexDigit : ∀ n < 16, ∃ b, String.utf8EncodeChar (Nat.digitChar n) = [b] ∧
    hexDigit b = some n := by
  have hdigits : ∀ n < 16, (String.utf8EncodeChar (Nat.digitChar n)).map hexDigit = [some n] := by
    decide
  intro n hn
  obtain ⟨b, hbytes, hb⟩ := List.map_eq_singleton_iff.1 (hdigits n hn)
  exact ⟨b, hbytes, hb⟩

/-- The bytes of a character are the character itself or bytes that no ASCII character has. -/
theorem toNat_of_mem_utf8EncodeChar {c : Char} {b : UInt8} (hb : b ∈ String.utf8EncodeChar c) :
    b.toNat = c.toNat ∨ 0x80 ≤ b.toNat := by
  have htoNat {n : Nat} (h : n < 256) : (UInt8.ofNat n).toNat = n := UInt8.toNat_ofNat_of_lt' h
  rw [String.utf8EncodeChar] at hb
  show b.toNat = c.val.toNat ∨ _
  generalize c.val.toNat = v at hb
  split_ifs at hb with h1 h2 h3
  · rw [List.mem_singleton.1 hb, htoNat (by omega)]
    exact .inl rfl
  all_goals
    right
    simp only [List.mem_cons, List.not_mem_nil, or_false] at hb
  · rcases hb with rfl | rfl <;> rw [htoNat (by omega)] <;> omega
  · rcases hb with rfl | rfl | rfl <;> rw [htoNat (by omega)] <;> omega
  · rcases hb with rfl | rfl | rfl | rfl <;> rw [htoNat (by omega)] <;> omega

/-- The bytes of a character that is printed as itself are parts of their own. -/
theorem spelled_utf8EncodeChar {c : Char} (hquote : c ≠ '"') (hescape : c ≠ '\\')
    (hcontrol : ¬ c.toNat < 0x20) :
    Spelled (String.utf8EncodeChar c) (String.utf8EncodeChar c) := by
  refine spelled_of_forall_mem fun b hb => ?_
  have hother {d : Char} (hne : c ≠ d) (hd : d.toNat < 0x80) : b.toNat ≠ d.toNat := by
    intro hbd
    rcases toNat_of_mem_utf8EncodeChar hb with h | h
    · exact hne (Char.toNat_inj.1 (h.symm.trans hbd))
    · omega
  have hgreat : ¬ b < 0x20 := by
    rw [UInt8.lt_iff_toNat_lt]
    show ¬ b.toNat < 0x20
    rcases toNat_of_mem_utf8EncodeChar hb with h | h <;> omega
  exact spelled_byte (fun h => hother hquote (by decide) (congrArg UInt8.toNat h))
    (fun h => hother hescape (by decide) (congrArg UInt8.toNat h)) hgreat

/-- A control character is printed as its number. -/
theorem spelled_control {c : Char} (hcontrol : c.toNat < 0x20) :
    Spelled (encode ("\\u00" ++
      String.ofList [Nat.digitChar (c.toNat / 16), Nat.digitChar (c.toNat % 16)]))
      (String.utf8EncodeChar c) := by
  obtain ⟨high, hhigh, hhighDigit⟩ := exists_hexDigit (c.toNat / 16) (by omega)
  obtain ⟨low, hlow, hlowDigit⟩ := exists_hexDigit (c.toNat % 16) (by omega)
  have hnumber : hexNumber 0x30 0x30 high low = some c.toNat := by
    have hzero : hexDigit 0x30 = some 0 := by decide
    have hvalue : ((0 * 16 + 0) * 16 + c.toNat / 16) * 16 + c.toNat % 16 = c.toNat := by omega
    simp only [hexNumber, hzero, hhighDigit, hlowDigit, Option.bind_eq_bind, Option.bind_some,
      hvalue, pure]
  have hbytes : encode ("\\u00" ++
      String.ofList [Nat.digitChar (c.toNat / 16), Nat.digitChar (c.toNat % 16)]) =
      [0x5c, 0x75, 0x30, 0x30, high, low] := by
    rw [encode_append, encode_ofList [_, _], List.flatMap_cons, List.flatMap_cons, hhigh, hlow]
    rfl
  have hchar : numbered c.toNat = String.utf8EncodeChar c := by
    rw [numbered, Char.ofNat_toNat]
  rw [hbytes, ← hchar]
  exact spelled_hex hnumber (by omega)

/-- A character is printed as parts that stand for its bytes. -/
theorem spelled_escapedChar (c : Char) :
    Spelled (encode (escapedChar c)) (String.utf8EncodeChar c) := by
  rw [escapedChar]
  split_ifs with h1 h2 h3 h4 h5 h6 h7 h8
  · rw [h1]; exact spelled_escape (by decide) rfl
  · rw [h2]; exact spelled_escape (by decide) rfl
  · rw [h3]; exact spelled_escape (by decide) rfl
  · rw [h4]; exact spelled_escape (by decide) rfl
  · rw [h5]; exact spelled_escape (by decide) rfl
  · rw [h6]; exact spelled_escape (by decide) rfl
  · rw [h7]; exact spelled_escape (by decide) rfl
  · exact spelled_control h8
  · rw [encode_toString]
    exact spelled_utf8EncodeChar h1 h2 h8

/-- Characters are printed as parts that stand for their bytes. -/
theorem spelled_join (cs : List Char) :
    Spelled (encode (String.join (cs.map escapedChar))) (cs.flatMap String.utf8EncodeChar) := by
  induction cs with
  | nil => exact .nil
  | cons c cs ih =>
    rw [List.map_cons, String.join_cons, encode_append, List.flatMap_cons]
    exact (spelled_escapedChar c).append ih

/-! ## Strings -/

/-- Parts that stand for the bytes of a text are a string of this text. -/
theorem text_of_spelled {s : String} (h : Spelled bytes (encode s)) (i finish : Nat)
    (rest : List UInt8) :
    text i finish (bytes ++ 0x22 :: rest) =
      ⟨.text (.ok s) none, i, i + 1 + bytes.length + 1⟩ := by
  obtain ⟨ps, hpieces, hspell⟩ := h (i + 1) (0x22 :: rest)
  have hclose : pieces (i + 1 + bytes.length) (0x22 :: rest) =
      ([], .quote (i + 1 + bytes.length)) := by
    rw [pieces.eq_def]
    rfl
  have hbytes : spell ps (.quote (i + 1 + bytes.length)) = .ok (encode s) := by
    have hend := hspell [] (.quote (i + 1 + bytes.length))
    rw [List.append_nil] at hend
    rw [hend, spell, Close.strict]
    exact congrArg Except.ok (List.append_nil _)
  rw [text, hpieces, hclose, List.append_nil]
  simp only [spelled, hbytes, bind, Except.bind, firstBroken_encode, decodeLossy_encode]
  rfl

/-- **A printed string is the token of the string**, whatever comes after it. -/
theorem text_stringText (s : String) : ∃ body, encode (stringText s) = 0x22 :: body ++ [0x22] ∧
    ∀ i finish rest, text i finish (body ++ 0x22 :: rest) =
      ⟨.text (.ok s) none, i, i + 1 + body.length + 1⟩ := by
  refine ⟨encode (String.join (s.toList.map escapedChar)), ?_, fun i finish rest =>
    text_of_spelled (spelled_join s.toList) i finish rest⟩
  rw [stringText, encode_append, encode_append]
  rfl

end AgentPlan.Json.Token
