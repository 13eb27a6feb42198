import AgentPlan.Json.Tree
import AgentPlan.Proofs.Json.Strings

/-!
# The tokens of a printed value

A value without numbers is printed as its tokens, with nothing between them (`scans_compact`). What
is printed in one piece is read as its tokens whatever comes after it (`Scans`), so the pieces of an
array or an object are read one after another.
-/

namespace AgentPlan.Json

open Text.Utf8 (encode encode_append)

/-! ## Kinds of tokens -/

mutual

/-- What the tokens of a value are. -/
def kinds : Json → List Token.Kind
  | .null => [.null]
  | .bool b => [.bool b]
  | .num n => [.number (.ok n) none]
  | .str s => [.text (.ok s) none]
  | .arr items => .openBracket :: kindsItems items
  | .obj members => .openBrace :: kindsMembers members

/-- What the tokens of an array are, from its first item to its closing bracket. -/
def kindsItems : List Json → List Token.Kind
  | [] => [.closeBracket]
  | [v] => v.kinds ++ [.closeBracket]
  | v :: rest => v.kinds ++ .comma :: kindsItems rest

/-- What the tokens of an object are, from its first key to its closing brace. -/
def kindsMembers : List (String × Json) → List Token.Kind
  | [] => [.closeBrace]
  | [(k, v)] => .text (.ok k) none :: .colon :: v.kinds ++ [.closeBrace]
  | (k, v) :: rest => .text (.ok k) none :: .colon :: v.kinds ++ .comma :: kindsMembers rest

end

mutual

/-- There is no number in the value. -/
def NumberFree : Json → Prop
  | .num _ => False
  | .arr items => NumberFreeItems items
  | .obj members => NumberFreeMembers members
  | _ => True

/-- There is no number in the items. -/
def NumberFreeItems : List Json → Prop
  | [] => True
  | v :: rest => v.NumberFree ∧ NumberFreeItems rest

/-- There is no number in the members. -/
def NumberFreeMembers : List (String × Json) → Prop
  | [] => True
  | (_, v) :: rest => v.NumberFree ∧ NumberFreeMembers rest

end

/-! ## Pieces of a text -/

namespace Token

/-- The bytes are tokens of the given kinds, whatever comes after them. A number is not told so:
digits that come after it would belong to it. -/
def Scans (bytes : List UInt8) (ks : List Kind) : Prop :=
  ∀ i rest, ∃ ts, ts.map kind = ks ∧
    listFrom 0 i (bytes ++ rest) = ts ++ listFrom 0 (i + bytes.length) rest

/-- Pieces that are read as tokens by themselves are read as these tokens one after another. -/
theorem Scans.append {bytes bytes' : List UInt8} {ks ks' : List Kind} (h : Scans bytes ks)
    (h' : Scans bytes' ks') : Scans (bytes ++ bytes') (ks ++ ks') := by
  intro i rest
  obtain ⟨ts, hkinds, hlist⟩ := h i (bytes' ++ rest)
  obtain ⟨ts', hkinds', hlist'⟩ := h' (i + bytes.length) rest
  refine ⟨ts ++ ts', by rw [List.map_append, hkinds, hkinds'], ?_⟩
  rw [List.append_assoc, hlist, hlist', List.append_assoc, List.length_append, Nat.add_assoc]

/-- Bytes of a token already taken are passed over. -/
theorem listFrom_append (taken rest : List UInt8) (i : Nat) :
    listFrom taken.length i (taken ++ rest) = listFrom 0 (i + taken.length) rest := by
  induction taken generalizing i with
  | nil => rfl
  | cons b taken ih =>
    rw [List.cons_append, List.length_cons, listFrom, ih, Nat.add_assoc, Nat.add_comm 1]

/-- Bytes that are taken as one token, whatever comes after them, are that token. The signs and
words below are instances. -/
theorem scans_of_first {b : UInt8} {tail : List UInt8} {k : Kind} (hspace : isSpace b = false)
    (h : ∀ i rest, first i b (tail ++ rest) = ⟨k, i, i + 1 + tail.length⟩) :
    Scans (b :: tail) [k] := by
  refine fun i rest => ⟨[⟨k, i, i + 1 + tail.length⟩], rfl, ?_⟩
  have hskip : i + 1 + tail.length - i - 1 = tail.length := by omega
  have hstop : i + (b :: tail).length = i + 1 + tail.length := by
    rw [List.length_cons, Nat.add_assoc, Nat.add_comm 1]
  rw [List.cons_append, hstop, ← listFrom_append]
  simp only [listFrom, hspace, Bool.false_eq_true, if_false, h, hskip]
  rfl

/-- An opening brace is a token, whatever comes after it. -/
theorem scans_openBrace : Scans (encode "\x7b") [.openBrace] :=
  scans_of_first rfl fun _ _ => rfl

/-- A closing brace is a token, whatever comes after it. -/
theorem scans_closeBrace : Scans (encode "\x7d") [.closeBrace] :=
  scans_of_first rfl fun _ _ => rfl

/-- An opening bracket is a token, whatever comes after it. -/
theorem scans_openBracket : Scans (encode "[") [.openBracket] :=
  scans_of_first rfl fun _ _ => rfl

/-- A closing bracket is a token, whatever comes after it. -/
theorem scans_closeBracket : Scans (encode "]") [.closeBracket] :=
  scans_of_first rfl fun _ _ => rfl

/-- A comma is a token, whatever comes after it. -/
theorem scans_comma : Scans (encode ",") [.comma] :=
  scans_of_first rfl fun _ _ => rfl

/-- A colon is a token, whatever comes after it. -/
theorem scans_colon : Scans (encode ":") [.colon] :=
  scans_of_first rfl fun _ _ => rfl

/-- The word for null is a token, even if letters come after it: those are the fault of the next
token. -/
theorem scans_null : Scans (encode "null") [.null] :=
  scans_of_first rfl fun _ _ => rfl

/-- The words for the truth values are tokens, as the one for null is. -/
theorem scans_bool (b : Bool) : Scans (encode (toString b)) [.bool b] := by
  cases b <;> exact scans_of_first rfl fun _ _ => rfl

/-- A printed string is one token, which is read as the string. This is where escapes are undone
(`text_stringText`). -/
theorem scans_stringText (s : String) : Scans (encode (stringText s)) [.text (.ok s) none] := by
  obtain ⟨body, hbytes, htext⟩ := text_stringText s
  rw [hbytes, List.cons_append]
  refine scans_of_first rfl fun i rest => ?_
  rw [List.append_assoc, List.length_append]
  exact htext i _ rest

end Token

/-! ## Printed values -/

open Token

mutual

/-- A printed value is its tokens. By induction on the value, with the two statements below for what
follows an opening bracket or brace. -/
theorem scans_compact : ∀ v : Json, v.NumberFree → Scans (encode v.compact) v.kinds
  | .null, _ => scans_null
  | .bool b, _ => scans_bool b
  | .str s, _ => scans_stringText s
  | .arr items, h => by
    rw [compact, String.append_assoc, encode_append]
    exact scans_openBracket.append (scans_compactItems items h)
  | .obj members, h => by
    rw [compact, String.append_assoc, encode_append]
    exact scans_openBrace.append (scans_compactMembers members h)

/-- The printed items of an array, with the closing bracket, are their tokens. -/
theorem scans_compactItems : ∀ items : List Json, NumberFreeItems items →
    Scans (encode (compactItems items ++ "]")) (kindsItems items)
  | [], _ => scans_closeBracket
  | [v], h => by
    rw [compactItems, encode_append]
    exact (scans_compact v h.1).append scans_closeBracket
  | v :: w :: rest, h => by
    have hrest := scans_compactItems (w :: rest) h.2
    rw [compactItems, String.append_assoc, String.append_assoc, encode_append, encode_append]
    · exact (scans_compact v h.1).append (scans_comma.append hrest)
    · exact List.cons_ne_nil w rest

/-- The printed members of an object, with the closing brace, are their tokens. -/
theorem scans_compactMembers : ∀ members : List (String × Json), NumberFreeMembers members →
    Scans (encode (compactMembers members ++ "\x7d")) (kindsMembers members)
  | [], _ => scans_closeBrace
  | [(k, v)], h => by
    rw [compactMembers, String.append_assoc, String.append_assoc, encode_append, encode_append,
      encode_append]
    exact (scans_stringText k).append
      (scans_colon.append ((scans_compact v h.1).append scans_closeBrace))
  | (k, v) :: member :: rest, h => by
    have hrest := scans_compactMembers (member :: rest) h.2
    rw [compactMembers, String.append_assoc, String.append_assoc, String.append_assoc,
      String.append_assoc, encode_append, encode_append, encode_append, encode_append]
    · exact (scans_stringText k).append
        (scans_colon.append ((scans_compact v h.1).append (scans_comma.append hrest)))
    · exact List.cons_ne_nil member rest

end

end AgentPlan.Json
