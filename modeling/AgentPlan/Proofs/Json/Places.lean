import AgentPlan.Json.Value
import AgentPlan.Proofs.Text.Decimal

/-!
# Places in a value

A place in a JSON value is given by words: keys of objects and indices of items (`Leads`). A text
joins the words by dots, and words without a dot are found again in it (`dotted_intercalate`).
-/

namespace AgentPlan

open Json (Members)

/-- From a value, some words lead to another one: each of them is a key of an object, or the index
of an item of an array. -/
inductive Json.Leads : Json → List String → Json → Prop
  | here {v : Json} : Leads v [] v
  | key {m : Members} {key : String} {v w : Json} {words : List String} :
      m.get? key = some v → Leads v words w → Leads (.obj m) (key :: words) w
  | item {items : List Json} {index : Nat} {v w : Json} {words : List String} :
      items[index]? = some v → Leads v words w → Leads (.arr items) (toString index :: words) w

/-- Behind words that lead to an object, one word more leads to the value of that key. -/
theorem Json.Leads.append_key_iff {v w : Json} {m : Members} {words : List String} {key : String}
    (h : v.Leads words (.obj m)) : v.Leads (words ++ [key]) w ↔ m.get? key = some w := by
  generalize hobj : Json.obj m = o at h
  induction h with
  | here =>
    subst hobj
    constructor
    · intro h
      cases h with
      | key hget hrest =>
        cases hrest
        exact hget
    · exact fun hget => .key hget .here
  | key hget _ ih =>
    rw [← ih hobj, List.cons_append]
    constructor
    · intro h
      cases h with
      | key hget' hrest =>
        cases hget.symm.trans hget'
        exact hrest
    · exact .key hget
  | @item items index _ _ words hget _ ih =>
    rw [← ih hobj, List.cons_append]
    constructor
    · intro h
      generalize hword : toString index = word at h
      cases h with
      | @item _ index' _ _ _ hget' hrest =>
        obtain rfl : index = index' := Text.toString_injective hword
        cases hget.symm.trans hget'
        exact hrest
    · exact .item hget

/-- The words of a text between its dots. -/
def Text.dotted (s : String) : List String :=
  (s.toList.splitOn '.').map String.ofList

/-- Words without a dot are found again in the text that joins them by dots. -/
theorem Text.dotted_intercalate {words : List String} (hne : words ≠ [])
    (h : ∀ word ∈ words, '.' ∉ word.toList) : dotted (String.intercalate "." words) = words := by
  have hdot : ".".toList = ['.'] := rfl
  have hsplit : (['.'].intercalate (words.map String.toList)).splitOn '.' =
      words.map String.toList :=
    List.splitOn_intercalate '.' (by simpa using h) (by simpa using hne)
  rw [dotted, String.toList_intercalate, hdot, hsplit, List.map_map]
  simp

end AgentPlan
