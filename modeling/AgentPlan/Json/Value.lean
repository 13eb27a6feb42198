import AgentPlan.Binary.Basic

/-!
# JSON values

A value of a JSON document. Objects are association lists: the first member with a key counts, and
a key that is new goes before the first greater one, so an object that is built by insertion is
sorted by its keys and has each key once. The laws of `get?`, `insert`, `insertNew`, `modify` and
`erase` hold of every association list, sorted or not.
-/

namespace AgentPlan

/-- A number of a JSON document: an integer or a finite 64-bit float. The two are never equal, even
if they have the same value: a document with `1.0` is not the one with `1`. -/
inductive Json.Number where
  | int (value : Int)
  | float (value : Binary)
deriving DecidableEq, Repr

/-- A JSON value. The members of an object are kept in a list, in the order in which the object
holds them, so that two objects are equal when they agree in order, too. -/
inductive Json where
  | null
  | bool (value : Bool)
  | num (value : Json.Number)
  | str (value : String)
  | arr (items : List Json)
  | obj (members : List (String × Json))
deriving Repr

namespace Json

/-- The members of an object, each a key with its value. Nothing here asks that they be sorted or
that a key occur once; a document that was read has both. -/
abbrev Members := List (String × Json)

/-! ## Equality -/

mutual

/-- The two values are equal. This is what decides `a = b`; the structure of values is nested, and
so is not compared by a derived instance. -/
def same : Json → Json → Bool
  | .null, .null => true
  | .bool a, .bool b => a == b
  | .num a, .num b => decide (a = b)
  | .str a, .str b => a == b
  | .arr a, .arr b => sameItems a b
  | .obj a, .obj b => sameMembers a b
  | _, _ => false

/-- The two lists of values are equal, item by item. This is `same` on the items of two arrays. -/
def sameItems : List Json → List Json → Bool
  | [], [] => true
  | a :: as, b :: bs => same a b && sameItems as bs
  | _, _ => false

/-- The two lists of members are equal, in keys, in values and in order. This is `same` on the
members of two objects. -/
def sameMembers : List (String × Json) → List (String × Json) → Bool
  | [], [] => true
  | (k, a) :: as, (l, b) :: bs => k == l && same a b && sameMembers as bs
  | _, _ => false

end

mutual

/-- `same` decides equality. The proof follows the recursion of `same`, with the two statements
below for what is inside arrays and objects. -/
theorem same_iff : ∀ a b : Json, same a b = true ↔ a = b
  | .null, b => by cases b <;> simp [same]
  | .bool a, b => by cases b <;> simp [same]
  | .num a, b => by cases b <;> simp [same]
  | .str a, b => by cases b <;> simp [same]
  | .arr a, b => by cases b <;> simp [same, sameItems_iff a]
  | .obj a, b => by cases b <;> simp [same, sameMembers_iff a]

/-- `sameItems` decides equality of lists of values. -/
theorem sameItems_iff : ∀ as bs : List Json, sameItems as bs = true ↔ as = bs
  | [], bs => by cases bs <;> simp [sameItems]
  | a :: as, bs => by cases bs <;> simp [sameItems, same_iff a, sameItems_iff as]

/-- `sameMembers` decides equality of lists of members. -/
theorem sameMembers_iff : ∀ as bs : List (String × Json), sameMembers as bs = true ↔ as = bs
  | [], bs => by cases bs <;> simp [sameMembers]
  | (k, a) :: as, bs => by
    cases bs with
    | nil => simp [sameMembers]
    | cons b bs => simp [sameMembers, same_iff a, sameMembers_iff as, Prod.ext_iff, and_assoc]

end

instance : DecidableEq Json := fun a b => decidable_of_iff _ (same_iff a b)

/-! ## Objects -/

namespace Members

/-- The value of a key: that of the first member with the key, and nothing if there is no such
member. -/
def get? (key : String) : Members → Option Json
  | [] => none
  | (k, v) :: rest => if k = key then some v else get? key rest

/-- The object has a member with the key, whatever its value: one whose value is null counts. -/
def contains (key : String) (m : Members) : Bool :=
  (get? key m).isSome

/-- Gives the first member with the key another value. The members keep their order, and an object
without the key stays as it is. -/
def replace (key : String) (value : Json) : Members → Members
  | [] => []
  | (k, v) :: rest => if k = key then (k, value) :: rest else (k, v) :: replace key value rest

/-- Puts a member before the first one with a greater key. In a sorted object this is where it
belongs, so the object stays sorted. -/
def place (key : String) (value : Json) : Members → Members
  | [] => [(key, value)]
  | (k, v) :: rest =>
    if key < k then (key, value) :: (k, v) :: rest else (k, v) :: place key value rest

/-- Sets the value of a key. A key that is there keeps its place, and a new one gets its place among
the others. -/
def insert (key : String) (value : Json) (m : Members) : Members :=
  if contains key m then replace key value m else place key value m

/-- Sets the value of a key that has none yet. A key that is there, even with null, keeps the value
that it has. -/
def insertNew (key : String) (value : Json) (m : Members) : Members :=
  if contains key m then m else place key value m

/-- Gives the first member with the key another value, made from the one it has. Without such a
member nothing changes. -/
def modify (key : String) (f : Json → Json) : Members → Members
  | [] => []
  | (k, v) :: rest => if k = key then (k, f v) :: rest else (k, v) :: modify key f rest

/-- The object without a key: no member with the key is left, and the others are as before. -/
def erase (key : String) (m : Members) : Members :=
  m.filter fun member => decide (member.1 ≠ key)

/-- An object has a key when the key has some value. -/
theorem contains_iff (key : String) (m : Members) :
    contains key m = true ↔ ∃ v, get? key m = some v := by
  rw [contains, Option.isSome_iff_exists]

/-- An object lacks a key when the key has no value. -/
theorem contains_eq_false_iff (key : String) (m : Members) :
    contains key m = false ↔ get? key m = none := by
  rw [contains, Option.isSome_eq_false_iff, Option.isNone_iff_eq_none]

/-- A replaced value is the one that is found, if the key was there. -/
theorem get?_replace_self {key : String} {value : Json} {m : Members}
    (h : contains key m = true) : get? key (replace key value m) = some value := by
  induction m with
  | nil => simp [contains, get?] at h
  | cons e m ih =>
    obtain ⟨k, v⟩ := e
    by_cases hk : k = key
    · simp [replace, get?, hk]
    · have : contains key m = true := by simpa [contains, get?, hk] using h
      simp [replace, get?, hk, ih this]

/-- Replacing the value of a key leaves those of the others. -/
theorem get?_replace_of_ne {key other : String} (value : Json) (m : Members) (h : other ≠ key) :
    get? other (replace key value m) = get? other m := by
  induction m with
  | nil => rfl
  | cons e m ih =>
    obtain ⟨k, v⟩ := e
    by_cases hk : k = key
    · have hko : k ≠ other := fun hc => h (hc ▸ hk)
      subst hk
      simp [replace, get?, hko]
    · simp [replace, get?, hk, ih]

/-- A member put in its place is found, if the key was not there before: otherwise an earlier one
could hide it. -/
theorem get?_place_self {key : String} {value : Json} {m : Members}
    (h : get? key m = none) : get? key (place key value m) = some value := by
  induction m with
  | nil => simp [place, get?]
  | cons e m ih =>
    obtain ⟨k, v⟩ := e
    by_cases hk : k = key
    · simp [get?, hk] at h
    · have hm : get? key m = none := by simpa [get?, hk] using h
      by_cases hlt : key < k <;> simp [place, hlt, get?, hk, ih hm]

/-- Putting a member in its place leaves the values of the other keys. -/
theorem get?_place_of_ne {key other : String} (value : Json) (m : Members) (h : other ≠ key) :
    get? other (place key value m) = get? other m := by
  induction m with
  | nil => simp [place, get?, Ne.symm h]
  | cons e m ih =>
    obtain ⟨k, v⟩ := e
    by_cases hlt : key < k <;> simp [place, hlt, get?, Ne.symm h, ih]

/-- A value that is set is the one that is found. -/
@[simp] theorem get?_insert_self (key : String) (value : Json) (m : Members) :
    get? key (insert key value m) = some value := by
  unfold insert
  split
  · rename_i h; exact get?_replace_self h
  · rename_i h; exact get?_place_self ((contains_eq_false_iff key m).1 (by simpa using h))

/-- Setting the value of a key leaves those of the others. -/
theorem get?_insert_of_ne {key other : String} (value : Json) (m : Members) (h : other ≠ key) :
    get? other (insert key value m) = get? other m := by
  unfold insert
  split
  · exact get?_replace_of_ne value m h
  · exact get?_place_of_ne value m h

/-- After a default is set, the key has the value that it had, or the default. -/
theorem get?_insertNew_self (key : String) (value : Json) (m : Members) :
    get? key (insertNew key value m) = some ((get? key m).getD value) := by
  unfold insertNew
  split
  · rename_i h
    obtain ⟨v, hv⟩ := (contains_iff key m).1 h
    simp [hv]
  · rename_i h
    have hn := (contains_eq_false_iff key m).1 (by simpa using h)
    simp [get?_place_self hn, hn]

/-- Setting a default for a key leaves the values of the others. -/
theorem get?_insertNew_of_ne {key other : String} (value : Json) (m : Members)
    (h : other ≠ key) : get? other (insertNew key value m) = get? other m := by
  unfold insertNew
  split
  · rfl
  · exact get?_place_of_ne value m h

/-- Setting a key to the value that it has changes nothing, not even the order of the members. -/
theorem insert_eq_self {key : String} {value : Json} {m : Members}
    (h : get? key m = some value) : insert key value m = m := by
  have hc : contains key m = true := (contains_iff key m).2 ⟨value, h⟩
  rw [insert, if_pos hc]
  clear hc
  induction m with
  | nil => rfl
  | cons e m ih =>
    obtain ⟨k, v⟩ := e
    by_cases hk : k = key
    · have hv : v = value := by simpa [get?, hk] using h
      simp [replace, hk, hv]
    · have hm : get? key m = some value := by simpa [get?, hk] using h
      simp [replace, hk, ih hm]

/-- A default for a key that has a value already changes nothing. -/
theorem insertNew_eq_self {key : String} {value v : Json} {m : Members}
    (h : get? key m = some v) : insertNew key value m = m := by
  rw [insertNew, if_pos ((contains_iff key m).2 ⟨v, h⟩)]

/-- A modified member has the value made from the one it had. -/
@[simp] theorem get?_modify_self (key : String) (f : Json → Json) (m : Members) :
    get? key (modify key f m) = (get? key m).map f := by
  induction m with
  | nil => rfl
  | cons e m ih =>
    obtain ⟨k, v⟩ := e
    by_cases hk : k = key
    · simp [modify, get?, hk]
    · simp [modify, get?, hk, ih]

/-- Modifying the member of a key leaves the values of the others. -/
theorem get?_modify_of_ne {key other : String} (f : Json → Json) (m : Members)
    (h : other ≠ key) : get? other (modify key f m) = get? other m := by
  induction m with
  | nil => rfl
  | cons e m ih =>
    obtain ⟨k, v⟩ := e
    by_cases hk : k = key
    · subst hk
      simp [modify, get?, Ne.symm h]
    · simp [modify, get?, hk, ih]

/-- An erased key has no value. -/
@[simp] theorem get?_erase_self (key : String) (m : Members) : get? key (erase key m) = none := by
  induction m with
  | nil => rfl
  | cons e m ih =>
    obtain ⟨k, v⟩ := e
    by_cases hk : k = key
    · subst hk
      simpa [erase] using ih
    · have : erase key ((k, v) :: m) = (k, v) :: erase key m := by simp [erase, hk]
      simp [this, get?, hk, ih]

/-- Erasing a key leaves the values of the others. -/
theorem get?_erase_of_ne {key other : String} (m : Members) (h : other ≠ key) :
    get? other (erase key m) = get? other m := by
  induction m with
  | nil => rfl
  | cons e m ih =>
    obtain ⟨k, v⟩ := e
    by_cases hk : k = key
    · subst hk
      have : erase k ((k, v) :: m) = erase k m := by simp [erase]
      simp [this, get?, Ne.symm h, ih]
    · have : erase key ((k, v) :: m) = (k, v) :: erase key m := by simp [erase, hk]
      simp [this, get?, ih]

end Members

/-! ## Views of a value -/

/-- The members of an object; nothing for a value that is no object. The checks of a draft see
objects through this. -/
def members? : Json → Option Members
  | .obj m => some m
  | _ => none

/-- The items of an array; nothing for a value that is no array. The checks of a draft see lists
through this. -/
def items? : Json → Option (List Json)
  | .arr items => some items
  | _ => none

/-- The text of a string; nothing for a value that is no string, such as a number that could be
printed. -/
def text? : Json → Option String
  | .str s => some s
  | _ => none

/-- The truth value of a boolean; nothing for a value that is no boolean, such as 0 or null. -/
def bool? : Json → Option Bool
  | .bool b => some b
  | _ => none

/-- The value of a key, if the value is an object that has it. Any other value has no keys. -/
def get? (key : String) : Json → Option Json
  | .obj m => Members.get? key m
  | _ => none

/-! ## Members of a known kind

Views of an object's members by the kind of value that a key has to have. Each gives nothing if the
member is of another kind, or absent where it must not be. -/

namespace Members

/-- The text of a key, whose value has to be there and to be a string. -/
def text? (key : String) (m : Members) : Option String :=
  (get? key m).bind Json.text?

/-- The object of a key; the empty one if the key is absent. Null is not an object and gives
nothing. -/
def objectOrEmpty? (key : String) (m : Members) : Option Members :=
  match get? key m with
  | none => some []
  | some v => v.members?

/-- The value of a key read with `read`; nothing inside if the key is absent or null, and nothing at
all if the value cannot be read. -/
def nullable? (key : String) (read : Json → Option α) (m : Members) : Option (Option α) :=
  match get? key m with
  | none | some .null => some none
  | some v => (read v).map some

/-- The items of a key's array, each read with `read`. The key has to be there, and every item has
to be read. -/
def list? (key : String) (read : Json → Option α) (m : Members) : Option (List α) :=
  ((get? key m).bind Json.items?).bind fun items => items.mapM read

/-- The items of a key's array, each read with `read`; none if the key is absent. Null is not an
array and gives nothing. -/
def listOrEmpty? (key : String) (read : Json → Option α) (m : Members) : Option (List α) :=
  match get? key m with
  | none => some []
  | some v => v.items?.bind fun items => items.mapM read

end Members

end Json

end AgentPlan
