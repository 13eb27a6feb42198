import AgentPlan.Proofs.Json.Records

/-!
# The two forms of a record

A record is read from an object, or from an array that holds the fields in their order. Whatever it
was read from, it is what its fields make of named trees (`gather_of_record`): of the members of the
object, among which no field comes twice, or of the elements of the array under the names of the
fields (`Tree.named`). A field that may be null or absent is read from its part, if it has one
(`Tree.part?`, `Field.rel_gather_nullable`), and the first element of a list from the first element
of an array (`Reader.rel_first_list`).
-/

namespace AgentPlan.Json

/-! ## Named trees -/

/-- The elements up to the end of the array. -/
def Elements.items : Elements → List Tree
  | .done _ => []
  | .cons v next rest => v :: match next.kind with
    | .comma => rest.items
    | _ => []

/-- The elements after a place in an array. -/
def Between.items : Between → List Tree
  | .start es => es.items
  | .after next rest =>
    match next.kind with
    | .comma => rest.items
    | _ => []

/-- The members of an object, or the elements of an array with the given names. -/
def Tree.named (names : List String) : Tree → List (String × Tree)
  | .object _ entries => entries.keyed
  | .array _ elements => names.zip elements.items
  | .leaf _ => []

/-- A record can be read from an object or an array, and from nothing else. -/
def Tree.IsRecord : Tree → Prop
  | .object .. | .array .. => True
  | .leaf _ => False

/-- None of the names comes twice: the first member with a name is the only one. -/
def Once (names : List String) (members : List (String × Tree)) : Prop :=
  ∀ k ∈ names, ∀ t, (k, t) ∈ members → members.lookup k = some t

namespace Once

variable {names : List String} {members : List (String × Tree)} {k : String} {t : Tree}

/-- A member is added whose name has not come before, if it is one of the names. -/
theorem append (h : Once names members) (hnew : k ∈ names → members.lookup k = none) :
    Once names (members ++ [(k, t)]) := by
  intro k' hk' t' hmem
  rw [List.lookup_append]
  rcases List.mem_append.1 hmem with hmem | hmem
  · rw [h k' hk' t' hmem, Option.some_or]
  · cases List.mem_singleton.1 hmem
    rw [hnew hk', Option.none_or, List.lookup_cons_self]

/-- Different names come once where they are given in their order. -/
theorem zip (hnames : names.Nodup) (items : List Tree) : Once names (names.zip items) := by
  intro k _ t hmem
  induction names generalizing items with
  | nil => cases hmem
  | cons name names ih =>
    cases items with
    | nil => cases hmem
    | cons item items =>
      rw [List.nodup_cons] at hnames
      rw [List.zip_cons_cons] at hmem ⊢
      rcases List.mem_cons.1 hmem with heq | hmem
      · cases heq
        exact List.lookup_cons_self
      · have hne : k ≠ name := fun heq => hnames.1 (heq ▸ (List.of_mem_zip hmem).1)
        rw [lookup_cons_of_ne hne]
        exact ih hnames.2 items (List.of_mem_zip hmem).1 hmem

/-- A field is read from the member with its name, if this comes once. -/
theorem read_eq_ok {α : Type} {f : Field α} {a : α} {room : Nat} (honce : Once names members)
    (hname : f.name ∈ names) (h : f.gather room members = some a) (hmem : (f.name, t) ∈ members) :
    f.read room t = .ok a := by
  rw [Field.gather, honce f.name hname t hmem] at h
  exact Except.toOption_eq_some_iff.1 h

end Once

namespace Fields

variable {σ τ : Type} {fields : Fields σ τ} {room stop : Nat} {members : List (String × Tree)}
  {k : String} {t : Tree} {colon : Token} {s s' : σ} {r : τ}

/-! ## Objects -/

/-- A key that is not stored is the name of no field. -/
theorem notMem_of_store (h : fields.store room k colon t s = none) : k ∉ fields.names := by
  induction fields with
  | nil => exact List.not_mem_nil
  | cons f rest ih =>
    obtain ⟨slot, slots⟩ := s
    by_cases hname : f.name = k
    · simp [store, hname] at h
    · rw [store_of_ne hname, Option.map_eq_none_iff] at h
      rw [names, List.mem_cons, not_or]
      exact ⟨Ne.symm hname, ih h⟩

/-- A member that is read into a field is the first one with its name. -/
theorem slots_of_store (hnames : fields.names.Nodup) (hs : fields.slots room members = some s)
    (h : fields.store room k colon t s = some (.ok s')) :
    members.lookup k = none ∧ fields.slots room (members ++ [(k, t)]) = some s' := by
  induction fields with
  | nil => cases h
  | cons f rest ih =>
    obtain ⟨slot, hslot, hrest⟩ := Option.bind_eq_some_iff.1 hs
    obtain ⟨slots, hslots, rfl⟩ := Option.map_eq_some_iff.1 hrest
    rw [names, List.nodup_cons] at hnames
    rw [Fields.slots]
    by_cases hname : f.name = k
    · subst hname
      cases slot with
      | some a =>
        rw [store, if_pos rfl] at h
        cases h
      | none =>
        rw [store_self] at h
        obtain ⟨_, -, hread⟩ := Except.bind_eq_ok_iff.1 (Option.some.inj h)
        obtain ⟨a, ha, hs'⟩ := Except.bind_eq_ok_iff.1 hread
        cases hs'
        have hnew : members.lookup f.name = none := by
          rw [Field.slot] at hslot
          cases hlookup : members.lookup f.name with
          | none => rfl
          | some t' =>
            rw [hlookup] at hslot
            obtain ⟨_, -, hnone⟩ := Option.map_eq_some_iff.1 hslot
            cases hnone
        refine ⟨hnew, ?_⟩
        rw [Field.slot_append_self hnew, ha, slots_append_of_notMem hnames.1, hslots]
        rfl
    · rw [store_of_ne hname] at h
      obtain ⟨stored, hstored, hok⟩ := Option.map_eq_some_iff.1 h
      obtain ⟨slots', rfl, rfl⟩ := Except.map_eq_ok_iff.1 hok
      obtain ⟨hnew, hread⟩ := ih hnames.2 hslots hstored
      refine ⟨hnew, ?_⟩
      rw [Field.slot_append_of_ne hname, hslot, hread]
      rfl

/-- A member that is read is read into its field, which has not come before, or passed over. -/
theorem slots_of_member (hnames : fields.names.Nodup) (hs : fields.slots room members = some s)
    (h : fields.member room s k colon t = .ok s') :
    (k ∈ fields.names → members.lookup k = none) ∧
      fields.slots room (members ++ [(k, t)]) = some s' := by
  rw [member] at h
  cases hstore : fields.store room k colon t s with
  | some stored =>
    rw [hstore] at h
    obtain ⟨hnew, hread⟩ := slots_of_store hnames hs (hstore.trans (congrArg some h))
    exact ⟨fun _ => hnew, hread⟩
  | none =>
    have hnot := notMem_of_store hstore
    rw [hstore] at h
    obtain ⟨_, -, hrest⟩ := Except.bind_eq_ok_iff.1 h
    obtain ⟨_, -, hs'⟩ := Except.bind_eq_ok_iff.1 hrest
    cases hs'
    exact ⟨fun hmem => absurd hmem hnot, by rw [slots_append_of_notMem hnot, hs]⟩

/-- A walk through the members of an object has read those that belong to fields, each of them once.
-/
theorem slots_of_walk (hnames : fields.names.Nodup) {entries : Entries}
    (h : entries.walk (fields.member room) true fields.empty = .ok (s', stop)) :
    fields.slots room entries.keyed = some s' ∧ Once fields.names entries.keyed := by
  refine Entries.induction_of_walk
    (p := fun members s => fields.slots room members = some s ∧ Once fields.names members)
    ⟨slots_nil fields, fun _ _ _ h => nomatch h⟩ (fun members s k colon t s' hs hmember => ?_) h
  obtain ⟨hnew, hread⟩ := slots_of_member hnames hs.1 hmember
  exact ⟨hread, hs.2.append hnew⟩

/-! ## Gathered fields -/

/-- Where a record is made of some members, its first field is, and so are the others. -/
theorem exists_of_gather {α : Type} {f : Field α} {a : α}
    (h : (Fields.cons f fields).gather room members = some (a, r)) :
    f.gather room members = some a ∧ fields.gather room members = some r := by
  obtain ⟨a', ha, h⟩ := Option.bind_eq_some_iff.1 h
  obtain ⟨r', hr, heq⟩ := Option.map_eq_some_iff.1 h
  cases heq
  exact ⟨ha, hr⟩

/-! ## Arrays -/

/-- Every field is the same where an object lacks it as where an array ends before it. -/
def Uniform : {σ τ : Type} → Fields σ τ → Prop
  | _, _, .nil => True
  | _, _, .cons f rest => f.absent = f.cutOff ∧ rest.Uniform

/-- What stands for a field that an array ends before stands for it in an object that lacks it, too.
A field that has no such value in an array may have one in an object. -/
def Consistent : {σ τ : Type} → Fields σ τ → Prop
  | _, _, .nil => True
  | _, _, .cons f rest => (∀ a, f.cutOff = some a → f.absent = some a) ∧ rest.Consistent

/-- If every field is the same in both forms, an array gives nothing that an object would not. -/
theorem Uniform.consistent (h : fields.Uniform) : fields.Consistent := by
  induction fields with
  | nil => trivial
  | cons f rest ih => exact ⟨fun a ha => h.1.trans ha, ih h.2⟩

/-- A member that belongs to no field makes no difference. -/
theorem gather_cons_of_notMem (h : k ∉ fields.names) :
    fields.gather room ((k, t) :: members) = fields.gather room members := by
  induction fields with
  | nil => rfl
  | cons f rest ih =>
    rw [names, List.mem_cons, not_or] at h
    rw [gather, gather, Field.gather, Field.gather, lookup_cons_of_ne (Ne.symm h.1), ih h.2]

/-- The next element is the first one after a place. -/
theorem items_of_advance {place next : Between} {v : Tree}
    (h : place.advance = .ok (some (v, next))) : place.items = v :: next.items := by
  rw [Between.advance.eq_def] at h
  split at h
  · split at h <;> cases h
  · cases h
    rfl
  · next token rest =>
    split at h
    · cases h
    · next hkind =>
      split at h
      · cases h
        simp only [Between.items, hkind]
        rfl
      · split at h <;> cases h
    · cases h

/-- At the end of an array there is no element after a place. -/
theorem items_of_advance_none {place : Between} (h : place.advance = .ok none) :
    place.items = [] := by
  rw [Between.advance.eq_def] at h
  split at h
  · rfl
  · cases h
  · next token rest =>
    split at h
    · next hkind => simp only [Between.items, hkind]
    · split at h
      · cases h
      · split at h <;> cases h
    · cases h

/-- What is read from an array is the record of its elements under the names of the fields. -/
theorem gather_of_fromElements {wanted : String} (hnames : fields.names.Nodup)
    (hfields : fields.Consistent) {index : Nat} {place : Between}
    (h : fields.fromElements room wanted index place = .ok r) :
    fields.gather room (fields.names.zip place.items) = some r := by
  induction fields generalizing index place with
  | nil => rfl
  | cons f rest ih =>
    rw [names, List.nodup_cons] at hnames
    obtain ⟨habsent, hrest⟩ := hfields
    obtain ⟨next, hadvance, h⟩ := Except.bind_eq_ok_iff.1 h
    cases next with
    | some found =>
      obtain ⟨v, after⟩ := found
      dsimp only at h
      split at h
      · next a hread =>
        obtain ⟨r', hr', hr⟩ := Except.bind_eq_ok_iff.1 h
        cases hr
        rw [names, items_of_advance hadvance, List.zip_cons_cons, gather, Field.gather,
          List.lookup_cons_self, gather_cons_of_notMem hnames.1, ih hnames.2 hrest hr']
        dsimp only
        rw [hread]
        rfl
      · cases h
    | none =>
      dsimp only at h
      split at h
      · next a ha =>
        obtain ⟨r', hr', hr⟩ := Except.bind_eq_ok_iff.1 h
        cases hr
        have hitems := items_of_advance_none hadvance
        have hread := ih hnames.2 hrest hr'
        rw [hitems, List.zip_nil_right] at hread ⊢
        rw [gather, Field.gather, List.lookup_nil, hread, habsent a ha]
        rfl
      · cases h

end Fields

/-! ## Records -/

/-- **A record in either form.** Whatever a record is read from is an object or an array, and the
record is what its fields make of the named trees in it, among which no field comes twice. This is
said of records in which a field that an array leaves out is the same as one that is absent from an
object. -/
theorem gather_of_record {σ τ : Type} {fields : Fields σ τ} {name : String} {room : Nat} {t : Tree}
    {r : τ} (hnames : fields.names.Nodup) (hfields : fields.Consistent)
    (h : Reader.record name fields room t = .ok r) :
    t.IsRecord ∧ fields.gather (room - 1) (t.named fields.names) = some r ∧
      Once fields.names (t.named fields.names) := by
  cases t with
  | leaf token => cases h
  | array opening elements =>
    cases room with
    | zero => cases h
    | succ room =>
      exact ⟨trivial, Fields.gather_of_fromElements hnames hfields h,
        Once.zip hnames elements.items⟩
  | object opening entries =>
    cases room with
    | zero => cases h
    | succ room =>
      obtain ⟨⟨s, stop⟩, hwalk, hclose⟩ := Except.bind_eq_ok_iff.1 h
      obtain ⟨hslots, honce⟩ := Fields.slots_of_walk hnames hwalk
      refine ⟨trivial, ?_, honce⟩
      rw [Tree.named, Nat.add_sub_cancel, ← Fields.slots_bind_close, hslots, Option.bind_some]
      dsimp only at hclose
      split at hclose
      · next a ha =>
        cases hclose
        rw [ha]
        rfl
      · cases hclose

/-! ## Parts of records -/

/-- Null stands in the place of a value. -/
def Tree.isNull (t : Tree) : Bool :=
  match t.token.kind with
  | .null => true
  | _ => false

/-- The part of a record with one of the names of its fields, unless it is absent or null. -/
def Tree.part? (names : List String) (name : String) (t : Tree) : Option Tree :=
  ((t.named names).lookup name).filter fun part => !part.isNull

/-- The first element of an array, if there is one. -/
def Tree.first? : Tree → Option Tree
  | .array _ elements => elements.items.head?
  | _ => none

/-- The text in the place of a value. -/
def Tree.text? (t : Tree) : Option String :=
  (Reader.text 0 t).toOption

section
variable {α : Type} {read : Reader α} {room : Nat}

/-- What may be null is nothing where null stands, and else something that is read. -/
theorem Reader.rel_optional {t : Tree} {a : Option α} (h : Reader.optional read room t = .ok a) :
    Option.Rel (fun part v => read room part = .ok v)
      ((some t).filter fun part => !part.isNull) a := by
  rw [Reader.optional] at h
  split at h
  · next hkind =>
    cases h
    rw [Option.filter_some_neg (by simp [Tree.isNull, hkind])]
    exact .none
  · next hkind =>
    obtain ⟨v, hv, rfl⟩ := Except.map_eq_ok_iff.1 h
    rw [Option.filter_some_pos (by simp [Tree.isNull])]
    exact .some hv

/-- A field that may be null or absent is read from the part with its name. -/
theorem Field.rel_gather_nullable {name : String} {names : List String} {t : Tree} {a : Option α}
    (h : (Field.nullable name read).gather room (t.named names) = some a) :
    Option.Rel (fun part v => read room part = .ok v) (t.part? names name) a := by
  rw [Field.gather] at h
  rw [Tree.part?]
  dsimp only [Field.nullable] at h
  cases hlookup : (t.named names).lookup name with
  | none =>
    rw [hlookup] at h
    cases h
    exact .none
  | some part =>
    rw [hlookup] at h
    exact Reader.rel_optional (Except.toOption_eq_some_iff.1 h)

/-- The first of the elements that are collected is read from the first element. -/
theorem Elements.rel_head?_of_collect {read : Tree → Except Fault α} {first : Bool}
    {elements : Elements} {as : List α} (h : elements.collect read first = .ok as) :
    Option.Rel (fun part v => read part = .ok v) elements.items.head? as.head? := by
  cases elements with
  | done token =>
    rw [collect] at h
    split at h
    · split_ifs at h
      cases h
      exact .none
    · cases h
  | cons v next rest =>
    rw [collect] at h
    split at h
    · cases h
    · next a ha =>
      split at h
      · cases h
        exact .some ha
      · obtain ⟨more, -, rfl⟩ := Except.map_eq_ok_iff.1 h
        exact .some ha
      · cases h

/-- The first element of a list is read from the first element of an array. -/
theorem Reader.rel_first_list {t : Tree} {as : List α} (h : Reader.list read room t = .ok as) :
    Option.Rel (fun part v => read (room - 1) part = .ok v) t.first? as.head? := by
  rw [Reader.list, Reader.elements.eq_def] at h
  split at h
  · next opening elements =>
    cases room with
    | zero => cases h
    | succ room => exact Elements.rel_head?_of_collect h
  · cases h

end

/-! ## Values of records -/

section
variable {room stop : Nat} {key : String} {v : Json} {m' : Members}

/-- What an object has for a key is the value of a member with this key. -/
theorem Entries.exists_mem_of_get? {entries : Entries}
    (h : entries.walk (insertValue room) true [] = .ok (m', stop)) (hget : m'.get? key = some v) :
    ∃ t, (key, t) ∈ entries.keyed ∧ t.value room = .ok v := by
  refine induction_of_walk (p := fun members m => m.get? key = some v →
    ∃ t, (key, t) ∈ members ∧ t.value room = .ok v)
    (fun hget => by cases hget) (fun members m k colon t m' hm hstep hget => ?_) h hget
  obtain ⟨_, -, hset⟩ := Except.bind_eq_ok_iff.1 hstep
  obtain ⟨w, hw, hset⟩ := Except.bind_eq_ok_iff.1 hset
  cases hset
  by_cases hkey : key = k
  · subst hkey
    rw [Members.get?_insert_self] at hget
    cases hget
    exact ⟨t, List.mem_append_right _ (List.mem_singleton.2 rfl), hw⟩
  · rw [Members.get?_insert_of_ne _ _ hkey] at hget
    obtain ⟨t', hmem, hvalue⟩ := hm hget
    exact ⟨t', List.mem_append_left _ hmem, hvalue⟩

/-- What a value that is an object has for a key is the value of a tree with this name. -/
theorem Tree.exists_named_of_get? {t : Tree} {m : Members} (names : List String)
    (h : t.value room = .ok (.obj m)) (hget : m.get? key = some v) :
    ∃ room' part, (key, part) ∈ t.named names ∧ part.value room' = .ok v := by
  obtain ⟨token, rfl, hscalar⟩ | ⟨_, _, _, _, _, _, _, hne⟩ |
    ⟨room', opening, entries, m', stop, -, rfl, hwalk, heq⟩ := Tree.value_cases h
  · cases members?_of_scalar hscalar
  · cases hne
  · cases heq
    obtain ⟨part, hmem, hvalue⟩ := Entries.exists_mem_of_get? hwalk hget
    exact ⟨room', part, hmem, hvalue⟩

/-- The value of a record is an object or an array. -/
theorem Tree.IsRecord.value_cases {t : Tree} (ht : t.IsRecord) (h : t.value room = .ok v) :
    (∃ m, v = .obj m) ∨ ∃ items, v = .arr items := by
  obtain ⟨token, rfl, -⟩ | ⟨_, _, _, items, -, rfl, -, rfl⟩ | ⟨_, _, _, m, _, -, rfl, -, rfl⟩ :=
    Tree.value_cases h
  · cases ht
  · exact .inr ⟨items, rfl⟩
  · exact .inl ⟨m, rfl⟩

end

end AgentPlan.Json
