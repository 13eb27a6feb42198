import AgentPlan.Proofs.Json.Views

/-!
# Records are read field by field

The reader of a record walks through the members of an object in the order of the text. If no key
comes twice and every value is sound, the order makes no difference: the record is what its fields
make of the values of their names (`record_eq_gather`). Where the object has a value, every field
can be described by what it makes of this value, and not of the text (`Entries.Spells.gather_eq`).
-/

namespace AgentPlan.Json

/-! ## Members of a text -/

/-- The keys of some entries, each with the tree of its value. -/
def Entries.keyed : Entries → List (String × Tree)
  | .done _ => []
  | .cons key _ v next rest =>
    match key.key with
    | .error _ => []
    | .ok k => (k, v) :: match next.kind with
      | .comma => rest.keyed
      | _ => []

/-- No key comes twice in the object, if the tree is one. Inside of the values anything goes. -/
def Tree.DistinctKeys : Tree → Prop
  | .object _ entries => (entries.keyed.map Prod.fst).Nodup
  | _ => True

/-- The tree of a key's value, if the tree is an object that has the key. -/
def Tree.member? (key : String) : Tree → Option Tree
  | .object _ entries => entries.keyed.lookup key
  | _ => none

instance : DecidablePred Tree.DistinctKeys
  | .object _ entries => inferInstanceAs (Decidable (entries.keyed.map Prod.fst).Nodup)
  | .leaf _ | .array .. => .isTrue trivial

/-- The entries are members of an object up to its closing brace, and each has a value. `first` says
that no comma came before. -/
inductive Entries.Valued (room : Nat) : (first : Bool) → Entries → Prop
  | done {t : Token} : t.kind = .closeBrace → Valued room true (.done t)
  | last {first : Bool} {key colon next : Token} {t : Tree} {rest : Entries} {k : String}
      {v : Json} : key.key = .ok k → colon.expectColon = .ok () → t.value room = .ok v →
      next.kind = .closeBrace → Valued room first (.cons key colon t next rest)
  | more {first : Bool} {key colon next : Token} {t : Tree} {rest : Entries} {k : String}
      {v : Json} : key.key = .ok k → colon.expectColon = .ok () → t.value room = .ok v →
      next.kind = .comma → Valued room false rest → Valued room first (.cons key colon t next rest)

section
variable {room stop : Nat} {first : Bool} {entries rest : Entries} {m m' : Members}
  {key colon next : Token} {t : Tree} {k : String}

/-- The last entry is the only one that is left. -/
theorem Entries.keyed_last (hkey : key.key = .ok k) (hnext : next.kind = .closeBrace) :
    (Entries.cons key colon t next rest).keyed = [(k, t)] := by
  simp only [keyed, hkey, hnext]

/-- An entry before a comma comes before those after the comma. -/
theorem Entries.keyed_more (hkey : key.key = .ok k) (hnext : next.kind = .comma) :
    (Entries.cons key colon t next rest).keyed = (k, t) :: rest.keyed := by
  simp only [keyed, hkey, hnext]

/-- A walk through the last member of an object takes one step. -/
theorem Entries.walk_last {σ : Type} {step : σ → String → Token → Tree → Except Fault σ} {s : σ}
    (hkey : key.key = .ok k) (hnext : next.kind = .closeBrace) :
    ((Entries.cons key colon t next rest).walk step first s).toOption.map Prod.fst =
      (step s k colon t).toOption := by
  rw [walk]
  simp only [hkey, hnext]
  cases step s k colon t <;> rfl

/-- A walk through any other member takes one step and walks on. -/
theorem Entries.walk_more {σ : Type} {step : σ → String → Token → Tree → Except Fault σ} {s : σ}
    (hkey : key.key = .ok k) (hnext : next.kind = .comma) :
    ((Entries.cons key colon t next rest).walk step first s).toOption.map Prod.fst =
      (step s k colon t).toOption.bind fun s =>
        (rest.walk step false s).toOption.map Prod.fst := by
  rw [walk]
  simp only [hkey, hnext]
  cases step s k colon t <;> rfl

section
variable {σ : Type} {step : σ → String → Token → Tree → Except Fault σ}
  {p : List (String × Tree) → σ → Prop}

/-- What holds of the members before a place in an object, and is kept by every step for one member
more, holds of all members at the end. -/
theorem Entries.induction_of_walk_from
    (hstep : ∀ members s k colon t s', p members s → step s k colon t = .ok s' →
      p (members ++ [(k, t)]) s') :
    ∀ {entries : Entries} {first : Bool} {members : List (String × Tree)} {s s' : σ},
      p members s → entries.walk step first s = .ok (s', stop) → p (members ++ entries.keyed) s'
  | .done t, first, members, s, s', hs, h => by
    rw [walk] at h
    rw [keyed, List.append_nil]
    split at h
    · split_ifs at h
      cases h
      exact hs
    · cases h
    · cases h
  | .cons key colon t next rest, first, members, s, s', hs, h => by
    rw [walk] at h
    split at h
    · cases h
    · next k hk =>
      split at h
      · cases h
      · next after hafter =>
        have hs' := hstep members s k colon t after hs hafter
        split at h
        · next hnext =>
          cases h
          rw [keyed_last hk hnext]
          exact hs'
        · next hnext =>
          rw [keyed_more hk hnext, List.append_cons]
          exact induction_of_walk_from hstep hs' h
        · cases h

/-- Induction over a walk through an object. -/
theorem Entries.induction_of_walk {s s' : σ} (hstart : p [] s)
    (hstep : ∀ members s k colon t s', p members s → step s k colon t = .ok s' →
      p (members ++ [(k, t)]) s')
    (h : entries.walk step true s = .ok (s', stop)) : p entries.keyed s' := by
  have hall := induction_of_walk_from hstep hstart h
  rwa [List.nil_append] at hall

end

/-- The entries of an object that has a value have values. -/
theorem Entries.valued_of_walk : ∀ {entries : Entries} {first : Bool} {m : Members},
    entries.walk (insertValue room) first m = .ok (m', stop) → entries.Valued room first
  | .done t, first, m, h => by
    rw [walk] at h
    split at h
    · next hkind =>
      split_ifs at h with hfirst
      exact hfirst ▸ .done hkind
    · cases h
    · cases h
  | .cons key colon t next rest, first, m, h => by
    rw [walk] at h
    split at h
    · cases h
    · next k hk =>
      split at h
      · cases h
      · next m' hm' =>
        obtain ⟨_, hcolon, hrest⟩ := Except.bind_eq_ok_iff.1 hm'
        obtain ⟨v, hv, -⟩ := Except.bind_eq_ok_iff.1 hrest
        split at h
        · next hnext => exact .last hk hcolon hv hnext
        · next hnext => exact .more hk hcolon hv hnext (valued_of_walk h)
        · cases h

/-- A key that no member has is one that comes in no entry. -/
theorem lookup_eq_none_of_notMem {members : List (String × Tree)} {key : String}
    (h : key ∉ members.map Prod.fst) : members.lookup key = none := by
  rw [List.lookup_eq_none_iff]
  intro p hp
  simpa using fun heq : key = p.1 => h (heq ▸ List.mem_map_of_mem hp)

/-- A key that comes once is not among those before it. -/
theorem lookup_eq_none_of_nodup {members more : List (String × Tree)}
    (h : ((members ++ (k, t) :: more).map Prod.fst).Nodup) : members.lookup k = none := by
  refine lookup_eq_none_of_notMem fun hmem => ?_
  rw [List.map_append, List.nodup_append] at h
  exact h.2.2 k hmem k List.mem_cons_self rfl

/-- A member with another key makes no difference. -/
theorem lookup_cons_of_ne {members : List (String × Tree)} {key k : String} (h : key ≠ k) :
    ((k, t) :: members).lookup key = members.lookup key := by
  rw [List.lookup_cons, beq_eq_false_iff_ne.2 h]

/-- If no key comes twice, an object has the values of the trees of its entries. -/
theorem Entries.Valued.get?_eq (hvalued : entries.Valued room first)
    (hdistinct : (entries.keyed.map Prod.fst).Nodup)
    (hwalk : (entries.walk (insertValue room) first m).toOption.map Prod.fst = some m')
    (key : String) :
    m'.get? key = match entries.keyed.lookup key with
      | some t => (t.value room).toOption
      | none => m.get? key := by
  have hstep {m : Members} {k : String} {colon : Token} {t : Tree} {v : Json}
      (hcolon : colon.expectColon = .ok ()) (hvalue : t.value room = .ok v) :
      (insertValue room m k colon t).toOption = some (m.insert k v) := by
    simp only [insertValue, hcolon, hvalue]
    rfl
  induction hvalued generalizing m with
  | done hkind =>
    simp only [walk, hkind] at hwalk
    cases hwalk
    rfl
  | @last _ _ _ _ t _ k v hkey hcolon hvalue hnext =>
    rw [walk_last hkey hnext, hstep hcolon hvalue] at hwalk
    cases hwalk
    rw [keyed_last hkey hnext]
    by_cases heq : key = k
    · subst heq
      simp [hvalue, Except.toOption]
    · simp [lookup_cons_of_ne heq, Members.get?_insert_of_ne _ _ heq]
  | @more _ _ _ _ t rest k v hkey hcolon hvalue hnext _ ih =>
    rw [walk_more hkey hnext, hstep hcolon hvalue, Option.bind_some] at hwalk
    rw [keyed_more hkey hnext, List.map_cons, List.nodup_cons] at hdistinct
    rw [keyed_more hkey hnext, ih hdistinct.2 hwalk]
    by_cases heq : key = k
    · subst heq
      simp [lookup_eq_none_of_notMem hdistinct.1, hvalue, Except.toOption]
    · rw [lookup_cons_of_ne heq, Members.get?_insert_of_ne _ _ heq]

end

/-! ## Fields -/

namespace Field

variable {α : Type} {room : Nat} {members more : List (String × Tree)} {f : Field α} {k : String}
  {t : Tree}

/-- What has been read of a field when the given members have been: nothing yet, if none of them has
its name. -/
def slot (room : Nat) (members : List (String × Tree)) (f : Field α) : Option (Option α) :=
  match members.lookup f.name with
  | some t => (f.read room t).toOption.map some
  | none => some none

/-- What a field makes of the given members: of the value of its name, or of its absence. -/
def gather (room : Nat) (members : List (String × Tree)) (f : Field α) : Option α :=
  match members.lookup f.name with
  | some t => (f.read room t).toOption
  | none => f.absent

/-- A member of another key makes no difference to what has been read of a field. -/
theorem slot_append_of_ne (h : f.name ≠ k) :
    f.slot room (members ++ [(k, t)]) = f.slot room members := by
  rw [slot, slot, List.lookup_append, lookup_cons_of_ne h, List.lookup_nil, Option.or_none]

/-- The first member with the key of a field is read into it. -/
theorem slot_append_self (h : members.lookup f.name = none) :
    f.slot room (members ++ [(f.name, t)]) = (f.read room t).toOption.map some := by
  rw [slot, List.lookup_append, h, Option.none_or, List.lookup_cons_self]

/-- A field that could not be read cannot be read after more members either. -/
theorem slot_append_eq_none (h : f.slot room members = none) :
    f.slot room (members ++ more) = none := by
  rw [slot] at h ⊢
  rw [List.lookup_append]
  cases hlookup : members.lookup f.name with
  | none =>
    rw [hlookup] at h
    cases h
  | some t =>
    rw [hlookup] at h
    exact h

/-- In the end a field that was not read is absent. -/
theorem slot_bind_or :
    ((f.slot room members).bind fun slot => slot.or f.absent) = f.gather room members := by
  rw [slot, gather]
  cases members.lookup f.name with
  | none => rfl
  | some t =>
    dsimp only
    cases (f.read room t).toOption <;> rfl

end Field

namespace Fields

/-- The names of the fields. -/
def names : {σ τ : Type} → Fields σ τ → List String
  | _, _, .nil => []
  | _, _, .cons f rest => f.name :: rest.names

/-- What has been read of each field when the given members have been. -/
def slots (room : Nat) (members : List (String × Tree)) : {σ τ : Type} → Fields σ τ → Option σ
  | _, _, .nil => some ()
  | _, _, .cons f rest =>
    (f.slot room members).bind fun slot =>
      (rest.slots room members).map fun slots => (slot, slots)

/-- The record of the given members. -/
def gather (room : Nat) (members : List (String × Tree)) : {σ τ : Type} → Fields σ τ → Option τ
  | _, _, .nil => some ()
  | _, _, .cons f rest =>
    (f.gather room members).bind fun a => (rest.gather room members).map fun r => (a, r)

variable {σ τ : Type} {room : Nat} {members more : List (String × Tree)} {k : String} {t : Tree}
  {colon : Token}

/-- Before any member has been read, no field has a value. -/
theorem slots_nil (fields : Fields σ τ) : fields.slots room [] = some fields.empty := by
  induction fields with
  | nil => rfl
  | cons f rest ih =>
    rw [slots, ih]
    rfl

/-- A member that belongs to no field leaves what has been read of the fields. -/
theorem slots_append_of_notMem {fields : Fields σ τ} (h : k ∉ fields.names) :
    fields.slots room (members ++ [(k, t)]) = fields.slots room members := by
  induction fields with
  | nil => rfl
  | cons f rest ih =>
    rw [names, List.mem_cons, not_or] at h
    rw [slots, slots, Field.slot_append_of_ne (Ne.symm h.1), ih h.2]

/-- Fields one of which could not be read cannot be read after more members either. -/
theorem slots_append_eq_none {fields : Fields σ τ} (h : fields.slots room members = none) :
    fields.slots room (members ++ more) = none := by
  induction fields with
  | nil => cases h
  | cons f rest ih =>
    rw [slots, Option.bind_eq_none_iff] at h ⊢
    intro slot hslot
    cases hbefore : f.slot room members with
    | none =>
      rw [Field.slot_append_eq_none hbefore] at hslot
      cases hslot
    | some slot' =>
      rw [Option.map_eq_none_iff]
      exact ih (Option.map_eq_none_iff.1 (h slot' hbefore))

section
variable {α : Type} {f : Field α} {rest : Fields σ τ} {slot : Option α} {slots : σ}

/-- A field that has not been read is read from the member with its name. -/
theorem store_self : (Fields.cons f rest).store room f.name colon t (none, slots) = some (do
    colon.expectColon
    return (some (← f.read room t), slots)) :=
  if_pos rfl

/-- A field is not read from a member with another name. -/
theorem store_of_ne (h : f.name ≠ k) : (Fields.cons f rest).store room k colon t (slot, slots) =
    (rest.store room k colon t slots).map fun r => r.map fun slots => (slot, slots) :=
  if_neg h

end

/-- A key that is the name of no field is stored nowhere. -/
theorem store_eq_none {fields : Fields σ τ} {s : σ} (h : k ∉ fields.names) :
    fields.store room k colon t s = none := by
  induction fields with
  | nil => rfl
  | cons f rest ih =>
    rw [names, List.mem_cons, not_or] at h
    rw [store_of_ne (Ne.symm h.1), ih h.2]
    rfl

/-- The first member with the name of a field is read into it. -/
theorem exists_store {fields : Fields σ τ} {s : σ} (hnames : fields.names.Nodup)
    (hcolon : colon.expectColon = .ok ()) (hnew : members.lookup k = none)
    (hs : fields.slots room members = some s) (hmem : k ∈ fields.names) :
    ∃ r, fields.store room k colon t s = some r ∧
      r.toOption = fields.slots room (members ++ [(k, t)]) := by
  induction fields with
  | nil => cases hmem
  | cons f rest ih =>
    obtain ⟨slot, hslot, hrest⟩ := Option.bind_eq_some_iff.1 hs
    obtain ⟨slots, hslots, rfl⟩ := Option.map_eq_some_iff.1 hrest
    rw [names, List.nodup_cons] at hnames
    rw [Fields.slots]
    by_cases hname : f.name = k
    · subst hname
      rw [Field.slot, hnew] at hslot
      cases hslot
      refine ⟨_, store_self, ?_⟩
      rw [Field.slot_append_self hnew, slots_append_of_notMem hnames.1, hslots, hcolon]
      cases f.read room t <;> rfl
    · obtain ⟨r, hr, hread⟩ := ih hnames.2 hslots
        ((List.mem_cons.1 hmem).resolve_left (Ne.symm hname))
      refine ⟨r.map fun slots => (slot, slots), by rw [store_of_ne hname, hr]; rfl, ?_⟩
      rw [Except.toOption_map, hread, Field.slot_append_of_ne hname, hslot]
      rfl

/-- A member whose key has not come before is read into its field, or passed over. -/
theorem toOption_member {fields : Fields σ τ} {s : σ} (hnames : fields.names.Nodup)
    (hcolon : colon.expectColon = .ok ()) (hskip : t.skip = .ok ())
    (hnew : members.lookup k = none) (hs : fields.slots room members = some s) :
    (fields.member room s k colon t).toOption = fields.slots room (members ++ [(k, t)]) := by
  rw [member]
  by_cases hmem : k ∈ fields.names
  · obtain ⟨r, hr, hread⟩ := exists_store hnames hcolon hnew hs hmem (t := t)
    rw [hr]
    exact hread
  · rw [store_eq_none hmem, slots_append_of_notMem hmem, hs]
    simp only [hcolon, hskip]
    rfl

/-- A walk through the members of an object reads the fields that they belong to. -/
theorem toOption_walk {fields : Fields σ τ} {s : σ} {first : Bool} {entries : Entries}
    (hnames : fields.names.Nodup) (hvalued : entries.Valued room first) (hsound : entries.Sound)
    (hdistinct : ((members ++ entries.keyed).map Prod.fst).Nodup)
    (hs : fields.slots room members = some s) :
    (entries.walk (fields.member room) first s).toOption.map Prod.fst =
      fields.slots room (members ++ entries.keyed) := by
  induction hvalued generalizing members s with
  | done hkind =>
    rw [Entries.keyed, List.append_nil, hs]
    simp only [Entries.walk, hkind]
    rfl
  | @last _ _ _ _ t _ k v hkey hcolon hvalue hnext =>
    rw [Entries.keyed_last hkey hnext] at hdistinct ⊢
    rw [Entries.walk_last hkey hnext]
    exact toOption_member hnames hcolon (Tree.skip_of_value hsound.2.1 hvalue)
      (lookup_eq_none_of_nodup hdistinct) hs
  | @more _ _ _ _ t rest k v hkey hcolon hvalue hnext _ ih =>
    rw [Entries.keyed_more hkey hnext] at hdistinct ⊢
    have hstep := toOption_member hnames hcolon (Tree.skip_of_value hsound.2.1 hvalue)
      (lookup_eq_none_of_nodup hdistinct) hs
    rw [Entries.walk_more hkey hnext, hstep]
    rw [List.append_cons members (k, t) rest.keyed] at hdistinct ⊢
    cases hstep : fields.slots room (members ++ [(k, t)]) with
    | none => exact (slots_append_eq_none hstep).symm
    | some s' => exact ih hsound.2.2 hdistinct hstep

/-- The fields are closed as the record of the members that have been read. -/
theorem slots_bind_close (fields : Fields σ τ) :
    ((fields.slots room members).bind fun s => (fields.close s).toOption) =
      fields.gather room members := by
  induction fields with
  | nil => rfl
  | cons f rest ih =>
    rw [slots, gather, ← Field.slot_bind_or, ← ih]
    cases f.slot room members with
    | none => rfl
    | some slot =>
      cases rest.slots room members with
      | none =>
        dsimp only [Option.bind_some]
        cases slot.or f.absent <;> rfl
      | some s =>
        rw [Option.bind_some, Option.map_some, Option.bind_some, Option.bind_some, close]
        cases slot.or f.absent with
        | none => rfl
        | some a => exact Except.toOption_map _ _

end Fields

/-! ## Records -/

section
variable {σ τ : Type} {fields : Fields σ τ} {name : String} {room : Nat}

/-- **A record is read field by field**, if its members have different keys and values: each field
from the value of its name, wherever it stands, or as what is absent. -/
theorem record_eq_gather {opening : Token} {entries : Entries} (hnames : fields.names.Nodup)
    (hvalued : entries.Valued room true) (hsound : entries.Sound)
    (hdistinct : (entries.keyed.map Prod.fst).Nodup) :
    (Reader.record name fields (room + 1) (.object opening entries)).toOption =
      fields.gather room entries.keyed := by
  have hwalk : (entries.walk (fields.member room) true fields.empty).toOption.map Prod.fst =
      fields.slots room ([] ++ entries.keyed) :=
    Fields.toOption_walk hnames hvalued hsound hdistinct (Fields.slots_nil fields)
  rw [List.nil_append] at hwalk
  rw [← Fields.slots_bind_close, ← hwalk, Reader.record, Reader.enter]
  cases entries.walk (fields.member room) true fields.empty with
  | error f => rfl
  | ok r =>
    obtain ⟨s, place⟩ := r
    show _ = (fields.close s).toOption
    cases hclose : fields.close s <;> simp only [bind, Except.bind, hclose] <;> rfl

/-- The entries of an object without a key that comes twice, and the members of its value. -/
structure Entries.Spells (room : Nat) (entries : Entries) (m : Members) : Prop where
  sound : entries.Sound
  distinct : (entries.keyed.map Prod.fst).Nodup
  walk : ∃ stop, entries.walk (insertValue room) true [] = .ok (m, stop)

/-- What a view makes of the value of a key, or what stands for its absence. -/
def Members.read? {α : Type} (key : String) (view : Json → Option α) (absent : Option α)
    (m : Members) : Option α :=
  match m.get? key with
  | some v => view v
  | none => absent

namespace Entries

variable {entries : Entries} {m : Members} {key : String} {t : Tree}

/-- The trees of sound entries with values are sound and have values. -/
theorem Valued.of_mem {first : Bool} (h : entries.Valued room first) (hsound : entries.Sound)
    (hmem : (key, t) ∈ entries.keyed) : t.Sound ∧ ∃ v, t.value room = .ok v := by
  induction h with
  | done => cases hmem
  | last hkey _ hvalue hnext =>
    rw [keyed_last hkey hnext, List.mem_singleton] at hmem
    cases hmem
    exact ⟨hsound.2.1, _, hvalue⟩
  | more hkey _ hvalue hnext _ ih =>
    rw [keyed_more hkey hnext, List.mem_cons] at hmem
    rcases hmem with heq | hmem
    · cases heq
      exact ⟨hsound.2.1, _, hvalue⟩
    · exact ih hsound.2.2 hmem

namespace Spells

/-- The entries that spell the members of an object have values. -/
theorem valued (h : entries.Spells room m) : entries.Valued room true := by
  obtain ⟨stop, hwalk⟩ := h.walk
  exact valued_of_walk hwalk

/-- A key has the value of its tree, if it has one. -/
theorem get?_eq (h : entries.Spells room m) (key : String) :
    m.get? key = (entries.keyed.lookup key).bind fun t => (t.value room).toOption := by
  obtain ⟨stop, hwalk⟩ := h.walk
  have hget := h.valued.get?_eq h.distinct (by rw [hwalk]; rfl) key
  rw [hget]
  cases entries.keyed.lookup key <;> rfl

/-- The tree of a key is sound, and it has the value of the key. -/
theorem of_lookup (h : entries.Spells room m) (hlookup : entries.keyed.lookup key = some t) :
    t.Sound ∧ ∃ v, t.value room = .ok v ∧ m.get? key = some v := by
  obtain ⟨before, after, hsplit, -⟩ := List.lookup_eq_some_iff.1 hlookup
  have hmem : (key, t) ∈ entries.keyed := by simp [hsplit]
  obtain ⟨hsound, v, hv⟩ := h.valued.of_mem h.sound hmem
  refine ⟨hsound, v, hv, ?_⟩
  rw [h.get?_eq, hlookup, Option.bind_some, hv]
  rfl

/-- A field is what it makes of the value of its name, if it makes the same of the tree. -/
theorem gather_eq {α : Type} {f : Field α} {view : Json → Option α} (h : entries.Spells room m)
    (hview : ∀ t v, entries.keyed.lookup f.name = some t → t.Sound → t.value room = .ok v →
      m.get? f.name = some v → (f.read room t).toOption = view v) :
    f.gather room entries.keyed = m.read? f.name view f.absent := by
  rw [Field.gather, Members.read?]
  cases hlookup : entries.keyed.lookup f.name with
  | none => rw [h.get?_eq, hlookup, Option.bind_none]
  | some t =>
    obtain ⟨hsound, v, hv, hget⟩ := h.of_lookup hlookup
    rw [hget]
    exact hview t v hlookup hsound hv hget

/-- A field whose reader follows a view is what the view makes of the value of its name. -/
theorem gather_of_follows {α : Type} {f : Field α} {view : Json → Option α}
    (h : entries.Spells room m) (hview : f.read.Follows view) :
    f.gather room entries.keyed = m.read? f.name view f.absent :=
  h.gather_eq fun t v _ hsound hv _ => hview room t v hsound hv

end Spells

/-- An object that has a value, and no key that comes twice, spells the members of the value. -/
theorem exists_spells (ht : t.Sound) (hdistinct : t.DistinctKeys)
    (h : t.value room = .ok (.obj m)) : ∃ room' opening entries, room = room' + 1 ∧
      t = .object opening entries ∧ Entries.Spells room' entries m := by
  obtain ⟨token, rfl, hscalar⟩ | ⟨_, _, _, _, _, _, _, hne⟩ |
    ⟨room', opening, entries, m', stop, hroom, rfl, hwalk, heq⟩ := Tree.value_cases h
  · cases members?_of_scalar hscalar
  · cases hne
  · cases heq
    exact ⟨room', opening, entries, hroom, rfl, ht.2, hdistinct, stop, hwalk⟩

end Entries

/-- A record is read from no value but an array or an object. -/
theorem record_of_scalar {t : Tree} {v : Json} (ht : t.Sound) (h : t.value room = .ok v)
    (harr : v.items? = none) (hobj : v.members? = none) :
    (Reader.record name fields room t).toOption = none := by
  obtain ⟨token, rfl, hscalar⟩ | ⟨_, _, _, _, _, _, _, rfl⟩ | ⟨_, _, _, _, _, _, _, _, rfl⟩ :=
    Tree.value_cases h
  · rfl
  · cases harr
  · cases hobj

end

/-! ## Texts -/

/-- A whole text is read exactly if its tree is and nothing comes after it. -/
theorem readWith_eq_ok_iff {α : Type} {d : Document} {read : Tree → Except Fault α} {a : α} :
    d.readWith read = .ok a ↔ read d.tree = .ok a ∧ d.next.kind = .finish := by
  rw [Document.readWith, Except.bind_eq_ok_iff]
  constructor
  · rintro ⟨a', hread, h⟩
    split at h
    · next hfinish =>
      cases h
      exact ⟨hread, hfinish⟩
    · cases h
  · rintro ⟨hread, hfinish⟩
    exact ⟨a, hread, by simp only [hfinish]; rfl⟩

/-- A text is read as a value exactly if its tree is and nothing comes after the tree. -/
theorem run_eq_ok_iff {α : Type} {read : Reader α} {bytes : List UInt8} {a : α} :
    read.run bytes = .ok a ↔ (read depthLimit (Document.ofBytes bytes).tree).toOption = some a ∧
      (Document.ofBytes bytes).next.kind = .finish := by
  rw [Except.toOption_eq_some_iff, ← readWith_eq_ok_iff, Reader.run, Except.mapError_eq_ok_iff]

end AgentPlan.Json
