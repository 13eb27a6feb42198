import AgentPlan.Text.Utf8
import Mathlib.Data.UInt

/-!
# Texts survive UTF-8

The bytes of a text are decoded as the text: each character is one unit of its bytes
(`unit_utf8EncodeChar`), so the units of a text are its characters (`units_encode`), none of them is
broken (`firstBroken_encode`) and they spell the text (`decodeLossy_encode`).
-/

namespace AgentPlan.Text.Utf8

/-! ## Leading and following bytes -/

section
variable {lead low high : UInt8} {rest : List UInt8} {code width count : Nat}

/-- The leading bytes of characters with two bytes. -/
theorem announced_two (h : 0xc2 ≤ lead.toNat) (h' : lead.toNat ≤ 0xdf) :
    announced lead = some (1, 0x80, 0xbf) :=
  if_pos ⟨UInt8.le_iff_toNat_le.2 h, UInt8.le_iff_toNat_le.2 h'⟩

/-- The leading bytes of characters with three bytes. The first one keeps out overlong forms, and
`0xed` keeps out surrogates. -/
theorem announced_three (h : 0xe0 ≤ lead.toNat) (h' : lead.toNat ≤ 0xef) :
    announced lead = some (2, if lead.toNat = 0xe0 then 0xa0 else 0x80,
      if lead.toNat = 0xed then 0x9f else 0xbf) := by
  simp only [announced, UInt8.le_iff_toNat_le, ← UInt8.toNat_inj, UInt8.reduceToNat]
  split_ifs <;> first | omega | rfl

/-- The leading bytes of characters with four bytes. The first one keeps out overlong forms, and the
last one keeps out numbers above U+10FFFF. -/
theorem announced_four (h : 0xf0 ≤ lead.toNat) (h' : lead.toNat ≤ 0xf4) :
    announced lead = some (3, if lead.toNat = 0xf0 then 0x90 else 0x80,
      if lead.toNat = 0xf4 then 0x8f else 0xbf) := by
  simp only [announced, UInt8.le_iff_toNat_le, ← UInt8.toNat_inj, UInt8.reduceToNat]
  split_ifs <;> first | omega | rfl

/-- A unit whose leading byte announces others. -/
theorem unit_of_announced (h : announced lead = some (count, low, high))
    (hlead : 0x80 ≤ lead.toNat) :
    unit lead rest = follow (lead.toNat % Nat.pow 2 (6 - count)) 1 low high count rest := by
  have hnot : ¬ lead < 0x80 := fun hlt => Nat.not_lt.2 hlead (UInt8.lt_iff_toNat_lt.1 hlt)
  rw [unit, if_neg hnot, h]

/-- A following byte within its bounds adds six bits. -/
theorem follow_cons {bits : Nat} (hbits : bits < 64) (hlow : low.toNat ≤ bits + 128)
    (hhigh : bits + 128 ≤ high.toNat) :
    follow code width low high (count + 1) (.ofNat (bits + 128) :: rest) =
      follow (code * 64 + bits) (width + 1) 0x80 0xbf count rest := by
  have hbyte : (UInt8.ofNat (bits + 128)).toNat = bits + 128 :=
    UInt8.toNat_ofNat_of_lt' (show bits + 128 < 256 by omega)
  have hbounds : low ≤ .ofNat (bits + 128) ∧ .ofNat (bits + 128) ≤ high := by
    rw [UInt8.le_iff_toNat_le, UInt8.le_iff_toNat_le, hbyte]
    exact ⟨hlow, hhigh⟩
  have hmod : (bits + 128) % 64 = bits := by omega
  rw [follow, if_pos hbounds, hbyte, hmod]

/-- A following byte that is not the first one has the usual bounds. -/
theorem follow_cons_usual {bits : Nat} (hbits : bits < 64) :
    follow code width 0x80 0xbf (count + 1) (.ofNat (bits + 128) :: rest) =
      follow (code * 64 + bits) (width + 1) 0x80 0xbf count rest :=
  follow_cons hbits (show 128 ≤ bits + 128 by omega) (show bits + 128 ≤ 191 by omega)

end

/-! ## Characters -/

/-- The bytes of a character are one unit, which is the character. -/
theorem unit_utf8EncodeChar (c : Char) (rest : List UInt8) :
    ∃ lead tail, String.utf8EncodeChar c = lead :: tail ∧
      unit lead (tail ++ rest) = ⟨some c, tail.length + 1⟩ := by
  have hvalid : c.val.toNat < 0xd800 ∨ 0xdfff < c.val.toNat ∧ c.val.toNat < 0x110000 := c.valid
  have hchar : Char.ofNat c.val.toNat = c := Char.ofNat_toNat c
  have htoNat {n : Nat} (h : n < 256) : (UInt8.ofNat n).toNat = n := UInt8.toNat_ofNat_of_lt' h
  rw [String.utf8EncodeChar]
  generalize c.val.toNat = v at hvalid hchar
  split_ifs with h1 h2 h3 <;> refine ⟨_, _, rfl, ?_⟩
  · have hlead := htoNat (n := v) (by omega)
    have hascii : (UInt8.ofNat v).toNat < 128 := by omega
    rw [unit, if_pos (UInt8.lt_iff_toNat_lt.2 hascii), hlead, hchar]
    rfl
  · have hlead := htoNat (n := v / 64 % 32 + 192) (by omega)
    have hcode : (v / 64 % 32 + 192) % Nat.pow 2 5 * 64 + v % 64 = v := by
      show (v / 64 % 32 + 192) % 32 * 64 + v % 64 = v
      omega
    rw [unit_of_announced (announced_two (by omega) (by omega)) (by omega), hlead,
      List.cons_append, follow_cons_usual (by omega), follow, hcode, hchar]
    rfl
  · have hlead := htoNat (n := v / 4096 % 16 + 224) (by omega)
    have hcode : ((v / 4096 % 16 + 224) % Nat.pow 2 4 * 64 + v / 64 % 64) * 64 + v % 64 = v := by
      show ((v / 4096 % 16 + 224) % 16 * 64 + v / 64 % 64) * 64 + v % 64 = v
      omega
    rw [unit_of_announced (announced_three (by omega) (by omega)) (by omega), hlead,
      List.cons_append, follow_cons (Nat.mod_lt _ (by decide)) ?least ?greatest, List.cons_append,
      follow_cons_usual (by omega), follow, hcode, hchar]
    · rfl
    case least => split_ifs <;> simp only [UInt8.reduceToNat] <;> omega
    case greatest => split_ifs <;> simp only [UInt8.reduceToNat] <;> omega
  · have hlead := htoNat (n := v / 262144 % 8 + 240) (by omega)
    have hcode : (((v / 262144 % 8 + 240) % Nat.pow 2 3 * 64 + v / 4096 % 64) * 64 +
        v / 64 % 64) * 64 + v % 64 = v := by
      show (((v / 262144 % 8 + 240) % 8 * 64 + v / 4096 % 64) * 64 + v / 64 % 64) * 64 +
        v % 64 = v
      omega
    rw [unit_of_announced (announced_four (by omega) (by omega)) (by omega), hlead,
      List.cons_append, follow_cons (Nat.mod_lt _ (by decide)) ?least ?greatest, List.cons_append,
      follow_cons_usual (by omega), List.cons_append, follow_cons_usual (by omega), follow, hcode,
      hchar]
    · rfl
    case least => split_ifs <;> simp only [UInt8.reduceToNat] <;> omega
    case greatest => split_ifs <;> simp only [UInt8.reduceToNat] <;> omega

/-! ## Texts -/

/-- Bytes of a unit already taken are passed over. -/
theorem unitsFrom_append (taken rest : List UInt8) :
    unitsFrom taken.length (taken ++ rest) = units rest := by
  induction taken with
  | nil => rfl
  | cons b taken ih => exact ih

/-- The units of the bytes of some characters are these characters. -/
theorem units_flatMap (cs : List Char) :
    units (cs.flatMap String.utf8EncodeChar) =
      cs.map fun c => ⟨some c, (String.utf8EncodeChar c).length⟩ := by
  induction cs with
  | nil => rfl
  | cons c cs ih =>
    obtain ⟨lead, tail, hbytes, hunit⟩ :=
      unit_utf8EncodeChar c (cs.flatMap String.utf8EncodeChar)
    rw [List.flatMap_cons, hbytes, List.cons_append, units, unitsFrom]
    simp only [hunit, Nat.add_sub_cancel, unitsFrom_append, ih, List.map_cons, hbytes,
      List.length_cons]

/-- The units of a text are its characters. -/
theorem units_encode (s : String) :
    units (encode s) = s.toList.map fun c => ⟨some c, (String.utf8EncodeChar c).length⟩ :=
  units_flatMap s.toList

/-- No unit of a text is broken. -/
theorem firstBroken_encode (s : String) : firstBroken (encode s) = none := by
  rw [firstBroken, units_encode]
  induction s.toList with
  | nil => rfl
  | cons c cs ih => rw [List.map_cons, brokenAt?, ih]; rfl

/-- The bytes of a text spell it. -/
theorem decodeLossy_encode (s : String) : decodeLossy (encode s) = s := by
  have hsame : ((fun u : Unit => u.char?.getD '\uFFFD') ∘
      fun c => ⟨some c, (String.utf8EncodeChar c).length⟩) = id := rfl
  rw [decodeLossy, units_encode, List.map_map, hsame, List.map_id, String.ofList_toList]

/-- The bytes of a text that is made of some characters. -/
theorem encode_ofList (cs : List Char) :
    encode (String.ofList cs) = cs.flatMap String.utf8EncodeChar := by
  rw [encode, String.toList_ofList]

/-- The bytes of a text of one character. -/
theorem encode_toString (c : Char) : encode c.toString = String.utf8EncodeChar c := by
  rw [encode, Char.toString, String.toList_singleton, List.flatMap_cons, List.flatMap_nil,
    List.append_nil]

/-- The bytes of two texts, one after the other. -/
theorem encode_append (s t : String) : encode (s ++ t) = encode s ++ encode t := by
  rw [encode, String.toList_append, List.flatMap_append]
  rfl

end AgentPlan.Text.Utf8
