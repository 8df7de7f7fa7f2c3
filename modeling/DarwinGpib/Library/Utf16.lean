import Mathlib.Data.List.Basic

/-!
# UTF-16

A code point below 0x10000 is one unit, and a higher one a pair of surrogates. `decode` reads
units back and accepts exactly what `encode` writes.
-/

namespace Utf16

/-! ## Units -/

def encodeChar (c : Char) : List UInt16 :=
  if c.toNat < 0x10000 then [UInt16.ofNat c.toNat]
  else [UInt16.ofNat (0xD800 + (c.toNat - 0x10000) / 0x400),
    UInt16.ofNat (0xDC00 + (c.toNat - 0x10000) % 0x400)]

def encode (cs : List Char) : List UInt16 := cs.flatMap encodeChar

/-- The first and the second unit of a pair. -/
def IsHigh (u : UInt16) : Prop := 0xD800 ≤ u.toNat ∧ u.toNat < 0xDC00
def IsLow (u : UInt16) : Prop := 0xDC00 ≤ u.toNat ∧ u.toNat < 0xE000

instance (u : UInt16) : Decidable (IsHigh u) := inferInstanceAs (Decidable (_ ∧ _))
instance (u : UInt16) : Decidable (IsLow u) := inferInstanceAs (Decidable (_ ∧ _))

/-- The code point of a pair. -/
def pairOf (hi lo : UInt16) : Char :=
  Char.ofNat (0x10000 + (hi.toNat - 0xD800) * 0x400 + (lo.toNat - 0xDC00))

/-- The code points of units, none of which is a surrogate without its other half. -/
def decode : List UInt16 → Option (List Char)
  | [] => some []
  | u :: us =>
      if IsHigh u then
        match us with
        | [] => none
        | v :: us => if IsLow v then (decode us).map (pairOf u v :: ·) else none
      else if IsLow u then none
      else (decode us).map (Char.ofNat u.toNat :: ·)

theorem toNat_ofNat {n : Nat} (h : n < 0x10000) : (UInt16.ofNat n).toNat = n := by
  rw [UInt16.toNat_ofNat', Nat.mod_eq_of_lt h]

/-- No code point is a surrogate, and none is above 0x10FFFF. -/
theorem toNat_valid (c : Char) :
    c.toNat < 0xD800 ∨ 0xDFFF < c.toNat ∧ c.toNat < 0x110000 :=
  c.valid

theorem ofNat_toNat {n : Nat} (h : n < 0xD800 ∨ 0xDFFF < n ∧ n < 0x110000) :
    (Char.ofNat n).toNat = n := by
  rw [Char.ofNat, dif_pos h]
  rfl

theorem encodeChar_ofNat {u : UInt16} (hhigh : ¬ IsHigh u) (hlow : ¬ IsLow u) :
    encodeChar (Char.ofNat u.toNat) = [u] := by
  have hlt := u.toNat_lt
  unfold IsHigh at hhigh
  unfold IsLow at hlow
  rw [encodeChar, ofNat_toNat (by omega), if_pos hlt, UInt16.ofNat_toNat]

theorem encodeChar_pairOf {hi lo : UInt16} (hhigh : IsHigh hi) (hlow : IsLow lo) :
    encodeChar (pairOf hi lo) = [hi, lo] := by
  obtain ⟨hhi, hhi'⟩ := hhigh
  obtain ⟨hlo, hlo'⟩ := hlow
  have hval : (pairOf hi lo).toNat =
      0x10000 + (hi.toNat - 0xD800) * 0x400 + (lo.toNat - 0xDC00) := ofNat_toNat (by omega)
  have hfst : 0xD800 + ((pairOf hi lo).toNat - 0x10000) / 0x400 = hi.toNat := by omega
  have hsnd : 0xDC00 + ((pairOf hi lo).toNat - 0x10000) % 0x400 = lo.toNat := by omega
  rw [encodeChar, if_neg (by omega), hfst, hsnd, UInt16.ofNat_toNat, UInt16.ofNat_toNat]

/-- What is read back is what was written. -/
theorem eq_encode_of_decode {us : List UInt16} {cs : List Char} (h : decode us = some cs) :
    us = encode cs := by
  fun_induction decode us generalizing cs with
  | case1 =>
      cases h
      rfl
  | case2 u hu => cases h
  | case3 u hu v us hv ih =>
      obtain ⟨ds, hds, rfl⟩ := Option.map_eq_some_iff.mp h
      rw [encode, List.flatMap_cons, encodeChar_pairOf hu hv, ← encode, ← ih hds]
      rfl
  | case4 u hu v us hv => cases h
  | case5 u us hu hu' => cases h
  | case6 u us hu hu' ih =>
      obtain ⟨ds, hds, rfl⟩ := Option.map_eq_some_iff.mp h
      rw [encode, List.flatMap_cons, encodeChar_ofNat hu hu', ← encode, ← ih hds]
      rfl

/-! ## Bytes -/

/-- The units of bytes, each with its low byte first. -/
def units : List UInt8 → List UInt16
  | lo :: hi :: bs => (lo.toUInt16 ||| (hi.toUInt16 <<< 8)) :: units bs
  | _ => []

theorem length_units (bs : List UInt8) : (units bs).length = bs.length / 2 := by
  fun_induction units bs with
  | case1 lo hi bs ih =>
      simp only [List.length_cons, ih]
      omega
  | case2 bs h =>
      match bs, h with
      | [], _ => rfl
      | [b], _ => exact (Nat.div_eq_of_lt (by simp)).symm
      | lo :: hi :: bs, h => exact absurd rfl (h lo hi bs)

theorem getElem?_units (bs : List UInt8) (i : Nat) :
    (units bs)[i]? = do
      let lo ← bs[2 * i]?
      let hi ← bs[2 * i + 1]?
      return lo.toUInt16 ||| (hi.toUInt16 <<< 8) := by
  fun_induction units bs generalizing i with
  | case1 lo hi bs ih =>
      cases i with
      | zero => rfl
      | succ i =>
          have hlo : 2 * (i + 1) = 2 * i + 1 + 1 := by omega
          rw [List.getElem?_cons_succ, ih, hlo, List.getElem?_cons_succ, List.getElem?_cons_succ,
            List.getElem?_cons_succ, List.getElem?_cons_succ]
  | case2 bs h =>
      match bs, h with
      | [], _ => rfl
      | [b], _ => cases i <;> simp
      | lo :: hi :: bs, h => exact absurd rfl (h lo hi bs)

/-- The code points of UTF-16LE, if it is well formed. -/
def decodeLE (bs : List UInt8) : Option (List Char) :=
  if bs.length % 2 = 0 then decode (units bs) else none

end Utf16
