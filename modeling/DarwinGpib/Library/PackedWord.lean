import Mathlib.Data.Nat.Bitwise

/-!
# Words packed from fields

A field is a range of bits of a word. A word joined from fields with `|||` gives every field back,
as long as no two of them overlap.
-/

namespace PackedWord

/-- The bits from `shift` on, `width` of them. -/
structure Field where
  shift : Nat
  width : Nat
  deriving DecidableEq, Repr

/-- No bit belongs to both fields. -/
def Apart (f g : Field) : Prop :=
  f.shift + f.width ≤ g.shift ∨ g.shift + g.width ≤ f.shift

instance (f g : Field) : Decidable (Apart f g) := inferInstanceAs (Decidable (_ ∨ _))

variable {w : Nat}

namespace Field

/-- The values that fit the field. -/
def mask (f : Field) (w : Nat) : BitVec w := BitVec.ofNat w (2 ^ f.width - 1)

/-- A word with `v` in the field, cut off where it does not fit. -/
def put (f : Field) (v : BitVec w) : BitVec w := (v &&& f.mask w) <<< f.shift

def get (f : Field) (x : BitVec w) : BitVec w := (x >>> f.shift) &&& f.mask w

variable {f g : Field} {x y v : BitVec w}

theorem getLsbD_mask (i : Nat) :
    (f.mask w).getLsbD i = (decide (i < w) && decide (i < f.width)) := by
  rw [mask, BitVec.getLsbD_ofNat, Nat.testBit_two_pow_sub_one]

theorem getLsbD_get (i : Nat) :
    (f.get x).getLsbD i = (x.getLsbD (f.shift + i) && decide (i < f.width)) := by
  rw [get, BitVec.getLsbD_and, BitVec.getLsbD_ushiftRight, getLsbD_mask]
  by_cases hi : i < w
  · rw [decide_eq_true hi, Bool.true_and]
  · rw [BitVec.getLsbD_of_ge _ _ (by omega), Bool.false_and, Bool.false_and]

theorem getLsbD_put (i : Nat) :
    (f.put v).getLsbD i = (decide (i < w ∧ f.shift ≤ i ∧ i < f.shift + f.width) &&
      v.getLsbD (i - f.shift)) := by
  rw [put, BitVec.getLsbD_shiftLeft, BitVec.getLsbD_and, getLsbD_mask]
  by_cases hin : i < w ∧ f.shift ≤ i ∧ i < f.shift + f.width
  · have hsub : i - f.shift < w ∧ i - f.shift < f.width := by omega
    simp [hin, hsub, Nat.not_lt.mpr hin.2.1]
  · have hout : ¬ (i < w ∧ ¬ i < f.shift ∧ i - f.shift < f.width) := by omega
    rw [decide_eq_false hin, Bool.false_and]
    grind

@[simp] theorem get_or : f.get (x ||| y) = f.get x ||| f.get y := by
  apply BitVec.eq_of_getLsbD_eq
  intro i _
  rw [BitVec.getLsbD_or, getLsbD_get, getLsbD_get, getLsbD_get, BitVec.getLsbD_or,
    Bool.and_or_distrib_right]

/-- A field that lies in the word gives back what was put there. -/
theorem get_put (h : f.shift + f.width ≤ w) : f.get (f.put v) = v &&& f.mask w := by
  apply BitVec.eq_of_getLsbD_eq
  intro i hi
  rw [getLsbD_get, getLsbD_put, BitVec.getLsbD_and, getLsbD_mask, Nat.add_sub_cancel_left]
  by_cases hlt : i < f.width
  · have hin : f.shift + i < w ∧ f.shift ≤ f.shift + i ∧ f.shift + i < f.shift + f.width := by
      omega
    simp [hi, hlt, hin]
  · simp [hlt]

theorem get_put_of_apart (h : Apart f g) : f.get (g.put v) = 0 := by
  apply BitVec.eq_of_getLsbD_eq
  intro i _
  rw [getLsbD_get, getLsbD_put]
  by_cases hlt : i < f.width
  · have hout : ¬ (f.shift + i < w ∧ g.shift ≤ f.shift + i ∧ f.shift + i < g.shift + g.width) := by
      unfold Apart at h
      omega
    simp [hout]
  · simp [hlt]

/-- A field can be masked out before it is moved, as well as behind that. -/
theorem get_shiftLeft : f.get x <<< f.shift = x &&& f.mask w <<< f.shift := by
  apply BitVec.eq_of_getLsbD_eq
  intro i hi
  rw [BitVec.getLsbD_shiftLeft, getLsbD_get, BitVec.getLsbD_and, BitVec.getLsbD_shiftLeft,
    getLsbD_mask]
  by_cases hs : i < f.shift
  · simp [hs]
  · have hadd : f.shift + (i - f.shift) = i := by omega
    have hsub : i - f.shift < w := by omega
    rw [hadd, decide_eq_true hsub, Bool.true_and]
    grind

/-- What fits a field is not cut off. -/
theorem and_mask (h : v.toNat < 2 ^ f.width) : v &&& f.mask w = v := by
  apply BitVec.eq_of_toNat_eq
  by_cases hle : f.width ≤ w
  · have hlt : 2 ^ f.width - 1 < 2 ^ w := by
      have hpow := Nat.pow_le_pow_right (Nat.zero_lt_two) hle
      have hpos := Nat.two_pow_pos f.width
      omega
    rw [mask, BitVec.toNat_and, BitVec.toNat_ofNat, Nat.mod_eq_of_lt hlt,
      Nat.and_two_pow_sub_one_of_lt_two_pow h]
  · have hall : f.mask w = BitVec.allOnes w := by
      apply BitVec.eq_of_getLsbD_eq
      intro i hi
      have hlt : i < f.width := by omega
      rw [getLsbD_mask, decide_eq_true hi, decide_eq_true hlt, BitVec.getLsbD_allOnes,
        decide_eq_true hi, Bool.and_self]
    rw [hall, BitVec.and_allOnes]

end Field

end PackedWord
