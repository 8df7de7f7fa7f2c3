import Mathlib.Data.Fin.Tuple.Basic
import Mathlib.Logic.Equiv.Defs

/-!
# Layouts of fixed size

A layout writes every value of a type in the same number of bytes, and every sequence of bytes
that is long enough begins with exactly one value. Layouts are put one behind the other by
`seq` and `array` and carried to another type by `map`; the little-endian integers are made of
their halves.
-/

/-- How the values of a type are laid out in bytes; `decode` reads the value at the head. -/
structure Layout (α : Type) where
  size : Nat
  encode : α → List UInt8
  decode : List UInt8 → Option α
  length_encode : ∀ a, (encode a).length = size
  decode_eq_some_iff : ∀ bs a, decode bs = some a ↔ ∃ rest, bs = encode a ++ rest
  exists_encode : ∀ bs : List UInt8, size ≤ bs.length → ∃ a rest, bs = encode a ++ rest

namespace Layout

variable {α β : Type}

/-! ## Reading what was written -/

section Reading

variable (f : Layout α)

@[simp] theorem decode_encode_append (a : α) (rest : List UInt8) :
    f.decode (f.encode a ++ rest) = some a :=
  (f.decode_eq_some_iff _ a).mpr ⟨rest, rfl⟩

@[simp] theorem decode_encode (a : α) : f.decode (f.encode a) = some a := by
  simpa using f.decode_encode_append a []

@[simp] theorem drop_encode_append (a : α) (rest : List UInt8) :
    (f.encode a ++ rest).drop f.size = rest := by
  rw [← f.length_encode a, List.drop_left]

end Reading

/-! ## Making layouts -/

def u8 : Layout UInt8 where
  size := 1
  encode b := [b]
  decode := List.head?
  length_encode _ := rfl
  decode_eq_some_iff bs a := by
    cases bs with
    | nil => simp
    | cons b bs => simp
  exists_encode bs h := by
    cases bs with
    | nil => simp at h
    | cons b bs => exact ⟨b, bs, rfl⟩

/-- One value behind another. -/
def seq (f : Layout α) (g : Layout β) : Layout (α × β) where
  size := f.size + g.size
  encode p := f.encode p.1 ++ g.encode p.2
  decode bs := do
    let a ← f.decode bs
    let b ← g.decode (bs.drop f.size)
    return (a, b)
  length_encode p := by rw [List.length_append, f.length_encode, g.length_encode]
  decode_eq_some_iff bs p := by
    obtain ⟨a, b⟩ := p
    constructor
    · intro h
      simp only [Option.bind_eq_bind, Option.bind_eq_some_iff, Option.pure_def,
        Option.some.injEq, Prod.mk.injEq] at h
      obtain ⟨a', ha, b', hb, rfl, rfl⟩ := h
      obtain ⟨rest, rfl⟩ := (f.decode_eq_some_iff bs a').mp ha
      rw [drop_encode_append] at hb
      obtain ⟨rest', rfl⟩ := (g.decode_eq_some_iff rest b').mp hb
      exact ⟨rest', by rw [List.append_assoc]⟩
    · rintro ⟨rest, rfl⟩
      simp [List.append_assoc]
  exists_encode bs h := by
    obtain ⟨a, rest, rfl⟩ := f.exists_encode bs (by omega)
    rw [List.length_append, f.length_encode] at h
    obtain ⟨b, rest', rfl⟩ := g.exists_encode rest (by omega)
    exact ⟨(a, b), rest', by rw [List.append_assoc]⟩

/-- The same bytes for the values of another type. -/
def map (e : α ≃ β) (f : Layout α) : Layout β where
  size := f.size
  encode b := f.encode (e.symm b)
  decode bs := (f.decode bs).map e
  length_encode b := f.length_encode _
  decode_eq_some_iff bs b := by
    rw [← f.decode_eq_some_iff, Option.map_eq_some_iff]
    constructor
    · rintro ⟨a, ha, rfl⟩
      rwa [e.symm_apply_apply]
    · intro h
      exact ⟨e.symm b, h, e.apply_symm_apply b⟩
  exists_encode bs h := by
    obtain ⟨a, rest, rfl⟩ := f.exists_encode bs h
    exact ⟨e a, rest, by rw [e.symm_apply_apply]⟩

/-- No bytes, for a type with one value. -/
def nothing [Unique α] : Layout α where
  size := 0
  encode _ := []
  decode _ := some default
  length_encode _ := rfl
  decode_eq_some_iff bs a := by
    have ha : default = a := Unique.default_eq a
    simp [ha]
  exists_encode bs _ := ⟨default, bs, rfl⟩

/-- This many values one behind another. -/
def array (f : Layout α) : (n : Nat) → Layout (Fin n → α)
  | 0 => nothing
  | n + 1 => (f.seq (f.array n)).map (Fin.consEquiv fun _ => α)

@[simp] theorem size_u8 : u8.size = 1 := rfl
@[simp] theorem size_seq (f : Layout α) (g : Layout β) : (f.seq g).size = f.size + g.size := rfl
@[simp] theorem size_map (e : α ≃ β) (f : Layout α) : (f.map e).size = f.size := rfl

@[simp] theorem size_array (f : Layout α) (n : Nat) : (f.array n).size = n * f.size := by
  induction n with
  | zero => simp [array, nothing]
  | succ n ih => rw [array, size_map, size_seq, ih, Nat.succ_mul, Nat.add_comm]

/-! ## Little-endian integers -/

/-- A 16-bit word of its low and its high byte. -/
def word16 : UInt8 × UInt8 ≃ UInt16 where
  toFun p := UInt16.ofNat (p.1.toNat + 256 * p.2.toNat)
  invFun w := (UInt8.ofNat w.toNat, UInt8.ofNat (w.toNat / 256))
  left_inv p := by
    have h₁ := p.1.toNat_lt
    have h₂ := p.2.toNat_lt
    apply Prod.ext
    · apply UInt8.toNat_inj.mp
      simp only [UInt8.toNat_ofNat', UInt16.toNat_ofNat']
      omega
    · apply UInt8.toNat_inj.mp
      simp only [UInt8.toNat_ofNat', UInt16.toNat_ofNat']
      omega
  right_inv w := by
    have h := w.toNat_lt
    apply UInt16.toNat_inj.mp
    simp only [UInt8.toNat_ofNat', UInt16.toNat_ofNat']
    omega

/-- A 32-bit word of its low and its high half. -/
def word32 : UInt16 × UInt16 ≃ UInt32 where
  toFun p := UInt32.ofNat (p.1.toNat + 65536 * p.2.toNat)
  invFun w := (UInt16.ofNat w.toNat, UInt16.ofNat (w.toNat / 65536))
  left_inv p := by
    have h₁ := p.1.toNat_lt
    have h₂ := p.2.toNat_lt
    apply Prod.ext
    · apply UInt16.toNat_inj.mp
      simp only [UInt16.toNat_ofNat', UInt32.toNat_ofNat']
      omega
    · apply UInt16.toNat_inj.mp
      simp only [UInt16.toNat_ofNat', UInt32.toNat_ofNat']
      omega
  right_inv w := by
    have h := w.toNat_lt
    apply UInt32.toNat_inj.mp
    simp only [UInt16.toNat_ofNat', UInt32.toNat_ofNat']
    omega

/-- Two's complement. -/
def signed32 : UInt32 ≃ Int32 where
  toFun := UInt32.toInt32
  invFun := Int32.toUInt32

def u16 : Layout UInt16 := (u8.seq u8).map word16
def u32 : Layout UInt32 := (u16.seq u16).map word32
def i32 : Layout Int32 := u32.map signed32

@[simp] theorem size_u16 : u16.size = 2 := rfl
@[simp] theorem size_u32 : u32.size = 4 := rfl
@[simp] theorem size_i32 : i32.size = 4 := rfl

end Layout
