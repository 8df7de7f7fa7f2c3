import DarwinGpib.Library.SlotTable
import DarwinGpib.Model.GpibUser
import Mathlib.Data.List.FinRange

/-!
# The driver's descriptor table

`GPIBDescriptor.h` and the descriptor operations of `driver/core/GPIBBoard.cpp`. A slot is free
when its `handle` is negative. The table refines a `SlotTable` over handles: `slots` reads the
open slots off, and opening and closing are the abstract `alloc` and `release`.
-/

namespace DarwinGpib

/-- What a client asks `openDescriptor` for, and `configure` changes. -/
structure DescriptorOptions where
  isBoard : Bool
  pad : UInt8
  sad : Int8
  eot : Bool
  eosChar : UInt8
  eosFlags : UInt8
  timeoutUs : Nat
  deriving DecidableEq, Repr

/-- One entry of `descriptors_`; `handle` is the slot's index, or negative when it is free. -/
structure GPIBDescriptor extends DescriptorOptions where
  handle : Int
  deriving DecidableEq, Repr

def kMaxDescriptors : Nat := 64

/-- `descriptors_`. Slot 0 is never handed out. -/
structure DescriptorTable where
  entry : Fin kMaxDescriptors → GPIBDescriptor
  handle_eq : ∀ i, 0 ≤ (entry i).handle → (entry i).handle = i.val
  reserved : ∀ i, 0 ≤ (entry i).handle → 0 < i.val

/-- The entry that `init` leaves in every slot. -/
def GPIBDescriptor.unused : GPIBDescriptor :=
  { handle := -1, isBoard := false, pad := 0, sad := 0, eot := false, eosChar := 0,
    eosFlags := 0, timeoutUs := 0 }

/-- `timeoutCodeToMicros` on the `gpib_timeout` codes. -/
def timeoutCodeToMicros (code : UInt32) : Nat :=
  if code = 0 then 0xFFFFFFFF
  else if code = 1 then 10
  else if code = 2 then 30
  else if code = 3 then 100
  else if code = 4 then 300
  else if code = 5 then 1000
  else if code = 6 then 3000
  else if code = 7 then 10000
  else if code = 8 then 30000
  else if code = 9 then 100000
  else if code = 10 then 300000
  else if code = 11 then 1000000
  else if code = 12 then 3000000
  else if code = 13 then 10000000
  else if code = 14 then 30000000
  else if code = 15 then 100000000
  else if code = 16 then 300000000
  else if code = 17 then 1000000000
  else 3000000

namespace DescriptorTable

def initial : DescriptorTable where
  entry _ := .unused
  handle_eq := by simp [GPIBDescriptor.unused]
  reserved := by simp [GPIBDescriptor.unused]

/-- The slot a handle from a client names, if it is in range. -/
def slotOf (handle : Int) : Option (Fin kMaxDescriptors) :=
  if h : 0 ≤ handle ∧ handle < kMaxDescriptors then some ⟨handle.toNat, by omega⟩ else none

/-- `descriptorFor`. -/
def descriptorFor (t : DescriptorTable) (handle : Int) : Option GPIBDescriptor :=
  (slotOf handle).bind fun i => if (t.entry i).handle < 0 then none else some (t.entry i)

/-- The slots that can be handed out are those after slot 0. -/
def usable (j : Fin (kMaxDescriptors - 1)) : Fin kMaxDescriptors :=
  ⟨j.val + 1, Nat.add_lt_of_lt_sub j.isLt⟩

/-- `allocateHandle`: the first free slot after slot 0. -/
def allocateHandle (t : DescriptorTable) : Option (Fin (kMaxDescriptors - 1)) :=
  (List.finRange (kMaxDescriptors - 1)).find? fun j => (t.entry (usable j)).handle < 0

/-- Fill a slot other than slot 0. -/
def fill (t : DescriptorTable) (j : Fin (kMaxDescriptors - 1)) (o : DescriptorOptions) :
    DescriptorTable where
  entry := Function.update t.entry (usable j)
    { o with handle := (usable j).val }
  handle_eq := by
    intro i
    by_cases hi : i = usable j
    · subst hi
      simp
    · simpa [hi] using t.handle_eq i
  reserved := by
    intro i
    by_cases hi : i = usable j
    · subst hi
      simp [usable]
    · simpa [hi] using t.reserved i

/-- Free a slot; its other fields stay. -/
def free (t : DescriptorTable) (i : Fin kMaxDescriptors) : DescriptorTable where
  entry := Function.update t.entry i { t.entry i with handle := -1 }
  handle_eq := by
    intro k
    by_cases hk : k = i
    · subst hk
      simp
    · simpa [hk] using t.handle_eq k
  reserved := by
    intro k
    by_cases hk : k = i
    · subst hk
      simp
    · simpa [hk] using t.reserved k

/-- Change the options of a slot. -/
def setOptions (t : DescriptorTable) (i : Fin kMaxDescriptors) (o : DescriptorOptions) :
    DescriptorTable where
  entry := Function.update t.entry i { t.entry i with toDescriptorOptions := o }
  handle_eq := by
    intro k
    by_cases hk : k = i
    · subst hk
      simpa using t.handle_eq k
    · simpa [hk] using t.handle_eq k
  reserved := by
    intro k
    by_cases hk : k = i
    · subst hk
      simpa using t.reserved k
    · simpa [hk] using t.reserved k

/-- The table part of `openDescriptor`: the new handle and the table that holds it. -/
def openDescriptor (t : DescriptorTable) (o : DescriptorOptions) :
    Option (Int × DescriptorTable) :=
  t.allocateHandle.map fun j => (((usable j).val : Int), t.fill j o)

/-- The table part of `closeDescriptor`, on any handle. -/
def closeDescriptor (t : DescriptorTable) (handle : Int) : DescriptorTable :=
  match slotOf handle with
  | some i => t.free i
  | none => t

/-- The table part of `configure`, on any handle. -/
def configure (t : DescriptorTable) (handle : Int) (o : DescriptorOptions) :
    DescriptorTable :=
  match slotOf handle with
  | some i => t.setOptions i o
  | none => t

end DescriptorTable

/-- The options `configure` stores for a key it knows. -/
def DescriptorOptions.configured (o : DescriptorOptions) (key : UInt32) (value : Int32) :
    Option DescriptorOptions :=
  if key = Ibc.pad then some { o with pad := (value &&& 0x1f).toUInt32.toUInt8 }
  else if key = Ibc.sad then some { o with sad := value.toInt8 }
  else if key = Ibc.tmo then some { o with timeoutUs := timeoutCodeToMicros value.toUInt32 }
  else if key = Ibc.eot then some { o with eot := value ≠ 0 }
  else if key = Ibc.eosChar then some { o with eosChar := (value &&& 0xff).toUInt32.toUInt8 }
  else if key = Ibc.eosRd ∨ key = Ibc.eosWrt ∨ key = Ibc.eosCmp then
    some { o with eosFlags := (value.toUInt32 &&& EosFlags.all).toUInt8 }
  else none

/-- The value `ask` reads for an option it knows; `IbaX = IbcX` for each of them. -/
def DescriptorOptions.asked (o : DescriptorOptions) (option : UInt32) : Option Int32 :=
  if option = Ibc.pad then some o.pad.toUInt32.toInt32
  else if option = Ibc.sad then some o.sad.toInt32
  else if option = Ibc.eot then some (if o.eot then 1 else 0)
  else if option = Ibc.eosChar then some o.eosChar.toUInt32.toInt32
  else none

/-! ## Refinement of the abstract slot table -/

namespace DescriptorTable

/-- The handles that `openDescriptor` can return, in the order it tries them. -/
def handles : List Int := (List.finRange (kMaxDescriptors - 1)).map fun j => ((usable j).val : Int)

/-- The open slots, by handle. -/
def slots (t : DescriptorTable) : Int → Option DescriptorOptions :=
  fun handle => (t.descriptorFor handle).map GPIBDescriptor.toDescriptorOptions

theorem slotOf_eq_some_iff {handle : Int} {i : Fin kMaxDescriptors} :
    slotOf handle = some i ↔ handle = i.val := by
  unfold slotOf
  split
  · simp only [Option.some.injEq, Fin.ext_iff]
    constructor <;> intro h' <;> omega
  · have := i.isLt
    constructor
    · intro h'
      cases h'
    · intro h'
      omega

@[simp] theorem slotOf_val (i : Fin kMaxDescriptors) : slotOf (i.val : Int) = some i :=
  slotOf_eq_some_iff.mpr rfl

theorem mem_handles_iff {handle : Int} :
    handle ∈ handles ↔ 1 ≤ handle ∧ handle < kMaxDescriptors := by
  simp only [handles, List.mem_map, List.mem_finRange, true_and]
  constructor
  · rintro ⟨j, rfl⟩
    have hlt := (usable j).isLt
    have hpos : 1 ≤ (usable j).val := Nat.le_add_left 1 j.val
    omega
  · rintro ⟨h₁, h₂⟩
    refine ⟨⟨handle.toNat - 1, by omega⟩, ?_⟩
    simp only [usable]
    omega

/-- An open descriptor is found under its own handle, which is never 0. -/
theorem descriptorFor_eq_some {t : DescriptorTable} {handle : Int} {d : GPIBDescriptor}
    (h : t.descriptorFor handle = some d) : d.handle = handle ∧ handle ∈ handles := by
  obtain ⟨i, hi, hd⟩ := Option.bind_eq_some_iff.mp h
  obtain rfl := slotOf_eq_some_iff.mp hi
  split at hd
  · cases hd
  · cases hd
    have hle : 0 ≤ (t.entry i).handle := by omega
    have hlt := i.isLt
    have hpos := t.reserved i hle
    exact ⟨t.handle_eq i hle, mem_handles_iff.mpr ⟨by omega, by omega⟩⟩

@[simp] theorem slots_initial : slots initial = SlotTable.empty := by
  funext handle
  cases hi : slotOf handle with
  | none => simp [slots, descriptorFor, hi]
  | some i => simp [slots, descriptorFor, hi, initial, GPIBDescriptor.unused]

theorem slots_apply_of_slotOf {t : DescriptorTable} {handle : Int}
    {i : Fin kMaxDescriptors} (h : slotOf handle = some i) :
    t.slots handle =
      if (t.entry i).handle < 0 then none else some (t.entry i).toDescriptorOptions := by
  simp only [slots, descriptorFor, h, Option.bind_some]
  split <;> rfl

theorem slots_apply_of_slotOf_none {t : DescriptorTable} {handle : Int}
    (h : slotOf handle = none) : t.slots handle = none := by
  simp [slots, descriptorFor, h]

/-- The concrete search and the abstract one find the same slot. -/
theorem firstFree_slots (t : DescriptorTable) :
    SlotTable.firstFree handles t.slots =
      t.allocateHandle.map fun j => ((usable j).val : Int) := by
  rw [SlotTable.firstFree, handles, List.find?_map, allocateHandle]
  congr 2
  funext j
  simp only [Function.comp_apply, slots_apply_of_slotOf (slotOf_val (usable j))]
  split <;> simp_all

theorem slots_fill (t : DescriptorTable) (j : Fin (kMaxDescriptors - 1))
    (o : DescriptorOptions) :
    (t.fill j o).slots = Function.update t.slots ((usable j).val : Int) (some o) := by
  funext handle
  cases hi : slotOf handle with
  | none =>
      have hne : handle ≠ ((usable j).val : Int) := by
        rintro rfl
        simp at hi
      rw [Function.update_of_ne hne, slots_apply_of_slotOf_none hi,
        slots_apply_of_slotOf_none hi]
  | some i =>
      obtain rfl := slotOf_eq_some_iff.mp hi
      by_cases hij : i = usable j
      · subst hij
        rw [slots_apply_of_slotOf hi, Function.update_self]
        simp [fill]
      · have hne : (i.val : Int) ≠ ((usable j).val : Int) := by
          intro h
          exact hij (Fin.ext (by omega))
        rw [Function.update_of_ne hne, slots_apply_of_slotOf hi, slots_apply_of_slotOf hi]
        simp [fill, hij]

/-- Opening a descriptor is the abstract allocation. -/
theorem slots_openDescriptor (t : DescriptorTable) (o : DescriptorOptions) :
    (t.openDescriptor o).map (fun r => (r.1, r.2.slots)) =
      SlotTable.alloc handles t.slots o := by
  rw [SlotTable.alloc, firstFree_slots, openDescriptor, Option.map_map, Option.map_map]
  congr 1
  funext j
  simp [slots_fill]

/-- Closing a handle is the abstract release, whether or not the handle is open. -/
theorem slots_closeDescriptor (t : DescriptorTable) (handle : Int) :
    (t.closeDescriptor handle).slots = SlotTable.release t.slots handle := by
  funext k
  cases hi : slotOf handle with
  | none =>
      rw [closeDescriptor, hi]
      by_cases hk : k = handle
      · subst hk
        rw [SlotTable.release_self, slots_apply_of_slotOf_none hi]
      · rw [SlotTable.release_of_ne hk]
  | some i =>
      obtain rfl := slotOf_eq_some_iff.mp hi
      rw [closeDescriptor, hi]
      by_cases hk : k = (i.val : Int)
      · subst hk
        rw [SlotTable.release_self, slots_apply_of_slotOf hi]
        simp [free]
      · rw [SlotTable.release_of_ne hk]
        cases hk' : slotOf k with
        | none => rw [slots_apply_of_slotOf_none hk', slots_apply_of_slotOf_none hk']
        | some l =>
            obtain rfl := slotOf_eq_some_iff.mp hk'
            have hli : l ≠ i := by
              rintro rfl
              exact hk rfl
            rw [slots_apply_of_slotOf hk', slots_apply_of_slotOf hk']
            simp [free, hli]

/-- Configuring an open handle replaces its contents and nothing else. -/
theorem slots_configure {t : DescriptorTable} {handle : Int} {d : GPIBDescriptor}
    (h : t.descriptorFor handle = some d) (o : DescriptorOptions) :
    (t.configure handle o).slots = Function.update t.slots handle (some o) := by
  obtain ⟨i, hi, hd⟩ := Option.bind_eq_some_iff.mp h
  obtain rfl := slotOf_eq_some_iff.mp hi
  have hopen : ¬ (t.entry i).handle < 0 := by
    intro hneg
    simp [hneg] at hd
  funext k
  rw [configure, hi]
  cases hk' : slotOf k with
  | none =>
      have hne : k ≠ (i.val : Int) := by
        rintro rfl
        simp at hk'
      rw [Function.update_of_ne hne, slots_apply_of_slotOf_none hk',
        slots_apply_of_slotOf_none hk']
  | some l =>
      obtain rfl := slotOf_eq_some_iff.mp hk'
      rw [slots_apply_of_slotOf hk']
      by_cases hli : l = i
      · subst hli
        rw [Function.update_self]
        simp [setOptions, hopen]
      · have hne : (l.val : Int) ≠ (i.val : Int) := by
          intro h'
          exact hli (Fin.ext (by omega))
        rw [Function.update_of_ne hne, slots_apply_of_slotOf hk']
        simp [setOptions, hli]

end DescriptorTable

end DarwinGpib
