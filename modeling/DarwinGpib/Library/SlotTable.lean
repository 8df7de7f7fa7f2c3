import Mathlib.Logic.Function.Basic
import Mathlib.Data.List.Basic

/-!
# Tables whose first free slot is handed out

A table maps keys to the contents of open slots; `none` is a free slot. `alloc` opens the
first free slot in a fixed order of keys, which is how a small handle namespace is recycled.
-/

namespace SlotTable

variable {κ α : Type}

/-- A table with every slot free. -/
def empty : κ → Option α := fun _ => none

@[simp] theorem empty_apply (i : κ) : (empty : κ → Option α) i = none :=
  rfl

/-- The first free slot in the order of `keys`. -/
def firstFree (keys : List κ) (t : κ → Option α) : Option κ :=
  keys.find? fun i => (t i).isNone

theorem firstFree_eq_some {keys : List κ} {t : κ → Option α} {i : κ}
    (h : firstFree keys t = some i) : i ∈ keys ∧ t i = none := by
  refine ⟨List.mem_of_find?_eq_some h, ?_⟩
  simpa using List.find?_some h

/-- Allocation fails exactly when every slot on offer is open. -/
theorem firstFree_eq_none_iff {keys : List κ} {t : κ → Option α} :
    firstFree keys t = none ↔ ∀ i ∈ keys, (t i).isSome := by
  simp [firstFree, List.find?_eq_none, Option.isSome_iff_ne_none]

variable [DecidableEq κ]

/-- Open the first free slot with contents `v`. -/
def alloc (keys : List κ) (t : κ → Option α) (v : α) : Option (κ × (κ → Option α)) :=
  (firstFree keys t).map fun i => (i, Function.update t i (some v))

/-- Free a slot, open or not. -/
def release (t : κ → Option α) (i : κ) : κ → Option α := Function.update t i none

theorem alloc_eq_some_iff {keys : List κ} {t u : κ → Option α} {v : α} {i : κ} :
    alloc keys t v = some (i, u) ↔
      firstFree keys t = some i ∧ u = Function.update t i (some v) := by
  simp only [alloc, Option.map_eq_some_iff, Prod.mk.injEq]
  constructor
  · rintro ⟨j, hj, rfl, rfl⟩
    exact ⟨hj, rfl⟩
  · rintro ⟨hi, rfl⟩
    exact ⟨i, hi, rfl, rfl⟩

@[simp] theorem release_self (t : κ → Option α) (i : κ) : release t i i = none := by
  simp [release]

theorem release_of_ne {t : κ → Option α} {i j : κ} (h : j ≠ i) : release t i j = t j := by
  simp [release, h]

theorem release_eq_some {t : κ → Option α} {i j : κ} {v : α} (h : release t i j = some v) :
    j ≠ i ∧ t j = some v := by
  have hne : j ≠ i := by
    rintro rfl
    simp at h
  exact ⟨hne, by rwa [release_of_ne hne] at h⟩

end SlotTable
