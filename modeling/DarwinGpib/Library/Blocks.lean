import Mathlib.Data.List.Basic

/-!
# Messages that are sent in blocks

A message that is cut into blocks is the same sequence of items with the same mark if the mark
is left to the last block. `grouped` reads the blocks off a list in which each is announced by a
header and its items follow, spread over the entries behind it.
-/

namespace Blocks

variable {α β γ : Type}

/-! ## End marks -/

/-- The items of a message, the last of them with the mark. -/
def framed (mark : Bool) : List α → List (α × Bool)
  | [] => []
  | [a] => [(a, mark)]
  | a :: b :: as => (a, false) :: framed mark (b :: as)

@[simp] theorem framed_nil (mark : Bool) : framed mark ([] : List α) = [] :=
  rfl

/-- Only the last item of a message can be marked. -/
theorem framed_append (mark : Bool) (as : List α) {bs : List α} (h : bs ≠ []) :
    framed mark (as ++ bs) = framed false as ++ framed mark bs := by
  induction as with
  | nil => rfl
  | cons a as ih =>
      cases as with
      | nil =>
          obtain ⟨b, bs, rfl⟩ := List.exists_cons_of_ne_nil h
          rfl
      | cons a' as => exact congrArg ((a, false) :: ·) ih

/-- A first block, which has the mark if nothing is left behind it, and the rest. -/
theorem framed_block (mark : Bool) (as bs : List α) :
    framed (mark && bs.isEmpty) as ++ framed mark bs = framed mark (as ++ bs) := by
  cases bs with
  | nil => simp
  | cons b bs =>
      rw [framed_append mark as (List.cons_ne_nil b bs), List.isEmpty_cons, Bool.and_false]

@[simp] theorem map_fst_framed (mark : Bool) (as : List α) :
    (framed mark as).map Prod.fst = as := by
  fun_induction framed mark as with
  | case1 => rfl
  | case2 a => rfl
  | case3 a b as ih => rw [List.map_cons, ih]

/-- A message is told by its items and its mark, unless it is empty. -/
theorem framed_eq_iff {mark mark' : Bool} {as bs : List α} :
    framed mark as = framed mark' bs ↔ as = bs ∧ (as = [] ∨ mark = mark') := by
  constructor
  · intro h
    have has : as = bs := by simpa using congrArg (List.map Prod.fst) h
    subst has
    refine ⟨rfl, ?_⟩
    fun_induction framed mark as with
    | case1 => exact .inl rfl
    | case2 a => exact .inr (by simpa [framed] using h)
    | case3 a b as ih =>
        rcases ih (List.cons.inj h).2 with hnil | hmark
        · cases hnil
        · exact .inr hmark
  · rintro ⟨rfl, rfl | rfl⟩ <;> rfl

/-! ## Blocks -/

section Grouped

variable (header : β → Option γ) (items : β → List α)

/-- The items in front of the first header, and each header with the items behind it. -/
def grouped : List β → List α × List (γ × List α)
  | [] => ([], [])
  | e :: u =>
      match header e with
      | some c => ([], (c, (grouped u).1) :: (grouped u).2)
      | none => (items e ++ (grouped u).1, (grouped u).2)

variable {header items} {e : β} {u v : List β}

@[simp] theorem grouped_nil : grouped header items [] = ([], []) :=
  rfl

theorem grouped_cons_of_eq_some {c : γ} (h : header e = some c) :
    grouped header items (e :: u) =
      ([], (c, (grouped header items u).1) :: (grouped header items u).2) := by
  rw [grouped, h]

theorem grouped_cons_of_eq_none (h : header e = none) :
    grouped header items (e :: u) =
      (items e ++ (grouped header items u).1, (grouped header items u).2) := by
  rw [grouped, h]

/-- Entries without a header belong to the block in front of them. -/
theorem grouped_append_of_eq_none (h : ∀ e ∈ u, header e = none) :
    grouped header items (u ++ v) =
      (u.flatMap items ++ (grouped header items v).1, (grouped header items v).2) := by
  induction u with
  | nil => rfl
  | cons e u ih =>
      obtain ⟨he, hu⟩ := List.forall_mem_cons.mp h
      rw [List.cons_append, grouped_cons_of_eq_none he, ih hu, List.flatMap_cons,
        List.append_assoc]

/-- Behind entries that begin with a header, or have no items at all, come their own blocks. -/
theorem grouped_append (hv : (grouped header items v).1 = []) :
    grouped header items (u ++ v) =
      ((grouped header items u).1, (grouped header items u).2 ++ (grouped header items v).2) := by
  induction u with
  | nil => rw [List.nil_append, grouped_nil, List.nil_append, ← hv]
  | cons e u ih =>
      cases he : header e with
      | some c => rw [List.cons_append, grouped_cons_of_eq_some he, grouped_cons_of_eq_some he, ih,
          List.cons_append]
      | none => rw [List.cons_append, grouped_cons_of_eq_none he, grouped_cons_of_eq_none he, ih]

end Grouped

end Blocks
