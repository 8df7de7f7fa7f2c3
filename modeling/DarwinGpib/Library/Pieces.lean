import Mathlib.Data.List.Basic

/-!
# Pieces of a sequence

A sequence cut into pieces of `n` entries, the last of which may be shorter.
-/

namespace Pieces

variable {α : Type} {n off : Nat} {s : List α}

/-- The pieces in order, each with its offset. -/
def pieces (n off : Nat) (s : List α) : List (Nat × List α) :=
  if h : 0 < n ∧ s ≠ [] then
    have : s.length - n < s.length :=
      Nat.sub_lt (List.length_pos_iff.mpr h.2) h.1
    (off, s.take n) :: pieces n (off + n) (s.drop n)
  else []
  termination_by s.length
  decreasing_by
    rw [List.length_drop]
    exact this

@[simp] theorem pieces_nil : pieces n off ([] : List α) = [] := by
  rw [pieces, dif_neg fun h => h.2 rfl]

theorem pieces_of_ne_nil (hn : 0 < n) (hs : s ≠ []) :
    pieces n off s = (off, s.take n) :: pieces n (off + n) (s.drop n) := by
  rw [pieces, dif_pos ⟨hn, hs⟩]

/-- A property of sequences follows by taking pieces off the front. -/
theorem pieces_induction (hn : 0 < n) {P : Nat → List α → Prop} (nil : ∀ off, P off [])
    (piece : ∀ off s, s ≠ [] → P (off + n) (s.drop n) → P off s) (off : Nat) (s : List α) :
    P off s := by
  induction hlen : s.length using Nat.strongRecOn generalizing off s with
  | ind k ih =>
      by_cases hs : s = []
      · exact hs ▸ nil off
      · have hlt : (s.drop n).length < k := by
          have hpos := List.length_pos_iff.mpr hs
          rw [List.length_drop]
          omega
        exact piece off s hs (ih _ hlt _ _ rfl)

theorem flatMap_pieces (hn : 0 < n) (off : Nat) (s : List α) :
    (pieces n off s).flatMap Prod.snd = s := by
  induction off, s using pieces_induction hn with
  | nil off => simp
  | piece off s hs ih => rw [pieces_of_ne_nil hn hs, List.flatMap_cons, ih, List.take_append_drop]

theorem length_le_of_mem_pieces (hn : 0 < n) {p : Nat × List α} (hp : p ∈ pieces n off s) :
    p.2.length ≤ n := by
  induction off, s using pieces_induction hn with
  | nil off => simp at hp
  | piece off s hs ih =>
      rw [pieces_of_ne_nil hn hs] at hp
      rcases List.mem_cons.mp hp with rfl | hp
      · exact List.length_take_le n s
      · exact ih hp

theorem fst_lt_of_mem_pieces (hn : 0 < n) {p : Nat × List α} (hp : p ∈ pieces n off s) :
    p.1 < off + s.length := by
  induction off, s using pieces_induction hn with
  | nil off => simp at hp
  | piece off s hs ih =>
      have hpos := List.length_pos_iff.mpr hs
      rw [pieces_of_ne_nil hn hs] at hp
      rcases List.mem_cons.mp hp with rfl | hp
      · exact Nat.lt_add_of_pos_right hpos
      · have hlt := ih hp
        have hne : s.drop n ≠ [] := by
          rintro hnil
          rw [hnil, pieces_nil] at hp
          cases hp
        rw [Ne, List.drop_eq_nil_iff] at hne
        rw [List.length_drop] at hlt
        omega

/-- Entry `i` of the sequence is in one piece only, at offset `off + i`. -/
theorem placed_pieces (hn : 0 < n) (off : Nat) (s : List α) :
    ((pieces n off s).flatMap fun p => p.2.mapIdx fun i a => (p.1 + i, a)) =
      s.mapIdx fun i a => (off + i, a) := by
  induction off, s using pieces_induction hn with
  | nil off => simp
  | piece off s hs ih =>
      rw [pieces_of_ne_nil hn hs, List.flatMap_cons, ih]
      conv_rhs => rw [← List.take_append_drop n s, List.mapIdx_append]
      by_cases hlong : n ≤ s.length
      · have hlen : (s.take n).length = n := List.length_take_of_le hlong
        simp only [hlen, Nat.add_assoc, Nat.add_comm n]
      · have hnone : s.drop n = [] := List.drop_eq_nil_of_le (Nat.le_of_not_le hlong)
        simp [hnone]

/-- Only the last piece reaches the end of the sequence. -/
theorem pieces_eq_concat (hn : 0 < n) (off : Nat) {s : List α} (hs : s ≠ []) :
    ∃ init last, pieces n off s = init ++ [last] ∧ last.1 + last.2.length = off + s.length ∧
      ∀ p ∈ init, p.1 + p.2.length < off + s.length := by
  induction off, s using pieces_induction hn with
  | nil off => exact absurd rfl hs
  | piece off s _ ih =>
      rw [pieces_of_ne_nil hn hs]
      by_cases hlong : n < s.length
      · have hrest : s.drop n ≠ [] := by
          rw [Ne, List.drop_eq_nil_iff]
          exact Nat.not_le.mpr hlong
        have hlen : off + n + (s.drop n).length = off + s.length := by
          rw [List.length_drop]
          omega
        obtain ⟨init, last, heq, hlast, hinit⟩ := ih hrest
        rw [hlen] at hlast hinit
        refine ⟨(off, s.take n) :: init, last, by rw [heq]; rfl, hlast, ?_⟩
        intro p hp
        rcases List.mem_cons.mp hp with rfl | hp
        · rw [List.length_take]
          omega
        · exact hinit p hp
      · have hnone : s.drop n = [] := List.drop_eq_nil_of_le (Nat.le_of_not_lt hlong)
        refine ⟨[], (off, s.take n), by rw [hnone, pieces_nil]; rfl, ?_, nofun⟩
        rw [List.take_of_length_le (Nat.le_of_not_lt hlong)]

theorem ceilDiv_step (hn : 0 < n) {k : Nat} (hk : 0 < k) :
    (k + (n - 1)) / n = (k - n + (n - 1)) / n + 1 := by
  by_cases hlong : n ≤ k
  · have hsplit : k + (n - 1) = k - n + (n - 1) + n := by omega
    rw [hsplit, Nat.add_div_right _ hn]
  · have hshort : k + (n - 1) = k - 1 + n := by omega
    have hzero : k - n + (n - 1) = n - 1 := by omega
    rw [hshort, hzero, Nat.add_div_right _ hn, Nat.div_eq_of_lt (by omega),
      Nat.div_eq_of_lt (by omega)]

/-- Slices at offsets `n` apart are the pieces. -/
theorem map_range'_eq_pieces (hn : 0 < n) (s : List α) :
    ((List.range' 0 ((s.length + (n - 1)) / n) n).map fun i => (s.drop i).take n) =
      (pieces n 0 s).map Prod.snd := by
  suffices h : ∀ off t, s.drop off = t →
      ((List.range' off ((t.length + (n - 1)) / n) n).map fun i => (s.drop i).take n) =
        (pieces n off t).map Prod.snd from h 0 s rfl
  intro off t ht
  induction off, t using pieces_induction hn with
  | nil off =>
      have hnone : ([] : List α).length + (n - 1) < n := by
        rw [List.length_nil]
        omega
      rw [Nat.div_eq_of_lt hnone]
      simp
  | piece off t hne ih =>
      have hrest : s.drop (off + n) = t.drop n := by rw [← ht, List.drop_drop]
      have hcount := ceilDiv_step hn (List.length_pos_iff.mpr hne)
      rw [← List.length_drop] at hcount
      rw [hcount, List.range'_succ, List.map_cons, ih hrest, pieces_of_ne_nil hn hne,
        List.map_cons, ht]

end Pieces
