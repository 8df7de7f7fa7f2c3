import Mathlib.Data.List.Basic

/-!
# Records that begin with their length

A sequence is cut into records each of which says by its first entry how long it is, and has at
least a header of `m` entries. The cut ends where no further record fits.
-/

namespace Records

variable {α : Type} {size : α → Nat} {m : Nat}

/-- A record has the length that its first entry says, and a whole header. -/
def IsRecord (size : α → Nat) (m : Nat) (r : List α) : Prop :=
  m ≤ r.length ∧ ∃ a ∈ r.head?, r.length = size a

/-- The longest run of records at the head of a sequence. -/
structure Longest (size : α → Nat) (m : Nat) (rs : List (List α)) (s : List α) : Prop where
  records : ∀ r ∈ rs, IsRecord size m r
  at_head : rs.flatten <+: s
  ends : ∀ r, IsRecord size m r → ¬ (rs ++ [r]).flatten <+: s

/-- Whether a record fits is told by the first entry. -/
theorem exists_record_iff (hm : 0 < m) {s : List α} :
    (∃ r, IsRecord size m r ∧ r <+: s) ↔ ∃ a ∈ s.head?, m ≤ size a ∧ size a ≤ s.length := by
  constructor
  · rintro ⟨r, ⟨hle, a, ha, hsize⟩, t, rfl⟩
    refine ⟨a, ?_, hsize ▸ hle, ?_⟩
    · exact List.mem_head?_append_of_mem_head? ha
    · rw [← hsize, List.length_append]
      exact Nat.le_add_right _ _
  · rintro ⟨a, ha, hle, hfits⟩
    refine ⟨s.take (size a), ⟨?_, a, ?_, ?_⟩, List.take_prefix _ _⟩
    · rwa [List.length_take, Nat.min_eq_left hfits]
    · rw [List.head?_take, if_neg (by omega)]
      exact ha
    · rw [List.length_take, Nat.min_eq_left hfits]

theorem longest_nil_iff (hm : 0 < m) {s : List α} :
    Longest size m [] s ↔ ∀ a ∈ s.head?, ¬ (m ≤ size a ∧ size a ≤ s.length) := by
  have hnone : (∀ r, IsRecord size m r → ¬ ([] ++ [r]).flatten <+: s) ↔
      ¬ ∃ r, IsRecord size m r ∧ r <+: s := by
    simp
  constructor
  · intro h a ha hfits
    exact hnone.mp h.ends ((exists_record_iff hm).mpr ⟨a, ha, hfits⟩)
  · intro h
    refine ⟨nofun, List.nil_prefix, hnone.mpr fun hrecord => ?_⟩
    obtain ⟨a, ha, hfits⟩ := (exists_record_iff hm).mp hrecord
    exact h a ha hfits

theorem longest_cons_iff {r : List α} {rs : List (List α)} {s : List α} :
    Longest size m (r :: rs) s ↔
      IsRecord size m r ∧ r <+: s ∧ Longest size m rs (s.drop r.length) := by
  constructor
  · rintro ⟨hrecords, ⟨t, rfl⟩, hends⟩
    obtain ⟨hr, hrs⟩ := List.forall_mem_cons.mp hrecords
    rw [List.flatten_cons, List.append_assoc] at hends ⊢
    refine ⟨hr, List.prefix_append _ _, hrs, ?_, fun q hq hfits => hends q hq ?_⟩
    · rw [List.drop_left]
      exact List.prefix_append _ _
    · rw [List.drop_left] at hfits
      rw [List.cons_append, List.flatten_cons]
      exact (List.prefix_append_right_inj r).mpr hfits
  · rintro ⟨hr, ⟨t, rfl⟩, hrecords, hhead, hends⟩
    rw [List.drop_left] at hhead hends
    refine ⟨List.forall_mem_cons.mpr ⟨hr, hrecords⟩, ?_, fun q hq hfits => hends q hq ?_⟩
    · rw [List.flatten_cons]
      exact (List.prefix_append_right_inj r).mpr hhead
    · rw [List.cons_append, List.flatten_cons] at hfits
      exact (List.prefix_append_right_inj r).mp hfits

/-- Every sequence has a longest run of records. -/
theorem exists_longest (hm : 0 < m) (s : List α) : ∃ rs, Longest size m rs s := by
  induction hn : s.length using Nat.strongRecOn generalizing s with
  | ind n ih =>
      by_cases hfits : ∃ r, IsRecord size m r ∧ r <+: s
      · obtain ⟨r, hr, hhead⟩ := hfits
        have hlt : (s.drop r.length).length < n := by
          have hle := hhead.length_le
          have hpos := hr.1
          rw [List.length_drop]
          omega
        obtain ⟨rs, hrs⟩ := ih _ hlt _ rfl
        exact ⟨r :: rs, longest_cons_iff.mpr ⟨hr, hhead, hrs⟩⟩
      · refine ⟨[], (longest_nil_iff hm).mpr fun a ha hsize => hfits ?_⟩
        exact (exists_record_iff hm).mpr ⟨a, ha, hsize⟩

/-- The first entry of a record tells its length. -/
theorem IsRecord.eq_of_prefix {r r' s : List α} (hr : IsRecord size m r)
    (hr' : IsRecord size m r') (h : r <+: s) (h' : r' <+: s) : r = r' := by
  obtain ⟨hle, a, ha, hsize⟩ := hr
  obtain ⟨hle', a', ha', hsize'⟩ := hr'
  have hhead : s.head? = some a := by
    obtain ⟨t, rfl⟩ := h
    exact List.mem_head?_append_of_mem_head? ha
  have hhead' : s.head? = some a' := by
    obtain ⟨t, rfl⟩ := h'
    exact List.mem_head?_append_of_mem_head? ha'
  have hsame : a = a' := Option.some.inj (hhead.symm.trans hhead')
  have hlength : r.length = r'.length := by rw [hsize, hsize', hsame]
  exact (List.prefix_of_prefix_length_le h h' (Nat.le_of_eq hlength)).eq_of_length hlength

theorem Longest.unique {rs rs' : List (List α)} {s : List α}
    (h : Longest size m rs s) (h' : Longest size m rs' s) : rs = rs' := by
  induction rs generalizing rs' s with
  | nil =>
      cases rs' with
      | nil => rfl
      | cons r' rs' =>
          obtain ⟨hr', hhead', -⟩ := longest_cons_iff.mp h'
          exact absurd (by simpa using hhead') (h.ends r' hr')
  | cons r rs ih =>
      obtain ⟨hr, hhead, hrest⟩ := longest_cons_iff.mp h
      cases rs' with
      | nil => exact absurd (by simpa using hhead) (h'.ends r hr)
      | cons r' rs' =>
          obtain ⟨hr', hhead', hrest'⟩ := longest_cons_iff.mp h'
          obtain rfl := hr.eq_of_prefix hr' hhead hhead'
          rw [ih hrest hrest']

end Records
