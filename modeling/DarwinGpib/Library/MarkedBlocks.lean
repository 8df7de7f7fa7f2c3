import Mathlib.Data.List.Basic

/-!
# Blocks between markers

In a sequence some entries open a block and some close one; a block goes from an entry that opens
to the next one that closes. `strip` removes blocks in one pass with a flag. It leaves what is
outside of the blocks if and only if the entries with markers pair up.
-/

namespace MarkedBlocks

variable {α : Type}

/-! ## What a block is -/

section Definitions

variable (opens closes : α → Prop)

/-- An entry that opens, and what follows up to the next one that closes. -/
def IsBlock (r : List α) : Prop :=
  ∃ a mid z, r = a :: (mid ++ [z]) ∧ opens a ∧ closes z ∧ ∀ y ∈ mid, ¬ closes y

/-- The entry `x` between `before` and `after` belongs to a block. -/
def InBlock (before : List α) (x : α) (after : List α) : Prop :=
  ∃ u r₁ r₂ v, before = u ++ r₁ ∧ after = r₂ ++ v ∧ IsBlock opens closes (r₁ ++ x :: r₂)

open Classical in
/-- The entries of `rest` that are in no block, when `before` is in front of them. -/
noncomputable def outsideFrom : (before rest : List α) → List α
  | _, [] => []
  | before, x :: rest =>
      if InBlock opens closes before x rest then outsideFrom (before ++ [x]) rest
      else x :: outsideFrom (before ++ [x]) rest

/-- The entries that are in no block. -/
noncomputable def outside (l : List α) : List α := outsideFrom opens closes [] l

/-- Nothing has closed since an entry opened. -/
def Open (before : List α) : Prop :=
  ∃ u a v, before = u ++ a :: v ∧ opens a ∧ ∀ y ∈ v, ¬ closes y

/-- Each entry that opens has one that closes behind it, and each entry that closes has an open
block in front of it. -/
structure Paired (l : List α) : Prop where
  closed : ∀ u x v, l = u ++ x :: v → opens x → ∃ z ∈ v, closes z
  opened : ∀ u x v, l = u ++ x :: v → closes x → Open opens closes u

variable [DecidablePred opens] [DecidablePred closes]

/-- Remove what lies between markers, in one pass. -/
def strip : (inBlock : Bool) → List α → List α
  | _, [] => []
  | inBlock, x :: rest =>
      if opens x then strip true rest
      else if closes x then strip false rest
      else if inBlock then strip inBlock rest
      else x :: strip inBlock rest

end Definitions

variable {opens closes : α → Prop} {before rest u v : List α} {x : α}

/-! ## Open blocks -/

theorem not_open_nil : ¬ Open opens closes [] := by
  rintro ⟨u, a, v, h, -⟩
  simp at h

theorem open_concat_iff :
    Open opens closes (before ++ [x]) ↔ opens x ∨ (Open opens closes before ∧ ¬ closes x) := by
  constructor
  · rintro ⟨u, a, v, h, ha, hv⟩
    rcases List.eq_nil_or_concat' v with rfl | ⟨v, y, rfl⟩
    · obtain ⟨-, hx⟩ := List.append_inj' h rfl
      cases hx
      exact .inl ha
    · rw [← List.cons_append, ← List.append_assoc] at h
      obtain ⟨rfl, hx⟩ := List.append_inj' h rfl
      cases hx
      exact .inr ⟨⟨u, a, v, rfl, ha, fun y hy => hv y (by simp [hy])⟩, hv x (by simp)⟩
  · rintro (hx | ⟨⟨u, a, v, rfl, ha, hv⟩, hx⟩)
    · exact ⟨before, x, [], rfl, hx, by simp⟩
    · refine ⟨u, a, v ++ [x], by simp, ha, ?_⟩
      intro y hy
      rcases List.mem_append.mp hy with hy | hy
      · exact hv y hy
      · rwa [List.mem_singleton.mp hy]

/-- The first of several entries that close. -/
theorem exists_first (h : ∃ z ∈ rest, closes z) :
    ∃ r z v, rest = r ++ z :: v ∧ closes z ∧ ∀ y ∈ r, ¬ closes y := by
  induction rest with
  | nil => simp at h
  | cons x rest ih =>
      by_cases hx : closes x
      · exact ⟨[], x, rest, rfl, hx, by simp⟩
      · obtain ⟨r, z, v, rfl, hz, hr⟩ := ih (by simpa [hx] using h)
        exact ⟨x :: r, z, v, rfl, hz, by simpa [hx] using hr⟩

/-- An entry is in a block if one is open in front of it, or it opens one, and one closes. -/
theorem inBlock_iff : InBlock opens closes before x rest ↔
    (Open opens closes before ∧ (closes x ∨ ∃ z ∈ rest, closes z)) ∨
      (opens x ∧ ∃ z ∈ rest, closes z) := by
  constructor
  · rintro ⟨u, r₁, r₂, v, rfl, rfl, a, mid, z, h, ha, hz, hmid⟩
    cases r₁ with
    | nil =>
        obtain ⟨rfl, rfl⟩ := List.cons.inj h
        exact .inr ⟨ha, z, by simp, hz⟩
    | cons a' r₁ =>
        obtain ⟨rfl, htail⟩ := List.cons.inj h
        rcases List.eq_nil_or_concat' r₂ with rfl | ⟨r₂, z', rfl⟩
        · obtain ⟨rfl, hx⟩ := List.append_inj' htail rfl
          cases hx
          exact .inl ⟨⟨u, a', r₁, rfl, ha, hmid⟩, .inl hz⟩
        · have htail : (r₁ ++ x :: r₂) ++ [z'] = mid ++ [z] := by simpa using htail
          obtain ⟨rfl, hx⟩ := List.append_inj' htail rfl
          cases hx
          refine .inl ⟨⟨u, a', r₁, rfl, ha, fun y hy => hmid y (by simp [hy])⟩, .inr ?_⟩
          exact ⟨z, by simp, hz⟩
  · have hlast (ho : Open opens closes before) (hx : closes x) :
        InBlock opens closes before x rest := by
      obtain ⟨u, a, v, rfl, ha, hv⟩ := ho
      exact ⟨u, a :: v, [], rest, rfl, rfl, a, v, x, by simp, ha, hx, hv⟩
    rintro (⟨ho, hx | hrest⟩ | ⟨hx, hrest⟩)
    · exact hlast ho hx
    · by_cases hx : closes x
      · exact hlast ho hx
      · obtain ⟨u, a, v, rfl, ha, hv⟩ := ho
        obtain ⟨r, z, w, rfl, hz, hr⟩ := exists_first hrest
        refine ⟨u, a :: v, r ++ [z], w, rfl, by simp, a, v ++ x :: r, z, by simp, ha, hz, ?_⟩
        intro y hy
        rcases List.mem_append.mp hy with hy | hy
        · exact hv y hy
        · rcases List.mem_cons.mp hy with rfl | hy
          · exact hx
          · exact hr y hy
    · obtain ⟨r, z, w, rfl, hz, hr⟩ := exists_first hrest
      exact ⟨before, [], r ++ [z], w, by simp, by simp, x, r, z, rfl, hx, hz, hr⟩

/-! ## Markers that pair up -/

/-- The markers and what is behind an open one. -/
def Dropped (opens closes : α → Prop) (before : List α) (x : α) : Prop :=
  opens x ∨ closes x ∨ Open opens closes before

theorem InBlock.dropped (h : InBlock opens closes before x rest) :
    Dropped opens closes before x := by
  rcases inBlock_iff.mp h with ⟨ho, -⟩ | ⟨hx, -⟩
  · exact .inr (.inr ho)
  · exact .inl hx

/-- An entry in no block is outside. -/
theorem mem_outsideFrom (h : ¬ InBlock opens closes (before ++ u) x v) :
    x ∈ outsideFrom opens closes before (u ++ x :: v) := by
  induction u generalizing before with
  | nil =>
      rw [List.append_nil] at h
      simp [outsideFrom, h]
  | cons y u ih =>
      have hrest : x ∈ outsideFrom opens closes (before ++ [y]) (u ++ x :: v) :=
        ih (by simpa using h)
      rw [List.cons_append, outsideFrom]
      split
      · exact hrest
      · exact List.mem_cons_of_mem y hrest

theorem outsideFrom_sublist (before rest : List α) :
    (outsideFrom opens closes before rest).Sublist rest := by
  induction rest generalizing before with
  | nil => exact .slnil
  | cons x rest ih =>
      rw [outsideFrom]
      split
      · exact (ih _).cons x
      · exact (ih _).cons_cons x

theorem outside_sublist (l : List α) : (outside opens closes l).Sublist l :=
  outsideFrom_sublist [] l

theorem outsideFrom_of_not_opens (hbefore : ∀ y ∈ before, ¬ opens y) (h : ∀ y ∈ rest, ¬ opens y) :
    outsideFrom opens closes before rest = rest := by
  induction rest generalizing before with
  | nil => rfl
  | cons x rest ih =>
      obtain ⟨hx, hrest⟩ := List.forall_mem_cons.mp h
      have hout : ¬ InBlock opens closes before x rest := by
        rw [inBlock_iff]
        rintro (⟨⟨u, a, v, rfl, ha, -⟩, -⟩ | ⟨hopens, -⟩)
        · exact hbefore a (by simp) ha
        · exact hx hopens
      have hnext : ∀ y ∈ before ++ [x], ¬ opens y := by
        intro y hy
        rcases List.mem_append.mp hy with hy | hy
        · exact hbefore y hy
        · rwa [List.mem_singleton.mp hy]
      rw [outsideFrom, if_neg hout, ih hnext hrest]

/-- Without entries that open everything is outside. -/
theorem outside_of_not_opens {l : List α} (h : ∀ y ∈ l, ¬ opens y) : outside opens closes l = l :=
  outsideFrom_of_not_opens (by simp) h

section OneMarker

variable {l : List α} (hone : ∀ x, closes x → ¬ opens x)
include hone

theorem paired_of_inBlock (h : ∀ u x v, l = u ++ x :: v → opens x ∨ closes x →
    InBlock opens closes u x v) : Paired opens closes l := by
  constructor
  · intro u x v hl hx
    rcases inBlock_iff.mp (h u x v hl (.inl hx)) with ⟨-, hcloses | hv⟩ | ⟨-, hv⟩
    · exact absurd hx (hone x hcloses)
    · exact hv
    · exact hv
  · intro u x v hl hx
    rcases inBlock_iff.mp (h u x v hl (.inr hx)) with ⟨ho, -⟩ | ⟨hopens, -⟩
    · exact ho
    · exact absurd hopens (hone x hx)

/-- If no entry has both markers, they pair up if and only if all of them and all that is behind an
open one is in a block. -/
theorem dropped_inBlock_iff :
    (∀ u x v, l = u ++ x :: v → Dropped opens closes u x → InBlock opens closes u x v) ↔
      Paired opens closes l := by
  constructor
  · intro h
    refine paired_of_inBlock hone fun u x v hl hx => h u x v hl ?_
    rcases hx with hx | hx
    · exact .inl hx
    · exact .inr (.inl hx)
  · rintro ⟨hclosed, hopened⟩ u x v hl (hx | hx | ⟨w, a, r, rfl, ha, hr⟩)
    · exact inBlock_iff.mpr (.inr ⟨hx, hclosed u x v hl hx⟩)
    · exact inBlock_iff.mpr (.inl ⟨hopened u x v hl hx, .inl hx⟩)
    · -- What closes the open block is this entry or behind it.
      obtain ⟨z, hz, hcloses⟩ := hclosed w a (r ++ x :: v) (by simp [hl]) ha
      refine inBlock_iff.mpr (.inl ⟨⟨w, a, r, rfl, ha, hr⟩, ?_⟩)
      rcases List.mem_append.mp hz with hz | hz
      · exact absurd hcloses (hr z hz)
      · rcases List.mem_cons.mp hz with rfl | hz
        · exact .inl hcloses
        · exact .inr ⟨z, hz, hcloses⟩

/-- If the markers do not pair up, one of them is outside. -/
theorem exists_marker_of_not_paired (h : ¬ Paired opens closes l) :
    ∃ x ∈ outside opens closes l, opens x ∨ closes x := by
  by_contra hnone
  refine h (paired_of_inBlock hone fun u x v hl hx => ?_)
  by_contra hout
  refine hnone ⟨x, ?_, hx⟩
  rw [outside, hl]
  exact mem_outsideFrom (by simpa using hout)

end OneMarker

/-! ## Stripping -/

variable [DecidablePred opens] [DecidablePred closes] {inBlock : Bool}

/-- One entry of a pass, and the flag behind it. -/
theorem strip_cons (hflag : inBlock = true ↔ Open opens closes before) (x : α) (rest : List α) :
    ∃ flag, (flag = true ↔ Open opens closes (before ++ [x])) ∧
      (Dropped opens closes before x ∧
          strip opens closes inBlock (x :: rest) = strip opens closes flag rest ∨
        ¬ Dropped opens closes before x ∧
          strip opens closes inBlock (x :: rest) = x :: strip opens closes flag rest) := by
  unfold Dropped
  rw [strip, open_concat_iff]
  by_cases hopens : opens x
  · exact ⟨true, by simp [hopens], .inl ⟨.inl hopens, by simp [hopens]⟩⟩
  by_cases hcloses : closes x
  · exact ⟨false, by simp [hopens, hcloses], .inl ⟨.inr (.inl hcloses), by simp [hopens, hcloses]⟩⟩
  refine ⟨inBlock, by simp [hopens, hcloses, hflag], ?_⟩
  cases inBlock with
  | true => exact .inl ⟨.inr (.inr (hflag.mp rfl)), by simp [hopens, hcloses]⟩
  | false =>
      have ho : ¬ Open opens closes before := fun ho => absurd (hflag.mpr ho) (by simp)
      exact .inr ⟨by simp [hopens, hcloses, ho], by simp [hopens, hcloses]⟩

/-- A pass leaves no entry of a block. -/
theorem strip_sublist (hflag : inBlock = true ↔ Open opens closes before) :
    (strip opens closes inBlock rest).Sublist (outsideFrom opens closes before rest) := by
  induction rest generalizing before inBlock with
  | nil => exact .slnil
  | cons x rest ih =>
      obtain ⟨flag, hflag', hstep⟩ := strip_cons hflag x rest
      have hrest := ih hflag'
      rw [outsideFrom]
      rcases hstep with ⟨-, heq⟩ | ⟨hkept, heq⟩
      · rw [heq]
        split
        · exact hrest
        · exact hrest.cons x
      · rw [heq, if_neg fun hin => hkept hin.dropped]
        exact hrest.cons_cons x

theorem strip_eq_outsideFrom_iff (hflag : inBlock = true ↔ Open opens closes before) :
    strip opens closes inBlock rest = outsideFrom opens closes before rest ↔
      ∀ u x v, rest = u ++ x :: v → Dropped opens closes (before ++ u) x →
        InBlock opens closes (before ++ u) x v := by
  induction rest generalizing before inBlock with
  | nil => simp [strip, outsideFrom]
  | cons x rest ih =>
      obtain ⟨flag, hflag', hstep⟩ := strip_cons hflag x rest
      -- The splits of a cons: at its head, or in its tail.
      have hsplit : (∀ u y v, x :: rest = u ++ y :: v → Dropped opens closes (before ++ u) y →
            InBlock opens closes (before ++ u) y v) ↔
          (Dropped opens closes before x → InBlock opens closes before x rest) ∧
            strip opens closes flag rest = outsideFrom opens closes (before ++ [x]) rest := by
        rw [ih hflag']
        constructor
        · intro h
          refine ⟨by simpa using h [] x rest rfl, fun u y v hrest => ?_⟩
          simpa using h (x :: u) y v (by rw [hrest, List.cons_append])
        · rintro ⟨hhead, htail⟩ u y v heq
          cases u with
          | nil =>
              obtain ⟨rfl, rfl⟩ := List.cons.inj heq
              simpa using hhead
          | cons x' u =>
              obtain ⟨rfl, hrest⟩ := List.cons.inj heq
              simpa using htail u y v hrest
      rw [hsplit, outsideFrom]
      rcases hstep with ⟨hdropped, heq⟩ | ⟨hkept, heq⟩
      · rw [heq]
        by_cases hin : InBlock opens closes before x rest
        · simp [hin]
        · have hlt : strip opens closes flag rest ≠
              x :: outsideFrom opens closes (before ++ [x]) rest := by
            intro hlong
            have hsub : (strip opens closes flag rest).Sublist _ := strip_sublist hflag'
            rw [hlong] at hsub
            have hle := hsub.length_le
            rw [List.length_cons] at hle
            omega
          simp [hin, hdropped, hlt]
      · rw [heq, if_neg fun hin => hkept hin.dropped]
        simp [hkept]

/-- If no entry has both markers, a pass leaves what is in no block if and only if the markers pair
up. -/
theorem strip_eq_outside_iff (hone : ∀ x, closes x → ¬ opens x) {l : List α} :
    strip opens closes false l = outside opens closes l ↔ Paired opens closes l := by
  have hflag : false = true ↔ Open opens closes [] := by simp [not_open_nil]
  rw [outside, strip_eq_outsideFrom_iff hflag, ← dropped_inBlock_iff hone]
  simp

theorem strip_sublist_outside (l : List α) :
    (strip opens closes false l).Sublist (outside opens closes l) :=
  strip_sublist (by simp [not_open_nil])

/-- A pass leaves no markers. -/
theorem plain_of_mem_strip {l : List α} (h : x ∈ strip opens closes inBlock l) :
    ¬ opens x ∧ ¬ closes x := by
  induction l generalizing inBlock with
  | nil => simp [strip] at h
  | cons y l ih =>
      rw [strip] at h
      split at h
      · exact ih h
      rename_i hopens
      split at h
      · exact ih h
      rename_i hcloses
      split at h
      · exact ih h
      rcases List.mem_cons.mp h with rfl | h
      · exact ⟨hopens, hcloses⟩
      · exact ih h

theorem strip_sublist_self (inBlock : Bool) (l : List α) :
    (strip opens closes inBlock l).Sublist l := by
  induction l generalizing inBlock with
  | nil => exact .slnil
  | cons y l ih =>
      rw [strip]
      split
      · exact (ih true).cons y
      split
      · exact (ih false).cons y
      split
      · exact (ih inBlock).cons y
      · exact (ih inBlock).cons_cons y

/-! ## Parts of a pass -/

/-- Entries without markers stay in front of what a pass leaves of the rest. -/
theorem strip_append_of_plain (h : ∀ y ∈ u, ¬ opens y ∧ ¬ closes y) :
    strip opens closes false (u ++ rest) = u ++ strip opens closes false rest := by
  induction u with
  | nil => rfl
  | cons y u ih =>
      obtain ⟨⟨hopens, hcloses⟩, hu⟩ := List.forall_mem_cons.mp h
      simp [strip, hopens, hcloses, ih hu]

/-- Behind an entry that only closes, a pass begins anew. -/
theorem exists_strip_append_closing (hx : closes x) (hopens : ¬ opens x) (inBlock : Bool)
    (u rest : List α) :
    ∃ kept, strip opens closes inBlock (u ++ x :: rest) =
      kept ++ strip opens closes false rest := by
  induction u generalizing inBlock with
  | nil => exact ⟨[], by simp [strip, hx, hopens]⟩
  | cons y u ih =>
      rw [List.cons_append, strip]
      split
      · exact ih true
      split
      · exact ih false
      split
      · exact ih inBlock
      · obtain ⟨kept, heq⟩ := ih inBlock
        exact ⟨y :: kept, by rw [heq, List.cons_append]⟩

end MarkedBlocks
