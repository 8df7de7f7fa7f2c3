import DarwinGpib.Library.Transition
import Mathlib.Algebra.BigOperators.Group.Finset.Basic

/-!
# Systems that come to rest

The actions of a system are its own or those of its surroundings. When a measure falls with each
own action and never rises, the own actions of a run are bounded by it; when some own action is
possible until the system is at rest, it can be brought to rest, and rests when none is left.
-/

namespace Transition

variable {σ α : Type} {step : σ → α → Option σ}

/-- `rank` falls with each own action and does not rise with an admissible one. -/
structure Ranked (step : σ → α → Option σ) (I : σ → Prop) (ok own : α → Prop)
    (rank : σ → Nat) : Prop where
  ok_of_own : ∀ a, own a → ok a
  keeps : ∀ s a t, I s → ok a → step s a = some t → I t
  le : ∀ s a t, I s → ok a → step s a = some t → rank t ≤ rank s
  lt : ∀ s a t, I s → own a → step s a = some t → rank t < rank s

variable {I : σ → Prop} {ok own : α → Prop} {rank : σ → Nat} {s t : σ}

/-- An admissible run has no more own actions than its rank falls. -/
theorem Ranked.countP_own_le [DecidablePred own] (h : Ranked step I ok own rank) (hs : I s)
    {as : List α} (hok : ∀ a ∈ as, ok a) (hrun : run step s as = some t) :
    as.countP own + rank t ≤ rank s := by
  induction as generalizing s with
  | nil =>
      cases hrun
      simp
  | cons a as ih =>
      obtain ⟨u, hu, hrest⟩ := run_cons_eq_some.mp hrun
      have hoka := hok a List.mem_cons_self
      have hle := ih (h.keeps s a u hs hoka hu) (fun b hb => hok b (List.mem_cons_of_mem a hb)) hrest
      rw [List.countP_cons]
      by_cases hown : own a
      · have hlt := h.lt s a u hs hown hu
        simp only [hown, decide_true, if_true]
        omega
      · have hsame := h.le s a u hs hoka hu
        simp only [hown, decide_false, Bool.false_eq_true, if_false]
        omega

/-- A system that is not stuck before it rests can be brought to rest by own actions alone. -/
theorem Ranked.exists_run (h : Ranked step I ok own rank) {Rest : σ → Prop}
    (hprogress : ∀ s, I s → ¬ Rest s → ∃ a t, own a ∧ step s a = some t) (hs : I s) :
    ∃ as t, (∀ a ∈ as, own a) ∧ run step s as = some t ∧ Rest t := by
  induction hn : rank s using Nat.strong_induction_on generalizing s with
  | _ n ih =>
      by_cases hrest : Rest s
      · exact ⟨[], s, by simp, rfl, hrest⟩
      · obtain ⟨a, u, hown, hu⟩ := hprogress s hs hrest
        have hlt := h.lt s a u hs hown hu
        obtain ⟨as, t, hown', hrun, ht⟩ :=
          ih (rank u) (hn ▸ hlt) (h.keeps s a u hs (h.ok_of_own a hown) hu) rfl
        refine ⟨a :: as, t, ?_, run_cons_eq_some.mpr ⟨u, hu, hrun⟩, ht⟩
        intro b hb
        rcases List.mem_cons.mp hb with rfl | hb
        · exact hown
        · exact hown' b hb

end Transition

/-- Sums over functions that differ at one place. -/
theorem Finset.sum_add_of_ne_at {ι : Type} [DecidableEq ι] {C : Finset ι} {f g : ι → Nat} {i : ι}
    (hi : i ∈ C) (h : ∀ k, k ≠ i → g k = f k) :
    ∑ k ∈ C, g k + f i = ∑ k ∈ C, f k + g i := by
  have hothers : ∑ k ∈ C.erase i, g k = ∑ k ∈ C.erase i, f k :=
    Finset.sum_congr rfl fun k hk => h k (Finset.ne_of_mem_erase hk)
  rw [← Finset.add_sum_erase C _ hi, hothers, ← Finset.add_sum_erase C f hi]
  omega
