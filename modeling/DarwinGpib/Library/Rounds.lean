import Mathlib.Logic.Function.Iterate
import Mathlib.Tactic.ByContra
import Mathlib.Tactic.Choose

/-!
# Loops on fuel

A loop that is given fuel returns with enough of it unless its rounds follow each other for ever.
-/

namespace Looping

variable {σ β : Type} {next : σ → Option σ} {loop : Nat → σ → Option β}

/-- A loop by its rounds: `next` is the state in which a round leaves it, or nothing when the loop
returns in that round. -/
structure RoundByRound (next : σ → Option σ) (loop : Nat → σ → Option β) : Prop where
  zero : ∀ s, loop 0 s = none
  goesOn : ∀ fuel s s', next s = some s' → loop (fuel + 1) s = loop fuel s'
  returns : ∀ fuel s, next s = none → ∃ r, loop (fuel + 1) s = some r

/-- The states of a loop that goes on for ever. -/
def Endless (next : σ → Option σ) (s : σ) (f : Nat → σ) : Prop :=
  f 0 = s ∧ ∀ n, next (f n) = some (f (n + 1))

/-- When every round out of the states of interest leads back among them, they go on for ever. -/
theorem exists_endless {I : σ → Prop} (hstep : ∀ s, I s → ∃ s', next s = some s' ∧ I s') {s : σ}
    (hs : I s) : ∃ f, Endless next s f := by
  choose go hgo hkept using hstep
  let step (x : { s // I s }) : { s // I s } := ⟨go x.1 x.2, hkept x.1 x.2⟩
  refine ⟨fun n => (step^[n] ⟨s, hs⟩).1, rfl, fun n => ?_⟩
  have hnext : step^[n + 1] ⟨s, hs⟩ = step (step^[n] ⟨s, hs⟩) := Function.iterate_succ_apply' ..
  change next (step^[n] ⟨s, hs⟩).1 = some (step^[n + 1] ⟨s, hs⟩).1
  rw [hnext]
  exact hgo _ _

theorem RoundByRound.eq_none_of_endless (h : RoundByRound next loop) {s : σ} {f : Nat → σ}
    (hf : Endless next s f) (fuel n : Nat) : loop fuel (f n) = none := by
  induction fuel generalizing n with
  | zero => exact h.zero _
  | succ fuel ih => rw [h.goesOn fuel _ _ (hf.2 n), ih]

/-- With enough fuel the loop returns, unless it goes on for ever. -/
theorem RoundByRound.returns_iff (h : RoundByRound next loop) (s : σ) :
    (∃ fuel r, loop fuel s = some r) ↔ ¬ ∃ f, Endless next s f := by
  constructor
  · rintro ⟨fuel, r, hr⟩ ⟨f, hf⟩
    have hnone := h.eq_none_of_endless hf fuel 0
    rw [hf.1, hr] at hnone
    cases hnone
  · intro hends
    by_contra hlost
    refine hends (exists_endless (I := fun s => ¬ ∃ fuel r, loop fuel s = some r) ?_ hlost)
    intro s hs
    cases hnext : next s with
    | none => exact absurd ⟨1, h.returns 0 s hnext⟩ hs
    | some s' =>
        refine ⟨s', rfl, ?_⟩
        rintro ⟨fuel, r, hr⟩
        exact hs ⟨fuel + 1, r, by rw [h.goesOn fuel s s' hnext, hr]⟩

end Looping
