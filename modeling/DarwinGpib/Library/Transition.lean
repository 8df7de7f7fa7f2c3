import Mathlib.Data.List.Basic

/-!
# Runs of a labelled transition function

`step s a = none` means that the action `a` is not possible in the state `s`. `Along` states
that a predicate on a state and the action taken there holds at every action of a run; it
serves both for what is assumed of the environment and for what a run is shown to do.
-/

namespace Transition

variable {σ α : Type} {step : σ → α → Option σ}

/-- The state after a list of actions, when each of them is possible where it is taken. -/
def run (step : σ → α → Option σ) : σ → List α → Option σ
  | s, [] => some s
  | s, a :: as => (step s a).bind (run step · as)

@[simp] theorem run_nil (s : σ) : run step s [] = some s :=
  rfl

theorem run_cons (s : σ) (a : α) (as : List α) :
    run step s (a :: as) = (step s a).bind (run step · as) :=
  rfl

theorem run_cons_eq_some {s t : σ} {a : α} {as : List α} :
    run step s (a :: as) = some t ↔ ∃ u, step s a = some u ∧ run step u as = some t := by
  rw [run_cons, Option.bind_eq_some_iff]

/-- Every action of the run, in the state where it is taken, satisfies `P`. -/
def Along (step : σ → α → Option σ) (P : σ → α → Prop) : σ → List α → Prop
  | _, [] => True
  | s, a :: as => P s a ∧ ∀ t, step s a = some t → Along step P t as

@[simp] theorem along_nil {P : σ → α → Prop} (s : σ) : Along step P s [] :=
  trivial

theorem Along.mono {P Q : σ → α → Prop} (h : ∀ s a, P s a → Q s a) {s : σ} {as : List α}
    (hs : Along step P s as) : Along step Q s as := by
  induction as generalizing s with
  | nil => trivial
  | cons a as ih => exact ⟨h s a hs.1, fun t ht => ih (hs.2 t ht)⟩

theorem Along.and {P Q : σ → α → Prop} {s : σ} {as : List α} (hP : Along step P s as)
    (hQ : Along step Q s as) : Along step (fun s a => P s a ∧ Q s a) s as := by
  induction as generalizing s with
  | nil => trivial
  | cons a as ih => exact ⟨⟨hP.1, hQ.1⟩, fun t ht => ih (hP.2 t ht) (hQ.2 t ht)⟩

theorem along_append {P : σ → α → Prop} {s : σ} {as bs : List α} (h : Along step P s as)
    (hrest : ∀ t, run step s as = some t → Along step P t bs) : Along step P s (as ++ bs) := by
  induction as generalizing s with
  | nil => exact hrest s rfl
  | cons a as ih =>
      refine ⟨h.1, fun t ht => ih (h.2 t ht) fun u hu => hrest u ?_⟩
      rw [run_cons, ht, Option.bind_some, hu]

theorem along_of_forall {P : σ → α → Prop} {as : List α} (h : ∀ a ∈ as, ∀ s, P s a) (s : σ) :
    Along step P s as := by
  induction as generalizing s with
  | nil => trivial
  | cons a as ih =>
      exact ⟨h a List.mem_cons_self s,
        fun t _ => ih (fun b hb => h b (List.mem_cons_of_mem a hb)) t⟩

/-- What holds along a run holds at the action behind any beginning of it. -/
theorem Along.at {P : σ → α → Prop} {s t : σ} {as bs : List α} {a : α}
    (h : Along step P s (as ++ a :: bs)) (hrun : run step s as = some t) : P t a := by
  induction as generalizing s with
  | nil =>
      cases hrun
      exact h.1
  | cons b as ih =>
      obtain ⟨u, hu, hrest⟩ := run_cons_eq_some.mp hrun
      exact ih (h.2 u hu) hrest

/-- An invariant kept by every admissible action holds at the end of an admissible run. -/
theorem run_invariant {I : σ → Prop} {ok : σ → α → Prop}
    (h : ∀ s a t, I s → ok s a → step s a = some t → I t)
    {s t : σ} {as : List α} (hs : I s) (hok : Along step ok s as)
    (hrun : run step s as = some t) : I t := by
  induction as generalizing s with
  | nil =>
      cases hrun
      exact hs
  | cons a as ih =>
      obtain ⟨u, hu, hrest⟩ := run_cons_eq_some.mp hrun
      exact ih (h s a u hs hok.1 hu) (hok.2 u hu) hrest

/-- What an invariant implies of every admissible action holds along an admissible run. -/
theorem along_of_invariant {I : σ → Prop} {ok P : σ → α → Prop}
    (h : ∀ s a t, I s → ok s a → step s a = some t → I t)
    (hP : ∀ s a, I s → ok s a → P s a)
    {s : σ} {as : List α} (hs : I s) (hok : Along step ok s as) : Along step P s as := by
  induction as generalizing s with
  | nil => trivial
  | cons a as ih =>
      exact ⟨hP s a hs hok.1, fun t ht => ih (h s a t hs hok.1 ht) (hok.2 t ht)⟩

end Transition
