import Mathlib.Data.List.Basic

/-!
# Histories of a labelled transition relation

A history lists the states passed through, latest first, each with the label of the step taken
there. Invariants are stated at its end, of every state in it, or since a step in it.
-/

namespace Behaviour

variable {σ α : Type}

/-- The past of a state that is reached from a starting one. -/
inductive History (start : σ → Prop) (step : σ → α → σ → Prop) : List (σ × α) → σ → Prop where
  | start {s} (h : start s) : History start step [] s
  | step {past s a t} (h : History start step past s) (hstep : step s a t) :
      History start step ((s, a) :: past) t

variable {start : σ → Prop} {step : σ → α → σ → Prop} {past : List (σ × α)} {s : σ}

theorem History.invariant {I : σ → Prop} (hstart : ∀ s, start s → I s)
    (hstep : ∀ s a t, I s → step s a t → I t) (h : History start step past s) : I s := by
  induction h with
  | start h => exact hstart _ h
  | step _ h ih => exact hstep _ _ _ ih h

/-- The beginning of a history. -/
theorem History.of_suffix {earlier : List (σ × α)} {e : σ × α}
    (h : History start step past s) (hsuffix : e :: earlier <:+ past) :
    History start step earlier e.1 ∧ ∃ t, step e.1 e.2 t := by
  induction h with
  | start h => simp at hsuffix
  | step h hlast ih =>
      rcases List.suffix_cons_iff.mp hsuffix with heq | hsuffix
      · cases heq
        exact ⟨h, _, hlast⟩
      · exact ih hsuffix

/-- Every entry of a history is a step. -/
theorem History.exists_step (h : History start step past s) {e : σ × α} (he : e ∈ past) :
    ∃ t, step e.1 e.2 t := by
  obtain ⟨later, earlier, rfl⟩ := List.append_of_mem he
  exact (h.of_suffix (List.suffix_append later _)).2

/-- What a step brings about and the steps behind it keep. -/
theorem History.since {I : σ → Prop} {recent earlier : List (σ × α)} {s₁ : σ} {a₁ : α}
    (h : History start step (recent ++ (s₁, a₁) :: earlier) s)
    (hstart : ∀ t, step s₁ a₁ t → I t)
    (hstep : ∀ s a t, (s, a) ∈ recent → I s → step s a t → I t) : I s := by
  induction recent generalizing s with
  | nil =>
      cases h with
      | step _ h => exact hstart _ h
  | cons e recent ih =>
      cases h with
      | step h hlast =>
          have hbefore := ih h fun s a t hmem => hstep s a t (List.mem_cons_of_mem _ hmem)
          exact hstep _ _ _ List.mem_cons_self hbefore hlast

/-- When a step taken from `I` is as it should be exactly if it is allowed, a whole history is
as it should be exactly if all its steps are allowed. -/
theorem History.throughout_iff {I : σ → Prop} {J P : σ → α → Prop}
    (hstart : ∀ s, start s → I s)
    (hstep : ∀ s a t, I s → step s a t → (I t ∧ J s a ↔ P s a))
    (h : History start step past s) :
    (I s ∧ ∀ e ∈ past, I e.1 ∧ J e.1 e.2) ↔ ∀ e ∈ past, P e.1 e.2 := by
  induction h with
  | start h => simp [hstart _ h]
  | @step past s a t h hlast ih =>
      simp only [List.forall_mem_cons]
      constructor
      · rintro ⟨ht, ⟨hs, hJ⟩, hpast⟩
        exact ⟨(hstep s a t hs hlast).mp ⟨ht, hJ⟩, ih.mp ⟨hs, hpast⟩⟩
      · rintro ⟨hP, hpast⟩
        obtain ⟨hs, hstates⟩ := ih.mpr hpast
        obtain ⟨ht, hJ⟩ := (hstep s a t hs hlast).mpr hP
        exact ⟨ht, ⟨hs, hJ⟩, hstates⟩

end Behaviour
