import DarwinGpib.Library.Stateful

/-!
# Programs against one server

A server that has at most one answer to each request leaves a program at most one run, which
`converse` computes.
-/

namespace Interaction

variable {ι : Type} {ρ : ι → Type} {α β δ : Type}

/-- Exchange with the server until the program returns; it may have no answer to a request. -/
def converse (answer : δ → (i : ι) → Option (ρ i × δ)) : Program ρ α → δ → Option (α × δ)
  | .pure a, d => some (a, d)
  | .ask i k, d => (answer d i).bind fun r => converse answer (k r.1) r.2

/-- The server as a relation. -/
def Replying (answer : δ → (i : ι) → Option (ρ i × δ)) (d : δ) (e : Exchange ρ) (d' : δ) : Prop :=
  answer d e.request = some (e.reply, d')

section

variable (answer : δ → (i : ι) → Option (ρ i × δ))

@[simp] theorem converse_pure (a : α) (d : δ) :
    converse answer (pure a : Program ρ α) d = some (a, d) :=
  rfl

@[simp] theorem converse_call (i : ι) (d : δ) :
    converse answer (Program.call i : Program ρ (ρ i)) d = answer d i := by
  change ((answer d i).bind fun r => some r) = answer d i
  simp

theorem converse_bind (p : Program ρ α) (f : α → Program ρ β) (d : δ) :
    converse answer (p >>= f) d =
      (converse answer p d).bind fun r => converse answer (f r.1) r.2 := by
  induction p generalizing d with
  | pure a => rfl
  | ask i k ih =>
      change ((answer d i).bind fun r => converse answer (k r.1 >>= f) r.2) =
        ((answer d i).bind fun r => converse answer (k r.1) r.2).bind _
      simp [ih, Option.bind_assoc]

theorem converse_call_bind (i : ι) (f : ρ i → Program ρ β) (d : δ) :
    converse answer (Program.call i >>= f) d =
      (answer d i).bind fun r => converse answer (f r.1) r.2 :=
  rfl

theorem converse_ite {c : Prop} [Decidable c] (p q : Program ρ α) (d : δ) :
    converse answer (if c then p else q) d =
      if c then converse answer p d else converse answer q d := by
  split <;> rfl

variable {answer}

/-- What `converse` computes is the one run that the server takes part in. -/
theorem converse_eq_some_iff {p : Program ρ α} {d d' : δ} {a : α} :
    converse answer p d = some (a, d') ↔ ∃ u, Run p u a ∧ Serves (Replying answer) d u d' := by
  induction p generalizing d with
  | pure b =>
      constructor
      · intro h
        cases h
        exact ⟨[], .pure _, .nil _⟩
      · rintro ⟨u, hrun, hserves⟩
        obtain ⟨rfl, rfl⟩ := run_pure_iff.mp hrun
        rw [serves_nil_iff.mp hserves]
        rfl
  | ask i k ih =>
      constructor
      · intro h
        obtain ⟨⟨r, d₁⟩, hr, h⟩ := Option.bind_eq_some_iff.mp h
        obtain ⟨u, hrun, hserves⟩ := (ih r).mp h
        exact ⟨⟨i, r⟩ :: u, .ask hrun, .cons hr hserves⟩
      · rintro ⟨u, hrun, hserves⟩
        obtain ⟨r, v, rfl, hrest⟩ := run_ask_iff.mp hrun
        obtain ⟨d₁, hr, hserves'⟩ := serves_cons_iff.mp hserves
        exact Option.bind_eq_some_iff.mpr ⟨(r, d₁), hr, (ih r).mpr ⟨v, hrest, hserves'⟩⟩

end

end Interaction
