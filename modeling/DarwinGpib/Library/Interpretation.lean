import DarwinGpib.Library.Stateful

/-!
# Programs carried out over another interface

`interpret h p` carries out each request `i` of `p` by the program `h i` over another interface.
If a server of the upper interface can answer whatever `h` makes of a server of the lower one,
every served run of the interpretation is one of `p`.
-/

namespace Interaction

variable {ι κ : Type} {ρ : ι → Type} {σ : κ → Type} {α β : Type}

/-- Carry out every request of a program by a program. -/
def Program.interpret (h : ∀ i, Program σ (ρ i)) : Program ρ α → Program σ α
  | .pure a => pure a
  | .ask i k => h i >>= fun r => (k r).interpret h

/-- A run of an interpretation is made of runs that carry out the requests of a run. -/
theorem run_interpret_ask_iff {h : ∀ i, Program σ (ρ i)} {i : ι} {k : ρ i → Program ρ α}
    {t : Trace σ} {a : α} :
    Run ((Program.ask i k).interpret h) t a ↔
      ∃ u r v, t = u ++ v ∧ Run (h i) u r ∧ Run ((k r).interpret h) v a :=
  run_bind_iff

/-! ## Simulation -/

section Simulation

variable {δ ε : Type} {serve : δ → Exchange ρ → δ → Prop} {serve' : ε → Exchange σ → ε → Prop}
  {R : δ → ε → Prop} {bad : ι → Prop} {h : ∀ i, Program σ (ρ i)}

/-- Carrying out any request that is not bad takes related servers to related servers, where
the upper one has answered the request as it came out below. -/
def Simulates (serve : δ → Exchange ρ → δ → Prop) (serve' : ε → Exchange σ → ε → Prop)
    (R : δ → ε → Prop) (bad : ι → Prop) (h : ∀ i, Program σ (ρ i)) : Prop :=
  ∀ d e i u r e', R d e → ¬ bad i → Run (h i) u r → Serves serve' e u e' →
    ∃ d', serve d ⟨i, r⟩ d' ∧ R d' e'

/-- A served run of the interpretation is a served run of the program. -/
theorem Simulates.run (hsim : Simulates serve serve' R bad h) {p : Program ρ α}
    (hp : Avoids bad p) {t : Trace σ} {a : α} (hrun : Run (p.interpret h) t a) {d : δ} {e e' : ε}
    (hserves : Serves serve' e t e') (hR : R d e) :
    ∃ v d', Run p v a ∧ Serves serve d v d' ∧ R d' e' := by
  induction p generalizing t d e with
  | pure b =>
      obtain ⟨rfl, rfl⟩ := run_pure_iff.mp hrun
      rw [serves_nil_iff.mp hserves]
      exact ⟨[], d, .pure a, .nil d, hR⟩
  | ask i k ih =>
      obtain ⟨hi, hk⟩ := avoids_ask_iff.mp hp
      obtain ⟨u, r, v, rfl, hu, hv⟩ := run_interpret_ask_iff.mp hrun
      obtain ⟨e₁, he₁, he'⟩ := serves_append_iff.mp hserves
      obtain ⟨d₁, hserve, hR₁⟩ := hsim d e i u r e₁ hR hi hu he₁
      obtain ⟨w, d', hw, hd', hR'⟩ := ih r (hk r) hv he' hR₁
      exact ⟨⟨i, r⟩ :: w, d', .ask hw, .cons hserve hd', hR'⟩

end Simulation

end Interaction
