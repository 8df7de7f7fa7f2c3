import DarwinGpib.Library.Stateful

/-!
# Programs that overwrite a part of their state

`alter s t` is the state `s` with one part of it replaced by `t`. `Overwrites alter x V`: runs of
`x` do not depend on that part, and a result satisfying `V` comes with a state in which it has
been written anew.
-/

namespace Interaction

variable {ι : Type} {ρ : ι → Type} {σ τ α β : Type} {alter : σ → τ → σ}

def Overwrites (alter : σ → τ → σ) (x : StateT σ (Program ρ) α) (V : α → Prop) : Prop :=
  ∀ s t u a s', Run (x.run s) u (a, s') →
    ∃ s'', Run (x.run (alter s t)) u (a, s'') ∧ (s'' = s' ∨ ¬ V a ∧ s'' = alter s' t)

variable {x y : StateT σ (Program ρ) α} {V W : α → Prop}

/-- What was there before leaves no trace. -/
theorem Overwrites.run (h : Overwrites alter x V) {s s' : σ} {u : Trace ρ} {a : α}
    (hrun : Run (x.run s) u (a, s')) (ha : V a) (t : τ) : Run (x.run (alter s t)) u (a, s') := by
  obtain ⟨s'', hrun', rfl | ⟨hnot, -⟩⟩ := h s t u a s' hrun
  · exact hrun'
  · exact absurd ha hnot

theorem Overwrites.mono (h : Overwrites alter x W) (hVW : ∀ a, V a → W a) :
    Overwrites alter x V := by
  intro s t u a s' hrun
  obtain ⟨s'', hrun', hs''⟩ := h s t u a s' hrun
  exact ⟨s'', hrun', hs''.imp_right (And.imp_left fun hW hV => hW (hVW a hV))⟩

theorem overwrites_pure {a : α} (h : ¬ V a) :
    Overwrites alter (pure a : StateT σ (Program ρ) α) V := by
  intro s t u b s' hrun
  obtain ⟨rfl, heq⟩ := run_stateT_pure_iff.mp hrun
  cases heq
  exact ⟨alter s t, run_stateT_pure_iff.mpr ⟨rfl, rfl⟩, .inr ⟨h, rfl⟩⟩

/-- The second part only has to overwrite where the first has not. -/
theorem overwrites_bind {f : α → StateT σ (Program ρ) β} {U : β → Prop}
    (hx : Overwrites alter x V) (hf : ∀ a, ¬ V a → Overwrites alter (f a) U) :
    Overwrites alter (x >>= f) U := by
  intro s t u b s' hrun
  obtain ⟨v, a, s₁, w, rfl, hv, hw⟩ := run_stateT_bind_iff.mp hrun
  obtain ⟨s₂, hv', rfl | ⟨ha, rfl⟩⟩ := hx s t v a s₁ hv
  · exact ⟨s', run_stateT_bind_iff.mpr ⟨v, a, s₂, w, rfl, hv', hw⟩, .inl rfl⟩
  · obtain ⟨s'', hw', hs''⟩ := hf a ha s₁ t w b s' hw
    exact ⟨s'', run_stateT_bind_iff.mpr ⟨v, a, _, w, rfl, hv', hw'⟩, hs''⟩

/-- A state that is read for another part of it. -/
theorem overwrites_get_bind {f : σ → StateT σ (Program ρ) β} {U : β → Prop}
    (hother : ∀ s t, f (alter s t) = f s) (hf : ∀ s, Overwrites alter (f s) U) :
    Overwrites alter (get >>= f) U := by
  intro s t u b s' hrun
  obtain ⟨v, a, s₁, w, rfl, hv, hw⟩ := run_stateT_bind_iff.mp hrun
  obtain ⟨rfl, heq⟩ := run_get_iff.mp hv
  cases heq
  obtain ⟨s'', hw', hs''⟩ := hf s s t w b s' hw
  refine ⟨s'', run_stateT_bind_iff.mpr ⟨[], _, _, w, rfl, run_get_iff.mpr ⟨rfl, rfl⟩, ?_⟩, hs''⟩
  rwa [hother]

/-- The part is written. -/
theorem overwrites_modify {g : σ → σ} (h : ∀ s t, g (alter s t) = g s) (P : PUnit → Prop) :
    Overwrites alter (modify g : StateT σ (Program ρ) PUnit) P := by
  intro s t u a s' hrun
  obtain ⟨rfl, heq⟩ := run_modify_iff.mp hrun
  cases heq
  exact ⟨g s, run_modify_iff.mpr ⟨rfl, by rw [h]⟩, .inl rfl⟩

/-- Another part is changed. -/
theorem overwrites_modify_other {g : σ → σ} (h : ∀ s t, g (alter s t) = alter (g s) t) :
    Overwrites alter (modify g : StateT σ (Program ρ) PUnit) fun _ => False := by
  intro s t u a s' hrun
  obtain ⟨rfl, heq⟩ := run_modify_iff.mp hrun
  cases heq
  exact ⟨alter (g s) t, run_modify_iff.mpr ⟨rfl, by rw [h]⟩, .inr ⟨id, rfl⟩⟩

theorem overwrites_call (i : ι) :
    Overwrites alter (StateT.lift (Program.call i) : StateT σ (Program ρ) (ρ i))
      fun _ => False := by
  intro s t u a s' hrun
  obtain ⟨hu, rfl⟩ := run_lift_call_iff.mp hrun
  exact ⟨alter s' t, run_lift_call_iff.mpr ⟨hu, rfl⟩, .inr ⟨id, rfl⟩⟩

theorem overwrites_ite {c : Prop} [Decidable c] (hx : c → Overwrites alter x V)
    (hy : ¬ c → Overwrites alter y V) : Overwrites alter (if c then x else y) V := by
  split
  · exact hx ‹c›
  · exact hy ‹¬ c›

end Interaction
