import DarwinGpib.Library.Stateful

/-!
# Programs behind a past

`Follows past p R`: whenever `p` runs behind the exchanges `past`, the whole trace and the result
are related by `R`. What a loop has found out so far can be read off its past. For programs with
a state, `Recording` is a server whose state is the past.
-/

namespace Interaction

variable {ι : Type} {ρ : ι → Type} {α β : Type}

def Follows (past : Trace ρ) (p : Program ρ α) (R : Trace ρ → α → Prop) : Prop :=
  ∀ u a, Run p u a → R (past ++ u) a

variable {past : Trace ρ} {p q : Program ρ α} {R R' : Trace ρ → α → Prop}
  {S : Trace ρ → β → Prop}

theorem follows_pure {a : α} (h : R past a) : Follows past (pure a) R := by
  intro u b hrun
  obtain ⟨rfl, rfl⟩ := run_pure_iff.mp hrun
  rwa [List.append_nil]

/-- The second part of a sequence has what the first part did in its past. -/
theorem follows_bind {f : α → Program ρ β} (hp : Follows past p R)
    (hf : ∀ w a, R w a → Follows w (f a) S) : Follows past (p >>= f) S := by
  intro u b hrun
  obtain ⟨v, a, w, rfl, hv, hw⟩ := run_bind_iff.mp hrun
  rw [← List.append_assoc]
  exact hf _ _ (hp v a hv) w b hw

theorem follows_call_bind {i : ι} {f : ρ i → Program ρ β}
    (hf : ∀ r, Follows (past ++ [⟨i, r⟩]) (f r) S) :
    Follows past (Program.call i >>= f) S := by
  intro u b hrun
  obtain ⟨r, v, rfl, hv⟩ := run_call_bind_iff.mp hrun
  have h := hf r v b hv
  rwa [List.append_assoc, List.singleton_append] at h

theorem follows_ite {c : Prop} [Decidable c] (hp : c → Follows past p R)
    (hq : ¬ c → Follows past q R) : Follows past (if c then p else q) R := by
  split
  · exact hp ‹c›
  · exact hq ‹¬ c›

/-- What has happened stays in the past. -/
theorem Follows.keeping (h : Follows past p R) :
    Follows past p fun w a => past ⊆ w ∧ R w a :=
  fun u a hrun => ⟨List.subset_append_left past u, h u a hrun⟩

theorem Follows.mono (h : Follows past p R) (hRR' : ∀ w a, R w a → R' w a) :
    Follows past p R' :=
  fun u a hrun => hRR' _ a (h u a hrun)

/-! ## Programs with a state -/

/-- Whoever replies writes the exchange down. -/
def Recording (past : Trace ρ) (e : Exchange ρ) (past' : Trace ρ) : Prop :=
  past' = past ++ [e]

theorem serves_recording (past u : Trace ρ) : Serves Recording past u (past ++ u) := by
  induction u generalizing past with
  | nil => simpa using Serves.nil past
  | cons e u ih => simpa using Serves.cons (show Recording past e (past ++ [e]) from rfl) (ih _)

theorem serves_recording_iff {past past' u : Trace ρ} :
    Serves Recording past u past' ↔ past' = past ++ u := by
  constructor
  · intro h
    induction h with
    | nil past => simp
    | cons hstep h ih =>
        obtain rfl := hstep
        simp [ih]
  · rintro rfl
    exact serves_recording past u

/-- A triple about the past, as a statement about runs without one. -/
theorem Triple.of_recording {σ : Type} {x : StateT σ (Program ρ) α}
    {P : σ → Trace ρ → Prop} {Q : α → σ → Trace ρ → Prop} (h : Triple Recording P x Q) {s s' : σ}
    {u : Trace ρ} {a : α} (hs : P s []) (hrun : Run (x.run s) u (a, s')) : Q a s' u :=
  h s [] u a s' u hs hrun (serves_recording [] u)

end Interaction
