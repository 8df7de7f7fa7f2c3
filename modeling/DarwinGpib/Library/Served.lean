import DarwinGpib.Library.Stateful

/-!
# Programs and the server they talk to

`Meets` is a triple over the state of a server, for programs without a state of their own. A
logging server also remembers every request with the state in which it met it.
-/

namespace Interaction

variable {ι : Type} {ρ : ι → Type} {α β δ : Type}

/-! ## Triples -/

/-- From a server state satisfying `P`, every complete run that is served ends in one that
satisfies `Q` together with the result. -/
def Meets (serve : δ → Exchange ρ → δ → Prop) (P : δ → Prop) (p : Program ρ α)
    (Q : α → δ → Prop) : Prop :=
  ∀ d u a d', P d → Run p u a → Serves serve d u d' → Q a d'

section Rules

variable {serve : δ → Exchange ρ → δ → Prop} {P P' : δ → Prop} {Q Q' : α → δ → Prop}
  {R : β → δ → Prop}

theorem meets_pure {a : α} (h : ∀ d, P d → Q a d) : Meets serve P (pure a) Q := by
  intro d u b d' hP hrun hserves
  obtain ⟨rfl, rfl⟩ := run_pure_iff.mp hrun
  rw [serves_nil_iff.mp hserves]
  exact h d hP

theorem meets_bind {p : Program ρ α} {f : α → Program ρ β} (hp : Meets serve P p Q)
    (hf : ∀ a, Meets serve (Q a) (f a) R) : Meets serve P (p >>= f) R := by
  intro d u b d' hP hrun hserves
  obtain ⟨v, a, w, rfl, hv, hw⟩ := run_bind_iff.mp hrun
  obtain ⟨d₁, hd₁, hd'⟩ := serves_append_iff.mp hserves
  exact hf a d₁ w b d' (hp d v a d₁ hP hv hd₁) hw hd'

theorem meets_call {i : ι} {Q : ρ i → δ → Prop}
    (h : ∀ d r d', P d → serve d ⟨i, r⟩ d' → Q r d') :
    Meets serve P (Program.call i : Program ρ (ρ i)) Q := by
  intro d u r d' hP hrun hserves
  rw [run_call_iff.mp hrun] at hserves
  obtain ⟨d₁, hserve, hnil⟩ := serves_cons_iff.mp hserves
  rw [serves_nil_iff.mp hnil]
  exact h d r d₁ hP hserve

theorem meets_ite {c : Prop} [Decidable c] {p q : Program ρ α} (hp : c → Meets serve P p Q)
    (hq : ¬ c → Meets serve P q Q) : Meets serve P (if c then p else q) Q := by
  split
  · exact hp ‹c›
  · exact hq ‹¬ c›

theorem Meets.conseq {p : Program ρ α} (h : Meets serve P p Q) (hP : ∀ d, P' d → P d)
    (hQ : ∀ a d, Q a d → Q' a d) : Meets serve P' p Q' :=
  fun d u a d' hd hrun hserves => hQ a d' (h d u a d' (hP d hd) hrun hserves)

end Rules

/-! ## Logging servers -/

/-- The requests met so far, latest first, each with the state it was met in. -/
abbrev Log (δ ι : Type) := List (δ × ι)

/-- The server `serve` with its log. -/
def Logging (serve : δ → Exchange ρ → δ → Prop) (x : δ × Log δ ι) (e : Exchange ρ)
    (y : δ × Log δ ι) : Prop :=
  serve x.1 e y.1 ∧ y.2 = (x.1, e.request) :: x.2

section Logging

variable {serve : δ → Exchange ρ → δ → Prop} {phase : δ → ι → Prop} {P : δ → Prop}

/-- Every request so far was met in a state that suits it, and the present state satisfies
`P`. -/
def Suits (phase : δ → ι → Prop) (P : δ → Prop) (x : δ × Log δ ι) : Prop :=
  P x.1 ∧ ∀ e ∈ x.2, phase e.1 e.2

theorem Suits.mono {P' : δ → Prop} {x : δ × Log δ ι} (h : Suits phase P x)
    (hP : ∀ d, P d → P' d) : Suits phase P' x :=
  ⟨hP _ h.1, h.2⟩

/-- A request that suits every state satisfying `P`. -/
theorem meets_logged_call {i : ι} {Q : ρ i → δ → Prop} (hphase : ∀ d, P d → phase d i)
    (h : ∀ d r d', P d → serve d ⟨i, r⟩ d' → Q r d') :
    Meets (Logging serve) (Suits phase P) (Program.call i : Program ρ (ρ i))
      fun r => Suits phase (Q r) := by
  apply meets_call
  rintro ⟨d, log⟩ r ⟨d', log'⟩ ⟨hP, hlog⟩ ⟨hserve, rfl⟩
  refine ⟨h d r d' hP hserve, ?_⟩
  intro e he
  rcases List.mem_cons.mp he with rfl | he
  · exact hphase d hP
  · exact hlog e he

/-- What is in the log already has no part in a run. -/
theorem serves_logging_append {s s' : δ} {l L L' : Log δ ι} {u : Trace ρ}
    (h : Serves (Logging serve) (s, l ++ L) u (s', L')) :
    ∃ l', L' = l' ++ L ∧ Serves (Logging serve) (s, l) u (s', l') := by
  induction u generalizing s l with
  | nil =>
      cases serves_nil_iff.mp h
      exact ⟨l, rfl, .nil _⟩
  | cons e u ih =>
      obtain ⟨⟨s₁, L₁⟩, ⟨hserve, hlog⟩, h⟩ := serves_cons_iff.mp h
      obtain rfl : L₁ = ((s, e.request) :: l) ++ L := hlog
      obtain ⟨l', rfl, hrest⟩ := ih h
      exact ⟨l', rfl, serves_cons_iff.mpr ⟨(s₁, (s, e.request) :: l), ⟨hserve, rfl⟩, hrest⟩⟩

end Logging

end Interaction
