import DarwinGpib.Library.Program

/-!
# Programs with a state, and servers with a state

Runs of `StateT σ (Program ρ)`, and triples over the state of the program and the state of
whoever replies to it. `serve d e d'` states that the server in state `d` may take part in the
exchange `e` and is in state `d'` then.
-/

namespace Interaction

variable {ι : Type} {ρ : ι → Type} {σ α β : Type}

/-! ## Runs -/

@[simp] theorem run_stateT_pure_iff {a : α} {s : σ} {u : Trace ρ} {r : α × σ} :
    Run ((pure a : StateT σ (Program ρ) α).run s) u r ↔ u = [] ∧ r = (a, s) :=
  run_pure_iff

/-- A run of a sequence splits where its first part returns. -/
theorem run_stateT_bind_iff {x : StateT σ (Program ρ) α} {f : α → StateT σ (Program ρ) β}
    {s : σ} {u : Trace ρ} {r : β × σ} :
    Run ((x >>= f).run s) u r ↔
      ∃ v a s' w, u = v ++ w ∧ Run (x.run s) v (a, s') ∧ Run ((f a).run s') w r := by
  rw [StateT.run_bind, run_bind_iff]
  constructor
  · rintro ⟨v, ⟨a, s'⟩, w, rfl, hv, hw⟩
    exact ⟨v, a, s', w, rfl, hv, hw⟩
  · rintro ⟨v, a, s', w, rfl, hv, hw⟩
    exact ⟨v, (a, s'), w, rfl, hv, hw⟩

/-- A program of which only the result is changed. -/
theorem run_stateT_bind_pure_iff {x : StateT σ (Program ρ) α} {f : α → β} {s s' : σ}
    {u : Trace ρ} {b : β} :
    Run ((x >>= fun a => pure (f a)).run s) u (b, s') ↔ ∃ a, Run (x.run s) u (a, s') ∧ f a = b := by
  rw [run_stateT_bind_iff]
  constructor
  · rintro ⟨v, a, s₁, w, rfl, hv, hw⟩
    obtain ⟨rfl, heq⟩ := run_stateT_pure_iff.mp hw
    cases heq
    exact ⟨a, by simpa using hv, rfl⟩
  · rintro ⟨a, hrun, rfl⟩
    exact ⟨u, a, s', [], by simp, hrun, run_stateT_pure_iff.mpr ⟨rfl, rfl⟩⟩

theorem run_stateT_ite_iff {c : Prop} [Decidable c] {x y : StateT σ (Program ρ) α} {s : σ}
    {u : Trace ρ} {r : α × σ} :
    Run ((if c then x else y).run s) u r ↔ (c ∧ Run (x.run s) u r) ∨ (¬ c ∧ Run (y.run s) u r) := by
  split
  · simp [*]
  · simp [*]

theorem run_stateT_guard_iff {c : Prop} [Decidable c] {a : α} {x : StateT σ (Program ρ) α}
    {s : σ} {u : Trace ρ} {r : α × σ} :
    Run ((if c then pure a else x).run s) u r ↔
      (c ∧ u = [] ∧ r = (a, s)) ∨ (¬ c ∧ Run (x.run s) u r) := by
  rw [run_stateT_ite_iff, run_stateT_pure_iff]

@[simp] theorem run_get_iff {s : σ} {u : Trace ρ} {r : σ × σ} :
    Run ((get : StateT σ (Program ρ) σ).run s) u r ↔ u = [] ∧ r = (s, s) :=
  run_pure_iff

@[simp] theorem run_modify_iff {f : σ → σ} {s : σ} {u : Trace ρ} {r : PUnit × σ} :
    Run ((modify f : StateT σ (Program ρ) PUnit).run s) u r ↔ u = [] ∧ r = (⟨⟩, f s) :=
  run_pure_iff

/-- Asking one request leaves the state alone. -/
theorem run_lift_call_iff {i : ι} {s : σ} {u : Trace ρ} {r : ρ i × σ} :
    Run ((StateT.lift (Program.call i) : StateT σ (Program ρ) (ρ i)).run s) u r ↔
      u = [⟨i, r.1⟩] ∧ r.2 = s := by
  rw [StateT.run_lift, run_bind_iff]
  constructor
  · rintro ⟨v, a, w, rfl, hv, hw⟩
    obtain ⟨rfl, rfl⟩ := run_pure_iff.mp hw
    rw [run_call_iff.mp hv]
    exact ⟨rfl, rfl⟩
  · obtain ⟨a, s'⟩ := r
    rintro ⟨rfl, rfl⟩
    exact ⟨_, a, [], rfl, run_call_iff.mpr rfl, .pure _⟩

/-! ## Guarantees -/

/-- From every state, the program asks no bad request and returns only results satisfying
`Q`. -/
def StateEnsures (bad : ι → Prop) (x : StateT σ (Program ρ) α) (Q : α → Prop) : Prop :=
  ∀ s, Ensures bad (x.run s) fun r => Q r.1

section StateEnsures

variable {bad : ι → Prop}

theorem stateEnsures_pure {a : α} {Q : α → Prop} (h : Q a) :
    StateEnsures bad (pure a : StateT σ (Program ρ) α) Q :=
  fun _ => ensures_pure h

theorem stateEnsures_bind {x : StateT σ (Program ρ) α} {f : α → StateT σ (Program ρ) β}
    {P : α → Prop} {Q : β → Prop} (hx : StateEnsures bad x P)
    (hf : ∀ a, P a → StateEnsures bad (f a) Q) : StateEnsures bad (x >>= f) Q := by
  intro s
  rw [StateT.run_bind]
  exact ensures_bind (hx s) fun r hr => hf r.1 hr r.2

theorem stateEnsures_ite {c : Prop} [Decidable c] {x y : StateT σ (Program ρ) α}
    {Q : α → Prop} (hx : c → StateEnsures bad x Q) (hy : ¬ c → StateEnsures bad y Q) :
    StateEnsures bad (if c then x else y) Q := by
  split
  · exact hx ‹c›
  · exact hy ‹¬ c›

theorem stateEnsures_get : StateEnsures bad (get : StateT σ (Program ρ) σ) fun _ => True :=
  fun _ => ensures_pure trivial

theorem stateEnsures_modify (f : σ → σ) :
    StateEnsures bad (modify f : StateT σ (Program ρ) PUnit) fun _ => True :=
  fun _ => ensures_pure trivial

theorem stateEnsures_call {i : ι} (h : ¬ bad i) :
    StateEnsures bad (StateT.lift (Program.call i) : StateT σ (Program ρ) (ρ i))
      fun _ => True :=
  fun _ => ensures_call_bind h fun _ => ensures_pure trivial

theorem StateEnsures.mono {x : StateT σ (Program ρ) α} {Q Q' : α → Prop}
    (h : StateEnsures bad x Q) (hQQ' : ∀ a, Q a → Q' a) : StateEnsures bad x Q' :=
  fun s => (h s).mono fun r hr => hQQ' r.1 hr

/-- What avoids more requests avoids these. -/
theorem StateEnsures.of_bad {bad' : ι → Prop} {x : StateT σ (Program ρ) α} {Q : α → Prop}
    (h : StateEnsures bad x Q) (hbad : ∀ i, bad' i → bad i) : StateEnsures bad' x Q :=
  fun s => ⟨fun u i hi hi' => (h s).avoids u i hi (hbad i hi'), (h s).returns⟩

theorem StateEnsures.of_run {x : StateT σ (Program ρ) α} {Q : α → Prop}
    (h : StateEnsures bad x Q) {s s' : σ} {u : Trace ρ} {a : α}
    (hrun : Run (x.run s) u (a, s')) : (∀ e ∈ u, ¬ bad e.request) ∧ Q a :=
  (h s).leaves u (a, s') hrun

end StateEnsures

/-! ## Servers -/

variable {δ : Type} {serve : δ → Exchange ρ → δ → Prop}

/-- The server takes part in a whole trace. -/
inductive Serves (serve : δ → Exchange ρ → δ → Prop) : δ → Trace ρ → δ → Prop where
  | nil (d) : Serves serve d [] d
  | cons {d e d' u d''} : serve d e d' → Serves serve d' u d'' → Serves serve d (e :: u) d''

theorem serves_nil_iff {d d' : δ} : Serves serve d [] d' ↔ d' = d := by
  constructor
  · intro h
    cases h
    rfl
  · rintro rfl
    exact .nil d'

theorem serves_cons_iff {d d'' : δ} {e : Exchange ρ} {u : Trace ρ} :
    Serves serve d (e :: u) d'' ↔ ∃ d', serve d e d' ∧ Serves serve d' u d'' := by
  constructor
  · intro h
    cases h with
    | cons h h' => exact ⟨_, h, h'⟩
  · rintro ⟨d', h, h'⟩
    exact .cons h h'

theorem serves_singleton_iff {d d' : δ} {e : Exchange ρ} :
    Serves serve d [e] d' ↔ serve d e d' := by
  simp [serves_cons_iff, serves_nil_iff]

theorem serves_append_iff {d d'' : δ} {u v : Trace ρ} :
    Serves serve d (u ++ v) d'' ↔ ∃ d', Serves serve d u d' ∧ Serves serve d' v d'' := by
  induction u generalizing d with
  | nil =>
      simp [serves_nil_iff]
  | cons e u ih =>
      simp only [List.cons_append, serves_cons_iff, ih]
      constructor
      · rintro ⟨d₁, h, d₂, h₁, h₂⟩
        exact ⟨d₂, ⟨d₁, h, h₁⟩, h₂⟩
      · rintro ⟨d₂, ⟨d₁, h, h₁⟩, h₂⟩
        exact ⟨d₁, h, d₂, h₁, h₂⟩

theorem Serves.mono {serve' : δ → Exchange ρ → δ → Prop}
    (hstep : ∀ d e d', serve d e d' → serve' d e d') {d d' : δ} {u : Trace ρ}
    (h : Serves serve d u d') : Serves serve' d u d' := by
  induction h with
  | nil d => exact .nil d
  | cons h _ ih => exact .cons (hstep _ _ _ h) ih

/-- What every exchange of the server keeps, a trace keeps. -/
theorem Serves.invariant {I : δ → Prop} (hstep : ∀ d e d', I d → serve d e d' → I d')
    {d d' : δ} {u : Trace ρ} (h : Serves serve d u d') (hI : I d) : I d' := by
  induction h with
  | nil d => exact hI
  | cons h _ ih => exact ih (hstep _ _ _ hI h)

/-- A server without a state takes part in what it accepts. -/
theorem serves_of_forall {accepts : Exchange ρ → Prop} {u : Trace ρ} (h : ∀ e ∈ u, accepts e) :
    Serves (fun (_ : Unit) e _ => accepts e) () u () := by
  induction u with
  | nil => exact .nil ()
  | cons e u ih =>
      obtain ⟨he, hu⟩ := List.forall_mem_cons.mp h
      exact .cons he (ih hu)

/-! ## Triples -/

/-- From program and server states satisfying `P`, every complete run that is served ends in
states that satisfy `Q` together with the result. -/
def Triple (serve : δ → Exchange ρ → δ → Prop) (P : σ → δ → Prop)
    (x : StateT σ (Program ρ) α) (Q : α → σ → δ → Prop) : Prop :=
  ∀ s d u a s' d', P s d → Run (x.run s) u (a, s') → Serves serve d u d' → Q a s' d'

variable {P P' : σ → δ → Prop} {Q Q' : α → σ → δ → Prop} {R : β → σ → δ → Prop}

theorem triple_pure {a : α} (h : ∀ s d, P s d → Q a s d) :
    Triple serve P (pure a : StateT σ (Program ρ) α) Q := by
  intro s d u b s' d' hP hrun hserves
  obtain ⟨rfl, heq⟩ := run_stateT_pure_iff.mp hrun
  cases heq
  rw [serves_nil_iff.mp hserves]
  exact h s d hP

theorem triple_bind {x : StateT σ (Program ρ) α} {f : α → StateT σ (Program ρ) β}
    (hx : Triple serve P x Q) (hf : ∀ a, Triple serve (Q a) (f a) R) :
    Triple serve P (x >>= f) R := by
  intro s d u b s' d' hP hrun hserves
  obtain ⟨v, a, s₁, w, rfl, hv, hw⟩ := run_stateT_bind_iff.mp hrun
  obtain ⟨d₁, hd₁, hd'⟩ := serves_append_iff.mp hserves
  exact hf a s₁ d₁ w b s' d' (hx s d v a s₁ d₁ hP hv hd₁) hw hd'

theorem triple_get {Q : σ → σ → δ → Prop} (h : ∀ s d, P s d → Q s s d) :
    Triple serve P (get : StateT σ (Program ρ) σ) Q := by
  intro s d u b s' d' hP hrun hserves
  obtain ⟨rfl, heq⟩ := run_get_iff.mp hrun
  cases heq
  rw [serves_nil_iff.mp hserves]
  exact h s d hP

theorem triple_modify {f : σ → σ} {Q : PUnit → σ → δ → Prop}
    (h : ∀ s d, P s d → Q ⟨⟩ (f s) d) :
    Triple serve P (modify f : StateT σ (Program ρ) PUnit) Q := by
  intro s d u b s' d' hP hrun hserves
  obtain ⟨rfl, heq⟩ := run_modify_iff.mp hrun
  cases heq
  rw [serves_nil_iff.mp hserves]
  exact h s d hP

theorem triple_lift_call {i : ι} {Q : ρ i → σ → δ → Prop}
    (h : ∀ s d r d', P s d → serve d ⟨i, r⟩ d' → Q r s d') :
    Triple serve P (StateT.lift (Program.call i) : StateT σ (Program ρ) (ρ i)) Q := by
  intro s d u r s' d' hP hrun hserves
  obtain ⟨rfl, rfl⟩ := run_lift_call_iff.mp hrun
  exact h _ d r d' hP (serves_singleton_iff.mp hserves)

theorem triple_ite {c : Prop} [Decidable c] {x y : StateT σ (Program ρ) α}
    (hx : c → Triple serve P x Q) (hy : ¬ c → Triple serve P y Q) :
    Triple serve P (if c then x else y) Q := by
  split
  · exact hx ‹c›
  · exact hy ‹¬ c›

theorem Triple.conseq {x : StateT σ (Program ρ) α} (h : Triple serve P x Q)
    (hP : ∀ s d, P' s d → P s d) (hQ : ∀ a s d, Q a s d → Q' a s d) :
    Triple serve P' x Q' :=
  fun s d u a s' d' hs hrun hserves => hQ a s' d' (h s d u a s' d' (hP s d hs) hrun hserves)

theorem Triple.and {x : StateT σ (Program ρ) α} (h : Triple serve P x Q)
    (h' : Triple serve P' x Q') :
    Triple serve (fun s d => P s d ∧ P' s d) x fun a s d => Q a s d ∧ Q' a s d :=
  fun s d u a s' d' hs hrun hserves =>
    ⟨h s d u a s' d' hs.1 hrun hserves, h' s d u a s' d' hs.2 hrun hserves⟩

theorem triple_trivial (x : StateT σ (Program ρ) α) :
    Triple serve P x fun _ _ _ => True :=
  fun _ _ _ _ _ _ _ _ _ => trivial

/-- What does not depend on the states can be taken out of a precondition. -/
theorem triple_of_pre {p : Prop} {x : StateT σ (Program ρ) α}
    (h : p → Triple serve P x Q) : Triple serve (fun s d => p ∧ P s d) x Q :=
  fun s d u a s' d' hs => h hs.1 s d u a s' d' hs.2

/-! ## Programs in turn -/

/-- Programs one after the other, each served to its end. -/
inductive Succession (serve : δ → Exchange ρ → δ → Prop) :
    σ → δ → List ((α : Type) × StateT σ (Program ρ) α) → σ → δ → Prop where
  | nil {s d} : Succession serve s d [] s d
  | cons {s d x u a s' d' xs s'' d''} (hrun : Run (x.2.run s) u (a, s'))
      (hserves : Serves serve d u d') (hrest : Succession serve s' d' xs s'' d'') :
      Succession serve s d (x :: xs) s'' d''

/-- What every program keeps, all of them keep. -/
theorem Succession.invariant {xs : List ((α : Type) × StateT σ (Program ρ) α)}
    (hkeeps : ∀ x ∈ xs, Triple serve P x.2 fun _ => P) {s s' : σ} {d d' : δ}
    (h : Succession serve s d xs s' d') (hP : P s d) : P s' d' := by
  induction h with
  | nil => exact hP
  | cons hrun hserves _ ih =>
      obtain ⟨hx, hxs⟩ := List.forall_mem_cons.mp hkeeps
      exact ih hxs (hx _ _ _ _ _ _ hP hrun hserves)

end Interaction
