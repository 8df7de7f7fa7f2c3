import DarwinGpib.Library.Program

/-!
# The order of exchanges

What comes after what in a trace, and the last exchange of a kind.
-/

namespace Interaction

variable {ι : Type} {ρ : ι → Type} {P Q : Exchange ρ → Prop} {R : Trace ρ → Prop}
  {e x : Exchange ρ} {t u v w : Trace ρ}

/-! ## Before and after -/

/-- What comes after an exchange with `P` satisfies `R`. -/
def After (P : Exchange ρ → Prop) (R : Trace ρ → Prop) (t : Trace ρ) : Prop :=
  ∀ u e v, t = u ++ e :: v → P e → R v

/-- After each exchange with `P` comes one with `Q`. -/
abbrev FollowedBy (P Q : Exchange ρ → Prop) (t : Trace ρ) : Prop :=
  After P (fun v => ∃ x ∈ v, Q x) t

/-- Right before each exchange with `P` comes one with `Q`. -/
def PrecededBy (P Q : Exchange ρ → Prop) (t : Trace ρ) : Prop :=
  ∀ u e v, t = u ++ e :: v → P e → ∃ u' x, u = u' ++ [x] ∧ Q x

@[simp] theorem after_nil : After P R ([] : Trace ρ) := by
  intro u e v h
  simp at h

@[simp] theorem after_cons_iff : After P R (e :: t) ↔ (P e → R t) ∧ After P R t := by
  constructor
  · intro h
    refine ⟨h [] e t rfl, fun u x v ht => h (e :: u) x v ?_⟩
    rw [ht, List.cons_append]
  · rintro ⟨he, ht⟩ u x v h
    cases u with
    | nil =>
        obtain ⟨rfl, rfl⟩ := List.cons.inj h
        exact he
    | cons y u =>
        obtain ⟨rfl, rfl⟩ := List.cons.inj h
        exact ht u x v rfl

theorem after_of_forall_not (h : ∀ x ∈ t, ¬ P x) : After P R t := by
  rintro u e v rfl he
  exact absurd he (h e (by simp))

/-- What comes before the first exchange with `P` does not matter. -/
theorem after_append_of_forall_not (h : ∀ x ∈ u, ¬ P x) (hv : After P R v) :
    After P R (u ++ v) := by
  induction u with
  | nil => exact hv
  | cons x u ih =>
      obtain ⟨hx, hu⟩ := List.forall_mem_cons.mp h
      exact after_cons_iff.mpr ⟨fun hP => absurd hP hx, ih hu⟩

/-- A last word that needs no other. -/
theorem followedBy_append_singleton (hx : Q x) (hlast : ¬ P x) : FollowedBy P Q (t ++ [x]) := by
  intro u e v h he
  rcases List.eq_nil_or_concat v with rfl | ⟨v, z, rfl⟩
  · obtain ⟨-, heq⟩ := List.append_inj' h rfl
    cases heq
    exact absurd he hlast
  · have hsplit : t ++ [x] = (u ++ e :: v) ++ [z] := by simpa using h
    obtain ⟨-, heq⟩ := List.append_inj' hsplit rfl
    cases heq
    exact ⟨x, by simp, hx⟩

/-- An exchange of a trace whose last one is the only one with `P`. -/
theorem split_of_append_singleton (hu : ∀ y ∈ u, ¬ P y) (h : u ++ [e] = v ++ x :: w)
    (hx : P x) : v = u ∧ x = e ∧ w = [] := by
  rcases List.eq_nil_or_concat w with rfl | ⟨w, z, rfl⟩
  · obtain ⟨rfl, heq⟩ := List.append_inj' h rfl
    exact ⟨rfl, (List.cons.inj heq).1.symm, rfl⟩
  · have hsplit : u ++ [e] = (v ++ x :: w) ++ [z] := by simpa using h
    obtain ⟨rfl, -⟩ := List.append_inj' hsplit rfl
    exact absurd hx (hu x (by simp))

theorem precededBy_of_forall_not (h : ∀ y ∈ t, ¬ P y) : PrecededBy P Q t := by
  rintro u e v rfl he
  exact absurd he (h e (by simp))

theorem precededBy_append_singleton (hu : ∀ y ∈ u ++ [x], ¬ P y) (hx : Q x) :
    PrecededBy P Q (u ++ [x] ++ [e]) := by
  intro v y w h hy
  obtain ⟨rfl, -, -⟩ := split_of_append_singleton hu h hy
  exact ⟨u, x, rfl, hx⟩

/-! ## The last exchange of a kind -/

/-- The last exchange of a trace that asks a wanted request. -/
def lastAsking (wanted : ι → Bool) (t : Trace ρ) : Option (Exchange ρ) :=
  (t.filter (wanted ·.request)).getLast?

section LastAsking

variable {wanted : ι → Bool}

@[simp] theorem lastAsking_nil : lastAsking wanted ([] : Trace ρ) = none := rfl

theorem lastAsking_append_singleton (h : wanted e.request = true) :
    lastAsking wanted (t ++ [e]) = some e := by
  simp [lastAsking, h]

theorem lastAsking_singleton (h : wanted e.request = true) : lastAsking wanted [e] = some e :=
  lastAsking_append_singleton (t := []) h

/-- What is not wanted can be left out at the end. -/
theorem lastAsking_append_of_unwanted (h : ∀ x ∈ v, wanted x.request = false) :
    lastAsking wanted (u ++ v) = lastAsking wanted u := by
  have hv : v.filter (wanted ·.request) = [] := by
    rw [List.filter_eq_nil_iff]
    intro x hx
    simp [h x hx]
  rw [lastAsking, lastAsking, List.filter_append, hv, List.append_nil]

end LastAsking

end Interaction
