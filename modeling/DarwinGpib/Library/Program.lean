import Mathlib.Data.List.Basic
import Mathlib.Data.Sigma.Basic

/-!
# Programs that exchange requests for replies

A program over an interface `ρ : ι → Type` asks requests `i : ι` and continues on a reply in
`ρ i`. Nothing is assumed about who replies: `Run p t a` holds of every finite trace `t` of
exchanges after which `p` returns `a`, and `Reaches p t i` of every trace after which `p` is
about to ask `i`. A request whose reply type is empty is a dead end.
-/

namespace Interaction

/-- A program either returns or asks one request and continues on its reply. -/
inductive Program {ι : Type} (ρ : ι → Type) (α : Type) : Type where
  | pure (a : α)
  | ask (i : ι) (k : ρ i → Program ρ α)

/-- One request together with the reply it got. -/
structure Exchange {ι : Type} (ρ : ι → Type) where
  request : ι
  reply : ρ request

/-- The exchanges of a program, oldest first. -/
abbrev Trace {ι : Type} (ρ : ι → Type) := List (Exchange ρ)

namespace Program

variable {ι : Type} {ρ : ι → Type} {α β : Type}

protected def bind : Program ρ α → (α → Program ρ β) → Program ρ β
  | pure a, f => f a
  | ask i k, f => ask i fun r => (k r).bind f

instance : Monad (Program ρ) where
  pure := Program.pure
  bind := Program.bind

protected theorem bind_pure (p : Program ρ α) : p.bind pure = p := by
  induction p with
  | pure a => rfl
  | ask i k ih => exact congrArg (ask i) (funext ih)

protected theorem bind_assoc {γ : Type} (p : Program ρ α) (f : α → Program ρ β)
    (g : β → Program ρ γ) : (p.bind f).bind g = p.bind fun a => (f a).bind g := by
  induction p with
  | pure a => rfl
  | ask i k ih => exact congrArg (ask i) (funext ih)

instance : LawfulMonad (Program ρ) :=
  LawfulMonad.mk' (Program ρ) Program.bind_pure (fun _ _ => rfl) Program.bind_assoc

/-- Ask one request and return its reply. -/
def call (i : ι) : Program ρ (ρ i) := ask i Program.pure

end Program

variable {ι : Type} {ρ : ι → Type} {α β : Type}

/-! ## Complete runs -/

/-- `Run p t a`: exchanging `t`, the program `p` returns `a`. -/
inductive Run : Program ρ α → Trace ρ → α → Prop where
  | pure (a) : Run (.pure a) [] a
  | ask {i k r t a} : Run (k r) t a → Run (.ask i k) (⟨i, r⟩ :: t) a

@[simp] theorem run_pure_iff {a b : α} {t : Trace ρ} :
    Run (pure a : Program ρ α) t b ↔ t = [] ∧ b = a := by
  constructor
  · intro h
    cases h
    exact ⟨rfl, rfl⟩
  · rintro ⟨rfl, rfl⟩
    exact .pure b

theorem run_ask_iff {i : ι} {k : ρ i → Program ρ α} {t : Trace ρ} {a : α} :
    Run (.ask i k) t a ↔ ∃ r u, t = ⟨i, r⟩ :: u ∧ Run (k r) u a := by
  constructor
  · intro h
    cases h with
    | ask h => exact ⟨_, _, rfl, h⟩
  · rintro ⟨r, u, rfl, h⟩
    exact .ask h

@[simp] theorem run_call_iff {i : ι} {t : Trace ρ} {r : ρ i} :
    Run (Program.call i) t r ↔ t = [⟨i, r⟩] := by
  rw [Program.call, run_ask_iff]
  constructor
  · rintro ⟨s, u, rfl, h⟩
    obtain ⟨rfl, rfl⟩ := run_pure_iff.mp h
    rfl
  · rintro rfl
    exact ⟨r, [], rfl, .pure r⟩

/-- A run of a sequence splits where its first part returns. -/
theorem run_bind_iff {p : Program ρ α} {f : α → Program ρ β} {t : Trace ρ} {b : β} :
    Run (p >>= f) t b ↔ ∃ u a v, t = u ++ v ∧ Run p u a ∧ Run (f a) v b := by
  induction p generalizing t with
  | pure a =>
      constructor
      · intro h
        exact ⟨[], a, t, rfl, .pure a, h⟩
      · rintro ⟨u, a', v, rfl, h, h'⟩
        obtain ⟨rfl, rfl⟩ := run_pure_iff.mp h
        exact h'
  | ask i k ih =>
      change Run (.ask i fun r => k r >>= f) t b ↔ _
      rw [run_ask_iff]
      constructor
      · rintro ⟨r, w, rfl, h⟩
        obtain ⟨u, a, v, rfl, h₁, h₂⟩ := (ih r).mp h
        exact ⟨⟨i, r⟩ :: u, a, v, rfl, .ask h₁, h₂⟩
      · rintro ⟨u, a, v, rfl, h₁, h₂⟩
        obtain ⟨r, w, rfl, hw⟩ := run_ask_iff.mp h₁
        exact ⟨r, w ++ v, rfl, (ih r).mpr ⟨w, a, v, rfl, hw, h₂⟩⟩

theorem Run.bind {p : Program ρ α} {f : α → Program ρ β} {u v : Trace ρ} {a : α} {b : β}
    (h : Run p u a) (h' : Run (f a) v b) : Run (p >>= f) (u ++ v) b :=
  run_bind_iff.mpr ⟨u, a, v, rfl, h, h'⟩

/-- Asking one request and going on contributes one exchange. -/
theorem run_call_bind_iff {i : ι} {f : ρ i → Program ρ β} {t : Trace ρ} {b : β} :
    Run (Program.call i >>= f) t b ↔ ∃ r u, t = ⟨i, r⟩ :: u ∧ Run (f r) u b :=
  run_ask_iff

theorem run_map_iff {p : Program ρ α} {f : α → β} {t : Trace ρ} {b : β} :
    Run (f <$> p) t b ↔ ∃ a, Run p t a ∧ b = f a := by
  rw [map_eq_pure_bind, run_bind_iff]
  constructor
  · rintro ⟨u, a, v, rfl, h, h'⟩
    obtain ⟨rfl, rfl⟩ := run_pure_iff.mp h'
    exact ⟨a, by simpa using h, rfl⟩
  · rintro ⟨a, h, rfl⟩
    exact ⟨t, a, [], by simp, h, .pure _⟩

theorem run_ite_iff {c : Prop} [Decidable c] {p q : Program ρ α} {t : Trace ρ} {a : α} :
    Run (if c then p else q) t a ↔ (c ∧ Run p t a) ∨ (¬ c ∧ Run q t a) := by
  split
  · simp [*]
  · simp [*]

/-- A check in front of a program returns at once or goes on. -/
theorem run_guard_iff {c : Prop} [Decidable c] {b : α} {p : Program ρ α} {t : Trace ρ} {a : α} :
    Run (if c then pure b else p) t a ↔ (c ∧ t = [] ∧ a = b) ∨ (¬ c ∧ Run p t a) := by
  rw [run_ite_iff, run_pure_iff]

/-! ## Requests a program can reach -/

/-- `Reaches p t i`: exchanging `t`, the program `p` comes to ask `i`. -/
inductive Reaches : Program ρ α → Trace ρ → ι → Prop where
  | here {i k} : Reaches (.ask i k) [] i
  | next {i k r t j} : Reaches (k r) t j → Reaches (.ask i k) (⟨i, r⟩ :: t) j

@[simp] theorem not_reaches_pure {a : α} {t : Trace ρ} {j : ι} :
    ¬ Reaches (pure a : Program ρ α) t j := by
  intro h
  cases h

theorem reaches_ask_iff {i j : ι} {k : ρ i → Program ρ α} {t : Trace ρ} :
    Reaches (.ask i k) t j ↔
      (t = [] ∧ j = i) ∨ ∃ r u, t = ⟨i, r⟩ :: u ∧ Reaches (k r) u j := by
  constructor
  · intro h
    cases h with
    | here => exact .inl ⟨rfl, rfl⟩
    | next h => exact .inr ⟨_, _, rfl, h⟩
  · rintro (⟨rfl, rfl⟩ | ⟨r, u, rfl, h⟩)
    · exact .here
    · exact .next h

/-- `p` never asks a request satisfying `bad`, whatever the replies are. -/
def Avoids (bad : ι → Prop) (p : Program ρ α) : Prop :=
  ∀ t i, Reaches p t i → ¬ bad i

theorem avoids_pure {bad : ι → Prop} (a : α) : Avoids bad (pure a : Program ρ α) := by
  intro t i h
  exact absurd h not_reaches_pure

theorem avoids_ask_iff {bad : ι → Prop} {i : ι} {k : ρ i → Program ρ α} :
    Avoids bad (.ask i k) ↔ ¬ bad i ∧ ∀ r, Avoids bad (k r) := by
  constructor
  · intro h
    exact ⟨h [] i .here, fun r t j hr => h _ j (.next hr)⟩
  · rintro ⟨hi, hk⟩ t j h
    rcases reaches_ask_iff.mp h with ⟨-, rfl⟩ | ⟨r, u, rfl, hr⟩
    · exact hi
    · exact hk r u j hr

theorem avoids_call {bad : ι → Prop} {i : ι} (h : ¬ bad i) :
    Avoids bad (Program.call i : Program ρ (ρ i)) :=
  avoids_ask_iff.mpr ⟨h, fun r => avoids_pure r⟩

/-- The second part of a sequence only has to be safe on results its first part can return. -/
theorem avoids_bind {bad : ι → Prop} {p : Program ρ α} {f : α → Program ρ β}
    (hp : Avoids bad p) (hf : ∀ t a, Run p t a → Avoids bad (f a)) :
    Avoids bad (p >>= f) := by
  induction p with
  | pure a => exact hf [] a (.pure a)
  | ask i k ih =>
      obtain ⟨hi, hk⟩ := avoids_ask_iff.mp hp
      exact avoids_ask_iff.mpr ⟨hi, fun r => ih r (hk r) fun t a h => hf _ a (.ask h)⟩

/-! ## Guarantees -/

/-- `p` never asks a request satisfying `bad`, and returns only results satisfying `Q`. -/
structure Ensures (bad : ι → Prop) (p : Program ρ α) (Q : α → Prop) : Prop where
  avoids : Avoids bad p
  returns : ∀ t a, Run p t a → Q a

variable {bad : ι → Prop} {P : α → Prop} {Q : β → Prop}

theorem ensures_pure {a : α} (h : P a) : Ensures bad (pure a : Program ρ α) P := by
  refine ⟨avoids_pure a, fun t b hrun => ?_⟩
  obtain ⟨-, rfl⟩ := run_pure_iff.mp hrun
  exact h

theorem ensures_bind {p : Program ρ α} {f : α → Program ρ β} (hp : Ensures bad p P)
    (hf : ∀ a, P a → Ensures bad (f a) Q) : Ensures bad (p >>= f) Q := by
  refine ⟨avoids_bind hp.avoids fun t a h => (hf a (hp.returns t a h)).avoids, ?_⟩
  intro t b hrun
  obtain ⟨u, a, v, -, h₁, h₂⟩ := run_bind_iff.mp hrun
  exact (hf a (hp.returns u a h₁)).returns v b h₂

theorem ensures_call {i : ι} (hi : ¬ bad i) :
    Ensures bad (Program.call i : Program ρ (ρ i)) fun _ => True :=
  ⟨avoids_call hi, fun _ _ _ => trivial⟩

theorem ensures_call_bind {i : ι} {f : ρ i → Program ρ β} (hi : ¬ bad i)
    (hf : ∀ r, Ensures bad (f r) Q) : Ensures bad (Program.call i >>= f) Q :=
  ensures_bind (ensures_call hi) fun r _ => hf r

theorem ensures_ite {c : Prop} [Decidable c] {p q : Program ρ β}
    (hp : c → Ensures bad p Q) (hq : ¬ c → Ensures bad q Q) :
    Ensures bad (if c then p else q) Q := by
  split
  · exact hp ‹c›
  · exact hq ‹¬ c›

theorem Ensures.mono {p : Program ρ α} {P' : α → Prop} (h : Ensures bad p P)
    (hPP' : ∀ a, P a → P' a) : Ensures bad p P' :=
  ⟨h.avoids, fun t a hrun => hPP' a (h.returns t a hrun)⟩

theorem Ensures.trivial {p : Program ρ α} (h : Ensures bad p P) :
    Ensures bad p fun _ => True :=
  h.mono fun _ _ => True.intro

/-! ## Guarantees about traces -/

/-- Every complete run of `p` leaves behind a trace and a result related by `R`. -/
def Leaves (p : Program ρ α) (R : Trace ρ → α → Prop) : Prop :=
  ∀ t a, Run p t a → R t a

section Leaves

variable {R : Trace ρ → α → Prop} {S : Trace ρ → β → Prop}

theorem leaves_pure {a : α} (h : R [] a) : Leaves (pure a : Program ρ α) R := by
  intro t b hrun
  obtain ⟨rfl, rfl⟩ := run_pure_iff.mp hrun
  exact h

theorem leaves_bind {p : Program ρ α} {f : α → Program ρ β} (hp : Leaves p R)
    (hf : ∀ u a, R u a → Leaves (f a) fun v b => S (u ++ v) b) : Leaves (p >>= f) S := by
  intro t b hrun
  obtain ⟨u, a, v, rfl, hu, hv⟩ := run_bind_iff.mp hrun
  exact hf u a (hp u a hu) v b hv

theorem leaves_call_bind {i : ι} {f : ρ i → Program ρ β}
    (hf : ∀ r, Leaves (f r) fun v b => S (⟨i, r⟩ :: v) b) :
    Leaves (Program.call i >>= f) S := by
  intro t b hrun
  obtain ⟨r, v, rfl, hv⟩ := run_call_bind_iff.mp hrun
  exact hf r v b hv

theorem leaves_ite {c : Prop} [Decidable c] {p q : Program ρ α} (hp : c → Leaves p R)
    (hq : ¬ c → Leaves q R) : Leaves (if c then p else q) R := by
  split
  · exact hp ‹c›
  · exact hq ‹¬ c›

theorem Leaves.mono {p : Program ρ α} {R' : Trace ρ → α → Prop} (h : Leaves p R)
    (hRR' : ∀ t a, R t a → R' t a) : Leaves p R' :=
  fun t a hrun => hRR' t a (h t a hrun)

/-- No exchange of a complete run asks what the program avoids. -/
theorem Avoids.not_mem {p : Program ρ α} (h : Avoids bad p) :
    Leaves p fun t _ => ∀ e ∈ t, ¬ bad e.request := by
  intro t a hrun
  induction hrun with
  | pure a => simp
  | @ask i k r t a hrun ih =>
      obtain ⟨hi, hk⟩ := avoids_ask_iff.mp h
      intro e he
      rcases List.mem_cons.mp he with rfl | he
      · exact hi
      · exact ih (hk r) e he

theorem Ensures.leaves {p : Program ρ α} (h : Ensures bad p P) :
    Leaves p fun t a => (∀ e ∈ t, ¬ bad e.request) ∧ P a :=
  fun t a hrun => ⟨h.avoids.not_mem t a hrun, h.returns t a hrun⟩

end Leaves

/-! ## Running against an oracle -/

section Oracle

variable (answer : (i : ι) → Option (ρ i))

/-- Exchange with an oracle until the program returns; it may have no answer to a request. -/
def follow : Program ρ α → Option (Trace ρ × α)
  | .pure a => some ([], a)
  | .ask i k => do
      let r ← answer i
      let (t, a) ← follow (k r)
      return (⟨i, r⟩ :: t, a)

theorem run_of_follow {p : Program ρ α} {t : Trace ρ} {a : α}
    (h : follow answer p = some (t, a)) : Run p t a := by
  induction p generalizing t a with
  | pure b =>
      cases h
      exact .pure b
  | ask i k ih =>
      obtain ⟨r, -, h⟩ := Option.bind_eq_some_iff.mp h
      obtain ⟨⟨u, b⟩, hu, h⟩ := Option.bind_eq_some_iff.mp h
      cases h
      exact .ask (ih r hu)

/-- A program runs to its end against whoever can answer every request. -/
theorem exists_run (accepts : Exchange ρ → Prop) (h : ∀ i, ∃ r, accepts ⟨i, r⟩)
    (p : Program ρ α) : ∃ t a, Run p t a ∧ ∀ e ∈ t, accepts e := by
  induction p with
  | pure a => exact ⟨[], a, .pure a, by simp⟩
  | ask i k ih =>
      obtain ⟨r, hr⟩ := h i
      obtain ⟨t, a, hrun, ht⟩ := ih r
      exact ⟨⟨i, r⟩ :: t, a, .ask hrun, List.forall_mem_cons.mpr ⟨hr, ht⟩⟩

/-- The request that the program makes after `n` exchanges with the oracle. -/
def requestAt : Nat → Program ρ α → Option ι
  | _, .pure _ => none
  | 0, .ask i _ => some i
  | n + 1, .ask i k => (answer i).bind fun r => requestAt n (k r)

theorem reaches_of_requestAt {n : Nat} {p : Program ρ α} {i : ι}
    (h : requestAt answer n p = some i) : ∃ t, Reaches p t i := by
  induction p generalizing n with
  | pure a => cases n <;> cases h
  | ask j k ih =>
      cases n with
      | zero =>
          cases h
          exact ⟨[], .here⟩
      | succ n =>
          obtain ⟨r, -, h⟩ := Option.bind_eq_some_iff.mp h
          obtain ⟨t, ht⟩ := ih r h
          exact ⟨⟨j, r⟩ :: t, .next ht⟩

end Oracle

end Interaction
