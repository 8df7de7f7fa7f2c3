import DarwinGpib.Library.Stateful
import Mathlib.Data.Finset.Basic

/-!
# Custody

Some exchanges take something into custody and some give it back. An account counts what is held,
and fails when something is given back, or needed, that is not held. `Holds` is an account of which
the counts are 1 for a set of things and 0 for the others, some left out.
-/

namespace Interaction

variable {ι : Type} {ρ : ι → Type} {R : Type} [DecidableEq R]

structure Custody (ρ : ι → Type) (R : Type) where
  takes : Exchange ρ → Option R
  gives : Exchange ρ → Option R
  needs : ι → List R

namespace Custody

/-- What is held behind an exchange. -/
def account (c : Custody ρ R) (held : R → Nat) (e : Exchange ρ) : Option (R → Nat) :=
  if ∀ r ∈ c.needs e.request, 0 < held r then
    match c.gives e with
    | some r => if 0 < held r then some (Function.update held r (held r - 1)) else none
    | none =>
        match c.takes e with
        | some r => some (Function.update held r (held r + 1))
        | none => some held
  else none

/-- What is held behind a trace. -/
def balance (c : Custody ρ R) (d : Option (R → Nat)) (u : Trace ρ) : Option (R → Nat) :=
  u.foldl (fun d e => d.bind (c.account · e)) d

theorem balance_append (c : Custody ρ R) (d : Option (R → Nat)) (u w : Trace ρ) :
    c.balance d (u ++ w) = c.balance (c.balance d u) w :=
  List.foldl_append

/-- What is held behind a trace, if nothing was held before. -/
def after (c : Custody ρ R) (u : Trace ρ) : Option (R → Nat) := c.balance (some fun _ => 0) u

/-- Whoever replies keeps the account. -/
def Accounting (c : Custody ρ R) (d : Option (R → Nat)) (e : Exchange ρ)
    (d' : Option (R → Nat)) : Prop :=
  d' = d.bind (c.account · e)

theorem serves_accounting (c : Custody ρ R) (d : Option (R → Nat)) (u : Trace ρ) :
    Serves c.Accounting d u (c.balance d u) := by
  induction u generalizing d with
  | nil => exact .nil d
  | cons e u ih => exact .cons rfl (ih _)

/-- A triple about the account, as a statement about runs. -/
theorem of_triple {σ α : Type} {c : Custody ρ R} {x : StateT σ (Program ρ) α}
    {P : σ → Option (R → Nat) → Prop} {Q : α → σ → Option (R → Nat) → Prop}
    (h : Triple c.Accounting P x Q) {s s' : σ} {d : Option (R → Nat)} {u : Trace ρ} {a : α}
    (hs : P s d) (hrun : Run (x.run s) u (a, s')) : Q a s' (c.balance d u) :=
  h s d u a s' _ hs hrun (c.serves_accounting d u)

/-! ## Holding -/

/-- These things are held once and no others, as far as they are not left out. -/
def Holds (out S : Finset R) (d : Option (R → Nat)) : Prop :=
  ∃ held, d = some held ∧ ∀ r ∉ out, held r = if r ∈ S then 1 else 0

variable {c : Custody ρ R} {out S : Finset R} {d d' : Option (R → Nat)} {e : Exchange ρ} {r : R}

theorem holds_zero (out : Finset R) : Holds out ∅ (some fun _ => 0) :=
  ⟨_, rfl, fun _ _ => by simp⟩

/-- What an exchange needs is held. -/
def Covers (out S : Finset R) (needs : List R) : Prop := ∀ r ∈ needs, r ∈ S ∧ r ∉ out

theorem Holds.needs (h : Holds out S d) (hneeds : Covers out S (c.needs e.request)) :
    ∃ held, d = some held ∧ (∀ r ∉ out, held r = if r ∈ S then 1 else 0) ∧
      ∀ r ∈ c.needs e.request, 0 < held r := by
  obtain ⟨held, rfl, hheld⟩ := h
  refine ⟨held, rfl, hheld, fun r hr => ?_⟩
  obtain ⟨hS, hout⟩ := hneeds r hr
  rw [hheld r hout, if_pos hS]
  exact Nat.one_pos

theorem Holds.pass (h : Holds out S d) (hneeds : Covers out S (c.needs e.request))
    (hgives : c.gives e = none) (htakes : c.takes e = none) (hserve : c.Accounting d e d') :
    Holds out S d' := by
  obtain ⟨held, rfl, hheld, hcovered⟩ := h.needs hneeds
  refine ⟨held, ?_, hheld⟩
  rw [hserve, Option.bind_some, account, if_pos hcovered, hgives, htakes]

theorem Holds.take (h : Holds out S d) (hneeds : Covers out S (c.needs e.request))
    (hgives : c.gives e = none) (htakes : c.takes e = some r) (hr : r ∉ S)
    (hserve : c.Accounting d e d') : Holds out (insert r S) d' := by
  obtain ⟨held, rfl, hheld, hcovered⟩ := h.needs hneeds
  refine ⟨Function.update held r (held r + 1), ?_, fun q hq => ?_⟩
  · rw [hserve, Option.bind_some, account, if_pos hcovered, hgives, htakes]
  · by_cases hqr : q = r
    · subst hqr
      rw [Function.update_self, hheld q hq, if_neg hr, if_pos (Finset.mem_insert_self q S)]
    · rw [Function.update_of_ne hqr, hheld q hq]
      simp [hqr]

/-- What is left out may be taken at any time. -/
theorem Holds.take_out (h : Holds out S d) (hneeds : Covers out S (c.needs e.request))
    (hgives : c.gives e = none) (htakes : c.takes e = some r) (hr : r ∈ out)
    (hserve : c.Accounting d e d') : Holds out S d' := by
  obtain ⟨held, rfl, hheld, hcovered⟩ := h.needs hneeds
  refine ⟨Function.update held r (held r + 1), ?_, fun q hq => ?_⟩
  · rw [hserve, Option.bind_some, account, if_pos hcovered, hgives, htakes]
  · have hqr : q ≠ r := fun hqr => hq (hqr ▸ hr)
    rw [Function.update_of_ne hqr, hheld q hq]

theorem Holds.give (h : Holds out S d) (hneeds : Covers out S (c.needs e.request))
    (hgives : c.gives e = some r) (hr : r ∈ S) (hout : r ∉ out) (hserve : c.Accounting d e d') :
    Holds out (S.erase r) d' := by
  obtain ⟨held, rfl, hheld, hcovered⟩ := h.needs hneeds
  have hone : held r = 1 := by rw [hheld r hout, if_pos hr]
  refine ⟨Function.update held r (held r - 1), ?_, fun q hq => ?_⟩
  · rw [hserve, Option.bind_some, account, if_pos hcovered, hgives]
    exact if_pos (hone ▸ Nat.one_pos)
  · by_cases hqr : q = r
    · subst hqr
      rw [Function.update_self, hone]
      simp
    · rw [Function.update_of_ne hqr, hheld q hq]
      simp [hqr]

end Custody

end Interaction
