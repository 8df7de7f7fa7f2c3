import DarwinGpib.Library.Pieces
import DarwinGpib.Library.Program

/-!
# Programs whose environment cooperates

What a program has sent when it returns, if every reply in its run was granted.
-/

namespace Interaction

open Pieces

variable {ι : Type} {ρ : ι → Type} {α β ω : Type} {grants : Exchange ρ → Prop}
  {message : ι → Option ω} {ws vs : List ω} {p : Program ρ α} {P : α → Prop} {Q : β → Prop}

/-- The messages among the requests of a trace. -/
def sent (message : ι → Option ω) (t : Trace ρ) : List ω :=
  t.filterMap fun e => message e.request

@[simp] theorem sent_append (t u : Trace ρ) :
    sent message (t ++ u) = sent message t ++ sent message u :=
  List.filterMap_append

/-- When every reply is granted, as it can be, `p` has sent `ws` and returns a result that
satisfies `P`. -/
structure Sends (grants : Exchange ρ → Prop) (message : ι → Option ω) (p : Program ρ α)
    (ws : List ω) (P : α → Prop) : Prop where
  exists_run : ∃ t a, Run p t a ∧ ∀ e ∈ t, grants e
  leaves : Leaves p fun t a => (∀ e ∈ t, grants e) → sent message t = ws ∧ P a

theorem sends_pure {a : α} (h : P a) : Sends grants message (pure a : Program ρ α) [] P where
  exists_run := ⟨[], a, .pure a, nofun⟩
  leaves := leaves_pure fun _ => ⟨rfl, h⟩

theorem sends_bind {f : α → Program ρ β} (hp : Sends grants message p ws P)
    (hf : ∀ a, P a → Sends grants message (f a) vs Q) :
    Sends grants message (p >>= f) (ws ++ vs) Q where
  exists_run := by
    obtain ⟨t, a, hrun, hgranted⟩ := hp.exists_run
    have ha : P a := (hp.leaves t a hrun hgranted).2
    obtain ⟨u, b, hrun', hgranted'⟩ := (hf a ha).exists_run
    exact ⟨t ++ u, b, hrun.bind hrun', List.forall_mem_append.mpr ⟨hgranted, hgranted'⟩⟩
  leaves := by
    refine leaves_bind hp.leaves fun u a hu v b hv hgranted => ?_
    obtain ⟨hgrantedu, hgrantedv⟩ := List.forall_mem_append.mp hgranted
    obtain ⟨hsent, ha⟩ := hu hgrantedu
    obtain ⟨hsent', hb⟩ := (hf a ha).leaves v b hv hgrantedv
    exact ⟨by rw [sent_append, hsent, hsent'], hb⟩

theorem sends_call {i : ι} {P : ρ i → Prop} (hreply : ∃ r, grants ⟨i, r⟩)
    (h : ∀ r, grants ⟨i, r⟩ → P r) :
    Sends grants message (Program.call i) (message i).toList P where
  exists_run := by
    obtain ⟨r, hr⟩ := hreply
    exact ⟨[⟨i, r⟩], r, run_call_iff.mpr rfl, List.forall_mem_singleton.mpr hr⟩
  leaves := by
    intro t r hrun hgranted
    rw [run_call_iff] at hrun
    subst hrun
    refine ⟨?_, h r (hgranted _ List.mem_cons_self)⟩
    cases hi : message i <;> simp [sent, hi]

/-- An exception would keep the rest of the program from running. -/
theorem sends_exceptT_bind {ε : Type} {x : ExceptT ε (Program ρ) α}
    {f : α → ExceptT ε (Program ρ) β} {Q : Except ε β → Prop}
    (hx : Sends grants message x.run ws fun r => ∃ a, r = .ok a ∧ P a)
    (hf : ∀ a, P a → Sends grants message (f a).run vs Q) :
    Sends grants message (x >>= f).run (ws ++ vs) Q := by
  refine sends_bind hx fun r hr => ?_
  obtain ⟨a, rfl, ha⟩ := hr
  exact hf a ha

/-- A loop that sends a sequence piece by piece. -/
theorem sends_pieces {γ : Type} {s : List γ} {n : Nat} (hn : 0 < n) (loop : Nat → Program ρ α)
    {f : Nat × List γ → ω}
    (hdone : ∀ off, s.length ≤ off → Sends grants message (loop off) [] P)
    (hpiece : ∀ off ws, off < s.length →
      Sends grants message (loop (off + ((s.drop off).take n).length)) ws P →
        Sends grants message (loop off) (f (off, (s.drop off).take n) :: ws) P) :
    Sends grants message (loop 0) ((pieces n 0 s).map f) P := by
  suffices h : ∀ off t, s.drop off = t →
      Sends grants message (loop off) ((pieces n off t).map f) P from h 0 s rfl
  intro off t ht
  induction off, t using pieces_induction hn with
  | nil off =>
      rw [pieces_nil]
      exact hdone off (List.drop_eq_nil_iff.mp ht)
  | piece off t hne ih =>
      have hoff : off < s.length := by
        rw [← ht, Ne, List.drop_eq_nil_iff] at hne
        exact Nat.not_le.mp hne
      have hrest : s.drop (off + n) = t.drop n := by rw [← ht, List.drop_drop]
      rw [pieces_of_ne_nil hn hne, List.map_cons, ← ht]
      refine hpiece off _ hoff ?_
      rw [ht]
      by_cases hlong : n ≤ t.length
      · rw [List.length_take_of_le hlong]
        exact ih hrest
      · have hshort : t.length ≤ n := Nat.le_of_not_le hlong
        have hlen : t.length = s.length - off := by rw [← ht, List.length_drop]
        rw [List.drop_eq_nil_of_le hshort, pieces_nil, List.take_of_length_le hshort]
        exact hdone _ (by omega)

end Interaction
