import Mathlib.Data.List.Basic

/-!
# Replies that queue up

A partner that answers every request with one reply, in order, and keeps the replies until they
are fetched. Requests are numbered in the order in which they are accepted.
-/

/-- A reply with the number of the request that it answers. -/
structure Numbered (β : Type) where
  request : Nat
  content : β

/-- How many requests have been accepted, and the replies not fetched yet, oldest first. -/
structure Backlog (β : Type) where
  issued : Nat
  pending : List (Numbered β)

namespace Backlog

variable {β : Type}

/-- One more request, to be answered with `content`. -/
def accept (b : Backlog β) (content : β) : Backlog β :=
  ⟨b.issued + 1, b.pending ++ [⟨b.issued, content⟩]⟩

/-- Every reply has been fetched. -/
def Idle (b : Backlog β) : Prop := b.pending = []

/-- The replies are to requests that have been accepted. -/
def Ordered (b : Backlog β) : Prop := ∀ r ∈ b.pending, r.request < b.issued

variable {b : Backlog β} {r : Numbered β} {rest : List (Numbered β)}

theorem Idle.ordered (h : b.Idle) : b.Ordered := by
  intro r hr
  rw [h] at hr
  cases hr

theorem Ordered.accept (h : b.Ordered) (content : β) : (b.accept content).Ordered := by
  intro r hr
  rcases List.mem_append.mp hr with hr | hr
  · exact Nat.lt_succ_of_lt (h r hr)
  · obtain rfl := List.mem_singleton.mp hr
    exact Nat.lt_succ_self _

theorem Ordered.fetch (h : b.Ordered) (hb : b.pending = r :: rest) :
    (⟨b.issued, rest⟩ : Backlog β).Ordered :=
  fun r' hr' => h r' (hb ▸ List.mem_cons_of_mem r hr')

/-- The oldest reply is to an earlier request. -/
theorem Ordered.head_lt (h : b.Ordered) (hb : b.pending = r :: rest) : r.request < b.issued :=
  h r (hb ▸ List.mem_cons_self)

/-- The oldest reply is to the newest request if and only if no other was left to fetch. -/
theorem Ordered.head_accept_iff (h : b.Ordered) {content : β}
    (hb : (b.accept content).pending = r :: rest) : r.request = b.issued ↔ b.Idle := by
  cases hp : b.pending with
  | nil =>
      simp only [Backlog.accept, hp, List.nil_append] at hb
      cases hb
      exact iff_of_true rfl hp
  | cons r' rest' =>
      have hlt := h.head_lt hp
      simp only [Backlog.accept, hp, List.cons_append] at hb
      cases hb
      exact iff_of_false (Nat.ne_of_lt hlt) (by simp [Idle, hp])

end Backlog
