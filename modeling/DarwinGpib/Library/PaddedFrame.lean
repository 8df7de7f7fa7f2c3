import Mathlib.Data.List.Basic

/-!
# Padded and terminated frames

A frame is a body that is padded to a multiple of `n` entries, with a trailer behind it. The body
says by itself how long it is, so that the padding can be told from it.
-/

namespace PaddedFrame

variable {α : Type} (pad : α) (n : Nat) (trailer : List α)

def padded (body : List α) : List α :=
  body ++ List.replicate ((n - body.length % n) % n) pad

variable [DecidableEq α]

/-- The body of a frame and its padding, if the frame has the right length and trailer. -/
def unframe (frame : List α) : Option (List α) :=
  if frame.length % n = 0 ∧ trailer <:+ frame then
    some (frame.take (frame.length - trailer.length))
  else none

/-- The first `len` entries, if only padding is behind them, and no more than it takes. -/
def unpad (len : Nat) (rest : List α) : Option (List α) :=
  if len ≤ rest.length ∧ rest.length < len + n ∧ ∀ b ∈ rest.drop len, b = pad then
    some (rest.take len)
  else none

variable {pad n trailer} {body payload : List α}

omit [DecidableEq α] in
theorem length_padded_mod (hn : 0 < n) : (padded pad n body).length % n = 0 := by
  have hle : body.length % n ≤ n := Nat.le_of_lt (Nat.mod_lt _ hn)
  rw [padded, List.length_append, List.length_replicate, Nat.add_mod_mod, ← Nat.mod_add_mod,
    Nat.add_sub_of_le hle, Nat.mod_self]

omit [DecidableEq α] in
theorem length_padded_lt (hn : 0 < n) : (padded pad n body).length < body.length + n := by
  have hlt := Nat.mod_lt (n - body.length % n) hn
  rw [padded, List.length_append, List.length_replicate]
  omega

theorem unframe_append (hn : 0 < n) (htrailer : trailer.length % n = 0) :
    unframe n trailer (padded pad n body ++ trailer) = some (padded pad n body) := by
  have hlen : (padded pad n body ++ trailer).length % n = 0 := by
    rw [List.length_append, Nat.add_mod, length_padded_mod hn, htrailer, Nat.zero_add, Nat.zero_mod]
  rw [unframe, if_pos ⟨hlen, List.suffix_append _ _⟩, List.length_append, Nat.add_sub_cancel,
    List.take_left]

/-- A payload with less padding behind it than would fill a further unit. -/
theorem unpad_append_replicate {k : Nat} (hk : k < n) :
    unpad pad n payload.length (payload ++ List.replicate k pad) = some payload := by
  have hpad : ∀ b ∈ (payload ++ List.replicate k pad).drop payload.length, b = pad := by
    intro b hb
    rw [List.drop_left] at hb
    exact List.eq_of_mem_replicate hb
  have hlen : (payload ++ List.replicate k pad).length = payload.length + k := by simp
  rw [unpad, if_pos ⟨by omega, by omega, hpad⟩, List.take_left]

end PaddedFrame
