import DarwinGpib.Model.Gpibd

/-!
# Sessions and tables

What the operations of the broker do to a session and to what its client holds, and what a call
does to the table of the board that it reaches.
-/

namespace DarwinGpib

namespace Gpibd

/-! ## Sessions -/

section Resume

variable (x : Session)

@[simp] theorem resume_held : x.resume.held = x.held := by
  unfold Session.resume
  split <;> rfl

@[simp] theorem resume_connected : x.resume.state = .connected ↔ x.state = .connected := by
  unfold Session.resume
  split
  · rename_i rest hstate
    simp [hstate]
  · rfl

/-- The session is as it was, or `dispatch_sync` has returned to its `session_reap`. -/
def Resumed (x y : Session) : Prop := y = x ∨ y = x.resume

end Resume

namespace Resumed

variable {x y : Session} (h : Resumed x y)

include h

theorem held : y.held = x.held := by
  rcases h with h | h <;> simp [h]

theorem connected : y.state = .connected ↔ x.state = .connected := by
  rcases h with h | h <;> simp [h]

end Resumed

@[simp] theorem sent_state (x : Session) (b : Board) (op : Op) (cap : Nat) :
    (x.sent b op cap).state = x.state := by
  unfold Session.sent
  split
  · split <;> rfl
  · rfl

section Track

variable (x : Session) (b : Board) (high : UInt32) (call : DriverCall) (cap : Nat)
  (opened : Option Int)

@[simp] theorem addDesc_state (handle : Int) : (x.addDesc b handle).state = x.state := by
  unfold Session.addDesc
  split <;> rfl

@[simp] theorem track_state : (x.track b high call cap opened).state = x.state := by
  unfold Session.track
  split
  · split
    · simp only
      split <;> simp
    · rfl
  · split <;> rfl
  · rfl

/-- The reply to an open tells the client of the descriptor, and no other reply does. -/
theorem track_held :
    (x.track b high call cap opened).held = x.held ∨
      ∃ handle, 0 ≤ handle ∧ opened = some handle ∧ (∃ o, call = .openDescriptor o) ∧
        (x.track b high call cap opened).held = (b, handle) :: x.held := by
  unfold Session.track
  split
  · rename_i o handle
    split
    · rename_i hcap
      refine .inr ⟨handle, hcap.2, rfl, ⟨o, rfl⟩, ?_⟩
      simp only
      split
      · unfold Session.addDesc
        split <;> rfl
      · rfl
    · exact .inl rfl
  · split
    · exact .inl rfl
    · exact .inl rfl
  · exact .inl rfl

end Track

/-! ## The driver's table behind a call -/

/-- A slot that is open behind a call was open before it and is not the one it closes, or was
opened by it. -/
theorem open_of_applyCall {u : Int → Option Client} {c c' : Client} {call : DriverCall}
    {handle : Int} (h : (applyCall u c call).2 handle = some c') :
    (u handle = some c' ∧ call ≠ .closeDescriptor handle) ∨
      (c' = c ∧ u handle = none ∧ 0 ≤ handle ∧ (∃ o, call = .openDescriptor o) ∧
        (applyCall u c call).1 = some handle) := by
  cases call with
  | openDescriptor o =>
      cases halloc : SlotTable.alloc DescriptorTable.handles u c with
      | none =>
          simp only [applyCall, halloc] at h
          exact .inl ⟨h, by simp⟩
      | some r =>
          obtain ⟨handle', u'⟩ := r
          obtain ⟨hfree, rfl⟩ := SlotTable.alloc_eq_some_iff.mp halloc
          obtain ⟨hmem, hnone⟩ := SlotTable.firstFree_eq_some hfree
          simp only [applyCall, halloc] at h ⊢
          by_cases hh : handle = handle'
          · subst hh
            rw [Function.update_self, Option.some.injEq] at h
            have hpos := (DescriptorTable.mem_handles_iff.mp hmem).1
            exact .inr ⟨h.symm, hnone, by omega, ⟨o, rfl⟩, rfl⟩
          · rw [Function.update_of_ne hh] at h
            exact .inl ⟨h, by simp⟩
  | closeDescriptor handle' =>
      obtain ⟨hne, h⟩ := SlotTable.release_eq_some h
      refine .inl ⟨h, ?_⟩
      intro hcall
      cases hcall
      exact hne rfl
  | _ => exact .inl ⟨h, by simp⟩

/-- A slot stays open unless the call closes it. -/
theorem applyCall_of_open {u : Int → Option Client} {c c' : Client} {call : DriverCall}
    {handle : Int} (h : u handle = some c') (hcall : call ≠ .closeDescriptor handle) :
    (applyCall u c call).2 handle = some c' := by
  cases call with
  | openDescriptor o =>
      cases halloc : SlotTable.alloc DescriptorTable.handles u c with
      | none => simpa only [applyCall, halloc] using h
      | some r =>
          obtain ⟨handle', u'⟩ := r
          obtain ⟨hfree, rfl⟩ := SlotTable.alloc_eq_some_iff.mp halloc
          have hne : handle ≠ handle' := by
            rintro rfl
            rw [(SlotTable.firstFree_eq_some hfree).2] at h
            cases h
          simpa only [applyCall, halloc, Function.update_of_ne hne] using h
  | closeDescriptor handle' =>
      have hne : handle ≠ handle' := fun heq => hcall (by rw [heq])
      exact (SlotTable.release_of_ne hne).trans h
  | _ => exact h

end Gpibd

end DarwinGpib
