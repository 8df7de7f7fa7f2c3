import DarwinGpib.Library.Stateful
import DarwinGpib.Model.UserClient
import DarwinGpib.Model.Usb

/-!
# What a call does to the descriptor table

Over any transport: opening, closing, configuring and asking act on the table as the board's
operations of these names do, and every other call leaves it alone.
-/

namespace DarwinGpib

open Interaction

namespace UserClient

/-- The effect of a call on the table, together with the reply where it depends on the table. -/
def TableEffect (b : GPIBBoard) (c : DriverCall) (r : DriverReply × GPIBBoard) : Prop :=
  match c with
  | .openDescriptor i => r = handleOpenDescriptor b i
  | .closeDescriptor handle => r = handleCloseDescriptor b handle
  | .configure handle key value => r = handleConfigure b handle key value
  | .ask handle option => r = handleAsk b handle option
  | _ => r.2.descriptors = b.descriptors

section Effects

variable {τ : Type} {T : IGPIBTransport (StateT τ Usb)} {b : GPIBBoard}

/-- Nothing is asked of the requests here. -/
abbrev Returns {α : Type} (x : StateT τ Usb α) (Q : α → Prop) : Prop :=
  StateEnsures (fun _ => False) x Q

theorem returns_trivial {α : Type} (x : StateT τ Usb α) : Returns x fun _ => True :=
  fun _ => ⟨fun _ _ _ h => h, fun _ _ _ => trivial⟩

theorem returns_map {α β : Type} {x : StateT τ Usb α} {f : α → β} {Q : β → Prop}
    (h : Returns x fun a => Q (f a)) : Returns (f <$> x) Q := by
  rw [map_eq_pure_bind]
  exact stateEnsures_bind h fun a ha => stateEnsures_pure ha

theorem returns_onBus {α : Type} (op : BoardState → StateT τ Usb (α × BoardState)) :
    Returns (b.onBus op) fun r => r.2.descriptors = b.descriptors :=
  stateEnsures_bind (returns_trivial _) fun _ _ => stateEnsures_pure rfl

/-- A handler that ends with the board its bus operation left keeps the table. -/
theorem returns_handler {α : Type} {op : BoardState → StateT τ Usb (α × BoardState)}
    {k : α × GPIBBoard → StateT τ Usb (DriverReply × GPIBBoard)}
    (hk : ∀ r, Returns (k r) fun r' => r'.2 = r.2) :
    Returns (b.onBus op >>= k) fun r => r.2.descriptors = b.descriptors :=
  stateEnsures_bind (returns_onBus op) fun r hr => (hk r).mono fun _ hr' => by rw [hr', hr]

theorem returns_some {c : DriverCall} {x : StateT τ Usb (DriverReply × GPIBBoard)}
    (h : Returns x (TableEffect b c)) :
    Returns (some <$> x) fun o => ∀ r ∈ o, TableEffect b c r :=
  returns_map (h.mono fun r hr r' hr' => by
    cases hr'
    exact hr)

theorem returns_dispatch (now : StateT τ Usb UInt64) (fuel : Nat) (c : DriverCall) :
    Returns (dispatch T b now fuel c) fun o => ∀ r ∈ o, TableEffect b c r := by
  have hpure {r : DriverReply × GPIBBoard} (h : TableEffect b c r) :
      Returns (pure (some r) : StateT τ Usb _) fun o => ∀ r ∈ o, TableEffect b c r :=
    stateEnsures_pure fun r' hr' => by
      cases hr'
      exact h
  cases c with
  | openDescriptor i => exact hpure rfl
  | closeDescriptor handle => exact hpure rfl
  | configure handle key value => exact hpure rfl
  | ask handle option => exact hpure rfl
  | wait handle mask timeoutUs =>
      refine stateEnsures_bind (returns_trivial _) fun r _ => stateEnsures_pure ?_
      intro r' hr'
      obtain ⟨p, -, rfl⟩ := Option.map_eq_some_iff.mp hr'
      rfl
  | boardOnline online => exact returns_some (returns_handler fun _ => stateEnsures_pure rfl)
  | write handle sendEoi data => exact returns_some (returns_handler fun _ => stateEnsures_pure rfl)
  | read handle requestCount => exact returns_some (returns_handler fun _ => stateEnsures_pure rfl)
  | deviceClear handle => exact returns_some (returns_handler fun _ => stateEnsures_pure rfl)
  | interfaceClear handle => exact returns_some (returns_handler fun _ => stateEnsures_pure rfl)
  | remoteEnable handle enable =>
      exact returns_some (returns_handler fun _ => stateEnsures_pure rfl)
  | serialPoll handle => exact returns_some (returns_handler fun _ => stateEnsures_pure rfl)
  | trigger handle => exact returns_some (returns_handler fun _ => stateEnsures_pure rfl)
  | goToLocal handle => exact returns_some (returns_handler fun _ => stateEnsures_pure rfl)
  | localLockout handle => exact returns_some (returns_handler fun _ => stateEnsures_pure rfl)
  | lineStatus handle => exact returns_some (returns_handler fun _ => stateEnsures_pure rfl)
  | listenerPresent handle pad sad =>
      exact returns_some (returns_handler fun _ => stateEnsures_pure rfl)
  | sendCommand handle data => exact returns_some (returns_handler fun _ => stateEnsures_pure rfl)

/-- The effect of every call that is answered. -/
theorem tableEffect_of_run {now : StateT τ Usb UInt64} {fuel : Nat} {c : DriverCall} {t t' : τ}
    {u : Usb.Trace} {r : DriverReply × GPIBBoard}
    (hrun : Run ((dispatch T b now fuel c).run t) u (some r, t')) : TableEffect b c r :=
  ((returns_dispatch now fuel c).of_run hrun).2 r rfl

end Effects

/-! ## Effects on the open descriptors -/

variable {b b' : GPIBBoard} {c : DriverCall} {reply : DriverReply}

/-- A new handle is one of those on offer, was free and holds what was asked for; nothing else
changes. A refusal reports -1. -/
theorem TableEffect.opened {i : OpenDescriptorIn}
    (h : TableEffect b (.openDescriptor i) (reply, b')) :
    (∃ handle s, reply = .opened handle s ∧ handle ∈ DescriptorTable.handles ∧
        b.descriptors.slots handle = none ∧
        b'.descriptors.slots = Function.update b.descriptors.slots handle (some i.options)) ∨
      (∃ s, reply = .opened (-1) s) ∧ b' = b := by
  simp only [TableEffect, handleOpenDescriptor, GPIBBoard.openDescriptor] at h
  have hslots := DescriptorTable.slots_openDescriptor b.descriptors i.options
  cases hopen : b.descriptors.openDescriptor i.options with
  | none =>
      rw [hopen] at h
      cases h
      exact .inr ⟨⟨_, rfl⟩, rfl⟩
  | some r =>
      obtain ⟨handle, t⟩ := r
      rw [hopen] at h hslots
      cases h
      obtain ⟨hfree, hupdate⟩ := SlotTable.alloc_eq_some_iff.mp hslots.symm
      obtain ⟨hmem, hnone⟩ := SlotTable.firstFree_eq_some hfree
      exact .inl ⟨handle, _, rfl, hmem, hnone, hupdate⟩

theorem TableEffect.closed {handle : Int}
    (h : TableEffect b (.closeDescriptor handle) (reply, b')) :
    b'.descriptors.slots = SlotTable.release b.descriptors.slots handle := by
  simp only [TableEffect, handleCloseDescriptor, GPIBBoard.closeDescriptor] at h
  cases hd : b.descriptors.descriptorFor handle with
  | none =>
      rw [hd] at h
      cases h
      funext k
      by_cases hk : k = handle
      · subst hk
        rw [SlotTable.release_self, DescriptorTable.slots, hd, Option.map_none]
      · rw [SlotTable.release_of_ne hk]
  | some d =>
      rw [hd] at h
      cases h
      exact DescriptorTable.slots_closeDescriptor _ _

/-- Whether a descriptor is a board's is fixed when it is opened. -/
theorem isBoard_configured {o o' : DescriptorOptions} {key : UInt32} {value : Int32}
    (h : o.configured key value = some o') : o'.isBoard = o.isBoard := by
  unfold DescriptorOptions.configured at h
  repeat' split at h
  all_goals first | (cases h; rfl) | cases h

theorem TableEffect.configured_unused {handle : Int} {key : UInt32} {value : Int32}
    (h : TableEffect b (.configure handle key value) (reply, b'))
    (hd : b.descriptors.descriptorFor handle = none) :
    b'.descriptors = b.descriptors ∧ reply = .status ⟨Ibsta.err, Iberr.earg⟩ := by
  simp only [TableEffect, handleConfigure, GPIBBoard.configure, hd] at h
  cases h
  exact ⟨rfl, rfl⟩

theorem TableEffect.configured_unknown {handle : Int} {key : UInt32} {value : Int32}
    {d : GPIBDescriptor} (h : TableEffect b (.configure handle key value) (reply, b'))
    (hd : b.descriptors.descriptorFor handle = some d) (ho : d.configured key value = none) :
    b'.descriptors = b.descriptors ∧ reply = .status ⟨Ibsta.err, Iberr.ecap⟩ := by
  simp only [TableEffect, handleConfigure, GPIBBoard.configure, hd, ho] at h
  cases h
  exact ⟨rfl, rfl⟩

theorem TableEffect.configured_stored {handle : Int} {key : UInt32} {value : Int32}
    {d : GPIBDescriptor} {o : DescriptorOptions}
    (h : TableEffect b (.configure handle key value) (reply, b'))
    (hd : b.descriptors.descriptorFor handle = some d) (ho : d.configured key value = some o) :
    b'.descriptors.slots = Function.update b.descriptors.slots handle (some o) ∧
      reply = .status ⟨Ibsta.cmpl, 0⟩ := by
  simp only [TableEffect, handleConfigure, GPIBBoard.configure, hd, ho] at h
  cases h
  exact ⟨DescriptorTable.slots_configure hd o, rfl⟩

/-- A configuration is refused with `ERR`, or stored. -/
theorem TableEffect.configured {handle : Int} {key : UInt32} {value : Int32}
    (h : TableEffect b (.configure handle key value) (reply, b')) :
    (b'.descriptors = b.descriptors ∧ ∃ iberr, reply = .status ⟨Ibsta.err, iberr⟩) ∨
      ∃ d o, b.descriptors.descriptorFor handle = some d ∧ d.configured key value = some o ∧
        b'.descriptors.slots = Function.update b.descriptors.slots handle (some o) ∧
        reply = .status ⟨Ibsta.cmpl, 0⟩ := by
  cases hd : b.descriptors.descriptorFor handle with
  | none =>
      obtain ⟨heq, hreply⟩ := h.configured_unused hd
      exact .inl ⟨heq, _, hreply⟩
  | some d =>
      cases ho : d.configured key value with
      | none =>
          obtain ⟨heq, hreply⟩ := h.configured_unknown hd ho
          exact .inl ⟨heq, _, hreply⟩
      | some o =>
          obtain ⟨hslots, hreply⟩ := h.configured_stored hd ho
          exact .inr ⟨d, o, rfl, ho, hslots, hreply⟩

theorem TableEffect.asked {handle : Int} {option : UInt32}
    (h : TableEffect b (.ask handle option) (reply, b')) : b'.descriptors = b.descriptors := by
  simp only [TableEffect, handleAsk, GPIBBoard.ask] at h
  cases hd : b.descriptors.descriptorFor handle with
  | none =>
      rw [hd] at h
      cases h
      rfl
  | some d =>
      cases ho : d.asked option with
      | none =>
          simp only [hd, ho] at h
          cases h
          rfl
      | some v =>
          simp only [hd, ho] at h
          cases h
          rfl

/-- The handle is open and was opened for a board. -/
def BoardOpen (b : GPIBBoard) (handle : Int) : Prop :=
  ∃ o, b.descriptors.slots handle = some o ∧ o.isBoard = true

/-- Only closing its handle closes a board's descriptor. -/
theorem TableEffect.boardOpen {handle : Int} (h : TableEffect b c (reply, b'))
    (hc : c ≠ .closeDescriptor handle) (hopen : BoardOpen b handle) : BoardOpen b' handle := by
  obtain ⟨o, ho, hboard⟩ := hopen
  have hsame (heq : b'.descriptors = b.descriptors) : BoardOpen b' handle :=
    ⟨o, by rw [heq, ho], hboard⟩
  cases c with
  | openDescriptor i =>
      rcases h.opened with ⟨handle', s, -, -, hfree, hslots⟩ | ⟨-, rfl⟩
      · have hne : handle ≠ handle' := by
          rintro rfl
          rw [ho] at hfree
          cases hfree
        exact ⟨o, by rw [hslots, Function.update_of_ne hne, ho], hboard⟩
      · exact ⟨o, ho, hboard⟩
  | closeDescriptor handle' =>
      have hne : handle ≠ handle' := by
        rintro rfl
        exact hc rfl
      exact ⟨o, by rw [h.closed, SlotTable.release_of_ne hne, ho], hboard⟩
  | configure handle' key value =>
      rcases h.configured with ⟨heq, -⟩ | ⟨d, o', hd, ho', hslots, -⟩
      · exact hsame heq
      by_cases hne : handle = handle'
      · subst hne
        refine ⟨o', by rw [hslots, Function.update_self], ?_⟩
        rw [DescriptorTable.slots, hd] at ho
        cases ho
        rw [isBoard_configured ho', hboard]
      · exact ⟨o, by rw [hslots, Function.update_of_ne hne, ho], hboard⟩
  | ask handle' option => exact hsame h.asked
  | _ => exact hsame h

end UserClient

end DarwinGpib
