import DarwinGpib.Client.DispatchEffect
import DarwinGpib.Library.Behaviour
import DarwinGpib.Model.NiUsb

/-!
# Addresses that descriptors hold

`GPIBDescriptor.h` documents a primary address in 0..30 and a secondary address in 0..30 or -1.
Nothing checks what a client supplies, so whether every open descriptor holds such an address,
and no address command turns into `UNL` or `UNT`, depends on what the clients ask for.
-/

namespace DarwinGpib

open Interaction Behaviour UserClient

/-! ## Legal addresses -/

def LegalPad (pad : UInt8) : Prop := pad ≤ 30

/-- No secondary address, or one that `MSA_byte` masks to 0..30. -/
def LegalSad (sad : Int8) : Prop := sad = -1 ∨ sad.toUInt8 &&& 0x1f ≤ 30

instance (pad : UInt8) : Decidable (LegalPad pad) := inferInstanceAs (Decidable (_ ≤ _))

instance (sad : Int8) : Decidable (LegalSad sad) := inferInstanceAs (Decidable (_ ∨ _))

def DescriptorOptions.LegalAddress (o : DescriptorOptions) : Prop :=
  LegalPad o.pad ∧ LegalSad o.sad

instance (o : DescriptorOptions) : Decidable o.LegalAddress :=
  inferInstanceAs (Decidable (_ ∧ _))

/-- The address commands built from the descriptor are listen, talk and secondary address
commands; `UNL` is 0x3F and `UNT` is 0x5F. -/
structure DescriptorOptions.ProperCommands (o : DescriptorOptions) : Prop where
  listen : 0x20 ≤ mlaByte o.pad ∧ mlaByte o.pad ≤ 0x3E
  talk : 0x40 ≤ mtaByte o.pad ∧ mtaByte o.pad ≤ 0x5E
  secondary : ∀ x ∈ msaBytes o.sad, 0x60 ≤ x ∧ x ≤ 0x7E

theorem listenByte_of_legal :
    ∀ pad : Fin 256, LegalPad ⟨⟨pad⟩⟩ →
      0x20 ≤ mlaByte ⟨⟨pad⟩⟩ ∧ mlaByte ⟨⟨pad⟩⟩ ≤ 0x3E ∧
        0x40 ≤ mtaByte ⟨⟨pad⟩⟩ ∧ mtaByte ⟨⟨pad⟩⟩ ≤ 0x5E := by
  decide +kernel

theorem secondaryByte_of_legal :
    ∀ sad : Fin 256, (⟨⟨sad⟩⟩ : UInt8) &&& 0x1f ≤ 30 →
      0x60 ≤ ((⟨⟨sad⟩⟩ : UInt8) &&& 0x1f ||| CmdByte.sad) ∧
        ((⟨⟨sad⟩⟩ : UInt8) &&& 0x1f ||| CmdByte.sad) ≤ 0x7E := by
  decide +kernel

theorem DescriptorOptions.LegalAddress.properCommands {o : DescriptorOptions}
    (h : o.LegalAddress) : o.ProperCommands := by
  obtain ⟨hlisten, hlisten', htalk, htalk'⟩ := listenByte_of_legal o.pad.toFin h.1
  refine ⟨⟨hlisten, hlisten'⟩, ⟨htalk, htalk'⟩, ?_⟩
  intro x hx
  unfold msaBytes at hx
  split at hx
  · obtain rfl := List.mem_singleton.mp hx
    rcases h.2 with hnone | hmask
    · rename_i hsad
      rw [hnone] at hsad
      exact absurd hsad (by decide)
    · exact secondaryByte_of_legal o.sad.toUInt8.toFin hmask
  · cases hx

/-! ## Calls that carry an address -/

/-- The address that the call carries, as its handler decodes it, is legal. -/
def DriverCall.CarriesLegal : DriverCall → Prop
  | openDescriptor i => i.options.LegalAddress
  | configure _ key value =>
      (key = Ibc.pad → LegalPad (value &&& 0x1f).toUInt32.toUInt8) ∧
        (key = Ibc.sad → LegalSad value.toInt8)
  | _ => True

/-- The reply refuses an argument. -/
def DriverReply.RefusesArgument : DriverReply → Prop
  | opened _ s | status s => s = ⟨Ibsta.err, Iberr.earg⟩
  | _ => False

/-- Every open descriptor holds a legal address, and its commands are address commands. -/
def HoldsLegal (b : GPIBBoard) : Prop :=
  ∀ handle o, b.descriptors.slots handle = some o → o.LegalAddress ∧ o.ProperCommands

/-- An illegal address was refused. -/
def RefusesIllegal (x : DriverCall × DriverReply) : Prop :=
  ¬ x.1.CarriesLegal → x.2.RefusesArgument

/-- The call carries a legal address, or configures a handle that is not open. -/
def LegalOrUnused (b : GPIBBoard) (x : DriverCall × DriverReply) : Prop :=
  x.1.CarriesLegal ∨
    ∃ handle key value, x.1 = .configure handle key value ∧
      b.descriptors.descriptorFor handle = none

theorem holdsLegal_init : HoldsLegal .init := by
  intro handle o ho
  rw [show GPIBBoard.init.descriptors = .initial from rfl, DescriptorTable.slots_initial] at ho
  cases ho

variable {b b' : GPIBBoard} {reply : DriverReply}

theorem HoldsLegal.of_eq (h : HoldsLegal b) (heq : b'.descriptors = b.descriptors) :
    HoldsLegal b' := by
  intro handle o ho
  rw [heq] at ho
  exact h handle o ho

/-- Filling or changing one slot. -/
theorem HoldsLegal.update_iff (h : HoldsLegal b) {handle : Int} {o : DescriptorOptions}
    (hslots : b'.descriptors.slots = Function.update b.descriptors.slots handle (some o)) :
    HoldsLegal b' ↔ o.LegalAddress := by
  constructor
  · intro h'
    exact (h' handle o (by rw [hslots, Function.update_self])).1
  · intro ho k o' hk
    rw [hslots] at hk
    by_cases hne : k = handle
    · subst hne
      rw [Function.update_self] at hk
      cases hk
      exact ⟨ho, ho.properCommands⟩
    · rw [Function.update_of_ne hne] at hk
      exact h k o' hk

/-! ## One call -/

namespace UserClient

/-- Opening never refuses an argument. -/
theorem TableEffect.opened_not_refused {i : OpenDescriptorIn}
    (h : TableEffect b (.openDescriptor i) (reply, b')) : ¬ reply.RefusesArgument := by
  simp only [TableEffect, handleOpenDescriptor, GPIBBoard.openDescriptor] at h
  cases hopen : b.descriptors.openDescriptor i.options with
  | none =>
      rw [hopen] at h
      cases h
      exact show ¬ (⟨Ibsta.err, Iberr.etab⟩ : Status) = ⟨Ibsta.err, Iberr.earg⟩ by decide
  | some r =>
      obtain ⟨handle, t⟩ := r
      rw [hopen] at h
      cases h
      exact show ¬ (⟨Ibsta.cmpl, 0⟩ : Status) = ⟨Ibsta.err, Iberr.earg⟩ by decide

end UserClient

/-- The address that `configure` leaves for a key it stores. -/
theorem address_configured {o o' : DescriptorOptions} {key : UInt32} {value : Int32}
    (h : o.configured key value = some o') :
    o'.pad = (if key = Ibc.pad then (value &&& 0x1f).toUInt32.toUInt8 else o.pad) ∧
      o'.sad = if key = Ibc.sad then value.toInt8 else o.sad := by
  have hne : Ibc.pad ≠ Ibc.sad := by decide
  by_cases hpad : key = Ibc.pad
  · subst hpad
    simp only [DescriptorOptions.configured, if_true, Option.some.injEq] at h
    rw [if_pos rfl, if_neg hne, ← h]
    exact ⟨rfl, rfl⟩
  by_cases hsad : key = Ibc.sad
  · subst hsad
    simp only [DescriptorOptions.configured, if_true, if_neg hpad, Option.some.injEq] at h
    rw [if_neg hpad, if_pos rfl, ← h]
    exact ⟨rfl, rfl⟩
  · simp only [DescriptorOptions.configured, if_neg hpad, if_neg hsad] at h ⊢
    repeat' split at h
    all_goals first | cases h
    all_goals exact ⟨rfl, rfl⟩

/-- A key that `configure` stores changes the address exactly as the call says. -/
theorem legalAddress_configured_iff {o o' : DescriptorOptions} (handle : Int) {key : UInt32}
    {value : Int32} (h : o.configured key value = some o') (ho : o.LegalAddress) :
    o'.LegalAddress ↔ (DriverCall.configure handle key value).CarriesLegal := by
  obtain ⟨hpad, hsad⟩ := address_configured h
  simp only [DescriptorOptions.LegalAddress, DriverCall.CarriesLegal, hpad, hsad]
  by_cases hp : key = Ibc.pad
  · subst hp
    simp [show Ibc.pad ≠ Ibc.sad by decide, ho.2]
  · by_cases hs : key = Ibc.sad
    · subst hs
      simp [show Ibc.sad ≠ Ibc.pad by decide, ho.1]
    · simp [hp, hs, ho.1, ho.2]

/-- A key that `configure` does not know carries no address. -/
theorem carriesLegal_of_unknown {o : DescriptorOptions} (handle : Int) {key : UInt32}
    {value : Int32} (h : o.configured key value = none) :
    (DriverCall.configure handle key value).CarriesLegal := by
  constructor
  · rintro rfl
    cases h
  · rintro rfl
    cases h

theorem holdsLegal_step {c : DriverCall} (h : TableEffect b c (reply, b')) (hb : HoldsLegal b) :
    (HoldsLegal b' ∧ RefusesIllegal (c, reply)) ↔ LegalOrUnused b (c, reply) := by
  have hkept (heq : b'.descriptors = b.descriptors) (hc : c.CarriesLegal) :
      (HoldsLegal b' ∧ RefusesIllegal (c, reply)) ↔ LegalOrUnused b (c, reply) :=
    iff_of_true ⟨hb.of_eq heq, fun hillegal => absurd hc hillegal⟩ (.inl hc)
  cases c with
  | openDescriptor i =>
      have hrefuses : RefusesIllegal (.openDescriptor i, reply) ↔ i.options.LegalAddress :=
        ⟨fun h' => not_not.mp fun hillegal => h.opened_not_refused (h' hillegal),
          fun hlegal hillegal => absurd hlegal hillegal⟩
      have hallowed : LegalOrUnused b (.openDescriptor i, reply) ↔ i.options.LegalAddress := by
        simp [LegalOrUnused, DriverCall.CarriesLegal]
      rw [hrefuses, hallowed]
      rcases h.opened with ⟨handle, s, -, -, -, hslots⟩ | ⟨-, rfl⟩
      · rw [hb.update_iff hslots, and_self]
      · exact and_iff_right hb
  | configure handle key value =>
      cases hd : b.descriptors.descriptorFor handle with
      | none =>
          obtain ⟨heq, rfl⟩ := h.configured_unused hd
          exact iff_of_true ⟨hb.of_eq heq, fun _ => rfl⟩ (.inr ⟨handle, key, value, rfl, hd⟩)
      | some d =>
          have hlegal : d.toDescriptorOptions.LegalAddress :=
            (hb handle _ (by rw [DescriptorTable.slots, hd, Option.map_some])).1
          have hallowed : LegalOrUnused b (.configure handle key value, reply) ↔
              (DriverCall.configure handle key value).CarriesLegal := by
            constructor
            · rintro (hc | ⟨handle', key', value', hc, hd'⟩)
              · exact hc
              · cases hc
                rw [hd] at hd'
                cases hd'
            · exact .inl
          cases ho : d.configured key value with
          | none =>
              exact hkept (h.configured_unknown hd ho).1 (carriesLegal_of_unknown handle ho)
          | some o =>
              have hslots := (h.configured_stored hd ho).1
              rw [hallowed, hb.update_iff hslots, legalAddress_configured_iff handle ho hlegal]
              constructor
              · exact And.left
              · exact fun hc => ⟨hc, fun hillegal => absurd hc hillegal⟩
  | closeDescriptor handle =>
      have hclosed : HoldsLegal b' := by
        intro k o hk
        rw [h.closed] at hk
        exact hb k o (SlotTable.release_eq_some hk).2
      exact iff_of_true ⟨hclosed, fun hillegal => absurd trivial hillegal⟩ (.inl trivial)
  | ask handle option => exact hkept h.asked trivial
  | _ => exact hkept h trivial

/-! ## Whole runs -/

section Runs

variable {τ : Type} (T : IGPIBTransport (StateT τ Usb)) (now : StateT τ Usb UInt64) (fuel : Nat)

/-- The call is answered, whatever the transport's state is. -/
def Answers (b : GPIBBoard) (x : DriverCall × DriverReply) (b' : GPIBBoard) : Prop :=
  ∃ t t' u, Run ((dispatch T b now fuel x.1).run t) u (some (x.2, b'), t')

/-- The calls that the clients of a driver board have made since its start. -/
abbrev ServiceHistory : List (GPIBBoard × (DriverCall × DriverReply)) → GPIBBoard → Prop :=
  History (· = .init) (Answers T now fuel)

end Runs

/-- Every descriptor opened so far holds a legal address, and every illegal one was refused,
exactly if no call on an open handle, and no open, ever carried an illegal address. -/
theorem addresses_legal_iff {τ : Type} {T : IGPIBTransport (StateT τ Usb)}
    {now : StateT τ Usb UInt64} {fuel : Nat} {past : List (GPIBBoard × (DriverCall × DriverReply))}
    {b : GPIBBoard} (h : ServiceHistory T now fuel past b) :
    (HoldsLegal b ∧ ∀ e ∈ past, HoldsLegal e.1 ∧ RefusesIllegal e.2) ↔
      ∀ e ∈ past, LegalOrUnused e.1 e.2 := by
  apply History.throughout_iff (I := HoldsLegal) (J := fun _ => RefusesIllegal)
    (P := LegalOrUnused) _ _ h
  · rintro b rfl
    exact holdsLegal_init
  · rintro b ⟨c, reply⟩ b' hb ⟨t, t', u, hrun⟩
    exact holdsLegal_step (tableEffect_of_run hrun) hb

/-! ## An instrument at 5, and one at 31 -/

/-- `ibdev` with this primary address and no secondary one. -/
def openAt (pad : UInt32) : OpenDescriptorIn :=
  { pad, sad := 0xFFFFFFFF, isBoard := 0, timeoutCode := 12, eosChar := 0, eosFlags := 0,
    eot := 1 }

/-- The only call so far was an open on the NI adapter, which succeeded. -/
theorem serviceHistory_openAt (pad : UInt32) :
    ServiceHistory NIUSBTransport.asTransport (pure 0) 0
      [(.init, (.openDescriptor (openAt pad), (handleOpenDescriptor .init (openAt pad)).1))]
      (handleOpenDescriptor .init (openAt pad)).2 :=
  .step (.start rfl) ⟨⟨true, true, true, true⟩, _, [], .pure _⟩

theorem addresses_legal_at_five :
    HoldsLegal (handleOpenDescriptor .init (openAt 5)).2 := by
  apply ((addresses_legal_iff (serviceHistory_openAt 5)).mpr ?_).1
  intro e he
  obtain rfl := List.mem_singleton.mp he
  exact .inl (show (openAt 5).options.LegalAddress by decide)

/-- Opened at 31, the first descriptor is addressed to listen by `UNL`. -/
theorem addresses_not_legal_at_31 :
    ServiceHistory NIUSBTransport.asTransport (pure 0) 0
        [(.init, (.openDescriptor (openAt 31), (handleOpenDescriptor .init (openAt 31)).1))]
        (handleOpenDescriptor .init (openAt 31)).2 ∧
      ∃ o, (handleOpenDescriptor .init (openAt 31)).2.descriptors.slots 1 = some o ∧
        ¬ o.LegalAddress ∧ mlaByte o.pad = CmdByte.unl ∧ mtaByte o.pad = CmdByte.unt :=
  ⟨serviceHistory_openAt 31, (openAt 31).options, by decide, by decide, by decide, by decide⟩

end DarwinGpib
