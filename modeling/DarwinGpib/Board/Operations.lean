import DarwinGpib.Library.Behaviour
import DarwinGpib.Model.BoardOperation

/-!
# What a board operation does to the descriptor table

`Affects` lists the ways in which an operation can return, as far as the table is concerned;
it is the only place where the operations are taken apart for the table.
-/

namespace DarwinGpib

open Interaction

/-- The handle that an operation looks up before anything else. -/
def BoardOp.checked : BoardOp → Option Int
  | closeDescriptor handle | configure handle _ _ | ask handle _ | write handle _ _
  | read handle _ | deviceClear handle | waitForStatus handle _ _ | serialPoll handle
  | trigger handle | goToLocal handle => some handle
  | _ => none

/-- Operations that open or close a slot. -/
def BoardOp.opensOrCloses : BoardOp → Bool
  | openDescriptor _ | closeDescriptor _ => true
  | _ => false

/-- What the board remembers as its status after a result, given what it remembered before. -/
def BoardResult.stored (before : UInt32) : BoardResult → UInt32
  | .done | .diag _ _ | .opened _ _ => before
  | .online ibsta => ibsta
  | .status s | .asked _ s | .polled (_, s) | .listener (_, s) | .lines (_, s) => s.ibsta
  | .counted s => s.ibsta
  | .read r => r.ibsta

namespace GPIBBoard

/-- An operation on `b` that leaves `b'` behind, by what becomes of the table. -/
inductive Affects (b : GPIBBoard) : Event → GPIBBoard → Prop where
  | opened {o j} (hfree : b.descriptors.allocateHandle = some j) :
      Affects b ⟨.openDescriptor o, [], .opened (DescriptorTable.usable j).val ⟨Ibsta.cmpl, 0⟩⟩
        { b with descriptors := b.descriptors.fill j o }
  | full {o} (hfull : b.descriptors.allocateHandle = none) :
      Affects b ⟨.openDescriptor o, [], .opened (-1) ⟨Ibsta.err, Iberr.etab⟩⟩ b
  | closed {handle d} (hd : b.descriptors.descriptorFor handle = some d) :
      Affects b ⟨.closeDescriptor handle, [], .status ⟨Ibsta.cmpl, 0⟩⟩
        { descriptors := b.descriptors.closeDescriptor handle,
          state := { b.state with ibsta := Ibsta.cmpl } }
  | configured {handle key value d o} (hd : b.descriptors.descriptorFor handle = some d)
      (ho : d.configured key value = some o) :
      Affects b ⟨.configure handle key value, [], .status ⟨Ibsta.cmpl, 0⟩⟩
        { descriptors := b.descriptors.configure handle o,
          state := { b.state with ibsta := Ibsta.cmpl } }
  | unknown {op handle r b'} (hop : op.checked = some handle)
      (hd : b.descriptors.descriptorFor handle = none)
      (hr : r.status? = some ⟨Ibsta.err, Iberr.earg⟩)
      (hb' : b'.descriptors = b.descriptors) : Affects b ⟨op, [], r⟩ b'
  | other {op calls r b'} (hop : op.opensOrCloses = false)
      (hd : ∀ handle, op.checked = some handle → (b.descriptors.descriptorFor handle).isSome)
      (hr : ∀ handle s, r ≠ .opened handle s)
      (hb' : b'.descriptors = b.descriptors) : Affects b ⟨op, calls, r⟩ b'

/-! ## Runs of the operations -/

variable {b b' : GPIBBoard} {u : BoardTrace} {r : BoardResult}

theorem run_reporting_iff {α ρ : Type} {report : α → ρ} {r : ρ}
    {op : BoardState → BoardCalls (α × BoardState)} :
    Run (b.reporting report op) u (some (r, b')) ↔
      ∃ a s, Run (op b.state) u (a, s) ∧ r = report a ∧ b' = { b with state := s } := by
  simp only [reporting, onBus, bind_assoc, pure_bind, run_bind_iff]
  constructor
  · rintro ⟨v, ⟨a, s⟩, w, rfl, hv, hw⟩
    obtain ⟨rfl, heq⟩ := run_pure_iff.mp hw
    cases heq
    exact ⟨a, s, by simpa using hv, rfl, rfl⟩
  · rintro ⟨a, s, hrun, rfl, rfl⟩
    exact ⟨u, (a, s), [], by simp, hrun, .pure _⟩

theorem run_diagnosing {op : BoardState → BoardCalls UInt32}
    (h : Run (b.diagnosing op) u (some (r, b'))) : (∃ rc, r = .diag rc 0) ∧ b' = b := by
  obtain ⟨v, rc, w, rfl, -, hw⟩ := run_bind_iff.mp h
  cases (run_pure_iff.mp hw).2
  exact ⟨⟨rc, rfl⟩, rfl⟩

/-- A bus operation that looks no handle up, or finds it open. -/
theorem affects_reporting {α : Type} {report : α → BoardResult} {op : BoardOp}
    {bus : BoardState → BoardCalls (α × BoardState)} (hop : op.opensOrCloses = false)
    (hd : ∀ handle, op.checked = some handle → (b.descriptors.descriptorFor handle).isSome)
    (hreport : ∀ a handle s, report a ≠ .opened handle s)
    (h : Run (b.reporting report bus) u (some (r, b'))) : b.Affects ⟨op, u, r⟩ b' := by
  obtain ⟨a, s, -, rfl, rfl⟩ := run_reporting_iff.mp h
  exact .other hop hd (hreport a) rfl

/-- A bus operation that looks its handle up, and reports `a` when there is none. -/
theorem affects_looking_up {α : Type} (report : α → BoardResult)
    (bus : Option GPIBDescriptor → BoardState → BoardCalls (α × BoardState)) (a : α)
    {op : BoardOp} {handle : Int} (hop : op.opensOrCloses = false)
    (hchecked : op.checked = some handle) (hnone : ∀ s, ∃ s', bus none s = pure (a, s'))
    (ha : (report a).status? = some ⟨Ibsta.err, Iberr.earg⟩)
    (hreport : ∀ a handle s, report a ≠ .opened handle s)
    (h : Run (b.reporting report (bus (b.descriptors.descriptorFor handle))) u
      (some (r, b'))) : b.Affects ⟨op, u, r⟩ b' := by
  cases hd : b.descriptors.descriptorFor handle with
  | none =>
      rw [hd] at h
      obtain ⟨a', s', hrun, rfl, rfl⟩ := run_reporting_iff.mp h
      obtain ⟨s'', hs''⟩ := hnone b.state
      rw [hs''] at hrun
      obtain ⟨rfl, heq⟩ := run_pure_iff.mp hrun
      cases heq
      exact .unknown hchecked hd ha rfl
  | some d =>
      rw [hd] at h
      apply affects_reporting hop _ hreport h
      · intro handle' hhandle'
        rw [hchecked] at hhandle'
        cases hhandle'
        rw [hd]
        rfl

theorem affects_addressedCommand (command : UInt8) {op : BoardOp} {handle : Int}
    (hop : op.opensOrCloses = false) (hchecked : op.checked = some handle)
    (h : Run (b.reporting .status (BoardState.addressedCommand anyTransport command
      (b.descriptors.descriptorFor handle))) u (some (r, b'))) : b.Affects ⟨op, u, r⟩ b' :=
  affects_looking_up .status (BoardState.addressedCommand anyTransport command)
    ⟨Ibsta.err, Iberr.earg⟩ hop hchecked (fun _ => ⟨_, rfl⟩) rfl (by simp) h

/-- A diagnostic. -/
theorem affects_diagnosing {op : BoardOp} {bus : BoardState → BoardCalls UInt32}
    (hop : op.opensOrCloses = false) (hchecked : op.checked = none)
    (h : Run (b.diagnosing bus) u (some (r, b'))) : b.Affects ⟨op, u, r⟩ b' := by
  obtain ⟨⟨rc, rfl⟩, rfl⟩ := run_diagnosing h
  exact .other hop (by simp [hchecked]) (by simp) rfl

theorem affects_openDescriptor {o : DescriptorOptions}
    (h : Run (b.perform anyTransport anyUptime 0 (.openDescriptor o)) u (some (r, b'))) :
    b.Affects ⟨.openDescriptor o, u, r⟩ b' := by
  obtain ⟨rfl, heq⟩ := run_pure_iff.mp h
  cases hfree : b.descriptors.allocateHandle with
  | none =>
      simp only [DescriptorTable.openDescriptor, hfree, Option.map_none, Option.some.injEq,
        Prod.mk.injEq] at heq
      obtain ⟨rfl, rfl⟩ := heq
      exact .full hfree
  | some j =>
      simp only [DescriptorTable.openDescriptor, hfree, Option.map_some, Option.some.injEq,
        Prod.mk.injEq] at heq
      obtain ⟨rfl, rfl⟩ := heq
      exact .opened hfree

theorem affects_closeDescriptor {handle : Int}
    (h : Run (b.perform anyTransport anyUptime 0 (.closeDescriptor handle)) u
      (some (r, b'))) : b.Affects ⟨.closeDescriptor handle, u, r⟩ b' := by
  obtain ⟨rfl, heq⟩ := run_pure_iff.mp h
  cases hd : b.descriptors.descriptorFor handle with
  | none =>
      simp only [hd, Option.some.injEq, Prod.mk.injEq] at heq
      obtain ⟨rfl, rfl⟩ := heq
      exact .unknown rfl hd rfl rfl
  | some d =>
      simp only [hd, Option.some.injEq, Prod.mk.injEq] at heq
      obtain ⟨rfl, rfl⟩ := heq
      exact .closed hd

theorem affects_configure {handle : Int} {key : UInt32} {value : Int32}
    (h : Run (b.perform anyTransport anyUptime 0 (.configure handle key value)) u
      (some (r, b'))) : b.Affects ⟨.configure handle key value, u, r⟩ b' := by
  obtain ⟨rfl, heq⟩ := run_pure_iff.mp h
  cases hd : b.descriptors.descriptorFor handle with
  | none =>
      simp only [hd, Option.some.injEq, Prod.mk.injEq] at heq
      obtain ⟨rfl, rfl⟩ := heq
      exact .unknown rfl hd rfl rfl
  | some d =>
      cases ho : d.configured key value with
      | none =>
          simp only [hd, ho, Option.some.injEq, Prod.mk.injEq] at heq
          obtain ⟨rfl, rfl⟩ := heq
          exact .other rfl (by simp [BoardOp.checked, hd]) (by simp) rfl
      | some o =>
          simp only [hd, ho, Option.some.injEq, Prod.mk.injEq] at heq
          obtain ⟨rfl, rfl⟩ := heq
          exact .configured hd ho

theorem affects_ask {handle : Int} {option : UInt32}
    (h : Run (b.perform anyTransport anyUptime 0 (.ask handle option)) u (some (r, b'))) :
    b.Affects ⟨.ask handle option, u, r⟩ b' := by
  obtain ⟨rfl, heq⟩ := run_pure_iff.mp h
  cases hd : b.descriptors.descriptorFor handle with
  | none =>
      simp only [hd, Option.some.injEq, Prod.mk.injEq] at heq
      obtain ⟨rfl, rfl⟩ := heq
      exact .unknown rfl hd rfl rfl
  | some d =>
      cases hv : d.asked option with
      | none =>
          simp only [hd, hv, Option.some.injEq, Prod.mk.injEq] at heq
          obtain ⟨rfl, rfl⟩ := heq
          exact .other rfl (by simp [BoardOp.checked, hd]) (by simp) rfl
      | some v =>
          simp only [hd, hv, Option.some.injEq, Prod.mk.injEq] at heq
          obtain ⟨rfl, rfl⟩ := heq
          exact .other rfl (by simp [BoardOp.checked, hd]) (by simp) rfl

theorem affects_waitForStatus {fuel : Nat} {handle : Int} {mask : Int32} {timeoutUs : Nat}
    (h : Run (b.perform anyTransport anyUptime fuel (.waitForStatus handle mask timeoutUs)) u
      (some (r, b'))) : b.Affects ⟨.waitForStatus handle mask timeoutUs, u, r⟩ b' := by
  obtain ⟨v, o, w, rfl, hv, hw⟩ := run_bind_iff.mp h
  obtain ⟨rfl, heq⟩ := run_pure_iff.mp hw
  obtain ⟨⟨s, state⟩, ho, heq⟩ := Option.map_eq_some_iff.mp heq.symm
  cases heq
  rw [List.append_nil]
  cases hd : b.descriptors.descriptorFor handle with
  | none =>
      rw [hd] at hv
      obtain ⟨rfl, heq⟩ := run_pure_iff.mp hv
      rw [ho] at heq
      cases heq
      exact .unknown rfl hd rfl rfl
  | some d => exact .other rfl (by simp [BoardOp.checked, hd]) (by simp) rfl

theorem affects_readRawRegisterDiag {reg : UInt16}
    (h : Run (b.readRawRegisterDiag anyTransport reg) u (some (r, b'))) :
    b.Affects ⟨.readRawRegisterDiag reg, u, r⟩ b' := by
  rcases run_ite_iff.mp h with ⟨-, h⟩ | ⟨-, h⟩
  · cases (run_pure_iff.mp h).2
    exact .other rfl (by simp [BoardOp.checked]) (by simp) rfl
  · obtain ⟨⟨rc, raw⟩, w, rfl, hw⟩ := run_call_bind_iff.mp h
    have heq := (run_pure_iff.mp hw).2
    cases heq
    exact .other rfl (by simp [BoardOp.checked]) (by simp) rfl

/-- Every operation that returns affects the table in one of these ways. -/
theorem affects_of_performs {e : Event} (h : b.Performs e b') : b.Affects e b' := by
  obtain ⟨fuel, hrun⟩ := h
  obtain ⟨op, u, r⟩ := e
  cases op with
  | free =>
      obtain ⟨rfl, heq⟩ := run_pure_iff.mp hrun
      cases heq
      exact .other rfl (by simp [BoardOp.checked]) (by simp) rfl
  | openDescriptor o => exact affects_openDescriptor hrun
  | closeDescriptor handle => exact affects_closeDescriptor hrun
  | configure handle key value => exact affects_configure hrun
  | ask handle option => exact affects_ask hrun
  | waitForStatus handle mask timeoutUs => exact affects_waitForStatus hrun
  | write handle buf sendEoi =>
      exact affects_looking_up .counted (BoardState.write anyTransport · buf sendEoi)
        ⟨⟨Ibsta.err, Iberr.earg⟩, 0⟩ rfl rfl (fun s => ⟨_, rfl⟩) rfl (by simp) hrun
  | read handle requestCount =>
      exact affects_looking_up .read (BoardState.read anyTransport · requestCount)
        ⟨⟨⟨Ibsta.err, Iberr.earg⟩, 0⟩, false, []⟩ rfl rfl (fun s => ⟨_, rfl⟩) rfl (by simp) hrun
  | deviceClear handle => exact affects_addressedCommand CmdByte.sdc rfl rfl hrun
  | trigger handle => exact affects_addressedCommand CmdByte.get rfl rfl hrun
  | goToLocal handle => exact affects_addressedCommand CmdByte.gtl rfl rfl hrun
  | serialPoll handle =>
      exact affects_looking_up .polled (BoardState.serialPoll anyTransport)
        (0, ⟨Ibsta.err, Iberr.earg⟩) rfl rfl (fun s => ⟨_, rfl⟩) rfl (by simp) hrun
  | readRawRegisterDiag reg => exact affects_readRawRegisterDiag hrun
  | writeRawRegisterDiag reg value => exact affects_diagnosing rfl rfl hrun
  | setMaxDataChunkDiag bytes => exact affects_diagnosing rfl rfl hrun
  | resetDeviceDiag => exact affects_diagnosing rfl rfl hrun
  | softResetDiag =>
      have h : Run (b.reporting (fun rc => BoardResult.diag rc 0)
        (UserClient.softResetDiag anyTransport)) u (some (r, b')) := hrun
      exact affects_reporting rfl (by simp [BoardOp.checked]) (by simp) h
  | _ => exact affects_reporting rfl (by simp [BoardOp.checked]) (by simp) hrun

/-! ## What an operation leaves of the state -/

/-- The operation leaves the board's primary address alone. -/
def KeepsPAD {α : Type} (op : BoardState → BoardCalls (α × BoardState)) : Prop :=
  ∀ s, Leaves (op s) fun _ r => r.2.boardPAD = s.boardPAD

/-- A state after an operation that stored `ibsta`. -/
structure Stored (s : BoardState) (ibsta : UInt32) (s' : BoardState) : Prop where
  boardPAD : s'.boardPAD = s.boardPAD
  recoveryInProgress : s'.recoveryInProgress = s.recoveryInProgress
  ibsta : s'.ibsta = ibsta

/-- The operation stores the `ibsta` that it reports. -/
def Stores {α : Type} (ibsta : α → UInt32) (op : BoardState → BoardCalls (α × BoardState)) :
    Prop :=
  ∀ s, Leaves (op s) fun _ r => Stored s (ibsta r.1) r.2

theorem Stores.keepsPAD {α : Type} {ibsta : α → UInt32}
    {op : BoardState → BoardCalls (α × BoardState)} (h : Stores ibsta op) : KeepsPAD op :=
  fun s u r hrun => (h s u r hrun).boardPAD

section Stores

variable {T : IGPIBTransport BoardCalls}

/-- The last step of an operation: a call, and then a result either way. -/
theorem leaves_bind_pure {α β : Type} {p : BoardCalls α} {f : α → BoardCalls β}
    {Q : β → Prop} (hf : ∀ a, Leaves (f a) fun _ b => Q b) :
    Leaves (p >>= f) fun _ b => Q b :=
  leaves_bind (R := fun _ _ => True) (fun _ _ _ => trivial) fun _ a _ => hf a

theorem leaves_ite_pure {α : Type} {c : Prop} [Decidable c] {a a' : α} {Q : α → Prop}
    (ha : Q a) (ha' : Q a') :
    Leaves (if c then pure a else pure a' : BoardCalls α) fun _ b => Q b :=
  leaves_ite (fun _ => leaves_pure ha) fun _ => leaves_pure ha'

theorem stores_setOnline (online : Bool) : Stores id (BoardState.setOnline T online) := by
  intro s
  unfold BoardState.setOnline
  refine leaves_ite (fun _ => leaves_pure ⟨rfl, rfl, rfl⟩) fun _ => ?_
  refine leaves_ite (fun _ => ?_) fun _ => ?_
  · refine leaves_bind_pure fun _ => leaves_bind_pure fun _ => leaves_bind_pure fun _ => ?_
    exact leaves_pure ⟨rfl, rfl, rfl⟩
  · exact leaves_bind_pure fun _ => leaves_pure ⟨rfl, rfl, rfl⟩

/-- A recovery clears its flag again. -/
theorem leaves_recoverBus (desc : Option GPIBDescriptor) (s : BoardState) :
    Leaves (BoardState.recoverBus T desc s) fun _ r => r.2 = s := by
  unfold BoardState.recoverBus
  refine leaves_ite (fun _ => leaves_pure rfl) fun _ => ?_
  refine leaves_ite (fun _ => leaves_pure rfl) fun hidle => ?_
  have hcleared : { s with recoveryInProgress := false } = s := by
    rw [← Bool.eq_false_iff.mpr hidle]
  refine leaves_bind_pure fun _ => ?_
  refine leaves_ite (fun _ => leaves_pure hcleared) fun _ => ?_
  refine leaves_bind_pure fun _ => leaves_bind_pure fun _ => ?_
  refine leaves_ite (fun _ => leaves_bind_pure fun _ => ?_) fun _ => ?_
  · exact leaves_bind_pure fun _ => leaves_pure hcleared
  · exact leaves_bind_pure fun _ => leaves_pure hcleared

theorem leaves_addressWithRecovery (address : BoardCalls (Option Status)) (d : GPIBDescriptor)
    (s : BoardState) :
    Leaves (BoardState.addressWithRecovery T address d s) fun _ r => r.2 = s := by
  unfold BoardState.addressWithRecovery
  refine leaves_bind_pure fun failure => ?_
  cases failure with
  | none => exact leaves_pure rfl
  | some failure =>
      refine leaves_bind (leaves_recoverBus _ s) fun _ r hs => ?_
      refine leaves_ite (fun _ => ?_) fun _ => leaves_pure hs
      exact leaves_bind_pure fun _ => leaves_pure hs

theorem stores_write (desc : Option GPIBDescriptor) (buf : List UInt8) (sendEoi : Bool) :
    Stores (·.ibsta) (BoardState.write T desc buf sendEoi) := by
  intro s
  cases desc with
  | none => exact leaves_pure ⟨rfl, rfl, rfl⟩
  | some d =>
      unfold BoardState.write
      refine leaves_ite (fun _ => leaves_pure ⟨rfl, rfl, rfl⟩) fun _ => ?_
      refine leaves_ite (fun _ => leaves_pure ⟨rfl, rfl, rfl⟩) fun _ => ?_
      refine leaves_bind (leaves_addressWithRecovery _ _ s) ?_
      rintro - ⟨failure, s'⟩ rfl
      cases failure with
      | some status => exact leaves_pure ⟨rfl, rfl, rfl⟩
      | none => exact leaves_bind_pure fun _ => leaves_ite_pure ⟨rfl, rfl, rfl⟩ ⟨rfl, rfl, rfl⟩

theorem stores_read (desc : Option GPIBDescriptor) (requestCount : Nat) :
    Stores (·.ibsta) (BoardState.read T desc requestCount) := by
  intro s
  cases desc with
  | none => exact leaves_pure ⟨rfl, rfl, rfl⟩
  | some d =>
      unfold BoardState.read
      refine leaves_ite (fun _ => leaves_pure ⟨rfl, rfl, rfl⟩) fun _ => ?_
      refine leaves_ite (fun _ => leaves_pure ⟨rfl, rfl, rfl⟩) fun _ => ?_
      refine leaves_bind (leaves_addressWithRecovery _ _ s) ?_
      rintro - ⟨failure, s'⟩ rfl
      cases failure with
      | some status => exact leaves_pure ⟨rfl, rfl, rfl⟩
      | none => exact leaves_bind_pure fun _ => leaves_ite_pure ⟨rfl, rfl, rfl⟩ ⟨rfl, rfl, rfl⟩

theorem stores_addressedCommand (command : UInt8) (desc : Option GPIBDescriptor) :
    Stores (·.ibsta) (BoardState.addressedCommand T command desc) := by
  intro s
  cases desc with
  | none => exact leaves_pure ⟨rfl, rfl, rfl⟩
  | some d =>
      unfold BoardState.addressedCommand
      refine leaves_ite (fun _ => leaves_pure ⟨rfl, rfl, rfl⟩) fun _ => ?_
      exact leaves_bind_pure fun _ => leaves_ite_pure ⟨rfl, rfl, rfl⟩ ⟨rfl, rfl, rfl⟩

theorem stores_interfaceClear : Stores (·.ibsta) (BoardState.interfaceClear T) := by
  intro s
  unfold BoardState.interfaceClear
  refine leaves_ite (fun _ => leaves_pure ⟨rfl, rfl, rfl⟩) fun _ => ?_
  exact leaves_bind_pure fun _ => leaves_pure ⟨rfl, rfl, rfl⟩

theorem stores_remoteEnable (enable : Bool) :
    Stores (·.ibsta) (BoardState.remoteEnable T enable) := by
  intro s
  unfold BoardState.remoteEnable
  refine leaves_ite (fun _ => leaves_pure ⟨rfl, rfl, rfl⟩) fun _ => ?_
  exact leaves_bind_pure fun _ => leaves_pure ⟨rfl, rfl, rfl⟩

theorem stores_serialPoll (desc : Option GPIBDescriptor) :
    Stores (·.2.ibsta) (BoardState.serialPoll T desc) := by
  intro s
  cases desc with
  | none => exact leaves_pure ⟨rfl, rfl, rfl⟩
  | some d =>
      unfold BoardState.serialPoll
      refine leaves_ite (fun _ => leaves_pure ⟨rfl, rfl, rfl⟩) fun _ => ?_
      refine leaves_ite (fun _ => leaves_pure ⟨rfl, rfl, rfl⟩) fun _ => ?_
      refine leaves_bind_pure fun _ => leaves_ite (fun _ => leaves_pure ⟨rfl, rfl, rfl⟩) fun _ => ?_
      refine leaves_bind_pure fun _ => leaves_bind_pure fun _ => ?_
      exact leaves_ite (fun _ => leaves_pure ⟨rfl, rfl, rfl⟩) fun _ => leaves_pure ⟨rfl, rfl, rfl⟩

theorem leaves_softResetDiag (s : BoardState) :
    Leaves (UserClient.softResetDiag T s) fun _ r => r.2 = s := by
  unfold UserClient.softResetDiag
  refine leaves_ite (fun _ => leaves_pure rfl) fun _ => ?_
  refine leaves_bind (leaves_recoverBus none s) ?_
  rintro - ⟨recovered, s'⟩ rfl
  exact leaves_pure rfl

theorem stores_localLockout : Stores (·.ibsta) (BoardState.localLockout T) := by
  intro s
  unfold BoardState.localLockout
  refine leaves_ite (fun _ => leaves_pure ⟨rfl, rfl, rfl⟩) fun _ => ?_
  exact leaves_bind_pure fun _ => leaves_ite_pure ⟨rfl, rfl, rfl⟩ ⟨rfl, rfl, rfl⟩

theorem stores_listenerPresent (pad : UInt8) (sad : Int8) :
    Stores (·.2.ibsta) (BoardState.listenerPresent T pad sad) := by
  intro s
  unfold BoardState.listenerPresent
  refine leaves_ite (fun _ => leaves_pure ⟨rfl, rfl, rfl⟩) fun _ => ?_
  refine leaves_bind_pure fun _ => leaves_ite (fun _ => leaves_pure ⟨rfl, rfl, rfl⟩) fun _ => ?_
  exact leaves_bind_pure fun _ => leaves_pure ⟨rfl, rfl, rfl⟩

theorem stores_sendCommands (cmds : List UInt8) :
    Stores (·.ibsta) (BoardState.sendCommands T cmds) := by
  intro s
  unfold BoardState.sendCommands
  refine leaves_ite (fun _ => leaves_pure ⟨rfl, rfl, rfl⟩) fun _ => ?_
  exact leaves_bind_pure fun _ => leaves_ite_pure ⟨rfl, rfl, rfl⟩ ⟨rfl, rfl, rfl⟩

theorem stores_busLineStatus : Stores (·.2.ibsta) (BoardState.busLineStatus T) := by
  intro s
  unfold BoardState.busLineStatus
  refine leaves_ite (fun _ => leaves_pure ⟨rfl, rfl, rfl⟩) fun _ => ?_
  exact leaves_bind_pure fun _ => leaves_ite_pure ⟨rfl, rfl, rfl⟩ ⟨rfl, rfl, rfl⟩

end Stores

theorem boardPAD_of_reporting {α ρ : Type} {report : α → ρ} {r : ρ}
    {op : BoardState → BoardCalls (α × BoardState)} (hop : KeepsPAD op)
    (h : Run (b.reporting report op) u (some (r, b'))) : b'.state.boardPAD = b.state.boardPAD := by
  obtain ⟨a, s, hrun, -, rfl⟩ := run_reporting_iff.mp h
  exact hop b.state u (a, s) hrun

theorem stored_of_reporting {α : Type} {ibsta : α → UInt32} {report : α → BoardResult}
    {op : BoardState → BoardCalls (α × BoardState)} (hop : Stores ibsta op)
    (hreport : ∀ a before, (report a).stored before = ibsta a)
    (h : Run (b.reporting report op) u (some (r, b'))) :
    Stored b.state (r.stored b.state.ibsta) b'.state := by
  obtain ⟨a, s, hrun, rfl, rfl⟩ := run_reporting_iff.mp h
  rw [hreport]
  exact hop b.state u (a, s) hrun

theorem stored_of_waitForStatus {fuel : Nat} {handle : Int} {mask : Int32} {timeoutUs : Nat}
    (h : Run (b.perform anyTransport anyUptime fuel (.waitForStatus handle mask timeoutUs)) u
      (some (r, b'))) : Stored b.state (r.stored b.state.ibsta) b'.state := by
  obtain ⟨v, o, w, rfl, hv, hw⟩ := run_bind_iff.mp h
  obtain ⟨-, heq⟩ := run_pure_iff.mp hw
  obtain ⟨⟨status, s⟩, rfl, heq⟩ := Option.map_eq_some_iff.mp heq.symm
  cases heq
  have hstored : Leaves (BoardState.waitForStatus anyTransport anyUptime fuel
      (b.descriptors.descriptorFor handle) mask timeoutUs b.state)
      fun _ o => ∀ x ∈ o, Stored b.state x.1.ibsta x.2 := by
    cases b.descriptors.descriptorFor handle with
    | none => exact leaves_pure (by rintro x ⟨⟩; exact ⟨rfl, rfl, rfl⟩)
    | some d =>
        unfold BoardState.waitForStatus
        refine leaves_ite (fun _ => leaves_pure (by rintro x ⟨⟩; exact ⟨rfl, rfl, rfl⟩)) fun _ => ?_
        refine leaves_bind_pure fun _ => leaves_bind_pure fun o => leaves_pure ?_
        intro x hx
        obtain ⟨ibsta, -, rfl⟩ := Option.map_eq_some_iff.mp hx
        exact ⟨rfl, rfl, rfl⟩
  exact hstored v _ hv (status, s) rfl

theorem stored_openDescriptor (b : GPIBBoard) (o : DescriptorOptions) :
    Stored b.state b.state.ibsta (b.openDescriptor o).2.state := by
  unfold openDescriptor
  split <;> exact ⟨rfl, rfl, rfl⟩

theorem stored_closeDescriptor (b : GPIBBoard) (handle : Int) :
    Stored b.state (b.closeDescriptor handle).1.ibsta (b.closeDescriptor handle).2.state := by
  unfold closeDescriptor
  split <;> exact ⟨rfl, rfl, rfl⟩

theorem stored_configure (b : GPIBBoard) (handle : Int) (key : UInt32) (value : Int32) :
    Stored b.state (b.configure handle key value).1.ibsta
      (b.configure handle key value).2.state := by
  unfold configure
  split
  · exact ⟨rfl, rfl, rfl⟩
  · split <;> exact ⟨rfl, rfl, rfl⟩

theorem stored_ask (b : GPIBBoard) (handle : Int) (option : UInt32) :
    Stored b.state (b.ask handle option).1.2.ibsta (b.ask handle option).2.state := by
  unfold ask
  split
  · exact ⟨rfl, rfl, rfl⟩
  · split <;> exact ⟨rfl, rfl, rfl⟩

theorem stored_self (b : GPIBBoard) : Stored b.state b.state.ibsta b.state := ⟨rfl, rfl, rfl⟩

/-- An operation stores the status that it reports, unless it opens a descriptor or is a
diagnostic. -/
theorem stored_of_performs {e : Event} (h : b.Performs e b') :
    Stored b.state (e.result.stored b.state.ibsta) b'.state := by
  obtain ⟨fuel, hrun⟩ := h
  obtain ⟨op, u, r⟩ := e
  cases op with
  | waitForStatus handle mask timeoutUs => exact stored_of_waitForStatus hrun
  | setOnline online => exact stored_of_reporting (stores_setOnline _) (fun _ _ => rfl) hrun
  | write handle buf sendEoi =>
      exact stored_of_reporting (stores_write _ _ _) (fun _ _ => rfl) hrun
  | read handle requestCount => exact stored_of_reporting (stores_read _ _) (fun _ _ => rfl) hrun
  | deviceClear handle =>
      exact stored_of_reporting (stores_addressedCommand _ _) (fun _ _ => rfl) hrun
  | trigger handle =>
      exact stored_of_reporting (stores_addressedCommand _ _) (fun _ _ => rfl) hrun
  | goToLocal handle =>
      exact stored_of_reporting (stores_addressedCommand _ _) (fun _ _ => rfl) hrun
  | interfaceClear handle => exact stored_of_reporting stores_interfaceClear (fun _ _ => rfl) hrun
  | remoteEnable handle enable =>
      exact stored_of_reporting (stores_remoteEnable _) (fun _ _ => rfl) hrun
  | serialPoll handle => exact stored_of_reporting (stores_serialPoll _) (fun _ _ => rfl) hrun
  | localLockout handle => exact stored_of_reporting stores_localLockout (fun _ _ => rfl) hrun
  | listenerPresent pad sad =>
      exact stored_of_reporting (stores_listenerPresent _ _) (fun _ _ => rfl) hrun
  | sendCommands handle cmds =>
      exact stored_of_reporting (stores_sendCommands _) (fun _ _ => rfl) hrun
  | busLineStatus => exact stored_of_reporting stores_busLineStatus (fun _ _ => rfl) hrun
  | softResetDiag =>
      have h : Run (b.reporting (fun rc => BoardResult.diag rc 0)
        (UserClient.softResetDiag anyTransport)) u (some (r, b')) := hrun
      obtain ⟨a, s, hbus, rfl, rfl⟩ := run_reporting_iff.mp h
      obtain rfl : s = b.state := leaves_softResetDiag b.state _ _ hbus
      exact stored_self b
  | writeRawRegisterDiag reg value =>
      obtain ⟨⟨rc, rfl⟩, rfl⟩ := run_diagnosing hrun
      exact stored_self _
  | setMaxDataChunkDiag bytes =>
      obtain ⟨⟨rc, rfl⟩, rfl⟩ := run_diagnosing hrun
      exact stored_self _
  | resetDeviceDiag =>
      obtain ⟨⟨rc, rfl⟩, rfl⟩ := run_diagnosing hrun
      exact stored_self _
  | free =>
      cases (run_pure_iff.mp hrun).2
      exact ⟨rfl, rfl, rfl⟩
  | readRawRegisterDiag reg =>
      rcases run_ite_iff.mp hrun with ⟨-, h⟩ | ⟨-, h⟩
      · cases (run_pure_iff.mp h).2
        exact stored_self b
      · obtain ⟨⟨rc, raw⟩, w, rfl, hw⟩ := run_call_bind_iff.mp h
        have heq := (run_pure_iff.mp hw).2
        cases heq
        exact stored_self b
  | openDescriptor o =>
      cases (run_pure_iff.mp hrun).2
      exact stored_openDescriptor b o
  | closeDescriptor handle =>
      cases (run_pure_iff.mp hrun).2
      exact stored_closeDescriptor b handle
  | configure handle key value =>
      cases (run_pure_iff.mp hrun).2
      exact stored_configure b handle key value
  | ask handle option =>
      cases (run_pure_iff.mp hrun).2
      exact stored_ask b handle option

/-- No operation changes the board's primary address. -/
theorem boardPAD_of_performs {e : Event} (h : b.Performs e b') :
    b'.state.boardPAD = b.state.boardPAD :=
  (stored_of_performs h).boardPAD

end GPIBBoard

end DarwinGpib
