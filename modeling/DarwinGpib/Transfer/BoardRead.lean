import DarwinGpib.Library.Stateful
import DarwinGpib.Model.UserClient
import DarwinGpib.Transfer.Operations

/-!
# Reads through the board

What a transport guarantees of its operations, a read of the board guarantees in turn: the
board adds addressing, one recovery and a status, and passes the transport's result through.
-/

namespace DarwinGpib

open Interaction

variable {τ : Type} {bad : Usb.Request → Prop}

/-! ## Transports -/

theorem stateEnsures_keeping {α : Type} {op : τ → Usb α} {Q : α → Prop}
    (h : ∀ t, Ensures bad (op t) Q) : StateEnsures bad (Usb.keeping op) Q :=
  fun t => ensures_bind (h t) fun _ ha => ensures_pure ha

/-- What is assumed of a transport: the operations around a read make no bad request, and a
read with good EOS settings neither, and its results satisfy `Q`. -/
structure TransportEnsures (bad : Usb.Request → Prop) (good : UInt8 → UInt8 → Prop)
    (Q : Nat → ReadResult → Prop) (T : IGPIBTransport (StateT τ Usb)) : Prop where
  pulseInterfaceClear : StateEnsures bad T.pulseInterfaceClear fun _ => True
  setRemoteEnable (enable : Bool) : StateEnsures bad (T.setRemoteEnable enable) fun _ => True
  sendCommandBytes (cmds : List UInt8) :
    StateEnsures bad (T.sendCommandBytes cmds) fun _ => True
  takeControl (synchronous : Bool) : StateEnsures bad (T.takeControl synchronous) fun _ => True
  softReset : StateEnsures bad T.softReset fun _ => True
  readData (n : Nat) (eosChar eosFlags : UInt8) (timeoutUs : Nat)
    (h : good eosChar eosFlags) :
    StateEnsures bad (T.readData n eosChar eosFlags timeoutUs) (Q n)

section Concrete

variable {good : UInt8 → UInt8 → Prop}

theorem NIUSBTransport.transportEnsures (hbad : Usb.OnlyBad (·.Starts kNiOpcRead) bad)
    (hread : ∀ c f, good c f → ∀ count us ms,
      ¬ bad (.pipeOut .bulkOut (readPacket count c f us) ms)) :
    TransportEnsures bad good ReadResult.Fits NIUSBTransport.asTransport where
  pulseInterfaceClear := stateEnsures_keeping (ensures_pulseInterfaceClear hbad)
  setRemoteEnable _ := stateEnsures_keeping fun t => t.ensures_writeAuxCmd hbad _
  sendCommandBytes _ := stateEnsures_keeping fun t => t.ensures_sendCommandBytes hbad _
  takeControl _ := stateEnsures_pure trivial
  softReset := stateEnsures_pure trivial
  readData _ _ _ _ h :=
    stateEnsures_keeping fun t => t.ensures_readData hbad _ fun _ => hread _ _ h _ _ _

theorem Agilent82357Transport.transportEnsures (hbad : Usb.OnlyBad (·.Starts cmdRead) bad)
    (hread : ∀ c f, good c f → ∀ count ms, ¬ bad (.pipeOut .bulkOut (readPacket count c) ms)) :
    TransportEnsures bad good ReadResult.Fits Agilent82357Transport.asTransport where
  pulseInterfaceClear := stateEnsures_keeping (ensures_pulseInterfaceClear hbad)
  setRemoteEnable _ := stateEnsures_keeping fun t => t.ensures_writeReg hbad _ _
  sendCommandBytes _ := stateEnsures_keeping fun t => t.ensures_sendCommandBytes hbad _
  takeControl _ := stateEnsures_pure trivial
  softReset := stateEnsures_pure trivial
  readData _ _ _ _ h :=
    stateEnsures_keeping fun t => t.ensures_readData hbad _ _ fun _ => hread _ _ h _ _

theorem KUSB488BTransport.transportEnsures_of_onlyData {Q : Nat → ReadResult → Prop}
    (hbad : Usb.OnlyData bad) (fuel : Nat)
    (hread : ∀ n c f timeoutUs, good c f →
      StateEnsures bad ((KUSB488BTransport.asTransport fuel).readData n c f timeoutUs) (Q n)) :
    TransportEnsures bad good Q (KUSB488BTransport.asTransport fuel) where
  pulseInterfaceClear := stateEnsures_keeping (ensures_pulseInterfaceClear hbad)
  setRemoteEnable _ t := t.ensures_setRemoteEnable hbad _
  sendCommandBytes _ t := t.ensures_sendCommandBytes hbad _
  takeControl _ := stateEnsures_keeping fun t => t.ensures_writeCommandBlock hbad _
  softReset t := t.ensures_softReset hbad
  readData := hread

theorem KUSB488BTransport.transportEnsures (hbad : Usb.OnlyBad Usb.Request.ArmsRead bad)
    (hread : ∀ c f, good c f → ∀ header,
      ¬ bad (.controlOut reqBeginRead readWValue (readWIndex c f) header)) (fuel : Nat) :
    TransportEnsures bad good ReadResult.Fits (KUSB488BTransport.asTransport fuel) :=
  transportEnsures_of_onlyData hbad.onlyData fuel fun _ _ _ _ h =>
    stateEnsures_keeping fun t => ensures_readData hbad fuel t _ (hread _ _ h _)

end Concrete

/-! ## A read of the board -/

variable {T : IGPIBTransport (StateT τ Usb)} {good : UInt8 → UInt8 → Prop}
  {Q : Nat → ReadResult → Prop}

theorem stateEnsures_recoverBus (hT : TransportEnsures bad good Q T)
    (desc : Option GPIBDescriptor) (s : BoardState) :
    StateEnsures bad (BoardState.recoverBus T desc s) fun _ => True := by
  unfold BoardState.recoverBus
  refine stateEnsures_ite (fun _ => stateEnsures_pure trivial) fun _ => ?_
  refine stateEnsures_ite (fun _ => stateEnsures_pure trivial) fun _ => ?_
  refine stateEnsures_bind hT.softReset fun rc _ => ?_
  refine stateEnsures_ite (fun _ => stateEnsures_pure trivial) fun _ => ?_
  refine stateEnsures_bind hT.pulseInterfaceClear fun _ _ => ?_
  refine stateEnsures_bind (hT.takeControl _) fun _ _ => ?_
  have hclear : StateEnsures bad (BoardState.clearTarget T desc) fun _ => True := by
    cases desc with
    | none => exact stateEnsures_pure trivial
    | some d =>
        exact stateEnsures_bind (hT.sendCommandBytes _) fun _ _ => stateEnsures_pure trivial
  refine stateEnsures_ite (fun _ => ?_) fun _ => ?_
  · refine stateEnsures_bind (hT.setRemoteEnable _) fun _ _ => ?_
    exact stateEnsures_bind hclear fun _ _ => stateEnsures_pure trivial
  · exact stateEnsures_bind hclear fun _ _ => stateEnsures_pure trivial

theorem stateEnsures_sendAddressing (hT : TransportEnsures bad good Q T) (cmds : List UInt8) :
    StateEnsures bad (BoardState.sendAddressing T cmds) fun _ => True :=
  stateEnsures_bind (hT.sendCommandBytes _) fun _ _ => stateEnsures_pure trivial

theorem stateEnsures_addressWithRecovery (hT : TransportEnsures bad good Q T)
    {address : StateT τ Usb (Option Status)} (h : StateEnsures bad address fun _ => True)
    (d : GPIBDescriptor) (s : BoardState) :
    StateEnsures bad (BoardState.addressWithRecovery T address d s) fun _ => True := by
  unfold BoardState.addressWithRecovery
  refine stateEnsures_bind h ?_
  rintro (_ | failure) -
  · exact stateEnsures_pure trivial
  refine stateEnsures_bind (stateEnsures_recoverBus hT _ _) fun recovered _ => ?_
  refine stateEnsures_ite (fun _ => ?_) fun _ => stateEnsures_pure trivial
  exact stateEnsures_bind h fun _ _ => stateEnsures_pure trivial

/-- What a read of the board returns, given what its transport's read may return: an error
with nothing delivered, or the transport's result with the status that goes with it. -/
def ReadOutcome (P : ReadResult → Prop) (r : ReadStatus) : Prop :=
  (r.ibsta = Ibsta.err ∧ r.ibcnt = 0 ∧ r.data = []) ∨
    ∃ rr, P rr ∧ r.data = rr.buf ∧ r.ibcnt = rr.bytesRead ∧ r.endFlag = rr.ended ∧
      r.ibsta = if rr.rc ≠ .ok then errIbsta rr.rc
        else if rr.ended then Ibsta.cmpl ||| Ibsta.end else Ibsta.cmpl

theorem stateEnsures_read (hT : TransportEnsures bad good Q T) {desc : Option GPIBDescriptor}
    (hgood : ∀ d, desc = some d → good d.eosChar d.eosFlags) (n : Nat) (s : BoardState) :
    StateEnsures bad (BoardState.read T desc n s) fun r => ReadOutcome (Q n) r.1 := by
  unfold BoardState.read
  cases desc with
  | none => exact stateEnsures_pure (.inl ⟨rfl, rfl, rfl⟩)
  | some d =>
      refine stateEnsures_ite (fun _ => stateEnsures_pure (.inl ⟨rfl, rfl, rfl⟩)) fun _ => ?_
      refine stateEnsures_ite (fun _ => stateEnsures_pure (.inl ⟨rfl, rfl, rfl⟩)) fun _ => ?_
      refine stateEnsures_bind (stateEnsures_addressWithRecovery hT
        (stateEnsures_sendAddressing hT _) _ _) ?_
      rintro ⟨_ | failure, s'⟩ -
      · refine stateEnsures_bind (hT.readData _ _ _ _ (hgood d rfl)) fun rr hrr => ?_
        refine stateEnsures_ite (fun hrc => ?_) fun hrc => ?_
        · exact stateEnsures_pure (.inr ⟨rr, hrr, rfl, rfl, rfl, by rw [if_pos hrc]⟩)
        · exact stateEnsures_pure (.inr ⟨rr, hrr, rfl, rfl, rfl, by rw [if_neg hrc]⟩)
      · exact stateEnsures_pure (.inl ⟨rfl, rfl, rfl⟩)

end DarwinGpib
