import DarwinGpib.Library.Blocks
import DarwinGpib.Transfer.BoardRead
import DarwinGpib.Transfer.CommandBytes
import DarwinGpib.Transfer.FirmwareEngine

/-!
# Armed writes of the KUSB-488B

What a write puts on the bus, read off its exchanges: each accepted BEGIN_WRITE announces a length
and says whether EOI goes with the last byte, and the bytes follow over the data pipe. However a
write is cut into chunks, its bytes are on the bus as they were given, with EOI on the last one.
-/

namespace DarwinGpib

open Blocks Interaction

namespace KUSB488BTransport

/-! ## What goes on the bus -/

/-- What an accepted BEGIN_WRITE arms. -/
structure WriteHeader where
  eoi : Bool
  announced : Nat
  timeoutMs : Nat
  deriving DecidableEq

/-- The 24-bit timeout in the header of a BEGIN request. -/
def headerTimeout : List UInt8 → Nat
  | b₀ :: b₁ :: b₂ :: _ => fromLe32 b₀ b₁ b₂ 0
  | _ => 0

/-- A BEGIN_WRITE of which the device takes the whole header. -/
def armsWrite : Exchange Usb.Request.Reply → Option WriteHeader
  | ⟨.controlOut request wValue _ data, io⟩ =>
      if request = reqBeginWrite ∧ io.status = .success ∧ io.transferred.val = data.length then
        some ⟨wValue &&& 0x100 ≠ 0, headerLength data, headerTimeout data⟩
      else none
  | _ => none

/-- The bytes that the data pipe takes in front of the first armed write, and each armed write with
the bytes that the data pipe takes behind it. -/
def armedWrites (u : Usb.Trace) : List UInt8 × List (WriteHeader × List UInt8) :=
  grouped armsWrite (Usb.acceptedBy .dataOut) u

/-- The bytes of an armed write as they go on the bus, each with EOI or without; EOI goes with the
last of the announced bytes. -/
def onBus (w : WriteHeader × List UInt8) : List (UInt8 × Bool) :=
  framed (w.1.eoi && w.1.announced ≤ w.2.length) (w.2.take w.1.announced)

/-- The bytes that the armed writes put on the bus. -/
def busStream (u : Usb.Trace) : List (UInt8 × Bool) :=
  (armedWrites u).2.flatMap onBus

/-- The header announces the bytes that follow, and the whole timeout. -/
def HeaderFits (timeoutUs : Nat) (w : WriteHeader × List UInt8) : Prop :=
  w.1.announced = w.2.length ∧ w.1.timeoutMs = msFromUsec timeoutUs

theorem headerTimeout_transferHeader (length : Nat) {timeoutUs : Nat} (h : timeoutUs < 2 ^ 32) :
    headerTimeout (transferHeader length timeoutUs) = msFromUsec timeoutUs := by
  have hms : msFromUsec timeoutUs < 2 ^ 24 := by
    unfold msFromUsec
    split
    · decide
    · split <;> omega
  simp only [headerTimeout, transferHeader, List.cons_append, fromLe32_eq, UInt8.toNat_ofNat',
    UInt8.toNat_zero, Nat.shiftRight_eq_div_pow]
  omega

theorem writeWValue_eoi (sendEoi lastChunk : Bool) :
    decide (writeWValue sendEoi lastChunk &&& 0x100 ≠ 0) = (sendEoi && lastChunk) := by
  cases sendEoi <;> cases lastChunk <;> decide

/-! ## Armed writes of a sequence of exchanges -/

/-- The exchanges put these bytes on the bus, all of them in armed writes whose headers fit. -/
structure PutsOnBus (timeoutUs : Nat) (u : Usb.Trace) (s : List (UInt8 × Bool)) : Prop where
  unarmed : (armedWrites u).1 = []
  stream : busStream u = s
  fits : ∀ w ∈ (armedWrites u).2, HeaderFits timeoutUs w

section PutsOnBus

variable {timeoutUs : Nat} {u v : Usb.Trace} {s s' : List (UInt8 × Bool)}

theorem putsOnBus_nil (timeoutUs : Nat) : PutsOnBus timeoutUs [] [] :=
  ⟨rfl, rfl, nofun⟩

theorem PutsOnBus.append (h : PutsOnBus timeoutUs u s) (h' : PutsOnBus timeoutUs v s') :
    PutsOnBus timeoutUs (u ++ v) (s ++ s') := by
  have happend : armedWrites (u ++ v) =
      ((armedWrites u).1, (armedWrites u).2 ++ (armedWrites v).2) := grouped_append h'.unarmed
  constructor
  · rw [happend, h.unarmed]
  · rw [busStream, happend, List.flatMap_append, ← h.stream, ← h'.stream]
    rfl
  · rw [happend]
    exact List.forall_mem_append.mpr ⟨h.fits, h'.fits⟩

/-- Exchanges that transfer no data. -/
def Quiet (u : Usb.Trace) : Prop := ∀ e ∈ u, ¬ e.request.OfData

theorem Quiet.armsWrite_eq_none (h : Quiet u) : ∀ e ∈ u, armsWrite e = none := by
  rintro ⟨i, r⟩ he
  cases i with
  | controlOut request wValue wIndex data =>
      exact if_neg fun harms => h _ he (.inr harms.1)
  | _ => rfl

theorem Quiet.accepted_eq_nil (h : Quiet u) : Usb.accepted .dataOut u = [] := by
  apply List.flatMap_eq_nil_iff.mpr
  rintro ⟨i, r⟩ he
  cases i with
  | pipeOut pipe data timeoutMs => exact if_neg fun hpipe => h _ he hpipe.1
  | _ => rfl

theorem Quiet.armedWrites_append (h : Quiet u) (v : Usb.Trace) :
    armedWrites (u ++ v) = armedWrites v := by
  have happend : armedWrites (u ++ v) = (u.flatMap (Usb.acceptedBy .dataOut) ++
      (armedWrites v).1, (armedWrites v).2) := grouped_append_of_eq_none h.armsWrite_eq_none
  have hnone : u.flatMap (Usb.acceptedBy .dataOut) = [] := h.accepted_eq_nil
  rw [happend, hnone]
  rfl

theorem Quiet.putsOnBus (h : Quiet u) (timeoutUs : Nat) : PutsOnBus timeoutUs u [] := by
  have hnone : armedWrites u = ([], []) := by
    have hu := h.armedWrites_append []
    rwa [List.append_nil] at hu
  exact ⟨by rw [hnone], by rw [busStream, hnone]; rfl, by rw [hnone]; nofun⟩

end PutsOnBus

/-! ## A write -/

section Write

variable {timeoutUs : Nat}

/-- What follows the exchanges belongs to the write that they armed. -/
def Arms (c : WriteHeader) (u : Usb.Trace) : Prop :=
  ∀ v, armedWrites (u ++ v) = ([], (c, (armedWrites v).1) :: (armedWrites v).2)

/-- A BEGIN_WRITE that succeeds arms the write that its header describes. -/
theorem leaves_beginWrite (t : KUSB488BTransport) (sendEoi lastChunk : Bool) {length : Nat}
    (hlength : length < 2 ^ 32) (htimeout : timeoutUs < 2 ^ 32) :
    Leaves (t.beginTransfer reqBeginWrite (writeWValue sendEoi lastChunk) 0 length timeoutUs)
      fun u rc => rc = .ok → Arms ⟨sendEoi && lastChunk, length, msFromUsec timeoutUs⟩ u := by
  intro u rc hrun hrc v
  have hends := follows_controlOut t reqBeginWrite (writeWValue sendEoi lastChunk) 0
    (transferHeader length timeoutUs) [] u rc hrun
  rw [List.nil_append] at hends
  cases hends with
  | unready hne _ => exact absurd hrc hne
  | unmapped hne _ _ => exact absurd hrc hne
  | @answered w io _ hw _ hiff =>
      have hquiet : Quiet w := by
        rcases hw with rfl | rfl
        · nofun
        · exact List.forall_mem_singleton.mpr fun h => h
      have harms : armsWrite ⟨.controlOut reqBeginWrite (writeWValue sendEoi lastChunk) 0
          (transferHeader length timeoutUs), io⟩ =
            some ⟨sendEoi && lastChunk, length, msFromUsec timeoutUs⟩ := by
        rw [armsWrite, if_pos ⟨rfl, hiff.mp hrc⟩, writeWValue_eoi,
          headerLength_transferHeader hlength, headerTimeout_transferHeader _ htimeout]
      rw [List.append_assoc, hquiet.armedWrites_append]
      exact grouped_cons_of_eq_some harms

/-- A bulk-out over the data pipe that succeeds gives all of its bytes to the armed write. -/
theorem leaves_bulkOut_dataOut (t : KUSB488BTransport) (hasPipe : Bool) (bytes : List UInt8)
    (timeoutUs : Nat) :
    Leaves (t.bulkOut .dataOut hasPipe bytes timeoutUs) fun u rc => rc = .ok →
      ∀ v, armedWrites (u ++ v) = (bytes ++ (armedWrites v).1, (armedWrites v).2) := by
  intro u rc hrun hrc v
  have harms : Ensures Usb.Request.ArmsData (t.bulkOut .dataOut hasPipe bytes timeoutUs)
      fun _ => True := t.ensures_bulkOut (fun h => h) (fun h => h) (fun _ _ h => h) _ _ _
  have hnone : ∀ e ∈ u, armsWrite e = none := by
    rintro ⟨i, r⟩ he
    cases i with
    | controlOut request wValue wIndex data =>
        exact if_neg fun h => (harms.leaves u rc hrun).1 _ he (.inr h.1)
    | _ => rfl
  have hbytes : u.flatMap (Usb.acceptedBy .dataOut) = bytes :=
    t.leaves_bulkOut .dataOut hasPipe bytes timeoutUs u rc hrun hrc
  rw [← hbytes]
  exact grouped_append_of_eq_none hnone

/-- A chunk that is armed, handed over and polled for. -/
theorem putsOnBus_chunk {u₁ u₂ u₃ : Usb.Trace} {c : WriteHeader} {bytes : List UInt8}
    (harms : Arms c u₁) (hlength : c.announced = bytes.length)
    (htimeout : c.timeoutMs = msFromUsec timeoutUs)
    (hbytes : ∀ v, armedWrites (u₂ ++ v) = (bytes ++ (armedWrites v).1, (armedWrites v).2))
    (hquiet : Quiet u₃) : PutsOnBus timeoutUs (u₁ ++ (u₂ ++ u₃)) (framed c.eoi bytes) := by
  have hpolled := hquiet.putsOnBus timeoutUs
  have hnone : armedWrites u₃ = ([], []) := by
    have hu₃ := hquiet.armedWrites_append []
    rwa [List.append_nil] at hu₃
  have hall : armedWrites (u₁ ++ (u₂ ++ u₃)) = ([], [(c, bytes)]) := by
    rw [harms, hbytes, hnone, List.append_nil]
  refine ⟨by rw [hall], ?_, ?_⟩
  · rw [busStream, hall, List.flatMap_singleton, onBus, hlength, List.take_length]
    simp
  · rw [hall]
    exact List.forall_mem_singleton.mpr ⟨hlength, htimeout⟩

/-- Whatever the chunks, a loop that succeeds has put all bytes on the bus, with EOI on the
last. -/
theorem leaves_writeLoop (t : KUSB488BTransport) (sendEoi : Bool) (htimeout : timeoutUs < 2 ^ 32)
    (fuel : Nat) (rest : List UInt8) (done written : Nat) (hlength : rest.length < 2 ^ 32) :
    Leaves (t.writeLoop sendEoi timeoutUs fuel rest done written) fun u r => r.rc = .ok →
      PutsOnBus timeoutUs u (framed sendEoi rest) := by
  induction fuel generalizing rest done written with
  | zero => exact fun u r h => absurd h Usb.not_run_outOfFuel
  | succ fuel ih =>
      unfold writeLoop
      apply leaves_ite
      · intro hempty
        rw [List.length_eq_zero_iff.mp hempty]
        exact leaves_pure fun _ => putsOnBus_nil timeoutUs
      intro _
      set chunk := rest.take (t.chunkLength rest.length)
      have hchunk : chunk.length < 2 ^ 32 := (List.length_take_le' _ rest).trans_lt hlength
      have hsplit : chunk ++ rest.drop chunk.length = rest := take_append_drop_length _ rest
      have hlast : decide (chunk.length = rest.length) = (rest.drop chunk.length).isEmpty := by
        have hle : chunk.length ≤ rest.length := List.length_take_le' _ rest
        rw [Bool.eq_iff_iff, decide_eq_true_iff, List.isEmpty_iff, List.drop_eq_nil_iff]
        omega
      refine leaves_bind (t.leaves_beginWrite sendEoi _ hchunk htimeout) ?_
      intro u₁ rc hu₁
      apply leaves_ite
      · intro hrc
        exact leaves_pure fun h => absurd h hrc
      intro hrc
      have harms := hu₁ (not_not.mp hrc)
      refine leaves_bind (t.leaves_bulkOut_dataOut _ _ _) ?_
      intro u₂ rc hu₂
      apply leaves_ite
      · intro hrc
        refine leaves_bind (R := fun _ _ => True) (fun _ _ _ => trivial) ?_
        intro _ _ _
        exact leaves_pure fun h => absurd h hrc
      intro hrc
      have hbytes := hu₂ (not_not.mp hrc)
      have hdata : Usb.OnlyData Usb.Request.OfData := fun _ h => h
      refine leaves_bind (t.ensures_pollStatus hdata.streams _ _ (by decide)).leaves ?_
      rintro u₃ ⟨rc, count⟩ ⟨hquiet, -⟩
      apply leaves_ite
      · intro hrc
        exact leaves_pure fun h => absurd h hrc
      intro _
      apply leaves_ite
      · intro _
        exact leaves_pure (by simp)
      intro _
      have hleft : (rest.drop chunk.length).length < 2 ^ 32 := by
        rw [List.length_drop]
        omega
      refine (ih _ _ _ hleft).mono fun u₄ r hu₄ hok => ?_
      have hputs := (putsOnBus_chunk harms rfl rfl hbytes hquiet).append (hu₄ hok)
      rw [hlast, framed_block, hsplit] at hputs
      simpa only [List.append_assoc] using hputs

theorem leaves_writeData (t : KUSB488BTransport) {buf : List UInt8} (sendEoi : Bool)
    (hlength : buf.length < 2 ^ 32) (htimeout : timeoutUs < 2 ^ 32) :
    Leaves (t.writeData buf sendEoi timeoutUs) fun u r => r.1.rc = .ok →
      PutsOnBus timeoutUs u (framed sendEoi buf) := by
  unfold writeData
  apply leaves_ite
  · intro hempty
    rw [List.length_eq_zero_iff.mp hempty]
    exact leaves_pure fun _ => putsOnBus_nil timeoutUs
  intro _
  have hdata : Usb.OnlyData Usb.Request.OfData := fun _ h => h
  refine leaves_bind (t.ensures_releaseRfdHoldoffIfPending hdata.carries).leaves ?_
  rintro u₁ t' ⟨hquiet, -⟩
  refine leaves_bind (t'.leaves_writeLoop sendEoi htimeout _ buf 0 0 hlength) ?_
  intro u₂ r hu₂
  refine leaves_pure fun hok => ?_
  rw [List.append_nil]
  have hquiet : Quiet u₁ := hquiet
  exact (hquiet.putsOnBus timeoutUs).append (hu₂ hok)

end Write

/-! ## A write of the board -/

section Board

variable {polls : Nat}

theorem transportEnsures_ofData (polls : Nat) :
    TransportEnsures Usb.Request.OfData (fun _ _ => False) (fun _ _ => True)
      (asTransport polls) :=
  transportEnsures_of_onlyData (fun _ h => h) polls fun _ _ _ _ h => h.elim

/-- Addressing the bus, and recovering it, transfers no data. -/
theorem quiet_of_addressWithRecovery {boardPAD : UInt8} {d : GPIBDescriptor} {s : BoardState}
    {t t' : KUSB488BTransport} {u : Usb.Trace} {r : Option Status × BoardState}
    (hrun : Run ((BoardState.addressWithRecovery (asTransport polls)
      (BoardState.addressForWrite (asTransport polls) boardPAD d) d s).run t) u (r, t')) :
    Quiet u := by
  have haddress : StateEnsures Usb.Request.OfData
      (BoardState.addressForWrite (asTransport polls) boardPAD d) fun _ => True :=
    stateEnsures_sendAddressing (transportEnsures_ofData polls) _
  exact ((stateEnsures_addressWithRecovery (transportEnsures_ofData polls) haddress d s).of_run
    hrun).1

/-- A write of the board that returns no error has put its bytes on the bus, with EOI on the last
if the descriptor has it enabled. -/
theorem putsOnBus_of_write {desc : Option GPIBDescriptor} {buf : List UInt8} {s : BoardState}
    {t t' : KUSB488BTransport} {u : Usb.Trace} {r : CountStatus × BoardState}
    (hlength : buf.length < 2 ^ 32) (htimeout : ∀ d, desc = some d → d.timeoutUs < 2 ^ 32)
    (hrun : Run ((BoardState.write (asTransport polls) desc buf true s).run t) u (r, t'))
    (hok : r.1.ibsta &&& Ibsta.err = 0) :
    ∃ d, desc = some d ∧ PutsOnBus d.timeoutUs u (framed d.eot buf) := by
  have herr : ¬ Ibsta.err &&& Ibsta.err = 0 := by decide
  unfold BoardState.write at hrun
  cases desc with
  | none =>
      obtain ⟨-, heq⟩ := run_stateT_pure_iff.mp hrun
      cases heq
      exact absurd hok herr
  | some d =>
      rcases run_stateT_guard_iff.mp hrun with ⟨-, -, ⟨⟩⟩ | ⟨-, hrun⟩
      · exact absurd hok herr
      rcases run_stateT_guard_iff.mp hrun with ⟨-, -, ⟨⟩⟩ | ⟨-, hrun⟩
      · exact absurd hok herr
      obtain ⟨v, ⟨failure, s'⟩, t₁, w, rfl, hv, hw⟩ := run_stateT_bind_iff.mp hrun
      have hquiet := quiet_of_addressWithRecovery hv
      cases failure with
      | some failure =>
          cases (run_stateT_pure_iff.mp hw).2
          exact absurd hok herr
      | none =>
          obtain ⟨x, rr, t₂, y, rfl, hx, hy⟩ := run_stateT_bind_iff.mp hw
          rcases run_stateT_guard_iff.mp hy with ⟨-, -, ⟨⟩⟩ | ⟨hrc, hy⟩
          · exact absurd hok errIbsta_and_err
          · obtain ⟨rfl, -⟩ := run_stateT_pure_iff.mp hy
            have hputs := t₁.leaves_writeData (true && d.eot) hlength (htimeout d rfl) x _ hx
              (not_not.mp hrc)
            rw [List.append_nil]
            exact ⟨d, rfl, (hquiet.putsOnBus _).append hputs⟩

end Board

end KUSB488BTransport

end DarwinGpib
