import DarwinGpib.Transfer.NiReadResponse
import DarwinGpib.Transfer.Runs
import Mathlib.Order.Nat

/-!
# What the operations around a read ask for

Each operation that a read of the board performs, for any set of bad requests made of accesses
out of bounds and of the requests that begin a read. Such an operation makes none of them, and
`readData` makes none if it begins its reads well.
-/

namespace DarwinGpib

open Interaction

/-- A result that stores at most `n` bytes and reports at most `n`. -/
def ReadResult.Fits (n : Nat) (r : ReadResult) : Prop :=
  r.buf.length ≤ n ∧ r.bytesRead ≤ n

theorem fits_nothing (n : Nat) (rc : GPIBTransportError) : (ReadResult.nothing rc).Fits n :=
  ⟨Nat.zero_le n, Nat.zero_le n⟩

namespace Usb

/-- Requests that hand over a packet with this first byte. -/
def Request.Starts (opcode : UInt8) : Request → Prop
  | pipeOut _ (b :: _) _ => b = opcode
  | _ => False

/-- Only accesses out of bounds and requests satisfying `P` may be bad. -/
def OnlyBad (P bad : Request → Prop) : Prop := ∀ i, bad i → i = .overrun ∨ P i

theorem onlyBad_overrun (P : Request → Prop) : OnlyBad P (· = .overrun) :=
  fun _ => .inl

variable {P bad : Request → Prop} {opcode : UInt8}

theorem OnlyBad.not (hbad : OnlyBad P bad) {i : Request} (hi : i ≠ .overrun) (hP : ¬ P i) :
    ¬ bad i :=
  fun h => (hbad i h).elim hi hP

theorem OnlyBad.not_map (hbad : OnlyBad (·.Starts opcode) bad) : ¬ bad .map :=
  hbad.not (by simp) id

theorem OnlyBad.not_packet (hbad : OnlyBad (·.Starts opcode) bad) {b : UInt8} (hb : b ≠ opcode)
    {pipe : Pipe} {bytes : List UInt8} {timeoutMs : Nat} :
    ¬ bad (.pipeOut pipe (b :: bytes) timeoutMs) :=
  hbad.not (by simp) hb

theorem OnlyBad.overPipe_of_starts (hbad : OnlyBad (·.Starts opcode) bad) (i : Request)
    (h : bad i) : i.OverPipe := by
  rcases hbad i h with rfl | hstarts
  · trivial
  · cases i <;> simp_all [Request.Starts, Request.OverPipe]

/-- Requests that no operation around a transfer of data makes. -/
def Request.OfData : Request → Prop
  | pipeOut pipe _ _ => pipe = .dataOut
  | pipeIn _ _ _ | overrun => True
  | i => i.ArmsData

/-- Only requests of a transfer of data may be bad. -/
def OnlyData (bad : Request → Prop) : Prop := ∀ i, bad i → i.OfData

theorem OnlyBad.onlyData (hbad : OnlyBad Request.ArmsRead bad) : OnlyData bad := by
  intro i h
  rcases hbad i h with rfl | harms
  · trivial
  · cases i <;> simp_all [Request.ArmsRead, Request.OfData, Request.ArmsData]

theorem OnlyData.not_cmdOut (hbad : OnlyData bad) {data : List UInt8} {timeoutMs : Nat} :
    ¬ bad (.pipeOut .cmdOut data timeoutMs) :=
  fun h => Pipe.noConfusion (hbad _ h)

theorem OnlyData.streams (hbad : OnlyData bad) (i : Request) (h : bad i) : i.Streams := by
  have hdata := hbad i h
  cases i <;> simp_all [Request.OfData, Request.Streams]

theorem OnlyData.carries (hbad : OnlyData bad) (i : Request) (h : bad i) : i.Carries :=
  (hbad.streams i h).carries

end Usb

/-! ## NI -/

namespace NIUSBTransport

variable {bad : Usb.Request → Prop}

theorem ensures_parseReadResponse {room requestCount : Nat}
    (hroom : requestCount ≤ room) (resp : List UInt8) :
    Ensures bad (Usb.checked (parseReadResponse room requestCount resp))
      (ReadResult.Fits room) := by
  obtain ⟨p, buf, blockPayload, hwalk, hparse⟩ :=
    parseReadResponse_eq_some hroom resp
  have hbuf : buf.length ≤ room :=
    (hwalk.length_le (Nat.zero_le requestCount)).trans hroom
  rcases hparse with ⟨-, h⟩ | ⟨st, -, -, -, h⟩
  · exact Usb.ensures_checked ⟨_, h, hbuf, hbuf⟩
  · exact Usb.ensures_checked ⟨_, h, hbuf, (validBytes_le p buf blockPayload).trans hbuf⟩

variable (hbad : Usb.OnlyBad (·.Starts kNiOpcRead) bad)

include hbad

theorem ensures_bulkIn (t : NIUSBTransport) (capacity timeoutUs : Nat) :
    Ensures bad (t.bulkIn capacity timeoutUs) fun r => r.2.length ≤ capacity :=
  t.ensures_bulkIn_of hbad.not_map (hbad.not (by simp) (by simp [Usb.Request.Starts]))

theorem ensures_readData (t : NIUSBTransport) (requestCount : Nat)
    {eosChar eosFlags : UInt8} {timeoutUs : Nat}
    (hread : ∀ count, ¬ bad (.pipeOut .bulkOut (readPacket count eosChar eosFlags timeoutUs)
      (usbTimeoutMs timeoutUs))) :
    Ensures bad (t.readData requestCount eosChar eosFlags timeoutUs)
      (ReadResult.Fits requestCount) := by
  unfold readData
  refine ensures_ite (fun _ => ensures_pure (fits_nothing _ _)) fun _ => ?_
  refine ensures_bind (t.ensures_bulkOut hbad.not_map (hread _)) fun rc _ => ?_
  refine ensures_ite (fun _ => ensures_pure (fits_nothing _ _)) fun _ => ?_
  refine ensures_bind (t.ensures_bulkIn hbad _ _) ?_
  rintro ⟨rc', resp⟩ -
  refine ensures_ite (fun _ => ensures_pure (fits_nothing _ _)) fun _ => ?_
  exact ensures_parseReadResponse (Nat.min_le_left _ _) resp

theorem ensures_writeAuxCmd (t : NIUSBTransport) (auxCmd : UInt8) :
    Ensures bad (t.writeAuxCmd auxCmd) fun _ => True := by
  unfold writeAuxCmd writeRegister
  refine ensures_bind (t.ensures_bulkOut hbad.not_map (hbad.not_packet (by decide))) fun rc _ => ?_
  refine ensures_ite (fun _ => ensures_pure trivial) fun _ => ?_
  exact ensures_bind (t.ensures_bulkIn hbad _ _) fun _ _ => ensures_pure trivial

theorem ensures_pulseInterfaceClear (t : NIUSBTransport) :
    Ensures bad t.pulseInterfaceClear fun _ => True := by
  unfold pulseInterfaceClear
  refine ensures_bind (t.ensures_writeAuxCmd hbad _) fun rc _ => ?_
  exact ensures_ite (fun _ => ensures_pure trivial) fun _ => t.ensures_writeAuxCmd hbad _

theorem ensures_sendCommandBytes (t : NIUSBTransport) (cmds : List UInt8) :
    Ensures bad (t.sendCommandBytes cmds) fun _ => True := by
  unfold sendCommandBytes
  refine ensures_ite (fun _ => ensures_pure trivial) fun _ => ?_
  refine ensures_bind (t.ensures_bulkOut hbad.not_map (hbad.not_packet (by decide))) fun rc _ => ?_
  refine ensures_ite (fun _ => ensures_pure trivial) fun _ => ?_
  refine ensures_bind (t.ensures_bulkIn hbad _ _) ?_
  rintro ⟨rc', resp⟩ -
  refine ensures_ite (fun _ => ensures_pure trivial) fun _ => ?_
  refine ensures_ite (fun _ => ensures_pure trivial) fun hlen => ?_
  obtain ⟨st, hst⟩ := Option.isSome_iff_exists.mp
    (parseStatusBlock_isSome resp 0 (by omega))
  exact ensures_bind (P := fun _ => True) (Usb.ensures_checked ⟨st, hst, trivial⟩)
    fun _ _ => ensures_pure trivial

end NIUSBTransport

/-! ## Agilent -/

namespace Agilent82357Transport

variable {bad : Usb.Request → Prop}

theorem ensures_parseReadResponse {room requestCount : Nat}
    (hroom : requestCount ≤ room) (resp : List UInt8) :
    Ensures bad (parseReadResponse room requestCount resp) (ReadResult.Fits room) := by
  unfold parseReadResponse
  refine ensures_ite (fun _ => ensures_pure (fits_nothing _ _)) fun hlen => ?_
  refine ensures_bind (P := fun _ => True) ?_ fun trailing _ => ?_
  · refine Usb.ensures_checked ⟨_, List.getElem?_eq_getElem ?_, trivial⟩
    omega
  · set payload := (resp.take (requestCount + 1)).take
      (min ((resp.take (requestCount + 1)).length - 1) requestCount)
    have hpayload : payload.length ≤ room :=
      (List.length_take_le _ _).trans ((Nat.min_le_right _ _).trans hroom)
    refine ensures_bind (Usb.ensures_copyTo hpayload) fun buf hbuf => ensures_pure ?_
    rw [hbuf]
    exact ⟨hpayload, hpayload⟩

variable (hbad : Usb.OnlyBad (·.Starts cmdRead) bad)

include hbad

/-- A bulk-in that is offered no more than its caller has room for. -/
theorem ensures_bulkIn (t : Agilent82357Transport) {room capacity : Nat} (timeoutUs : Nat)
    (hroom : min capacity kBulkBufferSize ≤ room) :
    Ensures bad (t.bulkIn room capacity timeoutUs) fun r => r.2.length ≤ room := by
  unfold bulkIn
  refine ensures_ite (fun _ => ensures_pure (Nat.zero_le _)) fun _ => ?_
  refine ensures_call_bind (hbad.not (by simp) (by simp [Usb.Request.Starts])) fun io => ?_
  refine ensures_ite (fun _ => ensures_pure (Nat.zero_le _)) fun _ => ?_
  refine ensures_call_bind (hbad.not (by simp) (by simp [Usb.Request.Starts])) fun ret => ?_
  refine ensures_ite (fun _ => ensures_pure (Nat.zero_le _)) fun _ => ?_
  have hlen : io.bytes.length ≤ room := io.length_le.trans hroom
  refine ensures_bind (Usb.ensures_copyTo hlen) fun bytes hbytes => ensures_pure ?_
  rw [hbytes]
  exact hlen

theorem ensures_writeReg (t : Agilent82357Transport) (address value : UInt8) :
    Ensures bad (t.writeReg address value) fun _ => True := by
  unfold writeReg writeRegisters
  refine ensures_ite (fun _ => ensures_pure trivial) fun _ => ?_
  refine ensures_ite (fun _ => ensures_pure trivial) fun _ => ?_
  refine ensures_bind (t.ensures_bulkOut hbad.not_map (hbad.not_packet (by decide))) fun rc _ => ?_
  refine ensures_ite (fun _ => ensures_pure trivial) fun _ => ?_
  refine ensures_bind (t.ensures_bulkIn hbad _ (Nat.min_le_left _ _)) ?_
  rintro ⟨rc', resp⟩ -
  refine ensures_ite (fun _ => ensures_pure trivial) fun _ => ?_
  refine ensures_ite (fun _ => ensures_pure trivial) fun hlen => ?_
  have h₀ : 0 < resp.length := by omega
  have h₁ : 1 < resp.length := by omega
  exact Usb.ensures_checked (by simp [h₀, h₁])

theorem ensures_pulseInterfaceClear (t : Agilent82357Transport) :
    Ensures bad t.pulseInterfaceClear fun _ => True := by
  unfold pulseInterfaceClear
  refine ensures_bind (t.ensures_writeReg hbad _ _) fun rc _ => ?_
  exact ensures_ite (fun _ => ensures_pure trivial) fun _ => t.ensures_writeReg hbad _ _

theorem ensures_sendCommandBytes (t : Agilent82357Transport) (cmds : List UInt8) :
    Ensures bad (t.sendCommandBytes cmds) fun _ => True := by
  unfold sendCommandBytes
  refine ensures_ite (fun _ => ensures_pure trivial) fun _ => ?_
  refine ensures_bind (t.ensures_bulkOut hbad.not_map (hbad.not_packet (by decide))) fun rc _ => ?_
  refine ensures_ite (fun _ => ?_) fun _ => ?_
  · exact ensures_bind (t.ensures_sendAbort hbad.overPipe_of_starts _)
      fun _ _ => ensures_pure trivial
  refine ensures_ite (fun _ => ensures_pure trivial) fun _ => ?_
  refine ensures_call_bind (hbad.not (by simp) (by simp [Usb.Request.Starts])) fun ret => ?_
  refine ensures_ite (fun _ => ensures_pure trivial) fun _ => ?_
  exact ensures_call_bind (hbad.not (by simp) (by simp [Usb.Request.Starts]))
    fun io => ensures_pure trivial

theorem ensures_readData (t : Agilent82357Transport) (requestCount : Nat)
    {eosChar : UInt8} (eosFlags : UInt8) {timeoutUs : Nat}
    (hread : ∀ count, ¬ bad (.pipeOut .bulkOut (readPacket count eosChar)
      (msFromUsec timeoutUs))) :
    Ensures bad (t.readData requestCount eosChar eosFlags timeoutUs)
      (ReadResult.Fits requestCount) := by
  have hroom : min requestCount kMaxRead ≤ requestCount := Nat.min_le_left _ _
  unfold readData
  refine ensures_ite (fun _ => ensures_pure (fits_nothing _ _)) fun _ => ?_
  refine ensures_bind (t.ensures_bulkOut hbad.not_map (hread _)) fun rc _ => ?_
  refine ensures_ite (fun _ => ?_) fun _ => ?_
  · exact ensures_bind (t.ensures_sendAbort hbad.overPipe_of_starts _)
      fun _ _ => ensures_pure (fits_nothing _ _)
  refine ensures_bind (t.ensures_bulkIn hbad _ (Nat.min_le_right _ _)) ?_
  rintro ⟨rc', resp⟩ hresp
  refine ensures_ite (fun _ => ?_) fun _ => ?_
  · refine ensures_bind (t.ensures_sendAbort hbad.overPipe_of_starts _) fun _ _ => ?_
    have hmax : kMaxRead + 1 ≤ kBulkBufferSize := by decide
    refine ensures_bind (t.ensures_bulkIn hbad _ ?_) ?_
    · omega
    · rintro ⟨rc'', extra⟩ -
      exact ensures_parseReadResponse hroom _
  refine ensures_ite (fun _ => ?_) fun _ => ?_
  · exact ensures_bind (t.ensures_sendAbort hbad.overPipe_of_starts _)
      fun _ _ => ensures_pure (fits_nothing _ _)
  · exact ensures_parseReadResponse hroom _

end Agilent82357Transport

/-! ## KUSB-488B -/

namespace KUSB488BTransport

variable {bad : Usb.Request → Prop}

theorem ensures_readOutcome {requestCount : Nat} {buf status : List UInt8}
    (hbuf : buf.length ≤ requestCount) (hlen : statusMinRead ≤ status.length) :
    Ensures bad (Usb.checked (readOutcome requestCount buf status))
      (ReadResult.Fits requestCount) := by
  obtain ⟨count, ended, hread⟩ := readOutcome_eq_some requestCount buf hlen
  exact Usb.ensures_checked ⟨_, hread, hbuf, (Nat.min_le_right _ _).trans hbuf⟩

section Reading

variable (hbad : Usb.OnlyBad Usb.Request.ArmsRead bad)

include hbad

theorem ensures_bulkIn (t : KUSB488BTransport) (capacity timeoutUs : Nat) :
    Ensures bad (t.bulkIn capacity timeoutUs) fun r => r.2.length ≤ capacity := by
  unfold bulkIn
  refine ensures_ite (fun _ => ensures_pure (Nat.zero_le _)) fun _ => ?_
  refine ensures_call_bind (hbad.not (by simp) (by simp [Usb.Request.ArmsRead])) fun io => ?_
  refine ensures_ite (fun _ => ensures_pure (Nat.zero_le _)) fun _ => ?_
  refine ensures_call_bind (hbad.not (by simp) (by simp [Usb.Request.ArmsRead])) fun ret => ?_
  refine ensures_ite (fun _ => ensures_pure (Nat.zero_le _)) fun _ => ?_
  have hlen : io.bytes.length ≤ capacity := io.length_le.trans (Nat.min_le_left _ _)
  refine ensures_bind (Usb.ensures_copyTo hlen) fun bytes hbytes => ensures_pure ?_
  rw [hbytes]
  exact hlen

/-! ### Reading -/

theorem ensures_fetchChunk (t : KUSB488BTransport) {requestCount : Nat} (timeoutUs : Nat)
    (needData : Bool) {buf : List UInt8} (hbuf : buf.length ≤ requestCount) :
    Ensures bad (t.fetchChunk requestCount timeoutUs needData buf)
      fun r => r.2.length ≤ requestCount := by
  unfold fetchChunk
  refine ensures_ite (fun _ => ?_) fun _ => ensures_pure hbuf
  refine ensures_bind (t.ensures_bulkIn hbad _ _) ?_
  rintro ⟨rc, bytes⟩ hbytes
  refine ensures_pure ?_
  have hlen : bytes.length ≤ requestCount - buf.length := hbytes
  rw [List.length_append]
  omega

/-- What `readLoop` ends with. -/
def LoopResultFits (requestCount : Nat) :
    Except ReadResult (List UInt8 × List UInt8) → Prop
  | .error r => r.buf.length ≤ requestCount ∧ r.bytesRead ≤ requestCount
  | .ok (buf, status) => buf.length ≤ requestCount ∧ statusMinRead ≤ status.length

theorem ensures_readLoop (t : KUSB488BTransport) {requestCount : Nat} (timeoutUs fuel : Nat)
    (needData : Bool) {buf : List UInt8} (hbuf : buf.length ≤ requestCount)
    (glitchRetries : Nat) :
    Ensures bad (t.readLoop requestCount timeoutUs fuel needData buf glitchRetries)
      (LoopResultFits requestCount) := by
  induction fuel generalizing needData buf glitchRetries with
  | zero =>
      exact ⟨avoids_ask_iff.mpr ⟨hbad.not (by simp) id, fun r => r.elim⟩,
        fun _ _ h => (run_ask_iff.mp h).choose.elim⟩
  | succ fuel ih =>
      unfold readLoop
      refine ensures_bind (t.ensures_fetchChunk hbad timeoutUs needData hbuf) ?_
      rintro ⟨rc, buf⟩ hbuf
      refine ensures_ite (fun _ => ?_) fun _ => ?_
      · exact ensures_bind (t.ensures_recoverFirmwareEngine hbad.onlyData.carries) fun _ _ =>
          ensures_pure ⟨hbuf, Nat.zero_le _⟩
      refine ensures_bind (t.ensures_controlIn hbad.onlyData.streams _ _ _ (by decide)) ?_
      rintro ⟨rc', status⟩ -
      refine ensures_ite (fun _ => ?_) fun hfull => ?_
      · refine ensures_ite (fun _ => ih _ hbuf _) fun _ => ?_
        exact ensures_bind (t.ensures_recoverFirmwareEngine hbad.onlyData.carries) fun _ _ =>
          ensures_pure ⟨hbuf, Nat.zero_le _⟩
      have hlen : statusMinRead ≤ status.length := by
        by_contra h
        exact hfull (.inr (by omega))
      have hmin : statusMinRead = 7 := rfl
      have h₀ : 0 < status.length := by omega
      have h₁ : 1 < status.length := by omega
      refine ensures_bind (P := fun _ => True)
        (Usb.ensures_checked ⟨_, List.getElem?_eq_getElem h₀, trivial⟩) fun state _ => ?_
      refine ensures_ite (fun _ => ensures_pure ⟨hbuf, hlen⟩) fun _ => ?_
      refine ensures_ite (fun _ => ?_) fun _ => ?_
      · refine ensures_bind (t.ensures_recoverFirmwareEngine hbad.onlyData.carries) fun _ _ => ?_
        exact ensures_bind (P := fun _ => True)
          (Usb.ensures_checked ⟨_, List.getElem?_eq_getElem h₁, trivial⟩) fun err _ =>
            ensures_pure ⟨hbuf, Nat.zero_le _⟩
      refine ensures_ite (fun _ => ?_) fun _ => ih _ hbuf _
      exact ensures_bind (t.ensures_recoverFirmwareEngine hbad.onlyData.carries) fun _ _ =>
        ensures_pure ⟨hbuf, hlen⟩

theorem ensures_readData (fuel : Nat) (t : KUSB488BTransport) (requestCount : Nat)
    {eosChar eosFlags : UInt8} {timeoutUs : Nat}
    (hread : ¬ bad (.controlOut reqBeginRead readWValue (readWIndex eosChar eosFlags)
      (transferHeader requestCount timeoutUs))) :
    Ensures bad (readData fuel t requestCount eosChar eosFlags timeoutUs)
      (ReadResult.Fits requestCount) := by
  unfold readData beginTransfer
  refine ensures_ite (fun _ => ensures_pure (fits_nothing _ _)) fun _ => ?_
  refine ensures_bind (t.ensures_controlOut hbad.onlyData.carries hread) fun rc _ => ?_
  refine ensures_ite (fun _ => ensures_pure (fits_nothing _ _)) fun _ => ?_
  refine ensures_bind (t.ensures_readLoop hbad _ _ _ (Nat.zero_le _) _) ?_
  rintro (r | ⟨buf, status⟩) hloop
  · exact ensures_pure hloop
  · exact ensures_readOutcome hloop.1 hloop.2

end Reading

/-! ### The operations around a transfer -/

section Surrounding

variable (hbad : Usb.OnlyData bad)

include hbad

theorem ensures_writeCommandBlock (t : KUSB488BTransport) (block : List UInt8) :
    Ensures bad (t.writeCommandBlock block) fun _ => True := by
  unfold writeCommandBlock
  refine ensures_ite (fun _ => ensures_pure trivial) fun _ => ?_
  exact t.ensures_controlOut_of_ne hbad.carries (by decide) _ _ _

theorem ensures_firmwarePulse (t : KUSB488BTransport) (previous : UInt8) :
    Ensures bad (t.firmwarePulse previous) fun _ => True := by
  unfold firmwarePulse
  refine ensures_bind (t.ensures_controlOut_of_ne hbad.carries (by decide) _ _ _) fun rc _ => ?_
  refine ensures_ite (fun _ => ensures_pure trivial) fun _ => ?_
  refine ensures_bind (t.ensures_controlIn hbad.streams _ _ _ le_rfl) ?_
  rintro ⟨rc', status⟩ -
  exact ensures_pure trivial

theorem ensures_pulseInterfaceClear (t : KUSB488BTransport) :
    Ensures bad t.pulseInterfaceClear fun _ => True := by
  unfold pulseInterfaceClear pulseInterfaceClearViaAux
  refine ensures_bind (P := fun _ => True) ?_ fun auxRc _ => ?_
  · refine ensures_bind (t.ensures_writeRawRegister hbad.carries _ _) fun rc _ => ?_
    refine ensures_ite (fun _ => ensures_pure trivial) fun _ => ?_
    exact t.ensures_writeRawRegister hbad.carries _ _
  refine ensures_ite (fun _ => ensures_pure trivial) fun _ => ?_
  refine ensures_bind (t.ensures_firmwarePulse hbad _) ?_
  rintro ⟨rc, state⟩ -
  refine ensures_ite (fun _ => ensures_pure trivial) fun _ => ?_
  refine ensures_ite (fun _ => ?_) fun _ => ensures_pure trivial
  refine ensures_bind (t.ensures_firmwarePulse hbad _) ?_
  rintro ⟨rc', state'⟩ -
  exact ensures_ite (fun _ => ensures_pure trivial) fun _ => ensures_pure trivial

theorem ensures_setRemoteEnable (t : KUSB488BTransport) (enable : Bool) :
    Ensures bad (t.setRemoteEnable enable) fun _ => True := by
  unfold setRemoteEnable writeAux
  exact ensures_bind (t.ensures_writeRawRegister hbad.carries _ _) fun _ _ =>
    ensures_pure trivial

theorem ensures_sendCommandsLoop (t : KUSB488BTransport) (fuel : Nat) (rest : List UInt8) :
    Ensures bad (t.sendCommandsLoop fuel rest) fun _ => True := by
  induction fuel generalizing rest with
  | zero =>
      exact ⟨avoids_ask_iff.mpr ⟨hbad _, fun r => r.elim⟩, fun _ _ _ => trivial⟩
  | succ fuel ih =>
      unfold sendCommandsLoop beginTransfer
      refine ensures_ite (fun _ => ensures_pure trivial) fun _ => ?_
      refine ensures_bind (t.ensures_controlOut_of_ne hbad.carries (by decide) _ _ _) fun rc _ => ?_
      refine ensures_ite (fun _ => ensures_pure trivial) fun _ => ?_
      refine ensures_bind (t.ensures_bulkOut (hbad _) (hbad _)
        (fun _ _ => hbad.not_cmdOut) _ _ _) fun rc _ => ?_
      refine ensures_ite (fun _ => ?_) fun _ => ?_
      · exact ensures_bind (t.ensures_recoverFirmwareEngine hbad.carries) fun _ _ =>
          ensures_pure trivial
      refine ensures_bind (t.ensures_pollStatus hbad.streams _ _ (by decide)) ?_
      rintro ⟨rc', count⟩ -
      refine ensures_ite (fun _ => ensures_pure trivial) fun _ => ?_
      exact ensures_ite (fun _ => ensures_pure trivial) fun _ => ih _

theorem ensures_sendCommandBytes (t : KUSB488BTransport) (cmds : List UInt8) :
    Ensures bad (t.sendCommandBytes cmds) fun _ => True := by
  unfold sendCommandBytes
  refine ensures_ite (fun _ => ensures_pure trivial) fun _ => ?_
  refine ensures_bind (t.ensures_releaseRfdHoldoffIfPending hbad.carries) fun t' _ => ?_
  exact ensures_bind (t'.ensures_sendCommandsLoop hbad _ _) fun _ _ => ensures_pure trivial

theorem ensures_writeCommandBlocks (t : KUSB488BTransport) (blocks : List (List UInt8)) :
    Ensures bad (t.writeCommandBlocks blocks) fun _ => True := by
  induction blocks with
  | nil => exact ensures_pure trivial
  | cons block blocks ih =>
      unfold writeCommandBlocks
      refine ensures_bind (t.ensures_writeCommandBlock hbad _) fun rc _ => ?_
      exact ensures_ite (fun _ => ensures_pure trivial) fun _ => ih

theorem ensures_writeRawRegisters (t : KUSB488BTransport) (ws : List (UInt8 × UInt8)) :
    Ensures bad (t.writeRawRegisters ws) fun _ => True := by
  induction ws with
  | nil => exact ensures_pure trivial
  | cons w ws ih =>
      unfold writeRawRegisters
      refine ensures_bind (t.ensures_writeRawRegister hbad.carries _ _) fun rc _ => ?_
      exact ensures_ite (fun _ => ensures_pure trivial) fun _ => ih

theorem ensures_softReset (t : KUSB488BTransport) : Ensures bad t.softReset fun _ => True := by
  unfold softReset runBringUpSequence
  refine ensures_bind (t.ensures_recoverFirmwareEngine hbad.carries) fun _ _ => ?_
  refine ensures_bind (t.ensures_writeCommandBlocks hbad _) fun rc _ => ?_
  refine ensures_ite (fun _ => ensures_pure trivial) fun _ => ?_
  refine ensures_bind (t.ensures_writeRawRegisters hbad _) fun rc _ => ?_
  exact ensures_ite (fun _ => ensures_pure trivial) fun _ => ensures_pure trivial

end Surrounding

end KUSB488BTransport

end DarwinGpib
