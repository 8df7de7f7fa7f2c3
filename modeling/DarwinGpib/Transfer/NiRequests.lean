import DarwinGpib.Library.PaddedFrame
import DarwinGpib.Transfer.BulkOut

/-!
# The requests of the NI transport

The framing of the request packets, as the comments in the transport write it down: opcode, one's
complement of the length minus one, timeout code, flags, payload, padding and terminator. Each
packet that the transport sends fits its array and is decoded to what went in.
-/

namespace DarwinGpib

open Interaction PaddedFrame

namespace NIUSBTransport

/-! ## The framing -/

/-- What a request packet says. -/
inductive Request where
  | command (length : Nat) (timeoutCode : UInt8) (cmds : List UInt8)
  | write (length : Nat) (timeoutCode : UInt8) (sendEoi : Bool) (payload : List UInt8)
  | read (length : Nat) (timeoutCode eosMode eosChar : UInt8)
  deriving DecidableEq, Repr

/-- The terminator `[TERM_ID][0,0,0]`. -/
def terminator : List UInt8 := [0x04, 0, 0, 0]

/-- A length from the one's complement of the length minus one, in one byte or in two. -/
def lengthOfByte (b : UInt8) : Nat := (~~~ b).toNat + 1
def lengthOfBytes (lo hi : UInt8) : Nat := (~~~ lo).toNat + 256 * (~~~ hi).toNat + 1

def eoiOfFlags (flags : UInt8) : Option Bool :=
  if flags = 0x08 then some true else if flags = 0x00 then some false else none

/-- The request in the body of a packet. The register writes of a read are always the same two. -/
def decodeBody : List UInt8 → Option Request
  | 0x0c :: lo :: 0x00 :: code :: rest => do
      let cmds ← unpad 0 4 (lengthOfByte lo) rest
      return .command (lengthOfByte lo) code cmds
  | 0x0d :: lo :: hi :: code :: 0 :: 0 :: flags :: 0 :: rest => do
      let sendEoi ← eoiOfFlags flags
      let payload ← unpad 0 4 (lengthOfBytes lo hi) rest
      return .write (lengthOfBytes lo hi) code sendEoi payload
  | 0x0a :: mode :: eosChar :: code :: lo :: hi :: 0 :: 0 ::
      0x09 :: 2 :: 0 :: 0x01 :: 0x0a :: 0x05 :: 0x01 :: 0x0a :: 0x04 :: rest => do
      let _ ← unpad 0 4 0 rest
      return .read (lengthOfBytes lo hi) code mode eosChar
  | _ => none

def decodeRequest (packet : List UInt8) : Option Request :=
  unframe 4 terminator packet >>= decodeBody

/-- The packet fits the array that it is built in and the buffer of the pipe, is terminated, and is
decoded to the request. -/
structure Framed (room : Nat) (packet : List UInt8) (request : Request) : Prop where
  fits_array : packet.length ≤ room
  fits_buffer : packet.length ≤ kBulkBufferSize
  aligned : packet.length % 4 = 0
  terminated : terminator <:+ packet
  decodes : decodeRequest packet = some request

/-! ## Lengths -/

theorem and_255 (n : Nat) : n &&& 255 = n % 256 := Nat.and_two_pow_sub_one_eq_mod n 8

theorem toNat_lowByte (v : UInt16) : (lowByte v).toNat = v.toNat % 256 := by
  simp [lowByte, and_255]

theorem toNat_highByte (v : UInt16) : (highByte v).toNat = v.toNat / 256 := by
  have hlt := v.toNat_lt
  simp only [highByte, UInt16.toNat_toUInt8, UInt16.toNat_and, UInt16.toNat_shiftRight,
    UInt16.reduceToNat, Nat.reduceMod, and_255, Nat.shiftRight_eq_div_pow]
  omega

theorem toNat_complement {n : Nat} (hle : n ≤ 2 ^ 16) :
    (complement n).toNat = UInt16.size - 1 - (n - 1) := by
  have hlt : n - 1 < 2 ^ 16 := by omega
  rw [complement, UInt16.toNat_not, UInt16.toNat_ofNat', Nat.mod_eq_of_lt hlt]

theorem lengthOfBytes_complement {n : Nat} (hpos : 1 ≤ n) (hle : n ≤ 2 ^ 16) :
    lengthOfBytes (lowByte (complement n)) (highByte (complement n)) = n := by
  rw [lengthOfBytes, UInt8.toNat_not, UInt8.toNat_not, toNat_lowByte, toNat_highByte,
    toNat_complement hle, UInt8.size, UInt16.size]
  omega

theorem lengthOfByte_complement {n : Nat} (hpos : 1 ≤ n) (hle : n ≤ 2 ^ 8) :
    lengthOfByte (lowByte (complement n)) = n := by
  rw [lengthOfByte, UInt8.toNat_not, toNat_lowByte, toNat_complement (by omega), UInt8.size,
    UInt16.size]
  omega

/-! ## Packets -/

theorem padToBoundary_eq_padded (pkt : List UInt8) : padToBoundary pkt 4 = padded 0 4 pkt := rfl

theorem framed_appendTermination {room : Nat} {body : List UInt8} {request : Request}
    (hroom : body.length + 7 ≤ room) (hbuffer : body.length + 7 ≤ kBulkBufferSize)
    (hdecodes : decodeBody (padToBoundary body 4) = some request) :
    Framed room (appendTermination (padToBoundary body 4)) request := by
  have hmod : (padToBoundary body 4).length % 4 = 0 := by
    rw [padToBoundary_eq_padded]
    exact length_padded_mod (by decide)
  have hlt : (padToBoundary body 4).length < body.length + 4 := by
    rw [padToBoundary_eq_padded]
    exact length_padded_lt (by decide)
  have hlen : (appendTermination (padToBoundary body 4)).length =
      (padToBoundary body 4).length + 4 := by simp [appendTermination]
  refine ⟨by omega, by omega, by omega, List.suffix_append _ _, ?_⟩
  have hunframe : unframe 4 terminator (appendTermination (padToBoundary body 4)) =
      some (padToBoundary body 4) := unframe_append (by decide) (by decide)
  rw [decodeRequest, hunframe]
  exact hdecodes

theorem framed_commandPacket {cmds : List UInt8} (hpos : 1 ≤ cmds.length)
    (hle : cmds.length ≤ 16) :
    Framed 64 (commandPacket cmds) (.command cmds.length (niTimeoutCode 3000000) cmds) := by
  refine framed_appendTermination ?_ ?_ ?_
  · simp
    omega
  · simp [kBulkBufferSize]
    omega
  · have hlen := lengthOfByte_complement hpos (by omega)
    simp [padToBoundary, decodeBody, kNiOpcCommand, hlen, unpad_append_replicate, Nat.mod_lt]

theorem framed_writePacket {buf : List UInt8} (hpos : 1 ≤ buf.length)
    (hle : buf.length ≤ kMaxPayload) (sendEoi : Bool) (timeoutUs : Nat) :
    Framed kBulkBufferSize (writePacket buf sendEoi timeoutUs)
      (.write buf.length (niTimeoutCode timeoutUs) sendEoi buf) := by
  have hroom : buf.length + 16 ≤ kBulkBufferSize := by
    unfold kMaxPayload kBulkBufferSize at *
    omega
  refine framed_appendTermination ?_ ?_ ?_
  · simp
    omega
  · simp
    omega
  · have hlen := lengthOfBytes_complement hpos (by unfold kBulkBufferSize at hroom; omega)
    have heoi : eoiOfFlags (if sendEoi then 0x08 else 0x00) = some sendEoi := by
      cases sendEoi <;> rfl
    simp [padToBoundary, decodeBody, kNiOpcWrite, hlen, heoi, unpad_append_replicate, Nat.mod_lt]

theorem framed_readPacket {requestCount : Nat} (hpos : 1 ≤ requestCount)
    (hle : requestCount ≤ kMaxRead) (eosChar eosFlags : UInt8) (timeoutUs : Nat) :
    Framed 64 (readPacket requestCount eosChar eosFlags timeoutUs)
      (.read requestCount (niTimeoutCode timeoutUs) (eosMode eosFlags) eosChar) := by
  refine framed_appendTermination ?_ ?_ ?_
  · simp
  · simp [kBulkBufferSize]
  · have hlen := lengthOfBytes_complement hpos (by unfold kMaxRead kBulkBufferSize at hle; omega)
    have hregister : necToTnt nec7210Auxmr = 0x0a := rfl
    simp [padToBoundary, decodeBody, kNiOpcRead, niusbRegWriteId, kNiSubdevTNT, hregister,
      auxHldi, auxClearEnd, hlen, unpad]

/-! ## Operations -/

/-- A bulk-out of anything but `packet`. -/
def Differs (packet : List UInt8) : Usb.Request → Prop
  | .pipeOut _ data _ => data ≠ packet
  | _ => False

/-- The operation hands over one packet and no other, and this packet says what is asked for. -/
structure Conveys {α : Type} (op : NIUSBTransport → Usb α) (room : Nat)
    (packet : List UInt8) (request : Request) : Prop where
  only : ∀ t, Avoids (Differs packet) (op t)
  offered : ∃ u timeoutMs, Reaches (op attached) u (.pipeOut .bulkOut packet timeoutMs)
  framed : Framed room packet request

section Operations

variable {packet : List UInt8}

theorem ensures_checked_differs {α : Type} (x : Option α) :
    Ensures (Differs packet) (Usb.checked x) fun _ => True := by
  cases x with
  | none => exact ⟨avoids_ask_iff.mpr ⟨id, fun r => r.elim⟩, fun _ _ _ => trivial⟩
  | some a => exact ensures_pure trivial

/-- Behind its bulk-out an operation only receives. -/
theorem avoids_bulkOut_bind {α : Type} (t : NIUSBTransport) (timeoutUs : Nat)
    {f : GPIBTransportError → Usb α} (hf : ∀ rc, Ensures (Differs packet) (f rc) fun _ => True) :
    Avoids (Differs packet) (t.bulkOut packet timeoutUs >>= f) :=
  (ensures_bind (t.ensures_bulkOut id fun h => h rfl) fun rc _ => hf rc).avoids

/-- An operation that gives up on either failed transfer and handles the reply behind them. -/
theorem avoids_exchange {α : Type} (t : NIUSBTransport) (timeoutUs room timeoutUs' : Nat)
    {failed : GPIBTransportError → α} {f : GPIBTransportError × List UInt8 → Usb α}
    (hf : ∀ resp, Ensures (Differs packet) (f resp) fun _ => True) :
    Avoids (Differs packet) (t.bulkOut packet timeoutUs >>= fun rc =>
      if rc ≠ .ok then pure (failed rc) else t.bulkIn room timeoutUs' >>= f) := by
  refine t.avoids_bulkOut_bind timeoutUs fun rc => ?_
  refine ensures_ite (fun _ => ensures_pure trivial) fun _ => ?_
  exact ensures_bind (t.ensures_bulkIn_of id id) fun resp _ => hf resp

theorem reaches_bulkOut_bind {α : Type} (hfits : packet.length ≤ kBulkBufferSize)
    (timeoutUs : Nat) (f : GPIBTransportError → Usb α) :
    ∃ u timeoutMs, Reaches (attached.bulkOut packet timeoutUs >>= f) u
      (.pipeOut .bulkOut packet timeoutMs) := by
  refine ⟨[Usb.mapped], usbTimeoutMs timeoutUs, ?_⟩
  have hbulkOut : attached.bulkOut packet timeoutUs = (do
      let ret ← Program.call Usb.Request.map
      if ret ≠ .success then return mapIOReturn ret
      let io ← Program.call (Usb.Request.pipeOut .bulkOut packet (usbTimeoutMs timeoutUs))
      return mapIOReturn io.status) := by
    simp [bulkOut, attached, Nat.not_lt.mpr hfits]
  rw [hbulkOut]
  exact .next .here

end Operations

theorem conveys_sendCommandBytes {cmds : List UInt8} (hpos : 1 ≤ cmds.length)
    (hle : cmds.length ≤ 16) :
    Conveys (·.sendCommandBytes cmds) 64 (commandPacket cmds)
      (.command cmds.length (niTimeoutCode 3000000) cmds) := by
  have hframed := framed_commandPacket hpos hle
  have htake : cmds.take 16 = cmds := List.take_of_length_le hle
  have hne : ¬ cmds.length = 0 := by omega
  refine ⟨fun t => ?_, ?_, hframed⟩
  · simp only [sendCommandBytes, if_neg hne, htake]
    refine t.avoids_exchange _ _ _ fun resp => ?_
    refine ensures_ite (fun _ => ensures_pure trivial) fun _ => ?_
    refine ensures_ite (fun _ => ensures_pure trivial) fun _ => ?_
    exact ensures_bind (ensures_checked_differs _) fun st _ => ensures_pure trivial
  · simp only [sendCommandBytes, if_neg hne, htake]
    exact reaches_bulkOut_bind hframed.fits_buffer _ _

theorem conveys_writeData {buf : List UInt8} (hpos : 1 ≤ buf.length)
    (hle : buf.length ≤ kMaxPayload) (sendEoi : Bool) (timeoutUs : Nat) :
    Conveys (·.writeData buf sendEoi timeoutUs) kBulkBufferSize
      (writePacket buf sendEoi timeoutUs)
      (.write buf.length (niTimeoutCode timeoutUs) sendEoi buf) := by
  have hframed := framed_writePacket hpos hle sendEoi timeoutUs
  have htake : buf.take kMaxPayload = buf := List.take_of_length_le hle
  have hne : ¬ buf.length = 0 := by omega
  refine ⟨fun t => ?_, ?_, hframed⟩
  · simp only [writeData, if_neg hne, htake]
    refine t.avoids_exchange _ _ _ fun resp => ?_
    refine ensures_ite (fun _ => ensures_pure trivial) fun _ => ?_
    refine ensures_ite (fun _ => ensures_pure trivial) fun _ => ?_
    exact ensures_bind (ensures_checked_differs _) fun st _ => ensures_pure trivial
  · simp only [writeData, if_neg hne, htake]
    exact reaches_bulkOut_bind hframed.fits_buffer _ _

theorem conveys_readData {requestCount : Nat} (hpos : 1 ≤ requestCount)
    (hle : requestCount ≤ kMaxRead) (eosChar eosFlags : UInt8) (timeoutUs : Nat) :
    Conveys (·.readData requestCount eosChar eosFlags timeoutUs) 64
      (readPacket requestCount eosChar eosFlags timeoutUs)
      (.read requestCount (niTimeoutCode timeoutUs) (eosMode eosFlags) eosChar) := by
  have hframed := framed_readPacket hpos hle eosChar eosFlags timeoutUs
  have hmin : min requestCount kMaxRead = requestCount := Nat.min_eq_left hle
  have hne : ¬ requestCount = 0 := by omega
  refine ⟨fun t => ?_, ?_, hframed⟩
  · simp only [readData, if_neg hne, hmin]
    refine t.avoids_exchange _ _ _ fun resp => ?_
    refine ensures_ite (fun _ => ensures_pure trivial) fun _ => ?_
    exact ensures_checked_differs _
  · simp only [readData, if_neg hne, hmin]
    exact reaches_bulkOut_bind hframed.fits_buffer _ _

/-- Every command sequence, payload and read count that a request can hold goes out in one packet,
which fits its array and the pipe's buffer and is decoded to exactly what was asked for. -/
theorem requests_framed (sendEoi : Bool) (eosChar eosFlags : UInt8) (timeoutUs : Nat) :
    (∀ cmds : List UInt8, 1 ≤ cmds.length → cmds.length ≤ 16 →
      Conveys (·.sendCommandBytes cmds) 64 (commandPacket cmds)
        (.command cmds.length (niTimeoutCode 3000000) cmds)) ∧
    (∀ buf : List UInt8, 1 ≤ buf.length → buf.length ≤ kMaxPayload →
      Conveys (·.writeData buf sendEoi timeoutUs) kBulkBufferSize
        (writePacket buf sendEoi timeoutUs)
        (.write buf.length (niTimeoutCode timeoutUs) sendEoi buf)) ∧
    ∀ requestCount : Nat, 1 ≤ requestCount → requestCount ≤ kMaxRead →
      Conveys (·.readData requestCount eosChar eosFlags timeoutUs) 64
        (readPacket requestCount eosChar eosFlags timeoutUs)
        (.read requestCount (niTimeoutCode timeoutUs) (eosMode eosFlags) eosChar) := by
  refine ⟨?_, ?_, ?_⟩
  · intro cmds hpos hle
    exact conveys_sendCommandBytes hpos hle
  · intro buf hpos hle
    exact conveys_writeData hpos hle sendEoi timeoutUs
  · intro requestCount hpos hle
    exact conveys_readData hpos hle eosChar eosFlags timeoutUs

/-- Unlisten and a talk address, then five bytes with EOI, then a read of 100 bytes that ends at a
line feed. -/
theorem requests_framed_idn :
    Framed 64 (commandPacket [0x3f, 0x45]) (.command 2 0xfc [0x3f, 0x45]) ∧
      Framed kBulkBufferSize (writePacket [0x2a, 0x49, 0x44, 0x4e, 0x3f] true 1000000)
        (.write 5 0xfb true [0x2a, 0x49, 0x44, 0x4e, 0x3f]) ∧
      Framed 64 (readPacket 100 0x0a 0x04 1000000) (.read 100 0xfb 0 0x0a) := by
  obtain ⟨hcommand, hwrite, hread⟩ := requests_framed true 0x0a 0x04 1000000
  exact ⟨(hcommand [0x3f, 0x45] (by decide) (by decide)).framed,
    (hwrite [0x2a, 0x49, 0x44, 0x4e, 0x3f] (by decide) (by decide)).framed,
    (hread 100 (by decide) (by decide)).framed⟩

end NIUSBTransport

end DarwinGpib
