import DarwinGpib.Model.Usb

/-!
# The Agilent 82357A/B transport

`driver/devices/agilent_82357/Agilent82357Transport.cpp`.
-/

namespace DarwinGpib

open Interaction

/-- Which pipes, buffers and handles `attach` left non-null. -/
structure Agilent82357Transport where
  bulkOutPipe : Bool
  bulkInPipe : Bool
  outBuffer : Bool
  inBuffer : Bool
  device : Bool
  owner : Bool
  deriving DecidableEq, Repr

namespace Agilent82357Transport

/-! ## Wire constants -/

def kBulkBufferSize : Nat := 4096
def kRegOpTimeoutMs : Nat := 1000

def cmdWrite : UInt8 := 0x01
def cmdRead : UInt8 := 0x03
def cmdWrRegs : UInt8 := 0x04
def cmdRdRegs : UInt8 := 0x05

def arfEndOnEoi : UInt8 := 0x01
def arfNoAddress : UInt8 := 0x02
def arfEndOnEosChar : UInt8 := 0x04

def atrfEoi : UInt8 := 0x01
def atrfEos : UInt8 := 0x08

def awfSendEoi : UInt8 := 0x01
def awfNoFastTalkerFirstByte : UInt8 := 0x02
def awfNoFastTalker : UInt8 := 0x04
def awfNoAddress : UInt8 := 0x08
def awfAtn : UInt8 := 0x10

def controlRequest : UInt8 := 0x04
def xferAbort : UInt16 := 0xa0
def xferStatus : UInt16 := 0xb0
def xaFlush : UInt16 := 0x0001
def statusDataLen : Nat := 8

def tmsAuxcr : UInt8 := 3
def tmsBsr : UInt8 := 3
def auxCs : UInt8 := 0x80
def auxSic : UInt8 := 0x0f
def auxSre : UInt8 := 0x10

/-- `mapAgilentFwError` on the `AGILENT_UGP_*` codes. -/
def mapAgilentFwError (code : UInt8) : GPIBTransportError :=
  if code = 0 then .ok
  else if code = 6 ∨ code = 7 then .errAborted
  else .errIo

/-- `msFromUsec`, in 32-bit arithmetic. -/
def msFromUsec (timeoutUs : Nat) : Nat :=
  if timeoutUs = 0xFFFFFFFF then 0
  else
    let ms := (timeoutUs + 999) % 2 ^ 32 / 1000
    if ms = 0 then 1 else ms

/-! ## Transfers -/

def bulkOut (t : Agilent82357Transport) (bytes : List UInt8) (timeoutUs : Nat) :
    Usb GPIBTransportError := do
  if !t.bulkOutPipe || !t.outBuffer then return .errNotReady
  if bytes.length > kBulkBufferSize then return .errIo
  let ret ← Program.call Usb.Request.map
  if ret ≠ .success then return mapIOReturn ret
  let io ← Program.call (Usb.Request.pipeOut .bulkOut bytes (msFromUsec timeoutUs))
  if io.status ≠ .success then return mapIOReturn io.status
  return if io.transferred.val = bytes.length then .ok else .errIo

/-- `room` is what is left of the caller's array, `capacity` what the caller asks for. -/
def bulkIn (t : Agilent82357Transport) (room capacity timeoutUs : Nat) :
    Usb (GPIBTransportError × List UInt8) := do
  if !t.bulkInPipe || !t.inBuffer then return (.errNotReady, [])
  let io ← Program.call
    (Usb.Request.pipeIn .bulkIn (min capacity kBulkBufferSize) (msFromUsec timeoutUs))
  if io.status ≠ .success then return (mapIOReturn io.status, [])
  let ret ← Program.call Usb.Request.map
  if ret ≠ .success then return (mapIOReturn ret, [])
  let bytes ← Usb.copyTo room io.bytes
  return (.ok, bytes)

/-- The result of an abort is ignored by every caller. -/
def sendAbort (t : Agilent82357Transport) (flush : Bool) : Usb GPIBTransportError := do
  if !t.device || !t.owner then return .errNotReady
  let ret ← Program.call (Usb.Request.create 2)
  if ret ≠ .success then return mapIOReturn ret
  let io ← Program.call
    (Usb.Request.controlIn controlRequest xferAbort (if flush then xaFlush else 0) 2)
  if io.status ≠ .success ∨ io.bytes.length < 2 then return mapIOReturn io.status
  let ret ← Program.call Usb.Request.map
  if ret ≠ .success then return .ok
  Usb.checked do
    let r₀ ← io.bytes[0]?
    let r₁ ← io.bytes[1]?
    return if r₀ ≠ ~~~ xferAbort.toUInt8 then .errIo else mapAgilentFwError r₁

/-- Write registers given as address and value; at most 31 of them. -/
def writeRegisters (t : Agilent82357Transport) (writes : List (UInt8 × UInt8)) :
    Usb GPIBTransportError := do
  if writes.length = 0 then return .ok
  if writes.length > 31 then return .errIo
  let pkt := [cmdWrRegs, UInt8.ofNat writes.length] ++ writes.flatMap fun w => [w.1, w.2]
  let rc ← t.bulkOut pkt (kRegOpTimeoutMs * 1000)
  if rc ≠ .ok then return rc
  let (rc, resp) ← t.bulkIn 0x20 0x20 (kRegOpTimeoutMs * 1000)
  if rc ≠ .ok then return rc
  if resp.length < 2 then return .errIo
  Usb.checked do
    let r₀ ← resp[0]?
    let r₁ ← resp[1]?
    return if r₀ ≠ ~~~ cmdWrRegs then .errIo else mapAgilentFwError r₁

/-- Read registers; the values are empty unless the result is `ok`. -/
def readRegisters (t : Agilent82357Transport) (reads : List UInt8) :
    Usb (GPIBTransportError × List UInt8) := do
  let count := reads.length
  if count = 0 then return (.ok, [])
  if count > 62 then return (.errIo, [])
  let rc ← t.bulkOut ([cmdRdRegs, UInt8.ofNat count] ++ reads) (kRegOpTimeoutMs * 1000)
  if rc ≠ .ok then return (rc, [])
  let (rc, resp) ← t.bulkIn 0x40 0x40 (kRegOpTimeoutMs * 1000 * 10)
  if rc ≠ .ok then return (rc, [])
  if resp.length < 2 + count then return (.errIo, [])
  Usb.checked do
    let r₀ ← resp[0]?
    let r₁ ← resp[1]?
    if r₀ ≠ ~~~ cmdRdRegs then return (.errIo, [])
    if r₁ ≠ 0 then return (mapAgilentFwError r₁, [])
    let values ← (List.range count).mapM fun j => resp[2 + j]?
    return (.ok, values)

def writeReg (t : Agilent82357Transport) (address value : UInt8) : Usb GPIBTransportError :=
  t.writeRegisters [(address, value)]

def pulseInterfaceClear (t : Agilent82357Transport) : Usb GPIBTransportError := do
  let rc ← t.writeReg tmsAuxcr (auxCs ||| auxSic)
  if rc ≠ .ok then return rc
  t.writeReg tmsAuxcr auxSic

def setRemoteEnable (t : Agilent82357Transport) (enable : Bool) : Usb GPIBTransportError :=
  t.writeReg tmsAuxcr (if enable then auxSre ||| auxCs else auxSre)

/-! ## Commands and data -/

def kMaxPayload : Nat := kBulkBufferSize - 16

def commandPacket (cmds : List UInt8) : List UInt8 :=
  [cmdWrite, 0, 0, awfNoAddress ||| awfAtn ||| awfNoFastTalkerFirstByte ||| awfNoFastTalker] ++
    le32 cmds.length ++ cmds

def writePacket (buf : List UInt8) (sendEoi : Bool) : List UInt8 :=
  let flags := awfNoAddress ||| awfNoFastTalkerFirstByte
  [cmdWrite, 0, 0, if sendEoi then flags ||| awfSendEoi else flags] ++ le32 buf.length ++ buf

/-- The REOS test of the source has an empty branch, so `eos_flags` leaves no mark. -/
def readPacket (requestCount : Nat) (eosChar : UInt8) : List UInt8 :=
  [cmdRead, 0, 0, arfNoAddress ||| arfEndOnEoi] ++ le32 requestCount ++ [eosChar]

/-- At most `kMaxPayload` command bytes go out. -/
def sendCommandBytes (t : Agilent82357Transport) (cmds : List UInt8) :
    Usb GPIBTransportError := do
  if cmds.length = 0 then return .ok
  let rc ← t.bulkOut (commandPacket (cmds.take kMaxPayload)) (kRegOpTimeoutMs * 1000)
  if rc ≠ .ok then
    let _ ← t.sendAbort false
    return rc
  if !t.device || !t.owner then return .ok
  let ret ← Program.call (Usb.Request.create statusDataLen)
  if ret ≠ .success then return .ok
  let io ← Program.call (Usb.Request.controlIn controlRequest xferStatus 0 statusDataLen)
  return mapIOReturn io.status

def writeData (t : Agilent82357Transport) (buf : List UInt8) (sendEoi : Bool)
    (timeoutUs : Nat) : Usb WriteResult := do
  if buf.length = 0 then return .nothing .ok
  let payload := buf.take kMaxPayload
  let rc ← t.bulkOut (writePacket payload sendEoi) timeoutUs
  if rc ≠ .ok then
    let _ ← t.sendAbort false
    return .nothing rc
  if !t.device || !t.owner then return ⟨.ok, payload.length⟩
  let ret ← Program.call (Usb.Request.create statusDataLen)
  if ret ≠ .success then return ⟨.ok, payload.length⟩
  let io ← Program.call (Usb.Request.controlIn controlRequest xferStatus 0 statusDataLen)
  if io.status = .success ∧ 6 ≤ io.bytes.length then
    let ret ← Program.call Usb.Request.map
    if ret ≠ .success then return .nothing .ok
    Usb.checked do
      let r₂ ← io.bytes[2]?
      let r₃ ← io.bytes[3]?
      let r₄ ← io.bytes[4]?
      let r₅ ← io.bytes[5]?
      return ⟨.ok, fromLe32 r₂ r₃ r₄ r₅⟩
  else return ⟨.ok, payload.length⟩

def kMaxRead : Nat := kBulkBufferSize - 32

/-- What `readData` makes of the bytes in `stack_buf`. -/
def parseReadResponse (room requestCount : Nat) (resp : List UInt8) : Usb ReadResult := do
  let resp := resp.take (requestCount + 1)
  if resp.length = 0 then return .nothing .ok
  let trailing ← Usb.checked resp[resp.length - 1]?
  let buf ← Usb.copyTo room (resp.take (min (resp.length - 1) requestCount))
  return ⟨.ok, buf, buf.length, trailing &&& (atrfEoi ||| atrfEos) ≠ 0⟩

/-- A timeout of the first bulk-in is followed by a flush and a second bulk-in. -/
def readData (t : Agilent82357Transport) (requestCount : Nat) (eosChar _eosFlags : UInt8)
    (timeoutUs : Nat) : Usb ReadResult := do
  if requestCount = 0 then return .nothing .ok
  let count := min requestCount kMaxRead
  let rc ← t.bulkOut (readPacket count eosChar) timeoutUs
  if rc ≠ .ok then
    let _ ← t.sendAbort false
    return .nothing rc
  let (rc, resp) ← t.bulkIn kBulkBufferSize (count + 1) timeoutUs
  if rc = .errTimeout then
    let _ ← t.sendAbort true
    let (_, extra) ←
      t.bulkIn (kBulkBufferSize - resp.length) (count + 1 - resp.length) 100000
    parseReadResponse requestCount count (resp ++ extra)
  else if rc ≠ .ok then
    let _ ← t.sendAbort false
    return .nothing rc
  else parseReadResponse requestCount count resp

/-! ## Bus lines -/

/-- `BSR` bits, least significant first, and the lines they stand for. -/
def bsrLines : List (UInt8 × UInt16) :=
  [(0x01, BusLine.busREN), (0x02, BusLine.busIFC), (0x04, BusLine.busSRQ),
    (0x08, BusLine.busEOI), (0x10, BusLine.busNRFD), (0x20, BusLine.busNDAC),
    (0x40, BusLine.busDAV), (0x80, BusLine.busATN)]

/-- A line bit is set when its `BSR` bit is clear. -/
def linesOfBsr (bsr : UInt8) : UInt16 :=
  bsrLines.foldl (fun v l => if bsr &&& l.1 = 0 then v ||| l.2 else v) BusLine.validAll

def readBusLines (t : Agilent82357Transport) : Usb (GPIBTransportError × UInt16) := do
  let (rc, values) ← t.readRegisters [tmsBsr]
  if rc ≠ .ok then return (rc, 0)
  let bsr ← Usb.checked values[0]?
  return (.ok, linesOfBsr bsr)

/-- The transport as `GPIBBoard` sees it; what it does not override is the interface's
default. -/
def asTransport : IGPIBTransport (StateT Agilent82357Transport Usb) where
  pulseInterfaceClear := Usb.keeping pulseInterfaceClear
  setRemoteEnable enable := Usb.keeping fun t => t.setRemoteEnable enable
  sendCommandBytes cmds := Usb.keeping fun t => t.sendCommandBytes cmds
  writeData buf sendEoi timeoutUs := Usb.keeping fun t => t.writeData buf sendEoi timeoutUs
  readData requestCount eosChar eosFlags timeoutUs :=
    Usb.keeping fun t => t.readData requestCount eosChar eosFlags timeoutUs
  readBusLines := Usb.keeping readBusLines
  takeControl _ := pure .ok
  releaseAtn := pure .errIo
  readRawRegister _ := pure (.errIo, 0)
  writeRawRegister _ _ := pure .errIo
  softReset := pure .errNotReady
  resetDevice := pure .errNotReady
  setMaxDataChunk _ := pure .errNotReady

end Agilent82357Transport

end DarwinGpib
