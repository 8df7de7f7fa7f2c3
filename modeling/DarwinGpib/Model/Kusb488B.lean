import DarwinGpib.Model.Usb

/-!
# The KUSB-488B transport

`driver/devices/kusb_488b/KUSB488BTransport.cpp` on its firmware pipeline, which
`kUseFirmwarePipeline` selects for all three data operations. Operations that change a member
return the transport they leave behind.
-/

namespace DarwinGpib

open Interaction

/-- Which pipes, buffers and handles `attach` left non-null, and the members that change. -/
structure KUSB488BTransport where
  dataOutPipe : Bool
  cmdOutPipe : Bool
  dataInPipe : Bool
  outBuffer : Bool
  inBuffer : Bool
  ctrlBuffer : Bool
  device : Bool
  owner : Bool
  renAsserted : Bool
  /-- This chip is holding NRFD low after a read that ended on END. -/
  rfdHoldoffPending : Bool
  /-- `maxDataChunk_`; 0 disables chunking. -/
  maxDataChunk : Nat
  deriving DecidableEq, Repr

namespace KUSB488BTransport

/-! ## Wire constants -/

def kBulkBufferSize : Nat := 4096
def kStatusPollLimit : Nat := 100000
def kStatusGlitchBudgetNs : UInt64 := 500000000

def kAuxSetREN : UInt8 := 0x1F
def kAuxClearREN : UInt8 := 0x17
def kRegBusLines : UInt16 := 0x0107

def reqStatus : UInt8 := 0xB0
def reqCmdblock : UInt8 := 0xB1
def reqBeginCmd : UInt8 := 0xB3
def reqPulseIfc : UInt8 := 0xB4
def reqGts : UInt8 := 0xB7
def reqBeginWrite : UInt8 := 0xB9
def reqBeginRead : UInt8 := 0xBA
def reqAbort : UInt8 := 0xBB
def reqReg : UInt8 := 0xBD

def cmdSystemController : UInt16 := 1
def readWValue : UInt16 := 0x0100
def writeEoiShift : UInt16 := 8

def statusLenCmd : Nat := 7
def statusLenWrite : Nat := 6
def statusLenRead : Nat := 0x0B
def statusMinRead : Nat := 7
def statusLenIfc : Nat := 1
def countWidthCmd : Nat := 2
def countWidthData : Nat := 4

def stateBusy : UInt8 := 1
def stateDone : UInt8 := 2
def errAborted : UInt8 := 5

def maxCmdBytes : Nat := 0x200
def defaultMaxDataChunk : Nat := 64

def cmdAdmr : UInt8 := 0x04
def cmdAuxmr : UInt8 := 0x05
def cmdAdr : UInt8 := 0x06
def admrAdm0 : UInt8 := 0x01
def admrTrm : UInt8 := 0x30
def adrArs : UInt8 := 0x80
def adrDisableTl : UInt8 := 0x60
def auxPon : UInt8 := 0x00
def auxFh : UInt8 := 0x03
def auxGts : UInt8 := 0x10
def auxTca : UInt8 := 0x11
def auxTcs : UInt8 := 0x12
def auxCifc : UInt8 := 0x16
def auxSifc : UInt8 := 0x1E
def auxOnline : UInt8 := 0x20

def msFromUsec (timeoutUs : Nat) : Nat :=
  if timeoutUs = 0xFFFFFFFF then 0
  else if timeoutUs ≠ 0 ∧ timeoutUs / 1000 = 0 then 1
  else timeoutUs / 1000

/-! ## Control and bulk transfers -/

/-- The `DeviceRequest` of `controlOut`. -/
def deviceRequestOut (request : UInt8) (wValue wIndex : UInt16) (data : List UInt8) :
    Usb GPIBTransportError := do
  let io ← Program.call (Usb.Request.controlOut request wValue wIndex data)
  if io.status ≠ .success then return mapIOReturn io.status
  return if io.transferred.val ≠ data.length then .errIo else .ok

def controlOut (t : KUSB488BTransport) (request : UInt8) (wValue wIndex : UInt16)
    (data : List UInt8) : Usb GPIBTransportError := do
  if !t.device || !t.owner then return .errNotReady
  if data.length > 0 then
    if !t.ctrlBuffer || data.length > 64 then return .errIo
    let kr ← Program.call Usb.Request.map
    if kr ≠ .success then return mapIOReturn kr
  deviceRequestOut request wValue wIndex data

/-- `room` is the size of the caller's array, `len` what it asks for. -/
def controlIn (t : KUSB488BTransport) (request : UInt8) (wValue wIndex : UInt16)
    (room len : Nat) : Usb (GPIBTransportError × List UInt8) := do
  if !t.device || !t.owner || !t.ctrlBuffer then return (.errNotReady, [])
  if len > 64 then return (.errIo, [])
  let io ← Program.call (Usb.Request.controlIn request wValue wIndex len)
  if io.status ≠ .success then return (mapIOReturn io.status, [])
  let kr ← Program.call Usb.Request.map
  if kr ≠ .success then return (mapIOReturn kr, [])
  let data ← Usb.copyTo room io.bytes
  return (.ok, data)

/-- Hand over what is left, as often as the pipe accepts at least one byte of it. -/
def bulkOutLoop (pipe : Pipe) (timeoutMs : Nat) :
    (fuel : Nat) → (rest : List UInt8) → Usb GPIBTransportError
  | 0, _ => Usb.outOfFuel
  | fuel + 1, rest => do
      if rest.length = 0 then return .ok
      let kr ← Program.call Usb.Request.map
      if kr ≠ .success then return mapIOReturn kr
      let io ← Program.call (Usb.Request.pipeOut pipe (rest.take kBulkBufferSize) timeoutMs)
      if io.status ≠ .success then return mapIOReturn io.status
      if io.transferred.val = 0 then return .errIo
      bulkOutLoop pipe timeoutMs fuel (rest.drop io.transferred.val)

def bulkOut (t : KUSB488BTransport) (pipe : Pipe) (hasPipe : Bool) (bytes : List UInt8)
    (timeoutUs : Nat) : Usb GPIBTransportError := do
  if !hasPipe || !t.outBuffer then return .errNotReady
  bulkOutLoop pipe (msFromUsec timeoutUs) (bytes.length + 1) bytes

/-- The caller's array has `capacity` bytes left. -/
def bulkIn (t : KUSB488BTransport) (capacity timeoutUs : Nat) :
    Usb (GPIBTransportError × List UInt8) := do
  if !t.dataInPipe || !t.inBuffer then return (.errNotReady, [])
  let io ← Program.call
    (Usb.Request.pipeIn .dataIn (min capacity kBulkBufferSize) (msFromUsec timeoutUs))
  if io.status ≠ .success then return (mapIOReturn io.status, [])
  let kr ← Program.call Usb.Request.map
  if kr ≠ .success then return (mapIOReturn kr, [])
  let bytes ← Usb.copyTo capacity io.bytes
  return (.ok, bytes)

/-! ## Arming and polling -/

/-- The 8-byte header that arms a transfer: a 24-bit timeout and a 32-bit length. -/
def transferHeader (length timeoutUs : Nat) : List UInt8 :=
  let ms := msFromUsec timeoutUs
  [UInt8.ofNat ms, UInt8.ofNat (ms >>> 8), UInt8.ofNat (ms >>> 16), 0] ++ le32 length

def beginTransfer (t : KUSB488BTransport) (request : UInt8) (wValue wIndex : UInt16)
    (length timeoutUs : Nat) : Usb GPIBTransportError :=
  t.controlOut request wValue wIndex (transferHeader length timeoutUs)

def abortTransfer (t : KUSB488BTransport) : Usb GPIBTransportError :=
  t.controlOut reqAbort 0 0 []

def clearStall (hasPipe : Bool) (pipe : Pipe) : Usb Unit := do
  if hasPipe then
    let _ ← Program.call (Usb.Request.clearStall pipe)
  return ()

/-- Abort any armed transfer and clear a halted bulk endpoint. -/
def recoverFirmwareEngine (t : KUSB488BTransport) : Usb Unit := do
  let _ ← t.abortTransfer
  clearStall t.dataOutPipe .dataOut
  clearStall t.cmdOutPipe .cmdOut
  clearStall t.dataInPipe .dataIn

/-- The transferred count of a status block; commands report 16 bits, data 32. -/
def statusCount (statusLen countWidth : Nat) (buf : List UInt8) : Option Nat := do
  let b₂ ← buf[2]?
  let b₃ ← buf[3]?
  if countWidth = 4 ∧ 6 ≤ statusLen then
    let b₄ ← buf[4]?
    let b₅ ← buf[5]?
    return fromLe32 b₂ b₃ b₄ b₅
  else return fromLe32 b₂ b₃ 0 0

/-- What `pollStatus` returns for a status block that has left the busy state, with the
count it stores. -/
def statusOutcome (statusLen countWidth : Nat) (buf : List UInt8) :
    Option (GPIBTransportError × Nat) := do
  let state ← buf[0]?
  let err ← buf[1]?
  let count ← statusCount statusLen countWidth buf
  if state ≠ stateDone then
    return (if err = errAborted then .errTimeout else .errIo, count)
  return (.ok, count)

/-- Whether a deadline, 0 when unset, has passed. -/
def deadlinePassed (deadline : UInt64) : Usb Bool := do
  if deadline = 0 then return false
  let now ← Program.call Usb.Request.uptime
  return now > deadline

/-- The deadline of a poll; a timeout of 0 sets none. -/
def deadlineAfter (timeoutUs : Nat) : Usb UInt64 := do
  if timeoutUs = 0 then return 0
  let now ← Program.call Usb.Request.uptime
  return now + UInt64.ofNat (timeoutUs * 1000)

/-- The polling loop, with `fuel` polls left; `deadline` and `glitchStart` are 0 when
unset. -/
def pollLoop (t : KUSB488BTransport) (statusLen countWidth : Nat) (deadline : UInt64) :
    (fuel : Nat) → (glitchStart : UInt64) → Usb (GPIBTransportError × Nat)
  | 0, _ => do
      let _ ← t.abortTransfer
      return (.errTimeout, 0)
  | fuel + 1, glitchStart => do
      let late ← deadlinePassed deadline
      if late then
        let _ ← t.abortTransfer
        return (.errTimeout, 0)
      let (rc, buf) ← t.controlIn reqStatus 0 0 16 statusLen
      if rc ≠ .ok ∨ buf.length < statusLen then
        let now ← Program.call Usb.Request.uptime
        if glitchStart = 0 then
          t.pollLoop statusLen countWidth deadline fuel now
        else if now - glitchStart > kStatusGlitchBudgetNs then
          return (.errIo, 0)
        else t.pollLoop statusLen countWidth deadline fuel glitchStart
      else
        let state ← Usb.checked buf[0]?
        if state = stateBusy then t.pollLoop statusLen countWidth deadline fuel 0
        else Usb.checked (statusOutcome statusLen countWidth buf)

/-- Poll the status block until it leaves the busy state. -/
def pollStatus (t : KUSB488BTransport) (statusLen countWidth timeoutUs : Nat) :
    Usb (GPIBTransportError × Nat) := do
  if statusLen > 16 then return (.errIo, 0)
  let deadline ← deadlineAfter timeoutUs
  t.pollLoop statusLen countWidth deadline kStatusPollLimit 0

/-! ## Registers and bus control -/

def writeRawRegister (t : KUSB488BTransport) (reg : UInt16) (value : UInt8) :
    Usb GPIBTransportError :=
  t.controlOut reqReg reg 0 [value]

/-- `outValue` is written only when the result is `ok`. -/
def readRawRegister (t : KUSB488BTransport) (reg : UInt16) :
    Usb (GPIBTransportError × UInt8) := do
  let (rc, data) ← t.controlIn reqReg reg 0 1 1
  if rc ≠ .ok then return (rc, 0)
  if data.length < 1 then return (.errIo, 0)
  let v ← Usb.checked data[0]?
  return (.ok, v)

def writeCommandBlock (t : KUSB488BTransport) (block : List UInt8) :
    Usb GPIBTransportError := do
  if block.length = 0 ∨ block.length > 64 then return .errIo
  t.controlOut reqCmdblock 0 0 block

def writeAux (t : KUSB488BTransport) (value : UInt8) : Usb GPIBTransportError :=
  t.writeRawRegister cmdAuxmr.toUInt16 value

def takeControl (t : KUSB488BTransport) (synchronous : Bool) : Usb GPIBTransportError :=
  t.writeCommandBlock [cmdAuxmr, if synchronous then auxTcs else auxTca]

/-- `goToStandby` asks at most twice. -/
def goToStandby (t : KUSB488BTransport) : (attempts : Nat) → Usb GPIBTransportError
  | 0 => pure .errIo
  | attempts + 1 => do
      let rc ← t.controlOut reqGts 0 0 []
      if rc ≠ .ok then return rc
      let (rc, st) ← t.controlIn reqStatus 0 0 4 2
      if rc = .ok ∧ 1 ≤ st.length then
        let state ← Usb.checked st[0]?
        if state = stateDone then return .ok
        t.goToStandby attempts
      else t.goToStandby attempts

def releaseAtn (t : KUSB488BTransport) : Usb GPIBTransportError := do
  let rc ← t.goToStandby 2
  if rc = .ok then return rc
  t.writeRawRegister cmdAuxmr.toUInt16 auxGts

def pulseInterfaceClearViaAux (t : KUSB488BTransport) : Usb GPIBTransportError := do
  let rc ← t.writeRawRegister cmdAuxmr.toUInt16 auxSifc
  if rc ≠ .ok then return rc
  t.writeRawRegister cmdAuxmr.toUInt16 auxCifc

/-- One firmware pulse and the state it reports. `status` starts out zeroed and keeps its
previous byte when nothing is transferred. -/
def firmwarePulse (t : KUSB488BTransport) (previous : UInt8) :
    Usb (GPIBTransportError × UInt8) := do
  let rc ← t.controlOut reqPulseIfc 0 0 []
  if rc ≠ .ok then return (rc, previous)
  let (rc, status) ← t.controlIn reqStatus 0 0 statusLenIfc statusLenIfc
  return (rc, status.headD previous)

def pulseInterfaceClear (t : KUSB488BTransport) : Usb GPIBTransportError := do
  let auxRc ← t.pulseInterfaceClearViaAux
  if auxRc = .ok then return .ok
  let (rc, state) ← t.firmwarePulse 0
  if rc ≠ .ok then return rc
  if state ≠ stateDone then
    let (rc, state) ← t.firmwarePulse state
    if rc ≠ .ok then return rc
    return if state ≠ stateDone then .errIo else .ok
  return .ok

def setRemoteEnable (t : KUSB488BTransport) (enable : Bool) :
    Usb (GPIBTransportError × KUSB488BTransport) := do
  let rc ← t.writeAux (if enable then kAuxSetREN else kAuxClearREN)
  return (rc, if rc = .ok then { t with renAsserted := enable } else t)

/-- Finish a pending handshake, if and only if a holdoff is outstanding. -/
def releaseRfdHoldoffIfPending (t : KUSB488BTransport) : Usb KUSB488BTransport := do
  if !t.rfdHoldoffPending then return t
  let _ ← t.writeRawRegister cmdAuxmr.toUInt16 auxFh
  return { t with rfdHoldoffPending := false }

/-! ## Bring-up and recovery -/

def kInitBlockA : List UInt8 := [0x05, 0x02, 0x01, 0x00, 0x02, 0x00, 0x03, 0x00]
def kInitBlockB : List UInt8 := [0x05, 0x01, 0x02]
def kInitBlockC : List UInt8 :=
  [0x05, 0x70, 0x05, 0x82, 0x05, 0xC0, 0x05, 0xA8,
    0x05, 0xC0, 0x05, 0xD0, 0x05, 0x49, 0x05, 0xE1]
def kOnlineBlock : List UInt8 := [cmdAuxmr, auxOnline]

/-- The command blocks of the bring-up, in order, up to the first that fails. -/
def writeCommandBlocks (t : KUSB488BTransport) : List (List UInt8) → Usb GPIBTransportError
  | [] => pure .ok
  | block :: blocks => do
      let rc ← t.writeCommandBlock block
      if rc ≠ .ok then return rc
      t.writeCommandBlocks blocks

/-- The register writes of the bring-up, in order, up to the first that fails. -/
def writeRawRegisters (t : KUSB488BTransport) :
    List (UInt8 × UInt8) → Usb GPIBTransportError
  | [] => pure .ok
  | w :: ws => do
      let rc ← t.writeRawRegister w.1.toUInt16 w.2
      if rc ≠ .ok then return rc
      t.writeRawRegisters ws

def runBringUpSequence (t : KUSB488BTransport) :
    Usb (GPIBTransportError × KUSB488BTransport) := do
  t.recoverFirmwareEngine
  let rc ← t.writeCommandBlocks [kInitBlockA, kInitBlockB, kInitBlockC, kOnlineBlock]
  if rc ≠ .ok then return (rc, t)
  let rc ← t.writeRawRegisters
    [(cmdAdr, adrArs ||| adrDisableTl), (cmdAdr, 0x00), (cmdAdmr, admrAdm0 ||| admrTrm),
      (cmdAuxmr, auxPon)]
  if rc ≠ .ok then return (rc, t)
  return (.ok, { t with rfdHoldoffPending := false })

def softReset (t : KUSB488BTransport) : Usb (GPIBTransportError × KUSB488BTransport) :=
  t.runBringUpSequence

def resetDevice (t : KUSB488BTransport) : Usb GPIBTransportError := do
  if !t.device then return .errNotReady
  let ret ← Program.call Usb.Request.reset
  return mapIOReturn ret

def setMaxDataChunk (t : KUSB488BTransport) (bytes : Nat) : KUSB488BTransport :=
  { t with maxDataChunk := bytes }

/-! ## Commands and data -/

/-- Command bytes go out in transfers of at most `maxCmdBytes`. -/
def sendCommandsLoop (t : KUSB488BTransport) :
    (fuel : Nat) → (rest : List UInt8) → Usb GPIBTransportError
  | 0, _ => Usb.outOfFuel
  | fuel + 1, rest => do
      if rest.length = 0 then return .ok
      let chunk := rest.take maxCmdBytes
      let rc ← t.beginTransfer reqBeginCmd cmdSystemController 0 chunk.length 3000000
      if rc ≠ .ok then return rc
      let rc ← t.bulkOut .cmdOut t.cmdOutPipe chunk 3000000
      if rc ≠ .ok then
        t.recoverFirmwareEngine
        return rc
      let (rc, count) ← t.pollStatus statusLenCmd countWidthCmd 3000000
      if rc ≠ .ok then return rc
      if count ≠ chunk.length then return .errNoListener
      t.sendCommandsLoop fuel (rest.drop chunk.length)

/-- `sendCommandBytesViaFirmware`. -/
def sendCommandBytes (t : KUSB488BTransport) (cmds : List UInt8) :
    Usb (GPIBTransportError × KUSB488BTransport) := do
  if cmds.length = 0 then return (.ok, t)
  let t ← t.releaseRfdHoldoffIfPending
  let rc ← t.sendCommandsLoop (cmds.length + 1) cmds
  return (rc, t)

/-- The length of the next data chunk. -/
def chunkLength (t : KUSB488BTransport) (left : Nat) : Nat :=
  if t.maxDataChunk ≠ 0 ∧ left > t.maxDataChunk then t.maxDataChunk else left

/-- `wValue` of a data write: bit 8 asserts EOI, on the last chunk only. -/
def writeWValue (sendEoi lastChunk : Bool) : UInt16 :=
  (if sendEoi && lastChunk then 1 else 0) <<< writeEoiShift

/-- The chunk loop; `written` is `*outBytesWritten` so far. -/
def writeLoop (t : KUSB488BTransport) (sendEoi : Bool) (timeoutUs : Nat) :
    (fuel : Nat) → (rest : List UInt8) → (done written : Nat) → Usb WriteResult
  | 0, _, _, _ => Usb.outOfFuel
  | fuel + 1, rest, done, written => do
      if rest.length = 0 then return ⟨.ok, written⟩
      let chunk := rest.take (t.chunkLength rest.length)
      let rc ← t.beginTransfer reqBeginWrite
        (writeWValue sendEoi (chunk.length = rest.length)) 0 chunk.length timeoutUs
      if rc ≠ .ok then return ⟨rc, written⟩
      let rc ← t.bulkOut .dataOut t.dataOutPipe chunk timeoutUs
      if rc ≠ .ok then
        t.recoverFirmwareEngine
        return ⟨rc, written⟩
      let (rc, count) ← t.pollStatus statusLenWrite countWidthData timeoutUs
      if rc ≠ .ok then return ⟨rc, written⟩
      if count ≠ chunk.length then return ⟨.errNoListener, (done + count) % 2 ^ 32⟩
      t.writeLoop sendEoi timeoutUs fuel (rest.drop chunk.length) (done + chunk.length)
        ((done + count) % 2 ^ 32)

/-- `writeDataViaFirmware`. -/
def writeData (t : KUSB488BTransport) (buf : List UInt8) (sendEoi : Bool)
    (timeoutUs : Nat) : Usb (WriteResult × KUSB488BTransport) := do
  if buf.length = 0 then return (.nothing .ok, t)
  let t ← t.releaseRfdHoldoffIfPending
  let r ← t.writeLoop sendEoi timeoutUs (buf.length + 1) buf 0 0
  return (r, t)

/-- `wIndex` of a data read. `REOS` is 0x400 and `eos_flags` has 8 bits. -/
def readWIndex (eosChar eosFlags : UInt8) : UInt16 :=
  if eosFlags.toUInt32 &&& EosFlags.reos ≠ 0 then eosChar.toUInt16 else 10

/-- One bulk-in into what is left of `buf`. -/
def fetchChunk (t : KUSB488BTransport) (requestCount timeoutUs : Nat) (needData : Bool)
    (buf : List UInt8) : Usb (GPIBTransportError × List UInt8) := do
  if needData && buf.length < requestCount then
    let (rc, bytes) ← t.bulkIn (requestCount - buf.length) timeoutUs
    return (rc, buf ++ bytes)
  else return (.ok, buf)

/-- The loop of `readDataViaFirmware`, for at most `fuel` rounds. It ends with the result of an
early return or with the buffer and the status block after it. -/
def readLoop (t : KUSB488BTransport) (requestCount timeoutUs : Nat) :
    (fuel : Nat) → (needData : Bool) → (buf : List UInt8) → (glitchRetries : Nat) →
    Usb (Except ReadResult (List UInt8 × List UInt8))
  | 0, _, _, _ => Usb.outOfFuel
  | fuel + 1, needData, buf, glitchRetries => do
      let (rc, buf) ← t.fetchChunk requestCount timeoutUs needData buf
      if rc ≠ .ok then
        t.recoverFirmwareEngine
        return .error ⟨rc, buf, 0, false⟩
      let (rc, status) ← t.controlIn reqStatus 0 0 16 statusLenRead
      if rc ≠ .ok ∨ status.length < statusMinRead then
        if glitchRetries < 5 then
          t.readLoop requestCount timeoutUs fuel false buf (glitchRetries + 1)
        else
          t.recoverFirmwareEngine
          return .error ⟨.errIo, buf, 0, false⟩
      else
        let state ← Usb.checked status[0]?
        if state = stateDone then return .ok (buf, status)
        else if state ≠ stateBusy then
          t.recoverFirmwareEngine
          let err ← Usb.checked status[1]?
          return .error ⟨if err = errAborted then .errTimeout else .errIo, buf, 0, false⟩
        else if buf.length ≥ requestCount then
          t.recoverFirmwareEngine
          return .ok (buf, status)
        else t.readLoop requestCount timeoutUs fuel true buf 0

/-- `*outBytesRead` and `*outEnd` from the last status block. -/
def readOutcome (requestCount : Nat) (buf status : List UInt8) : Option ReadResult := do
  let s₂ ← status[2]?
  let s₃ ← status[3]?
  let s₄ ← status[4]?
  let s₅ ← status[5]?
  let s₆ ← status[6]?
  return ⟨.ok, buf, min (min (fromLe32 s₂ s₃ s₄ s₅) requestCount) buf.length, s₆ = 1⟩

/-- `readDataViaFirmware`. -/
def readData (fuel : Nat) (t : KUSB488BTransport) (requestCount : Nat)
    (eosChar eosFlags : UInt8) (timeoutUs : Nat) : Usb ReadResult := do
  if requestCount = 0 then return .nothing .ok
  let rc ← t.beginTransfer reqBeginRead readWValue (readWIndex eosChar eosFlags)
    requestCount timeoutUs
  if rc ≠ .ok then return .nothing rc
  match ← t.readLoop requestCount timeoutUs fuel true [] 0 with
  | .error r => return r
  | .ok (buf, status) => Usb.checked (readOutcome requestCount buf status)

/-! ## Bus lines -/

/-- Bits of the bus-line register, least significant first, and their lines. -/
def busLineBits : List (UInt8 × UInt16) :=
  [(0x01, BusLine.busREN), (0x02, BusLine.busIFC), (0x04, BusLine.busSRQ),
    (0x08, BusLine.busEOI), (0x10, BusLine.busNRFD), (0x20, BusLine.busNDAC),
    (0x40, BusLine.busDAV), (0x80, BusLine.busATN)]

/-- A line bit is set when its register bit is set. -/
def linesOfRegister (v : UInt8) : UInt16 :=
  busLineBits.foldl (fun lines l => if v &&& l.1 ≠ 0 then lines ||| l.2 else lines)
    BusLine.validAll

def readBusLines (t : KUSB488BTransport) : Usb (GPIBTransportError × UInt16) := do
  let (rc, v) ← t.readRawRegister kRegBusLines
  if rc ≠ .ok then return (rc, 0)
  return (.ok, linesOfRegister v)

/-- The transport as `GPIBBoard` sees it. -/
def asTransport (fuel : Nat) : IGPIBTransport (StateT KUSB488BTransport Usb) where
  pulseInterfaceClear := Usb.keeping pulseInterfaceClear
  setRemoteEnable enable := fun t => t.setRemoteEnable enable
  sendCommandBytes cmds := fun t => t.sendCommandBytes cmds
  writeData buf sendEoi timeoutUs := fun t => t.writeData buf sendEoi timeoutUs
  readData requestCount eosChar eosFlags timeoutUs :=
    Usb.keeping fun t => readData fuel t requestCount eosChar eosFlags timeoutUs
  readBusLines := Usb.keeping readBusLines
  takeControl synchronous := Usb.keeping fun t => t.takeControl synchronous
  releaseAtn := Usb.keeping releaseAtn
  readRawRegister reg := Usb.keeping fun t => t.readRawRegister reg
  writeRawRegister reg value := Usb.keeping fun t => t.writeRawRegister reg value
  softReset := softReset
  resetDevice := Usb.keeping resetDevice
  setMaxDataChunk bytes := fun t => pure (.ok, t.setMaxDataChunk bytes)

end KUSB488BTransport

end DarwinGpib
