import DarwinGpib.Model.Usb

/-!
# The NI USB-HS transport

`driver/devices/ni_usb/NIUSBTransport.cpp`. Packets are lists of bytes, built by append as the
source builds them with `pkt[i++]`; the response of the adapter is read at explicit indices,
each checked against the number of bytes received.
-/

namespace DarwinGpib

open Interaction

/-- Which pipes and buffers `openPipes` left non-null. -/
structure NIUSBTransport where
  bulkOutPipe : Bool
  bulkInPipe : Bool
  outBuffer : Bool
  inBuffer : Bool
  deriving DecidableEq, Repr

namespace NIUSBTransport

/-! ## Wire constants -/

def kBulkBufferSize : Nat := 4096
def kNiOpcCommand : UInt8 := 0x0c
def kNiOpcWrite : UInt8 := 0x0d
def kNiOpcRead : UInt8 := 0x0a
def kNiSubdevTNT : UInt8 := 0x01
def niusbTermId : UInt8 := 0x04
def niusbRegReadId : UInt8 := 0x08
def niusbRegWriteId : UInt8 := 0x09
def niusbRegisterReadDataStartId : UInt8 := 0x34
def niusbIbrdDataId : UInt8 := 0x36
def niusbIbrdExtendedDataId : UInt8 := 0x37
def niusbIbrdStatusId : UInt8 := 0x38

def nec7210Auxmr : UInt8 := 0x05
def necToTnt (reg : UInt8) : UInt8 := reg * 2

def auxPon : UInt8 := 0x00
def auxCr : UInt8 := 0x02
def auxClearEnd : UInt8 := 0x04
def auxHldi : UInt8 := 0x05
def auxCifc : UInt8 := 0x16
def auxCren : UInt8 := 0x17
def auxSifc : UInt8 := 0x1e
def auxSren : UInt8 := 0x1f

/-- The timeout code of every addressed request. -/
def niTimeoutCode (usec : Nat) : UInt8 :=
  if usec = 0xFFFFFFFF ∨ usec = 0 then 0xf0
  else if usec ≤ 10 then 0xf1
  else if usec ≤ 30 then 0xf2
  else if usec ≤ 100 then 0xf3
  else if usec ≤ 300 then 0xf4
  else if usec ≤ 1000 then 0xf5
  else if usec ≤ 3000 then 0xf6
  else if usec ≤ 10000 then 0xf7
  else if usec ≤ 30000 then 0xf8
  else if usec ≤ 100000 then 0xf9
  else if usec ≤ 300000 then 0xfa
  else if usec ≤ 1000000 then 0xfb
  else if usec ≤ 3000000 then 0xfc
  else if usec ≤ 10000000 then 0xfd
  else if usec ≤ 30000000 then 0xfe
  else if usec ≤ 100000000 then 0xff
  else if usec ≤ 300000000 then 0x01
  else 0x02

/-! ## Framing -/

/-- The trailer required by every bulk-out packet. -/
def appendTermination (pkt : List UInt8) : List UInt8 := pkt ++ [niusbTermId, 0, 0, 0]

def padToBoundary (pkt : List UInt8) (boundary : Nat) : List UInt8 :=
  pkt ++ List.replicate ((boundary - pkt.length % boundary) % boundary) 0

/-- `~(len - 1)`, the length field of the wire format. -/
def complement (len : Nat) : UInt16 := ~~~ UInt16.ofNat (len - 1)

def lowByte (v : UInt16) : UInt8 := (v &&& 0xff).toUInt8
def highByte (v : UInt16) : UInt8 := ((v >>> 8) &&& 0xff).toUInt8

def commandPacket (cmds : List UInt8) : List UInt8 :=
  appendTermination (padToBoundary
    ([kNiOpcCommand, lowByte (complement cmds.length), 0, niTimeoutCode 3000000] ++ cmds) 4)

def writePacket (buf : List UInt8) (sendEoi : Bool) (timeoutUs : Nat) : List UInt8 :=
  appendTermination (padToBoundary
    ([kNiOpcWrite, lowByte (complement buf.length), highByte (complement buf.length),
      niTimeoutCode timeoutUs, 0, 0, if sendEoi then 0x08 else 0x00, 0] ++ buf) 4)

/-- `(eos_flags >> 8) & 0xff`, evaluated in `int` on an 8-bit parameter. -/
def eosMode (eosFlags : UInt8) : UInt8 := UInt8.ofNat ((eosFlags.toNat >>> 8) &&& 0xff)

def readPacket (requestCount : Nat) (eosChar eosFlags : UInt8) (timeoutUs : Nat) :
    List UInt8 :=
  appendTermination (padToBoundary
    [kNiOpcRead, eosMode eosFlags, eosChar, niTimeoutCode timeoutUs,
      lowByte (complement requestCount), highByte (complement requestCount), 0, 0,
      niusbRegWriteId, 2, 0,
      kNiSubdevTNT, necToTnt nec7210Auxmr, auxHldi,
      kNiSubdevTNT, necToTnt nec7210Auxmr, auxClearEnd] 4)

/-! ## Status blocks -/

structure StatusBlock where
  id : UInt8
  ibsta : UInt16
  errorCode : UInt8
  count : UInt16
  deriving DecidableEq, Repr

/-- Parse the 8-byte status block at index `p`; `count` is sent as its two's complement. -/
def parseStatusBlock (buf : List UInt8) (p : Nat) : Option StatusBlock := do
  let b₀ ← buf[p]?
  let b₁ ← buf[p + 1]?
  let b₂ ← buf[p + 2]?
  let b₃ ← buf[p + 3]?
  let b₄ ← buf[p + 4]?
  let b₅ ← buf[p + 5]?
  let raw := b₄.toUInt16 ||| (b₅.toUInt16 <<< 8)
  return ⟨b₀, (b₁.toUInt16 <<< 8) ||| b₂.toUInt16, b₃, ~~~ raw + 1⟩

/-- `mapNiError` on the `NIUSB_ERR_*` codes. -/
def mapNiError (code : UInt8) : GPIBTransportError :=
  if code = 0 then .ok
  else if code = 1 then .errAborted
  else if code = 10 then .errTimeout
  else if code = 8 then .errNoListener
  else if code = 5 then .errNoListener
  else .errIo

/-! ## Transfers -/

def usbTimeoutMs (timeoutUs : Nat) : Nat :=
  if timeoutUs = 0xFFFFFFFF then 0
  else if timeoutUs / 1000 = 0 then 1
  else timeoutUs / 1000

def bulkOut (t : NIUSBTransport) (bytes : List UInt8) (timeoutUs : Nat) :
    Usb GPIBTransportError := do
  if !t.bulkOutPipe || !t.outBuffer then return .errNotReady
  if bytes.length > kBulkBufferSize then return .errIo
  let ret ← Program.call Usb.Request.map
  if ret ≠ .success then return mapIOReturn ret
  let io ← Program.call (Usb.Request.pipeOut .bulkOut bytes (usbTimeoutMs timeoutUs))
  return mapIOReturn io.status

/-- The bytes returned are `*outBytesRead` long; `capacity` is the size of the caller's
array. -/
def bulkIn (t : NIUSBTransport) (capacity timeoutUs : Nat) :
    Usb (GPIBTransportError × List UInt8) := do
  if !t.bulkInPipe || !t.inBuffer then return (.errNotReady, [])
  let io ← Program.call
    (Usb.Request.pipeIn .bulkIn (min capacity kBulkBufferSize) (usbTimeoutMs timeoutUs))
  if io.status ≠ .success then return (mapIOReturn io.status, [])
  let ret ← Program.call Usb.Request.map
  if ret ≠ .success then return (mapIOReturn ret, [])
  let bytes ← Usb.copyTo capacity io.bytes
  return (.ok, bytes)

/-- Write one NEC7210 register; the status response is drained and ignored. -/
def writeRegister (t : NIUSBTransport) (necReg value : UInt8) : Usb GPIBTransportError := do
  let rc ← t.bulkOut [niusbRegWriteId, 1, necToTnt necReg, value, niusbTermId, 0, 0, 0] 100000
  if rc ≠ .ok then return rc
  let _ ← t.bulkIn 64 100000
  return .ok

/-- Read one NEC7210 register; `outValue` is written only when the result is `ok`. -/
def readRegister (t : NIUSBTransport) (necReg : UInt8) : Usb (GPIBTransportError × UInt8) := do
  let rc ← t.bulkOut [niusbRegReadId, 1, necToTnt necReg, niusbTermId, 0, 0, 0, 0] 100000
  if rc ≠ .ok then return (rc, 0)
  let (rc, resp) ← t.bulkIn 64 100000
  if rc ≠ .ok then return (rc, 0)
  if 3 ≤ resp.length then
    let r₀ ← Usb.checked resp[0]?
    if r₀ = niusbRegisterReadDataStartId then
      let r₂ ← Usb.checked resp[2]?
      return (.ok, r₂)
  return (.errIo, 0)

def writeAuxCmd (t : NIUSBTransport) (auxCmd : UInt8) : Usb GPIBTransportError :=
  t.writeRegister nec7210Auxmr auxCmd

def pulseInterfaceClear (t : NIUSBTransport) : Usb GPIBTransportError := do
  let rc ← t.writeAuxCmd auxSifc
  if rc ≠ .ok then return rc
  t.writeAuxCmd auxCifc

def setRemoteEnable (t : NIUSBTransport) (enable : Bool) : Usb GPIBTransportError :=
  t.writeAuxCmd (if enable then auxSren else auxCren)

def runInitSequence (t : NIUSBTransport) : Usb GPIBTransportError := do
  let rc ← t.writeAuxCmd auxCr
  if rc ≠ .ok then return rc
  t.writeAuxCmd auxPon

/-- At most 16 command bytes go out in one request. -/
def sendCommandBytes (t : NIUSBTransport) (cmds : List UInt8) : Usb GPIBTransportError := do
  if cmds.length = 0 then return .ok
  let rc ← t.bulkOut (commandPacket (cmds.take 16)) 3000000
  if rc ≠ .ok then return rc
  let (rc, resp) ← t.bulkIn 32 3000000
  if rc ≠ .ok then return rc
  if resp.length < 8 then return .errIo
  let st ← Usb.checked (parseStatusBlock resp 0)
  return mapNiError st.errorCode

def kMaxPayload : Nat := kBulkBufferSize - 16

def writeData (t : NIUSBTransport) (buf : List UInt8) (sendEoi : Bool) (timeoutUs : Nat) :
    Usb WriteResult := do
  if buf.length = 0 then return .nothing .ok
  let payload := buf.take kMaxPayload
  let rc ← t.bulkOut (writePacket payload sendEoi timeoutUs) timeoutUs
  if rc ≠ .ok then return .nothing rc
  let (rc, resp) ← t.bulkIn 32 timeoutUs
  if rc ≠ .ok then return .nothing rc
  if resp.length < 8 then return .nothing .errIo
  let st ← Usb.checked (parseStatusBlock resp 0)
  let written :=
    if st.count.toNat ≤ payload.length then payload.length - st.count.toNat else 0
  return ⟨mapNiError st.errorCode, written⟩

/-! ## Decoding a read response -/

def kMaxRead : Nat := kBulkBufferSize - 64

/-- Copy up to `k` payload bytes from index `p` of the response, keeping those that fit the
request. -/
def copyBlock (room requestCount : Nat) (resp : List UInt8) :
    (k p : Nat) → (buf : List UInt8) → Option (Nat × List UInt8)
  | 0, p, buf => some (p, buf)
  | k + 1, p, buf =>
      if p < resp.length then do
        let b ← resp[p]?
        let buf' ← if buf.length < requestCount then Usb.store room buf b else some buf
        copyBlock room requestCount resp k (p + 1) buf'
      else some (p, buf)

/-- Walk the data blocks from index `p`; returns the index after them, the bytes stored and
the payload size of the last block. -/
def walkBlocks (room requestCount : Nat) (resp : List UInt8) :
    (fuel p : Nat) → (buf : List UInt8) → (blockPayload : Nat) →
    Option (Nat × List UInt8 × Nat)
  | 0, _, _, _ => none
  | fuel + 1, p, buf, blockPayload =>
      if p < resp.length then do
        let id ← resp[p]?
        if id = niusbIbrdDataId then do
          let (p', buf') ← copyBlock room requestCount resp 15 (p + 1) buf
          walkBlocks room requestCount resp fuel p' buf' 15
        else if id = niusbIbrdExtendedDataId then do
          let (p', buf') ← copyBlock room requestCount resp 30 (p + 2) buf
          walkBlocks room requestCount resp fuel p' buf' 30
        else some (p, buf, blockPayload)
      else some (p, buf, blockPayload)

/-- The number of valid bytes, from the byte that follows the status block. -/
def trimOvershoot (bytesOut blockPayload tail : Nat) : Nat :=
  let completeBlocks := bytesOut / blockPayload
  let actualBytes :=
    if completeBlocks ≠ 0 then (completeBlocks - 1) * blockPayload + tail else tail
  min actualBytes bytesOut

/-- What `readData` makes of a response; `none` is an access out of bounds. -/
def parseReadResponse (room requestCount : Nat) (resp : List UInt8) : Option ReadResult := do
  let (p, buf, blockPayload) ← walkBlocks room requestCount resp (resp.length + 1) 0 [] 0
  if p + 8 > resp.length then return ⟨.errIo, buf, buf.length, false⟩
  let st ← parseStatusBlock resp p
  if st.id ≠ niusbIbrdStatusId then return ⟨.errIo, buf, buf.length, false⟩
  let bytesOut ←
    if blockPayload ≠ 0 ∧ p + 8 < resp.length ∧ 0 < buf.length then
      (resp[p + 8]?).map fun tail => trimOvershoot buf.length blockPayload tail.toNat
    else some buf.length
  return ⟨mapNiError st.errorCode, buf, bytesOut, st.ibsta &&& Ibsta.end.toUInt16 ≠ 0⟩

def readData (t : NIUSBTransport) (requestCount : Nat) (eosChar eosFlags : UInt8)
    (timeoutUs : Nat) : Usb ReadResult := do
  if requestCount = 0 then return .nothing .ok
  let count := min requestCount kMaxRead
  let rc ← t.bulkOut (readPacket count eosChar eosFlags timeoutUs) timeoutUs
  if rc ≠ .ok then return .nothing rc
  let (rc, resp) ← t.bulkIn kBulkBufferSize timeoutUs
  if rc ≠ .ok then return .nothing rc
  Usb.checked (parseReadResponse requestCount count resp)

/-- The transport as `GPIBBoard` sees it; what it does not override is the interface's
default. -/
def asTransport : IGPIBTransport (StateT NIUSBTransport Usb) where
  pulseInterfaceClear := Usb.keeping pulseInterfaceClear
  setRemoteEnable enable := Usb.keeping fun t => t.setRemoteEnable enable
  sendCommandBytes cmds := Usb.keeping fun t => t.sendCommandBytes cmds
  writeData buf sendEoi timeoutUs := Usb.keeping fun t => t.writeData buf sendEoi timeoutUs
  readData requestCount eosChar eosFlags timeoutUs :=
    Usb.keeping fun t => t.readData requestCount eosChar eosFlags timeoutUs
  readBusLines := pure (.errIo, 0)
  takeControl _ := pure .ok
  releaseAtn := pure .errIo
  readRawRegister _ := pure (.errIo, 0)
  writeRawRegister _ _ := pure .errIo
  softReset := pure .errNotReady
  resetDevice := pure .errNotReady
  setMaxDataChunk _ := pure .errNotReady

end NIUSBTransport

end DarwinGpib
