import DarwinGpib.Model.Board

/-!
# The user client

The selector handlers of `driver/userclient/GPIBUserClient.cpp`. A call carries the fields of
its input structure as `GPIBSelectors.h` types them; handlers narrow them as the source does.
Calls whose structure is too short never reach a handler and are left out.
-/

namespace DarwinGpib

/-- `GPIBOpenDescriptorIn`. -/
structure OpenDescriptorIn where
  pad : UInt32
  sad : UInt32
  isBoard : UInt32
  timeoutCode : UInt32
  eosChar : UInt32
  eosFlags : UInt32
  eot : UInt32
  deriving DecidableEq, Repr

/-- The casts of `handleOpenDescriptor`. -/
def OpenDescriptorIn.options (i : OpenDescriptorIn) : DescriptorOptions :=
  { isBoard := i.isBoard ≠ 0, pad := i.pad.toUInt8, sad := i.sad.toInt32.toInt8,
    eot := i.eot ≠ 0, eosChar := i.eosChar.toUInt8, eosFlags := i.eosFlags.toUInt8,
    timeoutUs := timeoutCodeToMicros i.timeoutCode }

/-- The selectors with their inputs. -/
inductive DriverCall where
  | boardOnline (online : UInt32)
  | openDescriptor (i : OpenDescriptorIn)
  | closeDescriptor (handle : Int)
  | configure (handle : Int) (key : UInt32) (value : Int32)
  | write (handle : Int) (sendEoi : UInt32) (data : List UInt8)
  | read (handle : Int) (requestCount : Nat)
  | deviceClear (handle : Int)
  | interfaceClear (handle : Int)
  | remoteEnable (handle : Int) (enable : Int32)
  | wait (handle : Int) (mask : Int32) (timeoutUs : Nat)
  | ask (handle : Int) (option : UInt32)
  | serialPoll (handle : Int)
  | trigger (handle : Int)
  | goToLocal (handle : Int)
  | localLockout (handle : Int)
  | lineStatus (handle : Int)
  | listenerPresent (handle : Int) (pad : UInt32) (sad : Int32)
  | sendCommand (handle : Int) (data : List UInt8)
  deriving DecidableEq, Repr

/-- The outputs of the selectors. -/
inductive DriverReply where
  | status (s : Status)
  | opened (handle : Int) (s : Status)
  | counted (s : CountStatus)
  /-- `finalLen` bytes are returned: the header and what follows it in the scratch buffer. -/
  | read (s : CountStatus) (endFlag : Bool) (data : List UInt8) (finalLen : Nat)
  | asked (value : Int32) (s : Status)
  | polled (statusByte : UInt8) (s : Status)
  | listener (present : Bool) (s : Status)
  | lines (lineStatus : UInt16) (s : Status)
  deriving DecidableEq, Repr

namespace UserClient

def sizeofReadOut : Nat := 16
def kGPIBMaxInlineRead : Nat := 4096 - sizeofReadOut

/-- The bytes that `handleRead` asks the board for, and the size of its scratch buffer. -/
def clampedRequest (requestCount : Nat) : Nat := min requestCount kGPIBMaxInlineRead
def scratchSize (requestCount : Nat) : Nat := sizeofReadOut + clampedRequest requestCount

section Handlers

variable {m : Type → Type} [Monad m] (T : IGPIBTransport m) (b : GPIBBoard)

def handleBoardOnline (online : UInt32) : m (DriverReply × GPIBBoard) := do
  let (ibsta, b) ← b.onBus (BoardState.setOnline T (online ≠ 0))
  return (.status ⟨ibsta, 0⟩, b)

def handleOpenDescriptor (i : OpenDescriptorIn) : DriverReply × GPIBBoard :=
  let ((handle, s), b) := b.openDescriptor i.options
  (.opened handle s, b)

def handleCloseDescriptor (handle : Int) : DriverReply × GPIBBoard :=
  let (s, b) := b.closeDescriptor handle
  (.status s, b)

def handleConfigure (handle : Int) (key : UInt32) (value : Int32) : DriverReply × GPIBBoard :=
  let (s, b) := b.configure handle key value
  (.status s, b)

def handleWrite (handle : Int) (sendEoi : UInt32) (data : List UInt8) :
    m (DriverReply × GPIBBoard) := do
  let (s, b) ← b.onBus
    (BoardState.write T (b.descriptors.descriptorFor handle) data (sendEoi ≠ 0))
  return (.counted s, b)

/-- The payload follows the header in a zeroed scratch buffer of `scratchSize` bytes. -/
def handleRead (handle : Int) (requestCount : Nat) : m (DriverReply × GPIBBoard) := do
  let request := clampedRequest requestCount
  let (r, b) ← b.onBus (BoardState.read T (b.descriptors.descriptorFor handle) request)
  let payload := r.data ++ List.replicate (request - r.data.length) 0
  return (.read r.toCountStatus r.endFlag (payload.take r.ibcnt) (sizeofReadOut + r.ibcnt), b)

/-- Handlers that return a status alone. -/
def handleStatus (op : BoardState → m (Status × BoardState)) : m (DriverReply × GPIBBoard) := do
  let (s, b) ← b.onBus op
  return (.status s, b)

def handleAsk (handle : Int) (option : UInt32) : DriverReply × GPIBBoard :=
  let ((value, s), b) := b.ask handle option
  (.asked value s, b)

def handleSerialPoll (handle : Int) : m (DriverReply × GPIBBoard) := do
  let ((stb, s), b) ← b.onBus
    (BoardState.serialPoll T (b.descriptors.descriptorFor handle))
  return (.polled stb s, b)

def handleListenerPresent (pad : UInt32) (sad : Int32) : m (DriverReply × GPIBBoard) := do
  let ((present, s), b) ← b.onBus
    (BoardState.listenerPresent T pad.toUInt8 sad.toInt8)
  return (.listener present s, b)

def handleSendCommand (data : List UInt8) : m (DriverReply × GPIBBoard) := do
  let (s, b) ← b.onBus (BoardState.sendCommands T data)
  return (.counted s, b)

/-- The reply of the diagnostic handles of `handleLineStatus`: bit 15 marks success, and the
low byte carries what a register read returned. -/
def diagReply (rc : UInt32) (raw : UInt8) (s : BoardState) :
    (UInt16 × Status) × BoardState :=
  ((if rc = 0 then 0x8000 ||| raw.toUInt16 else 0, ⟨0x0100, rc⟩), s)

/-- `softResetDiag`. -/
def softResetDiag (s : BoardState) : m (UInt32 × BoardState) := do
  if !s.hasTransport then return (Iberr.eneb, s)
  let (recovered, s) ← BoardState.recoverBus T none s
  return (if recovered then 0 else Iberr.ebus, s)

/-- A diagnostic that passes straight through to the transport. -/
def passDiag (missing : UInt32) (op : m GPIBTransportError) (s : BoardState) : m UInt32 := do
  if !s.hasTransport then return missing
  let rc ← op
  return rc.code

/-- Handles tagged in their top nibble are diagnostics; any other reads the bus lines. -/
def lineStatus (handle : Int) (s : BoardState) : m ((UInt16 × Status) × BoardState) := do
  let h := (Int32.ofInt handle).toUInt32
  let tag := h &&& 0xF0000000
  if h = 0x10000000 then
    let (rc, s) ← softResetDiag T s
    return diagReply rc 0 s
  else if h = 0x18000000 then
    let rc ← passDiag Iberr.eneb T.resetDevice s
    return diagReply rc 0 s
  else if tag = 0x50000000 then
    let rc ← passDiag Iberr.eneb (T.setMaxDataChunk (h &&& 0xFFFF).toNat) s
    return diagReply rc 0 s
  else if tag = 0x20000000 then
    let rc ← passDiag 0xFF (T.writeRawRegister ((h >>> 8) &&& 0xFFF).toUInt16 h.toUInt8) s
    return diagReply rc 0 s
  else if tag = 0x40000000 then
    if !s.hasTransport then return diagReply 0xFF 0 s
    let (rc, raw) ← T.readRawRegister h.toUInt16
    return diagReply rc.code raw s
  else BoardState.busLineStatus T s

def handleLineStatus (handle : Int) : m (DriverReply × GPIBBoard) := do
  let ((lines, s), b) ← b.onBus (lineStatus T handle)
  return (.lines lines s, b)

/-- `GPIBUserClient_Dispatch`, with `now` the uptime clock. Only `wait` can still be waiting
after `fuel` polls, which is `none`. -/
def dispatch (now : m UInt64) (fuel : Nat) :
    DriverCall → m (Option (DriverReply × GPIBBoard))
  | .boardOnline online => some <$> handleBoardOnline T b online
  | .openDescriptor i => pure (some (handleOpenDescriptor b i))
  | .closeDescriptor handle => pure (some (handleCloseDescriptor b handle))
  | .configure handle key value => pure (some (handleConfigure b handle key value))
  | .write handle sendEoi data => some <$> handleWrite T b handle sendEoi data
  | .read handle requestCount => some <$> handleRead T b handle requestCount
  | .deviceClear handle =>
      some <$> handleStatus b (BoardState.deviceClear T (b.descriptors.descriptorFor handle))
  | .interfaceClear _ => some <$> handleStatus b (BoardState.interfaceClear T)
  | .remoteEnable _ enable =>
      some <$> handleStatus b (BoardState.remoteEnable T (enable ≠ 0))
  | .wait handle mask timeoutUs => do
      let r ← BoardState.waitForStatus T now fuel (b.descriptors.descriptorFor handle) mask
        timeoutUs b.state
      return r.map fun (s, state) => (.status s, { b with state })
  | .ask handle option => pure (some (handleAsk b handle option))
  | .serialPoll handle => some <$> handleSerialPoll T b handle
  | .trigger handle =>
      some <$> handleStatus b (BoardState.trigger T (b.descriptors.descriptorFor handle))
  | .goToLocal handle =>
      some <$> handleStatus b (BoardState.goToLocal T (b.descriptors.descriptorFor handle))
  | .localLockout _ => some <$> handleStatus b (BoardState.localLockout T)
  | .lineStatus handle => some <$> handleLineStatus T b handle
  | .listenerPresent _ pad sad => some <$> handleListenerPresent T b pad sad
  | .sendCommand _ data => some <$> handleSendCommand T b data

end Handlers

end UserClient

end DarwinGpib
