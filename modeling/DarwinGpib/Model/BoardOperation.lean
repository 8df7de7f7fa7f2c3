import DarwinGpib.Library.Program
import DarwinGpib.Model.UserClient

/-!
# The public operations of a board

`GPIBBoard.h` after `init`. A board on `anyTransport` asks for each call on its transport and
each reading of the clock, and goes on with whatever is replied, so its runs are those over
every transport.
-/

namespace DarwinGpib

open Interaction

/-- What a board asks for. -/
inductive BoardRequest where
  | pulseInterfaceClear
  | setRemoteEnable (enable : Bool)
  | sendCommandBytes (cmds : List UInt8)
  | writeData (buf : List UInt8) (sendEoi : Bool) (timeoutUs : Nat)
  | readData (requestCount : Nat) (eosChar eosFlags : UInt8) (timeoutUs : Nat)
  | readBusLines
  | takeControl (synchronous : Bool)
  | releaseAtn
  | readRawRegister (reg : UInt16)
  | writeRawRegister (reg : UInt16) (value : UInt8)
  | softReset
  | resetDevice
  | setMaxDataChunk (bytes : Nat)
  | uptime
  deriving DecidableEq, Repr

def BoardRequest.Reply : BoardRequest → Type
  | writeData _ _ _ => WriteResult
  | readData _ _ _ _ => ReadResult
  | readBusLines => GPIBTransportError × UInt16
  | readRawRegister _ => GPIBTransportError × UInt8
  | uptime => UInt64
  | _ => GPIBTransportError

/-- A board operation with its calls left open. -/
abbrev BoardCalls := Program BoardRequest.Reply

/-- The calls of an operation with what came back. -/
abbrev BoardTrace := Trace BoardRequest.Reply

def anyTransport : IGPIBTransport BoardCalls where
  pulseInterfaceClear := Program.call BoardRequest.pulseInterfaceClear
  setRemoteEnable enable := Program.call (BoardRequest.setRemoteEnable enable)
  sendCommandBytes cmds := Program.call (BoardRequest.sendCommandBytes cmds)
  writeData buf sendEoi timeoutUs :=
    Program.call (BoardRequest.writeData buf sendEoi timeoutUs)
  readData requestCount eosChar eosFlags timeoutUs :=
    Program.call (BoardRequest.readData requestCount eosChar eosFlags timeoutUs)
  readBusLines := Program.call BoardRequest.readBusLines
  takeControl synchronous := Program.call (BoardRequest.takeControl synchronous)
  releaseAtn := Program.call BoardRequest.releaseAtn
  readRawRegister reg := Program.call (BoardRequest.readRawRegister reg)
  writeRawRegister reg value := Program.call (BoardRequest.writeRawRegister reg value)
  softReset := Program.call BoardRequest.softReset
  resetDevice := Program.call BoardRequest.resetDevice
  setMaxDataChunk bytes := Program.call (BoardRequest.setMaxDataChunk bytes)

/-- `clock_gettime_nsec_np(CLOCK_UPTIME_RAW)`. -/
def anyUptime : BoardCalls UInt64 := Program.call BoardRequest.uptime

/-- The public operations with their arguments. -/
inductive BoardOp where
  | free
  | setOnline (online : Bool)
  | openDescriptor (o : DescriptorOptions)
  | closeDescriptor (handle : Int)
  | configure (handle : Int) (key : UInt32) (value : Int32)
  | ask (handle : Int) (option : UInt32)
  | write (handle : Int) (buf : List UInt8) (sendEoi : Bool)
  | read (handle : Int) (requestCount : Nat)
  | deviceClear (handle : Int)
  | interfaceClear (handle : Int)
  | remoteEnable (handle : Int) (enable : Bool)
  | waitForStatus (handle : Int) (mask : Int32) (timeoutUs : Nat)
  | serialPoll (handle : Int)
  | trigger (handle : Int)
  | goToLocal (handle : Int)
  | localLockout (handle : Int)
  | listenerPresent (pad : UInt8) (sad : Int8)
  | sendCommands (handle : Int) (cmds : List UInt8)
  | busLineStatus
  | readRawRegisterDiag (reg : UInt16)
  | writeRawRegisterDiag (reg : UInt16) (value : UInt8)
  | setMaxDataChunkDiag (bytes : Nat)
  | softResetDiag
  | resetDeviceDiag
  deriving DecidableEq, Repr

/-- What an operation returns or writes through its out-parameters. -/
inductive BoardResult where
  | done
  | online (ibsta : UInt32)
  | opened (handle : Int) (s : Status)
  | status (s : Status)
  | asked (value : Int32) (s : Status)
  | counted (s : CountStatus)
  | read (r : ReadStatus)
  | polled (r : UInt8 × Status)
  | listener (r : Bool × Status)
  | lines (r : UInt16 × Status)
  | diag (rc : UInt32) (raw : UInt8)
  deriving DecidableEq, Repr

/-- The status that a result carries. -/
def BoardResult.status? : BoardResult → Option Status
  | opened _ s | status s | asked _ s | polled (_, s) | listener (_, s) | lines (_, s) => some s
  | counted s => some s.toStatus
  | read r => some r.toStatus
  | done | online _ | diag _ _ => none

namespace GPIBBoard

section Operations

variable {m : Type → Type} [Monad m] (T : IGPIBTransport m) (now : m UInt64) (fuel : Nat)

/-- `free`, which drops the transport. -/
def free (b : GPIBBoard) : GPIBBoard := { b with state.hasTransport := false }

/-- A bus operation whose result is reported by `report`. -/
def reporting {α ρ : Type} (b : GPIBBoard) (report : α → ρ)
    (op : BoardState → m (α × BoardState)) : m (Option (ρ × GPIBBoard)) := do
  let (a, b) ← b.onBus op
  return some (report a, b)

/-- A diagnostic, which leaves the board as it is. -/
def diagnosing (b : GPIBBoard) (op : BoardState → m UInt32) :
    m (Option (BoardResult × GPIBBoard)) := do
  let rc ← op b.state
  return some (.diag rc 0, b)

def readRawRegisterDiag (reg : UInt16) (b : GPIBBoard) :
    m (Option (BoardResult × GPIBBoard)) := do
  if !b.state.hasTransport then return some (.diag 0xFF 0, b)
  let (rc, raw) ← T.readRawRegister reg
  return some (.diag rc.code raw, b)

/-- One operation. Only `waitForStatus` can still be waiting after `fuel` polls, which is
`none`. -/
def perform (b : GPIBBoard) : BoardOp → m (Option (BoardResult × GPIBBoard))
  | .free => pure (some (.done, b.free))
  | .setOnline online => b.reporting .online (BoardState.setOnline T online)
  | .openDescriptor o =>
      let ((handle, s), b) := b.openDescriptor o
      pure (some (.opened handle s, b))
  | .closeDescriptor handle =>
      let (s, b) := b.closeDescriptor handle
      pure (some (.status s, b))
  | .configure handle key value =>
      let (s, b) := b.configure handle key value
      pure (some (.status s, b))
  | .ask handle option =>
      let ((value, s), b) := b.ask handle option
      pure (some (.asked value s, b))
  | .write handle buf sendEoi =>
      b.reporting .counted
        (BoardState.write T (b.descriptors.descriptorFor handle) buf sendEoi)
  | .read handle requestCount =>
      b.reporting .read (BoardState.read T (b.descriptors.descriptorFor handle) requestCount)
  | .deviceClear handle =>
      b.reporting .status (BoardState.deviceClear T (b.descriptors.descriptorFor handle))
  | .interfaceClear _ => b.reporting .status (BoardState.interfaceClear T)
  | .remoteEnable _ enable => b.reporting .status (BoardState.remoteEnable T enable)
  | .waitForStatus handle mask timeoutUs => do
      let r ← BoardState.waitForStatus T now fuel (b.descriptors.descriptorFor handle) mask
        timeoutUs b.state
      return r.map fun (s, state) => (.status s, { b with state })
  | .serialPoll handle =>
      b.reporting .polled (BoardState.serialPoll T (b.descriptors.descriptorFor handle))
  | .trigger handle =>
      b.reporting .status (BoardState.trigger T (b.descriptors.descriptorFor handle))
  | .goToLocal handle =>
      b.reporting .status (BoardState.goToLocal T (b.descriptors.descriptorFor handle))
  | .localLockout _ => b.reporting .status (BoardState.localLockout T)
  | .listenerPresent pad sad =>
      b.reporting .listener (BoardState.listenerPresent T pad sad)
  | .sendCommands _ cmds => b.reporting .counted (BoardState.sendCommands T cmds)
  | .busLineStatus => b.reporting .lines (BoardState.busLineStatus T)
  | .readRawRegisterDiag reg => b.readRawRegisterDiag T reg
  | .writeRawRegisterDiag reg value =>
      b.diagnosing (UserClient.passDiag 0xFF (T.writeRawRegister reg value))
  | .setMaxDataChunkDiag bytes =>
      b.diagnosing (UserClient.passDiag Iberr.eneb (T.setMaxDataChunk bytes))
  | .softResetDiag => b.reporting (.diag · 0) (UserClient.softResetDiag T)
  | .resetDeviceDiag => b.diagnosing (UserClient.passDiag Iberr.eneb T.resetDevice)

end Operations

/-- An operation with the calls it made and what it reported. -/
structure Event where
  op : BoardOp
  calls : BoardTrace
  result : BoardResult

/-- The operation returns, having made these calls. -/
def Performs (b : GPIBBoard) (e : Event) (b' : GPIBBoard) : Prop :=
  ∃ fuel, Run (b.perform anyTransport anyUptime fuel e.op) e.calls (some (e.result, b'))

end GPIBBoard

end DarwinGpib
