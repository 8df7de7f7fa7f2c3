import DarwinGpib.Model.GpibUser

/-!
# The transport interface

`IGPIBTransport` of `driver/core/GPIBTransport.h`, over any monad `m` in which a transport
runs. Operations that a concrete transport does not override keep the interface's defaults.
-/

namespace DarwinGpib

/-- Transport-level result codes; `ok` is 0. -/
inductive GPIBTransportError where
  | ok
  | errIo
  | errTimeout
  | errNoListener
  | errAborted
  | errNotReady
  deriving DecidableEq, Repr

/-- The value of the enumerator. -/
def GPIBTransportError.code : GPIBTransportError → UInt32
  | ok => 0
  | errIo => 1
  | errTimeout => 2
  | errNoListener => 3
  | errAborted => 4
  | errNotReady => 5

/-- What `writeData` leaves behind: its result code and `*outBytesWritten`. -/
structure WriteResult where
  rc : GPIBTransportError
  bytesWritten : Nat
  deriving DecidableEq, Repr

/-- What `readData` leaves behind: its result code, the bytes stored in `buf` from index 0,
`*outBytesRead` and `*outEnd`. -/
structure ReadResult where
  rc : GPIBTransportError
  buf : List UInt8
  bytesRead : Nat
  ended : Bool
  deriving DecidableEq, Repr

/-- A `writeData` that stops before a byte has been acknowledged. -/
def WriteResult.nothing (rc : GPIBTransportError) : WriteResult := ⟨rc, 0⟩

/-- A `readData` that stops before a byte has been delivered. -/
def ReadResult.nothing (rc : GPIBTransportError) : ReadResult := ⟨rc, [], 0, false⟩

structure IGPIBTransport (m : Type → Type) where
  pulseInterfaceClear : m GPIBTransportError
  setRemoteEnable (enable : Bool) : m GPIBTransportError
  sendCommandBytes (cmds : List UInt8) : m GPIBTransportError
  writeData (buf : List UInt8) (sendEoi : Bool) (timeoutUs : Nat) : m WriteResult
  readData (requestCount : Nat) (eosChar eosFlags : UInt8) (timeoutUs : Nat) : m ReadResult
  readBusLines : m (GPIBTransportError × UInt16)
  takeControl (synchronous : Bool) : m GPIBTransportError
  releaseAtn : m GPIBTransportError
  readRawRegister (reg : UInt16) : m (GPIBTransportError × UInt8)
  writeRawRegister (reg : UInt16) (value : UInt8) : m GPIBTransportError
  softReset : m GPIBTransportError
  resetDevice : m GPIBTransportError
  setMaxDataChunk (bytes : Nat) : m GPIBTransportError

end DarwinGpib
