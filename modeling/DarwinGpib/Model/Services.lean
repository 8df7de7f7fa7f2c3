import DarwinGpib.Library.Stateful
import DarwinGpib.Model.KusbEndpoints
import DarwinGpib.Model.Usb
import Mathlib.Data.Finset.Basic

/-!
# The services

The classes that the system matches to an adapter, of `ni_usb.cpp`, `agilent_82357.cpp` and
`kusb_488b.cpp`, with the parts of the transports that acquire and release: `attach`, `detach` and
`free`. What they ask of DriverKit are the requests here; the state is the set of the members that
are not null.
-/

namespace DarwinGpib

open Interaction

/-- What a service has to give back. -/
inductive Resource where
  /-- The reference to the provider. -/
  | interface
  | interfaceSession
  /-- The reference of the transport to the USB device. -/
  | device
  | deviceSession
  | pipe (i : Fin 3)
  | buffer (i : Fin 3)
  | transport
  | board
  /-- The reference of `Start` to the USB device. -/
  | usbDevice
  | configurationDescriptor
  | deviceDescriptor
  | stringDescriptor
  | product
  deriving DecidableEq, Repr

inductive ServiceCall where
  /-- `Start` and `Stop` with `SUPERDISPATCH`. -/
  | superStart
  | superStop
  /-- `OSDynamicCast`. -/
  | castInterface
  | retain (r : Resource)
  /-- A safe release, an `IOFree` or an `IOSafeDelete`, of what is not null. -/
  | release (r : Resource)
  | copyConfigurationDescriptor
  | getInterfaceDescriptor
  | copyDevice (r : Resource)
  /-- With `idProduct`. -/
  | copyDeviceDescriptor
  | copyStringDescriptor
  | copyDeviceString
  | openInterface
  | closeInterface
  | openDevice
  | closeDevice
  /-- `CopyPipe` of a pipe, `Create` of a buffer. -/
  | obtain (r : Resource)
  /-- `IONewZero`, and `IONewZeroConstruct`. -/
  | allocate (r : Resource)
  /-- `runInitSequence` or `runBringUpSequence` of the transport. -/
  | runInitSequence
  /-- What `detach` does to the adapter itself. -/
  | quiesce
  /-- `setOnline` of the board. -/
  | setOnline (online : Bool)
  | registerService
  /-- A read outside the configuration descriptor. -/
  | overrun
  deriving DecidableEq, Repr

abbrev ServiceCall.Reply : ServiceCall → Type
  | superStart | superStop | openInterface | openDevice | obtain _ => IOReturn
  | castInterface | copyStringDescriptor | copyDeviceString | allocate _ => Bool
  | copyConfigurationDescriptor => Option (List UInt8)
  | getInterfaceDescriptor => Option KUSB488BTransport.InterfaceDescriptor
  | copyDevice _ => IOReturn × Bool
  | copyDeviceDescriptor => Option UInt16
  | runInitSequence => GPIBTransportError
  | overrun => Empty
  | _ => Unit

/-- A part of a service. -/
abbrev Service := StateT (Finset Resource) (Program ServiceCall.Reply)

namespace Service

def ask (c : ServiceCall) : Service c.Reply := StateT.lift (Program.call c)

/-- A member is set. -/
def store (r : Resource) : Service Unit := modify (insert r)

/-- `OSSafeReleaseNULL`, or `IOSafeDeleteNULL`. -/
def safeRelease (r : Resource) : Service Unit := do
  let members ← get
  if r ∈ members then
    ask (.release r)
    modify (·.erase r)

def overrun {α : Type} : Service α := fun _ => .ask .overrun Empty.elim

/-! ## The transports -/

/-- The pipes and buffers of a transport. -/
def parts : Finset Resource :=
  {.pipe 0, .pipe 1, .pipe 2, .buffer 0, .buffer 1, .buffer 2}

/-- The three transports have the same pipes to close, under names of their own. -/
def closePipes : Service Unit := do
  safeRelease (.pipe 0)
  safeRelease (.pipe 1)
  safeRelease (.pipe 2)

/-- Pipes and buffers, in the order in which they are created; some can be done without. -/
def openPipes : List (Resource × Bool) → Service GPIBTransportError
  | [] => return .ok
  | (r, optional) :: rest => do
      let ret ← ask (.obtain r)
      if ret = .success then
        store r
        openPipes rest
      else if optional then openPipes rest
      else return mapIOReturn ret

/-- The transports that make control transfers open the device for themselves; `none` where they
go on. -/
def openDevice : Service (Option GPIBTransportError) := do
  let (ret, found) ← ask (.copyDevice .device)
  if ret ≠ .success ∨ !found then return some (mapIOReturn ret)
  store .device
  let ret ← ask .openDevice
  if ret ≠ .success then
    safeRelease .device
    return some (mapIOReturn ret)
  return none

/-- The end of `attach`. -/
def bringUp (pipes : List (Resource × Bool)) : Service GPIBTransportError := do
  let rc ← openPipes pipes
  if rc ≠ .ok then return rc
  ask .runInitSequence

/-- The device that a transport has opened. -/
def freeDevice : Service Unit := do
  let members ← get
  if .device ∈ members then
    ask .closeDevice
    safeRelease .device

end Service

open Service

namespace NIUSBTransport

def attach : Service GPIBTransportError :=
  bringUp [(.pipe 0, false), (.pipe 1, false), (.pipe 2, true), (.buffer 0, false),
    (.buffer 1, false)]

def detach : Service Unit := closePipes

def free : Service Unit := do
  closePipes
  safeRelease (.buffer 0)
  safeRelease (.buffer 1)

end NIUSBTransport

namespace Agilent82357Transport

def attach : Service GPIBTransportError := do
  match ← openDevice with
  | some rc => return rc
  | none =>
      bringUp [(.pipe 0, false), (.pipe 1, false), (.pipe 2, true), (.buffer 0, false),
        (.buffer 1, false)]

def detach : Service Unit := do
  ask .quiesce
  closePipes

def free : Service Unit := do
  closePipes
  safeRelease (.buffer 0)
  safeRelease (.buffer 1)
  freeDevice

end Agilent82357Transport

namespace KUSB488BTransport

/-- Nothing gives the configuration descriptor back. -/
def resolve : Service GPIBTransportError := do
  let cfg ← ask .copyConfigurationDescriptor
  let ifd ← if cfg.isSome then ask .getInterfaceDescriptor else pure none
  match resolveEndpoints cfg ifd ⟨0, 0, 0⟩ with
  | none => Service.overrun
  | some (rc, _) => return rc

def attach : Service GPIBTransportError := do
  match ← openDevice with
  | some rc => return rc
  | none =>
      let rc ← resolve
      if rc ≠ .ok then return rc
      bringUp [(.pipe 0, false), (.pipe 1, false), (.pipe 2, false), (.buffer 0, false),
        (.buffer 1, false), (.buffer 2, false)]

def detach : Service Unit := do
  let members ← get
  if .device ∈ members then ask .quiesce
  closePipes

def free : Service Unit := do
  closePipes
  safeRelease (.buffer 0)
  safeRelease (.buffer 1)
  safeRelease (.buffer 2)
  freeDevice

end KUSB488BTransport

/-! ## The classes -/

/-- What `Start` returns. -/
inductive StartResult where
  | success
  | unsupported
  | error
  | noMemory
  | failed (ret : IOReturn)
  deriving DecidableEq, Repr

/-- Where the three classes differ. -/
structure ServiceClass where
  /-- What `Start` looks at before it opens the interface, and its result where it gives up. -/
  inspect : Service (Option StartResult)
  attach : Service GPIBTransportError
  detach : Service Unit
  free : Service Unit
  /-- `Start` closes the interface when it fails behind having opened it. -/
  undoesOpen : Bool
  /-- `Stop` detaches the transport. -/
  detaches : Bool

/-- What `Start` logs of the device; the device descriptor is not given back. -/
def inspectDevice : Service UInt16 := do
  let (ret, found) ← ask (.copyDevice .usbDevice)
  if ret ≠ .success ∨ !found then return 0
  let dev ← ask .copyDeviceDescriptor
  if dev.isSome then
    let prodStr ← ask .copyStringDescriptor
    let product ← ask .copyDeviceString
    if prodStr then ask (.release .stringDescriptor)
    if product then ask (.release .product)
  ask (.release .usbDevice)
  return dev.getD 0

def ni_usb : ServiceClass where
  inspect := do
    let cfg ← ask .copyConfigurationDescriptor
    let ifd ← if cfg.isSome then ask .getInterfaceDescriptor else pure none
    if cfg.isNone ∨ ifd.isNone then
      if cfg.isSome then ask (.release .configurationDescriptor)
      return some .error
    let _ ← inspectDevice
    ask (.release .configurationDescriptor)
    return none
  attach := NIUSBTransport.attach
  detach := NIUSBTransport.detach
  free := NIUSBTransport.free
  undoesOpen := false
  detaches := false

def agilent_82357 : ServiceClass where
  inspect := do
    let productId ← inspectDevice
    return if productId = 0x0007 ∨ productId = 0x0518 then some .unsupported else none
  attach := Agilent82357Transport.attach
  detach := Agilent82357Transport.detach
  free := Agilent82357Transport.free
  undoesOpen := false
  detaches := false

def kusb_488b : ServiceClass where
  inspect := do
    let productId ← inspectDevice
    return if productId = 0xEEEE then some .unsupported else none
  attach := KUSB488BTransport.attach
  detach := KUSB488BTransport.detach
  free := KUSB488BTransport.free
  undoesOpen := true
  detaches := true

namespace ServiceClass

/-- A failure of `Start` behind the opening of the interface. -/
def giveUp (k : ServiceClass) (attached : Bool) (ret : StartResult) : Service StartResult := do
  if k.undoesOpen then
    if attached then k.detach
    ask .closeInterface
  return ret

/-- `Start` behind the opening of the interface. The arguments of `init` are not null. -/
def startTransport (k : ServiceClass) : Service StartResult := do
  let allocated ← ask (.allocate .transport)
  if !allocated then return ← k.giveUp false .noMemory
  store .transport
  let rc ← k.attach
  if rc ≠ .ok then return ← k.giveUp true .error
  let allocated ← ask (.allocate .board)
  if !allocated then return ← k.giveUp true .noMemory
  store .board
  ask (.setOnline true)
  ask .registerService
  return .success

/-- `Start` up to the opening of the interface, with its result where it gives up. -/
def prepare (k : ServiceClass) : Service (Option StartResult) := do
  let ret ← ask .superStart
  if ret ≠ .success then return some (.failed ret)
  let isInterface ← ask .castInterface
  if !isInterface then return some .unsupported
  ask (.retain .interface)
  store .interface
  k.inspect

def start (k : ServiceClass) : Service StartResult := do
  match ← k.prepare with
  | some result => return result
  | none =>
      let ret ← ask .openInterface
      if ret ≠ .success then return .failed ret
      k.startTransport

def stop (k : ServiceClass) : Service IOReturn := do
  let members ← get
  if .board ∈ members then ask (.setOnline false)
  if k.detaches ∧ .transport ∈ members then k.detach
  if .interface ∈ members then ask .closeInterface
  ask .superStop

def freeMembers (k : ServiceClass) : Service Unit := do
  safeRelease .board
  let members ← get
  if .transport ∈ members then
    k.free
    safeRelease .transport
  safeRelease .interface

/-- A service from its match to its end: what has not started is not stopped. -/
def life (k : ServiceClass) : Service StartResult := do
  let ret ← k.start
  if ret = .success then
    let _ ← k.stop
  k.freeMembers
  return ret

end ServiceClass

end DarwinGpib
