import DarwinGpib.Model.Transport

/-!
# The endpoints of a KUSB-488B

`KUSB488BTransport::resolveEndpoints`, which walks the raw configuration descriptor. A read outside
the bytes of the descriptor is `none`.
-/

namespace DarwinGpib

namespace KUSB488BTransport

/-! ## Descriptors -/

/-- The fields of the interface descriptor that are looked at. -/
structure InterfaceDescriptor where
  bInterfaceNumber : UInt8
  bAlternateSetting : UInt8
  deriving DecidableEq, Repr

/-- The `bEndpointAddress` values of the members. -/
structure Endpoints where
  dataOutEP : UInt8
  cmdOutEP : UInt8
  dataInEP : UInt8
  deriving DecidableEq, Repr

def typeInterface : UInt8 := 4
def typeEndpoint : UInt8 := 5

def pipeDataOut : Nat := 2
def pipeCmdOut : Nat := 3
def pipeDataIn : Nat := 4
def pipeCountMin : Nat := 5

/-- The room in `addrs`. -/
def maxAddrs : Nat := 8

/-! ## The walk -/

/-- `inOurInterface` after the interface descriptor at `off`; `&&` reads no more than it needs. -/
def isOurInterface (raw : List UInt8) (want : InterfaceDescriptor) (off : Nat) (bLength : UInt8) :
    Option Bool := do
  if bLength < 4 then return false
  let number ← raw[off + 2]?
  if number ≠ want.bInterfaceNumber then return false
  let alternate ← raw[off + 3]?
  return alternate = want.bAlternateSetting

/-- `addrs` after the endpoint descriptor at `off`. -/
def addEndpoint (raw : List UInt8) (off : Nat) (bLength : UInt8) (addrs : List UInt8) :
    Option (List UInt8) := do
  if bLength < 3 ∨ maxAddrs ≤ addrs.length then return addrs
  let address ← raw[off + 2]?
  return addrs ++ [address]

/-- The loop over the descriptors, with the addresses found so far. -/
def endpointLoop (raw : List UInt8) (total : Nat) (want : InterfaceDescriptor) (off : Nat)
    (addrs : List UInt8) (inOurInterface : Bool) : Option (List UInt8) :=
  if off + 2 ≤ total then do
    let bLength ← raw[off]?
    let bType ← raw[off + 1]?
    if _ : bLength.toNat < 2 ∨ total < off + bLength.toNat then return addrs
    else if bType = typeInterface then
      let inOurInterface ← isOurInterface raw want off bLength
      endpointLoop raw total want (off + bLength.toNat) addrs inOurInterface
    else if bType = typeEndpoint ∧ inOurInterface then
      let addrs ← addEndpoint raw off bLength addrs
      endpointLoop raw total want (off + bLength.toNat) addrs inOurInterface
    else endpointLoop raw total want (off + bLength.toNat) addrs inOurInterface
  else return addrs
  termination_by total - off

/-- `wTotalLength`. -/
def totalLength (raw : List UInt8) : Option Nat := do
  let low ← raw[2]?
  let high ← raw[3]?
  return low.toNat ||| (high.toNat <<< 8)

/-- `cfg` and `ifd` are what `CopyConfigurationDescriptor` and `GetInterfaceDescriptor` return.
The result carries the members. -/
def resolveEndpoints (cfg : Option (List UInt8)) (ifd : Option InterfaceDescriptor)
    (members : Endpoints) : Option (GPIBTransportError × Endpoints) := do
  match cfg, ifd with
  | none, _ | some _, none => return (.errNotReady, members)
  | some raw, some want =>
      let total ← totalLength raw
      let addrs ← endpointLoop raw total want 0 [] false
      if addrs.length < pipeCountMin then return (.errNotReady, members)
      let dataOutEP ← addrs[pipeDataOut]?
      let cmdOutEP ← addrs[pipeCmdOut]?
      let dataInEP ← addrs[pipeDataIn]?
      let members : Endpoints := { dataOutEP, cmdOutEP, dataInEP }
      if dataOutEP &&& 0x80 ≠ 0 ∨ cmdOutEP &&& 0x80 ≠ 0 ∨ dataInEP &&& 0x80 = 0 then
        return (.errNotReady, members)
      return (.ok, members)

end KUSB488BTransport

end DarwinGpib
