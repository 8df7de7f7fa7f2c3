import DarwinGpib.Model.Usb

/-!
# The KUSB-488B loader

`KUSB488BLoader`, which downloads the firmware images that were compiled into the driver.
-/

namespace DarwinGpib

open Interaction

/-- A `KUSBFirmwareBlob`, with the length that its array has. -/
structure KUSBFirmwareBlob where
  data : List UInt8
  length : UInt32
  length_eq : data.length = length.toNat

namespace KUSB488BLoader

/-- The `kern_return_t` of the loader: its own codes, and a failure of the USB stack. -/
inductive Result where
  | success
  | notReady
  | badArgument
  | underrun
  | unsupported
  | failed (kr : IOReturn)
  deriving DecidableEq, Repr

def reqRam : UInt8 := 0xA0
def reqExtram : UInt8 := 0xA3
def reqFpga : UInt8 := 0xA4
def cpucsAddr : UInt16 := 0xE600
def chunkSize : Nat := 0x1000
def legacyBcdDevice : UInt16 := 0x0004

end KUSB488BLoader

open KUSB488BLoader (Result reqRam reqExtram reqFpga cpucsAddr chunkSize legacyBcdDevice)

/-- The members that are null or not. -/
structure KUSB488BLoader where
  device : Bool
  owner : Bool
  buffer : Bool
  deriving DecidableEq, Repr

namespace KUSB488BLoader

/-- `init` creates the buffer; `free` undoes it. -/
def init (device owningService : Bool) : Usb (Bool × KUSB488BLoader) := do
  if ¬ device ∨ ¬ owningService then return (false, ⟨false, false, false⟩)
  let kr : IOReturn ← Program.call (Usb.Request.create chunkSize)
  return (kr = .success, ⟨true, true, kr = .success⟩)

def vendorWrite (l : KUSB488BLoader) (request : UInt8) (wValue wIndex : UInt16)
    (data : List UInt8) : Usb Result := do
  if ¬ l.device ∨ ¬ l.owner then return .notReady
  if 0 < data.length then
    if ¬ l.buffer ∨ chunkSize < data.length then return .badArgument
    let kr : IOReturn ← Program.call Usb.Request.map
    if kr ≠ .success then return .failed kr
  let io : Usb.OutReply data.length ←
    Program.call (Usb.Request.controlOut request wValue wIndex data)
  if io.status ≠ .success then return .failed io.status
  return if io.transferred = data.length then .success else .underrun

def setCPUReset (l : KUSB488BLoader) (hold : Bool) : Usb Result :=
  l.vendorWrite reqRam cpucsAddr 0 [if hold then 1 else 0]

/-- The length of the chunk at `offset`. -/
def chunkLength (len offset : Nat) : Nat :=
  if chunkSize < len - offset then chunkSize else len - offset

/-- The loop of `downloadChunked` at `offset`. -/
def chunkedLoop (l : KUSB488BLoader) (request : UInt8) (baseAddr : UInt16) (data : List UInt8)
    (len offset : Nat) : Usb Result :=
  if _ : offset < len then do
    let chunk := chunkLength len offset
    let kr ← l.vendorWrite request (baseAddr + UInt16.ofNat offset) 0
      ((data.drop offset).take chunk)
    if kr ≠ .success then return kr
    chunkedLoop l request baseAddr data len (offset + chunk)
  else return .success
  termination_by len - offset
  decreasing_by
    unfold chunkLength chunkSize
    split <;> omega

def downloadChunked (l : KUSB488BLoader) (request : UInt8) (baseAddr : UInt16)
    (blob : KUSBFirmwareBlob) : Usb Result :=
  l.chunkedLoop request baseAddr blob.data blob.length.toNat 0

/-- The loop of `downloadBitstream` at `offset`. -/
def bitstreamLoop (l : KUSB488BLoader) (data : List UInt8) (len offset : Nat) : Usb Result :=
  if _ : offset < len then do
    let chunk := chunkLength len offset
    let last : Bool := ¬ chunkSize < len - offset
    let kr ← l.vendorWrite reqFpga 1 (if last then 1 else 0) ((data.drop offset).take chunk)
    if kr ≠ .success then return kr
    bitstreamLoop l data len (offset + chunk)
  else return .success
  termination_by len - offset
  decreasing_by
    unfold chunkLength chunkSize
    split <;> omega

def downloadBitstream (l : KUSB488BLoader) (blob : KUSBFirmwareBlob) : Usb Result := do
  let kr ← l.vendorWrite reqFpga 0 0 []
  if kr ≠ .success then return kr
  l.bitstreamLoop blob.data blob.length.toNat 0

/-- The images of a driver that was built with the firmware header. -/
structure Images where
  fpgaBitstream : KUSBFirmwareBlob
  extRamBlob : KUSBFirmwareBlob
  mainFirmware : KUSBFirmwareBlob

/-- `images` is `none` where `KUSB_HAVE_FIRMWARE` is 0. -/
def downloadFirmware (l : KUSB488BLoader) (images : Option Images) (bcdDevice : UInt16) :
    Usb Result := do
  let some images := images | return .unsupported
  if bcdDevice < legacyBcdDevice then return .unsupported
  let kr ← l.downloadBitstream images.fpgaBitstream
  if kr ≠ .success then return kr
  let kr ← l.downloadChunked reqExtram 0x4000 images.extRamBlob
  if kr ≠ .success then return kr
  let kr ← l.setCPUReset true
  if kr ≠ .success then return kr
  let kr ← l.downloadChunked reqRam 0 images.mainFirmware
  if kr ≠ .success then
    let _ ← l.setCPUReset false
    return kr
  let kr ← l.setCPUReset false
  if kr ≠ .success then return kr
  return .success

end KUSB488BLoader

end DarwinGpib
