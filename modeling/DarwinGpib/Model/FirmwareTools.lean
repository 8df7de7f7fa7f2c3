import DarwinGpib.Library.Program
import DarwinGpib.Library.Regex

/-!
# The firmware scripts

`tools/extract_kusb_firmware.py`, which takes the images out of a Windows driver and writes a C
header, and `tools/kusb_fw_download.py`, which reads that header and downloads the images. A text
is a list of characters; addresses are integers, as in Python.
-/

namespace DarwinGpib

open Interaction Regex

abbrev Bytes := List UInt8
abbrev Text := List Char

/-! ## Reading the driver -/

namespace ExtractKusbFirmware

/-- How the script ends early: an exception of `struct`, or a `SystemExit` with its values. -/
inductive Exit where
  | structError
  | notPE
  | outsideSections (va : Int)
  | implausibleLength (name : String) (length : Nat) (capacity : Int)
  | noLJMP (first : Option UInt8)
  deriving DecidableEq, Repr

/-- `struct.unpack_from` of one little-endian number of `size` bytes. -/
def unpackFrom (size : Nat) (data : Bytes) (offset : Nat) : Except Exit Nat :=
  if offset + size ≤ data.length then
    .ok (((data.drop offset).take size).foldr (fun b n => b.toNat + 256 * n) 0)
  else .error .structError

/-- `data[lo:hi]`, which takes what there is. -/
def slice (data : Bytes) (lo hi : Nat) : Bytes := (data.drop lo).take (hi - lo)

structure Section where
  base : Nat
  rsz : Nat
  ra : Nat
  deriving DecidableEq, Repr

def loadSection (data : Bytes) (imgbase o : Nat) : Except Exit Section := do
  let _vsz ← unpackFrom 4 data (o + 8)
  let va ← unpackFrom 4 data (o + 12)
  let rsz ← unpackFrom 4 data (o + 16)
  let ra ← unpackFrom 4 data (o + 20)
  return { base := imgbase + va, rsz, ra }

def loadPeSections (data : Bytes) : Except Exit (List Section) := do
  let pe ← unpackFrom 4 data 0x3C
  if slice data pe (pe + 4) ≠ [0x50, 0x45, 0, 0] then throw .notPE
  let nsec ← unpackFrom 2 data (pe + 6)
  let optsz ← unpackFrom 2 data (pe + 20)
  let imgbase ← unpackFrom 8 data (pe + 24 + 24)
  (List.range nsec).mapM fun i => loadSection data imgbase (pe + 24 + optsz + i * 40)

/-- The virtual address is in the section's raw data. -/
def Section.Contains (s : Section) (va : Int) : Prop :=
  s.base ≤ va ∧ va < s.base + s.rsz

instance (s : Section) (va : Int) : Decidable (s.Contains va) :=
  inferInstanceAs (Decidable (_ ∧ _))

def vaToOff : List Section → Int → Except Exit Nat
  | [], va => .error (.outsideSections va)
  | s :: secs, va => if s.Contains va then .ok (s.ra + (va - s.base).toNat) else vaToOff secs va

def readBlob (data : Bytes) (secs : List Section) (dataVa lenVa : Int) (name : String) :
    Except Exit Bytes := do
  let length ← unpackFrom 4 data (← vaToOff secs lenVa)
  let capacity := lenVa - dataVa
  if ¬ (0 < length ∧ length ≤ capacity) then throw (.implausibleLength name length capacity)
  let off ← vaToOff secs dataVa
  return slice data off (off + length)

/-! ## Writing the header -/

/-- A digit of `f"\x7bb:02X\x7d"`. -/
def hexDigit (n : Nat) : Char := Char.ofNat (if n < 10 then 0x30 + n else 0x37 + n)

/-- `f"0x\x7bb:02X\x7d"`. -/
def hexByte (b : UInt8) : Text := ['0', 'x', hexDigit (b.toNat / 16), hexDigit (b.toNat % 16)]

def emitRow (row : Bytes) : Text :=
  "    ".toList ++ ", ".toList.intercalate (row.map hexByte) ++ ",\n".toList

/-- The slices that the loop over `range(0, len(blob), 12)` takes. -/
def rows (blob : Bytes) : List Bytes :=
  (List.range' 0 ((blob.length + 11) / 12) 12).map fun i => slice blob i (i + 12)

def emitArray (symbol : String) (blob : Bytes) : Text :=
  "static const uint8_t ".toList ++ symbol.toList ++ "[] = \x7b\n".toList ++
    (rows blob).flatMap emitRow ++ "\x7d;\n\n".toList

/-- Lines as `out.write` is given them. -/
def textOf (lines : List String) : Text := lines.flatMap fun l => l.toList ++ ['\n']

def banner : List String := [
  "// Generated by tools/extract_kusb_firmware.py -- do not edit.",
  "// Contains Keithley/ADLINK firmware images. Do not redistribute.",
  "",
  "#ifndef kusb_488b_firmware_data_h",
  "#define kusb_488b_firmware_data_h",
  "",
  "#include <stdint.h>",
  ""]

def descriptors : List String := [
  "static const KUSBFirmwareBlob kKusbFpgaBitstream = " ++
    "\x7b kKusbFpgaBitstreamData, sizeof(kKusbFpgaBitstreamData) \x7d;",
  "static const KUSBFirmwareBlob kKusbExtRamBlob = " ++
    "\x7b kKusbExtRamBlobData, sizeof(kKusbExtRamBlobData) \x7d;",
  "static const KUSBFirmwareBlob kKusbMainFirmware = " ++
    "\x7b kKusbMainFirmwareData, sizeof(kKusbMainFirmwareData) \x7d;",
  "",
  "#endif /* kusb_488b_firmware_data_h */"]

/-- What `main` writes to the header. -/
def header (rbf extram mainFw : Bytes) : Text :=
  textOf banner ++ emitArray "kKusbFpgaBitstreamData" rbf ++
    emitArray "kKusbExtRamBlobData" extram ++ emitArray "kKusbMainFirmwareData" mainFw ++
    textOf descriptors

/-- The virtual addresses on the command line, with their defaults. -/
structure Args where
  extramVa : Int := 0x140007170
  extramLenVa : Int := 0x140008170
  mainVa : Int := 0x140008180
  mainLenVa : Int := 0x14000C180
  deriving DecidableEq, Repr

def main (drv rbf : Bytes) (args : Args) : Except Exit Text := do
  let secs ← loadPeSections drv
  let extram ← readBlob drv secs args.extramVa args.extramLenVa "ext-RAM blob"
  let mainFw ← readBlob drv secs args.mainVa args.mainLenVa "main firmware"
  if slice mainFw 0 1 ≠ [0x02] then throw (.noLJMP mainFw.head?)
  return header rbf extram mainFw

end ExtractKusbFirmware

/-! ## Reading the header -/

namespace KusbFwDownload

/-- `\s`. -/
def isSpace (c : Char) : Bool :=
  let n := c.toNat
  (0x09 ≤ n && n ≤ 0x0D) || (0x1C ≤ n && n ≤ 0x20) || n == 0x85 || n == 0xA0 || n == 0x1680 ||
    (0x2000 ≤ n && n ≤ 0x200A) || n == 0x2028 || n == 0x2029 || n == 0x202F || n == 0x205F ||
    n == 0x3000

/-- `[0-9A-Fa-f]`. -/
def isHexDigit (c : Char) : Bool :=
  ('0' ≤ c && c ≤ '9') || ('A' ≤ c && c ≤ 'F') || ('a' ≤ c && c ≤ 'f')

def hexValue (c : Char) : Nat :=
  if c ≤ '9' then c.toNat - 0x30 else if c ≤ 'F' then c.toNat - 0x37 else c.toNat - 0x57

/-- `int(h, 16)` of hexadecimal digits. -/
def intOfHex (h : Text) : Nat := h.foldl (fun n c => n * 16 + hexValue c) 0

/-- `kKusb` name `Data\[\]\s*=\s*\{(.*?)\};`, for a name without special characters. -/
def arrayPattern (name : String) : Pattern Char Text :=
  andThen (literal ("kKusb".toList ++ name.toList ++ "Data[]".toList)) <|
    andThen (greedy isSpace) <| andThen (literal "=".toList) <| andThen (greedy isSpace) <|
      andThen (literal "\x7b".toList) <| before lazy (literal "\x7d;".toList)

/-- `0x([0-9A-Fa-f]{2})`. -/
def hexPattern : Pattern Char Text := andThen (literal "0x".toList) (exactly 2 isHexDigit)

/-- `none` is the exit for an array that is not found. -/
def parseArray (name : String) (text : Text) : Option Bytes :=
  (search (arrayPattern name) text).map fun body =>
    (findall hexPattern body).map fun h => UInt8.ofNat (intOfHex h)

/-! ## The download -/

/-- What the script asks of `usb.core`. -/
inductive Request where
  /-- `usb.core.find`. -/
  | find (idProduct : Nat)
  | setConfiguration
  | ctrlTransfer (bmRequestType request wValue wIndex : Nat) (data : Bytes)
  deriving DecidableEq, Repr

/-- `find` gives the `bcdDevice` of the device that is found; otherwise `none` is an exception of
`usb.core`. -/
abbrev Request.Reply : Request → Type
  | find _ => Option Nat
  | setConfiguration => Option Unit
  | ctrlTransfer _ _ _ _ _ => Option Nat

inductive Raised where
  | noHeader
  | noArray (name : String)
  | noLoader
  | legacyStage (bcdDevice : Nat)
  | usbError
  | shortWrite (request sent length : Nat)
  | notReenumerated
  deriving DecidableEq, Repr

/-- A program of the script, which may end by an exception. -/
abbrev Script := ExceptT Raised (Program Request.Reply)

def ask (i : Request) : Script (i.Reply) := ExceptT.lift (Program.call i)

def pidLoader : Nat := 0xEEEE
def pid488B : Nat := 0x488B
def reqRam : Nat := 0xA0
def reqExtram : Nat := 0xA3
def reqFpga : Nat := 0xA4
def cpucsAddr : Nat := 0xE600
def chunkSize : Nat := 0x1000
def legacyBcdDevice : Nat := 0x0004

def vendorWrite (request wValue wIndex : Nat) (data : Bytes) : Script Unit := do
  match ← ask (.ctrlTransfer 0x40 request wValue wIndex data) with
  | none => throw .usbError
  | some n => if n ≠ data.length then throw (.shortWrite request n data.length)

/-- The loop of `download_chunked` at `offset`. -/
def chunkedLoop (request baseAddr : Nat) (data : Bytes) (offset : Nat) : Script Unit :=
  if _ : offset < data.length then do
    let chunk := (data.drop offset).take chunkSize
    vendorWrite request ((baseAddr + offset) &&& 0xFFFF) 0 chunk
    chunkedLoop request baseAddr data (offset + chunk.length)
  else return
  termination_by data.length - offset
  decreasing_by
    rw [List.length_take, List.length_drop]
    unfold chunkSize
    omega

def downloadChunked (request baseAddr : Nat) (data : Bytes) : Script Unit :=
  chunkedLoop request baseAddr data 0

/-- The loop of `download_bitstream` at `offset`. -/
def bitstreamLoop (data : Bytes) (offset : Nat) : Script Unit :=
  if _ : offset < data.length then do
    let chunk := (data.drop offset).take chunkSize
    let last : Bool := data.length ≤ offset + chunk.length
    vendorWrite reqFpga 1 (if last then 1 else 0) chunk
    bitstreamLoop data (offset + chunk.length)
  else return
  termination_by data.length - offset
  decreasing_by
    rw [List.length_take, List.length_drop]
    unfold chunkSize
    omega

def downloadBitstream (data : Bytes) : Script Unit := do
  vendorWrite reqFpga 0 0 []
  bitstreamLoop data 0

/-- The wait for the device to come back, with the polls left. -/
def awaitReenumeration : Nat → Script Unit
  | 0 => throw .notReenumerated
  | n + 1 => do
      if (← ask (.find pid488B)).isSome then return
      awaitReenumeration n

def parseOrExit (name : String) (text : Text) : Script Bytes :=
  match parseArray name text with
  | some blob => return blob
  | none => throw (.noArray name)

/-- `main`, given what the header file holds if it exists. -/
def main (header : Option Text) : Script Unit := do
  let some text := header | throw .noHeader
  let fpga ← parseOrExit "FpgaBitstream" text
  let extram ← parseOrExit "ExtRamBlob" text
  let mainFw ← parseOrExit "MainFirmware" text
  let some bcd ← ask (.find pidLoader)
    | if (← ask (.find pid488B)).isSome then return
      throw .noLoader
  if bcd < legacyBcdDevice then throw (.legacyStage bcd)
  let some () ← ask .setConfiguration | throw .usbError
  downloadBitstream fpga
  downloadChunked reqExtram 0x4000 extram
  vendorWrite reqRam cpucsAddr 0 [1]
  downloadChunked reqRam 0 mainFw
  vendorWrite reqRam cpucsAddr 0 [0]
  awaitReenumeration 50

end KusbFwDownload

end DarwinGpib
