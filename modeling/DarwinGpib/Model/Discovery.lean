import DarwinGpib.Model.Libgpib
import DarwinGpib.Model.Wire

/-!
# Finding boards and instruments

The walks over the registry: `copy_service_for_board` and `enumerate_boards` of `gpibd/gpibd.c`,
with the list that the broker sends and `gpib_list_boards` of `libgpib/src/client.c` reads, and
`Open GPIB/GPIB/GPIBDiscovery.swift` with the calls of `GPIBLibrary.swift` that it makes. What
Foundation makes of a string is a parameter.
-/

namespace DarwinGpib

open Interaction

/-- An `IOUserService` in the registry, with `USB Product Name` and `USB Vendor Name` of the entry
and of those above it, nearest first. -/
structure RegistryEntry where
  userClass : Option String
  usbNames : List (Option String × Option String)
  deriving DecidableEq, Repr

namespace Gpibd

/-! ## The broker's walks -/

/-- `kUserClasses`. -/
def userClasses : List String := ["kusb_488b", "ni_usb", "agilent_82357"]

def isOurs (service : RegistryEntry) : Bool :=
  match service.userClass with
  | none => false
  | some name => userClasses.contains name

/-- The loop of `copy_service_for_board`, with the index of the last service of ours. -/
def copyServiceLoop (board : Int) : (index : Int) → List RegistryEntry → Option RegistryEntry
  | _, [] => none
  | index, service :: rest =>
      if isOurs service then
        if index + 1 = board then some service else copyServiceLoop board (index + 1) rest
      else copyServiceLoop board index rest

def copyServiceForBoard (registry : List RegistryEntry) (board : Int) : Option RegistryEntry :=
  copyServiceLoop board (-1) registry

def modelForUserClass (userClass : String) : String :=
  if userClass = "kusb_488b" then "Keithley KUSB-488B"
  else if userClass = "ni_usb" then "NI GPIB-USB-HS"
  else if userClass = "agilent_82357" then "Agilent 82357"
  else userClass

/-! ## The list of boards -/

/-- `GPIBD_MODEL_MAX`. -/
def modelMax : Nat := 64

/-- `GPIBDBoardInfo`. -/
structure BoardInfo where
  index : UInt32
  model : Fin modelMax → UInt8

/-- `GPIBDBoardList`. -/
structure BoardList where
  count : UInt32
  boards : Fin maxBoards → BoardInfo

def BoardInfo.layout : Layout BoardInfo :=
  (Layout.u32.seq (Layout.u8.array modelMax)).map
    ⟨fun p => ⟨p.1, p.2⟩, fun i => (i.index, i.model), fun _ => rfl, fun _ => rfl⟩

def BoardList.layout : Layout BoardList :=
  (Layout.u32.seq (BoardInfo.layout.array maxBoards)).map
    ⟨fun p => ⟨p.1, p.2⟩, fun l => (l.count, l.boards), fun _ => rfl, fun _ => rfl⟩

/-- The bytes of a C string. -/
def cString (s : String) : List UInt8 := s.toList.map fun c => UInt8.ofNat c.toNat

/-- The string that `snprintf` with `"%s"` leaves in a buffer of this size. -/
def printed (size : Nat) (s : List UInt8) : List UInt8 := (s.takeWhile (· ≠ 0)).take (size - 1)

/-- A zeroed buffer with a string at its head. -/
def buffer {n : Nat} (s : List UInt8) (i : Fin n) : UInt8 := s.getD i 0

/-- `memset`. -/
def BoardList.zero : BoardList := ⟨0, fun _ => ⟨0, buffer []⟩⟩

/-- The next entry of the list. -/
def BoardList.push (list : BoardList) (userClass : String) : BoardList where
  count := list.count + 1
  boards i :=
    if i.val = list.count.toNat then
      ⟨list.count, buffer (printed modelMax (cString (modelForUserClass userClass)))⟩
    else list.boards i

/-- The loop of `enumerate_boards`. -/
def enumerateLoop : BoardList → List RegistryEntry → BoardList
  | list, [] => list
  | list, service :: rest =>
      if list.count.toNat < maxBoards then
        match service.userClass with
        | some name =>
            enumerateLoop (if userClasses.contains name then list.push name else list) rest
        | none => enumerateLoop list rest
      else list

/-- `enumerate_boards`. -/
def enumerateServices (registry : List RegistryEntry) : BoardList := enumerateLoop .zero registry

end Gpibd

namespace Libgpib

/-- `gpib_board_info`, with the string in `model`. -/
structure BoardInfo where
  index : Int32
  model : List UInt8
  deriving DecidableEq, Repr

/-- One entry of `out`. -/
def boardInfo (info : Gpibd.BoardInfo) : BoardInfo where
  index := info.index.toInt32
  model := Gpibd.printed Gpibd.modelMax (List.ofFn info.model)

/-- `gpib_list_boards`: the value that it returns and the entries that it writes. `before` is what
the list held before the reply was copied over it. -/
def listBoards (before : Gpibd.BoardList) (max : Int32) :
    Program (fun _ : Gpibd.Message => Option Gpibd.Answer) (Int32 × List BoardInfo) := do
  if max ≤ 0 then return (-1, [])
  let (kr, got) ← sendMessage 0 Gpibd.opListBoards [] Gpibd.BoardList.layout.size
  if kr ≠ 0 ∨ got.length < 4 then return (-1, [])
  let bytes := got ++ (Gpibd.BoardList.layout.encode before).drop got.length
  match Gpibd.BoardList.layout.decode bytes with
  | none => return (-1, [])
  | some list =>
      let count := list.count.toInt32
      let count := if (Gpibd.maxBoards : Int) < count.toInt then Int32.ofNat Gpibd.maxBoards
        else count
      let count := if max < count then max else count
      return (count, (List.ofFn list.boards).take count.toInt.toNat |>.map boardInfo)

end Libgpib

/-! ## The app -/

namespace GPIBLibrary

open Libgpib

/-- `lastCallFailed`: the ERR bit in `ibsta`. -/
def lastCallFailed : Lib Bool := do
  let s ← get
  return s.ibsta &&& 0x8000 ≠ 0

def findBoard (index : Nat) : Lib (Option Int32) := do
  let ud ← ibfind (some ("gpib" ++ toString index).toList)
  return if 0 ≤ ud then some ud else none

def goOffline (ud : Int32) : Lib Unit := do
  let _ ← ibonl ud 0

def listenerPresent (board : Int32) (primaryAddress : Nat) : Lib Bool := do
  let (_, present) ← ibln board (Int32.ofNat primaryAddress) 0
  let failed ← lastCallFailed
  if failed then return false
  return present.getD false

def openDevice (board primaryAddress : Nat) : Lib (Option Int32) := do
  let ud ← ibdev (Int32.ofNat board) (Int32.ofNat primaryAddress) 0 13 1 0
  return if 0 ≤ ud then some ud else none

/-- `text` is what is left of the bytes as a trimmed string, `none` where nothing is. -/
def query (text : List UInt8 → Option String) (ud : Int32) (command : List UInt8)
    (readLimit : Nat) : Lib (Option String) := do
  let written ← ibwrt ud command command.length
  let failed ← lastCallFailed
  if written.toInt32 < 0 ∨ failed then return none
  let (read, bytes) ← ibrd ud (readLimit - 1)
  let failed ← lastCallFailed
  if read.toInt32 < 0 ∨ failed then return none
  return text (bytes.takeWhile (· ≠ 0))

end GPIBLibrary

structure GPIBInstrument where
  id : String
  boardIndex : Nat
  primaryAddress : Nat
  identification : Option String
  deriving DecidableEq, Repr

structure GPIBAdapter where
  id : String
  modelName : String
  boardIndex : Nat
  ordinal : Option Nat := none
  instruments : List GPIBInstrument := []
  scanUnavailable : Bool := false
  scanUnreliable : Bool := false
  deriving DecidableEq, Repr

def GPIBAdapter.displayName (a : GPIBAdapter) : String :=
  match a.ordinal with
  | none => a.modelName
  | some n => a.modelName ++ " (" ++ toString n ++ ")"

namespace GPIBDiscovery

open Libgpib GPIBLibrary

def knownAdapters : List (String × String) :=
  [("kusb_488b", "Keithley KUSB-488B"), ("ni_usb", "NI GPIB-USB-HS"),
    ("agilent_82357", "Agilent 82357")]

/-- The product name nearest above the service, within six entries. -/
def usbProductName (capitalized : String → String) (service : RegistryEntry) : Option String :=
  (service.usbNames.take 6).findSome? fun (product, vendor) =>
    product.map fun product =>
      match vendor with
      | some vendor => if vendor.isEmpty then product else capitalized vendor ++ " " ++ product
      | none => product

/-- The loop of `adapters`. -/
def adaptersLoop (capitalized : String → String) : (index : Nat) → List RegistryEntry →
    List GPIBAdapter
  | _, [] => []
  | index, service :: rest =>
      match service.userClass with
      | none => adaptersLoop capitalized index rest
      | some userClass =>
          match knownAdapters.lookup userClass with
          | none => adaptersLoop capitalized index rest
          | some friendly =>
              { id := userClass ++ "#" ++ toString index
                modelName := (usbProductName capitalized service).getD friendly
                boardIndex := index } :: adaptersLoop capitalized (index + 1) rest

/-- The numbering of `applyOrdinals`, with what `seen` has counted. -/
def ordinalsLoop (counts : String → Nat) : (seen : String → Nat) → List GPIBAdapter →
    List GPIBAdapter
  | _, [] => []
  | seen, adapter :: rest =>
      if 1 < counts adapter.modelName then
        let next := seen adapter.modelName + 1
        { adapter with ordinal := some next } ::
          ordinalsLoop counts (Function.update seen adapter.modelName next) rest
      else adapter :: ordinalsLoop counts seen rest

def applyOrdinals (adapters : List GPIBAdapter) : List GPIBAdapter :=
  let counts := adapters.foldl (fun counts adapter =>
    Function.update counts adapter.modelName (counts adapter.modelName + 1)) fun _ => 0
  ordinalsLoop counts (fun _ => 0) adapters

def adapters (capitalized : String → String) (registry : List RegistryEntry) :
    List GPIBAdapter :=
  applyOrdinals (adaptersLoop capitalized 0 registry)

inductive ScanState where
  | ok
  | unavailable
  | unreliable
  deriving DecidableEq, Repr

def maxDevicesOnBus : Nat := 15

/-- The sweep over these addresses. -/
def occupied (board : Int32) : List Nat → Lib (List Nat)
  | [] => return []
  | pad :: rest => do
      let present ← listenerPresent board pad
      let others ← occupied board rest
      return if present then pad :: others else others

/-- `*IDN?` and a line feed. -/
def idn : List UInt8 := [0x2A, 0x49, 0x44, 0x4E, 0x3F, 0x0A]

/-- Ask the instrument at an address to identify itself. -/
def identify (text : List UInt8 → Option String) (boardIndex pad : Nat) :
    Lib (Option String) := do
  match ← openDevice boardIndex pad with
  | none => return none
  | some ud =>
      let answer ← query text ud idn 256
      goOffline ud
      return answer

def instrumentAt (boardIndex pad : Nat) (identification : Option String) : GPIBInstrument where
  id := "gpib" ++ toString boardIndex ++ "::" ++ toString pad
  boardIndex := boardIndex
  primaryAddress := pad
  identification := identification

def instruments (text : List UInt8 → Option String) (boardIndex : Nat) :
    List Nat → Lib (List GPIBInstrument)
  | [] => return []
  | pad :: rest => do
      let answer ← identify text boardIndex pad
      let others ← instruments text boardIndex rest
      return instrumentAt boardIndex pad answer :: others

/-- `isAvailable` is whether the library was loaded. -/
def scanInstruments (text : List UInt8 → Option String) (isAvailable : Bool) (boardIndex : Nat) :
    Lib (List GPIBInstrument × ScanState) := do
  if !isAvailable then return ([], .unavailable)
  match ← findBoard boardIndex with
  | none => return ([], .unavailable)
  | some board =>
      let pads ← occupied board (List.range' 1 30)
      if maxDevicesOnBus < pads.length then return ([], .unreliable)
      let results ← instruments text boardIndex pads
      return (results, .ok)

end GPIBDiscovery

end DarwinGpib
