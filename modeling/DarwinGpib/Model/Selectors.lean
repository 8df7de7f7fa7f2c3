import DarwinGpib.Library.Layout
import DarwinGpib.Model.UserClient

/-!
# The structures on the wire

`driver/gpib/GPIBSelectors.h`: the selectors and the structures that cross the user client, with
their layouts. None of them has padding, so a structure is its fields one behind the other.
-/

namespace DarwinGpib

/-- `GPIBSelector`. -/
inductive Selector where
  | boardOnline
  | openDescriptor
  | closeDescriptor
  | configure
  | write
  | read
  | deviceClear
  | interfaceClear
  | remoteEnable
  | wait
  | ask
  | serialPoll
  | trigger
  | goToLocal
  | localLockout
  | lineStatus
  | listenerPresent
  | sendCommand
  deriving DecidableEq, Repr

namespace Selector

/-- The enumerators in order. -/
def all : List Selector :=
  [boardOnline, openDescriptor, closeDescriptor, configure, write, read, deviceClear,
    interfaceClear, remoteEnable, wait, ask, serialPoll, trigger, goToLocal, localLockout,
    lineStatus, listenerPresent, sendCommand]

/-- `kGPIBSel_Count`. -/
def count : Nat := 18

/-- The value of the enumerator. -/
def code : Selector → Nat
  | boardOnline => 0
  | openDescriptor => 1
  | closeDescriptor => 2
  | configure => 3
  | write => 4
  | read => 5
  | deviceClear => 6
  | interfaceClear => 7
  | remoteEnable => 8
  | wait => 9
  | ask => 10
  | serialPoll => 11
  | trigger => 12
  | goToLocal => 13
  | localLockout => 14
  | lineStatus => 15
  | listenerPresent => 16
  | sendCommand => 17

/-- The selector that a number stands for. -/
def ofCode (n : Nat) : Option Selector := all[n]?

@[simp] theorem ofCode_code (s : Selector) : ofCode s.code = some s := by
  cases s <;> rfl

theorem ofCode_eq_some_iff {n : Nat} {s : Selector} : ofCode n = some s ↔ n = s.code := by
  constructor
  · intro h
    obtain ⟨hn, -⟩ := List.getElem?_eq_some_iff.mp h
    have hall : ∀ k : Fin all.length, ∀ s, ofCode k.val = some s → k.val = s.code := by decide
    exact hall ⟨n, hn⟩ s h
  · rintro rfl
    exact ofCode_code s

end Selector

namespace Wire

/-! ## Inputs -/

/-- `GPIBOnlineIn`. -/
structure OnlineIn where
  online : UInt32
  reserved : UInt32
  deriving DecidableEq, Repr

/-- `GPIBOpenDescriptorIn` behind its other fields has one that nothing reads. -/
structure OpenDescriptorIn where
  fields : DarwinGpib.OpenDescriptorIn
  reserved : UInt32
  deriving DecidableEq, Repr

/-- `GPIBHandleIn`. -/
structure HandleIn where
  handle : Int32
  reserved : UInt32
  deriving DecidableEq, Repr

/-- `GPIBConfigureIn`. -/
structure ConfigureIn where
  handle : Int32
  key : UInt32
  value : Int32
  reserved : UInt32
  deriving DecidableEq, Repr

/-- `GPIBWriteIn` before its payload. -/
structure WriteIn where
  handle : Int32
  sendEoi : UInt32
  length : UInt32
  reserved : UInt32
  deriving DecidableEq, Repr

/-- `GPIBReadIn`. -/
structure ReadIn where
  handle : Int32
  requestCount : UInt32
  deriving DecidableEq, Repr

/-- `GPIBRemoteEnableIn`. -/
structure RemoteEnableIn where
  handle : Int32
  enable : Int32
  deriving DecidableEq, Repr

/-- `GPIBWaitIn`. -/
structure WaitIn where
  handle : Int32
  mask : Int32
  timeoutUs : UInt32
  reserved : UInt32
  deriving DecidableEq, Repr

/-- `GPIBAskIn`. -/
structure AskIn where
  handle : Int32
  option : Int32
  deriving DecidableEq, Repr

/-- `GPIBAddressIn`. -/
structure AddressIn where
  handle : Int32
  pad : UInt32
  sad : Int32
  reserved : UInt32
  deriving DecidableEq, Repr

/-- `GPIBSendCommandIn` before its payload. -/
structure SendCommandIn where
  handle : Int32
  length : UInt32
  deriving DecidableEq, Repr

/-! ## Outputs -/

/-- `GPIBStatusOut`, which `GPIBWriteOut` repeats field by field. -/
structure StatusOut where
  ibsta : UInt32
  iberr : UInt32
  ibcnt : UInt32
  reserved : UInt32
  deriving DecidableEq, Repr

/-- `GPIBOpenDescriptorOut`. -/
structure OpenDescriptorOut where
  handle : Int32
  ibsta : UInt32
  iberr : UInt32
  reserved : UInt32
  deriving DecidableEq, Repr

/-- `GPIBReadOut` before its payload. -/
structure ReadOut where
  ibsta : UInt32
  iberr : UInt32
  ibcnt : UInt32
  endFlag : UInt32
  deriving DecidableEq, Repr

/-- `GPIBAskOut`. -/
structure AskOut where
  value : Int32
  ibsta : UInt32
  iberr : UInt32
  reserved : UInt32
  deriving DecidableEq, Repr

/-- `GPIBSerialPollOut`. -/
structure SerialPollOut where
  statusByte : UInt8
  reserved0 : UInt8
  reserved1 : UInt16
  ibsta : UInt32
  iberr : UInt32
  reserved2 : UInt32
  deriving DecidableEq, Repr

/-- `GPIBListenerOut`. -/
structure ListenerOut where
  present : UInt32
  ibsta : UInt32
  iberr : UInt32
  reserved : UInt32
  deriving DecidableEq, Repr

/-- `GPIBLineStatusOut`. -/
structure LineStatusOut where
  lineStatus : UInt32
  ibsta : UInt32
  iberr : UInt32
  reserved : UInt32
  deriving DecidableEq, Repr

/-! ## Layouts -/

section Layouts

open Layout

def OnlineIn.layout : Layout OnlineIn :=
  (u32.seq u32).map
    { toFun := fun (online, reserved) => ⟨online, reserved⟩
      invFun := fun s => (s.online, s.reserved) }

def OpenDescriptorIn.layout : Layout OpenDescriptorIn :=
  (u32.seq (u32.seq (u32.seq (u32.seq (u32.seq (u32.seq (u32.seq u32))))))).map
    { toFun := fun (pad, sad, isBoard, timeoutCode, eosChar, eosFlags, eot, reserved) =>
        ⟨⟨pad, sad, isBoard, timeoutCode, eosChar, eosFlags, eot⟩, reserved⟩
      invFun := fun ⟨s, reserved⟩ =>
        (s.pad, s.sad, s.isBoard, s.timeoutCode, s.eosChar, s.eosFlags, s.eot, reserved) }

def HandleIn.layout : Layout HandleIn :=
  (i32.seq u32).map
    { toFun := fun (handle, reserved) => ⟨handle, reserved⟩
      invFun := fun s => (s.handle, s.reserved) }

def ConfigureIn.layout : Layout ConfigureIn :=
  (i32.seq (u32.seq (i32.seq u32))).map
    { toFun := fun (handle, key, value, reserved) => ⟨handle, key, value, reserved⟩
      invFun := fun s => (s.handle, s.key, s.value, s.reserved) }

def WriteIn.layout : Layout WriteIn :=
  (i32.seq (u32.seq (u32.seq u32))).map
    { toFun := fun (handle, sendEoi, length, reserved) => ⟨handle, sendEoi, length, reserved⟩
      invFun := fun s => (s.handle, s.sendEoi, s.length, s.reserved) }

def ReadIn.layout : Layout ReadIn :=
  (i32.seq u32).map
    { toFun := fun (handle, requestCount) => ⟨handle, requestCount⟩
      invFun := fun s => (s.handle, s.requestCount) }

def RemoteEnableIn.layout : Layout RemoteEnableIn :=
  (i32.seq i32).map
    { toFun := fun (handle, enable) => ⟨handle, enable⟩
      invFun := fun s => (s.handle, s.enable) }

def WaitIn.layout : Layout WaitIn :=
  (i32.seq (i32.seq (u32.seq u32))).map
    { toFun := fun (handle, mask, timeoutUs, reserved) => ⟨handle, mask, timeoutUs, reserved⟩
      invFun := fun s => (s.handle, s.mask, s.timeoutUs, s.reserved) }

def AskIn.layout : Layout AskIn :=
  (i32.seq i32).map
    { toFun := fun (handle, option) => ⟨handle, option⟩
      invFun := fun s => (s.handle, s.option) }

def AddressIn.layout : Layout AddressIn :=
  (i32.seq (u32.seq (i32.seq u32))).map
    { toFun := fun (handle, pad, sad, reserved) => ⟨handle, pad, sad, reserved⟩
      invFun := fun s => (s.handle, s.pad, s.sad, s.reserved) }

def SendCommandIn.layout : Layout SendCommandIn :=
  (i32.seq u32).map
    { toFun := fun (handle, length) => ⟨handle, length⟩
      invFun := fun s => (s.handle, s.length) }

def StatusOut.layout : Layout StatusOut :=
  (u32.seq (u32.seq (u32.seq u32))).map
    { toFun := fun (ibsta, iberr, ibcnt, reserved) => ⟨ibsta, iberr, ibcnt, reserved⟩
      invFun := fun s => (s.ibsta, s.iberr, s.ibcnt, s.reserved) }

def OpenDescriptorOut.layout : Layout OpenDescriptorOut :=
  (i32.seq (u32.seq (u32.seq u32))).map
    { toFun := fun (handle, ibsta, iberr, reserved) => ⟨handle, ibsta, iberr, reserved⟩
      invFun := fun s => (s.handle, s.ibsta, s.iberr, s.reserved) }

def ReadOut.layout : Layout ReadOut :=
  (u32.seq (u32.seq (u32.seq u32))).map
    { toFun := fun (ibsta, iberr, ibcnt, endFlag) => ⟨ibsta, iberr, ibcnt, endFlag⟩
      invFun := fun s => (s.ibsta, s.iberr, s.ibcnt, s.endFlag) }

def AskOut.layout : Layout AskOut :=
  (i32.seq (u32.seq (u32.seq u32))).map
    { toFun := fun (value, ibsta, iberr, reserved) => ⟨value, ibsta, iberr, reserved⟩
      invFun := fun s => (s.value, s.ibsta, s.iberr, s.reserved) }

def SerialPollOut.layout : Layout SerialPollOut :=
  (u8.seq (u8.seq (u16.seq (u32.seq (u32.seq u32))))).map
    { toFun := fun (statusByte, reserved0, reserved1, ibsta, iberr, reserved2) =>
        ⟨statusByte, reserved0, reserved1, ibsta, iberr, reserved2⟩
      invFun := fun s =>
        (s.statusByte, s.reserved0, s.reserved1, s.ibsta, s.iberr, s.reserved2) }

def ListenerOut.layout : Layout ListenerOut :=
  (u32.seq (u32.seq (u32.seq u32))).map
    { toFun := fun (present, ibsta, iberr, reserved) => ⟨present, ibsta, iberr, reserved⟩
      invFun := fun s => (s.present, s.ibsta, s.iberr, s.reserved) }

def LineStatusOut.layout : Layout LineStatusOut :=
  (u32.seq (u32.seq (u32.seq u32))).map
    { toFun := fun (lineStatus, ibsta, iberr, reserved) => ⟨lineStatus, ibsta, iberr, reserved⟩
      invFun := fun s => (s.lineStatus, s.ibsta, s.iberr, s.reserved) }

end Layouts

end Wire

end DarwinGpib
