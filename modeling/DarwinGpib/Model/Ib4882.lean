import DarwinGpib.Model.Libgpib

/-!
# The 488.2 calls

The helpers of `libgpib/src/ib_488_2.c` that address devices. A list of addresses stands for
the entries of a C array; what follows a terminator in it is not looked at.
-/

namespace DarwinGpib

open Interaction

namespace Libgpib

/-! ## Addresses -/

/-- `Addr4882_t`: the primary address in the low byte, the secondary one in the high byte. -/
abbrev Addr4882 := UInt16

/-- `NOADDR`. -/
def noAddr : Addr4882 := 0xFFFF

def getPAD (address : Addr4882) : UInt32 := (address &&& 0xff).toUInt32

def getSAD (address : Addr4882) : UInt32 := ((address >>> 8) &&& 0xff).toUInt32

def addrValid (address : Addr4882) : Bool := address != noAddr && address != 0xffff

/-- `T3s`. -/
def t3s : Int32 := 12

/-- `open_device`. -/
def openDevice (boardDesc : Int32) (address : Addr4882) : Lib Int32 :=
  let pad := (getPAD address).toInt32
  let sad := (getSAD address).toInt32
  ibdev (boardOf boardDesc) pad (if sad = 0 then -1 else sad) t3s 1 0

/-- The common shape of the calls on one device: open a descriptor, work on it, close it. The
result is `absent` when the descriptor could not be opened. -/
def withDevice {α : Type} (boardDesc : Int32) (address : Addr4882) (absent : α)
    (op : Int32 → Lib α) : Lib α := do
  let ud ← openDevice boardDesc address
  if ud < 0 then return absent
  let a ← op ud
  let _ ← ibonl ud 0
  return a

/-- The common shape of the calls on a list of devices. -/
def forAddresses {α : Type} (op : Addr4882 → Lib α) : List Addr4882 → Lib (List α)
  | [] => return []
  | address :: rest => do
      if !addrValid address then return []
      let a ← op address
      let as ← forAddresses op rest
      return a :: as

/-! ## Bus operations -/

def clearDevice (ud : Int32) : Lib Unit := do
  let _ ← ibclr ud

def triggerDevice (ud : Int32) : Lib Unit := do
  let _ ← ibtrg ud

def devClear (boardDesc : Int32) (address : Addr4882) : Lib Unit :=
  withDevice boardDesc address () clearDevice

def trigger (boardDesc : Int32) (address : Addr4882) : Lib Unit :=
  withDevice boardDesc address () triggerDevice

def localDevice (ud : Int32) : Lib Unit := do
  let _ ← ibloc ud

def sendIFC (boardDesc : Int32) : Lib Unit := do
  let _ ← ibsic boardDesc

/-- The result of the call is not looked at. -/
def sendLLO (boardDesc : Int32) : Lib Unit := do
  match ← connForBoard (boardOf boardDesc) with
  | none => return ()
  | some c =>
      let handle ← handleOf boardDesc
      let (_, out) ← callStruct c (.localLockout handle.toInt)
      let status := statusOut out
      setStatus status.ibsta status.iberr 0

def enableLocal (boardDesc : Int32) (list : List Addr4882) : Lib (List Unit) :=
  forAddresses (fun address => withDevice boardDesc address () localDevice) list

/-- The list is not looked at. -/
def enableRemote (boardDesc : Int32) : Lib Unit := do
  let _ ← ibsre boardDesc 1

def devClearList (boardDesc : Int32) (list : List Addr4882) : Lib (List Unit) :=
  forAddresses (devClear boardDesc) list

def triggerList (boardDesc : Int32) (list : List Addr4882) : Lib (List Unit) :=
  forAddresses (trigger boardDesc) list

/-! ## Data transfer -/

/-- `NLend`. -/
def nlEnd : Int32 := 2

/-- The transfer of `Send`; `allocated` is whether `malloc` finds room for the copy that ends
in a line feed. -/
def sendDevice (buffer : List UInt8) (count : Int) (eotMode : Int32) (allocated : Bool)
    (ud : Int32) : Lib Unit := do
  if eotMode = nlEnd then
    if allocated then
      let _ ← ibwrt ud (buffer.take count.toNat ++ [10]) (count + 1)
  else
    let _ ← ibwrt ud buffer count

def send (boardDesc : Int32) (address : Addr4882) (buffer : List UInt8) (count : Int)
    (eotMode : Int32) (allocated : Bool) : Lib Unit :=
  withDevice boardDesc address () (sendDevice buffer count eotMode allocated)

def sendList (boardDesc : Int32) (list : List Addr4882) (buffer : List UInt8) (count : Int)
    (eotMode : Int32) (allocated : Bool) : Lib (List Unit) :=
  forAddresses (fun address => send boardDesc address buffer count eotMode allocated) list

/-- `eotmode` is not looked at. -/
def sendDataBytes (boardDesc : Int32) (buffer : List UInt8) (count : Int) : Lib Unit := do
  let _ ← ibwrt boardDesc buffer count

def sendCmds (boardDesc : Int32) (cmds : List UInt8) (count : Int) : Lib Unit := do
  let _ ← ibcmd boardDesc cmds count

/-- The command bytes of one address in a role, as `SendSetup` and `ReceiveSetup` build them. -/
def setupBytes (role : UInt8) (address : Addr4882) : List UInt8 :=
  ((getPAD address &&& 0x1f) ||| role.toUInt32).toUInt8 ::
    if getSAD address ≠ 0 then [((getSAD address &&& 0x1f) ||| CmdByte.sad.toUInt32).toUInt8]
    else []

/-- The loop of `SendSetup`, with `n` bytes in `cmd` already. -/
def setupLoop : (n : Nat) → List Addr4882 → List UInt8
  | _, [] => []
  | n, address :: rest =>
      if addrValid address && n < 30 then
        setupBytes CmdByte.lad address ++
          setupLoop (n + (setupBytes CmdByte.lad address).length) rest
      else []

def sendSetupCommands (list : List Addr4882) : List UInt8 := CmdByte.unl :: setupLoop 1 list

def sendSetup (boardDesc : Int32) (list : List Addr4882) : Lib Unit := do
  let _ ← ibcmd boardDesc (sendSetupCommands list) (sendSetupCommands list).length

/-- The transfer of `Receive`: the bytes stored in the buffer. -/
def receiveDevice (count : Int) (ud : Int32) : Lib (List UInt8) := do
  let (_, bytes) ← ibrd ud count
  return bytes

def receive (boardDesc : Int32) (address : Addr4882) (count : Int) : Lib (List UInt8) :=
  withDevice boardDesc address [] (receiveDevice count)

def receiveSetupCommands (address : Addr4882) : List UInt8 :=
  CmdByte.unl :: setupBytes CmdByte.tad address

def receiveSetup (boardDesc : Int32) (address : Addr4882) : Lib Unit := do
  let _ ← ibcmd boardDesc (receiveSetupCommands address) (receiveSetupCommands address).length

def rcvRespMsg (boardDesc : Int32) (count : Int) : Lib (List UInt8) := do
  let (_, bytes) ← ibrd boardDesc count
  return bytes

/-! ## Status polling -/

/-- The status byte, 0 unless it is written. -/
def pollDevice (ud : Int32) : Lib UInt8 := do
  let (_, statusByte) ← ibrsp ud
  return statusByte.getD 0

def readStatusByte (boardDesc : Int32) (address : Addr4882) : Lib UInt8 :=
  withDevice boardDesc address 0 pollDevice

def allSPoll (boardDesc : Int32) (list : List Addr4882) : Lib (List UInt8) :=
  forAddresses (readStatusByte boardDesc) list

def testSRQ (boardDesc : Int32) : Lib Bool := do
  let (_, lines) ← iblines boardDesc
  return lines.getD 0 &&& BusLine.busSRQ ≠ 0

/-- The loop of `WaitSRQ`, with this many polls left. -/
def waitSRQLoop (boardDesc : Int32) : Nat → Lib Bool
  | 0 => return false
  | polls + 1 => do
      let requested ← testSRQ boardDesc
      if requested then return true
      waitSRQLoop boardDesc polls

def waitSRQ (boardDesc : Int32) : Lib Bool := waitSRQLoop boardDesc 300

/-- The loop of `FindRQS` from index `i` on. -/
def findRQSLoop (boardDesc : Int32) : (i : Nat) → List Addr4882 → Lib Int16
  | _, [] => return -1
  | i, address :: rest => do
      if !addrValid address then return -1
      let statusByte ← readStatusByte boardDesc address
      if statusByte &&& 0x40 ≠ 0 then return Int16.ofNat i
      findRQSLoop boardDesc (i + 1) rest

def findRQS (boardDesc : Int32) (list : List Addr4882) : Lib Int16 := findRQSLoop boardDesc 0 list

/-- The loop of `FindLstn`, with room for `room` results. -/
def findLstnLoop (boardDesc : Int32) : (room : Nat) → List Addr4882 → Lib (List Addr4882)
  | _, [] => return []
  | room, address :: rest => do
      if !(addrValid address && 0 < room) then return []
      let (_, present) ← ibln boardDesc (getPAD address).toInt32 (getSAD address).toInt32
      if present.getD false then
        let found ← findLstnLoop boardDesc (room - 1) rest
        return address :: found
      findLstnLoop boardDesc room rest

/-- The entries of `results` that are written. -/
def findLstn (boardDesc : Int32) (padList : List Addr4882) (maxNumResults : Int) :
    Lib (List Addr4882) := do
  let found ← findLstnLoop boardDesc maxNumResults.toNat padList
  return if (found.length : Int) < maxNumResults then found ++ [noAddr] else found

/-! ## The whole system -/

/-- `*RST`. -/
def rst : List UInt8 := [0x2A, 0x52, 0x53, 0x54]

/-- A null list is empty. -/
def resetSys (boardDesc : Int32) (list : List Addr4882) (allocated : Bool) : Lib (List Unit) := do
  sendIFC boardDesc
  let _ ← ibsre boardDesc 1
  let _ ← ibcmd boardDesc [CmdByte.dcl] 1
  sendList boardDesc list rst rst.length nlEnd allocated

/-- The list is not looked at. -/
def setRWLS (boardDesc : Int32) : Lib Unit := do
  let _ ← ibsre boardDesc 1
  sendLLO boardDesc

/-- `PassControl`, `PPoll`, `PPollConfig` and `PPollUnconfig` look at none of their arguments. -/
def notSupported : Lib Unit := setStatus Ibsta.err Iberr.ecap 0

def passControl : Lib Unit := notSupported
def pPoll : Lib Unit := notSupported
def pPollConfig : Lib Unit := notSupported
def pPollUnconfig : Lib Unit := notSupported

/-! ## All calls -/

/-- The calls of `ib_488_2.c` with their arguments. -/
inductive MultiCall where
  | sendIFC (boardDesc : Int32)
  | sendLLO (boardDesc : Int32)
  | devClear (boardDesc : Int32) (address : Addr4882)
  | devClearList (boardDesc : Int32) (list : List Addr4882)
  | enableLocal (boardDesc : Int32) (list : List Addr4882)
  | enableRemote (boardDesc : Int32)
  | trigger (boardDesc : Int32) (address : Addr4882)
  | triggerList (boardDesc : Int32) (list : List Addr4882)
  | send (boardDesc : Int32) (address : Addr4882) (buffer : List UInt8) (count : Int)
      (eotMode : Int32) (allocated : Bool)
  | sendList (boardDesc : Int32) (list : List Addr4882) (buffer : List UInt8) (count : Int)
      (eotMode : Int32) (allocated : Bool)
  | sendDataBytes (boardDesc : Int32) (buffer : List UInt8) (count : Int)
  | sendCmds (boardDesc : Int32) (cmds : List UInt8) (count : Int)
  | sendSetup (boardDesc : Int32) (list : List Addr4882)
  | receive (boardDesc : Int32) (address : Addr4882) (count : Int)
  | receiveSetup (boardDesc : Int32) (address : Addr4882)
  | rcvRespMsg (boardDesc : Int32) (count : Int)
  | readStatusByte (boardDesc : Int32) (address : Addr4882)
  | allSPoll (boardDesc : Int32) (list : List Addr4882)
  | testSRQ (boardDesc : Int32)
  | waitSRQ (boardDesc : Int32)
  | findRQS (boardDesc : Int32) (list : List Addr4882)
  | findLstn (boardDesc : Int32) (padList : List Addr4882) (maxNumResults : Int)
  | resetSys (boardDesc : Int32) (list : List Addr4882) (allocated : Bool)
  | setRWLS (boardDesc : Int32)
  | passControl
  | pPoll
  | pPollConfig
  | pPollUnconfig
  deriving DecidableEq

/-- What a call writes through its out-parameters. -/
def MultiCall.Result : MultiCall → Type
  | receive _ _ _ | rcvRespMsg _ _ | allSPoll _ _ => List UInt8
  | readStatusByte _ _ => UInt8
  | testSRQ _ | waitSRQ _ => Bool
  | findRQS _ _ => Int16
  | findLstn _ _ _ => List Addr4882
  | devClearList _ _ | enableLocal _ _ | triggerList _ _ | sendList _ _ _ _ _ _
  | resetSys _ _ _ => List Unit
  | _ => Unit

def MultiCall.exec : (c : MultiCall) → Lib c.Result
  | sendIFC boardDesc => Libgpib.sendIFC boardDesc
  | sendLLO boardDesc => Libgpib.sendLLO boardDesc
  | devClear boardDesc address => Libgpib.devClear boardDesc address
  | devClearList boardDesc list => Libgpib.devClearList boardDesc list
  | enableLocal boardDesc list => Libgpib.enableLocal boardDesc list
  | enableRemote boardDesc => Libgpib.enableRemote boardDesc
  | trigger boardDesc address => Libgpib.trigger boardDesc address
  | triggerList boardDesc list => Libgpib.triggerList boardDesc list
  | send boardDesc address buffer count eotMode allocated =>
      Libgpib.send boardDesc address buffer count eotMode allocated
  | sendList boardDesc list buffer count eotMode allocated =>
      Libgpib.sendList boardDesc list buffer count eotMode allocated
  | sendDataBytes boardDesc buffer count => Libgpib.sendDataBytes boardDesc buffer count
  | sendCmds boardDesc cmds count => Libgpib.sendCmds boardDesc cmds count
  | sendSetup boardDesc list => Libgpib.sendSetup boardDesc list
  | receive boardDesc address count => Libgpib.receive boardDesc address count
  | receiveSetup boardDesc address => Libgpib.receiveSetup boardDesc address
  | rcvRespMsg boardDesc count => Libgpib.rcvRespMsg boardDesc count
  | readStatusByte boardDesc address => Libgpib.readStatusByte boardDesc address
  | allSPoll boardDesc list => Libgpib.allSPoll boardDesc list
  | testSRQ boardDesc => Libgpib.testSRQ boardDesc
  | waitSRQ boardDesc => Libgpib.waitSRQ boardDesc
  | findRQS boardDesc list => Libgpib.findRQS boardDesc list
  | findLstn boardDesc padList maxNumResults => Libgpib.findLstn boardDesc padList maxNumResults
  | resetSys boardDesc list allocated => Libgpib.resetSys boardDesc list allocated
  | setRWLS boardDesc => Libgpib.setRWLS boardDesc
  | passControl => Libgpib.passControl
  | pPoll => Libgpib.pPoll
  | pPollConfig => Libgpib.pPollConfig
  | pPollUnconfig => Libgpib.pPollUnconfig

end Libgpib

end DarwinGpib
