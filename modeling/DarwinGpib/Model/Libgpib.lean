import DarwinGpib.Library.Program
import DarwinGpib.Model.UserClient
import Mathlib.Algebra.Group.Int.Defs
import Mathlib.Algebra.Group.Nat.Defs

/-!
# The client library

`libgpib/src/client.c`, `error.c` and `ib_traditional.c`. A library call is a program over the
process's caches and status vector that asks the broker; what the broker replies is left open.
-/

namespace DarwinGpib

open Interaction

namespace Libgpib

/-! ## The broker as the library sees it -/

/-- The messages of `broker_call`, but for board lists. -/
inductive BrokerCall where
  | probe (board : Int32)
  | call (board : Int32) (c : DriverCall)
  deriving DecidableEq

/-- The `kr` of a reply and what its data decodes to; without data the caller's structure stays
zeroed. -/
structure CallReply where
  kr : Int64
  out : Option DriverReply

def BrokerCall.Reply : BrokerCall → Type
  | probe _ => Int64
  | call _ _ => CallReply

def errNoBoard : Int64 := -1000
def errOpenFailed : Int64 := -1001
def errBadRequest : Int64 := -1002

/-- `KERN_SUCCESS` and `kIOReturnNoDevice`. -/
def kernSuccess : Int32 := 0
def kIOReturnNoDevice : Int32 := Int32.ofInt (-0x1ffffd40)

/-! ## Output structures -/

/-- `GPIBStatusOut`, whose `ibcnt` the driver leaves at 0. -/
def statusOut : Option DriverReply → Status
  | some (.status s) => s
  | _ => ⟨0, 0⟩

/-- `GPIBOpenDescriptorOut`. -/
def openDescriptorOut : Option DriverReply → Int32 × Status
  | some (.opened handle s) => (Int32.ofInt handle, s)
  | _ => (0, ⟨0, 0⟩)

/-- `GPIBWriteOut`. -/
def writeOut : Option DriverReply → CountStatus
  | some (.counted s) => s
  | _ => ⟨⟨0, 0⟩, 0⟩

/-- `GPIBReadOut` with the bytes behind it. -/
def readOut : Option DriverReply → CountStatus × List UInt8
  | some (.read s _ data _) => (s, data)
  | _ => (⟨⟨0, 0⟩, 0⟩, [])

/-- `GPIBAskOut`. -/
def askOut : Option DriverReply → Int32 × Status
  | some (.asked value s) => (value, s)
  | _ => (0, ⟨0, 0⟩)

/-- `GPIBSerialPollOut`. -/
def serialPollOut : Option DriverReply → UInt8 × Status
  | some (.polled statusByte s) => (statusByte, s)
  | _ => (0, ⟨0, 0⟩)

/-- `GPIBListenerOut`. -/
def listenerOut : Option DriverReply → Bool × Status
  | some (.listener present s) => (present, s)
  | _ => (false, ⟨0, 0⟩)

/-- `GPIBLineStatusOut`. -/
def lineStatusOut : Option DriverReply → UInt16 × Status
  | some (.lines lineStatus s) => (lineStatus, s)
  | _ => (0, ⟨0, 0⟩)

/-! ## The process -/

/-- `g_slots[i].reachable`, `g_board_handles[i]` and the status vector. -/
structure Process where
  reachable : Int32 → Bool
  boardHandles : Int32 → Int32
  ibsta : UInt32
  iberr : UInt32
  ibcntl : Nat

/-- `gpib_lib_init`. -/
def Process.init : Process where
  reachable _ := false
  boardHandles _ := -1
  ibsta := 0
  iberr := 0
  ibcntl := 0

/-- A library call. -/
abbrev Lib := StateT Process (Program BrokerCall.Reply)

/-- One round trip. -/
def brokerCall (c : BrokerCall) : Lib c.Reply :=
  StateT.lift (Program.call c)

/-- `gpib_lib_set_status` writes the globals and the thread's copy of them alike; one vector
stands for both. -/
def setStatus (ibsta iberr : UInt32) (cnt : Nat) : Lib Unit :=
  modify fun s => { s with ibsta, iberr, ibcntl := cnt }

/-- `gpib_lib_return_ok`. -/
def returnOk (ibsta : UInt32) (cnt : Nat) : Lib UInt32 := do
  setStatus ibsta 0 cnt
  return ibsta

/-- `gpib_lib_return_err`. -/
def returnErr (iberr : UInt32) : Lib UInt32 := do
  setStatus Ibsta.err iberr 0
  return Ibsta.err

/-! ## Boards -/

def maxBoards : Int32 := 16

/-- Whether a board index is in range. -/
def inRange (boardIndex : Int32) : Bool := 0 ≤ boardIndex && boardIndex < maxBoards

def setReachable (boardIndex : Int32) (reachable : Bool) : Lib Unit :=
  modify fun s => { s with reachable := Function.update s.reachable boardIndex reachable }

/-- `gpib_lib_conn_for_board`; a connection is the board it identifies. -/
def connForBoard (boardIndex : Int32) : Lib (Option Int32) := do
  if !inRange boardIndex then
    setStatus Ibsta.err Iberr.edvr 0
    return none
  let s ← get
  if s.reachable boardIndex then return some boardIndex
  let kr : Int64 ← brokerCall (.probe boardIndex)
  if kr ≠ 0 then
    setStatus Ibsta.err Iberr.eneb 0
    return none
  setReachable boardIndex true
  return some boardIndex

/-- `gpib_lib_call_struct`: the kernel code and what the output structure holds. -/
def callStruct (conn : Int32) (c : DriverCall) : Lib (Int32 × Option DriverReply) := do
  let reply : CallReply ← brokerCall (.call conn c)
  if reply.kr = errNoBoard ∨ reply.kr = errOpenFailed then
    setReachable conn false
    return (kIOReturnNoDevice, reply.out)
  if reply.kr ≠ 0 then return (reply.kr.toInt32, reply.out)
  return (kernSuccess, reply.out)

/-- `gpib_lib_set_board_handle`. -/
def setBoardHandle (boardIndex handle : Int32) : Lib Unit := do
  if !inRange boardIndex then return ()
  modify fun s => { s with boardHandles := Function.update s.boardHandles boardIndex handle }

/-- The structure with which `open_board` opens the board's descriptor. -/
def boardDescriptorIn : OpenDescriptorIn :=
  { pad := 0, sad := (-1 : Int32).toUInt32, isBoard := 1, timeoutCode := 12, eosChar := 0,
    eosFlags := 0, eot := 1 }

/-- `open_board`. -/
def openBoard (boardIndex : Int32) : Lib Int32 := do
  match ← connForBoard boardIndex with
  | none => return -1
  | some c =>
      let (kr, _) ← callStruct c (.boardOnline 1)
      if kr ≠ kernSuccess then
        setStatus Ibsta.err Iberr.edvr 0
        return -1
      let (kr, out) ← callStruct c (.openDescriptor boardDescriptorIn)
      if kr ≠ kernSuccess then
        setStatus Ibsta.err Iberr.edvr 0
        return -1
      let (handle, status) := openDescriptorOut out
      if handle < 0 then
        setStatus status.ibsta status.iberr 0
        return -1
      setBoardHandle boardIndex handle
      return handle

/-- `gpib_lib_board_handle`. -/
def boardHandle (boardIndex : Int32) : Lib Int32 := do
  if !inRange boardIndex then return -1
  let s ← get
  if 0 ≤ s.boardHandles boardIndex then return s.boardHandles boardIndex
  openBoard boardIndex

/-- `gpib_lib_close_board`, which nothing calls. -/
def closeBoard (boardIndex : Int32) : Lib Unit := do
  if !inRange boardIndex then return ()
  modify fun s =>
    { s with
      reachable := Function.update s.reachable boardIndex false
      boardHandles := Function.update s.boardHandles boardIndex (-1) }

/-! ## Descriptors of the library -/

def deviceTag : Int32 := 0x00800000
def handleMask : Int32 := 0x007fffff

/-- `gpib_lib_is_board_ud`. -/
def isBoardUd (ud : Int32) : Bool := inRange ud

/-- `gpib_lib_board_of`. -/
def boardOf (ud : Int32) : Int32 := if isBoardUd ud then ud else (ud >>> 24) &&& 0x7f

/-- `gpib_lib_handle_of`. -/
def handleOf (ud : Int32) : Lib Int32 :=
  if isBoardUd ud then boardHandle ud else pure (ud &&& handleMask)

/-- `gpib_lib_make_ud`. -/
def makeUd (boardIndex handle : Int32) : Int32 :=
  ((boardIndex &&& 0x7f) <<< 24) ||| deviceTag ||| (handle &&& handleMask)

/-! ## Descriptor lifetime -/

/-- The structure with which `ibdev` opens a device descriptor. -/
def deviceDescriptorIn (pad sad timo sendEoi eosmode : Int32) : OpenDescriptorIn :=
  { pad := pad.toUInt32, sad := sad.toUInt32, isBoard := 0, timeoutCode := timo.toUInt32,
    eosChar := (eosmode &&& 0xff).toUInt32, eosFlags := eosmode.toUInt32 &&& EosFlags.all,
    eot := if sendEoi ≠ 0 then 1 else 0 }

def ibdev (boardIndex pad sad timo sendEoi eosmode : Int32) : Lib Int32 := do
  let h ← boardHandle boardIndex
  if h < 0 then return -1
  match ← connForBoard boardIndex with
  | none => return -1
  | some c =>
      let (kr, out) ← callStruct c
        (.openDescriptor (deviceDescriptorIn pad sad timo sendEoi eosmode))
      if kr ≠ kernSuccess then
        setStatus Ibsta.err Iberr.edvr 0
        return -1
      let (handle, status) := openDescriptorOut out
      if handle < 0 then
        setStatus status.ibsta status.iberr 0
        return -1
      setStatus status.ibsta 0 0
      return makeUd boardIndex handle

/-- The digits at the head of a string, as a number behind `n`. -/
def digitsValue : (n : Nat) → List Char → Nat
  | n, [] => n
  | n, c :: cs => if c.isDigit then digitsValue (10 * n + (c.toNat - 48)) cs else n

/-- `(int)strtol(s, NULL, 10)`, which is what `atoi` computes. -/
def atoi (s : List Char) : Int32 :=
  match s.dropWhile fun c => c = ' ' ∨ (9 ≤ c.toNat ∧ c.toNat ≤ 13) with
  | '-' :: cs => Int32.ofInt (max (-(digitsValue 0 cs : Int)) (-2 ^ 63))
  | '+' :: cs => Int32.ofInt (min (digitsValue 0 cs) (2 ^ 63 - 1))
  | cs => Int32.ofInt (min (digitsValue 0 cs) (2 ^ 63 - 1))

/-- The board index that `ibfind` reads off a name. -/
def boardIndexOf : List Char → Int32
  | 'g' :: 'p' :: 'i' :: 'b' :: cs => atoi cs
  | cs => atoi cs

/-- A null name is `none`. -/
def ibfind (name : Option (List Char)) : Lib Int32 := do
  match name with
  | none | some [] => return -1
  | some cs =>
      let boardIndex := boardIndexOf cs
      let h ← boardHandle boardIndex
      if h < 0 then return -1
      setStatus (Ibsta.cmpl ||| Ibsta.cic ||| Ibsta.rem) 0 0
      return boardIndex

/-- The result of closing is not looked at. -/
def ibonl (ud onl : Int32) : Lib UInt32 := do
  match ← connForBoard (boardOf ud) with
  | none => return Ibsta.err
  | some c =>
      if onl = 0 then
        let handle ← handleOf ud
        let (_, out) ← callStruct c (.closeDescriptor handle.toInt)
        let status := statusOut out
        setStatus status.ibsta status.iberr 0
        return status.ibsta
      returnOk Ibsta.cmpl 0

/-! ## Calls on a descriptor -/

/-- The common shape of the calls below: resolve the board, look the handle up and make the
call; a failed call is `EDVR`. -/
def onHandle {α : Type} (ud : Int32) (call : Int → DriverCall) (refused : α)
    (finish : Option DriverReply → Lib (UInt32 × α)) : Lib (UInt32 × α) := do
  match ← connForBoard (boardOf ud) with
  | none => return (Ibsta.err, refused)
  | some c =>
      let handle ← handleOf ud
      let (kr, out) ← callStruct c (call handle.toInt)
      if kr ≠ kernSuccess then
        let ret ← returnErr Iberr.edvr
        return (ret, refused)
      finish out

/-- A call of which only the status is used. -/
def statusCall (ud : Int32) (call : Int → DriverCall) : Lib UInt32 := do
  let (ret, _) ← onHandle ud call () fun out => do
    let status := statusOut out
    setStatus status.ibsta status.iberr 0
    return (status.ibsta, ())
  return ret

/-- `simple_handle_call` clears `iberr`. -/
def simpleHandleCall (ud : Int32) (call : Int → DriverCall) : Lib UInt32 := do
  let (ret, _) ← onHandle ud call () fun out => do
    let ret ← returnOk (statusOut out).ibsta 0
    return (ret, ())
  return ret

def configure (ud : Int32) (key : UInt32) (value : Int32) : Lib UInt32 :=
  statusCall ud (.configure · key value)

def ibpad (ud v : Int32) : Lib UInt32 := configure ud Ibc.pad v
def ibsad (ud v : Int32) : Lib UInt32 := configure ud Ibc.sad v
def ibtmo (ud v : Int32) : Lib UInt32 := configure ud Ibc.tmo v
def ibeot (ud v : Int32) : Lib UInt32 := configure ud Ibc.eot v

/-- The operands of `|` are evaluated from left to right. -/
def ibeos (ud v : Int32) : Lib UInt32 := do
  let char ← configure ud Ibc.eosChar (v &&& 0xff)
  let flags ← configure ud Ibc.eosRd (v &&& EosFlags.all.toInt32)
  return char ||| flags

def ibconfig (ud option value : Int32) : Lib UInt32 := configure ud option.toUInt32 value

/-- The result carries `*value` when it is written. -/
def ibask (ud option : Int32) : Lib (UInt32 × Option Int32) :=
  onHandle ud (.ask · option.toUInt32) none fun out => do
    let (value, status) := askOut out
    setStatus status.ibsta status.iberr 0
    return (status.ibsta, some value)

def ibclr (ud : Int32) : Lib UInt32 := simpleHandleCall ud .deviceClear
def ibsic (ud : Int32) : Lib UInt32 := simpleHandleCall ud .interfaceClear
def ibtrg (ud : Int32) : Lib UInt32 := simpleHandleCall ud .trigger
def ibloc (ud : Int32) : Lib UInt32 := simpleHandleCall ud .goToLocal

def ibsre (ud v : Int32) : Lib UInt32 :=
  statusCall ud (.remoteEnable · (if v ≠ 0 then 1 else 0))

/-- A timeout of 0 is the descriptor's. -/
def ibwait (ud mask : Int32) : Lib UInt32 := statusCall ud (.wait · mask 0)

def ibrsp (ud : Int32) : Lib (UInt32 × Option UInt8) :=
  onHandle ud .serialPoll none fun out => do
    let (statusByte, status) := serialPollOut out
    setStatus status.ibsta status.iberr 0
    return (status.ibsta, some statusByte)

def iblines (ud : Int32) : Lib (UInt32 × Option UInt16) :=
  onHandle ud .lineStatus none fun out => do
    let (lineStatus, status) := lineStatusOut out
    setStatus status.ibsta status.iberr 0
    return (status.ibsta, some lineStatus)

def ibln (ud pad sad : Int32) : Lib (UInt32 × Option Bool) :=
  onHandle ud (.listenerPresent · pad.toUInt32 sad) none fun out => do
    let (present, status) := listenerOut out
    setStatus status.ibsta status.iberr 0
    return (status.ibsta, some present)

/-! ## Reads, writes and commands -/

def kGPIBMaxInlineWrite : Int := 4096 - 16

/-- A write or command sequence of `cnt` bytes from `buf`, in the structure `call` builds. -/
def sendBytes (ud : Int32) (call : Int → List UInt8 → DriverCall) (buf : List UInt8)
    (cnt : Int) : Lib UInt32 := do
  match ← connForBoard (boardOf ud) with
  | none => return Ibsta.err
  | some c =>
      if cnt < 0 ∨ cnt > kGPIBMaxInlineWrite then returnErr Iberr.earg
      else
        let handle ← handleOf ud
        let (kr, out) ← callStruct c (call handle.toInt (buf.take cnt.toNat))
        if kr ≠ kernSuccess then returnErr Iberr.edvr
        else
          let w := writeOut out
          setStatus w.ibsta w.iberr w.ibcnt
          return w.ibsta

def ibwrt (ud : Int32) (buf : List UInt8) (cnt : Int) : Lib UInt32 :=
  sendBytes ud (.write · 1 ·) buf cnt

def ibcmd (ud : Int32) (cmd : List UInt8) (cnt : Int) : Lib UInt32 :=
  sendBytes ud (.sendCommand · ·) cmd cnt

/-- The bytes copied to `buf`: `got` bytes from a zeroed structure with room for `cnt`. -/
def receivedBytes (cnt : Nat) (r : CountStatus × List UInt8) : List UInt8 :=
  (r.2 ++ List.replicate (cnt - r.2.length) 0).take (min r.1.ibcnt cnt)

/-- The result carries the bytes stored in `buf` from index 0. -/
def ibrd (ud : Int32) (cnt : Int) : Lib (UInt32 × List UInt8) := do
  match ← connForBoard (boardOf ud) with
  | none => return (Ibsta.err, [])
  | some c =>
      if cnt < 0 then
        let ret ← returnErr Iberr.earg
        return (ret, [])
      else
        let cnt := min cnt.toNat UserClient.kGPIBMaxInlineRead
        let handle ← handleOf ud
        let (kr, out) ← callStruct c (.read handle.toInt cnt)
        if kr ≠ kernSuccess then
          let ret ← returnErr Iberr.edvr
          return (ret, [])
        else
          let r := readOut out
          setStatus r.1.ibsta r.1.iberr r.1.ibcnt
          return (r.1.ibsta, receivedBytes cnt r)

/-! ## File-based transfers -/

def efso : UInt32 := 12

/-- The size of the buffer of `ibwrtf` and `ibrdf`. -/
def fileBufferSize : Nat := 4096

/-- The loop of `ibwrtf` over what is left of the file. -/
def writeFileLoop (ud : Int32) : (fuel : Nat) → (rest : List UInt8) → (last : UInt32) →
    Lib UInt32
  | 0, _, last => return last
  | fuel + 1, rest, last => do
      if rest.length = 0 then return last
      let chunk := rest.take fileBufferSize
      let last ← ibwrt ud chunk chunk.length
      if last &&& Ibsta.err ≠ 0 then return last
      writeFileLoop ud fuel (rest.drop chunk.length) last

/-- `file` is the content of the file, if it can be opened. -/
def ibwrtf (ud : Int32) (file : Option (List UInt8)) : Lib UInt32 := do
  match file with
  | none => returnErr efso
  | some content => writeFileLoop ud (content.length + 1) content Ibsta.cmpl

/-- The loop of `ibrdf`: read until END or ERR. `buf` is the buffer, which keeps what a shorter
read does not overwrite, and `file` what has been written so far. A read that is still going on
after `fuel` rounds is `none`. -/
def readFileLoop (ud : Int32) : (fuel : Nat) → (buf file : List UInt8) →
    Lib (Option UInt32 × List UInt8)
  | 0, _, file => return (none, file)
  | fuel + 1, buf, file => do
      let (last, bytes) ← ibrd ud fileBufferSize
      if last &&& Ibsta.err ≠ 0 then return (some last, file)
      let buf := bytes ++ buf.drop bytes.length
      let s ← get
      let file := file ++ buf.take s.ibcntl
      if last &&& Ibsta.end ≠ 0 then return (some last, file)
      readFileLoop ud fuel buf file

/-- `opened` is whether the file can be opened; the result carries its content. -/
def ibrdf (ud : Int32) (opened : Bool) (fuel : Nat) (buf : List UInt8) :
    Lib (Option UInt32 × List UInt8) := do
  if !opened then
    let ret ← returnErr efso
    return (some ret, [])
  else readFileLoop ud fuel buf []

end Libgpib

end DarwinGpib
