import DarwinGpib.Model.Descriptor
import DarwinGpib.Model.Transport

/-!
# The board

`driver/core/GPIBBoard.cpp` over any transport. A board is its descriptor table and the state
of the bus operations. A bus operation is given the descriptor it works on and returns the
state it leaves, so it cannot change the table. Out-parameters are fields of the results.
-/

namespace DarwinGpib

/-- The members of `GPIBBoard` besides the descriptor table. -/
structure BoardState where
  /-- `transport_` is set by `init` and cleared by `free`. -/
  hasTransport : Bool
  boardPAD : UInt8
  online : Bool
  renRequested : Bool
  recoveryInProgress : Bool
  ibsta : UInt32
  deriving DecidableEq, Repr

structure GPIBBoard where
  descriptors : DescriptorTable
  state : BoardState

/-- `init` with a transport. -/
def GPIBBoard.init : GPIBBoard where
  descriptors := .initial
  state :=
    { hasTransport := true, boardPAD := 0, online := false, renRequested := false,
      recoveryInProgress := false, ibsta := 0 }

/-- `ibsta` and `*outIberr`. -/
structure Status where
  ibsta : UInt32
  iberr : UInt32
  deriving DecidableEq, Repr

/-- A status with `*outIbcnt`. -/
structure CountStatus extends Status where
  ibcnt : Nat
  deriving DecidableEq, Repr

/-- What `read` leaves behind; `data` is what it stored in `buf`. -/
structure ReadStatus extends CountStatus where
  endFlag : Bool
  data : List UInt8
  deriving DecidableEq, Repr

/-! ## Address bytes -/

def mlaByte (pad : UInt8) : UInt8 := (pad &&& 0x1f) ||| CmdByte.lad
def mtaByte (pad : UInt8) : UInt8 := (pad &&& 0x1f) ||| CmdByte.tad
def msaByte (sad : Int8) : UInt8 := (sad.toUInt8 &&& 0x1f) ||| CmdByte.sad

/-- The secondary address byte, if there is a secondary address. -/
def msaBytes (sad : Int8) : List UInt8 := if 0 ≤ sad then [msaByte sad] else []

/-! ## Error codes -/

/-- `iberr` of a command sequence that could not be sent while addressing. -/
def addressingIberr (rc : GPIBTransportError) : UInt32 :=
  if rc = .errTimeout then Iberr.eabo else Iberr.enol

/-- `iberr` of a failed data transfer. -/
def transferIberr (rc : GPIBTransportError) : UInt32 :=
  if rc = .errTimeout then Iberr.eabo else if rc = .errAborted then Iberr.ecic else Iberr.ebus

/-- `ERR`, with `TIMO` for a timeout. -/
def errIbsta (rc : GPIBTransportError) : UInt32 :=
  if rc = .errTimeout then Ibsta.err ||| Ibsta.timo else Ibsta.err

@[simp] theorem errIbsta_and_err {rc : GPIBTransportError} : errIbsta rc &&& Ibsta.err ≠ 0 := by
  cases rc <;> decide

namespace BoardState

/-- Store `ibsta_` and return it with an `iberr`. -/
def report (s : BoardState) (ibsta iberr : UInt32) : Status × BoardState :=
  (⟨ibsta, iberr⟩, { s with ibsta })

section BusOperations

variable {m : Type → Type} [Monad m] (T : IGPIBTransport m)

/-! ## Bus control -/

def setOnline (online : Bool) (s : BoardState) : m (UInt32 × BoardState) := do
  if !s.hasTransport then return (Ibsta.err, { s with ibsta := Ibsta.err })
  if online then
    let ifcRc ← T.pulseInterfaceClear
    let tcRc ← T.takeControl false
    let renRc ← T.setRemoteEnable true
    let cic := if ifcRc = .ok ∧ tcRc = .ok then Ibsta.cic else 0
    let rem := if renRc = .ok then Ibsta.rem else 0
    let ibsta := Ibsta.cmpl ||| cic ||| rem
    return (ibsta, { s with renRequested := true, online := true, ibsta })
  else
    let _ ← T.setRemoteEnable false
    return (Ibsta.cmpl, { s with renRequested := false, online := false, ibsta := Ibsta.cmpl })

/-- The last step of a recovery: a Selected Device Clear to the descriptor whose operation
failed, if there is one. -/
def clearTarget (desc : Option GPIBDescriptor) : m Unit := do
  match desc with
  | none => return ()
  | some d =>
      let _ ← T.sendCommandBytes
        ([CmdByte.unl, mlaByte d.pad] ++ msaBytes d.sad ++ [CmdByte.sdc])
      return ()

/-- Reset the core and, if that worked, restore what the board assumes of it. The result is
whether a recovery was performed; `recoveryInProgress_` is set meanwhile. -/
def recoverBus (desc : Option GPIBDescriptor) (s : BoardState) : m (Bool × BoardState) := do
  if !s.hasTransport then return (false, s)
  if s.recoveryInProgress then return (false, s)
  let s := { s with recoveryInProgress := true }
  let rc ← T.softReset
  if rc ≠ .ok then return (false, { s with recoveryInProgress := false })
  let _ ← T.pulseInterfaceClear
  let _ ← T.takeControl false
  if s.renRequested then
    let _ ← T.setRemoteEnable true
  clearTarget T desc
  return (true, { s with recoveryInProgress := false })

def interfaceClear (s : BoardState) : m (Status × BoardState) := do
  if !s.hasTransport then return s.report Ibsta.err Iberr.eneb
  let _ ← T.pulseInterfaceClear
  return s.report (Ibsta.cmpl ||| Ibsta.cic) 0

def remoteEnable (enable : Bool) (s : BoardState) : m (Status × BoardState) := do
  if !s.hasTransport then return s.report Ibsta.err Iberr.eneb
  let _ ← T.setRemoteEnable enable
  return { s with renRequested := enable }.report
    (if enable then Ibsta.cmpl ||| Ibsta.rem else Ibsta.cmpl) 0

/-! ## Addressing -/

/-- The addressing sequence `cmds` and, when it fails, the `iberr` it stores. -/
def sendAddressing (cmds : List UInt8) : m (Option Status) := do
  let rc ← T.sendCommandBytes cmds
  return if rc ≠ .ok then some ⟨errIbsta rc, addressingIberr rc⟩ else none

/-- The board talks, the target listens. -/
def addressForWrite (boardPAD : UInt8) (d : GPIBDescriptor) : m (Option Status) :=
  sendAddressing T
    ([CmdByte.unl, CmdByte.unt, mtaByte boardPAD, mlaByte d.pad] ++ msaBytes d.sad)

/-- The board listens, the target talks. -/
def addressForRead (boardPAD : UInt8) (d : GPIBDescriptor) : m (Option Status) :=
  sendAddressing T
    ([CmdByte.unl, CmdByte.unt, mlaByte boardPAD, mtaByte d.pad] ++ msaBytes d.sad)

/-- Address the bus; when that fails, recover and try once more. The result is the failure
that remains. -/
def addressWithRecovery (address : m (Option Status)) (d : GPIBDescriptor)
    (s : BoardState) : m (Option Status × BoardState) := do
  match ← address with
  | none => return (none, s)
  | some failure =>
      let (recovered, s) ← recoverBus T (some d) s
      if recovered then
        let failure ← address
        return (failure, s)
      return (some failure, s)

/-! ## Data transfer -/

/-- `write` on the descriptor that `descriptorFor` found. -/
def write (desc : Option GPIBDescriptor) (buf : List UInt8) (sendEoi : Bool)
    (s : BoardState) : m (CountStatus × BoardState) := do
  let result (s : BoardState) (ibsta iberr : UInt32) (ibcnt : Nat) :
      CountStatus × BoardState := (⟨⟨ibsta, iberr⟩, ibcnt⟩, { s with ibsta })
  match desc with
  | none => return result s Ibsta.err Iberr.earg 0
  | some d =>
      if !s.hasTransport then return result s Ibsta.err Iberr.earg 0
      if !s.online then return result s Ibsta.err Iberr.eneb 0
      match ← addressWithRecovery T (addressForWrite T s.boardPAD d) d s with
      | (some failure, s) => return result s Ibsta.err failure.iberr 0
      | (none, s) =>
          let r ← T.writeData buf (sendEoi && d.eot) d.timeoutUs
          if r.rc ≠ .ok then
            return result s (errIbsta r.rc) (transferIberr r.rc) r.bytesWritten
          return result s Ibsta.cmpl 0 r.bytesWritten

/-- `read` on the descriptor that `descriptorFor` found. -/
def read (desc : Option GPIBDescriptor) (requestCount : Nat) (s : BoardState) :
    m (ReadStatus × BoardState) := do
  let fail (s : BoardState) (iberr : UInt32) : ReadStatus × BoardState :=
    (⟨⟨⟨Ibsta.err, iberr⟩, 0⟩, false, []⟩, { s with ibsta := Ibsta.err })
  match desc with
  | none => return fail s Iberr.earg
  | some d =>
      if !s.hasTransport then return fail s Iberr.earg
      if !s.online then return fail s Iberr.eneb
      match ← addressWithRecovery T (addressForRead T s.boardPAD d) d s with
      | (some failure, s) => return fail s failure.iberr
      | (none, s) =>
          let r ← T.readData requestCount d.eosChar d.eosFlags d.timeoutUs
          if r.rc ≠ .ok then
            return (⟨⟨⟨errIbsta r.rc, transferIberr r.rc⟩, r.bytesRead⟩, r.ended, r.buf⟩,
              { s with ibsta := errIbsta r.rc })
          let ibsta := if r.ended then Ibsta.cmpl ||| Ibsta.end else Ibsta.cmpl
          return (⟨⟨⟨ibsta, 0⟩, r.bytesRead⟩, r.ended, r.buf⟩, { s with ibsta })

/-- `sendCommands`; the handle is not looked at. -/
def sendCommands (cmds : List UInt8) (s : BoardState) : m (CountStatus × BoardState) := do
  if !s.hasTransport then
    return (⟨⟨Ibsta.err, Iberr.eneb⟩, 0⟩, { s with ibsta := Ibsta.err })
  let rc ← T.sendCommandBytes cmds
  if rc ≠ .ok then return (⟨⟨Ibsta.err, Iberr.ebus⟩, 0⟩, { s with ibsta := Ibsta.err })
  return (⟨⟨Ibsta.cmpl, 0⟩, cmds.length⟩, { s with ibsta := Ibsta.cmpl })

/-! ## Addressed commands -/

/-- The common shape of `deviceClear`, `trigger` and `goToLocal`: unlisten, address the
target as listener, and send one command byte. -/
def addressedCommand (command : UInt8) (desc : Option GPIBDescriptor) (s : BoardState) :
    m (Status × BoardState) := do
  match desc with
  | none => return s.report Ibsta.err Iberr.earg
  | some d =>
      if !s.hasTransport then return s.report Ibsta.err Iberr.earg
      let rc ← T.sendCommandBytes
        ([CmdByte.unl, mlaByte d.pad] ++ msaBytes d.sad ++ [command])
      if rc ≠ .ok then return s.report Ibsta.err Iberr.ebus
      return s.report Ibsta.cmpl 0

def deviceClear (desc : Option GPIBDescriptor) (s : BoardState) : m (Status × BoardState) :=
  addressedCommand T CmdByte.sdc desc s

def trigger (desc : Option GPIBDescriptor) (s : BoardState) : m (Status × BoardState) :=
  addressedCommand T CmdByte.get desc s

def goToLocal (desc : Option GPIBDescriptor) (s : BoardState) : m (Status × BoardState) :=
  addressedCommand T CmdByte.gtl desc s

def localLockout (s : BoardState) : m (Status × BoardState) := do
  if !s.hasTransport then return s.report Ibsta.err Iberr.eneb
  let rc ← T.sendCommandBytes [CmdByte.llo]
  if rc ≠ .ok then return s.report Ibsta.err Iberr.ebus
  return s.report (Ibsta.cmpl ||| Ibsta.lok) 0

/-! ## Serial polls and listeners -/

def serialPollCommands (boardPAD pad : UInt8) (sad : Int8) : List UInt8 :=
  [CmdByte.unl, mtaByte pad] ++ msaBytes sad ++ [mlaByte boardPAD, CmdByte.spe]

/-- The result carries `*outStatusByte`, 0 unless it is written. -/
def serialPoll (desc : Option GPIBDescriptor) (s : BoardState) :
    m ((UInt8 × Status) × BoardState) := do
  let fail (ibsta iberr : UInt32) : (UInt8 × Status) × BoardState :=
    ((0, ⟨ibsta, iberr⟩), { s with ibsta })
  match desc with
  | none => return fail Ibsta.err Iberr.earg
  | some d =>
      if !s.hasTransport then return fail Ibsta.err Iberr.earg
      if !s.online then return fail Ibsta.err Iberr.eneb
      let rc ← T.sendCommandBytes (serialPollCommands s.boardPAD d.pad d.sad)
      if rc ≠ .ok then return fail Ibsta.err Iberr.ebus
      let r ← T.readData 1 0 0 d.timeoutUs
      let _ ← T.sendCommandBytes [CmdByte.spd, CmdByte.unt]
      if r.rc ≠ .ok ∨ r.bytesRead = 0 then
        return fail (errIbsta r.rc) (if r.rc = .errTimeout then Iberr.eabo else Iberr.ebus)
      let stb := r.buf.headD 0
      let ibsta := if stb &&& 0x40 ≠ 0 then Ibsta.cmpl ||| Ibsta.rqs else Ibsta.cmpl
      return ((stb, ⟨ibsta, 0⟩), { s with ibsta })

def kProbeTimeoutUs : Nat := 100000

/-- Address a device to talk under SPE and see whether it sources its status byte. -/
def statusByteAnswers (boardPAD pad : UInt8) (sad : Int8) : m Bool := do
  let rc ← T.sendCommandBytes (serialPollCommands boardPAD pad sad)
  if rc ≠ .ok then return false
  let r ← T.readData 1 0 0 kProbeTimeoutUs
  return r.rc = .ok ∧ r.bytesRead = 1

def serialPollProbe (pad : UInt8) (sad : Int8) (s : BoardState) : m Bool := do
  if !s.hasTransport then return false
  let present ← statusByteAnswers T s.boardPAD pad sad
  let _ ← T.sendCommandBytes [CmdByte.spd, CmdByte.unt]
  return present

/-- Address a listener and release ATN. -/
def exposeListener (pad : UInt8) (sad : Int8) : m GPIBTransportError := do
  let rc ← T.sendCommandBytes ([CmdByte.unl, CmdByte.unt, mlaByte pad] ++ msaBytes sad)
  if rc ≠ .ok then return rc
  T.releaseAtn

/-- Sample NDAC; when the lines read all clear, serial-poll instead. -/
def sampleListener (pad : UInt8) (sad : Int8) (s : BoardState) : m Bool := do
  let (rc, lines) ← T.readBusLines
  if rc = .ok ∧ lines &&& 0xFF00 ≠ 0 then
    return lines &&& BusLine.validNDAC ≠ 0 ∧ lines &&& BusLine.busNDAC ≠ 0
  serialPollProbe T pad sad s

def listenerPresent (pad : UInt8) (sad : Int8) (s : BoardState) :
    m ((Bool × Status) × BoardState) := do
  let result (present : Bool) (ibsta iberr : UInt32) : (Bool × Status) × BoardState :=
    ((present, ⟨ibsta, iberr⟩), { s with ibsta })
  if !s.hasTransport then return result false Ibsta.err Iberr.eneb
  let rc ← exposeListener T pad sad
  if rc ≠ .ok then return result false Ibsta.cmpl 0
  let present ← sampleListener T pad sad s
  return result present Ibsta.cmpl 0

/-- The result carries `*outLines`. -/
def busLineStatus (s : BoardState) : m ((UInt16 × Status) × BoardState) := do
  if !s.hasTransport then
    return ((0, ⟨Ibsta.err, Iberr.eneb⟩), { s with ibsta := Ibsta.err })
  let (rc, lines) ← T.readBusLines
  if rc ≠ .ok then return ((0, ⟨Ibsta.err, Iberr.ecap⟩), { s with ibsta := Ibsta.err })
  return ((lines, ⟨Ibsta.cmpl, 0⟩), { s with ibsta := Ibsta.cmpl })

def srqAsserted (s : BoardState) : m Bool := do
  if !s.hasTransport then return false
  let (rc, lines) ← T.readBusLines
  return rc = .ok ∧ lines &&& BusLine.validSRQ ≠ 0 ∧ lines &&& BusLine.busSRQ ≠ 0

/-- Whether a deadline, 0 when the wait is indefinite, has passed. -/
def deadlinePassed (now : m UInt64) (deadline : UInt64) : m Bool := do
  if deadline = 0 then return false
  let t ← now
  return t > deadline

/-- The deadline of a wait; `TNONE` sets none. -/
def deadlineAfter (now : m UInt64) (timeoutUs : Nat) : m UInt64 := do
  if timeoutUs = 0xFFFFFFFF then return 0
  let t ← now
  return t + UInt64.ofNat (timeoutUs * 1000)

/-- The polling loop of `waitForStatus`; `none` after `fuel` polls without an answer. -/
def waitForSrq (now : m UInt64) (deadline : UInt64) (s : BoardState) :
    (fuel : Nat) → m (Option UInt32)
  | 0 => return none
  | fuel + 1 => do
      let asserted ← srqAsserted T s
      if asserted then
        return some (s.ibsta &&& ~~~ Ibsta.timo ||| Ibsta.srqi ||| Ibsta.cmpl)
      let late ← deadlinePassed now deadline
      if late then return some (s.ibsta &&& ~~~ Ibsta.srqi ||| Ibsta.timo ||| Ibsta.cmpl)
      waitForSrq now deadline s fuel

/-- `waitForStatus`, with `now` the uptime clock; a timeout of 0 means the descriptor's. -/
def waitForStatus (now : m UInt64) (fuel : Nat) (desc : Option GPIBDescriptor)
    (mask : Int32) (timeoutUs : Nat) (s : BoardState) : m (Option (Status × BoardState)) := do
  match desc with
  | none => return some (s.report Ibsta.err Iberr.earg)
  | some d =>
      let effective := if timeoutUs ≠ 0 then timeoutUs else d.timeoutUs
      if mask.toUInt32 &&& (Ibsta.srqi ||| Ibsta.rqs) = 0 then
        return some (⟨s.ibsta, 0⟩, s)
      let deadline ← deadlineAfter now effective
      let r ← waitForSrq T now deadline s fuel
      return r.map fun ibsta => s.report ibsta 0

end BusOperations

end BoardState

/-! ## Operations on the table -/

namespace GPIBBoard

/-- The result is the handle, or -1, and the status stored by `openDescriptor`. -/
def openDescriptor (b : GPIBBoard) (o : DescriptorOptions) : (Int × Status) × GPIBBoard :=
  match b.descriptors.openDescriptor o with
  | none => ((-1, ⟨Ibsta.err, Iberr.etab⟩), b)
  | some (h, t) => ((h, ⟨Ibsta.cmpl, 0⟩), { b with descriptors := t })

def closeDescriptor (b : GPIBBoard) (handle : Int) : Status × GPIBBoard :=
  match b.descriptors.descriptorFor handle with
  | none => (⟨Ibsta.err, Iberr.earg⟩, { b with state.ibsta := Ibsta.err })
  | some _ =>
      (⟨Ibsta.cmpl, 0⟩,
        { descriptors := b.descriptors.closeDescriptor handle,
          state := { b.state with ibsta := Ibsta.cmpl } })

def configure (b : GPIBBoard) (handle : Int) (key : UInt32) (value : Int32) :
    Status × GPIBBoard :=
  match b.descriptors.descriptorFor handle with
  | none => (⟨Ibsta.err, Iberr.earg⟩, { b with state.ibsta := Ibsta.err })
  | some d =>
      match d.configured key value with
      | none => (⟨Ibsta.err, Iberr.ecap⟩, { b with state.ibsta := Ibsta.err })
      | some o =>
          (⟨Ibsta.cmpl, 0⟩,
            { descriptors := b.descriptors.configure handle o,
              state := { b.state with ibsta := Ibsta.cmpl } })

/-- The result carries `*outValue`, 0 unless it is written. -/
def ask (b : GPIBBoard) (handle : Int) (option : UInt32) : (Int32 × Status) × GPIBBoard :=
  match b.descriptors.descriptorFor handle with
  | none => ((0, ⟨Ibsta.err, Iberr.earg⟩), { b with state.ibsta := Ibsta.err })
  | some d =>
      match d.asked option with
      | none => ((0, ⟨Ibsta.err, Iberr.ecap⟩), { b with state.ibsta := Ibsta.err })
      | some v => ((v, ⟨Ibsta.cmpl, 0⟩), { b with state.ibsta := Ibsta.cmpl })

/-- Run a bus operation, which leaves the table alone. -/
def onBus {m : Type → Type} [Monad m] {α : Type} (b : GPIBBoard)
    (op : BoardState → m (α × BoardState)) : m (α × GPIBBoard) := do
  let (a, s) ← op b.state
  return (a, { b with state := s })

end GPIBBoard

end DarwinGpib
