import DarwinGpib.Model.Gpibd
import DarwinGpib.Model.Libgpib

/-!
# A driver call in bytes

The way of a call from `libgpib` to a board and back, byte by byte: the structures that
`ib_traditional.c` fills, `broker_call` of `client.c`, `handle_request` of `gpibd.c` and
`ExternalMethod` of `GPIBUserClient.cpp` with its handlers. XPC carries a message as it is;
IOKit between the broker and the driver is a parameter.
-/

namespace DarwinGpib

open Interaction

/-- `kern_return_t` codes. -/
def kIOReturnBadArgument : Int32 := Int32.ofInt (-0x1ffffd3e)
def kIOReturnUnsupported : Int32 := Int32.ofInt (-0x1ffffd39)
def kIOReturnNotReady : Int32 := Int32.ofInt (-0x1ffffd28)
def kIOReturnNotAttached : Int32 := Int32.ofInt (-0x1ffffd27)
def machSendInvalidDest : Int32 := 0x10000003
def machSendInvalidReply : Int32 := 0x10000009

/-! ## What the library sends -/

namespace DriverCall

/-- The input structure of a call, with this in its reserved field if it has one. -/
def inputWith (reserved : UInt32) : DriverCall → List UInt8
  | boardOnline online => Wire.OnlineIn.layout.encode ⟨online, reserved⟩
  | openDescriptor i => Wire.OpenDescriptorIn.layout.encode ⟨i, reserved⟩
  | configure handle key value =>
      Wire.ConfigureIn.layout.encode ⟨Int32.ofInt handle, key, value, reserved⟩
  | write handle sendEoi data =>
      Wire.WriteIn.layout.encode
        ⟨Int32.ofInt handle, sendEoi, UInt32.ofNat data.length, reserved⟩ ++ data
  | read handle requestCount =>
      Wire.ReadIn.layout.encode ⟨Int32.ofInt handle, UInt32.ofNat requestCount⟩
  | remoteEnable handle enable =>
      Wire.RemoteEnableIn.layout.encode ⟨Int32.ofInt handle, enable⟩
  | wait handle mask timeoutUs =>
      Wire.WaitIn.layout.encode ⟨Int32.ofInt handle, mask, UInt32.ofNat timeoutUs, reserved⟩
  | ask handle option => Wire.AskIn.layout.encode ⟨Int32.ofInt handle, option.toInt32⟩
  | listenerPresent handle pad sad =>
      Wire.AddressIn.layout.encode ⟨Int32.ofInt handle, pad, sad, reserved⟩
  | sendCommand handle data =>
      Wire.SendCommandIn.layout.encode ⟨Int32.ofInt handle, UInt32.ofNat data.length⟩ ++ data
  | closeDescriptor handle | deviceClear handle | interfaceClear handle | serialPoll handle
  | trigger handle | goToLocal handle | localLockout handle | lineStatus handle =>
      Wire.HandleIn.layout.encode ⟨Int32.ofInt handle, reserved⟩

/-- The library clears the reserved fields. -/
def input (c : DriverCall) : List UInt8 := c.inputWith 0

/-- The size of the output structure that the library offers. -/
def outSize : DriverCall → Nat
  | openDescriptor _ => Wire.OpenDescriptorOut.layout.size
  | read _ requestCount => Wire.ReadOut.layout.size + requestCount
  | ask _ _ => Wire.AskOut.layout.size
  | serialPoll _ => Wire.SerialPollOut.layout.size
  | lineStatus _ => Wire.LineStatusOut.layout.size
  | listenerPresent _ _ _ => Wire.ListenerOut.layout.size
  | _ => Wire.StatusOut.layout.size

end DriverCall

/-! ## The user client -/

/-- What a handler leaves in `structureOutput`. -/
def DriverReply.output : DriverReply → List UInt8
  | status s => Wire.StatusOut.layout.encode ⟨s.ibsta, s.iberr, 0, 0⟩
  | opened handle s =>
      Wire.OpenDescriptorOut.layout.encode ⟨Int32.ofInt handle, s.ibsta, s.iberr, 0⟩
  | counted s => Wire.StatusOut.layout.encode ⟨s.ibsta, s.iberr, UInt32.ofNat s.ibcnt, 0⟩
  | read s endFlag data _ =>
      Wire.ReadOut.layout.encode
        ⟨s.ibsta, s.iberr, UInt32.ofNat s.ibcnt, if endFlag then 1 else 0⟩ ++ data
  | asked value s => Wire.AskOut.layout.encode ⟨value, s.ibsta, s.iberr, 0⟩
  | polled statusByte s =>
      Wire.SerialPollOut.layout.encode ⟨statusByte, 0, 0, s.ibsta, s.iberr, 0⟩
  | listener present s =>
      Wire.ListenerOut.layout.encode ⟨if present then 1 else 0, s.ibsta, s.iberr, 0⟩
  | lines lineStatus s =>
      Wire.LineStatusOut.layout.encode ⟨lineStatus.toUInt32, s.ibsta, s.iberr, 0⟩

namespace UserClient

/-- The fields of `IOUserClientMethodArguments` that the handlers read. -/
structure Arguments where
  structureInput : Option (List UInt8)
  structureOutputMaximumSize : Nat
  deriving DecidableEq

/-- What a call leaves behind. -/
structure Result where
  kr : Int32
  structureOutput : Option (List UInt8)
  deriving DecidableEq

/-- What the handler of a selector reads from its input; `none` is `kIOReturnBadArgument`. -/
def request (s : Selector) (bs : List UInt8) : Option DriverCall :=
  match s with
  | .boardOnline => (Wire.OnlineIn.layout.decode bs).map fun i => .boardOnline i.online
  | .openDescriptor =>
      (Wire.OpenDescriptorIn.layout.decode bs).map fun i => .openDescriptor i.fields
  | .closeDescriptor =>
      (Wire.HandleIn.layout.decode bs).map fun i => .closeDescriptor i.handle.toInt
  | .configure =>
      (Wire.ConfigureIn.layout.decode bs).map fun i => .configure i.handle.toInt i.key i.value
  | .write =>
      (Wire.WriteIn.layout.decode bs).bind fun i =>
        if bs.length < Wire.WriteIn.layout.size + i.length.toNat then none
        else some (.write i.handle.toInt i.sendEoi
          ((bs.drop Wire.WriteIn.layout.size).take i.length.toNat))
  | .read =>
      (Wire.ReadIn.layout.decode bs).map fun i => .read i.handle.toInt i.requestCount.toNat
  | .deviceClear => (Wire.HandleIn.layout.decode bs).map fun i => .deviceClear i.handle.toInt
  | .interfaceClear =>
      (Wire.HandleIn.layout.decode bs).map fun i => .interfaceClear i.handle.toInt
  | .remoteEnable =>
      (Wire.RemoteEnableIn.layout.decode bs).map fun i => .remoteEnable i.handle.toInt i.enable
  | .wait =>
      (Wire.WaitIn.layout.decode bs).map fun i =>
        .wait i.handle.toInt i.mask i.timeoutUs.toNat
  | .ask => (Wire.AskIn.layout.decode bs).map fun i => .ask i.handle.toInt i.option.toUInt32
  | .serialPoll => (Wire.HandleIn.layout.decode bs).map fun i => .serialPoll i.handle.toInt
  | .trigger => (Wire.HandleIn.layout.decode bs).map fun i => .trigger i.handle.toInt
  | .goToLocal => (Wire.HandleIn.layout.decode bs).map fun i => .goToLocal i.handle.toInt
  | .localLockout => (Wire.HandleIn.layout.decode bs).map fun i => .localLockout i.handle.toInt
  | .lineStatus => (Wire.HandleIn.layout.decode bs).map fun i => .lineStatus i.handle.toInt
  | .listenerPresent =>
      (Wire.AddressIn.layout.decode bs).map fun i =>
        .listenerPresent i.handle.toInt i.pad i.sad
  | .sendCommand =>
      (Wire.SendCommandIn.layout.decode bs).bind fun i =>
        if bs.length < Wire.SendCommandIn.layout.size + i.length.toNat then none
        else some (.sendCommand i.handle.toInt
          ((bs.drop Wire.SendCommandIn.layout.size).take i.length.toNat))

/-- `super::ExternalMethod`: the code with which it refuses a call, if it does. It calls the
method of its entry otherwise; without an entry there is none. -/
structure Super where
  refuses : MethodDispatch → Arguments → Option Int32
  withoutEntry : Int32

section ExternalMethod

variable {m : Type → Type} [Monad m] (T : IGPIBTransport m) (now : m UInt64) (fuel : Nat)

/-- `GPIBUserClient_Dispatch` with a handler behind it. `board` is `ivars->board`, which `Stop`
clears. -/
def dispatchMethod (board : Option GPIBBoard) (s : Selector) (args : Arguments) :
    m (Option (Result × Option GPIBBoard)) :=
  match board with
  | none => pure (some (⟨kIOReturnNotReady, none⟩, none))
  | some b =>
      match args.structureInput.bind (request s) with
      | none => pure (some (⟨kIOReturnBadArgument, none⟩, some b))
      | some c => do
          let r ← dispatch T b now fuel c
          return r.map fun (out, b) => (⟨0, some out.output⟩, some b)

/-- `GPIBUserClient::ExternalMethod`. -/
def externalMethod (base : Super) (board : Option GPIBBoard) (selector : Nat)
    (args : Arguments) : m (Option (Result × Option GPIBBoard)) :=
  match Selector.ofCode selector with
  | none => pure (some (⟨base.withoutEntry, none⟩, board))
  | some s =>
      match base.refuses (externalMethodChecks s) args with
      | some kr => pure (some (⟨kr, none⟩, board))
      | none => dispatchMethod T now fuel board s args

end ExternalMethod

end UserClient

/-! ## The broker -/

namespace Gpibd

/-- `GPIBD_OP_PROBE` and `GPIBD_OP_LIST_BOARDS`. -/
def opProbe : UInt64 := 0xFFFFFFFF
def opListBoards : UInt64 := 0xFFFFFFFE

/-- A request message; a missing number reads as 0. -/
structure Message where
  op : UInt64
  board : UInt64
  input : Option (List UInt8)
  outcap : UInt64
  deriving DecidableEq

/-- A reply message. -/
structure Answer where
  kr : Int64
  out : Option (List UInt8)
  msg : Option String
  deriving DecidableEq

/-- `reply_error`. -/
def replyError (code : Int64) (msg : String) : Answer := ⟨code, none, some msg⟩

/-- What `handle_request` does besides replying. -/
inductive BrokerOp where
  | enumerateBoards
  | connectionForBoard (board : Int32)
  | callStructMethod (board : Int32) (selector : UInt32) (input : List UInt8) (outSize : Nat)
  | dropBoard (board : Int32)
  | sessionAddDesc (board handle : Int32)
  | sessionForgetDesc (board handle : Int32)
  deriving DecidableEq

/-- A driver call comes back with its code and the first `outSize` bytes of `outData`. -/
def BrokerOp.Reply : BrokerOp → Type
  | enumerateBoards => List UInt8
  | connectionForBoard _ => Int64
  | callStructMethod _ _ _ _ => Int32 × List UInt8
  | _ => Unit

/-- `connection_is_dead`. -/
def connectionIsDead (kr : Int32) : Bool :=
  kr = Libgpib.kIOReturnNoDevice || kr = kIOReturnNotAttached || kr = machSendInvalidDest ||
    kr = machSendInvalidReply

/-- `drop_board` behind a code that shows the connection to be dead. -/
def dropIfDead (board kr : Int32) : Program BrokerOp.Reply Unit :=
  if connectionIsDead kr then Program.call (BrokerOp.dropBoard board) else pure ()

/-- The driver call of `handle_request`, made once more behind a stale connection. -/
def callWithRetry (board : Int32) (selector : UInt32) (input : List UInt8) (outSize : Nat) :
    Program BrokerOp.Reply (Int32 × List UInt8) := do
  let first : Int32 × List UInt8 ←
    Program.call (BrokerOp.callStructMethod board selector input outSize)
  if !connectionIsDead first.1 then return first
  let _ ← Program.call (BrokerOp.dropBoard board)
  let rc : Int64 ← Program.call (BrokerOp.connectionForBoard board)
  if rc ≠ 0 then
    let _ ← dropIfDead board first.1
    return first
  let last : Int32 × List UInt8 ←
    Program.call (BrokerOp.callStructMethod board selector input outSize)
  let _ ← dropIfDead board last.1
  return last

/-- Keep the session's list up to date behind a call that succeeded. -/
def trackDescriptor (r : Message) (board kr : Int32) (out : List UInt8) :
    Program BrokerOp.Reply Unit :=
  if kr ≠ 0 ∨ r.outcap = 0 then pure ()
  else if r.op = UInt64.ofNat Selector.openDescriptor.code ∧
      Wire.OpenDescriptorOut.layout.size ≤ out.length then
    match Wire.OpenDescriptorOut.layout.decode out with
    | none => pure ()
    | some od =>
        if 0 ≤ od.handle then Program.call (BrokerOp.sessionAddDesc board od.handle)
        else pure ()
  else if r.op = UInt64.ofNat Selector.closeDescriptor.code then
    match r.input.bind Wire.HandleIn.layout.decode with
    | none => pure ()
    | some i => Program.call (BrokerOp.sessionForgetDesc board i.handle)
  else pure ()

/-- `handle_request`. -/
def handleRequest (r : Message) : Program BrokerOp.Reply Answer := do
  if maxOut < r.outcap.toNat then return replyError Libgpib.errBadRequest "output cap too large"
  if r.op = opListBoards then
    let list : List UInt8 ← Program.call BrokerOp.enumerateBoards
    return ⟨0, some list, none⟩
  let board := r.board.toUInt32.toInt32
  let rc : Int64 ← Program.call (BrokerOp.connectionForBoard board)
  if rc ≠ 0 then return replyError rc "no reachable adapter"
  if r.op = opProbe then return ⟨0, none, none⟩
  let (kr, out) ← callWithRetry board r.op.toUInt32 (r.input.getD []) r.outcap.toNat
  let _ ← trackDescriptor r board kr out
  return ⟨kr.toInt64, if r.outcap ≠ 0 ∧ out ≠ [] then some out else none, none⟩

/-- The block that `session_reap` dispatches for one descriptor. -/
def reapClose (board handle : Int32) : Program BrokerOp.Reply Unit := do
  let rc : Int64 ← Program.call (BrokerOp.connectionForBoard board)
  if rc ≠ 0 then return ()
  let _ ← Program.call (BrokerOp.callStructMethod board
    (UInt32.ofNat Selector.closeDescriptor.code) (Wire.HandleIn.layout.encode ⟨handle, 0⟩) 0)
  return ()

/-- `session_reap` behind the list that it takes. -/
def sessionReap : List (Int32 × Int32) → Program BrokerOp.Reply Unit
  | [] => pure ()
  | (board, handle) :: list => do
      reapClose board handle
      sessionReap list

end Gpibd

/-! ## IOKit -/

/-- What IOKit does between `IOConnectCallStructMethod` and `ExternalMethod`: the arguments that
become of an input and of room for an output, and what the caller gets of a result. -/
structure Kernel where
  base : UserClient.Super
  deliver : List UInt8 → Nat → UserClient.Arguments
  collect : UserClient.Result → Nat → Int32 × List UInt8

/-- `io_struct_inband_t`: what a driver call carries inline. -/
def inlineSize : Nat := 4096

/-- What is documented of IOKit: the base class refuses a call unless its sizes are those of its
entry, structures that fit are carried inline, and a failure comes back as one. -/
structure Kernel.Documented (k : Kernel) : Prop where
  refuses_iff : ∀ d input cap, (k.base.refuses d ⟨some input, cap⟩).isSome ↔
    ¬ d.Admits input.length cap
  refused : ∀ d args kr, k.base.refuses d args = some kr → kr ≠ 0
  withoutEntry : k.base.withoutEntry ≠ 0
  inline : ∀ input cap, input.length ≤ inlineSize → cap ≤ inlineSize →
    k.deliver input cap = ⟨some input, cap⟩
  succeeded : ∀ out cap, out.length ≤ cap → cap ≤ inlineSize →
    k.collect ⟨0, some out⟩ cap = (0, out)
  failed : ∀ r cap, r.kr ≠ 0 → (k.collect r cap).1 ≠ 0

/-! ## The library's end of a call -/

namespace Libgpib

/-- The dictionary that `broker_call` fills. -/
def message (board : Int32) (selector : UInt64) (input : List UInt8) (outSize : Nat) :
    Gpibd.Message where
  op := selector
  board := board.toInt64.toUInt64
  input := if input = [] then none else some input
  outcap := UInt64.ofNat outSize

/-- `broker_call`: the code and the bytes that are copied over the caller's structure. A reply
that is an error is `none`; so is one without a connection to the broker. -/
def sendMessage (board : Int32) (selector : UInt64) (input : List UInt8) (outSize : Nat) :
    Program (fun _ : Gpibd.Message => Option Gpibd.Answer) (Int64 × List UInt8) := do
  let reply ← Program.call (message board selector input outSize)
  match reply with
  | none => return (errBadRequest, [])
  | some a => return (a.kr, (a.out.getD []).take outSize)

/-- A structure that was cleared before the bytes of a reply were copied over its head. -/
def overlaid {α : Type} (f : Layout α) (got : List UInt8) : Option α :=
  f.decode (got ++ List.replicate f.size 0)

/-- What the caller's output structure holds once the reply has been copied. -/
def replyIn (c : DriverCall) (got : List UInt8) : Option DriverReply :=
  match c with
  | .openDescriptor _ =>
      (overlaid Wire.OpenDescriptorOut.layout got).map fun o =>
        .opened o.handle.toInt ⟨o.ibsta, o.iberr⟩
  | .write _ _ _ | .sendCommand _ _ =>
      (overlaid Wire.StatusOut.layout got).map fun o =>
        .counted ⟨⟨o.ibsta, o.iberr⟩, o.ibcnt.toNat⟩
  | .read _ _ =>
      (overlaid Wire.ReadOut.layout got).map fun o =>
        .read ⟨⟨o.ibsta, o.iberr⟩, o.ibcnt.toNat⟩ (o.endFlag ≠ 0)
          ((got.drop Wire.ReadOut.layout.size).take o.ibcnt.toNat)
          (Wire.ReadOut.layout.size + o.ibcnt.toNat)
  | .ask _ _ =>
      (overlaid Wire.AskOut.layout got).map fun o => .asked o.value ⟨o.ibsta, o.iberr⟩
  | .serialPoll _ =>
      (overlaid Wire.SerialPollOut.layout got).map fun o =>
        .polled o.statusByte ⟨o.ibsta, o.iberr⟩
  | .lineStatus _ =>
      (overlaid Wire.LineStatusOut.layout got).map fun o =>
        .lines o.lineStatus.toUInt16 ⟨o.ibsta, o.iberr⟩
  | .listenerPresent _ _ _ =>
      (overlaid Wire.ListenerOut.layout got).map fun o =>
        .listener (o.present ≠ 0) ⟨o.ibsta, o.iberr⟩
  | _ =>
      (overlaid Wire.StatusOut.layout got).map fun o => .status ⟨o.ibsta, o.iberr⟩

/-- A request to the broker as a message. -/
def wire : (q : BrokerCall) →
    Program (fun _ : Gpibd.Message => Option Gpibd.Answer) q.Reply
  | .probe board => do
      let (kr, _) ← sendMessage board Gpibd.opProbe [] 0
      return kr
  | .call board c => do
      let (kr, got) ← sendMessage board (UInt64.ofNat c.selector.code) c.input c.outSize
      return ⟨kr, replyIn c got⟩

end Libgpib

end DarwinGpib
