import DarwinGpib.Library.Transition
import DarwinGpib.Model.MethodChecks
import Mathlib.Algebra.GroupWithZero.Nat

/-!
# The broker

`gpibd/gpibd.c` as a transition system. An action is one client event, one step of the block
that a board's serial queue is running, one step of a session's reaping, or a change of the
registry. Between two steps of one block every other queue may run.

A driver service is attached once: an adapter that re-enumerates is unplugged and plugged in
again as a new service, whose descriptor table is empty.
-/

namespace DarwinGpib

namespace Gpibd

abbrev Client := Nat
abbrev Service := Nat

/-- `GPIBD_MAX_BOARDS`. -/
abbrev maxBoards : Nat := 16

abbrev Board := Fin maxBoards

instance : NeZero maxBoards := ⟨by decide⟩

/-- `GPIBD_MAX_OUT`. -/
def maxOut : Nat := 2 ^ 20

/-- `sizeof(GPIBOpenDescriptorOut)`. -/
def sizeofOpenDescriptorOut : Nat := 16

/-! ## Requests and blocks -/

/-- `op`. A selector is the low half of `op`; `high` is the other half, which the driver call
drops and the comparisons that follow it see. -/
inductive Op where
  | listBoards
  | probe
  | call (high : UInt32) (c : DriverCall)
  deriving DecidableEq

/-- What a client sends. -/
structure Request where
  board : UInt64
  op : Op
  cap : Nat
  deriving DecidableEq

/-- `(int)board`, if `connection_for_board` takes it. -/
def Request.index (r : Request) : Option Board :=
  let board := r.board.toUInt32.toInt32.toInt
  if h : 0 ≤ board ∧ board < maxBoards then some ⟨board.toNat, by omega⟩ else none

/-- A block on the queue of a board. -/
inductive Block where
  | request (client : Client) (op : Op) (cap : Nat)
  /-- A request for a board out of range; `queue_for_board` puts it on queue 0. -/
  | outOfRange (client : Client)
  /-- The block that `session_reap` dispatches for one descriptor. -/
  | reapClose (client : Client) (handle : Int)
  deriving DecidableEq

/-- The driver call that a block is there for, and the client it is made for. -/
def Block.call? : Block → Option (Client × DriverCall)
  | .request c (.call _ call) _ => some (c, call)
  | .reapClose c handle => some (c, .closeDescriptor handle)
  | _ => none

/-- The room that a block has for the output of its call; `session_reap` offers none. -/
def Block.outSize : Block → Nat
  | .request _ _ cap => cap
  | .outOfRange _ | .reapClose _ _ => 0

/-- How far the running block is. -/
inductive Phase where
  | starting (retry : Bool)
  /-- `copy_service_for_board` has found a service that is yet to be opened. -/
  | found (retry : Bool) (service : Service)
  /-- `connection_for_board` has returned a connection. -/
  | connected (retry : Bool) (service : Service)
  /-- The driver call has succeeded; `opened` is the handle in its output, if it has one. -/
  | answered (opened : Option Int)
  deriving DecidableEq

/-! ## Sessions -/

/-- The life of a client's session. -/
inductive SessionState where
  | connected
  /-- `session_reap` has been dispatched. -/
  | disconnected
  /-- `session_reap` is at the head of `rest`. -/
  | reaping (rest : List (Board × Int))
  /-- `session_reap` waits for the block it dispatched before `rest`. -/
  | closing (rest : List (Board × Int))
  | freed
  deriving DecidableEq

/-- `gpibd_session`. `held` is what the client itself knows: the descriptors that replies gave
it and that it has not sent a `CloseDescriptor` for that the driver takes. -/
structure Session where
  state : SessionState
  descs : List (Board × Int)
  held : List (Board × Int)
  deriving DecidableEq

def Session.init : Session := ⟨.connected, [], []⟩

/-- What a client knows once it has sent a request. -/
def Session.sent (x : Session) (b : Board) (op : Op) (cap : Nat) : Session :=
  match op with
  | .call _ (.closeDescriptor handle) =>
      if (DriverCall.closeDescriptor handle).AdmitsOutput cap then
        { x with held := x.held.erase (b, handle) }
      else x
  | _ => x

/-- `dispatch_sync` returns to `session_reap`. -/
def Session.resume (x : Session) : Session :=
  match x.state with
  | .closing rest => { x with state := .reaping rest }
  | _ => x

/-- `session_add_desc`. Nothing reads the list of a freed session again. -/
def Session.addDesc (x : Session) (b : Board) (handle : Int) : Session :=
  if x.state = .freed then x else { x with descs := (b, handle) :: x.descs }

/-- `session_forget_desc`: the first entry that matches goes. -/
def Session.forgetDesc (x : Session) (b : Board) (handle : Int) : Session :=
  { x with descs := x.descs.erase (b, handle) }

/-- The end of `handle_request` behind a call that succeeded. -/
def Session.track (x : Session) (b : Board) (high : UInt32) (call : DriverCall) (cap : Nat)
    (opened : Option Int) : Session :=
  match call, opened with
  | .openDescriptor _, some handle =>
      if sizeofOpenDescriptorOut ≤ cap ∧ 0 ≤ handle then
        let x := if high = 0 then x.addDesc b handle else x
        { x with held := (b, handle) :: x.held }
      else x
  | .closeDescriptor handle, _ => if high = 0 ∧ 0 < cap then x.forgetDesc b handle else x
  | _, _ => x

/-! ## The driver's tables -/

/-- What a call does to the table of the board it reaches, where an open slot carries the
client it was opened for; an open also returns a handle. -/
def applyCall (t : Int → Option Client) (client : Client) :
    DriverCall → Option Int × (Int → Option Client)
  | .openDescriptor _ =>
      match SlotTable.alloc DescriptorTable.handles t client with
      | some (handle, t) => (some handle, t)
      | none => (some (-1), t)
  | .closeDescriptor handle => (none, SlotTable.release t handle)
  | _ => (none, t)

/-! ## The broker -/

structure Broker where
  /-- Our driver services, in registry order. -/
  registry : List Service
  /-- The service that the next adapter will be. -/
  next : Service
  slots : Service → Int → Option Client
  /-- `g_conn`. -/
  conn : Board → Option Service
  /-- `g_board_queue`, without the block that is running. -/
  queue : Board → List Block
  running : Board → Option (Block × Phase)
  session : Client → Session

def Broker.init : Broker where
  registry := []
  next := 0
  slots _ := SlotTable.empty
  conn _ := none
  queue _ := []
  running _ := none
  session _ := .init

/-- `enumerate_boards`: the services with the indices it reports for them. -/
def enumerateBoards (s : Broker) : List (Service × Nat) := (s.registry.take maxBoards).zipIdx

/-- What `IOConnectCallStructMethod` comes to. -/
inductive Outcome where
  | taken
  /-- An error that does not mean the port is gone; the table is as before. -/
  | failed
  /-- An error that `connection_is_dead` recognises. -/
  | dead
  deriving DecidableEq

inductive Action where
  | send (c : Client) (r : Request)
  | disconnect (c : Client)
  | begin (b : Board)
  | lookup (b : Board)
  | openService (b : Board) (ok : Bool)
  | call (b : Board) (outcome : Outcome)
  | track (b : Board)
  | reap (c : Client)
  | closeNext (c : Client)
  | freeSession (c : Client)
  | plug (position : Nat)
  | unplug (position : Nat)
  deriving DecidableEq

namespace Broker

variable (s : Broker)

@[simp] def setSession (c : Client) (x : Session) : Broker :=
  { s with session := Function.update s.session c x }

@[simp] def setState (c : Client) (state : SessionState) : Broker :=
  s.setSession c { s.session c with state }

@[simp] def enqueue (b : Board) (blk : Block) : Broker :=
  { s with queue := Function.update s.queue b (s.queue b ++ [blk]) }

@[simp] def setRunning (b : Board) (r : Option (Block × Phase)) : Broker :=
  { s with running := Function.update s.running b r }

/-- `drop_board`. -/
@[simp] def dropBoard (b : Board) : Broker := { s with conn := Function.update s.conn b none }

/-- The block returns, and the queue is free for the next one. -/
def finish (b : Board) (blk : Block) : Broker :=
  match blk with
  | .reapClose c _ => (s.setRunning b none).setSession c (s.session c).resume
  | _ => s.setRunning b none

/-! ### Client events -/

/-- `handle_peer_event` on a message. -/
def send (c : Client) (r : Request) : Option Broker :=
  if (s.session c).state = .connected then
    match r.index with
    | none => some (s.enqueue 0 (.outOfRange c))
    | some b =>
        some ((s.enqueue b (.request c r.op r.cap)).setSession c
          ((s.session c).sent b r.op r.cap))
  else none

/-- `handle_peer_event` on `XPC_ERROR_CONNECTION_INVALID`. -/
def disconnect (c : Client) : Option Broker :=
  if (s.session c).state = .connected then some (s.setState c .disconnected) else none

/-! ### The running block -/

def begin (b : Board) : Option Broker :=
  match s.running b, s.queue b with
  | none, blk :: rest =>
      some { s.setRunning b (some (blk, .starting false)) with
        queue := Function.update s.queue b rest }
  | _, _ => none

/-- Whether `handle_request` returns before it resolves the board, or because of its index. -/
def rejects : Block → Bool
  | .request _ op cap => maxOut < cap || op = .listBoards
  | .outOfRange _ => true
  | .reapClose _ _ => false

/-- `connection_for_board` has succeeded; a probe stops here. -/
def enter (b : Board) (blk : Block) (retry : Bool) (service : Service) : Broker :=
  match blk.call? with
  | none => s.finish b blk
  | some _ => s.setRunning b (some (blk, .connected retry service))

/-- `connection_for_board` up to the service it has to open. -/
def lookup (b : Board) : Option Broker :=
  match s.running b with
  | some (blk, .starting retry) =>
      if rejects blk then some (s.finish b blk)
      else
        match s.conn b with
        | some service => some (s.enter b blk retry service)
        | none =>
            match s.registry[b.val]? with
            | none => some (s.finish b blk)
            | some service => some (s.setRunning b (some (blk, .found retry service)))
  | _ => none

/-- `IOServiceOpen` and what `connection_for_board` does with its result. -/
def openService (b : Board) (ok : Bool) : Option Broker :=
  match s.running b with
  | some (blk, .found retry service) =>
      if ok then
        some ({ s with conn := Function.update s.conn b (some service) }.enter b blk retry service)
      else some (s.finish b blk)
  | _ => none

/-- The driver has taken the call of a block; `session_reap` does not look at the answer. -/
def answer (b : Board) (blk : Block) (service : Service) (c : Client) (call : DriverCall) :
    Broker :=
  let r := applyCall (s.slots service) c call
  let s := { s with slots := Function.update s.slots service r.2 }
  match blk with
  | .reapClose _ _ => s.finish b blk
  | _ => s.setRunning b (some (blk, .answered r.1))

/-- `IOConnectCallStructMethod`. Only an attached service can take a call or refuse it, and it
refuses one that has not the room for its output that `sExternalMethodChecks` demands. -/
def call (b : Board) (outcome : Outcome) : Option Broker :=
  match s.running b with
  | some (blk, .connected retry service) =>
      match blk.call? with
      | none => none
      | some (c, call) =>
          match outcome with
          | .taken =>
              if service ∈ s.registry ∧ call.AdmitsOutput blk.outSize then
                some (s.answer b blk service c call)
              else none
          | .failed => if service ∈ s.registry then some (s.finish b blk) else none
          | .dead =>
              match blk with
              | .reapClose _ _ => some (s.finish b blk)
              | _ =>
                  let s := s.dropBoard b
                  if retry then some (s.finish b blk)
                  else some (s.setRunning b (some (blk, .starting true)))
  | _ => none

/-- The rest of `handle_request`. -/
def track (b : Board) : Option Broker :=
  match s.running b with
  | some (.request c (.call high call) cap, .answered opened) =>
      some ((s.setSession c ((s.session c).track b high call cap opened)).setRunning b none)
  | _ => none

/-! ### Reaping -/

/-- `session_reap` takes the list. -/
def reap (c : Client) : Option Broker :=
  if (s.session c).state = .disconnected then
    some (s.setSession c
      { s.session c with state := .reaping (s.session c).descs, descs := [] })
  else none

/-- The next `dispatch_sync` of `session_reap`. -/
def closeNext (c : Client) : Option Broker :=
  match (s.session c).state with
  | .reaping ((b, handle) :: rest) =>
      some ((s.enqueue b (.reapClose c handle)).setState c (.closing rest))
  | _ => none

def freeSession (c : Client) : Option Broker :=
  match (s.session c).state with
  | .reaping [] => some (s.setState c .freed)
  | _ => none

/-! ### The registry -/

def plug (position : Nat) : Option Broker :=
  if position ≤ s.registry.length then
    some { s with registry := s.registry.insertIdx position s.next, next := s.next + 1 }
  else none

def unplug (position : Nat) : Option Broker :=
  if position < s.registry.length then
    some { s with registry := s.registry.eraseIdx position }
  else none

end Broker

def step (s : Broker) : Action → Option Broker
  | .send c r => s.send c r
  | .disconnect c => s.disconnect c
  | .begin b => s.begin b
  | .lookup b => s.lookup b
  | .openService b ok => s.openService b ok
  | .call b outcome => s.call b outcome
  | .track b => s.track b
  | .reap c => s.reap c
  | .closeNext c => s.closeNext c
  | .freeSession c => s.freeSession c
  | .plug position => s.plug position
  | .unplug position => s.unplug position

end Gpibd

end DarwinGpib
