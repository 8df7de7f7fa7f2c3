import DarwinGpib.Board.Operations
import DarwinGpib.Board.Requests

/-!
# The courses of the bus operations

The ways through a bus operation, from its first call to its status, one rule for each. An
operation is taken apart into its courses once; what holds of its calls is read off the rules.
-/

namespace DarwinGpib

open Interaction

/-- The result code of a call. Reading the clock has none and does not fail. -/
def callRc : Exchange BoardRequest.Reply → GPIBTransportError
  | ⟨.writeData _ _ _, r⟩ => WriteResult.rc r
  | ⟨.readData _ _ _ _, r⟩ => ReadResult.rc r
  | ⟨.readBusLines, r⟩ => Prod.fst r
  | ⟨.readRawRegister _, r⟩ => Prod.fst r
  | ⟨.uptime, _⟩ => .ok
  | ⟨.pulseInterfaceClear, rc⟩ => rc
  | ⟨.setRemoteEnable _, rc⟩ => rc
  | ⟨.sendCommandBytes _, rc⟩ => rc
  | ⟨.takeControl _, rc⟩ => rc
  | ⟨.releaseAtn, rc⟩ => rc
  | ⟨.writeRawRegister _ _, rc⟩ => rc
  | ⟨.softReset, rc⟩ => rc
  | ⟨.resetDevice, rc⟩ => rc
  | ⟨.setMaxDataChunk _, rc⟩ => rc

/-- The operations on the bus that end in an `ibsta` and an `iberr`. -/
def BoardOp.worksOnBus : BoardOp → Bool
  | write _ _ _ | read _ _ | deviceClear _ | interfaceClear _ | remoteEnable _ _ | serialPoll _
  | trigger _ | goToLocal _ | localLockout _ | sendCommands _ _ => true
  | _ => false

/-! ## Statuses -/

namespace BoardState

/-- The status of a data phase that would complete with `done`. -/
def dataStatus (rc : GPIBTransportError) (done : UInt32) : Status :=
  if rc ≠ .ok then ⟨errIbsta rc, transferIberr rc⟩ else ⟨done, 0⟩

/-- The status of a `write` or a `read` after its data phase. -/
def transferStatus : Exchange BoardRequest.Reply → Status
  | ⟨.readData _ _ _ _, r⟩ =>
      dataStatus (ReadResult.rc r)
        (if ReadResult.ended r then Ibsta.cmpl ||| Ibsta.end else Ibsta.cmpl)
  | e => dataStatus (callRc e) Ibsta.cmpl

/-- The status of a serial poll after its read. -/
def pollStatus (r : ReadResult) : Status :=
  if r.rc ≠ .ok ∨ r.bytesRead = 0 then
    ⟨errIbsta r.rc, if r.rc = .errTimeout then Iberr.eabo else Iberr.ebus⟩
  else ⟨if r.buf.headD 0 &&& 0x40 ≠ 0 then Ibsta.cmpl ||| Ibsta.rqs else Ibsta.cmpl, 0⟩

/-- The status of an operation that sends one command sequence. -/
def commandStatus (rc : GPIBTransportError) (done : UInt32) : Status :=
  if rc ≠ .ok then ⟨Ibsta.err, Iberr.ebus⟩ else ⟨done, 0⟩

/-! ## Recovery and addressing -/

/-- What `recoverBus` sends to the descriptor that it is given. -/
def clearCalls (desc : Option GPIBDescriptor) (rc : GPIBTransportError) : BoardTrace :=
  match desc with
  | none => []
  | some d => [⟨.sendCommandBytes (addressedCommands d.pad d.sad CmdByte.sdc), rc⟩]

/-- REN is asserted again if it was wanted. -/
def renCalls (renRequested : Bool) (rc : GPIBTransportError) : BoardTrace :=
  if renRequested then [⟨.setRemoteEnable true, rc⟩] else []

/-- What `recoverBus` does and whether it performed a recovery. -/
inductive RecoveryCourse (desc : Option GPIBDescriptor) (s : BoardState) :
    BoardTrace → Bool → Prop where
  | declined (h : s.hasTransport = false ∨ s.recoveryInProgress = true) :
      RecoveryCourse desc s [] false
  | failed {rc : GPIBTransportError} (hrc : rc ≠ .ok) :
      RecoveryCourse desc s [⟨.softReset, rc⟩] false
  | restored (ifcRc tcRc renRc sdcRc : GPIBTransportError) :
      RecoveryCourse desc s
        (⟨.softReset, GPIBTransportError.ok⟩ :: ⟨.pulseInterfaceClear, ifcRc⟩ ::
          ⟨.takeControl false, tcRc⟩ :: (renCalls s.renRequested renRc ++ clearCalls desc sdcRc))
        true

/-- An addressing with its one retry, and the failure that remains. -/
inductive AddressingCourse (cmds : List UInt8) (d : GPIBDescriptor) (s : BoardState) :
    BoardTrace → Option Status → Prop where
  | direct : AddressingCourse cmds d s [⟨.sendCommandBytes cmds, GPIBTransportError.ok⟩] none
  | abandoned {rc : GPIBTransportError} {u} (hrc : rc ≠ .ok)
      (hrecovery : RecoveryCourse (some d) s u false) :
      AddressingCourse cmds d s (⟨.sendCommandBytes cmds, rc⟩ :: u)
        (some ⟨errIbsta rc, addressingIberr rc⟩)
  | retried {rc : GPIBTransportError} {u} (hrc : rc ≠ .ok)
      (hrecovery : RecoveryCourse (some d) s u true) :
      AddressingCourse cmds d s
        (⟨.sendCommandBytes cmds, rc⟩ :: (u ++ [⟨.sendCommandBytes cmds, GPIBTransportError.ok⟩]))
        none
  | lost {rc rc' : GPIBTransportError} {u} (hrc : rc ≠ .ok)
      (hrecovery : RecoveryCourse (some d) s u true) (hrc' : rc' ≠ .ok) :
      AddressingCourse cmds d s
        (⟨.sendCommandBytes cmds, rc⟩ :: (u ++ [⟨.sendCommandBytes cmds, rc'⟩]))
        (some ⟨errIbsta rc', addressingIberr rc'⟩)

section Recovery

variable {desc : Option GPIBDescriptor} {s s' : BoardState} {u : BoardTrace}

theorem clearCalls_of_run {recovered : Bool × BoardState} {r : Bool × BoardState}
    (hrun : Run (do clearTarget anyTransport desc; return recovered) u r) :
    (∃ rc, u = clearCalls desc rc) ∧ r = recovered := by
  cases desc with
  | none =>
      obtain ⟨rfl, rfl⟩ := run_pure_iff.mp hrun
      exact ⟨⟨.ok, rfl⟩, rfl⟩
  | some d =>
      simp only [clearTarget, bind_assoc, pure_bind] at hrun
      obtain ⟨rc, v, rfl, hv⟩ := run_call_bind_iff.mp hrun
      obtain ⟨rfl, rfl⟩ := run_pure_iff.mp hv
      exact ⟨⟨rc, rfl⟩, rfl⟩

theorem recoveryCourse_of_run {recovered : Bool}
    (hrun : Run (recoverBus anyTransport desc s) u (recovered, s')) :
    RecoveryCourse desc s u recovered := by
  unfold recoverBus at hrun
  rcases run_guard_iff.mp hrun with ⟨h, rfl, ⟨⟩⟩ | ⟨-, hrun⟩
  · exact .declined (.inl (by simpa using h))
  rcases run_guard_iff.mp hrun with ⟨h, rfl, ⟨⟩⟩ | ⟨-, hrun⟩
  · exact .declined (.inr h)
  obtain ⟨(rc : GPIBTransportError), v, rfl, hreset⟩ := run_call_bind_iff.mp hrun
  rcases run_guard_iff.mp hreset with ⟨hrc, rfl, ⟨⟩⟩ | ⟨hrc, hrestore⟩
  · exact .failed hrc
  obtain rfl := not_not.mp hrc
  obtain ⟨ifcRc, w, rfl, hpulsed⟩ := run_call_bind_iff.mp hrestore
  obtain ⟨tcRc, x, rfl, htaken⟩ := run_call_bind_iff.mp hpulsed
  rcases run_ite_iff.mp htaken with ⟨hren, hasserted⟩ | ⟨hren, hclear⟩
  · obtain ⟨renRc, y, rfl, hclear⟩ := run_call_bind_iff.mp hasserted
    obtain ⟨⟨sdcRc, rfl⟩, heq⟩ := clearCalls_of_run hclear
    cases heq
    have hcalls : renCalls s.renRequested renRc = [⟨.setRemoteEnable true, renRc⟩] := if_pos hren
    have hcourse : RecoveryCourse desc s _ true := .restored ifcRc tcRc renRc sdcRc
    rwa [hcalls] at hcourse
  · obtain ⟨⟨sdcRc, rfl⟩, heq⟩ := clearCalls_of_run hclear
    cases heq
    have hcalls : renCalls s.renRequested .ok = [] := if_neg hren
    have hcourse : RecoveryCourse desc s _ true := .restored ifcRc tcRc .ok sdcRc
    rwa [hcalls] at hcourse

theorem run_sendAddressing {cmds : List UInt8} {failure : Option Status}
    (hrun : Run (sendAddressing anyTransport cmds) u failure) :
    ∃ rc : GPIBTransportError, u = [⟨.sendCommandBytes cmds, rc⟩] ∧
      failure = if rc ≠ .ok then some ⟨errIbsta rc, addressingIberr rc⟩ else none := by
  obtain ⟨rc, v, rfl, hv⟩ := run_call_bind_iff.mp hrun
  obtain ⟨rfl, rfl⟩ := run_pure_iff.mp hv
  exact ⟨rc, rfl, rfl⟩

theorem addressingCourse_of_run {cmds : List UInt8} {d : GPIBDescriptor}
    {failure : Option Status}
    (hrun : Run (addressWithRecovery anyTransport (sendAddressing anyTransport cmds) d s) u
      (failure, s')) : AddressingCourse cmds d s u failure := by
  obtain ⟨v, first, w, rfl, hfirst, hrest⟩ := run_bind_iff.mp hrun
  obtain ⟨rc, rfl, rfl⟩ := run_sendAddressing hfirst
  by_cases hrc : rc = .ok
  · subst hrc
    obtain ⟨rfl, heq⟩ := run_pure_iff.mp hrest
    cases heq
    exact .direct
  rw [if_pos hrc] at hrest
  obtain ⟨v, ⟨recovered, s₁⟩, x, rfl, hrecovery, hretry⟩ := run_bind_iff.mp hrest
  have hcourse := recoveryCourse_of_run hrecovery
  cases recovered with
  | false =>
      obtain ⟨rfl, heq⟩ := run_pure_iff.mp hretry
      cases heq
      rw [List.append_nil]
      exact .abandoned hrc hcourse
  | true =>
      obtain ⟨y, second, z, rfl, hsecond, hdone⟩ := run_bind_iff.mp hretry
      obtain ⟨rc', rfl, rfl⟩ := run_sendAddressing hsecond
      obtain ⟨rfl, heq⟩ := run_pure_iff.mp hdone
      cases heq
      rw [List.append_nil]
      by_cases hrc' : rc' = .ok
      · subst hrc'
        exact .retried hrc hcourse
      · rw [if_pos hrc']
        exact .lost hrc hcourse hrc'

end Recovery

end BoardState

namespace GPIBBoard

open BoardState

/-! ## The steps of an operation -/

/-- A data transfer: whom to address, how, and the data phase. -/
structure Transfer where
  target : GPIBDescriptor
  commands : List UInt8
  data : BoardRequest

def transfer? (b : GPIBBoard) : BoardOp → Option Transfer
  | .write handle buf sendEoi =>
      (b.descriptors.descriptorFor handle).map fun d =>
        ⟨d, writeCommands b.state.boardPAD d.pad d.sad,
          .writeData buf (sendEoi && d.eot) d.timeoutUs⟩
  | .read handle requestCount =>
      (b.descriptors.descriptorFor handle).map fun d =>
        ⟨d, readCommands b.state.boardPAD d.pad d.sad,
          .readData requestCount d.eosChar d.eosFlags d.timeoutUs⟩
  | _ => none

/-- The one command sequence of an operation and the `ibsta` of its success. -/
def command? (b : GPIBBoard) : BoardOp → Option (List UInt8 × UInt32)
  | .deviceClear handle =>
      (b.descriptors.descriptorFor handle).map fun d =>
        (addressedCommands d.pad d.sad CmdByte.sdc, Ibsta.cmpl)
  | .trigger handle =>
      (b.descriptors.descriptorFor handle).map fun d =>
        (addressedCommands d.pad d.sad CmdByte.get, Ibsta.cmpl)
  | .goToLocal handle =>
      (b.descriptors.descriptorFor handle).map fun d =>
        (addressedCommands d.pad d.sad CmdByte.gtl, Ibsta.cmpl)
  | .localLockout _ => some ([CmdByte.llo], Ibsta.cmpl ||| Ibsta.lok)
  | .sendCommands _ cmds => some (cmds, Ibsta.cmpl)
  | _ => none

/-- The transport calls that carry an operation out, in order. What recovers the bus or ends a
serial poll is not among them. -/
def steps (b : GPIBBoard) : BoardOp → List BoardRequest
  | .setOnline true => [.pulseInterfaceClear, .takeControl false, .setRemoteEnable true]
  | .setOnline false => [.setRemoteEnable false]
  | .interfaceClear _ => [.pulseInterfaceClear]
  | .remoteEnable _ enable => [.setRemoteEnable enable]
  | .serialPoll handle =>
      match b.descriptors.descriptorFor handle with
      | none => []
      | some d =>
          [.sendCommandBytes (serialPollCommands b.state.boardPAD d.pad d.sad),
            .readData 1 0 0 d.timeoutUs]
  | op =>
      match b.transfer? op, b.command? op with
      | some t, _ => [.sendCommandBytes t.commands, t.data]
      | none, some (cmds, _) => [.sendCommandBytes cmds]
      | none, none => []

/-- How an operation of the bus ends, by its calls and its status. -/
inductive BusCourse (b : GPIBBoard) : BoardOp → BoardTrace → Status → Prop where
  | unready {op iberr} (hiberr : iberr = Iberr.earg ∨ iberr = Iberr.eneb) :
      BusCourse b op [] ⟨Ibsta.err, iberr⟩
  | unaddressed {op t u failure} (hop : b.transfer? op = some t)
      (haddressing : AddressingCourse t.commands t.target b.state u (some failure)) :
      BusCourse b op u ⟨Ibsta.err, failure.iberr⟩
  | transferred {op t u e} (hop : b.transfer? op = some t)
      (haddressing : AddressingCourse t.commands t.target b.state u none)
      (he : e.request = t.data) : BusCourse b op (u ++ [e]) (transferStatus e)
  | commanded {op cmds done} {rc : GPIBTransportError} (hop : b.command? op = some (cmds, done)) :
      BusCourse b op [⟨.sendCommandBytes cmds, rc⟩] (commandStatus rc done)
  | unpolled {handle d} {rc : GPIBTransportError}
      (hd : b.descriptors.descriptorFor handle = some d) (hrc : rc ≠ .ok) :
      BusCourse b (.serialPoll handle)
        [⟨.sendCommandBytes (serialPollCommands b.state.boardPAD d.pad d.sad), rc⟩]
        ⟨Ibsta.err, Iberr.ebus⟩
  | polled {handle d} (r : ReadResult) (rc : GPIBTransportError)
      (hd : b.descriptors.descriptorFor handle = some d) :
      BusCourse b (.serialPoll handle)
        [⟨.sendCommandBytes (serialPollCommands b.state.boardPAD d.pad d.sad),
            GPIBTransportError.ok⟩,
          ⟨.readData 1 0 0 d.timeoutUs, r⟩, ⟨.sendCommandBytes teardownCommands, rc⟩]
        (pollStatus r)
  | cleared {handle} {rc : GPIBTransportError} :
      BusCourse b (.interfaceClear handle) [⟨.pulseInterfaceClear, rc⟩]
        ⟨Ibsta.cmpl ||| Ibsta.cic, 0⟩
  | enabled {handle enable} {rc : GPIBTransportError} :
      BusCourse b (.remoteEnable handle enable) [⟨.setRemoteEnable enable, rc⟩]
        ⟨if enable then Ibsta.cmpl ||| Ibsta.rem else Ibsta.cmpl, 0⟩

section Runs

variable {b b' : GPIBBoard} {handle : Int} {u : BoardTrace}

/-- A transfer addresses the bus and ends there, or goes on to its data phase. -/
theorem busCourse_of_addressed {α : Type} (toStatus : α → Status) {op : BoardOp} {t : Transfer}
    {rest : Option Status × BoardState → BoardCalls (α × BoardState)} {r : α × BoardState}
    (hop : b.transfer? op = some t)
    (hlost : ∀ failure s v r, Run (rest (some failure, s)) v r →
      v = [] ∧ toStatus r.1 = ⟨Ibsta.err, failure.iberr⟩)
    (hdata : ∀ s v r, Run (rest (none, s)) v r →
      ∃ e, v = [e] ∧ e.request = t.data ∧ toStatus r.1 = transferStatus e)
    (hrun : Run (addressWithRecovery anyTransport (sendAddressing anyTransport t.commands) t.target
      b.state >>= rest) u r) : BusCourse b op u (toStatus r.1) := by
  obtain ⟨v, ⟨failure, s⟩, w, rfl, haddress, hrest⟩ := run_bind_iff.mp hrun
  have hcourse := addressingCourse_of_run haddress
  cases failure with
  | some failure =>
      obtain ⟨rfl, hstatus⟩ := hlost _ _ _ _ hrest
      rw [List.append_nil, hstatus]
      exact .unaddressed hop hcourse
  | none =>
      obtain ⟨e, rfl, he, hstatus⟩ := hdata _ _ _ hrest
      rw [hstatus]
      exact .transferred hop hcourse he

theorem busCourse_of_write {buf : List UInt8} {sendEoi : Bool} {r : CountStatus}
    {s' : BoardState}
    (hrun : Run (BoardState.write anyTransport (b.descriptors.descriptorFor handle) buf sendEoi
      b.state) u (r, s')) : BusCourse b (.write handle buf sendEoi) u r.toStatus := by
  cases hd : b.descriptors.descriptorFor handle with
  | none =>
      rw [hd] at hrun
      obtain ⟨rfl, heq⟩ := run_pure_iff.mp hrun
      cases heq
      exact .unready (.inl rfl)
  | some d =>
      have hop : b.transfer? (.write handle buf sendEoi) =
          some ⟨d, writeCommands b.state.boardPAD d.pad d.sad,
            .writeData buf (sendEoi && d.eot) d.timeoutUs⟩ := by
        rw [transfer?, hd]
        rfl
      rw [hd] at hrun
      unfold write at hrun
      rcases run_guard_iff.mp hrun with ⟨-, rfl, ⟨⟩⟩ | ⟨-, hrun⟩
      · exact .unready (.inl rfl)
      rcases run_guard_iff.mp hrun with ⟨-, rfl, ⟨⟩⟩ | ⟨-, hrun⟩
      · exact .unready (.inr rfl)
      refine busCourse_of_addressed CountStatus.toStatus hop ?_ ?_ hrun
      · intro failure s v r hdone
        obtain ⟨rfl, rfl⟩ := run_pure_iff.mp hdone
        exact ⟨rfl, rfl⟩
      · intro s v r hdata
        obtain ⟨(rr : WriteResult), x, rfl, hdone⟩ := run_call_bind_iff.mp hdata
        rcases run_guard_iff.mp hdone with ⟨hrc, rfl, rfl⟩ | ⟨hrc, hdone⟩
        · exact ⟨_, rfl, rfl, (if_pos hrc).symm⟩
        · obtain ⟨rfl, rfl⟩ := run_pure_iff.mp hdone
          exact ⟨_, rfl, rfl, (if_neg hrc).symm⟩

theorem busCourse_of_read {requestCount : Nat} {r : ReadStatus} {s' : BoardState}
    (hrun : Run (BoardState.read anyTransport (b.descriptors.descriptorFor handle) requestCount
      b.state) u (r, s')) : BusCourse b (.read handle requestCount) u r.toStatus := by
  cases hd : b.descriptors.descriptorFor handle with
  | none =>
      rw [hd] at hrun
      obtain ⟨rfl, heq⟩ := run_pure_iff.mp hrun
      cases heq
      exact .unready (.inl rfl)
  | some d =>
      have hop : b.transfer? (.read handle requestCount) =
          some ⟨d, readCommands b.state.boardPAD d.pad d.sad,
            .readData requestCount d.eosChar d.eosFlags d.timeoutUs⟩ := by
        rw [transfer?, hd]
        rfl
      rw [hd] at hrun
      unfold BoardState.read at hrun
      rcases run_guard_iff.mp hrun with ⟨-, rfl, ⟨⟩⟩ | ⟨-, hrun⟩
      · exact .unready (.inl rfl)
      rcases run_guard_iff.mp hrun with ⟨-, rfl, ⟨⟩⟩ | ⟨-, hrun⟩
      · exact .unready (.inr rfl)
      refine busCourse_of_addressed (fun r : ReadStatus => r.toStatus) hop ?_ ?_ hrun
      · intro failure s v r hdone
        obtain ⟨rfl, rfl⟩ := run_pure_iff.mp hdone
        exact ⟨rfl, rfl⟩
      · intro s v r hdata
        obtain ⟨(rr : ReadResult), x, rfl, hdone⟩ := run_call_bind_iff.mp hdata
        rcases run_guard_iff.mp hdone with ⟨hrc, rfl, rfl⟩ | ⟨hrc, hdone⟩
        · exact ⟨_, rfl, rfl, (if_pos hrc).symm⟩
        · obtain ⟨rfl, rfl⟩ := run_pure_iff.mp hdone
          exact ⟨_, rfl, rfl, (if_neg hrc).symm⟩

/-- An operation that ends after its one command sequence. -/
theorem busCourse_of_sent {α : Type} (toStatus : α → Status) {op : BoardOp}
    {cmds : List UInt8} {done : UInt32} {failed sent : α × BoardState} {rc : GPIBTransportError}
    {r : α × BoardState} (hop : b.command? op = some (cmds, done))
    (hfailed : toStatus failed.1 = ⟨Ibsta.err, Iberr.ebus⟩) (hsent : toStatus sent.1 = ⟨done, 0⟩)
    (hrun : Run (if rc ≠ .ok then pure failed else pure sent : BoardCalls (α × BoardState)) u r) :
    BusCourse b op (⟨.sendCommandBytes cmds, rc⟩ :: u) (toStatus r.1) := by
  have hended : BusCourse b op [⟨.sendCommandBytes cmds, rc⟩] (commandStatus rc done) :=
    .commanded hop
  rcases run_guard_iff.mp hrun with ⟨hrc, rfl, rfl⟩ | ⟨hrc, hdone⟩
  · rwa [commandStatus, if_pos hrc, ← hfailed] at hended
  · obtain ⟨rfl, rfl⟩ := run_pure_iff.mp hdone
    rwa [commandStatus, if_neg hrc, ← hsent] at hended

/-- What `deviceClear`, `trigger` and `goToLocal` have in common. -/
theorem busCourse_of_addressedCommand {op : BoardOp} {command : UInt8} {r : Status}
    {s' : BoardState}
    (hop : b.command? op = (b.descriptors.descriptorFor handle).map fun d =>
      (addressedCommands d.pad d.sad command, Ibsta.cmpl))
    (hrun : Run (addressedCommand anyTransport command (b.descriptors.descriptorFor handle)
      b.state) u (r, s')) : BusCourse b op u r := by
  cases hd : b.descriptors.descriptorFor handle with
  | none =>
      rw [hd] at hrun
      obtain ⟨rfl, heq⟩ := run_pure_iff.mp hrun
      cases heq
      exact .unready (.inl rfl)
  | some d =>
      rw [hd] at hop hrun
      unfold addressedCommand at hrun
      rcases run_guard_iff.mp hrun with ⟨-, rfl, ⟨⟩⟩ | ⟨-, hrun⟩
      · exact .unready (.inl rfl)
      obtain ⟨(rc : GPIBTransportError), v, rfl, hsent⟩ := run_call_bind_iff.mp hrun
      exact busCourse_of_sent id hop rfl rfl hsent

theorem busCourse_of_localLockout {r : Status} {s' : BoardState}
    (hrun : Run (localLockout anyTransport b.state) u (r, s')) :
    BusCourse b (.localLockout handle) u r := by
  unfold localLockout at hrun
  rcases run_guard_iff.mp hrun with ⟨-, rfl, ⟨⟩⟩ | ⟨-, hrun⟩
  · exact .unready (.inr rfl)
  obtain ⟨(rc : GPIBTransportError), v, rfl, hsent⟩ := run_call_bind_iff.mp hrun
  exact busCourse_of_sent id rfl rfl rfl hsent

theorem busCourse_of_sendCommands {cmds : List UInt8} {r : CountStatus} {s' : BoardState}
    (hrun : Run (sendCommands anyTransport cmds b.state) u (r, s')) :
    BusCourse b (.sendCommands handle cmds) u r.toStatus := by
  unfold sendCommands at hrun
  rcases run_guard_iff.mp hrun with ⟨-, rfl, ⟨⟩⟩ | ⟨-, hrun⟩
  · exact .unready (.inr rfl)
  obtain ⟨(rc : GPIBTransportError), v, rfl, hsent⟩ := run_call_bind_iff.mp hrun
  exact busCourse_of_sent CountStatus.toStatus rfl rfl rfl hsent

theorem busCourse_of_interfaceClear {r : Status} {s' : BoardState}
    (hrun : Run (interfaceClear anyTransport b.state) u (r, s')) :
    BusCourse b (.interfaceClear handle) u r := by
  unfold interfaceClear at hrun
  rcases run_guard_iff.mp hrun with ⟨-, rfl, ⟨⟩⟩ | ⟨-, hrun⟩
  · exact .unready (.inr rfl)
  obtain ⟨rc, v, rfl, hdone⟩ := run_call_bind_iff.mp hrun
  obtain ⟨rfl, heq⟩ := run_pure_iff.mp hdone
  cases heq
  exact .cleared

theorem busCourse_of_remoteEnable {enable : Bool} {r : Status} {s' : BoardState}
    (hrun : Run (remoteEnable anyTransport enable b.state) u (r, s')) :
    BusCourse b (.remoteEnable handle enable) u r := by
  unfold remoteEnable at hrun
  rcases run_guard_iff.mp hrun with ⟨-, rfl, ⟨⟩⟩ | ⟨-, hrun⟩
  · exact .unready (.inr rfl)
  obtain ⟨rc, v, rfl, hdone⟩ := run_call_bind_iff.mp hrun
  obtain ⟨rfl, heq⟩ := run_pure_iff.mp hdone
  cases heq
  exact .enabled

theorem busCourse_of_serialPoll {r : UInt8 × Status} {s' : BoardState}
    (hrun : Run (serialPoll anyTransport (b.descriptors.descriptorFor handle) b.state) u
      (r, s')) : BusCourse b (.serialPoll handle) u r.2 := by
  cases hd : b.descriptors.descriptorFor handle with
  | none =>
      rw [hd] at hrun
      obtain ⟨rfl, heq⟩ := run_pure_iff.mp hrun
      cases heq
      exact .unready (.inl rfl)
  | some d =>
      rw [hd] at hrun
      unfold serialPoll at hrun
      rcases run_guard_iff.mp hrun with ⟨-, rfl, ⟨⟩⟩ | ⟨-, hrun⟩
      · exact .unready (.inl rfl)
      rcases run_guard_iff.mp hrun with ⟨-, rfl, ⟨⟩⟩ | ⟨-, hrun⟩
      · exact .unready (.inr rfl)
      obtain ⟨(rc : GPIBTransportError), v, rfl, hsent⟩ := run_call_bind_iff.mp hrun
      rcases run_guard_iff.mp hsent with ⟨hrc, rfl, ⟨⟩⟩ | ⟨hrc, hpoll⟩
      · exact .unpolled hd hrc
      obtain rfl := not_not.mp hrc
      obtain ⟨(rr : ReadResult), w, rfl, hread⟩ := run_call_bind_iff.mp hpoll
      obtain ⟨rc, x, rfl, hdown⟩ := run_call_bind_iff.mp hread
      have hended : BusCourse b (.serialPoll handle) _ (pollStatus rr) := .polled rr rc hd
      rcases run_ite_iff.mp hdown with ⟨hfail, hdone⟩ | ⟨hfail, hdone⟩
      · obtain ⟨rfl, heq⟩ := run_pure_iff.mp hdone
        cases heq
        rwa [pollStatus, if_pos hfail] at hended
      · obtain ⟨rfl, heq⟩ := run_pure_iff.mp hdone
        cases heq
        rwa [pollStatus, if_neg hfail] at hended

/-- Each of these operations takes one of the courses, and ends in its status. -/
theorem busCourse_of_performs {e : Event} (hop : e.op.worksOnBus = true) (h : b.Performs e b') :
    ∃ st, e.result.status? = some st ∧ BusCourse b e.op e.calls st := by
  obtain ⟨fuel, hrun⟩ := h
  obtain ⟨op, u, r⟩ := e
  cases op with
  | write handle buf sendEoi =>
      obtain ⟨a, s, hbus, rfl, rfl⟩ := run_reporting_iff.mp hrun
      exact ⟨_, rfl, busCourse_of_write hbus⟩
  | read handle requestCount =>
      obtain ⟨a, s, hbus, rfl, rfl⟩ := run_reporting_iff.mp hrun
      exact ⟨_, rfl, busCourse_of_read hbus⟩
  | deviceClear handle =>
      obtain ⟨a, s, hbus, rfl, rfl⟩ := run_reporting_iff.mp hrun
      exact ⟨_, rfl, busCourse_of_addressedCommand rfl hbus⟩
  | trigger handle =>
      obtain ⟨a, s, hbus, rfl, rfl⟩ := run_reporting_iff.mp hrun
      exact ⟨_, rfl, busCourse_of_addressedCommand rfl hbus⟩
  | goToLocal handle =>
      obtain ⟨a, s, hbus, rfl, rfl⟩ := run_reporting_iff.mp hrun
      exact ⟨_, rfl, busCourse_of_addressedCommand rfl hbus⟩
  | interfaceClear handle =>
      obtain ⟨a, s, hbus, rfl, rfl⟩ := run_reporting_iff.mp hrun
      exact ⟨_, rfl, busCourse_of_interfaceClear hbus⟩
  | remoteEnable handle enable =>
      obtain ⟨a, s, hbus, rfl, rfl⟩ := run_reporting_iff.mp hrun
      exact ⟨_, rfl, busCourse_of_remoteEnable hbus⟩
  | serialPoll handle =>
      obtain ⟨a, s, hbus, rfl, rfl⟩ := run_reporting_iff.mp hrun
      exact ⟨_, rfl, busCourse_of_serialPoll hbus⟩
  | localLockout handle =>
      obtain ⟨a, s, hbus, rfl, rfl⟩ := run_reporting_iff.mp hrun
      exact ⟨_, rfl, busCourse_of_localLockout hbus⟩
  | sendCommands handle cmds =>
      obtain ⟨a, s, hbus, rfl, rfl⟩ := run_reporting_iff.mp hrun
      exact ⟨_, rfl, busCourse_of_sendCommands hbus⟩
  | _ => cases hop

end Runs

end GPIBBoard

end DarwinGpib
