import DarwinGpib.Board.Addressing
import DarwinGpib.Board.Courses

/-!
# Boards that are not online

A board goes online by `setOnline` and by nothing else. Whether an operation looks at that before
it works on the bus is up to each operation: three of them do, and the others only ask for a
transport.
-/

namespace DarwinGpib

open Interaction Behaviour

/-- The calls that put something on the bus. Sampling the lines, reading a register and choosing
a chunk size do not. -/
def BoardRequest.drivesBus : BoardRequest → Bool
  | readBusLines | readRawRegister _ | setMaxDataChunk _ | uptime => false
  | _ => true

/-- The operations that need the bus. -/
def BoardOp.needsBus : BoardOp → Bool
  | listenerPresent _ _ => true
  | op => op.worksOnBus

/-- Whether an offline board refuses an operation as it should, with and without a transport. -/
def BoardOp.refusedOffline (hasTransport : Bool) : BoardOp → Bool
  | write _ _ _ | read _ _ | serialPoll _ => hasTransport
  | interfaceClear _ | remoteEnable _ _ | localLockout _ | listenerPresent _ _
  | sendCommands _ _ => !hasTransport
  | _ => false

/-- The status says that the board is not online, and the bus was left alone. -/
structure OffBus (u : BoardTrace) (st : Status) : Prop where
  err : st.ibsta &&& Ibsta.err ≠ 0
  iberr : st.iberr = Iberr.eneb
  silent : ∀ x ∈ u, x.request.drivesBus = false

theorem offBus_eneb : OffBus [] ⟨Ibsta.err, Iberr.eneb⟩ :=
  ⟨by decide, rfl, nofun⟩

theorem not_offBus_earg : ¬ OffBus [] ⟨Ibsta.err, Iberr.earg⟩ :=
  fun h => absurd h.iberr (by decide)

theorem not_offBus_cons {x : Exchange BoardRequest.Reply} {u : BoardTrace} {st : Status}
    (hx : x.request.drivesBus = true) : ¬ OffBus (x :: u) st := by
  intro h
  rw [h.silent x List.mem_cons_self] at hx
  cases hx

namespace BoardState

/-! ## Operations of an offline board -/

/-- How an operation of an offline board ends: offline again, and refused as it should be if and
only if `refused`. -/
def EndsOffline {α : Type} (status : α → Status) (refused : Bool)
    (p : BoardCalls (α × BoardState)) : Prop :=
  Leaves p fun u r => r.2.online = false ∧ (OffBus u (status r.1) ↔ refused = true)

open GPIBBoard (leaves_ite_pure leaves_bind_pure)

section Operations

variable {α β : Type} {status : α → Status} {s : BoardState} {refused : Bool}

theorem EndsOffline.online {p : BoardCalls (α × BoardState)} (h : EndsOffline status refused p) :
    Leaves p fun _ r => r.2.online = false :=
  h.mono fun _ _ hr => hr.1

/-- Without a transport the operation says that there is no board. -/
theorem endsOffline_eneb {a : α} (hs : s.online = false)
    (ha : status a = ⟨Ibsta.err, Iberr.eneb⟩) : EndsOffline status true (pure (a, s)) := by
  refine leaves_pure ⟨hs, iff_of_true ?_ rfl⟩
  rw [ha]
  exact offBus_eneb

theorem endsOffline_earg {a : α} (hs : s.online = false)
    (ha : status a = ⟨Ibsta.err, Iberr.earg⟩) : EndsOffline status false (pure (a, s)) := by
  refine leaves_pure ⟨hs, iff_of_false ?_ (by decide)⟩
  rw [ha]
  exact not_offBus_earg

/-- An operation that begins with a call that drives the bus. -/
theorem endsOffline_call_bind {i : BoardRequest} {f : i.Reply → BoardCalls (α × BoardState)}
    (hi : i.drivesBus = true) (hf : ∀ r, Leaves (f r) fun _ x => x.2.online = false) :
    EndsOffline status false (Program.call i >>= f) :=
  leaves_call_bind fun r => (hf r).mono fun _ _ hx =>
    ⟨hx, iff_of_false (not_offBus_cons hi) (by decide)⟩

/-- The check for a transport in front of an operation that looks at `online_`, too. -/
theorem endsOffline_gated {p q : BoardCalls (α × BoardState)} (hp : EndsOffline status false p)
    (hq : EndsOffline status true q) :
    EndsOffline status s.hasTransport (if !s.hasTransport then p else q) := by
  cases s.hasTransport with
  | false => exact hp
  | true => exact hq

/-- The check for a transport in front of an operation that looks no further. -/
theorem endsOffline_ungated {p q : BoardCalls (α × BoardState)} (hp : EndsOffline status true p)
    (hq : EndsOffline status false q) :
    EndsOffline status (!s.hasTransport) (if !s.hasTransport then p else q) := by
  cases s.hasTransport with
  | false => exact hp
  | true => exact hq

/-- The check that the board is online. -/
theorem endsOffline_online {p q : BoardCalls (α × BoardState)} (hs : s.online = false)
    (hp : EndsOffline status refused p) :
    EndsOffline status refused (if !s.online then p else q) := by
  simpa [hs] using hp

end Operations

section Calls

variable {s : BoardState}

theorem endsOffline_write (hs : s.online = false) (d : GPIBDescriptor) (buf : List UInt8)
    (sendEoi : Bool) :
    EndsOffline CountStatus.toStatus s.hasTransport
      (write anyTransport (some d) buf sendEoi s) := by
  unfold write
  apply endsOffline_gated
  · exact endsOffline_earg hs rfl
  · apply endsOffline_online hs
    exact endsOffline_eneb hs rfl

theorem endsOffline_read (hs : s.online = false) (d : GPIBDescriptor) (requestCount : Nat) :
    EndsOffline (fun r : ReadStatus => r.toStatus) s.hasTransport
      (read anyTransport (some d) requestCount s) := by
  unfold read
  apply endsOffline_gated
  · exact endsOffline_earg hs rfl
  · apply endsOffline_online hs
    exact endsOffline_eneb hs rfl

theorem endsOffline_serialPoll (hs : s.online = false) (d : GPIBDescriptor) :
    EndsOffline Prod.snd s.hasTransport (serialPoll anyTransport (some d) s) := by
  unfold serialPoll
  apply endsOffline_gated
  · exact endsOffline_earg hs rfl
  · apply endsOffline_online hs
    exact endsOffline_eneb hs rfl

/-- `deviceClear`, `trigger` and `goToLocal` send their command to the bus of an offline board. -/
theorem endsOffline_addressedCommand (hs : s.online = false) (command : UInt8)
    (d : GPIBDescriptor) :
    EndsOffline id false (addressedCommand anyTransport command (some d) s) := by
  unfold addressedCommand
  change EndsOffline id false (if _ then _ else _)
  split
  · exact endsOffline_earg hs rfl
  · exact endsOffline_call_bind rfl fun (rc : GPIBTransportError) => leaves_ite_pure hs hs

theorem endsOffline_interfaceClear (hs : s.online = false) :
    EndsOffline id (!s.hasTransport) (interfaceClear anyTransport s) := by
  unfold interfaceClear
  apply endsOffline_ungated
  · exact endsOffline_eneb hs rfl
  · exact endsOffline_call_bind rfl fun rc => leaves_pure hs

theorem endsOffline_remoteEnable (hs : s.online = false) (enable : Bool) :
    EndsOffline id (!s.hasTransport) (remoteEnable anyTransport enable s) := by
  unfold remoteEnable
  apply endsOffline_ungated
  · exact endsOffline_eneb hs rfl
  · exact endsOffline_call_bind rfl fun rc => leaves_pure hs

theorem endsOffline_localLockout (hs : s.online = false) :
    EndsOffline id (!s.hasTransport) (localLockout anyTransport s) := by
  unfold localLockout
  apply endsOffline_ungated
  · exact endsOffline_eneb hs rfl
  · exact endsOffline_call_bind rfl fun (rc : GPIBTransportError) => leaves_ite_pure hs hs

theorem endsOffline_sendCommands (hs : s.online = false) (cmds : List UInt8) :
    EndsOffline CountStatus.toStatus (!s.hasTransport) (sendCommands anyTransport cmds s) := by
  unfold sendCommands
  apply endsOffline_ungated
  · exact endsOffline_eneb hs rfl
  · exact endsOffline_call_bind rfl fun (rc : GPIBTransportError) => leaves_ite_pure hs hs

theorem endsOffline_listenerPresent (hs : s.online = false) (pad : UInt8) (sad : Int8) :
    EndsOffline Prod.snd (!s.hasTransport) (listenerPresent anyTransport pad sad s) := by
  unfold listenerPresent
  apply endsOffline_ungated
  · exact endsOffline_eneb hs rfl
  · simp only [exposeListener, bind_assoc]
    refine endsOffline_call_bind rfl fun rc => leaves_bind_pure fun rc => ?_
    refine leaves_ite (fun _ => leaves_pure hs) fun _ => ?_
    exact leaves_bind_pure fun present => leaves_pure hs

end Calls

end BoardState

/-! ## Events -/

namespace GPIBBoard

open BoardState

/-- The operation fails as on a board that is not online, without driving the bus. -/
def Event.StaysOff (e : Event) : Prop :=
  ∃ st, e.result.status? = some st ∧ OffBus e.calls st

/-- The handle that an operation looks up is open. -/
def Accepts (b : GPIBBoard) (op : BoardOp) : Prop :=
  ∀ handle, op.checked = some handle → (b.descriptors.descriptorFor handle).isSome

/-- What an operation of an offline board does: it leaves it offline and, if it needs the bus and
is called properly, is refused or not. -/
structure OffAfter (b : GPIBBoard) (e : Event) (b' : GPIBBoard) : Prop where
  online : b'.state.online = false
  refused : e.op.needsBus = true → b.Accepts e.op →
    (e.StaysOff ↔ e.op.refusedOffline b.state.hasTransport = true)

variable {b b' b₀ : GPIBBoard} {e : Event} {op : BoardOp} {u : BoardTrace} {r : BoardResult}

theorem staysOff_iff {st : Status} (hr : r.status? = some st) :
    Event.StaysOff ⟨op, u, r⟩ ↔ OffBus u st := by
  simp [Event.StaysOff, hr]

/-- An operation that needs no handle. -/
theorem offAfter_reporting {α : Type} {status : α → Status} {report : α → BoardResult}
    {bus : BoardState → BoardCalls (α × BoardState)}
    (hbus : EndsOffline status (op.refusedOffline b.state.hasTransport) (bus b.state))
    (hreport : ∀ a, (report a).status? = some (status a))
    (hrun : Run (b.reporting report bus) u (some (r, b'))) : b.OffAfter ⟨op, u, r⟩ b' := by
  obtain ⟨a, s, hcalls, rfl, rfl⟩ := run_reporting_iff.mp hrun
  obtain ⟨honline, hrefused⟩ := hbus _ _ hcalls
  exact ⟨honline, fun _ _ => (staysOff_iff (hreport a)).trans hrefused⟩

/-- An operation that looks its handle up. -/
theorem offAfter_looking_up {α : Type} {status : α → Status} (report : α → BoardResult)
    (bus : Option GPIBDescriptor → BoardState → BoardCalls (α × BoardState)) {handle : Int}
    (hchecked : op.checked = some handle)
    (hnone : Leaves (bus none b.state) fun _ r => r.2.online = false)
    (hsome : ∀ d, EndsOffline status (op.refusedOffline b.state.hasTransport)
      (bus (some d) b.state))
    (hreport : ∀ a, (report a).status? = some (status a))
    (hrun : Run (b.reporting report (bus (b.descriptors.descriptorFor handle))) u
      (some (r, b'))) : b.OffAfter ⟨op, u, r⟩ b' := by
  cases hd : b.descriptors.descriptorFor handle with
  | none =>
      rw [hd] at hrun
      obtain ⟨a, s, hcalls, rfl, rfl⟩ := run_reporting_iff.mp hrun
      refine ⟨hnone _ _ hcalls, fun _ haccepts => ?_⟩
      have hopen := haccepts handle hchecked
      rw [hd] at hopen
      cases hopen
  | some d =>
      rw [hd] at hrun
      exact offAfter_reporting (hsome d) hreport hrun

/-- An operation that does not need the bus. -/
theorem offAfter_of_online (hop : e.op.needsBus = false) (h : b'.state.online = false) :
    b.OffAfter e b' :=
  ⟨h, fun hneeds => by rw [hop] at hneeds; cases hneeds⟩

theorem online_of_waitForStatus {fuel : Nat} {handle : Int} {mask : Int32} {timeoutUs : Nat}
    (h : Run (b.perform anyTransport anyUptime fuel (.waitForStatus handle mask timeoutUs)) u
      (some (r, b'))) : b'.state.online = b.state.online := by
  obtain ⟨v, o, w, rfl, hv, hw⟩ := run_bind_iff.mp h
  obtain ⟨-, heq⟩ := run_pure_iff.mp hw
  obtain ⟨⟨status, s⟩, rfl, heq⟩ := Option.map_eq_some_iff.mp heq.symm
  cases heq
  have hkept : Leaves (BoardState.waitForStatus anyTransport anyUptime fuel
      (b.descriptors.descriptorFor handle) mask timeoutUs b.state)
      fun _ o => ∀ x ∈ o, x.2.online = b.state.online := by
    cases b.descriptors.descriptorFor handle with
    | none => exact leaves_pure (by rintro x ⟨⟩; rfl)
    | some d =>
        unfold BoardState.waitForStatus
        refine leaves_ite (fun _ => leaves_pure (by rintro x ⟨⟩; rfl)) fun _ => ?_
        refine leaves_bind_pure fun _ => leaves_bind_pure fun o => leaves_pure ?_
        intro x hx
        obtain ⟨ibsta, -, rfl⟩ := Option.map_eq_some_iff.mp hx
        rfl
  exact hkept v _ hv (status, s) rfl

theorem online_openDescriptor (b : GPIBBoard) (o : DescriptorOptions) :
    (b.openDescriptor o).2.state.online = b.state.online := by
  unfold openDescriptor
  split <;> rfl

theorem online_closeDescriptor (b : GPIBBoard) (handle : Int) :
    (b.closeDescriptor handle).2.state.online = b.state.online := by
  unfold closeDescriptor
  split <;> rfl

theorem online_configure (b : GPIBBoard) (handle : Int) (key : UInt32) (value : Int32) :
    (b.configure handle key value).2.state.online = b.state.online := by
  unfold configure
  split
  · rfl
  · split <;> rfl

theorem online_ask (b : GPIBBoard) (handle : Int) (option : UInt32) :
    (b.ask handle option).2.state.online = b.state.online := by
  unfold ask
  split
  · rfl
  · split <;> rfl

/-- One operation of an offline board. -/
theorem offAfter_of_performs (hoff : b.state.online = false) (hop : e.op ≠ .setOnline true)
    (h : b.Performs e b') : b.OffAfter e b' := by
  obtain ⟨fuel, hrun⟩ := h
  obtain ⟨op, u, r⟩ := e
  cases op with
  | write handle buf sendEoi =>
      exact offAfter_looking_up .counted (BoardState.write anyTransport · buf sendEoi) rfl
        (leaves_pure hoff) (endsOffline_write hoff · buf sendEoi) (fun _ => rfl) hrun
  | read handle requestCount =>
      exact offAfter_looking_up .read (BoardState.read anyTransport · requestCount) rfl
        (leaves_pure hoff) (endsOffline_read hoff · requestCount) (fun _ => rfl) hrun
  | serialPoll handle =>
      exact offAfter_looking_up .polled (BoardState.serialPoll anyTransport) rfl
        (leaves_pure hoff) (endsOffline_serialPoll hoff) (fun _ => rfl) hrun
  | deviceClear handle =>
      exact offAfter_looking_up .status (BoardState.deviceClear anyTransport) rfl
        (leaves_pure hoff) (endsOffline_addressedCommand hoff CmdByte.sdc) (fun _ => rfl) hrun
  | trigger handle =>
      exact offAfter_looking_up .status (BoardState.trigger anyTransport) rfl
        (leaves_pure hoff) (endsOffline_addressedCommand hoff CmdByte.get) (fun _ => rfl) hrun
  | goToLocal handle =>
      exact offAfter_looking_up .status (BoardState.goToLocal anyTransport) rfl
        (leaves_pure hoff) (endsOffline_addressedCommand hoff CmdByte.gtl) (fun _ => rfl) hrun
  | interfaceClear handle =>
      exact offAfter_reporting (endsOffline_interfaceClear hoff) (fun _ => rfl) hrun
  | remoteEnable handle enable =>
      exact offAfter_reporting (endsOffline_remoteEnable hoff enable) (fun _ => rfl) hrun
  | localLockout handle =>
      exact offAfter_reporting (endsOffline_localLockout hoff) (fun _ => rfl) hrun
  | listenerPresent pad sad =>
      exact offAfter_reporting (endsOffline_listenerPresent hoff pad sad) (fun _ => rfl) hrun
  | sendCommands handle cmds =>
      exact offAfter_reporting (endsOffline_sendCommands hoff cmds) (fun _ => rfl) hrun
  | setOnline online =>
      obtain ⟨ibsta, s, hcalls, -, rfl⟩ := run_reporting_iff.mp hrun
      cases online with
      | true => exact absurd rfl hop
      | false =>
          have hkept : Leaves (BoardState.setOnline anyTransport false b.state)
              fun _ r => r.2.online = false :=
            leaves_ite (fun _ => leaves_pure hoff) fun _ =>
              leaves_bind_pure fun _ => leaves_pure rfl
          exact offAfter_of_online rfl (hkept _ _ hcalls)
  | waitForStatus handle mask timeoutUs =>
      exact offAfter_of_online rfl ((online_of_waitForStatus hrun).trans hoff)
  | busLineStatus =>
      obtain ⟨a, s, hcalls, -, rfl⟩ := run_reporting_iff.mp hrun
      have hkept : Leaves (BoardState.busLineStatus anyTransport b.state)
          fun _ r => r.2.online = false :=
        leaves_ite (fun _ => leaves_pure hoff) fun _ => leaves_bind_pure fun _ =>
          leaves_ite_pure hoff hoff
      exact offAfter_of_online rfl (hkept _ _ hcalls)
  | softResetDiag =>
      have h : Run (b.reporting (fun rc => BoardResult.diag rc 0)
        (UserClient.softResetDiag anyTransport)) u (some (r, b')) := hrun
      obtain ⟨a, s, hcalls, -, rfl⟩ := run_reporting_iff.mp h
      obtain rfl : s = b.state := leaves_softResetDiag b.state _ _ hcalls
      exact offAfter_of_online rfl hoff
  | openDescriptor o =>
      cases (run_pure_iff.mp hrun).2
      exact offAfter_of_online rfl ((online_openDescriptor b o).trans hoff)
  | closeDescriptor handle =>
      cases (run_pure_iff.mp hrun).2
      exact offAfter_of_online rfl ((online_closeDescriptor b handle).trans hoff)
  | configure handle key value =>
      cases (run_pure_iff.mp hrun).2
      exact offAfter_of_online rfl ((online_configure b handle key value).trans hoff)
  | ask handle option =>
      cases (run_pure_iff.mp hrun).2
      exact offAfter_of_online rfl ((online_ask b handle option).trans hoff)
  | free =>
      cases (run_pure_iff.mp hrun).2
      exact offAfter_of_online rfl hoff
  | readRawRegisterDiag reg =>
      rcases run_ite_iff.mp hrun with ⟨-, h⟩ | ⟨-, h⟩
      · cases (run_pure_iff.mp h).2
        exact offAfter_of_online rfl hoff
      · obtain ⟨⟨rc, raw⟩, w, rfl, hw⟩ := run_call_bind_iff.mp h
        have heq := (run_pure_iff.mp hw).2
        cases heq
        exact offAfter_of_online rfl hoff
  | writeRawRegisterDiag reg value =>
      obtain ⟨-, rfl⟩ := run_diagnosing hrun
      exact offAfter_of_online rfl hoff
  | setMaxDataChunkDiag bytes =>
      obtain ⟨-, rfl⟩ := run_diagnosing hrun
      exact offAfter_of_online rfl hoff
  | resetDeviceDiag =>
      obtain ⟨-, rfl⟩ := run_diagnosing hrun
      exact offAfter_of_online rfl hoff

/-! ## Runs -/

/-- From an offline board, whatever is called but `setOnline` and whatever the transport answers:
the board stays offline, and every operation that needs the bus is refused if and only if it is a
`write`, a `read` or a `serialPoll` with a transport, or one of those that ask for the transport
alone and find none. -/
theorem offline_boards_refuse {past : List (GPIBBoard × Event)} (hoff : b₀.state.online = false)
    (h : History (· = b₀) Performs past b) (hops : ∀ x ∈ past, x.2.op ≠ .setOnline true) :
    b.state.online = false ∧ ∀ x ∈ past, x.2.op.needsBus = true → x.1.Accepts x.2.op →
      (x.2.StaysOff ↔ x.2.op.refusedOffline x.1.state.hasTransport = true) := by
  induction h with
  | start h => exact ⟨by rw [h, hoff], by simp⟩
  | step h hstep ih =>
      obtain ⟨hlast, hpast⟩ := List.forall_mem_cons.mp hops
      obtain ⟨honline, hrefused⟩ := ih hpast
      have hstays := offAfter_of_performs honline hlast hstep
      exact ⟨hstays.online, List.forall_mem_cons.mpr ⟨hstays.refused, hrefused⟩⟩

/-- Before it goes online, a board refuses a write to handle 1. -/
theorem offline_boards_refuse_write :
    Event.StaysOff ⟨.write 1 [104, 105] true, [], .counted ⟨⟨Ibsta.err, Iberr.eneb⟩, 0⟩⟩ := by
  have hopen : init.Performs ⟨.openDescriptor atFive, [], .opened 1 ⟨Ibsta.cmpl, 0⟩⟩
      (init.openDescriptor atFive).2 := ⟨0, .pure _⟩
  have hwrite : (init.openDescriptor atFive).2.Performs
      ⟨.write 1 [104, 105] true, [], .counted ⟨⟨Ibsta.err, Iberr.eneb⟩, 0⟩⟩
      { (init.openDescriptor atFive).2 with
        state := { (init.openDescriptor atFive).2.state with ibsta := Ibsta.err } } :=
    ⟨0, .pure _⟩
  obtain ⟨-, hrefused⟩ := offline_boards_refuse rfl (.step (.step (.start rfl) hopen) hwrite)
    (by simp)
  refine (hrefused _ List.mem_cons_self rfl ?_).mpr rfl
  rintro handle ⟨⟩
  rfl

/-- Before it goes online, a board sends a device clear to handle 1, and reports success. -/
theorem offline_board_clears_device :
    ∃ past b b', BoardHistory past b ∧ b.state.online = false ∧
      b.Accepts (.deviceClear 1) ∧
      b.Performs ⟨.deviceClear 1,
        [⟨.sendCommandBytes (addressedCommands 5 (-1) CmdByte.sdc), GPIBTransportError.ok⟩],
        .status ⟨Ibsta.cmpl, 0⟩⟩ b' := by
  have hopen : init.Performs ⟨.openDescriptor atFive, [], .opened 1 ⟨Ibsta.cmpl, 0⟩⟩
      (init.openDescriptor atFive).2 := ⟨0, .pure _⟩
  refine ⟨_, _, _, .step (.start rfl) hopen, rfl, ?_, ⟨0, .ask (.pure _)⟩⟩
  rintro handle ⟨⟩
  rfl

end GPIBBoard

end DarwinGpib
