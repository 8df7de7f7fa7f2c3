import DarwinGpib.Board.DescriptorInvariant
import DarwinGpib.Client.Bench

/-!
# Calls as public operations

The user client adds nothing to the board: each of its handlers performs one public operation and
hands on what that reports.
-/

namespace DarwinGpib

open Interaction UserClient Libgpib

/-- The operation behind `handleLineStatus`. -/
def lineStatusOp (handle : Int) : BoardOp :=
  let h := (Int32.ofInt handle).toUInt32
  let tag := h &&& 0xF0000000
  if h = 0x10000000 then .softResetDiag
  else if h = 0x18000000 then .resetDeviceDiag
  else if tag = 0x50000000 then .setMaxDataChunkDiag (h &&& 0xFFFF).toNat
  else if tag = 0x20000000 then .writeRawRegisterDiag ((h >>> 8) &&& 0xFFF).toUInt16 h.toUInt8
  else if tag = 0x40000000 then .readRawRegisterDiag h.toUInt16
  else .busLineStatus

/-- The operation that the handler of a call performs. -/
def DriverCall.op : DriverCall → BoardOp
  | boardOnline online => .setOnline (online ≠ 0)
  | openDescriptor i => .openDescriptor i.options
  | closeDescriptor handle => .closeDescriptor handle
  | configure handle key value => .configure handle key value
  | write handle sendEoi data => .write handle data (sendEoi ≠ 0)
  | read handle requestCount => .read handle (clampedRequest requestCount)
  | deviceClear handle => .deviceClear handle
  | interfaceClear handle => .interfaceClear handle
  | remoteEnable handle enable => .remoteEnable handle (enable ≠ 0)
  | wait handle mask timeoutUs => .waitForStatus handle mask timeoutUs
  | ask handle option => .ask handle option
  | serialPoll handle => .serialPoll handle
  | trigger handle => .trigger handle
  | goToLocal handle => .goToLocal handle
  | localLockout handle => .localLockout handle
  | lineStatus handle => lineStatusOp handle
  | listenerPresent _ pad sad => .listenerPresent pad.toUInt8 sad.toInt8
  | sendCommand handle data => .sendCommands handle data

/-- What the handler makes of the result of its operation. -/
def DriverCall.replyTo (c : DriverCall) : BoardResult → DriverReply
  | .done => .status ⟨0, 0⟩
  | .online ibsta => .status ⟨ibsta, 0⟩
  | .opened handle s => .opened handle s
  | .status s => .status s
  | .asked value s => .asked value s
  | .counted s => .counted s
  | .read r =>
      match c with
      | read _ requestCount => Libgpib.readReply requestCount r
      | _ => .counted r.toCountStatus
  | .polled r => .polled r.1 r.2
  | .listener r => .listener r.1 r.2
  | .lines r => .lines r.1 r.2
  | .diag rc raw => .lines (if rc = 0 then 0x8000 ||| raw.toUInt16 else 0) ⟨0x0100, rc⟩

section Perform

variable {b b' : GPIBBoard} {fuel : Nat} {u : BoardTrace} {c : DriverCall} {out : DriverReply}

theorem map_reporting {α ρ ρ' : Type} (f : ρ → ρ') (report : α → ρ)
    (op : BoardState → BoardCalls (α × BoardState)) :
    (Option.map fun r : ρ × GPIBBoard => (f r.1, r.2)) <$> b.reporting report op =
      b.reporting (fun a => f (report a)) op := by
  simp only [GPIBBoard.reporting, map_eq_pure_bind, bind_assoc, pure_bind, Option.map_some]

/-- The diagnostics of `handleLineStatus` end in `diagReply`. -/
theorem reporting_lineStatus (handle : Int) :
    b.reporting (fun r : UInt16 × Status => DriverReply.lines r.1 r.2)
        (UserClient.lineStatus anyTransport handle) =
      (Option.map fun r => ((DriverCall.lineStatus handle).replyTo r.1, r.2)) <$>
        b.perform anyTransport anyUptime fuel (lineStatusOp handle) := by
  unfold lineStatusOp
  simp only [GPIBBoard.reporting, GPIBBoard.onBus, UserClient.lineStatus]
  split_ifs with h₁ h₂ h₃ h₄ h₅ h₆
  · simp only [GPIBBoard.perform, GPIBBoard.reporting, GPIBBoard.onBus, diagReply,
      map_eq_pure_bind, bind_assoc, pure_bind, Option.map_some]
    rfl
  · simp only [GPIBBoard.perform, GPIBBoard.diagnosing, diagReply, map_eq_pure_bind, bind_assoc,
      pure_bind, Option.map_some]
    rfl
  · simp only [GPIBBoard.perform, GPIBBoard.diagnosing, diagReply, map_eq_pure_bind, bind_assoc,
      pure_bind, Option.map_some]
    rfl
  · simp only [GPIBBoard.perform, GPIBBoard.diagnosing, diagReply, map_eq_pure_bind, bind_assoc,
      pure_bind, Option.map_some]
    rfl
  · rw [GPIBBoard.perform, GPIBBoard.readRawRegisterDiag, if_pos h₆]
    rfl
  · rw [GPIBBoard.perform, GPIBBoard.readRawRegisterDiag, if_neg h₆]
    simp only [diagReply, map_eq_pure_bind, bind_assoc, pure_bind, Option.map_some]
    rfl
  · simp only [GPIBBoard.perform, GPIBBoard.reporting, GPIBBoard.onBus, map_eq_pure_bind,
      bind_assoc, pure_bind, Option.map_some]
    rfl

/-- A call that reports the result of its operation. -/
theorem dispatch_of_reporting {α : Type} {report : α → DriverReply} {result : α → BoardResult}
    {op : BoardState → BoardCalls (α × BoardState)}
    (hdispatch : dispatch anyTransport b anyUptime fuel c = b.reporting report op)
    (hperform : b.perform anyTransport anyUptime fuel c.op = b.reporting result op)
    (hreply : ∀ a, report a = c.replyTo (result a)) :
    dispatch anyTransport b anyUptime fuel c =
      (Option.map fun r => (c.replyTo r.1, r.2)) <$>
        b.perform anyTransport anyUptime fuel c.op := by
  rw [hdispatch, hperform, map_reporting, funext hreply]

/-- The handlers of the user client add nothing to the operations of the board. -/
theorem dispatch_eq_perform (c : DriverCall) :
    dispatch anyTransport b anyUptime fuel c =
      (Option.map fun r => (c.replyTo r.1, r.2)) <$>
        b.perform anyTransport anyUptime fuel c.op := by
  cases c with
  | boardOnline online =>
      exact dispatch_of_reporting (reports_boardOnline online b fuel) rfl fun _ => rfl
  | openDescriptor i => rfl
  | closeDescriptor handle => rfl
  | configure handle key value => rfl
  | write handle sendEoi data =>
      exact dispatch_of_reporting (reports_write handle sendEoi data b fuel) rfl fun _ => rfl
  | read handle requestCount =>
      exact dispatch_of_reporting (reports_read handle requestCount b fuel) rfl fun _ => rfl
  | deviceClear handle =>
      exact dispatch_of_reporting (reports_deviceClear handle b fuel) rfl fun _ => rfl
  | interfaceClear handle =>
      exact dispatch_of_reporting (some_map_onBus _ DriverReply.status) rfl fun _ => rfl
  | remoteEnable handle enable =>
      exact dispatch_of_reporting (some_map_onBus _ DriverReply.status) rfl fun _ => rfl
  | wait handle mask timeoutUs =>
      simp only [dispatch, DriverCall.op, GPIBBoard.perform, map_eq_pure_bind, bind_assoc,
        pure_bind, Option.map_map]
      rfl
  | ask handle option => rfl
  | serialPoll handle =>
      exact dispatch_of_reporting (reports_serialPoll handle b fuel) rfl fun _ => rfl
  | trigger handle =>
      exact dispatch_of_reporting (reports_trigger handle b fuel) rfl fun _ => rfl
  | goToLocal handle =>
      exact dispatch_of_reporting (some_map_onBus _ DriverReply.status) rfl fun _ => rfl
  | localLockout handle =>
      exact dispatch_of_reporting (some_map_onBus _ DriverReply.status) rfl fun _ => rfl
  | lineStatus handle => exact (some_map_onBus _ _).trans (reporting_lineStatus handle)
  | listenerPresent handle pad sad =>
      exact dispatch_of_reporting (reports_listenerPresent handle pad sad b fuel) rfl fun _ => rfl
  | sendCommand handle data =>
      exact dispatch_of_reporting (reports_sendCommand handle data b fuel) rfl fun _ => rfl

/-- Every dispatched call is one public operation of the board. -/
theorem performs_of_dispatch {c : DriverCall}
    (hrun : Run (dispatch anyTransport b anyUptime fuel c) u (some (out, b'))) :
    ∃ r, b.Performs ⟨c.op, u, r⟩ b' ∧ out = c.replyTo r := by
  rw [dispatch_eq_perform] at hrun
  obtain ⟨o, ho, heq⟩ := run_map_iff.mp hrun
  obtain ⟨⟨r, b₁⟩, rfl, heq⟩ := Option.map_eq_some_iff.mp heq.symm
  cases heq
  exact ⟨r, ⟨fuel, ho⟩, rfl⟩

end Perform

end DarwinGpib
