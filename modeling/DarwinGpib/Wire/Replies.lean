import DarwinGpib.Client.Bench
import DarwinGpib.Wire.Calls

/-!
# Replies survive the wire

While transports report no more than their types and buffers hold, the reply to every call fits
the structure of that call, and the library reads it back as the board gave it.
-/

namespace DarwinGpib

open Interaction UserClient Libgpib

/-! ## Replies that fit -/

/-- The calls that are answered by a status alone. -/
def DriverCall.givesStatus : DriverCall → Bool
  | boardOnline _ | closeDescriptor _ | configure _ _ _ | deviceClear _ | interfaceClear _
  | remoteEnable _ _ | wait _ _ _ | trigger _ | goToLocal _ | localLockout _ => true
  | _ => false

/-- A reply of the kind of the call, whose numbers fit their fields. -/
inductive DriverCall.RepliedBy : DriverCall → DriverReply → Prop where
  | status {c s} (h : givesStatus c = true) : RepliedBy c (.status s)
  | opened {i handle s} (h : IsInt32 handle) : RepliedBy (.openDescriptor i) (.opened handle s)
  | written {handle sendEoi data s} (h : s.ibcnt < 2 ^ 32) :
      RepliedBy (.write handle sendEoi data) (.counted s)
  | sent {handle data s} (h : s.ibcnt < 2 ^ 32) :
      RepliedBy (.sendCommand handle data) (.counted s)
  | read {handle n s endFlag data} (hle : s.ibcnt ≤ n) (hdata : data.length = s.ibcnt) :
      RepliedBy (.read handle n) (.read s endFlag data (sizeofReadOut + s.ibcnt))
  | asked {handle option value s} : RepliedBy (.ask handle option) (.asked value s)
  | polled {handle statusByte s} : RepliedBy (.serialPoll handle) (.polled statusByte s)
  | listener {handle pad sad present s} :
      RepliedBy (.listenerPresent handle pad sad) (.listener present s)
  | lines {handle lineStatus s} : RepliedBy (.lineStatus handle) (.lines lineStatus s)

/-! ## What is read back -/

variable {c : DriverCall} {out : DriverReply}

theorem overlaid_encode {α : Type} (f : Layout α) (a : α) (rest : List UInt8) :
    overlaid f (f.encode a ++ rest) = some a := by
  rw [overlaid, List.append_assoc, f.decode_encode_append]

theorem overlaid_encode_self {α : Type} (f : Layout α) (a : α) :
    overlaid f (f.encode a) = some a := by
  rw [overlaid, f.decode_encode_append]

/-- The reply fits the structure that was offered for it. -/
theorem length_output_le (h : c.RepliedBy out) : out.output.length ≤ c.outSize := by
  cases h with
  | status h =>
      cases c <;> first | exact (Layout.length_encode _ _).le | cases h
  | read hle hdata =>
      rw [DriverReply.output, List.length_append, Layout.length_encode, DriverCall.outSize]
      omega
  | _ => exact (Layout.length_encode _ _).le

/-- The library reads back what the board replied. -/
theorem replyIn_output (h : c.RepliedBy out) (hc : c.Representable) :
    replyIn c out.output = some out := by
  cases h with
  | status h =>
      cases c <;> first
        | cases h; done
        | simp only [replyIn, DriverReply.output, overlaid_encode_self, Option.map_some]
  | opened h => simp [replyIn, DriverReply.output, overlaid_encode_self, h]
  | written h | sent h =>
      simp [replyIn, DriverReply.output, overlaid_encode_self, toNat_ofNat_of_lt h]
  | @read handle n s endFlag data hle hdata =>
      have hcnt : (UInt32.ofNat s.ibcnt).toNat = s.ibcnt :=
        toNat_ofNat_of_lt (Nat.lt_of_le_of_lt hle hc.2)
      have hend : decide ((if endFlag then 1 else 0 : UInt32) ≠ 0) = endFlag := by
        cases endFlag <;> decide
      simp only [replyIn, DriverReply.output, overlaid_encode, Option.map_some, hcnt, hend,
        Layout.drop_encode_append, List.take_of_length_le hdata.le]
      rfl
  | asked => simp [replyIn, DriverReply.output, overlaid_encode_self]
  | polled => simp [replyIn, DriverReply.output, overlaid_encode_self]
  | @listener handle pad sad present s =>
      cases present <;> simp [replyIn, DriverReply.output, overlaid_encode_self]
  | lines => simp [replyIn, DriverReply.output, overlaid_encode_self]

/-! ## What boards reply -/

/-- A write reports a number that its type holds; a read stores and reports no more than it was
asked for. -/
def WithinBounds : Exchange BoardRequest.Reply → Prop
  | ⟨.writeData _ _ _, (r : WriteResult)⟩ => r.bytesWritten < 2 ^ 32
  | ⟨.readData n _ _ _, (r : ReadResult)⟩ => r.buf.length ≤ n ∧ r.bytesRead ≤ n
  | _ => True

/-- While its transport stays within bounds, an operation returns only results satisfying `Q`. -/
abbrev Bounded {α : Type} (p : BoardCalls α) (Q : α → Prop) : Prop :=
  Meets (fun (_ : Unit) e _ => WithinBounds e) (fun _ => True) p fun a _ => Q a

theorem Bounded.of_run {α : Type} {p : BoardCalls α} {Q : α → Prop} (h : Bounded p Q)
    {u : BoardTrace} {a : α} (hrun : Run p u a) (hu : ∀ e ∈ u, WithinBounds e) : Q a :=
  h () u a () trivial hrun (serves_of_forall hu)

theorem bounded_pure {α : Type} {a : α} {Q : α → Prop} (h : Q a) :
    Bounded (pure a : BoardCalls α) Q :=
  meets_pure fun _ _ => h

theorem bounded_bind {α β : Type} {p : BoardCalls α} {f : α → BoardCalls β} {Q : β → Prop}
    (hf : ∀ a, Bounded (f a) Q) : Bounded (p >>= f) Q :=
  meets_bind (fun _ _ _ _ _ _ _ => trivial) hf

theorem bounded_write (desc : Option GPIBDescriptor) (buf : List UInt8) (sendEoi : Bool)
    (s : BoardState) :
    Bounded (BoardState.write anyTransport desc buf sendEoi s) fun r => r.1.ibcnt < 2 ^ 32 := by
  have hzero : 0 < 2 ^ 32 := by decide
  cases desc with
  | none => exact bounded_pure hzero
  | some d =>
      unfold BoardState.write
      refine meets_ite (fun _ => bounded_pure hzero) fun _ => ?_
      refine meets_ite (fun _ => bounded_pure hzero) fun _ => ?_
      refine bounded_bind fun outcome => ?_
      obtain ⟨failure, s⟩ := outcome
      cases failure with
      | some status => exact bounded_pure hzero
      | none =>
          refine meets_bind (meets_call fun _ _ _ _ h => h) fun r => ?_
          exact meets_ite (fun _ => meets_pure fun _ h => h) fun _ => meets_pure fun _ h => h

theorem bounded_read (desc : Option GPIBDescriptor) (n : Nat) (s : BoardState) :
    Bounded (BoardState.read anyTransport desc n s) fun r =>
      r.1.data.length ≤ n ∧ r.1.ibcnt ≤ n := by
  have hnone : ([] : List UInt8).length ≤ n ∧ 0 ≤ n := ⟨Nat.zero_le n, Nat.zero_le n⟩
  cases desc with
  | none => exact bounded_pure hnone
  | some d =>
      unfold BoardState.read
      refine meets_ite (fun _ => bounded_pure hnone) fun _ => ?_
      refine meets_ite (fun _ => bounded_pure hnone) fun _ => ?_
      refine bounded_bind fun outcome => ?_
      obtain ⟨failure, s⟩ := outcome
      cases failure with
      | some status => exact bounded_pure hnone
      | none =>
          refine meets_bind (meets_call fun _ _ _ _ h => h) fun r => ?_
          exact meets_ite (fun _ => meets_pure fun _ h => h) fun _ => meets_pure fun _ h => h

theorem bounded_sendCommands {cmds : List UInt8} (h : cmds.length < 2 ^ 32) (s : BoardState) :
    Bounded (BoardState.sendCommands anyTransport cmds s) fun r => r.1.ibcnt < 2 ^ 32 := by
  have hzero : 0 < 2 ^ 32 := by decide
  unfold BoardState.sendCommands
  refine meets_ite (fun _ => bounded_pure hzero) fun _ => ?_
  refine bounded_bind fun rc => ?_
  exact meets_ite (fun _ => bounded_pure hzero) fun _ => bounded_pure h

section Dispatch

variable {b b' : GPIBBoard} {fuel : Nat} {u : BoardTrace}

/-- Handlers that report a status alone. -/
theorem run_handleStatus {op : BoardState → BoardCalls (Status × BoardState)}
    (hrun : Run (some <$> handleStatus b op : BoardCalls _) u (some (out, b'))) :
    ∃ s, out = .status s := by
  obtain ⟨r, hr, heq⟩ := run_map_iff.mp hrun
  obtain ⟨v, a, w, -, -, hw⟩ := run_bind_iff.mp hr
  obtain ⟨-, rfl⟩ := run_pure_iff.mp hw
  cases heq
  exact ⟨_, rfl⟩

theorem run_reports {α : Type} {report : α → DriverReply}
    {op : GPIBBoard → BoardState → BoardCalls (α × BoardState)} (h : Reports c report op)
    (hrun : Run (dispatch anyTransport b anyUptime fuel c) u (some (out, b'))) :
    ∃ a s, Run (op b b.state) u (a, s) ∧ out = report a := by
  rw [h b fuel] at hrun
  obtain ⟨a, s, ha, hout, -⟩ := GPIBBoard.run_reporting_iff.mp hrun
  exact ⟨a, s, ha, hout⟩

/-- A board within bounds gives every call a reply of its kind that fits. -/
theorem repliedBy_of_run (hc : c.Representable) (hu : ∀ e ∈ u, WithinBounds e)
    (hrun : Run (dispatch anyTransport b anyUptime fuel c) u (some (out, b'))) :
    c.RepliedBy out := by
  cases c with
  | boardOnline online =>
      obtain ⟨a, s, -, rfl⟩ := run_reports (reports_boardOnline online) hrun
      exact .status rfl
  | openDescriptor i =>
      obtain ⟨heffect, -⟩ := run_openDescriptor hrun
      rcases heffect.opened with ⟨handle, s, rfl, hmem, -⟩ | ⟨⟨s, rfl⟩, -⟩
      · exact .opened (toInt_ofInt_handle hmem)
      · exact .opened (by decide)
  | closeDescriptor handle =>
      obtain ⟨-, heq⟩ := run_pure_iff.mp hrun
      cases heq
      exact .status rfl
  | configure handle key value =>
      obtain ⟨-, heq⟩ := run_pure_iff.mp hrun
      cases heq
      exact .status rfl
  | ask handle option =>
      obtain ⟨-, heq⟩ := run_pure_iff.mp hrun
      cases heq
      exact .asked
  | write handle sendEoi data =>
      obtain ⟨a, s, ha, rfl⟩ := run_reports (reports_write handle sendEoi data) hrun
      exact .written ((bounded_write _ _ _ _).of_run ha hu)
  | read handle n =>
      obtain ⟨a, s, ha, rfl⟩ := run_reports (reports_read handle n) hrun
      obtain ⟨hdata, hcnt⟩ : a.data.length ≤ clampedRequest n ∧ a.ibcnt ≤ clampedRequest n :=
        (bounded_read _ _ _).of_run ha hu
      refine .read (hcnt.trans (Nat.min_le_left _ _)) ?_
      rw [List.length_take, List.length_append, List.length_replicate]
      omega
  | sendCommand handle data =>
      obtain ⟨a, s, ha, rfl⟩ := run_reports (reports_sendCommand handle data) hrun
      exact .sent ((bounded_sendCommands hc.2 _).of_run ha hu)
  | serialPoll handle =>
      obtain ⟨a, s, -, rfl⟩ := run_reports (reports_serialPoll handle) hrun
      exact .polled
  | listenerPresent handle pad sad =>
      obtain ⟨a, s, -, rfl⟩ := run_reports (reports_listenerPresent handle pad sad) hrun
      exact .listener
  | lineStatus handle =>
      obtain ⟨r, hr, heq⟩ := run_map_iff.mp hrun
      obtain ⟨v, a, w, -, -, hw⟩ := run_bind_iff.mp hr
      obtain ⟨-, rfl⟩ := run_pure_iff.mp hw
      cases heq
      exact .lines
  | wait handle mask timeoutUs =>
      obtain ⟨v, r, w, -, -, hw⟩ := run_bind_iff.mp hrun
      obtain ⟨-, heq⟩ := run_pure_iff.mp hw
      obtain ⟨a, -, heq⟩ := Option.map_eq_some_iff.mp heq.symm
      cases heq
      exact .status rfl
  | deviceClear handle | interfaceClear handle | remoteEnable handle enable | trigger handle
  | goToLocal handle | localLockout handle =>
      obtain ⟨s, rfl⟩ := run_handleStatus hrun
      exact .status rfl

end Dispatch

end DarwinGpib
