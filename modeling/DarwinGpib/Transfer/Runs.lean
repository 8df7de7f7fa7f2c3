import DarwinGpib.Model.NiUsb
import DarwinGpib.Model.Agilent82357
import DarwinGpib.Transfer.KusbControl

/-!
# Runs of the transfer primitives

Which exchanges with the USB stack lie behind a successful bulk or control transfer.
-/

namespace DarwinGpib

open Interaction

namespace Usb

variable {α : Type} {u : Trace}

@[simp] theorem not_run_overrun {a : α} : ¬ Run (overrun : Usb α) u a := by
  intro h
  obtain ⟨r, -⟩ := run_ask_iff.mp h
  exact r.elim

@[simp] theorem not_run_outOfFuel {a : α} : ¬ Run (outOfFuel : Usb α) u a := by
  intro h
  obtain ⟨r, -⟩ := run_ask_iff.mp h
  exact r.elim

@[simp] theorem run_checked_iff {x : Option α} {a : α} :
    Run (checked x) u a ↔ u = [] ∧ x = some a := by
  cases x with
  | none => simp [checked]
  | some b => simp [checked, eq_comm]

@[simp] theorem run_copyTo_iff {room : Nat} {bytes bytes' : List UInt8} :
    Run (copyTo room bytes) u bytes' ↔ u = [] ∧ bytes.length ≤ room ∧ bytes' = bytes := by
  rw [copyTo, run_ite_iff]
  simp only [run_pure_iff, not_run_overrun, and_false, or_false]
  tauto

theorem run_checked_bind_iff {β : Type} {x : Option α} {f : α → Usb β} {b : β} :
    Run (checked x >>= f) u b ↔ ∃ a, x = some a ∧ Run (f a) u b := by
  cases x with
  | none =>
      simp only [run_bind_iff, run_checked_iff]
      simp
  | some a => simp [checked]

theorem run_copyTo_bind_iff {β : Type} {room : Nat} {bytes : List UInt8}
    {f : List UInt8 → Usb β} {b : β} :
    Run (copyTo room bytes >>= f) u b ↔ bytes.length ≤ room ∧ Run (f bytes) u b := by
  rw [copyTo]
  split
  · simp [*]
  · simp only [run_bind_iff, not_run_overrun, false_and, and_false, exists_false, *]

theorem run_keeping_iff {τ : Type} {op : τ → Usb α} {t t' : τ} {a : α} :
    Run ((keeping op).run t) u (a, t') ↔ Run (op t) u a ∧ t' = t := by
  simp only [keeping, StateT.run, run_bind_iff, run_pure_iff, Prod.mk.injEq]
  constructor
  · rintro ⟨v, b, w, rfl, hv, rfl, rfl, rfl⟩
    exact ⟨by simpa using hv, rfl⟩
  · rintro ⟨h, rfl⟩
    exact ⟨u, a, [], by simp, h, rfl, rfl, rfl⟩

/-- A bulk-out that went through. -/
def sent (pipe : Pipe) (bytes : List UInt8) (timeoutMs : Nat)
    (accepted : Fin (bytes.length + 1)) : Exchange Request.Reply :=
  ⟨.pipeOut pipe bytes timeoutMs, ⟨.success, accepted⟩⟩

/-- A bulk-in that delivered `bytes`. -/
def received (pipe : Pipe) (capacity timeoutMs : Nat) (bytes : List UInt8)
    (h : bytes.length ≤ capacity) : Exchange Request.Reply :=
  ⟨.pipeIn pipe capacity timeoutMs, ⟨.success, bytes, h⟩⟩

/-- A buffer that could be mapped. -/
def mapped : Exchange Request.Reply := ⟨.map, .success⟩

end Usb

/-! ## Transfers without bad requests -/

section Sending

variable {bad : Usb.Request → Prop}

theorem NIUSBTransport.ensures_bulkOut (t : NIUSBTransport) {bytes : List UInt8}
    {timeoutUs : Nat} (hmap : ¬ bad .map)
    (hout : ¬ bad (.pipeOut .bulkOut bytes (usbTimeoutMs timeoutUs))) :
    Ensures bad (t.bulkOut bytes timeoutUs) fun _ => True := by
  unfold bulkOut
  refine ensures_ite (fun _ => ensures_pure trivial) fun _ => ?_
  refine ensures_ite (fun _ => ensures_pure trivial) fun _ => ?_
  refine ensures_call_bind hmap fun ret => ?_
  refine ensures_ite (fun _ => ensures_pure trivial) fun _ => ?_
  exact ensures_call_bind hout fun io => ensures_pure trivial

theorem NIUSBTransport.ensures_bulkIn_of (t : NIUSBTransport) {capacity timeoutUs : Nat}
    (hmap : ¬ bad .map)
    (hin : ¬ bad (.pipeIn .bulkIn (min capacity kBulkBufferSize) (usbTimeoutMs timeoutUs))) :
    Ensures bad (t.bulkIn capacity timeoutUs) fun r => r.2.length ≤ capacity := by
  unfold bulkIn
  refine ensures_ite (fun _ => ensures_pure (Nat.zero_le _)) fun _ => ?_
  refine ensures_call_bind hin fun io => ?_
  refine ensures_ite (fun _ => ensures_pure (Nat.zero_le _)) fun _ => ?_
  refine ensures_call_bind hmap fun ret => ?_
  refine ensures_ite (fun _ => ensures_pure (Nat.zero_le _)) fun _ => ?_
  have hlen : io.bytes.length ≤ capacity := Nat.le_trans io.length_le (Nat.min_le_left _ _)
  refine ensures_bind (Usb.ensures_copyTo hlen) fun bytes hbytes => ensures_pure ?_
  rw [hbytes]
  exact hlen

theorem Agilent82357Transport.ensures_bulkOut (t : Agilent82357Transport) {bytes : List UInt8}
    {timeoutUs : Nat} (hmap : ¬ bad .map)
    (hout : ¬ bad (.pipeOut .bulkOut bytes (msFromUsec timeoutUs))) :
    Ensures bad (t.bulkOut bytes timeoutUs) fun _ => True := by
  unfold bulkOut
  refine ensures_ite (fun _ => ensures_pure trivial) fun _ => ?_
  refine ensures_ite (fun _ => ensures_pure trivial) fun _ => ?_
  refine ensures_call_bind hmap fun ret => ?_
  refine ensures_ite (fun _ => ensures_pure trivial) fun _ => ?_
  refine ensures_call_bind hout fun io => ?_
  exact ensures_ite (fun _ => ensures_pure trivial) fun _ => ensures_pure trivial

section Abort

variable (hbad : ∀ i, bad i → i.OverPipe)

include hbad

/-- An abort makes control transfers only. -/
theorem Agilent82357Transport.ensures_sendAbort (t : Agilent82357Transport) (flush : Bool) :
    Ensures bad (t.sendAbort flush) fun _ => True := by
  unfold sendAbort
  refine ensures_ite (fun _ => ensures_pure trivial) fun _ => ?_
  refine ensures_call_bind (hbad _) fun ret => ?_
  refine ensures_ite (fun _ => ensures_pure trivial) fun _ => ?_
  refine ensures_call_bind (hbad _) fun io => ?_
  refine ensures_ite (fun _ => ensures_pure trivial) fun hio => ?_
  refine ensures_call_bind (hbad _) fun ret' => ?_
  refine ensures_ite (fun _ => ensures_pure trivial) fun _ => ?_
  have hlen : 2 ≤ io.bytes.length := by
    by_contra h
    exact hio (.inr (by omega))
  have h₀ : 0 < io.bytes.length := by omega
  have h₁ : 1 < io.bytes.length := by omega
  exact Usb.ensures_checked (by simp [h₀, h₁])

end Abort

section BulkOut

variable {pipe : Pipe} (hmap : ¬ bad .map) (hfuel : ¬ bad .outOfFuel)
  (hout : ∀ data timeoutMs, ¬ bad (.pipeOut pipe data timeoutMs))

include hmap hfuel hout

theorem KUSB488BTransport.ensures_bulkOutLoop (timeoutMs fuel : Nat) (rest : List UInt8) :
    Ensures bad (bulkOutLoop pipe timeoutMs fuel rest) fun _ => True := by
  induction fuel generalizing rest with
  | zero => exact ⟨avoids_ask_iff.mpr ⟨hfuel, fun r => r.elim⟩, fun _ _ _ => trivial⟩
  | succ fuel ih =>
      unfold bulkOutLoop
      refine ensures_ite (fun _ => ensures_pure trivial) fun _ => ?_
      refine ensures_call_bind hmap fun kr => ?_
      refine ensures_ite (fun _ => ensures_pure trivial) fun _ => ?_
      refine ensures_call_bind (hout _ _) fun io => ?_
      refine ensures_ite (fun _ => ensures_pure trivial) fun _ => ?_
      exact ensures_ite (fun _ => ensures_pure trivial) fun _ => ih _

theorem KUSB488BTransport.ensures_bulkOut (t : KUSB488BTransport) (hasPipe : Bool)
    (bytes : List UInt8) (timeoutUs : Nat) :
    Ensures bad (t.bulkOut pipe hasPipe bytes timeoutUs) fun _ => True := by
  unfold bulkOut
  refine ensures_ite (fun _ => ensures_pure trivial) fun _ => ?_
  exact ensures_bulkOutLoop hmap hfuel hout _ _ _

end BulkOut

end Sending

/-! ## NI -/

namespace NIUSBTransport

/-- A transport with its pipes and buffers. -/
def attached : NIUSBTransport :=
  { bulkOutPipe := true, bulkInPipe := true, outBuffer := true, inBuffer := true }

theorem eq_attached {t : NIUSBTransport} (hout : t.bulkOutPipe = true)
    (hin : t.bulkInPipe = true) (houtBuffer : t.outBuffer = true)
    (hinBuffer : t.inBuffer = true) : t = attached := by
  cases t
  simp_all [attached]

variable {t : NIUSBTransport} {u : Usb.Trace}

theorem run_bulkOut_ok_iff {bytes : List UInt8} {timeoutUs : Nat} :
    Run (t.bulkOut bytes timeoutUs) u .ok ↔
      t.bulkOutPipe = true ∧ t.outBuffer = true ∧ bytes.length ≤ kBulkBufferSize ∧
        ∃ accepted,
          u = [Usb.mapped, Usb.sent .bulkOut bytes (usbTimeoutMs timeoutUs) accepted] := by
  unfold bulkOut
  simp only [run_ite_iff, run_pure_iff, run_call_bind_iff]
  constructor
  · rintro (⟨-, -, h⟩ | ⟨hpipe, ⟨-, -, h⟩ | ⟨hlen, r, v, rfl, ⟨hr, -, h⟩ |
      ⟨hr, io, w, rfl, rfl, h⟩⟩⟩)
    · cases h
    · cases h
    · exact absurd (mapIOReturn_eq_ok_iff.mp h.symm) hr
    · obtain rfl : r = .success := by simpa using hr
      obtain ⟨status, accepted⟩ := io
      obtain rfl : status = .success := mapIOReturn_eq_ok_iff.mp h.symm
      simp only [Bool.or_eq_true, Bool.not_eq_true', not_or, Bool.not_eq_false] at hpipe
      exact ⟨hpipe.1, hpipe.2, by omega, accepted, rfl⟩
  · rintro ⟨hpipe, hbuf, hlen, accepted, rfl⟩
    refine .inr ⟨by simp [hpipe, hbuf], .inr ⟨by omega, .success, _, rfl, .inr ⟨by simp, ?_⟩⟩⟩
    exact ⟨⟨.success, accepted⟩, [], rfl, rfl, rfl⟩

theorem run_bulkIn_ok_iff {capacity timeoutUs : Nat} {bytes : List UInt8} :
    Run (t.bulkIn capacity timeoutUs) u (.ok, bytes) ↔
      t.bulkInPipe = true ∧ t.inBuffer = true ∧
        ∃ h, u = [Usb.received .bulkIn (min capacity kBulkBufferSize) (usbTimeoutMs timeoutUs)
          bytes h, Usb.mapped] := by
  unfold bulkIn
  simp only [run_ite_iff, run_pure_iff, run_call_bind_iff, Usb.run_copyTo_bind_iff,
    Prod.mk.injEq]
  constructor
  · rintro (⟨-, -, h, -⟩ | ⟨hpipe, io, v, rfl, ⟨hio, -, h, -⟩ | ⟨hio, r, w, rfl,
      ⟨hr, -, h, -⟩ | ⟨hr, -, rfl, -, rfl⟩⟩⟩)
    · cases h
    · exact absurd (mapIOReturn_eq_ok_iff.mp h.symm) hio
    · exact absurd (mapIOReturn_eq_ok_iff.mp h.symm) hr
    · obtain ⟨status, bytes, hlen⟩ := io
      obtain rfl : status = .success := by simpa using hio
      obtain rfl : r = .success := by simpa using hr
      simp only [Bool.or_eq_true, Bool.not_eq_true', not_or, Bool.not_eq_false] at hpipe
      exact ⟨hpipe.1, hpipe.2, hlen, rfl⟩
  · rintro ⟨hpipe, hbuf, hlen, rfl⟩
    refine .inr ⟨by simp [hpipe, hbuf], ⟨.success, bytes, hlen⟩, _, rfl, .inr ⟨by simp, ?_⟩⟩
    exact ⟨.success, [], rfl, .inr
      ⟨by simp, Nat.le_trans hlen (Nat.min_le_left _ _), rfl, trivial, rfl⟩⟩

end NIUSBTransport

/-! ## Agilent -/

namespace Agilent82357Transport

/-- A transport with its pipes, buffers and handles. -/
def attached : Agilent82357Transport := ⟨true, true, true, true, true, true⟩

variable {t : Agilent82357Transport} {u : Usb.Trace}

theorem run_bulkOut_ok_iff {bytes : List UInt8} {timeoutUs : Nat} :
    Run (t.bulkOut bytes timeoutUs) u .ok ↔
      t.bulkOutPipe = true ∧ t.outBuffer = true ∧ bytes.length ≤ kBulkBufferSize ∧
        u = [Usb.mapped,
          Usb.sent .bulkOut bytes (msFromUsec timeoutUs) (Fin.last bytes.length)] := by
  unfold bulkOut
  simp only [run_ite_iff, run_pure_iff, run_call_bind_iff]
  constructor
  · rintro (⟨-, -, h⟩ | ⟨hpipe, ⟨-, -, h⟩ | ⟨hlen, r, v, rfl, ⟨hr, -, h⟩ |
      ⟨hr, io, w, rfl, ⟨hio, -, h⟩ | ⟨hio, rfl, h⟩⟩⟩⟩)
    · cases h
    · cases h
    · exact absurd (mapIOReturn_eq_ok_iff.mp h.symm) hr
    · exact absurd (mapIOReturn_eq_ok_iff.mp h.symm) hio
    · obtain rfl : r = .success := by simpa using hr
      obtain ⟨status, accepted⟩ := io
      obtain rfl : status = .success := by simpa using hio
      obtain rfl : accepted = Fin.last bytes.length := by
        apply Fin.ext
        by_contra hne
        have herr : GPIBTransportError.ok = .errIo := h.trans (if_neg hne)
        cases herr
      simp only [Bool.or_eq_true, Bool.not_eq_true', not_or, Bool.not_eq_false] at hpipe
      exact ⟨hpipe.1, hpipe.2, by omega, rfl⟩
  · rintro ⟨hpipe, hbuf, hlen, rfl⟩
    refine .inr ⟨by simp [hpipe, hbuf], .inr ⟨by omega, .success, _, rfl, .inr ⟨by simp, ?_⟩⟩⟩
    exact ⟨⟨.success, Fin.last bytes.length⟩, [], rfl, .inr ⟨by simp, rfl, by simp⟩⟩

end Agilent82357Transport

/-! ## Bytes that a pipe took -/

namespace Usb

/-- The bytes that a bulk-out to `pipe` took. -/
def acceptedBy (pipe : Pipe) : Exchange Request.Reply → List UInt8
  | ⟨.pipeOut p data _, r⟩ =>
      if p = pipe ∧ r.status = .success then data.take r.transferred.val else []
  | _ => []

/-- The bytes that bulk-outs to `pipe` took, in order. -/
def accepted (pipe : Pipe) (u : Trace) : List UInt8 := u.flatMap (acceptedBy pipe)

variable {α : Type}

@[simp] theorem accepted_nil (pipe : Pipe) : accepted pipe [] = [] :=
  rfl

@[simp] theorem accepted_append (pipe : Pipe) (u v : Trace) :
    accepted pipe (u ++ v) = accepted pipe u ++ accepted pipe v :=
  List.flatMap_append

/-- Nothing is taken where nothing is sent. -/
theorem accepted_eq_nil {pipe : Pipe} {u : Trace}
    (h : ∀ e ∈ u, ¬ e.request.Outbound) : accepted pipe u = [] := by
  apply List.flatMap_eq_nil_iff.mpr
  intro e he
  obtain ⟨i, r⟩ := e
  cases i with
  | pipeOut p data timeoutMs => exact absurd trivial (h _ he)
  | _ => rfl

/-- A program that sends nothing hands nothing over. -/
theorem leaves_quiet {p : Usb α} {Q : α → Prop} (h : Ensures Request.Outbound p Q)
    (pipe : Pipe) : Leaves p fun u a => accepted pipe u = [] ∧ Q a :=
  h.leaves.mono fun _ _ hu => ⟨accepted_eq_nil hu.1, hu.2⟩

end Usb

end DarwinGpib
