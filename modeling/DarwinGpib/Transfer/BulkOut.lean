import DarwinGpib.Transfer.Runs

/-!
# Bulk-outs

A bulk-out hands bytes to a pipe that may take any first part of what it is offered. The KUSB-488B
goes on with the rest and the Agilent compares the counts, so that `ok` means that all bytes were
taken. The NI transport does not look at the count.
-/

namespace DarwinGpib

open Interaction

namespace Usb

/-- A bulk-out of `bytes` during which the pipe took `passed`: the bytes are taken in order, and
all of them if the result is `ok`. -/
structure AllOrError (bytes passed : List UInt8) (rc : GPIBTransportError) : Prop where
  in_order : passed <+: bytes
  whole : rc = .ok → passed = bytes

/-- The bytes that a bulk-out passed on, whether it ended well or not. -/
def passedBy : Exchange Request.Reply → List UInt8
  | ⟨.pipeOut _ data _, io⟩ => data.take io.transferred.val
  | _ => []

/-- The bytes that the pipes took, in order. -/
def passed (u : Trace) : List UInt8 := u.flatMap passedBy

/-- A bulk-out that ends well without having passed on all that it was offered. -/
def IsShort : Exchange Request.Reply → Prop
  | ⟨.pipeOut _ data _, io⟩ => io.status = .success ∧ io.transferred.val ≠ data.length
  | _ => False

/-- A program that neither leaves an array nor loops for ever, whatever the replies are. -/
def Terminates {α : Type} (p : Usb α) : Prop :=
  Avoids (fun i => i = .overrun ∨ i = .outOfFuel) p

/-- What counts the bytes of bulk-outs to `pipe`: those that a bulk-out which ends well has passed
on, and of another one none that it was not offered. -/
structure Counts (pipe : Pipe) (obs : Exchange Request.Reply → List UInt8) : Prop where
  map : ∀ ret, obs ⟨.map, ret⟩ = []
  pipeOut : ∀ data timeoutMs io, obs ⟨.pipeOut pipe data timeoutMs, io⟩ <+: data
  of_success : ∀ data timeoutMs io, io.status = .success →
    obs ⟨.pipeOut pipe data timeoutMs, io⟩ = data.take io.transferred.val

theorem counts_passedBy (pipe : Pipe) : Counts pipe passedBy where
  map _ := rfl
  pipeOut _ _ _ := List.take_prefix _ _
  of_success _ _ _ _ := rfl

theorem counts_acceptedBy (pipe : Pipe) : Counts pipe (acceptedBy pipe) where
  map _ := rfl
  pipeOut data timeoutMs io := by
    rw [acceptedBy]
    split
    · exact List.take_prefix _ _
    · exact List.nil_prefix
  of_success data timeoutMs io hio := by simp [acceptedBy, hio]

theorem passed_map_pipeOut (ret : IOReturn) (pipe : Pipe) (data : List UInt8) (timeoutMs : Nat)
    (io : OutReply data.length) :
    passed [⟨.map, ret⟩, ⟨.pipeOut pipe data timeoutMs, io⟩] = data.take io.transferred.val := by
  simp [passed, passedBy]

end Usb

open Usb

/-! ## KUSB-488B -/

namespace KUSB488BTransport

variable {pipe : Pipe} {obs : Exchange Usb.Request.Reply → List UInt8}

/-- The loop takes up the bytes where the pipe left off. -/
theorem leaves_bulkOutLoop (hobs : Counts pipe obs) (timeoutMs fuel : Nat) (rest : List UInt8) :
    Leaves (bulkOutLoop pipe timeoutMs fuel rest) fun u => AllOrError rest (u.flatMap obs) := by
  induction fuel generalizing rest with
  | zero => exact fun u rc h => absurd h Usb.not_run_outOfFuel
  | succ fuel ih =>
      unfold bulkOutLoop
      apply leaves_ite
      · intro hempty
        obtain rfl := List.length_eq_zero_iff.mp hempty
        exact leaves_pure ⟨by simp, by simp⟩
      intro _
      apply leaves_call_bind
      intro kr
      apply leaves_ite
      · intro hkr
        exact leaves_pure ⟨by simp [hobs.map], fun h => absurd (mapIOReturn_eq_ok_iff.mp h) hkr⟩
      intro _
      apply leaves_call_bind
      intro io
      have hoffered := hobs.pipeOut (rest.take kBulkBufferSize) timeoutMs io
      have hfirst : obs ⟨.pipeOut pipe (rest.take kBulkBufferSize) timeoutMs, io⟩ <+: rest :=
        hoffered.trans (List.take_prefix _ _)
      apply leaves_ite
      · intro hio
        refine leaves_pure ⟨by simpa [hobs.map] using hfirst, ?_⟩
        exact fun h => absurd (mapIOReturn_eq_ok_iff.mp h) hio
      intro hio
      apply leaves_ite
      · intro _
        exact leaves_pure ⟨by simpa [hobs.map] using hfirst, by simp⟩
      intro _
      refine (ih _).mono ?_
      intro v rc hv
      have hpassed : obs ⟨.pipeOut pipe (rest.take kBulkBufferSize) timeoutMs, io⟩ =
          rest.take io.transferred.val := by
        have hle : io.transferred.val ≤ (rest.take kBulkBufferSize).length :=
          Nat.lt_succ_iff.mp io.transferred.isLt
        have hmin := Nat.le_trans hle (List.length_take_le kBulkBufferSize rest)
        rw [hobs.of_success _ _ _ (not_not.mp hio), List.take_take, Nat.min_eq_left hmin]
      have hflat : (⟨.map, kr⟩ ::
            ⟨.pipeOut pipe (rest.take kBulkBufferSize) timeoutMs, io⟩ :: v).flatMap obs =
          rest.take io.transferred.val ++ v.flatMap obs := by
        rw [List.flatMap_cons, List.flatMap_cons, hobs.map, hpassed, List.nil_append]
      rw [hflat]
      constructor
      · have hsplit := List.take_append_drop io.transferred.val rest
        conv_rhs => rw [← hsplit]
        exact (List.prefix_append_right_inj _).mpr hv.in_order
      · intro hrc
        rw [hv.whole hrc, List.take_append_drop]

theorem leaves_bulkOut_allOrError (t : KUSB488BTransport) (hobs : Counts pipe obs)
    (hasPipe : Bool) (bytes : List UInt8) (timeoutUs : Nat) :
    Leaves (t.bulkOut pipe hasPipe bytes timeoutUs) fun u => AllOrError bytes (u.flatMap obs) := by
  unfold bulkOut
  apply leaves_ite
  · intro _
    exact leaves_pure ⟨by simp, by simp⟩
  · intro _
    exact leaves_bulkOutLoop hobs _ _ bytes

/-- Every round hands over a byte or is the last one. -/
theorem ensures_bulkOutLoop_of_fuel {bad : Usb.Request → Prop} (hmap : ¬ bad .map)
    (hout : ∀ data timeoutMs, ¬ bad (.pipeOut pipe data timeoutMs)) (timeoutMs : Nat) {fuel : Nat}
    {rest : List UInt8} (h : rest.length < fuel) :
    Ensures bad (bulkOutLoop pipe timeoutMs fuel rest) fun _ => True := by
  induction fuel generalizing rest with
  | zero => exact absurd h (Nat.not_lt_zero _)
  | succ fuel ih =>
      unfold bulkOutLoop
      refine ensures_ite (fun _ => ensures_pure trivial) fun hrest => ?_
      refine ensures_call_bind hmap fun kr => ?_
      refine ensures_ite (fun _ => ensures_pure trivial) fun _ => ?_
      refine ensures_call_bind (hout _ _) fun io => ?_
      refine ensures_ite (fun _ => ensures_pure trivial) fun _ => ?_
      refine ensures_ite (fun _ => ensures_pure trivial) fun htransferred => ?_
      refine ih ?_
      rw [List.length_drop]
      omega

theorem terminates_bulkOut (t : KUSB488BTransport) (hasPipe : Bool) (bytes : List UInt8)
    (timeoutUs : Nat) : Terminates (t.bulkOut pipe hasPipe bytes timeoutUs) := by
  refine Ensures.avoids (Q := fun _ => True) ?_
  unfold bulkOut
  refine ensures_ite (fun _ => ensures_pure trivial) fun _ => ?_
  exact ensures_bulkOutLoop_of_fuel (by simp) (by simp) _ (Nat.lt_succ_self _)

end KUSB488BTransport

/-! ## Agilent and NI -/

theorem allOrError_passed_nil (bytes : List UInt8) {rc : GPIBTransportError} (h : rc ≠ .ok) :
    AllOrError bytes (Usb.passed []) rc :=
  ⟨List.nil_prefix, fun hrc => absurd hrc h⟩

namespace Agilent82357Transport

theorem leaves_bulkOut_allOrError (t : Agilent82357Transport) (bytes : List UInt8)
    (timeoutUs : Nat) :
    Leaves (t.bulkOut bytes timeoutUs) fun u => AllOrError bytes (Usb.passed u) := by
  unfold bulkOut
  apply leaves_ite
  · intro _
    exact leaves_pure (allOrError_passed_nil bytes (by simp))
  intro _
  apply leaves_ite
  · intro _
    exact leaves_pure (allOrError_passed_nil bytes (by simp))
  intro _
  apply leaves_call_bind
  intro ret
  apply leaves_ite
  · intro hret
    exact leaves_pure (allOrError_passed_nil bytes fun h => hret (mapIOReturn_eq_ok_iff.mp h))
  intro _
  apply leaves_call_bind
  intro io
  have hpassed := passed_map_pipeOut ret .bulkOut bytes (msFromUsec timeoutUs) io
  have hfirst := List.take_prefix io.transferred.val bytes
  rw [← hpassed] at hfirst
  apply leaves_ite
  · intro hio
    exact leaves_pure ⟨hfirst, fun h => absurd (mapIOReturn_eq_ok_iff.mp h) hio⟩
  intro _
  refine leaves_pure ⟨hfirst, fun hrc => ?_⟩
  have hall : io.transferred.val = bytes.length := by
    by_contra hne
    rw [if_neg hne] at hrc
    cases hrc
  rw [hpassed, hall, List.take_length]

theorem terminates_bulkOut (t : Agilent82357Transport) (bytes : List UInt8) (timeoutUs : Nat) :
    Terminates (t.bulkOut bytes timeoutUs) :=
  (t.ensures_bulkOut (by simp) (by simp)).avoids

end Agilent82357Transport

namespace NIUSBTransport

variable {t : NIUSBTransport} {bytes : List UInt8} {timeoutUs : Nat} {u : Usb.Trace}
  {rc : GPIBTransportError}

/-- A bulk-out passes nothing on, or it passes on what one transfer takes and returns how that
transfer ended. -/
theorem run_bulkOut (h : Run (t.bulkOut bytes timeoutUs) u rc) :
    (rc ≠ .ok ∧ ∀ e ∈ u, e.request = .map) ∨
      ∃ ret io, u = [⟨.map, ret⟩, ⟨.pipeOut .bulkOut bytes (usbTimeoutMs timeoutUs), io⟩] ∧
        rc = mapIOReturn io.status := by
  unfold bulkOut at h
  simp only [run_ite_iff, run_pure_iff, run_call_bind_iff] at h
  rcases h with ⟨-, rfl, rfl⟩ | ⟨-, ⟨-, rfl, rfl⟩ | ⟨-, ret, v, rfl, ⟨hret, rfl, rfl⟩ |
    ⟨-, io, w, rfl, rfl, rfl⟩⟩⟩
  · exact .inl ⟨by simp, by simp⟩
  · exact .inl ⟨by simp, by simp⟩
  · exact .inl ⟨fun h => hret (mapIOReturn_eq_ok_iff.mp h), by simp⟩
  · exact .inr ⟨ret, io, rfl, rfl⟩

/-- What passes on all or reports an error is a run without a short transfer. -/
theorem allOrError_iff (h : Run (t.bulkOut bytes timeoutUs) u rc) :
    AllOrError bytes (Usb.passed u) rc ↔ ∀ e ∈ u, ¬ IsShort e := by
  rcases run_bulkOut h with ⟨hrc, hmap⟩ | ⟨ret, io, rfl, rfl⟩
  · have hpassed : Usb.passed u = [] := by
      apply List.flatMap_eq_nil_iff.mpr
      rintro ⟨i, r⟩ he
      obtain rfl : i = .map := hmap _ he
      rfl
    refine iff_of_true (by rw [hpassed]; exact allOrError_passed_nil bytes hrc) ?_
    rintro ⟨i, r⟩ he
    obtain rfl : i = .map := hmap _ he
    exact id
  · have hle : io.transferred.val ≤ bytes.length := Nat.lt_succ_iff.mp io.transferred.isLt
    rw [passed_map_pipeOut]
    constructor
    · rintro ⟨-, hwhole⟩ e he
      rcases List.mem_pair.mp he with rfl | rfl
      · exact id
      · rintro ⟨hio, hshort⟩
        have hlen := congrArg List.length (hwhole (mapIOReturn_eq_ok_iff.mpr hio))
        rw [List.length_take, Nat.min_eq_left hle] at hlen
        exact hshort hlen
    · intro hfull
      refine ⟨List.take_prefix _ _, fun hrc => ?_⟩
      have hio := mapIOReturn_eq_ok_iff.mp hrc
      have hall : io.transferred.val = bytes.length := by
        by_contra hne
        exact hfull _ (List.mem_pair.mpr (.inr rfl)) ⟨hio, hne⟩
      rw [hall, List.take_length]

theorem terminates_bulkOut (t : NIUSBTransport) (bytes : List UInt8) (timeoutUs : Nat) :
    Terminates (t.bulkOut bytes timeoutUs) :=
  (t.ensures_bulkOut (by simp) (by simp)).avoids

end NIUSBTransport

/-! ## All three -/

/-- Every bulk-out terminates. On the KUSB-488B and the Agilent it passes on a first part of its
bytes, and all of them if it returns `ok`; on the NI transport it does so in exactly the runs in
which no transfer that ends well is short. -/
theorem bulkOut_allOrError_iff (bytes : List UInt8) (timeoutUs : Nat) :
    (∀ (t : KUSB488BTransport) pipe hasPipe,
      Terminates (t.bulkOut pipe hasPipe bytes timeoutUs) ∧
        Leaves (t.bulkOut pipe hasPipe bytes timeoutUs) fun u =>
          AllOrError bytes (Usb.passed u)) ∧
    (∀ t : Agilent82357Transport,
      Terminates (t.bulkOut bytes timeoutUs) ∧
        Leaves (t.bulkOut bytes timeoutUs) fun u => AllOrError bytes (Usb.passed u)) ∧
    ∀ t : NIUSBTransport,
      Terminates (t.bulkOut bytes timeoutUs) ∧
        Leaves (t.bulkOut bytes timeoutUs) fun u rc =>
          AllOrError bytes (Usb.passed u) rc ↔ ∀ e ∈ u, ¬ IsShort e := by
  refine ⟨fun t pipe hasPipe => ?_, fun t => ?_, fun t => ?_⟩
  · exact ⟨t.terminates_bulkOut hasPipe bytes timeoutUs,
      t.leaves_bulkOut_allOrError (counts_passedBy pipe) hasPipe bytes timeoutUs⟩
  · exact ⟨t.terminates_bulkOut bytes timeoutUs, t.leaves_bulkOut_allOrError bytes timeoutUs⟩
  · exact ⟨t.terminates_bulkOut bytes timeoutUs,
      fun u rc hrun => NIUSBTransport.allOrError_iff hrun⟩

/-- The NI transport returns `ok` when the pipe has taken none of a register write. -/
theorem ni_short_bulkOut_ok :
    ∃ u, Run (NIUSBTransport.attached.bulkOut [9, 1, 10, 0, 4, 0, 0, 0] 100000) u .ok ∧
      ¬ AllOrError [9, 1, 10, 0, 4, 0, 0, 0] (Usb.passed u) .ok := by
  refine ⟨_, NIUSBTransport.run_bulkOut_ok_iff.mpr ⟨rfl, rfl, by decide, 0, rfl⟩, ?_⟩
  rintro ⟨-, hwhole⟩
  exact absurd (hwhole rfl) (by decide)

end DarwinGpib
