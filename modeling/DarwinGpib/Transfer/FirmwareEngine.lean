import Mathlib.Data.List.Induction
import DarwinGpib.Library.Behaviour
import DarwinGpib.Library.Past
import DarwinGpib.Transfer.BusyPolling
import DarwinGpib.Transfer.Runs

/-!
# The firmware engine of the KUSB-488B

A BEGIN request that the device accepts arms the engine, and an ABORT request disarms it. Which
failed transfers leave it armed is read off the last exchanges of the transfer.
-/

namespace DarwinGpib

open Interaction Behaviour

theorem Usb.follows_checked_bind {α β : Type} {past : Trace} {x : Option α} {f : α → Usb β}
    {S : Trace → β → Prop} (hf : ∀ a, x = some a → Follows past (f a) S) :
    Follows past (checked x >>= f) S := by
  intro u b hrun
  obtain ⟨a, ha, hrun⟩ := run_checked_bind_iff.mp hrun
  exact hf a ha u b hrun

namespace KUSB488BTransport

/-! ## The engine -/

/-- What the requests made the engine do, and the length in the last header. -/
structure Engine where
  armed : Bool
  announced : Nat
  deriving DecidableEq

def IsBegin (request : UInt8) : Prop :=
  request = reqBeginCmd ∨ request = reqBeginWrite ∨ request = reqBeginRead

instance (request : UInt8) : Decidable (IsBegin request) :=
  inferInstanceAs (Decidable (_ ∨ _ ∨ _))

/-- The length in the header of a BEGIN request. -/
def headerLength (header : List UInt8) : Nat :=
  match header.drop 4 with
  | [b₀, b₁, b₂, b₃] => fromLe32 b₀ b₁ b₂ b₃
  | _ => 0

theorem headerLength_transferHeader {length : Nat} (h : length < 2 ^ 32) (timeoutUs : Nat) :
    headerLength (transferHeader length timeoutUs) = length :=
  fromLe32_le32 h

/-- A BEGIN request is accepted if the device takes its whole header. -/
def Engine.see (s : Engine) : Exchange Usb.Request.Reply → Engine
  | ⟨.controlOut request _ _ data, io⟩ =>
      if IsBegin request then
        ⟨io.status = .success ∧ io.transferred.val = data.length, headerLength data⟩
      else if request = reqAbort then { s with armed := false }
      else s
  | _ => s

/-- The engine after the exchanges of an operation. -/
def engineAfter (u : Usb.Trace) : Engine := u.foldl Engine.see ⟨false, 0⟩

@[simp] theorem engineAfter_nil : engineAfter [] = ⟨false, 0⟩ :=
  rfl

@[simp] theorem engineAfter_concat (u : Usb.Trace) (e : Exchange Usb.Request.Reply) :
    engineAfter (u ++ [e]) = (engineAfter u).see e := by
  simp [engineAfter]

/-- A BEGIN request has been made. -/
def Begun (u : Usb.Trace) : Prop :=
  ∃ request wValue wIndex data io, IsBegin request ∧
    (⟨.controlOut request wValue wIndex data, io⟩ : Exchange Usb.Request.Reply) ∈ u

@[simp] theorem not_begun_nil : ¬ Begun [] := by
  simp [Begun]

theorem Begun.subset {u w : Usb.Trace} (h : Begun u) (hsub : u ⊆ w) : Begun w := by
  obtain ⟨request, wValue, wIndex, data, io, hbegin, hmem⟩ := h
  exact ⟨request, wValue, wIndex, data, io, hbegin, hsub hmem⟩

/-- Only a BEGIN request arms the engine. -/
theorem begun_of_armed {u : Usb.Trace} (h : (engineAfter u).armed = true) : Begun u := by
  induction u using List.reverseRecOn with
  | nil => cases h
  | append_singleton u e ih =>
      rw [engineAfter_concat] at h
      obtain ⟨request, reply⟩ := e
      have hearlier (h : (engineAfter u).armed = true) : Begun (u ++ [⟨request, reply⟩]) :=
        (ih h).subset (List.subset_append_left _ _)
      cases request with
      | controlOut request wValue wIndex data =>
          by_cases hbegin : IsBegin request
          · exact ⟨request, wValue, wIndex, data, reply, hbegin, by simp⟩
          · rw [Engine.see, if_neg hbegin] at h
            by_cases habort : request = reqAbort
            · simp [habort] at h
            · exact hearlier (by simpa [habort] using h)
      | _ => exact hearlier h

/-! ## Endings without an abort -/

/-- A status block that reports the end of a transfer of `n` bytes. -/
def Acknowledges (statusLen countWidth n : Nat) (block : List UInt8) : Prop :=
  block[0]? = some stateDone ∧ statusCount statusLen countWidth block = some n

/-- The request for the status of a transfer, answered, and the mapping of the answer. -/
def statusRead (statusLen : Nat) (io : Usb.InReply statusLen) : Usb.Trace :=
  [⟨.controlIn reqStatus 0 0 statusLen, io⟩, Usb.mapped]

/-- The exchanges of a transfer end with a glitch beyond the budget, with a status block other
than the one that acknowledges all bytes announced, or with a header, not the first, that cannot
be mapped. -/
inductive Abandons (statusLen countWidth : Nat) : Usb.Trace → Prop where
  | glitched {u g now} (hg : (⟨.uptime, g⟩ : Exchange Usb.Request.Reply) ∈ u)
      (hlate : now - g > kStatusGlitchBudgetNs) :
      Abandons statusLen countWidth (u ++ [⟨.uptime, now⟩])
  | refused {u io}
      (h : ¬ Acknowledges statusLen countWidth (engineAfter u).announced io.bytes) :
      Abandons statusLen countWidth (u ++ statusRead statusLen io)
  | unmapped {u kr} (hbegun : Begun u) (hkr : kr ≠ .success) :
      Abandons statusLen countWidth (u ++ [⟨.map, kr⟩])

section Endings

variable {statusLen countWidth : Nat} {u : Usb.Trace}

theorem concat_statusRead (u : Usb.Trace) (io : Usb.InReply statusLen) :
    u ++ statusRead statusLen io =
      u ++ [⟨.controlIn reqStatus 0 0 statusLen, io⟩] ++ [Usb.mapped] := by
  simp [statusRead]

/-- Only after reading the clock or mapping a buffer. -/
theorem Abandons.last {e : Exchange Usb.Request.Reply}
    (h : Abandons statusLen countWidth (u ++ [e])) :
    e.request = .uptime ∨ e.request = .map := by
  generalize hw : u ++ [e] = w at h
  cases h with
  | @glitched v g now hg hlate =>
      have heq := (List.append_inj' hw rfl).2
      cases heq
      exact .inl rfl
  | @refused v io h =>
      rw [concat_statusRead] at hw
      have heq := (List.append_inj' hw rfl).2
      cases heq
      exact .inr rfl
  | @unmapped v kr hbegun hkr =>
      have heq := (List.append_inj' hw rfl).2
      cases heq
      exact .inr rfl

@[simp] theorem not_abandons_nil : ¬ Abandons statusLen countWidth [] := by
  intro h
  generalize hw : ([] : Usb.Trace) = w at h
  cases h <;> simp [statusRead] at hw

theorem abandons_statusRead_iff {io : Usb.InReply statusLen} :
    Abandons statusLen countWidth (u ++ statusRead statusLen io) ↔
      ¬ Acknowledges statusLen countWidth (engineAfter u).announced io.bytes := by
  constructor
  · intro h
    generalize hw : u ++ statusRead statusLen io = w at h
    rw [concat_statusRead] at hw
    cases h with
    | @glitched v g now hg hlate => cases (List.append_inj' hw rfl).2
    | @refused v io' h =>
        rw [concat_statusRead] at hw
        have heq := List.append_inj' (List.append_inj' hw rfl).1 rfl
        obtain ⟨rfl, hio⟩ := heq
        cases hio
        exact h
    | @unmapped v kr hbegun hkr =>
        cases (List.append_inj' hw rfl).2
        exact absurd rfl hkr
  · exact .refused

theorem abandons_unmapped_iff {kr : IOReturn} (hkr : kr ≠ .success) :
    Abandons statusLen countWidth (u ++ [⟨.map, kr⟩]) ↔ Begun u := by
  constructor
  · intro h
    generalize hw : u ++ [⟨.map, kr⟩] = w at h
    cases h with
    | @glitched v g now hg hlate => cases (List.append_inj' hw rfl).2
    | @refused v io h =>
        rw [concat_statusRead] at hw
        cases (List.append_inj' hw rfl).2
        exact absurd rfl hkr
    | @unmapped v kr' hbegun hkr' =>
        obtain ⟨rfl, -⟩ := List.append_inj' hw rfl
        exact hbegun
  · intro h
    exact .unmapped h hkr

end Endings

/-! ## Control requests -/

variable {t : KUSB488BTransport} {past u : Usb.Trace} {statusLen countWidth : Nat}

/-- How a control transfer towards the device ends. -/
inductive ControlEnds (t : KUSB488BTransport) (request : UInt8) (wValue wIndex : UInt16)
    (data : List UInt8) (past : Usb.Trace) : Usb.Trace → GPIBTransportError → Prop where
  | unready {rc} (hrc : rc ≠ .ok) (ht : t.Attached → 64 < data.length) :
      ControlEnds t request wValue wIndex data past past rc
  | unmapped {kr rc} (hrc : rc ≠ .ok) (hdata : data ≠ []) (hkr : kr ≠ .success) :
      ControlEnds t request wValue wIndex data past (past ++ [⟨.map, kr⟩]) rc
  | answered {w io rc} (hw : w = past ∨ w = past ++ [Usb.mapped])
      (ht : data ≠ [] → t.Attached)
      (hrc : rc = .ok ↔ io.status = .success ∧ io.transferred.val = data.length) :
      ControlEnds t request wValue wIndex data past
        (w ++ [⟨.controlOut request wValue wIndex data, io⟩]) rc

theorem follows_controlOut (t : KUSB488BTransport) (request : UInt8) (wValue wIndex : UInt16)
    (data : List UInt8) (past : Usb.Trace) :
    Follows past (t.controlOut request wValue wIndex data)
      (ControlEnds t request wValue wIndex data past) := by
  have hrequest {w : Usb.Trace} (hw : w = past ∨ w = past ++ [Usb.mapped])
      (ht : data ≠ [] → t.Attached) :
      Follows w (deviceRequestOut request wValue wIndex data)
        (ControlEnds t request wValue wIndex data past) := by
    unfold deviceRequestOut
    apply follows_call_bind
    intro io
    apply follows_ite
    · intro hstatus
      apply follows_pure
      refine .answered hw ht ?_
      simp [hstatus]
    · intro hstatus
      apply follows_pure
      refine .answered hw ht ?_
      have hsuccess : io.status = .success := by simpa using hstatus
      by_cases htransferred : io.transferred.val = data.length <;> simp [hsuccess, htransferred]
  unfold controlOut
  apply follows_ite
  · intro h
    apply follows_pure
    refine .unready (by decide) fun ht => ?_
    simp [ht.1, ht.2.1] at h
  intro hdevice
  have hdevice : t.device = true ∧ t.owner = true := by simpa using hdevice
  apply follows_ite
  · intro hdata
    apply follows_ite
    · intro h
      apply follows_pure
      refine .unready (by decide) fun ht => ?_
      simpa [ht.2.2] using h
    intro hctrl
    have hctrl : t.ctrlBuffer = true ∧ data.length ≤ 64 := by simpa using hctrl
    apply follows_call_bind
    intro kr
    apply follows_ite
    · intro hkr
      exact follows_pure (.unmapped (by simpa using hkr) (List.length_pos_iff.mp hdata) hkr)
    intro hkr
    obtain rfl : kr = .success := by simpa using hkr
    exact hrequest (.inr rfl) fun _ => ⟨hdevice.1, hdevice.2, hctrl.1⟩
  · intro hdata
    obtain rfl : data = [] := by simpa using hdata
    exact hrequest (.inl rfl) fun h => absurd rfl h

/-- The engine is disarmed, and by more than an ending without an abort. -/
def Restored (u : Usb.Trace) : Prop :=
  (engineAfter u).armed = false ∧ ∀ statusLen countWidth, ¬ Abandons statusLen countWidth u

theorem follows_abortTransfer (ht : t.Attached) (past : Usb.Trace) :
    Follows past t.abortTransfer fun u _ => Restored u := by
  refine Follows.mono (follows_controlOut t _ _ _ _ past) fun u rc h => ?_
  cases h with
  | unready hrc h => exact absurd (h ht) (by decide)
  | unmapped hrc hdata hkr => exact absurd rfl hdata
  | answered hw h hrc =>
      constructor
      · rw [engineAfter_concat, Engine.see, if_neg (by decide), if_pos rfl]
      · intro statusLen countWidth h
        simpa using h.last

theorem follows_clearStall (hasPipe : Bool) (pipe : Pipe)
    (h : Restored past) :
    Follows past (clearStall hasPipe pipe) fun u _ => Restored u := by
  unfold clearStall
  apply follows_ite
  · intro _
    apply follows_call_bind
    intro r
    apply follows_pure
    constructor
    · rw [engineAfter_concat]
      exact h.1
    · intro statusLen countWidth h
      simpa using h.last
  · intro _
    exact follows_pure h

theorem follows_recoverFirmwareEngine (ht : t.Attached) (past : Usb.Trace) :
    Follows past t.recoverFirmwareEngine fun u _ => Restored u := by
  unfold recoverFirmwareEngine
  refine follows_bind (follows_abortTransfer ht past) fun u _ hu => ?_
  refine follows_bind (follows_clearStall _ _ hu) fun u _ hu => ?_
  refine follows_bind (follows_clearStall _ _ hu) fun u _ hu => ?_
  exact follows_clearStall _ _ hu

/-- Handing bytes to a pipe is nothing to the engine. -/
theorem follows_bulkOut (pipe : Pipe) (hasPipe : Bool) (bytes : List UInt8) (timeoutUs : Nat)
    (past : Usb.Trace) :
    Follows past (t.bulkOut pipe hasPipe bytes timeoutUs)
      fun u _ => engineAfter u = engineAfter past := by
  have hloop (fuel : Nat) : ∀ past rest, Follows past
      (bulkOutLoop pipe (msFromUsec timeoutUs) fuel rest)
      fun u _ => engineAfter u = engineAfter past := by
    induction fuel with
    | zero =>
        intro past rest u rc hrun
        exact absurd hrun Usb.not_run_outOfFuel
    | succ fuel ih =>
        intro past rest
        unfold bulkOutLoop
        refine follows_ite (fun _ => follows_pure rfl) fun _ => ?_
        refine follows_call_bind fun kr => ?_
        refine follows_ite (fun _ => follows_pure (engineAfter_concat _ _)) fun _ => ?_
        refine follows_call_bind fun io => ?_
        have hquiet : engineAfter (past ++ [⟨.map, kr⟩] ++ [⟨.pipeOut pipe (rest.take
            kBulkBufferSize) (msFromUsec timeoutUs), io⟩]) = engineAfter past := by
          simp only [engineAfter_concat, Engine.see]
        refine follows_ite (fun _ => follows_pure hquiet) fun _ => ?_
        refine follows_ite (fun _ => follows_pure hquiet) fun _ => ?_
        exact (ih _ _).mono fun u _ h => h.trans hquiet
  unfold bulkOut
  exact follows_ite (fun _ => follows_pure rfl) fun _ => hloop _ _ _

/-! ## Polling -/

/-- How a poll of an engine in state `s` ends. -/
inductive PollEnds (statusLen countWidth : Nat) (s : Engine) :
    Usb.Trace → GPIBTransportError × Nat → Prop where
  | aborted {u r} (hr : r.1 ≠ .ok) (h : Restored u) :
      PollEnds statusLen countWidth s u r
  | glitched {u g now r} (hr : r.1 ≠ .ok) (hs : engineAfter u = s)
      (hg : (⟨.uptime, g⟩ : Exchange Usb.Request.Reply) ∈ u)
      (hlate : now - g > kStatusGlitchBudgetNs) :
      PollEnds statusLen countWidth s (u ++ [⟨.uptime, now⟩]) r
  | settled {u io r} (hs : engineAfter u = s)
      (hr : statusOutcome statusLen countWidth io.bytes = some r) :
      PollEnds statusLen countWidth s (u ++ statusRead statusLen io) r

theorem follows_deadlinePassed (deadline : UInt64) (past : Usb.Trace) :
    Follows past (deadlinePassed deadline) fun u _ => engineAfter u = engineAfter past := by
  unfold deadlinePassed
  refine follows_ite (fun _ => follows_pure rfl) fun _ => ?_
  exact follows_call_bind fun now => follows_pure (engineAfter_concat _ _)

/-- A status request that is answered in full is followed by a mapping and nothing else. -/
theorem follows_controlIn (past : Usb.Trace) :
    Follows past (t.controlIn reqStatus 0 0 16 statusLen) fun u r =>
      engineAfter u = engineAfter past ∧
        (r.1 = .ok → ∃ io : Usb.InReply statusLen,
          u = past ++ statusRead statusLen io ∧ r.2 = io.bytes) := by
  unfold controlIn
  refine follows_ite (fun _ => follows_pure ⟨rfl, fun h => by cases h⟩) fun _ => ?_
  refine follows_ite (fun _ => follows_pure ⟨rfl, fun h => by cases h⟩) fun _ => ?_
  refine follows_call_bind fun io => ?_
  refine follows_ite (fun hio => follows_pure ⟨engineAfter_concat _ _, fun h => ?_⟩) fun _ => ?_
  · exact absurd (mapIOReturn_eq_ok_iff.mp h) hio
  refine follows_call_bind fun kr => ?_
  have hquiet : engineAfter (past ++ [⟨.controlIn reqStatus 0 0 statusLen, io⟩] ++
      [⟨.map, kr⟩]) = engineAfter past := by
    simp only [engineAfter_concat, Engine.see]
  refine follows_ite (fun hkr => follows_pure ⟨hquiet, fun h => ?_⟩) fun hkr => ?_
  · exact absurd (mapIOReturn_eq_ok_iff.mp h) hkr
  obtain rfl : kr = .success := by simpa using hkr
  intro u r hrun
  obtain ⟨-, hrun⟩ := Usb.run_copyTo_bind_iff.mp hrun
  obtain ⟨rfl, rfl⟩ := run_pure_iff.mp hrun
  rw [List.append_nil]
  exact ⟨hquiet, fun _ => ⟨io, (concat_statusRead past io).symm, rfl⟩⟩

theorem follows_pollLoop (ht : t.Attached) (deadline : UInt64) (fuel : Nat) (past : Usb.Trace)
    {glitchStart : UInt64} (hstart : glitchStart = 0 ∨
      (⟨.uptime, glitchStart⟩ : Exchange Usb.Request.Reply) ∈ past) :
    Follows past (t.pollLoop statusLen countWidth deadline fuel glitchStart)
      (PollEnds statusLen countWidth (engineAfter past)) := by
  have habort (past s) : Follows past
      (do let _ ← t.abortTransfer; return (GPIBTransportError.errTimeout, 0))
      (PollEnds statusLen countWidth s) :=
    follows_bind (follows_abortTransfer ht past) fun u _ hu =>
      follows_pure (.aborted (by decide) hu)
  induction fuel generalizing past glitchStart with
  | zero => exact habort past _
  | succ fuel ih =>
      rw [pollLoop]
      refine follows_bind (follows_deadlinePassed deadline past).keeping fun u late hu => ?_
      obtain ⟨hpast, hu⟩ := hu
      apply follows_ite
      · intro _
        exact habort u _
      intro _
      refine follows_bind (follows_controlIn u).keeping fun w answer hw => ?_
      obtain ⟨rc, buf⟩ := answer
      obtain ⟨hpast', hw, hread⟩ := hw
      have hengine : engineAfter w = engineAfter past := hw.trans hu
      have hstart' := hstart.imp_right fun h => hpast' (hpast h)
      apply follows_ite
      · intro _
        apply follows_call_bind
        intro now
        have hnow : engineAfter (w ++ [⟨.uptime, now⟩]) = engineAfter past :=
          (engineAfter_concat _ _).trans hengine
        rw [← hnow]
        apply follows_ite
        · intro _
          exact ih _ (.inr (by simp))
        intro hne
        have hmem := hstart'.resolve_left hne
        apply follows_ite
        · intro hlate
          exact follows_pure (.glitched (by decide) (hengine.trans hnow.symm) hmem hlate)
        · intro _
          exact ih _ (.inr (by simp [hmem]))
      intro hfull
      obtain ⟨hrc, -⟩ := not_or.mp hfull
      obtain ⟨io, rfl, rfl⟩ := hread (by simpa using hrc)
      rw [← hengine]
      refine Usb.follows_checked_bind fun state _ => ?_
      refine follows_ite (fun _ => ih _ (.inl rfl)) fun _ => ?_
      intro v r hrun
      obtain ⟨rfl, hr⟩ := Usb.run_checked_iff.mp hrun
      rw [List.append_nil]
      exact .settled (hu.trans hengine.symm) hr

theorem follows_pollStatus (ht : t.Attached) (hlen : statusLen ≤ 16) (timeoutUs : Nat)
    (past : Usb.Trace) :
    Follows past (t.pollStatus statusLen countWidth timeoutUs)
      (PollEnds statusLen countWidth (engineAfter past)) := by
  unfold pollStatus deadlineAfter
  rw [if_neg (Nat.not_lt.mpr hlen)]
  have hclock : Follows past (do
      if timeoutUs = 0 then return 0
      let now ← Program.call Usb.Request.uptime
      return now + UInt64.ofNat (timeoutUs * 1000)) fun u _ =>
        engineAfter u = engineAfter past := by
    refine follows_ite (fun _ => follows_pure rfl) fun _ => ?_
    exact follows_call_bind fun now => follows_pure (engineAfter_concat _ _)
  refine follows_bind hclock fun u deadline hu => ?_
  rw [← hu]
  exact follows_pollLoop ht deadline _ u (.inl rfl)

/-! ## Transfers -/

/-- A failed operation left the engine disarmed exactly if it was not abandoned. -/
def Judged (statusLen countWidth : Nat) (u : Usb.Trace) (rc : GPIBTransportError) : Prop :=
  (rc ≠ .ok → (engineAfter u).armed = false) ↔ ¬ Abandons statusLen countWidth u

theorem Restored.judged (h : Restored u) (rc : GPIBTransportError) :
    Judged statusLen countWidth u rc :=
  iff_of_true (fun _ => h.1) (h.2 _ _)

theorem Abandons.judged (h : Abandons statusLen countWidth u)
    (harmed : (engineAfter u).armed = true) {rc : GPIBTransportError} (hrc : rc ≠ .ok) :
    Judged statusLen countWidth u rc :=
  iff_of_false (fun hdisarmed => by simp [hdisarmed hrc] at harmed) (not_not_intro h)

/-- Where an operation stands before a chunk. -/
structure Ready (t : KUSB488BTransport) (statusLen countWidth : Nat) (u : Usb.Trace) :
    Prop where
  kept : ¬ Abandons statusLen countWidth u
  armed : Begun u → (engineAfter u).armed = true
  attached : Begun u → t.Attached

theorem Ready.judged (h : t.Ready statusLen countWidth u) : Judged statusLen countWidth u .ok :=
  iff_of_true (fun hrc => absurd rfl hrc) h.kept

/-- Arming a transfer fails with a result that the trace bears out. -/
theorem follows_beginTransfer {request : UInt8} (hrequest : IsBegin request)
    (wValue wIndex : UInt16) {length : Nat} (hlength : length < 2 ^ 32) (timeoutUs : Nat)
    (h : t.Ready statusLen countWidth past) :
    Follows past (t.beginTransfer request wValue wIndex length timeoutUs) fun u rc =>
      (rc ≠ .ok → Judged statusLen countWidth u rc) ∧
        (rc = .ok → engineAfter u = ⟨true, length⟩ ∧ t.Attached) := by
  refine Follows.mono (follows_controlOut t _ _ _ _ past) fun u rc hu => ?_
  cases hu with
  | unready hrc hattached =>
      refine ⟨fun _ => iff_of_true (fun _ => ?_) h.kept, fun hok => absurd hok hrc⟩
      by_contra harmed
      exact absurd (hattached (h.attached (begun_of_armed (by simpa using harmed))))
        (by simp [transferHeader, le32])
  | @unmapped kr _ hrc hdata hkr =>
      refine ⟨fun _ => ?_, fun hok => absurd hok hrc⟩
      have hsame : engineAfter (past ++ [⟨.map, kr⟩]) = engineAfter past :=
        engineAfter_concat _ _
      by_cases hbegun : Begun past
      · exact Abandons.judged (.unmapped hbegun hkr) (by rw [hsame, h.armed hbegun]) hrc
      · have hdisarmed : (engineAfter past).armed = false := by
          by_contra harmed
          exact hbegun (begun_of_armed (by simpa using harmed))
        exact iff_of_true (fun _ => by rw [hsame, hdisarmed])
          (mt (abandons_unmapped_iff hkr).mp hbegun)
  | @answered w io _ hw hattached hrc =>
      have hengine : engineAfter (w ++ [⟨.controlOut request wValue wIndex
          (transferHeader length timeoutUs), io⟩]) =
          ⟨io.status = .success ∧ io.transferred.val = (transferHeader length timeoutUs).length,
            length⟩ := by
        rw [engineAfter_concat, Engine.see, if_pos hrequest,
          headerLength_transferHeader hlength]
      rw [hengine]
      constructor
      · intro hne
        refine iff_of_true (fun _ => ?_) fun h => by simpa using h.last
        rw [hengine]
        exact decide_eq_false (mt hrc.mpr hne)
      · intro hok
        refine ⟨?_, hattached (by simp [transferHeader])⟩
        simp only [hrc.mp hok, and_self, decide_true]

theorem acknowledges_iff {n : Nat} {block : List UInt8} {r : GPIBTransportError × Nat}
    (hr : statusOutcome statusLen countWidth block = some r) :
    Acknowledges statusLen countWidth n block ↔ r.1 = .ok ∧ r.2 = n := by
  obtain ⟨state, hstate, hr⟩ := Option.bind_eq_some_iff.mp hr
  obtain ⟨err, -, hr⟩ := Option.bind_eq_some_iff.mp hr
  obtain ⟨count, hcount, hr⟩ := Option.bind_eq_some_iff.mp hr
  rw [Acknowledges, hstate, hcount]
  by_cases hdone : state = stateDone
  · obtain rfl : (.ok, count) = r := by simpa [hdone] using hr
    simp [hdone]
  · by_cases herr : err = errAborted
    · obtain rfl : (.errTimeout, count) = r := by simpa [hdone, herr] using hr
      simp [hdone]
    · obtain rfl : (.errIo, count) = r := by simpa [hdone, herr] using hr
      simp [hdone]

/-- Polling ends with a result that the trace bears out, or in front of the next chunk. -/
theorem PollEnds.judged {n : Nat} {r : GPIBTransportError × Nat} (ht : t.Attached)
    (h : PollEnds statusLen countWidth ⟨true, n⟩ u r) :
    (r.1 ≠ .ok → Judged statusLen countWidth u r.1) ∧
      (r.1 = .ok → r.2 ≠ n → Judged statusLen countWidth u .errNoListener) ∧
      (r.1 = .ok → r.2 = n → t.Ready statusLen countWidth u) := by
  cases h with
  | aborted hr h => exact ⟨fun _ => h.judged _, fun hok => absurd hok hr, fun hok => absurd hok hr⟩
  | @glitched v g now _ hr hs hg hlate =>
      have harmed : (engineAfter (v ++ [⟨.uptime, now⟩])).armed = true := by
        rw [engineAfter_concat, hs]
        rfl
      refine ⟨fun _ => ?_, fun hok => absurd hok hr, fun hok => absurd hok hr⟩
      exact Abandons.judged (.glitched hg hlate) harmed hr
  | @settled v io _ hs hr =>
      have harmed : (engineAfter (v ++ statusRead statusLen io)).armed = true := by
        rw [concat_statusRead, engineAfter_concat, engineAfter_concat, hs]
        rfl
      have hiff : Abandons statusLen countWidth (v ++ statusRead statusLen io) ↔
          ¬ (r.1 = .ok ∧ r.2 = n) := by
        rw [abandons_statusRead_iff, hs, acknowledges_iff hr]
      refine ⟨fun hne => ?_, fun _ hne => ?_, fun hok hcount => ?_⟩
      · exact Abandons.judged (hiff.mpr fun h => hne h.1) harmed hne
      · exact Abandons.judged (hiff.mpr fun h => hne h.2) harmed (by decide)
      · exact ⟨fun h => hiff.mp h ⟨hok, hcount⟩, fun _ => harmed, fun _ => ht⟩

theorem follows_sendCommandsLoop (fuel : Nat) (rest : List UInt8)
    (h : t.Ready statusLenCmd countWidthCmd past) :
    Follows past (t.sendCommandsLoop fuel rest) (Judged statusLenCmd countWidthCmd) := by
  induction fuel generalizing past rest with
  | zero =>
      intro u rc hrun
      exact absurd hrun Usb.not_run_outOfFuel
  | succ fuel ih =>
      unfold sendCommandsLoop
      refine follows_ite (fun _ => follows_pure h.judged) fun _ => ?_
      have hlength : (rest.take maxCmdBytes).length < 2 ^ 32 :=
        Nat.lt_of_le_of_lt (List.length_take_le _ _) (by decide)
      refine follows_bind (follows_beginTransfer (.inl rfl) _ _ hlength _ h) fun u rc hu => ?_
      refine follows_ite (fun hrc => follows_pure (hu.1 hrc)) fun hrc => ?_
      obtain ⟨hengine, ht⟩ := hu.2 (by simpa using hrc)
      refine follows_bind (follows_bulkOut _ _ _ _ u) fun w rc hw => ?_
      apply follows_ite
      · intro _
        exact follows_bind (follows_recoverFirmwareEngine ht w) fun v _ hv =>
          follows_pure (hv.judged rc)
      intro _
      refine follows_bind (follows_pollStatus ht (by decide) _ w) fun v r hv => ?_
      rw [hw, hengine] at hv
      obtain ⟨hfail, hshort, hdone⟩ := hv.judged ht
      refine follows_ite (fun hrc => follows_pure (hfail hrc)) fun hrc => ?_
      have hok : r.1 = .ok := by simpa using hrc
      refine follows_ite (fun hne => follows_pure (hshort hok hne)) fun heq => ?_
      exact ih _ (hdone hok (by simpa using heq))

theorem follows_writeLoop (sendEoi : Bool) (timeoutUs fuel : Nat) (rest : List UInt8)
    (done written : Nat) (hrest : rest.length < 2 ^ 32)
    (h : t.Ready statusLenWrite countWidthData past) :
    Follows past (t.writeLoop sendEoi timeoutUs fuel rest done written)
      fun u r => Judged statusLenWrite countWidthData u r.rc := by
  induction fuel generalizing past rest done written with
  | zero =>
      intro u r hrun
      exact absurd hrun Usb.not_run_outOfFuel
  | succ fuel ih =>
      unfold writeLoop
      refine follows_ite (fun _ => follows_pure h.judged) fun _ => ?_
      have hlength : (rest.take (t.chunkLength rest.length)).length < 2 ^ 32 :=
        Nat.lt_of_le_of_lt (List.length_take_le' _ _) hrest
      refine follows_bind (follows_beginTransfer (.inr (.inl rfl)) _ _ hlength _ h)
        fun u rc hu => ?_
      refine follows_ite (fun hrc => follows_pure (hu.1 hrc)) fun hrc => ?_
      obtain ⟨hengine, ht⟩ := hu.2 (by simpa using hrc)
      refine follows_bind (follows_bulkOut _ _ _ _ u) fun w rc hw => ?_
      apply follows_ite
      · intro _
        exact follows_bind (follows_recoverFirmwareEngine ht w) fun v _ hv =>
          follows_pure (hv.judged rc)
      intro _
      refine follows_bind (follows_pollStatus ht (by decide) _ w) fun v r hv => ?_
      rw [hw, hengine] at hv
      obtain ⟨hfail, hshort, hdone⟩ := hv.judged ht
      refine follows_ite (fun hrc => follows_pure (hfail hrc)) fun hrc => ?_
      have hok : r.1 = .ok := by simpa using hrc
      refine follows_ite (fun hne => follows_pure (hshort hok hne)) fun heq => ?_
      refine ih _ _ _ ?_ (hdone hok (by simpa using heq))
      exact Nat.lt_of_le_of_lt (List.drop_sublist _ _).length_le hrest

/-- Releasing a holdoff makes no BEGIN request. -/
theorem follows_releaseRfdHoldoffIfPending (t : KUSB488BTransport) :
    Follows [] t.releaseRfdHoldoffIfPending
      fun u t' => ∀ statusLen countWidth, t'.Ready statusLen countWidth u := by
  have hready (u : Usb.Trace) (hbegun : ¬ Begun u)
      (h : ∀ statusLen countWidth, ¬ Abandons statusLen countWidth u)
      (t' : KUSB488BTransport) (statusLen countWidth : Nat) : t'.Ready statusLen countWidth u :=
    ⟨h _ _, fun h => absurd h hbegun, fun h => absurd h hbegun⟩
  unfold releaseRfdHoldoffIfPending writeRawRegister
  refine follows_ite (fun _ => follows_pure ?_) fun _ => ?_
  · exact hready [] not_begun_nil (fun _ _ => not_abandons_nil) t
  refine follows_bind (follows_controlOut t _ _ _ _ []) fun u rc hu => follows_pure ?_
  cases hu with
  | unready hrc hattached => exact hready [] not_begun_nil (fun _ _ => not_abandons_nil) _
  | @unmapped kr _ hrc hdata hkr =>
      have hbegun : ¬ Begun [⟨.map, kr⟩] := by simp [Begun]
      refine hready _ hbegun (fun _ _ h => ?_) _
      exact not_begun_nil ((abandons_unmapped_iff hkr).mp h)
  | @answered w io _ hw hattached hrc =>
      apply hready
      · rintro ⟨request, wValue, wIndex, data, io', hbegin, hmem⟩
        rcases hw with rfl | rfl
        · simp at hmem
          obtain ⟨⟨rfl, -⟩, -⟩ := hmem
          exact absurd hbegin (by decide)
        · simp [Usb.mapped] at hmem
          obtain ⟨⟨rfl, -⟩, -⟩ := hmem
          exact absurd hbegin (by decide)
      · intro statusLen countWidth h
        simpa using h.last

/-- A read that cannot be begun leaves the engine as it was. -/
theorem follows_beginRead (request : UInt8) (wValue wIndex : UInt16) (length timeoutUs : Nat)
    (hrequest : IsBegin request) :
    Follows [] (t.beginTransfer request wValue wIndex length timeoutUs) fun u rc =>
      (rc ≠ .ok → (engineAfter u).armed = false) ∧ (rc = .ok → t.Attached) := by
  refine Follows.mono (follows_controlOut t _ _ _ _ []) fun u rc hu => ?_
  cases hu with
  | unready hrc hattached => exact ⟨fun _ => rfl, fun hok => absurd hok hrc⟩
  | unmapped hrc hdata hkr => exact ⟨fun _ => rfl, fun hok => absurd hok hrc⟩
  | answered hw hattached hrc =>
      refine ⟨fun hne => ?_, fun _ => hattached (by simp [transferHeader])⟩
      rw [engineAfter_concat, Engine.see, if_pos hrequest]
      exact decide_eq_false (mt hrc.mpr hne)

/-- Every early return of a read comes behind an abort. -/
theorem follows_readLoop (ht : t.Attached) (requestCount timeoutUs fuel : Nat)
    (needData : Bool) (buf : List UInt8) (glitchRetries : Nat) (past : Usb.Trace) :
    Follows past (t.readLoop requestCount timeoutUs fuel needData buf glitchRetries)
      fun u r => ∀ result, r = .error result → (engineAfter u).armed = false := by
  have hrecover (past : Usb.Trace) (result : ReadResult) : Follows past
      (do t.recoverFirmwareEngine; return .error result)
      fun u (r : Except ReadResult (List UInt8 × List UInt8)) =>
        ∀ result, r = .error result → (engineAfter u).armed = false :=
    follows_bind (follows_recoverFirmwareEngine ht past) fun u _ hu =>
      follows_pure fun _ _ => hu.1
  induction fuel generalizing needData buf glitchRetries past with
  | zero =>
      intro u r hrun
      exact absurd hrun Usb.not_run_outOfFuel
  | succ fuel ih =>
      rw [readLoop]
      refine follows_bind (R := fun _ _ => True) (fun _ _ _ => trivial) fun u fetched _ => ?_
      refine follows_ite (fun _ => hrecover u _) fun _ => ?_
      refine follows_bind (R := fun _ _ => True) (fun _ _ _ => trivial) fun w status _ => ?_
      apply follows_ite
      · intro _
        exact follows_ite (fun _ => ih _ _ _ w) fun _ => hrecover w _
      intro _
      refine Usb.follows_checked_bind fun state _ => ?_
      refine follows_ite (fun _ => follows_pure fun _ h => by cases h) fun _ => ?_
      apply follows_ite
      · intro _
        refine follows_bind (follows_recoverFirmwareEngine ht w) fun w' _ hw' => ?_
        exact Usb.follows_checked_bind fun err _ => follows_pure fun _ _ => hw'.1
      intro _
      refine follows_ite (fun _ => ?_) fun _ => ih _ _ _ w
      exact follows_bind (R := fun _ _ => True) (fun _ _ _ => trivial) fun w' _ _ =>
        follows_pure fun _ h => by cases h

/-- A read that fails leaves the engine disarmed. -/
theorem follows_readData (fuel : Nat) (t : KUSB488BTransport) (requestCount : Nat)
    (eosChar eosFlags : UInt8) (timeoutUs : Nat) :
    Follows [] (readData fuel t requestCount eosChar eosFlags timeoutUs)
      fun u r => r.rc ≠ .ok → (engineAfter u).armed = false := by
  unfold readData
  refine follows_ite (fun _ => follows_pure fun h => absurd rfl h) fun _ => ?_
  refine follows_bind (follows_beginRead _ _ _ _ _ (.inr (.inr rfl))) fun u rc hu => ?_
  refine follows_ite (fun hrc => follows_pure fun _ => hu.1 hrc) fun hrc => ?_
  have ht := hu.2 (by simpa using hrc)
  refine follows_bind (follows_readLoop ht _ _ _ _ _ _ u) fun w r hw => ?_
  cases r with
  | error result => exact follows_pure fun _ => hw result rfl
  | ok found =>
      intro v result hrun
      obtain ⟨rfl, hresult⟩ := Usb.run_checked_iff.mp hrun
      obtain ⟨s₂, -, hresult⟩ := Option.bind_eq_some_iff.mp hresult
      obtain ⟨s₃, -, hresult⟩ := Option.bind_eq_some_iff.mp hresult
      obtain ⟨s₄, -, hresult⟩ := Option.bind_eq_some_iff.mp hresult
      obtain ⟨s₅, -, hresult⟩ := Option.bind_eq_some_iff.mp hresult
      obtain ⟨s₆, -, hresult⟩ := Option.bind_eq_some_iff.mp hresult
      cases hresult
      exact fun h => absurd rfl h

/-! ## Runs of operations -/

/-- The operations of the firmware pipeline; a length is a `uint32_t`. -/
inductive Transfer where
  | sendCommandBytes (cmds : List UInt8)
  | writeData (buf : List UInt8) (hlen : buf.length < 2 ^ 32) (sendEoi : Bool) (timeoutUs : Nat)
  | readData (requestCount : Nat) (eosChar eosFlags : UInt8) (timeoutUs : Nat)

/-- A transfer with its return value. -/
def Transfer.perform (fuel : Nat) (t : KUSB488BTransport) :
    Transfer → Usb (GPIBTransportError × KUSB488BTransport)
  | .sendCommandBytes cmds => t.sendCommandBytes cmds
  | .writeData buf _ sendEoi timeoutUs =>
      (fun r => (r.1.rc, r.2)) <$> t.writeData buf sendEoi timeoutUs
  | .readData requestCount eosChar eosFlags timeoutUs =>
      (fun r => (r.rc, t)) <$> KUSB488BTransport.readData fuel t requestCount eosChar eosFlags
        timeoutUs

/-- The exchanges that abandon a transfer; a read is never abandoned. -/
def Transfer.Abandoned (u : Usb.Trace) : Transfer → Prop
  | .sendCommandBytes _ => Abandons statusLenCmd countWidthCmd u
  | .writeData _ _ _ _ => Abandons statusLenWrite countWidthData u
  | .readData _ _ _ _ => False

/-- One transfer of a run. -/
structure Performance where
  transfer : Transfer
  trace : Usb.Trace
  rc : GPIBTransportError

def Performs (t : KUSB488BTransport) (e : Performance) (t' : KUSB488BTransport) : Prop :=
  ∃ fuel, Run (e.transfer.perform fuel t) e.trace (e.rc, t')

/-- No failed transfer leaves the engine armed. -/
def Performance.LeavesDisarmed (e : Performance) : Prop :=
  e.rc ≠ .ok → (engineAfter e.trace).armed = false

/-- One transfer, from any state of the transport. -/
theorem Performs.leavesDisarmed_iff {t' : KUSB488BTransport} {e : Performance}
    (h : Performs t e t') : e.LeavesDisarmed ↔ ¬ e.transfer.Abandoned e.trace := by
  obtain ⟨transfer, u, rc⟩ := e
  obtain ⟨fuel, hrun⟩ := h
  cases transfer with
  | sendCommandBytes cmds =>
      have hjudged : Follows [] (t.sendCommandBytes cmds)
          fun u r => Judged statusLenCmd countWidthCmd u r.1 := by
        unfold sendCommandBytes
        refine follows_ite (fun _ => follows_pure ?_) fun _ => ?_
        · exact iff_of_true (fun h => absurd rfl h) not_abandons_nil
        refine follows_bind (follows_releaseRfdHoldoffIfPending t) fun u t' hu => ?_
        exact follows_bind (follows_sendCommandsLoop _ _ (hu _ _)) fun w rc hw => follows_pure hw
      exact hjudged u _ hrun
  | writeData buf hlen sendEoi timeoutUs =>
      have hjudged : Follows [] (t.writeData buf sendEoi timeoutUs)
          fun u r => Judged statusLenWrite countWidthData u r.1.rc := by
        unfold writeData
        refine follows_ite (fun _ => follows_pure ?_) fun _ => ?_
        · exact iff_of_true (fun h => absurd rfl h) not_abandons_nil
        refine follows_bind (follows_releaseRfdHoldoffIfPending t) fun u t' hu => ?_
        exact follows_bind (follows_writeLoop _ _ _ _ _ _ hlen (hu _ _)) fun w r hw =>
          follows_pure hw
      obtain ⟨r, hr, heq⟩ := run_map_iff.mp hrun
      cases heq
      exact hjudged u _ hr
  | readData requestCount eosChar eosFlags timeoutUs =>
      obtain ⟨r, hr, heq⟩ := run_map_iff.mp hrun
      cases heq
      exact iff_of_true (follows_readData fuel t _ _ _ _ u _ hr) id

/-- In every run of transfers, from any state of the transport: the failed ones leave the engine
disarmed if and only if none is abandoned. -/
theorem engine_left_disarmed_iff {start : KUSB488BTransport → Prop}
    {performed : List (KUSB488BTransport × Performance)}
    (h : History start Performs performed t) :
    (∀ e ∈ performed, e.2.LeavesDisarmed) ↔
      ∀ e ∈ performed, ¬ e.2.transfer.Abandoned e.2.trace := by
  constructor
  · intro hdisarmed e he
    obtain ⟨t', hstep⟩ := h.exists_step he
    exact hstep.leavesDisarmed_iff.mp (hdisarmed e he)
  · intro hkept e he
    obtain ⟨t', hstep⟩ := h.exists_step he
    exact hstep.leavesDisarmed_iff.mpr (hkept e he)

/-! ## A write of one byte -/

/-- The header of the write is accepted. -/
def begunWrite : Usb.Trace :=
  [Usb.mapped,
    ⟨.controlOut reqBeginWrite (writeWValue true true) 0 (transferHeader 1 3000000),
      ⟨.success, Fin.last 8⟩⟩]

/-- The pipe stalls, and the driver recovers. -/
def stalledWrite : Performance where
  transfer := .writeData [0x2A] (by decide) true 3000000
  trace := begunWrite ++
    [Usb.mapped, ⟨.pipeOut .dataOut [0x2A] 3000, ⟨.other, 0⟩⟩,
      ⟨.controlOut reqAbort 0 0 [], ⟨.success, 0⟩⟩, ⟨.clearStall .dataOut, .success⟩,
      ⟨.clearStall .cmdOut, .success⟩, ⟨.clearStall .dataIn, .success⟩]
  rc := .errIo

/-- The device takes the byte and reports the state 3, an error. -/
def refusedWrite : Performance where
  transfer := .writeData [0x2A] (by decide) true 3000000
  trace := begunWrite ++
    [Usb.mapped, ⟨.pipeOut .dataOut [0x2A] 3000, ⟨.success, 1⟩⟩, ⟨.uptime, (1 : UInt64)⟩,
      ⟨.uptime, (2 : UInt64)⟩] ++
      statusRead statusLenWrite ⟨.success, [3, 0, 0, 0, 0, 0], by decide⟩
  rc := .errIo

theorem performs_stalledWrite : Performs cabled stalledWrite cabled :=
  ⟨0, .ask (.ask (.ask (.ask (.ask (.ask (.ask (.ask (.pure _))))))))⟩

/-- One round of the poll settles it. -/
theorem run_pollStatus_refused :
    Run (cabled.pollStatus statusLenWrite countWidthData 3000000)
      ([⟨.uptime, (1 : UInt64)⟩, ⟨.uptime, (2 : UInt64)⟩] ++
        statusRead statusLenWrite ⟨.success, [3, 0, 0, 0, 0, 0], by decide⟩) (.errIo, 0) := by
  have hround (fuel : Nat) : Run
      (cabled.pollLoop statusLenWrite countWidthData (1 + UInt64.ofNat (3000000 * 1000))
        (fuel + 1) 0)
      (⟨.uptime, (2 : UInt64)⟩ ::
        statusRead statusLenWrite ⟨.success, [3, 0, 0, 0, 0, 0], by decide⟩) (.errIo, 0) :=
    .ask (.ask (.ask (.pure _)))
  have hlimit : kStatusPollLimit = 99999 + 1 := by decide
  have hroom : ¬ statusLenWrite > 16 := by decide
  have hclock : Run (deadlineAfter 3000000) [⟨.uptime, (1 : UInt64)⟩]
      (1 + UInt64.ofNat (3000000 * 1000)) :=
    .ask (.pure _)
  unfold pollStatus
  rw [if_neg hroom, hlimit]
  exact hclock.bind (hround 99999)

theorem performs_refusedWrite : Performs cabled refusedWrite cabled := by
  have hbegin : Run (cabled.beginTransfer reqBeginWrite (writeWValue true true) 0 1 3000000)
      begunWrite .ok :=
    .ask (.ask (.pure _))
  have hbulk : Run (cabled.bulkOut .dataOut true [0x2A] 3000000)
      [Usb.mapped, ⟨.pipeOut .dataOut [0x2A] 3000, ⟨.success, 1⟩⟩] .ok :=
    .ask (.ask (.pure _))
  have hloop : Run (cabled.writeLoop true 3000000 2 [0x2A] 0 0) refusedWrite.trace ⟨.errIo, 0⟩ := by
    unfold writeLoop
    exact hbegin.bind (hbulk.bind (run_pollStatus_refused.bind (.pure _)))
  exact ⟨0, run_map_iff.mpr ⟨_, hloop.bind (.pure _), rfl⟩⟩

/-- The write that stalled leaves the engine disarmed. -/
theorem engine_disarmed_behind_stall : stalledWrite.LeavesDisarmed := by
  have hrun : History (· = cabled) Performs [(cabled, stalledWrite)] cabled :=
    .step (.start rfl) performs_stalledWrite
  have hkept : ¬ Abandons statusLenWrite countWidthData stalledWrite.trace := by
    intro h
    have hlast : stalledWrite.trace =
        stalledWrite.trace.dropLast ++ [⟨.clearStall .dataIn, .success⟩] :=
      rfl
    rw [hlast] at h
    simpa using h.last
  have habandoned : ∀ e ∈ [(cabled, stalledWrite)], ¬ e.2.transfer.Abandoned e.2.trace := by
    intro e he
    obtain rfl := List.mem_singleton.mp he
    exact hkept
  exact (engine_left_disarmed_iff hrun).mpr habandoned _ List.mem_cons_self

/-- The write that the device refused has failed, and its BEGIN request is not aborted. -/
theorem engine_left_armed :
    History (· = cabled) Performs [(cabled, refusedWrite)] cabled ∧ refusedWrite.rc = .errIo ∧
      engineAfter refusedWrite.trace = ⟨true, 1⟩ ∧ ¬ refusedWrite.LeavesDisarmed := by
  have hengine : engineAfter refusedWrite.trace = ⟨true, 1⟩ := by decide
  refine ⟨.step (.start rfl) performs_refusedWrite, rfl, hengine, fun h => ?_⟩
  have hdisarmed := h (by decide)
  simp [hengine] at hdisarmed

end KUSB488BTransport

end DarwinGpib
