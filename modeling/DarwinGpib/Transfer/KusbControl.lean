import DarwinGpib.Model.Kusb488B

/-!
# Control traffic of the KUSB-488B

Arming, aborting and polling a transfer: which requests these never make, whatever the adapter
answers. `bad` ranges over the requests of interest, so that one lemma serves array bounds and
the accounting of transferred bytes.
-/

namespace DarwinGpib

open Interaction

namespace Usb

/-- The requests that arm a read. -/
def Request.ArmsRead : Request → Prop
  | controlOut request _ _ _ => request = KUSB488BTransport.reqBeginRead
  | _ => False

/-- Requests that arm a transfer of data. -/
def Request.ArmsData : Request → Prop
  | controlOut request _ _ _ =>
      request = KUSB488BTransport.reqBeginRead ∨ request = KUSB488BTransport.reqBeginWrite
  | _ => False

/-- Requests that aborting a transfer, or arming one that sends, never makes. -/
def Request.Moves : Request → Prop
  | pipeOut _ _ _ | pipeIn _ _ _ | controlIn _ _ _ _ | overrun | outOfFuel => True
  | i => i.ArmsRead

/-- Requests that polling a transfer never makes either. -/
def Request.OverPipe : Request → Prop
  | pipeOut _ _ _ | pipeIn _ _ _ | overrun | outOfFuel => True
  | i => i.ArmsRead

/-- Requests that handing bytes to a pipe never makes. -/
def Request.Arrives : Request → Prop
  | pipeIn _ _ _ | controlIn _ _ _ _ | overrun => True
  | i => i.ArmsRead

/-- Requests that aborting a transfer, or arming one of commands, never makes. -/
def Request.Carries : Request → Prop
  | pipeOut _ _ _ | pipeIn _ _ _ | controlIn _ _ _ _ | overrun | outOfFuel => True
  | i => i.ArmsData

/-- Requests that polling such a transfer never makes either. -/
def Request.Streams : Request → Prop
  | pipeOut _ _ _ | pipeIn _ _ _ | overrun | outOfFuel => True
  | i => i.ArmsData

theorem Request.Arrives.moves {i : Request} (h : i.Arrives) : i.Moves := by
  cases i <;> simp_all [Request.Arrives, Request.Moves]

theorem Request.Moves.carries {i : Request} (h : i.Moves) : i.Carries := by
  cases i <;> simp_all [Request.Moves, Request.Carries, Request.ArmsRead, Request.ArmsData]

theorem Request.OverPipe.streams {i : Request} (h : i.OverPipe) : i.Streams := by
  cases i <;> simp_all [Request.OverPipe, Request.Streams, Request.ArmsRead, Request.ArmsData]

theorem Request.Streams.carries {i : Request} (h : i.Streams) : i.Carries := by
  cases i <;> simp_all [Request.Streams, Request.Carries]

/-- Requests that hand bytes to a pipe. -/
def Request.Outbound : Request → Prop
  | pipeOut _ _ _ => True
  | _ => False

theorem Request.Outbound.overPipe {i : Request} (h : i.Outbound) : i.OverPipe := by
  cases i <;> simp_all [Request.Outbound, Request.OverPipe]

/-- Requests that take bytes from a pipe. -/
def Request.Fetches : Request → Prop
  | pipeIn _ _ _ => True
  | _ => False

theorem Request.Fetches.overPipe {i : Request} (h : i.Fetches) : i.OverPipe := by
  cases i <;> simp_all [Request.Fetches, Request.OverPipe]

theorem Request.Outbound.streams {i : Request} (h : i.Outbound) : i.Streams :=
  h.overPipe.streams

variable {bad : Request → Prop}

theorem ensures_checked {α : Type} {x : Option α} {Q : α → Prop}
    (h : ∃ a, x = some a ∧ Q a) : Ensures bad (checked x) Q := by
  obtain ⟨a, rfl, ha⟩ := h
  exact ensures_pure ha

theorem ensures_copyTo {room : Nat} {bytes : List UInt8} (h : bytes.length ≤ room) :
    Ensures bad (copyTo room bytes) (· = bytes) := by
  rw [copyTo, if_pos h]
  exact ensures_pure rfl

end Usb

namespace KUSB488BTransport

variable {bad : Usb.Request → Prop} (t : KUSB488BTransport)

section Arming

variable (hbad : ∀ i, bad i → i.Carries)

include hbad

theorem ensures_controlOut {request : UInt8} {wValue wIndex : UInt16} {data : List UInt8}
    (h : ¬ bad (.controlOut request wValue wIndex data)) :
    Ensures bad (t.controlOut request wValue wIndex data) fun _ => True := by
  have hrequest : Ensures bad (deviceRequestOut request wValue wIndex data) fun _ => True := by
    unfold deviceRequestOut
    refine ensures_call_bind h fun io => ?_
    exact ensures_ite (fun _ => ensures_pure trivial) fun _ => ensures_pure trivial
  unfold controlOut
  refine ensures_ite (fun _ => ensures_pure trivial) fun _ => ?_
  refine ensures_ite (fun _ => ?_) fun _ => hrequest
  refine ensures_ite (fun _ => ensures_pure trivial) fun _ => ?_
  refine ensures_call_bind (hbad _) fun kr => ?_
  exact ensures_ite (fun _ => ensures_pure trivial) fun _ => hrequest

/-- A control transfer that arms no transfer of data. -/
theorem ensures_controlOut_of_ne {request : UInt8}
    (hne : request ≠ reqBeginRead ∧ request ≠ reqBeginWrite) (wValue wIndex : UInt16)
    (data : List UInt8) :
    Ensures bad (t.controlOut request wValue wIndex data) fun _ => True :=
  t.ensures_controlOut hbad fun h => (hbad _ h).elim hne.1 hne.2

theorem ensures_clearStall (hasPipe : Bool) (pipe : Pipe) :
    Ensures bad (clearStall hasPipe pipe) fun _ => True := by
  unfold clearStall
  refine ensures_ite (fun _ => ?_) fun _ => ensures_pure trivial
  exact ensures_call_bind (hbad _) fun _ => ensures_pure trivial

theorem ensures_recoverFirmwareEngine : Ensures bad t.recoverFirmwareEngine fun _ => True := by
  unfold recoverFirmwareEngine abortTransfer
  refine ensures_bind (t.ensures_controlOut_of_ne hbad (by decide) _ _ _) fun _ _ => ?_
  refine ensures_bind (ensures_clearStall hbad _ _) fun _ _ => ?_
  refine ensures_bind (ensures_clearStall hbad _ _) fun _ _ => ?_
  exact ensures_clearStall hbad _ _

theorem ensures_writeRawRegister (reg : UInt16) (value : UInt8) :
    Ensures bad (t.writeRawRegister reg value) fun _ => True :=
  t.ensures_controlOut_of_ne hbad (by decide) _ _ _

/-- Releasing a holdoff clears its record and nothing else. -/
theorem ensures_releaseRfdHoldoffIfPending :
    Ensures bad t.releaseRfdHoldoffIfPending
      fun t' => t' = { t with rfdHoldoffPending := false } := by
  unfold releaseRfdHoldoffIfPending
  refine ensures_ite (fun h => ensures_pure ?_) fun _ => ?_
  · obtain ⟨⟩ := t
    simp_all
  · exact ensures_bind (t.ensures_writeRawRegister hbad _ _) fun _ _ => ensures_pure rfl

theorem ensures_deadlinePassed (deadline : UInt64) :
    Ensures bad (deadlinePassed deadline) fun _ => True := by
  unfold deadlinePassed
  refine ensures_ite (fun _ => ensures_pure trivial) fun _ => ?_
  exact ensures_call_bind (hbad _) fun _ => ensures_pure trivial

theorem ensures_deadlineAfter (timeoutUs : Nat) :
    Ensures bad (deadlineAfter timeoutUs) fun _ => True := by
  unfold deadlineAfter
  refine ensures_ite (fun _ => ensures_pure trivial) fun _ => ?_
  exact ensures_call_bind (hbad _) fun _ => ensures_pure trivial

end Arming

/-- The result that a read makes of a status block of at least seven bytes. -/
theorem readOutcome_eq_some (requestCount : Nat) (buf : List UInt8) {status : List UInt8}
    (hlen : statusMinRead ≤ status.length) :
    ∃ count ended, readOutcome requestCount buf status =
      some ⟨.ok, buf, min (min count requestCount) buf.length, ended⟩ := by
  have hmin : statusMinRead = 7 := rfl
  have h₂ : 2 < status.length := by omega
  have h₃ : 3 < status.length := by omega
  have h₄ : 4 < status.length := by omega
  have h₅ : 5 < status.length := by omega
  have h₆ : 6 < status.length := by omega
  refine ⟨fromLe32 status[2] status[3] status[4] status[5], status[6] = 1, ?_⟩
  simp [readOutcome, h₂, h₃, h₄, h₅, h₆]

/-- A status block of full length has every field that `statusOutcome` reads. -/
theorem statusOutcome_isSome {statusLen : Nat} (countWidth : Nat) {buf : List UInt8}
    (hmin : 4 ≤ statusLen) (hlen : statusLen ≤ buf.length) :
    (statusOutcome statusLen countWidth buf).isSome := by
  have h₀ : 0 < buf.length := by omega
  have h₁ : 1 < buf.length := by omega
  have h₂ : 2 < buf.length := by omega
  have h₃ : 3 < buf.length := by omega
  have hcount : (statusCount statusLen countWidth buf).isSome := by
    unfold statusCount
    by_cases hwide : countWidth = 4 ∧ 6 ≤ statusLen
    · have h₄ : 4 < buf.length := by omega
      have h₅ : 5 < buf.length := by omega
      simp [h₂, h₃, h₄, h₅, hwide]
    · simp [h₂, h₃, hwide]
  obtain ⟨count, hcount⟩ := Option.isSome_iff_exists.mp hcount
  by_cases hstate : buf[0] = stateDone <;> simp [statusOutcome, h₀, h₁, hcount, hstate]

section Polling

variable (hbad : ∀ i, bad i → i.Streams)

include hbad

theorem ensures_controlIn (request : UInt8) (wValue wIndex : UInt16) {room len : Nat}
    (hroom : len ≤ room) :
    Ensures bad (t.controlIn request wValue wIndex room len) fun r => r.2.length ≤ len := by
  unfold controlIn
  refine ensures_ite (fun _ => ensures_pure (Nat.zero_le _)) fun _ => ?_
  refine ensures_ite (fun _ => ensures_pure (Nat.zero_le _)) fun _ => ?_
  refine ensures_call_bind (hbad _) fun io => ?_
  refine ensures_ite (fun _ => ensures_pure (Nat.zero_le _)) fun _ => ?_
  refine ensures_call_bind (hbad _) fun kr => ?_
  refine ensures_ite (fun _ => ensures_pure (Nat.zero_le _)) fun _ => ?_
  refine ensures_bind (Usb.ensures_copyTo (Nat.le_trans io.length_le hroom)) fun data hdata =>
    ensures_pure ?_
  rw [hdata]
  exact io.length_le

theorem ensures_pollLoop {statusLen countWidth : Nat} (hmin : 4 ≤ statusLen)
    (hmax : statusLen ≤ 16) (deadline : UInt64) (fuel : Nat) (glitchStart : UInt64) :
    Ensures bad (t.pollLoop statusLen countWidth deadline fuel glitchStart)
      fun _ => True := by
  have hcarries : ∀ i, bad i → i.Carries := fun i hi => (hbad i hi).carries
  induction fuel generalizing glitchStart with
  | zero =>
      unfold pollLoop abortTransfer
      exact ensures_bind (t.ensures_controlOut_of_ne hcarries (by decide) _ _ _)
        fun _ _ => ensures_pure trivial
  | succ fuel ih =>
      unfold pollLoop abortTransfer
      refine ensures_bind (ensures_deadlinePassed hcarries deadline) fun late _ => ?_
      refine ensures_ite (fun _ => ?_) fun _ => ?_
      · exact ensures_bind (t.ensures_controlOut_of_ne hcarries (by decide) _ _ _) fun _ _ =>
          ensures_pure trivial
      refine ensures_bind (t.ensures_controlIn hbad _ _ _ hmax) ?_
      rintro ⟨rc, buf⟩ -
      refine ensures_ite (fun _ => ?_) fun hfull => ?_
      · refine ensures_call_bind (hbad _) fun now => ?_
        refine ensures_ite (fun _ => ih _) fun _ => ?_
        exact ensures_ite (fun _ => ensures_pure trivial) fun _ => ih _
      · have hlen : statusLen ≤ buf.length := by
          have := not_or.mp hfull
          omega
        have h₀ : 0 < buf.length := by omega
        refine ensures_bind (P := fun _ => True)
          (Usb.ensures_checked ⟨_, List.getElem?_eq_getElem h₀, trivial⟩) fun state _ => ?_
        refine ensures_ite (fun _ => ih _) fun _ => ?_
        obtain ⟨r, hr⟩ := Option.isSome_iff_exists.mp
          (statusOutcome_isSome countWidth hmin hlen)
        exact Usb.ensures_checked ⟨r, hr, trivial⟩

theorem ensures_pollStatus {statusLen : Nat} (countWidth timeoutUs : Nat)
    (hmin : 4 ≤ statusLen) :
    Ensures bad (t.pollStatus statusLen countWidth timeoutUs) fun _ => True := by
  unfold pollStatus
  refine ensures_ite (fun _ => ensures_pure trivial) fun hmax => ?_
  refine ensures_bind (ensures_deadlineAfter (fun i hi => (hbad i hi).carries) _)
    fun deadline _ => ?_
  exact t.ensures_pollLoop hbad hmin (by omega) deadline _ _

end Polling

end KUSB488BTransport

end DarwinGpib
