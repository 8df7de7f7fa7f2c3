import DarwinGpib.Transfer.Arrivals
import DarwinGpib.Transfer.NiReadResponse

/-!
# What a write reports

`writeData` reports a result code and a number of bytes. `WriteTruth` compares them with what
the adapter itself said about the bytes it took, read off the arrivals of the run.
-/

namespace DarwinGpib

open Interaction Usb

/-- The result of a write of `len` bytes tells the truth. The adapter acknowledged
`acknowledged` bytes; `reported` is the total that a status block reporting a failure carries,
with what earlier chunks acknowledged. -/
structure WriteTruth (len acknowledged : Nat) (reported : Option Nat) (r : WriteResult) :
    Prop where
  le : r.bytesWritten ≤ len
  ok : r.rc = .ok → acknowledged = len ∧ r.bytesWritten = len
  failed : ∀ n, reported = some n → r.bytesWritten = n

/-! ## KUSB-488B -/

namespace KUSB488BTransport

/-- An arrival that leaves `pollStatus` polling: no full status block, or a busy one. -/
def Unsettled (statusLen : Nat) (a : Arrival) : Prop :=
  a.status = .success → statusLen ≤ a.bytes.length → a.bytes[0]? = some stateBusy

/-- What `pollStatus` brings: unsettled blocks, and then one whose outcome it returns or an
error without one. -/
def Polled (statusLen countWidth : Nat) (as : List Arrival) (r : GPIBTransportError × Nat) :
    Prop :=
  (r.1 ≠ .ok ∧ ∀ a ∈ as, Unsettled statusLen a) ∨
    ∃ before a, as = before ++ [a] ∧ (∀ b ∈ before, Unsettled statusLen b) ∧
      a.status = .success ∧ statusLen ≤ a.bytes.length ∧ a.bytes[0]? ≠ some stateBusy ∧
      statusOutcome statusLen countWidth a.bytes = some r

theorem Polled.cons {statusLen countWidth : Nat} {as bs : List Arrival}
    {r : GPIBTransportError × Nat} (h : Polled statusLen countWidth bs r)
    (has : ∀ a ∈ as, Unsettled statusLen a) : Polled statusLen countWidth (as ++ bs) r := by
  rcases h with ⟨hr, hbs⟩ | ⟨before, a, rfl, hbefore, ha⟩
  · left
    refine ⟨hr, ?_⟩
    intro a ha
    rcases List.mem_append.mp ha with ha | ha
    · exact has a ha
    · exact hbs a ha
  · right
    refine ⟨as ++ before, a, by simp, ?_, ha⟩
    intro b hb
    rcases List.mem_append.mp hb with hb | hb
    · exact has b hb
    · exact hbefore b hb

theorem brings_pollLoop (t : KUSB488BTransport) (statusLen countWidth : Nat)
    (deadline : UInt64) (fuel : Nat) (glitchStart : UInt64) :
    Brings (t.pollLoop statusLen countWidth deadline fuel glitchStart)
      (Polled statusLen countWidth) := by
  have habort : Ensures Request.Inbound t.abortTransfer fun _ => True :=
    t.ensures_controlOut (fun _ h => h.arrives.moves.carries) (fun h => h)
  induction fuel generalizing glitchStart with
  | zero =>
      unfold pollLoop
      refine brings_quiet_bind habort fun _ _ => ?_
      exact brings_pure (.inl ⟨by simp, by simp⟩)
  | succ fuel ih =>
      unfold pollLoop
      refine brings_quiet_bind
        (ensures_deadlinePassed (fun _ h => h.arrives.moves.carries) deadline) fun late _ => ?_
      apply brings_ite
      · intro _
        refine brings_quiet_bind habort fun _ _ => ?_
        exact brings_pure (.inl ⟨by simp, by simp⟩)
      intro _
      refine brings_bind (t.brings_block _ _ _ _ _ statusLen) ?_
      rintro as ⟨rc, buf⟩ hfetch
      apply brings_ite
      · -- A glitch: whatever arrived was no full block.
        intro hglitch
        have has : ∀ a ∈ as, Unsettled statusLen a := by
          intro a ha hstatus hlen
          exact absurd hlen (Nat.not_le.mpr (hfetch.glitch hglitch a ha hstatus))
        refine brings_call_bind id fun now => ?_
        apply brings_ite
        · intro _
          refine (ih _).mono ?_
          intro bs r hr
          exact hr.cons has
        intro _
        apply brings_ite
        · intro _
          exact brings_pure (.inl ⟨by simp, by simpa using has⟩)
        · intro _
          refine (ih _).mono ?_
          intro bs r hr
          exact hr.cons has
      · intro hfull
        obtain ⟨hrc, hlen⟩ := not_or.mp hfull
        obtain rfl := hfetch.full hfull
        refine brings_checked_bind fun state hstate => ?_
        apply brings_ite
        · intro hbusy
          subst hbusy
          refine (ih _).mono ?_
          intro bs r hr
          refine hr.cons ?_
          intro a ha
          obtain rfl := List.mem_singleton.mp ha
          exact fun _ _ => hstate
        · intro hsettled
          refine brings_checked fun r hr => ?_
          right
          refine ⟨[], _, rfl, by simp, rfl, by simpa using hlen, ?_, hr⟩
          simpa [hstate] using hsettled

theorem brings_pollStatus (t : KUSB488BTransport) (statusLen countWidth timeoutUs : Nat) :
    Brings (t.pollStatus statusLen countWidth timeoutUs) (Polled statusLen countWidth) := by
  unfold pollStatus
  apply brings_ite
  · intro _
    exact brings_pure (.inl ⟨by simp, by simp⟩)
  intro _
  refine brings_quiet_bind
    (ensures_deadlineAfter (fun _ h => h.arrives.moves.carries) timeoutUs) fun deadline _ => ?_
  exact t.brings_pollLoop _ _ deadline _ _

/-! ### The ledger of a write -/

/-- What a status block of a write says: the transfer is done, or it failed, with a count. -/
inductive BlockSays where
  | done (count : Nat)
  | failed (count : Nat)
  deriving DecidableEq, Repr

/-- What an arrival says, if it is a full status block that has left the busy state. -/
def writeStatus (a : Arrival) : Option BlockSays :=
  if a.status = .success ∧ statusLenWrite ≤ a.bytes.length ∧
      a.bytes[0]? ≠ some stateBusy then
    (statusOutcome statusLenWrite countWidthData a.bytes).map fun r =>
      if r.1 = .ok then .done r.2 else .failed r.2
  else none

/-- How the status blocks of a write leave off: without a failure, with a count that is not
that of the chunk, or with a failed transfer. -/
inductive Ending where
  | unfailed
  | short (count : Nat)
  | failed (count : Nat)
  deriving DecidableEq, Repr

/-- The bytes acknowledged chunk by chunk when `left` bytes are to be written, and the ending;
`chunk` is the length of the next chunk. -/
def ledger (chunk : Nat → Nat) : (left : Nat) → List Arrival → Nat × Ending
  | _, [] => (0, .unfailed)
  | left, a :: as =>
      match writeStatus a with
      | none => ledger chunk left as
      | some (.failed n) => (0, .failed n)
      | some (.done n) =>
          if n = chunk left then
            (n + (ledger chunk (left - n) as).1, (ledger chunk (left - n) as).2)
          else (0, .short n)

/-- All bytes that the status blocks acknowledge. -/
def acknowledged (l : Nat × Ending) : Nat :=
  match l.2 with
  | .unfailed => l.1
  | .short n | .failed n => l.1 + n

/-- The total that a status block reporting a failure carries. -/
def reported (l : Nat × Ending) : Option Nat :=
  match l.2 with
  | .unfailed => none
  | .short n | .failed n => some (l.1 + n)

/-- No short chunk is reported with more bytes than there were, and no failed one with any. -/
def Plausible (len : Nat) (l : Nat × Ending) : Prop :=
  match l.2 with
  | .unfailed => True
  | .short n => l.1 + n ≤ len
  | .failed n => n = 0

theorem writeStatus_of_unsettled {a : Arrival} (h : Unsettled statusLenWrite a) :
    writeStatus a = none := by
  unfold writeStatus
  rw [if_neg]
  rintro ⟨hstatus, hlen, hbusy⟩
  exact hbusy (h hstatus hlen)

theorem ledger_of_unsettled (chunk : Nat → Nat) {left : Nat} {before as : List Arrival}
    (h : ∀ a ∈ before, Unsettled statusLenWrite a) :
    ledger chunk left (before ++ as) = ledger chunk left as := by
  induction before with
  | nil => rfl
  | cons a before ih =>
      have ha := writeStatus_of_unsettled (h a List.mem_cons_self)
      rw [List.cons_append, ledger, ha]
      exact ih fun b hb => h b (List.mem_cons_of_mem a hb)

theorem chunkLength_le (t : KUSB488BTransport) (left : Nat) : t.chunkLength left ≤ left := by
  unfold chunkLength
  split <;> omega

/-- What the chunk loop makes of the ledger, with `written` bytes behind it and `left` before
it. -/
def LoopResult (written left : Nat) (l : Nat × Ending) (r : WriteResult) : Prop :=
  l.1 ≤ left ∧
    match l.2 with
    | .unfailed =>
        r.bytesWritten = written + l.1 ∧ (r.rc = .ok → l.1 = left)
    | .short n => r.rc ≠ .ok ∧ r.bytesWritten = (written + l.1 + n) % 2 ^ 32
    | .failed _ => r.rc ≠ .ok ∧ r.bytesWritten = written + l.1

/-- A chunk that was acknowledged moves from what is left to what is written. -/
theorem LoopResult.chunk {written left n : Nat} {l : Nat × Ending} {r : WriteResult}
    (h : LoopResult (written + n) (left - n) l r) (hle : n ≤ left) :
    LoopResult written left (n + l.1, l.2) r := by
  obtain ⟨k, ending⟩ := l
  obtain ⟨hk, hending⟩ := h
  refine ⟨by simp only at hk ⊢; omega, ?_⟩
  cases ending with
  | unfailed =>
      obtain ⟨hbytes, hok⟩ := hending
      refine ⟨by simp only at hbytes ⊢; omega, fun h => ?_⟩
      have := hok h
      simp only at this ⊢
      omega
  | short m =>
      simp only [Nat.add_assoc] at hending ⊢
      exact hending
  | failed m =>
      simp only [Nat.add_assoc] at hending ⊢
      exact hending

theorem brings_writeLoop (t : KUSB488BTransport) (sendEoi : Bool) (timeoutUs fuel : Nat)
    (rest : List UInt8) (written : Nat) (hlen : written + rest.length < 2 ^ 32) :
    Brings (t.writeLoop sendEoi timeoutUs fuel rest written written)
      fun as r => LoopResult written rest.length (ledger t.chunkLength rest.length as) r := by
  induction fuel generalizing rest written with
  | zero => exact fun u r h => absurd h Usb.not_run_outOfFuel
  | succ fuel ih =>
      unfold writeLoop beginTransfer
      apply brings_ite
      · intro hempty
        exact brings_pure ⟨Nat.zero_le _, rfl, fun _ => hempty.symm⟩
      intro _
      refine brings_quiet_bind
        (t.ensures_controlOut (fun _ h => h.arrives.moves.carries) (fun h => h)) fun rc _ => ?_
      apply brings_ite
      · intro hrc
        exact brings_pure ⟨Nat.zero_le _, rfl, fun h => absurd h hrc⟩
      intro _
      refine brings_quiet_bind
        (t.ensures_bulkOut (fun h => h) (fun h => h) (fun _ _ h => h) _ _ _) fun rc _ => ?_
      apply brings_ite
      · intro hrc
        refine brings_quiet_bind
          (t.ensures_recoverFirmwareEngine fun _ h => h.arrives.moves.carries) fun _ _ => ?_
        exact brings_pure ⟨Nat.zero_le _, rfl, fun h => absurd h hrc⟩
      intro _
      refine brings_bind (t.brings_pollStatus _ _ _) ?_
      rintro as ⟨rc, count⟩ hpoll
      have hchunk : (rest.take (t.chunkLength rest.length)).length = t.chunkLength rest.length :=
        List.length_take_of_le (t.chunkLength_le rest.length)
      rcases hpoll with ⟨hbad, has⟩ | ⟨before, a, rfl, hbefore, hstatus, hfull, hbusy, hsays⟩
      · -- No status block: the write breaks off with the earlier chunks.
        simp only at hbad ⊢
        rw [if_pos hbad]
        refine brings_pure ?_
        rw [ledger_of_unsettled _ has]
        exact ⟨Nat.zero_le _, rfl, fun h => absurd h hbad⟩
      have hledger (bs : List Arrival) : ledger t.chunkLength rest.length (before ++ [a] ++ bs) =
          ledger t.chunkLength rest.length (a :: bs) := by
        rw [List.append_assoc, ledger_of_unsettled _ hbefore, List.singleton_append]
      have hwrite : writeStatus a = some (if rc = .ok then .done count else .failed count) := by
        rw [writeStatus, if_pos ⟨hstatus, hfull, hbusy⟩, hsays]
        rfl
      apply brings_ite
      · intro hrc
        refine brings_pure ?_
        rw [hledger, ledger, hwrite, if_neg hrc]
        exact ⟨Nat.zero_le _, hrc, rfl⟩
      intro hrc
      rw [if_pos (not_not.mp hrc)] at hwrite
      apply brings_ite
      · intro hcount
        rw [hchunk] at hcount
        refine brings_pure ?_
        rw [hledger, ledger, hwrite]
        simp only [if_neg hcount]
        exact ⟨Nat.zero_le _, by simp, rfl⟩
      · intro hcount
        have hcount' : count = t.chunkLength rest.length := by rw [← hchunk, not_not.mp hcount]
        have hle := t.chunkLength_le rest.length
        have hleft : (rest.drop (rest.take (t.chunkLength rest.length)).length).length =
            rest.length - count := by rw [hchunk, List.length_drop, hcount']
        have hwritten : (written + count) % 2 ^ 32 =
            written + (rest.take (t.chunkLength rest.length)).length := by
          rw [hchunk, hcount', Nat.mod_eq_of_lt (by omega)]
        rw [hwritten]
        refine (ih _ _ (by rw [hleft, hchunk]; omega)).mono ?_
        intro bs r hr
        rw [hleft, hchunk, ← hcount'] at hr
        rw [hledger, ledger, hwrite]
        simp only [if_pos hcount']
        exact hr.chunk (by omega)

/-- A write over the firmware tells the truth exactly when its ledger is plausible. -/
theorem writeTruth_iff {t t' : KUSB488BTransport} {buf : List UInt8} {sendEoi : Bool}
    {timeoutUs : Nat} {u : Usb.Trace} {r : WriteResult} (hpos : 1 ≤ buf.length)
    (hlen : buf.length < 2 ^ 32) (hrun : Run (t.writeData buf sendEoi timeoutUs) u (r, t')) :
    WriteTruth buf.length (acknowledged (ledger t.chunkLength buf.length (arrivals u)))
        (reported (ledger t.chunkLength buf.length (arrivals u))) r ↔
      Plausible buf.length (ledger t.chunkLength buf.length (arrivals u)) := by
  have hloop : LoopResult 0 buf.length (ledger t.chunkLength buf.length (arrivals u)) r := by
    have hbrings : Brings (t.writeData buf sendEoi timeoutUs) fun as r =>
        LoopResult 0 buf.length (ledger t.chunkLength buf.length as) r.1 := by
      unfold writeData
      rw [if_neg (by omega)]
      refine brings_quiet_bind
        (t.ensures_releaseRfdHoldoffIfPending fun _ h => h.arrives.moves.carries) fun t'' ht'' => ?_
      have hchunk : t''.chunkLength = t.chunkLength := by rw [ht'']; rfl
      have hwrite := t''.brings_writeLoop sendEoi timeoutUs (buf.length + 1) buf 0 (by omega)
      rw [hchunk] at hwrite
      refine brings_bind hwrite ?_
      intro as r hr
      exact brings_pure (by simpa using hr)
    exact hbrings.of_run hrun
  generalize ledger t.chunkLength buf.length (arrivals u) = l at hloop ⊢
  obtain ⟨k, ending⟩ := l
  obtain ⟨hk, hending⟩ := hloop
  cases ending with
  | unfailed =>
      obtain ⟨hbytes, hok⟩ := hending
      simp only [Nat.zero_add] at hk hbytes hok
      refine ⟨fun _ => trivial, fun _ => ⟨by omega, fun h => ?_, by simp [reported]⟩⟩
      exact ⟨hok h, by rw [hbytes, hok h]⟩
  | short n =>
      obtain ⟨hrc, hbytes⟩ := hending
      simp only [Nat.zero_add] at hk hbytes
      constructor
      · intro h
        have hle := h.le
        have hreported := h.failed (k + n) rfl
        simp only [Plausible]
        omega
      · intro h
        simp only [Plausible] at h
        rw [Nat.mod_eq_of_lt (by omega)] at hbytes
        exact ⟨by omega, fun h => absurd h hrc, by simp [reported, hbytes]⟩
  | failed n =>
      obtain ⟨hrc, hbytes⟩ := hending
      simp only [Nat.zero_add] at hk hbytes
      constructor
      · intro h
        have hreported := h.failed (k + n) rfl
        simp only [Plausible]
        omega
      · intro h
        simp only [Plausible] at h
        refine ⟨by omega, fun h => absurd h hrc, ?_⟩
        simp [reported, hbytes, h]

end KUSB488BTransport

/-! ## NI -/

namespace NIUSBTransport

/-- The status block that answers a write. -/
def writeStatus : List Arrival → Option StatusBlock
  | [a] => if a.status = .success ∧ 8 ≤ a.bytes.length then parseStatusBlock a.bytes 0 else none
  | _ => none

/-- The number of bytes that one packet carries of a write of `len` bytes. -/
def payloadLength (len : Nat) : Nat := min kMaxPayload len

/-- A status block counts the bytes that are left over. -/
def transferred (len : Nat) (st : StatusBlock) : Nat := payloadLength len - st.count.toNat

def acknowledged (len : Nat) (as : List Arrival) : Nat :=
  ((writeStatus as).map (transferred len)).getD 0

/-- What a status block with an error code reports as transferred. -/
def reported (len : Nat) (as : List Arrival) : Option Nat :=
  match writeStatus as with
  | some st => if mapNiError st.errorCode = .ok then none else some (transferred len st)
  | none => none

/-- A status block without an error leaves nothing over, and the write fits one packet. -/
def Plausible (len : Nat) (as : List Arrival) : Prop :=
  ∀ st, writeStatus as = some st → mapNiError st.errorCode = .ok →
    st.count = 0 ∧ len ≤ kMaxPayload

theorem brings_writeData (t : NIUSBTransport) (buf : List UInt8) (sendEoi : Bool)
    (timeoutUs : Nat) (hpos : 1 ≤ buf.length) :
    Brings (t.writeData buf sendEoi timeoutUs) fun as r =>
      (writeStatus as = none ∧ r.rc ≠ .ok ∧ r.bytesWritten = 0) ∨
        ∃ st, writeStatus as = some st ∧
          r = ⟨mapNiError st.errorCode, transferred buf.length st⟩ := by
  unfold writeData
  rw [if_neg (by omega)]
  refine brings_quiet_bind (t.ensures_bulkOut (fun h => h) (fun h => h)) fun rc _ => ?_
  apply brings_ite
  · intro hrc
    exact brings_pure (.inl ⟨rfl, hrc, rfl⟩)
  intro _
  refine brings_bind (t.brings_bulkIn _ _) ?_
  rintro as ⟨rc, resp⟩ hfetch
  rcases hfetch with ⟨rfl, heq⟩ | ⟨status, bytes, rfl, heq⟩
  · cases heq
    exact brings_pure (.inl ⟨rfl, by simp [WriteResult.nothing], rfl⟩)
  cases heq
  by_cases hstatus : status = .success
  · subst hstatus
    by_cases hlen : 8 ≤ bytes.length
    · obtain ⟨st, hst⟩ := Option.isSome_iff_exists.mp (parseStatusBlock_isSome bytes 0 hlen)
      have hwrite : writeStatus
          ([⟨.pipeIn .bulkIn (min 32 kBulkBufferSize) (usbTimeoutMs timeoutUs), .success,
            bytes⟩] ++ []) = some st := by
        simp [writeStatus, hlen, hst]
      simp only [mapIOReturn, ne_eq, not_true_eq_false, if_true, if_false, Nat.not_lt.mpr hlen,
        hst, Usb.checked, pure_bind]
      refine brings_pure (.inr ⟨st, hwrite, ?_⟩)
      simp only [transferred, payloadLength, List.length_take]
      congr 1
      split <;> omega
    · simp only [mapIOReturn, ne_eq, not_true_eq_false, if_true, if_false,
        Nat.not_le.mp hlen]
      exact brings_pure (.inl ⟨by simp [writeStatus, hlen], by simp [WriteResult.nothing], rfl⟩)
  · have hrc : mapIOReturn status ≠ .ok := by simpa using hstatus
    simp only [ne_eq, hrc, not_false_eq_true, if_true]
    exact brings_pure (.inl ⟨by simp [writeStatus, hstatus], hrc, rfl⟩)

/-- A write to the NI adapter tells the truth exactly when its status block is plausible. -/
theorem writeTruth_iff {t : NIUSBTransport} {buf : List UInt8} {sendEoi : Bool}
    {timeoutUs : Nat} {u : Usb.Trace} {r : WriteResult} (hpos : 1 ≤ buf.length)
    (hrun : Run (t.writeData buf sendEoi timeoutUs) u r) :
    WriteTruth buf.length (acknowledged buf.length (arrivals u))
        (reported buf.length (arrivals u)) r ↔ Plausible buf.length (arrivals u) := by
  rcases (t.brings_writeData buf sendEoi timeoutUs hpos).of_run hrun with
    ⟨hnone, hrc, hbytes⟩ | ⟨st, hst, rfl⟩
  · constructor
    · intro _ st hst
      rw [hnone] at hst
      cases hst
    · intro _
      exact ⟨by omega, fun h => absurd h hrc, by simp [reported, hnone]⟩
  · have hle : transferred buf.length st ≤ buf.length :=
      Nat.le_trans (Nat.sub_le _ _) (Nat.min_le_right _ _)
    have hacknowledged : acknowledged buf.length (arrivals u) = transferred buf.length st := by
      simp [acknowledged, hst]
    by_cases hok : mapNiError st.errorCode = .ok
    · have hreported : reported buf.length (arrivals u) = none := by
        simp [reported, hst, hok]
      have hall : transferred buf.length st = buf.length ↔
          st.count = 0 ∧ buf.length ≤ kMaxPayload := by
        rw [← UInt16.toNat_inj]
        simp only [transferred, payloadLength, UInt16.toNat_zero]
        omega
      rw [hacknowledged, hreported]
      constructor
      · intro h st' hst' _
        obtain rfl := Option.some.inj (hst.symm.trans hst')
        exact hall.mp (h.ok hok).1
      · intro h
        have hcount := hall.mpr (h st hst hok)
        exact ⟨hle, fun _ => ⟨hcount, hcount⟩, by simp⟩
    · constructor
      · intro _ st' hst' hok'
        obtain rfl := Option.some.inj (hst.symm.trans hst')
        exact absurd hok' hok
      · intro _
        refine ⟨hle, fun h => absurd h hok, ?_⟩
        simp [reported, hst, hok]

end NIUSBTransport

/-! ## Agilent -/

namespace Agilent82357Transport

/-- The count of a fetched write-complete status. -/
def statusCount : List Arrival → Option Nat
  | [a] =>
      if a.request = .controlIn controlRequest xferStatus 0 statusDataLen ∧
          a.status = .success ∧ 6 ≤ a.bytes.length then
        some (fromLe32 (a.bytes.getD 2 0) (a.bytes.getD 3 0) (a.bytes.getD 4 0)
          (a.bytes.getD 5 0))
      else none
  | _ => none

/-- If the adapter took the packet, its status was fetched and counts all bytes. -/
def Plausible (buf : List UInt8) (sendEoi : Bool) (u : Usb.Trace) : Prop :=
  accepted .bulkOut u = writePacket (buf.take kMaxPayload) sendEoi →
    statusCount (arrivals u) = some buf.length

/-- A bulk-out succeeds when all of its bytes are taken. -/
theorem leaves_bulkOut (t : Agilent82357Transport) {bytes : List UInt8} (timeoutUs : Nat)
    (hbytes : bytes ≠ []) :
    Leaves (t.bulkOut bytes timeoutUs)
      fun u rc => rc = .ok ↔ accepted .bulkOut u = bytes := by
  intro u rc hrun
  constructor
  · rintro rfl
    obtain ⟨-, -, -, rfl⟩ := run_bulkOut_ok_iff.mp hrun
    simp [accepted, acceptedBy, Usb.mapped, Usb.sent]
  · intro haccepted
    unfold bulkOut at hrun
    simp only [run_ite_iff, run_pure_iff, run_call_bind_iff] at hrun
    rcases hrun with ⟨-, rfl, -⟩ | ⟨-, ⟨-, rfl, -⟩ | ⟨-, ret, v, rfl, ⟨-, rfl, -⟩ |
      ⟨-, io, w, rfl, ⟨hio, rfl, -⟩ | ⟨hio, rfl, rfl⟩⟩⟩⟩
    · exact absurd haccepted.symm hbytes
    · exact absurd haccepted.symm hbytes
    · exact absurd haccepted.symm hbytes
    · simp [accepted, acceptedBy, hio] at haccepted
      exact absurd haccepted hbytes
    · have hle := Nat.lt_succ_iff.mp io.transferred.isLt
      have htake : bytes.take io.transferred.val = bytes := by
        simpa [accepted, acceptedBy, not_not.mp hio] using haccepted
      have hall := congrArg List.length htake
      rw [List.length_take_of_le hle] at hall
      rw [if_pos hall]

/-- What `writeData` does once its packet is taken. -/
def StatusFetched (w : Usb.Trace) (r : WriteResult) : Prop :=
  accepted .bulkOut w = [] ∧ r.rc = .ok ∧
    ∀ n, statusCount (arrivals w) = some n → r.bytesWritten = n

/-- A taken packet is answered with `ok`, whatever its status says. -/
theorem leaves_writeData (t : Agilent82357Transport) (buf : List UInt8) (sendEoi : Bool)
    (timeoutUs : Nat) (hpos : 1 ≤ buf.length) :
    Leaves (t.writeData buf sendEoi timeoutUs) fun u r =>
      if accepted .bulkOut u = writePacket (buf.take kMaxPayload) sendEoi then
        r.rc = .ok ∧ ∀ n, statusCount (arrivals u) = some n → r.bytesWritten = n
      else r.rc ≠ .ok ∧ r.bytesWritten = 0 := by
  unfold writeData
  rw [if_neg (by omega)]
  have hsend := t.leaves_bulkOut timeoutUs
    (show writePacket (buf.take kMaxPayload) sendEoi ≠ [] by simp [writePacket])
  have hquiet : Ensures Request.Inbound
      (t.bulkOut (writePacket (buf.take kMaxPayload) sendEoi) timeoutUs) fun _ => True :=
    t.ensures_bulkOut (fun h => h) (fun h => h)
  refine leaves_bind (fun u rc hrun => And.intro (hsend u rc hrun) (hquiet.leaves u rc hrun)) ?_
  intro u rc ⟨hiff, hu⟩
  obtain ⟨hnil, hsettled⟩ := arrivals_eq_nil hu.1
  apply leaves_ite
  · intro hrc
    refine leaves_bind (leaves_quiet
      (t.ensures_sendAbort (fun _ => Request.Outbound.overPipe) false) .bulkOut) ?_
    rintro v _ ⟨hv, -⟩
    refine leaves_pure ?_
    have hrejected : accepted .bulkOut u ≠ writePacket (buf.take kMaxPayload) sendEoi :=
      fun h => hrc (hiff.mpr h)
    simp [hv, hrejected, hrc, WriteResult.nothing]
  intro hrc
  have htaken := hiff.mp (not_not.mp hrc)
  refine Leaves.mono (R := StatusFetched) ?_ ?_
  · apply leaves_ite
    · intro _
      exact leaves_pure ⟨rfl, rfl, by simp [statusCount]⟩
    intro _
    refine leaves_call_bind fun ret => ?_
    apply leaves_ite
    · intro _
      exact leaves_pure ⟨rfl, rfl, by simp [arrivals_cons, arrival, statusCount]⟩
    intro _
    refine leaves_call_bind fun io => ?_
    apply leaves_ite
    · intro hio
      refine leaves_call_bind fun ret' => ?_
      apply leaves_ite
      · intro hret
        refine leaves_pure ⟨rfl, rfl, ?_⟩
        simp [arrivals_cons, arrival, statusCount, Arrival.mappedBy, hio.1, hret]
      · intro hret w r hrun
        obtain ⟨rfl, hr⟩ := run_checked_iff.mp hrun
        have h₂ : 2 < io.bytes.length := by omega
        have h₃ : 3 < io.bytes.length := by omega
        have h₄ : 4 < io.bytes.length := by omega
        have h₅ : 5 < io.bytes.length := by omega
        simp [h₂, h₃, h₄, h₅] at hr
        subst hr
        refine ⟨rfl, rfl, ?_⟩
        simp [arrivals_cons, arrival, statusCount, Arrival.mappedBy, hio.1, hio.2,
          not_not.mp hret, h₂, h₃, h₄, h₅]
    · intro hio
      refine leaves_pure ⟨rfl, rfl, ?_⟩
      have hnone : statusCount [⟨.controlIn controlRequest xferStatus 0 statusDataLen,
          io.status, io.bytes⟩] = none := by
        rw [statusCount, if_neg]
        rintro ⟨-, h⟩
        exact hio h
      simp [arrivals_cons, arrival, Arrival.mappedBy, hnone]
  · intro w r hw
    rw [accepted_append, hw.1, List.append_nil, if_pos htaken, arrivals_append hsettled, hnil]
    exact hw.2

/-- A write to the Agilent adapter tells the truth exactly when a taken packet is followed by a
status that counts all bytes. -/
theorem writeTruth_iff {t : Agilent82357Transport} {buf : List UInt8} {sendEoi : Bool}
    {timeoutUs : Nat} {u : Usb.Trace} {r : WriteResult} (hpos : 1 ≤ buf.length)
    (hrun : Run (t.writeData buf sendEoi timeoutUs) u r) :
    WriteTruth buf.length ((statusCount (arrivals u)).getD 0) none r ↔
      Plausible buf sendEoi u := by
  have hspec := t.leaves_writeData buf sendEoi timeoutUs hpos u r hrun
  beta_reduce at hspec
  split at hspec
  · rename_i htaken
    obtain ⟨hok, hbytes⟩ := hspec
    constructor
    · intro h _
      have hall := (h.ok hok).1
      cases hcount : statusCount (arrivals u) with
      | none =>
          rw [hcount, Option.getD_none] at hall
          omega
      | some n => rw [← hall, hcount, Option.getD_some]
    · intro h
      have hcount := h htaken
      have hwritten := hbytes _ hcount
      exact ⟨by omega, fun _ => ⟨by rw [hcount, Option.getD_some], hwritten⟩, by simp⟩
  · rename_i hrejected
    obtain ⟨hrc, hbytes⟩ := hspec
    exact ⟨fun _ h => absurd h hrejected,
      fun _ => ⟨by omega, fun h => absurd h hrc, by simp⟩⟩

/-- The exchanges of a write of one byte whose status is fetched. -/
def statusTrace (byte : UInt8) (sendEoi : Bool) (timeoutUs : Nat) (status : List UInt8)
    (h : status.length ≤ statusDataLen) : Usb.Trace :=
  [Usb.mapped,
    Usb.sent .bulkOut (writePacket [byte] sendEoi) (msFromUsec timeoutUs) (Fin.last _),
    ⟨.create statusDataLen, .success⟩,
    ⟨.controlIn controlRequest xferStatus 0 statusDataLen, ⟨.success, status, h⟩⟩,
    Usb.mapped]

/-- A write of one byte reports the count of its status. -/
theorem run_writeData_statusTrace (byte : UInt8) (sendEoi : Bool) (timeoutUs : Nat)
    (c₀ c₁ c₂ c₃ : UInt8) :
    Run (attached.writeData [byte] sendEoi timeoutUs)
      (statusTrace byte sendEoi timeoutUs [0, 0, c₀, c₁, c₂, c₃, 0, 0] (Nat.le_refl 8))
      ⟨.ok, fromLe32 c₀ c₁ c₂ c₃⟩ := by
  have hpacket : (writePacket [byte] sendEoi).length ≤ kBulkBufferSize := by
    simp [writePacket, le32, kBulkBufferSize]
  exact (run_bulkOut_ok_iff.mpr ⟨rfl, rfl, hpacket, rfl⟩).bind (.ask (.ask (.ask (.pure _))))

end Agilent82357Transport

/-! ## All three -/

/-- On each transport, a run of `writeData` tells the truth exactly when the adapter's status
blocks are plausible: on the KUSB-488B none counts more than was left or counts bytes of a failed
chunk; on NI none without an error leaves bytes over, or answers a write that was cut to one
packet; on Agilent a taken packet is followed by a status that counts all bytes. -/
theorem write_truth_iff (buf : List UInt8) (sendEoi : Bool) (timeoutUs : Nat) :
    (∀ (t t' : KUSB488BTransport) u r,
      1 ≤ buf.length → buf.length < 2 ^ 32 →
      Run (t.writeData buf sendEoi timeoutUs) u (r, t') →
        (WriteTruth buf.length
            (KUSB488BTransport.acknowledged
              (KUSB488BTransport.ledger t.chunkLength buf.length (arrivals u)))
            (KUSB488BTransport.reported
              (KUSB488BTransport.ledger t.chunkLength buf.length (arrivals u))) r ↔
          KUSB488BTransport.Plausible buf.length
            (KUSB488BTransport.ledger t.chunkLength buf.length (arrivals u)))) ∧
    (∀ (t : NIUSBTransport) u r,
      1 ≤ buf.length → Run (t.writeData buf sendEoi timeoutUs) u r →
        (WriteTruth buf.length (NIUSBTransport.acknowledged buf.length (arrivals u))
            (NIUSBTransport.reported buf.length (arrivals u)) r ↔
          NIUSBTransport.Plausible buf.length (arrivals u))) ∧
    ∀ (t : Agilent82357Transport) u r,
      1 ≤ buf.length → Run (t.writeData buf sendEoi timeoutUs) u r →
        (WriteTruth buf.length ((Agilent82357Transport.statusCount (arrivals u)).getD 0) none r ↔
          Agilent82357Transport.Plausible buf sendEoi u) :=
  ⟨fun _ _ _ _ hpos hlen hrun => KUSB488BTransport.writeTruth_iff hpos hlen hrun,
    fun _ _ _ hpos hrun => NIUSBTransport.writeTruth_iff hpos hrun,
    fun _ _ _ hpos hrun => Agilent82357Transport.writeTruth_iff hpos hrun⟩

/-- A byte that the status counts is truly written. -/
theorem write_truth_counted_byte :
    WriteTruth 1
      ((Agilent82357Transport.statusCount (arrivals (Agilent82357Transport.statusTrace 0x41 true
        1000000 [0, 0, 1, 0, 0, 0, 0, 0] (by decide)))).getD 0) none ⟨.ok, 1⟩ := by
  have hrun := Agilent82357Transport.run_writeData_statusTrace 0x41 true 1000000 1 0 0 0
  exact ((write_truth_iff [0x41] _ _).2.2 _ _ _ (by decide) hrun).mpr fun _ => rfl

/-- A byte that the status does not count is reported as `ok` all the same. -/
theorem write_reports_uncounted_byte :
    Run (Agilent82357Transport.attached.writeData [0x41] true 1000000)
        (Agilent82357Transport.statusTrace 0x41 true 1000000 [0, 0, 0, 0, 0, 0, 0, 0]
          (by decide)) ⟨.ok, 0⟩ ∧
      ¬ WriteTruth 1
        ((Agilent82357Transport.statusCount (arrivals (Agilent82357Transport.statusTrace 0x41 true
          1000000 [0, 0, 0, 0, 0, 0, 0, 0] (by decide)))).getD 0) none ⟨.ok, 0⟩ := by
  refine ⟨Agilent82357Transport.run_writeData_statusTrace 0x41 true 1000000 0 0 0 0, ?_⟩
  intro h
  exact absurd (h.ok rfl).2 (by decide)

end DarwinGpib
