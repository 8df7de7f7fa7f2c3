import DarwinGpib.Library.Rounds
import DarwinGpib.Transfer.BusyPolling

/-!
# The firmware read, round by round

`readDataViaFirmware` against a device with its own state, which answers bulk-ins and status
requests. A round is a bulk-in, when data is needed, and a status request; what a round does to
the loop is a function of the two answers.
-/

namespace DarwinGpib

open Interaction Looping

namespace KUSB488BTransport

/-! ## The device behind a read -/

/-- How a device answers a bulk-in with room for so many bytes, and a status request. -/
structure ReadDevice (δ : Type) where
  bulk : δ → Nat → StatusReply × δ
  status : δ → StatusReply × δ

variable {δ : Type}

/-- Everything else that a read asks of the USB stack succeeds. -/
def ReadDevice.answer (D : ReadDevice δ) (d : δ) : (i : Usb.Request) → Option (i.Reply × δ)
  | .map | .create _ | .clearStall _ | .reset => some (.success, d)
  | .controlOut _ _ _ _ => some (⟨.success, Fin.last _⟩, d)
  | .pipeIn _ capacity _ => some ((D.bulk d capacity).1.within capacity, (D.bulk d capacity).2)
  | .controlIn _ _ _ length => some ((D.status d).1.within length, (D.status d).2)
  | _ => none

/-- The transport has what a read needs. -/
structure ReadyToRead (t : KUSB488BTransport) : Prop where
  attached : t.Attached
  pipe : t.dataInPipe = true
  buffer : t.inBuffer = true

/-- A status that a read takes for a glitch. -/
def StatusReply.Glitch (r : StatusReply) : Prop :=
  r.status ≠ .success ∨ r.bytes.length < statusMinRead

instance (r : StatusReply) : Decidable r.Glitch := inferInstanceAs (Decidable (_ ∨ _))

/-- What a transfer with room for `n` bytes makes of an answer. -/
def StatusReply.outcome (r : StatusReply) (n : Nat) : GPIBTransportError × List UInt8 :=
  if r.status = .success then (.ok, r.bytes.take n) else (mapIOReturn r.status, [])

/-! ## Rounds -/

/-- Where the loop stands before a round. -/
structure ReadState (δ : Type) where
  needData : Bool
  buf : List UInt8
  glitchRetries : Nat
  device : δ

/-- The room of the bulk-in of a round. -/
def bulkRoom (requestCount : Nat) (buf : List UInt8) : Nat :=
  min (requestCount - buf.length) kBulkBufferSize

namespace ReadDevice

variable (D : ReadDevice δ) (requestCount : Nat)

/-- A round needs data and has room for it. -/
def Fetches (x : ReadState δ) : Prop := x.needData = true ∧ x.buf.length < requestCount

instance (x : ReadState δ) : Decidable (Fetches requestCount x) :=
  inferInstanceAs (Decidable (_ ∧ _))

/-- The bulk-in of a round, if it has one, when it goes through: the bytes stored and the device
behind it. -/
def fetch (x : ReadState δ) : Option (List UInt8 × δ) :=
  if Fetches requestCount x then
    let r := D.bulk x.device (bulkRoom requestCount x.buf)
    if r.1.status = .success then
      some (x.buf ++ r.1.bytes.take (bulkRoom requestCount x.buf), r.2)
    else none
  else some (x.buf, x.device)

/-- What the status of a round makes of the loop; nothing when it returns. -/
def follow (glitchRetries : Nat) (buf : List UInt8) (r : StatusReply) (d : δ) :
    Option (ReadState δ) :=
  if r.Glitch then
    if glitchRetries < 5 then some ⟨false, buf, glitchRetries + 1, d⟩ else none
  else if r.bytes[0]? = some stateBusy ∧ buf.length < requestCount then some ⟨true, buf, 0, d⟩
  else none

/-- A round; nothing when the loop returns in it. -/
def next (x : ReadState δ) : Option (ReadState δ) :=
  (D.fetch requestCount x).bind fun r =>
    follow requestCount x.glitchRetries r.1 (D.status r.2).1 (D.status r.2).2

end ReadDevice

/-! ## The loop makes these rounds -/

section Loop

variable {D : ReadDevice δ} {t : KUSB488BTransport} {requestCount : Nat}

theorem converse_abortTransfer (d : δ) :
    ∃ rc, converse D.answer t.abortTransfer d = some (rc, d) := by
  simp only [abortTransfer, controlOut, deviceRequestOut, converse_ite]
  split
  · exact ⟨_, rfl⟩
  · exact ⟨_, rfl⟩

theorem converse_clearStall (hasPipe : Bool) (pipe : Pipe) (d : δ) :
    converse D.answer (clearStall hasPipe pipe) d = some ((), d) := by
  cases hasPipe <;> rfl

theorem converse_recoverFirmwareEngine (d : δ) :
    converse D.answer t.recoverFirmwareEngine d = some ((), d) := by
  obtain ⟨rc, habort⟩ := converse_abortTransfer (D := D) (t := t) d
  simp only [recoverFirmwareEngine, converse_bind, habort, Option.bind_some, converse_clearStall]

theorem converse_readStatus (ht : t.ReadyToRead) (d : δ) :
    converse D.answer (t.controlIn reqStatus 0 0 16 statusLenRead) d =
      some ((D.status d).1.outcome statusLenRead, (D.status d).2) :=
  converse_controlIn_of ht.attached (by decide) (by decide) rfl rfl

theorem converse_bulkIn (ht : t.ReadyToRead) (buf : List UInt8) (timeoutUs : Nat) (d : δ) :
    converse D.answer (t.bulkIn (requestCount - buf.length) timeoutUs) d =
      some ((D.bulk d (bulkRoom requestCount buf)).1.outcome (bulkRoom requestCount buf),
        (D.bulk d (bulkRoom requestCount buf)).2) := by
  have hcopy (bytes : List UInt8) :
      Usb.copyTo (requestCount - buf.length) (bytes.take (bulkRoom requestCount buf)) =
        pure (bytes.take (bulkRoom requestCount buf)) :=
    if_pos (Nat.le_trans (List.length_take_le _ _) (Nat.min_le_left _ _))
  have hroom : min (requestCount - buf.length) kBulkBufferSize = bulkRoom requestCount buf := rfl
  simp only [bulkIn, ht.pipe, ht.buffer, hroom, Bool.not_true, Bool.or_self, Bool.false_eq_true,
    if_false, converse_call_bind, ReadDevice.answer, Option.bind_some, StatusReply.within,
    StatusReply.outcome]
  by_cases hr : (D.bulk d (bulkRoom requestCount buf)).1.status = .success
  · simp [hr, converse_call_bind, ReadDevice.answer, hcopy]
  · simp [hr]

/-- The bulk-in of a round, when it goes through. -/
theorem converse_fetchChunk_of_some (ht : t.ReadyToRead) (timeoutUs : Nat) {x : ReadState δ}
    {buf : List UInt8} {d : δ} (h : D.fetch requestCount x = some (buf, d)) :
    converse D.answer (t.fetchChunk requestCount timeoutUs x.needData x.buf) x.device =
      some ((.ok, buf), d) := by
  unfold fetchChunk
  by_cases hfetches : ReadDevice.Fetches requestCount x
  · have hneeds : (x.needData && decide (x.buf.length < requestCount)) = true := by
      simpa [ReadDevice.Fetches] using hfetches
    rw [ReadDevice.fetch, if_pos hfetches] at h
    obtain ⟨hr, heq⟩ := Option.ite_none_right_eq_some.mp h
    cases heq
    rw [if_pos hneeds, converse_bind, converse_bulkIn ht, StatusReply.outcome, if_pos hr]
    rfl
  · have hneeds : ¬ (x.needData && decide (x.buf.length < requestCount)) = true := by
      simpa [ReadDevice.Fetches] using hfetches
    rw [ReadDevice.fetch, if_neg hfetches] at h
    cases h
    rw [if_neg hneeds]
    rfl

/-- And when it does not. -/
theorem converse_fetchChunk_of_none (ht : t.ReadyToRead) (timeoutUs : Nat) {x : ReadState δ}
    (h : D.fetch requestCount x = none) :
    ∃ rc d, rc ≠ .ok ∧
      converse D.answer (t.fetchChunk requestCount timeoutUs x.needData x.buf) x.device =
        some ((rc, x.buf), d) := by
  unfold fetchChunk
  by_cases hfetches : ReadDevice.Fetches requestCount x
  · have hneeds : (x.needData && decide (x.buf.length < requestCount)) = true := by
      simpa [ReadDevice.Fetches] using hfetches
    rw [ReadDevice.fetch, if_pos hfetches] at h
    have hr : (D.bulk x.device (bulkRoom requestCount x.buf)).1.status ≠ .success := by
      intro hr
      cases (if_pos hr).symm.trans h
    rw [if_pos hneeds, converse_bind, converse_bulkIn ht, StatusReply.outcome, if_neg hr]
    refine ⟨_, (D.bulk x.device (bulkRoom requestCount x.buf)).2, mapIOReturn_eq_ok_iff.not.mpr hr,
      ?_⟩
    simp only [Option.bind_some, List.append_nil, converse_pure]
  · rw [ReadDevice.fetch, if_neg hfetches] at h
    cases h

/-- The loop with its state. -/
def loopFrom (D : ReadDevice δ) (t : KUSB488BTransport) (requestCount timeoutUs fuel : Nat)
    (x : ReadState δ) : Option (Except ReadResult (List UInt8 × List UInt8) × δ) :=
  converse D.answer
    (t.readLoop requestCount timeoutUs fuel x.needData x.buf x.glitchRetries) x.device

/-- What the loop returns after a status with which it does not go on. -/
def finished (buf : List UInt8) (r : StatusReply) : Except ReadResult (List UInt8 × List UInt8) :=
  if r.Glitch then .error ⟨.errIo, buf, 0, false⟩
  else if r.bytes[0]? = some stateDone ∨ r.bytes[0]? = some stateBusy then
    .ok (buf, r.bytes.take statusLenRead)
  else .error ⟨if r.bytes[1]? = some errAborted then .errTimeout else .errIo, buf, 0, false⟩

theorem outcome_of_glitch {r : StatusReply} (h : r.Glitch) :
    (r.outcome statusLenRead).1 ≠ .ok ∨ (r.outcome statusLenRead).2.length < statusMinRead := by
  unfold StatusReply.outcome
  by_cases hr : r.status = .success
  · refine .inr ?_
    rw [if_pos hr]
    exact Nat.lt_of_le_of_lt (List.length_take_le' _ _) (h.resolve_left (not_not.mpr hr))
  · rw [if_neg hr]
    exact .inl (mapIOReturn_eq_ok_iff.not.mpr hr)

/-- A round whose bulk-in fails is the last. -/
theorem loopFrom_of_fetch_eq_none (ht : t.ReadyToRead) (timeoutUs fuel : Nat) {x : ReadState δ}
    (h : D.fetch requestCount x = none) :
    ∃ rc d, rc ≠ .ok ∧ loopFrom D t requestCount timeoutUs (fuel + 1) x =
      some (.error ⟨rc, x.buf, 0, false⟩, d) := by
  obtain ⟨rc, d, hrc, hfetch⟩ := converse_fetchChunk_of_none ht timeoutUs h
  refine ⟨rc, d, hrc, ?_⟩
  rw [loopFrom, readLoop, converse_bind, hfetch]
  simp only [Option.bind_some, ne_eq, hrc, not_false_eq_true, if_true, converse_bind,
    converse_recoverFirmwareEngine, converse_pure]

/-- Otherwise the status decides. -/
theorem loopFrom_of_fetch_eq_some (ht : t.ReadyToRead) (timeoutUs fuel : Nat) {x : ReadState δ}
    {buf : List UInt8} {d : δ} (h : D.fetch requestCount x = some (buf, d)) :
    loopFrom D t requestCount timeoutUs (fuel + 1) x =
      match ReadDevice.follow requestCount x.glitchRetries buf (D.status d).1 (D.status d).2 with
      | some x' => loopFrom D t requestCount timeoutUs fuel x'
      | none => some (finished buf (D.status d).1, (D.status d).2) := by
  rw [loopFrom, readLoop, converse_bind, converse_fetchChunk_of_some ht timeoutUs h]
  simp only [Option.bind_some, ne_eq, not_true_eq_false, if_false, converse_bind,
    converse_readStatus ht]
  generalize (D.status d).1 = r
  generalize (D.status d).2 = d'
  by_cases hglitch : r.Glitch
  · have hfail := outcome_of_glitch hglitch
    simp only [ReadDevice.follow, finished, if_pos hglitch]
    rw [if_pos hfail]
    by_cases hretry : x.glitchRetries < 5
    · rw [if_pos hretry, if_pos hretry]
      rfl
    · rw [if_neg hretry, if_neg hretry, converse_bind, converse_recoverFirmwareEngine]
      rfl
  · obtain ⟨status, bytes⟩ := r
    obtain ⟨hstatus, hfull⟩ := not_or.mp hglitch
    obtain rfl : status = .success := not_not.mp hstatus
    obtain ⟨b₀, b₁, rest, rfl⟩ : ∃ b₀ b₁ rest, bytes = b₀ :: b₁ :: rest := by
      match bytes, hfull with
      | [], h | [_], h => simp [statusMinRead] at h
      | b₀ :: b₁ :: rest, _ => exact ⟨b₀, b₁, rest, rfl⟩
    have hlong : ¬ ((b₀ :: b₁ :: rest).take statusLenRead).length < statusMinRead := by
      rw [List.length_take]
      simp only [statusLenRead, statusMinRead] at hfull ⊢
      omega
    have houtcome : StatusReply.outcome ⟨.success, b₀ :: b₁ :: rest⟩ statusLenRead =
        (.ok, (b₀ :: b₁ :: rest).take statusLenRead) := if_pos rfl
    simp only [houtcome, not_true_eq_false, false_or, hlong, if_false]
    have hfirst : ((b₀ :: b₁ :: rest).take statusLenRead)[0]? = some b₀ := rfl
    have hsecond : ((b₀ :: b₁ :: rest).take statusLenRead)[1]? = some b₁ := rfl
    simp only [hfirst, hsecond, Usb.checked, pure_bind, ReadDevice.follow, finished, hglitch,
      if_false, List.getElem?_cons_zero, List.getElem?_cons_succ, Option.some.injEq]
    have hstates : stateDone ≠ stateBusy := by decide
    by_cases hdone : b₀ = stateDone
    · simp [hdone, hstates]
    by_cases hbusy : b₀ = stateBusy
    · by_cases hroom : buf.length < requestCount
      · simp only [hbusy, hroom, hstates.symm, Nat.not_le.mpr hroom, if_false,
          not_true_eq_false, and_self, if_true]
        rfl
      · simp only [hbusy, hroom, hstates.symm, Nat.le_of_not_lt hroom, if_false,
          not_true_eq_false, and_false, if_true, converse_bind, converse_recoverFirmwareEngine,
          Option.bind_some, converse_pure, or_true]
    · simp only [hdone, hbusy, if_false, not_false_eq_true, if_true, false_and, converse_bind,
        converse_recoverFirmwareEngine, Option.bind_some, converse_pure, or_self]

/-- The loop makes the rounds of `next`. -/
theorem roundByRound_readLoop (ht : t.ReadyToRead) (D : ReadDevice δ)
    (requestCount timeoutUs : Nat) :
    RoundByRound (D.next requestCount) (loopFrom D t requestCount timeoutUs) where
  zero _ := rfl
  goesOn fuel x x' hnext := by
    obtain ⟨⟨buf, d⟩, hfetch, hfollow⟩ := Option.bind_eq_some_iff.mp hnext
    rw [loopFrom_of_fetch_eq_some ht timeoutUs fuel hfetch, hfollow]
  returns fuel x hnext := by
    cases hfetch : D.fetch requestCount x with
    | none =>
        obtain ⟨rc, d, -, hloop⟩ := loopFrom_of_fetch_eq_none ht timeoutUs fuel hfetch
        exact ⟨_, hloop⟩
    | some fetched =>
        have hfollow : ReadDevice.follow requestCount x.glitchRetries fetched.1
            (D.status fetched.2).1 (D.status fetched.2).2 = none := by
          rw [ReadDevice.next, hfetch] at hnext
          exact hnext
        have hloop := loopFrom_of_fetch_eq_some ht timeoutUs fuel hfetch
        rw [hfollow] at hloop
        exact ⟨_, hloop⟩

/-! ## The whole read -/

/-- The loop of a read that has been armed. -/
def readStart (d : δ) : ReadState δ := ⟨true, [], 0, d⟩

theorem converse_beginTransfer (ht : t.Attached) (request : UInt8) (wValue wIndex : UInt16)
    (length timeoutUs : Nat) (d : δ) :
    converse D.answer (t.beginTransfer request wValue wIndex length timeoutUs) d =
      some (.ok, d) := by
  obtain ⟨hdevice, howner, hctrl⟩ := ht
  have hheader : (transferHeader length timeoutUs).length = 8 := rfl
  simp [beginTransfer, controlOut, deviceRequestOut, hdevice, howner, hctrl, hheader,
    converse_call_bind, ReadDevice.answer]

theorem converse_readData (ht : t.ReadyToRead) (fuel : Nat) (hpos : 1 ≤ requestCount)
    (eosChar eosFlags : UInt8) (timeoutUs : Nat) (d : δ) :
    converse D.answer (readData fuel t requestCount eosChar eosFlags timeoutUs) d =
      (loopFrom D t requestCount timeoutUs fuel (readStart d)).bind fun r =>
        match r.1 with
        | .error e => some (e, r.2)
        | .ok (buf, status) => (readOutcome requestCount buf status).map (·, r.2) := by
  have hzero : ¬ requestCount = 0 := by omega
  rw [readData, if_neg hzero, converse_bind, converse_beginTransfer ht.attached, loopFrom]
  simp only [Option.bind_some, ne_eq, not_true_eq_false, if_false, converse_bind, readStart]
  congr 1
  funext r
  obtain ⟨result, d'⟩ := r
  cases result with
  | error e => rfl
  | ok r =>
      obtain ⟨buf, status⟩ := r
      cases hout : readOutcome requestCount buf status <;> simp [Usb.checked, hout]
      rfl

/-- A loop that ends well has the whole status block. -/
theorem statusMinRead_le_of_loopFrom (ht : t.ReadyToRead) (timeoutUs : Nat) {fuel : Nat}
    {x : ReadState δ} {buf status : List UInt8} {d : δ}
    (h : loopFrom D t requestCount timeoutUs fuel x = some (.ok (buf, status), d)) :
    statusMinRead ≤ status.length := by
  induction fuel generalizing x with
  | zero => cases h
  | succ fuel ih =>
      cases hfetch : D.fetch requestCount x with
      | none =>
          obtain ⟨rc, d', -, hloop⟩ := loopFrom_of_fetch_eq_none ht timeoutUs fuel hfetch
          cases hloop.symm.trans h
      | some fetched =>
          rw [loopFrom_of_fetch_eq_some ht timeoutUs fuel hfetch] at h
          cases hfollow : ReadDevice.follow requestCount x.glitchRetries fetched.1
              (D.status fetched.2).1 (D.status fetched.2).2 with
          | some x' =>
              rw [hfollow] at h
              exact ih h
          | none =>
              rw [hfollow] at h
              obtain ⟨hfinished, -⟩ := Prod.mk.inj (Option.some.inj h)
              unfold finished at hfinished
              split at hfinished
              · cases hfinished
              · next hglitch =>
                  split at hfinished
                  · cases hfinished
                    have hfull := not_or.mp hglitch
                    rw [List.length_take]
                    simp only [statusLenRead, statusMinRead] at hfull ⊢
                    omega
                  · cases hfinished

/-- A read returns when its loop does. -/
theorem exists_converse_readData_iff (ht : t.ReadyToRead) (fuel : Nat) (hpos : 1 ≤ requestCount)
    (eosChar eosFlags : UInt8) (timeoutUs : Nat) (d : δ) :
    (∃ r, converse D.answer (readData fuel t requestCount eosChar eosFlags timeoutUs) d = some r) ↔
      ∃ r, loopFrom D t requestCount timeoutUs fuel (readStart d) = some r := by
  rw [converse_readData ht fuel hpos]
  constructor
  · rintro ⟨r, hr⟩
    obtain ⟨result, hloop, -⟩ := Option.bind_eq_some_iff.mp hr
    exact ⟨result, hloop⟩
  · rintro ⟨⟨result, d'⟩, hloop⟩
    rw [hloop]
    cases result with
    | error e => exact ⟨_, rfl⟩
    | ok r =>
        obtain ⟨buf, status⟩ := r
        obtain ⟨count, ended, hout⟩ := readOutcome_eq_some requestCount buf
          (statusMinRead_le_of_loopFrom ht timeoutUs hloop)
        exact ⟨_, congrArg (Option.map fun r => (r, d')) hout⟩

end Loop

theorem readyToRead_cabled : cabled.ReadyToRead := ⟨⟨rfl, rfl, rfl⟩, rfl, rfl⟩

end KUSB488BTransport

end DarwinGpib
