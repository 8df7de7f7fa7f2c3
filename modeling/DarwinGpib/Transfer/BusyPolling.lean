import DarwinGpib.Library.Conversation
import DarwinGpib.Transfer.KusbControl

/-!
# Polling a busy device

The device answers a status request with a packet that is one byte short while it is busy.
`pollStatus` counts such a packet as a glitch, and glitches end the poll half a second after
the first of them.
-/

namespace DarwinGpib

open Interaction

namespace KUSB488BTransport

/-! ## The clock and the device -/

/-- What the device makes of a status request. -/
structure StatusReply where
  status : IOReturn
  bytes : List UInt8
  deriving DecidableEq

/-- A request has room for `n` bytes. -/
def StatusReply.within (r : StatusReply) (n : Nat) : Usb.InReply n :=
  ⟨r.status, r.bytes.take n, List.length_take_le n r.bytes⟩

/-- The readings of the clock so far, and the replies that are still to come. -/
abbrev Script := Nat × List StatusReply

/-- The clock and the device behind one poll. -/
def Script.answer (clock : Nat → UInt64) (s : Script) :
    (i : Usb.Request) → Option (i.Reply × Script)
  | .uptime => some (clock s.1, (s.1 + 1, s.2))
  | .map => some (.success, s)
  | .controlIn _ _ _ length =>
      match s.2 with
      | [] => none
      | r :: rs => some (r.within length, (s.1, rs))
  | .controlOut _ _ _ _ => some (⟨.success, Fin.last _⟩, s)
  | _ => none

/-- The state BUSY in a packet that is one byte short. -/
def StatusReply.Busy (statusLen : Nat) (r : StatusReply) : Prop :=
  r.status = .success ∧ r.bytes.length + 1 = statusLen ∧ r.bytes[0]? = some stateBusy

def StatusReply.Refused (r : StatusReply) : Prop := r.status ≠ .success

/-- A full packet with another state. -/
def StatusReply.Terminal (statusLen : Nat) (r : StatusReply) : Prop :=
  r.status = .success ∧ r.bytes.length = statusLen ∧ r.bytes[0]? ≠ some stateBusy

/-! ## One round -/

section Rounds

variable {clock : Nat → UInt64} {t : KUSB488BTransport} {statusLen countWidth n : Nat}
  {deadline : UInt64} {r : StatusReply} {rs : List StatusReply}

/-- The transport has its device. -/
def Attached (t : KUSB488BTransport) : Prop :=
  t.device = true ∧ t.owner = true ∧ t.ctrlBuffer = true

/-- A control request against a device that answers it. -/
theorem converse_controlIn_of {δ : Type} {answer : δ → (i : Usb.Request) → Option (i.Reply × δ)}
    {d d' : δ} {request : UInt8} {wValue wIndex : UInt16} {room len : Nat} (ht : t.Attached)
    (hlen : len ≤ 64) (hroom : len ≤ room)
    (hcall : answer d (.controlIn request wValue wIndex len) = some (r.within len, d'))
    (hmap : answer d' .map = some (.success, d')) :
    converse answer (t.controlIn request wValue wIndex room len) d =
      some (if r.status = .success then (.ok, r.bytes.take len)
        else (mapIOReturn r.status, []), d') := by
  obtain ⟨hdevice, howner, hctrl⟩ := ht
  have hcopy : Usb.copyTo room (r.bytes.take len) = pure (r.bytes.take len) :=
    if_pos (Nat.le_trans (List.length_take_le _ _) hroom)
  simp only [controlIn, hdevice, howner, hctrl, Nat.not_lt.mpr hlen, Bool.not_true, Bool.or_self,
    Bool.false_eq_true, if_false, converse_call_bind, hcall, Option.bind_some,
    StatusReply.within]
  by_cases hr : r.status = .success
  · simp [hr, converse_call_bind, hmap, hcopy]
  · simp [hr]

theorem converse_controlIn (ht : t.Attached) (hlen : statusLen ≤ 16) :
    converse (Script.answer clock) (t.controlIn reqStatus 0 0 16 statusLen) (n, r :: rs) =
      some (if r.status = .success then (.ok, r.bytes.take statusLen)
        else (mapIOReturn r.status, []), (n, rs)) :=
  converse_controlIn_of ht (by omega) hlen rfl rfl

/-- A check of the deadline that is not late. -/
theorem converse_deadlinePassed (hlate : deadline = 0 ∨ clock n ≤ deadline) :
    converse (Script.answer clock) (deadlinePassed deadline) (n, rs) =
      some (false, (if deadline = 0 then n else n + 1, rs)) := by
  unfold deadlinePassed
  by_cases hdeadline : deadline = 0
  · simp [hdeadline]
  · have hle := hlate.resolve_left hdeadline
    rw [if_neg hdeadline, if_neg hdeadline, converse_call_bind]
    simp [Script.answer, UInt64.not_lt.mpr hle]

/-- The reading that is taken of the clock when an answer falls short. -/
def readingAfter (deadline : UInt64) (n : Nat) : Nat := if deadline = 0 then n else n + 1

/-- A round in which the device does not answer in full. -/
theorem converse_short (countWidth : Nat) (rs : List StatusReply) (ht : t.Attached)
    (hlen : statusLen ≤ 16) (hlate : deadline = 0 ∨ clock n ≤ deadline)
    (hr : r.status ≠ .success ∨ r.bytes.length < statusLen) (fuel : Nat) (glitchStart : UInt64) :
    converse (Script.answer clock) (t.pollLoop statusLen countWidth deadline (fuel + 1) glitchStart)
        (n, r :: rs) =
      let now := clock (readingAfter deadline n)
      let after : Script := (readingAfter deadline n + 1, rs)
      if glitchStart = 0 then
        converse (Script.answer clock) (t.pollLoop statusLen countWidth deadline fuel now) after
      else if now - glitchStart > kStatusGlitchBudgetNs then some ((.errIo, 0), after)
      else
        converse (Script.answer clock) (t.pollLoop statusLen countWidth deadline fuel glitchStart)
          after := by
  have hglitch : (if r.status = .success then (GPIBTransportError.ok, r.bytes.take statusLen)
      else (mapIOReturn r.status, [])).1 ≠ .ok ∨
      (if r.status = .success then (GPIBTransportError.ok, r.bytes.take statusLen)
        else (mapIOReturn r.status, [])).2.length < statusLen := by
    rcases hr with hr | hr
    · exact .inl (by simp [hr])
    · by_cases hs : r.status = .success
      · refine .inr ?_
        rw [if_pos hs]
        exact Nat.lt_of_le_of_lt (List.length_take_le' _ _) hr
      · exact .inl (by simp [hs])
  rw [pollLoop, converse_bind, converse_deadlinePassed hlate]
  simp only [Option.bind_some, Bool.false_eq_true, if_false]
  rw [converse_bind, converse_controlIn ht hlen]
  simp only [Option.bind_some, if_pos hglitch]
  rw [converse_call_bind]
  simp only [Script.answer, Option.bind_some, readingAfter, converse_ite, converse_pure]
  rfl

/-- A round in which the device answers in full. -/
theorem converse_terminal (ht : t.Attached) (hlen : statusLen ≤ 16)
    (hlate : deadline = 0 ∨ clock n ≤ deadline) (hr : r.Terminal statusLen)
    {out : GPIBTransportError × Nat} (hout : statusOutcome statusLen countWidth r.bytes = some out)
    (fuel : Nat) (glitchStart : UInt64) :
    converse (Script.answer clock) (t.pollLoop statusLen countWidth deadline (fuel + 1) glitchStart)
        (n, r :: rs) = some (out, (readingAfter deadline n, rs)) := by
  obtain ⟨hs, hlength, hstate⟩ := hr
  have htake : r.bytes.take statusLen = r.bytes := List.take_of_length_le (Nat.le_of_eq hlength)
  obtain ⟨state, hfirst, -⟩ := Option.bind_eq_some_iff.mp hout
  have hne : state ≠ stateBusy := by
    rintro rfl
    exact hstate hfirst
  rw [pollLoop, converse_bind, converse_deadlinePassed hlate]
  simp only [Option.bind_some, Bool.false_eq_true, if_false]
  rw [converse_bind, converse_controlIn ht hlen]
  simp [hs, htake, hlength, hfirst, hne, hout, Usb.checked, readingAfter]

/-! ## The whole poll -/

def NonDecreasing (readings : Nat → UInt64) : Prop :=
  ∀ i j, i ≤ j → readings i ≤ readings j

/-- No two of the first `n` readings, the earlier of them not 0, are further apart than the
budget. -/
def WithinBudget (readings : Nat → UInt64) (n : Nat) : Prop :=
  ∀ i j, i ≤ j → j < n → readings i ≠ 0 → readings j - readings i ≤ kStatusGlitchBudgetNs

/-- The same, counted from a glitch that started earlier if it is not 0. -/
def WithinBudgetSince (glitchStart : UInt64) (readings : Nat → UInt64) (n : Nat) : Prop :=
  if glitchStart = 0 then WithinBudget readings n
  else ∀ j < n, readings j - glitchStart ≤ kStatusGlitchBudgetNs

theorem toNat_sub_le_sub {a b c : UInt64} (hab : a ≤ b) (hbc : b ≤ c) : c - b ≤ c - a := by
  rw [UInt64.le_iff_toNat_le, UInt64.toNat_sub_of_le _ _ hbc,
    UInt64.toNat_sub_of_le _ _ (UInt64.le_trans hab hbc)]
  have := UInt64.le_iff_toNat_le.mp hab
  omega

/-- The first reading starts the glitch. -/
theorem withinBudget_succ {readings : Nat → UInt64} (hmono : NonDecreasing readings) (n : Nat) :
    WithinBudget readings (n + 1) ↔
      WithinBudgetSince (readings 0) (fun k => readings (k + 1)) n := by
  unfold WithinBudgetSince
  split
  · rename_i hzero
    constructor
    · intro h i j hij hj hi
      exact h (i + 1) (j + 1) (by omega) (by omega) hi
    · intro h i j hij hj hi
      cases i with
      | zero => exact absurd hzero hi
      | succ i =>
          obtain ⟨j, rfl⟩ := Nat.exists_eq_add_of_le' (show 1 ≤ j by omega)
          exact h i j (by omega) (by omega) hi
  · rename_i hstart
    constructor
    · intro h j hj
      exact h 0 (j + 1) (by omega) (by omega) hstart
    · intro h i j hij hj _
      refine UInt64.le_trans (toNat_sub_le_sub (hmono _ _ (Nat.zero_le i)) (hmono _ _ hij)) ?_
      cases j with
      | zero => simp
      | succ j => exact h j (by omega)

theorem withinBudgetSince_succ {readings : Nat → UInt64} {glitchStart : UInt64}
    (hstart : glitchStart ≠ 0) (n : Nat) :
    WithinBudgetSince glitchStart readings (n + 1) ↔
      readings 0 - glitchStart ≤ kStatusGlitchBudgetNs ∧
        WithinBudgetSince glitchStart (fun k => readings (k + 1)) n := by
  simp only [WithinBudgetSince, if_neg hstart]
  constructor
  · intro h
    exact ⟨h 0 (Nat.succ_pos n), fun j hj => h (j + 1) (by omega)⟩
  · intro h j hj
    cases j with
    | zero => exact h.1
    | succ j => exact h.2 j (by omega)

/-- The clock readings of a poll that go with its answers, from reading `n` on. -/
def glitchReading (clock : Nat → UInt64) (deadline : UInt64) (n k : Nat) : UInt64 :=
  if deadline = 0 then clock (n + k) else clock (n + 2 * k + 1)

theorem glitchReading_zero (n : Nat) :
    glitchReading clock deadline n 0 = clock (readingAfter deadline n) := by
  unfold glitchReading readingAfter
  split <;> rfl

/-- The readings after the next answer. -/
theorem glitchReading_next (n : Nat) :
    glitchReading clock deadline (readingAfter deadline n + 1) =
      fun k => glitchReading clock deadline n (k + 1) := by
  funext k
  unfold glitchReading readingAfter
  split
  · rw [Nat.add_right_comm, Nat.add_assoc]
  · congr 1
    omega

theorem nonDecreasing_glitchReading (hmono : NonDecreasing clock) (n : Nat) :
    NonDecreasing (glitchReading clock deadline n) := by
  intro i j hij
  unfold glitchReading
  split <;> exact hmono _ _ (by omega)

/-- What a poll comes to after some answers that fall short and one in full. -/
theorem converse_pollLoop (ht : t.Attached) (hlen : statusLen ≤ 16) (hmono : NonDecreasing clock)
    {terminal : StatusReply} (hterminal : terminal.Terminal statusLen)
    {out : GPIBTransportError × Nat}
    (hout : statusOutcome statusLen countWidth terminal.bytes = some out)
    {pending : List StatusReply}
    (hpending : ∀ r ∈ pending, r.status ≠ .success ∨ r.bytes.length < statusLen)
    (hlate : deadline = 0 ∨ clock (n + 2 * pending.length) ≤ deadline) {fuel : Nat}
    (hfuel : pending.length < fuel) (glitchStart : UInt64) :
    ∃ result s, converse (Script.answer clock)
        (t.pollLoop statusLen countWidth deadline fuel glitchStart)
        (n, pending ++ terminal :: rs) = some (result, s) ∧
      (result = out ∧ s.2 = rs ↔
        WithinBudgetSince glitchStart (glitchReading clock deadline n) pending.length) := by
  induction pending generalizing n fuel glitchStart with
  | nil =>
      obtain ⟨fuel, rfl⟩ := Nat.exists_eq_add_of_lt hfuel
      refine ⟨_, _, converse_terminal ht hlen (by simpa using hlate) hterminal hout _ _, ?_⟩
      simp [WithinBudgetSince, WithinBudget]
  | cons r pending ih =>
      obtain ⟨fuel, rfl⟩ := Nat.exists_eq_add_of_lt hfuel
      have hnow : deadline = 0 ∨ clock n ≤ deadline :=
        hlate.imp_right fun h => UInt64.le_trans (hmono _ _ (by omega)) h
      have hlater : deadline = 0 ∨
          clock (readingAfter deadline n + 1 + 2 * pending.length) ≤ deadline := by
        by_cases hd : deadline = 0
        · exact .inl hd
        · have hle := hlate.resolve_left hd
          simp only [List.length_cons, Nat.mul_add, Nat.mul_one] at hle
          rw [readingAfter, if_neg hd]
          exact .inr (by rwa [show n + 1 + 1 + 2 * pending.length =
            n + (2 * pending.length + 2) by omega])
      have hrest := fun r' h => hpending r' (List.mem_cons_of_mem r h)
      have hstep := converse_short countWidth (pending ++ terminal :: rs) ht hlen hnow
        (hpending r List.mem_cons_self) (pending.length + 1 + fuel) glitchStart
      rw [List.length_cons, List.cons_append, hstep]
      simp only [← glitchReading_zero n]
      by_cases hstart : glitchStart = 0
      · rw [if_pos hstart]
        obtain ⟨result, s, hrun, hiff⟩ := ih hrest hlater
          (show pending.length < pending.length + 1 + fuel by omega)
          (glitchReading clock deadline n 0)
        refine ⟨result, s, hrun, hiff.trans ?_⟩
        rw [glitchReading_next, ← withinBudget_succ (nonDecreasing_glitchReading hmono n),
          WithinBudgetSince, if_pos hstart]
      · rw [if_neg hstart, withinBudgetSince_succ hstart, ← glitchReading_next]
        by_cases hbudget :
            glitchReading clock deadline n 0 - glitchStart > kStatusGlitchBudgetNs
        · rw [if_pos hbudget]
          refine ⟨_, _, rfl, ?_⟩
          have hne : pending ++ terminal :: rs ≠ rs := by
            intro heq
            have := congrArg List.length heq
            simp at this
            omega
          simp [hne, UInt64.not_le.mpr hbudget]
        · rw [if_neg hbudget]
          obtain ⟨result, s, hrun, hiff⟩ := ih hrest hlater
            (show pending.length < pending.length + 1 + fuel by omega) glitchStart
          refine ⟨result, s, hrun, hiff.trans ?_⟩
          simp [UInt64.not_lt.mp hbudget]

/-- The clock readings that a poll with this timeout takes with its answers. -/
def pollReading (clock : Nat → UInt64) (timeoutUs k : Nat) : UInt64 :=
  if timeoutUs = 0 then clock k else clock (2 * k + 2)

/-- A deadline that has wrapped round to 0 can only be met by a clock that stands at 0. -/
theorem withinBudget_of_zero (hmono : NonDecreasing clock) {readings : Nat → UInt64} {last : Nat}
    (hlast : clock last ≤ 0) (hreadings : ∀ k < n, ∃ i ≤ last, readings k = clock i) :
    WithinBudget readings n := by
  intro i j hij hj hi
  obtain ⟨k, hk, heq⟩ := hreadings i (by omega)
  have hzero := UInt64.le_trans (hmono k last hk) hlast
  rw [UInt64.le_iff_toNat_le] at hzero
  exact absurd (UInt64.toNat_inj.mp (by simpa using hzero)) (heq ▸ hi)

/-- While the device is busy or refuses, `pollStatus` goes on to the terminal reply and returns
what it says, just when no two of the clock readings that it takes on the way are further apart
than the budget. Otherwise it gives up without having read that reply. -/
theorem pollStatus_outlasts_busy_iff (countWidth timeoutUs : Nat) (pending : List StatusReply)
    (terminal : StatusReply) (rs : List StatusReply) (ht : t.Attached) (hmin : 4 ≤ statusLen)
    (hlen : statusLen ≤ 16) (hmono : NonDecreasing clock)
    (hpending : ∀ r ∈ pending, r.Busy statusLen ∨ r.Refused)
    (hterminal : terminal.Terminal statusLen)
    (hdeadline : timeoutUs = 0 ∨
      clock (2 * pending.length + 1) ≤ clock 0 + UInt64.ofNat (timeoutUs * 1000))
    (hlimit : pending.length < kStatusPollLimit) :
    ∃ out result s, statusOutcome statusLen countWidth terminal.bytes = some out ∧
      converse (Script.answer clock) (t.pollStatus statusLen countWidth timeoutUs)
        (0, pending ++ terminal :: rs) = some (result, s) ∧
      (result = out ∧ s.2 = rs ↔ WithinBudget (pollReading clock timeoutUs) pending.length) := by
  obtain ⟨out, hout⟩ := Option.isSome_iff_exists.mp
    (statusOutcome_isSome countWidth hmin (Nat.le_of_eq hterminal.2.1.symm))
  have hshort : ∀ r ∈ pending, r.status ≠ .success ∨ r.bytes.length < statusLen := by
    intro r hr
    rcases hpending r hr with hbusy | hrefused
    · have := hbusy.2.1
      exact .inr (by omega)
    · exact .inl hrefused
  have hroom : ¬ statusLen > 16 := by omega
  have hloop (deadline : UInt64) {n : Nat}
      (hlate : deadline = 0 ∨ clock (n + 2 * pending.length) ≤ deadline) :
      ∃ result s, converse (Script.answer clock)
          (t.pollLoop statusLen countWidth deadline kStatusPollLimit 0)
          (n, pending ++ terminal :: rs) = some (result, s) ∧
        (result = out ∧ s.2 = rs ↔
          WithinBudgetSince 0 (glitchReading clock deadline n) pending.length) :=
    converse_pollLoop ht hlen hmono hterminal hout hshort hlate hlimit 0
  unfold pollStatus deadlineAfter
  rw [if_neg hroom, converse_bind]
  by_cases htimeout : timeoutUs = 0
  · obtain ⟨result, s, hrun, hiff⟩ := hloop 0 (n := 0) (.inl rfl)
    refine ⟨out, result, s, hout, ?_, hiff.trans ?_⟩
    · simpa [htimeout] using hrun
    · simp [WithinBudgetSince, WithinBudget, glitchReading, pollReading, htimeout]
  · have hle := hdeadline.resolve_left htimeout
    have hlast : 1 + 2 * pending.length = 2 * pending.length + 1 := by omega
    obtain ⟨result, s, hrun, hiff⟩ := hloop _ (n := 1) (.inr (hlast ▸ hle))
    refine ⟨out, result, s, hout, ?_, hiff.trans ?_⟩
    · rw [if_neg htimeout, converse_call_bind]
      exact hrun
    rw [WithinBudgetSince, if_pos rfl]
    by_cases hzero : clock 0 + UInt64.ofNat (timeoutUs * 1000) = 0
    · rw [hzero] at hle
      apply iff_of_true
      · apply withinBudget_of_zero hmono hle
        intro k hk
        exact ⟨1 + k, by omega, if_pos hzero⟩
      · apply withinBudget_of_zero hmono hle
        intro k hk
        exact ⟨2 * k + 2, by omega, if_neg htimeout⟩
    · have hreadings : glitchReading clock (clock 0 + UInt64.ofNat (timeoutUs * 1000)) 1 =
          pollReading clock timeoutUs := by
        funext k
        rw [glitchReading, if_neg hzero, pollReading, if_neg htimeout]
        congr 1
        omega
      rw [hreadings]

end Rounds

/-! ## A write that takes longer than half a second -/

/-- A transport with its device and all of its pipes. -/
def cabled : KUSB488BTransport :=
  { dataOutPipe := true, cmdOutPipe := true, dataInPipe := true, outBuffer := true,
    inBuffer := true, ctrlBuffer := true, device := true, owner := true, renAsserted := false,
    rfdHoldoffPending := false, maxDataChunk := defaultMaxDataChunk }

/-- The status of a write that is going on, and of one that has sent 64 bytes. -/
def busyReply : StatusReply := ⟨.success, [stateBusy, 0, 0, 0, 0]⟩
def doneReply : StatusReply := ⟨.success, [stateDone, 0, 64, 0, 0, 0]⟩

/-- A clock that moves on once, behind the first answer. -/
def clockMoving (later : UInt64) (n : Nat) : UInt64 := if n < 3 then 1 else later

theorem nonDecreasing_clockMoving {later : UInt64} (h : 1 ≤ later) :
    NonDecreasing (clockMoving later) := by
  intro i j hij
  unfold clockMoving
  split
  · split
    · exact UInt64.le_refl 1
    · exact h
  · rw [if_neg (by omega)]
    exact UInt64.le_refl later

/-- A device that is busy for 400 ms is waited for. -/
theorem pollStatus_outlasts_busy_briefly :
    ∃ s, converse (Script.answer (clockMoving 400000000)) (cabled.pollStatus 6 4 3000000)
      (0, [busyReply, busyReply, doneReply]) = some ((.ok, 64), s) := by
  have hbusy : busyReply.Busy 6 := ⟨rfl, rfl, rfl⟩
  have hmono : NonDecreasing (clockMoving 400000000) := nonDecreasing_clockMoving (by decide)
  have hattached : cabled.Attached := ⟨rfl, rfl, rfl⟩
  have hpending : ∀ r ∈ [busyReply, busyReply], r.Busy 6 ∨ r.Refused := by simp [hbusy]
  have hterminal : doneReply.Terminal 6 := ⟨rfl, rfl, by decide⟩
  obtain ⟨out, result, s, hout, hrun, hiff⟩ :=
    pollStatus_outlasts_busy_iff 4 3000000 [busyReply, busyReply] doneReply [] hattached
      (by decide) (by decide) hmono hpending hterminal (.inr (by decide)) (by decide)
  have hbudget : WithinBudget (pollReading (clockMoving 400000000) 3000000) 2 := by
    intro i j hij hj _
    have hcases : (i = 0 ∧ j = 0) ∨ (i = 0 ∧ j = 1) ∨ (i = 1 ∧ j = 1) := by omega
    rcases hcases with ⟨rfl, rfl⟩ | ⟨rfl, rfl⟩ | ⟨rfl, rfl⟩ <;> decide
  obtain ⟨rfl, -⟩ := hiff.mpr hbudget
  cases hout
  exact ⟨s, hrun⟩

/-- After 600 ms `pollStatus` reports an error, and has not read that all 64 bytes went out. -/
theorem pollStatus_gives_up_busy :
    converse (Script.answer (clockMoving 600000002)) (cabled.pollStatus 6 4 3000000)
        (0, [busyReply, busyReply, doneReply]) = some ((.errIo, 0), (5, [doneReply])) ∧
      statusOutcome 6 4 doneReply.bytes = some (.ok, 64) :=
  ⟨rfl, rfl⟩

end KUSB488BTransport

end DarwinGpib
