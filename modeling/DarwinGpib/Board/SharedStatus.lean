import DarwinGpib.Board.Addressing

/-!
# What a wait inherits

`waitForStatus` answers from the one `ibsta_` of the board. Two histories that agree about a handle
are compared by what they stored last: its ERR and END, and its TIMO when no SRQ is waited for, are
what the wait passes on.
-/

namespace DarwinGpib

open Interaction Behaviour

/-! ## The ends of a wait -/

/-- The mask asks to wait for a service request. -/
def AwaitsSrq (mask : Int32) : Prop := mask.toUInt32 &&& (Ibsta.srqi ||| Ibsta.rqs) ≠ 0

instance (mask : Int32) : Decidable (AwaitsSrq mask) := inferInstanceAs (Decidable (_ ≠ _))

namespace BoardState

def seenIbsta (ibsta : UInt32) : UInt32 := ibsta &&& ~~~Ibsta.timo ||| Ibsta.srqi ||| Ibsta.cmpl
def lateIbsta (ibsta : UInt32) : UInt32 := ibsta &&& ~~~Ibsta.srqi ||| Ibsta.timo ||| Ibsta.cmpl

/-- A reading of the bus lines with SRQ asserted. -/
def ShowsSrq (sample : GPIBTransportError × UInt16) : Prop :=
  sample.1 = .ok ∧ sample.2 &&& BusLine.validSRQ ≠ 0 ∧ sample.2 &&& BusLine.busSRQ ≠ 0

/-- The readings of the bus lines in a trace. -/
def samples : BoardTrace → List (GPIBTransportError × UInt16)
  | [] => []
  | ⟨.readBusLines, sample⟩ :: u => sample :: samples u
  | _ :: u => samples u

theorem samples_append (u v : BoardTrace) : samples (u ++ v) = samples u ++ samples v := by
  fun_induction samples u with
  | case1 => rfl
  | case2 sample u ih => exact congrArg (List.cons sample) ih
  | case3 e u hne ih =>
      rw [List.cons_append, samples, ih]
      exact hne

/-- A wait that returns, by its calls and its status. -/
inductive WaitCourse (desc : Option GPIBDescriptor) (mask : Int32) (s : BoardState) :
    BoardTrace → Status → Prop where
  | unknown (hd : desc = none) : WaitCourse desc mask s [] ⟨Ibsta.err, Iberr.earg⟩
  | immediate {d} (hd : desc = some d) (hmask : ¬ AwaitsSrq mask) :
      WaitCourse desc mask s [] ⟨s.ibsta, 0⟩
  | seen {d u sample} (hd : desc = some d) (hmask : AwaitsSrq mask) (hmem : sample ∈ samples u)
      (hsrq : ShowsSrq sample) : WaitCourse desc mask s u ⟨seenIbsta s.ibsta, 0⟩
  | late {d u} (hd : desc = some d) (hmask : AwaitsSrq mask)
      (hsrq : ∀ sample ∈ samples u, ¬ ShowsSrq sample) :
      WaitCourse desc mask s u ⟨lateIbsta s.ibsta, 0⟩

section Runs

variable {s s' : BoardState} {u : BoardTrace} {deadline : UInt64}

/-- Whether SRQ is asserted is whether the one sample shows it. -/
theorem run_srqAsserted {asserted : Bool} (hrun : Run (srqAsserted anyTransport s) u asserted) :
    asserted = true ↔ ∃ sample ∈ samples u, ShowsSrq sample := by
  rcases run_guard_iff.mp hrun with ⟨-, rfl, rfl⟩ | ⟨-, hread⟩
  · simp [samples]
  · obtain ⟨(sample : GPIBTransportError × UInt16), v, rfl, hdone⟩ := run_call_bind_iff.mp hread
    obtain ⟨rfl, rfl⟩ := run_pure_iff.mp hdone
    have hsamples : samples [⟨.readBusLines, sample⟩] = [sample] := rfl
    rw [hsamples, decide_eq_true_iff]
    constructor
    · exact fun h => ⟨sample, List.mem_cons_self, h⟩
    · rintro ⟨sample', hmem, h⟩
      rwa [List.mem_singleton.mp hmem] at h

theorem samples_of_deadlinePassed {passed : Bool}
    (hrun : Run (deadlinePassed anyUptime deadline) u passed) : samples u = [] := by
  rcases run_ite_iff.mp hrun with ⟨-, hdone⟩ | ⟨-, hread⟩
  · obtain ⟨rfl, -⟩ := run_pure_iff.mp hdone
    rfl
  · obtain ⟨t, v, rfl, hdone⟩ := run_call_bind_iff.mp hread
    obtain ⟨rfl, -⟩ := run_pure_iff.mp hdone
    rfl

theorem samples_of_deadlineAfter {timeoutUs : Nat}
    (hrun : Run (deadlineAfter anyUptime timeoutUs) u deadline) : samples u = [] := by
  rcases run_ite_iff.mp hrun with ⟨-, hdone⟩ | ⟨-, hread⟩
  · obtain ⟨rfl, -⟩ := run_pure_iff.mp hdone
    rfl
  · obtain ⟨t, v, rfl, hdone⟩ := run_call_bind_iff.mp hread
    obtain ⟨rfl, -⟩ := run_pure_iff.mp hdone
    rfl

/-- The loop ends with the first sample that shows SRQ, or without one. -/
theorem run_waitForSrq {fuel : Nat} {ibsta : UInt32}
    (hrun : Run (waitForSrq anyTransport anyUptime deadline s fuel) u (some ibsta)) :
    (∃ sample ∈ samples u, ShowsSrq sample) ∧ ibsta = seenIbsta s.ibsta ∨
      (∀ sample ∈ samples u, ¬ ShowsSrq sample) ∧ ibsta = lateIbsta s.ibsta := by
  induction fuel generalizing u with
  | zero => cases (run_pure_iff.mp hrun).2
  | succ fuel ih =>
      obtain ⟨v, asserted, w, rfl, hsample, hrest⟩ := run_bind_iff.mp hrun
      have hasserted := run_srqAsserted hsample
      rcases run_guard_iff.mp hrest with ⟨hyes, rfl, ⟨⟩⟩ | ⟨hno, hclock⟩
      · exact .inl ⟨by simpa using hasserted.mp hyes, rfl⟩
      have hnone : ∀ sample ∈ samples v, ¬ ShowsSrq sample :=
        fun sample hmem hsrq => hno (hasserted.mpr ⟨sample, hmem, hsrq⟩)
      obtain ⟨x, late, y, rfl, hlate, hrest⟩ := run_bind_iff.mp hclock
      rw [samples_append, samples_append, samples_of_deadlinePassed hlate, List.nil_append]
      rcases run_guard_iff.mp hrest with ⟨hpassed, rfl, ⟨⟩⟩ | ⟨-, hloop⟩
      · exact .inr ⟨by simpa [samples] using hnone, rfl⟩
      · rcases ih hloop with ⟨⟨sample, hmem, hsrq⟩, hibsta⟩ | ⟨hall, hibsta⟩
        · exact .inl ⟨⟨sample, List.mem_append_right _ hmem, hsrq⟩, hibsta⟩
        · exact .inr ⟨List.forall_mem_append.mpr ⟨hnone, hall⟩, hibsta⟩

theorem waitCourse_of_run {desc : Option GPIBDescriptor} {mask : Int32} {fuel timeoutUs : Nat}
    {st : Status}
    (hrun : Run (waitForStatus anyTransport anyUptime fuel desc mask timeoutUs s) u
      (some (st, s'))) : WaitCourse desc mask s u st := by
  cases desc with
  | none =>
      obtain ⟨rfl, heq⟩ := run_pure_iff.mp hrun
      cases heq
      exact .unknown rfl
  | some d =>
      rcases run_guard_iff.mp hrun with ⟨hmask, rfl, ⟨⟩⟩ | ⟨hmask, hwait⟩
      · exact .immediate rfl (not_not.mpr hmask)
      · obtain ⟨v, deadline, w, rfl, hdeadline, hloop⟩ := run_bind_iff.mp hwait
        obtain ⟨x, o, y, rfl, hsrq, hdone⟩ := run_bind_iff.mp hloop
        obtain ⟨rfl, heq⟩ := run_pure_iff.mp hdone
        obtain ⟨ibsta, rfl, heq⟩ := Option.map_eq_some_iff.mp heq.symm
        cases heq
        have hsamples : samples (v ++ (x ++ [])) = samples x := by
          rw [samples_append, samples_of_deadlineAfter hdeadline, List.append_nil,
            List.nil_append]
        rcases run_waitForSrq hsrq with ⟨⟨sample, hmem, hshows⟩, rfl⟩ | ⟨hnone, rfl⟩
        · exact .seen rfl hmask (hsamples ▸ hmem) hshows
        · exact .late rfl hmask (hsamples ▸ hnone)

end Runs

/-! ## Bits -/

/-- The bits of a status that tell a failure, a timeout or the end of a message. -/
def outcomeBits : UInt32 := Ibsta.err ||| Ibsta.timo ||| Ibsta.end

/-- Those that a wait for this mask passes on from the status before it. -/
def inheritedBits (mask : Int32) : UInt32 :=
  if AwaitsSrq mask then Ibsta.err ||| Ibsta.end else outcomeBits

section Bits

variable {x y : UInt32}

theorem seenIbsta_and : seenIbsta x &&& outcomeBits = x &&& (Ibsta.err ||| Ibsta.end) := by
  rw [seenIbsta, Ibsta.or_and, Ibsta.or_and, UInt32.and_assoc]
  have hkept : ~~~Ibsta.timo &&& outcomeBits = Ibsta.err ||| Ibsta.end := by decide
  have hsrqi : Ibsta.srqi &&& outcomeBits = 0 := by decide
  have hcmpl : Ibsta.cmpl &&& outcomeBits = 0 := by decide
  rw [hkept, hsrqi, hcmpl, UInt32.or_zero, UInt32.or_zero]

theorem lateIbsta_and :
    lateIbsta x &&& outcomeBits = x &&& (Ibsta.err ||| Ibsta.end) ||| Ibsta.timo := by
  rw [lateIbsta, Ibsta.or_and, Ibsta.or_and, UInt32.and_assoc]
  have hkept : ~~~Ibsta.srqi &&& outcomeBits = Ibsta.err ||| Ibsta.end ||| Ibsta.timo := by decide
  have htimo : Ibsta.timo &&& outcomeBits = Ibsta.timo := by decide
  have hcmpl : Ibsta.cmpl &&& outcomeBits = 0 := by decide
  have hset : x &&& Ibsta.timo ||| Ibsta.timo = Ibsta.timo := by
    apply UInt32.toBitVec_inj.mp
    ext i hi
    simp
  rw [hkept, htimo, hcmpl, UInt32.or_zero, UInt32.and_comm x, Ibsta.or_and,
    UInt32.and_comm Ibsta.timo, UInt32.or_assoc, hset, UInt32.and_comm x]

theorem lateIbsta_and_eq_iff :
    lateIbsta x &&& outcomeBits = lateIbsta y &&& outcomeBits ↔
      x &&& (Ibsta.err ||| Ibsta.end) = y &&& (Ibsta.err ||| Ibsta.end) := by
  rw [lateIbsta_and, lateIbsta_and]
  constructor
  · intro h
    have hmasked := congrArg (· &&& (Ibsta.err ||| Ibsta.end)) h
    have htimo : Ibsta.timo &&& (Ibsta.err ||| Ibsta.end) = 0 := by decide
    simpa only [Ibsta.or_and, UInt32.and_assoc, UInt32.and_self, htimo, UInt32.or_zero]
      using hmasked
  · intro h
    rw [h]

end Bits

/-- Two waits on an open handle that saw the same samples end in the same way. -/
theorem WaitCourse.outcome_eq_iff {desc desc' : Option GPIBDescriptor} {mask : Int32}
    {s s' : BoardState} {u u' : BoardTrace} {st st' : Status} (h : WaitCourse desc mask s u st)
    (h' : WaitCourse desc' mask s' u' st') (hdesc : desc = none ↔ desc' = none)
    (hsamples : samples u = samples u') :
    st.ibsta &&& outcomeBits = st'.ibsta &&& outcomeBits ↔
      desc = none ∨ s.ibsta &&& inheritedBits mask = s'.ibsta &&& inheritedBits mask := by
  cases h with
  | unknown hd =>
      cases h' with
      | unknown => exact iff_of_true rfl (.inl hd)
      | immediate hd' | seen hd' | late hd' => simp [hd, hd'] at hdesc
  | immediate hd hmask =>
      have hbits : inheritedBits mask = outcomeBits := if_neg hmask
      cases h' with
      | unknown hd' => simp [hd, hd'] at hdesc
      | immediate => simp [hd, hbits]
      | seen _ hmask' | late _ hmask' => exact absurd hmask' hmask
  | seen hd hmask hmem hsrq =>
      have hbits : inheritedBits mask = Ibsta.err ||| Ibsta.end := if_pos hmask
      cases h' with
      | unknown hd' => simp [hd, hd'] at hdesc
      | immediate _ hmask' => exact absurd hmask hmask'
      | seen => simp [hd, hbits, seenIbsta_and]
      | late _ _ hnone => exact absurd hsrq (hnone _ (hsamples ▸ hmem))
  | late hd hmask hnone =>
      have hbits : inheritedBits mask = Ibsta.err ||| Ibsta.end := if_pos hmask
      cases h' with
      | unknown hd' => simp [hd, hd'] at hdesc
      | immediate _ hmask' => exact absurd hmask hmask'
      | seen _ _ hmem hsrq => exact absurd hsrq (hnone _ (hsamples ▸ hmem))
      | late => simp [hd, hbits, lateIbsta_and_eq_iff]

end BoardState

/-! ## Two histories -/

namespace GPIBBoard

open BoardState

/-- The handle that an event is about: the one it issued, or the one it was given. -/
def Event.about (e : Event) : Option Int :=
  match e.op, e.result with
  | .openDescriptor _, .opened handle _ => some handle
  | op, _ => op.handle?

/-- The operations on a handle or on the board as a whole, latest first. -/
def operationsOn (handle : Int) (past : List (GPIBBoard × Event)) : List BoardOp :=
  ((past.map Prod.snd).filter fun e => e.about = some handle ∨ e.about = none).map (·.op)

/-- The status that was stored last, given the one before all. -/
def lastStored (ibsta : UInt32) : List (GPIBBoard × Event) → UInt32
  | [] => ibsta
  | (_, e) :: past => e.result.stored (lastStored ibsta past)

/-- Whether a handle is open after operations on it, latest first. -/
def openAfter (before : Bool) : List BoardOp → Bool
  | [] => before
  | .openDescriptor _ :: _ => true
  | .closeDescriptor _ :: _ => false
  | _ :: ops => openAfter before ops

section Histories

variable {b b' b₀ c c' : GPIBBoard} {e : Event} {past past' : List (GPIBBoard × Event)}
  {handle : Int}

theorem ibsta_eq_lastStored (h : History (· = b₀) Performs past b) :
    b.state.ibsta = lastStored b₀.state.ibsta past := by
  induction h with
  | start h => rw [h, lastStored]
  | step h hstep ih => rw [(stored_of_performs hstep).ibsta, ih, lastStored]

theorem isSome_descriptorFor (b : GPIBBoard) (handle : Int) :
    (b.descriptors.descriptorFor handle).isSome = (b.descriptors.slots handle).isSome := by
  rw [DescriptorTable.slots, Option.isSome_map]

/-- An operation that neither opens nor closes leaves every handle open or closed. -/
theorem Affects.isSome_of_other (h : b.Affects e b') (hop : e.op.opensOrCloses = false) :
    (b'.descriptors.descriptorFor handle).isSome =
      (b.descriptors.descriptorFor handle).isSome := by
  cases h with
  | opened => cases hop
  | full => cases hop
  | closed => cases hop
  | @configured handle' key value d o hd ho =>
      rw [isSome_descriptorFor, isSome_descriptorFor, DescriptorTable.slots_configure hd]
      by_cases heq : handle = handle'
      · rw [heq, Function.update_self, ← isSome_descriptorFor, hd]
        rfl
      · rw [Function.update_of_ne heq]
  | unknown _ _ _ hb' => rw [hb']
  | other _ _ _ hb' => rw [hb']

/-- So does one that is about another handle. -/
theorem Affects.isSome_of_elsewhere (h : b.Affects e b') (habout : e.about ≠ some handle) :
    (b'.descriptors.descriptorFor handle).isSome =
      (b.descriptors.descriptorFor handle).isSome := by
  cases h with
  | @opened o j hfree =>
      have hne : handle ≠ (DescriptorTable.usable j).val := by
        rintro rfl
        exact habout rfl
      rw [isSome_descriptorFor, isSome_descriptorFor, DescriptorTable.slots_fill,
        Function.update_of_ne hne]
  | full => rfl
  | @closed handle' d hd =>
      have hne : handle ≠ handle' := by
        rintro rfl
        exact habout rfl
      rw [isSome_descriptorFor, isSome_descriptorFor, DescriptorTable.slots_closeDescriptor,
        SlotTable.release_of_ne hne]
  | @configured handle' key value d o hd ho =>
      have hne : handle ≠ handle' := by
        rintro rfl
        exact habout rfl
      rw [isSome_descriptorFor, isSome_descriptorFor, DescriptorTable.slots_configure hd,
        Function.update_of_ne hne]
  | unknown _ _ _ hb' => rw [hb']
  | other _ _ _ hb' => rw [hb']

/-- After an operation on a handle it is open if that opened it, closed if that closed it, and
otherwise as before. -/
theorem Affects.isSome_of_about (h : b.Affects e b') (hhandle : handle ≠ -1)
    (hon : e.about = some handle ∨ e.about = none) (ops : List BoardOp) {before : Bool}
    (hbefore : (b.descriptors.descriptorFor handle).isSome = openAfter before ops) :
    (b'.descriptors.descriptorFor handle).isSome = openAfter before (e.op :: ops) := by
  obtain ⟨op, calls, r⟩ := e
  cases op with
  | openDescriptor o =>
      rcases h.opens rfl with ⟨handle', -, rfl, -, hslot⟩ | ⟨-, rfl, -⟩
      · rcases hon with heq | heq
        · cases heq
          rw [isSome_descriptorFor, hslot]
          rfl
        · cases heq
      · rcases hon with heq | heq
        · cases heq
          exact absurd rfl hhandle
        · cases heq
  | closeDescriptor handle' =>
      rcases hon with heq | heq
      · cases heq
        rw [h.closes rfl]
        rfl
      · cases heq
  | _ => rw [h.isSome_of_other rfl, hbefore, openAfter] <;> exact nofun

theorem isSome_eq_openAfter (hhandle : handle ≠ -1) (h : History (· = b₀) Performs past b) :
    (b.descriptors.descriptorFor handle).isSome =
      openAfter (b₀.descriptors.descriptorFor handle).isSome (operationsOn handle past) := by
  induction h with
  | start h => rw [h, operationsOn, List.map_nil, List.filter_nil, List.map_nil, openAfter]
  | @step past b e b' h hstep ih =>
      have haffects := affects_of_performs hstep
      by_cases hon : e.about = some handle ∨ e.about = none
      · have hops : operationsOn handle ((b, e) :: past) = e.op :: operationsOn handle past := by
          simp [operationsOn, hon]
        rw [hops]
        exact haffects.isSome_of_about hhandle hon _ ih
      · have hops : operationsOn handle ((b, e) :: past) = operationsOn handle past := by
          simp only [operationsOn, List.map_cons, List.filter_cons, decide_eq_true_iff, if_neg hon]
        rw [hops, ← ih]
        exact haffects.isSome_of_elsewhere (not_or.mp hon).1

theorem descriptorFor_neg_one (b : GPIBBoard) : b.descriptors.descriptorFor (-1) = none := rfl

/-- Two histories with the same operations on a handle have it open or closed alike. -/
theorem descriptorFor_eq_none_congr (h : History (· = b₀) Performs past b)
    (h' : History (· = b₀) Performs past' b')
    (hops : operationsOn handle past = operationsOn handle past') :
    b.descriptors.descriptorFor handle = none ↔ b'.descriptors.descriptorFor handle = none := by
  by_cases hhandle : handle = -1
  · rw [hhandle, descriptorFor_neg_one, descriptorFor_neg_one]
  · rw [← Option.not_isSome_iff_eq_none, ← Option.not_isSome_iff_eq_none,
      isSome_eq_openAfter hhandle h, isSome_eq_openAfter hhandle h', hops]

theorem waitCourse_of_performs {mask : Int32} {timeoutUs : Nat} {u : BoardTrace}
    {r : BoardResult} (h : b.Performs ⟨.waitForStatus handle mask timeoutUs, u, r⟩ c) :
    ∃ st, r = .status st ∧
      WaitCourse (b.descriptors.descriptorFor handle) mask b.state u st := by
  obtain ⟨fuel, hrun⟩ := h
  obtain ⟨v, o, w, rfl, hv, hw⟩ := run_bind_iff.mp hrun
  obtain ⟨rfl, heq⟩ := run_pure_iff.mp hw
  obtain ⟨⟨st, s⟩, rfl, heq⟩ := Option.map_eq_some_iff.mp heq.symm
  cases heq
  rw [List.append_nil]
  exact ⟨st, rfl, waitCourse_of_run hv⟩

/-- Two waits on one handle, after histories with the same operations on it, and with the same
samples, show the same error, timeout and end exactly when the handle is not open or what was
stored last is the same in the bits that the wait inherits. -/
theorem waits_agree_iff {mask : Int32} {timeoutUs : Nat} {u u' : BoardTrace}
    {r r' : BoardResult} (h : History (· = b₀) Performs past b)
    (h' : History (· = b₀) Performs past' b')
    (hops : operationsOn handle past = operationsOn handle past')
    (hwait : b.Performs ⟨.waitForStatus handle mask timeoutUs, u, r⟩ c)
    (hwait' : b'.Performs ⟨.waitForStatus handle mask timeoutUs, u', r'⟩ c')
    (hsamples : samples u = samples u') :
    ∃ st st', r = .status st ∧ r' = .status st' ∧
      (st.ibsta &&& outcomeBits = st'.ibsta &&& outcomeBits ↔
        b.descriptors.descriptorFor handle = none ∨
          lastStored b₀.state.ibsta past &&& inheritedBits mask =
            lastStored b₀.state.ibsta past' &&& inheritedBits mask) := by
  obtain ⟨st, hr, hcourse⟩ := waitCourse_of_performs hwait
  obtain ⟨st', hr', hcourse'⟩ := waitCourse_of_performs hwait'
  refine ⟨st, st', hr, hr', ?_⟩
  rw [← ibsta_eq_lastStored h, ← ibsta_eq_lastStored h']
  exact hcourse.outcome_eq_iff hcourse' (descriptorFor_eq_none_congr h h' hops) hsamples

end Histories

/-! ## Another instrument at 6 -/

/-- Handle 2 is open on it, and this status was stored last. -/
def boardAtFiveAndSix (ibsta : UInt32) : GPIBBoard :=
  { (boardAtFive.openDescriptor { atFive with pad := 6 }).2 with
    state := { boardAtFive.state with ibsta } }

/-- A write to the instrument at 6, and how its data phase ends. -/
def writeToSix (w : WriteResult) (st : Status) : Event where
  op := .write 2 [104, 105] true
  calls :=
    [⟨.sendCommandBytes (writeCommands 0 6 (-1)), GPIBTransportError.ok⟩,
      ⟨.writeData [104, 105] true 3000000, w⟩]
  result := .counted ⟨st, w.bytesWritten⟩

/-- A wait for a service request at 5, which is there at once. -/
def waitAtFive (ibsta : UInt32) : Event where
  op := .waitForStatus 1 0x1000 0
  calls := [⟨.uptime, (0 : UInt64)⟩, ⟨.readBusLines, (GPIBTransportError.ok, (0x20FF : UInt16))⟩]
  result := .status ⟨seenIbsta ibsta, 0⟩

theorem performs_waitAtFive (ibsta : UInt32) :
    (boardAtFiveAndSix ibsta).Performs (waitAtFive ibsta)
      (boardAtFiveAndSix (seenIbsta ibsta)) :=
  ⟨1, .ask (.ask (.pure _))⟩

/-- A write at 6 that succeeds makes no difference to the wait. -/
theorem waits_agree_atFive :
    seenIbsta 0 &&& outcomeBits = seenIbsta Ibsta.cmpl &&& outcomeBits := by
  have hbefore : History (· = boardAtFiveAndSix 0) Performs [] (boardAtFiveAndSix 0) := .start rfl
  have hafter : History (· = boardAtFiveAndSix 0) Performs
      [(boardAtFiveAndSix 0, writeToSix ⟨.ok, 2⟩ ⟨Ibsta.cmpl, 0⟩)]
      (boardAtFiveAndSix Ibsta.cmpl) :=
    .step hbefore ⟨0, .ask (.ask (.pure _))⟩
  have hops : operationsOn 1 [] =
      operationsOn 1 [(boardAtFiveAndSix 0, writeToSix ⟨.ok, 2⟩ ⟨Ibsta.cmpl, 0⟩)] := rfl
  obtain ⟨st, st', hst, hst', hagree⟩ := waits_agree_iff hbefore hafter hops
    (performs_waitAtFive 0) (performs_waitAtFive Ibsta.cmpl) rfl
  cases hst
  cases hst'
  exact hagree.mpr (.inr (by decide))

/-- A write at 6 that fails shows up as an error in the wait, which has no error code. -/
theorem wait_inherits_failure :
    (∃ past past' b b', History (· = boardAtFiveAndSix 0) Performs past b ∧
      History (· = boardAtFiveAndSix 0) Performs past' b' ∧
      operationsOn 1 past = operationsOn 1 past' ∧
      b.Performs (waitAtFive 0) (boardAtFiveAndSix (seenIbsta 0)) ∧
      b'.Performs (waitAtFive Ibsta.err) (boardAtFiveAndSix (seenIbsta Ibsta.err))) ∧
      seenIbsta 0 &&& outcomeBits = 0 ∧ seenIbsta Ibsta.err &&& outcomeBits = Ibsta.err := by
  have hfailed : (boardAtFiveAndSix 0).Performs (writeToSix ⟨.errIo, 0⟩ ⟨Ibsta.err, Iberr.ebus⟩)
      (boardAtFiveAndSix Ibsta.err) := ⟨0, .ask (.ask (.pure _))⟩
  refine ⟨⟨[], _, _, _, .start rfl, .step (.start rfl) hfailed, rfl, performs_waitAtFive 0,
    performs_waitAtFive Ibsta.err⟩, by decide, by decide⟩

end GPIBBoard

end DarwinGpib
