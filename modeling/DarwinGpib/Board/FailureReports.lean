import DarwinGpib.Board.DataPhases

/-!
# What the status of an operation says of its calls

A status without an error says that every step of the operation was done, and an error says
whether the step that failed timed out. The operations are compared with the results of the calls
that carried them out, step by step, with a repeated step counted by its last call.
-/

namespace DarwinGpib

open Interaction

/-- The operations that do not look at the result of their call. -/
def BoardOp.discardsResult : BoardOp → Bool
  | interfaceClear _ | remoteEnable _ _ => true
  | _ => false

namespace GPIBBoard

/-- The status that a result is taken for: `setOnline` has no `iberr`. -/
def reported : BoardResult → Option Status
  | .online ibsta => some ⟨ibsta, 0⟩
  | r => r.status?

/-- The last call of the request succeeded. -/
def Done (u : BoardTrace) (req : BoardRequest) : Prop :=
  ∃ x, lastAsking (· = req) u = some x ∧ callRc x = .ok

/-- The step at which the operation stopped, the last that was called. -/
def stoppedAt (b : GPIBBoard) (e : Event) : Option (Exchange BoardRequest.Reply) :=
  lastAsking (· ∈ b.steps e.op) e.calls

/-- The bit of `ibsta` by which `setOnline` says that a call of it succeeded. -/
def successBit : BoardRequest → UInt32
  | .pulseInterfaceClear => Ibsta.cic
  | .takeControl false => Ibsta.cic
  | .setRemoteEnable true => Ibsta.rem
  | _ => 0

/-- The status hides no failure of the operation. -/
structure SaysFailure (b : GPIBBoard) (e : Event) (st : Status) : Prop where
  steps : st.ibsta &&& Ibsta.err = 0 → st.iberr = 0 → ∀ req ∈ b.steps e.op,
    Done e.calls req ∨
      e.op = .setOnline true ∧ successBit req ≠ 0 ∧ st.ibsta &&& successBit req = 0
  cic : st.ibsta &&& Ibsta.cic ≠ 0 → Done e.calls .pulseInterfaceClear
  rem : st.ibsta &&& Ibsta.rem ≠ 0 → Done e.calls (.setRemoteEnable true)

/-- A failure is called a timeout exactly when the step at which the operation stopped timed
out. -/
structure TellsTimeout (b : GPIBBoard) (e : Event) (st : Status) : Prop where
  timo : st.ibsta &&& Ibsta.err ≠ 0 →
    (st.ibsta &&& Ibsta.timo ≠ 0 ↔ ∃ x, b.stoppedAt e = some x ∧ callRc x = .errTimeout)
  eabo : st.ibsta &&& Ibsta.err ≠ 0 → (st.iberr = Iberr.eabo ↔ st.ibsta &&& Ibsta.timo ≠ 0)

end GPIBBoard

/-! ## The bits of the statuses -/

section Bits

variable {rc : GPIBTransportError}

@[simp] theorem errIbsta_and_cic : errIbsta rc &&& Ibsta.cic = 0 := by
  cases rc <;> decide

@[simp] theorem errIbsta_and_rem : errIbsta rc &&& Ibsta.rem = 0 := by
  cases rc <;> decide

theorem errIbsta_and_timo_iff : errIbsta rc &&& Ibsta.timo ≠ 0 ↔ rc = .errTimeout := by
  cases rc <;> decide

theorem transferIberr_eq_eabo_iff : transferIberr rc = Iberr.eabo ↔ rc = .errTimeout := by
  cases rc <;> decide

theorem addressingIberr_eq_eabo_iff : addressingIberr rc = Iberr.eabo ↔ rc = .errTimeout := by
  cases rc <;> decide

end Bits

namespace GPIBBoard

open BoardState

section Reports

variable {b b' : GPIBBoard} {e : Event} {op : BoardOp} {t : Transfer} {cmds : List UInt8}
  {done : UInt32} {u w : BoardTrace} {x : Exchange BoardRequest.Reply} {req : BoardRequest}
  {st : Status} {rc : GPIBTransportError}

/-! ## Steps -/

theorem steps_of_transfer (ht : b.transfer? op = some t) :
    b.steps op = [.sendCommandBytes t.commands, t.data] := by
  cases op with
  | write | read => simp [steps, ht]
  | _ => cases ht

theorem steps_of_command (hc : b.command? op = some (cmds, done)) :
    b.steps op = [.sendCommandBytes cmds] := by
  cases op with
  | deviceClear | trigger | goToLocal | localLockout | sendCommands =>
      simp [steps, transfer?, hc]
  | _ => cases hc

theorem steps_of_serialPoll {handle : Int} {d : GPIBDescriptor}
    (hd : b.descriptors.descriptorFor handle = some d) :
    b.steps (.serialPoll handle) =
      [.sendCommandBytes (serialPollCommands b.state.boardPAD d.pad d.sad),
        .readData 1 0 0 d.timeoutUs] := by
  rw [steps, hd]

theorem command?_done (hc : b.command? op = some (cmds, done)) :
    done = Ibsta.cmpl ∨ done = Ibsta.cmpl ||| Ibsta.lok := by
  cases op with
  | deviceClear | trigger | goToLocal =>
      obtain ⟨d, -, heq⟩ := Option.map_eq_some_iff.mp hc
      cases heq
      exact .inl rfl
  | localLockout =>
      cases hc
      exact .inr rfl
  | sendCommands =>
      cases hc
      exact .inl rfl
  | _ => cases hc

/-! ## Calls that were made last -/

theorem done_append_singleton (hx : x.request = req) (hrc : callRc x = .ok) :
    Done (u ++ [x]) req :=
  ⟨x, lastAsking_append_singleton (by simpa using hx), hrc⟩

theorem Done.append (h : Done u req) (hw : ∀ x ∈ w, x.request ≠ req) : Done (u ++ w) req := by
  obtain ⟨x, hx, hrc⟩ := h
  exact ⟨x, by rw [lastAsking_append_of_unwanted (by simpa using hw), hx], hrc⟩

theorem done_singleton_iff : Done [x] x.request ↔ callRc x = .ok := by
  simp [Done, lastAsking]

/-! ## Statuses -/

theorem transferStatus_eq (x : Exchange BoardRequest.Reply) :
    ∃ done, (done = Ibsta.cmpl ∨ done = Ibsta.cmpl ||| Ibsta.end) ∧
      transferStatus x = dataStatus (callRc x) done := by
  obtain ⟨req, r⟩ := x
  cases req with
  | readData =>
      refine ⟨_, ?_, rfl⟩
      split
      · exact .inr rfl
      · exact .inl rfl
  | _ => exact ⟨Ibsta.cmpl, .inl rfl, rfl⟩

/-! ## Failures are said -/

theorem saysFailure_of_err (herr : st.ibsta &&& Ibsta.err ≠ 0)
    (hcic : st.ibsta &&& Ibsta.cic = 0) (hrem : st.ibsta &&& Ibsta.rem = 0) :
    SaysFailure b e st where
  steps h := absurd h herr
  cic h := absurd hcic h
  rem h := absurd hrem h

theorem saysFailure_err {iberr : UInt32} : SaysFailure b e ⟨Ibsta.err, iberr⟩ := by
  have herr : Ibsta.err &&& Ibsta.err ≠ 0 := by decide
  have hcic : Ibsta.err &&& Ibsta.cic = 0 := by decide
  have hrem : Ibsta.err &&& Ibsta.rem = 0 := by decide
  exact saysFailure_of_err herr hcic hrem

theorem saysFailure_of_done (hdone : ∀ req ∈ b.steps e.op, Done e.calls req)
    (hcic : st.ibsta &&& Ibsta.cic = 0) (hrem : st.ibsta &&& Ibsta.rem = 0) :
    SaysFailure b e st where
  steps _ _ req hreq := .inl (hdone req hreq)
  cic h := absurd hcic h
  rem h := absurd hrem h

theorem saysFailure_of_transferred {r : BoardResult} (ht : b.transfer? op = some t)
    (haddressing : AddressingCourse t.commands t.target b.state u none)
    (hx : x.request = t.data) : SaysFailure b ⟨op, u ++ [x], r⟩ (transferStatus x) := by
  obtain ⟨done, hdone, heq⟩ := transferStatus_eq x
  rw [heq, dataStatus]
  split
  · exact saysFailure_of_err errIbsta_and_err errIbsta_and_cic errIbsta_and_rem
  · rename_i hrc
    have hsteps : ∀ req ∈ b.steps op, Done (u ++ [x]) req := by
      rw [steps_of_transfer ht]
      intro req hreq
      rcases List.mem_cons.mp hreq with rfl | hreq
      · obtain ⟨v, y, rfl, hy, hyrc⟩ := addressing_ends haddressing
        refine (done_append_singleton hy hyrc).append fun z hz hsend => ?_
        obtain rfl := List.mem_singleton.mp hz
        exact SendsCommands.not_movesData ⟨_, hsend⟩ (request_data ht hx).1
      · obtain rfl := List.mem_singleton.mp hreq
        exact done_append_singleton hx (not_not.mp hrc)
    rcases hdone with rfl | rfl
    · exact saysFailure_of_done hsteps (by decide) (by decide)
    · exact saysFailure_of_done hsteps (by decide) (by decide)

theorem saysFailure_of_commanded {r : BoardResult} (hc : b.command? op = some (cmds, done)) :
    SaysFailure b ⟨op, [⟨.sendCommandBytes cmds, rc⟩], r⟩ (commandStatus rc done) := by
  rw [commandStatus]
  split
  · exact saysFailure_err
  · rename_i hrc
    have hsteps : ∀ req ∈ b.steps op, Done [⟨.sendCommandBytes cmds, rc⟩] req := by
      rw [steps_of_command hc]
      intro req hreq
      obtain rfl := List.mem_singleton.mp hreq
      exact done_singleton_iff.mpr (not_not.mp hrc)
    rcases command?_done hc with rfl | rfl
    · exact saysFailure_of_done hsteps (by decide) (by decide)
    · exact saysFailure_of_done hsteps (by decide) (by decide)

theorem teardownCommands_ne_serialPollCommands {boardPAD pad : UInt8} {sad : Int8} :
    teardownCommands ≠ serialPollCommands boardPAD pad sad := by
  intro h
  have hhead := Option.some.inj (congrArg List.head? h)
  exact absurd hhead (by decide)

theorem saysFailure_of_polled {handle : Int} {d : GPIBDescriptor} {rr : ReadResult}
    {r : BoardResult} (hd : b.descriptors.descriptorFor handle = some d) :
    SaysFailure b
      ⟨.serialPoll handle,
        [⟨.sendCommandBytes (serialPollCommands b.state.boardPAD d.pad d.sad),
            GPIBTransportError.ok⟩,
          ⟨.readData 1 0 0 d.timeoutUs, rr⟩, ⟨.sendCommandBytes teardownCommands, rc⟩], r⟩
      (pollStatus rr) := by
  rw [pollStatus]
  split
  · exact saysFailure_of_err errIbsta_and_err errIbsta_and_cic errIbsta_and_rem
  · rename_i hread
    have hrc : rr.rc = .ok := not_not.mp (not_or.mp hread).1
    have hsteps : ∀ req ∈ b.steps (.serialPoll handle), Done
        [⟨.sendCommandBytes (serialPollCommands b.state.boardPAD d.pad d.sad),
            GPIBTransportError.ok⟩,
          ⟨.readData 1 0 0 d.timeoutUs, rr⟩, ⟨.sendCommandBytes teardownCommands, rc⟩] req := by
      rw [steps_of_serialPoll hd]
      intro req hreq
      rcases List.mem_cons.mp hreq with rfl | hreq
      · refine Done.append (u := [_]) (done_singleton_iff.mpr rfl) ?_
        simpa using teardownCommands_ne_serialPollCommands
      · obtain rfl := List.mem_singleton.mp hreq
        have hdone : Done
            ([⟨.sendCommandBytes (serialPollCommands b.state.boardPAD d.pad d.sad),
                GPIBTransportError.ok⟩] ++ [⟨.readData 1 0 0 d.timeoutUs, rr⟩])
            (.readData 1 0 0 d.timeoutUs) := done_append_singleton rfl hrc
        exact hdone.append (by simp)
    split
    · exact saysFailure_of_done hsteps (by decide) (by decide)
    · exact saysFailure_of_done hsteps (by decide) (by decide)

/-- `interfaceClear` says that the board is in charge whatever became of the pulse. -/
theorem saysFailure_interfaceClear_iff {handle : Int} {r : BoardResult} :
    SaysFailure b ⟨.interfaceClear handle, [⟨.pulseInterfaceClear, rc⟩], r⟩
      ⟨Ibsta.cmpl ||| Ibsta.cic, 0⟩ ↔ rc = .ok := by
  constructor
  · intro h
    exact done_singleton_iff.mp (h.cic (by decide))
  · rintro rfl
    have hdone : Done [⟨.pulseInterfaceClear, GPIBTransportError.ok⟩] .pulseInterfaceClear :=
      done_singleton_iff.mpr rfl
    refine ⟨fun _ _ req hreq => ?_, fun _ => hdone, fun h => absurd (by decide) h⟩
    obtain rfl := List.mem_singleton.mp hreq
    exact .inl hdone

theorem saysFailure_remoteEnable_iff {handle : Int} {enable : Bool} {r : BoardResult} :
    SaysFailure b ⟨.remoteEnable handle enable, [⟨.setRemoteEnable enable, rc⟩], r⟩
      ⟨if enable then Ibsta.cmpl ||| Ibsta.rem else Ibsta.cmpl, 0⟩ ↔ rc = .ok := by
  constructor
  · intro h
    have herr : (if enable then Ibsta.cmpl ||| Ibsta.rem else Ibsta.cmpl) &&& Ibsta.err = 0 := by
      cases enable <;> decide
    rcases h.steps herr rfl _ List.mem_cons_self with hdone | ⟨heq, -⟩
    · exact done_singleton_iff.mp hdone
    · cases heq
  · rintro rfl
    have hdone : Done [⟨.setRemoteEnable enable, GPIBTransportError.ok⟩]
        (.setRemoteEnable enable) := done_singleton_iff.mpr rfl
    refine ⟨fun _ _ req hreq => ?_, fun h => ?_, fun h => ?_⟩
    · obtain rfl := List.mem_singleton.mp hreq
      exact .inl hdone
    · cases enable
      · exact absurd (by decide) h
      · exact absurd (by decide) h
    · cases enable
      · exact absurd (by decide) h
      · exact hdone

/-- What `setOnline` reports after its three calls. -/
def onlineIbsta (ifcRc tcRc renRc : GPIBTransportError) : UInt32 :=
  Ibsta.cmpl ||| (if ifcRc = .ok ∧ tcRc = .ok then Ibsta.cic else 0) |||
    (if renRc = .ok then Ibsta.rem else 0)

section Online

variable {ifcRc tcRc renRc : GPIBTransportError}

theorem onlineIbsta_and_cic :
    onlineIbsta ifcRc tcRc renRc &&& Ibsta.cic =
      if ifcRc = .ok ∧ tcRc = .ok then Ibsta.cic else 0 := by
  rw [onlineIbsta]
  split <;> split <;> decide

theorem onlineIbsta_and_rem :
    onlineIbsta ifcRc tcRc renRc &&& Ibsta.rem = if renRc = .ok then Ibsta.rem else 0 := by
  rw [onlineIbsta]
  split <;> split <;> decide

/-- `setOnline` leaves the bit out whose call failed. -/
theorem saysFailure_setOnline {r : BoardResult} :
    SaysFailure b
      ⟨.setOnline true, [⟨.pulseInterfaceClear, ifcRc⟩, ⟨.takeControl false, tcRc⟩,
        ⟨.setRemoteEnable true, renRc⟩], r⟩
      ⟨onlineIbsta ifcRc tcRc renRc, 0⟩ where
  steps _ _ req hreq := by
    rcases List.mem_cons.mp hreq with rfl | hreq
    · by_cases hrc : ifcRc = .ok
      · exact .inl ⟨⟨.pulseInterfaceClear, ifcRc⟩, rfl, hrc⟩
      · exact .inr ⟨rfl, by decide, onlineIbsta_and_cic.trans (if_neg fun h => hrc h.1)⟩
    rcases List.mem_cons.mp hreq with rfl | hreq
    · by_cases hrc : tcRc = .ok
      · exact .inl ⟨⟨.takeControl false, tcRc⟩, rfl, hrc⟩
      · exact .inr ⟨rfl, by decide, onlineIbsta_and_cic.trans (if_neg fun h => hrc h.2)⟩
    · obtain rfl := List.mem_singleton.mp hreq
      by_cases hrc : renRc = .ok
      · exact .inl ⟨⟨.setRemoteEnable true, renRc⟩, rfl, hrc⟩
      · exact .inr ⟨rfl, by decide, onlineIbsta_and_rem.trans (if_neg hrc)⟩
  cic h := by
    by_cases hrc : ifcRc = .ok
    · exact ⟨⟨.pulseInterfaceClear, ifcRc⟩, rfl, hrc⟩
    · exact absurd (onlineIbsta_and_cic.trans (if_neg fun h => hrc h.1)) h
  rem h := by
    by_cases hrc : renRc = .ok
    · exact ⟨⟨.setRemoteEnable true, renRc⟩, rfl, hrc⟩
    · exact absurd (onlineIbsta_and_rem.trans (if_neg hrc)) h

end Online

theorem run_setOnline {ibsta : UInt32} {s s' : BoardState}
    (hrun : Run (setOnline anyTransport true s) u (ibsta, s')) :
    (u = [] ∧ ibsta = Ibsta.err) ∨ ∃ ifcRc tcRc renRc : GPIBTransportError,
      u = [⟨.pulseInterfaceClear, ifcRc⟩, ⟨.takeControl false, tcRc⟩,
        ⟨.setRemoteEnable true, renRc⟩] ∧ ibsta = onlineIbsta ifcRc tcRc renRc := by
  rcases run_guard_iff.mp hrun with ⟨-, rfl, ⟨⟩⟩ | ⟨-, honline⟩
  · exact .inl ⟨rfl, rfl⟩
  obtain ⟨ifcRc, v, rfl, hpulsed⟩ := run_call_bind_iff.mp honline
  obtain ⟨tcRc, w, rfl, htaken⟩ := run_call_bind_iff.mp hpulsed
  obtain ⟨renRc, x, rfl, hdone⟩ := run_call_bind_iff.mp htaken
  obtain ⟨rfl, heq⟩ := run_pure_iff.mp hdone
  cases heq
  exact .inr ⟨ifcRc, tcRc, renRc, rfl, rfl⟩

/-- An operation says every failure of its steps, and CIC and REM for no failed call, unless it
discards the result of its one call and that call failed. -/
theorem reports_failures_iff (hop : e.op = .setOnline true ∨ e.op.worksOnBus = true)
    (h : b.Performs e b') :
    ∃ st, reported e.result = some st ∧
      (SaysFailure b e st ↔
        (e.op.discardsResult = true → ∀ x ∈ e.calls, callRc x = .ok)) := by
  obtain ⟨op, calls, r⟩ := e
  rcases hop with rfl | hbus
  · obtain ⟨fuel, hrun⟩ := h
    obtain ⟨ibsta, s, honline, rfl, -⟩ := run_reporting_iff.mp hrun
    refine ⟨⟨ibsta, 0⟩, rfl, iff_of_true ?_ nofun⟩
    rcases run_setOnline honline with ⟨-, rfl⟩ | ⟨ifcRc, tcRc, renRc, rfl, rfl⟩
    · exact saysFailure_err
    · exact saysFailure_setOnline
  · obtain ⟨st, hst, hcourse⟩ := busCourse_of_performs hbus h
    refine ⟨st, ?_, ?_⟩
    · cases r with
      | online => cases hst
      | _ => exact hst
    cases hcourse with
    | unready hiberr => exact iff_of_true saysFailure_err (by simp)
    | unaddressed ht haddressing =>
        refine iff_of_true saysFailure_err ?_
        cases op with
        | write | read => exact nofun
        | _ => cases ht
    | transferred ht haddressing hx =>
        refine iff_of_true (saysFailure_of_transferred ht haddressing hx) ?_
        cases op with
        | write | read => exact nofun
        | _ => cases ht
    | commanded hc =>
        refine iff_of_true (saysFailure_of_commanded hc) ?_
        cases op with
        | interfaceClear | remoteEnable => cases hc
        | _ => exact nofun
    | unpolled hd hrc => exact iff_of_true saysFailure_err nofun
    | polled rr rc hd => exact iff_of_true (saysFailure_of_polled hd) nofun
    | cleared =>
        exact saysFailure_interfaceClear_iff.trans (by simp [BoardOp.discardsResult, callRc])
    | enabled =>
        exact saysFailure_remoteEnable_iff.trans (by simp [BoardOp.discardsResult, callRc])

/-- A write that succeeded at the second attempt hides nothing. -/
theorem reports_failures_recoveredWrite :
    SaysFailure boardAtFive recoveredWrite ⟨Ibsta.cmpl, 0⟩ := by
  obtain ⟨st, hst, hsays⟩ := reports_failures_iff (.inr rfl) performs_recoveredWrite
  cases hst
  exact hsays.mpr nofun

/-- An interface clear whose pulse failed. -/
theorem interfaceClear_hides_failure :
    boardAtFive.Performs
        ⟨.interfaceClear 1, [⟨.pulseInterfaceClear, GPIBTransportError.errIo⟩],
          .status ⟨Ibsta.cmpl ||| Ibsta.cic, 0⟩⟩
        { boardAtFive with
          state := { boardAtFive.state with ibsta := Ibsta.cmpl ||| Ibsta.cic } } ∧
      ¬ SaysFailure boardAtFive
        ⟨.interfaceClear 1, [⟨.pulseInterfaceClear, GPIBTransportError.errIo⟩],
          .status ⟨Ibsta.cmpl ||| Ibsta.cic, 0⟩⟩ ⟨Ibsta.cmpl ||| Ibsta.cic, 0⟩ := by
  refine ⟨⟨0, .ask (.pure _)⟩, fun h => ?_⟩
  cases saysFailure_interfaceClear_iff.mp h

/-! ## Timeouts are told -/

theorem tellsTimeout_of_success (hst : st.ibsta &&& Ibsta.err = 0) : TellsTimeout b e st where
  timo h := absurd hst h
  eabo h := absurd hst h

/-- A failure whose status follows the result of the step. -/
theorem tellsTimeout_of_rc (hx : b.stoppedAt e = some x)
    (htimo : st.ibsta &&& Ibsta.timo ≠ 0 ↔ callRc x = .errTimeout)
    (heabo : st.iberr = Iberr.eabo ↔ callRc x = .errTimeout) : TellsTimeout b e st where
  timo _ := by
    rw [htimo, hx]
    simp
  eabo _ := heabo.trans htimo.symm

/-- A failure to send commands is never called a timeout. -/
theorem tellsTimeout_send_iff {iberr : UInt32}
    (hx : b.stoppedAt e = some ⟨.sendCommandBytes cmds, rc⟩)
    (heabo : iberr = Iberr.eabo → rc = .errTimeout) :
    TellsTimeout b e ⟨Ibsta.err, iberr⟩ ↔ rc ≠ .errTimeout := by
  have herr : Ibsta.err &&& Ibsta.err ≠ 0 := by decide
  have htimo : ¬ Ibsta.err &&& Ibsta.timo ≠ 0 := by decide
  constructor
  · rintro h rfl
    exact htimo ((h.timo herr).mpr ⟨_, hx, rfl⟩)
  · intro hrc
    refine ⟨fun _ => iff_of_false htimo ?_, fun _ => iff_of_false (fun h => hrc (heabo h)) htimo⟩
    rintro ⟨y, hy, hyrc⟩
    rw [hx] at hy
    cases hy
    exact hrc hyrc

theorem transfer?_data_ne_softReset (ht : b.transfer? op = some t) : t.data ≠ .softReset := by
  cases op with
  | write | read =>
      obtain ⟨d, -, rfl⟩ := Option.map_eq_some_iff.mp ht
      exact nofun
  | _ => cases ht

/-- A transfer that is not addressed stops at the addressing that failed last. -/
theorem stoppedAt_of_unaddressed {r : BoardResult} {failure : Status}
    (ht : b.transfer? op = some t)
    (h : AddressingCourse t.commands t.target b.state u (some failure)) :
    ∃ rc : GPIBTransportError,
      b.stoppedAt ⟨op, u, r⟩ = some ⟨.sendCommandBytes t.commands, rc⟩ ∧
        failure.iberr = addressingIberr rc := by
  have hcmds : decide (BoardRequest.sendCommandBytes t.commands ∈ b.steps op) = true := by
    simp [steps_of_transfer ht]
  cases h with
  | @abandoned rc v hrc hrecovery =>
      refine ⟨rc, ?_, rfl⟩
      have hv : ∀ x ∈ v, decide (x.request ∈ b.steps op) = false := by
        cases hrecovery with
        | declined => simp
        | failed => simpa [steps_of_transfer ht] using (transfer?_data_ne_softReset ht).symm
      have hlast : b.stoppedAt ⟨op, [⟨.sendCommandBytes t.commands, rc⟩] ++ v, r⟩ =
          b.stoppedAt ⟨op, [⟨.sendCommandBytes t.commands, rc⟩], r⟩ :=
        lastAsking_append_of_unwanted hv
      exact hlast.trans (lastAsking_singleton hcmds)
  | @lost rc rc' v hrc hrecovery hrc' =>
      exact ⟨rc', lastAsking_append_singleton (t := _ :: v) hcmds, rfl⟩

/-- No command sequence timed out at the step where the operation stopped. -/
def SendInTime (b : GPIBBoard) (e : Event) : Prop :=
  ∀ cmds, b.stoppedAt e ≠ some ⟨.sendCommandBytes cmds, GPIBTransportError.errTimeout⟩

theorem sendInTime_send_iff (hx : b.stoppedAt e = some ⟨.sendCommandBytes cmds, rc⟩) :
    b.SendInTime e ↔ rc ≠ .errTimeout := by
  rw [SendInTime, hx]
  constructor
  · rintro h rfl
    exact h cmds rfl
  · rintro hrc cmds' heq
    cases heq
    exact hrc rfl

theorem sendInTime_of_other (hx : b.stoppedAt e = some x)
    (hother : ∀ cmds, x.request ≠ .sendCommandBytes cmds) : b.SendInTime e := by
  intro cmds heq
  rw [hx] at heq
  cases heq
  exact hother cmds rfl

theorem tellsTimeout_of_transferred {r : BoardResult} (ht : b.transfer? op = some t)
    (hx : x.request = t.data) :
    TellsTimeout b ⟨op, u ++ [x], r⟩ (transferStatus x) ↔ b.SendInTime ⟨op, u ++ [x], r⟩ := by
  have hstop : b.stoppedAt ⟨op, u ++ [x], r⟩ = some x :=
    lastAsking_append_singleton (by simp [steps_of_transfer ht, hx])
  have hother : b.SendInTime ⟨op, u ++ [x], r⟩ :=
    sendInTime_of_other hstop fun cmds hsend =>
      SendsCommands.not_movesData ⟨cmds, hsend⟩ (request_data ht hx).1
  refine iff_of_true ?_ hother
  obtain ⟨done, hdone, heq⟩ := transferStatus_eq x
  rw [heq, dataStatus]
  split
  · exact tellsTimeout_of_rc hstop errIbsta_and_timo_iff transferIberr_eq_eabo_iff
  · rcases hdone with rfl | rfl
    · exact tellsTimeout_of_success (by decide)
    · exact tellsTimeout_of_success (by decide)

theorem tellsTimeout_of_commanded {r : BoardResult} (hc : b.command? op = some (cmds, done)) :
    TellsTimeout b ⟨op, [⟨.sendCommandBytes cmds, rc⟩], r⟩ (commandStatus rc done) ↔
      b.SendInTime ⟨op, [⟨.sendCommandBytes cmds, rc⟩], r⟩ := by
  have hstop : b.stoppedAt ⟨op, [⟨.sendCommandBytes cmds, rc⟩], r⟩ =
      some ⟨.sendCommandBytes cmds, rc⟩ :=
    lastAsking_singleton (by simp [steps_of_command hc])
  rw [sendInTime_send_iff hstop, commandStatus]
  split
  · exact tellsTimeout_send_iff hstop fun h => absurd h (by decide)
  · rename_i hrc
    obtain rfl := not_not.mp hrc
    refine iff_of_true ?_ (by decide)
    rcases command?_done hc with rfl | rfl
    · exact tellsTimeout_of_success (by decide)
    · exact tellsTimeout_of_success (by decide)

theorem tellsTimeout_of_polled {handle : Int} {d : GPIBDescriptor} {rr : ReadResult}
    {r : BoardResult} (hd : b.descriptors.descriptorFor handle = some d)
    (he : e = ⟨.serialPoll handle,
      [⟨.sendCommandBytes (serialPollCommands b.state.boardPAD d.pad d.sad),
          GPIBTransportError.ok⟩] ++ [⟨.readData 1 0 0 d.timeoutUs, rr⟩] ++
        [⟨.sendCommandBytes teardownCommands, rc⟩], r⟩) :
    TellsTimeout b e (pollStatus rr) ↔ b.SendInTime e := by
  have hstop : b.stoppedAt e = some ⟨.readData 1 0 0 d.timeoutUs, rr⟩ := by
    subst he
    rw [stoppedAt, steps_of_serialPoll hd, lastAsking_append_of_unwanted]
    · exact lastAsking_append_singleton (by simp)
    · simpa using teardownCommands_ne_serialPollCommands
  refine iff_of_true ?_ (sendInTime_of_other hstop nofun)
  rw [pollStatus]
  split
  · refine tellsTimeout_of_rc hstop errIbsta_and_timo_iff ?_
    have hiberr (rc : GPIBTransportError) :
        (if rc = .errTimeout then Iberr.eabo else Iberr.ebus) = Iberr.eabo ↔
          rc = .errTimeout := by
      cases rc <;> decide
    exact hiberr rr.rc
  · refine tellsTimeout_of_success ?_
    split <;> decide

/-- An operation calls its failure a timeout exactly when the call that made it fail timed out,
unless that call sent commands and timed out. -/
theorem tells_timeouts_iff (hop : e.op.worksOnBus = true) (h : b.Performs e b') :
    ∃ st, e.result.status? = some st ∧ (TellsTimeout b e st ↔ b.SendInTime e) := by
  obtain ⟨op, calls, r⟩ := e
  obtain ⟨st, hst, hcourse⟩ := busCourse_of_performs hop h
  refine ⟨st, hst, ?_⟩
  cases hcourse with
  | @unready _ iberr hiberr =>
      have htimo : ¬ Ibsta.err &&& Ibsta.timo ≠ 0 := by decide
      have heabo : iberr ≠ Iberr.eabo := by
        rcases hiberr with rfl | rfl
        · decide
        · decide
      refine iff_of_true ⟨fun _ => iff_of_false htimo ?_, fun _ => iff_of_false heabo htimo⟩ nofun
      rintro ⟨x, ⟨⟩, -⟩
  | @unaddressed _ t _ failure ht haddressing =>
      obtain ⟨rc, hstop, hiberr⟩ := stoppedAt_of_unaddressed (r := r) ht haddressing
      rw [sendInTime_send_iff hstop]
      exact tellsTimeout_send_iff hstop fun h => addressingIberr_eq_eabo_iff.mp (hiberr ▸ h)
  | transferred ht haddressing hx => exact tellsTimeout_of_transferred ht hx
  | commanded hc => exact tellsTimeout_of_commanded hc
  | @unpolled handle d rc hd hrc =>
      have hstop : b.stoppedAt ⟨.serialPoll handle,
          [⟨.sendCommandBytes (serialPollCommands b.state.boardPAD d.pad d.sad), rc⟩], r⟩ =
          some ⟨.sendCommandBytes (serialPollCommands b.state.boardPAD d.pad d.sad), rc⟩ :=
        lastAsking_singleton (by simp [steps_of_serialPoll hd])
      exact (tellsTimeout_send_iff hstop fun h => absurd h (by decide)).trans
        (sendInTime_send_iff hstop).symm
  | polled rr rc hd => exact tellsTimeout_of_polled hd rfl
  | cleared =>
      exact iff_of_true (tellsTimeout_of_success (by decide))
        (sendInTime_of_other (lastAsking_singleton (by simp [steps])) nofun)
  | @enabled _ enable rc =>
      refine iff_of_true (tellsTimeout_of_success ?_)
        (sendInTime_of_other (lastAsking_singleton (by simp [steps])) nofun)
      cases enable <;> decide

end Reports

/-- A write to the instrument at 5 with this addressing and these other calls. -/
def failedWrite (rc : GPIBTransportError) (rest : BoardTrace) (st : Status) : Event where
  op := .write 1 [104, 105] true
  calls := ⟨.sendCommandBytes (writeCommands 0 5 (-1)), rc⟩ :: rest
  result := .counted ⟨st, 0⟩

/-- The instrument at 5 does not take its data in time. -/
def timedOutWrite : Event :=
  failedWrite .ok [⟨.writeData [104, 105] true 3000000, (⟨.errTimeout, 0⟩ : WriteResult)⟩]
    ⟨Ibsta.err ||| Ibsta.timo, Iberr.eabo⟩

theorem tells_timeouts_timedOutWrite :
    TellsTimeout boardAtFive timedOutWrite ⟨Ibsta.err ||| Ibsta.timo, Iberr.eabo⟩ := by
  have hwrite : boardAtFive.Performs timedOutWrite
      { boardAtFive with
        state := { boardAtFive.state with ibsta := Ibsta.err ||| Ibsta.timo } } :=
    ⟨0, .ask (.ask (.pure _))⟩
  have hstop : boardAtFive.stoppedAt timedOutWrite =
      some ⟨.writeData [104, 105] true 3000000, (⟨.errTimeout, 0⟩ : WriteResult)⟩ :=
    lastAsking_append_singleton (t := [_]) (by decide)
  obtain ⟨st, hst, htells⟩ := tells_timeouts_iff rfl hwrite
  cases hst
  exact htells.mpr (sendInTime_of_other hstop nofun)

/-- Its address does not go out in time, and the core cannot be reset. -/
theorem addressing_timeout_not_told :
    boardAtFive.Performs
        (failedWrite .errTimeout [⟨.softReset, GPIBTransportError.errIo⟩]
          ⟨Ibsta.err, Iberr.eabo⟩)
        { boardAtFive with state := { boardAtFive.state with ibsta := Ibsta.err } } ∧
      ¬ TellsTimeout boardAtFive
        (failedWrite .errTimeout [⟨.softReset, GPIBTransportError.errIo⟩]
          ⟨Ibsta.err, Iberr.eabo⟩) ⟨Ibsta.err, Iberr.eabo⟩ := by
  refine ⟨⟨0, .ask (.ask (.pure _))⟩, fun h => ?_⟩
  have htimo := (h.eabo (by decide)).mp rfl
  exact absurd htimo (by decide)

end GPIBBoard

end DarwinGpib
