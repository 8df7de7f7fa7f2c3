import DarwinGpib.Library.Interpretation
import DarwinGpib.Wire.Replies
import DarwinGpib.Wire.Sending

/-!
# The bytes refine the calls

A library call carried out message by message, through the broker and over IOKit to the boards
of a bench, does what the call does at that bench: whatever run there is in bytes, there is one of
calls and replies that leaves the process, the boards and the buses in the same states.
-/

namespace DarwinGpib

open Interaction UserClient Ieee488

namespace Libgpib

/-! ## The world in bytes -/

/-- What becomes of an operation of the broker. A driver call may fail on its way; else the user
client of its board takes it, with a transport that stays within bounds. -/
inductive Bench.Carries (k : Kernel) : Bench → Exchange Gpibd.BrokerOp.Reply → Bench → Prop where
  | enumerateBoards {d} {list : List UInt8} : Carries k d ⟨.enumerateBoards, list⟩ d
  | connectionForBoard {d i} {rc : Int64}
      (h : rc ∈ [0, errNoBoard, errOpenFailed, errBadRequest]) :
      Carries k d ⟨.connectionForBoard i, rc⟩ d
  | dropBoard {d i} : Carries k d ⟨.dropBoard i, ()⟩ d
  | sessionAddDesc {d i handle} : Carries k d ⟨.sessionAddDesc i handle, ()⟩ d
  | sessionForgetDesc {d i handle} : Carries k d ⟨.sessionForgetDesc i handle, ()⟩ d
  | failed {d i selector input cap} {r : Int32 × List UInt8} (h : r.1 ≠ 0) :
      Carries k d ⟨.callStructMethod i selector input cap, r⟩ d
  | taken {d i selector input cap u result b' bus' fuel}
      (hrun : Run (externalMethod anyTransport anyUptime fuel k.base (some (d.board i))
        selector.toNat (k.deliver input cap)) u (some (result, some b')))
      (hbounds : ∀ e ∈ u, WithinBounds e)
      (hbus : Serves (Logging BusReacts) (d.bus i) u bus') :
      Carries k d ⟨.callStructMethod i selector input cap, k.collect result cap⟩
        ⟨Function.update d.board i b', Function.update d.bus i bus'⟩

/-- What becomes of a message: it is lost, or the broker handles it. -/
inductive Bench.Handles (k : Kernel) :
    Bench → Exchange (fun _ : Gpibd.Message => Option Gpibd.Answer) → Bench → Prop where
  | lost {d m} : Handles k d ⟨m, none⟩ d
  | handled {d m u a d'} (hrun : Run (Gpibd.handleRequest m) u a)
      (hserves : Serves (Carries k) d u d') : Handles k d ⟨m, some a⟩ d'

/-! ## One driver call -/

variable {k : Kernel} {d d' : Bench} {c : DriverCall} {i : Int32}

/-- What becomes of a driver call: it fails and changes nothing, or its board takes it and its
reply comes back in bytes. -/
inductive Outcome (d : Bench) (i : Int32) (c : DriverCall) : Int32 × List UInt8 → Bench → Prop where
  | failed {r} (h : r.1 ≠ 0) : Outcome d i c r d
  | taken {out b' bus' u fuel}
      (hrun : Run (dispatch anyTransport (d.board i) anyUptime fuel c) u (some (out, b')))
      (hreply : c.RepliedBy out)
      (hbus : Serves (Logging BusReacts) (d.bus i) u bus') :
      Outcome d i c (0, out.output)
        ⟨Function.update d.board i b', Function.update d.bus i bus'⟩

/-- The user client admits a call that fits the wire, and its handler dispatches it. -/
theorem run_externalMethod (hk : k.Documented) (hc : c.Sendable) {b : GPIBBoard} {fuel : Nat}
    {u : BoardTrace} {r : Option (Result × Option GPIBBoard)} :
    Run (externalMethod anyTransport anyUptime fuel k.base (some b) c.selector.code
      (k.deliver c.input c.outSize)) u r ↔
      ∃ o, Run (dispatch anyTransport b anyUptime fuel c) u o ∧
        r = o.map fun (out, b) => (⟨0, some out.output⟩, some b) := by
  have hadmits :
      k.base.refuses (externalMethodChecks c.selector) ⟨some c.input, c.outSize⟩ = none := by
    rw [← Option.not_isSome_iff_eq_none, hk.refuses_iff, not_not]
    exact admits_input c
  rw [hk.inline _ _ hc.input_le hc.outSize_le]
  simp only [externalMethod, Selector.ofCode_code, hadmits, dispatchMethod, Option.bind_some,
    request_input hc.representable, run_bind_iff, run_pure_iff]
  constructor
  · rintro ⟨v, o, w, rfl, hv, rfl, rfl⟩
    exact ⟨o, by simpa using hv, rfl⟩
  · rintro ⟨o, hrun, rfl⟩
    exact ⟨u, o, [], by simp, hrun, rfl, rfl⟩

theorem toUInt32_code (s : Selector) : (UInt64.ofNat s.code).toUInt32.toNat = s.code := by
  cases s <;> rfl

/-- One driver call that fits the wire. -/
theorem outcome_of_carries (hk : k.Documented) (hc : c.Sendable) {r : Int32 × List UInt8}
    (h : Bench.Carries k d ⟨.callStructMethod i (UInt64.ofNat c.selector.code).toUInt32 c.input
      c.outSize, r⟩ d') : Outcome d i c r d' := by
  cases h with
  | failed hr => exact .failed hr
  | taken hrun hbounds hbus =>
      rw [toUInt32_code] at hrun
      obtain ⟨o, hdispatch, heq⟩ := (run_externalMethod hk hc).mp hrun
      obtain ⟨⟨out, b'⟩, rfl, heq⟩ := Option.map_eq_some_iff.mp heq.symm
      cases heq
      have hreply := repliedBy_of_run hc.representable hbounds hdispatch
      rw [hk.succeeded _ _ (length_output_le hreply) hc.outSize_le]
      exact .taken hdispatch hreply hbus

/-! ## One message -/

/-- Operations of the broker other than driver calls leave the bench alone. -/
theorem Bench.Carries.quiet {e : Exchange Gpibd.BrokerOp.Reply} (h : Carries k d e d')
    (hcall : ∀ i selector input cap, e.request ≠ .callStructMethod i selector input cap) :
    d' = d := by
  cases h with
  | failed _ => rfl
  | taken _ _ _ => exact absurd rfl (hcall _ _ _ _)
  | _ => rfl

theorem Outcome.eq_of_failed {r : Int32 × List UInt8} (h : Outcome d i c r d') (hr : r.1 ≠ 0) :
    d' = d := by
  cases h with
  | failed _ => rfl
  | taken _ _ _ => exact absurd rfl hr

theorem dead_ne_zero {kr : Int32} (h : Gpibd.connectionIsDead kr = true) : kr ≠ 0 := by
  rintro rfl
  revert h
  decide

/-- A part of the broker's work that leaves the bench alone. -/
abbrev Quiet {α : Type} (k : Kernel) (p : Program Gpibd.BrokerOp.Reply α) : Prop :=
  ∀ P : Bench → Prop, Meets (Bench.Carries k) P p fun _ => P

theorem quiet_pure {α : Type} (a : α) : Quiet k (pure a) :=
  fun _ => meets_pure fun _ h => h

theorem quiet_call {q : Gpibd.BrokerOp}
    (hq : ∀ i selector input cap, q ≠ .callStructMethod i selector input cap) :
    Quiet k (Program.call q) := by
  intro P
  apply meets_call
  intro d r d' h hcarries
  rwa [hcarries.quiet hq]

theorem quiet_ite {α : Type} {p : Prop} [Decidable p] {x y : Program Gpibd.BrokerOp.Reply α}
    (hx : Quiet k x) (hy : Quiet k y) : Quiet k (if p then x else y) :=
  fun P => meets_ite (fun _ => hx P) fun _ => hy P

theorem quiet_dropIfDead (kr : Int32) : Quiet k (Gpibd.dropIfDead i kr) :=
  quiet_ite (quiet_call (by simp)) (quiet_pure ())

/-- A call that is made again behind a stale connection is made once or not at all. -/
theorem outcome_of_callWithRetry (hk : k.Documented) (hc : c.Sendable) :
    Meets (Bench.Carries k) (· = d)
      (Gpibd.callWithRetry i (UInt64.ofNat c.selector.code).toUInt32 c.input c.outSize)
      fun r x => Outcome d i c r x := by
  have hcall : Meets (Bench.Carries k) (· = d)
      (Program.call (Gpibd.BrokerOp.callStructMethod i (UInt64.ofNat c.selector.code).toUInt32
        c.input c.outSize)) fun r x => Outcome d i c r x := by
    apply meets_call
    rintro d r d' rfl h
    exact outcome_of_carries hk hc h
  have hdrop (r : Int32 × List UInt8) : Meets (Bench.Carries k) (Outcome d i c r)
      (Gpibd.dropIfDead i r.1 >>= fun _ => pure r) fun r x => Outcome d i c r x :=
    meets_bind (quiet_dropIfDead r.1 _) fun _ => meets_pure fun _ h => h
  unfold Gpibd.callWithRetry
  refine meets_bind hcall fun first => ?_
  apply meets_ite
  · intro _
    exact meets_pure fun _ h => h
  intro hdead
  have hne : first.1 ≠ 0 := dead_ne_zero (by simpa using hdead)
  refine meets_bind (quiet_call (by simp) _) fun _ => ?_
  refine meets_bind (quiet_call (by simp) _) fun rc => ?_
  apply meets_ite
  · intro _
    exact hdrop first
  · intro _
    have hagain : Meets (Bench.Carries k) (· = d) _ _ := meets_bind hcall hdrop
    exact hagain.conseq (fun x h => h.eq_of_failed hne) fun _ _ h => h

/-- Keeping the session's list leaves the bench alone. -/
theorem quiet_trackDescriptor (m : Gpibd.Message) (kr : Int32) (out : List UInt8) :
    Quiet k (Gpibd.trackDescriptor m i kr out) := by
  unfold Gpibd.trackDescriptor
  refine quiet_ite (quiet_pure ()) (quiet_ite ?_ (quiet_ite ?_ (quiet_pure ())))
  · cases Wire.OpenDescriptorOut.layout.decode out with
    | none => exact quiet_pure ()
    | some od => exact quiet_ite (quiet_call (by simp)) (quiet_pure ())
  · cases m.input.bind Wire.HandleIn.layout.decode with
    | none => exact quiet_pure ()
    | some i => exact quiet_call (by simp)

/-- A driver call as a message. -/
def callMessage (i : Int32) (c : DriverCall) : Gpibd.Message :=
  message i (UInt64.ofNat c.selector.code) c.input c.outSize

theorem opcodes_apart (s : Selector) :
    UInt64.ofNat s.code ≠ Gpibd.opListBoards ∧ UInt64.ofNat s.code ≠ Gpibd.opProbe := by
  cases s <;> decide

/-- The board index survives its way through `uint64_t`. -/
theorem board_of_message (i : Int32) : i.toInt64.toUInt64.toUInt32.toInt32 = i := by
  apply Int32.toBitVec_inj.mp
  apply BitVec.eq_of_getLsbD_eq
  intro j hj
  simp [BitVec.getLsbD_signExtend]
  grind

theorem toNat_outSize (hc : c.Sendable) : (UInt64.ofNat c.outSize).toNat = c.outSize := by
  have hle : c.outSize ≤ 4096 := hc.outSize_le
  have hsize : UInt64.size = 2 ^ 64 := rfl
  exact UInt64.toNat_ofNat_of_lt' (by omega)

theorem outSize_pos (c : DriverCall) : 16 ≤ c.outSize := by
  cases c with
  | read handle n => exact Nat.le_add_right 16 n
  | _ => exact le_refl 16

/-- What the broker answers to a driver call: it could not make it, or what it came to. -/
inductive Answered (d : Bench) (i : Int32) (c : DriverCall) : Gpibd.Answer → Bench → Prop where
  | unreachable {a} (h : a.kr.toInt32 ≠ 0) : Answered d i c a d
  | called {a r d'} (h : Outcome d i c r d') (hkr : a.kr = r.1.toInt64)
      (hout : a.out.getD [] = r.2) : Answered d i c a d'

theorem answered_of_handleRequest (hk : k.Documented) (hc : c.Sendable) :
    Meets (Bench.Carries k) (· = d) (Gpibd.handleRequest (callMessage i c))
      fun a x => Answered d i c a x := by
  have hle : c.outSize ≤ 4096 := hc.outSize_le
  have hcap : (callMessage i c).outcap.toNat = c.outSize := toNat_outSize hc
  have hpos : (callMessage i c).outcap ≠ 0 := by
    intro h
    have hlow := outSize_pos c
    rw [h] at hcap
    change 0 = c.outSize at hcap
    omega
  have hinput : (callMessage i c).input.getD [] = c.input := by
    unfold callMessage message
    dsimp only
    split
    · exact Eq.symm ‹_›
    · rfl
  unfold Gpibd.handleRequest
  apply meets_ite
  · intro h
    rw [hcap, Gpibd.maxOut] at h
    omega
  intro _
  apply meets_ite
  · intro h
    exact absurd h (opcodes_apart _).1
  intro _
  refine meets_bind (Q := fun (rc : Int64) x =>
    rc ∈ [0, errNoBoard, errOpenFailed, errBadRequest] ∧ x = d) ?_ fun (rc : Int64) => ?_
  · apply meets_call
    rintro d (r : Int64) d' rfl h
    cases h with
    | connectionForBoard h => exact ⟨h, rfl⟩
  apply meets_ite
  · intro hrc
    apply meets_pure
    rintro x ⟨hmem, rfl⟩
    apply Answered.unreachable
    simp only [List.mem_cons, List.not_mem_nil, or_false] at hmem
    rcases hmem with rfl | rfl | rfl | rfl
    · exact absurd rfl hrc
    all_goals decide
  intro _
  apply meets_ite
  · intro h
    exact absurd h (opcodes_apart _).2
  intro _
  rw [hcap, hinput]
  refine meets_bind (Q := fun r x => Outcome d i c r x) ?_ fun r => ?_
  · rw [show (callMessage i c).board.toUInt32.toInt32 = i from board_of_message i]
    exact (outcome_of_callWithRetry hk hc).conseq (fun x h => h.2) fun _ _ h => h
  refine meets_bind (quiet_trackDescriptor _ _ _ _) fun _ => meets_pure fun x h => ?_
  refine .called h rfl ?_
  by_cases hempty : r.2 = []
  · simp [hempty]
  · simp [hempty, hpos]

/-- A probe makes no driver call. -/
theorem quiet_probe (m : Gpibd.Message) (h : m.op = Gpibd.opProbe) :
    Quiet k (Gpibd.handleRequest m) := by
  intro P
  unfold Gpibd.handleRequest
  apply meets_ite
  · intro _
    exact quiet_pure _ P
  intro _
  apply meets_ite
  · intro hlist
    rw [h] at hlist
    exact absurd hlist (by decide)
  intro _
  refine meets_bind (quiet_call (by simp) P) fun (rc : Int64) => ?_
  apply meets_ite
  · intro _
    exact quiet_pure _ P
  intro _
  apply meets_ite
  · intro _
    exact quiet_pure _ P
  · intro hcall
    exact absurd h hcall

/-! ## One request of the library -/

/-- What the library makes of the answer to a message. -/
def received (outSize : Nat) : Option Gpibd.Answer → Int64 × List UInt8
  | none => (errBadRequest, [])
  | some a => (a.kr, (a.out.getD []).take outSize)

theorem run_sendMessage_iff {selector : UInt64} {input : List UInt8} {outSize : Nat}
    {u : Trace fun _ : Gpibd.Message => Option Gpibd.Answer} {r : Int64 × List UInt8} :
    Run (sendMessage i selector input outSize) u r ↔
      ∃ reply, u = [⟨message i selector input outSize, reply⟩] ∧ r = received outSize reply := by
  rw [sendMessage, run_call_bind_iff]
  constructor
  · rintro ⟨reply, v, rfl, hv⟩
    cases reply with
    | none =>
        obtain ⟨rfl, rfl⟩ := run_pure_iff.mp hv
        exact ⟨none, rfl, rfl⟩
    | some a =>
        obtain ⟨rfl, rfl⟩ := run_pure_iff.mp hv
        exact ⟨some a, rfl, rfl⟩
  · rintro ⟨reply, rfl, rfl⟩
    cases reply with
    | none => exact ⟨none, [], rfl, .pure _⟩
    | some a => exact ⟨some a, [], rfl, .pure _⟩

/-- What the library makes of the answer to a call is what the bench answers. -/
theorem answers_of_answered (hc : c.Sendable) {a : Gpibd.Answer} (h : Answered d i c a d') :
    Bench.Answers d
      ⟨.call i c, (⟨a.kr, replyIn c ((a.out.getD []).take c.outSize)⟩ : CallReply)⟩ d' := by
  cases h with
  | unreachable h => exact .refused h
  | called houtcome hkr hout =>
      cases houtcome with
      | failed hne =>
          refine .refused ?_
          rw [hkr, Int32.toInt32_toInt64]
          exact hne
      | @taken out b' bus' u fuel hrun hreply hbus =>
          have hread : replyIn c ((a.out.getD []).take c.outSize) = some out := by
            rw [hout, List.take_of_length_le (length_output_le hreply),
              replyIn_output hreply hc.representable]
          rw [hread, hkr]
          exact .taken hrun hbus

/-- Each request of the library, carried out in bytes, is answered as the bench answers it. -/
theorem simulates_wire (hk : k.Documented) :
    Simulates Bench.Answers (Bench.Handles k) Eq (fun q => ¬ q.Sendable) wire := by
  rintro d _ q u r d' rfl hq hrun hserves
  refine ⟨d', ?_, rfl⟩
  cases q with
  | probe board =>
      obtain ⟨v, x, w, rfl, hv, hw⟩ := run_bind_iff.mp hrun
      obtain ⟨reply, rfl, rfl⟩ := run_sendMessage_iff.mp hv
      obtain ⟨rfl, rfl⟩ := run_pure_iff.mp hw
      cases serves_singleton_iff.mp hserves with
      | lost => exact .probe
      | handled hhandled hcarried =>
          rw [quiet_probe _ rfl (· = d) d _ _ _ rfl hhandled hcarried]
          exact .probe
  | call board c =>
      have hc : c.Sendable := not_not.mp hq
      obtain ⟨v, x, w, rfl, hv, hw⟩ := run_bind_iff.mp hrun
      obtain ⟨reply, rfl, rfl⟩ := run_sendMessage_iff.mp hv
      obtain ⟨rfl, rfl⟩ := run_pure_iff.mp hw
      cases serves_singleton_iff.mp hserves with
      | lost => exact .refused (show errBadRequest.toInt32 ≠ 0 by decide)
      | handled hhandled hcarried =>
          exact answers_of_answered hc
            (answered_of_handleRequest hk hc d _ _ _ rfl hhandled hcarried)

/-! ## Whole calls -/

/-- A library call in bytes: one message for each request. -/
def LibCall.execWire (c : LibCall) (p : Process) :
    Program (fun _ : Gpibd.Message => Option Gpibd.Answer) (Int32 × Process) :=
  (c.exec.run p).interpret wire

/-- Whatever a library call does in bytes, it does in calls and replies: the result, the process,
the boards and the buses are those of a run at the bench. -/
theorem wire_refines_calls (hk : k.Documented) {call : LibCall} {p p' : Process} {ret : Int32}
    {u : Trace fun _ : Gpibd.Message => Option Gpibd.Answer}
    (hrun : Run (call.execWire p) u (ret, p')) (hserves : Serves (Bench.Handles k) d u d') :
    ∃ v, Run (call.exec.run p) v (ret, p') ∧ Serves Bench.Answers d v d' := by
  obtain ⟨v, d₁, hv, hd₁, rfl⟩ :=
    (simulates_wire hk).run ((sendable_exec call) p).avoids hrun hserves rfl
  exact ⟨v, hv, hd₁⟩

/-! ## `ibsic` in bytes -/

/-- IOKit that carries every structure inline. -/
def directKernel : Kernel where
  base :=
    { refuses := fun d args =>
        if d.Admits (args.structureInput.getD []).length args.structureOutputMaximumSize then none
        else some kIOReturnBadArgument
      withoutEntry := kIOReturnUnsupported }
  deliver input cap := ⟨some input, cap⟩
  collect r cap := (r.kr, (r.structureOutput.getD []).take cap)

theorem documented_directKernel : directKernel.Documented where
  refuses_iff d input cap := by
    by_cases h : d.Admits input.length cap <;> simp [directKernel, h]
  refused d args kr h := by
    simp only [directKernel] at h
    split at h
    · cases h
    · cases h
      decide
  withoutEntry := by decide
  inline _ _ _ _ := rfl
  succeeded out cap h _ := by simp [directKernel, List.take_of_length_le h]
  failed _ _ h := h

def clearedStatus : Status := ⟨Ibsta.cmpl ||| Ibsta.cic, 0⟩

def clearedBoard : GPIBBoard :=
  { foundBoard with state.ibsta := Ibsta.cmpl ||| Ibsta.cic }

def clearedOutput : List UInt8 := (DriverReply.status clearedStatus).output

def clearedAnswer : Gpibd.Answer := ⟨0, some clearedOutput, none⟩

/-- The bench after an interface clear on the board of index 0. -/
def clearedBench : Bench where
  board := Function.update foundBench.board 0 clearedBoard
  bus := Function.update foundBench.bus 0 (.clear, [(.clear, .pulseInterfaceClear)])

theorem run_cleared :
    Run (dispatch anyTransport foundBoard anyUptime 0 (.interfaceClear 1))
      [⟨.pulseInterfaceClear, GPIBTransportError.ok⟩]
      (some (.status clearedStatus, clearedBoard)) :=
  .ask (.pure _)

theorem sendable_interfaceClear : (DriverCall.interfaceClear 1).Sendable :=
  sendable_of_fixed (show IsInt32 1 by decide) (by decide) rfl

theorem carries_cleared :
    Serves (Bench.Carries directKernel) foundBench
      [⟨.connectionForBoard 0, (0 : Int64)⟩,
        ⟨.callStructMethod 0 7 (DriverCall.interfaceClear 1).input 16, (0, clearedOutput)⟩]
      clearedBench := by
  have hrun : Run (externalMethod anyTransport anyUptime 0 directKernel.base
      (some (foundBench.board 0)) 7
      (directKernel.deliver (DriverCall.interfaceClear 1).input 16))
      [⟨.pulseInterfaceClear, GPIBTransportError.ok⟩]
      (some (⟨0, some clearedOutput⟩, some clearedBoard)) :=
    (run_externalMethod documented_directKernel sendable_interfaceClear).mpr ⟨_, run_cleared, rfl⟩
  have hbus : Serves (Logging BusReacts) (foundBench.bus 0)
      [⟨.pulseInterfaceClear, GPIBTransportError.ok⟩] (.clear, [(.clear, .pulseInterfaceClear)]) :=
    .cons ⟨.disturbed (by simp) rfl, rfl⟩ (.nil _)
  have hbounds : ∀ e ∈ [(⟨.pulseInterfaceClear, GPIBTransportError.ok⟩ :
      Exchange BoardRequest.Reply)], WithinBounds e := by
    simp [WithinBounds]
  have hcall : Bench.Carries directKernel foundBench
      ⟨.callStructMethod 0 7 (DriverCall.interfaceClear 1).input 16,
        directKernel.collect ⟨0, some clearedOutput⟩ 16⟩ clearedBench :=
    .taken hrun hbounds hbus
  exact .cons (.connectionForBoard (by decide)) (.cons hcall (.nil _))

def clearedReply : (q : Gpibd.BrokerOp) → Option q.Reply
  | .connectionForBoard _ => some (0 : Int64)
  | .callStructMethod _ _ _ _ => some ((0, clearedOutput) : Int32 × List UInt8)
  | _ => none

theorem run_handleRequest_cleared :
    Run (Gpibd.handleRequest (callMessage 0 (.interfaceClear 1)))
      [⟨.connectionForBoard 0, (0 : Int64)⟩,
        ⟨.callStructMethod 0 7 (DriverCall.interfaceClear 1).input 16, (0, clearedOutput)⟩]
      clearedAnswer :=
  run_of_follow clearedReply rfl

/-- `ibsic` on a board that takes the interface clear. -/
theorem wire_refines_ibsic :
    ∃ p' v, Run ((LibCall.ibsic 0).exec.run foundProcess) v
        ((Ibsta.cmpl ||| Ibsta.cic).toInt32, p') ∧
      Serves Bench.Answers foundBench v clearedBench := by
  have hrun : Run ((LibCall.ibsic 0).execWire foundProcess)
      [⟨callMessage 0 (.interfaceClear 1), some clearedAnswer⟩]
      ((Ibsta.cmpl ||| Ibsta.cic).toInt32, { foundProcess with ibsta := Ibsta.cmpl ||| Ibsta.cic }) :=
    run_of_follow (fun _ => some (some clearedAnswer)) rfl
  exact ⟨_, wire_refines_calls documented_directKernel hrun
    (.cons (.handled run_handleRequest_cleared carries_cleared) (.nil _))⟩

end Libgpib

end DarwinGpib
