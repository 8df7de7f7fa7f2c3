import DarwinGpib.Board.Addressing
import DarwinGpib.Client.EosSetting
import DarwinGpib.Library.Conversation
import DarwinGpib.Transfer.ArmedWrites

/-!
# Writes of a client on the bus

A client sets EOT and writes on one descriptor of a board with a KUSB-488B, while the chunk size
of the transport changes at will between its calls. The bytes that its writes put on the bus do not
depend on the chunks.
-/

namespace DarwinGpib

open Behaviour Blocks Interaction KUSB488BTransport UserClient

namespace Libgpib

/-! ## A client that writes -/

inductive WriterCall where
  | ibeot (v : Int32)
  | ibconfig (v : Int32)
  | ibwrt (buf : List UInt8) (cnt : Int)
  deriving DecidableEq

def WriterCall.onDescriptor (ud : Int32) : WriterCall → LibCall
  | ibeot v => .ibeot ud v
  | ibconfig v => .ibconfig ud Ibc.eot.toInt32 v
  | ibwrt buf cnt => .ibwrt ud buf cnt

/-- A call with what it returned, or a new chunk size. -/
inductive WriterEvent where
  | call (c : WriterCall) (ret : Int32)
  | chunk (bytes : Nat)
  deriving DecidableEq

/-- A write returned no error. -/
def WriterEvent.Succeeded : WriterEvent → Prop
  | .call (.ibwrt _ _) ret => ret.toUInt32 &&& Ibsta.err = 0
  | _ => True

instance : DecidablePred WriterEvent.Succeeded
  | .call (.ibwrt _ _) ret => inferInstanceAs (Decidable (ret.toUInt32 &&& Ibsta.err = 0))
  | .call (.ibeot _) _ | .call (.ibconfig _) _ | .chunk _ => .isTrue trivial

/-- Whether EOT is enabled behind a configuration that returned `ibsta`. -/
def eotSet (eot : Bool) (v : Int32) (ibsta : UInt32) : Bool :=
  if ibsta &&& Ibsta.err = 0 then v ≠ 0 else eot

/-- Whether EOT is enabled behind an event. -/
def WriterEvent.eotAfter (eot : Bool) : WriterEvent → Bool
  | .call (.ibeot v) ret | .call (.ibconfig v) ret => eotSet eot v ret.toUInt32
  | _ => eot

/-- Whether EOT is enabled behind events, latest first, that it was enabled or not in front of. -/
def eotBehind (eot : Bool) : List WriterEvent → Bool
  | [] => eot
  | e :: past => e.eotAfter (eotBehind eot past)

/-- The buffer of a write, its last byte with EOI if EOT is enabled. -/
def WriterEvent.message (eot : Bool) : WriterEvent → List (UInt8 × Bool)
  | .call (.ibwrt buf cnt) _ => framed eot (buf.take cnt.toNat)
  | _ => []

/-- The buffers of the writes, one behind the other. -/
def written (eot : Bool) : List WriterEvent → List (UInt8 × Bool)
  | [] => []
  | e :: past => written eot past ++ e.message (eotBehind eot past)

/-! ## The driver and its USB traffic -/

/-- The driver board with its transport, and what they have exchanged over USB so far. -/
abbrev Wire := (GPIBBoard × KUSB488BTransport) × Usb.Trace

section Writers

variable (polls : Nat) (now : StateT KUSB488BTransport Usb UInt64) (fuel : Nat)

/-- What becomes of a request; a call that is taken adds to the traffic. -/
inductive Wired : Wire → Exchange BrokerCall.Reply → Wire → Prop where
  | probe {x i} {kr : Int64} (h : i ≠ 0 → kr ≠ 0) : Wired x ⟨.probe i, kr⟩ x
  | refused {x i c} {reply : CallReply} (h : reply.kr.toInt32 ≠ 0) :
      Wired x ⟨.call i c, reply⟩ x
  | taken {b b' t t' u c v out}
      (h : Run ((dispatch (asTransport polls) b now fuel c).run t) v (some (out, b'), t')) :
      Wired ((b, t), u) ⟨.call 0 c, (⟨0, some out⟩ : CallReply)⟩ ((b', t'), u ++ v)

/-- The process of the client, and the driver. -/
structure Writer where
  process : Process
  wire : Wire

/-- A call on the descriptor `ud`, or a change of the chunk size by whoever has the board open. -/
inductive WriterStep (ud : Int32) : Writer → WriterEvent → Writer → Prop where
  | call {w c u ret p' x'}
      (hrun : Run ((c.onDescriptor ud).exec.run w.process) u (ret, p'))
      (hserves : Serves (Wired polls now fuel) w.wire u x') :
      WriterStep ud w (.call c ret) ⟨p', x'⟩
  | chunk {p b t u bytes v r b' t'}
      (hrun : Run ((b.perform (asTransport polls) now fuel (.setMaxDataChunkDiag bytes)).run t)
        v (some (r, b'), t')) :
      WriterStep ud ⟨p, (b, t), u⟩ (.chunk bytes) ⟨p, (b', t'), u ++ v⟩

end Writers

/-- The descriptor is open, with this setting of EOT and this timeout. -/
structure OpenFor (ud : Int32) (eot : Bool) (timeoutUs : Nat) (p : Process) (b : GPIBBoard) :
    Prop where
  named : 0 ≤ namedHandle p ud
  options : ∃ o, b.descriptors.slots (namedHandle p ud).toInt = some o ∧ o.eot = eot ∧
    o.timeoutUs = timeoutUs

/-- Before the first call: the descriptor is open, and nothing was exchanged. The timeout is a
`uint32_t`. -/
structure Starting (ud : Int32) (eot : Bool) (timeoutUs : Nat) (w : Writer) : Prop where
  openFor : OpenFor ud eot timeoutUs w.process w.wire.1.1
  timeout_lt : timeoutUs < 2 ^ 32
  silent : w.wire.2 = []

/-! ## The calls -/

section Calls

variable {polls : Nat} {now : StateT KUSB488BTransport Usb UInt64} {fuel : Nat}

/-- What a part of a library call does between the process and the wired driver. -/
abbrev OnWire {α : Type} (polls : Nat) (now : StateT KUSB488BTransport Usb UInt64) (fuel : Nat)
    (P : Process → Wire → Prop) (x : Lib α) (Q : α → Process → Wire → Prop) : Prop :=
  Triple (Wired polls now fuel) P x Q

/-- The descriptor is open, and the traffic so far has put these bytes on the bus. -/
structure Writing (ud : Int32) (eot : Bool) (timeoutUs : Nat) (s : List (UInt8 × Bool))
    (p : Process) (x : Wire) : Prop where
  openFor : OpenFor ud eot timeoutUs p x.1.1
  puts : PutsOnBus timeoutUs x.2 s

/-- A condition that depends on no more of the process than its cached handles. -/
def OnHandles (P : Process → Wire → Prop) : Prop :=
  ∀ p p' x, p'.boardHandles = p.boardHandles → P p x → P p' x

variable {ud : Int32} {eot : Bool} {timeoutUs : Nat} {s : List (UInt8 × Bool)} {p p' : Process}
  {x x' : Wire} {b b' : GPIBBoard} {P : Process → Wire → Prop}

theorem namedHandle_congr (h : p'.boardHandles = p.boardHandles) (ud : Int32) :
    namedHandle p' ud = namedHandle p ud := by
  rw [namedHandle, namedHandle, h]

theorem OpenFor.of_eq (h : OpenFor ud eot timeoutUs p b)
    (hhandles : p'.boardHandles = p.boardHandles)
    (hslots : b'.descriptors.slots = b.descriptors.slots) : OpenFor ud eot timeoutUs p' b' := by
  constructor
  · rw [namedHandle_congr hhandles]
    exact h.named
  · rw [namedHandle_congr hhandles, hslots]
    exact h.options

theorem onHandles_writing : OnHandles (Writing ud eot timeoutUs s) :=
  fun _ _ _ hhandles h => ⟨h.openFor.of_eq hhandles rfl, h.puts⟩

theorem onWire_connForBoard (hP : OnHandles P) (i : Int32) :
    OnWire polls now fuel P (connForBoard i) fun _ => P := by
  refine triple_connForBoard hP ?_ i
  intro p x i kr x' hserve h
  cases hserve with
  | probe _ => exact h

theorem onWire_setStatus (hP : OnHandles P) (ibsta iberr : UInt32) (cnt : Nat) :
    OnWire polls now fuel P (setStatus ibsta iberr cnt) fun _ => P :=
  triple_modify fun p x h => hP p _ x rfl h

theorem onWire_returnErr (hP : OnHandles P) (iberr : UInt32) :
    OnWire polls now fuel P (returnErr iberr) fun ret p x => ret = Ibsta.err ∧ P p x :=
  triple_bind (onWire_setStatus hP _ _ _) fun _ => triple_pure fun _ _ h => ⟨rfl, h⟩

/-- The handle of a descriptor that is open for writes is found without a call. -/
def Found (ud : Int32) (eot : Bool) (timeoutUs : Nat) (s : List (UInt8 × Bool)) (handle : Int32)
    (p : Process) (x : Wire) : Prop :=
  handle = namedHandle p ud ∧ Writing ud eot timeoutUs s p x

theorem onWire_handleOf (ud : Int32) :
    OnWire polls now fuel (Writing ud eot timeoutUs s) (handleOf ud)
      (Found ud eot timeoutUs s) :=
  (triple_handleOf_named ud).conseq (fun _ _ h => ⟨h.openFor.named, h⟩) fun _ _ _ h => h

/-- A call that fails leaves everything as it was, and one that succeeds was taken. -/
theorem onWire_callStruct {conn : Int32} {c : DriverCall} {handle : Int32}
    {Q : Int32 × Option DriverReply → Process → Wire → Prop}
    (hfailed : ∀ kr out p x, kr ≠ kernSuccess →
      Writing ud eot timeoutUs s p x → Q (kr, out) p x)
    (htaken : ∀ out p b b' t t' u v, handle = namedHandle p ud →
      Writing ud eot timeoutUs s p ((b, t), u) →
        Run ((dispatch (asTransport polls) b now fuel c).run t) v (some (out, b'), t') →
          Q (kernSuccess, some out) p ((b', t'), u ++ v)) :
    OnWire polls now fuel (Found ud eot timeoutUs s handle) (callStruct conn c) Q := by
  apply triple_callStruct
  · rintro reply kr p p' x x' hkr hne hp' ⟨-, h⟩ hserve
    cases hserve with
    | refused _ =>
        refine hfailed _ _ _ _ hkr (onHandles_writing p p' x ?_ h)
        rcases hp' with rfl | rfl <;> rfl
    | taken _ => exact absurd rfl hne
  · rintro reply p x x' hzero ⟨hhandle, h⟩ hserve
    cases hserve with
    | refused hne => exact absurd hzero hne
    | taken hrun => exact htaken _ _ _ _ _ _ _ _ hhandle h hrun

/-- The open descriptor is the one that the driver finds. -/
theorem OpenFor.descriptorFor (h : OpenFor ud eot timeoutUs p b) :
    ∃ d, b.descriptors.descriptorFor (namedHandle p ud).toInt = some d ∧ d.eot = eot ∧
      d.timeoutUs = timeoutUs := by
  obtain ⟨o, ho, heot, htimeout⟩ := h.options
  obtain ⟨d, hd, rfl⟩ := Option.map_eq_some_iff.mp ho
  exact ⟨d, hd, heot, htimeout⟩

/-! ### Setting EOT -/

theorem eotSet_err (eot : Bool) (v : Int32) : eotSet eot v Ibsta.err = eot :=
  if_neg (by decide)

/-- The driver sets EOT, or refuses with an error, and nothing goes over USB. -/
theorem writing_of_configure {v : Int32} {t t' : KUSB488BTransport} {u w : Usb.Trace}
    {out : DriverReply} (h : Writing ud eot timeoutUs s p ((b, t), u))
    (hrun : Run ((dispatch (asTransport polls) b now fuel
      (.configure (namedHandle p ud).toInt Ibc.eot v)).run t) w (some (out, b'), t')) :
    Writing ud (eotSet eot v (statusOut (some out)).ibsta) timeoutUs s p ((b', t'), u ++ w) := by
  have heffect := tableEffect_of_run hrun
  obtain ⟨rfl, -⟩ := run_stateT_pure_iff.mp hrun
  rw [List.append_nil]
  obtain ⟨d, hd, heot, htimeout⟩ := h.openFor.descriptorFor
  have ho : d.configured Ibc.eot v = some { d.toDescriptorOptions with eot := v ≠ 0 } := rfl
  obtain ⟨hslots, rfl⟩ := heffect.configured_stored hd ho
  have hset : eotSet eot v Ibsta.cmpl = decide (v ≠ 0) := if_pos (by decide)
  refine ⟨⟨h.openFor.named, { d.toDescriptorOptions with eot := v ≠ 0 }, ?_, hset.symm,
    htimeout⟩, h.puts⟩
  exact (congrFun hslots _).trans (Function.update_self _ _ _)

theorem onWire_configure (v : Int32) :
    OnWire polls now fuel (Writing ud eot timeoutUs s) (configure ud Ibc.eot v)
      fun ret => Writing ud (eotSet eot v ret) timeoutUs s := by
  unfold configure statusCall
  refine triple_bind (Q := fun r => Writing ud (eotSet eot v r.1) timeoutUs s) ?_
    fun _ => triple_pure fun _ _ h => h
  refine triple_onHandle (R := fun r => Writing ud
    (if r.1 ≠ kernSuccess then eot else eotSet eot v (statusOut r.2).ibsta) timeoutUs s)
    (onWire_connForBoard onHandles_writing _) (fun p x h => ?_) (fun _ => onWire_handleOf ud)
    (fun _ handle => ?_) (fun kr out hkr => ?_) fun out => ?_
  · rw [eotSet_err]
    exact h
  · apply onWire_callStruct
    · intro kr out p x hkr h
      rw [if_pos hkr]
      exact h
    · rintro out p b b' t t' u w rfl h hrun
      rw [if_neg (not_not.mpr rfl)]
      exact writing_of_configure h hrun
  · rw [if_pos hkr]
    refine (onWire_returnErr onHandles_writing _).conseq (fun _ _ h => h) ?_
    rintro ret p x ⟨rfl, h⟩
    rw [eotSet_err]
    exact h
  · rw [if_neg (not_not.mpr rfl)]
    exact triple_bind (onWire_setStatus onHandles_writing _ _ _) fun _ =>
      triple_pure fun _ _ h => h

/-! ### Writing -/

/-- A write that the driver takes is one of its board. -/
theorem run_dispatch_write {T : IGPIBTransport (StateT KUSB488BTransport Usb)} {handle : Int}
    {data : List UInt8} {t t' : KUSB488BTransport} {u : Usb.Trace} {out : DriverReply}
    (hrun : Run ((dispatch T b now fuel (.write handle 1 data)).run t) u (some (out, b'), t')) :
    ∃ r state, out = .counted r ∧
      Run ((BoardState.write T (b.descriptors.descriptorFor handle) data true b.state).run t) u
        ((r, state), t') := by
  have hmap : Run ((handleWrite T b handle 1 data >>= fun r => pure (some r)).run t) u
      (some (out, b'), t') := by
    rwa [← map_eq_pure_bind]
  obtain ⟨⟨out', b''⟩, hhandle, heq⟩ := run_stateT_bind_pure_iff.mp hmap
  cases heq
  obtain ⟨v, ⟨r, b₁⟩, t₁, w, rfl, hv, hw⟩ := run_stateT_bind_iff.mp hhandle
  obtain ⟨rfl, heq⟩ := run_stateT_pure_iff.mp hw
  cases heq
  obtain ⟨x, ⟨r', state⟩, t₂, y, rfl, hx, hy⟩ := run_stateT_bind_iff.mp hv
  obtain ⟨rfl, heq⟩ := run_stateT_pure_iff.mp hy
  cases heq
  rw [List.append_nil, List.append_nil]
  exact ⟨r, state, rfl, hx⟩

/-- What a write that the driver takes adds to the bus. -/
theorem writing_of_write {data : List UInt8} {t t' : KUSB488BTransport} {u w : Usb.Trace}
    {out : DriverReply} (htimeout : timeoutUs < 2 ^ 32) (hlength : data.length < 2 ^ 32)
    (h : Writing ud eot timeoutUs s p ((b, t), u))
    (hrun : Run ((dispatch (asTransport polls) b now fuel
      (.write (namedHandle p ud).toInt 1 data)).run t) w (some (out, b'), t'))
    (hok : (writeOut (some out)).ibsta &&& Ibsta.err = 0) :
    Writing ud eot timeoutUs (s ++ framed eot data) p ((b', t'), u ++ w) := by
  have htable : b'.descriptors = b.descriptors := tableEffect_of_run hrun
  obtain ⟨d, hd, heot, hd'⟩ := h.openFor.descriptorFor
  obtain ⟨r, state, rfl, hwrite⟩ := run_dispatch_write hrun
  rw [hd] at hwrite
  have htimeouts : ∀ e, some d = some e → e.timeoutUs < 2 ^ 32 := by
    rintro e ⟨⟩
    rwa [hd']
  obtain ⟨e, ⟨⟩, hputs⟩ := putsOnBus_of_write hlength htimeouts hwrite hok
  rw [heot, hd'] at hputs
  exact ⟨h.openFor.of_eq rfl (congrArg DescriptorTable.slots htable), h.puts.append hputs⟩

theorem onWire_ibwrt (htimeout : timeoutUs < 2 ^ 32) (buf : List UInt8) (cnt : Int) :
    OnWire polls now fuel (Writing ud eot timeoutUs s) (ibwrt ud buf cnt) fun ret p x =>
      ret &&& Ibsta.err = 0 →
        Writing ud eot timeoutUs (s ++ framed eot (buf.take cnt.toNat)) p x := by
  have herr : ¬ Ibsta.err &&& Ibsta.err = 0 := by decide
  have hfail (P : Process → Wire → Prop) (iberr : UInt32) :
      OnWire polls now fuel P (returnErr iberr) fun ret p x => ret &&& Ibsta.err = 0 →
        Writing ud eot timeoutUs (s ++ framed eot (buf.take cnt.toNat)) p x :=
    triple_bind (triple_trivial _) fun _ => triple_pure fun _ _ _ h => absurd h herr
  refine triple_sendBytes (R := fun r p x => r.1 = kernSuccess →
      (writeOut r.2).ibsta &&& Ibsta.err = 0 →
        Writing ud eot timeoutUs (s ++ framed eot (buf.take cnt.toNat)) p x)
    (onWire_connForBoard onHandles_writing _) (fun p x _ h => absurd h herr)
    (fun _ _ => hfail _ _) (fun _ => onWire_handleOf ud) (fun hcnt _ handle => ?_)
    (fun _ _ _ => hfail _ _) fun out => ?_
  · have hlength : (buf.take cnt.toNat).length < 2 ^ 32 := by
      have hmax : kGPIBMaxInlineWrite < 2 ^ 32 := by decide
      have hle := List.length_take_le cnt.toNat buf
      omega
    apply onWire_callStruct
    · intro kr out p x hkr _ hok
      exact absurd hok hkr
    · rintro out p b b' t t' u w rfl h hrun _ hok
      exact writing_of_write htimeout hlength h hrun hok
  · refine triple_bind (Q := fun _ p x => (writeOut out).ibsta &&& Ibsta.err = 0 →
      Writing ud eot timeoutUs (s ++ framed eot (buf.take cnt.toNat)) p x)
      (triple_modify fun p x h hok => onHandles_writing p _ x rfl (h rfl hok)) fun _ => ?_
    exact triple_pure fun p x h => h

end Calls

/-! ## Runs -/

section Runs

variable {polls : Nat} {now : StateT KUSB488BTransport Usb UInt64} {fuel : Nat} {ud : Int32}
  {eot : Bool} {timeoutUs : Nat} {s : List (UInt8 × Bool)}

/-- The value of a call whose result is a status. -/
theorem onWire_ofStatus {y : Lib UInt32} {P : Process → Wire → Prop}
    {Q : UInt32 → Process → Wire → Prop} (h : OnWire polls now fuel P y Q) :
    OnWire polls now fuel P (ofStatus y) fun ret p x => Q ret.toUInt32 p x :=
  triple_bind h fun _ => triple_pure fun _ _ hq => hq

/-- A new chunk size changes the transport, and nothing goes over USB. -/
theorem run_setMaxDataChunkDiag {b b' : GPIBBoard} {t t' : KUSB488BTransport} {u : Usb.Trace}
    {bytes : Nat} {r : BoardResult}
    (hrun : Run ((b.perform (asTransport polls) now fuel (.setMaxDataChunkDiag bytes)).run t)
      u (some (r, b'), t')) : u = [] ∧ b' = b := by
  obtain ⟨v, rc, t₁, x, rfl, hv, hx⟩ := run_stateT_bind_iff.mp hrun
  obtain ⟨rfl, heq⟩ := run_stateT_pure_iff.mp hx
  cases heq
  rw [List.append_nil]
  rcases run_stateT_ite_iff.mp hv with ⟨-, hv⟩ | ⟨-, hv⟩
  · exact ⟨(run_stateT_pure_iff.mp hv).1, rfl⟩
  · obtain ⟨y, code, t₂, z, rfl, hy, hz⟩ := run_stateT_bind_iff.mp hv
    obtain ⟨rfl, -⟩ := run_pure_iff.mp hy
    obtain ⟨rfl, -⟩ := run_stateT_pure_iff.mp hz
    exact ⟨rfl, rfl⟩

/-- What one event does. -/
theorem writing_of_step {w w' : Writer} {e : WriterEvent} (htimeout : timeoutUs < 2 ^ 32)
    (h : Writing ud eot timeoutUs s w.process w.wire)
    (hstep : WriterStep polls now fuel ud w e w') (hok : e.Succeeded) :
    Writing ud (e.eotAfter eot) timeoutUs (s ++ e.message eot) w'.process w'.wire := by
  cases hstep with
  | @call _ c u ret p' x' hrun hserves =>
      cases c with
      | ibeot v =>
          have hset := onWire_ofStatus (onWire_configure v) _ _ _ _ _ _ h hrun hserves
          simpa only [WriterEvent.eotAfter, WriterEvent.message, List.append_nil] using hset
      | ibconfig v =>
          have hset := onWire_ofStatus (onWire_configure v) _ _ _ _ _ _ h hrun hserves
          simpa only [WriterEvent.eotAfter, WriterEvent.message, List.append_nil] using hset
      | ibwrt buf cnt =>
          exact onWire_ofStatus (onWire_ibwrt htimeout buf cnt) _ _ _ _ _ _ h hrun hserves hok
  | chunk hrun =>
      obtain ⟨rfl, rfl⟩ := run_setMaxDataChunkDiag hrun
      simp only [WriterEvent.message, List.append_nil]
      exact ⟨h.openFor, h.puts⟩

/-- What a whole run does. -/
theorem writing_of_history {past : List (Writer × WriterEvent)} {w : Writer}
    (h : Behaviour.History (Starting ud eot timeoutUs) (WriterStep polls now fuel ud) past w)
    (hok : ∀ e ∈ past, e.2.Succeeded) :
    timeoutUs < 2 ^ 32 ∧ Writing ud (eotBehind eot (past.map Prod.snd)) timeoutUs
      (written eot (past.map Prod.snd)) w.process w.wire := by
  induction h with
  | start h =>
      refine ⟨h.timeout_lt, h.openFor, ?_⟩
      rw [h.silent]
      exact putsOnBus_nil timeoutUs
  | step h hstep ih =>
      obtain ⟨hlast, hpast⟩ := List.forall_mem_cons.mp hok
      obtain ⟨htimeout, hwriting⟩ := ih hpast
      exact ⟨htimeout, writing_of_step htimeout hwriting hstep hlast⟩

/-- When all writes of a client succeed, its armed writes have put the buffers on the bus one
behind the other, whatever the chunk sizes; EOI goes with the last byte of each write for which EOT
was enabled, and with no other. Each header announces the bytes that follow it, and the
descriptor's timeout. -/
theorem chunks_keep_framing {past : List (Writer × WriterEvent)} {w : Writer}
    (h : Behaviour.History (Starting ud eot timeoutUs) (WriterStep polls now fuel ud) past w)
    (hok : ∀ e ∈ past, e.2.Succeeded) :
    busStream w.wire.2 = written eot (past.map Prod.snd) ∧
      ∀ a ∈ (armedWrites w.wire.2).2, HeaderFits timeoutUs a := by
  obtain ⟨-, hwriting⟩ := writing_of_history h hok
  exact ⟨hwriting.puts.stream, hwriting.puts.fits⟩

end Runs

/-! ## Twelve bytes -/

section Requests

variable (polls : Nat) (now : StateT KUSB488BTransport Usb UInt64) (fuel : Nat)
  (answer : (i : Usb.Request) → Option i.Reply)

/-- Board 0 takes its calls, and USB requests are answered by an oracle. -/
def answerWired (x : Wire) : (i : BrokerCall) → Option (i.Reply × Wire)
  | .probe i => if i = 0 then some ((0 : Int64), x) else none
  | .call i c => do
      let (v, o, t) ← follow answer ((dispatch (asTransport polls) x.1.1 now fuel c).run x.1.2)
      let (out, b) ← o
      if i = 0 then some ((⟨0, some out⟩ : CallReply), ((b, t), x.2 ++ v)) else none

theorem wired_of_answerWired {x x' : Wire} {e : Exchange BrokerCall.Reply}
    (h : Replying (answerWired polls now fuel answer) x e x') : Wired polls now fuel x e x' := by
  obtain ⟨request, reply⟩ := e
  cases request with
  | probe i =>
      obtain ⟨hi, heq⟩ := Option.ite_none_right_eq_some.mp h
      cases heq
      exact .probe fun hne => absurd hi hne
  | call i c =>
      obtain ⟨⟨v, o, t⟩, hfollow, h⟩ := Option.bind_eq_some_iff.mp h
      obtain ⟨⟨out, b⟩, rfl, h⟩ := Option.bind_eq_some_iff.mp h
      obtain ⟨rfl, heq⟩ := Option.ite_none_right_eq_some.mp h
      cases heq
      exact .taken (run_of_follow answer hfollow)

/-- What a client asks for: a call, or a chunk size. -/
def performEvent (ud : Int32) (w : Writer) :
    WriterCall ⊕ Nat → Option (WriterEvent × Writer)
  | .inl c => do
      let ((ret, p), x) ← converse (answerWired polls now fuel answer)
        ((c.onDescriptor ud).exec.run w.process) w.wire
      return (.call c ret, ⟨p, x⟩)
  | .inr bytes => do
      let (v, o, t) ← follow answer
        ((w.wire.1.1.perform (asTransport polls) now fuel (.setMaxDataChunkDiag bytes)).run
          w.wire.1.2)
      let (_, b) ← o
      return (.chunk bytes, ⟨w.process, (b, t), w.wire.2 ++ v⟩)

theorem step_of_performEvent {ud : Int32} {w w' : Writer} {r : WriterCall ⊕ Nat}
    {e : WriterEvent} (h : performEvent polls now fuel answer ud w r = some (e, w')) :
    WriterStep polls now fuel ud w e w' := by
  cases r with
  | inl c =>
      obtain ⟨⟨⟨ret, p⟩, x⟩, hconverse, heq⟩ := Option.bind_eq_some_iff.mp h
      cases heq
      obtain ⟨u, hrun, hserves⟩ := converse_eq_some_iff.mp hconverse
      exact .call hrun (hserves.mono fun _ _ _ => wired_of_answerWired polls now fuel answer)
  | inr bytes =>
      obtain ⟨⟨v, o, t⟩, hfollow, h⟩ := Option.bind_eq_some_iff.mp h
      obtain ⟨⟨r, b⟩, rfl, heq⟩ := Option.bind_eq_some_iff.mp h
      cases heq
      exact .chunk (run_of_follow answer hfollow)

/-- A whole run, with its requests latest first. -/
def performPast (ud : Int32) (w : Writer) :
    List (WriterCall ⊕ Nat) → Option (List (Writer × WriterEvent) × Writer)
  | [] => some ([], w)
  | r :: earlier => do
      let (past, w₁) ← performPast ud w earlier
      let (e, w₂) ← performEvent polls now fuel answer ud w₁ r
      return ((w₁, e) :: past, w₂)

theorem history_of_performPast {ud : Int32} {start : Writer → Prop} {w w' : Writer}
    (hw : start w) {rs : List (WriterCall ⊕ Nat)} {past : List (Writer × WriterEvent)}
    (h : performPast polls now fuel answer ud w rs = some (past, w')) :
    Behaviour.History start (WriterStep polls now fuel ud) past w' := by
  induction rs generalizing past w' with
  | nil =>
      cases h
      exact .start hw
  | cons r earlier ih =>
      obtain ⟨⟨past₁, w₁⟩, hearlier, h⟩ := Option.bind_eq_some_iff.mp h
      obtain ⟨⟨e, w₂⟩, hevent, heq⟩ := Option.bind_eq_some_iff.mp h
      cases heq
      exact .step (ih hearlier) (step_of_performEvent polls now fuel answer hevent)

end Requests

/-- The descriptor of handle 1 on board 0. -/
def udOne : Int32 := makeUd 0 1

/-- A client of the board at 5, on a transport that cuts data into chunks of four bytes. -/
def fourByteWriter : Writer :=
  ⟨.init, (boardAtFive, { kusbAttached with maxDataChunk := 4 }), []⟩

/-- Eight bytes with EOT in two chunks, and four without in one. -/
def twoWrites : List (WriterCall ⊕ Nat) :=
  [.inl (.ibwrt [9, 10, 11, 12] 4), .inl (.ibeot 0), .inr 0,
    .inl (.ibwrt [1, 2, 3, 4, 5, 6, 7, 8] 8)]

theorem starting_fourByteWriter : Starting udOne true 3000000 fourByteWriter :=
  ⟨⟨by decide, _, rfl, rfl, rfl⟩, by decide, rfl⟩

theorem performPast_twoWrites :
    (performPast 1 (pure 0) 1 everythingWorks udOne fourByteWriter twoWrites).map
        (fun r => (r.1.map Prod.snd, (armedWrites r.2.wire.2).2.length)) =
      some ([.call (.ibwrt [9, 10, 11, 12] 4) Ibsta.cmpl.toInt32,
        .call (.ibeot 0) Ibsta.cmpl.toInt32, .chunk 0,
        .call (.ibwrt [1, 2, 3, 4, 5, 6, 7, 8] 8) Ibsta.cmpl.toInt32], 3) := by
  decide +kernel

/-- Of what three armed writes put on the bus, the eighth byte has EOI, and no other. -/
theorem chunks_keep_framing_twoWrites :
    ∃ past w, Behaviour.History (Starting udOne true 3000000)
        (WriterStep 1 (pure 0) 1 udOne) past w ∧
      (armedWrites w.wire.2).2.length = 3 ∧
      busStream w.wire.2 = [(1, false), (2, false), (3, false), (4, false), (5, false),
        (6, false), (7, false), (8, true), (9, false), (10, false), (11, false), (12, false)] := by
  obtain ⟨⟨past, w⟩, hperform, hseen⟩ := Option.map_eq_some_iff.mp performPast_twoWrites
  obtain ⟨hevents, hcount⟩ := Prod.mk.inj hseen
  have hhistory := history_of_performPast 1 (pure 0) 1 everythingWorks starting_fourByteWriter
    hperform
  have hok : ∀ e ∈ past, e.2.Succeeded := by
    have hall : ∀ e ∈ past.map Prod.snd, e.Succeeded := by
      rw [hevents]
      decide
    exact fun e he => hall e.2 (List.mem_map_of_mem he)
  refine ⟨past, w, hhistory, hcount, ?_⟩
  rw [(chunks_keep_framing hhistory hok).1, hevents]
  rfl

end Libgpib

end DarwinGpib
