import DarwinGpib.Client.EosModes

/-!
# Setting the end-of-string mode through the library

`ibdev` opens its descriptor with the mode it was given; `ibeos` and `ibconfig` set it on the
handle that their descriptor names. Together with the read requests this follows a mode from
the library call that sets it to the bus.
-/

namespace DarwinGpib

open Interaction UserClient

namespace Libgpib

/-- The handle that a process has for a descriptor. -/
def namedHandle (p : Process) (ud : Int32) : Int32 :=
  if isBoardUd ud then p.boardHandles ud else ud &&& handleMask

section Setting

variable {τ : Type} {T : IGPIBTransport (StateT τ Usb)} {now : StateT τ Usb UInt64} {fuel : Nat}

/-- What a part of a library call does between the process and the recorded driver. -/
abbrev Records {α : Type} (T : IGPIBTransport (StateT τ Usb)) (now : StateT τ Usb UInt64)
    (fuel : Nat) (P : Process → (GPIBBoard × τ) × (Int → EosMode) → Prop) (x : Lib α)
    (Q : α → Process → (GPIBBoard × τ) × (Int → EosMode) → Prop) : Prop :=
  Triple (Recorded T now fuel) P x Q

/-- A condition on the cached handles and the recorded modes alone. -/
def Stable (P : Process → (GPIBBoard × τ) × (Int → EosMode) → Prop) : Prop :=
  ∀ p p' y y', p'.boardHandles = p.boardHandles → y'.2 = y.2 → P p y → P p' y'

variable {P : Process → (GPIBBoard × τ) × (Int → EosMode) → Prop}

/-- Leaving a status behind, and then a value. -/
theorem records_finish {α : Type}
    {Q : α → Process → (GPIBBoard × τ) × (Int → EosMode) → Prop} (ibsta iberr : UInt32)
    (cnt : Nat) (a : α) (hQ : ∀ p y, Q a p y) :
    Records T now fuel P (do
      setStatus ibsta iberr cnt
      return a) Q :=
  triple_bind (triple_trivial _) fun _ => triple_pure fun p y _ => hQ p y

/-- Looking a board up sets no mode. -/
theorem Stable.connForBoard (hP : Stable P) (i : Int32) :
    Records T now fuel P (connForBoard i) fun _ => P :=
  triple_connForBoard (fun p p' y hhandles => hP p p' y y hhandles rfl)
    (fun p y _ _ y' hserve => hP p p y y' rfl hserve.2) i

/-- A call that succeeds was answered by the driver, and its modes are recorded. -/
theorem records_callStruct {conn : Int32} {c : DriverCall}
    {Q : Int32 × Option DriverReply → Process → (GPIBBoard × τ) × (Int → EosMode) → Prop}
    (hfailed : ∀ kr out p y, kr ≠ kernSuccess → Q (kr, out) p y)
    (htaken : ∀ out p (y y' : (GPIBBoard × τ) × (Int → EosMode)), P p y →
      TableEffect y.1.1 c (out, y'.1.1) → y'.2 = EosMode.after y.2 c out →
        Q (kernSuccess, some out) p y') :
    Records T now fuel P (callStruct conn c) Q := by
  refine triple_callStruct (fun _ kr _ _ _ _ hkr _ _ _ _ => hfailed kr _ _ _ hkr) ?_
  rintro reply p ⟨⟨b, t⟩, modes⟩ ⟨⟨b', t'⟩, modes'⟩ hzero h ⟨hserved, hmodes⟩
  simp only at hserved hmodes
  cases hserved with
  | refused hne => exact absurd hzero hne
  | taken hrun => exact htaken _ _ ((b, t), modes) _ h (tableEffect_of_run hrun) hmodes

/-! ## Looking a handle up -/

/-- A handle that opening a board reports is cached for it. -/
theorem records_openBoard {i : Int32} (hi : inRange i = true) :
    Records T now fuel P (openBoard i) fun h p _ => 0 ≤ h → h = p.boardHandles i := by
  have hnone (p : Process) : (0 : Int32) ≤ -1 → -1 = p.boardHandles i :=
    fun h => absurd h (by decide)
  unfold openBoard
  refine triple_bind (triple_trivial _) ?_
  rintro (_ | c)
  · exact triple_pure fun p _ _ => hnone p
  refine triple_bind (triple_trivial _) fun online => ?_
  apply triple_ite
  · intro _
    exact records_finish _ _ _ _ fun p _ => hnone p
  intro _
  refine triple_bind (triple_trivial _) fun opened => ?_
  apply triple_ite
  · intro _
    exact records_finish _ _ _ _ fun p _ => hnone p
  intro _
  apply triple_ite
  · intro _
    exact records_finish _ _ _ _ fun p _ => hnone p
  intro _
  unfold setBoardHandle
  simp only [hi, Bool.not_true, Bool.false_eq_true, if_false]
  refine triple_bind (Q := fun _ p _ => (openDescriptorOut opened.2).1 = p.boardHandles i)
    (triple_modify fun p y _ => ?_) fun _ => ?_
  · exact (Function.update_self i (openDescriptorOut opened.2).1 p.boardHandles).symm
  · exact triple_pure fun p y h _ => h

/-- A handle that is found is the one that the process then has. -/
theorem records_handleOf (ud : Int32) :
    Records T now fuel P (handleOf ud) fun h p _ => 0 ≤ h → h = namedHandle p ud := by
  unfold handleOf namedHandle
  apply triple_ite
  · intro hboard
    simp only [hboard, if_true]
    apply triple_boardHandle
    · intro p y _ _ h
      exact absurd h (by decide)
    · intro p y _ _ _
      rfl
    · intro _
      exact records_openBoard hboard
  · intro hdevice
    simp only [hdevice, if_false]
    exact triple_pure fun p y _ _ => rfl

/-- A handle that the process has already is found without a call. -/
theorem triple_handleOf_named {δ : Type} {serve : δ → Exchange BrokerCall.Reply → δ → Prop}
    {P : Process → δ → Prop} (ud : Int32) :
    Triple serve (fun p y => 0 ≤ namedHandle p ud ∧ P p y) (handleOf ud)
      fun h p y => h = namedHandle p ud ∧ P p y := by
  unfold handleOf namedHandle
  apply triple_ite
  · intro hboard
    simp only [hboard, if_true]
    apply triple_boardHandle
    · intro p y hrange _
      exact absurd hboard (by simp [isBoardUd, hrange])
    · intro p y _ h
      exact ⟨rfl, h.2⟩
    · intro _ p y u h p' y' hpre
      exact absurd hpre.2.1 (Int32.not_le.mpr hpre.1)
  · intro hdevice
    simp only [hdevice, if_false]
    exact triple_pure fun p y h => ⟨rfl, h.2⟩

/-! ## Setting the mode -/

/-- The mode of the handle behind `ud` is a mode satisfying `M`, configured. -/
def Configured (ud : Int32) (M : EosMode → Prop) (key : UInt32) (value : Int32) (p : Process)
    (y : (GPIBBoard × τ) × (Int → EosMode)) : Prop :=
  0 ≤ namedHandle p ud ∧ ∃ m, M m ∧ y.2 (namedHandle p ud).toInt = m.configured key value

theorem stable_configured (ud : Int32) (M : EosMode → Prop) (key : UInt32) (value : Int32) :
    Stable (Configured (τ := τ) ud M key value) := by
  rintro p p' y y' hhandles hmodes ⟨hnamed, hm⟩
  have heq : namedHandle p' ud = namedHandle p ud := by
    rw [namedHandle, namedHandle, hhandles]
  rw [Configured, heq, hmodes]
  exact ⟨hnamed, hm⟩

/-- A configuration that returns no error has set the mode of the handle behind `ud`. -/
theorem records_configure {ud : Int32} {M : EosMode → Prop}
    (hP : Stable P)
    (hhandle : Records T now fuel P (handleOf ud) fun h p y =>
      0 ≤ h → h = namedHandle p ud ∧ M (y.2 h.toInt))
    (key : UInt32) (value : Int32) :
    Records T now fuel P (configure ud key value) fun ret p y =>
      ret &&& Ibsta.err = 0 → Configured ud M key value p y := by
  unfold configure statusCall
  refine triple_bind (Q := fun r p y => r.1 &&& Ibsta.err = 0 → Configured ud M key value p y)
    ?_ fun _ => triple_pure fun _ _ h => h
  refine triple_onHandle (R := fun r p y => r.1 = kernSuccess →
    (statusOut r.2).ibsta &&& Ibsta.err = 0 → Configured ud M key value p y)
    (hP.connForBoard _) (fun p y _ h => absurd h (by decide)) (fun _ => hhandle)
    (fun _ handle => ?_) (fun kr out _ => ?_) fun out => ?_
  · apply records_callStruct
    · intro kr out p y hkr hok
      exact absurd hok hkr
    · intro out p y y' hnamed heffect hmodes _ hret
      rcases heffect.configured with ⟨-, iberr, rfl⟩ | ⟨d, o, hd, ho, -, rfl⟩
      · exact absurd hret (show ¬ Ibsta.err &&& Ibsta.err = 0 by decide)
      · have hpos := (DescriptorTable.mem_handles_iff.mp
          (DescriptorTable.descriptorFor_eq_some hd).2).1
        have hle : 0 ≤ handle := Int32.le_iff_toInt_le.mpr (show 0 ≤ handle.toInt by omega)
        obtain ⟨rfl, hM⟩ := hnamed hle
        refine ⟨hle, _, hM, ?_⟩
        rw [hmodes, EosMode.after, if_pos (show Ibsta.cmpl &&& Ibsta.err = 0 by decide),
          Function.update_self]
  · exact triple_bind (triple_trivial _) fun _ => triple_pure fun p y _ h => absurd h (by decide)
  · exact triple_bind (Q := fun _ p y => (statusOut out).ibsta &&& Ibsta.err = 0 →
      Configured ud M key value p y) (triple_modify fun p y h => h rfl) fun _ =>
        triple_pure fun p y h => h

/-- The first configuration, on a handle that may have to be opened for it. -/
theorem records_configure_first (ud : Int32) (key : UInt32) (value : Int32) :
    Records T now fuel (fun _ _ => True) (configure ud key value) fun ret p y =>
      ret &&& Ibsta.err = 0 → Configured ud (fun _ => True) key value p y :=
  records_configure (fun _ _ _ _ _ _ _ => trivial)
    ((records_handleOf ud).conseq (fun _ _ h => h) fun _ _ _ h hle => ⟨h hle, trivial⟩) key value

/-- A configuration behind another one. -/
theorem records_configure_next (ud : Int32) (key key' : UInt32) (value value' : Int32) :
    Records T now fuel (Configured ud (fun _ => True) key value) (configure ud key' value')
      fun ret p y => ret &&& Ibsta.err = 0 →
        Configured ud (fun m => ∃ m₀ : EosMode, m = m₀.configured key value) key' value' p y := by
  refine records_configure (stable_configured _ _ _ _) ?_ key' value'
  refine (triple_handleOf_named (P := Configured ud (fun _ => True) key value) ud).conseq
    (fun p y h => ⟨h.1, h⟩) ?_
  rintro h p y ⟨rfl, -, m, -, hm⟩ -
  exact ⟨rfl, m, hm⟩

theorem records_ibeos (ud v : Int32) :
    Records T now fuel (fun _ _ => True) (ibeos ud v) fun ret p y =>
      ret &&& Ibsta.err = 0 → y.2 (namedHandle p ud).toInt = EosMode.of v := by
  unfold ibeos
  refine triple_bind (records_configure_first ud _ _) fun char => ?_
  by_cases hchar : char &&& Ibsta.err = 0
  · refine triple_bind ((records_configure_next ud _ Ibc.eosRd _ _).conseq
      (fun _ _ h => h hchar) fun _ _ _ h => h) fun flags => ?_
    refine triple_pure ?_
    intro p y h hret
    obtain ⟨-, _, ⟨m, rfl⟩, hm⟩ := h (Ibsta.or_and_err_eq_zero_iff.mp hret).2
    rw [hm, EosMode.configured_ibeos]
  · refine triple_bind (triple_trivial _) fun flags => triple_pure ?_
    intro p y _ hret
    exact absurd (Ibsta.or_and_err_eq_zero_iff.mp hret).1 hchar

theorem records_ibconfig (ud option value : Int32) :
    Records T now fuel (fun _ _ => True) (ibconfig ud option value) fun ret p y =>
      ret &&& Ibsta.err = 0 →
        ∃ m, y.2 (namedHandle p ud).toInt = EosMode.configured m option.toUInt32 value := by
  refine (records_configure_first ud _ _).conseq (fun _ _ h => h) ?_
  intro ret p y h hret
  obtain ⟨-, m, -, hm⟩ := h hret
  exact ⟨m, hm⟩

/-- The descriptor that `ibdev` returns is made for a handle that has its mode. -/
theorem records_ibdev (boardIndex pad sad timo sendEoi eosmode : Int32) :
    Records T now fuel (fun _ _ => True) (ibdev boardIndex pad sad timo sendEoi eosmode)
      fun ud _ y => 0 ≤ ud → ∃ handle ∈ DescriptorTable.handles,
        ud = makeUd boardIndex (Int32.ofInt handle) ∧ y.2 handle = EosMode.of eosmode := by
  have hnegative {A : Prop} : (0 : Int32) ≤ -1 → A := fun h => absurd h (by decide)
  unfold ibdev
  refine triple_bind (triple_trivial _) fun h => ?_
  apply triple_ite
  · intro _
    exact triple_pure fun _ _ _ => hnegative
  intro _
  refine triple_bind (triple_trivial _) ?_
  rintro (_ | c)
  · exact triple_pure fun _ _ _ => hnegative
  refine triple_bind (Q := fun r p y => r.1 = kernSuccess → ¬ (openDescriptorOut r.2).1 < 0 →
    ∃ handle ∈ DescriptorTable.handles, (openDescriptorOut r.2).1 = Int32.ofInt handle ∧
      y.2 handle = EosMode.of eosmode) ?_ ?_
  · apply records_callStruct
    · intro kr out p y hkr hok
      exact absurd hok hkr
    · intro out p y y' _ heffect hmodes _ hreported
      rcases heffect.opened with ⟨handle, s, rfl, hmem, -, -⟩ | ⟨⟨s, rfl⟩, -⟩
      · refine ⟨handle, hmem, rfl, ?_⟩
        rw [hmodes, EosMode.after, Function.update_self, EosMode.ofOpen_deviceDescriptorIn]
      · exact absurd (show Int32.ofInt (-1) < 0 by decide) hreported
  intro r
  apply triple_ite
  · intro _
    exact records_finish _ _ _ _ fun _ _ => hnegative
  intro hkr
  apply triple_ite
  · intro _
    exact records_finish _ _ _ _ fun _ _ => hnegative
  intro hreported
  refine triple_bind (Q := fun _ _ (y : (GPIBBoard × τ) × (Int → EosMode)) =>
    ∃ handle ∈ DescriptorTable.handles, (openDescriptorOut r.2).1 = Int32.ofInt handle ∧
      y.2 handle = EosMode.of eosmode)
    (triple_modify fun p y h => h (not_not.mp hkr) hreported) fun _ => ?_
  refine triple_pure ?_
  rintro p y ⟨handle, hmem, hout, hmode⟩ -
  exact ⟨handle, hmem, congrArg (makeUd boardIndex) hout, hmode⟩

end Setting

/-! ## End to end -/

/-- `ibdev` sets the mode of the handle it opens, and `ibeos` and `ibconfig` set it on the handle
behind their descriptor, unless they report an error. -/
structure SetsModes {τ : Type} (T : IGPIBTransport (StateT τ Usb)) : Prop where
  ibdev (now : StateT τ Usb UInt64) (fuel : Nat) (boardIndex pad sad timo sendEoi v : Int32) :
    Records T now fuel (fun _ _ => True) (ibdev boardIndex pad sad timo sendEoi v)
      fun ud _ y => 0 ≤ ud → ∃ handle ∈ DescriptorTable.handles,
        ud = makeUd boardIndex (Int32.ofInt handle) ∧ y.2 handle = EosMode.of v
  ibeos (now : StateT τ Usb UInt64) (fuel : Nat) (ud v : Int32) :
    Records T now fuel (fun _ _ => True) (ibeos ud v) fun ret p y =>
      ret &&& Ibsta.err = 0 → y.2 (namedHandle p ud).toInt = EosMode.of v
  ibconfig (now : StateT τ Usb UInt64) (fuel : Nat) (ud option v : Int32) :
    Records T now fuel (fun _ _ => True) (ibconfig ud option v) fun ret p y =>
      ret &&& Ibsta.err = 0 →
        ∃ m, y.2 (namedHandle p ud).toInt = EosMode.configured m option.toUInt32 v

theorem setsModes {τ : Type} (T : IGPIBTransport (StateT τ Usb)) : SetsModes T where
  ibdev _ _ := records_ibdev
  ibeos _ _ := records_ibeos
  ibconfig _ _ := records_ibconfig

/-- A mode set through the library is recorded for its handle, and every read request of a
handle says what its recorded mode asks for, as far as the adapter can be told. -/
theorem eos_mode_reaches_reads :
    ReadsHonour NIUSBTransport.asTransport NIUSBTransport.Honours ∧
      ReadsHonour Agilent82357Transport.asTransport Agilent82357Transport.Honours ∧
      (∀ polls, ReadsHonour (KUSB488BTransport.asTransport polls) KUSB488BTransport.Honours) ∧
      ∀ {τ : Type} (T : IGPIBTransport (StateT τ Usb)), SetsModes T :=
  ⟨readsHonour_ni, readsHonour_agilent, readsHonour_kusb, setsModes⟩

/-! ## Where a mode is not honoured -/

section Sessions

variable {τ : Type} (T : IGPIBTransport (StateT τ Usb)) (now : StateT τ Usb UInt64) (fuel : Nat)
  (answer : (i : Usb.Request) → Option i.Reply)

/-- Make driver calls one after another, with USB requests answered by an oracle. -/
def perform (x : (GPIBBoard × τ) × (Int → EosMode)) :
    List DriverCall → Option ((GPIBBoard × τ) × (Int → EosMode))
  | [] => some x
  | c :: cs => do
      let (_, o, t) ← follow answer ((dispatch T x.1.1 now fuel c).run x.1.2)
      let (reply, b) ← o
      perform ((b, t), EosMode.after x.2 c reply) cs

theorem serves_of_perform {x y : (GPIBBoard × τ) × (Int → EosMode)} {cs : List DriverCall}
    (h : perform T now fuel answer x cs = some y) : ∃ u, Serves (Recorded T now fuel) x u y := by
  induction cs generalizing x with
  | nil =>
      cases h
      exact ⟨[], .nil _⟩
  | cons c cs ih =>
      obtain ⟨⟨v, o, t⟩, hfollow, h⟩ := Option.bind_eq_some_iff.mp h
      obtain ⟨⟨reply, b⟩, rfl, h⟩ := Option.bind_eq_some_iff.mp h
      obtain ⟨u, hu⟩ := ih h
      exact ⟨⟨.call 0 c, (⟨0, some reply⟩ : CallReply)⟩ :: u,
        .cons ⟨.taken (run_of_follow answer hfollow), rfl⟩ hu⟩

/-- A request that a read makes behind a list of calls. -/
theorem read_reaches_of_perform (t : τ) (modes : Int → EosMode) (cs : List DriverCall)
    (handle : Int) (count n : Nat) {m : EosMode} {i : Usb.Request}
    (h : (perform T now fuel answer ((.init, t), modes) cs).bind (fun y =>
      (requestAt answer n ((dispatch T y.1.1 now fuel (.read handle count)).run y.1.2)).map
        fun j => (y.2 handle, j)) = some (m, i)) :
    ∃ u y v, Session T now fuel u y ∧ y.2 handle = m ∧
      Reaches ((dispatch T y.1.1 now fuel (.read handle count)).run y.1.2) v i := by
  obtain ⟨y, hy, h⟩ := Option.bind_eq_some_iff.mp h
  obtain ⟨j, hj, heq⟩ := Option.map_eq_some_iff.mp h
  cases heq
  obtain ⟨u, hu⟩ := serves_of_perform T now fuel answer hy
  obtain ⟨v, hv⟩ := reaches_of_requestAt answer hj
  exact ⟨u, y, v, ⟨t, modes, hu⟩, rfl, hv⟩

end Sessions

/-- An adapter on which every transfer goes through; status blocks report that a transfer is
done, with a count of 4. -/
def everythingWorks : (i : Usb.Request) → Option i.Reply
  | .map | .create _ | .clearStall _ | .reset => some IOReturn.success
  | .pipeOut _ data _ => some (⟨.success, Fin.last data.length⟩ : Usb.OutReply data.length)
  | .controlOut _ _ _ data => some (⟨.success, Fin.last data.length⟩ : Usb.OutReply data.length)
  | .pipeIn _ capacity _ => some (⟨.success, List.replicate capacity 0, by simp⟩ :
      Usb.InReply capacity)
  | .controlIn _ _ _ length => some (⟨.success, [2, 0, 4, 0, 0, 0, 0].take length,
      List.length_take_le _ _⟩ : Usb.InReply length)
  | .uptime => some (0 : UInt64)
  | .overrun | .outOfFuel => none

/-- The board is taken online and a device descriptor opened with an EOS mode. -/
def openedWith (v : Int32) : List DriverCall :=
  [.boardOnline 1, .openDescriptor (deviceDescriptorIn 5 (-1) 12 1 v)]

/-- A KUSB-488B with its pipes, buffers and handles, and no data chunking. -/
def kusbAttached : KUSB488BTransport :=
  { dataOutPipe := true, cmdOutPipe := true, dataInPipe := true, outBuffer := true,
    inBuffer := true, ctrlBuffer := true, device := true, owner := true, renAsserted := false,
    rfdHoldoffPending := false, maxDataChunk := 0 }

/-- Without `REOS` a KUSB-488B is told to end on a line feed, and with `REOS` an NI adapter is
told to end on no character. -/
theorem eos_mode_not_honoured :
    (∃ u y v header, Session (KUSB488BTransport.asTransport 1) (pure 0) 1 u y ∧
      y.2 1 = EosMode.of 0 ∧
      Reaches ((dispatch (KUSB488BTransport.asTransport 1) y.1.1 (pure 0) 1 (.read 1 10)).run y.1.2)
        v (.controlOut KUSB488BTransport.reqBeginRead KUSB488BTransport.readWValue 10 header)) ∧
    ∃ u y v pkt ms, Session NIUSBTransport.asTransport (pure 0) 1 u y ∧
      y.2 1 = EosMode.of (EosFlags.reos.toInt32 ||| 13) ∧
      Reaches ((dispatch NIUSBTransport.asTransport y.1.1 (pure 0) 1 (.read 1 10)).run y.1.2)
        v (.pipeOut .bulkOut (NIUSBTransport.kNiOpcRead :: 0 :: pkt) ms) := by
  constructor
  · obtain ⟨u, y, v, hsession, hmode, hreach⟩ := read_reaches_of_perform
      (KUSB488BTransport.asTransport 1) (pure 0) 1 everythingWorks
      kusbAttached (fun _ => EosMode.of 0) (openedWith 0) 1 10 9
      (m := EosMode.of 0)
      (i := .controlOut KUSB488BTransport.reqBeginRead KUSB488BTransport.readWValue 10
        (KUSB488BTransport.transferHeader 10 3000000)) (by decide +kernel)
    exact ⟨u, y, v, _, hsession, hmode, hreach⟩
  · obtain ⟨u, y, v, hsession, hmode, hreach⟩ := read_reaches_of_perform
      NIUSBTransport.asTransport (pure 0) 1 everythingWorks
      NIUSBTransport.attached (fun _ => EosMode.of 0) (openedWith (EosFlags.reos.toInt32 ||| 13))
      1 10 5 (m := EosMode.of (EosFlags.reos.toInt32 ||| 13))
      (i := .pipeOut .bulkOut (NIUSBTransport.readPacket 10 13 0 3000000) 3000)
      (by decide +kernel)
    exact ⟨u, y, v, _, _, hsession, hmode, hreach⟩

end Libgpib

end DarwinGpib
