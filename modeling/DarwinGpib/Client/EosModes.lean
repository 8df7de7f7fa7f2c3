import DarwinGpib.Client.BoardHandles
import DarwinGpib.Transfer.BoardRead

/-!
# End-of-string modes from the library to the bus

`EosMode` is what a client asks for with `ibdev`, `ibeos` or `ibconfig`. A server that records
the mode last set for each handle is run beside the driver; every read request of the three
transports is then compared with the mode recorded for its handle.
-/

namespace DarwinGpib

open Interaction UserClient

/-- An end-of-string character with its `REOS`, `XEOS` and `BIN` flags. -/
structure EosMode where
  char : UInt8
  flags : UInt32
  deriving DecidableEq, Repr

namespace EosMode

/-- The mode that an `eosmode` of the library stands for. -/
def of (v : Int32) : EosMode :=
  ⟨(v &&& 0xff).toUInt32.toUInt8, v.toUInt32 &&& EosFlags.all⟩

/-- Reads are to end on the character. -/
def EndsReads (m : EosMode) : Prop := m.flags &&& EosFlags.reos ≠ 0

instance (m : EosMode) : Decidable m.EndsReads := inferInstanceAs (Decidable (_ ≠ _))

/-- The mode that opening a descriptor sets. -/
def ofOpen (i : OpenDescriptorIn) : EosMode := ⟨i.eosChar.toUInt8, i.eosFlags &&& EosFlags.all⟩

/-- The mode after a configuration that was accepted. -/
def configured (m : EosMode) (key : UInt32) (value : Int32) : EosMode :=
  if key = Ibc.eosChar then { m with char := (of value).char }
  else if key = Ibc.eosRd ∨ key = Ibc.eosWrt ∨ key = Ibc.eosCmp then
    { m with flags := (of value).flags }
  else m

/-- The modes of all handles after a call that was answered. -/
def after (modes : Int → EosMode) : DriverCall → DriverReply → Int → EosMode
  | .openDescriptor i, .opened handle _ => Function.update modes handle (ofOpen i)
  | .configure handle key value, .status s =>
      if s.ibsta &&& Ibsta.err = 0 then
        Function.update modes handle ((modes handle).configured key value)
      else modes
  | _, _ => modes

/-- What `ibdev` opens a descriptor with. -/
theorem ofOpen_deviceDescriptorIn (pad sad timo sendEoi eosmode : Int32) :
    ofOpen (Libgpib.deviceDescriptorIn pad sad timo sendEoi eosmode) = of eosmode := by
  simp only [ofOpen, of, Libgpib.deviceDescriptorIn, UInt32.and_assoc, UInt32.and_self]

/-- The two configurations of `ibeos` leave nothing of the mode before. -/
theorem configured_ibeos (m : EosMode) (v : Int32) :
    (m.configured Ibc.eosChar (v &&& 0xff)).configured Ibc.eosRd (v &&& EosFlags.all.toInt32) =
      of v := by
  have hflags : (v &&& EosFlags.all.toInt32).toUInt32 = v.toUInt32 &&& EosFlags.all := rfl
  have hkey : Ibc.eosRd ≠ Ibc.eosChar := by decide
  simp only [configured, of, hflags, hkey, UInt32.and_assoc, UInt32.and_self, Int32.and_assoc,
    Int32.and_self, true_or, if_true, if_false]

end EosMode

/-! ## The recorded mode and the descriptor -/

/-- Every open descriptor holds the character that was last set for its handle. -/
def CharsRecorded (b : GPIBBoard) (modes : Int → EosMode) : Prop :=
  ∀ handle o, b.descriptors.slots handle = some o → o.eosChar = (modes handle).char

theorem charsRecorded_init (modes : Int → EosMode) : CharsRecorded .init modes := by
  intro handle o ho
  rw [show GPIBBoard.init.descriptors = .initial from rfl, DescriptorTable.slots_initial] at ho
  cases ho

theorem CharsRecorded.of_eq {b b' : GPIBBoard} {modes : Int → EosMode}
    (h : CharsRecorded b modes) (heq : b'.descriptors = b.descriptors) :
    CharsRecorded b' modes := by
  intro handle o ho
  rw [heq] at ho
  exact h handle o ho

/-- Replacing the contents of one slot together with its mode. -/
theorem CharsRecorded.update {b b' : GPIBBoard} {modes : Int → EosMode}
    (h : CharsRecorded b modes) {handle : Int} {o : DescriptorOptions} {m : EosMode}
    (hslots : b'.descriptors.slots = Function.update b.descriptors.slots handle (some o))
    (ho : o.eosChar = m.char) : CharsRecorded b' (Function.update modes handle m) := by
  intro k o' hk
  rw [hslots] at hk
  by_cases hkh : k = handle
  · subst hkh
    rw [Function.update_self] at hk ⊢
    cases hk
    exact ho
  · rw [Function.update_of_ne hkh] at hk ⊢
    exact h k o' hk

/-- The character that `configure` stores is the one that the mode gets. -/
theorem eosChar_configured {o o' : DescriptorOptions} {m : EosMode} {key : UInt32}
    {value : Int32} (h : o.configured key value = some o') (ho : o.eosChar = m.char) :
    o'.eosChar = (m.configured key value).char := by
  unfold DescriptorOptions.configured at h
  unfold EosMode.configured
  repeat' split at h
  all_goals cases h
  all_goals simp_all [Ibc.pad, Ibc.sad, Ibc.tmo, Ibc.eot, Ibc.eosChar, Ibc.eosRd, Ibc.eosWrt,
    Ibc.eosCmp, EosMode.of]

theorem charsRecorded_after {b b' : GPIBBoard} {c : DriverCall} {reply : DriverReply}
    {modes : Int → EosMode} (heffect : TableEffect b c (reply, b'))
    (h : CharsRecorded b modes) : CharsRecorded b' (EosMode.after modes c reply) := by
  cases c with
  | openDescriptor i =>
      rcases heffect.opened with ⟨handle, s, rfl, -, -, hslots⟩ | ⟨⟨s, rfl⟩, rfl⟩
      · exact h.update hslots rfl
      · intro handle o ho
        have hne : handle ≠ -1 := by
          rintro rfl
          obtain ⟨d, hd, -⟩ := Option.map_eq_some_iff.mp ho
          have hmem := (DescriptorTable.descriptorFor_eq_some hd).2
          have hpos := (DescriptorTable.mem_handles_iff.mp hmem).1
          omega
        rw [EosMode.after, Function.update_of_ne hne]
        exact h handle o ho
  | closeDescriptor handle =>
      intro k o hk
      rw [heffect.closed] at hk
      exact h k o (SlotTable.release_eq_some hk).2
  | configure handle key value =>
      rcases heffect.configured with ⟨heq, iberr, rfl⟩ | ⟨d, o, hd, ho, hslots, rfl⟩
      · have hrefused : ¬ Ibsta.err &&& Ibsta.err = 0 := by decide
        simpa only [EosMode.after, if_neg hrefused] using h.of_eq heq
      · refine h.update hslots (eosChar_configured ho (h handle _ ?_))
        rw [DescriptorTable.slots, hd, Option.map_some]
  | ask handle option => exact h.of_eq heffect.asked
  | _ => exact h.of_eq heffect

namespace Libgpib

section Recording

variable {τ : Type} (T : IGPIBTransport (StateT τ Usb)) (now : StateT τ Usb UInt64) (fuel : Nat)

/-- The modes after an exchange; a call that is not answered changes nothing. -/
def record (modes : Int → EosMode) : Exchange BrokerCall.Reply → Int → EosMode
  | ⟨.call _ c, (reply : CallReply)⟩ =>
      if reply.kr.toInt32 = 0 then reply.out.elim modes (EosMode.after modes c) else modes
  | _ => modes

/-- The driver board with its transport, and beside it the modes set so far. -/
def Recorded (x : (GPIBBoard × τ) × (Int → EosMode)) (e : Exchange BrokerCall.Reply)
    (y : (GPIBBoard × τ) × (Int → EosMode)) : Prop :=
  Served T now fuel x.1 e y.1 ∧ y.2 = record x.2 e

/-- From the driver's start, in whatever state its transport is. -/
def Session (u : Trace BrokerCall.Reply) (y : (GPIBBoard × τ) × (Int → EosMode)) : Prop :=
  ∃ t modes, Serves (Recorded T now fuel) ((.init, t), modes) u y

end Recording

section Reads

variable {τ : Type} {T : IGPIBTransport (StateT τ Usb)} {now : StateT τ Usb UInt64} {fuel : Nat}
  {u : Trace BrokerCall.Reply} {y : (GPIBBoard × τ) × (Int → EosMode)}

theorem charsRecorded_of_session (h : Session T now fuel u y) : CharsRecorded y.1.1 y.2 := by
  obtain ⟨t, modes, hserves⟩ := h
  let I : (GPIBBoard × τ) × (Int → EosMode) → Prop := fun x => CharsRecorded x.1.1 x.2
  have hstep : ∀ x e x', I x → Recorded T now fuel x e x' → I x' := by
    rintro ⟨⟨b, t⟩, modes⟩ e ⟨⟨b', t'⟩, modes'⟩ hchars ⟨hserved, hmodes⟩
    simp only at hserved hmodes
    subst hmodes
    cases hserved with
    | probe => exact hchars
    | refused hkr =>
        simp only [I, record, if_neg hkr]
        exact hchars
    | taken hrun => exact charsRecorded_after (tableEffect_of_run hrun) hchars
  have hy : I y := hserves.invariant hstep (charsRecorded_init modes)
  exact hy

/-- A read goes to the transport with the recorded character. -/
theorem avoids_read {bad : Usb.Request → Prop} {handle : Int} {Q : Nat → ReadResult → Prop}
    (hT : TransportEnsures bad (fun c _ => c = (y.2 handle).char) Q T)
    (h : Session T now fuel u y) (n : Nat) :
    Avoids bad ((dispatch T y.1.1 now fuel (.read handle n)).run y.1.2) := by
  have hread : StateEnsures bad (dispatch T y.1.1 now fuel (.read handle n)) fun _ => True := by
    unfold dispatch
    rw [map_eq_pure_bind]
    refine stateEnsures_bind (P := fun _ => True) ?_ fun _ _ => stateEnsures_pure trivial
    unfold handleRead GPIBBoard.onBus
    refine stateEnsures_bind (P := fun _ => True) ?_ fun _ _ => stateEnsures_pure trivial
    refine stateEnsures_bind (stateEnsures_read hT ?_ _ _) fun _ _ => stateEnsures_pure trivial
    intro d hd
    exact charsRecorded_of_session h handle d.toDescriptorOptions
      (by rw [DescriptorTable.slots, hd, Option.map_some])
  exact (hread y.1.2).avoids

end Reads

end Libgpib

/-! ## What the read requests say -/

/-- A read packet of the NI adapter carries the character, and without `REOS` an EOS mode byte
that ends no read. -/
def NIUSBTransport.Honours (m : EosMode) : Usb.Request → Prop
  | .pipeOut _ pkt _ => pkt.head? = some kNiOpcRead →
      pkt[2]? = some m.char ∧
        (¬ m.EndsReads → ∃ mode, pkt[1]? = some mode ∧ mode &&& (EosFlags.reos >>> 8).toUInt8 = 0)
  | _ => True

/-- A read packet of the Agilent adapter carries the character, and without `REOS` flags that
end no read on it. -/
def Agilent82357Transport.Honours (m : EosMode) : Usb.Request → Prop
  | .pipeOut _ pkt _ => pkt.head? = some cmdRead →
      pkt[8]? = some m.char ∧
        (¬ m.EndsReads → ∃ flags, pkt[3]? = some flags ∧ flags &&& arfEndOnEosChar = 0)
  | _ => True

/-- A `BEGIN_READ` of the KUSB-488B without `REOS` ends on a line feed. -/
def KUSB488BTransport.Honours (m : EosMode) : Usb.Request → Prop
  | .controlOut request _ wIndex _ => request = reqBeginRead → ¬ m.EndsReads → wIndex = 10
  | _ => True

/-- An 8-bit value has none of the EOS flags. -/
theorem toUInt32_and_reos (f : UInt8) : f.toUInt32 &&& EosFlags.reos = 0 := by
  have hlt : f.toNat < 2 ^ 10 := f.toNat_lt.trans (by decide)
  apply UInt32.toNat_inj.mp
  rw [UInt32.toNat_and, UInt8.toNat_toUInt32]
  change f.toNat &&& 2 ^ 10 = 0
  apply Nat.eq_of_testBit_eq
  intro i
  rw [Nat.testBit_and, Nat.testBit_two_pow, Nat.zero_testBit]
  by_cases hi : 10 = i
  · subst hi
    rw [Nat.testBit_lt_two_pow hlt, Bool.false_and]
  · simp [hi]

theorem NIUSBTransport.eosMode_eq_zero (f : UInt8) : eosMode f = 0 := by
  rw [eosMode, Nat.shiftRight_eq_div_pow, Nat.div_eq_of_lt f.toNat_lt]
  rfl

theorem KUSB488BTransport.readWIndex_eq (c f : UInt8) : readWIndex c f = 10 := by
  rw [readWIndex, toUInt32_and_reos, if_neg (by decide)]

theorem NIUSBTransport.honours_readPacket (m : EosMode) (f : UInt8) (count us ms : Nat) :
    Honours m (.pipeOut .bulkOut (readPacket count m.char f us) ms) := by
  intro _
  refine ⟨rfl, fun _ => ⟨eosMode f, rfl, ?_⟩⟩
  rw [eosMode_eq_zero]
  decide

theorem Agilent82357Transport.honours_readPacket (m : EosMode) (count ms : Nat) :
    Honours m (.pipeOut .bulkOut (readPacket count m.char) ms) :=
  fun _ => ⟨rfl, fun _ => ⟨_, rfl, by decide⟩⟩

theorem KUSB488BTransport.honours_beginRead (m : EosMode) (c f : UInt8) (header : List UInt8) :
    Honours m (.controlOut reqBeginRead readWValue (readWIndex c f) header) :=
  fun _ _ => readWIndex_eq c f

section Transports

variable {m : EosMode}

theorem NIUSBTransport.onlyBad_honours :
    Usb.OnlyBad (·.Starts kNiOpcRead) fun i => ¬ Honours m i := by
  intro i hi
  cases i with
  | pipeOut pipe pkt ms =>
      cases pkt with
      | nil => exact absurd (fun h => by cases h) hi
      | cons b pkt =>
          exact .inr (by_contra fun hb => hi fun hhead => absurd (Option.some.inj hhead) hb)
  | _ => exact absurd trivial hi

theorem Agilent82357Transport.onlyBad_honours :
    Usb.OnlyBad (·.Starts cmdRead) fun i => ¬ Honours m i := by
  intro i hi
  cases i with
  | pipeOut pipe pkt ms =>
      cases pkt with
      | nil => exact absurd (fun h => by cases h) hi
      | cons b pkt =>
          exact .inr (by_contra fun hb => hi fun hhead => absurd (Option.some.inj hhead) hb)
  | _ => exact absurd trivial hi

theorem KUSB488BTransport.onlyBad_honours :
    Usb.OnlyBad Usb.Request.ArmsRead fun i => ¬ Honours m i := by
  intro i hi
  cases i with
  | controlOut request wValue wIndex data =>
      exact .inr (by_contra fun hne => hi fun heq => absurd heq hne)
  | _ => exact absurd trivial hi

end Transports

namespace Libgpib

/-- In every session, every request of a read says what the mode recorded for its handle asks
for. -/
def ReadsHonour {τ : Type} (T : IGPIBTransport (StateT τ Usb))
    (honours : EosMode → Usb.Request → Prop) : Prop :=
  ∀ now fuel u y handle n v i, Session T now fuel u y →
    Reaches ((dispatch T y.1.1 now fuel (.read handle n)).run y.1.2) v i →
      honours (y.2 handle) i

theorem readsHonour_ni : ReadsHonour NIUSBTransport.asTransport NIUSBTransport.Honours := by
  intro now fuel u y handle n v i hsession hreach
  have hT : TransportEnsures (fun i => ¬ NIUSBTransport.Honours (y.2 handle) i)
      (fun c _ => c = (y.2 handle).char) ReadResult.Fits NIUSBTransport.asTransport := by
    refine NIUSBTransport.transportEnsures NIUSBTransport.onlyBad_honours ?_
    rintro _ f rfl count us ms
    exact not_not.mpr (NIUSBTransport.honours_readPacket _ f count us ms)
  exact not_not.mp (avoids_read hT hsession n v i hreach)

theorem readsHonour_agilent :
    ReadsHonour Agilent82357Transport.asTransport Agilent82357Transport.Honours := by
  intro now fuel u y handle n v i hsession hreach
  have hT : TransportEnsures (fun i => ¬ Agilent82357Transport.Honours (y.2 handle) i)
      (fun c _ => c = (y.2 handle).char) ReadResult.Fits Agilent82357Transport.asTransport := by
    refine Agilent82357Transport.transportEnsures Agilent82357Transport.onlyBad_honours ?_
    rintro _ f rfl count ms
    exact not_not.mpr (Agilent82357Transport.honours_readPacket _ count ms)
  exact not_not.mp (avoids_read hT hsession n v i hreach)

theorem readsHonour_kusb (polls : Nat) :
    ReadsHonour (KUSB488BTransport.asTransport polls) KUSB488BTransport.Honours := by
  intro now fuel u y handle n v i hsession hreach
  have hT : TransportEnsures (fun i => ¬ KUSB488BTransport.Honours (y.2 handle) i)
      (fun c _ => c = (y.2 handle).char) ReadResult.Fits
      (KUSB488BTransport.asTransport polls) := by
    refine KUSB488BTransport.transportEnsures KUSB488BTransport.onlyBad_honours ?_ polls
    intro c f _ header
    exact not_not.mpr (KUSB488BTransport.honours_beginRead _ c f header)
  exact not_not.mp (avoids_read hT hsession n v i hreach)

end Libgpib

end DarwinGpib
