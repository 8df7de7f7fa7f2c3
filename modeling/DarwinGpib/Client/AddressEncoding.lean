import DarwinGpib.Board.Addressing
import DarwinGpib.Client.Bench

/-!
# How an address reaches the bus

The library takes an `Addr4882` to the bus along several call chains. Each command sequence
that a board sends is one of a few framings around the bytes of the device. `ibdev` and `ibln`
hand a missing secondary address on as secondary address 0.
-/

namespace DarwinGpib

open Interaction Ieee488 UserClient

/-! ## Framings -/

/-- A command sequence but for the device in it. -/
structure Framing where
  before : List UInt8
  role : Role
  after : List UInt8

def Framing.around (f : Framing) (a : Address) : List UInt8 :=
  f.before ++ a.bytes f.role ++ f.after

/-- The sequences that a board and `ReceiveSetup` build around one device. -/
def boardFramings (boardPAD : UInt8) : List Framing :=
  [⟨[CmdByte.unl, CmdByte.unt, mtaByte boardPAD], .listener, []⟩,
    ⟨[CmdByte.unl, CmdByte.unt, mlaByte boardPAD], .talker, []⟩,
    ⟨[CmdByte.unl], .listener, [CmdByte.sdc]⟩,
    ⟨[CmdByte.unl], .listener, [CmdByte.get]⟩,
    ⟨[CmdByte.unl], .talker, [mlaByte boardPAD, CmdByte.spe]⟩,
    ⟨[CmdByte.unl, CmdByte.unt], .listener, []⟩,
    ⟨[CmdByte.unl], .talker, []⟩]

/-- Bytes that refine a primary address. -/
def isSecondary (byte : UInt8) : Bool := byte &&& 0x60 = 0x60

theorem isSecondary_primaryByte_fin (role : Role) :
    ∀ code : Fin 256, isSecondary (primaryByte role ⟨⟨code⟩⟩) = false := by
  cases role <;> decide +kernel

@[simp] theorem isSecondary_primaryByte (role : Role) (code : UInt8) :
    isSecondary (primaryByte role code) = false :=
  isSecondary_primaryByte_fin role code.toFin

theorem isSecondary_secondaryByte_fin :
    ∀ code : Fin 256, isSecondary (secondaryByte ⟨⟨code⟩⟩) = true := by
  decide +kernel

@[simp] theorem isSecondary_secondaryByte (code : UInt8) :
    isSecondary (secondaryByte code) = true :=
  isSecondary_secondaryByte_fin code.toFin

theorem isSecondary_mtaByte (pad : UInt8) : isSecondary (mtaByte pad) = false :=
  isSecondary_primaryByte .talker pad

theorem isSecondary_mlaByte (pad : UInt8) : isSecondary (mlaByte pad) = false :=
  isSecondary_primaryByte .listener pad

/-- A framing has no secondary bytes of its own. -/
theorem countP_around {boardPAD : UInt8} {f : Framing} (hf : f ∈ boardFramings boardPAD)
    (a : Address) : (f.around a).countP isSecondary = a.secondary.toList.length := by
  have hbytes (role : Role) : (a.bytes role).countP isSecondary = a.secondary.toList.length := by
    cases h : a.secondary <;> simp [Address.bytes, h]
  have hfixed : isSecondary CmdByte.unl = false ∧ isSecondary CmdByte.unt = false ∧
      isSecondary CmdByte.sdc = false ∧ isSecondary CmdByte.get = false ∧
      isSecondary CmdByte.spe = false := by
    decide
  simp only [boardFramings, List.mem_cons, List.not_mem_nil, or_false] at hf
  rcases hf with rfl | rfl | rfl | rfl | rfl | rfl | rfl <;>
    simp [Framing.around, hbytes, hfixed, isSecondary_mtaByte, isSecondary_mlaByte]

namespace Libgpib

/-! ## Addresses -/

/-- The code of the secondary address, `NO_SAD` being 0. -/
def secondaryOf (address : Addr4882) : Option UInt8 :=
  if getSAD address ≠ 0 then some ((getSAD address).toUInt8 &&& 0x1f) else none

/-- The device that an `Addr4882` stands for. -/
def deviceOf (address : Addr4882) : Address := ⟨(getPAD address).toUInt8, secondaryOf address⟩

/-- The device that is addressed when `NO_SAD` is taken for secondary address 0. -/
def refinedDeviceOf (address : Addr4882) : Address :=
  ⟨(getPAD address).toUInt8, some ((getSAD address).toUInt8 &&& 0x1f)⟩

/-- A primary address with `NO_SAD`, or with a secondary address byte. -/
def WellFormed (address : Addr4882) : Prop :=
  getPAD address ≤ 30 ∧ (getSAD address = 0 ∨ 0x60 ≤ getSAD address ∧ getSAD address ≤ 0x7e)

instance (address : Addr4882) : Decidable (WellFormed address) :=
  inferInstanceAs (Decidable (_ ∧ _))

theorem refinedDeviceOf_of_ne {address : Addr4882} (h : getSAD address ≠ 0) :
    refinedDeviceOf address = deviceOf address := by
  simp [refinedDeviceOf, deviceOf, secondaryOf, h]

/-- The narrowing casts on the way to the driver keep a secondary address byte. -/
theorem msaBytes_getSAD {address : Addr4882} (h : WellFormed address) :
    msaBytes (getSAD address).toInt32.toInt8 =
      [secondaryByte ((getSAD address).toUInt8 &&& 0x1f)] := by
  have hbyte : ∀ x : Fin 127, msaBytes (UInt32.ofNat x).toInt32.toInt8 =
      [secondaryByte ((UInt32.ofNat x).toUInt8 &&& 0x1f)] := by
    decide +kernel
  have hlt : (getSAD address).toNat < 127 := by
    rcases h.2 with h | ⟨-, h⟩
    · rw [h]
      decide
    · exact Nat.lt_succ_of_le (UInt32.le_iff_toNat_le.mp h)
  simpa using hbyte ⟨(getSAD address).toNat, hlt⟩

/-- `SendSetup` and `ReceiveSetup` encode the device itself. -/
theorem setupBytes_of_primaryByte {role : Role} {code : UInt8} (address : Addr4882)
    (hrole : ∀ pad : UInt32,
      ((pad &&& 0x1f) ||| code.toUInt32).toUInt8 = primaryByte role pad.toUInt8) :
    setupBytes code address = (deviceOf address).bytes role := by
  have hsecondary (sad : UInt32) : ((sad &&& 0x1f) ||| CmdByte.sad.toUInt32).toUInt8 =
      secondaryByte (sad.toUInt8 &&& 0x1f) := by
    rw [UInt32.toUInt8_or, UInt32.toUInt8_and, secondaryByte, UInt8.and_assoc]
    rfl
  unfold setupBytes deviceOf secondaryOf Address.bytes
  rw [hrole]
  split <;> simp [hsecondary]

theorem setupBytes_listener (address : Addr4882) :
    setupBytes CmdByte.lad address = (deviceOf address).bytes .listener := by
  apply setupBytes_of_primaryByte
  intro pad
  rw [UInt32.toUInt8_or, UInt32.toUInt8_and]
  rfl

theorem setupBytes_talker (address : Addr4882) :
    setupBytes CmdByte.tad address = (deviceOf address).bytes .talker := by
  apply setupBytes_of_primaryByte
  intro pad
  rw [UInt32.toUInt8_or, UInt32.toUInt8_and]
  rfl

/-! ## What the board makes of the address it is given -/

/-- A device whose secondary address is passed on as it is. -/
theorem bytes_refinedDeviceOf {address : Addr4882} (h : WellFormed address) (role : Role) :
    (deviceAddress (getPAD address).toUInt8 (getSAD address).toInt32.toInt8).bytes role =
      (refinedDeviceOf address).bytes role := by
  cases role with
  | listener =>
      rw [bytes_listener, msaBytes_getSAD h]
      rfl
  | talker =>
      rw [bytes_talker, msaBytes_getSAD h]
      rfl

/-- A device whose missing secondary address is passed on as -1. -/
theorem bytes_deviceOf {address : Addr4882} (h : WellFormed address) (role : Role) :
    (deviceAddress (getPAD address).toUInt8
      (if (getSAD address).toInt32 = 0 then -1 else (getSAD address).toInt32).toInt8).bytes role =
      (deviceOf address).bytes role := by
  by_cases hsad : getSAD address = 0
  · simp only [hsad, deviceOf, secondaryOf]
    rfl
  · have hne : (getSAD address).toInt32 ≠ 0 := by
      intro heq
      apply hsad
      rw [← UInt32.toUInt32_toInt32 (getSAD address), heq]
      rfl
    rw [if_neg hne, bytes_refinedDeviceOf h, refinedDeviceOf_of_ne hsad]

/-! ## Requests around one device -/

/-- Every command sequence is the end of a poll, or one of the framings around the device. -/
def FramedAround (fs : List Framing) (a : Address) : Addressing → BoardRequest → Prop :=
  fun _ req => ∀ cmds, req = .sendCommandBytes cmds →
    cmds = BoardState.teardownCommands ∨ ∃ f ∈ fs, cmds = f.around a

theorem around_congr {a a' : Address} (h : ∀ role, a.bytes role = a'.bytes role) (f : Framing) :
    f.around a = f.around a' := by
  simp only [Framing.around, h]

theorem framedAround_congr {fs : List Framing} {a a' : Address}
    (h : ∀ role, a.bytes role = a'.bytes role) : FramedAround fs a = FramedAround fs a' := by
  funext t req
  simp only [FramedAround, around_congr h]

section Requests

variable {fs : List Framing} {a : Address} {boardPAD pad : UInt8} {sad : Int8}

theorem allowsQuiet_framedAround : AllowsQuiet (FramedAround fs a) := by
  intro t req hreq cmds heq
  rw [heq] at hreq
  cases hreq

theorem framedAround_data {t : Addressing} {req : BoardRequest}
    (h : ∀ cmds, req ≠ .sendCommandBytes cmds) : FramedAround fs a t req :=
  fun cmds heq => absurd heq (h cmds)

theorem allows_teardown : Allows (FramedAround fs a) BoardState.teardownCommands := by
  intro t cmds heq
  cases heq
  exact .inl rfl

theorem allows_framing {f : Framing} {cmds : List UInt8} (hf : f ∈ fs) (h : cmds = f.around a) :
    Allows (FramedAround fs a) cmds := by
  intro t cmds' heq
  cases heq
  exact .inr ⟨f, hf, h⟩

/-- The board's requests for a device that it has. -/
abbrev BoardFramed (boardPAD pad : UInt8) (sad : Int8) : Addressing → BoardRequest → Prop :=
  FramedAround (boardFramings boardPAD) (deviceAddress pad sad)

theorem boardFramed_write :
    Allows (BoardFramed boardPAD pad sad) (BoardState.writeCommands boardPAD pad sad) := by
  apply allows_framing (f := ⟨[CmdByte.unl, CmdByte.unt, mtaByte boardPAD], .listener, []⟩)
  · simp [boardFramings]
  · simp [Framing.around, bytes_listener, BoardState.writeCommands]

theorem boardFramed_read :
    Allows (BoardFramed boardPAD pad sad) (BoardState.readCommands boardPAD pad sad) := by
  apply allows_framing (f := ⟨[CmdByte.unl, CmdByte.unt, mlaByte boardPAD], .talker, []⟩)
  · simp [boardFramings]
  · simp [Framing.around, bytes_talker, BoardState.readCommands]

theorem boardFramed_clear :
    Allows (BoardFramed boardPAD pad sad)
      (BoardState.addressedCommands pad sad CmdByte.sdc) := by
  apply allows_framing (f := ⟨[CmdByte.unl], .listener, [CmdByte.sdc]⟩)
  · simp [boardFramings]
  · simp [Framing.around, bytes_listener, BoardState.addressedCommands]

theorem boardFramed_trigger :
    Allows (BoardFramed boardPAD pad sad)
      (BoardState.addressedCommands pad sad CmdByte.get) := by
  apply allows_framing (f := ⟨[CmdByte.unl], .listener, [CmdByte.get]⟩)
  · simp [boardFramings]
  · simp [Framing.around, bytes_listener, BoardState.addressedCommands]

theorem boardFramed_poll :
    Allows (BoardFramed boardPAD pad sad)
      (BoardState.serialPollCommands boardPAD pad sad) := by
  apply allows_framing (f := ⟨[CmdByte.unl], .talker, [mlaByte boardPAD, CmdByte.spe]⟩)
  · simp [boardFramings]
  · simp [Framing.around, bytes_talker, BoardState.serialPollCommands]

theorem boardFramed_listen :
    Allows (BoardFramed boardPAD pad sad) (BoardState.listenCommands pad sad) := by
  apply allows_framing (f := ⟨[CmdByte.unl, CmdByte.unt], .listener, []⟩)
  · simp [boardFramings]
  · simp [Framing.around, bytes_listener, BoardState.listenCommands]

end Requests

/-! ## Calls on a device -/

section Devices

variable {o : OpenDescriptorIn} {ud : Int32} {boardPAD : UInt8}

/-- What the board asks of the bus for a descriptor. -/
abbrev DeviceFramed (o : OpenDescriptorIn) (boardPAD : UInt8) :
    Addressing → BoardRequest → Prop :=
  BoardFramed boardPAD o.options.pad o.options.sad

/-- A call that reports an operation on the descriptor behind `ud`. -/
theorem callKeepsWatch_device {α : Type} {phase : Addressing → BoardRequest → Prop}
    {call : Int → DriverCall} {report : α → DriverReply}
    {op : Option GPIBDescriptor → BoardState → BoardCalls (α × BoardState)}
    (hud : isBoardUd ud = false)
    (h : ∀ handle, Reports (call handle) report fun b => op (b.descriptors.descriptorFor handle))
    (hkeeps : ∀ desc, GPIBBoard.KeepsPAD (op desc))
    (haims : ∀ (d : GPIBDescriptor) (s : BoardState), d.toDescriptorOptions = o.options →
      s.boardPAD = boardPAD → Aims phase Anyhow (op (some d) s) fun _ => Anyhow) :
    CallKeepsWatch phase (AtDevice o ud boardPAD) ud call := by
  intro handle
  apply (onBench_reports (h handle.toInt) (fun b => hkeeps _) _).conseq (fun _ _ h => h)
    fun _ _ _ h => h.mono fun _ _ _ h => h.1
  intro handles b hknown
  obtain ⟨⟨hpad, hslot⟩, hnames⟩ := hknown
  rw [Names, if_neg (by simp [hud])] at hnames
  rw [← hnames] at hslot
  obtain ⟨d, hd, heq⟩ := Option.map_eq_some_iff.mp hslot
  rw [hd]
  exact haims d b.state heq hpad

/-- A device is not the board, so nothing is opened for it on the way. -/
theorem survivesOpening_device {K : Knowledge} (hud : isBoardUd ud = false) :
    isBoardUd ud = true → SurvivesOpening ud K :=
  fun h => absurd h (by simp [hud])

theorem keepsWatch_ibwrt (hud : isBoardUd ud = false) (buf : List UInt8) (cnt : Int) :
    KeepsWatch (boardOf ud) (DeviceFramed o boardPAD) (AtDevice o ud boardPAD)
      (ibwrt ud buf cnt) := by
  apply keepsWatch_sendBytes allowsQuiet_framedAround (survivesOpening_device hud)
  apply callKeepsWatch_device hud (fun handle => reports_write handle 1 _)
    fun desc => (GPIBBoard.stores_write desc _ _).keepsPAD
  intro d s hd hs
  subst hs
  simp only [← hd]
  exact aims_write allowsQuiet_framedAround boardFramed_clear boardFramed_write
    fun t _ => framedAround_data (by simp)

theorem keepsWatch_ibrd_device (hud : isBoardUd ud = false) (cnt : Int) :
    KeepsWatch (boardOf ud) (DeviceFramed o boardPAD) (AtDevice o ud boardPAD)
      (ibrd ud cnt) := by
  apply keepsWatch_ibrd allowsQuiet_framedAround (survivesOpening_device hud)
  intro n
  apply callKeepsWatch_device hud (fun handle => reports_read handle n)
    fun desc => (GPIBBoard.stores_read desc _).keepsPAD
  intro d s hd hs
  subst hs
  simp only [← hd]
  exact aims_read allowsQuiet_framedAround boardFramed_clear boardFramed_read
    fun t _ => framedAround_data (by simp)

theorem keepsWatch_ibclr (hud : isBoardUd ud = false) :
    KeepsWatch (boardOf ud) (DeviceFramed o boardPAD) (AtDevice o ud boardPAD) (ibclr ud) := by
  refine triple_bind (keepsWatch_onHandle allowsQuiet_framedAround (survivesOpening_device hud)
    ?_ fun out => triple_bind (keepsWatch_finish _ _ _ _) fun _ => triple_pure fun _ _ h => h)
    fun _ => triple_pure fun _ _ h => h
  apply callKeepsWatch_device hud reports_deviceClear
    fun desc => (GPIBBoard.stores_addressedCommand CmdByte.sdc desc).keepsPAD
  intro d s hd hs
  simp only [DeviceFramed, ← hd]
  exact aims_addressedCommand boardFramed_clear

theorem keepsWatch_ibtrg (hud : isBoardUd ud = false) :
    KeepsWatch (boardOf ud) (DeviceFramed o boardPAD) (AtDevice o ud boardPAD) (ibtrg ud) := by
  refine triple_bind (keepsWatch_onHandle allowsQuiet_framedAround (survivesOpening_device hud)
    ?_ fun out => triple_bind (keepsWatch_finish _ _ _ _) fun _ => triple_pure fun _ _ h => h)
    fun _ => triple_pure fun _ _ h => h
  apply callKeepsWatch_device hud reports_trigger
    fun desc => (GPIBBoard.stores_addressedCommand CmdByte.get desc).keepsPAD
  intro d s hd hs
  simp only [DeviceFramed, ← hd]
  exact aims_addressedCommand boardFramed_trigger

theorem keepsWatch_ibrsp (hud : isBoardUd ud = false) :
    KeepsWatch (boardOf ud) (DeviceFramed o boardPAD) (AtDevice o ud boardPAD) (ibrsp ud) := by
  apply keepsWatch_onHandle allowsQuiet_framedAround (survivesOpening_device hud) _
    fun out => keepsWatch_finish _ _ _ _
  apply callKeepsWatch_device hud reports_serialPoll
    fun desc => (GPIBBoard.stores_serialPoll desc).keepsPAD
  intro d s hd hs
  subst hs
  simp only [← hd]
  exact aims_serialPoll boardFramed_poll allows_teardown fun t _ => framedAround_data (by simp)

end Devices

/-! ## Ways to a device -/

/-- A call on a descriptor that a program holds. -/
inductive DeviceCall where
  | ibwrt (buf : List UInt8) (cnt : Int)
  | ibrd (cnt : Int)
  | ibclr
  | ibtrg
  | ibrsp

def DeviceCall.exec (ud : Int32) : DeviceCall → Lib Unit
  | ibwrt buf cnt => do let _ ← Libgpib.ibwrt ud buf cnt
  | ibrd cnt => do let _ ← Libgpib.ibrd ud cnt
  | ibclr => do let _ ← Libgpib.ibclr ud
  | ibtrg => do let _ ← Libgpib.ibtrg ud
  | ibrsp => do let _ ← Libgpib.ibrsp ud

/-- The calls that bring an address to the bus. `ibdev` is followed by a call on what it
opened, and `SendSetup` has other addresses before and after. -/
inductive Access where
  | send (buffer : List UInt8) (count : Int) (eotMode : Int32) (allocated : Bool)
  | receive (count : Int)
  | devClear
  | trigger
  | readStatusByte
  | ibdev (timo sendEoi eosmode : Int32) (call : DeviceCall)
  | ibln
  | sendSetup (earlier later : List Addr4882)
  | receiveSetup

namespace Access

def program (bd : Int32) (address : Addr4882) : Access → Lib Unit
  | send buffer count eotMode allocated =>
      Libgpib.send bd address buffer count eotMode allocated
  | receive count => do let _ ← Libgpib.receive bd address count
  | devClear => Libgpib.devClear bd address
  | trigger => Libgpib.trigger bd address
  | readStatusByte => do let _ ← Libgpib.readStatusByte bd address
  | ibdev timo sendEoi eosmode call => do
      let ud ← Libgpib.ibdev (boardOf bd) (getPAD address).toInt32 (getSAD address).toInt32
        timo sendEoi eosmode
      if ud < 0 then return ()
      call.exec ud
  | ibln => do
      let _ ← Libgpib.ibln bd (getPAD address).toInt32 (getSAD address).toInt32
  | sendSetup earlier later => Libgpib.sendSetup bd (earlier ++ address :: later)
  | receiveSetup => Libgpib.receiveSetup bd address

/-- Whether `NO_SAD` is taken for no secondary address on this way. -/
def mapsNoSad : Access → Bool
  | ibdev _ _ _ _ | ibln => false
  | _ => true

/-- The addresses before this one in the list of `SendSetup`, and room for it behind them. -/
def ComesTo : Access → Prop
  | sendSetup earlier _ =>
      (∀ a ∈ earlier, addrValid a = true) ∧
        1 + (earlier.flatMap (setupBytes CmdByte.lad)).length < 30
  | _ => True

/-- The sequences that a way has for a device. -/
def framings (boardPAD : UInt8) (address : Addr4882) : Access → List Framing
  | sendSetup earlier later =>
      let others := earlier.flatMap (setupBytes CmdByte.lad)
      let own := (setupBytes CmdByte.lad address).length
      [⟨CmdByte.unl :: others, .listener, setupLoop (1 + others.length + own) later⟩]
  | _ => boardFramings boardPAD

/-- The sequence addresses the device: the primary address byte in a role, and the secondary
one behind it if there is one. -/
def Selects (access : Access) (boardPAD : UInt8) (address : Addr4882) (cmds : List UInt8) :
    Prop :=
  ∃ f ∈ access.framings boardPAD address, cmds = f.around (deviceOf address)

/-- The device that a way addresses. -/
def reached (access : Access) (address : Addr4882) : Address :=
  if access.mapsNoSad then deviceOf address else refinedDeviceOf address

theorem framings_of_not_mapsNoSad {access : Access} (h : access.mapsNoSad = false)
    (boardPAD : UInt8) (address : Addr4882) :
    access.framings boardPAD address = boardFramings boardPAD := by
  cases access with
  | ibdev => rfl
  | ibln => rfl
  | _ => cases h

/-- A sequence around the device that a way addresses selects the one that is meant, unless
the way takes `NO_SAD` for an address. -/
theorem selects_iff {access : Access} {boardPAD : UInt8} {address : Addr4882} {f : Framing}
    (hf : f ∈ access.framings boardPAD address) :
    access.Selects boardPAD address (f.around (access.reached address)) ↔
      access.mapsNoSad = true ∨ getSAD address ≠ 0 := by
  cases hmaps : access.mapsNoSad with
  | true =>
      simp only [reached, hmaps, if_true, true_or, iff_true]
      exact ⟨f, hf, rfl⟩
  | false =>
      rw [reached, hmaps, if_neg Bool.false_ne_true]
      by_cases hsad : getSAD address = 0
      · simp only [hsad, Bool.false_eq_true, ne_eq, not_true_eq_false, or_false, iff_false]
        intro hselects
        obtain ⟨f', hf', heq⟩ := hselects
        rw [framings_of_not_mapsNoSad hmaps] at hf hf'
        have hcount := congrArg (List.countP isSecondary) heq
        rw [countP_around hf, countP_around hf'] at hcount
        simp [refinedDeviceOf, deviceOf, secondaryOf, hsad] at hcount
      · simp only [hsad, Bool.false_eq_true, ne_eq, not_false_eq_true, or_true, iff_true,
          refinedDeviceOf_of_ne hsad]
        exact ⟨f, hf, rfl⟩

/-! ## Requests on the ways -/

/-- Every sequence on a way is framed around the device it addresses. -/
abbrev Framed (access : Access) (boardPAD : UInt8) (address : Addr4882) :
    Addressing → BoardRequest → Prop :=
  FramedAround (access.framings boardPAD address) (access.reached address)

variable {bd : Int32} {boardPAD : UInt8} {address : Addr4882}

/-- What the requests of a call are about when only the board's address is known. -/
abbrev Sends {α : Type} (bd : Int32) (boardPAD : UInt8)
    (phase : Addressing → BoardRequest → Prop) (x : Lib α) : Prop :=
  OnBench (Watched (boardOf bd) phase fun _ _ pad => pad = boardPAD) x
    fun _ => Watched (boardOf bd) phase fun _ _ _ => True

theorem sends_map {α : Type} {phase : Addressing → BoardRequest → Prop} {x : Lib α}
    (h : Sends bd boardPAD phase x) : Sends bd boardPAD phase (do let _ ← x) :=
  triple_bind h fun _ => triple_pure fun _ _ h => h

/-- A call on one device by a temporary descriptor. -/
theorem sends_withDevice {α : Type} {absent : α} {op : Int32 → Lib α}
    (haddress : WellFormed address)
    (hop : ∀ ud, isBoardUd ud = false →
      KeepsWatch (boardOf ud) (DeviceFramed (openDeviceIn address) boardPAD)
        (AtDevice (openDeviceIn address) ud boardPAD) (op ud)) :
    Sends bd boardPAD (FramedAround (boardFramings boardPAD) (deviceOf address))
      (withDevice bd address absent op) := by
  have hbytes (role : Role) : (deviceOf address).bytes role =
      (deviceAddress (openDeviceIn address).options.pad
        (openDeviceIn address).options.sad).bytes role := by
    rw [← bytes_deviceOf haddress]
    simp [openDeviceIn, deviceDescriptorIn, OpenDescriptorIn.options]
  rw [framedAround_congr hbytes]
  apply onBench_withDevice allowsQuiet_framedAround
  intro ud hud
  obtain ⟨hnot, hboard⟩ := hud
  rw [← hboard]
  exact (hop ud hnot).conseq (fun _ _ h => h) fun _ _ _ h => h.mono fun _ _ _ _ => trivial

theorem keepsWatch_sendDevice {o : OpenDescriptorIn} {ud : Int32} (hud : isBoardUd ud = false)
    (buffer : List UInt8) (count : Int) (eotMode : Int32) (allocated : Bool) :
    KeepsWatch (boardOf ud) (DeviceFramed o boardPAD) (AtDevice o ud boardPAD)
      (sendDevice buffer count eotMode allocated ud) := by
  unfold sendDevice
  apply triple_ite
  · intro _
    apply triple_ite
    · intro _
      exact triple_bind (keepsWatch_ibwrt hud _ _) fun _ => triple_pure fun _ _ h => h
    · intro _
      exact triple_pure fun _ _ h => h
  · intro _
    exact triple_bind (keepsWatch_ibwrt hud _ _) fun _ => triple_pure fun _ _ h => h

theorem keepsWatch_deviceCall {o : OpenDescriptorIn} {ud : Int32} (hud : isBoardUd ud = false)
    (call : DeviceCall) :
    KeepsWatch (boardOf ud) (DeviceFramed o boardPAD) (AtDevice o ud boardPAD)
      (call.exec ud) := by
  cases call with
  | ibwrt buf cnt =>
      exact triple_bind (keepsWatch_ibwrt hud _ _) fun _ => triple_pure fun _ _ h => h
  | ibrd cnt => exact triple_bind (keepsWatch_ibrd_device hud _) fun _ => triple_pure fun _ _ h => h
  | ibclr => exact triple_bind (keepsWatch_ibclr hud) fun _ => triple_pure fun _ _ h => h
  | ibtrg => exact triple_bind (keepsWatch_ibtrg hud) fun _ => triple_pure fun _ _ h => h
  | ibrsp => exact triple_bind (keepsWatch_ibrsp hud) fun _ => triple_pure fun _ _ h => h

theorem sends_ibdev (haddress : WellFormed address) (timo sendEoi eosmode : Int32)
    (call : DeviceCall) :
    Sends bd boardPAD (Framed (.ibdev timo sendEoi eosmode call) boardPAD address)
      (program bd address (.ibdev timo sendEoi eosmode call)) := by
  let o := deviceDescriptorIn (getPAD address).toInt32 (getSAD address).toInt32 timo sendEoi
    eosmode
  have hbytes (role : Role) : (refinedDeviceOf address).bytes role =
      (deviceAddress o.options.pad o.options.sad).bytes role := by
    rw [← bytes_refinedDeviceOf haddress]
    simp [o, deviceDescriptorIn, OpenDescriptorIn.options]
  change Sends bd boardPAD (FramedAround (boardFramings boardPAD) (refinedDeviceOf address)) _
  rw [framedAround_congr hbytes]
  refine triple_bind (onBench_ibdev allowsQuiet_framedAround _ _ _ _ _) fun ud => ?_
  apply triple_ite
  · intro _
    exact triple_pure fun p d h => h.2
  intro hud p d u a p' d' h hrun hserves
  obtain ⟨⟨hnot, hboard⟩, hwatched⟩ := h.1 (Int32.not_lt.mp hud)
  have hcall : KeepsWatch (boardOf ud) (DeviceFramed o boardPAD) (AtDevice o ud boardPAD)
      (call.exec ud) := keepsWatch_deviceCall hnot call
  rw [hboard] at hcall
  exact (hcall p d u a p' d' hwatched hrun hserves).mono fun _ _ _ _ => trivial

theorem keepsWatch_ibln (haddress : WellFormed address) :
    KeepsWatch (boardOf bd) (Framed .ibln boardPAD address) (fun _ _ pad => pad = boardPAD)
      (Libgpib.ibln bd (getPAD address).toInt32 (getSAD address).toInt32) := by
  change KeepsWatch _ (FramedAround (boardFramings boardPAD) (refinedDeviceOf address)) _ _
  rw [framedAround_congr fun role => (bytes_refinedDeviceOf haddress role).symm]
  apply keepsWatch_onHandle allowsQuiet_framedAround
    (fun _ => survivesOpening_boardPAD boardPAD) _ fun out => keepsWatch_finish _ _ _ _
  intro handle
  apply (onBench_reports (reports_listenerPresent handle.toInt _ _)
    (fun b => (GPIBBoard.stores_listenerPresent _ _).keepsPAD) _).conseq (fun _ _ h => h)
      fun _ _ _ h => h.mono fun _ _ _ h => h.1
  intro handles b hknown
  obtain ⟨rfl, -⟩ := hknown
  rw [UInt32.toUInt32_toInt32]
  exact aims_listenerPresent allowsQuiet_framedAround boardFramed_listen boardFramed_poll
    allows_teardown fun t _ => framedAround_data (by simp)

/-- Commands that `ibcmd` is given. -/
theorem sends_ibcmd {phase : Addressing → BoardRequest → Prop} (hquiet : AllowsQuiet phase)
    {cmd : List UInt8} (h : Allows phase cmd) :
    Sends bd boardPAD phase (ibcmd bd cmd cmd.length) := by
  apply (keepsWatch_sendBytes hquiet (fun _ => survivesOpening_boardPAD boardPAD) _).conseq
    (fun _ _ h => h) fun _ _ _ h => h.mono fun _ _ _ _ => trivial
  intro handle
  simp only [Int.toNat_natCast, List.take_length]
  exact (onBench_reports (reports_sendCommand handle.toInt cmd)
    (fun b => (GPIBBoard.stores_sendCommands _).keepsPAD) fun _ _ _ => aims_sendCommands h).conseq
      (fun _ _ h => h) fun _ _ _ h => h.mono fun _ _ _ h => h.1

theorem addrValid_of_wellFormed (haddress : WellFormed address) : addrValid address = true := by
  have hne : address ≠ 0xffff := by
    rintro rfl
    exact absurd haddress (by decide)
  simp [addrValid, noAddr, hne]

/-- The loop of `SendSetup` goes through addresses that there is room for. -/
theorem setupLoop_append {n : Nat} {earlier : List Addr4882} (later : List Addr4882)
    (hvalid : ∀ a ∈ earlier, addrValid a = true) (haddress : addrValid address = true)
    (hroom : n + (earlier.flatMap (setupBytes CmdByte.lad)).length < 30) :
    setupLoop n (earlier ++ address :: later) =
      earlier.flatMap (setupBytes CmdByte.lad) ++ (setupBytes CmdByte.lad address ++
        setupLoop (n + (earlier.flatMap (setupBytes CmdByte.lad)).length +
          (setupBytes CmdByte.lad address).length) later) := by
  induction earlier generalizing n with
  | nil =>
      have hn : n < 30 := by simpa using hroom
      simp [setupLoop, haddress, hn]
  | cons a earlier ih =>
      rw [List.flatMap_cons, List.length_append, ← Nat.add_assoc] at hroom
      have hn : n < 30 := by omega
      have hrest := ih (fun a ha => hvalid a (List.mem_cons_of_mem _ ha)) hroom
      simp only [List.cons_append, setupLoop, hvalid a List.mem_cons_self, hn, decide_true,
        Bool.and_self, if_true, hrest]
      simp [List.flatMap_cons, Nat.add_assoc]

theorem sends_sendSetup (haddress : WellFormed address) {earlier later : List Addr4882}
    (hcomes : (sendSetup earlier later).ComesTo) :
    Sends bd boardPAD (Framed (.sendSetup earlier later) boardPAD address)
      (Libgpib.sendSetup bd (earlier ++ address :: later)) := by
  refine triple_bind (sends_ibcmd allowsQuiet_framedAround ?_) fun _ => triple_pure fun _ _ h => h
  refine allows_framing List.mem_cons_self ?_
  rw [sendSetupCommands, setupLoop_append later hcomes.1 (addrValid_of_wellFormed haddress)
    hcomes.2]
  simp [Framing.around, reached, mapsNoSad, setupBytes_listener]

theorem sends_receiveSetup :
    Sends bd boardPAD (Framed .receiveSetup boardPAD address)
      (Libgpib.receiveSetup bd address) := by
  refine triple_bind (sends_ibcmd allowsQuiet_framedAround ?_) fun _ => triple_pure fun _ _ h => h
  apply allows_framing (f := ⟨[CmdByte.unl], .talker, []⟩)
  · simp [framings, boardFramings]
  · simp [receiveSetupCommands, Framing.around, reached, mapsNoSad, setupBytes_talker]

/-- Whatever the way, its requests are framed around the device it addresses. -/
theorem sends_program (haddress : WellFormed address) {access : Access}
    (hcomes : access.ComesTo) :
    Sends bd boardPAD (access.Framed boardPAD address) (access.program bd address) := by
  cases access with
  | send buffer count eotMode allocated =>
      exact sends_withDevice haddress fun ud hud =>
        keepsWatch_sendDevice hud buffer count eotMode allocated
  | receive count =>
      exact sends_map (sends_withDevice haddress fun ud hud =>
        triple_bind (keepsWatch_ibrd_device hud count) fun _ => triple_pure fun _ _ h => h)
  | devClear =>
      exact sends_withDevice haddress fun ud hud =>
        triple_bind (keepsWatch_ibclr hud) fun _ => triple_pure fun _ _ h => h
  | trigger =>
      exact sends_withDevice haddress fun ud hud =>
        triple_bind (keepsWatch_ibtrg hud) fun _ => triple_pure fun _ _ h => h
  | readStatusByte =>
      exact sends_map (sends_withDevice haddress fun ud hud =>
        triple_bind (keepsWatch_ibrsp hud) fun _ => triple_pure fun _ _ h => h)
  | ibdev timo sendEoi eosmode call => exact sends_ibdev haddress timo sendEoi eosmode call
  | ibln =>
      exact triple_bind (keepsWatch_ibln haddress) fun _ =>
        triple_pure fun _ _ h => h.mono fun _ _ _ _ => trivial
  | sendSetup earlier later => exact sends_sendSetup haddress hcomes
  | receiveSetup => exact sends_receiveSetup

end Access

/-! ## Every sequence of every way -/

/-- A command sequence, other than the end of a poll, selects the device just when the way
knows the address to have no secondary part or it has one. -/
def SelectsUnlessMisread (access : Access) (boardPAD : UInt8) (address : Addr4882)
    (request : BoardRequest) : Prop :=
  ∀ cmds, request = .sendCommandBytes cmds → cmds ≠ BoardState.teardownCommands →
    (access.Selects boardPAD address cmds ↔ access.mapsNoSad = true ∨ getSAD address ≠ 0)

theorem selectsUnlessMisread_of_framed {access : Access} {boardPAD : UInt8}
    {address : Addr4882} {t : Addressing} {request : BoardRequest}
    (h : access.Framed boardPAD address t request) :
    SelectsUnlessMisread access boardPAD address request := by
  intro cmds heq hne
  rcases h cmds heq with hdown | ⟨f, hf, rfl⟩
  · exact absurd hdown hne
  · exact Access.selects_iff hf

/-- The requests that a call made of a board for one address after another. -/
inductive InTurn (P : Addr4882 → BoardRequest → Prop) :
    List Addr4882 → Log Addressing BoardRequest → Prop where
  | done {list} : InTurn P list []
  | next {address list own rest} (hown : ∀ e ∈ own, P address e.2) (hrest : InTurn P list rest) :
      InTurn P (address :: list) (rest ++ own)

section Runs

variable {bd : Int32} {p p' : Process} {d d' : Bench} {u : Trace BrokerCall.Reply}

/-- From a bench without a log, what the log says of a call on one address. -/
theorem framed_of_run {α : Type} {x : Lib α} {a : α} {phase : Addressing → BoardRequest → Prop}
    (hx : Access.Sends bd (d.board (boardOf bd)).state.boardPAD phase x)
    (hlog : (d.bus (boardOf bd)).2 = []) (hrun : Run (x.run p) u (a, p'))
    (hserves : Serves Bench.Answers d u d') :
    ∀ e ∈ (d'.bus (boardOf bd)).2, phase e.1 e.2 := by
  have hsuits : Suits phase Anyhow (d.bus (boardOf bd)) := ⟨trivial, by simp [hlog]⟩
  exact (hx p d u a p' d' ⟨rfl, hsuits⟩ hrun hserves).suits.2

theorem framed_of_access {access : Access} {address : Addr4882} (haddress : WellFormed address)
    (hcomes : access.ComesTo) (hlog : (d.bus (boardOf bd)).2 = [])
    (hrun : Run ((access.program bd address).run p) u ((), p'))
    (hserves : Serves Bench.Answers d u d') :
    ∀ e ∈ (d'.bus (boardOf bd)).2, SelectsUnlessMisread access
      (d.board (boardOf bd)).state.boardPAD address e.2 :=
  fun e he => selectsUnlessMisread_of_framed
    (framed_of_run (Access.sends_program haddress hcomes) hlog hrun hserves e he)

/-- `FindLstn` looks for one address after another. -/
theorem inTurn_of_findLstnLoop {boardPAD : UInt8}
    (hpad : (d.board (boardOf bd)).state.boardPAD = boardPAD) {room : Nat}
    {list found : List Addr4882} (hlist : ∀ a ∈ list, WellFormed a)
    (hlog : (d.bus (boardOf bd)).2 = [])
    (hrun : Run ((findLstnLoop bd room list).run p) u (found, p'))
    (hserves : Serves Bench.Answers d u d') :
    InTurn (SelectsUnlessMisread .ibln boardPAD) list (d'.bus (boardOf bd)).2 := by
  induction list generalizing room found p u d d' with
  | nil =>
      obtain ⟨rfl, -⟩ := run_stateT_pure_iff.mp hrun
      rw [serves_nil_iff.mp hserves, hlog]
      exact .done
  | cons address list ih =>
      have haddress := hlist address List.mem_cons_self
      have hrest := fun a ha => hlist a (List.mem_cons_of_mem _ ha)
      rcases run_stateT_guard_iff.mp hrun with ⟨-, rfl, -⟩ | ⟨-, hrun⟩
      · rw [serves_nil_iff.mp hserves, hlog]
        exact .done
      obtain ⟨v, ⟨ret, present⟩, p₁, w, rfl, hv, hw⟩ := run_stateT_bind_iff.mp hrun
      obtain ⟨d₁, hd₁, hd'⟩ := serves_append_iff.mp hserves
      have hsuits : Suits (Access.ibln.Framed boardPAD address) Anyhow (d.bus (boardOf bd)) :=
        ⟨trivial, by simp [hlog]⟩
      have hwatched := Access.keepsWatch_ibln haddress p d v _ p₁ d₁ ⟨hpad, hsuits⟩ hv hd₁
      obtain ⟨l', hlog', hafter⟩ := Bench.serves_append (l := []) hd' rfl
      have hloop {room : Nat} {found : List Addr4882}
          (hrun : Run ((findLstnLoop bd room list).run p₁) w (found, p')) :
          InTurn (SelectsUnlessMisread .ibln boardPAD) list l' := by
        simpa using ih (d := d₁.withLog (boardOf bd) []) hwatched.known hrest (by simp) hrun hafter
      have hnext : InTurn (SelectsUnlessMisread .ibln boardPAD) list l' := by
        rcases run_stateT_ite_iff.mp hw with ⟨-, hw⟩ | ⟨-, hw⟩
        · obtain ⟨w₁, found', p₂, w₂, rfl, hw₁, hw₂⟩ := run_stateT_bind_iff.mp hw
          obtain ⟨rfl, heq⟩ := run_stateT_pure_iff.mp hw₂
          cases heq
          rw [List.append_nil] at hloop
          exact hloop hw₁
        · exact hloop hw
      rw [hlog']
      exact .next (fun e he => selectsUnlessMisread_of_framed (hwatched.suits.2 e he)) hnext

/-- From a bench on which nothing has been asked of the board: on every way that comes to an
address, each command sequence selects the device if and only if the address has a secondary
part or the way knows what it means to have none; `FindLstn` is `ibln` on one address after
another. -/
theorem addresses_encoded_alike_iff (hlog : (d.bus (boardOf bd)).2 = [])
    (hserves : Serves Bench.Answers d u d') :
    (∀ (access : Access) (address : Addr4882), WellFormed address → access.ComesTo →
      Run ((access.program bd address).run p) u ((), p') →
        ∀ e ∈ (d'.bus (boardOf bd)).2, SelectsUnlessMisread access
          (d.board (boardOf bd)).state.boardPAD address e.2) ∧
      ∀ (list found : List Addr4882) (room : Int), (∀ a ∈ list, WellFormed a) →
        Run ((findLstn bd list room).run p) u (found, p') →
          InTurn (SelectsUnlessMisread .ibln (d.board (boardOf bd)).state.boardPAD) list
            (d'.bus (boardOf bd)).2 := by
  constructor
  · intro access address haddress hcomes hrun
    exact framed_of_access haddress hcomes hlog hrun hserves
  · intro list found room hlist hrun
    obtain ⟨v, found', p₁, w, rfl, hv, hw⟩ := run_stateT_bind_iff.mp hrun
    obtain ⟨rfl, heq⟩ := run_stateT_pure_iff.mp hw
    cases heq
    rw [List.append_nil] at hserves
    exact inTurn_of_findLstnLoop rfl hlist hlog hv hserves

end Runs

/-! ## `ibln` on an instrument at 5 -/

instance (access : Access) (boardPAD : UInt8) (address : Addr4882) (cmds : List UInt8) :
    Decidable (access.Selects boardPAD address cmds) :=
  inferInstanceAs (Decidable (∃ f ∈ access.framings boardPAD address,
    cmds = f.around (deviceOf address)))

/-- `ibln` on a bus that does not take the commands. -/
theorem run_ibln_unsent (address : Addr4882) :
    ∃ u p' d', Run ((Access.ibln.program 0 address).run foundProcess) u ((), p') ∧
      Serves Bench.Answers foundBench u d' ∧
      (d'.bus 0).2 = [(.clear, .sendCommandBytes (BoardState.listenCommands
        (getPAD address).toInt32.toUInt32.toUInt8 (getSAD address).toInt32.toInt8))] := by
  let pad := (getPAD address).toInt32.toUInt32
  let sad := (getSAD address).toInt32
  let cmds := BoardState.listenCommands pad.toUInt8 sad.toInt8
  have hrun : Run ((Access.ibln.program 0 address).run foundProcess)
      [answered (.listenerPresent 1 pad sad) (.listener false ⟨Ibsta.cmpl, 0⟩)]
      ((), { foundProcess with ibsta := Ibsta.cmpl }) :=
    .ask (.pure _)
  have hdispatch : Run (dispatch anyTransport (foundBench.board 0) anyUptime 0
      (.listenerPresent 1 pad sad)) [⟨.sendCommandBytes cmds, GPIBTransportError.errTimeout⟩]
      (some (.listener false ⟨Ibsta.cmpl, 0⟩, { foundBoard with state.ibsta := Ibsta.cmpl })) :=
    .ask (.pure _)
  have hbus : Serves (Logging BusReacts) (foundBench.bus 0)
      [⟨.sendCommandBytes cmds, GPIBTransportError.errTimeout⟩]
      (.clear, [(.clear, .sendCommandBytes cmds)]) :=
    .cons ⟨.unsent (by decide), rfl⟩ (.nil _)
  exact ⟨_, _, _, hrun, .cons (.taken hdispatch hbus) (.nil _), rfl⟩

/-- Secondary address byte 0x65 is sent behind primary address 5. -/
theorem addresses_encoded_alike_at_secondary :
    Access.ibln.Selects 0 0x6505 [CmdByte.unl, CmdByte.unt, mlaByte 5, 0x65] := by
  obtain ⟨u, p', d', hrun, hserves, hlog⟩ := run_ibln_unsent 0x6505
  have hnothing : (foundBench.bus (boardOf 0)).2 = [] := rfl
  have hselects := (addresses_encoded_alike_iff hnothing hserves).1 .ibln 0x6505 (by decide)
    trivial hrun (.clear, .sendCommandBytes [CmdByte.unl, CmdByte.unt, mlaByte 5, 0x65])
    (by rw [show boardOf 0 = 0 from rfl, hlog]; exact List.mem_cons_self)
  exact (hselects _ rfl (by decide)).mpr (.inr (by decide))

/-- `NO_SAD` is sent as a secondary address byte. -/
theorem addresses_not_encoded_alike :
    ∃ u p' d', Run ((Access.ibln.program 0 0x0005).run foundProcess) u ((), p') ∧
      Serves Bench.Answers foundBench u d' ∧
      (.clear, .sendCommandBytes [CmdByte.unl, CmdByte.unt, mlaByte 5, 0x60]) ∈ (d'.bus 0).2 ∧
      ¬ Access.ibln.Selects 0 0x0005 [CmdByte.unl, CmdByte.unt, mlaByte 5, 0x60] := by
  obtain ⟨u, p', d', hrun, hserves, hlog⟩ := run_ibln_unsent 0x0005
  refine ⟨u, p', d', hrun, hserves, ?_, by decide⟩
  rw [hlog]
  exact List.mem_cons_self

end Libgpib

end DarwinGpib
