import DarwinGpib.Client.AddressEncoding
import DarwinGpib.Client.BoardHandles
import Mathlib.Data.Finset.Option

/-!
# Split transfers

`SendSetup` and `ReceiveSetup` address devices for a data phase that a call of its own
performs on the board. A board addresses the bus anew before every data phase, by the address
that its own descriptor holds.
-/

namespace DarwinGpib

open Interaction Ieee488 UserClient

/-! ## The device behind a descriptor -/

/-- The device that the address bytes of a descriptor stand for; code 31 stands for nobody. -/
def DescriptorOptions.device (o : DescriptorOptions) : Option Address :=
  if o.pad &&& 0x1f = 0x1f then none
  else some ⟨o.pad &&& 0x1f, if 0 ≤ o.sad then some (o.sad.toUInt8 &&& 0x1f) else none⟩

theorem decode_mlaByte_fin :
    ∀ x : Fin 256, decode (mlaByte ⟨⟨x⟩⟩) =
      if (⟨⟨x⟩⟩ : UInt8) &&& 0x1f = 0x1f then .unlisten
      else .primary .listener (⟨⟨x⟩⟩ &&& 0x1f) := by
  decide +kernel

theorem decode_mlaByte (pad : UInt8) :
    decode (mlaByte pad) =
      if pad &&& 0x1f = 0x1f then .unlisten else .primary .listener (pad &&& 0x1f) :=
  decode_mlaByte_fin pad.toFin

theorem decode_mtaByte_fin :
    ∀ x : Fin 256, decode (mtaByte ⟨⟨x⟩⟩) =
      if (⟨⟨x⟩⟩ : UInt8) &&& 0x1f = 0x1f then .untalk
      else .primary .talker (⟨⟨x⟩⟩ &&& 0x1f) := by
  decide +kernel

theorem decode_mtaByte (pad : UInt8) :
    decode (mtaByte pad) =
      if pad &&& 0x1f = 0x1f then .untalk else .primary .talker (pad &&& 0x1f) :=
  decode_mtaByte_fin pad.toFin

theorem decode_sadByte_fin :
    ∀ x : Fin 256, decode (((⟨⟨x⟩⟩ : UInt8) &&& 0x1f) ||| CmdByte.sad) =
      .secondary (⟨⟨x⟩⟩ &&& 0x1f) := by
  decide +kernel

theorem decode_msaByte (sad : Int8) :
    decode (msaByte sad) = .secondary (sad.toUInt8 &&& 0x1f) :=
  decode_sadByte_fin sad.toUInt8.toFin

/-- A board that has addressed the bus for a write has that device as the only listener. -/
theorem listeners_writeCommands (o : DescriptorOptions) (boardPAD : UInt8) (s : Addressing) :
    (s.receiveAll (BoardState.writeCommands boardPAD o.pad o.sad)).listeners =
      o.device.toFinset := by
  have hunl : decode CmdByte.unl = .unlisten := rfl
  have hunt : decode CmdByte.unt = .untalk := rfl
  by_cases hboard : boardPAD &&& 0x1f = 0x1f <;> by_cases hpad : o.pad &&& 0x1f = 0x1f <;>
    by_cases hsad : 0 ≤ o.sad <;>
    simp [BoardState.writeCommands, msaBytes, DescriptorOptions.device, Addressing.obey, hunl,
      hunt, decode_mlaByte, decode_mtaByte, decode_msaByte, hboard, hpad, hsad]

/-- A board that has addressed the bus for a read has that device as the talker. -/
theorem talker_readCommands (o : DescriptorOptions) (boardPAD : UInt8) (s : Addressing) :
    (s.receiveAll (BoardState.readCommands boardPAD o.pad o.sad)).talker = o.device := by
  have hunl : decode CmdByte.unl = .unlisten := rfl
  have hunt : decode CmdByte.unt = .untalk := rfl
  by_cases hboard : boardPAD &&& 0x1f = 0x1f <;> by_cases hpad : o.pad &&& 0x1f = 0x1f <;>
    by_cases hsad : 0 ≤ o.sad <;>
    simp [BoardState.readCommands, msaBytes, DescriptorOptions.device, Addressing.obey, hunl,
      hunt, decode_mlaByte, decode_mtaByte, decode_msaByte, hboard, hpad, hsad]

namespace Libgpib

/-! ## The board's own descriptor -/

/-- The descriptor by which transfers on a board descriptor go: the one behind the cached
handle, or the one that `open_board` would open. -/
def ownDescriptor (p : Process) (d : Bench) (bd : Int32) : Option DescriptorOptions :=
  if 0 ≤ p.boardHandles bd then (d.board bd).descriptors.slots (p.boardHandles bd).toInt
  else some boardDescriptorIn.options

/-- The device that this descriptor holds. -/
def ownDevice (p : Process) (d : Bench) (bd : Int32) : Option Address :=
  (ownDescriptor p d bd).bind DescriptorOptions.device

/-- What is known of the own descriptor while a transfer goes on. -/
def OwnDescriptor (bd : Int32) (own : Option DescriptorOptions) : Knowledge :=
  fun handles slots _ =>
    (0 ≤ handles bd → slots (handles bd).toInt = own) ∧
      (handles bd < 0 → own = some boardDescriptorIn.options)

section Transfers

variable {bd : Int32} {own : Option DescriptorOptions}
  {phase : Addressing → BoardRequest → Prop}

theorem ownDescriptor_known (p : Process) (d : Bench) :
    OwnDescriptor bd (ownDescriptor p d bd) p.boardHandles (d.board bd).descriptors.slots
      (d.board bd).state.boardPAD := by
  unfold ownDescriptor
  constructor
  · intro h
    rw [if_pos h]
  · intro h
    rw [if_neg (Int32.not_le.mpr h)]

theorem survivesOpening_ownDescriptor : SurvivesOpening bd (OwnDescriptor bd own) where
  opened handles slots pad h hknown hcached _ :=
    ⟨fun hle => absurd hcached (Int32.not_lt.mpr hle), hknown.2⟩
  cached handles slots pad h hknown hcached hopened := by
    obtain ⟨k, hmem, rfl, hslots⟩ := hopened
    refine ⟨fun _ => ?_, fun _ => hknown.2 hcached⟩
    rw [Function.update_self, toInt_ofInt_handle hmem, hslots, hknown.2 hcached]

theorem descriptorFor_of_neg (t : DescriptorTable) {handle : Int32} (h : handle < 0) :
    t.descriptorFor handle.toInt = none := by
  have hneg : ¬ 0 ≤ handle.toInt := by
    have := Int32.lt_iff_toInt_lt.mp h
    change handle.toInt < 0 at this
    omega
  simp [DescriptorTable.descriptorFor, DescriptorTable.slotOf, hneg]

/-- A call that reports an operation on the board's own descriptor. -/
theorem callKeepsWatch_board {α : Type} {call : Int → DriverCall} {report : α → DriverReply}
    {op : Option GPIBDescriptor → BoardState → BoardCalls (α × BoardState)}
    (hbd : isBoardUd bd = true)
    (h : ∀ handle, Reports (call handle) report fun b => op (b.descriptors.descriptorFor handle))
    (hkeeps : ∀ desc, GPIBBoard.KeepsPAD (op desc))
    (hnone : ∀ s, Aims phase Anyhow (op none s) fun _ => Anyhow)
    (hsome : ∀ (d : GPIBDescriptor) (s : BoardState), own = some d.toDescriptorOptions →
      Aims phase Anyhow (op (some d) s) fun _ => Anyhow) :
    CallKeepsWatch phase (OwnDescriptor bd own) bd call := by
  intro handle
  apply (onBench_reports (h handle.toInt) (fun b => hkeeps _) _).conseq (fun _ _ h => h)
    fun _ _ _ h => h.mono fun _ _ _ h => h.1
  intro handles b hknown
  obtain ⟨⟨hslot, -⟩, hnames⟩ := hknown
  rw [Names, if_pos hbd] at hnames
  by_cases hle : 0 ≤ handle
  · have hcached := hnames hle
    rw [hcached] at hslot
    cases hd : b.descriptors.descriptorFor handle.toInt with
    | none => exact hnone b.state
    | some d =>
        apply hsome d b.state
        rw [← hslot hle, DescriptorTable.slots, hd]
        rfl
  · rw [descriptorFor_of_neg _ (Int32.not_le.mp hle)]
    exact hnone b.state

/-- Commands for the board itself. -/
theorem keepsWatch_ibcmd (hbd : isBoardUd bd = true) (hquiet : AllowsQuiet phase)
    {cmd : List UInt8} (h : Allows phase cmd) :
    KeepsWatch bd phase (OwnDescriptor bd own) (ibcmd bd cmd cmd.length) := by
  have hkeeps (hcall : CallKeepsWatch phase (OwnDescriptor bd own) bd
      (DriverCall.sendCommand · (cmd.take (cmd.length : Int).toNat))) :
      KeepsWatch (boardOf bd) phase (OwnDescriptor bd own) (ibcmd bd cmd cmd.length) :=
    keepsWatch_sendBytes hquiet (fun _ => survivesOpening_ownDescriptor) hcall
  rw [boardOf_of_isBoardUd hbd] at hkeeps
  apply hkeeps
  intro handle
  rw [boardOf_of_isBoardUd hbd]
  simp only [Int.toNat_natCast, List.take_length]
  exact (onBench_reports (reports_sendCommand handle.toInt cmd)
    (fun b => (GPIBBoard.stores_sendCommands _).keepsPAD) fun _ _ _ => aims_sendCommands h).conseq
      (fun _ _ h => h) fun _ _ _ h => h.mono fun _ _ _ h => h.1

/-! ## Data phases -/

/-- Every write has the device of the own descriptor as the only listener. -/
def WritesToOwn (own : Option DescriptorOptions) : Addressing → BoardRequest → Prop
  | s, .writeData _ _ _ => s.listeners = (own.bind DescriptorOptions.device).toFinset
  | _, _ => True

/-- Every read has the device of the own descriptor as the talker. -/
def ReadsFromOwn (own : Option DescriptorOptions) : Addressing → BoardRequest → Prop
  | s, .readData _ _ _ _ => s.talker = own.bind DescriptorOptions.device
  | _, _ => True

theorem allowsQuiet_writesToOwn : AllowsQuiet (WritesToOwn own) := by
  intro t req hreq
  cases req <;> trivial

theorem allowsQuiet_readsFromOwn : AllowsQuiet (ReadsFromOwn own) := by
  intro t req hreq
  cases req <;> trivial

theorem keepsWatch_sendDataBytes (hbd : isBoardUd bd = true) (buffer : List UInt8)
    (count : Int) :
    KeepsWatch bd (WritesToOwn own) (OwnDescriptor bd own) (sendDataBytes bd buffer count) := by
  have hwrite : KeepsWatch (boardOf bd) (WritesToOwn own) (OwnDescriptor bd own)
      (ibwrt bd buffer count) := by
    apply keepsWatch_sendBytes allowsQuiet_writesToOwn fun _ => survivesOpening_ownDescriptor
    apply callKeepsWatch_board hbd (fun handle => reports_write handle 1 _)
      (fun desc => (GPIBBoard.stores_write desc _ _).keepsPAD) fun s => aims_done
    intro d s hd
    apply aims_write allowsQuiet_writesToOwn (fun _ => trivial) fun _ => trivial
    intro t haddressed
    obtain ⟨t', rfl⟩ := haddressed
    rw [hd]
    exact listeners_writeCommands _ _ _
  rw [boardOf_of_isBoardUd hbd] at hwrite
  exact triple_bind hwrite fun _ => triple_pure fun _ _ h => h

theorem keepsWatch_rcvRespMsg (hbd : isBoardUd bd = true) (count : Int) :
    KeepsWatch bd (ReadsFromOwn own) (OwnDescriptor bd own) (rcvRespMsg bd count) := by
  have hread : KeepsWatch (boardOf bd) (ReadsFromOwn own) (OwnDescriptor bd own)
      (ibrd bd count) := by
    apply keepsWatch_ibrd allowsQuiet_readsFromOwn fun _ => survivesOpening_ownDescriptor
    intro n
    apply callKeepsWatch_board hbd (fun handle => reports_read handle n)
      (fun desc => (GPIBBoard.stores_read desc _).keepsPAD) fun s => aims_done
    intro d s hd
    apply aims_read allowsQuiet_readsFromOwn (fun _ => trivial) fun _ => trivial
    intro t haddressed
    obtain ⟨t', rfl⟩ := haddressed
    rw [hd]
    exact talker_readCommands _ _ _
  rw [boardOf_of_isBoardUd hbd] at hread
  exact triple_bind hread fun _ => triple_pure fun _ _ h => h

/-- `SendSetup` and then `SendDataBytes`. -/
def splitSend (bd : Int32) (list : List Addr4882) (buffer : List UInt8) (count : Int) :
    Lib Unit := do
  sendSetup bd list
  sendDataBytes bd buffer count

/-- `ReceiveSetup` and then `RcvRespMsg`. -/
def splitReceive (bd : Int32) (address : Addr4882) (count : Int) : Lib (List UInt8) := do
  receiveSetup bd address
  rcvRespMsg bd count

theorem keepsWatch_splitSend (hbd : isBoardUd bd = true) (list : List Addr4882)
    (buffer : List UInt8) (count : Int) :
    KeepsWatch bd (WritesToOwn own) (OwnDescriptor bd own)
      (splitSend bd list buffer count) := by
  have hsetup : KeepsWatch bd (WritesToOwn own) (OwnDescriptor bd own) (sendSetup bd list) :=
    triple_bind (keepsWatch_ibcmd hbd allowsQuiet_writesToOwn fun _ => trivial)
      fun _ => triple_pure fun _ _ h => h
  exact triple_bind hsetup fun _ => keepsWatch_sendDataBytes hbd buffer count

theorem keepsWatch_splitReceive (hbd : isBoardUd bd = true) (address : Addr4882) (count : Int) :
    KeepsWatch bd (ReadsFromOwn own) (OwnDescriptor bd own)
      (splitReceive bd address count) := by
  have hsetup : KeepsWatch bd (ReadsFromOwn own) (OwnDescriptor bd own) (receiveSetup bd address) :=
    triple_bind (keepsWatch_ibcmd hbd allowsQuiet_readsFromOwn fun _ => trivial)
      fun _ => triple_pure fun _ _ h => h
  exact triple_bind hsetup fun _ => keepsWatch_rcvRespMsg hbd count

variable {p p' : Process} {d d' : Bench} {u : Trace BrokerCall.Reply}

/-- What the log of the board says of a call, from a bench without a log. -/
theorem phase_of_run {α : Type} {x : Lib α} {a : α}
    (hx : KeepsWatch bd phase (OwnDescriptor bd (ownDescriptor p d bd)) x)
    (hlog : (d.bus bd).2 = []) (hrun : Run (x.run p) u (a, p'))
    (hserves : Serves Bench.Answers d u d') :
    ∀ e ∈ (d'.bus bd).2, phase e.1 e.2 := by
  have hsuits : Suits phase Anyhow (d.bus bd) := ⟨trivial, by simp [hlog]⟩
  exact (hx p d u a p' d' ⟨ownDescriptor_known p d, hsuits⟩ hrun hserves).suits.2

/-- The data phase of a split transfer finds the bus set up as asked just when the board's own
descriptor holds the very address that was asked for. -/
theorem split_transfers_reach_iff (hbd : isBoardUd bd = true) (hlog : (d.bus bd).2 = [])
    (hserves : Serves Bench.Answers d u d') :
    (∀ (list : List Addr4882) (buffer : List UInt8) (count : Int),
      Run ((splitSend bd list buffer count).run p) u ((), p') →
        ∀ s buf sendEoi us, (s, .writeData buf sendEoi us) ∈ (d'.bus bd).2 →
          (s.listeners = (list.map deviceOf).toFinset ↔
            (ownDevice p d bd).toFinset = (list.map deviceOf).toFinset)) ∧
      ∀ (address : Addr4882) (count : Int) (bytes : List UInt8),
        Run ((splitReceive bd address count).run p) u (bytes, p') →
          ∀ s n eosChar eosFlags us, (s, .readData n eosChar eosFlags us) ∈ (d'.bus bd).2 →
            (s.talker = some (deviceOf address) ↔
              ownDevice p d bd = some (deviceOf address)) := by
  constructor
  · intro list buffer count hrun s buf sendEoi us he
    have hlisteners := phase_of_run (keepsWatch_splitSend hbd list buffer count) hlog hrun
      hserves _ he
    change s.listeners = (ownDevice p d bd).toFinset at hlisteners
    rw [hlisteners]
  · intro address count bytes hrun s n eosChar eosFlags us he
    have htalker := phase_of_run (keepsWatch_splitReceive hbd address count) hlog hrun
      hserves _ he
    change s.talker = ownDevice p d bd at htalker
    rw [htalker]

end Transfers

/-! ## A transfer to an instrument at 5 -/

/-- The board after `ibfind("gpib0")` and `ibpad(0, v)`. -/
def boardAt (v : Int32) : GPIBBoard := (foundBoard.configure 1 Ibc.pad v).2

/-- The primary address that `ibpad` stores. -/
def padOf (v : Int32) : UInt8 := (v &&& 0x1f).toUInt32.toUInt8

/-- What the bus is addressed to when the data go out. -/
def addressedAt (v : Int32) : Addressing :=
  (Addressing.clear.receiveAll (sendSetupCommands [0x0005])).receiveAll
    (BoardState.writeCommands 0 (padOf v) (-1))

/-- Two bytes to 5, on a bus that takes everything. -/
theorem run_splitSend_at (v : Int32) :
    ∃ u p' d', Run ((splitSend 0 [0x0005] [104, 105] 2).run foundProcess) u ((), p') ∧
      Serves Bench.Answers { foundBench with board := fun _ => boardAt v } u d' ∧
      (addressedAt v, .writeData [104, 105] true 3000000) ∈ (d'.bus 0).2 := by
  let setup := sendSetupCommands [0x0005]
  let address := BoardState.writeCommands 0 (padOf v) (-1)
  let set := Addressing.clear.receiveAll setup
  let after (b : GPIBBoard) : GPIBBoard := { b with state.ibsta := Ibsta.cmpl }
  have hrun : Run ((splitSend 0 [0x0005] [104, 105] 2).run foundProcess)
      [answered (.sendCommand 1 setup) (.counted ⟨⟨Ibsta.cmpl, 0⟩, 2⟩),
        answered (.write 1 1 [104, 105]) (.counted ⟨⟨Ibsta.cmpl, 0⟩, 2⟩)]
      ((), { foundProcess with ibsta := Ibsta.cmpl, ibcntl := 2 }) :=
    .ask (.ask (.pure _))
  have hsetup : Run (dispatch anyTransport (boardAt v) anyUptime 0 (.sendCommand 1 setup))
      [⟨.sendCommandBytes setup, GPIBTransportError.ok⟩]
      (some (.counted ⟨⟨Ibsta.cmpl, 0⟩, 2⟩, after (boardAt v))) :=
    .ask (.pure _)
  have hdata : Run (dispatch anyTransport (after (boardAt v)) anyUptime 0
      (.write 1 1 [104, 105]))
      [⟨.sendCommandBytes address, GPIBTransportError.ok⟩,
        ⟨.writeData [104, 105] true 3000000, (⟨.ok, 2⟩ : WriteResult)⟩]
      (some (.counted ⟨⟨Ibsta.cmpl, 0⟩, 2⟩, after (boardAt v))) :=
    .ask (.ask (.pure _))
  have hbus₁ : Serves (Logging BusReacts) (.clear, [])
      [⟨.sendCommandBytes setup, GPIBTransportError.ok⟩]
      (set, [(.clear, .sendCommandBytes setup)]) :=
    .cons ⟨.sent, rfl⟩ (.nil _)
  let log : Log Addressing BoardRequest :=
    [(set, .sendCommandBytes address), (.clear, .sendCommandBytes setup)]
  have haddressed : Logging BusReacts (set, [(.clear, .sendCommandBytes setup)])
      ⟨.sendCommandBytes address, GPIBTransportError.ok⟩ (addressedAt v, log) :=
    ⟨.sent, rfl⟩
  have hsent : Logging BusReacts (addressedAt v, log)
      ⟨.writeData [104, 105] true 3000000, (⟨.ok, 2⟩ : WriteResult)⟩
      (addressedAt v, (addressedAt v, .writeData [104, 105] true 3000000) :: log) :=
    ⟨.kept rfl, rfl⟩
  have hbus₂ := Serves.cons haddressed (.cons hsent (.nil _))
  exact ⟨_, _, _, hrun, .cons (.taken hsetup hbus₁) (.cons (.taken hdata hbus₂) (.nil _)),
    List.mem_cons_self⟩

/-- With its own descriptor set to 5 as well, the board sends the data to 5. -/
theorem split_transfer_reaches_own_address :
    (addressedAt 5).listeners = (([0x0005] : List Addr4882).map deviceOf).toFinset := by
  obtain ⟨u, p', d', hrun, hserves, hmem⟩ := run_splitSend_at 5
  have hboard : isBoardUd 0 = true := rfl
  exact ((split_transfers_reach_iff hboard rfl hserves).1 _ _ _ hrun _ _ _ _ hmem).mpr
    (by decide)

/-- With the descriptor that `ibfind` opens, the board sends the data to address 0. -/
theorem split_transfer_misses :
    ∃ u p' d', Run ((splitSend 0 [0x0005] [104, 105] 2).run foundProcess) u ((), p') ∧
      Serves Bench.Answers { foundBench with board := fun _ => boardAt 0 } u d' ∧
      (addressedAt 0, .writeData [104, 105] true 3000000) ∈ (d'.bus 0).2 ∧
      (addressedAt 0).listeners ≠ (([0x0005] : List Addr4882).map deviceOf).toFinset := by
  obtain ⟨u, p', d', hrun, hserves, hmem⟩ := run_splitSend_at 0
  exact ⟨u, p', d', hrun, hserves, hmem, by decide⟩

end Libgpib

end DarwinGpib
