import DarwinGpib.Board.DescriptorInvariant
import DarwinGpib.Board.Requests

/-!
# Whom the bus is addressed to

The calls of a board are run against the addressing state of the bus. Whatever state an
operation finds there, its data phase, and every SDC, GET or GTL it sends, meet the bus
addressed to the device of its descriptor.
-/

namespace DarwinGpib

open Interaction Behaviour Ieee488

/-! ## Addresses as bytes -/

/-- The device that a primary address and the `sad` of a descriptor stand for. -/
def deviceAddress (pad : UInt8) (sad : Int8) : Address :=
  ⟨pad, if 0 ≤ sad then some sad.toUInt8 else none⟩

/-- The board has no secondary address. -/
def boardAddress (boardPAD : UInt8) : Address := ⟨boardPAD, none⟩

theorem bytes_listener (pad : UInt8) (sad : Int8) :
    (deviceAddress pad sad).bytes .listener = mlaByte pad :: msaBytes sad := by
  unfold deviceAddress msaBytes
  split <;> rfl

theorem bytes_talker (pad : UInt8) (sad : Int8) :
    (deviceAddress pad sad).bytes .talker = mtaByte pad :: msaBytes sad := by
  unfold deviceAddress msaBytes
  split <;> rfl

theorem boardAddress_listener (boardPAD : UInt8) :
    (boardAddress boardPAD).bytes .listener = [mlaByte boardPAD] :=
  rfl

theorem boardAddress_talker (boardPAD : UInt8) :
    (boardAddress boardPAD).bytes .talker = [mtaByte boardPAD] :=
  rfl

theorem toUInt8_le_of_nonneg_fin :
    ∀ x : Fin 256, 0 ≤ (⟨⟨⟨x⟩⟩⟩ : Int8) → (⟨⟨⟨x⟩⟩⟩ : Int8) ≤ 30 → (⟨⟨x⟩⟩ : UInt8) ≤ 30 := by
  decide +kernel

theorem valid_deviceAddress {pad : UInt8} {sad : Int8} (hpad : pad ≤ 30)
    (hsad : sad = -1 ∨ 0 ≤ sad ∧ sad ≤ 30) : (deviceAddress pad sad).Valid := by
  refine ⟨hpad, ?_⟩
  intro code hcode
  unfold deviceAddress at hcode
  split at hcode
  · rename_i hle
    cases hcode
    rcases hsad with rfl | ⟨-, hsad⟩
    · exact absurd hle (by decide)
    · exact toUInt8_le_of_nonneg_fin sad.toUInt8.toFin hle hsad
  · cases hcode

/-! ## Requests on target -/

/-- Selected Device Clear, Group Execute Trigger and Go To Local act on the listeners. -/
def ActsOnListeners (c : UInt8) : Prop := c = CmdByte.sdc ∨ c = CmdByte.get ∨ c = CmdByte.gtl

instance (c : UInt8) : Decidable (ActsOnListeners c) := inferInstanceAs (Decidable (_ ∨ _))

/-- Every command that acts on the listeners finds the target as the only one. -/
def CommandsHit (target : Address) (s : Addressing) (cmds : List UInt8) : Prop :=
  ∀ pre c post, cmds = pre ++ c :: post → ActsOnListeners c →
    (s.receiveAll pre).listeners = {target}

/-- The board talks, and the target alone listens. -/
def BoardTalks (board target : Address) (s : Addressing) : Prop :=
  s.listeners = {target} ∧ s.talker = some board

/-- The target talks, and the board alone listens. -/
def BoardListens (board target : Address) (s : Addressing) : Prop :=
  s.talker = some target ∧ s.listeners = {board}

/-- The bus is addressed as the request needs it. -/
def OnTarget (board target : Address) (s : Addressing) : BoardRequest → Prop
  | .writeData _ _ _ => BoardTalks board target s
  | .readData _ _ _ _ => BoardListens board target s
  | .sendCommandBytes cmds => CommandsHit target s cmds
  | _ => True

/-! ## Command sequences -/

theorem not_actsOnListeners_addressByte :
    ∀ x : Fin 256, ¬ ActsOnListeners (mlaByte ⟨⟨x⟩⟩) ∧ ¬ ActsOnListeners (mtaByte ⟨⟨x⟩⟩) ∧
      ¬ ActsOnListeners ((⟨⟨x⟩⟩ : UInt8) &&& 0x1f ||| CmdByte.sad) := by
  decide +kernel

theorem not_actsOnListeners_mlaByte (pad : UInt8) : ¬ ActsOnListeners (mlaByte pad) :=
  (not_actsOnListeners_addressByte pad.toFin).1

theorem not_actsOnListeners_mtaByte (pad : UInt8) : ¬ ActsOnListeners (mtaByte pad) :=
  (not_actsOnListeners_addressByte pad.toFin).2.1

theorem not_actsOnListeners_msaBytes (sad : Int8) : ∀ c ∈ msaBytes sad, ¬ ActsOnListeners c := by
  intro c hc
  unfold msaBytes at hc
  split at hc
  · obtain rfl := List.mem_singleton.mp hc
    exact (not_actsOnListeners_addressByte sad.toUInt8.toFin).2.2
  · cases hc

section Sequences

variable {board target : Address} {s : Addressing}

theorem commandsHit_of_forall_not {cmds : List UInt8} (h : ∀ c ∈ cmds, ¬ ActsOnListeners c) :
    CommandsHit target s cmds := by
  rintro pre c post rfl hc
  exact absurd hc (h c (by simp))

/-- Only the last command acts on the listeners. -/
theorem commandsHit_append_singleton {cmds : List UInt8} {c : UInt8}
    (h : ∀ c ∈ cmds, ¬ ActsOnListeners c) (hs : (s.receiveAll cmds).listeners = {target}) :
    CommandsHit target s (cmds ++ [c]) := by
  intro pre c' post heq hc'
  rcases List.eq_nil_or_concat post with rfl | ⟨post, x, rfl⟩
  · obtain ⟨rfl, -⟩ := List.append_inj' heq rfl
    exact hs
  · rw [List.concat_eq_append, ← List.cons_append, ← List.append_assoc] at heq
    obtain ⟨rfl, -⟩ := List.append_inj' heq rfl
    exact absurd hc' (h c' (by simp))

variable {boardPAD pad : UInt8} {sad : Int8}

/-- The state before the target is addressed to listen, by itself. -/
theorem receiveAll_unl_listener (hpad : (deviceAddress pad sad).Valid) (s : Addressing) :
    (s.receiveAll (CmdByte.unl :: mlaByte pad :: msaBytes sad)).listeners =
      {deviceAddress pad sad} := by
  rw [← bytes_listener, Addressing.receiveAll_cons]
  rw [((s.obey (decode CmdByte.unl)).receiveAll_bytes_listener hpad).1]
  rfl

theorem receiveAll_writeCommands (hboard : (boardAddress boardPAD).Valid)
    (hpad : (deviceAddress pad sad).Valid) (s : Addressing) :
    BoardTalks (boardAddress boardPAD) (deviceAddress pad sad)
      (s.receiveAll (BoardState.writeCommands boardPAD pad sad)) := by
  have hsplit : BoardState.writeCommands boardPAD pad sad =
      [CmdByte.unl, CmdByte.unt] ++ (boardAddress boardPAD).bytes .talker ++
        (deviceAddress pad sad).bytes .listener := by
    rw [bytes_listener, boardAddress_talker, BoardState.writeCommands]
    simp
  rw [hsplit, Addressing.receiveAll_append, Addressing.receiveAll_append]
  obtain ⟨hlisteners, htalker⟩ :=
    (s.receiveAll [CmdByte.unl, CmdByte.unt]).receiveAll_bytes_talker hboard
  obtain ⟨hlisteners', htalker'⟩ := ((s.receiveAll [CmdByte.unl, CmdByte.unt]).receiveAll
    ((boardAddress boardPAD).bytes .talker)).receiveAll_bytes_listener hpad
  rw [BoardTalks, hlisteners', hlisteners, htalker', htalker]
  exact ⟨rfl, rfl⟩

theorem receiveAll_readCommands (hboard : (boardAddress boardPAD).Valid)
    (hpad : (deviceAddress pad sad).Valid) (s : Addressing) :
    BoardListens (boardAddress boardPAD) (deviceAddress pad sad)
      (s.receiveAll (BoardState.readCommands boardPAD pad sad)) := by
  have hsplit : BoardState.readCommands boardPAD pad sad =
      [CmdByte.unl, CmdByte.unt] ++ (boardAddress boardPAD).bytes .listener ++
        (deviceAddress pad sad).bytes .talker := by
    rw [bytes_talker, boardAddress_listener, BoardState.readCommands]
    simp
  rw [hsplit, Addressing.receiveAll_append, Addressing.receiveAll_append]
  obtain ⟨hlisteners, htalker⟩ :=
    (s.receiveAll [CmdByte.unl, CmdByte.unt]).receiveAll_bytes_listener hboard
  obtain ⟨hlisteners', htalker'⟩ := ((s.receiveAll [CmdByte.unl, CmdByte.unt]).receiveAll
    ((boardAddress boardPAD).bytes .listener)).receiveAll_bytes_talker hpad
  rw [BoardListens, hlisteners', hlisteners, htalker']
  exact ⟨rfl, rfl⟩

theorem receiveAll_serialPollCommands (hboard : (boardAddress boardPAD).Valid)
    (hpad : (deviceAddress pad sad).Valid) (s : Addressing) :
    BoardListens (boardAddress boardPAD) (deviceAddress pad sad)
      (s.receiveAll (BoardState.serialPollCommands boardPAD pad sad)) := by
  have hsplit : BoardState.serialPollCommands boardPAD pad sad =
      [CmdByte.unl] ++ (deviceAddress pad sad).bytes .talker ++
        (boardAddress boardPAD).bytes .listener ++ [CmdByte.spe] := by
    rw [bytes_talker, boardAddress_listener, BoardState.serialPollCommands]
    simp
  rw [hsplit, Addressing.receiveAll_append, Addressing.receiveAll_append,
    Addressing.receiveAll_append]
  obtain ⟨hlisteners, htalker⟩ := (s.receiveAll [CmdByte.unl]).receiveAll_bytes_talker hpad
  obtain ⟨hlisteners', htalker'⟩ := ((s.receiveAll [CmdByte.unl]).receiveAll
    ((deviceAddress pad sad).bytes .talker)).receiveAll_bytes_listener hboard
  have hspe (t : Addressing) : (t.receiveAll [CmdByte.spe]).talker = t.talker ∧
      (t.receiveAll [CmdByte.spe]).listeners = t.listeners :=
    ⟨rfl, rfl⟩
  rw [BoardListens, (hspe _).1, (hspe _).2, hlisteners', hlisteners, htalker', htalker]
  exact ⟨rfl, rfl⟩

end Sequences

/-! ## Operations -/

section Operations

variable {board target : Address} {boardPAD pad : UInt8} {sad : Int8} {d : GPIBDescriptor}
  {s : BoardState}

theorem allowsQuiet_onTarget : AllowsQuiet (OnTarget board target) := by
  intro t req hreq
  cases req with
  | sendCommandBytes => cases hreq
  | writeData => cases hreq
  | readData => cases hreq
  | _ => exact trivial

/-- Command sequences that only address. -/
theorem allows_of_forall_not {cmds : List UInt8} (h : ∀ c ∈ cmds, ¬ ActsOnListeners c) :
    Allows (OnTarget board target) cmds :=
  fun _ => commandsHit_of_forall_not h

theorem allows_writeCommands :
    Allows (OnTarget board target) (BoardState.writeCommands boardPAD pad sad) := by
  apply allows_of_forall_not
  intro c hc
  simp only [BoardState.writeCommands, List.cons_append, List.nil_append, List.mem_cons] at hc
  rcases hc with rfl | rfl | rfl | rfl | hc
  · decide
  · decide
  · exact not_actsOnListeners_mtaByte _
  · exact not_actsOnListeners_mlaByte _
  · exact not_actsOnListeners_msaBytes _ c hc

theorem allows_readCommands :
    Allows (OnTarget board target) (BoardState.readCommands boardPAD pad sad) := by
  apply allows_of_forall_not
  intro c hc
  simp only [BoardState.readCommands, List.cons_append, List.nil_append, List.mem_cons] at hc
  rcases hc with rfl | rfl | rfl | rfl | hc
  · decide
  · decide
  · exact not_actsOnListeners_mlaByte _
  · exact not_actsOnListeners_mtaByte _
  · exact not_actsOnListeners_msaBytes _ c hc

theorem allows_listenCommands :
    Allows (OnTarget board target) (BoardState.listenCommands pad sad) := by
  apply allows_of_forall_not
  intro c hc
  simp only [BoardState.listenCommands, List.cons_append, List.nil_append, List.mem_cons] at hc
  rcases hc with rfl | rfl | rfl | hc
  · decide
  · decide
  · exact not_actsOnListeners_mlaByte _
  · exact not_actsOnListeners_msaBytes _ c hc

theorem allows_serialPollCommands :
    Allows (OnTarget board target) (BoardState.serialPollCommands boardPAD pad sad) := by
  apply allows_of_forall_not
  intro c hc
  simp only [BoardState.serialPollCommands, List.cons_append, List.nil_append, List.mem_cons,
    List.mem_append, List.not_mem_nil, or_false] at hc
  rcases hc with rfl | rfl | hc | rfl | rfl
  · decide
  · exact not_actsOnListeners_mtaByte _
  · exact not_actsOnListeners_msaBytes _ c hc
  · exact not_actsOnListeners_mlaByte _
  · decide

theorem allows_teardownCommands :
    Allows (OnTarget board target) BoardState.teardownCommands :=
  allows_of_forall_not (by decide +kernel)

/-- One command to the target alone. -/
theorem allows_addressedCommands (hpad : (deviceAddress pad sad).Valid) (c : UInt8) :
    Allows (OnTarget board (deviceAddress pad sad))
      (BoardState.addressedCommands pad sad c) := by
  intro t
  apply commandsHit_append_singleton
  · intro c hc
    simp only [List.cons_append, List.nil_append, List.mem_cons] at hc
    rcases hc with rfl | rfl | hc
    · decide
    · exact not_actsOnListeners_mlaByte _
    · exact not_actsOnListeners_msaBytes _ c hc
  · exact receiveAll_unl_listener hpad t

end Operations

/-! ## Reachable boards -/

/-- The device that an operation addresses, by its primary and secondary address. -/
def BoardOp.target? (b : GPIBBoard) : BoardOp → Option (UInt8 × Int8)
  | write handle _ _ | read handle _ | deviceClear handle | trigger handle | goToLocal handle
  | serialPoll handle => (b.descriptors.descriptorFor handle).map fun d => (d.pad, d.sad)
  | listenerPresent pad sad => some (pad, sad)
  | _ => none

variable {past : List (GPIBBoard × GPIBBoard.Event)} {b b' : GPIBBoard}

theorem BoardHistory.boardPAD (h : BoardHistory past b) : b.state.boardPAD = 0 := by
  apply History.invariant (I := fun b : GPIBBoard => b.state.boardPAD = 0) _ _ h
  · rintro b rfl
    rfl
  · intro b e b' hb hstep
    rw [GPIBBoard.boardPAD_of_performs hstep, hb]

theorem BoardHistory.valid_boardAddress (h : BoardHistory past b) :
    (boardAddress b.state.boardPAD).Valid := by
  rw [h.boardPAD]
  decide +kernel

/-- What a bus operation aims at holds of the requests it made. -/
theorem aims_of_reporting {α : Type} {board target : Address} {report : α → BoardResult}
    {op : BoardState → BoardCalls (α × BoardState)} {u : BoardTrace} {r : BoardResult}
    {s s' : Addressing} {log : Log Addressing BoardRequest}
    (hop : Aims (OnTarget board target) Anyhow (op b.state) fun _ => Anyhow)
    (hrun : Run (b.reporting report op) u (some (r, b')))
    (hserves : Serves (Logging BusReacts) (s, []) u (s', log)) :
    ∀ x ∈ log, OnTarget board target x.1 x.2 := by
  obtain ⟨a, t, hop', -, -⟩ := GPIBBoard.run_reporting_iff.mp hrun
  exact (hop (s, []) u (a, t) (s', log) ⟨trivial, by simp⟩ hop' hserves).2

/-- Whatever the bus is addressed to before, and whatever becomes of commands that fail: the
data phases of an operation, and its SDC, GET and GTL, meet the bus addressed to its target. -/
theorem operations_hit_target (h : BoardHistory past b) {e : GPIBBoard.Event}
    (hstep : b.Performs e b') {pad : UInt8} {sad : Int8}
    (htarget : e.op.target? b = some (pad, sad)) (hpad : pad ≤ 30)
    (hsad : sad = -1 ∨ 0 ≤ sad ∧ sad ≤ 30) {s s' : Addressing}
    {log : Log Addressing BoardRequest}
    (hserves : Serves (Logging BusReacts) (s, []) e.calls (s', log)) :
    ∀ x ∈ log, OnTarget (boardAddress b.state.boardPAD) (deviceAddress pad sad) x.1 x.2 := by
  have hboard := h.valid_boardAddress
  have hvalid := valid_deviceAddress hpad hsad
  have hwrite (t : Addressing)
      (ht : Addressed (BoardState.writeCommands b.state.boardPAD pad sad) t) :
      BoardTalks (boardAddress b.state.boardPAD) (deviceAddress pad sad) t := by
    obtain ⟨s, rfl⟩ := ht
    exact receiveAll_writeCommands hboard hvalid s
  have hread (t : Addressing)
      (ht : Addressed (BoardState.readCommands b.state.boardPAD pad sad) t) :
      BoardListens (boardAddress b.state.boardPAD) (deviceAddress pad sad) t := by
    obtain ⟨s, rfl⟩ := ht
    exact receiveAll_readCommands hboard hvalid s
  have hpoll (t : Addressing)
      (ht : Addressed (BoardState.serialPollCommands b.state.boardPAD pad sad) t) :
      BoardListens (boardAddress b.state.boardPAD) (deviceAddress pad sad) t := by
    obtain ⟨s, rfl⟩ := ht
    exact receiveAll_serialPollCommands hboard hvalid s
  obtain ⟨fuel, hrun⟩ := hstep
  obtain ⟨op, u, r⟩ := e
  have hfound {handle : Int}
      (hlookup : (b.descriptors.descriptorFor handle).map (fun d => (d.pad, d.sad)) =
        some (pad, sad)) :
      ∃ d, b.descriptors.descriptorFor handle = some d ∧ d.pad = pad ∧ d.sad = sad := by
    obtain ⟨d, hd, heq⟩ := Option.map_eq_some_iff.mp hlookup
    cases heq
    exact ⟨d, hd, rfl, rfl⟩
  cases op with
  | write handle buf sendEoi =>
      obtain ⟨d, hd, rfl, rfl⟩ := hfound htarget
      simp only [GPIBBoard.perform, hd] at hrun
      exact aims_of_reporting (aims_write allowsQuiet_onTarget
        (allows_addressedCommands hvalid _) allows_writeCommands hwrite) hrun hserves
  | read handle requestCount =>
      obtain ⟨d, hd, rfl, rfl⟩ := hfound htarget
      simp only [GPIBBoard.perform, hd] at hrun
      exact aims_of_reporting (aims_read allowsQuiet_onTarget
        (allows_addressedCommands hvalid _) allows_readCommands hread) hrun hserves
  | deviceClear handle =>
      obtain ⟨d, hd, rfl, rfl⟩ := hfound htarget
      simp only [GPIBBoard.perform, hd] at hrun
      exact aims_of_reporting
        (aims_addressedCommand (allows_addressedCommands hvalid _)) hrun hserves
  | trigger handle =>
      obtain ⟨d, hd, rfl, rfl⟩ := hfound htarget
      simp only [GPIBBoard.perform, hd] at hrun
      exact aims_of_reporting
        (aims_addressedCommand (allows_addressedCommands hvalid _)) hrun hserves
  | goToLocal handle =>
      obtain ⟨d, hd, rfl, rfl⟩ := hfound htarget
      simp only [GPIBBoard.perform, hd] at hrun
      exact aims_of_reporting
        (aims_addressedCommand (allows_addressedCommands hvalid _)) hrun hserves
  | serialPoll handle =>
      obtain ⟨d, hd, rfl, rfl⟩ := hfound htarget
      simp only [GPIBBoard.perform, hd] at hrun
      exact aims_of_reporting
        (aims_serialPoll allows_serialPollCommands allows_teardownCommands hpoll) hrun hserves
  | listenerPresent pad' sad' =>
      cases htarget
      exact aims_of_reporting (aims_listenerPresent allowsQuiet_onTarget allows_listenCommands
        allows_serialPollCommands allows_teardownCommands hpoll) hrun hserves
  | _ => cases htarget

/-! ## A write to an instrument at 5 -/

/-- `ibdev` with primary address 5 and no secondary one. -/
def atFive : DescriptorOptions :=
  { isBoard := false, pad := 5, sad := -1, eot := true, eosChar := 0, eosFlags := 0,
    timeoutUs := 3000000 }

/-- A board that is online and has handle 1 open on the instrument. -/
def boardAtFive : GPIBBoard :=
  { (GPIBBoard.init.openDescriptor atFive).2 with
    state := { GPIBBoard.init.state with
      renRequested := true, online := true, ibsta := Ibsta.cmpl ||| Ibsta.cic ||| Ibsta.rem } }

theorem boardHistory_atFive : ∃ past, BoardHistory past boardAtFive := by
  have hopen : GPIBBoard.init.Performs ⟨.openDescriptor atFive, [], .opened 1 ⟨Ibsta.cmpl, 0⟩⟩
      (GPIBBoard.init.openDescriptor atFive).2 := ⟨0, .pure _⟩
  have honline : (GPIBBoard.init.openDescriptor atFive).2.Performs
      ⟨.setOnline true,
        [⟨.pulseInterfaceClear, GPIBTransportError.ok⟩,
          ⟨.takeControl false, GPIBTransportError.ok⟩,
          ⟨.setRemoteEnable true, GPIBTransportError.ok⟩],
        .online (Ibsta.cmpl ||| Ibsta.cic ||| Ibsta.rem)⟩ boardAtFive :=
    ⟨0, .ask (.ask (.ask (.pure _)))⟩
  exact ⟨_, .step (.step (.start rfl) hopen) honline⟩

/-- From a bus that is addressed to nobody, a write finds the instrument listening. -/
theorem operations_hit_target_atFive :
    ∃ s : Addressing, OnTarget (boardAddress 0) (deviceAddress 5 (-1)) s
      (.writeData [104, 105] true 3000000) := by
  obtain ⟨past, hpast⟩ := boardHistory_atFive
  let address : List UInt8 := [CmdByte.unl, CmdByte.unt, mtaByte 0, mlaByte 5]
  have hwrite : boardAtFive.Performs
      ⟨.write 1 [104, 105] true,
        [⟨.sendCommandBytes address, GPIBTransportError.ok⟩,
          ⟨.writeData [104, 105] true 3000000, (⟨.ok, 2⟩ : WriteResult)⟩],
        .counted ⟨⟨Ibsta.cmpl, 0⟩, 2⟩⟩
      { boardAtFive with state := { boardAtFive.state with ibsta := Ibsta.cmpl } } :=
    ⟨0, .ask (.ask (.pure _))⟩
  let log₁ : Log Addressing BoardRequest := [(.clear, .sendCommandBytes address)]
  have haddressed : Logging BusReacts (.clear, [])
      ⟨.sendCommandBytes address, GPIBTransportError.ok⟩ (.receiveAll .clear address, log₁) :=
    ⟨.sent, rfl⟩
  have hsent : Logging BusReacts (.receiveAll .clear address, log₁)
      ⟨.writeData [104, 105] true 3000000, (⟨.ok, 2⟩ : WriteResult)⟩
      (.receiveAll .clear address,
        (.receiveAll .clear address, .writeData [104, 105] true 3000000) :: log₁) :=
    ⟨.kept rfl, rfl⟩
  have htarget : (BoardOp.write 1 [104, 105] true).target? boardAtFive = some (5, -1) := by
    decide
  have hhit := operations_hit_target hpast hwrite htarget (by decide) (.inl rfl)
    (.cons haddressed (.cons hsent (.nil _)))
  exact ⟨_, hhit _ List.mem_cons_self⟩

end DarwinGpib
