import DarwinGpib.Board.Addressing
import DarwinGpib.Board.Courses
import DarwinGpib.Library.Order

/-!
# The data phase of a transfer

A `write` or a `read` has at most one data phase, right after the bus was addressed for it, and
resets the core at most once on the way there.
-/

namespace DarwinGpib

open Interaction

def BoardOp.transfers : BoardOp → Bool
  | write _ _ _ | read _ _ => true
  | _ => false

/-- A call of `writeData` or `readData`. -/
def MovesData (e : Exchange BoardRequest.Reply) : Prop :=
  match e.request with
  | .writeData _ _ _ | .readData _ _ _ _ => True
  | _ => False

instance (e : Exchange BoardRequest.Reply) : Decidable (MovesData e) := by
  unfold MovesData
  split <;> infer_instance

/-- A soft reset that succeeded. -/
def CoreReset (e : Exchange BoardRequest.Reply) : Prop :=
  e.request = .softReset ∧ callRc e = .ok

/-- The bus is addressed by these commands. -/
def AddressesBus (cmds : List UInt8) (e : Exchange BoardRequest.Reply) : Prop :=
  e.request = .sendCommandBytes cmds ∧ callRc e = .ok

/-- After a core reset the board is in charge of the bus again, and remote enable is as before. -/
structure Restored (renRequested : Bool) (w : BoardTrace) : Prop where
  cleared : .pulseInterfaceClear ∈ w.map (·.request)
  controlled : .takeControl false ∈ w.map (·.request)
  enabled : .setRemoteEnable true ∈ w.map (·.request) ↔ renRequested = true

/-! ## Recoveries -/

section Recovery

variable {ren : Bool} {u v w : BoardTrace} {e : Exchange BoardRequest.Reply}

theorem Restored.append (h : Restored ren v)
    (hw : ∀ x ∈ w, x.request ≠ .setRemoteEnable true) : Restored ren (v ++ w) where
  cleared := by
    rw [List.map_append]
    exact List.mem_append_left _ h.cleared
  controlled := by
    rw [List.map_append]
    exact List.mem_append_left _ h.controlled
  enabled := by
    rw [List.map_append, List.mem_append, h.enabled]
    constructor
    · rintro (hren | hmem)
      · exact hren
      · obtain ⟨x, hx, heq⟩ := List.mem_map.mp hmem
        exact absurd heq (hw x hx)
    · exact .inl

/-- A call that sends commands. -/
def SendsCommands (e : Exchange BoardRequest.Reply) : Prop :=
  ∃ cmds, e.request = .sendCommandBytes cmds

/-- Commands, and among them at most one soft reset with what it makes necessary. -/
inductive ResetOnce (ren : Bool) : BoardTrace → Prop where
  | unneeded {u : BoardTrace} (hu : ∀ x ∈ u, SendsCommands x) : ResetOnce ren u
  | reset {u : BoardTrace} {e} {v : BoardTrace} (hu : ∀ x ∈ u, SendsCommands x)
      (he : e.request = .softReset)
      (hv : ∀ x ∈ v, x.request ≠ .softReset ∧ ¬ MovesData x)
      (hrestored : callRc e = .ok → Restored ren v) : ResetOnce ren (u ++ e :: v)

theorem SendsCommands.not_movesData (h : SendsCommands e) : ¬ MovesData e := by
  obtain ⟨cmds, h⟩ := h
  rw [MovesData, h]
  exact id

theorem SendsCommands.not_softReset (h : SendsCommands e) : e.request ≠ .softReset := by
  obtain ⟨cmds, h⟩ := h
  rw [h]
  exact nofun

theorem SendsCommands.not_setRemoteEnable (h : SendsCommands e) {enable : Bool} :
    e.request ≠ .setRemoteEnable enable := by
  obtain ⟨cmds, h⟩ := h
  rw [h]
  exact nofun

theorem ResetOnce.cons (h : ResetOnce ren u) (he : SendsCommands e) : ResetOnce ren (e :: u) := by
  cases h with
  | unneeded hu => exact .unneeded (List.forall_mem_cons.mpr ⟨he, hu⟩)
  | reset hu hreset hv hrestored =>
      exact .reset (List.forall_mem_cons.mpr ⟨he, hu⟩) hreset hv hrestored

theorem ResetOnce.append_singleton (h : ResetOnce ren u) (he : SendsCommands e) :
    ResetOnce ren (u ++ [e]) := by
  have hone : ∀ x ∈ [e], SendsCommands x := by simpa using he
  cases h with
  | unneeded hu => exact .unneeded (List.forall_mem_append.mpr ⟨hu, hone⟩)
  | @reset u x v hu hreset hv hrestored =>
      rw [List.append_assoc, List.cons_append]
      refine .reset hu hreset ?_ fun hrc => (hrestored hrc).append ?_
      · refine List.forall_mem_append.mpr ⟨hv, ?_⟩
        intro y hy
        exact ⟨(hone y hy).not_softReset, (hone y hy).not_movesData⟩
      · intro y hy
        exact (hone y hy).not_setRemoteEnable

theorem ResetOnce.not_movesData (h : ResetOnce ren u) : ∀ x ∈ u, ¬ MovesData x := by
  cases h with
  | unneeded hu => exact fun x hx => (hu x hx).not_movesData
  | @reset u e v hu he hv =>
      refine List.forall_mem_append.mpr ⟨fun x hx => (hu x hx).not_movesData, ?_⟩
      refine List.forall_mem_cons.mpr ⟨?_, fun x hx => (hv x hx).2⟩
      rw [MovesData, he]
      exact id

theorem ResetOnce.countP_softReset (h : ResetOnce ren u) :
    u.countP (·.request = .softReset) ≤ 1 := by
  cases h with
  | unneeded hu =>
      rw [List.countP_eq_zero.mpr fun x hx => by simpa using (hu x hx).not_softReset]
      exact Nat.zero_le 1
  | @reset u e v hu he hv =>
      rw [List.countP_append, List.countP_cons,
        List.countP_eq_zero.mpr fun x hx => by simpa using (hu x hx).not_softReset,
        List.countP_eq_zero.mpr fun x hx => by simpa using (hv x hx).1]
      split
      · exact Nat.le_refl 1
      · exact Nat.zero_le 1

/-- A reset that succeeded is made good, whatever `w` follows. -/
theorem ResetOnce.after (h : ResetOnce ren u)
    (hw : ∀ x ∈ w, ¬ CoreReset x ∧ x.request ≠ .setRemoteEnable true) :
    After CoreReset (Restored ren) (u ++ w) := by
  cases h with
  | unneeded hu =>
      refine after_append_of_forall_not (fun x hx hreset => ?_)
        (after_of_forall_not fun x hx => (hw x hx).1)
      exact (hu x hx).not_softReset hreset.1
  | @reset u e v hu he hv hrestored =>
      rw [List.append_assoc, List.cons_append]
      refine after_append_of_forall_not (fun x hx hreset => (hu x hx).not_softReset hreset.1) ?_
      refine after_cons_iff.mpr ⟨fun hreset => ?_, ?_⟩
      · exact (hrestored hreset.2).append fun x hx => (hw x hx).2
      · refine after_append_of_forall_not (fun x hx hreset => (hv x hx).1 hreset.1) ?_
        exact after_of_forall_not fun x hx => (hw x hx).1

section Courses

variable {desc : Option GPIBDescriptor} {d : GPIBDescriptor} {s : BoardState}
  {cmds : List UInt8} {failure : Option Status} {recovered : Bool}

theorem sendsCommands_of_mem_clearCalls {rc : GPIBTransportError} {x}
    (hx : x ∈ BoardState.clearCalls desc rc) : SendsCommands x := by
  cases desc with
  | none => cases hx
  | some d =>
      obtain rfl := List.mem_singleton.mp hx
      exact ⟨_, rfl⟩

theorem request_of_mem_renCalls {rc : GPIBTransportError} {x}
    (hx : x ∈ BoardState.renCalls ren rc) : x.request = .setRemoteEnable true ∧ ren = true := by
  cases ren with
  | false => cases hx
  | true =>
      obtain rfl := List.mem_singleton.mp hx
      exact ⟨rfl, rfl⟩

theorem restored_of_recovery {ifcRc tcRc renRc sdcRc : GPIBTransportError} :
    Restored ren (⟨.pulseInterfaceClear, ifcRc⟩ :: ⟨.takeControl false, tcRc⟩ ::
      (BoardState.renCalls ren renRc ++ BoardState.clearCalls desc sdcRc)) where
  cleared := by simp
  controlled := by simp
  enabled := by
    rw [List.mem_map]
    constructor
    · rintro ⟨x, hx, hreq⟩
      rcases List.mem_cons.mp hx with rfl | hx
      · cases hreq
      rcases List.mem_cons.mp hx with rfl | hx
      · cases hreq
      rcases List.mem_append.mp hx with hx | hx
      · exact (request_of_mem_renCalls hx).2
      · exact absurd hreq (sendsCommands_of_mem_clearCalls hx).not_setRemoteEnable
    · rintro rfl
      exact ⟨⟨.setRemoteEnable true, renRc⟩, by simp [BoardState.renCalls], rfl⟩

theorem resetOnce_of_recovery (h : BoardState.RecoveryCourse desc s u recovered) :
    ResetOnce s.renRequested u := by
  cases h with
  | declined => exact .unneeded (by simp)
  | failed hrc => exact .reset (u := []) (by simp) rfl (by simp) fun h => absurd h hrc
  | restored ifcRc tcRc renRc sdcRc =>
      refine .reset (u := []) (by simp) rfl ?_ fun _ => restored_of_recovery
      intro x hx
      rcases List.mem_cons.mp hx with rfl | hx
      · exact ⟨nofun, id⟩
      rcases List.mem_cons.mp hx with rfl | hx
      · exact ⟨nofun, id⟩
      rcases List.mem_append.mp hx with hx | hx
      · rw [MovesData, (request_of_mem_renCalls hx).1]
        exact ⟨nofun, id⟩
      · have hsends := sendsCommands_of_mem_clearCalls hx
        exact ⟨hsends.not_softReset, hsends.not_movesData⟩

theorem resetOnce_of_addressing (h : BoardState.AddressingCourse cmds d s u failure) :
    ResetOnce s.renRequested u := by
  cases h with
  | direct => exact .unneeded (by simpa using ⟨cmds, rfl⟩)
  | abandoned hrc hrecovery => exact (resetOnce_of_recovery hrecovery).cons ⟨cmds, rfl⟩
  | retried hrc hrecovery =>
      exact ((resetOnce_of_recovery hrecovery).append_singleton ⟨cmds, rfl⟩).cons ⟨cmds, rfl⟩
  | lost hrc hrecovery hrc' =>
      exact ((resetOnce_of_recovery hrecovery).append_singleton ⟨cmds, rfl⟩).cons ⟨cmds, rfl⟩

/-- An addressing that succeeds ends with the commands that did it. -/
theorem addressing_ends (h : BoardState.AddressingCourse cmds d s u none) :
    ∃ v x, u = v ++ [x] ∧ AddressesBus cmds x := by
  cases h with
  | direct => exact ⟨[], _, rfl, rfl, rfl⟩
  | retried hrc hrecovery => exact ⟨_ :: _, _, rfl, rfl, rfl⟩

end Courses

end Recovery

/-! ## Transfers -/

section Transfers

variable {b b' : GPIBBoard} {e : GPIBBoard.Event}

/-- What the calls of a transfer look like: none, an addressing, or an addressing and one data
phase. -/
theorem transfer_calls (hop : e.op.transfers = true) (h : b.Performs e b') :
    ResetOnce b.state.renRequested e.calls ∨
      ∃ t u v x y, b.transfer? e.op = some t ∧ ResetOnce b.state.renRequested u ∧
        u = v ++ [x] ∧ AddressesBus t.commands x ∧ y.request = t.data ∧ e.calls = u ++ [y] := by
  obtain ⟨op, calls, r⟩ := e
  have hbus : op.worksOnBus = true := by
    cases op with
    | write | read => rfl
    | _ => cases hop
  obtain ⟨st, -, hcourse⟩ := GPIBBoard.busCourse_of_performs hbus h
  cases hcourse with
  | unready => exact .inl (.unneeded (by simp))
  | unaddressed ht haddressing => exact .inl (resetOnce_of_addressing haddressing)
  | @transferred _ t u y ht haddressing hy =>
      obtain ⟨v, x, hu, hx⟩ := addressing_ends haddressing
      exact .inr ⟨t, u, v, x, y, ht, resetOnce_of_addressing haddressing, hu, hx, hy, rfl⟩
  | commanded ht =>
      cases op with
      | write | read => cases ht
      | _ => cases hop
  | unpolled => cases hop
  | polled => cases hop
  | cleared => cases hop
  | enabled => cases hop

/-- The data phase of a transfer moves data and leaves the bus as it is. -/
theorem request_data {t : GPIBBoard.Transfer} {op : BoardOp} (ht : b.transfer? op = some t)
    {y : Exchange BoardRequest.Reply} (hy : y.request = t.data) :
    MovesData y ∧ y.request ≠ .softReset ∧ y.request ≠ .setRemoteEnable true := by
  cases op with
  | write handle buf sendEoi =>
      obtain ⟨d, -, rfl⟩ := Option.map_eq_some_iff.mp ht
      rw [MovesData, hy]
      exact ⟨trivial, nofun, nofun⟩
  | read handle requestCount =>
      obtain ⟨d, -, rfl⟩ := Option.map_eq_some_iff.mp ht
      rw [MovesData, hy]
      exact ⟨trivial, nofun, nofun⟩
  | _ => cases ht

/-- A transfer moves data at most once, and then right after the bus was addressed as its
descriptor wants it; it resets the core at most once, makes a reset good, and leaves the table and
the recovery flag as they were. -/
theorem transfer_phases (hop : e.op.transfers = true)
    (hidle : b.state.recoveryInProgress = false) (h : b.Performs e b') :
    e.calls.countP (MovesData ·) ≤ 1 ∧
      (∀ x ∈ e.calls, MovesData x → ∃ t, b.transfer? e.op = some t ∧ x.request = t.data) ∧
      PrecededBy MovesData
        (fun x => ∃ t, b.transfer? e.op = some t ∧ AddressesBus t.commands x) e.calls ∧
      e.calls.countP (·.request = .softReset) ≤ 1 ∧
      After CoreReset (Restored b.state.renRequested) e.calls ∧
      b'.state.recoveryInProgress = false ∧ b'.descriptors = b.descriptors := by
  have hflag : b'.state.recoveryInProgress = false := by
    rw [(GPIBBoard.stored_of_performs h).recoveryInProgress, hidle]
  have htable : b'.descriptors = b.descriptors := by
    refine (GPIBBoard.affects_of_performs h).descriptors_eq ⟨?_, fun handle key value heq => ?_⟩
    · cases hop' : e.op with
      | write | read => rfl
      | _ => simp [hop', BoardOp.transfers] at hop
    · simp [heq, BoardOp.transfers] at hop
  rcases transfer_calls hop h with honce | ⟨t, u, v, x, y, ht, honce, hu, hx, hy, hcalls⟩
  · have hnone := honce.not_movesData
    refine ⟨?_, fun x hx hdata => absurd hdata (hnone x hx), precededBy_of_forall_not hnone,
      honce.countP_softReset, ?_, hflag, htable⟩
    · rw [List.countP_eq_zero.mpr (by simpa using hnone)]
      exact Nat.zero_le 1
    · simpa using honce.after (w := []) (by simp)
  · have hnone := honce.not_movesData
    obtain ⟨hdata, hreset, hren⟩ := request_data ht hy
    rw [hcalls]
    refine ⟨?_, ?_, ?_, ?_, ?_, hflag, htable⟩
    · rw [List.countP_append, List.countP_eq_zero.mpr (by simpa using hnone), Nat.zero_add]
      exact List.countP_le_length
    · intro z hz hmoves
      rcases List.mem_append.mp hz with hz | hz
      · exact absurd hmoves (hnone z hz)
      · obtain rfl := List.mem_singleton.mp hz
        exact ⟨t, ht, hy⟩
    · rw [hu]
      exact precededBy_append_singleton (hu ▸ hnone) ⟨t, ht, hx⟩
    · simpa [List.countP_append, hreset] using honce.countP_softReset
    · refine honce.after fun z hz => ?_
      obtain rfl := List.mem_singleton.mp hz
      exact ⟨fun h => hreset h.1, hren⟩

end Transfers

/-- A write to the instrument at 5, which does not handshake its address at first. -/
def recoveredWrite : GPIBBoard.Event where
  op := .write 1 [104, 105] true
  calls :=
    [⟨.sendCommandBytes (BoardState.writeCommands 0 5 (-1)), GPIBTransportError.errNoListener⟩,
      ⟨.softReset, GPIBTransportError.ok⟩, ⟨.pulseInterfaceClear, GPIBTransportError.ok⟩,
      ⟨.takeControl false, GPIBTransportError.ok⟩,
      ⟨.setRemoteEnable true, GPIBTransportError.ok⟩,
      ⟨.sendCommandBytes (BoardState.addressedCommands 5 (-1) CmdByte.sdc),
        GPIBTransportError.ok⟩,
      ⟨.sendCommandBytes (BoardState.writeCommands 0 5 (-1)), GPIBTransportError.ok⟩,
      ⟨.writeData [104, 105] true 3000000, (⟨.ok, 2⟩ : WriteResult)⟩]
  result := .counted ⟨⟨Ibsta.cmpl, 0⟩, 2⟩

theorem performs_recoveredWrite :
    boardAtFive.Performs recoveredWrite
      { boardAtFive with state := { boardAtFive.state with ibsta := Ibsta.cmpl } } :=
  ⟨0, .ask (.ask (.ask (.ask (.ask (.ask (.ask (.ask (.pure _))))))))⟩

/-- It is addressed again after the recovery, and then gets its data once. -/
theorem transfer_phases_atFive :
    recoveredWrite.calls.countP (MovesData ·) ≤ 1 ∧
      recoveredWrite.calls.countP (·.request = .softReset) ≤ 1 ∧
      After CoreReset (Restored true) recoveredWrite.calls := by
  obtain ⟨hdata, -, -, hreset, hrestored, -, -⟩ :=
    transfer_phases rfl rfl performs_recoveredWrite
  exact ⟨hdata, hreset, hrestored⟩

end DarwinGpib
