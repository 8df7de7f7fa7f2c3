import DarwinGpib.Model.Board
import DarwinGpib.Transfer.BulkOut

/-!
# Command bytes

What `sendCommandBytes` handed to the adapter when it returns `ok`. The KUSB-488B sends every
byte; the other two send a first part of the sequence and drop the rest without a sign.
-/

namespace DarwinGpib

open Interaction

/-- From the transport object `t`, the command sequence `cmds` is complete: if the transport
returns `ok`, or the board reports all bytes as sent, then all of them were handed over. -/
def CommandsComplete {τ : Type} (T : IGPIBTransport (StateT τ Usb))
    (submitted : Usb.Trace → List UInt8) (t : τ) (cmds : List UInt8) : Prop :=
  (∀ u t', Run ((T.sendCommandBytes cmds).run t) u (.ok, t') → submitted u = cmds) ∧
    ∀ s u r s' t', Run ((BoardState.sendCommands T cmds s).run t) u ((r, s'), t') →
      r.ibcnt = cmds.length → submitted u = cmds

/-- The board counts what the transport says it sent. -/
theorem run_sendCommands {τ : Type} {T : IGPIBTransport (StateT τ Usb)} {cmds : List UInt8}
    {s s' : BoardState} {t t' : τ} {u : Usb.Trace} {r : CountStatus}
    (h : Run ((BoardState.sendCommands T cmds s).run t) u ((r, s'), t')) :
    (r.ibcnt = 0 ∧ u = []) ∨
      ∃ rc, Run ((T.sendCommandBytes cmds).run t) u (rc, t') ∧
        r.ibcnt = if rc = .ok then cmds.length else 0 := by
  unfold BoardState.sendCommands at h
  by_cases htransport : s.hasTransport
  · simp only [htransport, Bool.not_true, Bool.false_eq_true, if_false, StateT.run_bind] at h
    obtain ⟨v, ⟨rc, t''⟩, w, rfl, hv, hw⟩ := run_bind_iff.mp h
    right
    by_cases hrc : rc = .ok
    · simp only [hrc, ne_eq, not_true_eq_false, if_false] at hw
      obtain ⟨rfl, heq⟩ := run_pure_iff.mp hw
      cases heq
      exact ⟨rc, by simpa using hv, by simp [hrc]⟩
    · simp only [hrc, ne_eq, not_false_eq_true, if_true] at hw
      obtain ⟨rfl, heq⟩ := run_pure_iff.mp hw
      cases heq
      exact ⟨rc, by simpa using hv, by simp [hrc]⟩
  · simp only [htransport, Bool.not_false, if_true] at h
    obtain ⟨rfl, heq⟩ := run_pure_iff.mp h
    cases heq
    exact .inl ⟨rfl, rfl⟩

theorem run_sendCommands_of_ok {τ : Type} {T : IGPIBTransport (StateT τ Usb)}
    {cmds : List UInt8} {s : BoardState} {t t' : τ} {u : Usb.Trace}
    (htransport : s.hasTransport = true) (h : Run ((T.sendCommandBytes cmds).run t) u (.ok, t')) :
    Run ((BoardState.sendCommands T cmds s).run t) u
      ((⟨⟨Ibsta.cmpl, 0⟩, cmds.length⟩, { s with ibsta := Ibsta.cmpl }), t') := by
  unfold BoardState.sendCommands
  simp only [htransport, Bool.not_true, Bool.false_eq_true, if_false, StateT.run_bind]
  exact run_bind_iff.mpr ⟨u, _, [], by simp, h, .pure _⟩

/-- A transport that hands over everything makes the board tell the truth. -/
theorem commandsComplete_iff {τ : Type} {T : IGPIBTransport (StateT τ Usb)}
    {submitted : Usb.Trace → List UInt8} (hnil : submitted [] = [])
    (hempty : ∀ t u r, Run ((T.sendCommandBytes []).run t) u r → u = []) {t : τ}
    {cmds : List UInt8} :
    CommandsComplete T submitted t cmds ↔
      ∀ u t', Run ((T.sendCommandBytes cmds).run t) u (.ok, t') → submitted u = cmds := by
  constructor
  · intro h
    exact h.1
  · intro h
    refine ⟨h, ?_⟩
    intro s u r s' t' hrun hcount
    rcases run_sendCommands hrun with ⟨hzero, rfl⟩ | ⟨rc, hsend, hibcnt⟩
    · have hlen : cmds.length = 0 := by rw [← hcount, hzero]
      rw [hnil, List.length_eq_zero_iff.mp hlen]
    · by_cases hrc : rc = .ok
      · subst hrc
        exact h u t' hsend
      · rw [if_neg hrc] at hibcnt
        have hlen : cmds.length = 0 := by rw [← hcount, hibcnt]
        obtain rfl := List.length_eq_zero_iff.mp hlen
        rw [hempty _ _ _ hsend, hnil]

/-! ## NI -/

namespace NIUSBTransport

/-- The command bytes of a packet, as its header announces them. -/
def commandPayload : List UInt8 → List UInt8
  | op :: b₁ :: _ :: _ :: rest =>
      if op = kNiOpcCommand then rest.take (~~~ b₁ + 1).toNat else []
  | _ => []

/-- The command bytes of the packets handed to the adapter. -/
def submittedCommands (u : Usb.Trace) : List UInt8 :=
  u.flatMap fun e =>
    match e.request with
    | .pipeOut .bulkOut packet _ => commandPayload packet
    | _ => []

theorem lowByte_complement {n : Nat} (hpos : 0 < n) (hle : n ≤ 16) :
    (~~~ lowByte (complement n) + 1).toNat = n := by
  have hall : ∀ k : Fin 16, (~~~ lowByte (complement (k.val + 1)) + 1).toNat = k.val + 1 := by
    decide
  have hn := hall ⟨n - 1, by omega⟩
  rwa [Nat.sub_add_cancel hpos] at hn

theorem commandPayload_commandPacket {cmds : List UInt8} (hpos : 0 < cmds.length)
    (hle : cmds.length ≤ 16) : commandPayload (commandPacket cmds) = cmds := by
  have hlen := lowByte_complement hpos hle
  simp [commandPacket, appendTermination, padToBoundary, commandPayload, hlen]

theorem commandPacket_length {cmds : List UInt8} (hle : cmds.length ≤ 16) :
    (commandPacket cmds).length ≤ kBulkBufferSize := by
  have hmod := Nat.mod_lt (4 - (cmds.length + 4) % 4) (show 0 < 4 by decide)
  simp [commandPacket, appendTermination, padToBoundary, kBulkBufferSize]
  omega

/-- A successful command sequence handed over its first 16 bytes. -/
theorem run_sendCommandBytes_ok {t : NIUSBTransport} {cmds : List UInt8} {u : Usb.Trace}
    (h : Run (t.sendCommandBytes cmds) u .ok) :
    (cmds.length = 0 ∨ t = attached) ∧ submittedCommands u = cmds.take 16 := by
  unfold sendCommandBytes at h
  by_cases hempty : cmds.length = 0
  · rw [if_pos hempty] at h
    obtain ⟨rfl, -⟩ := run_pure_iff.mp h
    refine ⟨.inl hempty, ?_⟩
    rw [List.length_eq_zero_iff.mp hempty]
    rfl
  rw [if_neg hempty] at h
  obtain ⟨v, rc, w, rfl, hv, hw⟩ := run_bind_iff.mp h
  by_cases hrc : rc = .ok
  · subst hrc
    obtain ⟨hout, houtBuffer, -, accepted, rfl⟩ := run_bulkOut_ok_iff.mp hv
    rw [if_neg (by simp)] at hw
    obtain ⟨x, ⟨rc', resp⟩, y, rfl, hx, hy⟩ := run_bind_iff.mp hw
    by_cases hrc' : rc' = .ok
    · subst hrc'
      obtain ⟨hin, hinBuffer, hresp, rfl⟩ := run_bulkIn_ok_iff.mp hx
      have hquiet : y = [] := by
        simp only [ne_eq, not_true_eq_false, if_false, run_ite_iff, run_pure_iff,
          Usb.run_checked_bind_iff] at hy
        rcases hy with ⟨-, rfl, -⟩ | ⟨-, st, -, rfl, -⟩ <;> rfl
      subst hquiet
      have hpayload : commandPayload (commandPacket (cmds.take 16)) = cmds.take 16 := by
        apply commandPayload_commandPacket
        · rw [List.length_take]
          omega
        · exact List.length_take_le 16 cmds
      refine ⟨.inr (eq_attached hout hin houtBuffer hinBuffer), ?_⟩
      simp [submittedCommands, Usb.mapped, Usb.sent, Usb.received, hpayload]
    · simp only [ne_eq, hrc', not_false_eq_true, if_true, run_pure_iff] at hy
      exact absurd hy.2.symm hrc'
  · rw [if_pos hrc] at hw
    exact absurd (run_pure_iff.mp hw).2.symm hrc

/-- A status block that reports no error. -/
def acknowledgement : List UInt8 := [niusbIbrdStatusId, 0x01, 0x20, 0, 0, 0, 0, 0]

/-- The exchanges of a command sequence that the adapter acknowledges. -/
def acknowledgedTrace (cmds : List UInt8) : Usb.Trace :=
  [Usb.mapped,
    Usb.sent .bulkOut (commandPacket (cmds.take 16)) (usbTimeoutMs 3000000)
      (Fin.last _),
    Usb.received .bulkIn 32 (usbTimeoutMs 3000000) acknowledgement (by decide), Usb.mapped]

theorem run_sendCommandBytes_acknowledged {cmds : List UInt8} (hpos : 0 < cmds.length) :
    Run (attached.sendCommandBytes cmds) (acknowledgedTrace cmds) .ok := by
  have hpacket := commandPacket_length (List.length_take_le 16 cmds)
  unfold sendCommandBytes
  rw [if_neg (by omega)]
  apply Run.bind (u := [_, _]) (v := [_, _])
  · exact run_bulkOut_ok_iff.mpr ⟨rfl, rfl, hpacket, Fin.last _, rfl⟩
  rw [if_neg (by simp)]
  apply Run.bind (u := [_, _]) (v := [])
  · exact run_bulkIn_ok_iff.mpr ⟨rfl, rfl, by decide, rfl⟩
  simp only [ne_eq, not_true_eq_false, if_false]
  exact .pure _

/-- Sixteen command bytes go through, a seventeenth is dropped. -/
theorem commandsComplete (t : NIUSBTransport) (cmds : List UInt8) :
    CommandsComplete asTransport submittedCommands t cmds ↔
      (t = attached → cmds.length ≤ 16) := by
  rw [commandsComplete_iff rfl]
  · constructor
    · intro h ht
      subst ht
      by_contra hlong
      have hrun : Run (attached.sendCommandBytes cmds) (acknowledgedTrace cmds) .ok :=
        run_sendCommandBytes_acknowledged (by omega)
      have hall := h _ _ (Usb.run_keeping_iff.mpr ⟨hrun, rfl⟩)
      have hfirst := (run_sendCommandBytes_ok hrun).2
      have hlen := congrArg List.length (hfirst.symm.trans hall)
      rw [List.length_take] at hlen
      omega
    · intro h u t' hrun
      obtain ⟨hrun, -⟩ := Usb.run_keeping_iff.mp hrun
      obtain ⟨hshort | ht, hfirst⟩ := run_sendCommandBytes_ok hrun
      · rw [hfirst, List.length_eq_zero_iff.mp hshort]
        rfl
      · rw [hfirst, List.take_of_length_le (h ht)]
  · intro t u r hrun
    obtain ⟨hrun, -⟩ := Usb.run_keeping_iff.mp hrun
    exact (run_pure_iff.mp hrun).1

end NIUSBTransport

/-! ## Agilent -/

namespace Agilent82357Transport

/-- The command bytes of a packet, as its header announces them. -/
def commandPayload : List UInt8 → List UInt8
  | op :: _ :: _ :: flags :: l₀ :: l₁ :: l₂ :: l₃ :: rest =>
      if op = cmdWrite ∧ flags &&& awfAtn ≠ 0 then rest.take (fromLe32 l₀ l₁ l₂ l₃) else []
  | _ => []

/-- The command bytes of the packets handed to the adapter. -/
def submittedCommands (u : Usb.Trace) : List UInt8 :=
  u.flatMap fun e =>
    match e.request with
    | .pipeOut .bulkOut packet _ => commandPayload packet
    | _ => []

theorem commandPayload_commandPacket {cmds : List UInt8} (h : cmds.length < 2 ^ 32) :
    commandPayload (commandPacket cmds) = cmds := by
  have hflags : (awfNoAddress ||| awfAtn ||| awfNoFastTalkerFirstByte ||| awfNoFastTalker) &&&
      awfAtn ≠ 0 := by decide
  simp [commandPacket, le32, commandPayload, fromLe32_le32 h, hflags]

theorem commandPacket_length (cmds : List UInt8) :
    (commandPacket (cmds.take kMaxPayload)).length ≤ kBulkBufferSize := by
  have hle : (cmds.take kMaxPayload).length ≤ kBulkBufferSize - 16 := List.length_take_le _ _
  have hsize : 16 ≤ kBulkBufferSize := by decide
  simp only [commandPacket, le32, List.length_append, List.length_cons, List.length_nil]
  omega

/-- The bulk pipe and buffer that a command sequence needs. -/
def CanSend (t : Agilent82357Transport) : Prop := t.bulkOutPipe = true ∧ t.outBuffer = true

/-- A successful command sequence handed over its first `kMaxPayload` bytes. -/
theorem run_sendCommandBytes_ok {t : Agilent82357Transport} {cmds : List UInt8}
    {u : Usb.Trace} (h : Run (t.sendCommandBytes cmds) u .ok) :
    (cmds.length = 0 ∨ t.CanSend) ∧ submittedCommands u = cmds.take kMaxPayload := by
  unfold sendCommandBytes at h
  by_cases hempty : cmds.length = 0
  · rw [if_pos hempty] at h
    obtain ⟨rfl, -⟩ := run_pure_iff.mp h
    refine ⟨.inl hempty, ?_⟩
    simp [List.length_eq_zero_iff.mp hempty, submittedCommands]
  rw [if_neg hempty] at h
  obtain ⟨v, rc, w, rfl, hv, hw⟩ := run_bind_iff.mp h
  by_cases hrc : rc = .ok
  · subst hrc
    obtain ⟨hout, houtBuffer, -, rfl⟩ := run_bulkOut_ok_iff.mp hv
    have hquiet : submittedCommands w = [] := by
      simp only [ne_eq, not_true_eq_false, if_false, run_ite_iff, run_pure_iff,
        run_call_bind_iff] at hw
      rcases hw with ⟨-, rfl, -⟩ | ⟨-, ret, x, rfl, ⟨-, rfl, -⟩ | ⟨-, io, y, rfl, rfl, -⟩⟩
      all_goals rfl
    have hpayload : commandPayload (commandPacket (cmds.take kMaxPayload)) =
        cmds.take kMaxPayload := by
      apply commandPayload_commandPacket
      have hle := List.length_take_le kMaxPayload cmds
      have hmax : kMaxPayload < 2 ^ 32 := by decide
      omega
    refine ⟨.inr ⟨hout, houtBuffer⟩, ?_⟩
    rw [submittedCommands, List.flatMap_append, ← submittedCommands, ← submittedCommands, hquiet,
      List.append_nil]
    simp [submittedCommands, Usb.mapped, Usb.sent, hpayload]
  · simp only [ne_eq, hrc, not_false_eq_true, if_true] at hw
    obtain ⟨x, _, y, -, -, hy⟩ := run_bind_iff.mp hw
    exact absurd (run_pure_iff.mp hy).2.symm hrc

/-- A sent command sequence succeeds when no status buffer can be created for it. -/
theorem exists_run_sendCommandBytes {t : Agilent82357Transport} (ht : t.CanSend)
    {cmds : List UInt8} (hpos : 0 < cmds.length) :
    ∃ u, Run (t.sendCommandBytes cmds) u .ok := by
  have hsend : Run (t.bulkOut (commandPacket (cmds.take kMaxPayload)) (kRegOpTimeoutMs * 1000))
      _ .ok := run_bulkOut_ok_iff.mpr ⟨ht.1, ht.2, commandPacket_length cmds, rfl⟩
  unfold sendCommandBytes
  rw [if_neg (by omega)]
  by_cases hdevice : (!t.device || !t.owner) = true
  · refine ⟨_, hsend.bind (v := []) ?_⟩
    simp only [ne_eq, not_true_eq_false, if_false, hdevice, if_true]
    exact .pure _
  · refine ⟨_, hsend.bind (v := [⟨.create statusDataLen, .other⟩]) ?_⟩
    simp only [ne_eq, not_true_eq_false, if_false, hdevice]
    exact .ask (.pure _)

/-- A command sequence is cut where the transfer buffer ends. -/
theorem commandsComplete (t : Agilent82357Transport) (cmds : List UInt8) :
    CommandsComplete asTransport submittedCommands t cmds ↔
      (t.CanSend → cmds.length ≤ kMaxPayload) := by
  rw [commandsComplete_iff rfl]
  · constructor
    · intro h ht
      by_contra hlong
      have hpos : 0 < cmds.length := by omega
      obtain ⟨u, hrun⟩ := exists_run_sendCommandBytes ht hpos
      have hall := h _ _ (Usb.run_keeping_iff.mpr ⟨hrun, rfl⟩)
      have hfirst := (run_sendCommandBytes_ok hrun).2
      have hlen := congrArg List.length (hfirst.symm.trans hall)
      rw [List.length_take] at hlen
      omega
    · intro h u t' hrun
      obtain ⟨hrun, -⟩ := Usb.run_keeping_iff.mp hrun
      obtain ⟨hshort | ht, hfirst⟩ := run_sendCommandBytes_ok hrun
      · rw [hfirst, List.length_eq_zero_iff.mp hshort]
        rfl
      · rw [hfirst, List.take_of_length_le (h ht)]
  · intro t u r hrun
    obtain ⟨hrun, -⟩ := Usb.run_keeping_iff.mp hrun
    exact (run_pure_iff.mp hrun).1

end Agilent82357Transport

/-! ## KUSB-488B -/

namespace KUSB488BTransport

/-- A bulk-out that succeeds has handed over all of its bytes. -/
theorem leaves_bulkOut (t : KUSB488BTransport) (pipe : Pipe) (hasPipe : Bool)
    (bytes : List UInt8) (timeoutUs : Nat) :
    Leaves (t.bulkOut pipe hasPipe bytes timeoutUs)
      fun u rc => rc = .ok → Usb.accepted pipe u = bytes :=
  (t.leaves_bulkOut_allOrError (Usb.counts_acceptedBy pipe) hasPipe bytes timeoutUs).mono
    fun _ _ h => h.whole

/-- A chunk and what is left behind it. -/
theorem take_append_drop_length (n : Nat) (l : List UInt8) :
    l.take n ++ l.drop (l.take n).length = l := by
  rcases Nat.le_total n l.length with h | h
  · rw [List.length_take_of_le h, List.take_append_drop]
  · rw [List.take_of_length_le h, List.drop_length, List.append_nil]

/-- The loop over the transfers of a command sequence that succeeds has handed over all of
it. -/
theorem leaves_sendCommandsLoop (t : KUSB488BTransport) (fuel : Nat) (rest : List UInt8) :
    Leaves (t.sendCommandsLoop fuel rest)
      fun u rc => rc = .ok → Usb.accepted .cmdOut u = rest := by
  induction fuel generalizing rest with
  | zero => exact fun u rc h => absurd h Usb.not_run_outOfFuel
  | succ fuel ih =>
      unfold sendCommandsLoop beginTransfer
      apply leaves_ite
      · intro hempty
        exact leaves_pure fun _ => (List.length_eq_zero_iff.mp hempty).symm
      intro _
      refine leaves_bind
        (Usb.leaves_quiet (t.ensures_controlOut (fun _ h => h.streams.carries) (fun h => h))
          .cmdOut) ?_
      rintro u₁ rc ⟨hu₁, -⟩
      apply leaves_ite
      · intro hrc
        exact leaves_pure fun h => absurd h hrc
      intro _
      refine leaves_bind (t.leaves_bulkOut .cmdOut _ (rest.take maxCmdBytes) 3000000) ?_
      intro u₂ rc hu₂
      apply leaves_ite
      · intro hrc
        refine leaves_bind (R := fun _ _ => True) (fun _ _ _ => trivial) ?_
        intro _ _ _
        exact leaves_pure fun h => absurd h hrc
      intro hrc
      refine leaves_bind
        (Usb.leaves_quiet
          (t.ensures_pollStatus (fun _ h => h.streams) _ _ (by decide))
          .cmdOut) ?_
      rintro u₃ ⟨rc', count⟩ ⟨hu₃, -⟩
      apply leaves_ite
      · intro hrc'
        exact leaves_pure fun h => absurd h hrc'
      intro _
      apply leaves_ite
      · intro _
        exact leaves_pure (by simp)
      intro _
      refine (ih _).mono ?_
      intro v rc'' hv hrc''
      rw [Usb.accepted_append, Usb.accepted_append, Usb.accepted_append, hu₁,
        hu₂ (not_not.mp hrc), hu₃, hv hrc'', List.nil_append, List.nil_append,
        take_append_drop_length]

/-- Every command byte is handed over. -/
theorem commandsComplete (fuel : Nat) (t : KUSB488BTransport) (cmds : List UInt8) :
    CommandsComplete (asTransport fuel) (Usb.accepted .cmdOut) t cmds := by
  rw [commandsComplete_iff rfl]
  · intro u t' hrun
    change Run (t.sendCommandBytes cmds) u (.ok, t') at hrun
    unfold sendCommandBytes at hrun
    by_cases hempty : cmds.length = 0
    · rw [if_pos hempty] at hrun
      obtain ⟨rfl, -⟩ := run_pure_iff.mp hrun
      rw [List.length_eq_zero_iff.mp hempty, Usb.accepted_nil]
    · rw [if_neg hempty] at hrun
      obtain ⟨v, t'', w, rfl, hv, hw⟩ := run_bind_iff.mp hrun
      obtain ⟨x, rc, y, rfl, hx, hy⟩ := run_bind_iff.mp hw
      obtain ⟨rfl, hret⟩ := run_pure_iff.mp hy
      cases hret
      have hquiet := Usb.leaves_quiet
        (t.ensures_releaseRfdHoldoffIfPending fun _ h => h.streams.carries) .cmdOut
      rw [Usb.accepted_append, Usb.accepted_append, (hquiet v _ hv).1,
        leaves_sendCommandsLoop t' _ cmds x _ hx rfl, Usb.accepted_nil, List.nil_append,
        List.append_nil]
  · intro t u r hrun
    exact (run_pure_iff.mp hrun).1

end KUSB488BTransport

/-! ## All three -/

/-- On the KUSB-488B no command byte is dropped. On NI and Agilent none is dropped exactly when
the sequence fits one packet, or the transport cannot send it at all. -/
theorem commands_complete_iff (cmds : List UInt8) :
    (∀ t : NIUSBTransport,
      CommandsComplete NIUSBTransport.asTransport NIUSBTransport.submittedCommands t cmds ↔
        (t = .attached → cmds.length ≤ 16)) ∧
    (∀ t : Agilent82357Transport,
      CommandsComplete Agilent82357Transport.asTransport
          Agilent82357Transport.submittedCommands t cmds ↔
        (t.CanSend → cmds.length ≤ Agilent82357Transport.kMaxPayload)) ∧
    ∀ fuel (t : KUSB488BTransport),
      CommandsComplete (KUSB488BTransport.asTransport fuel) (Usb.accepted .cmdOut) t cmds :=
  ⟨fun t => NIUSBTransport.commandsComplete t cmds,
    fun t => Agilent82357Transport.commandsComplete t cmds,
    fun fuel t => KUSB488BTransport.commandsComplete fuel t cmds⟩

/-- Of seventeen command bytes the NI transport submits sixteen, and the board reports
seventeen. -/
theorem seventeenth_command_dropped :
    ¬ CommandsComplete NIUSBTransport.asTransport NIUSBTransport.submittedCommands .attached
        (List.replicate 17 CmdByte.unl) ∧
      ∃ u t' r s', Run ((BoardState.sendCommands NIUSBTransport.asTransport
          (List.replicate 17 CmdByte.unl) GPIBBoard.init.state).run .attached) u ((r, s'), t') ∧
        r.ibsta = Ibsta.cmpl ∧ r.ibcnt = 17 ∧
        NIUSBTransport.submittedCommands u = List.replicate 16 CmdByte.unl := by
  have hrun : Run (NIUSBTransport.attached.sendCommandBytes (List.replicate 17 CmdByte.unl))
      _ .ok := NIUSBTransport.run_sendCommandBytes_acknowledged (by decide)
  have hsend : Run ((NIUSBTransport.asTransport.sendCommandBytes
      (List.replicate 17 CmdByte.unl)).run .attached) _ (.ok, .attached) :=
    Usb.run_keeping_iff.mpr ⟨hrun, rfl⟩
  have hfirst : _ = List.replicate 16 CmdByte.unl :=
    (NIUSBTransport.run_sendCommandBytes_ok hrun).2
  refine ⟨?_, _, _, _, _, run_sendCommands_of_ok rfl hsend, rfl, rfl, hfirst⟩
  intro h
  have hall := h.1 _ _ hsend
  rw [hfirst] at hall
  exact absurd hall (by decide)

end DarwinGpib
