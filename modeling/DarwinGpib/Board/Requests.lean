import DarwinGpib.Library.Ieee488
import DarwinGpib.Library.Served
import DarwinGpib.Model.BoardOperation

/-!
# The requests of the bus operations

Every bus operation of a board is run against the addressing state of the bus. `phase` is what
is wanted of each request in the state that it meets; each operation is given with the command
sequences and data transfers that `phase` has to allow for it.
-/

namespace DarwinGpib

open Interaction Ieee488

/-! ## The bus behind a transport -/

/-- Requests that leave the bus addressed as it is. -/
def BoardRequest.keepsAddressing : BoardRequest → Bool
  | writeData _ _ _ | readData _ _ _ _ | readBusLines | releaseAtn | readRawRegister _
  | setMaxDataChunk _ | uptime => true
  | _ => false

/-- What a request makes of the addressing. Of commands that could not be sent, and of resets
and interface messages, nothing is assumed. -/
inductive BusReacts : Addressing → Exchange BoardRequest.Reply → Addressing → Prop where
  | sent {s cmds} :
      BusReacts s ⟨.sendCommandBytes cmds, GPIBTransportError.ok⟩ (s.receiveAll cmds)
  | unsent {s cmds t} {rc : GPIBTransportError} (h : rc ≠ .ok) :
      BusReacts s ⟨.sendCommandBytes cmds, rc⟩ t
  | kept {s req r} (h : BoardRequest.keepsAddressing req = true) : BusReacts s ⟨req, r⟩ s
  | disturbed {s req r t} (hsend : ∀ cmds, req ≠ BoardRequest.sendCommandBytes cmds)
      (h : BoardRequest.keepsAddressing req = false) : BusReacts s ⟨req, r⟩ t

/-- Requests that are neither commands nor data. -/
def BoardRequest.quiet : BoardRequest → Bool
  | sendCommandBytes _ | writeData _ _ _ | readData _ _ _ _ => false
  | _ => true

/-! ## Command sequences -/

namespace BoardState

def writeCommands (boardPAD pad : UInt8) (sad : Int8) : List UInt8 :=
  [CmdByte.unl, CmdByte.unt, mtaByte boardPAD, mlaByte pad] ++ msaBytes sad

def readCommands (boardPAD pad : UInt8) (sad : Int8) : List UInt8 :=
  [CmdByte.unl, CmdByte.unt, mlaByte boardPAD, mtaByte pad] ++ msaBytes sad

def listenCommands (pad : UInt8) (sad : Int8) : List UInt8 :=
  [CmdByte.unl, CmdByte.unt, mlaByte pad] ++ msaBytes sad

def addressedCommands (pad : UInt8) (sad : Int8) (command : UInt8) : List UInt8 :=
  [CmdByte.unl, mlaByte pad] ++ msaBytes sad ++ [command]

def teardownCommands : List UInt8 := [CmdByte.spd, CmdByte.unt]

end BoardState

/-! ## Rules -/

/-- The commands may be sent in any state of the bus. -/
def Allows (phase : Addressing → BoardRequest → Prop) (cmds : List UInt8) : Prop :=
  ∀ s, phase s (.sendCommandBytes cmds)

/-- A part of an operation, all of whose requests meet a state that suits them. -/
abbrev Aims {α : Type} (phase : Addressing → BoardRequest → Prop) (P : Addressing → Prop)
    (p : BoardCalls α) (Q : α → Addressing → Prop) : Prop :=
  Meets (Logging BusReacts) (Suits phase P) p fun a => Suits phase (Q a)

abbrev Anyhow : Addressing → Prop := fun _ => True

/-- The bus is addressed by these commands last. -/
def Addressed (cmds : List UInt8) (s : Addressing) : Prop := ∃ t, s = Addressing.receiveAll t cmds

section Rules

variable {α : Type} {phase : Addressing → BoardRequest → Prop} {P : Addressing → Prop}

theorem aims_pure {a : α} {Q : α → Addressing → Prop} (h : ∀ s, P s → Q a s) :
    Aims phase P (pure a) Q :=
  meets_pure fun _ hP => hP.mono h

/-- A result that nothing is claimed of. -/
theorem aims_done {a : α} : Aims phase P (pure a) fun _ => Anyhow :=
  aims_pure fun _ _ => trivial

theorem aims_either {c : Prop} [Decidable c] {a a' : α} :
    Aims phase P (if c then pure a else pure a') fun _ => Anyhow :=
  meets_ite (fun _ => aims_done) fun _ => aims_done

theorem aims_anyhow {p : BoardCalls α} {Q : α → Addressing → Prop}
    (h : Aims phase Anyhow p Q) : Aims phase P p Q :=
  h.conseq (fun _ hP => hP.mono fun _ _ => trivial) fun _ _ h => h

theorem aims_forget {p : BoardCalls α} {Q : α → Addressing → Prop} (h : Aims phase P p Q) :
    Aims phase P p fun _ => Anyhow :=
  h.conseq (fun _ hP => hP) fun _ _ hQ => hQ.mono fun _ _ => trivial

/-- Commands that go out address the bus. -/
theorem aims_send {cmds : List UInt8} (h : Allows phase cmds) :
    Aims phase Anyhow (anyTransport.sendCommandBytes cmds)
      fun rc s => rc = .ok → Addressed cmds s := by
  refine meets_logged_call (i := BoardRequest.sendCommandBytes cmds) (fun s _ => h s) ?_
  intro s rc t _ hreacts hrc
  cases hreacts with
  | sent => exact ⟨s, rfl⟩
  | unsent h => exact absurd hrc h
  | kept h => cases h
  | disturbed hsend => exact absurd rfl (hsend cmds)

/-- A request that its state suits. -/
theorem aims_call {req : BoardRequest} (h : ∀ s, P s → phase s req) :
    Aims phase P (Program.call req) fun _ => Anyhow :=
  meets_logged_call h fun _ _ _ _ _ => trivial

end Rules

/-! ## Operations -/

section Operations

variable {phase : Addressing → BoardRequest → Prop} {s : BoardState} {d : GPIBDescriptor}
  {pad : UInt8} {sad : Int8}

/-- Requests that are neither commands nor data suit every state. -/
abbrev AllowsQuiet (phase : Addressing → BoardRequest → Prop) : Prop :=
  ∀ t req, BoardRequest.quiet req = true → phase t req

theorem aims_quiet (hquiet : AllowsQuiet phase) (req : BoardRequest)
    (h : BoardRequest.quiet req = true) :
    Aims phase Anyhow (Program.call req) fun _ => Anyhow :=
  aims_call fun t _ => hquiet t req h

theorem aims_setOnline (hquiet : AllowsQuiet phase) (online : Bool) :
    Aims phase Anyhow (BoardState.setOnline anyTransport online s) fun _ => Anyhow := by
  unfold BoardState.setOnline
  refine meets_ite (fun _ => aims_done) fun _ => ?_
  refine meets_ite (fun _ => ?_) fun _ => ?_
  · refine meets_bind (aims_quiet hquiet .pulseInterfaceClear rfl) fun _ => ?_
    refine meets_bind (aims_quiet hquiet (.takeControl false) rfl) fun _ => ?_
    exact meets_bind (aims_quiet hquiet (.setRemoteEnable true) rfl) fun _ => aims_done
  · exact meets_bind (aims_quiet hquiet (.setRemoteEnable false) rfl) fun _ => aims_done

theorem aims_sendAddressing {cmds : List UInt8} (h : Allows phase cmds) :
    Aims phase Anyhow (BoardState.sendAddressing anyTransport cmds)
      fun failure t => failure = none → Addressed cmds t := by
  refine meets_bind (aims_send h) fun rc => aims_pure ?_
  intro t hrc hnone
  split at hnone
  · cases hnone
  · exact hrc (not_not.mp ‹_›)

theorem aims_recoverBus (hquiet : AllowsQuiet phase)
    (hclear : Allows phase (BoardState.addressedCommands d.pad d.sad CmdByte.sdc)) :
    Aims phase Anyhow (BoardState.recoverBus anyTransport (some d) s) fun _ => Anyhow := by
  have htarget {s' : BoardState} : Aims phase Anyhow (do
      BoardState.clearTarget anyTransport (some d)
      return (true, s')) fun _ => Anyhow :=
    meets_bind (meets_bind (aims_forget (aims_send hclear)) fun _ => aims_done) fun _ => aims_done
  unfold BoardState.recoverBus
  refine meets_ite (fun _ => aims_done) fun _ => ?_
  refine meets_ite (fun _ => aims_done) fun _ => ?_
  refine meets_bind (aims_quiet hquiet .softReset rfl) fun rc => ?_
  refine meets_ite (fun _ => aims_done) fun _ => ?_
  refine meets_bind (aims_quiet hquiet .pulseInterfaceClear rfl) fun _ => ?_
  refine meets_bind (aims_quiet hquiet (.takeControl false) rfl) fun _ => ?_
  refine meets_ite (fun _ => ?_) fun _ => htarget
  exact meets_bind (aims_quiet hquiet (.setRemoteEnable true) rfl) fun _ => htarget

theorem aims_addressWithRecovery (hquiet : AllowsQuiet phase)
    (hclear : Allows phase (BoardState.addressedCommands d.pad d.sad CmdByte.sdc))
    {address : BoardCalls (Option Status)} {Q : Addressing → Prop}
    (haddress : Aims phase Anyhow address fun failure t => failure = none → Q t) :
    Aims phase Anyhow (BoardState.addressWithRecovery anyTransport address d s)
      fun r t => r.1 = none → Q t := by
  unfold BoardState.addressWithRecovery
  refine meets_bind haddress fun failure => ?_
  cases failure with
  | none => exact aims_pure fun t h => h
  | some status =>
      refine meets_bind (aims_anyhow (aims_recoverBus hquiet hclear)) fun recovered => ?_
      refine meets_ite (fun _ => ?_) fun _ => aims_pure fun t _ h => nomatch h
      exact meets_bind haddress fun failure => aims_pure fun t h => h

theorem aims_write (hquiet : AllowsQuiet phase)
    (hclear : Allows phase (BoardState.addressedCommands d.pad d.sad CmdByte.sdc))
    (haddress : Allows phase (BoardState.writeCommands s.boardPAD d.pad d.sad))
    {buf : List UInt8} {sendEoi : Bool}
    (hdata : ∀ t, Addressed (BoardState.writeCommands s.boardPAD d.pad d.sad) t →
      phase t (.writeData buf (sendEoi && d.eot) d.timeoutUs)) :
    Aims phase Anyhow (BoardState.write anyTransport (some d) buf sendEoi s)
      fun _ => Anyhow := by
  unfold BoardState.write
  refine meets_ite (fun _ => aims_done) fun _ => ?_
  refine meets_ite (fun _ => aims_done) fun _ => ?_
  refine meets_bind (aims_addressWithRecovery hquiet hclear (aims_sendAddressing haddress))
    fun r => ?_
  obtain ⟨failure, s'⟩ := r
  cases failure with
  | some status => exact aims_done
  | none => exact meets_bind (aims_call fun t h => hdata t (h rfl)) fun _ => aims_either

theorem aims_read (hquiet : AllowsQuiet phase)
    (hclear : Allows phase (BoardState.addressedCommands d.pad d.sad CmdByte.sdc))
    (haddress : Allows phase (BoardState.readCommands s.boardPAD d.pad d.sad))
    {requestCount : Nat}
    (hdata : ∀ t, Addressed (BoardState.readCommands s.boardPAD d.pad d.sad) t →
      phase t (.readData requestCount d.eosChar d.eosFlags d.timeoutUs)) :
    Aims phase Anyhow (BoardState.read anyTransport (some d) requestCount s)
      fun _ => Anyhow := by
  unfold BoardState.read
  refine meets_ite (fun _ => aims_done) fun _ => ?_
  refine meets_ite (fun _ => aims_done) fun _ => ?_
  refine meets_bind (aims_addressWithRecovery hquiet hclear (aims_sendAddressing haddress))
    fun r => ?_
  obtain ⟨failure, s'⟩ := r
  cases failure with
  | some status => exact aims_done
  | none => exact meets_bind (aims_call fun t h => hdata t (h rfl)) fun _ => aims_either

theorem aims_sendCommands {cmds : List UInt8} (h : Allows phase cmds) :
    Aims phase Anyhow (BoardState.sendCommands anyTransport cmds s) fun _ => Anyhow := by
  unfold BoardState.sendCommands
  refine meets_ite (fun _ => aims_done) fun _ => ?_
  exact meets_bind (aims_forget (aims_send h)) fun _ => aims_either

theorem aims_addressedCommand {command : UInt8}
    (h : Allows phase (BoardState.addressedCommands d.pad d.sad command)) :
    Aims phase Anyhow (BoardState.addressedCommand anyTransport command (some d) s)
      fun _ => Anyhow := by
  unfold BoardState.addressedCommand
  refine meets_ite (fun _ => aims_done) fun _ => ?_
  exact meets_bind (aims_forget (aims_send h)) fun _ => aims_either

theorem aims_serialPoll
    (hpoll : Allows phase (BoardState.serialPollCommands s.boardPAD d.pad d.sad))
    (hdown : Allows phase BoardState.teardownCommands)
    (hdata : ∀ t, Addressed (BoardState.serialPollCommands s.boardPAD d.pad d.sad) t →
      phase t (.readData 1 0 0 d.timeoutUs)) :
    Aims phase Anyhow (BoardState.serialPoll anyTransport (some d) s) fun _ => Anyhow := by
  unfold BoardState.serialPoll
  refine meets_ite (fun _ => aims_done) fun _ => ?_
  refine meets_ite (fun _ => aims_done) fun _ => ?_
  refine meets_bind (aims_send hpoll) fun rc => ?_
  refine meets_ite (fun _ => aims_done) fun hrc => ?_
  refine meets_bind (aims_call fun t h => hdata t (h (not_not.mp hrc))) fun r => ?_
  exact meets_bind (aims_forget (aims_send hdown)) fun _ => aims_either

theorem aims_serialPollProbe
    (hpoll : Allows phase (BoardState.serialPollCommands s.boardPAD pad sad))
    (hdown : Allows phase BoardState.teardownCommands)
    (hdata : ∀ t, Addressed (BoardState.serialPollCommands s.boardPAD pad sad) t →
      phase t (.readData 1 0 0 BoardState.kProbeTimeoutUs)) :
    Aims phase Anyhow (BoardState.serialPollProbe anyTransport pad sad s)
      fun _ => Anyhow := by
  have hanswer : Aims phase Anyhow
      (BoardState.statusByteAnswers anyTransport s.boardPAD pad sad) fun _ => Anyhow := by
    unfold BoardState.statusByteAnswers
    refine meets_bind (aims_send hpoll) fun rc => ?_
    refine meets_ite (fun _ => aims_done) fun hrc => ?_
    exact meets_bind (aims_call fun t h => hdata t (h (not_not.mp hrc))) fun _ => aims_done
  unfold BoardState.serialPollProbe
  refine meets_ite (fun _ => aims_done) fun _ => ?_
  refine meets_bind hanswer fun present => ?_
  exact meets_bind (aims_forget (aims_send hdown)) fun _ => aims_done

theorem aims_listenerPresent (hquiet : AllowsQuiet phase)
    (hlisten : Allows phase (BoardState.listenCommands pad sad))
    (hpoll : Allows phase (BoardState.serialPollCommands s.boardPAD pad sad))
    (hdown : Allows phase BoardState.teardownCommands)
    (hdata : ∀ t, Addressed (BoardState.serialPollCommands s.boardPAD pad sad) t →
      phase t (.readData 1 0 0 BoardState.kProbeTimeoutUs)) :
    Aims phase Anyhow (BoardState.listenerPresent anyTransport pad sad s)
      fun _ => Anyhow := by
  have hexpose : Aims phase Anyhow (BoardState.exposeListener anyTransport pad sad)
      fun _ => Anyhow := by
    unfold BoardState.exposeListener
    refine meets_bind (aims_forget (aims_send hlisten)) fun rc => ?_
    exact meets_ite (fun _ => aims_done) fun _ => aims_quiet hquiet .releaseAtn rfl
  have hsample : Aims phase Anyhow (BoardState.sampleListener anyTransport pad sad s)
      fun _ => Anyhow := by
    unfold BoardState.sampleListener
    refine meets_bind (aims_quiet hquiet .readBusLines rfl) fun r => ?_
    exact meets_ite (fun _ => aims_done) fun _ => aims_serialPollProbe hpoll hdown hdata
  unfold BoardState.listenerPresent
  refine meets_ite (fun _ => aims_done) fun _ => ?_
  refine meets_bind hexpose fun rc => ?_
  refine meets_ite (fun _ => aims_done) fun _ => ?_
  exact meets_bind hsample fun _ => aims_done

end Operations

end DarwinGpib
