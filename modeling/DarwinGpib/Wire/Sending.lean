import DarwinGpib.Client.BoardHandles
import DarwinGpib.Client.Requests
import DarwinGpib.Wire.Calls

/-!
# What the library sends

Every request of every library call fits the wire: its numbers are those of its fields, and
its structures are carried inline in both directions.
-/

namespace DarwinGpib

open Interaction

namespace Libgpib

/-- Whether a request fits the wire. -/
def BrokerCall.Sendable : BrokerCall → Prop
  | probe _ => True
  | call _ c => c.Sendable

/-- A part of a library call that asks only for what fits the wire. -/
abbrev Sending {α : Type} (x : Lib α) : Prop := Asking DriverCall.Sendable x

theorem sendable_of_resolves {q : BrokerCall} (h : q.Resolves) : q.Sendable := by
  cases q with
  | probe board => trivial
  | call board c =>
      cases c with
      | boardOnline online => exact sendable_of_fixed trivial (show 8 ≤ 32 by decide) rfl
      | openDescriptor i => exact sendable_of_fixed trivial (show 32 ≤ 32 by decide) rfl
      | _ => exact absurd h id

/-! ## The calls -/

theorem sending_configure (ud : Int32) (key : UInt32) (value : Int32) :
    Sending (configure ud key value) :=
  asking_statusCall fun handle => sendable_of_fixed (isInt32_toInt handle)
    (show 16 ≤ 32 by decide) rfl

theorem sending_ibwrt (ud : Int32) (buf : List UInt8) (cnt : Int) :
    Sending (ibwrt ud buf cnt) :=
  asking_sendBytes fun handle _ hdata => sendable_write (isInt32_toInt handle) 1 hdata

theorem sending_ibcmd (ud : Int32) (cmd : List UInt8) (cnt : Int) :
    Sending (ibcmd ud cmd cnt) :=
  asking_sendBytes fun handle _ hdata => sendable_sendCommand (isInt32_toInt handle) hdata

theorem sending_ibrd (ud : Int32) (cnt : Int) : Sending (ibrd ud cnt) :=
  asking_ibrd (fun handle _ hn => sendable_read (isInt32_toInt handle) hn) ud cnt

theorem sending_writeFileLoop (ud : Int32) (fuel : Nat) (rest : List UInt8) (last : UInt32) :
    Sending (writeFileLoop ud fuel rest last) := by
  induction fuel generalizing rest last with
  | zero => exact stateEnsures_pure trivial
  | succ fuel ih =>
      apply stateEnsures_ite
      · intro _
        exact stateEnsures_pure trivial
      · intro _
        refine stateEnsures_bind (sending_ibwrt ud _ _) fun last _ => ?_
        exact stateEnsures_ite (fun _ => stateEnsures_pure trivial) fun _ => ih _ _

theorem sending_readFileLoop (ud : Int32) (fuel : Nat) (buf file : List UInt8) :
    Sending (readFileLoop ud fuel buf file) := by
  induction fuel generalizing buf file with
  | zero => exact stateEnsures_pure trivial
  | succ fuel ih =>
      refine stateEnsures_bind (sending_ibrd ud _) fun r _ => ?_
      apply stateEnsures_ite
      · intro _
        exact stateEnsures_pure trivial
      · intro _
        refine stateEnsures_bind stateEnsures_get fun s _ => ?_
        exact stateEnsures_ite (fun _ => stateEnsures_pure trivial) fun _ => ih _ _

theorem sending_ofStatus {x : Lib UInt32} (h : Sending x) : Sending (ofStatus x) :=
  stateEnsures_bind h fun _ _ => stateEnsures_pure trivial

theorem sending_withStatus {α : Type} {x : Lib (UInt32 × α)} (h : Sending x) :
    Sending (withStatus x) :=
  stateEnsures_bind h fun _ _ => stateEnsures_pure trivial

theorem sending_exec (c : LibCall) : Sending c.exec := by
  cases c with
  | ibdev boardIndex pad sad timo sendEoi eosmode => exact asking_ibdev _ _ _ _ _ _
  | ibfind name => exact asking_ibfind name
  | ibonl ud onl => exact sending_ofStatus (asking_ibonl (fun handle =>
        sendable_of_fixed (isInt32_toInt handle) (show 8 ≤ 32 by decide) rfl) ud onl)
  | ibpad ud v | ibsad ud v | ibtmo ud v | ibeot ud v | ibconfig ud option value =>
      exact sending_ofStatus (sending_configure _ _ _)
  | ibeos ud v =>
      refine sending_ofStatus (stateEnsures_bind (sending_configure _ _ _) fun char _ => ?_)
      exact stateEnsures_bind (sending_configure _ _ _) fun flags _ => stateEnsures_pure trivial
  | ibask ud option =>
      exact sending_withStatus (asking_onHandle
        (fun handle => sendable_of_fixed (isInt32_toInt handle) (show 8 ≤ 32 by decide) rfl)
        fun _ => asking_finish _ _ _ _)
  | ibwrt ud buf cnt => exact sending_ofStatus (sending_ibwrt ud buf cnt)
  | ibrd ud cnt => exact sending_withStatus (sending_ibrd ud cnt)
  | ibcmd ud cmd cnt => exact sending_ofStatus (sending_ibcmd ud cmd cnt)
  | ibclr ud | ibsic ud | ibtrg ud | ibloc ud =>
      exact sending_ofStatus (asking_simpleHandleCall fun handle =>
        sendable_of_fixed (isInt32_toInt handle) (show 8 ≤ 32 by decide) rfl)
  | ibsre ud v =>
      exact sending_ofStatus (asking_statusCall fun handle =>
        sendable_of_fixed (isInt32_toInt handle) (show 8 ≤ 32 by decide) rfl)
  | ibwait ud mask =>
      exact sending_ofStatus (asking_statusCall fun handle =>
        sendable_of_fixed ⟨isInt32_toInt handle, by decide⟩ (show 16 ≤ 32 by decide) rfl)
  | ibrsp ud | iblines ud =>
      exact sending_withStatus (asking_onHandle
        (fun handle => sendable_of_fixed (isInt32_toInt handle) (show 8 ≤ 32 by decide) rfl)
        fun _ => asking_finish _ _ _ _)
  | ibln ud pad sad =>
      exact sending_withStatus (asking_onHandle
        (fun handle => sendable_of_fixed (isInt32_toInt handle) (show 16 ≤ 32 by decide) rfl)
        fun _ => asking_finish _ _ _ _)
  | ibwrtf ud file =>
      apply sending_ofStatus
      cases file with
      | none => exact asking_finish _ _ _ _
      | some content => exact sending_writeFileLoop _ _ _ _
  | ibrdf ud opened fuel buf =>
      have hibrdf : Sending (Libgpib.ibrdf ud opened fuel buf) := by
        apply stateEnsures_ite
        · intro _
          exact stateEnsures_bind (asking_returnErr efso) fun _ _ => stateEnsures_pure trivial
        · intro _
          exact sending_readFileLoop _ _ _ _
      exact stateEnsures_bind hibrdf fun _ _ => stateEnsures_pure trivial

/-- Every call of the library sends only what fits the wire. -/
theorem sendable_exec (c : LibCall) :
    StateEnsures (fun q => ¬ BrokerCall.Sendable q) c.exec fun _ => True := by
  refine (sending_exec c).of_bad fun q hnot hmakes => hnot ?_
  rcases hmakes with hresolves | ⟨conn, c, rfl, hc⟩
  · exact sendable_of_resolves hresolves
  · exact hc

end Libgpib

end DarwinGpib
