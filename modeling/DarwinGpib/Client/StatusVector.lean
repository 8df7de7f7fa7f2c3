import DarwinGpib.Client.BoardHandles
import DarwinGpib.Client.Lookup
import DarwinGpib.Library.Overwriting
import DarwinGpib.Library.Past

/-!
# Who sets the status vector

Every way through a library call either writes the status vector or ends with an index that names
no board. `Overwrites` follows the first; what is written comes from the last exchange with the
broker, which decides the outcome of the call.
-/

namespace DarwinGpib

open Interaction UserClient

namespace Libgpib

/-! ## The vector and what decides it -/

/-- `ibsta`, `iberr` and `ibcntl`. -/
structure StatusVector where
  ibsta : UInt32
  iberr : UInt32
  ibcntl : Nat

/-- The process with another status vector. -/
def Process.withVector (p : Process) (v : StatusVector) : Process :=
  { p with ibsta := v.ibsta, iberr := v.iberr, ibcntl := v.ibcntl }

/-- The status in the output structure of a call. -/
def statusIn (c : DriverCall) (out : Option DriverReply) : Status :=
  match c with
  | .openDescriptor _ => (openDescriptorOut out).2
  | .write _ _ _ | .sendCommand _ _ => (writeOut out).toStatus
  | .read _ _ => (readOut out).1.toStatus
  | .ask _ _ => (askOut out).2
  | .serialPoll _ => (serialPollOut out).2
  | .listenerPresent _ _ _ => (listenerOut out).2
  | .lineStatus _ => (lineStatusOut out).2
  | _ => statusOut out

/-- What became of the last request to the broker. -/
inductive Decision where
  /-- Nothing was asked of the driver. -/
  | nobody
  /-- The board was not found. -/
  | unreachable
  /-- The driver did not answer. -/
  | refused (c : DriverCall) (out : Option DriverReply)
  | driver (c : DriverCall) (out : Option DriverReply)

def decisionOf : Exchange BrokerCall.Reply → Decision
  | ⟨.probe _, (kr : Int64)⟩ => if kr = 0 then .nobody else .unreachable
  | ⟨.call _ c, (reply : CallReply)⟩ =>
      if reply.kr.toInt32 = 0 then .driver c reply.out else .refused c reply.out

def decision (u : Trace BrokerCall.Reply) : Decision := (u.getLast?.map decisionOf).getD .nobody

/-- The call got no answer. -/
def Decision.Lost : Decision → Prop
  | unreachable | refused _ _ => True
  | _ => False

@[simp] theorem decision_nil : decision [] = .nobody :=
  rfl

@[simp] theorem decision_concat (u : Trace BrokerCall.Reply) (e : Exchange BrokerCall.Reply) :
    decision (u ++ [e]) = decisionOf e := by
  simp [decision]

/-! ## Writing the vector -/

/-- A part of the library that writes the vector whenever its result satisfies `V`. -/
abbrev Writes {α : Type} (x : Lib α) (V : α → Prop) : Prop :=
  Overwrites Process.withVector x V

theorem writes_setStatus (ibsta iberr : UInt32) (cnt : Nat) (V : Unit → Prop) :
    Writes (setStatus ibsta iberr cnt) V := by
  apply overwrites_modify
  intro p v
  rfl

theorem writes_brokerCall (c : BrokerCall) : Writes (brokerCall c) fun _ => False :=
  overwrites_call c

/-- Leaving a status behind, and then anything. -/
theorem writes_finish {α : Type} (ibsta iberr : UInt32) (cnt : Nat) (x : Lib α) (V : α → Prop) :
    Writes (do
      setStatus ibsta iberr cnt
      x) V :=
  overwrites_bind (writes_setStatus _ _ _ fun _ => True) fun _ h => absurd trivial h

theorem writes_returnErr (iberr : UInt32) (V : UInt32 → Prop) : Writes (returnErr iberr) V :=
  writes_finish _ _ _ _ V

theorem writes_returnOk (ibsta : UInt32) (cnt : Nat) (V : UInt32 → Prop) :
    Writes (returnOk ibsta cnt) V :=
  writes_finish _ _ _ _ V

theorem writes_setReachable (i : Int32) (reachable : Bool) :
    Writes (setReachable i reachable) fun _ => False := by
  apply overwrites_modify_other
  intro p v
  rfl

/-- A board that is not found is an error. -/
theorem writes_connForBoard (i : Int32) : Writes (connForBoard i) (· = none) := by
  unfold connForBoard
  apply overwrites_ite
  · intro _
    exact writes_finish _ _ _ _ _
  intro _
  apply overwrites_get_bind
  · exact fun _ _ => rfl
  intro s
  apply overwrites_ite
  · intro _
    exact overwrites_pure (by simp)
  intro _
  apply overwrites_bind (writes_brokerCall (.probe i))
  intro (kr : Int64) _
  apply overwrites_ite
  · intro _
    exact writes_finish _ _ _ _ _
  · intro _
    exact overwrites_bind (writes_setReachable _ _) fun _ _ => overwrites_pure (by simp)

theorem writes_callStruct (conn : Int32) (c : DriverCall) :
    Writes (callStruct conn c) fun _ => False := by
  unfold callStruct
  apply overwrites_bind (writes_brokerCall (.call conn c))
  intro reply _
  apply overwrites_ite
  · intro _
    exact overwrites_bind (writes_setReachable _ _) fun _ _ => overwrites_pure id
  · intro _
    exact overwrites_ite (fun _ => overwrites_pure id) fun _ => overwrites_pure id

theorem writes_openBoard (i : Int32) : Writes (openBoard i) (· < 0) := by
  unfold openBoard
  apply overwrites_bind (writes_connForBoard i)
  intro conn hconn
  cases conn with
  | none => exact absurd rfl hconn
  | some c =>
      apply overwrites_bind (writes_callStruct c _)
      intro online _
      apply overwrites_ite
      · intro _
        exact writes_finish _ _ _ _ _
      intro _
      apply overwrites_bind (writes_callStruct c _)
      intro opened _
      apply overwrites_ite
      · intro _
        exact writes_finish _ _ _ _ _
      intro _
      apply overwrites_ite
      · intro _
        exact writes_finish _ _ _ _ _
      intro hhandle
      refine overwrites_bind (V := fun _ => False) ?_ fun _ _ => overwrites_pure hhandle
      unfold setBoardHandle
      refine overwrites_ite (fun _ => overwrites_pure id) fun _ => ?_
      exact overwrites_modify_other fun _ _ => rfl

/-- An index out of range is not reported. -/
theorem writes_boardHandle {i : Int32} (hi : inRange i = true) :
    Writes (boardHandle i) (· < 0) := by
  unfold boardHandle
  apply overwrites_ite
  · intro hout
    simp [hi] at hout
  intro _
  apply overwrites_get_bind
  · exact fun _ _ => rfl
  intro s
  apply overwrites_ite
  · intro hcached
    exact overwrites_pure (Int32.not_lt.mpr hcached)
  · intro _
    exact writes_openBoard i

theorem writes_handleOf (ud : Int32) : Writes (handleOf ud) fun _ => False := by
  unfold handleOf
  apply overwrites_ite
  · intro hud
    exact (writes_boardHandle hud).mono fun _ h => h.elim
  · intro _
    exact overwrites_pure id

theorem writes_onHandle {α : Type} {ud : Int32} {call : Int → DriverCall} {refused : α}
    {finish : Option DriverReply → Lib (UInt32 × α)}
    (hfinish : ∀ out, Writes (finish out) fun _ => True) :
    Writes (onHandle ud call refused finish) fun _ => True := by
  unfold onHandle
  apply overwrites_bind (writes_connForBoard _)
  intro conn hconn
  cases conn with
  | none => exact absurd rfl hconn
  | some c =>
      apply overwrites_bind (writes_handleOf ud)
      intro handle _
      apply overwrites_bind (writes_callStruct c _)
      intro r _
      apply overwrites_ite
      · intro _
        exact overwrites_bind (writes_returnErr _ fun _ => True) fun _ h => absurd trivial h
      · intro _
        exact hfinish _

theorem writes_statusCall (ud : Int32) (call : Int → DriverCall) :
    Writes (statusCall ud call) fun _ => True :=
  overwrites_bind (writes_onHandle fun _ => writes_finish _ _ _ _ _) fun _ h => absurd trivial h

theorem writes_simpleHandleCall (ud : Int32) (call : Int → DriverCall) :
    Writes (simpleHandleCall ud call) fun _ => True := by
  refine overwrites_bind (writes_onHandle fun out => ?_) fun _ h => absurd trivial h
  exact overwrites_bind (writes_returnOk _ _ fun _ => True) fun _ h => absurd trivial h

theorem writes_sendBytes (ud : Int32) (call : Int → List UInt8 → DriverCall) (buf : List UInt8)
    (cnt : Int) : Writes (sendBytes ud call buf cnt) fun _ => True := by
  unfold sendBytes
  apply overwrites_bind (writes_connForBoard _)
  intro conn hconn
  cases conn with
  | none => exact absurd rfl hconn
  | some c =>
      apply overwrites_ite
      · intro _
        exact writes_returnErr _ _
      intro _
      apply overwrites_bind (writes_handleOf ud)
      intro handle _
      apply overwrites_bind (writes_callStruct c _)
      intro r _
      exact overwrites_ite (fun _ => writes_returnErr _ _) fun _ => writes_finish _ _ _ _ _

theorem writes_ibrd (ud : Int32) (cnt : Int) : Writes (ibrd ud cnt) fun _ => True := by
  have hrefused (iberr : UInt32) : Writes (do
      let ret ← returnErr iberr
      return (ret, ([] : List UInt8))) fun _ => True :=
    overwrites_bind (writes_returnErr _ fun _ => True) fun _ h => absurd trivial h
  unfold ibrd
  apply overwrites_bind (writes_connForBoard _)
  intro conn hconn
  cases conn with
  | none => exact absurd rfl hconn
  | some c =>
      apply overwrites_ite
      · intro _
        exact hrefused _
      intro _
      apply overwrites_bind (writes_handleOf ud)
      intro handle _
      apply overwrites_bind (writes_callStruct c _)
      intro r _
      exact overwrites_ite (fun _ => hrefused _) fun _ => writes_finish _ _ _ _ _

theorem writes_ibonl (ud onl : Int32) : Writes (ibonl ud onl) fun _ => True := by
  unfold ibonl
  apply overwrites_bind (writes_connForBoard _)
  intro conn hconn
  cases conn with
  | none => exact absurd rfl hconn
  | some c =>
      apply overwrites_ite
      · intro _
        apply overwrites_bind (writes_handleOf ud)
        intro handle _
        apply overwrites_bind (writes_callStruct c _)
        intro r _
        exact writes_finish _ _ _ _ _
      · intro _
        exact writes_returnOk _ _ _

theorem writes_ibdev {i : Int32} (hi : inRange i = true) (pad sad timo sendEoi eosmode : Int32) :
    Writes (ibdev i pad sad timo sendEoi eosmode) fun _ => True := by
  unfold ibdev
  apply overwrites_bind (writes_boardHandle hi)
  intro h hh
  apply overwrites_ite
  · intro hneg
    exact absurd hneg hh
  intro _
  apply overwrites_bind (writes_connForBoard i)
  intro conn hconn
  cases conn with
  | none => exact absurd rfl hconn
  | some c =>
      apply overwrites_bind (writes_callStruct c _)
      intro r _
      apply overwrites_ite
      · intro _
        exact writes_finish _ _ _ _ _
      intro _
      exact overwrites_ite (fun _ => writes_finish _ _ _ _ _) fun _ => writes_finish _ _ _ _ _

theorem writes_ibfind {cs : List Char} (hne : cs ≠ [])
    (hi : inRange (boardIndexOf cs) = true) : Writes (ibfind (some cs)) fun _ => True := by
  cases cs with
  | nil => exact absurd rfl hne
  | cons c cs =>
      apply overwrites_bind (writes_boardHandle hi)
      intro h hh
      apply overwrites_ite
      · intro hneg
        exact absurd hneg hh
      · intro _
        exact writes_finish _ _ _ _ _

end Libgpib

end DarwinGpib
