import DarwinGpib.Client.Lookup

/-!
# What a call asks

The shapes of the library's calls, as far as it matters which calls of the driver they make: to
know that of a library call, it is enough to know which one it is about.
-/

namespace DarwinGpib

open Interaction

namespace Libgpib

/-- Requests that resolve a board, or make such a call. -/
def BrokerCall.Makes (A : DriverCall → Prop) (q : BrokerCall) : Prop :=
  q.Resolves ∨ ∃ conn c, q = .call conn c ∧ A c

/-- A part of a library call that asks for nothing else. -/
abbrev Asking (A : DriverCall → Prop) {α : Type} (x : Lib α) : Prop :=
  StateEnsures (fun q => ¬ BrokerCall.Makes A q) x fun _ => True

variable {A : DriverCall → Prop}

theorem Resolving.asking {α : Type} {x : Lib α} (h : Resolving x) : Asking A x :=
  h.of_bad fun _ hnot hresolves => hnot (.inl hresolves)

/-! ## The shapes of the calls -/

theorem asking_finish {α : Type} (ibsta iberr : UInt32) (cnt : Nat) (a : α) :
    Asking A (do
      setStatus ibsta iberr cnt
      return a) :=
  stateEnsures_bind (stateEnsures_modify _) fun _ _ => stateEnsures_pure trivial

theorem asking_returnErr (iberr : UInt32) : Asking A (returnErr iberr) :=
  asking_finish _ _ _ _

/-- A call that failed, with what its buffer holds. -/
theorem asking_failed {α : Type} {iberr : UInt32} (a : α) : Asking A (do
    let ret ← returnErr iberr
    return (ret, a)) :=
  stateEnsures_bind (asking_returnErr iberr) fun _ _ => stateEnsures_pure trivial

theorem asking_callStruct (conn : Int32) {c : DriverCall} (h : A c) :
    Asking A (callStruct conn c) := by
  unfold callStruct
  refine stateEnsures_bind (stateEnsures_call (i := BrokerCall.call conn c)
    (not_not.mpr (.inr ⟨conn, c, rfl, h⟩))) ?_
  intro reply _
  apply stateEnsures_ite
  · intro _
    exact stateEnsures_bind (stateEnsures_modify _) fun _ _ => stateEnsures_pure trivial
  intro _
  exact stateEnsures_ite (fun _ => stateEnsures_pure trivial) fun _ => stateEnsures_pure trivial

/-- What the calls on a handle do once their board is found. -/
theorem asking_throughHandle {α : Type} {ud conn : Int32} (call : Int → DriverCall)
    {refused : Lib α} {finish : Option DriverReply → Lib α}
    (hcall : ∀ handle : Int32, A (call handle.toInt)) (hrefused : Asking A refused)
    (hfinish : ∀ out, Asking A (finish out)) :
    Asking A (do
      let handle ← handleOf ud
      let (kr, out) ← callStruct conn (call handle.toInt)
      if kr ≠ kernSuccess then refused else finish out) := by
  refine stateEnsures_bind (resolving_handleOf ud).asking fun handle _ => ?_
  refine stateEnsures_bind (asking_callStruct conn (hcall handle)) fun r _ => ?_
  exact stateEnsures_ite (fun _ => hrefused) fun _ => hfinish r.2

theorem asking_onHandle {α : Type} {ud : Int32} {call : Int → DriverCall} {refused : α}
    {finish : Option DriverReply → Lib (UInt32 × α)}
    (hcall : ∀ handle : Int32, A (call handle.toInt))
    (hfinish : ∀ out, Asking A (finish out)) : Asking A (onHandle ud call refused finish) := by
  unfold onHandle
  refine stateEnsures_bind (resolving_connForBoard _).asking fun conn _ => ?_
  cases conn with
  | none => exact stateEnsures_pure trivial
  | some conn =>
      exact asking_throughHandle call hcall (asking_failed refused) hfinish

theorem asking_statusCall {ud : Int32} {call : Int → DriverCall}
    (hcall : ∀ handle : Int32, A (call handle.toInt)) : Asking A (statusCall ud call) :=
  stateEnsures_bind (asking_onHandle hcall fun _ => asking_finish _ _ _ _)
    fun _ _ => stateEnsures_pure trivial

theorem asking_simpleHandleCall {ud : Int32} {call : Int → DriverCall}
    (hcall : ∀ handle : Int32, A (call handle.toInt)) :
    Asking A (simpleHandleCall ud call) := by
  refine stateEnsures_bind (asking_onHandle hcall fun out => ?_)
    fun _ _ => stateEnsures_pure trivial
  exact stateEnsures_bind (asking_finish _ _ _ _) fun _ _ => stateEnsures_pure trivial

theorem asking_sendBytes {ud : Int32} {call : Int → List UInt8 → DriverCall}
    {buf : List UInt8} {cnt : Int}
    (hcall : ∀ (handle : Int32) (data : List UInt8), data.length ≤ 4080 →
      A (call handle.toInt data)) : Asking A (sendBytes ud call buf cnt) := by
  unfold sendBytes
  refine stateEnsures_bind (resolving_connForBoard _).asking fun conn _ => ?_
  cases conn with
  | none => exact stateEnsures_pure trivial
  | some conn =>
      apply stateEnsures_ite
      · intro _
        exact asking_returnErr Iberr.earg
      · intro hcnt
        have hle : cnt.toNat ≤ 4080 := by
          simp only [kGPIBMaxInlineWrite, not_or, not_lt] at hcnt
          omega
        have hfinish (out : Option DriverReply) : Asking A (do
            setStatus (writeOut out).ibsta (writeOut out).iberr (writeOut out).ibcnt
            return (writeOut out).ibsta) :=
          asking_finish _ _ _ _
        exact asking_throughHandle (call · (buf.take cnt.toNat))
          (fun handle => hcall handle _ ((List.length_take_le _ _).trans hle))
          (asking_returnErr Iberr.edvr) hfinish

theorem asking_ibrd (hcall : ∀ (handle : Int32) n, n ≤ UserClient.kGPIBMaxInlineRead →
    A (.read handle.toInt n)) (ud : Int32) (cnt : Int) : Asking A (ibrd ud cnt) := by
  unfold ibrd
  refine stateEnsures_bind (resolving_connForBoard _).asking fun conn _ => ?_
  cases conn with
  | none => exact stateEnsures_pure trivial
  | some conn =>
      apply stateEnsures_ite
      · intro _
        exact asking_failed []
      · intro _
        have hfinish (n : Nat) (out : Option DriverReply) : Asking A (do
            setStatus (readOut out).1.ibsta (readOut out).1.iberr (readOut out).1.ibcnt
            return ((readOut out).1.ibsta, receivedBytes n (readOut out))) :=
          asking_finish _ _ _ _
        exact asking_throughHandle (.read · (min cnt.toNat UserClient.kGPIBMaxInlineRead))
          (fun handle => hcall handle _ (Nat.min_le_right _ _)) (asking_failed [])
          (hfinish _)

theorem asking_ibdev (boardIndex pad sad timo sendEoi eosmode : Int32) :
    Asking A (ibdev boardIndex pad sad timo sendEoi eosmode) :=
  (resolving_ibdev _ _ _ _ _ _).asking

theorem asking_ibonl (hcall : ∀ handle : Int32, A (.closeDescriptor handle.toInt))
    (ud onl : Int32) : Asking A (ibonl ud onl) := by
  unfold ibonl
  refine stateEnsures_bind (resolving_connForBoard _).asking fun conn _ => ?_
  cases conn with
  | none => exact stateEnsures_pure trivial
  | some conn =>
      apply stateEnsures_ite
      · intro _
        refine stateEnsures_bind (resolving_handleOf ud).asking fun handle _ => ?_
        exact stateEnsures_bind (asking_callStruct conn (hcall handle))
          fun r _ => asking_finish _ _ _ _
      · intro _
        exact asking_finish _ _ _ _

theorem asking_ibfind (name : Option (List Char)) : Asking A (ibfind name) := by
  cases name with
  | none => exact stateEnsures_pure trivial
  | some cs =>
      cases cs with
      | nil => exact stateEnsures_pure trivial
      | cons c cs =>
          refine stateEnsures_bind (resolving_boardHandle _).asking fun h _ => ?_
          exact stateEnsures_ite (fun _ => stateEnsures_pure trivial)
            fun _ => asking_finish _ _ _ _

end Libgpib

end DarwinGpib
