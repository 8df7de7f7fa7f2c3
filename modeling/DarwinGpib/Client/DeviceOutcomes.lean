import DarwinGpib.Client.Bench
import DarwinGpib.Client.StatusMirrors

/-!
# What a call on one device leaves behind

`Send`, `Receive`, `DevClear`, `Trigger` and `ReadStatusByte` open a descriptor, work on it and
close it. Closing writes the status vector once more, so what the caller sees is the answer to
the close.
-/

namespace DarwinGpib

open Interaction UserClient

namespace Libgpib

/-! ## The calls -/

inductive ScopedCall where
  | send (buffer : List UInt8) (count : Int) (eotMode : Int32) (allocated : Bool)
  | receive (count : Int)
  | devClear
  | trigger
  | readStatusByte

namespace ScopedCall

/-- The call, with the bytes that it stores in a buffer of the caller. -/
def exec (bd : Int32) (address : Addr4882) : ScopedCall → Lib (List UInt8)
  | send buffer count eotMode allocated => do
      Libgpib.send bd address buffer count eotMode allocated
      return []
  | receive count => Libgpib.receive bd address count
  | devClear => do
      Libgpib.devClear bd address
      return []
  | trigger => do
      Libgpib.trigger bd address
      return []
  | readStatusByte => do
      let _ ← Libgpib.readStatusByte bd address
      return []

/-- The work on the descriptor. -/
def operate (ud : Int32) : ScopedCall → Lib (List UInt8)
  | send buffer count eotMode allocated => do
      sendDevice buffer count eotMode allocated ud
      return []
  | receive count => receiveDevice count ud
  | devClear => do
      clearDevice ud
      return []
  | trigger => do
      triggerDevice ud
      return []
  | readStatusByte => do
      let _ ← pollDevice ud
      return []

/-- Whether an operation is performed on the descriptor: a `Send` without room for its copy
performs none. -/
def Performs : ScopedCall → Prop
  | send _ _ eotMode allocated => eotMode = nlEnd → allocated = true
  | _ => True

def Sends : ScopedCall → Prop
  | send _ _ _ _ => True
  | _ => False

def Receives : ScopedCall → Prop
  | receive _ => True
  | _ => False

end ScopedCall

/-! ## The law -/

def Process.vector (p : Process) : StatusVector := ⟨p.ibsta, p.iberr, p.ibcntl⟩

section Law

variable (c : ScopedCall) (bd : Int32) (address : Addr4882) (p : Process)
  (u : Trace BrokerCall.Reply) (stored : List UInt8)

/-- The call has opened a descriptor, and its work there has left `p₂` behind. -/
def Operated (p₂ p' : Process) : Prop :=
  ∃ opening operation closing ud p₁ ret, u = opening ++ operation ++ closing ∧ ¬ ud < 0 ∧
    Run ((openDevice bd address).run p) opening (ud, p₁) ∧
    Run ((c.operate ud).run p₁) operation (stored, p₂) ∧
    Run ((ibonl ud 0).run p₂) closing (ret, p')

/-- The vector that the caller sees is that of the operation. A `Send` fails if no write without
an error was performed. -/
structure ReportsOutcome (p' : Process) : Prop where
  performed : ∀ p₂, Operated c bd address p u stored p₂ p' → c.Performs →
    p'.vector = p₂.vector
  received : c.Receives → p'.ibcntl = stored.length
  sent : c.Sends → (∀ p₂, Operated c bd address p u stored p₂ p' → c.Performs →
    p₂.ibsta &&& Ibsta.err ≠ 0) → p'.ibsta &&& Ibsta.err ≠ 0

end Law

/-! ## What the answers amount to -/

/-- Something was asked beyond the opening of descriptors. -/
def PastOpening (u : Trace BrokerCall.Reply) : Prop := ∃ e ∈ u, ¬ e.request.Resolves

/-- The vector by which an answered operation is reported. -/
def answerVector (call : DriverCall) (out : Option DriverReply) : StatusVector :=
  match call with
  | .write _ _ _ => ⟨(writeOut out).ibsta, (writeOut out).iberr, (writeOut out).ibcnt⟩
  | .read _ _ => ⟨(readOut out).1.ibsta, (readOut out).1.iberr, (readOut out).1.ibcnt⟩
  | .deviceClear _ | .trigger _ => ⟨(statusOut out).ibsta, 0, 0⟩
  | call => ⟨(statusIn call out).ibsta, (statusIn call out).iberr, 0⟩

/-- An operation on a device. -/
def OperationCall : DriverCall → Bool
  | .write _ _ _ | .read _ _ | .deviceClear _ | .trigger _ | .serialPoll _ => true
  | _ => false

/-- The vectors that the operations in a trace are reported by. -/
def operationVectors (u : Trace BrokerCall.Reply) : List StatusVector :=
  u.filterMap fun
    | ⟨.call _ call, (reply : CallReply)⟩ =>
        if OperationCall call then
          some (if reply.kr.toInt32 = 0 then answerVector call reply.out
            else ⟨Ibsta.err, Iberr.edvr, 0⟩)
        else none
    | _ => none

/-- The vector of the operation; a count out of bounds is refused without asking. -/
def operationVector (u : Trace BrokerCall.Reply) : StatusVector :=
  (operationVectors u).headD ⟨Ibsta.err, Iberr.earg, 0⟩

/-- The vector that closing leaves. -/
def closeVector (u : Trace BrokerCall.Reply) : StatusVector :=
  match decision u with
  | .nobody => ⟨Ibsta.err, Iberr.edvr, 0⟩
  | .unreachable => ⟨Ibsta.err, Iberr.eneb, 0⟩
  | .refused call out | .driver call out =>
      ⟨(statusIn call out).ibsta, (statusIn call out).iberr, 0⟩

/-- What the answers have to be for a call to report its own outcome. -/
structure OutcomeKept (c : ScopedCall) (bd : Int32) (p : Process) (u : Trace BrokerCall.Reply) :
    Prop where
  closed : PastOpening u → c.Performs → closeVector u = operationVector u
  unsent : PastOpening u → c.Sends → ¬ c.Performs → (closeVector u).ibsta &&& Ibsta.err ≠ 0
  unopened : ¬ PastOpening u → c.Sends →
    if inRange (boardOf bd) then
      ∀ call out, decision u = .driver call out → (statusIn call out).ibsta &&& Ibsta.err ≠ 0
    else p.ibsta &&& Ibsta.err ≠ 0
  stale : ¬ PastOpening u → c.Receives → inRange (boardOf bd) = true ∨ p.ibcntl = 0

/-! ## Reaching the board -/

section Runs

variable {i ud : Int32} {p p' : Process} {u : Trace BrokerCall.Reply}

/-- A board in range is known already, or is found, or is not there. -/
theorem run_connForBoard (hi : inRange i = true) {conn : Option Int32}
    (hrun : Run ((connForBoard i).run p) u (conn, p')) :
    (∀ e ∈ u, e.request.Resolves) ∧
      ((conn = some i ∧ p'.reachable i = true ∧ (p.reachable i = true → u = [] ∧ p' = p)) ∨
        (conn = none ∧ p.reachable i = false ∧ decision u = .unreachable ∧
          p'.vector = ⟨Ibsta.err, Iberr.eneb, 0⟩)) := by
  cases lookedUp_of_run hrun with
  | outOfRange hout =>
      rw [hi] at hout
      cases hout
  | known _ hknown => exact ⟨by simp, .inl ⟨rfl, hknown, fun _ => ⟨rfl, rfl⟩⟩⟩
  | absent _ hunknown kr hkr =>
      refine ⟨by simp [BrokerCall.Resolves], .inr ⟨rfl, hunknown, ?_, rfl⟩⟩
      simp [decision, decisionOf, hkr]
  | found _ hunknown =>
      refine ⟨by simp [BrokerCall.Resolves], .inl ⟨rfl, by simp, fun hknown => ?_⟩⟩
      rw [hunknown] at hknown
      cases hknown

theorem run_connForBoard_known (hi : inRange i = true) (hreach : p.reachable i = true)
    {conn : Option Int32} (hrun : Run ((connForBoard i).run p) u (conn, p')) :
    u = [] ∧ conn = some i ∧ p' = p := by
  obtain ⟨-, ⟨hconn, -, hsame⟩ | ⟨-, hnot, -⟩⟩ := run_connForBoard hi hrun
  · obtain ⟨hu, hp⟩ := hsame hreach
    exact ⟨hu, hconn, hp⟩
  · rw [hreach] at hnot
    cases hnot

/-- A descriptor of a device holds its handle itself. -/
theorem run_handleOf_device (hud : IsDeviceUd i ud) {handle : Int32}
    (hrun : Run ((handleOf ud).run p) u (handle, p')) : u = [] ∧ p' = p := by
  rw [handleOf, if_neg (by simp [hud.not_board])] at hrun
  obtain ⟨rfl, heq⟩ := run_stateT_pure_iff.mp hrun
  cases heq
  exact ⟨rfl, rfl⟩

/-- A call on a device of a board that is known. -/
theorem run_callStruct_device (hud : IsDeviceUd i ud) {α : Type} (call : Int → DriverCall)
    {f : Int32 × Option DriverReply → Lib α} {a : α}
    (hrun : Run ((do
      let handle ← handleOf ud
      let r ← callStruct i (call handle.toInt)
      f r).run p) u (a, p')) :
    ∃ h reply r v p₁, u = ⟨.call i (call h), (reply : CallReply)⟩ :: v ∧
      r.2 = reply.out ∧ (r.1 = kernSuccess ↔ reply.kr.toInt32 = 0) ∧
      Run ((f r).run p₁) v (a, p') := by
  obtain ⟨v₁, handle, p₁, w₁, rfl, hv₁, hw₁⟩ := run_stateT_bind_iff.mp hrun
  obtain ⟨rfl, rfl⟩ := run_handleOf_device hud hv₁
  obtain ⟨v₂, r, p₂, w₂, rfl, hv₂, hw₂⟩ := run_stateT_bind_iff.mp hw₁
  obtain ⟨reply, rfl, hout, hkr, -⟩ := run_callStruct hv₂
  exact ⟨handle.toInt, reply, r, w₂, p₂, by simp, hout, hkr, hw₂⟩

/-- Leaving a status behind sets the vector and finds no board. -/
theorem run_return_vector {α : Type} {ibsta iberr : UInt32} {cnt : Nat} {a a' : α}
    (hrun : Run ((do
      setStatus ibsta iberr cnt
      return a).run p) u (a', p')) :
    u = [] ∧ a' = a ∧ p'.vector = ⟨ibsta, iberr, cnt⟩ ∧ p'.reachable = p.reachable := by
  obtain ⟨hu, ha, rfl⟩ := run_setStatus_return hrun
  exact ⟨hu, ha, rfl, rfl⟩

/-! ## Working on the device -/

theorem operationVector_single {conn : Int32} {call : DriverCall} {reply : CallReply}
    (hop : OperationCall call = true) :
    operationVector [⟨.call conn call, reply⟩] =
      if reply.kr.toInt32 = 0 then answerVector call reply.out
      else ⟨Ibsta.err, Iberr.edvr, 0⟩ := by
  simp [operationVector, operationVectors, hop]

/-- The work has left the vector of the operation, and has asked for it unless the board is
still known. -/
structure Worked (i : Int32) (u : Trace BrokerCall.Reply) (p' : Process) : Prop where
  vector_eq : p'.vector = operationVector u
  asked : PastOpening u ∨ u = [] ∧ p'.reachable i = true

theorem pastOpening_of_operation {conn : Int32} {call : DriverCall} {reply : CallReply}
    (hop : OperationCall call = true) :
    PastOpening [⟨.call conn call, reply⟩] := by
  refine ⟨_, List.mem_singleton_self _, fun hresolves => ?_⟩
  cases call <;> first | exact False.elim hresolves | cases hop

/-- An operation that was answered, or was not. -/
theorem worked_of_reply {conn : Int32} {call : DriverCall} {reply : CallReply} {kr : Int32}
    (hop : OperationCall call = true) (hkr : kr = kernSuccess ↔ reply.kr.toInt32 = 0)
    (hvector : p'.vector = if kr = kernSuccess then answerVector call reply.out
      else ⟨Ibsta.err, Iberr.edvr, 0⟩) :
    Worked i [⟨.call conn call, reply⟩] p' := by
  refine ⟨?_, .inl (pastOpening_of_operation hop)⟩
  rw [hvector, operationVector_single hop]
  simp only [hkr]

/-- An operation whose answer is only finished with. -/
theorem worked_onHandle {α : Type} {call : Int → DriverCall} {refused : α}
    {finish : Option DriverReply → Lib (UInt32 × α)} {r : UInt32 × α} (hi : inRange i = true)
    (hud : IsDeviceUd i ud) (hreach : p.reachable i = true)
    (hop : ∀ h, OperationCall (call h) = true)
    (hfinish : ∀ h out p₁ v, Run ((finish out).run p₁) v (r, p') →
      v = [] ∧ p'.vector = answerVector (call h) out)
    (hrun : Run ((onHandle ud call refused finish).run p) u (r, p')) : Worked i u p' := by
  unfold onHandle at hrun
  rw [hud.boardOf_eq] at hrun
  obtain ⟨v₁, conn, p₁, w₁, rfl, hv₁, hw₁⟩ := run_stateT_bind_iff.mp hrun
  obtain ⟨rfl, rfl, rfl⟩ := run_connForBoard_known hi hreach hv₁
  obtain ⟨h, reply, ⟨kr, out⟩, v, p₂, rfl, hout, hkr, hv⟩ := run_callStruct_device hud call hw₁
  simp only at hout hkr
  subst hout
  rcases run_stateT_ite_iff.mp hv with ⟨hne, hv⟩ | ⟨hok, hv⟩
  · obtain ⟨v₂, ret, p₃, w₂, rfl, hv₂, hw₂⟩ := run_stateT_bind_iff.mp hv
    obtain ⟨rfl, -, hvector, -⟩ := run_return_vector hv₂
    obtain ⟨rfl, heq⟩ := run_stateT_pure_iff.mp hw₂
    cases heq
    exact worked_of_reply (hop h) hkr (by rw [hvector, if_neg hne])
  · obtain ⟨rfl, hvector⟩ := hfinish h reply.out p₂ v hv
    exact worked_of_reply (hop h) hkr (by rw [hvector, if_pos (not_not.mp hok)])

/-- A count that is out of bounds is refused without asking. -/
theorem worked_refused {ret : UInt32} (hreach : p.reachable i = true)
    (hrun : Run ((returnErr Iberr.earg).run p) u (ret, p')) : Worked i u p' := by
  obtain ⟨rfl, -, hvector, hsame⟩ := run_return_vector hrun
  exact ⟨hvector, .inr ⟨rfl, by rw [hsame, hreach]⟩⟩

theorem worked_ibwrt {buf : List UInt8} {cnt : Int} {ret : UInt32} (hi : inRange i = true)
    (hud : IsDeviceUd i ud) (hreach : p.reachable i = true)
    (hrun : Run ((ibwrt ud buf cnt).run p) u (ret, p')) : Worked i u p' := by
  unfold ibwrt sendBytes at hrun
  rw [hud.boardOf_eq] at hrun
  obtain ⟨v₁, conn, p₁, w₁, rfl, hv₁, hw₁⟩ := run_stateT_bind_iff.mp hrun
  obtain ⟨rfl, rfl, rfl⟩ := run_connForBoard_known hi hreach hv₁
  rcases run_stateT_ite_iff.mp hw₁ with ⟨-, hw₁⟩ | ⟨-, hw₁⟩
  · exact worked_refused hreach hw₁
  obtain ⟨h, reply, ⟨kr, out⟩, v, p₂, rfl, hout, hkr, hv⟩ :=
    run_callStruct_device hud (.write · 1 (buf.take cnt.toNat)) hw₁
  simp only at hout hkr
  subst hout
  rcases run_stateT_ite_iff.mp hv with ⟨hne, hv⟩ | ⟨hok, hv⟩
  · obtain ⟨rfl, -, hvector, -⟩ := run_return_vector hv
    exact worked_of_reply rfl hkr (by rw [hvector, if_neg hne])
  · obtain ⟨rfl, -, hvector, -⟩ := run_return_vector hv
    exact worked_of_reply rfl hkr (by rw [hvector, if_pos (not_not.mp hok)]; rfl)

theorem worked_ibrd {cnt : Int} {ret : UInt32} {bytes : List UInt8} (hi : inRange i = true)
    (hud : IsDeviceUd i ud) (hreach : p.reachable i = true)
    (hrun : Run ((ibrd ud cnt).run p) u ((ret, bytes), p')) :
    Worked i u p' ∧ bytes.length ≤ p'.ibcntl := by
  unfold ibrd at hrun
  rw [hud.boardOf_eq] at hrun
  obtain ⟨v₁, conn, p₁, w₁, rfl, hv₁, hw₁⟩ := run_stateT_bind_iff.mp hrun
  obtain ⟨rfl, rfl, rfl⟩ := run_connForBoard_known hi hreach hv₁
  rcases run_stateT_ite_iff.mp hw₁ with ⟨-, hw₁⟩ | ⟨-, hw₁⟩
  · obtain ⟨v₂, ret', p₃, w₂, rfl, hv₂, hw₂⟩ := run_stateT_bind_iff.mp hw₁
    have hworked := worked_refused hreach hv₂
    obtain ⟨rfl, heq⟩ := run_stateT_pure_iff.mp hw₂
    cases heq
    exact ⟨by simpa using hworked, by simp⟩
  obtain ⟨h, reply, ⟨kr, out⟩, v, p₂, rfl, hout, hkr, hv⟩ :=
    run_callStruct_device hud (.read · (min cnt.toNat kGPIBMaxInlineRead)) hw₁
  simp only at hout hkr
  subst hout
  rcases run_stateT_ite_iff.mp hv with ⟨hne, hv⟩ | ⟨hok, hv⟩
  · obtain ⟨v₂, ret', p₃, w₂, rfl, hv₂, hw₂⟩ := run_stateT_bind_iff.mp hv
    obtain ⟨rfl, -, hvector, -⟩ := run_return_vector hv₂
    obtain ⟨rfl, heq⟩ := run_stateT_pure_iff.mp hw₂
    cases heq
    exact ⟨worked_of_reply rfl hkr (by rw [hvector, if_neg hne]), by simp⟩
  · obtain ⟨rfl, heq, hvector, -⟩ := run_return_vector hv
    refine ⟨worked_of_reply rfl hkr (by rw [hvector, if_pos (not_not.mp hok)]; rfl), ?_⟩
    have hcnt : p'.ibcntl = (readOut reply.out).1.ibcnt := congrArg StatusVector.ibcntl hvector
    rw [hcnt, (Prod.mk.inj heq).2, receivedBytes, List.length_take]
    omega

theorem worked_simpleHandleCall (call : Int → DriverCall) {ret : UInt32}
    (hi : inRange i = true) (hud : IsDeviceUd i ud) (hreach : p.reachable i = true)
    (hop : ∀ h, OperationCall (call h) = true)
    (hcall : ∀ h out, answerVector (call h) out = ⟨(statusOut out).ibsta, 0, 0⟩)
    (hrun : Run ((simpleHandleCall ud call).run p) u (ret, p')) : Worked i u p' := by
  obtain ⟨r, hcalled, -⟩ := run_stateT_bind_pure_iff.mp hrun
  refine worked_onHandle hi hud hreach hop (fun h out p₁ v hv => ?_) hcalled
  obtain ⟨v₁, ret, p₂, w₁, rfl, hv₁, hw₁⟩ := run_stateT_bind_iff.mp hv
  obtain ⟨rfl, -, hvector, -⟩ := run_return_vector hv₁
  obtain ⟨rfl, heq⟩ := run_stateT_pure_iff.mp hw₁
  cases heq
  exact ⟨rfl, by rw [hvector, hcall]⟩

theorem worked_ibrsp {r : UInt32 × Option UInt8} (hi : inRange i = true)
    (hud : IsDeviceUd i ud) (hreach : p.reachable i = true)
    (hrun : Run ((ibrsp ud).run p) u (r, p')) : Worked i u p' := by
  refine worked_onHandle hi hud hreach (fun _ => rfl) (fun h out p₁ v hv => ?_) hrun
  obtain ⟨rfl, -, hvector, -⟩ := run_return_vector hv
  exact ⟨rfl, hvector⟩

/-- The work of a call is its operation, if it performs one. -/
theorem worked_operate {c : ScopedCall} {stored : List UInt8} (hi : inRange i = true)
    (hud : IsDeviceUd i ud) (hreach : p.reachable i = true)
    (hrun : Run ((c.operate ud).run p) u (stored, p')) :
    (c.Performs → Worked i u p') ∧ (¬ c.Performs → u = [] ∧ p'.reachable i = true) ∧
      stored.length ≤ p'.ibcntl := by
  cases c with
  | send buffer count eotMode allocated =>
      obtain ⟨_, hsend, rfl⟩ := run_stateT_bind_pure_iff.mp hrun
      refine ⟨fun hperforms => ?_, fun hnot => ?_, by simp⟩
      · rcases run_stateT_ite_iff.mp hsend with ⟨hmode, hsend⟩ | ⟨-, hsend⟩
        · rcases run_stateT_ite_iff.mp hsend with ⟨-, hsend⟩ | ⟨hfull, -⟩
          · obtain ⟨ret, hwrite, -⟩ := run_stateT_bind_pure_iff.mp hsend
            exact worked_ibwrt hi hud hreach hwrite
          · exact absurd (hperforms hmode) hfull
        · obtain ⟨ret, hwrite, -⟩ := run_stateT_bind_pure_iff.mp hsend
          exact worked_ibwrt hi hud hreach hwrite
      · simp only [ScopedCall.Performs, Classical.not_imp] at hnot
        rcases run_stateT_ite_iff.mp hsend with ⟨-, hsend⟩ | ⟨hmode, -⟩
        · rcases run_stateT_ite_iff.mp hsend with ⟨hroom, -⟩ | ⟨-, hsend⟩
          · exact absurd hroom hnot.2
          · obtain ⟨rfl, heq⟩ := run_stateT_pure_iff.mp hsend
            cases heq
            exact ⟨rfl, hreach⟩
        · exact absurd hnot.1 hmode
  | receive count =>
      obtain ⟨⟨ret, bytes⟩, hread, rfl⟩ := run_stateT_bind_pure_iff.mp hrun
      obtain ⟨hworked, hle⟩ := worked_ibrd hi hud hreach hread
      exact ⟨fun _ => hworked, fun hnot => absurd trivial hnot, hle⟩
  | devClear =>
      obtain ⟨_, hdevice, rfl⟩ := run_stateT_bind_pure_iff.mp hrun
      obtain ⟨ret, hclear, -⟩ := run_stateT_bind_pure_iff.mp hdevice
      refine ⟨fun _ => ?_, fun hnot => absurd trivial hnot, by simp⟩
      exact worked_simpleHandleCall .deviceClear hi hud hreach (fun _ => rfl)
        (fun _ _ => rfl) hclear
  | trigger =>
      obtain ⟨_, hdevice, rfl⟩ := run_stateT_bind_pure_iff.mp hrun
      obtain ⟨ret, htrigger, -⟩ := run_stateT_bind_pure_iff.mp hdevice
      refine ⟨fun _ => ?_, fun hnot => absurd trivial hnot, by simp⟩
      exact worked_simpleHandleCall .trigger hi hud hreach (fun _ => rfl)
        (fun _ _ => rfl) htrigger
  | readStatusByte =>
      obtain ⟨_, hdevice, rfl⟩ := run_stateT_bind_pure_iff.mp hrun
      obtain ⟨r, hpoll, -⟩ := run_stateT_bind_pure_iff.mp hdevice
      exact ⟨fun _ => worked_ibrsp hi hud hreach hpoll, fun hnot => absurd trivial hnot, by simp⟩

/-! ## Opening and closing -/

variable {c : ScopedCall} {bd : Int32} {address : Addr4882} {stored : List UInt8}

/-- An opened device is one of a board that is known by then. -/
theorem run_openDevice_opened (hrun : Run ((openDevice bd address).run p) u (ud, p'))
    (hud : ¬ ud < 0) :
    inRange (boardOf bd) = true ∧ IsDeviceUd (boardOf bd) ud ∧
      p'.reachable (boardOf bd) = true := by
  by_cases hi : inRange (boardOf bd) = true
  swap
  · obtain ⟨-, rfl, -⟩ := run_boardHandle_bind hi hrun rfl
    exact absurd (by decide) hud
  refine ⟨hi, ?_⟩
  obtain ⟨v₁, h, p₁, w₁, rfl, hv₁, hw₁⟩ := run_stateT_bind_iff.mp hrun
  rcases run_stateT_guard_iff.mp hw₁ with ⟨-, -, ⟨⟩⟩ | ⟨-, hw₁⟩
  · exact absurd (by decide) hud
  obtain ⟨v₂, conn, p₂, w₂, rfl, hv₂, hw₂⟩ := run_stateT_bind_iff.mp hw₁
  obtain ⟨-, ⟨rfl, hreach, -⟩ | ⟨rfl, -⟩⟩ := run_connForBoard hi hv₂
  swap
  · obtain ⟨-, heq⟩ := run_stateT_pure_iff.mp hw₂
    cases heq
    exact absurd (by decide) hud
  obtain ⟨v₃, ⟨kr, out⟩, p₃, w₃, rfl, hv₃, hw₃⟩ := run_stateT_bind_iff.mp hw₂
  obtain ⟨reply, rfl, -, -, hp₃⟩ := run_callStruct hv₃
  rcases run_stateT_ite_iff.mp hw₃ with ⟨-, hw₃⟩ | ⟨hok, hw₃⟩
  · obtain ⟨-, rfl, -, -⟩ := run_return_vector hw₃
    exact absurd (by decide) hud
  rcases run_stateT_ite_iff.mp hw₃ with ⟨-, hw₃⟩ | ⟨-, hw₃⟩
  · obtain ⟨-, rfl, -, -⟩ := run_return_vector hw₃
    exact absurd (by decide) hud
  obtain ⟨-, rfl, -, hsame⟩ := run_return_vector hw₃
  refine ⟨isDeviceUd_makeUd hi _, ?_⟩
  rw [hsame]
  rcases hp₃ with rfl | ⟨hne, -⟩
  · exact hreach
  · exact absurd hne hok

@[simp] theorem operationVectors_append (u v : Trace BrokerCall.Reply) :
    operationVectors (u ++ v) = operationVectors u ++ operationVectors v :=
  List.filterMap_append

theorem operationVectors_of_resolves (h : ∀ e ∈ u, e.request.Resolves) :
    operationVectors u = [] := by
  apply List.filterMap_eq_nil_iff.mpr
  intro e he
  have hresolves := h e he
  obtain ⟨request, r⟩ := e
  cases request with
  | probe board => rfl
  | call board call => cases call <;> first | rfl | exact hresolves.elim

theorem decision_append {past : Trace BrokerCall.Reply} (hne : u ≠ []) :
    decision (past ++ u) = decision u := by
  simp [decision, List.getLast?_append_of_ne_nil _ hne]

/-- Closing asks for no operation, and leaves what its own answer says. -/
theorem run_closing (hi : inRange i = true) (hud : IsDeviceUd i ud) {ret : UInt32}
    (hrun : Run ((ibonl ud 0).run p) u (ret, p')) :
    operationVectors u = [] ∧ (p.reachable i = true → PastOpening u) ∧
      ∀ past, p'.vector = closeVector (past ++ u) := by
  unfold ibonl at hrun
  rw [hud.boardOf_eq] at hrun
  obtain ⟨v, conn, p₁, w, rfl, hv, hw⟩ := run_stateT_bind_iff.mp hrun
  obtain ⟨hresolves, ⟨rfl, hreach, -⟩ | ⟨rfl, hunknown, hdecision, hvector⟩⟩ :=
    run_connForBoard hi hv
  · rcases run_stateT_ite_iff.mp hw with ⟨-, hw⟩ | ⟨hne, -⟩
    swap
    · exact absurd rfl hne
    obtain ⟨h, reply, ⟨kr, out⟩, x, p₂, rfl, hout, -, hx⟩ :=
      run_callStruct_device hud .closeDescriptor hw
    simp only at hout
    subst hout
    obtain ⟨rfl, -, hvector, -⟩ := run_return_vector hx
    refine ⟨?_, fun _ => ?_, fun past => ?_⟩
    · rw [operationVectors_append, operationVectors_of_resolves hresolves]
      rfl
    · exact ⟨_, List.mem_append_right _ (List.mem_singleton_self _), id⟩
    · rw [hvector, ← List.append_assoc, closeVector, decision_concat]
      by_cases hkr : reply.kr.toInt32 = 0
      · simp [decisionOf, hkr, statusIn]
      · simp [decisionOf, hkr, statusIn]
  · obtain ⟨rfl, heq⟩ := run_stateT_pure_iff.mp hw
    cases heq
    rw [List.append_nil]
    refine ⟨operationVectors_of_resolves hresolves, fun hreach => ?_, fun past => ?_⟩
    · rw [hunknown] at hreach
      cases hreach
    · have hne : v ≠ [] := by
        rintro rfl
        cases hdecision
      rw [hvector, closeVector, decision_append hne, hdecision]

/-! ## The whole call -/

/-- What the answers say of a call that opened its descriptor. -/
theorem Operated.facts {p₂ : Process} (h : Operated c bd address p u stored p₂ p') :
    PastOpening u ∧ p'.vector = closeVector u ∧ (c.Performs → p₂.vector = operationVector u) ∧
      stored.length ≤ p₂.ibcntl := by
  obtain ⟨opening, operation, closing, ud, p₁, ret, rfl, hud, hopening, hoperation, hclosing⟩ := h
  obtain ⟨hi, hdevice, hreach⟩ := run_openDevice_opened hopening hud
  have hresolves := ((resolving_ibdev _ _ _ _ _ _).of_run hopening).1
  simp only [not_not] at hresolves
  obtain ⟨hperforms, hidle, hle⟩ := worked_operate hi hdevice hreach hoperation
  obtain ⟨hnone, hpast, hvector⟩ := run_closing hi hdevice hclosing
  refine ⟨?_, hvector _, fun hperformed => ?_, hle⟩
  · have hasked : PastOpening operation ∨ PastOpening closing := by
      by_cases hperformed : c.Performs
      · rcases (hperforms hperformed).asked with hasked | ⟨-, hknown⟩
        · exact .inl hasked
        · exact .inr (hpast hknown)
      · exact .inr (hpast (hidle hperformed).2)
    rcases hasked with ⟨e, he, hnot⟩ | ⟨e, he, hnot⟩
    · exact ⟨e, by simp [he], hnot⟩
    · exact ⟨e, by simp [he], hnot⟩
  · rw [(hperforms hperformed).vector_eq, operationVector, operationVector,
      operationVectors_append, operationVectors_append, operationVectors_of_resolves hresolves,
      hnone, List.nil_append, List.append_nil]

/-- A scoped call opens its descriptor, works on it and closes it; or opening fails. -/
theorem run_withDevice {α : Type} {absent a : α} {op : Int32 → Lib α}
    (hrun : Run ((withDevice bd address absent op).run p) u (a, p')) :
    (∃ ud, ud < 0 ∧ Run ((openDevice bd address).run p) u (ud, p') ∧ a = absent) ∨
      ∃ opening operation closing ud p₁ p₂ ret, u = opening ++ operation ++ closing ∧ ¬ ud < 0 ∧
        Run ((openDevice bd address).run p) opening (ud, p₁) ∧
        Run ((op ud).run p₁) operation (a, p₂) ∧
        Run ((ibonl ud 0).run p₂) closing (ret, p') := by
  obtain ⟨v₁, ud, p₁, w₁, rfl, hv₁, hw₁⟩ := run_stateT_bind_iff.mp hrun
  rcases run_stateT_guard_iff.mp hw₁ with ⟨hneg, rfl, ⟨⟩⟩ | ⟨hud, hw₁⟩
  · exact .inl ⟨ud, hneg, by simpa using hv₁, rfl⟩
  · obtain ⟨v₂, b, p₂, w₂, rfl, hv₂, hw₂⟩ := run_stateT_bind_iff.mp hw₁
    obtain ⟨ret, hclosing, rfl⟩ := run_stateT_bind_pure_iff.mp hw₂
    exact .inr ⟨v₁, v₂, w₂, ud, p₁, p₂, ret, by simp, hud, hv₁, hv₂, hclosing⟩

/-- The calls are scoped calls with the result mapped to what is stored. -/
theorem run_exec (hrun : Run ((c.exec bd address).run p) u (stored, p')) :
    (∃ ud, ud < 0 ∧ Run ((openDevice bd address).run p) u (ud, p') ∧ stored = []) ∨
      ∃ p₂, Operated c bd address p u stored p₂ p' := by
  have hmap {α : Type} {absent : α} {op : Int32 → Lib α} {f : α → List UInt8}
      (hop : ∀ ud, c.operate ud = op ud >>= fun a => pure (f a)) (habsent : f absent = [])
      (hexec : c.exec bd address = withDevice bd address absent op >>= fun a => pure (f a)) :
      (∃ ud, ud < 0 ∧ Run ((openDevice bd address).run p) u (ud, p') ∧ stored = []) ∨
        ∃ p₂, Operated c bd address p u stored p₂ p' := by
    rw [hexec] at hrun
    obtain ⟨a, hscoped, rfl⟩ := run_stateT_bind_pure_iff.mp hrun
    rcases run_withDevice hscoped with ⟨ud, hneg, hopening, rfl⟩ |
      ⟨opening, operation, closing, ud, p₁, p₂, ret, hu, hud, hopening, hoperation, hclosing⟩
    · exact .inl ⟨ud, hneg, hopening, habsent⟩
    · refine .inr ⟨p₂, opening, operation, closing, ud, p₁, ret, hu, hud, hopening, ?_, hclosing⟩
      rw [hop]
      exact run_stateT_bind_pure_iff.mpr ⟨a, hoperation, rfl⟩
  cases c with
  | send buffer count eotMode allocated => exact hmap (fun _ => rfl) rfl rfl
  | receive count => exact hmap (f := id) (fun _ => (bind_pure _).symm) rfl (bind_pure _).symm
  | devClear => exact hmap (fun _ => rfl) rfl rfl
  | trigger => exact hmap (fun _ => rfl) rfl rfl
  | readStatusByte => exact hmap (fun _ => rfl) rfl rfl

/-- A descriptor that could not be opened leaves an error without a count, unless the index
names no board, which leaves everything as it was. -/
theorem run_openDevice_failed (hrun : Run ((openDevice bd address).run p) u (ud, p'))
    (hud : ud < 0) :
    if inRange (boardOf bd) then
      p'.ibcntl = 0 ∧ (p'.ibsta &&& Ibsta.err ≠ 0 ↔
        ∀ call out, decision u = .driver call out → (statusIn call out).ibsta &&& Ibsta.err ≠ 0)
    else p' = p := by
  split
  · rename_i hi
    rcases (ends_ibdev hi _ _ _ _ _).of_recording rfl hrun with ⟨-, hfailed⟩ | ⟨hnot, -⟩
    · cases hfailed with
      | lost hsta hcnt hunanswered =>
          refine ⟨hcnt, iff_of_true (by rw [hsta]; decide) fun call out h => ?_⟩
          exact absurd h (hunanswered call out)
      | rejected hdecision hhandle hcnt hshown =>
          refine ⟨hcnt, ?_⟩
          rw [forall_driver_iff hdecision, hshown.1]
          rfl
    · exact absurd hud hnot
  · rename_i hi
    exact (run_boardHandle_bind hi hrun rfl).2.2

@[simp] theorem closeVector_ibcntl (u : Trace BrokerCall.Reply) : (closeVector u).ibcntl = 0 := by
  unfold closeVector
  split <;> rfl

/-- A call that did not get to its operation. -/
theorem reportsOutcome_iff_of_failed (hud : ud < 0)
    (hopening : Run ((openDevice bd address).run p) u (ud, p')) :
    ReportsOutcome c bd address p u [] p' ↔ OutcomeKept c bd p u := by
  have hresolves := ((resolving_ibdev _ _ _ _ _ _).of_run hopening).1
  simp only [not_not] at hresolves
  have hnot : ¬ PastOpening u := fun ⟨e, he, h⟩ => h (hresolves e he)
  have hidle (p₂ : Process) : ¬ Operated c bd address p u [] p₂ p' := fun h => hnot h.facts.1
  have hfailed := run_openDevice_failed hopening hud
  have hcnt : p'.ibcntl = 0 ↔ inRange (boardOf bd) = true ∨ p.ibcntl = 0 := by
    by_cases hi : inRange (boardOf bd) = true
    · rw [if_pos hi] at hfailed
      exact iff_of_true hfailed.1 (.inl hi)
    · rw [if_neg hi] at hfailed
      simp [hfailed, hi]
  have hsta : p'.ibsta &&& Ibsta.err ≠ 0 ↔ if inRange (boardOf bd) then
      ∀ call out, decision u = .driver call out → (statusIn call out).ibsta &&& Ibsta.err ≠ 0
      else p.ibsta &&& Ibsta.err ≠ 0 := by
    by_cases hi : inRange (boardOf bd) = true
    · rw [if_pos hi] at hfailed ⊢
      exact hfailed.2
    · rw [if_neg hi] at hfailed ⊢
      rw [hfailed]
  constructor
  · intro hreports
    refine ⟨fun h => absurd h hnot, fun h => absurd h hnot, fun _ hsends => ?_,
      fun _ hreceives => ?_⟩
    · exact hsta.mp (hreports.sent hsends fun p₂ h => absurd h (hidle p₂))
    · exact hcnt.mp (hreports.received hreceives)
  · intro hkept
    refine ⟨fun p₂ h => absurd h (hidle p₂), fun hreceives => ?_, fun hsends _ => ?_⟩
    · exact hcnt.mpr (hkept.stale hnot hreceives)
    · exact hsta.mpr (hkept.unopened hnot hsends)

/-- A call that performed its operation, or had no room for it. -/
theorem reportsOutcome_iff_of_operated {p₂ : Process}
    (hoperated : Operated c bd address p u stored p₂ p') :
    ReportsOutcome c bd address p u stored p' ↔ OutcomeKept c bd p u := by
  obtain ⟨hpast, hclose, hoperation, hle⟩ := hoperated.facts
  constructor
  · intro hreports
    refine ⟨fun _ hperforms => ?_, fun _ hsends hnot => ?_, fun h => absurd hpast h,
      fun h => absurd hpast h⟩
    · rw [← hclose, ← hoperation hperforms]
      exact hreports.performed p₂ hoperated hperforms
    · rw [← hclose]
      exact hreports.sent hsends fun _ _ hperforms => absurd hperforms hnot
  · intro hkept
    refine ⟨fun p₃ hoperated' hperforms => ?_, fun hreceives => ?_, fun hsends herr => ?_⟩
    · rw [hclose, hkept.closed hpast hperforms, hoperated'.facts.2.2.1 hperforms]
    · have hperforms : c.Performs := by
        cases c with
        | receive count => trivial
        | _ => exact hreceives.elim
      have hnone : p₂.vector.ibcntl = 0 := by
        rw [hoperation hperforms, ← hkept.closed hpast hperforms, closeVector_ibcntl]
      have hshown : p'.vector.ibcntl = 0 := by rw [hclose, closeVector_ibcntl]
      change p₂.ibcntl = 0 at hnone
      change p'.ibcntl = 0 at hshown
      omega
    · by_cases hperforms : c.Performs
      · have hsame : p'.vector = p₂.vector := by
          rw [hclose, hkept.closed hpast hperforms, hoperation hperforms]
        have hsta : p'.ibsta = p₂.ibsta := congrArg StatusVector.ibsta hsame
        rw [hsta]
        exact herr p₂ hoperated hperforms
      · have hsta : p'.ibsta = (closeVector u).ibsta := congrArg StatusVector.ibsta hclose
        rw [hsta]
        exact hkept.unsent hpast hsends hperforms

/-- A call reports its own outcome if and only if the answer to the close repeats the answer to
an operation that counted nothing, and a failure to open is recorded as one. -/
theorem device_calls_report_iff (hrun : Run ((c.exec bd address).run p) u (stored, p')) :
    ReportsOutcome c bd address p u stored p' ↔ OutcomeKept c bd p u := by
  rcases run_exec hrun with ⟨ud, hud, hopening, rfl⟩ | ⟨p₂, hoperated⟩
  · exact reportsOutcome_iff_of_failed hud hopening
  · exact reportsOutcome_iff_of_operated hoperated

end Runs

namespace Example

/-- A process that has found board 0 and opened its descriptor. -/
def settled : Process where
  reachable := Function.update (fun _ => false) 0 true
  boardHandles := Function.update (fun _ => -1) 0 1
  ibsta := Ibsta.cmpl
  iberr := 0
  ibcntl := 0

/-- A device at 5 is opened as handle 2 and closed again, with one exchange in between. -/
def scopedTrace (e : Exchange BrokerCall.Reply) : Trace BrokerCall.Reply :=
  [answered (.openDescriptor (deviceDescriptorIn 5 (-1) t3s 1 0)) (.opened 2 ⟨Ibsta.cmpl, 0⟩),
    e, answered (.closeDescriptor 2) (.status ⟨Ibsta.cmpl, 0⟩)]

def clearTrace : Trace BrokerCall.Reply :=
  scopedTrace (answered (.deviceClear 2) (.status ⟨Ibsta.cmpl, 0⟩))

def readTrace : Trace BrokerCall.Reply :=
  scopedTrace (answered (.read 2 3)
    (.read ⟨⟨Ibsta.cmpl ||| Ibsta.end, 0⟩, 3⟩ true [79, 75, 10] 19))

theorem run_clear : Run ((ScopedCall.devClear.exec 0 0x0005).run settled) clearTrace
    ([], settled) :=
  .ask (.ask (.ask (.pure _)))

theorem run_read : Run (((ScopedCall.receive 3).exec 0 0x0005).run settled) readTrace
    ([79, 75, 10], settled) :=
  .ask (.ask (.ask (.pure _)))

end Example

open Example in
/-- A device that is cleared without an error, and closed without one. -/
theorem clear_reported : ReportsOutcome .devClear 0 0x0005 settled clearTrace [] settled := by
  have hpast : PastOpening clearTrace :=
    ⟨answered (.deviceClear 2) (.status ⟨Ibsta.cmpl, 0⟩), by simp [clearTrace, scopedTrace], id⟩
  exact (device_calls_report_iff run_clear).mpr
    ⟨fun _ _ => rfl, fun _ h => h.elim, fun h => absurd hpast h, fun h => absurd hpast h⟩

open Example in
/-- `Receive` stores three bytes, and `ibcntl` is 0. -/
theorem receive_not_reported :
    ∃ p', Run (((ScopedCall.receive 3).exec 0 0x0005).run settled) readTrace
        ([79, 75, 10], p') ∧
      ¬ ReportsOutcome (.receive 3) 0 0x0005 settled readTrace [79, 75, 10] p' := by
  refine ⟨settled, run_read, fun hreports => ?_⟩
  have hcount : (0 : Nat) = 3 := hreports.received trivial
  cases hcount

end Libgpib

end DarwinGpib
