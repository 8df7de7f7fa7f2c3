import DarwinGpib.Client.DispatchEffect
import DarwinGpib.Client.PackedDescriptors

/-!
# The cached board handle

One process calls the library against one driver board, at index 0. `Served` is what the broker
and the driver make of a request, `Step` one library call or a re-enumeration of the adapter.
The handle that the library caches for the board stays that of an open board descriptor, apart
from every device it holds, until its descriptor is closed or the table is emptied.
-/

namespace DarwinGpib

open Interaction UserClient

namespace Libgpib

/-! ## Calls and the world they act on -/

/-- The calls of the library, with what the file system answers to those on files. -/
inductive LibCall where
  | ibdev (boardIndex pad sad timo sendEoi eosmode : Int32)
  | ibfind (name : Option (List Char))
  | ibonl (ud onl : Int32)
  | ibpad (ud v : Int32)
  | ibsad (ud v : Int32)
  | ibtmo (ud v : Int32)
  | ibeot (ud v : Int32)
  | ibeos (ud v : Int32)
  | ibconfig (ud option value : Int32)
  | ibask (ud option : Int32)
  | ibwrt (ud : Int32) (buf : List UInt8) (cnt : Int)
  | ibrd (ud : Int32) (cnt : Int)
  | ibcmd (ud : Int32) (cmd : List UInt8) (cnt : Int)
  | ibclr (ud : Int32)
  | ibsic (ud : Int32)
  | ibtrg (ud : Int32)
  | ibloc (ud : Int32)
  | ibsre (ud v : Int32)
  | ibwait (ud mask : Int32)
  | ibrsp (ud : Int32)
  | iblines (ud : Int32)
  | ibln (ud pad sad : Int32)
  | ibwrtf (ud : Int32) (file : Option (List UInt8))
  | ibrdf (ud : Int32) (opened : Bool) (fuel : Nat) (buf : List UInt8)
  deriving DecidableEq

/-- A call whose result is a status. -/
def withStatus {α : Type} (x : Lib (UInt32 × α)) : Lib Int32 := do
  let (ibsta, _) ← x
  return ibsta.toInt32

def ofStatus (x : Lib UInt32) : Lib Int32 := do
  let ibsta ← x
  return ibsta.toInt32

/-- The value that a call returns. -/
def LibCall.exec : LibCall → Lib Int32
  | ibdev boardIndex pad sad timo sendEoi eosmode =>
      Libgpib.ibdev boardIndex pad sad timo sendEoi eosmode
  | ibfind name => Libgpib.ibfind name
  | ibonl ud onl => ofStatus (Libgpib.ibonl ud onl)
  | ibpad ud v => ofStatus (Libgpib.ibpad ud v)
  | ibsad ud v => ofStatus (Libgpib.ibsad ud v)
  | ibtmo ud v => ofStatus (Libgpib.ibtmo ud v)
  | ibeot ud v => ofStatus (Libgpib.ibeot ud v)
  | ibeos ud v => ofStatus (Libgpib.ibeos ud v)
  | ibconfig ud option value => ofStatus (Libgpib.ibconfig ud option value)
  | ibask ud option => withStatus (Libgpib.ibask ud option)
  | ibwrt ud buf cnt => ofStatus (Libgpib.ibwrt ud buf cnt)
  | ibrd ud cnt => withStatus (Libgpib.ibrd ud cnt)
  | ibcmd ud cmd cnt => ofStatus (Libgpib.ibcmd ud cmd cnt)
  | ibclr ud => ofStatus (Libgpib.ibclr ud)
  | ibsic ud => ofStatus (Libgpib.ibsic ud)
  | ibtrg ud => ofStatus (Libgpib.ibtrg ud)
  | ibloc ud => ofStatus (Libgpib.ibloc ud)
  | ibsre ud v => ofStatus (Libgpib.ibsre ud v)
  | ibwait ud mask => ofStatus (Libgpib.ibwait ud mask)
  | ibrsp ud => withStatus (Libgpib.ibrsp ud)
  | iblines ud => withStatus (Libgpib.iblines ud)
  | ibln ud pad sad => withStatus (Libgpib.ibln ud pad sad)
  | ibwrtf ud file => ofStatus (Libgpib.ibwrtf ud file)
  | ibrdf ud opened fuel buf => do
      let (last, _) ← Libgpib.ibrdf ud opened fuel buf
      return (last.getD 0).toInt32

/-- The device descriptors that the process holds behind a call that returned `ret`. -/
def LibCall.heldAfter (c : LibCall) (ret : Int32) (held : List Int32) : List Int32 :=
  match c with
  | ibdev _ _ _ _ _ _ => if 0 ≤ ret then ret :: held else held
  | ibonl ud onl =>
      if onl = 0 ∧ ret.toUInt32 &&& Ibsta.err = 0 then held.filter (· ≠ ud) else held
  | _ => held

section Worlds

variable {τ : Type} (T : IGPIBTransport (StateT τ Usb)) (now : StateT τ Usb UInt64) (fuel : Nat)

/-- What becomes of a request: a call is refused, or the driver board at index 0 takes it and
its reply comes back. -/
inductive Served : GPIBBoard × τ → Exchange BrokerCall.Reply → GPIBBoard × τ → Prop where
  | probe {d i} {kr : Int64} (h : i ≠ 0 → kr ≠ 0) : Served d ⟨.probe i, kr⟩ d
  | refused {d i c} {reply : CallReply} (h : reply.kr.toInt32 ≠ 0) :
      Served d ⟨.call i c, reply⟩ d
  | taken {b b' t t' c u out}
      (h : Run ((dispatch T b now fuel c).run t) u (some (out, b'), t')) :
      Served (b, t) ⟨.call 0 c, (⟨0, some out⟩ : CallReply)⟩ (b', t')

/-- The process, the driver board and its transport, and the device descriptors that the
process holds. -/
structure World (τ : Type) where
  process : Process
  board : GPIBBoard
  transport : τ
  held : List Int32

/-- A library call with its exchanges, or a re-enumeration. -/
inductive Event where
  | call (c : LibCall) (u : Trace BrokerCall.Reply)
  | reenumerate

inductive Step : World τ → Event → World τ → Prop where
  | call {w c u ret p' b' t'}
      (hrun : Run (c.exec.run w.process) u (ret, p'))
      (hserves : Serves (Served T now fuel) (w.board, w.transport) u (b', t')) :
      Step w (.call c u) ⟨p', b', t', c.heldAfter ret w.held⟩
  | reenumerate {w t'} :
      Step w .reenumerate { w with board := .init, transport := t' }

/-- The worlds of a run, latest first, each with the event that happened there. -/
inductive History : List (World τ × Event) → World τ → Prop where
  | start {b t} : History [] ⟨.init, b, t, []⟩
  | step {past w e w'} (h : History past w) (hstep : Step T now fuel w e w') :
      History ((w, e) :: past) w'

/-- The handle that the library finds for a board descriptor is that of an open board
descriptor, and of no device that the process holds. -/
def NeverAliases (w : World τ) : Prop :=
  ∀ ud u h p' d', isBoardUd ud = true → Run ((handleOf ud).run w.process) u (h, p') →
    Serves (Served T now fuel) (w.board, w.transport) u d' → 0 ≤ h →
      BoardOpen d'.1 h.toInt ∧ ∀ dev ∈ w.held, dev &&& handleMask ≠ h

end Worlds

/-! ## The invariant -/

section Invariant

variable {τ : Type} {T : IGPIBTransport (StateT τ Usb)} {now : StateT τ Usb UInt64} {fuel : Nat}

/-- Only board 0 is ever reached; its cached handle is open and apart from what is held, and
nothing is held before there is one. -/
structure Inv (held : List Int32) (p : Process) (d : GPIBBoard × τ) : Prop where
  reachable : ∀ i, i ≠ 0 → p.reachable i = false
  others : ∀ i, i ≠ 0 → p.boardHandles i < 0
  unopened : p.boardHandles 0 < 0 → held = []
  boardOpen : 0 ≤ p.boardHandles 0 → BoardOpen d.1 (p.boardHandles 0).toInt
  distinct : ∀ dev ∈ held, dev &&& handleMask ≠ p.boardHandles 0

variable {held : List Int32} {p : Process} {d d' : GPIBBoard × τ}

theorem inv_init (b : GPIBBoard) (t : τ) : Inv [] .init (b, t) where
  reachable _ _ := rfl
  others _ _ := show (-1 : Int32) < 0 by decide
  unopened _ := rfl
  boardOpen h := absurd h (by decide)
  distinct _ h := by cases h

theorem Inv.status (h : Inv held p d) (ibsta iberr : UInt32) (cnt : Nat) :
    Inv held { p with ibsta, iberr, ibcntl := cnt } d :=
  ⟨h.reachable, h.others, h.unopened, h.boardOpen, h.distinct⟩

/-- Marking a board as reachable or not, if it is board 0 when it is. -/
theorem Inv.setReachable (h : Inv held p d) {i : Int32} {reachable : Bool}
    (hi : reachable = true → i = 0) :
    Inv held { p with reachable := Function.update p.reachable i reachable } d := by
  refine ⟨?_, h.others, h.unopened, h.boardOpen, h.distinct⟩
  intro j hj
  by_cases hji : j = i
  · subst hji
    change Function.update p.reachable j reachable j = false
    rw [Function.update_self]
    cases reachable with
    | false => rfl
    | true => exact absurd (hi rfl) hj
  · change Function.update p.reachable i reachable j = false
    rw [Function.update_of_ne hji, h.reachable j hj]

/-- A call that does not close the cached handle. -/
theorem Inv.taken (h : Inv held p d) {c : DriverCall} {out : DriverReply}
    (heffect : TableEffect d.1 c (out, d'.1))
    (hc : 0 ≤ p.boardHandles 0 → c ≠ .closeDescriptor (p.boardHandles 0).toInt) :
    Inv held p d' :=
  ⟨h.reachable, h.others, h.unopened,
    fun hcached => heffect.boardOpen (hc hcached) (h.boardOpen hcached), h.distinct⟩

/-! ## What the helpers of the library do -/

/-- The invariant, and what is known of the cached handles besides. -/
def InvWith (held : List Int32) (K : (Int32 → Int32) → Prop) (p : Process)
    (d : GPIBBoard × τ) : Prop :=
  Inv held p d ∧ K p.boardHandles

variable {K : (Int32 → Int32) → Prop}

/-- What a part of a library call does between the process and the served board. -/
abbrev Calls {α : Type} (T : IGPIBTransport (StateT τ Usb)) (now : StateT τ Usb UInt64)
    (fuel : Nat) (P : Process → GPIBBoard × τ → Prop) (x : Lib α)
    (Q : α → Process → GPIBBoard × τ → Prop) : Prop :=
  Triple (Served T now fuel) P x Q

theorem calls_setStatus (ibsta iberr : UInt32) (cnt : Nat) :
    Calls T now fuel (InvWith held K) (setStatus ibsta iberr cnt) fun _ => InvWith held K :=
  triple_modify fun _ _ h => ⟨h.1.status _ _ _, h.2⟩

/-- Leaving a status behind, and then a value. -/
theorem calls_finish {α : Type} (ibsta iberr : UInt32) (cnt : Nat) (a : α)
    {Q : α → Process → GPIBBoard × τ → Prop} (hQ : ∀ p d, InvWith held K p d → Q a p d) :
    Calls T now fuel (InvWith held K) (do
      setStatus ibsta iberr cnt
      return a) Q :=
  triple_bind (calls_setStatus ibsta iberr cnt) fun _ => triple_pure hQ

/-- Only board 0 is found. -/
theorem calls_connForBoard (i : Int32) :
    Calls T now fuel (InvWith held K) (connForBoard i) fun conn p d =>
      (∀ c, conn = some c → c = 0 ∧ i = 0) ∧ InvWith held K p d := by
  have hzero (hi : i = 0) : ∀ c, some i = some c → c = 0 ∧ i = 0 := by
    intro c hc
    cases hc
    exact ⟨hi, hi⟩
  intro p d u conn p' d' h hrun hserves
  cases lookedUp_of_run hrun with
  | outOfRange _ =>
      rw [serves_nil_iff.mp hserves]
      exact ⟨by simp, h.1.status _ _ _, h.2⟩
  | known _ hknown =>
      rw [serves_nil_iff.mp hserves]
      refine ⟨hzero (not_not.mp fun hi => ?_), h⟩
      rw [h.1.reachable i hi] at hknown
      cases hknown
  | absent _ _ kr _ =>
      cases serves_singleton_iff.mp hserves with
      | probe _ => exact ⟨by simp, h.1.status _ _ _, h.2⟩
  | found _ _ =>
      cases serves_singleton_iff.mp hserves with
      | probe hkr =>
          have hi : i = 0 := not_not.mp fun hi => hkr hi rfl
          exact ⟨hzero hi, h.1.setReachable fun _ => hi, h.2⟩

/-- A call is refused, or board 0 takes it. -/
theorem calls_callStruct {conn : Int32} {c : DriverCall}
    {Q : Int32 × Option DriverReply → Process → GPIBBoard × τ → Prop}
    (hrefused : ∀ kr out p d, kr ≠ kernSuccess → InvWith held K p d → Q (kr, out) p d)
    (htaken : ∀ out p (d d' : GPIBBoard × τ), InvWith held K p d →
      TableEffect d.1 c (out, d'.1) → Q (kernSuccess, some out) p d') :
    Calls T now fuel (InvWith held K) (callStruct conn c) Q := by
  apply triple_callStruct
  · rintro reply kr p p' d d' hkr hne hp' h hserve
    cases hserve with
    | refused _ =>
        apply hrefused _ _ _ _ hkr
        rcases hp' with rfl | rfl
        · exact h
        · exact ⟨h.1.setReachable (by simp), h.2⟩
    | taken _ => exact absurd rfl hne
  · rintro reply p d d' hzero h hserve
    cases hserve with
    | refused hne => exact absurd hzero hne
    | taken hrun => exact htaken _ _ _ _ h (tableEffect_of_run hrun)

/-- Any call but a close keeps the invariant, whatever its handle. -/
theorem calls_keeping (conn : Int32) {c : DriverCall}
    (hc : ∀ handle, c ≠ .closeDescriptor handle) :
    Calls T now fuel (InvWith held K) (callStruct conn c) fun _ => InvWith held K :=
  calls_callStruct (fun _ _ _ _ _ h => h)
    fun _ _ _ _ h heffect => ⟨h.1.taken heffect fun _ => hc _, h.2⟩

/-- What `openDescriptor` has done when it reports a handle. -/
def OpenedAs (i : OpenDescriptorIn) (handle : Int32) (p : Process) (d : GPIBBoard × τ) : Prop :=
  ∃ h ∈ DescriptorTable.handles, handle = Int32.ofInt h ∧
    d.1.descriptors.slots h = some i.options ∧
    (0 ≤ p.boardHandles 0 → handle ≠ p.boardHandles 0)

/-- Opening a descriptor keeps the invariant, and a handle it reports is a new one. -/
theorem calls_openDescriptor (conn : Int32) (i : OpenDescriptorIn) :
    Calls T now fuel (InvWith held K) (callStruct conn (.openDescriptor i)) fun r p d =>
      (r.1 = kernSuccess → ¬ (openDescriptorOut r.2).1 < 0 →
        OpenedAs i (openDescriptorOut r.2).1 p d) ∧ InvWith held K p d := by
  apply calls_callStruct
  · intro kr out p d hkr h
    exact ⟨fun hok => absurd hok hkr, h⟩
  · intro out p d d' h heffect
    refine ⟨fun _ hreported => ?_, h.1.taken heffect (fun _ => by simp), h.2⟩
    rcases heffect.opened with ⟨handle, status, rfl, hmem, hfree, hslots⟩ | ⟨⟨status, rfl⟩, -⟩
    · refine ⟨handle, hmem, rfl, by rw [hslots, Function.update_self], ?_⟩
      intro hcached heq
      obtain ⟨o, ho, -⟩ := h.1.boardOpen hcached
      change Int32.ofInt handle = _ at heq
      rw [← heq, toInt_ofInt_handle hmem, hfree] at ho
      cases ho
    · exact absurd (show Int32.ofInt (-1) < 0 by decide) hreported

/-- The cached handle of board 0 is what was looked up, if something was. -/
def Cached (i : Int32) (handle : Int32) (boardHandles : Int32 → Int32) : Prop :=
  0 ≤ handle → i = 0 ∧ boardHandles 0 = handle

theorem Inv.setBoardHandle {p : Process} {d : GPIBBoard × τ} (h : Inv held p d)
    (hunopened : p.boardHandles 0 < 0) {handle : Int32}
    (hopen : OpenedAs boardDescriptorIn handle p d) :
    Inv held { p with boardHandles := Function.update p.boardHandles 0 handle } d := by
  obtain ⟨k, hmem, rfl, hslots, -⟩ := hopen
  obtain rfl := h.unopened hunopened
  refine ⟨h.reachable, ?_, fun _ => rfl, ?_, by simp⟩
  · intro j hj
    change Function.update p.boardHandles 0 (Int32.ofInt k) j < 0
    rw [Function.update_of_ne hj]
    exact h.others j hj
  · intro _
    change BoardOpen d.1 (Function.update p.boardHandles 0 (Int32.ofInt k) 0).toInt
    rw [Function.update_self, toInt_ofInt_handle hmem]
    exact ⟨_, hslots, rfl⟩

/-- Opening a board caches the handle it returns. -/
theorem calls_openBoard (i : Int32) :
    Calls T now fuel (InvWith held fun bh => i = 0 → bh 0 < 0) (openBoard i) fun h =>
      InvWith held (Cached i h) := by
  have hnegative (bh : Int32 → Int32) : Cached i (-1) bh := fun h => absurd h (by decide)
  unfold openBoard
  refine triple_bind (calls_connForBoard i) ?_
  rintro (_ | c)
  · exact triple_pure fun p d h => ⟨h.2.1, hnegative _⟩
  apply triple_of_pre
  intro hconn
  obtain ⟨rfl, rfl⟩ := hconn c rfl
  refine triple_bind (calls_keeping 0 (by simp)) fun online => ?_
  apply triple_ite
  · intro _
    exact calls_finish _ _ _ _ fun p d h => ⟨h.1, hnegative _⟩
  intro _
  refine triple_bind (calls_openDescriptor 0 boardDescriptorIn) fun opened => ?_
  apply triple_ite
  · intro _
    exact (calls_finish _ _ _ _ fun p d h => ⟨h.1, hnegative _⟩).conseq (fun _ _ h => h.2)
      fun _ _ _ h => h
  intro hkr
  apply triple_ite
  · intro _
    exact (calls_finish _ _ _ _ fun p d h => ⟨h.1, hnegative _⟩).conseq (fun _ _ h => h.2)
      fun _ _ _ h => h
  intro hreported
  have hrange : inRange 0 = true := by decide
  unfold setBoardHandle
  simp only [hrange, Bool.not_true, Bool.false_eq_true, if_false]
  refine triple_bind (Q := fun _ => InvWith held (Cached 0 (openDescriptorOut opened.2).1))
    (triple_modify ?_) fun _ => triple_pure fun p d h => h
  rintro p d ⟨hopened, hinv, hunopened⟩
  refine ⟨hinv.setBoardHandle (hunopened trivial) (hopened (not_not.mp hkr) hreported), ?_⟩
  intro _
  exact ⟨rfl, Function.update_self (0 : Int32) (openDescriptorOut opened.2).1 p.boardHandles⟩

theorem calls_boardHandle (i : Int32) :
    Calls T now fuel (Inv held) (boardHandle i) fun h => InvWith held (Cached i h) := by
  apply triple_boardHandle
  · intro p d _ h
    exact ⟨h, fun hle => absurd hle (by decide)⟩
  · intro p d hcached h
    refine ⟨h, fun _ => ?_⟩
    by_cases hi : i = 0
    · exact ⟨hi, by rw [hi]⟩
    · exact absurd hcached (Int32.not_le.mpr (h.others i hi))
  · intro _
    refine (calls_openBoard i).conseq ?_ fun _ _ _ h => h
    rintro p d ⟨huncached, h⟩
    refine ⟨h, fun hi => ?_⟩
    subst hi
    exact huncached

theorem calls_handleOf (ud : Int32) :
    Calls T now fuel (InvWith held K) (handleOf ud) fun h p d =>
      (isBoardUd ud = true → Cached ud h p.boardHandles) ∧
        (isBoardUd ud = false → h = ud &&& handleMask ∧ K p.boardHandles) ∧ Inv held p d := by
  unfold handleOf
  apply triple_ite
  · intro hboard
    refine (calls_boardHandle ud).conseq (fun _ _ h => h.1) ?_
    intro h p d hinv
    exact ⟨fun _ => hinv.2, by simp [hboard], hinv.1⟩
  · intro hdevice
    refine triple_pure fun p d h => ⟨fun hboard => absurd hboard hdevice, fun _ => ⟨rfl, h.2⟩, h.1⟩

/-! ## Calls that keep the invariant -/

/-- The invariant before the call is the invariant behind it. -/
abbrev Keeping {α : Type} (T : IGPIBTransport (StateT τ Usb)) (now : StateT τ Usb UInt64)
    (fuel : Nat) (held : List Int32) (x : Lib α) : Prop :=
  Calls T now fuel (Inv held) x fun _ => Inv held

theorem keeping_of_calls {α : Type} {x : Lib α} {Q : α → Process → GPIBBoard × τ → Prop}
    (h : Calls T now fuel (InvWith held fun _ => True) x Q)
    (hQ : ∀ a p d, Q a p d → Inv held p d) : Keeping T now fuel held x :=
  h.conseq (fun _ _ hinv => ⟨hinv, trivial⟩) hQ

theorem keeping_pure {α : Type} (a : α) : Keeping T now fuel held (pure a) :=
  triple_pure fun _ _ h => h

theorem keeping_get : Keeping T now fuel held (get : Lib Process) :=
  triple_get fun _ _ h => h

theorem keeping_setStatus (ibsta iberr : UInt32) (cnt : Nat) :
    Keeping T now fuel held (setStatus ibsta iberr cnt) :=
  keeping_of_calls (calls_setStatus ibsta iberr cnt) fun _ _ _ h => h.1

theorem keeping_returnErr (iberr : UInt32) : Keeping T now fuel held (returnErr iberr) :=
  triple_bind (keeping_setStatus _ _ _) fun _ => keeping_pure _

theorem keeping_returnOk (ibsta : UInt32) (cnt : Nat) :
    Keeping T now fuel held (returnOk ibsta cnt) :=
  triple_bind (keeping_setStatus _ _ _) fun _ => keeping_pure _

theorem keeping_connForBoard (i : Int32) : Keeping T now fuel held (connForBoard i) :=
  keeping_of_calls (calls_connForBoard i) fun _ _ _ h => h.2.1

theorem keeping_handleOf (ud : Int32) : Keeping T now fuel held (handleOf ud) :=
  keeping_of_calls (calls_handleOf ud) fun _ _ _ h => h.2.2

theorem keeping_boardHandle (i : Int32) : Keeping T now fuel held (boardHandle i) :=
  (calls_boardHandle i).conseq (fun _ _ h => h) fun _ _ _ h => h.1

theorem keeping_callStruct (conn : Int32) {c : DriverCall}
    (hc : ∀ handle, c ≠ .closeDescriptor handle) :
    Keeping T now fuel held (callStruct conn c) :=
  keeping_of_calls (calls_keeping conn hc) fun _ _ _ h => h.1

theorem keeping_onHandle {α : Type} (ud : Int32) {call : Int → DriverCall} (refused : α)
    {finish : Option DriverReply → Lib (UInt32 × α)}
    (hcall : ∀ h handle, call h ≠ .closeDescriptor handle)
    (hfinish : ∀ out, Keeping T now fuel held (finish out)) :
    Keeping T now fuel held (onHandle ud call refused finish) :=
  triple_onHandle (keeping_connForBoard _) (fun _ _ h => h) (fun _ => keeping_handleOf ud)
    (fun c _ => keeping_callStruct c (hcall _)) (fun _ _ _ => keeping_returnErr _) hfinish

theorem keeping_statusCall (ud : Int32) {call : Int → DriverCall}
    (hcall : ∀ h handle, call h ≠ .closeDescriptor handle) :
    Keeping T now fuel held (statusCall ud call) :=
  triple_bind (keeping_onHandle ud () hcall fun _ =>
    triple_bind (keeping_setStatus _ _ _) fun _ => keeping_pure _) fun _ => keeping_pure _

theorem keeping_simpleHandleCall (ud : Int32) {call : Int → DriverCall}
    (hcall : ∀ h handle, call h ≠ .closeDescriptor handle) :
    Keeping T now fuel held (simpleHandleCall ud call) :=
  triple_bind (keeping_onHandle ud () hcall fun _ =>
    triple_bind (keeping_returnOk _ _) fun _ => keeping_pure _) fun _ => keeping_pure _

theorem keeping_configure (ud : Int32) (key : UInt32) (value : Int32) :
    Keeping T now fuel held (configure ud key value) :=
  keeping_statusCall ud fun _ _ => by simp

theorem keeping_sendBytes (ud : Int32) {call : Int → List UInt8 → DriverCall}
    (buf : List UInt8) (cnt : Int)
    (hcall : ∀ h data handle, call h data ≠ .closeDescriptor handle) :
    Keeping T now fuel held (sendBytes ud call buf cnt) :=
  triple_sendBytes (keeping_connForBoard _) (fun _ _ h => h) (fun _ _ => keeping_returnErr _)
    (fun _ => keeping_handleOf ud) (fun _ c _ => keeping_callStruct c (hcall _ _))
    (fun _ _ _ => keeping_returnErr _)
    fun _ => triple_bind (keeping_setStatus _ _ _) fun _ => keeping_pure _

theorem keeping_ibwrt (ud : Int32) (buf : List UInt8) (cnt : Int) :
    Keeping T now fuel held (ibwrt ud buf cnt) :=
  keeping_sendBytes ud buf cnt fun _ _ _ => by simp

theorem keeping_ibrd (ud : Int32) (cnt : Int) : Keeping T now fuel held (ibrd ud cnt) :=
  triple_ibrd (keeping_connForBoard _) (fun _ _ h => h) (fun _ _ => keeping_returnErr _)
    (fun _ => keeping_handleOf ud) (fun c _ _ => keeping_callStruct c (by simp))
    (fun _ _ _ => keeping_returnErr _)
    fun _ _ => triple_bind (keeping_setStatus _ _ _) fun _ => keeping_pure _

theorem keeping_writeFileLoop (ud : Int32) (n : Nat) (rest : List UInt8) (last : UInt32) :
    Keeping T now fuel held (writeFileLoop ud n rest last) := by
  induction n generalizing rest last with
  | zero => exact keeping_pure _
  | succ n ih =>
      unfold writeFileLoop
      apply triple_ite
      · intro _
        exact keeping_pure _
      intro _
      refine triple_bind (keeping_ibwrt _ _ _) fun last' => ?_
      exact triple_ite (fun _ => keeping_pure _) fun _ => ih _ _

theorem keeping_readFileLoop (ud : Int32) (n : Nat) (buf file : List UInt8) :
    Keeping T now fuel held (readFileLoop ud n buf file) := by
  induction n generalizing buf file with
  | zero => exact keeping_pure _
  | succ n ih =>
      unfold readFileLoop
      refine triple_bind (keeping_ibrd _ _) fun r => ?_
      apply triple_ite
      · intro _
        exact keeping_pure _
      intro _
      refine triple_bind keeping_get fun s => ?_
      exact triple_ite (fun _ => keeping_pure _) fun _ => ih _ _

theorem keeping_ibfind (name : Option (List Char)) :
    Keeping T now fuel held (ibfind name) := by
  unfold ibfind
  match name with
  | none => exact keeping_pure _
  | some [] => exact keeping_pure _
  | some (c :: cs) =>
      refine triple_bind (keeping_boardHandle _) fun h => ?_
      apply triple_ite
      · intro _
        exact keeping_pure _
      · intro _
        exact triple_bind (keeping_setStatus _ _ _) fun _ => keeping_pure _

theorem keeping_ofStatus {x : Lib UInt32} (h : Keeping T now fuel held x) :
    Keeping T now fuel held (ofStatus x) :=
  triple_bind h fun _ => keeping_pure _

theorem keeping_withStatus {α : Type} {x : Lib (UInt32 × α)} (h : Keeping T now fuel held x) :
    Keeping T now fuel held (withStatus x) :=
  triple_bind h fun _ => keeping_pure _

/-- Every call keeps the invariant but those that open or close a device. -/
theorem keeping_exec {c : LibCall}
    (hopen : ∀ i pad sad timo eoi eos, c ≠ .ibdev i pad sad timo eoi eos)
    (hclose : ∀ ud, c ≠ .ibonl ud 0) : Keeping T now fuel held c.exec := by
  cases c with
  | ibdev i pad sad timo eoi eos => exact absurd rfl (hopen i pad sad timo eoi eos)
  | ibfind name => exact keeping_ibfind name
  | ibonl ud onl =>
      have honl : onl ≠ 0 := by
        rintro rfl
        exact hclose ud rfl
      refine keeping_ofStatus (triple_bind (keeping_connForBoard _) ?_)
      rintro (_ | c)
      · exact keeping_pure _
      apply triple_ite
      · intro hzero
        exact absurd hzero honl
      · intro _
        exact keeping_returnOk _ _
  | ibpad ud v => exact keeping_ofStatus (keeping_configure _ _ _)
  | ibsad ud v => exact keeping_ofStatus (keeping_configure _ _ _)
  | ibtmo ud v => exact keeping_ofStatus (keeping_configure _ _ _)
  | ibeot ud v => exact keeping_ofStatus (keeping_configure _ _ _)
  | ibeos ud v =>
      exact keeping_ofStatus (triple_bind (keeping_configure _ _ _) fun _ =>
        triple_bind (keeping_configure _ _ _) fun _ => keeping_pure _)
  | ibconfig ud option value => exact keeping_ofStatus (keeping_configure _ _ _)
  | ibask ud option =>
      exact keeping_withStatus (keeping_onHandle ud none (by simp) fun _ =>
        triple_bind (keeping_setStatus _ _ _) fun _ => keeping_pure _)
  | ibwrt ud buf cnt => exact keeping_ofStatus (keeping_ibwrt _ _ _)
  | ibrd ud cnt => exact keeping_withStatus (keeping_ibrd _ _)
  | ibcmd ud cmd cnt => exact keeping_ofStatus (keeping_sendBytes ud cmd cnt fun _ _ _ => by simp)
  | ibclr ud => exact keeping_ofStatus (keeping_simpleHandleCall ud (by simp))
  | ibsic ud => exact keeping_ofStatus (keeping_simpleHandleCall ud (by simp))
  | ibtrg ud => exact keeping_ofStatus (keeping_simpleHandleCall ud (by simp))
  | ibloc ud => exact keeping_ofStatus (keeping_simpleHandleCall ud (by simp))
  | ibsre ud v => exact keeping_ofStatus (keeping_statusCall ud (by simp))
  | ibwait ud mask => exact keeping_ofStatus (keeping_statusCall ud (by simp))
  | ibrsp ud =>
      exact keeping_withStatus (keeping_onHandle ud none (by simp) fun _ =>
        triple_bind (keeping_setStatus _ _ _) fun _ => keeping_pure _)
  | iblines ud =>
      exact keeping_withStatus (keeping_onHandle ud none (by simp) fun _ =>
        triple_bind (keeping_setStatus _ _ _) fun _ => keeping_pure _)
  | ibln ud pad sad =>
      exact keeping_withStatus (keeping_onHandle ud none (by simp) fun _ =>
        triple_bind (keeping_setStatus _ _ _) fun _ => keeping_pure _)
  | ibwrtf ud file =>
      cases file with
      | none => exact keeping_ofStatus (keeping_returnErr _)
      | some content => exact keeping_ofStatus (keeping_writeFileLoop _ _ _ _)
  | ibrdf ud opened n buf =>
      refine triple_bind (Q := fun _ => Inv held) ?_ fun _ => keeping_pure _
      apply triple_ite
      · intro _
        exact triple_bind (keeping_returnErr _) fun _ => keeping_pure _
      · intro _
        exact keeping_readFileLoop _ _ _ _

/-! ## Opening and closing devices -/

theorem Inv.mono {held' : List Int32} (h : Inv held p d) (hsub : held' ⊆ held) :
    Inv held' p d :=
  ⟨h.reachable, h.others, fun hneg => List.subset_nil.mp (h.unopened hneg ▸ hsub), h.boardOpen,
    fun dev hdev => h.distinct dev (hsub hdev)⟩

/-- The descriptor of a device that was just opened is not the board's. -/
theorem Inv.hold (h : Inv held p d) {i : OpenDescriptorIn} {handle : Int32}
    (hcached : 0 ≤ p.boardHandles 0) (hopen : OpenedAs i handle p d) :
    Inv (makeUd 0 handle :: held) p d := by
  obtain ⟨k, hmem, rfl, -, hnew⟩ := hopen
  refine ⟨h.reachable, h.others, fun hneg => absurd hcached (Int32.not_le.mpr hneg), h.boardOpen,
    ?_⟩
  intro dev hdev
  rcases List.mem_cons.mp hdev with rfl | hdev
  · rw [makeUd_ofInt_handle hmem]
    exact hnew hcached
  · exact h.distinct dev hdev

theorem calls_ibdev (i pad sad timo eoi eos : Int32) :
    Calls T now fuel (Inv held) (ibdev i pad sad timo eoi eos) fun ret p d =>
      Inv (if 0 ≤ ret then ret :: held else held) p d := by
  have hfail {p : Process} {d : GPIBBoard × τ} (h : Inv held p d) :
      Inv (if (0 : Int32) ≤ -1 then -1 :: held else held) p d := by
    rw [if_neg (by decide)]
    exact h
  have hrefused (K : (Int32 → Int32) → Prop) (ibsta iberr : UInt32) :
      Calls T now fuel (InvWith held K) (do
        setStatus ibsta iberr 0
        return (-1 : Int32)) fun ret p d => Inv (if 0 ≤ ret then ret :: held else held) p d :=
    calls_finish _ _ _ _ fun p d h => hfail h.1
  unfold ibdev
  refine triple_bind (calls_boardHandle i) fun handle => ?_
  apply triple_ite
  · intro _
    exact triple_pure fun p d h => hfail h.1
  intro hhandle
  refine triple_bind (calls_connForBoard i) ?_
  rintro (_ | c)
  · exact triple_pure fun p d h => hfail h.2.1
  apply triple_of_pre
  intro hconn
  obtain ⟨rfl, rfl⟩ := hconn c rfl
  refine triple_bind (calls_openDescriptor 0 _) fun r => ?_
  apply triple_ite
  · intro _
    exact (hrefused _ _ _).conseq (fun _ _ h => h.2) fun _ _ _ h => h
  intro hkr
  apply triple_ite
  · intro _
    exact (hrefused _ _ _).conseq (fun _ _ h => h.2) fun _ _ _ h => h
  intro hreported
  refine triple_bind (Q := fun _ => Inv (makeUd 0 (openDescriptorOut r.2).1 :: held))
    (triple_modify ?_) fun _ => triple_pure ?_
  · rintro p d ⟨hopened, hinv, hcached⟩
    have hhandle' := Int32.not_lt.mp hhandle
    have hcached' : 0 ≤ p.boardHandles 0 := by
      rw [(hcached hhandle').2]
      exact hhandle'
    exact (hinv.hold hcached' (hopened (not_not.mp hkr) hreported)).status _ _ _
  · intro p d h
    change Inv (if 0 ≤ makeUd 0 (openDescriptorOut r.2).1 then
      makeUd 0 (openDescriptorOut r.2).1 :: held else held) p d
    split
    · exact h
    · exact h.mono (List.subset_cons_self _ _)

end Invariant

end Libgpib

end DarwinGpib
