import DarwinGpib.Client.PublicOperations

/-!
# Descriptors that are opened for one call

The calls of `ib_488_2.c` open a descriptor for each device that they address and close it again.
A ledger is what is known of the cached handles and of the open slots of all boards. Where no close
is turned away, the ledger of a process is balanced behind any such calls, whatever else fails:
all that may have been added is a board's own descriptor, whose handle is cached.
-/

namespace DarwinGpib

open Interaction UserClient

namespace Libgpib

/-! ## Ledgers -/

/-- The open slots of all boards. -/
def Bench.slots (d : Bench) (i : Int32) : Int → Option DescriptorOptions :=
  (d.board i).descriptors.slots

/-- Probes find their boards, and closes are not turned away. -/
def Granted : Exchange BrokerCall.Reply → Prop
  | ⟨.probe _, (kr : Int64)⟩ => kr = 0
  | ⟨.call _ (.closeDescriptor _), (reply : CallReply)⟩ => reply.kr.toInt32 = 0
  | _ => True

def Bench.Grants (d : Bench) (e : Exchange BrokerCall.Reply) (d' : Bench) : Prop :=
  Bench.Answers d e d' ∧ Granted e

abbrev Ledger := (Int32 → Int32) → (Int32 → Int → Option DescriptorOptions) → Prop

/-- What is known of the cached handles and of the open slots. -/
abbrev Knowing (K : Ledger) (p : Process) (d : Bench) : Prop := K p.boardHandles d.slots

/-- A part of a library call that keeps these ledgers. -/
abbrev Keeps {α : Type} (F : Ledger → Prop) (x : Lib α) : Prop :=
  ∀ K, F K → Triple Bench.Grants (Knowing K) x fun _ => Knowing K

variable {α β : Type} {F : Ledger → Prop} {K : Ledger} {i ud : Int32}

theorem keeps_pure (a : α) : Keeps F (pure a : Lib α) :=
  fun _ _ => triple_pure fun _ _ h => h

theorem keeps_bind {x : Lib α} {f : α → Lib β} (hx : Keeps F x) (hf : ∀ a, Keeps F (f a)) :
    Keeps F (x >>= f) :=
  fun K hK => triple_bind (hx K hK) fun a => hf a K hK

theorem keeps_ite {c : Prop} [Decidable c] {x y : Lib α} (hx : c → Keeps F x)
    (hy : ¬ c → Keeps F y) : Keeps F (if c then x else y) :=
  fun K hK => triple_ite (fun h => hx h K hK) fun h => hy h K hK

theorem keeps_setStatus (ibsta iberr : UInt32) (cnt : Nat) : Keeps F (setStatus ibsta iberr cnt) :=
  fun _ _ => triple_modify fun _ _ h => h

theorem keeps_finish (ibsta iberr : UInt32) (cnt : Nat) (a : α) :
    Keeps F (do
      setStatus ibsta iberr cnt
      return a) :=
  keeps_bind (keeps_setStatus ibsta iberr cnt) fun _ => keeps_pure a

/-! ## Boards -/

theorem slots_update (d : Bench) (i : Int32) (b : GPIBBoard)
    (bus : Int32 → Ieee488.Addressing × Log Ieee488.Addressing BoardRequest) :
    Bench.slots ⟨Function.update d.board i b, bus⟩ =
      Function.update d.slots i b.descriptors.slots := by
  funext k
  by_cases hk : k = i
  · subst hk
    simp [Bench.slots]
  · simp [Bench.slots, hk]

theorem slots_of_probe {d d' : Bench} {kr : Int64} (h : d.Grants ⟨.probe i, kr⟩ d') : d' = d := by
  cases h.1
  rfl

/-- A call that succeeds has been taken by its board. -/
theorem taken_of_grants {d d' : Bench} {c : DriverCall} {reply : CallReply}
    (h : d.Grants ⟨.call i c, reply⟩ d') (hzero : reply.kr.toInt32 = 0) :
    ∃ b' u out fuel, Run (dispatch anyTransport (d.board i) anyUptime fuel c) u (some (out, b')) ∧
      reply.out = some out ∧ d'.slots = Function.update d.slots i b'.descriptors.slots := by
  cases h.1 with
  | refused hne => exact absurd hzero hne
  | @taken _ _ b' bus' u out fuel hrun hbus =>
      exact ⟨b', u, out, fuel, hrun, rfl, slots_update d i b' _⟩

theorem slots_of_refused {d d' : Bench} {c : DriverCall} {reply : CallReply}
    (h : d.Grants ⟨.call i c, reply⟩ d') (hne : reply.kr.toInt32 ≠ 0) : d' = d := by
  cases h.1 with
  | refused _ => rfl
  | taken _ _ => exact absurd rfl hne

/-- The calls that leave the table of open slots alone. -/
def DriverCall.Spares (c : DriverCall) : Prop :=
  c.op.opensOrCloses = false ∧ ∀ handle key value, c.op ≠ .configure handle key value

theorem keeps_connForBoard (i : Int32) : Keeps F (connForBoard i) := by
  intro K hK
  apply triple_connForBoard
  · intro p p' d heq h
    rwa [Knowing, heq]
  · intro p d i kr d' hserve h
    rwa [slots_of_probe hserve]

/-- A connection is that of the board asked for. -/
theorem triple_connection {P : Process → Bench → Prop} (i : Int32) :
    Triple Bench.Grants P (connForBoard i) fun conn _ _ => ∀ c ∈ conn, c = i ∧ inRange i = true := by
  intro p d u conn p' d' h hrun hserves
  cases lookedUp_of_run hrun with
  | outOfRange _ | absent _ _ _ _ => simp
  | known hi _ | found hi _ => simpa using hi

theorem keeps_callStruct {c : DriverCall} (hc : DriverCall.Spares c) (i : Int32) :
    Keeps F (callStruct i c) := by
  intro K hK
  apply triple_callStruct
  · intro reply kr p p' d d' _ hne hp' h hserve
    rw [slots_of_refused hserve hne]
    rcases hp' with rfl | rfl <;> exact h
  · intro reply p d d' hzero h hserve
    obtain ⟨b', u, out, fuel, hrun, -, hslots⟩ := taken_of_grants hserve hzero
    obtain ⟨r, hperforms, -⟩ := performs_of_dispatch hrun
    have hsame : b'.descriptors = (d.board i).descriptors :=
      (GPIBBoard.affects_of_performs hperforms).descriptors_eq hc
    rw [Knowing, hslots, hsame]
    change K p.boardHandles (Function.update d.slots i (d.slots i))
    rwa [Function.update_eq_self]

/-! ## Opening and closing -/

/-- One descriptor is open beside what a ledger knows. -/
def Beside (i : Int32) (h : Int) (o : DescriptorOptions) (K : Ledger) : Ledger :=
  fun handles slots => slots i h = some o ∧
    K handles (Function.update slots i (SlotTable.release (slots i) h))

/-- A descriptor that is closed again leaves nothing behind. -/
theorem release_update {T : Int → Option DescriptorOptions} {h : Int} {o : DescriptorOptions}
    (hfree : T h = none) : SlotTable.release (Function.update T h (some o)) h = T := by
  funext k
  by_cases hk : k = h
  · subst hk
    rw [SlotTable.release_self, hfree]
  · rw [SlotTable.release_of_ne hk, Function.update_of_ne hk]

theorem triple_openDescriptor (o : OpenDescriptorIn) (i : Int32) :
    Triple Bench.Grants (Knowing K) (callStruct i (.openDescriptor o)) fun r p d =>
      (r.1 = kernSuccess ∧ ¬ (openDescriptorOut r.2).1 < 0 ∧
          ∃ h ∈ DescriptorTable.handles, (openDescriptorOut r.2).1 = Int32.ofInt h ∧
            Knowing (Beside i h o.options K) p d) ∨
        ((r.1 ≠ kernSuccess ∨ (openDescriptorOut r.2).1 < 0) ∧ Knowing K p d) := by
  apply triple_callStruct
  · intro reply kr p p' d d' hkr hne hp' h hserve
    rw [slots_of_refused hserve hne]
    refine .inr ⟨.inl hkr, ?_⟩
    rcases hp' with rfl | rfl <;> exact h
  · intro reply p d d' hzero h hserve
    obtain ⟨b', u, out, fuel, hrun, hout, hslots⟩ := taken_of_grants hserve hzero
    obtain ⟨heffect, -⟩ := run_openDescriptor hrun
    rw [hout]
    rcases heffect.opened with ⟨handle, status, rfl, hmem, hfree, htable⟩ | ⟨⟨status, rfl⟩, heq⟩
    · refine .inl ⟨rfl, Int32.not_lt.mpr (ofInt_handle_range hmem).1, handle, hmem, rfl, ?_⟩
      rw [Knowing, hslots, htable]
      constructor
      · rw [Function.update_self, Function.update_self]
      · rw [Function.update_self, release_update hfree, Function.update_idem]
        change K p.boardHandles (Function.update d.slots i (d.slots i))
        rwa [Function.update_eq_self]
    · refine .inr ⟨.inr (show Int32.ofInt (-1) < 0 by decide), ?_⟩
      rw [Knowing, hslots, heq]
      change K p.boardHandles (Function.update d.slots i (d.slots i))
      rwa [Function.update_eq_self]

theorem triple_closeDescriptor {h : Int} {o : DescriptorOptions} :
    Triple Bench.Grants (Knowing (Beside i h o K)) (callStruct i (.closeDescriptor h))
      fun _ => Knowing K := by
  apply triple_callStruct
  · intro reply kr p p' d d' _ hne _ _ hserve
    exact absurd hserve.2 hne
  · intro reply p d d' hzero hK hserve
    obtain ⟨b', u, out, fuel, hrun, -, hslots⟩ := taken_of_grants hserve hzero
    obtain ⟨-, heq⟩ := run_pure_iff.mp hrun
    have hclosed : b'.descriptors.slots = SlotTable.release (d.slots i) h :=
      TableEffect.closed (show TableEffect (d.board i) (.closeDescriptor h) (out, b') from
        Option.some.inj heq)
    rw [Knowing, hslots, hclosed]
    exact hK.2

/-! ## Boards of their own accord -/

/-- The handle and the open slots of one board: as they were, or the board's own descriptor has
been opened and its handle cached. -/
def Settled (cached cached' : Int32) (slots slots' : Int → Option DescriptorOptions) : Prop :=
  (cached' = cached ∧ slots' = slots) ∨
    (cached < 0 ∧ 0 ≤ cached' ∧ slots cached'.toInt = none ∧
      slots' = Function.update slots cached'.toInt (some boardDescriptorIn.options))

/-- All boards have been left as they were but for their own descriptors. -/
def Since (handles : Int32 → Int32) (slots : Int32 → Int → Option DescriptorOptions) : Ledger :=
  fun handles' slots' => ∀ i, Settled (handles i) (handles' i) (slots i) (slots' i)

def IsSince (K : Ledger) : Prop := ∃ handles slots, K = Since handles slots

theorem Since.uncached {handles handles' : Int32 → Int32}
    {slots slots' : Int32 → Int → Option DescriptorOptions}
    (h : Since handles slots handles' slots') (hi : handles' i < 0) :
    handles' i = handles i ∧ slots' i = slots i := by
  rcases h i with hsame | ⟨-, hcached, -⟩
  · exact hsame
  · exact absurd hi (Int32.not_lt.mpr hcached)

/-- The board's own descriptor is open and its handle about to be cached. -/
theorem Since.cache {handles handles' : Int32 → Int32}
    {slots slots' : Int32 → Int → Option DescriptorOptions} {h : Int}
    (hmem : h ∈ DescriptorTable.handles) (hi : handles' i < 0)
    (hbeside : Beside i h boardDescriptorIn.options (Since handles slots) handles' slots') :
    Since handles slots (Function.update handles' i (Int32.ofInt h)) slots' := by
  obtain ⟨hopen, hsince⟩ := hbeside
  intro k
  by_cases hk : k = i
  · subst hk
    obtain ⟨hhandle, hslots⟩ := hsince.uncached hi
    rw [Function.update_self] at hslots
    rw [Function.update_self]
    refine .inr ⟨by rwa [← hhandle], (ofInt_handle_range hmem).1, ?_⟩
    rw [toInt_ofInt_handle hmem, ← hslots, SlotTable.release_self]
    refine ⟨rfl, ?_⟩
    rw [SlotTable.release, Function.update_idem, ← hopen, Function.update_eq_self]
  · have hother := hsince k
    rw [Function.update_of_ne hk] at hother
    rwa [Function.update_of_ne hk]

/-- A ledger of a board whose own handle is not cached. -/
def Uncached (i : Int32) (K : Ledger) : Ledger := fun handles slots => handles i < 0 ∧ K handles slots

theorem triple_openBoard (i : Int32) (hK : IsSince K) :
    Triple Bench.Grants (Knowing (Uncached i K)) (openBoard i) fun _ => Knowing K := by
  obtain ⟨handles, slots, rfl⟩ := hK
  have hfail (ibsta iberr : UInt32) :
      Triple Bench.Grants (Knowing (Uncached i (Since handles slots))) (do
        setStatus ibsta iberr 0
        return (-1 : Int32)) fun _ => Knowing (Since handles slots) :=
    (keeps_finish (F := fun _ => True) ibsta iberr 0 (-1) _ trivial).conseq (fun _ _ h => h)
      fun _ _ _ h => h.2
  unfold openBoard
  refine triple_bind (((triple_connection i).and (keeps_connForBoard (F := fun _ => True) i
    (Uncached i (Since handles slots)) trivial)).conseq (fun _ _ h => ⟨h, h⟩)
      fun _ _ _ h => h) fun conn => ?_
  cases conn with
  | none => exact triple_pure fun _ _ h => h.2.2
  | some c =>
      apply triple_of_pre
      intro hconn
      obtain ⟨rfl, hi⟩ := hconn c rfl
      refine triple_bind (keeps_callStruct (F := fun _ => True) (c := .boardOnline 1) ⟨rfl, nofun⟩
        c _ trivial) fun online => ?_
      apply triple_ite
      · intro _
        exact hfail _ _
      intro _
      refine triple_bind (triple_openDescriptor boardDescriptorIn c) fun opened => ?_
      apply triple_ite
      · intro hkr
        refine (hfail _ _).conseq (fun p d h => ?_) fun _ _ _ h => h
        exact (h.resolve_left fun hopened => hkr hopened.1).2
      intro hkr
      apply triple_ite
      · intro hneg
        refine (hfail _ _).conseq (fun p d h => ?_) fun _ _ _ h => h
        exact (h.resolve_left fun hopened => hopened.2.1 hneg).2
      intro hreported
      unfold setBoardHandle
      simp only [hi, Bool.not_true, Bool.false_eq_true, if_false]
      refine triple_bind (triple_modify fun p d h => ?_) fun _ => triple_pure fun p d h => h
      obtain ⟨-, -, h, hmem, hout, hopen, huncached, hsince⟩ :=
        h.resolve_right fun hrefused => hrefused.1.elim hkr hreported
      have hcached := Since.cache hmem huncached ⟨hopen, hsince⟩
      rwa [← hout] at hcached

theorem keeps_boardHandle (i : Int32) : Keeps IsSince (boardHandle i) := by
  intro K hK
  apply triple_boardHandle
  · intro p d _ h
    exact h
  · intro p d _ h
    exact h
  · intro _
    exact triple_openBoard i hK

/-! ## Calls on a handle -/

theorem keeps_returnErr (iberr : UInt32) : Keeps F (returnErr iberr) := keeps_finish _ _ _ _

theorem keeps_onHandle {call : Int → DriverCall} {refused : α}
    {finish : Option DriverReply → Lib (UInt32 × α)} (hhandle : Keeps F (handleOf ud))
    (hcall : ∀ handle, DriverCall.Spares (call handle)) (hfinish : ∀ out, Keeps F (finish out)) :
    Keeps F (onHandle ud call refused finish) := by
  intro K hK
  apply triple_onHandle
  · exact keeps_connForBoard (boardOf ud) K hK
  · intro p d h
    exact h
  · intro conn
    exact hhandle K hK
  · intro conn handle
    exact keeps_callStruct (hcall handle.toInt) conn K hK
  · intro kr out _
    exact keeps_returnErr Iberr.edvr K hK
  · intro out
    exact hfinish out K hK

theorem keeps_statusCall {call : Int → DriverCall} (hhandle : Keeps F (handleOf ud))
    (hcall : ∀ handle, DriverCall.Spares (call handle)) : Keeps F (statusCall ud call) :=
  keeps_bind (keeps_onHandle hhandle hcall fun _ => keeps_finish _ _ _ _) fun _ => keeps_pure _

theorem keeps_simpleHandleCall {call : Int → DriverCall} (hhandle : Keeps F (handleOf ud))
    (hcall : ∀ handle, DriverCall.Spares (call handle)) : Keeps F (simpleHandleCall ud call) :=
  keeps_bind (keeps_onHandle hhandle hcall fun _ => keeps_finish _ _ _ _) fun _ => keeps_pure _

theorem keeps_sendBytes {call : Int → List UInt8 → DriverCall} (hhandle : Keeps F (handleOf ud))
    (hcall : ∀ handle data, DriverCall.Spares (call handle data)) (buf : List UInt8) (cnt : Int) :
    Keeps F (sendBytes ud call buf cnt) := by
  intro K hK
  apply triple_sendBytes
  · exact keeps_connForBoard (boardOf ud) K hK
  · intro p d h
    exact h
  · intro conn _
    exact keeps_returnErr Iberr.earg K hK
  · intro conn
    exact hhandle K hK
  · intro _ conn handle
    exact keeps_callStruct (hcall handle.toInt _) conn K hK
  · intro kr out _
    exact keeps_returnErr Iberr.edvr K hK
  · intro out
    exact keeps_finish _ _ _ _ K hK

theorem keeps_ibrd (hhandle : Keeps F (handleOf ud)) (cnt : Int) : Keeps F (ibrd ud cnt) := by
  intro K hK
  apply triple_ibrd
  · exact keeps_connForBoard (boardOf ud) K hK
  · intro p d h
    exact h
  · intro conn _
    exact keeps_returnErr Iberr.earg K hK
  · intro conn
    exact hhandle K hK
  · intro conn handle n
    exact keeps_callStruct ⟨rfl, fun _ _ _ h => by cases h⟩ conn K hK
  · intro kr out _
    exact keeps_returnErr Iberr.edvr K hK
  · intro out n
    exact keeps_finish _ _ _ _ K hK

theorem spares_lineStatus (handle : Int) : DriverCall.Spares (.lineStatus handle) := by
  change (lineStatusOp handle).opensOrCloses = false ∧
    ∀ handle' key value, lineStatusOp handle ≠ .configure handle' key value
  simp only [lineStatusOp]
  split_ifs <;> exact ⟨rfl, fun _ _ _ h => by cases h⟩

section Calls

variable (hhandle : Keeps F (handleOf ud))

include hhandle

theorem keeps_ibclr : Keeps F (ibclr ud) :=
  keeps_simpleHandleCall hhandle fun _ => ⟨rfl, fun _ _ _ h => by cases h⟩

theorem keeps_ibsic : Keeps F (ibsic ud) :=
  keeps_simpleHandleCall hhandle fun _ => ⟨rfl, fun _ _ _ h => by cases h⟩

theorem keeps_ibtrg : Keeps F (ibtrg ud) :=
  keeps_simpleHandleCall hhandle fun _ => ⟨rfl, fun _ _ _ h => by cases h⟩

theorem keeps_ibloc : Keeps F (ibloc ud) :=
  keeps_simpleHandleCall hhandle fun _ => ⟨rfl, fun _ _ _ h => by cases h⟩

theorem keeps_ibsre (v : Int32) : Keeps F (ibsre ud v) :=
  keeps_statusCall hhandle fun _ => ⟨rfl, fun _ _ _ h => by cases h⟩

theorem keeps_ibrsp : Keeps F (ibrsp ud) :=
  keeps_onHandle hhandle (fun _ => ⟨rfl, fun _ _ _ h => by cases h⟩)
    fun _ => keeps_finish _ _ _ _

theorem keeps_iblines : Keeps F (iblines ud) :=
  keeps_onHandle hhandle spares_lineStatus fun _ => keeps_finish _ _ _ _

theorem keeps_ibln (pad sad : Int32) : Keeps F (ibln ud pad sad) :=
  keeps_onHandle hhandle (fun _ => ⟨rfl, fun _ _ _ h => by cases h⟩)
    fun _ => keeps_finish _ _ _ _

theorem keeps_ibwrt (buf : List UInt8) (cnt : Int) : Keeps F (ibwrt ud buf cnt) :=
  keeps_sendBytes hhandle (fun _ _ => ⟨rfl, fun _ _ _ h => by cases h⟩) buf cnt

theorem keeps_ibcmd (cmd : List UInt8) (cnt : Int) : Keeps F (ibcmd ud cmd cnt) :=
  keeps_sendBytes hhandle (fun _ _ => ⟨rfl, fun _ _ _ h => by cases h⟩) cmd cnt

/-- `SendLLO` has the shape of `onHandle` but for what it makes of a failure. -/
theorem keeps_sendLLO : Keeps F (sendLLO ud) := by
  unfold sendLLO
  refine keeps_bind (keeps_connForBoard (boardOf ud)) fun conn => ?_
  cases conn with
  | none => exact keeps_pure ()
  | some c =>
      exact keeps_bind hhandle fun handle => keeps_bind
        (keeps_callStruct ⟨rfl, fun _ _ _ h => by cases h⟩ c) fun _ => keeps_setStatus _ _ _

end Calls

/-! ## Devices -/

/-- What `ibdev` leaves behind: nothing, or the descriptor behind its result. -/
def Leaves (i ud : Int32) (o : DescriptorOptions) (K : Ledger) (p : Process) (d : Bench) : Prop :=
  (ud < 0 ∧ Knowing K p d) ∨
    ((¬ ud < 0 ∧ inRange i = true ∧ IsDeviceUd i ud) ∧
      Knowing (Beside i (ud &&& handleMask).toInt o K) p d)

theorem leaves_makeUd {p : Process} {d : Bench} {h : Int} {o : DescriptorOptions}
    (hi : inRange i = true) (hmem : h ∈ DescriptorTable.handles)
    (hbeside : Knowing (Beside i h o K) p d) : Leaves i (makeUd i (Int32.ofInt h)) o K p d := by
  refine .inr ⟨⟨makeUd_not_neg _ _, hi, isDeviceUd_makeUd hi _⟩, ?_⟩
  rwa [makeUd_ofInt_handle hmem, toInt_ofInt_handle hmem]

theorem triple_ibdev (i pad sad timo sendEoi eosmode : Int32) (hK : IsSince K) :
    Triple Bench.Grants (Knowing K) (ibdev i pad sad timo sendEoi eosmode) fun ud =>
      Leaves i ud (deviceDescriptorIn pad sad timo sendEoi eosmode).options K := by
  have hfail (ibsta iberr : UInt32) : Triple Bench.Grants (Knowing K) (do
      setStatus ibsta iberr 0
      return (-1 : Int32)) fun ud =>
        Leaves i ud (deviceDescriptorIn pad sad timo sendEoi eosmode).options K :=
    triple_bind (keeps_setStatus (F := IsSince) ibsta iberr 0 K hK) fun _ =>
      triple_pure fun p d h => .inl ⟨by decide, h⟩
  unfold ibdev
  refine triple_bind (keeps_boardHandle i K hK) fun h => ?_
  apply triple_ite
  · intro _
    exact triple_pure fun p d h => .inl ⟨by decide, h⟩
  intro _
  refine triple_bind (((triple_connection i).and (keeps_connForBoard (F := IsSince) i K
    hK)).conseq (fun _ _ h => ⟨h, h⟩) fun _ _ _ h => h) fun conn => ?_
  cases conn with
  | none => exact triple_pure fun p d h => .inl ⟨by decide, h.2⟩
  | some c =>
      apply triple_of_pre
      intro hconn
      obtain ⟨rfl, hi⟩ := hconn c rfl
      refine triple_bind (triple_openDescriptor _ c) fun opened => ?_
      apply triple_ite
      · intro hkr
        refine (hfail _ _).conseq (fun p d h => ?_) fun _ _ _ h => h
        exact (h.resolve_left fun hopened => hkr hopened.1).2
      intro hkr
      apply triple_ite
      · intro hneg
        refine (hfail _ _).conseq (fun p d h => ?_) fun _ _ _ h => h
        exact (h.resolve_left fun hopened => hopened.2.1 hneg).2
      intro hreported
      refine triple_bind (Q := fun _ => Leaves c (makeUd c (openDescriptorOut opened.2).1) _ K)
        (triple_modify fun p d h => ?_) fun _ => triple_pure fun p d h => h
      obtain ⟨-, -, h, hmem, hout, hbeside⟩ :=
        h.resolve_right fun hrefused => hrefused.1.elim hkr hreported
      rw [hout]
      exact leaves_makeUd hi hmem hbeside

theorem triple_openDevice (boardDesc : Int32) (address : Addr4882) (hK : IsSince K) :
    Triple Bench.Grants (Knowing K) (openDevice boardDesc address) fun ud =>
      Leaves (boardOf boardDesc) ud (openDeviceIn address).options K :=
  triple_ibdev _ _ _ _ _ _ hK

/-- The handle of a device is in its descriptor. -/
theorem keeps_handleOf_device (hud : isBoardUd ud = false) : Keeps F (handleOf ud) := by
  unfold handleOf
  exact keeps_ite (fun h => absurd (hud.symm.trans h) (by decide)) fun _ => keeps_pure _

/-- Closing a device that the driver has opened. -/
theorem triple_ibonl {o : DescriptorOptions} (hi : inRange i = true) (hud : IsDeviceUd i ud) :
    Triple Bench.Grants (Knowing (Beside i (ud &&& handleMask).toInt o K)) (ibonl ud 0)
      fun _ => Knowing K := by
  obtain ⟨hnot, rfl⟩ := hud
  have hprobe (d : Bench) (j : Int32) (kr : Int64) (d' : Bench)
      (hserve : d.Grants ⟨.probe j, kr⟩ d') : kr = 0 := hserve.2
  unfold ibonl
  refine triple_bind ((((triple_connection _).and (triple_connForBoard_isSome hprobe _)).and
    (keeps_connForBoard (F := fun _ => True) _ _ trivial)).conseq
      (fun _ _ h => ⟨⟨h, h⟩, h⟩) fun _ _ _ h => h) fun conn => ?_
  apply triple_of_pre
  rintro ⟨hconn, hsome⟩
  cases conn with
  | none => exact absurd (hsome.trans hi) (by decide)
  | some c =>
      obtain ⟨rfl, -⟩ := hconn c rfl
      simp only [handleOf, hnot, Bool.false_eq_true, if_false, if_true, pure_bind]
      exact triple_bind triple_closeDescriptor fun _ =>
        keeps_finish (F := fun _ => True) _ _ _ _ K trivial

/-- The calls on one device leave the boards as they were. -/
theorem keeps_withDevice {absent : α} {op : Int32 → Lib α}
    (hop : ∀ ud, isBoardUd ud = false → Keeps (fun _ => True) (op ud)) (boardDesc : Int32)
    (address : Addr4882) : Keeps IsSince (withDevice boardDesc address absent op) := by
  intro K hK
  refine triple_bind (triple_openDevice boardDesc address hK) fun ud => ?_
  apply triple_ite
  · intro hneg
    exact triple_pure fun p d h => (h.resolve_right fun hopened => hopened.1.1 hneg).2
  · intro hneg
    refine Triple.conseq (triple_of_pre fun hud => ?_)
      (fun p d h => h.resolve_left fun hnone => hneg hnone.1) fun _ _ _ h => h
    obtain ⟨-, hi, hdevice⟩ := hud
    refine triple_bind (hop ud hdevice.not_board _ trivial) fun a => ?_
    exact triple_bind (triple_ibonl hi hdevice) fun _ => triple_pure fun p d h => h

theorem keeps_forAddresses {op : Addr4882 → Lib α} (hop : ∀ address, Keeps F (op address))
    (list : List Addr4882) : Keeps F (forAddresses op list) := by
  induction list with
  | nil => exact keeps_pure []
  | cons address rest ih =>
      refine keeps_ite (fun _ => keeps_pure []) fun _ => ?_
      exact keeps_bind (hop address) fun a => keeps_bind ih fun as => keeps_pure (a :: as)

/-! ## The 488.2 calls -/

theorem keeps_handleOf (ud : Int32) : Keeps IsSince (handleOf ud) :=
  keeps_ite (fun _ => keeps_boardHandle ud) fun _ => keeps_pure _

theorem keeps_discard {x : Lib α} (hx : Keeps F x) : Keeps F (do let _ ← x) :=
  keeps_bind hx fun _ => keeps_pure ()

theorem keeps_devClear (boardDesc : Int32) (address : Addr4882) :
    Keeps IsSince (devClear boardDesc address) :=
  keeps_withDevice (fun _ hud => keeps_discard (keeps_ibclr (keeps_handleOf_device hud))) _ _

theorem keeps_trigger (boardDesc : Int32) (address : Addr4882) :
    Keeps IsSince (trigger boardDesc address) :=
  keeps_withDevice (fun _ hud => keeps_discard (keeps_ibtrg (keeps_handleOf_device hud))) _ _

theorem keeps_send (boardDesc : Int32) (address : Addr4882) (buffer : List UInt8) (count : Int)
    (eotMode : Int32) (allocated : Bool) :
    Keeps IsSince (send boardDesc address buffer count eotMode allocated) := by
  refine keeps_withDevice (fun ud hud => ?_) boardDesc address
  have hwrite (buf : List UInt8) (cnt : Int) :=
    keeps_ibwrt (keeps_handleOf_device (F := fun _ => True) hud) buf cnt
  refine keeps_ite (fun _ => keeps_ite (fun _ => ?_) fun _ => keeps_pure ()) fun _ => ?_
  · exact keeps_discard (hwrite _ _)
  · exact keeps_discard (hwrite _ _)

theorem keeps_readStatusByte (boardDesc : Int32) (address : Addr4882) :
    Keeps IsSince (readStatusByte boardDesc address) :=
  keeps_withDevice (fun _ hud => keeps_bind (keeps_ibrsp (keeps_handleOf_device hud))
    fun _ => keeps_pure _) _ _

theorem keeps_testSRQ (boardDesc : Int32) : Keeps IsSince (testSRQ boardDesc) :=
  keeps_bind (keeps_iblines (keeps_handleOf boardDesc)) fun _ => keeps_pure _

theorem keeps_waitSRQLoop (boardDesc : Int32) (polls : Nat) :
    Keeps IsSince (waitSRQLoop boardDesc polls) := by
  induction polls with
  | zero => exact keeps_pure false
  | succ polls ih =>
      refine keeps_bind (keeps_testSRQ boardDesc) fun requested => ?_
      exact keeps_ite (fun _ => keeps_pure true) fun _ => ih

theorem keeps_findRQSLoop (boardDesc : Int32) (i : Nat) (list : List Addr4882) :
    Keeps IsSince (findRQSLoop boardDesc i list) := by
  induction list generalizing i with
  | nil => exact keeps_pure (-1)
  | cons address rest ih =>
      refine keeps_ite (fun _ => keeps_pure (-1)) fun _ => ?_
      refine keeps_bind (keeps_readStatusByte boardDesc address) fun statusByte => ?_
      exact keeps_ite (fun _ => keeps_pure (Int16.ofNat i)) fun _ => ih (i + 1)

theorem keeps_findLstnLoop (boardDesc : Int32) (room : Nat) (list : List Addr4882) :
    Keeps IsSince (findLstnLoop boardDesc room list) := by
  induction list generalizing room with
  | nil => exact keeps_pure []
  | cons address rest ih =>
      refine keeps_ite (fun _ => keeps_pure []) fun _ => ?_
      refine keeps_bind (keeps_ibln (keeps_handleOf boardDesc) _ _) fun listener => ?_
      refine keeps_ite (fun _ => ?_) fun _ => ih room
      exact keeps_bind (ih (room - 1)) fun found => keeps_pure (address :: found)

theorem keeps_sendList (boardDesc : Int32) (list : List Addr4882) (buffer : List UInt8)
    (count : Int) (eotMode : Int32) (allocated : Bool) :
    Keeps IsSince (sendList boardDesc list buffer count eotMode allocated) :=
  keeps_forAddresses (fun address => keeps_send boardDesc address buffer count eotMode allocated) _

theorem keeps_resetSys (boardDesc : Int32) (list : List Addr4882) (allocated : Bool) :
    Keeps IsSince (resetSys boardDesc list allocated) := by
  have hhandle := keeps_handleOf boardDesc
  refine keeps_bind (keeps_discard (keeps_ibsic hhandle)) fun _ => ?_
  refine keeps_bind (keeps_ibsre hhandle 1) fun _ => ?_
  refine keeps_bind (keeps_ibcmd hhandle _ _) fun _ => ?_
  exact keeps_sendList boardDesc list _ _ _ allocated

theorem MultiCall.keeps_exec (c : MultiCall) : Keeps IsSince c.exec := by
  have hhandle := keeps_handleOf
  cases c with
  | sendIFC boardDesc => exact keeps_discard (keeps_ibsic (hhandle boardDesc))
  | sendLLO boardDesc => exact keeps_sendLLO (hhandle boardDesc)
  | devClear boardDesc address => exact keeps_devClear boardDesc address
  | devClearList boardDesc list => exact keeps_forAddresses (keeps_devClear boardDesc) list
  | enableLocal boardDesc list =>
      exact keeps_forAddresses (keeps_withDevice (fun _ hud =>
        keeps_discard (keeps_ibloc (keeps_handleOf_device hud))) boardDesc) list
  | enableRemote boardDesc => exact keeps_discard (keeps_ibsre (hhandle boardDesc) 1)
  | trigger boardDesc address => exact keeps_trigger boardDesc address
  | triggerList boardDesc list => exact keeps_forAddresses (keeps_trigger boardDesc) list
  | send boardDesc address buffer count eotMode allocated =>
      exact keeps_send boardDesc address buffer count eotMode allocated
  | sendList boardDesc list buffer count eotMode allocated =>
      exact keeps_sendList boardDesc list buffer count eotMode allocated
  | sendDataBytes boardDesc buffer count =>
      exact keeps_discard (keeps_ibwrt (hhandle boardDesc) buffer count)
  | sendCmds boardDesc cmds count =>
      exact keeps_discard (keeps_ibcmd (hhandle boardDesc) cmds count)
  | sendSetup boardDesc list => exact keeps_discard (keeps_ibcmd (hhandle boardDesc) _ _)
  | receive boardDesc address count =>
      exact keeps_withDevice (fun _ hud => keeps_bind
        (keeps_ibrd (keeps_handleOf_device hud) count) fun _ => keeps_pure _) boardDesc address
  | receiveSetup boardDesc address => exact keeps_discard (keeps_ibcmd (hhandle boardDesc) _ _)
  | rcvRespMsg boardDesc count =>
      exact keeps_bind (keeps_ibrd (hhandle boardDesc) count) fun _ => keeps_pure _
  | readStatusByte boardDesc address => exact keeps_readStatusByte boardDesc address
  | allSPoll boardDesc list => exact keeps_forAddresses (keeps_readStatusByte boardDesc) list
  | testSRQ boardDesc => exact keeps_testSRQ boardDesc
  | waitSRQ boardDesc => exact keeps_waitSRQLoop boardDesc 300
  | findRQS boardDesc list => exact keeps_findRQSLoop boardDesc 0 list
  | findLstn boardDesc padList maxNumResults =>
      exact keeps_bind (keeps_findLstnLoop boardDesc _ padList) fun _ => keeps_pure _
  | resetSys boardDesc list allocated => exact keeps_resetSys boardDesc list allocated
  | setRWLS boardDesc =>
      exact keeps_bind (keeps_ibsre (hhandle boardDesc) 1) fun _ =>
        keeps_sendLLO (hhandle boardDesc)
  | passControl | pPoll | pPollConfig | pPollUnconfig => exact keeps_setStatus _ _ _

end Libgpib

end DarwinGpib
