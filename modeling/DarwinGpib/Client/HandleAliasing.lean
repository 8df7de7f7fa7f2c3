import DarwinGpib.Client.Bench
import DarwinGpib.Client.BoardHandles
import DarwinGpib.Client.Lookup
import DarwinGpib.Model.NiUsb

/-!
# When the cached board handle is aliased

`ibonl(ud, 0)` closes the descriptor of `ud`, the board's among them, without dropping the handle
that the library caches for the board, and a re-enumeration empties the table behind the cache.
These are the only ways in which the handle of a board descriptor goes wrong.
-/

namespace DarwinGpib

open Interaction UserClient

namespace Libgpib

variable {τ : Type} {T : IGPIBTransport (StateT τ Usb)} {now : StateT τ Usb UInt64} {fuel : Nat}
  {held : List Int32} {p p' : Process} {d d' : GPIBBoard × τ} {u : Trace BrokerCall.Reply}
  {ud : Int32}

/-! ## Closing -/

/-- A close of a handle that can be open, which the driver took. -/
def ClosesOpen (e : Exchange BrokerCall.Reply) : Prop :=
  match e with
  | ⟨.call _ (.closeDescriptor handle), reply⟩ =>
      0 ≤ handle ∧ (CallReply.kr reply).toInt32 = 0
  | _ => False

/-- `ud` is a board's descriptor, or one with the board's handle. -/
def NamesBoard (p : Process) (ud : Int32) : Prop :=
  isBoardUd ud = true ∨ ud &&& handleMask = p.boardHandles 0

theorem not_closesOpen_of_resolves {e : Exchange BrokerCall.Reply}
    (h : e.request.Resolves) : ¬ ClosesOpen e := by
  obtain ⟨i, reply⟩ := e
  cases i with
  | probe board => exact id
  | call board c =>
      cases c with
      | boardOnline online => exact id
      | openDescriptor i => exact id
      | _ => exact h.elim

theorem zero_le_toInt_iff {handle : Int32} : 0 ≤ handle.toInt ↔ 0 ≤ handle := by
  rw [Int32.le_iff_toInt_le, Int32.toInt_zero]

/-- A close that the driver takes keeps the invariant unless it is that of the cached handle,
which it leaves dangling. -/
theorem closed_inv_or_dangling (h : Inv held p d) {handle : Int32} {out : DriverReply}
    {b' : GPIBBoard} (heffect : TableEffect d.1 (.closeDescriptor handle.toInt) (out, b'))
    (t' : τ) :
    ((0 ≤ handle → handle ≠ p.boardHandles 0) ∧ Inv held p (b', t')) ∨
      (0 ≤ handle ∧ handle = p.boardHandles 0 ∧ ¬ BoardOpen b' (p.boardHandles 0).toInt) := by
  by_cases hsame : 0 ≤ handle ∧ handle = p.boardHandles 0
  · obtain ⟨hle, heq⟩ := hsame
    refine .inr ⟨hle, heq, ?_⟩
    rintro ⟨o, ho, -⟩
    rw [heffect.closed, ← heq, SlotTable.release_self] at ho
    cases ho
  · refine .inl ⟨fun hle heq => hsame ⟨hle, heq⟩, h.taken heffect ?_⟩
    intro hcached hclose
    have heq : handle = p.boardHandles 0 :=
      Int32.toInt_inj.mp (DriverCall.closeDescriptor.inj hclose)
    exact hsame ⟨by rw [heq]; exact hcached, heq⟩

/-- The exchange of a close keeps the invariant, without closing the board's handle; or it closes
that handle. -/
theorem closed_served (h : Inv held p d) {handle : Int32} {reply : CallReply}
    (hserved : Served T now fuel d ⟨.call 0 (.closeDescriptor handle.toInt), reply⟩ d') :
    ((ClosesOpen ⟨.call 0 (.closeDescriptor handle.toInt), reply⟩ → handle ≠ p.boardHandles 0) ∧
        Inv held p d') ∨
      (ClosesOpen ⟨.call 0 (.closeDescriptor handle.toInt), reply⟩ ∧ 0 ≤ handle ∧
        handle = p.boardHandles 0 ∧ ¬ BoardOpen d'.1 (p.boardHandles 0).toInt) := by
  cases hserved with
  | refused hkr => exact .inl ⟨fun hcloses => absurd hcloses.2 hkr, h⟩
  | @taken _ _ _ _ _ _ out hrun =>
      rcases closed_inv_or_dangling h (tableEffect_of_run hrun) _ with
        ⟨hother, hinv⟩ | ⟨hle, heq, hclosed⟩
      · exact .inl ⟨fun hcloses => hother (zero_le_toInt_iff.mp hcloses.1), hinv⟩
      · exact .inr ⟨⟨zero_le_toInt_iff.mpr hle, rfl⟩, hle, heq, hclosed⟩

/-- Closing a descriptor keeps the invariant, without closing the board's when it is named; or
the descriptor names the board, and the board's handle is closed and still cached. -/
theorem run_ibonl (h : Inv held p d) {ret : UInt32}
    (hrun : Run ((ibonl ud 0).run p) u (ret, p'))
    (hserves : Serves (Served T now fuel) d u d') :
    (Inv held p' d' ∧ (NamesBoard p ud → ∀ e ∈ u, ¬ ClosesOpen e)) ∨
      (NamesBoard p ud ∧ (∃ e ∈ u, ClosesOpen e) ∧ 0 ≤ p'.boardHandles 0 ∧
        ¬ BoardOpen d'.1 (p'.boardHandles 0).toInt) := by
  unfold ibonl at hrun
  obtain ⟨v₁, conn, p₁, w₁, rfl, hv₁, hw₁⟩ := run_stateT_bind_iff.mp hrun
  obtain ⟨d₁, hd₁, hserves⟩ := serves_append_iff.mp hserves
  have hresolves₁ := ((resolving_connForBoard _).of_run hv₁).1
  simp only [not_not] at hresolves₁
  obtain ⟨hconn, hinv₁, hsame₁⟩ := calls_connForBoard (K := (· = p.boardHandles)) _ _ _ _ _ _ _
    ⟨h, rfl⟩ hv₁ hd₁
  cases conn with
  | none =>
      obtain ⟨rfl, heq⟩ := run_stateT_pure_iff.mp hw₁
      cases heq
      rw [serves_nil_iff.mp hserves, List.append_nil]
      exact .inl ⟨hinv₁, fun _ e he => not_closesOpen_of_resolves (hresolves₁ e he)⟩
  | some c =>
      obtain ⟨rfl, -⟩ := hconn c rfl
      rcases run_stateT_ite_iff.mp hw₁ with ⟨-, hw₁⟩ | ⟨hne, -⟩
      swap
      · exact absurd rfl hne
      obtain ⟨v₂, handle, p₂, w₂, rfl, hv₂, hw₂⟩ := run_stateT_bind_iff.mp hw₁
      obtain ⟨d₂, hd₂, hserves⟩ := serves_append_iff.mp hserves
      have hresolves₂ := ((resolving_handleOf _).of_run hv₂).1
      simp only [not_not] at hresolves₂
      obtain ⟨hboard, hdevice, hinv₂⟩ := calls_handleOf (K := (· = p.boardHandles)) _ _ _ _ _ _ _
        ⟨hinv₁, hsame₁⟩ hv₂ hd₂
      obtain ⟨v₃, ⟨kr, out⟩, p₃, w₃, rfl, hv₃, hw₃⟩ := run_stateT_bind_iff.mp hw₂
      obtain ⟨reply, rfl, -, -, hp₃⟩ := run_callStruct hv₃
      obtain ⟨d₃, hserved, hserves⟩ := serves_cons_iff.mp hserves
      obtain ⟨x, _, p₄, y, rfl, hx, hy⟩ := run_stateT_bind_iff.mp hw₃
      obtain ⟨rfl, heq⟩ := run_modify_iff.mp hx
      cases heq
      obtain ⟨rfl, heq⟩ := run_stateT_pure_iff.mp hy
      cases heq
      obtain rfl := serves_nil_iff.mp hserves
      have hafter {d : GPIBBoard × τ} (hinv : Inv held p₂ d) : Inv held p₃ d := by
        rcases hp₃ with rfl | ⟨-, rfl⟩
        · exact hinv
        · exact hinv.setReachable (by simp)
      have hhandles : p₃.boardHandles = p₂.boardHandles := by
        rcases hp₃ with rfl | ⟨-, rfl⟩ <;> rfl
      have hresolves : ∀ e ∈ v₁ ++ v₂, ¬ ClosesOpen e := by
        intro e he
        rcases List.mem_append.mp he with he | he
        · exact not_closesOpen_of_resolves (hresolves₁ e he)
        · exact not_closesOpen_of_resolves (hresolves₂ e he)
      have hquiet {e₀ : Exchange BrokerCall.Reply} (he₀ : ¬ ClosesOpen e₀) :
          ∀ e ∈ v₁ ++ (v₂ ++ ([e₀] ++ ([] ++ []))), ¬ ClosesOpen e := by
        intro e he
        simp only [List.append_nil, List.mem_append, List.mem_singleton] at he
        rcases he with he | he | rfl
        · exact hresolves e (List.mem_append_left _ he)
        · exact hresolves e (List.mem_append_right _ he)
        · exact he₀
      have hnames (hle : 0 ≤ handle) : NamesBoard p ud ↔ handle = p₂.boardHandles 0 := by
        cases hud : isBoardUd ud with
        | true => exact iff_of_true (.inl hud) (hboard hud hle).2.symm
        | false =>
            obtain ⟨rfl, hsame₂⟩ := hdevice hud
            rw [NamesBoard, hud, hsame₂]
            simp
      rcases closed_served hinv₂ hserved with ⟨hother, hinv⟩ | ⟨hcloses, hle, heq, hclosed⟩
      · refine .inl ⟨(hafter hinv).status _ _ _, fun hnamed => hquiet fun hcloses => ?_⟩
        exact hother hcloses ((hnames (zero_le_toInt_iff.mp hcloses.1)).mp hnamed)
      · refine .inr ⟨(hnames hle).mpr heq, ⟨_, List.mem_append_right _ (List.mem_append_right _
          List.mem_cons_self), hcloses⟩, ?_, ?_⟩
        · change 0 ≤ p₃.boardHandles 0
          rw [hhandles, ← heq]
          exact hle
        · change ¬ BoardOpen _ (p₃.boardHandles 0).toInt
          rw [hhandles]
          exact hclosed

/-! ## Steps and runs -/

/-- The event neither has the board's descriptor closed nor empties the table while the handle of
the board is cached. -/
def Spares (w : World τ) : Event → Prop
  | .call (.ibonl ud onl) u => onl = 0 → NamesBoard w.process ud → ∀ e ∈ u, ¬ ClosesOpen e
  | .call _ _ => True
  | .reenumerate => w.process.boardHandles 0 < 0

/-- The invariant of a world. -/
abbrev World.Inv (w : World τ) : Prop := Libgpib.Inv w.held w.process (w.board, w.transport)

theorem neverAliases_of_inv {w : World τ} (h : w.Inv) : NeverAliases T now fuel w := by
  intro ud u handle p' d' hud hrun hserves hle
  obtain ⟨hcached, -, hinv⟩ := calls_handleOf (K := fun _ => True) _ _ _ _ _ _ _ ⟨h, trivial⟩
    hrun hserves
  obtain ⟨-, heq⟩ := hcached hud hle
  rw [← heq] at hle ⊢
  exact ⟨hinv.boardOpen hle, hinv.distinct⟩

/-- A cached handle that is not open is found all the same. -/
theorem not_neverAliases {w : World τ} (hcached : 0 ≤ w.process.boardHandles 0)
    (hclosed : ¬ BoardOpen w.board (w.process.boardHandles 0).toInt) :
    ¬ NeverAliases T now fuel w := by
  intro h
  have hrun : Run ((handleOf 0).run w.process) [] (w.process.boardHandles 0, w.process) := by
    change Run ((boardHandle 0).run w.process) [] _
    unfold boardHandle
    refine run_stateT_ite_iff.mpr (.inr ⟨by decide, ?_⟩)
    refine run_stateT_bind_iff.mpr
      ⟨[], w.process, w.process, [], rfl, run_get_iff.mpr ⟨rfl, rfl⟩, ?_⟩
    exact run_stateT_ite_iff.mpr (.inl ⟨hcached, run_stateT_pure_iff.mpr ⟨rfl, rfl⟩⟩)
  exact hclosed (h 0 [] _ _ _ (by decide) hrun (.nil _) hcached).1

/-- Closing only takes descriptors away from what is held. -/
theorem heldAfter_ibonl_subset (ud onl ret : Int32) (held : List Int32) :
    (LibCall.ibonl ud onl).heldAfter ret held ⊆ held := by
  change (if onl = 0 ∧ ret.toUInt32 &&& Ibsta.err = 0 then held.filter (· ≠ ud) else held) ⊆ held
  split
  · exact List.filter_sublist.subset
  · exact List.Subset.refl held

/-- An event that spares the board keeps the invariant; any other leaves a handle cached that is
not open. -/
theorem step_spares {w w' : World τ} {e : Event} (h : w.Inv) (hstep : Step T now fuel w e w') :
    (Spares w e ∧ w'.Inv) ∨ (¬ Spares w e ∧ ¬ NeverAliases T now fuel w') := by
  cases hstep with
  | @reenumerate t' =>
      by_cases hcached : w.process.boardHandles 0 < 0
      · refine .inl ⟨hcached, h.reachable, h.others, h.unopened, ?_, h.distinct⟩
        intro hle
        exact absurd hle (Int32.not_le.mpr hcached)
      · refine .inr ⟨hcached, not_neverAliases (Int32.not_lt.mp hcached) ?_⟩
        rintro ⟨o, ho, -⟩
        have hempty := congrFun DescriptorTable.slots_initial (w.process.boardHandles 0).toInt
        cases hempty.symm.trans ho
  | @call c u ret p' b' t' hrun hserves =>
      cases c with
      | ibonl ud onl =>
          by_cases honl : onl = 0
          · subst honl
            obtain ⟨v, ibsta, p₁, x, rfl, hv, hx⟩ := run_stateT_bind_iff.mp hrun
            obtain ⟨rfl, heq⟩ := run_stateT_pure_iff.mp hx
            cases heq
            rw [List.append_nil] at hserves ⊢
            rcases run_ibonl h hv hserves with ⟨hinv, hspared⟩ |
              ⟨hnames, ⟨e, he, hcloses⟩, hle, hopen⟩
            · exact .inl ⟨fun _ => hspared, hinv.mono (heldAfter_ibonl_subset _ _ _ _)⟩
            · exact .inr ⟨fun hspares => hspares rfl hnames e he hcloses,
                not_neverAliases hle hopen⟩
          · refine .inl ⟨fun hzero => absurd hzero honl, ?_⟩
            have hinv := keeping_exec (by simp) (by simp [honl]) _ _ _ _ _ _ h hrun hserves
            simpa only [World.Inv, LibCall.heldAfter, honl, false_and, if_false] using hinv
      | ibdev i pad sad timo eoi eos =>
          exact .inl ⟨trivial, calls_ibdev i pad sad timo eoi eos _ _ _ _ _ _ h hrun hserves⟩
      | _ => exact .inl ⟨trivial, keeping_exec (by simp) (by simp) _ _ _ _ _ _ h hrun hserves⟩

/-- In a run whose events all spare the board, every world satisfies the invariant. -/
theorem inv_of_spares {past : List (World τ × Event)} {w : World τ}
    (h : History T now fuel past w) (hspares : ∀ s ∈ past, Spares s.1 s.2) :
    w.Inv ∧ ∀ s ∈ past, s.1.Inv := by
  induction h with
  | @start b t =>
      refine ⟨inv_init b t, ?_⟩
      intro s hs
      cases hs
  | @step past w e w' h hstep ih =>
      obtain ⟨hw, hpast⟩ := ih fun s hs => hspares s (List.mem_cons_of_mem _ hs)
      constructor
      · rcases step_spares hw hstep with ⟨-, hinv⟩ | ⟨hnot, -⟩
        · exact hinv
        · exact absurd (hspares (w, e) List.mem_cons_self) hnot
      · intro s hs
        rcases List.mem_cons.mp hs with rfl | hs
        · exact hw
        · exact hpast s hs

/-- An event that does not spare the board shows in the world behind it. -/
theorem spares_of_neverAliases {past : List (World τ × Event)} {w : World τ}
    (h : History T now fuel past w) (hpast : ∀ s ∈ past, NeverAliases T now fuel s.1)
    (hlast : NeverAliases T now fuel w) : ∀ s ∈ past, Spares s.1 s.2 := by
  induction h with
  | start =>
      intro s hs
      cases hs
  | @step past w e w' h hstep ih =>
      have hspares := ih (fun s hs => hpast s (List.mem_cons_of_mem _ hs))
        (hpast (w, e) List.mem_cons_self)
      intro s hs
      rcases List.mem_cons.mp hs with rfl | hs
      · rcases step_spares (inv_of_spares h hspares).1 hstep with ⟨hspared, -⟩ | ⟨-, hnot⟩
        · exact hspared
        · exact absurd hlast hnot
      · exact hspares s hs

/-- In every run, the handle found for a board is never aliased if and only if every event spares
the board. -/
theorem board_handle_never_aliased_iff {past : List (World τ × Event)} {w : World τ}
    (h : History T now fuel past w) :
    ((∀ s ∈ past, NeverAliases T now fuel s.1) ∧ NeverAliases T now fuel w) ↔
      ∀ s ∈ past, Spares s.1 s.2 := by
  constructor
  · rintro ⟨hpast, hlast⟩
    exact spares_of_neverAliases h hpast hlast
  · intro hspares
    obtain ⟨hw, hpast⟩ := inv_of_spares h hspares
    exact ⟨fun s hs => neverAliases_of_inv (hpast s hs), neverAliases_of_inv hw⟩

/-! ## A board descriptor that is closed and used again -/

namespace Example

/-- A transport without pipes: going online sends nothing. -/
def detached : NIUSBTransport := ⟨false, false, false, false⟩

/-- A clock, which no call of the example reads. -/
def clock : StateT NIUSBTransport Usb UInt64 := pure 0

def onlineBoard : GPIBBoard :=
  { GPIBBoard.init with
    state := { GPIBBoard.init.state with
      renRequested := true, online := true, ibsta := Ibsta.cmpl } }

abbrev DetachedStep := Step NIUSBTransport.asTransport clock 0

def start : World NIUSBTransport := ⟨.init, .init, detached, []⟩

/-- `ibfind("gpib0")` opens the board's descriptor, which is handle 1. -/
def found : World NIUSBTransport :=
  ⟨{ foundProcess with ibsta := Ibsta.cmpl ||| Ibsta.cic ||| Ibsta.rem },
    (handleOpenDescriptor onlineBoard boardDescriptorIn).2, detached, []⟩

theorem step_ibfind :
    DetachedStep start (.call (.ibfind (some ['g', 'p', 'i', 'b', '0'])) lookupTrace) found := by
  have hrun : Run ((LibCall.ibfind (some ['g', 'p', 'i', 'b', '0'])).exec.run start.process)
      lookupTrace (0, found.process) := .ask (.ask (.ask (.pure _)))
  exact .call hrun (.cons (.probe (by decide))
    (.cons (.taken (.pure _)) (.cons (.taken (.pure _)) (.nil _))))

/-- `ibonl(0, 0)` closes handle 1. -/
def closeTrace : Trace BrokerCall.Reply :=
  [answered (.closeDescriptor 1) (.status ⟨Ibsta.cmpl, 0⟩)]

def closedProcess : Process := { foundProcess with ibsta := Ibsta.cmpl }

def closedBoard : GPIBBoard := (handleCloseDescriptor found.board 1).2

def closed : World NIUSBTransport := ⟨closedProcess, closedBoard, detached, []⟩

theorem step_ibonl : DetachedStep found (.call (.ibonl 0 0) closeTrace) closed := by
  have hrun : Run ((LibCall.ibonl 0 0).exec.run found.process) closeTrace
      (Ibsta.cmpl.toInt32, closedProcess) := .ask (.pure _)
  exact .call hrun (.cons (.taken (.pure _)) (.nil _))

/-- `ibdev(0, 5, -1, T3s, 1, 0)` finds handle 1 cached and is given it again. -/
def reopenTrace : Trace BrokerCall.Reply :=
  [answered (.openDescriptor (deviceDescriptorIn 5 (-1) 12 1 0)) (.opened 1 ⟨Ibsta.cmpl, 0⟩)]

def reopened : World NIUSBTransport :=
  ⟨closedProcess, (handleOpenDescriptor closedBoard (deviceDescriptorIn 5 (-1) 12 1 0)).2,
    detached, [makeUd 0 1]⟩

theorem step_ibdev :
    DetachedStep closed (.call (.ibdev 0 5 (-1) 12 1 0) reopenTrace) reopened := by
  have hrun : Run ((LibCall.ibdev 0 5 (-1) 12 1 0).exec.run closed.process) reopenTrace
      (makeUd 0 1, closedProcess) := .ask (.pure _)
  exact .call hrun (.cons (.taken (.pure _)) (.nil _))

/-- Beside an open board, `ibdev(0, 5, -1, T3s, 1, 0)` is given handle 2. -/
def deviceTrace : Trace BrokerCall.Reply :=
  [answered (.openDescriptor (deviceDescriptorIn 5 (-1) 12 1 0)) (.opened 2 ⟨Ibsta.cmpl, 0⟩)]

def deviceHeld : World NIUSBTransport :=
  ⟨closedProcess, (handleOpenDescriptor found.board (deviceDescriptorIn 5 (-1) 12 1 0)).2,
    detached, [makeUd 0 2]⟩

theorem step_ibdev_beside :
    DetachedStep found (.call (.ibdev 0 5 (-1) 12 1 0) deviceTrace) deviceHeld := by
  have hrun : Run ((LibCall.ibdev 0 5 (-1) 12 1 0).exec.run found.process) deviceTrace
      (makeUd 0 2, closedProcess) := .ask (.pure _)
  exact .call hrun (.cons (.taken (.pure _)) (.nil _))

/-- `ibonl` of the device closes handle 2. -/
def deviceCloseTrace : Trace BrokerCall.Reply :=
  [answered (.closeDescriptor 2) (.status ⟨Ibsta.cmpl, 0⟩)]

def deviceClosed : World NIUSBTransport :=
  ⟨closedProcess, (handleCloseDescriptor deviceHeld.board 2).2, detached, []⟩

theorem step_ibonl_device :
    DetachedStep deviceHeld (.call (.ibonl (makeUd 0 2) 0) deviceCloseTrace) deviceClosed := by
  have hrun : Run ((LibCall.ibonl (makeUd 0 2) 0).exec.run deviceHeld.process) deviceCloseTrace
      (Ibsta.cmpl.toInt32, closedProcess) := .ask (.pure _)
  exact .call hrun (.cons (.taken (.pure _)) (.nil _))

end Example

open Example in
/-- A device that is opened and closed beside its board leaves the board's handle sound. -/
theorem board_handle_sound_beside_device :
    NeverAliases NIUSBTransport.asTransport clock 0 deviceHeld ∧
      NeverAliases NIUSBTransport.asTransport clock 0 deviceClosed := by
  have hsound := (board_handle_never_aliased_iff
    (.step (.step (.step .start step_ibfind) step_ibdev_beside) step_ibonl_device)).mpr ?_
  · exact ⟨hsound.1 _ List.mem_cons_self, hsound.2⟩
  · simp only [List.forall_mem_cons, List.not_mem_nil, false_implies, implies_true, and_true]
    refine ⟨fun _ hnames => ?_, trivial, trivial⟩
    exact absurd hnames (by simp only [NamesBoard, not_or]; decide)

open Example in
/-- Closing the board and opening a device gives both the handle 1. -/
theorem board_handle_aliased_by_device :
    ∃ past, History NIUSBTransport.asTransport clock 0 past reopened ∧
      ¬ NeverAliases NIUSBTransport.asTransport clock 0 reopened := by
  refine ⟨_, .step (.step (.step .start step_ibfind) step_ibonl) step_ibdev, ?_⟩
  intro h
  have hrun : Run ((handleOf 0).run reopened.process) [] (1, reopened.process) := .pure _
  exact (h 0 [] 1 _ _ (by decide) hrun (.nil _) (by decide)).2 _ List.mem_cons_self (by decide)

end Libgpib

end DarwinGpib
