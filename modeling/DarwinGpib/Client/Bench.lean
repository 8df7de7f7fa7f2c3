import DarwinGpib.Board.Operations
import DarwinGpib.Board.Requests
import DarwinGpib.Client.DispatchEffect
import DarwinGpib.Client.PackedDescriptors
import DarwinGpib.Model.Ib4882

/-!
# A process at its boards and buses

A bench has a driver board behind every index, the addressing of its bus, and a log of what the
board asked of its transport. Library calls are run against it; `Watched` is what is known of
one board while all of its requests so far suit a phase.
-/

namespace DarwinGpib

open Interaction Ieee488 UserClient

namespace Libgpib

structure Bench where
  board : Int32 → GPIBBoard
  bus : Int32 → Addressing × Log Addressing BoardRequest

/-- What becomes of a request: a call is refused, or the board of its index takes it and its
reply comes back. -/
inductive Bench.Answers : Bench → Exchange BrokerCall.Reply → Bench → Prop where
  | probe {d i} {kr : Int64} : Answers d ⟨.probe i, kr⟩ d
  | refused {d i c} {reply : CallReply} (h : reply.kr.toInt32 ≠ 0) :
      Answers d ⟨.call i c, reply⟩ d
  | taken {d i c b' bus' u out fuel}
      (hrun : Run (dispatch anyTransport (d.board i) anyUptime fuel c) u (some (out, b')))
      (hbus : Serves (Logging BusReacts) (d.bus i) u bus') :
      Answers d ⟨.call i c, (⟨0, some out⟩ : CallReply)⟩
        ⟨Function.update d.board i b', Function.update d.bus i bus'⟩

/-- The bench with another log of what board `i` has asked. -/
def Bench.withLog (d : Bench) (i : Int32) (l : Log Addressing BoardRequest) : Bench :=
  { d with bus := Function.update d.bus i ((d.bus i).1, l) }

@[simp] theorem Bench.bus_withLog (d : Bench) (i : Int32) (l : Log Addressing BoardRequest) :
    (d.withLog i l).bus i = ((d.bus i).1, l) :=
  Function.update_self i _ d.bus

/-- What is in the log already has no part in what becomes of a request. -/
theorem Bench.Answers.append {d d' : Bench} {e : Exchange BrokerCall.Reply} {i : Int32}
    {l L : Log Addressing BoardRequest} (h : Answers d e d') (hlog : (d.bus i).2 = l ++ L) :
    ∃ l', (d'.bus i).2 = l' ++ L ∧ Answers (d.withLog i l) e (d'.withLog i l') := by
  cases h with
  | probe => exact ⟨l, hlog, .probe⟩
  | refused hkr => exact ⟨l, hlog, .refused hkr⟩
  | @taken j c b' bus' u out fuel hrun hbus =>
      by_cases hj : j = i
      · subst hj
        obtain ⟨s', L'⟩ := bus'
        rw [show d.bus j = ((d.bus j).1, l ++ L) by rw [← hlog]] at hbus
        obtain ⟨l', rfl, hbus'⟩ := serves_logging_append hbus
        refine ⟨l', by simp, ?_⟩
        have hafter : Bench.withLog ⟨Function.update d.board j b',
            Function.update d.bus j (s', l' ++ L)⟩ j l' =
            ⟨Function.update (d.withLog j l).board j b',
              Function.update (d.withLog j l).bus j (s', l')⟩ := by
          simp [withLog]
        rw [hafter]
        exact .taken hrun (by simpa using hbus')
      · have hother : Function.update d.bus j bus' i = d.bus i :=
          Function.update_of_ne (Ne.symm hj) _ _
        refine ⟨l, by simpa only [hother] using hlog, ?_⟩
        have hafter : Bench.withLog ⟨Function.update d.board j b', Function.update d.bus j bus'⟩
            i l = ⟨Function.update (d.withLog i l).board j b',
              Function.update (d.withLog i l).bus j bus'⟩ := by
          simp [withLog, Function.update_of_ne (Ne.symm hj), Function.update_comm hj]
        rw [hafter]
        refine .taken hrun ?_
        change Serves _ (Function.update d.bus i ((d.bus i).1, l) j) u bus'
        rwa [Function.update_of_ne hj]

theorem Bench.serves_append {d d' : Bench} {u : Trace BrokerCall.Reply} {i : Int32}
    {l L : Log Addressing BoardRequest} (h : Serves Answers d u d')
    (hlog : (d.bus i).2 = l ++ L) :
    ∃ l', (d'.bus i).2 = l' ++ L ∧ Serves Answers (d.withLog i l) u (d'.withLog i l') := by
  induction h generalizing l with
  | nil d => exact ⟨l, hlog, .nil _⟩
  | cons hanswers _ ih =>
      obtain ⟨l₁, hlog₁, hfirst⟩ := hanswers.append hlog
      obtain ⟨l', hlog', hrest⟩ := ih hlog₁
      exact ⟨l', hlog', .cons hfirst hrest⟩

/-! ## The driver's side -/

section Driver

variable {b b' : GPIBBoard} {fuel : Nat} {u : BoardTrace} {out : DriverReply}
  {phase : Addressing → BoardRequest → Prop}

/-- Handlers that report a bus operation. -/
theorem some_map_onBus {α : Type} (op : BoardState → BoardCalls (α × BoardState))
    (report : α → DriverReply) :
    (some <$> (do
      let (a, b) ← b.onBus op
      return (report a, b)) : BoardCalls (Option (DriverReply × GPIBBoard))) =
      b.reporting report op := by
  simp only [map_eq_pure_bind, bind_assoc, pure_bind, GPIBBoard.reporting]

theorem aims_reporting {α : Type} {report : α → DriverReply}
    {op : BoardState → BoardCalls (α × BoardState)}
    (h : Aims phase Anyhow (op b.state) fun _ => Anyhow) :
    Aims phase Anyhow (b.reporting report op) fun _ => Anyhow := by
  unfold GPIBBoard.reporting GPIBBoard.onBus
  rw [bind_assoc]
  exact meets_bind h fun _ => aims_done

/-- A call whose handler reports a bus operation. -/
def Reports {α : Type} (c : DriverCall) (report : α → DriverReply)
    (op : GPIBBoard → BoardState → BoardCalls (α × BoardState)) : Prop :=
  ∀ b fuel, dispatch anyTransport b anyUptime fuel c = b.reporting report (op b)

theorem reports_boardOnline (online : UInt32) :
    Reports (.boardOnline online) (fun ibsta => .status ⟨ibsta, 0⟩)
      fun _ => BoardState.setOnline anyTransport (online ≠ 0) :=
  fun _ _ => some_map_onBus _ fun ibsta => .status ⟨ibsta, 0⟩

theorem reports_write (handle : Int) (sendEoi : UInt32) (data : List UInt8) :
    Reports (.write handle sendEoi data) .counted fun b =>
      BoardState.write anyTransport (b.descriptors.descriptorFor handle) data (sendEoi ≠ 0) :=
  fun _ _ => some_map_onBus _ _

/-- The reply of `handleRead`. -/
def readReply (requestCount : Nat) (r : ReadStatus) : DriverReply :=
  .read r.toCountStatus r.endFlag
    ((r.data ++ List.replicate (clampedRequest requestCount - r.data.length) 0).take r.ibcnt)
    (sizeofReadOut + r.ibcnt)

theorem reports_read (handle : Int) (requestCount : Nat) :
    Reports (.read handle requestCount) (readReply requestCount) fun b =>
      BoardState.read anyTransport (b.descriptors.descriptorFor handle)
        (clampedRequest requestCount) :=
  fun _ _ => some_map_onBus _ (readReply requestCount)

theorem reports_deviceClear (handle : Int) :
    Reports (.deviceClear handle) .status fun b =>
      BoardState.deviceClear anyTransport (b.descriptors.descriptorFor handle) :=
  fun _ _ => some_map_onBus _ _

theorem reports_trigger (handle : Int) :
    Reports (.trigger handle) .status fun b =>
      BoardState.trigger anyTransport (b.descriptors.descriptorFor handle) :=
  fun _ _ => some_map_onBus _ _

theorem reports_serialPoll (handle : Int) :
    Reports (.serialPoll handle) (fun r : UInt8 × Status => .polled r.1 r.2) fun b =>
      BoardState.serialPoll anyTransport (b.descriptors.descriptorFor handle) :=
  fun _ _ => some_map_onBus _ fun r : UInt8 × Status => .polled r.1 r.2

theorem reports_listenerPresent (handle : Int) (pad : UInt32) (sad : Int32) :
    Reports (.listenerPresent handle pad sad)
      (fun r : Bool × Status => .listener r.1 r.2) fun _ =>
      BoardState.listenerPresent anyTransport pad.toUInt8 sad.toInt8 :=
  fun _ _ => some_map_onBus _ fun r : Bool × Status => .listener r.1 r.2

theorem reports_sendCommand (handle : Int) (data : List UInt8) :
    Reports (.sendCommand handle data) .counted fun _ =>
      BoardState.sendCommands anyTransport data :=
  fun _ _ => some_map_onBus _ _

theorem reports_run {α : Type} {c : DriverCall} {report : α → DriverReply}
    {op : GPIBBoard → BoardState → BoardCalls (α × BoardState)} (h : Reports c report op)
    (hop : ∀ b, GPIBBoard.KeepsPAD (op b))
    (hrun : Run (dispatch anyTransport b anyUptime fuel c) u (some (out, b'))) :
    b'.descriptors = b.descriptors ∧ b'.state.boardPAD = b.state.boardPAD := by
  rw [h b fuel] at hrun
  obtain ⟨a, s, -, -, heq⟩ := GPIBBoard.run_reporting_iff.mp hrun
  exact ⟨by rw [heq], GPIBBoard.boardPAD_of_reporting (hop b) hrun⟩

/-- Opening makes no call on the transport. -/
theorem run_openDescriptor {i : OpenDescriptorIn}
    (hrun : Run (dispatch anyTransport b anyUptime fuel (.openDescriptor i)) u
      (some (out, b'))) :
    TableEffect b (.openDescriptor i) (out, b') ∧ b'.state.boardPAD = b.state.boardPAD := by
  obtain ⟨-, heq⟩ := run_pure_iff.mp hrun
  cases heq
  exact ⟨rfl, (GPIBBoard.stored_openDescriptor b i.options).boardPAD⟩

end Driver

/-! ## The library's side -/

/-- The structure with which `openDevice` opens its descriptor. -/
def openDeviceIn (address : Addr4882) : OpenDescriptorIn :=
  let sad := (getSAD address).toInt32
  deviceDescriptorIn (getPAD address).toInt32 (if sad = 0 then -1 else sad) t3s 1 0

/-- What is known of the cached handles, of the open slots of a board and of its address. -/
abbrev Knowledge := (Int32 → Int32) → (Int → Option DescriptorOptions) → UInt8 → Prop

/-- What is known of board `i`, all of whose requests so far suit a phase. -/
structure Watched (i : Int32) (phase : Addressing → BoardRequest → Prop) (K : Knowledge)
    (p : Process) (d : Bench) : Prop where
  known : K p.boardHandles (d.board i).descriptors.slots (d.board i).state.boardPAD
  suits : Suits phase Anyhow (d.bus i)

/-- A part of a library call at the bench. -/
abbrev OnBench {α : Type} (P : Process → Bench → Prop) (x : Lib α)
    (Q : α → Process → Bench → Prop) : Prop :=
  Triple Bench.Answers P x Q

section Library

variable {i : Int32} {phase : Addressing → BoardRequest → Prop} {K K' : Knowledge}

theorem Watched.mono {p : Process} {d : Bench} (h : Watched i phase K p d)
    (hK : ∀ handles slots pad, K handles slots pad → K' handles slots pad) :
    Watched i phase K' p d :=
  ⟨hK _ _ _ h.known, h.suits⟩

theorem onBench_setStatus (ibsta iberr : UInt32) (cnt : Nat) :
    OnBench (Watched i phase K) (setStatus ibsta iberr cnt) fun _ => Watched i phase K :=
  triple_modify fun _ _ h => ⟨h.known, h.suits⟩

/-- Leaving a status behind, and then a value. -/
theorem onBench_finish {α : Type} (ibsta iberr : UInt32) (cnt : Nat) (a : α)
    {Q : α → Process → Bench → Prop} (hQ : ∀ p d, Watched i phase K p d → Q a p d) :
    OnBench (Watched i phase K) (do
      setStatus ibsta iberr cnt
      return a) Q :=
  triple_bind (onBench_setStatus ibsta iberr cnt) fun _ => triple_pure hQ

/-- A connection is that of the board asked for. -/
theorem onBench_connForBoard (j : Int32) :
    OnBench (Watched i phase K) (connForBoard j) fun conn p d =>
      (∀ c, conn = some c → c = j ∧ inRange j = true) ∧ Watched i phase K p d := by
  have hfound (hj : inRange j = true) : ∀ c, some j = some c → c = j ∧ inRange j = true := by
    intro c hc
    cases hc
    exact ⟨rfl, hj⟩
  intro p d u conn p' d' h hrun hserves
  cases lookedUp_of_run hrun with
  | outOfRange _ =>
      rw [serves_nil_iff.mp hserves]
      exact ⟨by simp, h.known, h.suits⟩
  | known hj _ =>
      rw [serves_nil_iff.mp hserves]
      exact ⟨hfound hj, h⟩
  | absent _ _ kr _ =>
      cases serves_singleton_iff.mp hserves
      exact ⟨by simp, h.known, h.suits⟩
  | found hj _ =>
      cases serves_singleton_iff.mp hserves
      exact ⟨hfound hj, h.known, h.suits⟩

/-- A call is refused, or its board takes it. -/
theorem onBench_callStruct {c : DriverCall}
    {Q : Int32 × Option DriverReply → Process → Bench → Prop}
    (hrefused : ∀ kr out p d, kr ≠ kernSuccess → Watched i phase K p d → Q (kr, out) p d)
    (htaken : ∀ p d b' bus' u out fuel, Watched i phase K p d →
      Run (dispatch anyTransport (d.board i) anyUptime fuel c) u (some (out, b')) →
      Serves (Logging BusReacts) (d.bus i) u bus' →
      Q (kernSuccess, some out) p
        ⟨Function.update d.board i b', Function.update d.bus i bus'⟩) :
    OnBench (Watched i phase K) (callStruct i c) Q := by
  apply triple_callStruct
  · rintro reply kr p p' d d' hkr hne hp' h hserve
    cases hserve with
    | refused _ =>
        apply hrefused _ _ _ _ hkr
        rcases hp' with rfl | rfl
        · exact h
        · exact ⟨h.known, h.suits⟩
    | taken _ _ => exact absurd rfl hne
  · rintro reply p d d' hzero h hserve
    cases hserve with
    | refused hne => exact absurd hzero hne
    | taken hrun hbus => exact htaken _ _ _ _ _ _ _ h hrun hbus

/-- A call that reports a bus operation whose requests suit the phase. -/
theorem onBench_reports {α : Type} {c : DriverCall} {report : α → DriverReply}
    {op : GPIBBoard → BoardState → BoardCalls (α × BoardState)} (h : Reports c report op)
    (hkeeps : ∀ b, GPIBBoard.KeepsPAD (op b))
    (haims : ∀ handles b, K handles b.descriptors.slots b.state.boardPAD →
      Aims phase Anyhow (op b b.state) fun _ => Anyhow) :
    OnBench (Watched i phase K) (callStruct i c) fun _ => Watched i phase K := by
  apply onBench_callStruct
  · intro kr out p d _ hwatched
    exact hwatched
  · intro p d b' bus' u out fuel hwatched hrun hbus
    obtain ⟨htable, hpad⟩ := reports_run h hkeeps hrun
    rw [h (d.board i) fuel] at hrun
    have hsuits := aims_reporting (haims _ _ hwatched.known) _ _ _ _ hwatched.suits hrun hbus
    constructor
    · simp only [Function.update_self, htable, hpad]
      exact hwatched.known
    · simp only [Function.update_self]
      exact hsuits

/-- The descriptor behind a handle that the driver has reported. -/
def Opened (o : OpenDescriptorIn) (handle : Int32) : Knowledge := fun _ slots _ =>
  ∃ h ∈ DescriptorTable.handles, handle = Int32.ofInt h ∧ slots h = some o.options

theorem onBench_openDescriptor {o : OpenDescriptorIn}
    (hK : ∀ handles slots pad h, K handles slots pad → slots h = none →
      K handles (Function.update slots h (some o.options)) pad) :
    OnBench (Watched i phase K) (callStruct i (.openDescriptor o)) fun r =>
      Watched i phase fun handles slots pad => K handles slots pad ∧
        (r.1 = kernSuccess → ¬ (openDescriptorOut r.2).1 < 0 →
          Opened o (openDescriptorOut r.2).1 handles slots pad) := by
  apply onBench_callStruct
  · intro kr out p d hkr h
    exact h.mono fun handles slots pad hknown => ⟨hknown, fun hok => absurd hok hkr⟩
  · intro p d b' bus' u out fuel hwatched hrun hbus
    obtain ⟨heffect, hpad⟩ := run_openDescriptor hrun
    obtain ⟨rfl, -⟩ := run_pure_iff.mp hrun
    have hquiet := serves_nil_iff.mp hbus
    have hknown := hwatched.known
    refine ⟨?_, by simpa only [Function.update_self, hquiet] using hwatched.suits⟩
    simp only [Function.update_self, hpad]
    rcases heffect.opened with ⟨handle, status, rfl, hmem, hfree, hslots⟩ | ⟨⟨status, rfl⟩, heq⟩
    · rw [hslots]
      refine ⟨hK _ _ _ _ hknown hfree, fun _ _ => ⟨handle, hmem, rfl, ?_⟩⟩
      rw [Function.update_self]
    · rw [heq]
      exact ⟨hknown, fun _ hreported => absurd (show Int32.ofInt (-1) < 0 by decide) hreported⟩

theorem onBench_closeDescriptor (handle : Int) :
    OnBench (Watched i phase K) (callStruct i (.closeDescriptor handle)) fun _ =>
      Watched i phase fun _ _ _ => True := by
  apply onBench_callStruct
  · intro kr out p d _ h
    exact h.mono fun _ _ _ _ => trivial
  · intro p d b' bus' u out fuel hwatched hrun hbus
    obtain ⟨rfl, -⟩ := run_pure_iff.mp hrun
    have hquiet := serves_nil_iff.mp hbus
    exact ⟨trivial, by simpa only [Function.update_self, hquiet] using hwatched.suits⟩

/-! ## Handles -/

/-- The knowledge survives that the library opens the board's own descriptor. -/
structure SurvivesOpening (i : Int32) (K : Knowledge) : Prop where
  opened : ∀ handles slots pad h, K handles slots pad → handles i < 0 → slots h = none →
    K handles (Function.update slots h (some boardDescriptorIn.options)) pad
  cached : ∀ handles slots pad h, K handles slots pad → handles i < 0 →
    Opened boardDescriptorIn h handles slots pad → K (Function.update handles i h) slots pad

/-- What the library has cached for a board once it has found the handle. -/
def CachedAs (i h : Int32) (handles : Int32 → Int32) : Prop := 0 ≤ h → handles i = h

theorem onBench_openBoard (hquiet : AllowsQuiet phase) (hK : SurvivesOpening i K) :
    OnBench (Watched i phase fun handles slots pad => K handles slots pad ∧ handles i < 0)
      (openBoard i) fun h =>
        Watched i phase fun handles slots pad => K handles slots pad ∧ CachedAs i h handles := by
  have hnegative (handles : Int32 → Int32) : CachedAs i (-1) handles :=
    fun h => absurd h (by decide)
  have hfail {K' : Knowledge} (hK' : ∀ handles slots pad, K' handles slots pad →
      K handles slots pad) (ibsta iberr : UInt32) :
      OnBench (Watched i phase K') (do
        setStatus ibsta iberr 0
        return (-1 : Int32)) fun h =>
          Watched i phase fun handles slots pad => K handles slots pad ∧ CachedAs i h handles :=
    onBench_finish _ _ _ _ fun p d h => h.mono fun _ _ _ h => ⟨hK' _ _ _ h, hnegative _⟩
  unfold openBoard
  refine triple_bind (onBench_connForBoard i) fun conn => ?_
  cases conn with
  | none => exact triple_pure fun p d h => h.2.mono fun _ _ _ h => ⟨h.1, hnegative _⟩
  | some c =>
      apply triple_of_pre
      intro hconn
      obtain ⟨rfl, hi⟩ := hconn c rfl
      refine triple_bind (onBench_reports (reports_boardOnline 1)
        (fun _ => (GPIBBoard.stores_setOnline _).keepsPAD)
        fun _ _ _ => aims_setOnline hquiet _) fun online => ?_
      apply triple_ite
      · intro _
        exact hfail (fun _ _ _ h => h.1) _ _
      intro _
      refine triple_bind (onBench_openDescriptor fun handles slots pad h hknown hfree =>
        ⟨hK.opened handles slots pad h hknown.1 hknown.2 hfree, hknown.2⟩) fun opened => ?_
      apply triple_ite
      · intro _
        exact hfail (fun _ _ _ h => h.1.1) _ _
      intro hkr
      apply triple_ite
      · intro _
        exact hfail (fun _ _ _ h => h.1.1) _ _
      intro hreported
      unfold setBoardHandle
      simp only [hi, Bool.not_true, Bool.false_eq_true, if_false]
      refine triple_bind (triple_modify fun p d h => ?_) fun _ => triple_pure fun p d h => h
      obtain ⟨⟨hknown, hcached⟩, hopened⟩ := h.known
      refine ⟨⟨hK.cached _ _ _ _ hknown hcached (hopened (not_not.mp hkr) hreported), ?_⟩, h.suits⟩
      exact fun _ => Function.update_self c (openDescriptorOut opened.2).1 p.boardHandles

theorem onBench_boardHandle (hquiet : AllowsQuiet phase) (hK : SurvivesOpening i K) :
    OnBench (Watched i phase K) (boardHandle i) fun h =>
      Watched i phase fun handles slots pad => K handles slots pad ∧ CachedAs i h handles := by
  apply triple_boardHandle
  · intro p d _ h
    exact h.mono fun _ _ _ h => ⟨h, fun hle => absurd hle (by decide)⟩
  · intro p d _ h
    exact ⟨⟨h.known, fun _ => rfl⟩, h.suits⟩
  · intro _
    apply (onBench_openBoard hquiet hK).conseq _ fun _ _ _ h => h
    rintro p d ⟨huncached, h⟩
    exact ⟨⟨h.known, huncached⟩, h.suits⟩

/-- The handle that a descriptor of the library stands for. -/
def Names (ud h : Int32) (handles : Int32 → Int32) : Prop :=
  if isBoardUd ud then CachedAs ud h handles else h = ud &&& handleMask

theorem boardOf_of_isBoardUd {ud : Int32} (h : isBoardUd ud = true) : boardOf ud = ud :=
  if_pos h

theorem onBench_handleOf {ud : Int32} (hquiet : AllowsQuiet phase)
    (hK : isBoardUd ud = true → SurvivesOpening ud K) :
    OnBench (Watched (boardOf ud) phase K) (handleOf ud) fun h =>
      Watched (boardOf ud) phase fun handles slots pad =>
        K handles slots pad ∧ Names ud h handles := by
  unfold handleOf
  apply triple_ite
  · intro hud
    rw [boardOf_of_isBoardUd hud]
    simp only [Names, hud, if_true]
    exact onBench_boardHandle hquiet (hK hud)
  · intro hud
    apply triple_pure
    intro p d h
    apply h.mono
    intro handles slots pad h
    rw [Names, if_neg hud]
    exact ⟨h, rfl⟩

/-! ## Calls on a descriptor -/

/-- A call on a descriptor that keeps what is known. -/
abbrev KeepsWatch {α : Type} (i : Int32) (phase : Addressing → BoardRequest → Prop)
    (K : Knowledge) (x : Lib α) : Prop :=
  OnBench (Watched i phase K) x fun _ => Watched i phase K

theorem keepsWatch_finish {α : Type} (ibsta iberr : UInt32) (cnt : Nat) (a : α) :
    KeepsWatch i phase K (do
      setStatus ibsta iberr cnt
      return a) :=
  onBench_finish _ _ _ _ fun _ _ h => h

/-- A call whose handle is that of `ud`. -/
def CallKeepsWatch (phase : Addressing → BoardRequest → Prop) (K : Knowledge) (ud : Int32)
    (call : Int → DriverCall) : Prop :=
  ∀ h, OnBench (Watched (boardOf ud) phase fun handles slots pad =>
    K handles slots pad ∧ Names ud h handles) (callStruct (boardOf ud) (call h.toInt))
      fun _ => Watched (boardOf ud) phase K

/-- The board of `ud` was found, and `ud` names `handle` at it. -/
def AtHandle (ud : Int32) (phase : Addressing → BoardRequest → Prop) (K : Knowledge)
    (conn handle : Int32) (p : Process) (d : Bench) : Prop :=
  conn = boardOf ud ∧ Watched (boardOf ud) phase (fun handles slots pad =>
    K handles slots pad ∧ Names ud handle handles) p d

theorem onBench_findHandle {ud : Int32} (hquiet : AllowsQuiet phase)
    (hK : isBoardUd ud = true → SurvivesOpening ud K) (conn : Int32) :
    OnBench (fun p d => (∀ c, some conn = some c → c = boardOf ud ∧ inRange (boardOf ud) = true) ∧
      Watched (boardOf ud) phase K p d) (handleOf ud) (AtHandle ud phase K conn) := by
  apply triple_of_pre
  intro hconn
  obtain ⟨rfl, -⟩ := hconn conn rfl
  exact (onBench_handleOf hquiet hK).conseq (fun _ _ h => h) fun _ _ _ h => ⟨rfl, h⟩

theorem CallKeepsWatch.onBench {ud : Int32} {call : Int → DriverCall}
    (hcall : CallKeepsWatch phase K ud call) (conn handle : Int32) :
    OnBench (AtHandle ud phase K conn handle) (callStruct conn (call handle.toInt))
      fun _ => Watched (boardOf ud) phase K := by
  apply triple_of_pre
  rintro rfl
  exact hcall handle

theorem keepsWatch_onHandle {α : Type} {ud : Int32} {call : Int → DriverCall} {refused : α}
    {finish : Option DriverReply → Lib (UInt32 × α)} (hquiet : AllowsQuiet phase)
    (hK : isBoardUd ud = true → SurvivesOpening ud K) (hcall : CallKeepsWatch phase K ud call)
    (hfinish : ∀ out, KeepsWatch (boardOf ud) phase K (finish out)) :
    KeepsWatch (boardOf ud) phase K (onHandle ud call refused finish) :=
  triple_onHandle (onBench_connForBoard (boardOf ud)) (fun _ _ h => h.2)
    (onBench_findHandle hquiet hK) hcall.onBench (fun _ _ _ => keepsWatch_finish _ _ _ _) hfinish

theorem keepsWatch_sendBytes {ud : Int32} {call : Int → List UInt8 → DriverCall}
    {buf : List UInt8} {cnt : Int} (hquiet : AllowsQuiet phase)
    (hK : isBoardUd ud = true → SurvivesOpening ud K)
    (hcall : CallKeepsWatch phase K ud (call · (buf.take cnt.toNat))) :
    KeepsWatch (boardOf ud) phase K (sendBytes ud call buf cnt) := by
  refine triple_sendBytes (onBench_connForBoard (boardOf ud)) (fun _ _ h => h.2) (fun c _ => ?_)
    (onBench_findHandle hquiet hK) (fun _ => hcall.onBench)
    (fun _ _ _ => keepsWatch_finish _ _ _ _) fun _ => keepsWatch_finish _ _ _ _
  exact (keepsWatch_finish _ _ _ _).conseq (fun _ _ h => h.2) fun _ _ _ h => h

theorem keepsWatch_ibrd {ud : Int32} {cnt : Int} (hquiet : AllowsQuiet phase)
    (hK : isBoardUd ud = true → SurvivesOpening ud K)
    (hcall : ∀ n, CallKeepsWatch phase K ud (.read · n)) :
    KeepsWatch (boardOf ud) phase K (ibrd ud cnt) := by
  refine triple_ibrd (onBench_connForBoard (boardOf ud)) (fun _ _ h => h.2) (fun c _ => ?_)
    (onBench_findHandle hquiet hK) (fun c handle n => (hcall n).onBench c handle)
    (fun _ _ _ => keepsWatch_finish _ _ _ _) fun _ _ => keepsWatch_finish _ _ _ _
  exact (keepsWatch_finish _ _ _ _).conseq (fun _ _ h => h.2) fun _ _ _ h => h

/-! ## Devices -/

/-- A descriptor that the library makes for a device behind board `i`. -/
structure IsDeviceUd (i ud : Int32) : Prop where
  not_board : isBoardUd ud = false
  boardOf_eq : boardOf ud = i

/-- The descriptor behind `ud` is the one that was opened as `o`. -/
def AtDevice (o : OpenDescriptorIn) (ud : Int32) (boardPAD : UInt8) : Knowledge :=
  fun _ slots pad => pad = boardPAD ∧ slots (ud &&& handleMask).toInt = some o.options

/-- The tag of a device keeps it apart from the boards. -/
theorem isDeviceUd_makeUd (hi : inRange i = true) (handle : Int32) :
    IsDeviceUd i (makeUd i handle) := by
  simp only [inRange, Bool.and_eq_true, decide_eq_true_eq] at hi
  have hle : i ≤ 127 := Int32.le_trans (Int32.le_of_lt hi.2) (by decide)
  exact ⟨isBoardUd_makeUd i handle, boardOf_makeUd hi.1 hle handle⟩

theorem survivesOpening_boardPAD (boardPAD : UInt8) :
    SurvivesOpening i fun _ _ pad => pad = boardPAD where
  opened _ _ _ _ h _ _ := h
  cached _ _ _ _ h _ _ := h

/-- A descriptor that `ibdev` returns is that of the device it was asked for. -/
theorem onBench_ibdev (hquiet : AllowsQuiet phase) {boardPAD : UInt8}
    (pad sad timo sendEoi eosmode : Int32) :
    OnBench (Watched i phase fun _ _ pad => pad = boardPAD)
      (ibdev i pad sad timo sendEoi eosmode) fun ud p d =>
        (0 ≤ ud → IsDeviceUd i ud ∧ Watched i phase
          (AtDevice (deviceDescriptorIn pad sad timo sendEoi eosmode) ud boardPAD) p d) ∧
        Watched i phase (fun _ _ _ => True) p d := by
  have hnone {K' : Knowledge} {p : Process} {d : Bench} (h : Watched i phase K' p d) :
      ((0 : Int32) ≤ -1 → IsDeviceUd i (-1) ∧ Watched i phase
          (AtDevice (deviceDescriptorIn pad sad timo sendEoi eosmode) (-1) boardPAD) p d) ∧
        Watched i phase (fun _ _ _ => True) p d :=
    ⟨fun hle => absurd hle (by decide), h.mono fun _ _ _ _ => trivial⟩
  unfold ibdev
  refine triple_bind (onBench_boardHandle hquiet (survivesOpening_boardPAD boardPAD)) fun h => ?_
  apply triple_ite
  · intro _
    exact triple_pure fun p d h => hnone h
  intro _
  refine triple_bind (onBench_connForBoard i) fun conn => ?_
  cases conn with
  | none => exact triple_pure fun p d h => hnone h.2
  | some c =>
      apply triple_of_pre
      intro hconn
      obtain ⟨rfl, hi⟩ := hconn c rfl
      refine triple_bind (onBench_openDescriptor fun _ _ _ _ h _ => h) fun opened => ?_
      apply triple_ite
      · intro _
        exact onBench_finish _ _ _ _ fun p d h => hnone h
      intro hkr
      apply triple_ite
      · intro _
        exact onBench_finish _ _ _ _ fun p d h => hnone h
      intro hreported
      apply onBench_finish
      intro p d hwatched
      refine ⟨fun _ => ?_, hwatched.mono fun _ _ _ _ => trivial⟩
      change IsDeviceUd c (makeUd c (openDescriptorOut opened.2).1) ∧
        Watched c phase (AtDevice _ (makeUd c (openDescriptorOut opened.2).1) boardPAD) p d
      obtain ⟨⟨hpad, -⟩, hopened⟩ := hwatched.known
      obtain ⟨handle, hmem, heq, hslots⟩ := hopened (not_not.mp hkr) hreported
      rw [heq]
      have haddress := toInt_ofInt_handle hmem
      exact ⟨isDeviceUd_makeUd hi _,
        ⟨hpad, by rw [makeUd_ofInt_handle hmem, haddress, hslots]⟩, hwatched.suits⟩

/-- Closing a device asks nothing of the bus. -/
theorem onBench_ibonl {ud : Int32} (hud : IsDeviceUd i ud) :
    KeepsWatch i phase (fun _ _ _ => True) (ibonl ud 0) := by
  obtain ⟨hnot, rfl⟩ := hud
  unfold ibonl
  refine triple_bind (onBench_connForBoard (boardOf ud)) fun conn => ?_
  cases conn with
  | none => exact triple_pure fun p d h => h.2
  | some c =>
      apply triple_of_pre
      intro hconn
      obtain ⟨rfl, -⟩ := hconn c rfl
      simp only [handleOf, hnot, Bool.false_eq_true, if_false, if_true, pure_bind]
      exact triple_bind (onBench_closeDescriptor _) fun _ => keepsWatch_finish _ _ _ _

/-- A bracket of opening, one operation and closing. -/
theorem onBench_withDevice {α : Type} {bd : Int32} {address : Addr4882} {absent : α}
    {op : Int32 → Lib α} (hquiet : AllowsQuiet phase) {boardPAD : UInt8}
    (hop : ∀ ud, IsDeviceUd (boardOf bd) ud → OnBench (Watched (boardOf bd) phase
      (AtDevice (openDeviceIn address) ud boardPAD)) (op ud)
        fun _ => Watched (boardOf bd) phase fun _ _ _ => True) :
    OnBench (Watched (boardOf bd) phase fun _ _ pad => pad = boardPAD)
      (withDevice bd address absent op)
        fun _ => Watched (boardOf bd) phase fun _ _ _ => True := by
  unfold withDevice openDevice
  refine triple_bind (onBench_ibdev hquiet _ _ _ _ _) fun ud => ?_
  apply triple_ite
  · intro _
    exact triple_pure fun p d h => h.2
  intro hud
  have hopened : 0 ≤ ud := Int32.not_lt.mp hud
  intro p d u a p' d' h hrun hserves
  obtain ⟨hdevice, hwatched⟩ := h.1 hopened
  have hrest : OnBench (Watched (boardOf bd) phase (AtDevice (openDeviceIn address) ud boardPAD))
      (do
        let a ← op ud
        let _ ← ibonl ud 0
        return a) fun _ => Watched (boardOf bd) phase fun _ _ _ => True :=
    triple_bind (hop ud hdevice) fun _ =>
      triple_bind (onBench_ibonl hdevice) fun _ => triple_pure fun _ _ h => h
  exact hrest p d u a p' d' hwatched hrun hserves

end Library

/-! ## A bench with one board -/

/-- What `ibfind("gpib0")` leaves behind: the board is online, and its own descriptor is
handle 1. -/
def foundBoard : GPIBBoard :=
  { (GPIBBoard.init.openDescriptor boardDescriptorIn.options).2 with
    state := { GPIBBoard.init.state with
      renRequested := true, online := true, ibsta := Ibsta.cmpl ||| Ibsta.cic ||| Ibsta.rem } }

/-- The process after `ibfind("gpib0")`. -/
def foundProcess : Process :=
  { Process.init with
    reachable := Function.update (fun _ => false) 0 true
    boardHandles := Function.update (fun _ => -1) 0 1 }

def foundBench : Bench := ⟨fun _ => foundBoard, fun _ => (.clear, [])⟩

/-- A call that the board of index 0 takes. -/
def answered (c : DriverCall) (out : DriverReply) : Exchange BrokerCall.Reply :=
  ⟨.call 0 c, (⟨0, some out⟩ : CallReply)⟩

/-- What a process asks that has not found board 0 before. -/
def lookupTrace : Trace BrokerCall.Reply :=
  [⟨.probe 0, (0 : Int64)⟩, answered (.boardOnline 1) (.status ⟨Ibsta.cmpl, 0⟩),
    answered (.openDescriptor boardDescriptorIn) (.opened 1 ⟨Ibsta.cmpl, 0⟩)]

end Libgpib

end DarwinGpib
