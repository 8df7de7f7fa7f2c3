import DarwinGpib.Board.BusTransfers
import DarwinGpib.Client.GoodReplies
import DarwinGpib.Client.SplitTransfers

/-!
# End-of-transmission modes

What `Send`, `SendList` and `SendDataBytes` make of their mode. A mode says how a message ends on
the bus; EOI is asked for by every `ibwrt`, and the board masks it with the EOT setting of the
descriptor.
-/

namespace DarwinGpib

open Blocks Interaction Ieee488 UserClient

namespace Libgpib

/-! ## Modes -/

/-- `send_eotmode`. -/
inductive EotMode where
  | nullEnd
  | dabEnd
  | nlEnd
  deriving DecidableEq

def EotMode.code : EotMode → Int32
  | nullEnd => 0
  | dabEnd => 1
  | nlEnd => 2

/-- The bytes of a message in a mode, with EOI where the mode has it. -/
def EotMode.stream (mode : EotMode) (message : List UInt8) : List (UInt8 × Bool) :=
  match mode with
  | nullEnd => framed false message
  | dabEnd => framed true message
  | nlEnd => framed true (message ++ [10])

theorem EotMode.code_eq_nlEnd {mode : EotMode} : mode.code = Libgpib.nlEnd ↔ mode = nlEnd := by
  cases mode <;> decide

/-! ## Transfers that succeed -/

/-- The boards of a bench, where everything succeeds. -/
def SucceedsOn (d : Bench) (e : Exchange BrokerCall.Reply) (d' : Bench) : Prop :=
  Succeeds e ∧ Bench.Answers d e d'

/-- What the transfers on the bus of board `i` are. -/
def Carried (i : Int32) (earlier : List BusTransfer) (d : Bench) : Prop :=
  transfers (d.bus i).2 = earlier

/-- A part of a library call that goes well. -/
abbrev GoingWell {α : Type} (P : Process → Bench → Prop) (x : Lib α)
    (Q : α → Process → Bench → Prop) : Prop :=
  Triple SucceedsOn P x Q

section Library

variable {α : Type} {i ud : Int32} {earlier : List BusTransfer}
  {P : Process → Bench → Prop} {Q : α → Process → Bench → Prop} {x : Lib α}

theorem SucceedsOn.succeeds (d : Bench) (e : Exchange BrokerCall.Reply) (d' : Bench)
    (h : SucceedsOn d e d') : Succeeds e :=
  h.1

theorem goingWell_of_onBench (h : OnBench P x Q) : GoingWell P x Q :=
  fun p d u a p' d' hP hrun hserves =>
    h p d u a p' d' hP hrun (hserves.mono fun _ _ _ hserve => hserve.2)

/-! ### Calls without data -/

/-- Requests that put no data on a bus. -/
def BrokerCall.Quiet (c : BrokerCall) : Prop :=
  c.Resolves ∨ ∃ j handle, c = .call j (.closeDescriptor handle)

/-- What a call on board `j` leaves in the log of `i`. -/
theorem carried_update {d : Bench} {j : Int32} {bus' : Addressing × Log Addressing BoardRequest}
    (h : Carried i earlier d) (hbus : Carried j earlier d → transfers bus'.2 = earlier)
    (b' : GPIBBoard) :
    Carried i earlier ⟨Function.update d.board j b', Function.update d.bus j bus'⟩ := by
  by_cases hj : i = j
  · subst hj
    simpa only [Carried, Function.update_self] using hbus h
  · simpa only [Carried, Function.update_of_ne hj] using h

theorem Carried.of_quiet {d d' : Bench} {e : Exchange BrokerCall.Reply}
    (hquiet : e.request.Quiet) (h : Carried i earlier d) (hanswers : Bench.Answers d e d') :
    Carried i earlier d' := by
  cases hanswers with
  | probe => exact h
  | refused _ => exact h
  | @taken j c b' bus' u out fuel hrun hbus =>
      refine carried_update h (fun hj => ?_) b'
      have hsilent (hu : u = []) : transfers bus'.2 = earlier := by
        subst hu
        rw [serves_nil_iff.mp hbus]
        exact hj
      rcases hquiet with hresolves | ⟨k, handle, heq⟩
      · cases c with
        | openDescriptor o => exact hsilent (run_pure_iff.mp hrun).1
        | boardOnline online =>
            rw [reports_boardOnline online (d.board j) fuel] at hrun
            refine (meets_of_aims (Q := fun _ => Anyhow) ?_ _ _ _ _ ⟨trivial, hj⟩ hrun hbus).2
            exact aims_reporting (aims_setOnline allowsQuiet_withoutData _)
        | _ => exact hresolves.elim
      · cases heq
        exact hsilent (run_pure_iff.mp hrun).1

/-- A part of a call that resolves a board puts no data on a bus. -/
theorem goingWell_resolving (h : Resolving x) :
    GoingWell (fun _ d => Carried i earlier d) x fun _ _ d => Carried i earlier d := by
  intro p d u a p' d' hcarried hrun hserves
  have hresolves := (h.of_run hrun).1
  clear hrun
  induction hserves with
  | nil => exact hcarried
  | cons hserve _ ih =>
      obtain ⟨he, hu⟩ := List.forall_mem_cons.mp hresolves
      exact ih (hcarried.of_quiet (.inl (not_not.mp he)) hserve.2) hu

theorem goingWell_ibonl :
    GoingWell (fun _ d => Carried i earlier d) (ibonl ud 0) fun _ _ d => Carried i earlier d := by
  unfold ibonl
  refine triple_bind (goingWell_resolving (resolving_connForBoard _)) fun conn => ?_
  cases conn with
  | none => exact triple_pure fun _ _ h => h
  | some c =>
      refine triple_bind (goingWell_resolving (resolving_handleOf _)) fun handle => ?_
      refine triple_bind (Q := fun _ _ d => Carried i earlier d) ?_ fun r => ?_
      · apply triple_callStruct
        · rintro reply kr p p' d d' - - - h hserve
          exact h.of_quiet (.inr ⟨_, _, rfl⟩) hserve.2
        · rintro reply p d d' - h hserve
          exact h.of_quiet (.inr ⟨_, _, rfl⟩) hserve.2
      · exact triple_bind (triple_modify fun _ _ h => h) fun _ => triple_pure fun _ _ h => h

/-! ### Writes -/

/-- The data phase of a write by a descriptor: the descriptor decides on EOI. -/
def transferBy (o : DescriptorOptions) (data : List UInt8) : BusTransfer :=
  ⟨o.device.toFinset, framed o.eot data⟩

/-- A write by a descriptor with the options `o` has gone out. -/
def WrittenBy (i : Int32) (earlier : List BusTransfer) (o : Option DescriptorOptions)
    (data : List UInt8) (d : Bench) : Prop :=
  ∃ options, o = some options ∧ Carried i (earlier ++ [transferBy options data]) d

/-- A write that a driver takes without an error goes by the descriptor behind its handle. -/
theorem carried_of_write {d d' : Bench} {j handle : Int32} {data : List UInt8}
    {reply : CallReply} (h : Carried j earlier d)
    (hsucceeds : Succeeds ⟨.call j (.write handle.toInt 1 data), reply⟩)
    (hanswers : Bench.Answers d ⟨.call j (.write handle.toInt 1 data), reply⟩ d') :
    0 ≤ handle ∧
      WrittenBy j earlier ((d.board j).descriptors.slots handle.toInt) data d' := by
  obtain ⟨hkr, hok⟩ := hsucceeds
  cases hanswers with
  | refused hne => exact absurd hkr hne
  | @taken j c b' bus' u out fuel hrun hbus =>
      rw [reports_write handle.toInt 1 data (d.board j) fuel] at hrun
      obtain ⟨r, s, hwrite, rfl, rfl⟩ := GPIBBoard.run_reporting_iff.mp hrun
      obtain ⟨desc, t, hdesc, ⟨t', rfl⟩, hcarried⟩ :=
        meets_write (d.bus j) u (r, s) bus' ⟨trivial, h⟩ hwrite hbus hok
      have hle : 0 ≤ handle := by
        by_contra hneg
        rw [descriptorFor_of_neg _ (Int32.not_le.mp hneg)] at hdesc
        cases hdesc
      refine ⟨hle, desc.toDescriptorOptions, ?_, ?_⟩
      · rw [DescriptorTable.slots, hdesc]
        rfl
      · rw [listeners_writeCommands] at hcarried
        change transfers (Function.update d.bus j bus' j).2 = _
        rw [Function.update_self]
        exact hcarried

/-- `ibwrt` on a descriptor whose handle leads to the options `o`. -/
theorem goingWell_ibwrt {K : Knowledge} {o : Option DescriptorOptions} {buf : List UInt8}
    {cnt : Int} (hi : inRange (boardOf ud) = true) (hcnt : 0 ≤ cnt ∧ cnt ≤ kGPIBMaxInlineWrite)
    (hK : isBoardUd ud = true → SurvivesOpening ud K)
    (hslot : ∀ handles slots pad (h : Int32), K handles slots pad → Names ud h handles → 0 ≤ h →
      slots h.toInt = o) :
    GoingWell (fun p d => Watched (boardOf ud) (fun _ _ => True) K p d ∧
        Carried (boardOf ud) earlier d) (ibwrt ud buf cnt)
      fun _ _ => WrittenBy (boardOf ud) earlier o (buf.take cnt.toNat) := by
  have hquiet : AllowsQuiet fun _ _ => True := fun _ _ _ => trivial
  refine triple_sendBytes
    (C := fun conn p d => conn.isSome = inRange (boardOf ud) ∧
      ((∀ c, conn = some c → c = boardOf ud ∧ inRange (boardOf ud) = true) ∧
        Watched (boardOf ud) (fun _ _ => True) K p d) ∧ Carried (boardOf ud) earlier d)
    (H := fun conn h p d => AtHandle ud (fun _ _ => True) K conn h p d ∧
      Carried (boardOf ud) earlier d)
    (R := fun _ _ => WrittenBy (boardOf ud) earlier o (buf.take cnt.toNat))
    ?_ ?_ ?_ ?_ ?_ ?_ ?_
  · refine ((goingWell_connForBoard SucceedsOn.succeeds (P := fun _ _ => True) (boardOf ud)).and
      ((goingWell_of_onBench (onBench_connForBoard (boardOf ud))).and
        (goingWell_resolving (resolving_connForBoard (boardOf ud))))).conseq ?_ fun _ _ _ h => h
    exact fun _ _ h => ⟨trivial, h⟩
  · rintro p d ⟨hnone, -⟩
    rw [hi] at hnone
    cases hnone
  · intro conn hout
    omega
  · intro conn
    refine ((goingWell_of_onBench (onBench_findHandle hquiet hK conn)).and
      (goingWell_resolving (resolving_handleOf ud))).conseq ?_ fun _ _ _ h => h
    exact fun _ _ h => h.2
  · intro _ conn handle
    apply triple_callStruct
    · rintro reply kr p p' d d' - hne - - hserve
      exact absurd hserve.1.kr_eq hne
    · rintro reply p d d' - ⟨⟨rfl, hwatched⟩, hcarried⟩ hserve
      obtain ⟨hknown, hnames⟩ := hwatched.known
      obtain ⟨hle, hwritten⟩ := carried_of_write hcarried hserve.1 hserve.2
      rwa [hslot _ _ _ _ hknown hnames hle] at hwritten
  · intro kr out _
    exact triple_bind (triple_modify fun _ _ h => h) fun _ => triple_pure fun _ _ h => h
  · intro out
    exact triple_bind (triple_modify fun _ _ h => h) fun _ => triple_pure fun _ _ h => h

/-! ## The calls -/

/-- The options behind a descriptor of the library: those of its handle, or those with which the
board's own descriptor would be opened. -/
def optionsBehind (p : Process) (d : Bench) (ud : Int32) : Option DescriptorOptions :=
  if isBoardUd ud then ownDescriptor p d ud
  else (d.board (boardOf ud)).descriptors.slots (ud &&& handleMask).toInt

variable {mode : EotMode} {buffer : List UInt8} {count : Int} {bd : Int32}

/-- The device that `Send` addresses. -/
def addressee (address : Addr4882) : Option Address := (openDeviceIn address).options.device

theorem addressee_fin : ∀ (pad : Fin 31) (sad : Fin 127), sad.val = 0 ∨ 0x60 ≤ sad.val →
    (deviceDescriptorIn (UInt32.ofNat pad).toInt32
        (if (UInt32.ofNat sad).toInt32 = 0 then -1 else (UInt32.ofNat sad).toInt32) t3s 1
        0).options.device =
      some ⟨(UInt32.ofNat pad).toUInt8,
        if UInt32.ofNat sad ≠ 0 then some ((UInt32.ofNat sad).toUInt8 &&& 0x1f) else none⟩ := by
  decide +kernel

theorem addressee_of_wellFormed {address : Addr4882} (h : WellFormed address) :
    addressee address = some (deviceOf address) := by
  obtain ⟨hpad, hsad⟩ := h
  have hpad : (getPAD address).toNat < 31 := Nat.lt_succ_of_le (UInt32.le_iff_toNat_le.mp hpad)
  have hsad : ((getSAD address).toNat = 0 ∨ 0x60 ≤ (getSAD address).toNat) ∧
      (getSAD address).toNat < 127 := by
    rcases hsad with hzero | ⟨hge, hle⟩
    · rw [hzero]
      decide
    · have hle := UInt32.le_iff_toNat_le.mp hle
      exact ⟨.inr (UInt32.le_iff_toNat_le.mp hge), Nat.lt_succ_of_le hle⟩
  have hdevice := addressee_fin ⟨_, hpad⟩ ⟨_, hsad.2⟩ hsad.1
  simpa [addressee, openDeviceIn, deviceOf, secondaryOf] using hdevice

theorem goingWell_ibwrt_behind {o : Option DescriptorOptions} {buf : List UInt8} {cnt : Int}
    (hi : inRange (boardOf ud) = true) (hcnt : 0 ≤ cnt ∧ cnt ≤ kGPIBMaxInlineWrite) :
    GoingWell (fun p d => optionsBehind p d ud = o ∧ Carried (boardOf ud) earlier d)
      (ibwrt ud buf cnt) fun _ _ => WrittenBy (boardOf ud) earlier o (buf.take cnt.toNat) := by
  by_cases hud : isBoardUd ud = true
  · refine (goingWell_ibwrt (K := OwnDescriptor ud o) hi hcnt
      (fun _ => survivesOpening_ownDescriptor) ?_).conseq ?_ fun _ _ _ h => h
    · intro handles slots pad h hknown hnames hle
      rw [Names, if_pos hud] at hnames
      have hcached := hnames hle
      rw [← hcached]
      exact hknown.1 (by rwa [hcached])
    · rintro p d ⟨rfl, h⟩
      refine ⟨⟨?_, trivial, by simp⟩, h⟩
      rw [optionsBehind, if_pos hud, boardOf_of_isBoardUd hud]
      exact ownDescriptor_known p d
  · refine (goingWell_ibwrt (K := fun _ slots _ => slots (ud &&& handleMask).toInt = o) hi hcnt
      (fun h => absurd h hud) ?_).conseq ?_ fun _ _ _ h => h
    · intro handles slots pad h hknown hnames _
      rw [Names, if_neg hud] at hnames
      rw [hnames]
      exact hknown
    · rintro p d ⟨rfl, h⟩
      refine ⟨⟨?_, trivial, by simp⟩, h⟩
      rw [optionsBehind, if_neg hud]

/-- What `Send` puts on the bus in a mode. -/
def EotMode.sent (mode : EotMode) (message : List UInt8) : List (UInt8 × Bool) :=
  framed true (if mode = nlEnd then message ++ [10] else message)

theorem goingWell_sendDevice {o : OpenDescriptorIn} {allocated : Bool} (heot : o.options.eot = true)
    (hi : inRange (boardOf ud) = true) (hcount : 0 ≤ count ∧ count < kGPIBMaxInlineWrite)
    (hroom : mode = .nlEnd → allocated = true) :
    GoingWell (fun p d => optionsBehind p d ud = some o.options ∧ Carried (boardOf ud) earlier d)
      (sendDevice buffer count mode.code allocated ud) fun _ _ d =>
        Carried (boardOf ud) (earlier ++
          [⟨o.options.device.toFinset, mode.sent (buffer.take count.toNat)⟩]) d := by
  unfold sendDevice
  apply triple_ite
  · intro hmode
    obtain rfl := EotMode.code_eq_nlEnd.mp hmode
    rw [hroom rfl]
    refine triple_bind (goingWell_ibwrt_behind hi ⟨by omega, by omega⟩) fun _ => triple_pure ?_
    rintro p d ⟨options, ⟨⟩, hcarried⟩
    have htake : (buffer.take count.toNat ++ [10]).take (count + 1).toNat =
        buffer.take count.toNat ++ [10] := by
      apply List.take_of_length_le
      rw [List.length_append, List.length_take, List.length_singleton]
      omega
    rw [transferBy, htake, heot] at hcarried
    exact hcarried
  · intro hmode
    have hne : mode ≠ .nlEnd := mt EotMode.code_eq_nlEnd.mpr hmode
    refine triple_bind (goingWell_ibwrt_behind hi ⟨hcount.1, hcount.2.le⟩)
      fun _ => triple_pure ?_
    rintro p d ⟨options, ⟨⟩, hcarried⟩
    rw [transferBy, heot] at hcarried
    rw [EotMode.sent, if_neg hne]
    exact hcarried

theorem goingWell_send {address : Addr4882} {allocated : Bool} (hi : inRange (boardOf bd) = true)
    (hcount : 0 ≤ count ∧ count < kGPIBMaxInlineWrite) (hroom : mode = .nlEnd → allocated = true) :
    GoingWell (fun _ d => Carried (boardOf bd) earlier d)
      (send bd address buffer count mode.code allocated) fun _ _ d =>
        Carried (boardOf bd) (earlier ++
          [⟨(addressee address).toFinset, mode.sent (buffer.take count.toNat)⟩]) d := by
  have hsend (boardPAD : UInt8) : GoingWell (fun p d => Watched (boardOf bd) (fun _ _ => True)
      (fun _ _ pad => pad = boardPAD) p d ∧ Carried (boardOf bd) earlier d)
      (send bd address buffer count mode.code allocated) fun _ _ d =>
        Carried (boardOf bd) (earlier ++
          [⟨(addressee address).toFinset, mode.sent (buffer.take count.toNat)⟩]) d := by
    unfold send withDevice openDevice
    have hopens := goingWell_ibdev SucceedsOn.succeeds (P := fun _ _ => True) hi
    refine triple_bind (((hopens _ _ _ _ _).and
      ((goingWell_of_onBench (onBench_ibdev (fun _ _ _ => trivial) _ _ _ _ _)).and
        (goingWell_resolving (resolving_ibdev _ _ _ _ _ _)))).conseq (fun _ _ h => ⟨trivial, h⟩)
      fun _ _ _ h => h) fun ud => ?_
    apply triple_of_pre
    intro hud
    refine triple_ite (fun hneg => absurd hneg (Int32.not_lt.mpr hud)) fun _ => ?_
    rintro p d u a p' d' ⟨⟨hopened, -⟩, hcarried⟩ hrun hserves
    obtain ⟨⟨hnot, hboard⟩, hwatched⟩ := hopened hud
    rw [← hboard] at hi hcarried ⊢
    have hrest : GoingWell (fun p d => optionsBehind p d ud = some (openDeviceIn address).options ∧
        Carried (boardOf ud) earlier d) (do
          let a ← sendDevice buffer count mode.code allocated ud
          let _ ← ibonl ud 0
          return a) fun _ _ d => Carried (boardOf ud) (earlier ++
            [⟨(addressee address).toFinset, mode.sent (buffer.take count.toNat)⟩]) d :=
      triple_bind (goingWell_sendDevice rfl hi hcount hroom) fun _ =>
        triple_bind goingWell_ibonl fun _ => triple_pure fun _ _ h => h
    refine hrest p d u a p' d' ⟨?_, hcarried⟩ hrun hserves
    rw [optionsBehind, if_neg (by simp [hnot]), hboard]
    exact hwatched.known.2
  intro p d u a p' d' h
  exact hsend (d.board (boardOf bd)).state.boardPAD p d u a p' d' ⟨⟨rfl, trivial, by simp⟩, h⟩

/-- The addresses of a list in front of its terminator. -/
def addressed (list : List Addr4882) : List Addr4882 := list.takeWhile addrValid

theorem goingWell_sendList {allocated : Bool} (hi : inRange (boardOf bd) = true)
    (hcount : 0 ≤ count ∧ count < kGPIBMaxInlineWrite) (hroom : mode = .nlEnd → allocated = true)
    (list : List Addr4882) (earlier : List BusTransfer) :
    GoingWell (fun _ d => Carried (boardOf bd) earlier d)
      (sendList bd list buffer count mode.code allocated) fun _ _ d =>
        Carried (boardOf bd) (earlier ++ (addressed list).map fun address =>
          ⟨(addressee address).toFinset, mode.sent (buffer.take count.toNat)⟩) d := by
  induction list generalizing earlier with
  | nil => exact triple_pure fun p d h => by simpa [addressed] using h
  | cons address list ih =>
      refine triple_ite (fun hvalid => ?_) fun hvalid => ?_
      · have hend : addressed (address :: list) = [] :=
          List.takeWhile_cons_of_neg (by simpa using hvalid)
        exact triple_pure fun p d h => by simpa [hend] using h
      · have hmore : addressed (address :: list) = address :: addressed list :=
          List.takeWhile_cons_of_pos (by simpa using hvalid)
        rw [hmore, List.map_cons]
        refine triple_bind (goingWell_send hi hcount hroom) fun _ => ?_
        refine triple_bind (ih _) fun _ => triple_pure fun p d h => ?_
        rwa [List.append_assoc] at h

/-! ## When modes are honoured -/

theorem EotMode.sent_eq_stream_iff {message : List UInt8} :
    mode.sent message = mode.stream message ↔ mode ≠ .nullEnd ∨ message = [] := by
  cases mode <;> simp [EotMode.sent, EotMode.stream, framed_eq_iff]

/-- A message whose last byte has EOI or not, as the descriptor decides. -/
theorem framed_eq_stream_iff {eot : Bool} {message : List UInt8} :
    framed eot message = mode.stream message ↔
      mode ≠ .nlEnd ∧ (message = [] ∨ (mode = .dabEnd ↔ eot = true)) := by
  cases mode <;> cases eot <;> simp [EotMode.stream, framed_eq_iff]

end Library

/-- When the driver does all it is asked, a mode is honoured: by `Send` and `SendList` unless
it is NULLend and there is something to send; by `SendDataBytes` unless it is NLend, or the EOT
setting of the descriptor says otherwise about the last byte. -/
theorem eot_modes_honoured_iff {bd : Int32} {mode : EotMode} {buffer : List UInt8} {count : Int}
    {allocated : Bool} {p p' : Process} {d d' : Bench} {u : Trace BrokerCall.Reply}
    (hi : inRange (boardOf bd) = true) (hcount : 0 ≤ count ∧ count < kGPIBMaxInlineWrite)
    (hroom : mode = .nlEnd → allocated = true) (hlog : (d.bus (boardOf bd)).2 = [])
    (hserves : Serves SucceedsOn d u d') :
    (∀ address, Run ((send bd address buffer count mode.code allocated).run p) u ((), p') →
      (transfers (d'.bus (boardOf bd)).2 =
          [⟨(addressee address).toFinset, mode.stream (buffer.take count.toNat)⟩] ↔
        mode ≠ .nullEnd ∨ buffer.take count.toNat = [])) ∧
    (∀ list done, Run ((sendList bd list buffer count mode.code allocated).run p) u (done, p') →
      (transfers (d'.bus (boardOf bd)).2 = ((addressed list).map fun address =>
          ⟨(addressee address).toFinset, mode.stream (buffer.take count.toNat)⟩) ↔
        addressed list = [] ∨ mode ≠ .nullEnd ∨ buffer.take count.toNat = [])) ∧
    (Run ((sendDataBytes bd buffer count).run p) u ((), p') →
      (transfers (d'.bus (boardOf bd)).2 =
          [⟨((optionsBehind p d bd).bind DescriptorOptions.device).toFinset,
            mode.stream (buffer.take count.toNat)⟩] ↔
        mode ≠ .nlEnd ∧ (buffer.take count.toNat = [] ∨
          (mode = .dabEnd ↔ ∃ o ∈ optionsBehind p d bd, o.eot = true)))) := by
  have hnone : Carried (boardOf bd) [] d := by rw [Carried, hlog]; rfl
  refine ⟨fun address hrun => ?_, fun list done hrun => ?_, fun hrun => ?_⟩
  · have hcarried := goingWell_send hi hcount hroom p d u () p' d' hnone hrun hserves
    rw [hcarried, List.nil_append, List.cons.injEq, BusTransfer.mk.injEq]
    simp [EotMode.sent_eq_stream_iff]
  · have hcarried := goingWell_sendList hi hcount hroom list [] p d u done p' d' hnone hrun hserves
    rw [hcarried, List.nil_append, List.map_inj_left]
    simp only [BusTransfer.mk.injEq, true_and, EotMode.sent_eq_stream_iff]
    refine ⟨fun h => ?_, fun h address haddress => ?_⟩
    · by_cases hnil : addressed list = []
      · exact .inl hnil
      · obtain ⟨address, haddress⟩ := List.exists_mem_of_ne_nil _ hnil
        exact .inr (h address haddress)
    · exact h.resolve_left (List.ne_nil_of_mem haddress)
  · obtain ⟨_, hwrite, -⟩ := run_stateT_bind_pure_iff.mp hrun
    obtain ⟨o, ho, hcarried⟩ := goingWell_ibwrt_behind hi ⟨hcount.1, hcount.2.le⟩ p d u _ p' d'
      ⟨rfl, hnone⟩ hwrite hserves
    rw [hcarried, List.nil_append, transferBy, List.cons.injEq, BusTransfer.mk.injEq]
    simp [ho, framed_eq_stream_iff]

/-! ## One byte -/

/-- The board with a descriptor for primary address 5 behind handle 2. -/
def openedBoard : GPIBBoard := (foundBoard.openDescriptor (openDeviceIn 0x0005).options).2

/-- `Send` without a newline, on a bus that takes everything. -/
theorem run_send_oneByte {mode : EotMode} (hmode : mode ≠ .nlEnd) :
    ∃ u p' d', Run ((send 0 0x0005 [65] 1 mode.code true).run foundProcess) u ((), p') ∧
      Serves SucceedsOn foundBench u d' ∧
      transfers (d'.bus 0).2 = [⟨(addressee 0x0005).toFinset, [(65, true)]⟩] := by
  let address := BoardState.writeCommands 0 5 (-1)
  let set := Addressing.clear.receiveAll address
  let written : GPIBBoard := { openedBoard with state.ibsta := Ibsta.cmpl }
  have hrun : Run ((send 0 0x0005 [65] 1 mode.code true).run foundProcess)
      [answered (.openDescriptor (openDeviceIn 0x0005)) (.opened 2 ⟨Ibsta.cmpl, 0⟩),
        answered (.write 2 1 [65]) (.counted ⟨⟨Ibsta.cmpl, 0⟩, 1⟩),
        answered (.closeDescriptor 2) (.status ⟨Ibsta.cmpl, 0⟩)]
      ((), { foundProcess with ibsta := Ibsta.cmpl, ibcntl := 0 }) := by
    cases mode with
    | nlEnd => exact absurd rfl hmode
    | _ => exact .ask (.ask (.ask (.pure _)))
  have hopen : Run (dispatch anyTransport foundBoard anyUptime 0
      (.openDescriptor (openDeviceIn 0x0005))) []
      (some (.opened 2 ⟨Ibsta.cmpl, 0⟩, openedBoard)) :=
    .pure _
  have hwrite : Run (dispatch anyTransport openedBoard anyUptime 0 (.write 2 1 [65]))
      [⟨.sendCommandBytes address, GPIBTransportError.ok⟩,
        ⟨.writeData [65] true 3000000, (⟨.ok, 1⟩ : WriteResult)⟩]
      (some (.counted ⟨⟨Ibsta.cmpl, 0⟩, 1⟩, written)) :=
    .ask (.ask (.pure _))
  have hclose : Run (dispatch anyTransport written anyUptime 0 (.closeDescriptor 2)) []
      (some (.status ⟨Ibsta.cmpl, 0⟩, (written.closeDescriptor 2).2)) :=
    .pure _
  have haddressed : Logging BusReacts (.clear, [])
      ⟨.sendCommandBytes address, GPIBTransportError.ok⟩
      (set, [(.clear, .sendCommandBytes address)]) :=
    ⟨.sent, rfl⟩
  have hsent : Logging BusReacts (set, [(.clear, .sendCommandBytes address)])
      ⟨.writeData [65] true 3000000, (⟨.ok, 1⟩ : WriteResult)⟩
      (set, [(set, .writeData [65] true 3000000), (.clear, .sendCommandBytes address)]) :=
    ⟨.kept rfl, rfl⟩
  refine ⟨_, _, _, hrun, .cons ⟨⟨rfl, by decide⟩, .taken hopen (.nil _)⟩
    (.cons ⟨⟨rfl, rfl⟩, .taken hwrite (.cons haddressed (.cons hsent (.nil _)))⟩
      (.cons ⟨rfl, .taken hclose (.nil _)⟩ (.nil _))), ?_⟩
  simp only [Function.update_self]
  decide

/-- A byte in DABend reaches its device with EOI. -/
theorem eot_modes_honoured_oneByte :
    ∃ (u : Trace BrokerCall.Reply) (p' : Process) (d' : Bench),
      Run ((send 0 0x0005 [65] 1 EotMode.dabEnd.code true).run foundProcess) u ((), p') ∧
        transfers (d'.bus (boardOf 0)).2 = [⟨{deviceOf 0x0005}, [(65, true)]⟩] := by
  obtain ⟨u, p', d', hrun, hserves, -⟩ :=
    run_send_oneByte (show EotMode.dabEnd ≠ .nlEnd by decide)
  have hcount : (0 : Int) ≤ 1 ∧ (1 : Int) < kGPIBMaxInlineWrite := by decide
  have hhonoured := ((eot_modes_honoured_iff rfl hcount (fun _ => rfl) rfl hserves).1 _ hrun).mpr
    (.inl (by decide))
  rw [addressee_of_wellFormed (by decide)] at hhonoured
  exact ⟨u, p', d', hrun, hhonoured⟩

/-- So does a byte in NULLend. -/
theorem null_end_sends_eoi :
    ∃ u p' d', Run ((send 0 0x0005 [65] 1 EotMode.nullEnd.code true).run foundProcess) u ((), p') ∧
      Serves SucceedsOn foundBench u d' ∧ (foundBench.bus (boardOf 0)).2 = [] ∧
      transfers (d'.bus (boardOf 0)).2 ≠
        [⟨(addressee 0x0005).toFinset, EotMode.nullEnd.stream [65]⟩] := by
  obtain ⟨u, p', d', hrun, hserves, htransfers⟩ :=
    run_send_oneByte (show EotMode.nullEnd ≠ .nlEnd by decide)
  have hboard : boardOf 0 = 0 := rfl
  refine ⟨u, p', d', hrun, hserves, rfl, ?_⟩
  rw [hboard, htransfers]
  decide

end Libgpib

end DarwinGpib
