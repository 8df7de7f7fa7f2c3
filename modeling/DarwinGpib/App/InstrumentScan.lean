import DarwinGpib.App.Adapters
import DarwinGpib.Client.BoardNames
import DarwinGpib.Client.Requests
import DarwinGpib.Client.ScopedDescriptors
import DarwinGpib.Library.Past
import Mathlib.Data.List.Sort

/-!
# Scans

The app's scan of a bus is a program of library calls like the 488.2 calls are. It closes what it
opens, and what it lists has been reported by the board in this very scan.
-/

namespace DarwinGpib

open Interaction Libgpib UserClient

namespace GPIBDiscovery

open GPIBLibrary

variable {F : Ledger → Prop} {K : Ledger} {ud board : Int32} {boardIndex pad : Nat}
  {text : List UInt8 → Option String}

/-! ## Descriptors -/

theorem keeps_lastCallFailed : Keeps F lastCallFailed :=
  fun _ _ => triple_bind (triple_get fun _ _ h => h) fun _ => triple_pure fun _ _ h => h

theorem keeps_findBoard (index : Nat) : Keeps IsSince (findBoard index) := by
  refine keeps_bind ?_ fun ud => keeps_pure _
  unfold ibfind
  split
  · exact keeps_pure (-1)
  · exact keeps_pure (-1)
  · refine keeps_bind (keeps_boardHandle _) fun h => ?_
    exact keeps_ite (fun _ => keeps_pure (-1)) fun _ => keeps_finish _ _ _ _

theorem keeps_listenerPresent (board : Int32) (pad : Nat) :
    Keeps IsSince (listenerPresent board pad) := by
  refine keeps_bind (keeps_ibln (keeps_handleOf board) _ _) fun r => ?_
  refine keeps_bind keeps_lastCallFailed fun failed => ?_
  exact keeps_ite (fun _ => keeps_pure false) fun _ => keeps_pure _

theorem keeps_query (hhandle : Keeps F (handleOf ud)) (command : List UInt8) (readLimit : Nat) :
    Keeps F (query text ud command readLimit) := by
  refine keeps_bind (keeps_ibwrt hhandle _ _) fun written => ?_
  refine keeps_bind keeps_lastCallFailed fun failed => ?_
  refine keeps_ite (fun _ => keeps_pure none) fun _ => ?_
  refine keeps_bind (keeps_ibrd hhandle _) fun r => ?_
  refine keeps_bind keeps_lastCallFailed fun failed => ?_
  exact keeps_ite (fun _ => keeps_pure none) fun _ => keeps_pure _

/-- An instrument that was opened is closed whatever becomes of the query. -/
theorem keeps_identify (boardIndex pad : Nat) : Keeps IsSince (identify text boardIndex pad) := by
  intro K hK
  refine triple_bind (Q := fun found p d => (found = none ∧ Knowing K p d) ∨ ∃ ud i o,
    found = some ud ∧ inRange i = true ∧ IsDeviceUd i ud ∧
      Knowing (Beside i (ud &&& handleMask).toInt o K) p d) ?_ fun found => ?_
  · refine triple_bind (triple_ibdev _ _ _ _ _ _ hK) fun ud => triple_pure fun p d h => ?_
    rcases h with ⟨hneg, h⟩ | ⟨⟨hpos, hi, hud⟩, h⟩
    · exact .inl ⟨if_neg (Int32.not_le.mpr hneg), h⟩
    · exact .inr ⟨ud, _, _, if_pos (Int32.not_lt.mp hpos), hi, hud, h⟩
  · cases found with
    | none => exact triple_pure fun p d h => (h.resolve_right (by simp)).2
    | some ud =>
        rintro p d u a p' d' (⟨hnone, -⟩ | ⟨_, i, o, hfound, hi, hud, hbeside⟩) hrun hserves
        · cases hnone
        · cases hfound
          have hquery : Keeps (fun _ => True) (query text ud idn 256) :=
            keeps_query (keeps_handleOf_device hud.not_board) _ _
          have hrest : Triple Bench.Grants (Knowing (Beside i (ud &&& handleMask).toInt o K)) (do
              let answer ← query text ud idn 256
              goOffline ud
              return answer) fun _ => Knowing K :=
            triple_bind (hquery _ trivial) fun _ => triple_bind
              (triple_bind (triple_ibonl hi hud) fun _ => triple_pure fun _ _ h => h)
              fun _ => triple_pure fun _ _ h => h
          exact hrest p d u a p' d' hbeside hrun hserves

theorem keeps_occupied (board : Int32) (pads : List Nat) : Keeps IsSince (occupied board pads) := by
  induction pads with
  | nil => exact keeps_pure []
  | cons pad rest ih =>
      refine keeps_bind (keeps_listenerPresent board pad) fun present => ?_
      exact keeps_bind ih fun others => keeps_pure _

theorem keeps_instruments (boardIndex : Nat) (pads : List Nat) :
    Keeps IsSince (instruments text boardIndex pads) := by
  induction pads with
  | nil => exact keeps_pure []
  | cons pad rest ih =>
      refine keeps_bind (keeps_identify boardIndex pad) fun answer => ?_
      exact keeps_bind ih fun others => keeps_pure _

theorem keeps_scanInstruments (isAvailable : Bool) (boardIndex : Nat) :
    Keeps IsSince (scanInstruments text isAvailable boardIndex) := by
  refine keeps_ite (fun _ => keeps_pure _) fun _ => ?_
  refine keeps_bind (keeps_findBoard boardIndex) fun found => ?_
  cases found with
  | none => exact keeps_pure _
  | some board =>
      refine keeps_bind (keeps_occupied board _) fun pads => ?_
      refine keeps_ite (fun _ => keeps_pure _) fun _ => ?_
      exact keeps_bind (keeps_instruments boardIndex pads) fun results => keeps_pure _

/-! ## Reports -/

/-- The board reports a listener at an address, and no failure. -/
def reports (i : Int32) (pad : Nat) : Exchange BrokerCall.Reply → Bool
  | ⟨.call conn (.listenerPresent _ address _), (reply : CallReply)⟩ =>
      conn = i ∧ address = UInt32.ofNat pad ∧ reply.kr.toInt32 = 0 ∧
        (listenerOut reply.out).1 = true ∧ (listenerOut reply.out).2.ibsta &&& 0x8000 = 0
  | _ => false

def reported (u : Trace BrokerCall.Reply) (i : Int32) (pad : Nat) : Bool := u.any (reports i pad)

/-- Every call of the driver but that for a listener. -/
def Quiet : DriverCall → Prop
  | .listenerPresent _ _ _ => False
  | _ => True

/-- These addresses, and no others, have been reported by a board. -/
def Tells (i : Int32) (S : Nat → Prop) (u : Trace BrokerCall.Reply) : Prop :=
  ∀ q, reported u i q = true ↔ S q

theorem tells_nil (i : Int32) : Tells i (fun _ => False) [] := by
  simp [Tells, reported]

theorem Tells.append {u v : Trace BrokerCall.Reply} {i : Int32} {S T : Nat → Prop}
    (hu : Tells i S u) (hv : Tells i T v) : Tells i (fun q => S q ∨ T q) (u ++ v) := by
  intro q
  rw [reported, List.any_append, Bool.or_eq_true]
  exact or_congr (hu q) (hv q)

theorem Tells.congr {u : Trace BrokerCall.Reply} {i : Int32} {S T : Nat → Prop}
    (h : Tells i S u) (hST : ∀ q, S q ↔ T q) : Tells i T u :=
  fun q => (h q).trans (hST q)

/-- What asks for no listener is told of none. -/
theorem tells_of_asking {α : Type} {x : Lib α} (hx : Asking Quiet x) {p p' : Process}
    {u : Trace BrokerCall.Reply} {a : α} (hrun : Run (x.run p) u (a, p')) (i : Int32) :
    Tells i (fun _ => False) u := by
  refine fun q => iff_of_false (fun h => ?_) id
  obtain ⟨e, he, hreports⟩ := List.any_eq_true.mp h
  have hmakes := not_not.mp ((hx.of_run hrun).1 e he)
  unfold reports at hreports
  split at hreports
  · rcases hmakes with hresolves | ⟨conn, c, heq, hquiet⟩
    · exact hresolves
    · cases heq
      exact hquiet
  · cases hreports

theorem triple_asking {i : Int32} {S : Nat → Prop} {α : Type} {x : Lib α} (hx : Asking Quiet x) :
    Triple Recording (fun _ past => Tells i S past) x fun _ _ past => Tells i S past := by
  intro p past u a p' past' h hrun hserves
  obtain rfl := serves_recording_iff.mp hserves
  exact (h.append (tells_of_asking hx hrun i)).congr fun q => iff_of_eq (or_false _)

theorem triple_callStruct_listener {i handle : Int32} {address : UInt32} :
    Triple Recording (fun _ past => Tells i (fun _ => False) past)
      (callStruct i (.listenerPresent handle.toInt address 0)) fun r _ past =>
        Tells i (fun q => r.1 = kernSuccess ∧ address = UInt32.ofNat q ∧
          (listenerOut r.2).1 = true ∧ (listenerOut r.2).2.ibsta &&& 0x8000 = 0) past := by
  intro p past u r p' past' h hrun hserves
  obtain rfl := serves_recording_iff.mp hserves
  obtain ⟨reply, rfl, hout, hkr, -⟩ := run_callStruct hrun
  have hcall : Tells i (fun q => r.1 = kernSuccess ∧ address = UInt32.ofNat q ∧
      (listenerOut r.2).1 = true ∧ (listenerOut r.2).2.ibsta &&& 0x8000 = 0)
      [⟨.call i (.listenerPresent handle.toInt address 0), reply⟩] := by
    intro q
    rw [hout, hkr]
    simp [reported, reports, and_left_comm]
  exact (h.append hcall).congr fun q => iff_of_eq (false_or _)

theorem triple_connForBoard_listener (i : Int32) :
    Triple Recording (fun _ past => Tells i (fun _ => False) past) (connForBoard i)
      fun conn p past => Tells i (fun _ => False) past ∧
        (conn = none → p.ibsta = Ibsta.err) ∧ ∀ c ∈ conn, c = i := by
  intro p past u conn p' past' h hrun hserves
  refine ⟨triple_asking (resolving_connForBoard i).asking p past u conn p' past' h hrun hserves, ?_⟩
  cases lookedUp_of_run hrun with
  | outOfRange _ | absent _ _ _ _ => simp
  | known _ _ | found _ _ => simp

/-- An address counts as occupied where the answer says so and there is no failure. -/
theorem triple_ibln (board : Int32) (address : Int32) :
    Triple Recording (fun _ past => Tells (boardOf board) (fun _ => False) past)
      (ibln board address 0) fun r p past => Tells (boardOf board) (fun q =>
        p.ibsta &&& 0x8000 = 0 ∧ r.2 = some true ∧ address.toUInt32 = UInt32.ofNat q) past := by
  have herr : ¬ Ibsta.err &&& 0x8000 = 0 := by decide
  refine triple_onHandle
    (H := fun conn _ _ past => conn = boardOf board ∧ Tells (boardOf board) (fun _ => False) past)
    (R := fun r _ past => Tells (boardOf board) (fun q => r.1 = kernSuccess ∧
      address.toUInt32 = UInt32.ofNat q ∧ (listenerOut r.2).1 = true ∧
        (listenerOut r.2).2.ibsta &&& 0x8000 = 0) past)
    (triple_connForBoard_listener _) ?_ (fun conn => ?_) (fun conn handle => ?_)
    (fun kr out hkr => ?_) fun out => ?_
  · rintro p past ⟨htells, hsta, -⟩ q
    simp [htells q, hsta rfl, herr]
  · exact (triple_of_pre fun hconn => (triple_asking (resolving_handleOf board).asking).conseq
      (fun _ _ h => h) fun _ _ _ h => ⟨hconn, h⟩).conseq
        (fun _ _ h => ⟨h.2.2 conn rfl, h.1⟩) fun _ _ _ h => h
  · refine triple_of_pre fun hconn => ?_
    subst hconn
    exact triple_callStruct_listener
  · refine triple_bind (triple_modify (Q := fun _ p past => p.ibsta = Ibsta.err ∧
      Tells (boardOf board) (fun _ => False) past) fun p past htells => ⟨rfl, fun q => ?_⟩)
      fun _ => triple_pure fun p past ⟨hsta, htells⟩ q => ?_
    · simp [htells q, hkr]
    · simp [htells q, hsta, herr]
  · refine triple_bind (triple_modify (Q := fun _ p past =>
      p.ibsta = (listenerOut out).2.ibsta ∧ Tells (boardOf board) (fun q =>
        address.toUInt32 = UInt32.ofNat q ∧ (listenerOut out).1 = true ∧
          (listenerOut out).2.ibsta &&& 0x8000 = 0) past) fun p past htells => ⟨rfl, fun q => ?_⟩)
      fun _ => triple_pure fun p past ⟨hsta, htells⟩ q => ?_
    · simp [htells q]
    · rw [htells q, hsta]
      constructor
      · rintro ⟨haddress, hpresent, hsta⟩
        exact ⟨hsta, congrArg some hpresent, haddress⟩
      · rintro ⟨hsta, hpresent, haddress⟩
        exact ⟨haddress, Option.some.inj hpresent, hsta⟩

theorem tells_listenerPresent {p p' : Process} {u : Trace BrokerCall.Reply} {present : Bool}
    (hrun : Run ((listenerPresent board pad).run p) u (present, p')) :
    Tells (boardOf board) (fun q => present = true ∧ UInt32.ofNat pad = UInt32.ofNat q) u := by
  have hlisten : Triple Recording (fun _ past => past = []) (listenerPresent board pad)
      fun present _ past => Tells (boardOf board) (fun q =>
        present = true ∧ UInt32.ofNat pad = UInt32.ofNat q) past := by
    refine triple_bind ((triple_ibln board (Int32.ofNat pad)).conseq
      (fun _ past hpast => hpast ▸ tells_nil _) fun _ _ _ h => h) fun r => ?_
    have hfailed : Triple Recording (fun p past => Tells (boardOf board) (fun q =>
        p.ibsta &&& 0x8000 = 0 ∧ r.2 = some true ∧ UInt32.ofNat pad = UInt32.ofNat q) past)
        lastCallFailed fun failed _ past => Tells (boardOf board) (fun q =>
          failed = false ∧ r.2 = some true ∧ UInt32.ofNat pad = UInt32.ofNat q) past := by
      refine triple_bind (triple_get (Q := fun s _ past => Tells (boardOf board) (fun q =>
        s.ibsta &&& 0x8000 = 0 ∧ r.2 = some true ∧ UInt32.ofNat pad = UInt32.ofNat q) past)
        fun _ _ h => h) fun s => triple_pure fun p past htells q => ?_
      simpa using htells q
    refine triple_bind hfailed fun failed => triple_ite (fun htrue => triple_pure ?_)
      fun hfalse => triple_pure ?_
    · intro p past htells q
      simp [htells q, htrue]
    · intro p past htells q
      obtain ⟨ret, present⟩ := r
      cases present with
      | none => simp [htells q]
      | some present => simp [htells q, hfalse]
  exact hlisten.of_recording rfl hrun

/-- Only what the board reports in the sweep counts as occupied. -/
theorem tells_occupied {pads found : List Nat} {p p' : Process} {u : Trace BrokerCall.Reply}
    (hrun : Run ((occupied board pads).run p) u (found, p')) :
    found.Sublist pads ∧
      Tells (boardOf board) (fun q => ∃ pad ∈ found, UInt32.ofNat pad = UInt32.ofNat q) u := by
  induction pads generalizing p u found with
  | nil =>
      obtain ⟨rfl, heq⟩ := run_stateT_pure_iff.mp hrun
      cases heq
      exact ⟨.slnil, (tells_nil _).congr fun q => by simp⟩
  | cons pad rest ih =>
      obtain ⟨v, present, p₁, w, rfl, hv, hw⟩ := run_stateT_bind_iff.mp hrun
      obtain ⟨others, hothers, rfl⟩ := run_stateT_bind_pure_iff.mp hw
      obtain ⟨hsub, hrest⟩ := ih hothers
      have hpad := tells_listenerPresent hv
      cases present with
      | false =>
          exact ⟨hsub.cons pad, (hpad.append hrest).congr fun q => by simp⟩
      | true =>
          exact ⟨hsub.cons_cons pad, (hpad.append hrest).congr fun q => by simp⟩

/-! ## The board -/

/-- The name that the app gives a board is read as that board. -/
theorem boardIndexOf_name {n : Nat} (h : n < 2 ^ 31) :
    boardIndexOf ("gpib" ++ toString n).toList = Int32.ofNat n := by
  have hpart : numberPart ("gpib" ++ toString n).toList = (toString n).toList := by
    rw [String.toList_append]
    rfl
  have hdigits : ∀ c ∈ (toString n).toList, c.isDigit = true := fun c hc => isDigit_of_mem_toString hc
  have hvalue : decimal (toString n).toList = n := by
    rw [Nat.toString_eq_repr, Nat.toList_repr]
    exact Nat.ofDigitChars_ten_toDigits
  have hne : (toString n).toList ≠ [] := by
    rw [Nat.toString_eq_repr, Nat.toList_repr]
    exact Nat.toDigits_ne_nil
  have hclamp : max (-2 ^ 63) (min (n : Int) (2 ^ 63 - 1)) = n := by omega
  rw [boardIndexOf_eq, hpart, atoi_eq, leadingNumber_digits hne hdigits, hvalue, hclamp]
  rfl

/-- A name is refused, or found to be its board. -/
theorem run_ibfind {name : List Char} {ret : Int32} {p p' : Process} {u : Trace BrokerCall.Reply}
    (hrun : Run ((ibfind (some name)).run p) u (ret, p')) :
    ret = -1 ∨ ret = boardIndexOf name ∧ inRange ret = true := by
  by_cases h : name = [] ∨ ¬ FitsBoards (leadingNumber (numberPart name))
  · exact .inl (run_ibfind_refused h hrun).1
  · obtain ⟨hne, hfits⟩ := not_or.mp h
    obtain ⟨c, cs, rfl⟩ := List.exists_cons_of_ne_nil hne
    obtain ⟨v, handle, p₁, w, rfl, hv, hw⟩ := run_stateT_bind_iff.mp hrun
    rcases run_stateT_guard_iff.mp hw with ⟨-, -, heq⟩ | ⟨-, hw⟩
    · cases heq
      exact .inl rfl
    · obtain ⟨-, rfl, -⟩ := run_setStatus_return hw
      exact .inr ⟨rfl, inRange_boardIndexOf.mpr (not_not.mp hfits)⟩

theorem run_findBoard {n : Nat} {p p' : Process} {u : Trace BrokerCall.Reply} (h : n < 2 ^ 31)
    (hrun : Run ((findBoard n).run p) u (some board, p')) : boardOf board = Int32.ofNat n := by
  obtain ⟨ud, hud, hfound⟩ := run_stateT_bind_pure_iff.mp hrun
  rcases run_ibfind hud with rfl | ⟨rfl, hin⟩
  · cases hfound
  · split at hfound
    · obtain rfl := Option.some.inj hfound
      rw [boardOf, isBoardUd, if_pos hin, boardIndexOf_name h]
    · cases hfound

theorem asking_findBoard (n : Nat) : Asking Quiet (findBoard n) :=
  stateEnsures_bind (asking_ibfind _) fun _ _ => stateEnsures_pure trivial

theorem asking_identify (boardIndex pad : Nat) : Asking Quiet (identify text boardIndex pad) := by
  have hfailed : Asking Quiet lastCallFailed :=
    stateEnsures_bind stateEnsures_get fun _ _ => stateEnsures_pure trivial
  refine stateEnsures_bind (P := fun _ => True) ?_ fun found _ => ?_
  · exact stateEnsures_bind (asking_ibdev _ _ _ _ _ _) fun _ _ => stateEnsures_pure trivial
  cases found with
  | none => exact stateEnsures_pure trivial
  | some ud =>
      refine stateEnsures_bind (P := fun _ => True) ?_ fun answer _ => ?_
      · refine stateEnsures_bind (asking_sendBytes fun _ _ _ => trivial) fun written _ => ?_
        refine stateEnsures_bind hfailed fun failed _ => ?_
        refine stateEnsures_ite (fun _ => stateEnsures_pure trivial) fun _ => ?_
        refine stateEnsures_bind (asking_ibrd (fun _ _ _ => trivial) _ _) fun r _ => ?_
        refine stateEnsures_bind hfailed fun failed _ => ?_
        exact stateEnsures_ite (fun _ => stateEnsures_pure trivial) fun _ => stateEnsures_pure trivial
      · refine stateEnsures_bind (P := fun _ => True) ?_ fun _ _ => stateEnsures_pure trivial
        exact stateEnsures_bind (asking_ibonl (fun _ => trivial) _ _)
          fun _ _ => stateEnsures_pure trivial

/-- The title of the instrument at an address. -/
def idAt (boardIndex pad : Nat) : String := (instrumentAt boardIndex pad none).id

/-- One instrument for each address, in order. -/
theorem run_instruments {boardIndex : Nat} {pads : List Nat} {found : List GPIBInstrument}
    {p p' : Process} {u : Trace BrokerCall.Reply}
    (hrun : Run ((instruments text boardIndex pads).run p) u (found, p')) :
    found.map (·.primaryAddress) = pads ∧ (∀ x ∈ found, x.boardIndex = boardIndex) ∧
      found.map (·.id) = pads.map (idAt boardIndex) := by
  induction pads generalizing p u found with
  | nil =>
      obtain ⟨-, heq⟩ := run_stateT_pure_iff.mp hrun
      cases heq
      exact ⟨rfl, by simp, rfl⟩
  | cons pad rest ih =>
      obtain ⟨v, answer, p₁, w, rfl, hv, hw⟩ := run_stateT_bind_iff.mp hrun
      obtain ⟨others, hothers, rfl⟩ := run_stateT_bind_pure_iff.mp hw
      obtain ⟨haddresses, hboard, hids⟩ := ih hothers
      exact ⟨congrArg (pad :: ·) haddresses, List.forall_mem_cons.mpr ⟨rfl, hboard⟩,
        congrArg (idAt boardIndex pad :: ·) hids⟩

theorem idAt_injective (boardIndex : Nat) : Function.Injective (idAt boardIndex) := by
  intro pad pad' h
  have hlists := congrArg String.toList h
  simp only [idAt, instrumentAt, String.toList_append] at hlists
  exact toString_inj (List.append_cancel_left hlists)

theorem asking_instruments (boardIndex : Nat) (pads : List Nat) :
    Asking Quiet (instruments text boardIndex pads) := by
  induction pads with
  | nil => exact stateEnsures_pure trivial
  | cons pad rest ih =>
      refine stateEnsures_bind (asking_identify boardIndex pad) fun answer _ => ?_
      exact stateEnsures_bind ih fun _ _ => stateEnsures_pure trivial

/-! ## What is listed -/

/-- The addresses of a sweep that its board has reported. -/
def reportedAddresses (u : Trace BrokerCall.Reply) (boardIndex : Nat) : List Nat :=
  (List.range' 1 30).filter (reported u (Int32.ofNat boardIndex))

/-- What a scan may return behind its exchanges. -/
inductive Faithful (boardIndex : Nat) (u : Trace BrokerCall.Reply) :
    List GPIBInstrument × ScanState → Prop where
  | unavailable (hnone : reportedAddresses u boardIndex = []) :
      Faithful boardIndex u ([], .unavailable)
  | unreliable (hmany : maxDevicesOnBus < (reportedAddresses u boardIndex).length) :
      Faithful boardIndex u ([], .unreliable)
  | ok {found : List GPIBInstrument} (hcount : found.length ≤ maxDevicesOnBus)
      (haddresses : found.map (·.primaryAddress) = reportedAddresses u boardIndex)
      (hboard : ∀ x ∈ found, x.boardIndex = boardIndex) (hids : (found.map (·.id)).Nodup) :
      Faithful boardIndex u (found, .ok)

theorem reportedAddresses_of_tells {u : Trace BrokerCall.Reply} {boardIndex : Nat}
    {found : List Nat} (hsub : found.Sublist (List.range' 1 30))
    (htells : Tells (Int32.ofNat boardIndex)
      (fun q => ∃ pad ∈ found, UInt32.ofNat pad = UInt32.ofNat q) u) :
    reportedAddresses u boardIndex = found := by
  have hsorted : (List.range' 1 30).Pairwise (· < ·) := List.pairwise_lt_range'
  refine (hsorted.filter _).eq_of_mem_iff (hsorted.sublist hsub) fun q => ?_
  rw [List.mem_filter, htells q]
  constructor
  · rintro ⟨hq, pad, hpad, heq⟩
    -- 32 bits tell the addresses of the sweep apart
    have hlt : pad < 31 ∧ q < 31 := by
      simp only [List.mem_range'_1] at hq
      have hpad' := List.mem_range'_1.mp (hsub.subset hpad)
      omega
    have hnat := congrArg UInt32.toNat heq
    rw [UInt32.toNat_ofNat_of_lt' (Nat.lt_of_lt_of_le hlt.1 (by decide)),
      UInt32.toNat_ofNat_of_lt' (Nat.lt_of_lt_of_le hlt.2 (by decide))] at hnat
    rwa [← hnat]
  · intro hq
    exact ⟨hsub.subset hq, q, hq, rfl⟩

/-- Nothing is reported to a scan that asks for no listener. -/
theorem reportedAddresses_of_asking {α : Type} {x : Lib α} (hx : Asking Quiet x)
    {p p' : Process} {u : Trace BrokerCall.Reply} {a : α} (hrun : Run (x.run p) u (a, p'))
    (boardIndex : Nat) : reportedAddresses u boardIndex = [] := by
  refine List.filter_eq_nil_iff.mpr fun pad _ h => ?_
  exact (tells_of_asking hx hrun _ pad).mp h

/-- A bus with one instrument, which is turned away when it is written to. -/
def oneListener : (q : BrokerCall) → Option q.Reply
  | .probe _ => some (0 : Int64)
  | .call _ (.listenerPresent _ address _) =>
      some (⟨0, some (.listener (address = 5) ⟨Ibsta.cmpl, 0⟩)⟩ : CallReply)
  | .call _ (.openDescriptor _) => some (⟨0, some (.opened 2 ⟨Ibsta.cmpl, 0⟩)⟩ : CallReply)
  | .call _ _ => some (⟨1, none⟩ : CallReply)

end GPIBDiscovery

namespace Libgpib

/-! ## Scopes -/

/-- What closes the descriptors that it opens: a 488.2 call, or a scan. -/
inductive Scoped : ((α : Type) × Lib α) → Prop where
  | multi (c : MultiCall) : Scoped ⟨c.Result, c.exec⟩
  | scan (text : List UInt8 → Option String) (isAvailable : Bool) (boardIndex : Nat) :
      Scoped ⟨_, GPIBDiscovery.scanInstruments text isAvailable boardIndex⟩

theorem Scoped.keeps {x : (α : Type) × Lib α} (h : Scoped x) : Keeps IsSince x.2 := by
  cases h with
  | multi c => exact MultiCall.keeps_exec c
  | scan text isAvailable boardIndex =>
      exact GPIBDiscovery.keeps_scanInstruments isAvailable boardIndex

theorem since_self (handles : Int32 → Int32) (slots : Int32 → Int → Option DescriptorOptions) :
    Since handles slots handles slots :=
  fun _ => .inl ⟨rfl, rfl⟩

/-- Whatever 488.2 calls and scans a process makes, no descriptor of a device stays open behind
them. -/
theorem scoped_calls_leave_no_device {p p' : Process} {d d' : Bench}
    {xs : List ((α : Type) × Lib α)} (h : Succession Bench.Grants p d xs p' d')
    (hscoped : ∀ x ∈ xs, Scoped x) (i : Int32) :
    Settled (p.boardHandles i) (p'.boardHandles i) (d.slots i) (d'.slots i) :=
  h.invariant (P := Knowing (Since p.boardHandles d.slots))
    (fun x hx => (hscoped x hx).keeps _ ⟨_, _, rfl⟩) (since_self _ _) i

/-- A poll of device 5 that is turned away. -/
def turnedAwayPoll : Trace BrokerCall.Reply :=
  [answered (.openDescriptor (openDeviceIn 5)) (.opened 2 ⟨Ibsta.cmpl, 0⟩),
    ⟨.call 0 (.serialPoll 2), (⟨1, none⟩ : CallReply)⟩,
    answered (.closeDescriptor 2) (.status ⟨Ibsta.cmpl, 0⟩)]

theorem serves_turnedAwayPoll : ∃ d', Serves Bench.Grants foundBench turnedAwayPoll d' := by
  let b₁ := (foundBoard.openDescriptor (openDeviceIn 5).options).2
  let b₂ := (b₁.closeDescriptor 2).2
  have hopen : Run (dispatch anyTransport (foundBench.board 0) anyUptime 0
      (.openDescriptor (openDeviceIn 5))) [] (some (.opened 2 ⟨Ibsta.cmpl, 0⟩, b₁)) := .pure _
  let d₁ : Bench := ⟨Function.update foundBench.board 0 b₁,
    Function.update foundBench.bus 0 (foundBench.bus 0)⟩
  have hclose : Run (dispatch anyTransport (d₁.board 0) anyUptime 0 (.closeDescriptor 2)) []
      (some (.status ⟨Ibsta.cmpl, 0⟩, b₂)) := .pure _
  exact ⟨_, .cons ⟨.taken hopen (.nil _), trivial⟩ (.cons ⟨.refused (by decide), trivial⟩
    (.cons ⟨.taken hclose (.nil _), rfl⟩ (.nil _)))⟩

/-- The descriptor of a poll that is turned away is closed all the same. -/
theorem scoped_calls_leave_no_device_turnedAwayPoll :
    ∃ p' d', Succession Bench.Grants foundProcess foundBench
        [⟨UInt8, (MultiCall.readStatusByte 0 5).exec⟩] p' d' ∧
      Settled (foundProcess.boardHandles 0) (p'.boardHandles 0) (foundBench.slots 0)
        (d'.slots 0) := by
  obtain ⟨d', hserves⟩ := serves_turnedAwayPoll
  have hrun : Run ((MultiCall.exec (.readStatusByte 0 5)).run foundProcess) turnedAwayPoll
      ((0 : UInt8), { foundProcess with ibsta := Ibsta.cmpl }) := .ask (.ask (.ask (.pure _)))
  have hcalls : Succession Bench.Grants foundProcess foundBench
      [⟨UInt8, (MultiCall.readStatusByte 0 5).exec⟩] _ d' := .cons hrun hserves .nil
  refine ⟨_, d', hcalls, scoped_calls_leave_no_device hcalls ?_ 0⟩
  exact List.forall_mem_singleton.mpr (.multi (.readStatusByte 0 5))

end Libgpib

end DarwinGpib
