import DarwinGpib.Client.Bench
import DarwinGpib.Library.Blocks

/-!
# Files that are written to a device

`ibwrtf` reads a file in blocks of its own buffer's size and hands each block to `ibwrt`, which
takes no more than fits a call.
-/

namespace DarwinGpib

open Blocks Interaction UserClient

namespace Libgpib

/-! ## What is handed to the driver -/

/-- The bytes of a write, its last byte with EOI if that is asked for. -/
def BrokerCall.handed : BrokerCall → List (UInt8 × Bool)
  | call _ (.write _ sendEoi data) => framed (sendEoi ≠ 0) data
  | _ => []

/-- The bytes handed to the driver, in order. -/
def handedOver (u : Trace BrokerCall.Reply) : List (UInt8 × Bool) :=
  u.flatMap fun e => e.request.handed

/-- The driver took all bytes of a write and reports no error. -/
def TakenInFull (data : List UInt8) (reply : CallReply) : Prop :=
  reply.kr = 0 ∧ ∃ st, reply.out = some (.counted st) ∧ st.ibsta &&& Ibsta.err = 0 ∧
    st.ibcnt = data.length

/-- The board answers its probe, and the driver takes a write in full. -/
def Accepted : Exchange BrokerCall.Reply → Prop
  | ⟨.probe _, (kr : Int64)⟩ => kr = 0
  | ⟨.call _ (.write _ _ data), reply⟩ => TakenInFull data reply
  | _ => True

/-- A driver that takes every write in full, with the bytes that it was handed so far. -/
def Accepting (s : List (UInt8 × Bool)) (e : Exchange BrokerCall.Reply)
    (s' : List (UInt8 × Bool)) : Prop :=
  Accepted e ∧ s' = s ++ e.request.handed

theorem serves_accepting {u : Trace BrokerCall.Reply} (h : ∀ e ∈ u, Accepted e)
    (s : List (UInt8 × Bool)) : Serves Accepting s u (s ++ handedOver u) := by
  induction u generalizing s with
  | nil =>
      rw [handedOver, List.flatMap_nil, List.append_nil]
      exact .nil s
  | cons e u ih =>
      obtain ⟨he, hu⟩ := List.forall_mem_cons.mp h
      rw [handedOver, List.flatMap_cons, ← List.append_assoc]
      exact .cons ⟨he, rfl⟩ (ih hu _)

theorem BrokerCall.Resolves.handed {i : BrokerCall} (h : i.Resolves) : i.handed = [] := by
  cases i with
  | probe => rfl
  | call j c => cases c <;> first | rfl | exact h.elim

/-! ## One block -/

section Blocks

variable {ud : Int32} {s : List (UInt8 × Bool)}

/-- A part of a call that resolves a board hands nothing over. -/
theorem triple_resolving {α : Type} {x : Lib α} (h : Resolving x) :
    Triple Accepting (fun _ d => d = s) x fun _ _ d => d = s := by
  rintro p d u a p' d' rfl hrun hserves
  have hresolves := (h.of_run hrun).1
  clear hrun
  induction hserves with
  | nil => rfl
  | cons hserve _ ih =>
      obtain ⟨he, hu⟩ := List.forall_mem_cons.mp hresolves
      rw [ih hu, hserve.2, (not_not.mp he).handed, List.append_nil]

/-- Every board in range is found. -/
theorem triple_connForBoard_accepting (i : Int32) :
    Triple Accepting (fun _ d => d = s) (connForBoard i) fun conn _ d =>
      conn.isSome = inRange i ∧ d = s := by
  have hfound : Triple Accepting (fun _ d => d = s) (connForBoard i) fun conn _ _ =>
      conn.isSome = inRange i :=
    triple_connForBoard_isSome (fun _ _ _ _ hserve => hserve.1) i
  exact (hfound.and (triple_resolving (resolving_connForBoard i))).conseq
    (fun _ _ h => ⟨h, h⟩) fun _ _ _ h => h

/-- Whether `ibwrt` takes a block. -/
def FitsWrite (ud : Int32) (data : List UInt8) : Prop :=
  inRange (boardOf ud) = true ∧ (data.length : Int) ≤ kGPIBMaxInlineWrite

/-- What `ibwrt` leaves: it has handed its block over, or refused it. -/
def BlockWritten (ud : Int32) (data : List UInt8) (s : List (UInt8 × Bool)) (ret : UInt32)
    (d : List (UInt8 × Bool)) : Prop :=
  FitsWrite ud data ∧ ret &&& Ibsta.err = 0 ∧ d = s ++ framed true data ∨
    ¬ FitsWrite ud data ∧ ret &&& Ibsta.err ≠ 0 ∧ d = s

/-- The call that hands a block over. -/
theorem triple_writeCall {conn : Int32} {handle : Int} {data : List UInt8} :
    Triple Accepting (fun _ d => d = s) (callStruct conn (.write handle 1 data)) fun r _ d =>
      r.1 = kernSuccess ∧ (writeOut r.2).ibsta &&& Ibsta.err = 0 ∧
        d = s ++ framed true data := by
  apply triple_callStruct
  · rintro reply kr p p' d d' - hne - - hserve
    obtain ⟨⟨hkr, -⟩, -⟩ := hserve
    rw [hkr] at hne
    exact absurd rfl hne
  · rintro reply p d d' - rfl hserve
    obtain ⟨⟨-, st, hout, hok, -⟩, rfl⟩ := hserve
    rw [hout]
    exact ⟨rfl, hok, rfl⟩

theorem triple_ibwrt_accepting (data : List UInt8) :
    Triple Accepting (fun _ d => d = s) (ibwrt ud data data.length) fun ret _ d =>
      BlockWritten ud data s ret d := by
  have herr : Ibsta.err &&& Ibsta.err ≠ 0 := by decide
  refine triple_sendBytes
    (H := fun _ _ _ d => inRange (boardOf ud) = true ∧ d = s)
    (R := fun r _ d => FitsWrite ud data ∧ r.1 = kernSuccess ∧
      (writeOut r.2).ibsta &&& Ibsta.err = 0 ∧ d = s ++ framed true data)
    (triple_connForBoard_accepting (boardOf ud)) ?_ ?_ ?_ ?_ ?_ ?_
  · rintro p d ⟨hnone, rfl⟩
    exact .inr ⟨fun h => absurd (hnone.trans h.1) (by decide), herr, rfl⟩
  · intro conn hcnt
    refine triple_bind (Q := fun _ _ d => d = s) (triple_modify fun p d h => h.2) fun _ => ?_
    refine triple_pure fun p d h => .inr ⟨fun hfits => ?_, herr, h⟩
    have hle := hfits.2
    omega
  · intro conn
    apply triple_of_pre
    intro hsome
    refine (triple_resolving (resolving_handleOf ud)).conseq (fun _ _ h => h) ?_
    exact fun handle p d h => ⟨hsome.symm, h⟩
  · intro hcnt conn handle
    rw [Int.toNat_natCast, List.take_length]
    apply triple_of_pre
    intro hi
    have hfits : FitsWrite ud data := ⟨hi, by omega⟩
    exact triple_writeCall.conseq (fun _ _ h => h) fun r p d h => ⟨hfits, h⟩
  · intro kr out hkr
    exact triple_of_pre fun _ => triple_of_pre fun h => absurd h hkr
  · intro out
    refine triple_bind (Q := fun _ _ => BlockWritten ud data s (writeOut out).ibsta)
      (triple_modify ?_) fun _ => triple_pure fun p d h => h
    rintro p d ⟨hfits, -, hok, rfl⟩
    exact .inl ⟨hfits, hok, rfl⟩

/-! ## The file -/

/-- A block of the buffer's size fits only if there is no more than the block. -/
theorem fitsWrite_take {rest : List UInt8} (h : FitsWrite ud (rest.take fileBufferSize)) :
    rest.take fileBufferSize = rest := by
  have hmax : kGPIBMaxInlineWrite < fileBufferSize := by decide
  have hle := h.2
  rw [List.length_take] at hle
  exact List.take_of_length_le (by omega)

theorem writeFileLoop_nil (ud : Int32) (fuel : Nat) (last : UInt32) :
    writeFileLoop ud fuel [] last = pure last := by
  cases fuel <;> rfl

/-- What is left of a file is written if it fits one call, and refused otherwise. -/
theorem triple_writeFileLoop (ud : Int32) (rest : List UInt8) {last : UInt32}
    (hlast : last &&& Ibsta.err = 0) (fuel : Nat) :
    Triple Accepting (fun _ d => d = s) (writeFileLoop ud (fuel + rest.length + 1) rest last)
      fun ret _ d => rest = [] ∧ ret &&& Ibsta.err = 0 ∧ d = s ∨
        rest ≠ [] ∧ BlockWritten ud rest s ret d := by
  cases rest with
  | nil => exact triple_pure fun p d h => .inl ⟨rfl, hlast, h⟩
  | cons b bs =>
      refine triple_bind (triple_ibwrt_accepting ((b :: bs).take fileBufferSize)) fun ret => ?_
      apply triple_ite
      · intro herr
        refine triple_pure fun p d h => .inr ⟨List.cons_ne_nil b bs, .inr ?_⟩
        rcases h with ⟨-, hok, -⟩ | ⟨hnot, -, hd⟩
        · exact absurd hok herr
        · refine ⟨fun hfits => hnot ?_, herr, hd⟩
          have hle := hfits.2
          refine ⟨hfits.1, le_trans ?_ hle⟩
          exact Int.ofNat_le.mpr (List.length_take_le' _ _)
      · intro hok
        -- The block fitted, so it was all there was, and the loop finds nothing left.
        refine Triple.conseq (P := fun _ d => FitsWrite ud ((b :: bs).take fileBufferSize) ∧
          ret &&& Ibsta.err = 0 ∧ d = s ++ framed true (b :: bs)) (triple_of_pre ?_) ?_
          fun _ _ _ h => h
        · intro hfits
          have hall := fitsWrite_take hfits
          rw [hall] at hfits ⊢
          rw [List.drop_length, writeFileLoop_nil]
          exact triple_pure fun p d h => .inr ⟨List.cons_ne_nil b bs, .inl ⟨hfits, h⟩⟩
        · intro p d h
          rcases h with ⟨hfits, h⟩ | ⟨-, herr, -⟩
          · rw [fitsWrite_take hfits] at h
            exact ⟨hfits, h⟩
          · exact absurd herr hok

end Blocks

/-- When the driver takes every write in full, a file reaches it whole, as one message and
without an error, just when it is empty, or the descriptor names a board and the file fits
one call. -/
theorem files_sent_whole_iff {ud : Int32} {content : List UInt8} {p p' : Process}
    {u : Trace BrokerCall.Reply} {ret : UInt32}
    (hrun : Run ((ibwrtf ud (some content)).run p) u (ret, p')) (h : ∀ e ∈ u, Accepted e) :
    ret &&& Ibsta.err = 0 ∧ handedOver u = framed true content ↔
      content = [] ∨
        inRange (boardOf ud) = true ∧ (content.length : Int) ≤ kGPIBMaxInlineWrite := by
  have hcmpl : Ibsta.cmpl &&& Ibsta.err = 0 := by decide
  have hloop := triple_writeFileLoop ud (s := []) content hcmpl 0
  rw [Nat.zero_add] at hloop
  rcases hloop p [] u ret p' _ rfl hrun (serves_accepting h []) with
    ⟨rfl, hok, hd⟩ | ⟨hne, ⟨hfits, hok, hd⟩ | ⟨hnot, herr, hd⟩⟩
  · exact iff_of_true ⟨hok, hd⟩ (.inl rfl)
  · exact iff_of_true ⟨hok, hd⟩ (.inr hfits)
  · exact iff_of_false (fun h => herr h.1) (not_or.mpr ⟨hne, hnot⟩)

/-- On board 0 after `ibfind("gpib0")`, a block that does not fit is refused. -/
theorem run_ibwrt_tooLong {data : List UInt8} (h : kGPIBMaxInlineWrite < (data.length : Int)) :
    Run ((ibwrt 0 data data.length).run foundProcess) []
      (Ibsta.err, { foundProcess with ibsta := Ibsta.err, iberr := Iberr.earg, ibcntl := 0 }) := by
  refine run_stateT_bind_iff.mpr ⟨[], some 0, foundProcess, [], rfl, .pure _, ?_⟩
  exact run_stateT_ite_iff.mpr (.inl ⟨.inr h, .pure _⟩)

/-- There a file that does not fit one call is refused. -/
theorem run_ibwrtf_tooLong {content : List UInt8}
    (h : kGPIBMaxInlineWrite < (content.length : Int)) :
    Run ((ibwrtf 0 (some content)).run foundProcess) []
      (Ibsta.err, { foundProcess with ibsta := Ibsta.err, iberr := Iberr.earg, ibcntl := 0 }) := by
  have hmax : kGPIBMaxInlineWrite = 4080 := by decide
  have hlong : kGPIBMaxInlineWrite < ((content.take fileBufferSize).length : Int) := by
    rw [List.length_take, fileBufferSize]
    omega
  refine run_stateT_ite_iff.mpr (.inr ⟨by omega, ?_⟩)
  refine run_stateT_bind_iff.mpr ⟨[], _, _, [], rfl, run_ibwrt_tooLong hlong, ?_⟩
  exact run_stateT_ite_iff.mpr (.inl ⟨by decide, .pure _⟩)

/-- So is one of 4081 bytes. -/
theorem file_of_4081_bytes_refused :
    ∃ p', Run ((ibwrtf 0 (some (List.replicate 4081 0))).run foundProcess) [] (Ibsta.err, p') ∧
      (∀ e ∈ ([] : Trace BrokerCall.Reply), Accepted e) ∧
        ¬ (Ibsta.err &&& Ibsta.err = 0 ∧
          handedOver [] = framed true (List.replicate 4081 (0 : UInt8))) := by
  have hlong : kGPIBMaxInlineWrite < ((List.replicate 4081 (0 : UInt8)).length : Int) := by
    rw [List.length_replicate]
    decide
  have herr : ¬ Ibsta.err &&& Ibsta.err = 0 := by decide
  refine ⟨_, run_ibwrtf_tooLong hlong, List.forall_mem_nil _, ?_⟩
  rintro ⟨hok, -⟩
  exact herr hok

/-- A file of three bytes that the driver takes. -/
theorem files_sent_whole_threeBytes :
    ∃ u ret p', Run ((ibwrtf 0 (some [1, 2, 3])).run foundProcess) u (ret, p') ∧
      (∀ e ∈ u, Accepted e) ∧ (ret &&& Ibsta.err = 0 ∧ handedOver u = framed true [1, 2, 3] ↔
        [1, 2, 3] = ([] : List UInt8) ∨ inRange (boardOf 0) = true ∧
          (([1, 2, 3] : List UInt8).length : Int) ≤ kGPIBMaxInlineWrite) := by
  have hrun : Run ((ibwrtf 0 (some [1, 2, 3])).run foundProcess)
      [answered (.write 1 1 [1, 2, 3]) (.counted ⟨⟨Ibsta.cmpl, 0⟩, 3⟩)]
      (Ibsta.cmpl, { foundProcess with ibsta := Ibsta.cmpl, iberr := 0, ibcntl := 3 }) :=
    .ask (.pure _)
  have haccepted : ∀ e ∈ [answered (.write 1 1 [1, 2, 3]) (.counted ⟨⟨Ibsta.cmpl, 0⟩, 3⟩)],
      Accepted e := by
    intro e he
    rw [List.mem_singleton.mp he]
    exact ⟨rfl, _, rfl, by decide, rfl⟩
  exact ⟨_, _, _, hrun, haccepted, files_sent_whole_iff hrun haccepted⟩

end Libgpib

end DarwinGpib
