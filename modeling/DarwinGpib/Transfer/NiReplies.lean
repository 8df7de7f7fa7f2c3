import DarwinGpib.Library.Served
import DarwinGpib.Transfer.NiFraming

/-!
# Replies and the buffer they must fit

An NI adapter that answers a read request with data blocks alone needs 16 bytes for every 15 of
the message. `readData` asks for as much as its buffer holds, less a margin of 64 bytes, which
covers the framing of up to 255 blocks.
-/

namespace DarwinGpib

open Interaction

namespace NIUSBTransport

/-! ## Replies in data blocks -/

/-- A message in the data blocks that it takes, the last of them padded. -/
structure DataFraming (m : List UInt8) where
  blocks : List DataBlock
  kind_eq : ∀ b ∈ blocks, b.kind = .data
  length_eq : blocks.length = (m.length + 14) / 15
  message_eq : (blocks.flatMap DataBlock.payload).take m.length = m

/-- Blocks, status block and the number of valid bytes of the last block. -/
def replyOf (blocks : List DataBlock) (st : ReadStatusBlock) (valid : UInt8) : List UInt8 :=
  blocks.flatMap DataBlock.wire ++ (st.wire ++ [valid])

namespace DataFraming

variable {m : List UInt8}

/-- The number of message bytes in the last block. -/
def valid (f : DataFraming m) : Nat := m.length - 15 * (f.blocks.length - 1)

def reply (f : DataFraming m) (st : ReadStatusBlock) : List UInt8 :=
  replyOf f.blocks st (UInt8.ofNat f.valid)

end DataFraming

section Lengths

variable {bs : List DataBlock}

theorem wire_length_of_data {b : DataBlock} (h : b.kind = .data) : b.wire.length = 16 := by
  rw [DataBlock.wire, List.length_append, b.full, DataBlock.header, h]
  rfl

theorem flatMap_wire_length (h : ∀ b ∈ bs, b.kind = .data) :
    (bs.flatMap DataBlock.wire).length = 16 * bs.length := by
  induction bs with
  | nil => rfl
  | cons b bs ih =>
      obtain ⟨hb, hbs⟩ := List.forall_mem_cons.mp h
      rw [List.flatMap_cons, List.length_append, wire_length_of_data hb, ih hbs,
        List.length_cons]
      omega

/-- A transfer of whole blocks cuts between blocks. -/
theorem take_flatMap_wire (h : ∀ b ∈ bs, b.kind = .data) {k : Nat} (hk : k ≤ bs.length)
    (rest : List UInt8) :
    (bs.flatMap DataBlock.wire ++ rest).take (16 * k) = (bs.take k).flatMap DataBlock.wire := by
  have hsplit : bs.flatMap DataBlock.wire ++ rest =
      (bs.take k).flatMap DataBlock.wire ++ ((bs.drop k).flatMap DataBlock.wire ++ rest) := by
    rw [← List.append_assoc, ← List.flatMap_append, List.take_append_drop]
  have hlength : 16 * k = ((bs.take k).flatMap DataBlock.wire).length := by
    rw [flatMap_wire_length fun b hb => h b (List.mem_of_mem_take hb), List.length_take,
      Nat.min_eq_left hk]
  rw [hsplit, hlength, List.take_left]

theorem replyOf_length (h : ∀ b ∈ bs, b.kind = .data) (st : ReadStatusBlock) (valid : UInt8) :
    (replyOf bs st valid).length = 16 * bs.length + 9 := by
  rw [replyOf, List.length_append, flatMap_wire_length h]
  rfl

end Lengths

/-! ## Decoding them -/

section Decoding

variable {requestCount room : Nat} {r : ReadResult}

/-- A reply that is there as a whole is no I/O error. -/
theorem parseReadResponse_replyOf (hroom : requestCount ≤ room) (bs : List DataBlock)
    (st : ReadStatusBlock) (valid : UInt8)
    (hr : parseReadResponse room requestCount (replyOf bs st valid) = some r) : r.rc = .ok := by
  obtain ⟨p, buf, blockPayload, hwalk, hparse⟩ :=
    parseReadResponse_eq_some hroom (replyOf bs st valid)
  obtain ⟨hp, -, -⟩ := hwalk.blocks rfl
  rw [Nat.zero_add] at hp
  subst hp
  have hdrop : (replyOf bs st valid).drop (bs.flatMap DataBlock.wire).length =
      st.wire ++ [valid] := by
    rw [replyOf, List.drop_left]
  have hlength : (replyOf bs st valid).length = (bs.flatMap DataBlock.wire).length + 9 := by
    simp [replyOf, ReadStatusBlock.wire]
  obtain ⟨count, hstatus⟩ := ReadStatusBlock.parse hdrop
  rcases hparse with ⟨hshort | ⟨st', hst', hid⟩, -⟩ | ⟨st', -, hst', -, hdone⟩
  · omega
  · rw [hstatus] at hst'
    cases hst'
    exact absurd rfl hid
  · rw [hstatus] at hst'
    cases hst'
    cases hdone.symm.trans hr
    rfl

/-- One that breaks off behind a block is. -/
theorem parseReadResponse_blocks (hroom : requestCount ≤ room) (bs : List DataBlock)
    (hr : parseReadResponse room requestCount (bs.flatMap DataBlock.wire) = some r) :
    r.rc = .errIo := by
  obtain ⟨p, buf, blockPayload, hwalk, hparse⟩ :=
    parseReadResponse_eq_some hroom (bs.flatMap DataBlock.wire)
  have hend (id : UInt8) : ([] : List UInt8)[0]? ≠ some id := nofun
  obtain ⟨hp, -, -⟩ := hwalk.blocks_before (hend _) (hend _) (List.append_nil _).symm
  rcases hparse with ⟨-, hdone⟩ | ⟨st, hlong, -⟩
  · cases hdone.symm.trans hr
    rfl
  · omega

end Decoding

/-! ## The adapter -/

/-- An adapter that queues its reply when it is asked and hands over what a transfer has room
for. -/
inductive Replies (reply : List UInt8) : List UInt8 → Exchange Usb.Request.Reply → List UInt8 → Prop
  where
  | asked {pending bytes timeoutMs accepted} :
      Replies reply pending (Usb.sent .bulkOut bytes timeoutMs accepted) (pending ++ reply)
  | fetched {pending capacity timeoutMs h} :
      Replies reply pending (Usb.received .bulkIn capacity timeoutMs (pending.take capacity) h)
        (pending.drop capacity)
  | mapped {pending} : Replies reply pending Usb.mapped pending

section Adapter

variable {reply pending : List UInt8}

theorem meets_map_replies : Meets (Replies reply) (· = pending) (Program.call Usb.Request.map)
    fun r pending' => r = .success ∧ pending' = pending := by
  refine meets_call ?_
  rintro d r d' rfl hserve
  cases hserve
  exact ⟨rfl, rfl⟩

theorem meets_bulkOut_replies {bytes : List UInt8} {timeoutUs : Nat}
    (hfit : bytes.length ≤ kBulkBufferSize) :
    Meets (Replies reply) (· = pending) (attached.bulkOut bytes timeoutUs)
      fun rc pending' => rc = .ok ∧ pending' = pending ++ reply := by
  unfold bulkOut
  refine meets_ite nofun fun _ => ?_
  refine meets_ite (fun h => absurd hfit (Nat.not_le.mpr h)) fun _ => ?_
  refine meets_bind meets_map_replies fun ret => ?_
  refine meets_ite (fun hret => meets_pure fun d hd => absurd hd.1 hret) fun _ => ?_
  refine meets_bind (meets_call (Q := fun io d => io.status = .success ∧ d = pending ++ reply) ?_)
    fun io => meets_pure fun d hd => ⟨by rw [hd.1]; rfl, hd.2⟩
  rintro d io d' ⟨-, rfl⟩ hserve
  cases hserve
  exact ⟨rfl, rfl⟩

theorem meets_bulkIn_replies {capacity timeoutUs : Nat} (hcapacity : capacity ≤ kBulkBufferSize) :
    Meets (Replies reply) (· = pending) (attached.bulkIn capacity timeoutUs)
      fun r pending' => r = (.ok, pending.take capacity) ∧ pending' = pending.drop capacity := by
  unfold bulkIn
  rw [Nat.min_eq_left hcapacity]
  refine meets_ite nofun fun _ => ?_
  refine meets_bind (meets_call (Q := fun io d => io.status = .success ∧
    io.bytes = pending.take capacity ∧ d = pending.drop capacity) ?_) fun io => ?_
  · rintro d io d' rfl hserve
    cases hserve
    exact ⟨rfl, rfl, rfl⟩
  refine meets_ite (fun hio => meets_pure fun d hd => absurd hd.1 hio) fun _ => ?_
  refine meets_bind (meets_call (Q := fun ret d => ret = .success ∧
    io.bytes = pending.take capacity ∧ d = pending.drop capacity) ?_) fun ret => ?_
  · rintro d ret d' ⟨-, hbytes, rfl⟩ hserve
    cases hserve
    exact ⟨rfl, hbytes, rfl⟩
  refine meets_ite (fun hret => meets_pure fun d hd => absurd hd.1 hret) fun _ => ?_
  rw [Usb.copyTo, if_pos io.length_le, pure_bind]
  exact meets_pure fun d hd => ⟨by rw [hd.2.1], hd.2.2⟩

end Adapter

/-! ## Reading -/

/-- How many message bytes the buffer has room for, framed. -/
def framedRoom : Nat := (kBulkBufferSize - 9) / 16 * 15

example : framedRoom = 3825 ∧ kMaxRead = 4032 := ⟨rfl, rfl⟩

theorem DataFraming.reply_length_le_iff {m : List UInt8} (f : DataFraming m)
    (st : ReadStatusBlock) :
    (f.reply st).length ≤ kBulkBufferSize ↔ m.length ≤ framedRoom := by
  rw [DataFraming.reply, replyOf_length f.kind_eq, f.length_eq]
  simp only [kBulkBufferSize, framedRoom]
  omega

/-- What one transfer takes of a reply is the whole reply, or blocks without a status. -/
theorem DataFraming.parse_take_reply {m : List UInt8} (f : DataFraming m) (st : ReadStatusBlock)
    {requestCount room : Nat} (hroom : requestCount ≤ room) {r : ReadResult}
    (hr : parseReadResponse room requestCount ((f.reply st).take kBulkBufferSize) = some r) :
    ((f.reply st).drop kBulkBufferSize = [] ↔ m.length ≤ framedRoom) ∧
      (r.rc ≠ .errIo ↔ m.length ≤ framedRoom) := by
  rw [List.drop_eq_nil_iff, f.reply_length_le_iff]
  refine ⟨.rfl, ?_⟩
  by_cases hfits : m.length ≤ framedRoom
  · rw [List.take_of_length_le ((f.reply_length_le_iff st).mpr hfits)] at hr
    rw [parseReadResponse_replyOf hroom _ st _ hr]
    exact iff_of_true nofun hfits
  · have hblocks : 256 ≤ f.blocks.length := by
      rw [f.length_eq]
      simp only [framedRoom, kBulkBufferSize] at hfits
      omega
    have hcut : (f.reply st).take kBulkBufferSize =
        (f.blocks.take 256).flatMap DataBlock.wire :=
      take_flatMap_wire f.kind_eq hblocks _
    rw [hcut] at hr
    exact iff_of_false (not_not.mpr (parseReadResponse_blocks hroom _ hr)) hfits

/-- A read of a message that the request admits takes the whole reply, and does not fail over it,
exactly when the framed message fits the buffer. -/
theorem meets_readData_replies {m : List UInt8} (f : DataFraming m) (st : ReadStatusBlock)
    {requestCount : Nat} (hm : m.length ≤ min requestCount kMaxRead) (eosChar eosFlags : UInt8)
    (timeoutUs : Nat) :
    Meets (Replies (f.reply st)) (· = [])
      (attached.readData requestCount eosChar eosFlags timeoutUs) fun r pending =>
        (pending = [] ↔ m.length ≤ framedRoom) ∧ (r.rc ≠ .errIo ↔ m.length ≤ framedRoom) := by
  have hpacket : (readPacket (min requestCount kMaxRead) eosChar eosFlags timeoutUs).length ≤
      kBulkBufferSize := by
    rw [readPacket_length]
    decide
  unfold readData
  refine meets_ite (fun hzero => meets_pure fun d hd => ?_) fun _ => ?_
  · have hfits : m.length ≤ framedRoom := by
      rw [hzero, Nat.zero_min] at hm
      omega
    exact ⟨iff_of_true hd hfits, iff_of_true nofun hfits⟩
  refine meets_bind (meets_bulkOut_replies hpacket) fun rc => ?_
  refine meets_ite (fun hrc => meets_pure fun d hd => absurd hd.1 hrc) fun _ => ?_
  refine meets_bind ((meets_bulkIn_replies (Nat.le_refl _)).conseq (fun d hd => hd.2)
    fun _ _ h => h) ?_
  rintro ⟨rc', resp⟩
  refine meets_ite (fun hrc => meets_pure fun d hd => ?_) fun _ => ?_
  · exact absurd (congrArg Prod.fst hd.1) hrc
  rintro d u r d' ⟨hresp, rfl⟩ hrun hserves
  obtain ⟨rfl, hr⟩ := Usb.run_checked_iff.mp hrun
  obtain rfl := serves_nil_iff.mp hserves
  obtain rfl : resp = (f.reply st).take kBulkBufferSize := congrArg Prod.snd hresp
  exact f.parse_take_reply st (Nat.min_le_left _ _) hr

/-- For every message that a read may ask for, the reply fits the buffer, is taken whole and is
no I/O error exactly when the message is no longer than the buffer has room for, framed. -/
theorem readData_takes_reply_iff {m : List UInt8} (f : DataFraming m) (st : ReadStatusBlock)
    {requestCount : Nat} (hm : m.length ≤ min requestCount kMaxRead) {eosChar eosFlags : UInt8}
    {timeoutUs : Nat} {u : Usb.Trace} {r : ReadResult} {pending : List UInt8}
    (hrun : Run (attached.readData requestCount eosChar eosFlags timeoutUs) u r)
    (hserves : Serves (Replies (f.reply st)) [] u pending) :
    (f.reply st).length ≤ kBulkBufferSize ∧ pending = [] ∧ r.rc ≠ .errIo ↔
      m.length ≤ framedRoom := by
  obtain ⟨hpending, hrc⟩ :=
    meets_readData_replies f st hm eosChar eosFlags timeoutUs [] u r pending rfl hrun hserves
  rw [f.reply_length_le_iff, hpending, hrc, and_self, and_self]

/-! ## Messages of zeros -/

/-- A message of `n` zeros in blocks of zeros. -/
def zeros (n : Nat) : DataFraming (List.replicate n 0) where
  blocks := List.replicate ((n + 14) / 15) zeroBlock
  kind_eq b hb := by
    rw [List.eq_of_mem_replicate hb]
    rfl
  length_eq := by simp
  message_eq := by
    have hpayload : zeroBlock.payload = List.replicate 15 0 := rfl
    rw [List.flatMap_replicate, hpayload, List.flatten_replicate_replicate, List.take_replicate,
      List.length_replicate]
    congr 1
    omega

/-- Whatever the reply is, the read has an outcome. -/
theorem exists_run_readData (reply : List UInt8) {requestCount : Nat} (hpos : 1 ≤ requestCount)
    (hmax : requestCount ≤ kMaxRead) :
    ∃ u r pending, Run (attached.readData requestCount 0 0 1000000) u r ∧
      Serves (Replies reply) [] u pending := by
  have hfit : (reply.take kBulkBufferSize).length ≤ min kBulkBufferSize kBulkBufferSize := by
    rw [List.length_take, Nat.min_self]
    exact Nat.min_le_left _ _
  obtain ⟨p, buf, blockPayload, -, hparse⟩ :=
    parseReadResponse_eq_some (Nat.le_refl requestCount) (reply.take kBulkBufferSize)
  obtain ⟨r, hr⟩ : ∃ r, parseReadResponse requestCount requestCount
      (reply.take kBulkBufferSize) = some r := by
    rcases hparse with ⟨-, hr⟩ | ⟨st, -, -, -, hr⟩
    · exact ⟨_, hr⟩
    · exact ⟨_, hr⟩
  have hserves : Serves (Replies reply) []
      (deliveredTrace requestCount 0 0 1000000 0 (reply.take kBulkBufferSize) hfit)
      (reply.drop kBulkBufferSize) :=
    .cons .mapped (.cons .asked (.cons .fetched (.cons .mapped (.nil _))))
  exact ⟨_, r, _, run_readData_deliveredTrace hpos hmax hr, hserves⟩

/-- Twenty zeros are taken whole. -/
theorem readData_takes_twentyZeros :
    ∃ u r pending, Run (attached.readData 20 0 0 1000000) u r ∧
      Serves (Replies ((zeros 20).reply endStatus)) [] u pending ∧
      pending = [] ∧ r.rc ≠ .errIo := by
  obtain ⟨u, r, pending, hrun, hserves⟩ :=
    exists_run_readData ((zeros 20).reply endStatus) (by decide : 1 ≤ 20) (by decide)
  obtain ⟨-, hpending, hrc⟩ :=
    (readData_takes_reply_iff (zeros 20) endStatus (by decide) hrun hserves).mpr (by decide)
  exact ⟨u, r, pending, hrun, hserves, hpending, hrc⟩

/-- One byte more than fits leaves its status behind, and is an I/O error. -/
theorem readData_leaves_reply :
    (List.replicate 3826 (0 : UInt8)).length ≤ min 4032 kMaxRead ∧
      ∃ u r pending, Run (attached.readData 4032 0 0 1000000) u r ∧
        Serves (Replies ((zeros 3826).reply endStatus)) [] u pending ∧
        kBulkBufferSize < ((zeros 3826).reply endStatus).length ∧ pending ≠ [] ∧
        r.rc = .errIo := by
  have hm : (List.replicate 3826 (0 : UInt8)).length ≤ min 4032 kMaxRead := by
    rw [List.length_replicate]
    decide
  have hlong : ¬ (List.replicate 3826 (0 : UInt8)).length ≤ framedRoom := by
    rw [List.length_replicate]
    decide
  obtain ⟨u, r, pending, hrun, hserves⟩ :=
    exists_run_readData ((zeros 3826).reply endStatus) (by decide : 1 ≤ 4032) (by decide)
  obtain ⟨hpending, hrc⟩ :=
    meets_readData_replies (zeros 3826) endStatus hm 0 0 1000000 [] u r pending rfl hrun hserves
  refine ⟨hm, u, r, pending, hrun, hserves, ?_, fun h => hlong (hpending.mp h), ?_⟩
  · exact Nat.lt_of_not_le fun h => hlong (((zeros 3826).reply_length_le_iff endStatus).mp h)
  · exact not_not.mp fun h => hlong (hrc.mp h)

end NIUSBTransport

end DarwinGpib
