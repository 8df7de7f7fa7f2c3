import DarwinGpib.Transfer.NiReadResponse
import DarwinGpib.Transfer.Runs

/-!
# Decoding what the NI adapter frames

The adapter sends a message as data blocks of 15 or 30 payload bytes, all full but the last,
which is padded; a status block and the number of valid bytes of the last block follow.
`readData` gets the message back exactly when the payload size of the last block divides what
came before it and the request has room for the last block, or nothing came before it.
-/

namespace DarwinGpib

open Interaction

namespace NIUSBTransport

/-! ## The adapter's framing -/

inductive BlockKind where
  | data
  | extended
  deriving DecidableEq, Repr

/-- Payload bytes of a block. -/
def BlockKind.size : BlockKind → Nat
  | .data => 15
  | .extended => 30

theorem BlockKind.size_pos (k : BlockKind) : 0 < k.size := by
  cases k <;> decide

theorem BlockKind.size_le (k : BlockKind) : k.size ≤ 30 := by
  cases k <;> decide

/-- A block on the wire carries a full payload. -/
structure DataBlock where
  kind : BlockKind
  /-- The byte after the id of an extended block. -/
  reserved : UInt8
  payload : List UInt8
  full : payload.length = kind.size

namespace DataBlock

def header (b : DataBlock) : List UInt8 :=
  match b.kind with
  | .data => [niusbIbrdDataId]
  | .extended => [niusbIbrdExtendedDataId, b.reserved]

def wire (b : DataBlock) : List UInt8 := b.header ++ b.payload

end DataBlock

/-- A framing of the message `m`: full blocks, then a last block of which the first `valid`
bytes count. -/
structure Framing (m : List UInt8) where
  blocks : List DataBlock
  last : DataBlock
  valid : Nat
  valid_pos : 0 < valid
  valid_le : valid ≤ last.kind.size
  message_eq : blocks.flatMap DataBlock.payload ++ last.payload.take valid = m

/-- The bytes of a status block that reports no error. -/
structure ReadStatusBlock where
  ibstaHigh : UInt8
  ibstaLow : UInt8
  countLow : UInt8
  countHigh : UInt8
  trailing₀ : UInt8
  trailing₁ : UInt8

namespace ReadStatusBlock

def ibsta (st : ReadStatusBlock) : UInt16 := (st.ibstaHigh.toUInt16 <<< 8) ||| st.ibstaLow.toUInt16

def wire (st : ReadStatusBlock) : List UInt8 :=
  [niusbIbrdStatusId, st.ibstaHigh, st.ibstaLow, 0, st.countLow, st.countHigh, st.trailing₀,
    st.trailing₁]

end ReadStatusBlock

namespace Framing

variable {m : List UInt8}

/-- All payload bytes, padding included. -/
def payload (f : Framing m) : List UInt8 :=
  (f.blocks ++ [f.last]).flatMap DataBlock.payload

/-- The number of message bytes before the last block. -/
def preceding (f : Framing m) : Nat := (f.blocks.flatMap DataBlock.payload).length

/-- The whole response to a read request. -/
def response (f : Framing m) (st : ReadStatusBlock) : List UInt8 :=
  (f.blocks ++ [f.last]).flatMap DataBlock.wire ++ (st.wire ++ [UInt8.ofNat f.valid])

theorem payload_length (f : Framing m) :
    f.payload.length = f.preceding + f.last.kind.size := by
  simp [payload, preceding, f.last.full]

theorem message_length (f : Framing m) : m.length = f.preceding + f.valid := by
  have hlast := f.last.full
  have hvalid := f.valid_le
  have hlength := congrArg List.length f.message_eq
  rw [List.length_append, List.length_take] at hlength
  rw [preceding]
  omega

theorem payload_take (f : Framing m) : f.payload.take m.length = m := by
  have hpayload : f.payload = f.blocks.flatMap DataBlock.payload ++ f.last.payload := by
    simp [payload]
  rw [hpayload, f.message_length, preceding, List.take_length_add_append, f.message_eq]

theorem valid_toNat (f : Framing m) : (UInt8.ofNat f.valid).toNat = f.valid := by
  have hvalid := f.valid_le
  have hsize := f.last.kind.size_le
  simp only [UInt8.toNat_ofNat']
  omega

end Framing

/-! ## Walking the blocks -/

variable {requestCount : Nat} {resp : List UInt8}

theorem getElem?_of_drop {p : Nat} {x : UInt8} {rest : List UInt8}
    (h : resp.drop p = x :: rest) : resp[p]? = some x := by
  have hget : (resp.drop p)[0]? = some x := by rw [h]; rfl
  simpa using hget

theorem drop_of_drop {p : Nat} {front rest : List UInt8} (h : resp.drop p = front ++ rest) :
    resp.drop (p + front.length) = rest := by
  rw [← List.drop_drop, h, List.drop_left]

theorem payloadAt_of_drop {p k : Nat} {front rest : List UInt8}
    (h : resp.drop p = front ++ rest) (hk : front.length = k) : payloadAt resp p k = front := by
  rw [payloadAt, h, ← hk, List.take_left]

/-- The walk over one block of the adapter stores its payload, as far as the request reaches,
and goes on behind it. -/
theorem Walk.block {p blockPayload p' blockPayload' : Nat} {buf buf' rest : List UInt8}
    {b : DataBlock} (hdrop : resp.drop p = b.wire ++ rest)
    (h : Walk requestCount resp p buf blockPayload p' buf' blockPayload') :
    Walk requestCount resp (p + b.wire.length)
      (buf ++ b.payload.take (requestCount - buf.length)) b.kind.size p' buf' blockPayload' := by
  have hne : niusbIbrdDataId ≠ niusbIbrdExtendedDataId := by decide
  obtain ⟨kind, reserved, payload, full⟩ := b
  cases kind with
  | data =>
      have hid : resp[p]? = some niusbIbrdDataId := getElem?_of_drop hdrop
      have hbehind : resp.drop (p + 1) = payload ++ rest :=
        @drop_of_drop resp p [niusbIbrdDataId] (payload ++ rest) hdrop
      have hpayload : payloadAt resp (p + 1) 15 = payload := payloadAt_of_drop hbehind full
      cases h with
      | stop h _ => exact absurd hid h
      | data _ hrest =>
          rw [hpayload] at hrest
          simpa [DataBlock.wire, DataBlock.header, BlockKind.size, Nat.add_assoc,
            Nat.add_comm 1] using hrest
      | extended h _ => exact absurd (Option.some.inj (hid.symm.trans h)) hne
  | extended =>
      have hid : resp[p]? = some niusbIbrdExtendedDataId := getElem?_of_drop hdrop
      have hbehind : resp.drop (p + 2) = payload ++ rest :=
        @drop_of_drop resp p [niusbIbrdExtendedDataId, reserved] (payload ++ rest) hdrop
      have hpayload : payloadAt resp (p + 2) 30 = payload := payloadAt_of_drop hbehind full
      cases h with
      | stop _ h => exact absurd hid h
      | data h _ => exact absurd (Option.some.inj (h.symm.trans hid)) hne
      | extended _ hrest =>
          rw [hpayload] at hrest
          simpa [DataBlock.wire, DataBlock.header, BlockKind.size, Nat.add_assoc,
            Nat.add_comm 2] using hrest

/-- Filling up to a limit in two goes is filling up to it in one. -/
theorem fill_append (buf xs ys : List UInt8) (n : Nat) :
    buf ++ xs.take (n - buf.length) ++
        ys.take (n - (buf ++ xs.take (n - buf.length)).length) =
      buf ++ (xs ++ ys).take (n - buf.length) := by
  rw [List.append_assoc, List.take_append, List.length_append, List.length_take]
  congr 3
  omega

/-- The walk over all blocks of the adapter, up to what is no block. -/
theorem Walk.blocks_before {p blockPayload p' blockPayload' : Nat} {buf buf' rest : List UInt8}
    {bs : List DataBlock} (hdata : rest[0]? ≠ some niusbIbrdDataId)
    (hextended : rest[0]? ≠ some niusbIbrdExtendedDataId)
    (hdrop : resp.drop p = bs.flatMap DataBlock.wire ++ rest)
    (h : Walk requestCount resp p buf blockPayload p' buf' blockPayload') :
    p' = p + (bs.flatMap DataBlock.wire).length ∧
      buf' = buf ++ (bs.flatMap DataBlock.payload).take (requestCount - buf.length) ∧
      blockPayload' = (bs.map fun b => b.kind.size).getLastD blockPayload := by
  induction bs generalizing p buf blockPayload with
  | nil =>
      have hid : resp[p]? = rest[0]? := by
        rw [List.flatMap_nil, List.nil_append] at hdrop
        rw [← hdrop, List.getElem?_drop, Nat.add_zero]
      cases h with
      | stop _ _ => simp
      | data h _ => exact absurd (hid.symm.trans h) hdata
      | extended h _ => exact absurd (hid.symm.trans h) hextended
  | cons b bs ih =>
      rw [List.flatMap_cons, List.append_assoc] at hdrop
      obtain ⟨hp, hbuf, hbp⟩ := ih (drop_of_drop hdrop) (h.block hdrop)
      refine ⟨?_, ?_, ?_⟩
      · rw [hp, List.flatMap_cons, List.length_append, Nat.add_assoc]
      · rw [hbuf, List.flatMap_cons, fill_append]
      · rw [hbp, List.map_cons, List.getLastD_cons]

/-- The walk over all blocks of the adapter, up to the status block. -/
theorem Walk.blocks {p blockPayload p' blockPayload' : Nat} {buf buf' rest : List UInt8}
    {bs : List DataBlock}
    (hdrop : resp.drop p = bs.flatMap DataBlock.wire ++ niusbIbrdStatusId :: rest)
    (h : Walk requestCount resp p buf blockPayload p' buf' blockPayload') :
    p' = p + (bs.flatMap DataBlock.wire).length ∧
      buf' = buf ++ (bs.flatMap DataBlock.payload).take (requestCount - buf.length) ∧
      blockPayload' = (bs.map fun b => b.kind.size).getLastD blockPayload :=
  h.blocks_before (fun h => absurd (Option.some.inj h) (by decide))
    (fun h => absurd (Option.some.inj h) (by decide)) hdrop

/-! ## The valid length -/

/-- Where the byte count clamped to the request and the size of the last block give back the
length of the message. -/
theorem trimOvershoot_eq_iff {size preceding valid : Nat} (hvalid : 0 < valid)
    (hle : valid ≤ size) (hmessage : preceding + valid ≤ requestCount) :
    trimOvershoot (min requestCount (preceding + size)) size valid = preceding + valid ↔
      size ∣ preceding ∧ (preceding + size ≤ requestCount ∨ preceding = 0) := by
  have hsize : 0 < size := by omega
  by_cases hroom : preceding + size ≤ requestCount
  · -- The last block is stored whole, so the clamped count is the framed one.
    have hdiv : (preceding + size) / size = preceding / size + 1 := Nat.add_div_right _ hsize
    have hsplit := Nat.div_add_mod' preceding size
    have hmod := Nat.mod_lt preceding hsize
    rw [Nat.min_eq_right hroom, trimOvershoot, hdiv, if_pos (Nat.succ_ne_zero _),
      Nat.add_sub_cancel, Nat.dvd_iff_mod_eq_zero]
    omega
  · -- The request cuts the last block short: only a single block can come out right.
    have hlt : requestCount < preceding + size := by omega
    rw [Nat.min_eq_left (Nat.le_of_lt hlt), trimOvershoot]
    by_cases hzero : requestCount / size = 0
    · rw [if_neg (not_not.mpr hzero)]
      constructor
      · intro h
        have hprec : preceding = 0 := by omega
        exact ⟨hprec ▸ Nat.dvd_zero size, .inr hprec⟩
      · rintro ⟨-, h⟩
        omega
    · have hbound := Nat.div_mul_le_self requestCount size
      have hsub : (requestCount / size - 1) * size + size = requestCount / size * size := by
        rw [← Nat.succ_mul, Nat.succ_eq_add_one, Nat.sub_add_cancel (Nat.pos_of_ne_zero hzero)]
      rw [if_pos hzero]
      constructor
      · intro h
        omega
      · rintro ⟨-, h⟩
        omega

/-! ## Reading a framed message -/

/-- The result that gives the message back. -/
def Decodes (m : List UInt8) (st : ReadStatusBlock) (r : ReadResult) : Prop :=
  r.rc = .ok ∧ r.bytesRead = m.length ∧ r.buf.take m.length = m ∧
    (r.ended = true ↔ st.ibsta &&& Ibsta.end.toUInt16 ≠ 0)

theorem ReadStatusBlock.parse {p : Nat} {st : ReadStatusBlock} {rest : List UInt8}
    (h : resp.drop p = st.wire ++ rest) :
    ∃ count, parseStatusBlock resp p = some ⟨niusbIbrdStatusId, st.ibsta, 0, count⟩ := by
  have hget (i : Nat) : resp[p + i]? = (st.wire ++ rest)[i]? := by
    rw [← h, List.getElem?_drop]
  have h₀ := hget 0
  rw [Nat.add_zero] at h₀
  simp only [parseStatusBlock, h₀, hget]
  exact ⟨_, rfl⟩

/-- Decoding a framed response: the message is stored, and its length is right under the
condition of `trimOvershoot_eq_iff`. -/
theorem parseReadResponse_framing {m : List UInt8} (f : Framing m) (st : ReadStatusBlock)
    {room : Nat} (hroom : requestCount ≤ room) (hm : m.length ≤ requestCount) :
    ∃ r, parseReadResponse room requestCount (f.response st) = some r ∧
      (Decodes m st r ↔ f.last.kind.size ∣ f.preceding ∧
        (f.preceding + f.last.kind.size ≤ requestCount ∨ f.preceding = 0)) := by
  have hlength := f.message_length
  have hvalid := f.valid_pos
  have hsize := f.last.kind.size_pos
  have hwire : (f.response st).drop ((f.blocks ++ [f.last]).flatMap DataBlock.wire).length =
      st.wire ++ [UInt8.ofNat f.valid] := by
    rw [Framing.response, List.drop_left]
  have hwireLength : (f.response st).length =
      ((f.blocks ++ [f.last]).flatMap DataBlock.wire).length + 9 := by
    simp [Framing.response, ReadStatusBlock.wire, Nat.add_assoc]
  obtain ⟨p, buf, blockPayload, hwalk, hparse⟩ :=
    parseReadResponse_eq_some hroom (f.response st)
  have hdrop : (f.response st).drop 0 =
      (f.blocks ++ [f.last]).flatMap DataBlock.wire ++ niusbIbrdStatusId ::
        ([st.ibstaHigh, st.ibstaLow, 0, st.countLow, st.countHigh, st.trailing₀, st.trailing₁] ++
          [UInt8.ofNat f.valid]) := rfl
  obtain ⟨hp, hbuf, hbp⟩ := hwalk.blocks hdrop
  rw [Nat.zero_add] at hp
  subst hp
  obtain ⟨count, hstatus⟩ := ReadStatusBlock.parse hwire
  have hbp' : blockPayload = f.last.kind.size := by simp [hbp]
  have hbuf' : buf = f.payload.take requestCount := by
    rw [hbuf, Framing.payload]
    simp
  have hbufLength : buf.length = min requestCount (f.preceding + f.last.kind.size) := by
    rw [hbuf', List.length_take, f.payload_length]
  rcases hparse with ⟨hbad, -⟩ | ⟨st', -, hst', -, hr⟩
  · rcases hbad with hshort | ⟨st', hst', hid⟩
    · omega
    · rw [hstatus] at hst'
      cases hst'
      exact absurd rfl hid
  · rw [hstatus] at hst'
    cases hst'
    have htail : (f.response st).getD
        (((f.blocks ++ [f.last]).flatMap DataBlock.wire).length + 8) 0 =
          UInt8.ofNat f.valid := by
      have hget := congrArg (fun l => l[8]?) hwire
      rw [List.getElem?_drop] at hget
      rw [List.getD_eq_getElem?_getD, hget]
      rfl
    have hbytes : validBytes (f.response st)
        ((f.blocks ++ [f.last]).flatMap DataBlock.wire).length buf blockPayload =
          trimOvershoot (min requestCount (f.preceding + f.last.kind.size)) f.last.kind.size
            f.valid := by
      rw [validBytes, if_pos ⟨by omega, by omega, by omega⟩, htail, f.valid_toNat, hbufLength,
        hbp']
    refine ⟨_, hr, ?_⟩
    rw [← trimOvershoot_eq_iff hvalid f.valid_le (by omega), ← hbytes, ← hlength]
    simp only [Decodes, hbuf', List.take_take, Nat.min_eq_left hm, f.payload_take]
    simp [mapNiError]

/-- The exchanges of a read whose USB calls succeed and which receives `resp`. -/
def deliveredTrace (requestCount : Nat) (eosChar eosFlags : UInt8) (timeoutUs : Nat)
    (accepted : Fin ((readPacket requestCount eosChar eosFlags timeoutUs).length + 1))
    (resp : List UInt8) (hfit : resp.length ≤ min kBulkBufferSize kBulkBufferSize) :
    Usb.Trace :=
  [Usb.mapped,
    Usb.sent .bulkOut (readPacket requestCount eosChar eosFlags timeoutUs)
      (usbTimeoutMs timeoutUs) accepted,
    Usb.received .bulkIn (min kBulkBufferSize kBulkBufferSize) (usbTimeoutMs timeoutUs) resp
      hfit,
    Usb.mapped]

theorem readPacket_length (requestCount : Nat) (eosChar eosFlags : UInt8) (timeoutUs : Nat) :
    (readPacket requestCount eosChar eosFlags timeoutUs).length = 24 := by
  simp [readPacket, padToBoundary, appendTermination]

/-- A read that is delivered a response returns what it makes of it. -/
theorem run_readData_deliveredTrace {room : Nat} {eosChar eosFlags : UInt8} {timeoutUs : Nat}
    {accepted : Fin ((readPacket room eosChar eosFlags timeoutUs).length + 1)}
    {hfit : resp.length ≤ min kBulkBufferSize kBulkBufferSize} {r : ReadResult}
    (hpos : 1 ≤ room) (hmax : room ≤ kMaxRead)
    (hr : parseReadResponse room room resp = some r) :
    Run (attached.readData room eosChar eosFlags timeoutUs)
      (deliveredTrace room eosChar eosFlags timeoutUs accepted resp hfit) r := by
  have hpacket : (readPacket room eosChar eosFlags timeoutUs).length ≤ kBulkBufferSize := by
    rw [readPacket_length]
    decide
  unfold readData
  rw [if_neg (by omega), Nat.min_eq_left hmax]
  refine Run.bind (u := [_, _]) (v := [_, _])
    (run_bulkOut_ok_iff.mpr ⟨rfl, rfl, hpacket, accepted, rfl⟩) ?_
  rw [if_neg (by simp)]
  refine Run.bind (u := [_, _]) (v := [])
    (run_bulkIn_ok_iff.mpr ⟨rfl, rfl, hfit, rfl⟩) ?_
  simp only [ne_eq, not_true_eq_false, if_false]
  exact Usb.run_checked_iff.mpr ⟨rfl, hr⟩

/-- A read that receives a framed message whole gives it back exactly when the size of the last
block divides the bytes before it, and the request has room for the whole last block or nothing
came before it. -/
theorem readData_decodes_iff {m : List UInt8} (f : Framing m) (st : ReadStatusBlock)
    {requestCount : Nat} (hpos : 1 ≤ requestCount) (hmax : requestCount ≤ kMaxRead)
    (hm : m.length ≤ requestCount)
    (hfit : (f.response st).length ≤ min kBulkBufferSize kBulkBufferSize)
    (eosChar eosFlags : UInt8) (timeoutUs : Nat)
    (accepted : Fin ((readPacket requestCount eosChar eosFlags timeoutUs).length + 1)) :
    ∃ r, Run (attached.readData requestCount eosChar eosFlags timeoutUs)
        (deliveredTrace requestCount eosChar eosFlags timeoutUs accepted (f.response st) hfit)
        r ∧
      (Decodes m st r ↔ f.last.kind.size ∣ f.preceding ∧
        (f.preceding + f.last.kind.size ≤ requestCount ∨ f.preceding = 0)) := by
  obtain ⟨r, hr, hiff⟩ := parseReadResponse_framing f st (Nat.le_refl requestCount) hm
  exact ⟨r, run_readData_deliveredTrace hpos hmax hr, hiff⟩

/-! ## Two messages -/

/-- A full data block of zeros. -/
def zeroBlock : DataBlock :=
  { kind := .data, reserved := 0, payload := List.replicate 15 0, full := rfl }

/-- Twenty bytes, framed as two data blocks. -/
def twentyBytes : Framing (List.replicate 20 0) :=
  { blocks := [zeroBlock], last := zeroBlock, valid := 5, valid_pos := by decide,
    valid_le := by decide, message_eq := by decide }

/-- A status block that reports END. -/
def endStatus : ReadStatusBlock :=
  { ibstaHigh := 0x21, ibstaLow := 0, countLow := 0, countHigh := 0, trailing₀ := 0,
    trailing₁ := 0 }

/-- With room for both blocks, the twenty bytes come back. -/
theorem readData_decodes_twentyBytes :
    ∃ r, Run (attached.readData 30 0 0 1000000)
        (deliveredTrace 30 0 0 1000000 ⟨0, Nat.succ_pos _⟩ (twentyBytes.response endStatus)
          (by decide)) r ∧
      Decodes (List.replicate 20 0) endStatus r := by
  obtain ⟨r, hrun, hiff⟩ :=
    @readData_decodes_iff _ twentyBytes endStatus 30 (by decide) (by decide)
      (by decide) (by decide) 0 0 1000000 ⟨0, Nat.succ_pos _⟩
  exact ⟨r, hrun, hiff.mpr (by decide)⟩

/-- A request for exactly the twenty bytes gets five. -/
theorem readData_loses_fifteen_bytes :
    1 ≤ 20 ∧ 20 ≤ kMaxRead ∧ (List.replicate 20 (0 : UInt8)).length ≤ 20 ∧
      ∃ (accepted : _) (hfit : _) (r : ReadResult),
        Run (attached.readData 20 0 0 1000000)
          (deliveredTrace 20 0 0 1000000 accepted (twentyBytes.response endStatus) hfit) r ∧
        r.rc = .ok ∧ r.bytesRead = 5 ∧ ¬ Decodes (List.replicate 20 0) endStatus r := by
  refine ⟨by decide, by decide, by decide, ⟨0, Nat.succ_pos _⟩, by decide,
    ⟨.ok, List.replicate 20 0, 5, true⟩, ?_, rfl, rfl, ?_⟩
  · exact run_readData_deliveredTrace (by decide) (by decide) (by decide)
  · rintro ⟨-, h, -, -⟩
    exact absurd h (by decide)

end NIUSBTransport

end DarwinGpib
