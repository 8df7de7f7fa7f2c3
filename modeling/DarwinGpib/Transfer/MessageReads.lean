import DarwinGpib.Transfer.ReadProgress
import DarwinGpib.Transfer.ReadRounds

/-!
# Reading a message

`readDataViaFirmware` against an adapter that holds a message: it hands it over in packets and is
BUSY, in the short form of a status block, until it is done. The loop takes the short form for a
glitch and asks for no more data after one, so only a message that comes in the first packet
arrives.
-/

namespace DarwinGpib

open Interaction Usb

namespace KUSB488BTransport

/-! ## An adapter with a message -/

/-- A message, the size of each packet, and the answers to status requests before the adapter is
done: BUSY, or none. -/
structure MessageSource where
  message : List UInt8
  message_ne : message ≠ []
  packet : Nat → Nat
  packet_pos : ∀ k, 1 ≤ packet k
  pending : List StatusReply
  pending_or : ∀ r ∈ pending, r.Busy statusMinRead ∨ r.Refused

/-- The number of packets and of bytes handed over, and the answers that are still to come. -/
structure SourceState where
  packets : Nat
  handed : Nat
  pending : List StatusReply

def shortBusy : StatusReply := ⟨.success, [stateBusy, 0, 0, 0, 0, 0]⟩

/-- The block with which a read is done. -/
def doneBlock (count : Nat) (ended : Bool) : StatusReply :=
  ⟨.success, [stateDone, 0] ++ le32 count ++ [if ended then 1 else 0]⟩

namespace MessageSource

variable (S : MessageSource) (requestCount : Nat)

/-- The part of the message that the request reaches. -/
def asked : List UInt8 := S.message.take requestCount

/-- It hands over a packet while there are bytes left, and is done when there are none. -/
def device : ReadDevice SourceState where
  bulk d capacity :=
    let bytes := ((S.asked requestCount).drop d.handed).take (min (S.packet d.packets) capacity)
    if bytes = [] then (⟨.timeout, []⟩, d)
    else (⟨.success, bytes⟩, { d with packets := d.packets + 1, handed := d.handed + bytes.length })
  status d :=
    match d.pending with
    | r :: rs => (r, { d with pending := rs })
    | [] =>
        if d.handed = (S.asked requestCount).length then
          (doneBlock d.handed (S.message.length ≤ requestCount), d)
        else (shortBusy, d)

def start : SourceState := ⟨0, 0, S.pending⟩

end MessageSource

/-- The read gives back what it asked for of the message, and whether that was all. -/
def DeliversMessage (m : List UInt8) (requestCount : Nat) (r : ReadResult) : Prop :=
  r.rc = .ok ∧ r.buf = m.take requestCount ∧ r.bytesRead = min m.length requestCount ∧
    (r.ended = true ↔ m.length ≤ requestCount)

/-! ## The rounds -/

section Rounds

variable {S : MessageSource} {requestCount : Nat} {t : KUSB488BTransport}

theorem StatusReply.Busy.glitch {r : StatusReply} (h : r.Busy statusMinRead) : r.Glitch := by
  obtain ⟨-, hlength, -⟩ := h
  exact .inr (by omega)

theorem glitch_shortBusy : shortBusy.Glitch := by decide

theorem not_glitch_doneBlock (count : Nat) (ended : Bool) : ¬ (doneBlock count ended).Glitch := by
  simp [StatusReply.Glitch, doneBlock, le32, statusMinRead]

/-- What a status says, and the adapter behind it: it is a glitch, or nothing is left to hand over
and to answer. -/
theorem status_cases (requestCount : Nat) (d : SourceState)
    (hpending : ∀ r ∈ d.pending, r.Glitch) :
    (((S.device requestCount).status d).1.Glitch ∧
      ((S.device requestCount).status d).2.handed = d.handed ∧
      ((S.device requestCount).status d).2.pending = d.pending.tail ∧
      (d.pending ≠ [] ∨ d.handed ≠ (S.asked requestCount).length)) ∨
    (d.pending = [] ∧ d.handed = (S.asked requestCount).length ∧
      (S.device requestCount).status d =
        (doneBlock d.handed (S.message.length ≤ requestCount), d)) := by
  obtain ⟨packets, handed, pending⟩ := d
  cases pending with
  | cons r rs => exact .inl ⟨hpending r List.mem_cons_self, rfl, rfl, .inl nofun⟩
  | nil =>
      by_cases hdone : handed = (S.asked requestCount).length
      · exact .inr ⟨rfl, hdone, if_pos hdone⟩
      · have hstatus : (S.device requestCount).status ⟨packets, handed, []⟩ =
            (shortBusy, ⟨packets, handed, []⟩) := if_neg hdone
        rw [hstatus]
        exact .inl ⟨glitch_shortBusy, rfl, rfl, .inr hdone⟩

/-- The loop is done when nothing is left to hand over and the glitches are not too many. -/
def Settles (S : MessageSource) (requestCount glitchRetries : Nat) (d : SourceState) : Prop :=
  d.handed = (S.asked requestCount).length ∧ glitchRetries + d.pending.length ≤ 5

instance (glitchRetries : Nat) (d : SourceState) :
    Decidable (Settles S requestCount glitchRetries d) :=
  inferInstanceAs (Decidable (_ ∧ _))

/-- How the loop ends behind its last bulk-in. -/
def settled (S : MessageSource) (requestCount glitchRetries : Nat) (buf : List UInt8)
    (d : SourceState) : Except ReadResult (List UInt8 × List UInt8) :=
  if Settles S requestCount glitchRetries d then
    .ok (buf, (doneBlock d.handed (S.message.length ≤ requestCount)).bytes)
  else .error ⟨.errIo, buf, 0, false⟩

theorem finished_doneBlock (buf : List UInt8) (count : Nat) (ended : Bool) :
    finished buf (doneBlock count ended) = .ok (buf, (doneBlock count ended).bytes) := by
  have hfirst : (doneBlock count ended).bytes[0]? = some stateDone := rfl
  rw [finished, if_neg (not_glitch_doneBlock count ended), if_pos (.inl hfirst)]
  rfl

theorem settles_behind_glitch {d d' : SourceState} {glitchRetries : Nat}
    (hhanded : d'.handed = d.handed) (hrest : d'.pending = d.pending.tail)
    (hleft : d.pending ≠ [] ∨ d.handed ≠ (S.asked requestCount).length) :
    Settles S requestCount (glitchRetries + 1) d' ↔ Settles S requestCount glitchRetries d := by
  rw [Settles, Settles, hhanded, hrest, List.length_tail]
  rcases hleft with hleft | hleft
  · have := List.length_pos_iff.mpr hleft
    constructor
    · exact fun h => ⟨h.1, by omega⟩
    · exact fun h => ⟨h.1, by omega⟩
  · exact iff_of_false (fun h => hleft h.1) fun h => hleft h.1

/-- Behind a bulk-in the loop only asks for the status, six times at most. -/
theorem loopFrom_settled (ht : t.ReadyToRead) (timeoutUs : Nat) {fuel : Nat}
    {x : ReadState SourceState} {buf : List UInt8} {d : SourceState}
    (hfetch : (S.device requestCount).fetch requestCount x = some (buf, d))
    (hpending : ∀ r ∈ d.pending, r.Glitch) (hretries : x.glitchRetries ≤ 5)
    (hfuel : 5 < fuel + x.glitchRetries) :
    ∃ d', loopFrom (S.device requestCount) t requestCount timeoutUs fuel x =
      some (settled S requestCount x.glitchRetries buf d, d') := by
  induction fuel generalizing x d with
  | zero => omega
  | succ fuel ih =>
      rw [loopFrom_of_fetch_eq_some ht timeoutUs _ hfetch]
      rcases status_cases requestCount d hpending with
        ⟨hglitch, hhanded, hrest, hleft⟩ | ⟨hnone, hdone, hstatus⟩
      · rw [ReadDevice.follow, if_pos hglitch]
        by_cases hmore : x.glitchRetries < 5
        · rw [if_pos hmore]
          have hfetch' : (S.device requestCount).fetch requestCount
              ⟨false, buf, x.glitchRetries + 1, ((S.device requestCount).status d).2⟩ =
                some (buf, ((S.device requestCount).status d).2) :=
            if_neg fun h => absurd h.1 Bool.false_ne_true
          have hpending' : ∀ r ∈ ((S.device requestCount).status d).2.pending, r.Glitch := by
            rw [hrest]
            exact fun r hr => hpending r (List.mem_of_mem_tail hr)
          obtain ⟨d', hloop⟩ := ih hfetch' hpending' hmore (by simp only; omega)
          have hsettles : Settles S requestCount (x.glitchRetries + 1)
              ((S.device requestCount).status d).2 ↔ Settles S requestCount x.glitchRetries d :=
            settles_behind_glitch hhanded hrest hleft
          refine ⟨d', hloop.trans ?_⟩
          simp only [settled, hsettles, hhanded]
        · have hnot : ¬ Settles S requestCount x.glitchRetries d := by
            rintro ⟨hdone, hlength⟩
            rcases hleft with hleft | hleft
            · have := List.length_pos_iff.mpr hleft
              omega
            · exact hleft hdone
          rw [if_neg hmore, settled, if_neg hnot]
          exact ⟨_, congrArg (fun e => some (e, _)) (if_pos hglitch)⟩
      · have hbusy : ¬ ((doneBlock d.handed (S.message.length ≤ requestCount)).bytes[0]? =
            some stateBusy ∧ buf.length < requestCount) :=
          fun h => absurd (Option.some.inj h.1) (by decide)
        have hsettles : Settles S requestCount x.glitchRetries d :=
          ⟨hdone, by rw [hnone, List.length_nil]; omega⟩
        rw [hstatus, ReadDevice.follow, if_neg (not_glitch_doneBlock _ _), if_neg hbusy, settled,
          if_pos hsettles]
        exact ⟨_, congrArg (fun e => some (e, _)) (finished_doneBlock buf _ _)⟩

/-! ## The whole read -/

/-- The first packet holds all that is asked for, and the adapter is soon done. -/
def ArrivesAtOnce (S : MessageSource) (requestCount : Nat) : Prop :=
  min S.message.length requestCount ≤ min (S.packet 0) kBulkBufferSize ∧ S.pending.length ≤ 5

/-- The bytes of the first packet. -/
def firstPacket (S : MessageSource) (requestCount : Nat) : List UInt8 :=
  (S.asked requestCount).take (min (S.packet 0) (bulkRoom requestCount []))

theorem asked_length : (S.asked requestCount).length = min S.message.length requestCount := by
  rw [MessageSource.asked, List.length_take, Nat.min_comm]

theorem firstPacket_ne_nil (hpos : 1 ≤ requestCount) : firstPacket S requestCount ≠ [] := by
  have hmessage := List.length_pos_iff.mpr S.message_ne
  have hpacket := S.packet_pos 0
  have hbuffer : 1 ≤ kBulkBufferSize := by decide
  rw [← List.length_pos_iff, firstPacket, List.length_take, asked_length, bulkRoom,
    List.length_nil]
  omega

theorem fetch_readStart (hpos : 1 ≤ requestCount) :
    (S.device requestCount).fetch requestCount (readStart S.start) =
      some (firstPacket S requestCount,
        ⟨1, (firstPacket S requestCount).length, S.pending⟩) := by
  have hbulk : (S.device requestCount).bulk S.start (bulkRoom requestCount []) =
      (⟨.success, firstPacket S requestCount⟩,
        ⟨1, (firstPacket S requestCount).length, S.pending⟩) := by
    have htaken : ((S.asked requestCount).drop S.start.handed).take
        (min (S.packet S.start.packets) (bulkRoom requestCount [])) =
          firstPacket S requestCount := rfl
    have hhanded : S.start.handed + (firstPacket S requestCount).length =
        (firstPacket S requestCount).length := Nat.zero_add _
    simp only [MessageSource.device, htaken, hhanded, if_neg (firstPacket_ne_nil hpos)]
    rfl
  have hfetches : ReadDevice.Fetches requestCount (readStart S.start) := ⟨rfl, hpos⟩
  have hwhole : (firstPacket S requestCount).take (bulkRoom requestCount []) =
      firstPacket S requestCount := by
    refine List.take_of_length_le ?_
    rw [firstPacket, List.length_take]
    omega
  rw [ReadDevice.fetch, if_pos hfetches]
  simp only [readStart, hbulk, if_true, List.nil_append, hwhole]

theorem settles_iff_arrivesAtOnce (hpos : 1 ≤ requestCount) :
    Settles S requestCount 0 ⟨1, (firstPacket S requestCount).length, S.pending⟩ ↔
      ArrivesAtOnce S requestCount := by
  simp only [Settles, ArrivesAtOnce, firstPacket, List.length_take, asked_length, bulkRoom,
    List.length_nil, Nat.zero_add]
  refine and_congr_left fun _ => ?_
  omega

theorem delivers_of_settles (h : Settles S requestCount 0
      ⟨1, (firstPacket S requestCount).length, S.pending⟩) {r : ReadResult}
    (hr : readOutcome requestCount (firstPacket S requestCount)
      (doneBlock (firstPacket S requestCount).length (S.message.length ≤ requestCount)).bytes =
        some r) : DeliversMessage S.message requestCount r := by
  have hlength : (firstPacket S requestCount).length = min S.message.length requestCount :=
    h.1.trans asked_length
  have hbuf : firstPacket S requestCount = S.message.take requestCount :=
    List.IsPrefix.eq_of_length (List.take_prefix _ _) h.1
  have hsmall : (firstPacket S requestCount).length < 2 ^ 32 := by
    have hbuffer : kBulkBufferSize < 2 ^ 32 := by decide
    rw [firstPacket, List.length_take, bulkRoom]
    omega
  have hread : readOutcome requestCount (firstPacket S requestCount)
      (doneBlock (firstPacket S requestCount).length (S.message.length ≤ requestCount)).bytes =
        some ⟨.ok, firstPacket S requestCount, _, _⟩ := rfl
  cases hread.symm.trans hr
  refine ⟨rfl, hbuf, ?_, ?_⟩
  · have hcount := fromLe32_le32 (hlength ▸ hsmall)
    simp only [hlength, hcount]
    omega
  · by_cases hall : S.message.length ≤ requestCount <;> simp [hall]

/-- What a read of the message comes to. -/
theorem exists_converse_readData (ht : t.ReadyToRead) (hpos : 1 ≤ requestCount)
    (eosChar eosFlags : UInt8) (timeoutUs : Nat) :
    ∃ r, (∀ fuel, 6 ≤ fuel → ∃ d, converse (S.device requestCount).answer
        (readData fuel t requestCount eosChar eosFlags timeoutUs) S.start = some (r, d)) ∧
      (DeliversMessage S.message requestCount r ↔ ArrivesAtOnce S requestCount) := by
  have hpending : ∀ r ∈ S.pending, r.Glitch := by
    intro r hr
    rcases S.pending_or r hr with hbusy | hrefused
    · exact hbusy.glitch
    · exact .inl hrefused
  have hloop (fuel : Nat) (hfuel : 6 ≤ fuel) := loopFrom_settled ht timeoutUs
    (fetch_readStart (S := S) hpos) hpending (Nat.zero_le 5) hfuel
  rw [← settles_iff_arrivesAtOnce hpos]
  by_cases hsettles : Settles S requestCount 0
      ⟨1, (firstPacket S requestCount).length, S.pending⟩
  · obtain ⟨count, ended, hread⟩ := readOutcome_eq_some requestCount (firstPacket S requestCount)
      (Nat.not_lt.mp (not_or.mp (not_glitch_doneBlock (firstPacket S requestCount).length
        (S.message.length ≤ requestCount))).2)
    refine ⟨_, fun fuel hfuel => ?_, iff_of_true (delivers_of_settles hsettles hread) hsettles⟩
    obtain ⟨d, hd⟩ := hloop fuel hfuel
    rw [converse_readData ht fuel hpos, hd, settled, readStart, if_pos hsettles]
    exact ⟨d, congrArg (Option.map fun r => (r, d)) hread⟩
  · refine ⟨⟨.errIo, firstPacket S requestCount, 0, false⟩, fun fuel hfuel => ?_,
      iff_of_false (fun h => by cases h.1) hsettles⟩
    obtain ⟨d, hd⟩ := hloop fuel hfuel
    rw [converse_readData ht fuel hpos, hd, settled, readStart, if_neg hsettles]
    exact ⟨d, rfl⟩

end Rounds

/-! ## Reads that fail -/

/-- A read that fails reports no bytes, and has stored what came in. -/
theorem brings_readData_counts (fuel : Nat) (t : KUSB488BTransport) (requestCount : Nat)
    (eosChar eosFlags : UInt8) (timeoutUs : Nat) :
    Brings (readData fuel t requestCount eosChar eosFlags timeoutUs) fun as r =>
      r.rc ≠ .ok → r.bytesRead = 0 ∧ r.buf = as.flatMap bulkBytes := by
  unfold readData
  apply brings_ite
  · exact fun _ => brings_pure fun h => absurd rfl h
  intro _
  refine brings_quiet_bind (t.ensures_beginRead eosChar eosFlags timeoutUs) fun rc _ => ?_
  apply brings_ite
  · exact fun _ => brings_pure fun _ => ⟨rfl, rfl⟩
  intro _
  refine brings_bind (t.brings_readLoop timeoutUs fuel true [] 0) ?_
  rintro as (r | ⟨buf, status⟩) ⟨-, hcounts⟩
  · refine brings_pure fun _ => ?_
    rw [List.append_nil]
    exact hcounts
  · refine brings_checked fun r hr hrc => absurd ?_ hrc
    simp only [readOutcome, Option.bind_eq_bind, Option.bind_eq_some_iff, Option.pure_def,
      Option.some.injEq] at hr
    obtain ⟨-, -, -, -, -, -, -, -, -, -, rfl⟩ := hr
    rfl

/-- A read of a message gives it back exactly when the whole of what it asks for comes in the
first packet and at most five answers precede the one that is done; and a read that fails counts
the bytes that it has stored exactly when there are none. -/
theorem readData_delivers_iff {t : KUSB488BTransport} (ht : t.ReadyToRead) (S : MessageSource)
    {requestCount : Nat} (hpos : 1 ≤ requestCount) (eosChar eosFlags : UInt8) (timeoutUs : Nat) :
    (∃ r, (∀ fuel, 6 ≤ fuel → ∃ d, converse (S.device requestCount).answer
        (readData fuel t requestCount eosChar eosFlags timeoutUs) S.start = some (r, d)) ∧
      (DeliversMessage S.message requestCount r ↔ ArrivesAtOnce S requestCount)) ∧
    ∀ fuel (u : Usb.Trace) r,
      Run (readData fuel t requestCount eosChar eosFlags timeoutUs) u r → r.rc ≠ .ok →
        (r.bytesRead = r.buf.length ↔ (arrivals u).flatMap bulkBytes = []) := by
  refine ⟨exists_converse_readData ht hpos eosChar eosFlags timeoutUs, ?_⟩
  intro fuel u r hrun hrc
  obtain ⟨hcount, hbuf⟩ :=
    (t.brings_readData_counts fuel requestCount eosChar eosFlags timeoutUs).of_run hrun hrc
  rw [hcount, hbuf, eq_comm, List.length_eq_zero_iff]

/-! ## Two bytes -/

/-- Two bytes in packets of this size, from an adapter that is done at once. -/
def twoBytes (size : Nat) (hsize : 1 ≤ size) : MessageSource :=
  { message := [0x41, 0x0A], message_ne := by decide, packet := fun _ => size,
    packet_pos := fun _ => hsize, pending := [], pending_or := nofun }

/-- In one packet they arrive. -/
theorem readData_delivers_twoBytes :
    ∃ r, (∃ d, converse ((twoBytes 2 (by decide)).device 16).answer
        (readData 6 cabled 16 0 0 3000000) (twoBytes 2 (by decide)).start = some (r, d)) ∧
      DeliversMessage [0x41, 0x0A] 16 r := by
  obtain ⟨⟨r, hread, hiff⟩, -⟩ := readData_delivers_iff readyToRead_cabled
    (twoBytes 2 (by decide)) (by decide : 1 ≤ 16) 0 0 3000000
  exact ⟨r, hread 6 (by decide), hiff.mpr ⟨by decide, by decide⟩⟩

/-- In two packets the first is stored, and the read fails and reports none. -/
theorem readData_loses_second_packet :
    ∃ r d, converse ((twoBytes 1 (by decide)).device 16).answer
        (readData 6 cabled 16 0 0 3000000) (twoBytes 1 (by decide)).start = some (r, d) ∧
      r.rc = .errIo ∧ r.buf = [0x41] ∧ r.bytesRead = 0 ∧ ¬ DeliversMessage [0x41, 0x0A] 16 r :=
  ⟨⟨.errIo, [0x41], 0, false⟩, ⟨1, 1, []⟩, rfl, rfl, rfl, rfl, fun h => absurd h.1 nofun⟩

end KUSB488BTransport

end DarwinGpib
