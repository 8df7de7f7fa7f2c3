import DarwinGpib.Transfer.Arrivals
import DarwinGpib.Transfer.NiFraming

/-!
# Reads that make progress

A read makes progress when it fails, delivers a byte or ends the message. For each transport,
which replies of the adapter make a read return `ok` without any of these.
-/

namespace DarwinGpib

open Interaction Usb

/-- The read fails, delivers a byte or ends the message. -/
def ReadResult.Progress (r : ReadResult) : Prop :=
  r.rc = .ok → 1 ≤ r.bytesRead ∨ r.ended = true

theorem ReadResult.progress_of_failed {r : ReadResult} (h : r.rc ≠ .ok) : r.Progress :=
  fun hok => absurd hok h

/-! ## Agilent -/

namespace Agilent82357Transport

/-- The bulk transfers among the arrivals. -/
def bulkArrivals (u : Usb.Trace) : List Arrival :=
  (arrivals u).filter fun a =>
    match a.request with
    | .pipeIn _ _ _ => true
    | _ => false

/-- The bytes that a successful read makes its result of: those of the first bulk-in or, when
that one times out, of the one behind the flush. -/
def heard (requestCount : Nat) : List Arrival → Option (List UInt8)
  | [] => none
  | a :: as =>
      if a.status = .success then some (a.bytes.take (requestCount + 1))
      else if a.status = .timeout then
        some ((as.head?.elim [] Arrival.payload).take (requestCount + 1))
      else none

/-- A data byte before the trailing flags, or flags that end the message. -/
def Audible (resp : List UInt8) : Prop :=
  2 ≤ resp.length ∨ ∃ flags, resp = [flags] ∧ flags &&& (atrfEoi ||| atrfEos) ≠ 0

/-- What a response is turned into. -/
def Parsed (requestCount : Nat) (resp : List UInt8) (r : ReadResult) : Prop :=
  r.rc = .ok ∧ r.bytesRead = min (resp.length - 1) requestCount ∧
    (r.ended = true ↔ ∃ flags, resp.getLast? = some flags ∧ flags &&& (atrfEoi ||| atrfEos) ≠ 0)

theorem Parsed.progress_iff {requestCount : Nat} (hpos : 1 ≤ requestCount) {resp : List UInt8}
    {r : ReadResult} (h : Parsed requestCount resp r) : r.Progress ↔ Audible resp := by
  obtain ⟨hok, hbytes, hended⟩ := h
  have hprogress : r.Progress ↔ 1 ≤ r.bytesRead ∨ r.ended = true :=
    ⟨fun h => h hok, fun h _ => h⟩
  rw [hprogress, hbytes, hended, Audible]
  match resp with
  | [] => simp
  | [flags] => simp
  | b₀ :: b₁ :: rest =>
      simp only [List.length_cons, Nat.add_sub_cancel]
      constructor
      · intro _
        exact .inl (by omega)
      · intro _
        exact .inl (by omega)

theorem leaves_parseReadResponse (room requestCount : Nat) (resp : List UInt8) :
    Leaves (parseReadResponse room requestCount resp) fun u r =>
      u = [] ∧ Parsed requestCount (resp.take (requestCount + 1)) r := by
  unfold parseReadResponse
  generalize resp.take (requestCount + 1) = resp'
  apply leaves_ite
  · intro hempty
    refine leaves_pure ⟨rfl, rfl, ?_, ?_⟩
    · simp [ReadResult.nothing, hempty]
    · simp [ReadResult.nothing, List.length_eq_zero_iff.mp hempty]
  · intro hpos u r hrun
    obtain ⟨flags, hflags, hrun⟩ := run_checked_bind_iff.mp hrun
    obtain ⟨-, hrun⟩ := run_copyTo_bind_iff.mp hrun
    obtain ⟨rfl, rfl⟩ := run_pure_iff.mp hrun
    have hlast : resp'.getLast? = some flags := by
      rw [List.getLast?_eq_getElem?, hflags]
    refine ⟨rfl, rfl, ?_, ?_⟩
    · simp only [List.length_take]
      omega
    · simp [hlast]

/-! ### The bulk transfers of a read -/

theorem bulkArrivals_append {u v : Usb.Trace}
    (h : Settled u ∨ ∀ e ∈ v.head?, e.request ≠ .map) :
    bulkArrivals (u ++ v) = bulkArrivals u ++ bulkArrivals v := by
  have harrivals : arrivals (u ++ v) = arrivals u ++ arrivals v := by
    rcases h with h | h
    · exact arrivals_append h
    · exact arrivals_append_of_head h
  rw [bulkArrivals, harrivals, List.filter_append, bulkArrivals, bulkArrivals]

theorem bulkArrivals_eq_nil {u : Usb.Trace}
    (h : ∀ e ∈ u, ¬ e.request.Fetches) :
    bulkArrivals u = [] := by
  induction u with
  | nil => rfl
  | cons e u ih =>
      have hu : bulkArrivals u = [] := ih fun e' he' => h e' (List.mem_cons_of_mem e he')
      have he := h e List.mem_cons_self
      rw [bulkArrivals] at hu ⊢
      rw [arrivals_cons, List.filter_append, hu, List.append_nil]
      obtain ⟨i, r⟩ := e
      cases i with
      | pipeIn pipe capacity ms => exact absurd trivial he
      | controlIn request wValue wIndex length =>
          simp [arrival]
      | _ => rfl

/-- A bulk-in does not begin with a mapping. -/
theorem leaves_bulkIn_head (t : Agilent82357Transport) (room capacity timeoutUs : Nat) :
    Leaves (t.bulkIn room capacity timeoutUs) fun u _ => ∀ e ∈ u.head?, e.request ≠ .map := by
  unfold bulkIn
  apply leaves_ite
  · intro _
    exact leaves_pure (by simp)
  · intro _
    refine leaves_call_bind fun io => ?_
    intro v r _ e he
    cases he
    simp

/-- A bulk-in brings its own transfer, if it has a pipe to read from. -/
theorem bulkArrivals_of_fetched {u : Usb.Trace} {capacity ms : Nat}
    {r : GPIBTransportError × List UInt8}
    (h : (arrivals u = [] ∧ r = (.errNotReady, [])) ∨
      Fetched (.pipeIn .bulkIn capacity ms) (arrivals u) r) :
    (bulkArrivals u = [] ∧ r = (.errNotReady, [])) ∨
      Fetched (.pipeIn .bulkIn capacity ms) (bulkArrivals u) r := by
  rcases h with ⟨hnil, hr⟩ | ⟨status, bytes, hone, hr⟩
  · exact .inl ⟨by rw [bulkArrivals, hnil, List.filter_nil], hr⟩
  · exact .inr ⟨status, bytes, by rw [bulkArrivals, hone]; rfl, hr⟩

/-- What a read makes of its bulk transfers. -/
def ReadOfBulk (requestCount : Nat) (as : List Arrival) (r : ReadResult) : Prop :=
  match heard requestCount as with
  | none => r.rc ≠ .ok
  | some resp => Parsed requestCount resp r

theorem leaves_abort_nothing (t : Agilent82357Transport) {rc : GPIBTransportError}
    (hrc : rc ≠ .ok) :
    Leaves (do
        let _ ← t.sendAbort false
        return ReadResult.nothing rc) fun v r => bulkArrivals v = [] ∧ r.rc ≠ .ok := by
  refine leaves_bind (t.ensures_sendAbort (fun _ => Request.Fetches.overPipe) false).leaves ?_
  intro v _ hv
  refine leaves_pure ?_
  rw [List.append_nil]
  exact ⟨bulkArrivals_eq_nil hv.1, hrc⟩

/-- Behind a first bulk-in that timed out, a read makes its result of a flush. -/
theorem leaves_flush (t : Agilent82357Transport) (requestCount count room capacity : Nat) :
    Leaves (do
        let _ ← t.sendAbort true
        let (_, extra) ← t.bulkIn room capacity 100000
        parseReadResponse requestCount count ([] ++ extra)) fun v r =>
      Parsed count (((bulkArrivals v).head?.elim [] Arrival.payload).take (count + 1)) r := by
  intro v r hrun
  obtain ⟨a, _, b, rfl, ha, hb⟩ := run_bind_iff.mp hrun
  obtain ⟨c, ⟨rc, extra⟩, d, rfl, hc, hd⟩ := run_bind_iff.mp hb
  obtain ⟨rfl, hparsed⟩ := leaves_parseReadResponse requestCount count _ d r hd
  have habort : bulkArrivals a = [] :=
    bulkArrivals_eq_nil
      ((t.ensures_sendAbort (fun _ => Request.Fetches.overPipe) true).leaves a _ ha).1
  have hhead := t.leaves_bulkIn_head room capacity 100000 c _ hc
  rw [List.append_nil, bulkArrivals_append (.inr hhead), habort, List.nil_append]
  rcases bulkArrivals_of_fetched ((t.brings_bulkIn room capacity 100000).of_run hc) with
    ⟨hnil, hr⟩ | ⟨status, bytes, hone, hr⟩
  · cases hr
    rw [hnil]
    exact hparsed
  · cases hr
    rw [hone]
    exact hparsed

theorem leaves_readData (t : Agilent82357Transport) {requestCount : Nat}
    (hpos : 1 ≤ requestCount) (eosChar eosFlags : UInt8) (timeoutUs : Nat) :
    Leaves (t.readData requestCount eosChar eosFlags timeoutUs) fun u r =>
      ReadOfBulk (min requestCount kMaxRead) (bulkArrivals u) r := by
  unfold readData
  rw [if_neg (by omega)]
  set count := min requestCount kMaxRead
  have hsend : Ensures Request.Inbound
      (t.bulkOut (readPacket count eosChar) timeoutUs) fun _ => True :=
    t.ensures_bulkOut (fun h => h) (fun h => h)
  refine leaves_bind hsend.leaves ?_
  intro u rc hu
  have hsettled := (arrivals_eq_nil hu.1).2
  have hquiet : bulkArrivals u = [] := by
    rw [bulkArrivals, (arrivals_eq_nil hu.1).1, List.filter_nil]
  refine Leaves.mono (R := fun v r => ReadOfBulk count (bulkArrivals v) r) ?_ ?_
  · apply leaves_ite
    · intro hrc
      refine (t.leaves_abort_nothing hrc).mono ?_
      intro v r hv
      rw [hv.1]
      exact hv.2
    intro _
    refine leaves_bind (t.brings_bulkIn kBulkBufferSize (count + 1) timeoutUs) ?_
    rintro v ⟨rc, resp⟩ ⟨hv, hfetched⟩
    have hbulk (w : Usb.Trace) : bulkArrivals (v ++ w) = bulkArrivals v ++ bulkArrivals w :=
      bulkArrivals_append (.inl hv)
    have habort {rc' : GPIBTransportError} (hrc' : rc' ≠ .ok)
        (hheard : heard count (bulkArrivals v) = none) :
        Leaves (do
            let _ ← t.sendAbort false
            return ReadResult.nothing rc')
            fun w r => ReadOfBulk count (bulkArrivals (v ++ w)) r := by
      refine (t.leaves_abort_nothing hrc').mono ?_
      intro w r hw
      rw [hbulk, hw.1, List.append_nil, ReadOfBulk, hheard]
      exact hw.2
    rcases bulkArrivals_of_fetched hfetched with ⟨hnil, hr⟩ | ⟨status, bytes, hone, hr⟩
    · cases hr
      exact habort (by simp) (by rw [hnil]; rfl)
    · have hheard (as : List Arrival) : heard count (bulkArrivals v ++ as) =
          heard count (⟨.pipeIn .bulkIn (min (count + 1) kBulkBufferSize) (msFromUsec timeoutUs),
            status, bytes⟩ :: as) := by rw [hone, List.singleton_append]
      cases hr
      cases status with
      | success =>
          refine (leaves_parseReadResponse requestCount count bytes).mono ?_
          rintro w r ⟨rfl, hparsed⟩
          rw [hbulk, ReadOfBulk, hheard]
          exact hparsed
      | timeout =>
          refine (t.leaves_flush requestCount count _ _).mono ?_
          intro w r hparsed
          rw [hbulk, ReadOfBulk, hheard]
          exact hparsed
      | aborted => exact habort (by simp) (by rw [hone]; rfl)
      | notOpen => exact habort (by simp) (by rw [hone]; rfl)
      | other => exact habort (by simp) (by rw [hone]; rfl)
  · intro v r hv
    rw [bulkArrivals_append (.inl hsettled), hquiet, List.nil_append]
    exact hv

/-- A read makes progress exactly when the bytes it is made of say something. -/
theorem progress_iff {t : Agilent82357Transport} {requestCount : Nat} (hpos : 1 ≤ requestCount)
    {eosChar eosFlags : UInt8} {timeoutUs : Nat} {u : Usb.Trace} {r : ReadResult}
    (hrun : Run (t.readData requestCount eosChar eosFlags timeoutUs) u r) :
    r.Progress ↔
      ∀ resp, heard (min requestCount kMaxRead) (bulkArrivals u) = some resp → Audible resp := by
  have hread := t.leaves_readData hpos eosChar eosFlags timeoutUs u r hrun
  have hmax : 1 ≤ kMaxRead := by decide
  simp only [ReadOfBulk] at hread
  cases hheard : heard (min requestCount kMaxRead) (bulkArrivals u) with
  | none =>
      rw [hheard] at hread
      constructor
      · intro _ resp h
        cases h
      · intro _
        exact ReadResult.progress_of_failed hread
  | some resp =>
      rw [hheard] at hread
      rw [hread.progress_iff (by omega)]
      constructor
      · intro h resp' heq
        cases heq
        exact h
      · intro h
        exact h resp rfl

end Agilent82357Transport

/-! ## NI -/

namespace NIUSBTransport

variable {requestCount : Nat} {resp : List UInt8}

theorem Walk.le {p p' blockPayload blockPayload' : Nat} {buf buf' : List UInt8}
    (h : Walk requestCount resp p buf blockPayload p' buf' blockPayload') : p ≤ p' := by
  induction h with
  | stop => exact Nat.le_refl _
  | data _ _ ih => omega
  | extended _ _ ih => omega

theorem payloadAt_length {p k : Nat} : (payloadAt resp p k).length = min k (resp.length - p) := by
  rw [payloadAt, List.length_take, List.length_drop]

theorem payloadAt_append_drop (p k : Nat) :
    payloadAt resp p k ++ resp.drop (p + k) = resp.drop p := by
  rw [payloadAt, ← List.drop_drop, List.take_append_drop]

/-- A walk that ends inside the response has passed whole blocks. -/
theorem Walk.exists_blocks {p p' blockPayload blockPayload' : Nat} {buf buf' : List UInt8}
    (h : Walk requestCount resp p buf blockPayload p' buf' blockPayload')
    (hp' : p' < resp.length) :
    ∃ bs : List DataBlock, resp.drop p = bs.flatMap DataBlock.wire ++ resp.drop p' := by
  induction h with
  | stop => exact ⟨[], rfl⟩
  | @data p _ _ p' _ _ hid hrest ih =>
      obtain ⟨bs, hbs⟩ := ih hp'
      have hle := hrest.le
      obtain ⟨hlt, hget⟩ := List.getElem?_eq_some_iff.mp hid
      rw [payloadAt_length] at hle
      have hfull : (payloadAt resp (p + 1) 15).length = 15 := by
        rw [payloadAt_length]
        omega
      refine ⟨⟨.data, 0, payloadAt resp (p + 1) 15, hfull⟩ :: bs, ?_⟩
      rw [hfull] at hbs
      rw [List.flatMap_cons, List.append_assoc, ← hbs, List.drop_eq_getElem_cons hlt, hget,
        ← payloadAt_append_drop (p + 1) 15]
      rfl
  | @extended p _ _ p' _ _ hid hrest ih =>
      obtain ⟨bs, hbs⟩ := ih hp'
      have hle := hrest.le
      obtain ⟨hlt, hget⟩ := List.getElem?_eq_some_iff.mp hid
      rw [payloadAt_length] at hle
      have hlt' : p + 1 < resp.length := by omega
      have hfull : (payloadAt resp (p + 2) 30).length = 30 := by
        rw [payloadAt_length]
        omega
      refine ⟨⟨.extended, resp[p + 1], payloadAt resp (p + 2) 30, hfull⟩ :: bs, ?_⟩
      rw [hfull] at hbs
      rw [List.flatMap_cons, List.append_assoc, ← hbs, List.drop_eq_getElem_cons hlt, hget,
        List.drop_eq_getElem_cons hlt', ← payloadAt_append_drop (p + 2) 30]
      rfl

/-- The trailing count leaves a byte over unless it is zero and counts the only block. -/
theorem one_le_trimOvershoot_iff {stored size tail : Nat} (hstored : 0 < stored)
    (hsize : 0 < size) :
    1 ≤ trimOvershoot stored size tail ↔ (tail = 0 → 2 * size ≤ stored) := by
  have hdiv : 2 * size ≤ stored ↔ 2 ≤ stored / size :=
    (Nat.le_div_iff_mul_le hsize).symm
  rw [hdiv, trimOvershoot]
  generalize stored / size = q
  obtain _ | _ | q := q
  · simp
    omega
  · simp
    omega
  · have hmul : size ≤ (q + 1) * size := Nat.le_mul_of_pos_left size (Nat.succ_pos q)
    rw [if_pos (Nat.succ_ne_zero _), show q + 1 + 1 - 1 = q + 1 from rfl]
    constructor
    · intro _ _
      omega
    · intro _
      omega

/-- The response of a successful read, if there is one. -/
def heard : List Arrival → Option (List UInt8)
  | [a] => if a.status = .success then some a.bytes else none
  | _ => none

/-- A status block without an error and without END follows at least one data block, and a
trailing count of zero follows more than the last block. -/
def Audible (requestCount : Nat) (resp : List UInt8) : Prop :=
  ∀ (bs : List DataBlock) (st : ReadStatusBlock) (tail : List UInt8),
    resp = bs.flatMap DataBlock.wire ++ (st.wire ++ tail) →
    st.ibsta &&& Ibsta.end.toUInt16 = 0 →
      bs ≠ [] ∧ (tail.head? = some 0 →
        2 * (bs.map fun b => b.kind.size).getLastD 0 ≤
          min requestCount (bs.flatMap DataBlock.payload).length)

/-- What is made of a framed response without END makes progress exactly as `Audible` asks. -/
theorem one_le_validBytes_iff (hpos : 1 ≤ requestCount) {bs : List DataBlock}
    {st : ReadStatusBlock} {tail : List UInt8}
    (hresp : resp = bs.flatMap DataBlock.wire ++ (st.wire ++ tail)) :
    1 ≤ validBytes resp (bs.flatMap DataBlock.wire).length
        ((bs.flatMap DataBlock.payload).take requestCount)
        ((bs.map fun b => b.kind.size).getLastD 0) ↔
      bs ≠ [] ∧ (tail.head? = some 0 →
        2 * (bs.map fun b => b.kind.size).getLastD 0 ≤
          min requestCount (bs.flatMap DataBlock.payload).length) := by
  rcases List.eq_nil_or_concat' bs with rfl | ⟨front, last, rfl⟩
  · simp [validBytes]
  have hsize := last.kind.size_pos
  have hlast : ((front ++ [last]).map fun b => b.kind.size).getLastD 0 = last.kind.size := by
    simp
  have hpayload : 1 ≤ ((front ++ [last]).flatMap DataBlock.payload).length := by
    simp [last.full]
    omega
  rw [hlast]
  set payload := (front ++ [last]).flatMap DataBlock.payload
  have hstored : 0 < (payload.take requestCount).length := by
    rw [List.length_take]
    omega
  have htail : resp.drop (((front ++ [last]).flatMap DataBlock.wire).length + 8) = tail := by
    rw [hresp, ← List.drop_drop, List.drop_left]
    rfl
  have hlength := congrArg List.length htail
  rw [List.length_drop] at hlength
  cases tail with
  | nil =>
      simp only [List.length_nil] at hlength
      rw [validBytes, if_neg (by omega)]
      simp
      omega
  | cons x rest =>
      simp only [List.length_cons] at hlength
      have hx : resp.getD (((front ++ [last]).flatMap DataBlock.wire).length + 8) 0 = x := by
        rw [List.getD_eq_getElem?_getD, getElem?_of_drop htail, Option.getD_some]
      rw [validBytes, if_pos ⟨by omega, by omega, hstored⟩, hx,
        one_le_trimOvershoot_iff hstored hsize, List.length_take]
      simp [← UInt8.toNat_inj]

theorem mapNiError_eq_ok {code : UInt8} (h : mapNiError code = .ok) : code = 0 := by
  unfold mapNiError at h
  by_contra hne
  rw [if_neg hne] at h
  split at h
  · cases h
  split at h
  · cases h
  split at h
  · cases h
  split at h <;> cases h

/-- The bytes of a status block without an error. -/
theorem exists_wire {p : Nat} {st : StatusBlock} (hlen : p + 8 ≤ resp.length)
    (hst : parseStatusBlock resp p = some st) (hid : st.id = niusbIbrdStatusId)
    (herror : st.errorCode = 0) :
    ∃ (st' : ReadStatusBlock) (tail : List UInt8), resp.drop p = st'.wire ++ tail := by
  have h₀ : p < resp.length := by omega
  have h₁ : p + 1 < resp.length := by omega
  have h₂ : p + 2 < resp.length := by omega
  have h₃ : p + 3 < resp.length := by omega
  have h₄ : p + 4 < resp.length := by omega
  have h₅ : p + 5 < resp.length := by omega
  have h₆ : p + 6 < resp.length := by omega
  have h₇ : p + 7 < resp.length := by omega
  simp only [parseStatusBlock, List.getElem?_eq_getElem, h₀, h₁, h₂, h₃, h₄, h₅,
    Option.bind_eq_bind, Option.bind_some, Option.pure_def, Option.some.injEq] at hst
  subst hst
  simp only at hid herror
  refine ⟨⟨resp[p + 1], resp[p + 2], resp[p + 4], resp[p + 5], resp[p + 6], resp[p + 7]⟩,
    resp.drop (p + 8), ?_⟩
  rw [List.drop_eq_getElem_cons h₀, List.drop_eq_getElem_cons h₁, List.drop_eq_getElem_cons h₂,
    List.drop_eq_getElem_cons h₃, List.drop_eq_getElem_cons h₄, List.drop_eq_getElem_cons h₅,
    List.drop_eq_getElem_cons h₆, List.drop_eq_getElem_cons h₇, hid, herror]
  rfl

/-- What is made of a framed response. -/
theorem parseReadResponse_of_frame {room : Nat} (hroom : requestCount ≤ room)
    {bs : List DataBlock} {st : ReadStatusBlock} {tail : List UInt8}
    (hresp : resp = bs.flatMap DataBlock.wire ++ (st.wire ++ tail)) :
    parseReadResponse room requestCount resp =
      some ⟨.ok, (bs.flatMap DataBlock.payload).take requestCount,
        validBytes resp (bs.flatMap DataBlock.wire).length
          ((bs.flatMap DataBlock.payload).take requestCount)
          ((bs.map fun b => b.kind.size).getLastD 0),
        st.ibsta &&& Ibsta.end.toUInt16 ≠ 0⟩ := by
  obtain ⟨p, buf, blockPayload, hwalk, hparse⟩ := parseReadResponse_eq_some hroom resp
  have hdrop : resp.drop 0 = bs.flatMap DataBlock.wire ++ niusbIbrdStatusId ::
      ([st.ibstaHigh, st.ibstaLow, 0, st.countLow, st.countHigh, st.trailing₀, st.trailing₁] ++
        tail) := hresp
  obtain ⟨hp, hbuf, hsize⟩ := hwalk.blocks hdrop
  simp only [Nat.zero_add, List.nil_append, List.length_nil, Nat.sub_zero] at hp hbuf
  subst hp hbuf hsize
  have hwire : resp.drop (bs.flatMap DataBlock.wire).length = st.wire ++ tail := by
    rw [hresp, List.drop_left]
  obtain ⟨count, hstatus⟩ := ReadStatusBlock.parse hwire
  rcases hparse with ⟨hbad, -⟩ | ⟨st', -, hst', -, hr⟩
  · rcases hbad with hshort | ⟨st', hst', hid⟩
    · have hlength := congrArg List.length hwire
      simp only [List.length_drop, List.length_append, ReadStatusBlock.wire,
        List.length_cons] at hlength
      omega
    · obtain rfl := Option.some.inj (hstatus.symm.trans hst')
      exact absurd rfl hid
  · obtain rfl := Option.some.inj (hstatus.symm.trans hst')
    rw [hr]
    rfl

theorem parse_progress_iff {room : Nat} (hroom : requestCount ≤ room) (hpos : 1 ≤ requestCount)
    {r : ReadResult} (hr : parseReadResponse room requestCount resp = some r) :
    r.Progress ↔ Audible requestCount resp := by
  constructor
  · intro hprogress bs st tail hresp hend
    rw [parseReadResponse_of_frame hroom hresp] at hr
    cases hr
    have hbytes := hprogress rfl
    rw [← one_le_validBytes_iff hpos hresp]
    simpa [hend] using hbytes
  · intro haudible hok
    obtain ⟨p, buf, blockPayload, hwalk, hparse⟩ := parseReadResponse_eq_some hroom resp
    rcases hparse with ⟨-, hbad⟩ | ⟨st, hlen, hst, hid, hgood⟩
    · rw [hbad] at hr
      cases hr
      cases hok
    · have hrc : mapNiError st.errorCode = .ok := by
        rw [hgood] at hr
        cases hr
        exact hok
      obtain ⟨st', tail, hdrop⟩ := exists_wire hlen hst hid (mapNiError_eq_ok hrc)
      obtain ⟨bs, hbs⟩ := hwalk.exists_blocks (by omega)
      rw [hdrop, List.drop_zero] at hbs
      rw [parseReadResponse_of_frame hroom hbs] at hr
      cases hr
      by_cases hend : st'.ibsta &&& Ibsta.end.toUInt16 = 0
      · exact .inl ((one_le_validBytes_iff hpos hbs).mpr (haudible bs st' tail hbs hend))
      · exact .inr (by simpa using hend)

/-- A read makes its result of the one response it hears. -/
theorem brings_readData (t : NIUSBTransport) {requestCount : Nat} (hpos : 1 ≤ requestCount)
    (eosChar eosFlags : UInt8) (timeoutUs : Nat) :
    Brings (t.readData requestCount eosChar eosFlags timeoutUs) fun as r =>
      match heard as with
      | none => r.rc ≠ .ok
      | some resp => parseReadResponse requestCount (min requestCount kMaxRead) resp = some r := by
  unfold readData
  rw [if_neg (by omega)]
  refine brings_quiet_bind (t.ensures_bulkOut (fun h => h) (fun h => h)) fun rc _ => ?_
  apply brings_ite
  · intro hrc
    exact brings_pure hrc
  intro _
  refine brings_bind (t.brings_bulkIn kBulkBufferSize timeoutUs) ?_
  rintro as ⟨rc, resp⟩ (⟨rfl, heq⟩ | ⟨status, bytes, rfl, heq⟩)
  · cases heq
    exact brings_pure (by simp [heard, ReadResult.nothing])
  · cases heq
    by_cases hstatus : status = .success
    · subst hstatus
      refine brings_checked ?_
      intro r hr
      simpa [heard] using hr
    · have hrc : mapIOReturn status ≠ .ok := by simpa using hstatus
      simp only [ne_eq, hrc, not_false_eq_true, if_true]
      exact brings_pure (by simp [heard, hstatus, ReadResult.nothing, hrc])

theorem progress_iff {t : NIUSBTransport} {requestCount : Nat} (hpos : 1 ≤ requestCount)
    {eosChar eosFlags : UInt8} {timeoutUs : Nat} {u : Usb.Trace} {r : ReadResult}
    (hrun : Run (t.readData requestCount eosChar eosFlags timeoutUs) u r) :
    r.Progress ↔
      ∀ resp, heard (arrivals u) = some resp → Audible (min requestCount kMaxRead) resp := by
  have hread := (t.brings_readData hpos eosChar eosFlags timeoutUs).of_run hrun
  have hmax : 1 ≤ kMaxRead := by decide
  cases hheard : heard (arrivals u) with
  | none =>
      rw [hheard] at hread
      constructor
      · intro _ resp h
        cases h
      · intro _
        exact ReadResult.progress_of_failed hread
  | some resp =>
      rw [hheard] at hread
      rw [parse_progress_iff (Nat.min_le_left _ _) (by omega) hread]
      constructor
      · intro h resp' heq
        cases heq
        exact h
      · intro h
        exact h resp rfl

end NIUSBTransport

/-! ## KUSB-488B -/

namespace KUSB488BTransport

/-- The bytes of an arrival over the bulk pipe. -/
def bulkBytes (a : Arrival) : List UInt8 :=
  match a.request with
  | .pipeIn _ _ _ => a.payload
  | _ => []

/-- The status block of an arrival, if it is a full one. -/
def fullStatus (a : Arrival) : Option (List UInt8) :=
  match a.request with
  | .controlIn _ _ _ _ =>
      if a.status = .success ∧ statusMinRead ≤ a.bytes.length then some a.bytes else none
  | _ => none

/-- A status block with which the read loop ends successfully: the engine is done, or it is
still busy although the buffer is full. -/
def Closes (requestCount : Nat) (buf status : List UInt8) : Prop :=
  status[0]? = some stateDone ∨ (status[0]? = some stateBusy ∧ requestCount ≤ buf.length)

instance (requestCount : Nat) (buf status : List UInt8) :
    Decidable (Closes requestCount buf status) :=
  inferInstanceAs (Decidable (_ ∨ _))

/-- The bytes that a successful read has received, behind `buf`, and its last status block. -/
def heard (requestCount : Nat) (buf : List UInt8) (as : List Arrival) :
    Option (List UInt8 × List UInt8) :=
  (as.getLast?.bind fullStatus).bind fun status =>
    if Closes requestCount (buf ++ as.flatMap bulkBytes) status then
      some (buf ++ as.flatMap bulkBytes, status)
    else none

/-- The block counts bytes and some were received, or it ends the message. -/
def Audible (buf status : List UInt8) : Prop :=
  (1 ≤ fromLe32 (status.getD 2 0) (status.getD 3 0) (status.getD 4 0) (status.getD 5 0) ∧
      buf ≠ []) ∨
    status.getD 6 0 = 1

variable {requestCount : Nat}

theorem heard_nil (buf : List UInt8) : heard requestCount buf [] = none :=
  rfl

/-- What was heard before and did not end the read counts for its bytes alone. -/
theorem heard_append {buf : List UInt8} {as : List Arrival} (h : heard requestCount buf as = none)
    (bs : List Arrival) :
    heard requestCount buf (as ++ bs) =
      heard requestCount (buf ++ as.flatMap bulkBytes) bs := by
  cases bs with
  | nil => rw [List.append_nil, h, heard_nil]
  | cons b bs =>
      have hlast : (as ++ b :: bs).getLast? = (b :: bs).getLast? := by
        rw [List.getLast?_append, List.getLast?_cons, Option.some_or]
      rw [heard, hlast, List.flatMap_append, ← List.append_assoc, heard]

/-- A round that brings an arrival which is no full status block. -/
theorem heard_of_not_full {buf : List UInt8} {as : List Arrival}
    (h : ∀ a, as.getLast? = some a → fullStatus a = none) : heard requestCount buf as = none := by
  unfold heard
  cases hlast : as.getLast? with
  | none => rfl
  | some a => rw [Option.bind_some, h a hlast, Option.bind_none]

/-- What the read loop ends with, behind `buf`. -/
def LoopHeard (requestCount : Nat) (buf : List UInt8) (as : List Arrival) :
    Except ReadResult (List UInt8 × List UInt8) → Prop
  | .error r => heard requestCount buf as = none ∧ r.rc ≠ .ok
  | .ok p => heard requestCount buf as = some p

theorem LoopHeard.append {buf : List UInt8} {as bs : List Arrival}
    {x : Except ReadResult (List UInt8 × List UInt8)}
    (h : LoopHeard requestCount (buf ++ as.flatMap bulkBytes) bs x)
    (has : heard requestCount buf as = none) : LoopHeard requestCount buf (as ++ bs) x := by
  cases x with
  | error r =>
      obtain ⟨hbs, hr⟩ := h
      exact ⟨by rw [heard_append has, hbs], hr⟩
  | ok p =>
      have hbs : heard requestCount (buf ++ as.flatMap bulkBytes) bs = some p := h
      change heard requestCount buf (as ++ bs) = some p
      rw [heard_append has, hbs]

/-- A loop that fails counts none of the bytes that it has stored behind `buf`. -/
def CountsNone (buf : List UInt8) (as : List Arrival) :
    Except ReadResult (List UInt8 × List UInt8) → Prop
  | .error r => r.bytesRead = 0 ∧ r.buf = buf ++ as.flatMap bulkBytes
  | .ok _ => True

theorem CountsNone.append {buf : List UInt8} {as bs : List Arrival}
    {x : Except ReadResult (List UInt8 × List UInt8)}
    (h : CountsNone (buf ++ as.flatMap bulkBytes) bs x) : CountsNone buf (as ++ bs) x := by
  cases x with
  | error r => exact ⟨h.1, by rw [h.2, List.flatMap_append, List.append_assoc]⟩
  | ok p => trivial

/-- What the read loop comes to behind `buf`. -/
def LoopBrings (requestCount : Nat) (buf : List UInt8) (as : List Arrival)
    (x : Except ReadResult (List UInt8 × List UInt8)) : Prop :=
  LoopHeard requestCount buf as x ∧ CountsNone buf as x

theorem LoopBrings.append {buf : List UInt8} {as bs : List Arrival}
    {x : Except ReadResult (List UInt8 × List UInt8)}
    (h : LoopBrings requestCount (buf ++ as.flatMap bulkBytes) bs x)
    (has : heard requestCount buf as = none) : LoopBrings requestCount buf (as ++ bs) x :=
  ⟨h.1.append has, h.2.append⟩

theorem loopBrings_failed {buf : List UInt8} {rc : GPIBTransportError} (hrc : rc ≠ .ok) :
    LoopBrings requestCount buf [] (.error ⟨rc, buf, 0, false⟩) :=
  ⟨⟨heard_nil buf, hrc⟩, rfl, by simp⟩

theorem loopBrings_ended {buf : List UInt8} {as : List Arrival} {p : List UInt8 × List UInt8}
    (h : heard requestCount buf as = some p) : LoopBrings requestCount buf as (.ok p) :=
  ⟨h, trivial⟩

/-- A chunk is appended to the buffer; what arrives with it is no status block. -/
theorem brings_fetchChunk (t : KUSB488BTransport) (timeoutUs : Nat) (needData : Bool)
    (buf : List UInt8) :
    Brings (t.fetchChunk requestCount timeoutUs needData buf) fun as r =>
      (∀ a, as.getLast? = some a → fullStatus a = none) ∧
        r.2 = buf ++ as.flatMap bulkBytes := by
  unfold fetchChunk
  apply brings_ite
  · intro _
    refine brings_bind (t.brings_bulkIn _ _) ?_
    rintro as ⟨rc, bytes⟩ (⟨rfl, heq⟩ | ⟨status, bytes', rfl, heq⟩)
    · cases heq
      exact brings_pure (by simp)
    · cases heq
      refine brings_pure ⟨?_, ?_⟩
      · intro a ha
        cases ha
        rfl
      · simp [bulkBytes, Arrival.payload]
  · intro _
    exact brings_pure (by simp)

theorem brings_readLoop (t : KUSB488BTransport) (timeoutUs fuel : Nat) (needData : Bool)
    (buf : List UInt8) (glitchRetries : Nat) :
    Brings (t.readLoop requestCount timeoutUs fuel needData buf glitchRetries)
      (LoopBrings requestCount buf) := by
  have hquiet : Ensures Request.Inbound t.recoverFirmwareEngine fun _ => True :=
    t.ensures_recoverFirmwareEngine fun _ h => h.arrives.moves.carries
  induction fuel generalizing needData buf glitchRetries with
  | zero => exact fun u r h => absurd h Usb.not_run_outOfFuel
  | succ fuel ih =>
      unfold readLoop
      refine brings_bind (t.brings_fetchChunk timeoutUs needData buf) ?_
      rintro as ⟨rc, buf'⟩ ⟨has, rfl⟩
      have hchunk : heard requestCount buf as = none := heard_of_not_full has
      -- From here on, what was fetched is in the buffer.
      suffices h : Brings _ (LoopBrings requestCount (buf ++ as.flatMap bulkBytes)) from
        h.mono fun bs x hx => hx.append hchunk
      generalize buf ++ as.flatMap bulkBytes = buf
      apply brings_ite
      · intro hrc
        exact brings_quiet_bind hquiet fun _ _ => brings_pure (loopBrings_failed hrc)
      intro _
      refine brings_bind (t.brings_block _ _ _ _ _ statusMinRead) ?_
      rintro bs ⟨rc', status⟩ hfetch
      have hcontrol : bs.flatMap bulkBytes = [] := by
        apply List.flatMap_eq_nil_iff.mpr
        intro a ha
        rw [bulkBytes, hfetch.requested a ha]
      have hrest (cs : List Arrival) {x : Except ReadResult (List UInt8 × List UInt8)}
          (hx : LoopBrings requestCount buf cs x) (hbs : heard requestCount buf bs = none) :
          LoopBrings requestCount buf (bs ++ cs) x := by
        refine LoopBrings.append ?_ hbs
        rwa [hcontrol, List.append_nil]
      apply brings_ite
      · -- A glitch: no full status block arrived.
        intro hglitch
        have hbs : heard requestCount buf bs = none := by
          apply heard_of_not_full
          intro a ha
          have ha := List.mem_of_getLast? ha
          rw [fullStatus, hfetch.requested a ha]
          apply if_neg
          rintro ⟨hstatus, hlen⟩
          exact absurd hlen (Nat.not_le.mpr (hfetch.glitch hglitch a ha hstatus))
        apply brings_ite
        · intro _
          exact (ih _ _ _).mono fun cs x hx => hrest cs hx hbs
        · intro _
          refine brings_quiet_bind hquiet fun _ _ => ?_
          exact brings_pure (hrest [] (loopBrings_failed nofun) hbs)
      · intro hfull
        obtain ⟨hrc', hlen⟩ := not_or.mp hfull
        obtain rfl := hfetch.full hfull
        have hheard : heard requestCount buf
            [⟨.controlIn reqStatus 0 0 statusLenRead, .success, status⟩] =
              if Closes requestCount buf status then some (buf, status) else none := by
          simp only [heard, hcontrol, List.append_nil]
          simp [fullStatus, Nat.not_lt.mp hlen]
        refine brings_checked_bind fun state hstate => ?_
        apply brings_ite
        · rintro rfl
          refine brings_pure (loopBrings_ended ?_)
          rw [List.append_nil, hheard, if_pos (.inl hstate)]
        intro hdone
        apply brings_ite
        · intro hbusy
          refine brings_quiet_bind hquiet fun _ _ => ?_
          refine brings_checked_bind fun err _ => ?_
          refine brings_pure (hrest [] (loopBrings_failed ?_) ?_)
          · split <;> simp
          · rw [hheard, if_neg]
            rintro (h | ⟨h, -⟩)
            · exact hdone (Option.some.inj (hstate.symm.trans h))
            · exact hbusy (Option.some.inj (hstate.symm.trans h))
        intro hbusy
        obtain rfl := not_not.mp hbusy
        apply brings_ite
        · intro hroom
          refine brings_quiet_bind hquiet fun _ _ => ?_
          refine brings_pure (loopBrings_ended ?_)
          rw [List.append_nil, hheard, if_pos (.inr ⟨hstate, hroom⟩)]
        · intro hroom
          refine (ih _ _ _).mono fun cs x hx => hrest cs hx ?_
          rw [hheard, if_neg]
          rintro (h | ⟨-, h⟩)
          · exact hdone (Option.some.inj (hstate.symm.trans h))
          · exact hroom h

theorem readOutcome_progress_iff {requestCount : Nat} (hpos : 1 ≤ requestCount)
    {buf status : List UInt8} {r : ReadResult}
    (hr : readOutcome requestCount buf status = some r) : r.Progress ↔ Audible buf status := by
  unfold readOutcome at hr
  simp only [Option.bind_eq_bind, Option.bind_eq_some_iff, Option.pure_def,
    Option.some.injEq] at hr
  obtain ⟨s₂, h₂, s₃, h₃, s₄, h₄, s₅, h₅, s₆, h₆, rfl⟩ := hr
  have hbuf : 1 ≤ buf.length ↔ buf ≠ [] := by
    rw [Nat.one_le_iff_ne_zero, ne_eq, List.length_eq_zero_iff]
  simp only [ReadResult.Progress, Audible, List.getD_eq_getElem?_getD, h₂, h₃, h₄, h₅, h₆,
    Option.getD_some, ← hbuf, forall_const, decide_eq_true_eq]
  exact or_congr_left (by omega)

/-- Nothing comes in while a read is armed. -/
theorem ensures_beginRead (t : KUSB488BTransport) (eosChar eosFlags : UInt8) (timeoutUs : Nat) :
    Ensures Request.Inbound (t.beginTransfer reqBeginRead readWValue
      (readWIndex eosChar eosFlags) requestCount timeoutUs) fun _ => True :=
  t.ensures_controlOut (fun _ h => h.arrives.moves.carries) (fun h => h)

/-- A read makes its result of the bytes and the last status block that it hears. -/
theorem brings_readData (fuel : Nat) (t : KUSB488BTransport) (hpos : 1 ≤ requestCount)
    (eosChar eosFlags : UInt8) (timeoutUs : Nat) :
    Brings (readData fuel t requestCount eosChar eosFlags timeoutUs) fun as r =>
      match heard requestCount [] as with
      | none => r.rc ≠ .ok
      | some p => readOutcome requestCount p.1 p.2 = some r := by
  unfold readData
  rw [if_neg (by omega)]
  refine brings_quiet_bind (t.ensures_beginRead eosChar eosFlags timeoutUs) fun rc _ => ?_
  apply brings_ite
  · intro hrc
    exact brings_pure hrc
  intro _
  refine brings_bind (t.brings_readLoop timeoutUs fuel true [] 0) ?_
  rintro as (r | ⟨buf, status⟩) ⟨hloop, -⟩
  · obtain ⟨hnone, hrc⟩ := hloop
    refine brings_pure ?_
    rw [List.append_nil, hnone]
    exact hrc
  · have hsome : heard requestCount [] as = some (buf, status) := hloop
    refine brings_checked ?_
    intro r hr
    rw [List.append_nil, hsome]
    exact hr

theorem progress_iff {fuel : Nat} {t : KUSB488BTransport} (hpos : 1 ≤ requestCount)
    {eosChar eosFlags : UInt8} {timeoutUs : Nat} {u : Usb.Trace} {r : ReadResult}
    (hrun : Run (readData fuel t requestCount eosChar eosFlags timeoutUs) u r) :
    r.Progress ↔ ∀ p, heard requestCount [] (arrivals u) = some p → Audible p.1 p.2 := by
  have hread := (brings_readData fuel t hpos eosChar eosFlags timeoutUs).of_run hrun
  cases hheard : heard requestCount [] (arrivals u) with
  | none =>
      rw [hheard] at hread
      constructor
      · intro _ p h
        cases h
      · intro _
        exact ReadResult.progress_of_failed hread
  | some p =>
      rw [hheard] at hread
      rw [readOutcome_progress_iff hpos hread]
      constructor
      · intro h p' heq
        cases heq
        exact h
      · intro h
        exact h p rfl

end KUSB488BTransport

end DarwinGpib
