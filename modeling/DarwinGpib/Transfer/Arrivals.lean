import DarwinGpib.Transfer.Runs

/-!
# What the adapter sent

`arrivals` reads off a trace which transfers brought bytes from the adapter and how each of
them ended. A transfer that succeeds is followed by a mapping of its buffer, without which its
bytes cannot be read. `Brings` states what a program returns in terms of its arrivals.
-/

namespace DarwinGpib

open Interaction

namespace Usb

/-- Requests that bring bytes from the device. -/
def Request.Inbound : Request → Prop
  | pipeIn _ _ _ | controlIn _ _ _ _ => True
  | _ => False

/-- A transfer from the device: how it and the mapping behind it ended, and its bytes. -/
structure Arrival where
  request : Request
  status : IOReturn
  bytes : List UInt8
  deriving DecidableEq

namespace Arrival

/-- The bytes that can be read. -/
def payload (a : Arrival) : List UInt8 := if a.status = .success then a.bytes else []

/-- The outcome of the mapping that follows a successful transfer. -/
def mappedBy (a : Arrival) : Option (Exchange Request.Reply) → Arrival
  | some ⟨.map, ret⟩ => if a.status = .success then { a with status := ret } else a
  | _ => a

theorem mappedBy_of_ne {a : Arrival} (h : a.status ≠ .success)
    (next : Option (Exchange Request.Reply)) : a.mappedBy next = a := by
  unfold mappedBy
  split
  · rw [if_neg h]
  · rfl

theorem mappedBy_of_not_map (a : Arrival) {next : Option (Exchange Request.Reply)}
    (h : ∀ e ∈ next, e.request ≠ .map) : a.mappedBy next = a := by
  unfold mappedBy
  split
  · exact absurd rfl (h _ rfl)
  · rfl

@[simp] theorem mappedBy_request (a : Arrival) (next : Option (Exchange Request.Reply)) :
    (a.mappedBy next).request = a.request := by
  unfold mappedBy
  split
  · split <;> rfl
  · rfl

end Arrival

/-- The transfer of an exchange, if it is one from the device. -/
def arrival : Exchange Request.Reply → Option Arrival
  | ⟨.pipeIn pipe capacity timeoutMs, r⟩ =>
      some ⟨.pipeIn pipe capacity timeoutMs, r.status, r.bytes⟩
  | ⟨.controlIn request wValue wIndex length, r⟩ =>
      some ⟨.controlIn request wValue wIndex length, r.status, r.bytes⟩
  | _ => none

/-- The transfers from the device, in order. -/
def arrivals : Trace → List Arrival
  | [] => []
  | e :: u => ((arrival e).map (·.mappedBy u.head?)).toList ++ arrivals u

@[simp] theorem arrivals_nil : arrivals [] = [] :=
  rfl

theorem arrivals_cons (e : Exchange Request.Reply) (u : Trace) :
    arrivals (e :: u) = ((arrival e).map (·.mappedBy u.head?)).toList ++ arrivals u :=
  rfl

theorem arrival_eq_none {e : Exchange Request.Reply} (h : ¬ e.request.Inbound) :
    arrival e = none := by
  obtain ⟨i, r⟩ := e
  cases i with
  | pipeIn pipe capacity timeoutMs => exact absurd trivial h
  | controlIn request wValue wIndex length => exact absurd trivial h
  | _ => rfl

/-- The last exchange is not a transfer whose bytes are still to be mapped. -/
def Settled (u : Trace) : Prop :=
  ∀ e ∈ u.getLast?, ∀ a ∈ arrival e, a.status ≠ .success

theorem settled_nil : Settled [] := by
  simp [Settled]

theorem settled_append {u v : Trace} (hu : Settled u) (hv : Settled v) : Settled (u ++ v) := by
  unfold Settled
  rw [List.getLast?_append]
  cases hlast : v.getLast? with
  | none => simpa [Settled] using hu
  | some e => simpa [hlast] using hv e (by simp [hlast])

theorem Settled.tail {e : Exchange Request.Reply} {u : Trace} (h : Settled (e :: u)) :
    Settled u := by
  cases u with
  | nil => exact settled_nil
  | cons e' u => simpa [Settled] using h

theorem arrivals_append {u v : Trace} (h : Settled u) :
    arrivals (u ++ v) = arrivals u ++ arrivals v := by
  induction u with
  | nil => rfl
  | cons e u ih =>
      rw [List.cons_append, arrivals_cons, arrivals_cons, ih h.tail, List.append_assoc]
      congr 1
      cases u with
      | cons e' u => rfl
      | nil =>
          cases harrival : arrival e with
          | none => rfl
          | some a =>
              have hfailed : a.status ≠ .success := h e rfl a harrival
              simp [Arrival.mappedBy_of_ne hfailed]

/-- A last transfer stays as it is unless a mapping follows. -/
theorem arrivals_append_of_head {u v : Trace} (h : ∀ e ∈ v.head?, e.request ≠ .map) :
    arrivals (u ++ v) = arrivals u ++ arrivals v := by
  induction u with
  | nil => rfl
  | cons e u ih =>
      rw [List.cons_append, arrivals_cons, arrivals_cons, ih, List.append_assoc]
      congr 1
      cases u with
      | cons e' u => rfl
      | nil =>
          congr 2
          funext a
          exact Arrival.mappedBy_of_not_map a h

theorem arrivals_eq_nil {u : Trace} (h : ∀ e ∈ u, ¬ e.request.Inbound) :
    arrivals u = [] ∧ Settled u := by
  constructor
  · induction u with
    | nil => rfl
    | cons e u ih =>
        have hu : arrivals u = [] := ih fun e' he' => h e' (List.mem_cons_of_mem e he')
        rw [arrivals_cons, arrival_eq_none (h e List.mem_cons_self), hu]
        rfl
  · intro e he a ha
    rw [arrival_eq_none (h e (List.mem_of_mem_getLast? he))] at ha
    cases ha

/-! ## Specifications over arrivals -/

/-- Every complete run of the program relates what arrived in it to its result. -/
def Brings {α : Type} (p : Usb α) (R : List Arrival → α → Prop) : Prop :=
  Leaves p fun u a => Settled u ∧ R (arrivals u) a

variable {α β : Type} {R : List Arrival → α → Prop} {S : List Arrival → β → Prop}

theorem Brings.of_run {p : Usb α} (h : Brings p R) {u : Trace} {a : α} (hrun : Run p u a) :
    R (arrivals u) a :=
  (h u a hrun).2

theorem Brings.mono {p : Usb α} {R' : List Arrival → α → Prop} (h : Brings p R)
    (hRR' : ∀ as a, R as a → R' as a) : Brings p R' :=
  Leaves.mono h fun _ _ hu => ⟨hu.1, hRR' _ _ hu.2⟩

theorem brings_pure {a : α} (h : R [] a) : Brings (pure a : Usb α) R :=
  leaves_pure ⟨settled_nil, h⟩

theorem brings_bind {p : Usb α} {f : α → Usb β} (hp : Brings p R)
    (hf : ∀ as a, R as a → Brings (f a) fun bs b => S (as ++ bs) b) :
    Brings (p >>= f) S := by
  refine leaves_bind hp ?_
  intro u a hu
  refine Leaves.mono (hf _ a hu.2) ?_
  intro v b hv
  exact ⟨settled_append hu.1 hv.1, by rw [arrivals_append hu.1]; exact hv.2⟩

theorem brings_ite {c : Prop} [Decidable c] {p q : Usb α} (hp : c → Brings p R)
    (hq : ¬ c → Brings q R) : Brings (if c then p else q) R :=
  leaves_ite hp hq

theorem brings_checked {x : Option α} (h : ∀ a, x = some a → R [] a) :
    Brings (checked x) R := by
  intro u a hrun
  obtain ⟨rfl, hx⟩ := run_checked_iff.mp hrun
  exact ⟨settled_nil, h a hx⟩

/-- A checked access at the head of a sequence. -/
theorem brings_checked_bind {x : Option α} {f : α → Usb β}
    (h : ∀ a, x = some a → Brings (f a) S) : Brings (checked x >>= f) S := by
  intro u b hrun
  obtain ⟨a, hx, hrun⟩ := run_checked_bind_iff.mp hrun
  exact h a hx u b hrun

/-- A first part that asks for no bytes is brought none. -/
theorem brings_quiet_bind {p : Usb α} {f : α → Usb β} {Q : α → Prop}
    (hp : Ensures Request.Inbound p Q) (hf : ∀ a, Q a → Brings (f a) S) :
    Brings (p >>= f) S := by
  refine leaves_bind hp.leaves ?_
  intro u a hu v b hrun
  obtain ⟨hnil, hsettled⟩ := arrivals_eq_nil hu.1
  obtain ⟨hsettled', hS⟩ := hf a hu.2 v b hrun
  refine ⟨settled_append hsettled hsettled', ?_⟩
  rw [arrivals_append hsettled, hnil]
  exact hS

/-- A request towards the device, or to the USB stack. -/
theorem brings_call_bind {i : Request} {f : i.Reply → Usb β} (hi : ¬ i.Inbound)
    (hf : ∀ r, Brings (f r) S) : Brings (Program.call i >>= f) S :=
  brings_quiet_bind (ensures_call hi) fun r _ => hf r

theorem Request.Inbound.arrives {i : Request} (h : i.Inbound) : i.Arrives := by
  cases i with
  | pipeIn pipe capacity timeoutMs => trivial
  | controlIn request wValue wIndex length => trivial
  | _ => exact h.elim

/-! ## Fetching bytes -/

/-- A single transfer, whose outcome is returned. -/
def Fetched (i : Request) (as : List Arrival) (r : GPIBTransportError × List UInt8) : Prop :=
  ∃ status bytes, as = [⟨i, status, bytes⟩] ∧
    r = (mapIOReturn status, if status = .success then bytes else [])

/-- What follows a transfer: either it failed, or its buffer is mapped. -/
def Behind (status : IOReturn) (bytes : List UInt8) (v : Trace)
    (r : GPIBTransportError × List UInt8) : Prop :=
  (status ≠ .success ∧ v = [] ∧ r = (mapIOReturn status, [])) ∨
    (status = .success ∧ ∃ ret : IOReturn, v = [⟨.map, ret⟩] ∧
      r = (mapIOReturn ret, if ret = .success then bytes else []))

theorem leaves_behind {capacity room : Nat} (io : InReply capacity) :
    Leaves (do
        if io.status ≠ .success then return (mapIOReturn io.status, [])
        let ret ← Program.call Request.map
        if ret ≠ .success then return (mapIOReturn ret, [])
        let bytes ← copyTo room io.bytes
        return (.ok, bytes)) (Behind io.status io.bytes) := by
  apply leaves_ite
  · intro hio
    exact leaves_pure (.inl ⟨hio, rfl, rfl⟩)
  intro hio
  apply leaves_call_bind
  intro ret
  apply leaves_ite
  · intro hret
    exact leaves_pure (.inr ⟨not_not.mp hio, ret, rfl, by rw [if_neg hret]⟩)
  intro hret v r hrun
  obtain ⟨-, hrun⟩ := run_copyTo_bind_iff.mp hrun
  obtain ⟨rfl, rfl⟩ := run_pure_iff.mp hrun
  exact .inr ⟨not_not.mp hio, ret, rfl, by simp [not_not.mp hret, mapIOReturn]⟩

/-- What a request for a block of `n` bytes brings. A glitch, of which the code sees a bad result or
too few bytes, comes without a full block; otherwise the block is all that arrived. -/
structure BlockFetched (i : Request) (n : Nat) (as : List Arrival)
    (r : GPIBTransportError × List UInt8) : Prop where
  requested : ∀ a ∈ as, a.request = i
  glitch : r.1 ≠ .ok ∨ r.2.length < n → ∀ a ∈ as, a.status = .success → a.bytes.length < n
  full : ¬ (r.1 ≠ .ok ∨ r.2.length < n) → as = [⟨i, .success, r.2⟩]

theorem Fetched.block {i : Request} {as : List Arrival} {r : GPIBTransportError × List UInt8}
    (h : Fetched i as r) (n : Nat) : BlockFetched i n as r := by
  obtain ⟨status, bytes, rfl, rfl⟩ := h
  refine ⟨by simp, ?_, ?_⟩
  · intro hglitch a ha hstatus
    obtain rfl := List.mem_singleton.mp ha
    obtain rfl : status = .success := hstatus
    simpa using hglitch
  · intro hfull
    obtain ⟨hrc, -⟩ := not_or.mp hfull
    obtain rfl := mapIOReturn_eq_ok_iff.mp (not_not.mp hrc)
    rfl

/-- A transfer and what follows it bring the outcome that is returned. -/
theorem Behind.fetched {i : Request} {io : i.Reply} {status : IOReturn} {bytes : List UInt8}
    (harrival : arrival ⟨i, io⟩ = some ⟨i, status, bytes⟩) {v : Trace}
    {r : GPIBTransportError × List UInt8} (h : Behind status bytes v r) :
    Settled (⟨i, io⟩ :: v) ∧ Fetched i (arrivals (⟨i, io⟩ :: v)) r := by
  rcases h with ⟨hstatus, rfl, rfl⟩ | ⟨rfl, ret, rfl, rfl⟩
  · constructor
    · intro e he a ha
      cases he
      obtain rfl : _ = a := Option.some.inj (harrival.symm.trans ha)
      exact hstatus
    · refine ⟨status, bytes, ?_, by rw [if_neg hstatus]⟩
      simp [arrivals_cons, harrival, Arrival.mappedBy_of_ne, hstatus]
  · constructor
    · intro e he a ha
      cases he
      cases ha
    · refine ⟨ret, bytes, ?_, rfl⟩
      have hmap : arrival ⟨.map, ret⟩ = none := rfl
      simp [arrivals_cons, harrival, hmap, Arrival.mappedBy]

theorem arrival_pipeIn {pipe : Pipe} {capacity timeoutMs : Nat} (io : InReply capacity) :
    arrival ⟨.pipeIn pipe capacity timeoutMs, io⟩ =
      some ⟨.pipeIn pipe capacity timeoutMs, io.status, io.bytes⟩ :=
  rfl

theorem arrival_controlIn {request : UInt8} {wValue wIndex : UInt16} {length : Nat}
    (io : InReply length) :
    arrival ⟨.controlIn request wValue wIndex length, io⟩ =
      some ⟨.controlIn request wValue wIndex length, io.status, io.bytes⟩ :=
  rfl

/-- A transfer that is followed by the mapping of its buffer brings what is returned. -/
theorem brings_fetch {i : Request} {f : i.Reply → Usb (GPIBTransportError × List UInt8)}
    {status : i.Reply → IOReturn} {bytes : i.Reply → List UInt8}
    (harrival : ∀ io, arrival ⟨i, io⟩ = some ⟨i, status io, bytes io⟩)
    (hf : ∀ io, Leaves (f io) (Behind (status io) (bytes io))) :
    Brings (Program.call i >>= f) (Fetched i) := by
  apply leaves_call_bind
  intro io v r hrun
  exact (hf io v r hrun).fetched (harrival io)

/-- What a read from a bulk pipe brings: nothing where there is no pipe or no buffer. -/
def PipeRead (i : Request) (as : List Arrival) (r : GPIBTransportError × List UInt8) : Prop :=
  (as = [] ∧ r = (.errNotReady, [])) ∨ Fetched i as r

/-- A read from a bulk pipe, behind the check that there are a pipe and a buffer. -/
theorem brings_pipeRead {c : Prop} [Decidable c] (pipe : Pipe) (capacity room timeoutMs : Nat) :
    Brings (do
        if c then return (GPIBTransportError.errNotReady, [])
        let io ← Program.call (Request.pipeIn pipe capacity timeoutMs)
        if io.status ≠ .success then return (mapIOReturn io.status, [])
        let ret ← Program.call Request.map
        if ret ≠ .success then return (mapIOReturn ret, [])
        let bytes ← copyTo room io.bytes
        return (.ok, bytes)) (PipeRead (.pipeIn pipe capacity timeoutMs)) := by
  apply brings_ite
  · intro _
    exact brings_pure (.inl ⟨rfl, rfl⟩)
  · intro _
    refine Brings.mono (brings_fetch arrival_pipeIn fun io => leaves_behind io) ?_
    exact fun as r hfetched => .inr hfetched

end Usb

open Usb

/-! ## The primitives of the transports -/

namespace NIUSBTransport

/-- `bulkIn` returns what its transfer brings, if it has a pipe to read from. -/
theorem brings_bulkIn (t : NIUSBTransport) (capacity timeoutUs : Nat) :
    Brings (t.bulkIn capacity timeoutUs)
      (PipeRead (.pipeIn .bulkIn (min capacity kBulkBufferSize) (usbTimeoutMs timeoutUs))) := by
  unfold bulkIn
  exact brings_pipeRead _ _ _ _

end NIUSBTransport

namespace Agilent82357Transport

theorem brings_bulkIn (t : Agilent82357Transport) (room capacity timeoutUs : Nat) :
    Brings (t.bulkIn room capacity timeoutUs)
      (PipeRead (.pipeIn .bulkIn (min capacity kBulkBufferSize) (msFromUsec timeoutUs))) := by
  unfold bulkIn
  exact brings_pipeRead _ _ _ _

end Agilent82357Transport

namespace KUSB488BTransport

theorem brings_bulkIn (t : KUSB488BTransport) (capacity timeoutUs : Nat) :
    Brings (t.bulkIn capacity timeoutUs)
      (PipeRead (.pipeIn .dataIn (min capacity kBulkBufferSize) (msFromUsec timeoutUs))) := by
  unfold bulkIn
  exact brings_pipeRead _ _ _ _

theorem brings_controlIn (t : KUSB488BTransport) (request : UInt8) (wValue wIndex : UInt16)
    (room len : Nat) :
    Brings (t.controlIn request wValue wIndex room len) fun as r =>
      (as = [] ∧ r.1 ≠ .ok ∧ r.2 = []) ∨
        Fetched (.controlIn request wValue wIndex len) as r := by
  unfold controlIn
  apply brings_ite
  · intro _
    exact brings_pure (.inl ⟨rfl, by simp, rfl⟩)
  intro _
  apply brings_ite
  · intro _
    exact brings_pure (.inl ⟨rfl, by simp, rfl⟩)
  intro _
  refine Brings.mono (brings_fetch arrival_controlIn fun io => leaves_behind io) ?_
  exact fun as r hfetched => .inr hfetched

theorem brings_block (t : KUSB488BTransport) (request : UInt8) (wValue wIndex : UInt16)
    (room len n : Nat) :
    Brings (t.controlIn request wValue wIndex room len)
      (BlockFetched (.controlIn request wValue wIndex len) n) := by
  refine (t.brings_controlIn request wValue wIndex room len).mono ?_
  rintro as r (⟨rfl, hrc, -⟩ | hfetched)
  · exact ⟨by simp, by simp, fun hfull => absurd (.inl hrc) hfull⟩
  · exact hfetched.block n

end KUSB488BTransport

end DarwinGpib
