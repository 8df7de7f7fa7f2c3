import DarwinGpib.Library.Backlog
import DarwinGpib.Library.Behaviour
import DarwinGpib.Library.Stateful
import DarwinGpib.Transfer.Runs

/-!
# Replies and the requests they answer

The adapter answers every request packet with one reply and keeps the replies in order. An
operation sends one packet and fetches one reply, which is its own exactly when no earlier
reply was left behind.
-/

namespace DarwinGpib

open Interaction Behaviour

namespace Usb

/-! ## The adapter -/

/-- A request packet that the adapter takes. -/
def isTaken : Exchange Request.Reply → Bool
  | ⟨.pipeOut .bulkOut data _, io⟩ => io.status = .success ∧ io.transferred.val = data.length
  | _ => false

/-- A bulk-in that delivers. -/
def isFetched : Exchange Request.Reply → Bool
  | ⟨.pipeIn .bulkIn _ _, io⟩ => io.status = .success
  | _ => false

/-- The adapter, with the replies that the present operation has fetched from it. -/
abbrev Answering := Backlog (List UInt8) × List (Numbered (List UInt8))

/-- A bulk-in fetches the oldest reply or fails; a reply may be late for any time. -/
inductive Answers : Answering → Exchange Request.Reply → Answering → Prop where
  | taken {b fetched e} (h : isTaken e = true) (reply : List UInt8) :
      Answers (b, fetched) e (b.accept reply, fetched)
  | delivered {b : Backlog (List UInt8)} {fetched r rest capacity timeoutMs io}
      (hb : b.pending = r :: rest) (hstatus : io.status = .success)
      (hbytes : io.bytes = r.content) :
      Answers (b, fetched) ⟨.pipeIn .bulkIn capacity timeoutMs, io⟩
        (⟨b.issued, rest⟩, fetched ++ [r])
  | aside {b fetched e} (htaken : isTaken e = false) (hfetched : isFetched e = false) :
      Answers (b, fetched) e (b, fetched)

/-- How many packets of a trace the adapter takes, and how many replies are fetched. -/
def taken (u : Trace) : Nat := u.countP isTaken
def fetches (u : Trace) : Nat := u.countP isFetched

theorem isFetched_of_isTaken {e : Exchange Request.Reply} (h : isTaken e = true) :
    isFetched e = false := by
  obtain ⟨i, r⟩ := e
  cases i <;> simp_all [isTaken, isFetched]

/-- What is pending and what has been fetched come to what was taken. -/
theorem serves_conserves {s s' : Answering} {u : Trace} (h : Serves Answers s u s') :
    s'.1.pending.length + fetches u = s.1.pending.length + taken u := by
  induction h with
  | nil s => rfl
  | @cons s e s₁ u s' hstep h ih =>
      simp only [fetches, taken, List.countP_cons] at ih ⊢
      cases hstep with
      | taken htaken reply =>
          simp only [Backlog.accept, List.length_append, List.length_singleton] at ih
          simp only [htaken, isFetched_of_isTaken htaken, Bool.false_eq_true, if_true, if_false]
          omega
      | @delivered b fetched r rest capacity timeoutMs io hb hstatus hbytes =>
          change _ = rest.length + _ at ih
          simp only [hb, List.length_cons, isFetched, isTaken, hstatus, decide_true, if_true,
            Bool.false_eq_true, if_false]
          omega
      | aside htaken hfetched =>
          simp only [htaken, hfetched, Bool.false_eq_true, if_false]
          omega

theorem serves_ordered {s s' : Answering} {u : Trace} (h : Serves Answers s u s')
    (hs : s.1.Ordered) : s'.1.Ordered := by
  apply h.invariant (I := fun s => s.1.Ordered) _ hs
  intro s e s' hs hstep
  cases hstep with
  | taken h reply => exact hs.accept reply
  | delivered hb hstatus hbytes => exact hs.fetch hb
  | aside htaken hfetched => exact hs

/-! ## One operation -/

/-- At most one packet, and at most one bulk-in behind it. -/
def OneExchange (u : Trace) : Prop :=
  ∃ (ret ret' : IOReturn) (data : List UInt8) (timeoutMs capacity timeoutMs' : Nat)
    (out : OutReply data.length) (io : InReply capacity),
    u <+: [⟨.map, ret⟩, ⟨.pipeOut .bulkOut data timeoutMs, out⟩,
      ⟨.pipeIn .bulkIn capacity timeoutMs', io⟩, ⟨.map, ret'⟩]

/-- A bulk-in delivered, and the reply could be mapped. -/
def HandsOver (u : Trace) : Prop :=
  ∃ v capacity timeoutMs bytes h, u = v ++ [received .bulkIn capacity timeoutMs bytes h, mapped]

/-- The exchanges of an operation that is handed a reply. -/
theorem OneExchange.eq_of_handsOver {u : Trace} (hone : OneExchange u) (hhands : HandsOver u) :
    ∃ (ret : IOReturn) (data : List UInt8) (timeoutMs : Nat) (out : OutReply data.length)
      (capacity timeoutMs' : Nat) (io : InReply capacity), io.status = .success ∧
      u = [⟨.map, ret⟩, ⟨.pipeOut .bulkOut data timeoutMs, out⟩,
        ⟨.pipeIn .bulkIn capacity timeoutMs', io⟩, mapped] := by
  obtain ⟨ret, ret', data, timeoutMs, capacity, timeoutMs', out, io, w, hw⟩ := hone
  obtain ⟨v, capacity₁, timeoutMs₁, bytes, hlen, rfl⟩ := hhands
  match v with
  | [] => cases hw
  | [e] => cases hw
  | [e, f] =>
      cases hw
      exact ⟨ret, data, timeoutMs, out, capacity, timeoutMs', ⟨.success, bytes, hlen⟩, rfl, rfl⟩
  | e :: f :: g :: v =>
      have hlength := congrArg List.length hw
      simp at hlength
      omega

/-- An operation that is handed a reply fetches one, which is its own exactly if none was
pending before. -/
theorem own_iff_idle {b b' : Backlog (List UInt8)} {replies : List (Numbered (List UInt8))}
    {u : Trace} (hone : OneExchange u) (hhands : HandsOver u) (hb : b.Ordered)
    (h : Serves Answers (b, []) u (b', replies)) :
    (∀ r ∈ replies, r.request = b.issued) ↔ b.Idle := by
  obtain ⟨ret, data, timeoutMs, out, capacity, timeoutMs', io, hio, rfl⟩ :=
    hone.eq_of_handsOver hhands
  have haside {e : Exchange Request.Reply} {s s' : Answering} (hmap : e.request = .map)
      (hstep : Answers s e s') : s' = s := by
    obtain ⟨i, r⟩ := e
    obtain rfl : i = .map := hmap
    cases hstep with
    | taken h reply => cases h
    | aside htaken hfetched => rfl
  obtain ⟨s₁, h₁, htail₁⟩ := serves_cons_iff.mp h
  obtain ⟨s₂, h₂, htail₂⟩ := serves_cons_iff.mp htail₁
  obtain ⟨s₃, h₃, htail₃⟩ := serves_cons_iff.mp htail₂
  obtain ⟨s₄, h₄, hend⟩ := serves_cons_iff.mp htail₃
  obtain rfl := haside rfl h₁
  obtain rfl := haside rfl h₄
  cases serves_nil_iff.mp hend
  cases h₃ with
  | taken htaken reply => cases htaken
  | @delivered b₂ fetched r rest _ _ _ hpending hstatus hbytes =>
      have hown {ds : List (Numbered (List UInt8))} (hds : ds = []) :
          (∀ r' ∈ ds ++ [r], r'.request = b.issued) ↔ r.request = b.issued := by
        simp [hds]
      cases h₂ with
      | taken htaken reply =>
          rw [hown rfl]
          exact hb.head_accept_iff hpending
      | aside htaken hfetched =>
          rw [hown rfl]
          exact iff_of_false (Nat.ne_of_lt (hb.head_lt hpending)) (by simp [Backlog.Idle, hpending])
  | aside htaken hfetched =>
      simp [isFetched, hio] at hfetched

/-! ## Runs of operations -/

/-- One operation of a run, with the replies that it fetched. -/
structure Handled (κ : Type) where
  op : κ
  trace : Trace
  replies : List (Numbered (List UInt8))

section Runs

variable {κ : Type} {performs : κ → Trace → Prop}
  {past : List (Backlog (List UInt8) × Handled κ)} {b : Backlog (List UInt8)}

/-- An operation of a transport, and the adapter behind it. -/
def Handles (performs : κ → Trace → Prop) (b : Backlog (List UInt8)) (e : Handled κ)
    (b' : Backlog (List UInt8)) : Prop :=
  performs e.op e.trace ∧ Serves Answers (b, []) e.trace (b', e.replies)

/-- The replies that an operation fetches are to the next request, its own. -/
def FetchesOwn (b : Backlog (List UInt8)) (e : Handled κ) : Prop :=
  ∀ r ∈ e.replies, r.request = b.issued

/-- The exchanges of a run. -/
def traffic (past : List (Backlog (List UInt8) × Handled κ)) : Trace :=
  past.flatMap fun e => e.2.trace

/-- As many replies have been fetched as packets were taken. -/
def CaughtUp (past : List (Backlog (List UInt8) × Handled κ)) : Prop :=
  fetches (traffic past) = taken (traffic past)

/-- Every reply that is handed to an operation of some kind is its own. -/
def Paired (kind : κ → Prop) (past : List (Backlog (List UInt8) × Handled κ)) : Prop :=
  ∀ e ∈ past, kind e.2.op → HandsOver e.2.trace → FetchesOwn e.1 e.2

/-- Every operation of some kind that is handed a reply starts caught up. -/
def InStep (kind : κ → Prop) (past : List (Backlog (List UInt8) × Handled κ)) : Prop :=
  ∀ e earlier, e :: earlier <:+ past → kind e.2.op → HandsOver e.2.trace → CaughtUp earlier

theorem history_conserves (h : History Backlog.Idle (Handles performs) past b) :
    b.pending.length + fetches (traffic past) = taken (traffic past) := by
  induction h with
  | @start b hidle => simp [traffic, fetches, taken, show b.pending = [] from hidle]
  | @step past b e b' h hstep ih =>
      have hconserves := serves_conserves hstep.2
      simp only [traffic, fetches, taken, List.flatMap_cons, List.countP_append] at ih hconserves ⊢
      omega

theorem history_ordered (h : History Backlog.Idle (Handles performs) past b) : b.Ordered :=
  h.invariant (fun _ hidle => hidle.ordered) fun _ _ _ hordered hstep =>
    serves_ordered hstep.2 hordered

theorem caughtUp_iff (h : History Backlog.Idle (Handles performs) past b) :
    CaughtUp past ↔ b.Idle := by
  have hconserves := history_conserves h
  rw [CaughtUp, Backlog.Idle, ← List.length_eq_zero_iff]
  omega

theorem paired_iff (hone : ∀ op u, performs op u → OneExchange u)
    (h : History Backlog.Idle (Handles performs) past b) (kind : κ → Prop) :
    Paired kind past ↔ InStep kind past := by
  have hown {e earlier} (hsuffix : e :: earlier <:+ past) (hhands : HandsOver e.2.trace) :
      FetchesOwn e.1 e.2 ↔ CaughtUp earlier := by
    obtain ⟨hearlier, b', hperforms, hserves⟩ := h.of_suffix hsuffix
    rw [caughtUp_iff hearlier]
    exact own_iff_idle (hone _ _ hperforms) hhands (history_ordered hearlier) hserves
  constructor
  · intro hpaired e earlier hsuffix hkind hhands
    exact (hown hsuffix hhands).mp (hpaired e (hsuffix.subset List.mem_cons_self) hkind hhands)
  · intro hstep e he hkind hhands
    obtain ⟨later, earlier, rfl⟩ := List.append_of_mem he
    have hsuffix := List.suffix_append later (e :: earlier)
    exact (hown hsuffix hhands).mpr (hstep e earlier hsuffix hkind hhands)

end Runs

/-! ## Sending and fetching -/

/-- A bulk-out; when it succeeds its packet was handed over. -/
def Sends (u : Trace) (rc : GPIBTransportError) : Prop :=
  ∃ (ret : IOReturn) (data : List UInt8) (timeoutMs : Nat) (out : OutReply data.length),
    u <+: [⟨.map, ret⟩, ⟨.pipeOut .bulkOut data timeoutMs, out⟩] ∧
      (rc = .ok → u = [⟨.map, ret⟩, ⟨.pipeOut .bulkOut data timeoutMs, out⟩])

/-- A bulk-in. -/
def Receives (u : Trace) : Prop :=
  ∃ (capacity timeoutMs : Nat) (io : InReply capacity) (ret : IOReturn),
    u <+: [⟨.pipeIn .bulkIn capacity timeoutMs, io⟩, ⟨.map, ret⟩]

theorem sends_nil {rc : GPIBTransportError} (hrc : rc ≠ .ok) : Sends [] rc :=
  ⟨.success, [], 0, ⟨.success, 0⟩, List.nil_prefix, fun h => absurd h hrc⟩

theorem sends_unmapped {rc : GPIBTransportError} (hrc : rc ≠ .ok) (ret : IOReturn) :
    Sends [⟨.map, ret⟩] rc :=
  ⟨ret, [], 0, ⟨.success, 0⟩, List.prefix_append [_] [_], fun h => absurd h hrc⟩

theorem sends_packet (rc : GPIBTransportError) (ret : IOReturn) {data : List UInt8}
    (timeoutMs : Nat) (out : OutReply data.length) :
    Sends [⟨.map, ret⟩, ⟨.pipeOut .bulkOut data timeoutMs, out⟩] rc :=
  ⟨ret, data, timeoutMs, out, List.prefix_rfl, fun _ => rfl⟩

theorem receives_nil : Receives [] :=
  ⟨0, 0, ⟨.success, [], Nat.le_refl 0⟩, .success, List.nil_prefix⟩

theorem receives_cons {capacity : Nat} (timeoutMs : Nat) (io : InReply capacity) {ret : IOReturn}
    {u : Trace} (hu : u <+: [⟨.map, ret⟩]) :
    Receives (⟨.pipeIn .bulkIn capacity timeoutMs, io⟩ :: u) :=
  ⟨capacity, timeoutMs, io, ret, (List.prefix_cons_inj _).mpr hu⟩

theorem receives_last {capacity : Nat} (timeoutMs : Nat) (io : InReply capacity) :
    Receives [⟨.pipeIn .bulkIn capacity timeoutMs, io⟩] :=
  ⟨capacity, timeoutMs, io, .success, List.prefix_append [_] [_]⟩

/-- Nothing is exchanged. -/
def Still {α : Type} (p : Usb α) : Prop := Leaves p fun u _ => u = []

theorem still_pure {α : Type} (a : α) : Still (pure a) :=
  leaves_pure rfl

theorem still_ite {α : Type} {c : Prop} [Decidable c] {p q : Usb α} (hp : Still p)
    (hq : Still q) : Still (if c then p else q) :=
  leaves_ite (fun _ => hp) fun _ => hq

theorem still_checked {α : Type} (x : Option α) : Still (checked x) :=
  fun _ _ h => (run_checked_iff.mp h).1

theorem still_checked_bind {α β : Type} (x : Option α) {f : α → Usb β} (hf : ∀ a, Still (f a)) :
    Still (checked x >>= f) := by
  intro u b hrun
  obtain ⟨a, -, hrun⟩ := run_checked_bind_iff.mp hrun
  exact hf a u b hrun

/-- An operation that sends, gives up if that fails, and receives. -/
theorem leaves_oneExchange {α β : Type} {send : Usb GPIBTransportError} {receive : Usb β}
    {f : GPIBTransportError → α} {g : β → Usb α} (hsend : Leaves send Sends)
    (hreceive : Leaves receive fun u _ => Receives u) (hg : ∀ r, Still (g r)) :
    Leaves (send >>= fun rc => if rc ≠ .ok then pure (f rc) else receive >>= g)
      fun u _ => OneExchange u := by
  refine leaves_bind hsend fun u rc hu => ?_
  obtain ⟨ret, data, timeoutMs, out, hprefix, hok⟩ := hu
  apply leaves_ite
  · intro _
    apply leaves_pure
    rw [List.append_nil]
    refine ⟨ret, ret, data, timeoutMs, 0, 0, out, ⟨.success, [], Nat.le_refl 0⟩, ?_⟩
    exact hprefix.trans (List.prefix_append _ _)
  · intro hrc
    obtain rfl := hok (by simpa using hrc)
    refine leaves_bind hreceive fun w r hw => ?_
    obtain ⟨capacity, timeoutMs', io, ret', hprefix'⟩ := hw
    refine (hg r).mono fun v a hv => ?_
    subst hv
    rw [List.append_nil]
    exact ⟨ret, ret', data, timeoutMs, capacity, timeoutMs', out, io,
      (List.prefix_append_right_inj _).mpr hprefix'⟩

/-- An operation that first looks whether there is anything to do. -/
theorem leaves_oneExchange_unless {α : Type} {c : Prop} [Decidable c] {a : α} {p : Usb α}
    (hp : Leaves p fun u _ => OneExchange u) :
    Leaves (if c then pure a else p) fun u _ => OneExchange u := by
  refine leaves_ite (fun _ => leaves_pure ?_) fun _ => hp
  exact ⟨.success, .success, [], 0, 0, 0, ⟨.success, 0⟩, ⟨.success, [], Nat.le_refl 0⟩,
    List.nil_prefix⟩

end Usb

/-! ## NI -/

namespace NIUSBTransport

theorem leaves_bulkOut (t : NIUSBTransport) (bytes : List UInt8) (timeoutUs : Nat) :
    Leaves (t.bulkOut bytes timeoutUs) Usb.Sends := by
  unfold bulkOut
  refine leaves_ite (fun _ => leaves_pure (Usb.sends_nil (by decide))) fun _ => ?_
  refine leaves_ite (fun _ => leaves_pure (Usb.sends_nil (by decide))) fun _ => ?_
  refine leaves_call_bind fun ret => ?_
  refine leaves_ite (fun hret => leaves_pure (Usb.sends_unmapped (by simpa using hret) ret))
    fun _ => ?_
  exact leaves_call_bind fun out => leaves_pure (Usb.sends_packet _ ret _ out)

theorem leaves_bulkIn (t : NIUSBTransport) (capacity timeoutUs : Nat) :
    Leaves (t.bulkIn capacity timeoutUs) fun u _ => Usb.Receives u := by
  unfold bulkIn
  refine leaves_ite (fun _ => leaves_pure Usb.receives_nil) fun _ => ?_
  refine leaves_call_bind fun io => ?_
  apply leaves_ite
  · intro _
    exact leaves_pure (Usb.receives_last _ io)
  intro _
  refine leaves_call_bind fun ret => ?_
  refine leaves_ite (fun _ => leaves_pure (Usb.receives_cons _ io List.prefix_rfl)) fun _ => ?_
  intro u r hrun
  obtain ⟨-, hrun⟩ := Usb.run_copyTo_bind_iff.mp hrun
  obtain ⟨rfl, -⟩ := run_pure_iff.mp hrun
  exact Usb.receives_cons _ io List.prefix_rfl

/-- The operations that go over the bulk pipes. -/
inductive BulkOperation where
  | writeRegister (necReg value : UInt8)
  | readRegister (necReg : UInt8)
  | sendCommandBytes (cmds : List UInt8)
  | writeData (buf : List UInt8) (sendEoi : Bool) (timeoutUs : Nat)
  | readData (requestCount : Nat) (eosChar eosFlags : UInt8) (timeoutUs : Nat)

/-- A transport performs an operation, with some result. -/
def Performs (t : NIUSBTransport) (op : BulkOperation) (u : Usb.Trace) : Prop :=
  match op with
  | .writeRegister necReg value => ∃ rc, Run (t.writeRegister necReg value) u rc
  | .readRegister necReg => ∃ r, Run (t.readRegister necReg) u r
  | .sendCommandBytes cmds => ∃ rc, Run (t.sendCommandBytes cmds) u rc
  | .writeData buf sendEoi timeoutUs => ∃ r, Run (t.writeData buf sendEoi timeoutUs) u r
  | .readData requestCount eosChar eosFlags timeoutUs =>
      ∃ r, Run (t.readData requestCount eosChar eosFlags timeoutUs) u r

/-- A register write drains its reply unparsed. -/
def BulkOperation.Parses : BulkOperation → Prop
  | .writeRegister _ _ => False
  | _ => True

theorem oneExchange_of_performs {t : NIUSBTransport} {op : BulkOperation} {u : Usb.Trace}
    (h : t.Performs op u) : Usb.OneExchange u := by
  cases op with
  | writeRegister necReg value =>
      obtain ⟨rc, hrun⟩ := h
      exact Usb.leaves_oneExchange (t.leaves_bulkOut _ _) (t.leaves_bulkIn _ _)
        (fun _ => Usb.still_pure _) u rc hrun
  | readRegister necReg =>
      obtain ⟨r, hrun⟩ := h
      refine Usb.leaves_oneExchange (t.leaves_bulkOut _ _) (t.leaves_bulkIn _ _)
        (fun answer => ?_) u r hrun
      refine Usb.still_ite (Usb.still_pure _) (Usb.still_ite ?_ (Usb.still_pure _))
      refine Usb.still_checked_bind _ fun r₀ => Usb.still_ite ?_ (Usb.still_pure _)
      exact Usb.still_checked_bind _ fun r₂ => Usb.still_pure _
  | sendCommandBytes cmds =>
      obtain ⟨rc, hrun⟩ := h
      refine Usb.leaves_oneExchange_unless ?_ u rc hrun
      refine Usb.leaves_oneExchange (t.leaves_bulkOut _ _) (t.leaves_bulkIn _ _) fun answer => ?_
      refine Usb.still_ite (Usb.still_pure _) (Usb.still_ite (Usb.still_pure _) ?_)
      exact Usb.still_checked_bind _ fun st => Usb.still_pure _
  | writeData buf sendEoi timeoutUs =>
      obtain ⟨r, hrun⟩ := h
      refine Usb.leaves_oneExchange_unless ?_ u r hrun
      refine Usb.leaves_oneExchange (t.leaves_bulkOut _ _) (t.leaves_bulkIn _ _) fun answer => ?_
      refine Usb.still_ite (Usb.still_pure _) (Usb.still_ite (Usb.still_pure _) ?_)
      exact Usb.still_checked_bind _ fun st => Usb.still_pure _
  | readData requestCount eosChar eosFlags timeoutUs =>
      obtain ⟨r, hrun⟩ := h
      refine Usb.leaves_oneExchange_unless ?_ u r hrun
      refine Usb.leaves_oneExchange (t.leaves_bulkOut _ _) (t.leaves_bulkIn _ _) fun answer => ?_
      exact Usb.still_ite (Usb.still_pure _) (Usb.still_checked _)

end NIUSBTransport

/-! ## Agilent -/

namespace Agilent82357Transport

theorem leaves_bulkOut_sends (t : Agilent82357Transport) (bytes : List UInt8) (timeoutUs : Nat) :
    Leaves (t.bulkOut bytes timeoutUs) Usb.Sends := by
  unfold bulkOut
  refine leaves_ite (fun _ => leaves_pure (Usb.sends_nil (by decide))) fun _ => ?_
  refine leaves_ite (fun _ => leaves_pure (Usb.sends_nil (by decide))) fun _ => ?_
  refine leaves_call_bind fun ret => ?_
  refine leaves_ite (fun hret => leaves_pure (Usb.sends_unmapped (by simpa using hret) ret))
    fun _ => ?_
  refine leaves_call_bind fun out => ?_
  exact leaves_ite (fun _ => leaves_pure (Usb.sends_packet _ ret _ out))
    fun _ => leaves_pure (Usb.sends_packet _ ret _ out)

theorem leaves_bulkIn (t : Agilent82357Transport) (room capacity timeoutUs : Nat) :
    Leaves (t.bulkIn room capacity timeoutUs) fun u _ => Usb.Receives u := by
  unfold bulkIn
  refine leaves_ite (fun _ => leaves_pure Usb.receives_nil) fun _ => ?_
  refine leaves_call_bind fun io => ?_
  apply leaves_ite
  · intro _
    exact leaves_pure (Usb.receives_last _ io)
  intro _
  refine leaves_call_bind fun ret => ?_
  refine leaves_ite (fun _ => leaves_pure (Usb.receives_cons _ io List.prefix_rfl)) fun _ => ?_
  intro u r hrun
  obtain ⟨-, hrun⟩ := Usb.run_copyTo_bind_iff.mp hrun
  obtain ⟨rfl, -⟩ := run_pure_iff.mp hrun
  exact Usb.receives_cons _ io List.prefix_rfl

inductive RegisterOperation where
  | writeRegisters (writes : List (UInt8 × UInt8))
  | readRegisters (reads : List UInt8)

def Performs (t : Agilent82357Transport) (op : RegisterOperation) (u : Usb.Trace) : Prop :=
  match op with
  | .writeRegisters writes => ∃ rc, Run (t.writeRegisters writes) u rc
  | .readRegisters reads => ∃ r, Run (t.readRegisters reads) u r

theorem oneExchange_of_performs {t : Agilent82357Transport} {op : RegisterOperation}
    {u : Usb.Trace} (h : t.Performs op u) : Usb.OneExchange u := by
  cases op with
  | writeRegisters writes =>
      obtain ⟨rc, hrun⟩ := h
      refine Usb.leaves_oneExchange_unless (Usb.leaves_oneExchange_unless ?_) u rc hrun
      refine Usb.leaves_oneExchange (t.leaves_bulkOut_sends _ _) (t.leaves_bulkIn _ _ _)
        fun answer => ?_
      exact Usb.still_ite (Usb.still_pure _) (Usb.still_ite (Usb.still_pure _)
        (Usb.still_checked _))
  | readRegisters reads =>
      obtain ⟨r, hrun⟩ := h
      refine Usb.leaves_oneExchange_unless (Usb.leaves_oneExchange_unless ?_) u r hrun
      refine Usb.leaves_oneExchange (t.leaves_bulkOut_sends _ _) (t.leaves_bulkIn _ _ _)
        fun answer => ?_
      exact Usb.still_ite (Usb.still_pure _) (Usb.still_ite (Usb.still_pure _)
        (Usb.still_checked _))

end Agilent82357Transport

/-! ## Both adapters -/

/-- On both adapters, in every run from an adapter without pending replies and for every pattern
of delays: every reply that an operation parses is to its own request if and only if every
operation that is handed one to parse starts when as many replies have been fetched as request
packets were taken. The same goes for the replies that a register write of the NI drains. -/
theorem replies_paired_iff (ni : NIUSBTransport) (agilent : Agilent82357Transport) :
    (∀ past b, History Backlog.Idle (Usb.Handles ni.Performs) past b →
      (Usb.Paired NIUSBTransport.BulkOperation.Parses past ↔
        Usb.InStep NIUSBTransport.BulkOperation.Parses past) ∧
      (Usb.Paired (fun _ => True) past ↔ Usb.InStep (fun _ => True) past)) ∧
    ∀ past b, History Backlog.Idle (Usb.Handles agilent.Performs) past b →
      (Usb.Paired (fun _ => True) past ↔ Usb.InStep (fun _ => True) past) := by
  constructor
  · intro past b h
    have hone {op} {u} (hrun : ni.Performs op u) := NIUSBTransport.oneExchange_of_performs hrun
    exact ⟨Usb.paired_iff (fun _ _ => hone) h _, Usb.paired_iff (fun _ _ => hone) h _⟩
  · intro past b h
    exact Usb.paired_iff (fun _ _ => Agilent82357Transport.oneExchange_of_performs) h _

/-! ## A late reply -/

namespace NIUSBTransport

/-- The packet of a register write, and the packet of the command `UNL`. -/
def registerPacket : List UInt8 :=
  [niusbRegWriteId, 1, necToTnt nec7210Auxmr, auxSifc, niusbTermId, 0, 0, 0]

/-- The adapter reports that a request went through. -/
def doneBlock : List UInt8 := [niusbIbrdStatusId, 0x01, 0x20, 0, 0, 0, 0, 0]

/-- A register write whose reply is late. -/
def lateWrite : Usb.Handled BulkOperation where
  op := .writeRegister nec7210Auxmr auxSifc
  trace :=
    [Usb.mapped, Usb.sent .bulkOut registerPacket 100 (Fin.last _),
      ⟨.pipeIn .bulkIn 64 100, ⟨.timeout, [], Nat.zero_le _⟩⟩]
  replies := []

/-- A command that is handed a reply. -/
def unlistenCommand (replies : List (Numbered (List UInt8))) : Usb.Handled BulkOperation where
  op := .sendCommandBytes [0x3F]
  trace :=
    [Usb.mapped, Usb.sent .bulkOut (commandPacket [0x3F]) 3000 (Fin.last _),
      Usb.received .bulkIn 32 3000 doneBlock (by decide), Usb.mapped]
  replies := replies

theorem run_unlistenCommand (replies : List (Numbered (List UInt8))) :
    Run (attached.sendCommandBytes [0x3F]) (unlistenCommand replies).trace .ok :=
  .ask (.ask (.ask (.ask (.pure _))))

theorem run_lateWrite : Run (attached.writeRegister nec7210Auxmr auxSifc) lateWrite.trace .ok :=
  .ask (.ask (.ask (.pure _)))

theorem handsOver_unlistenCommand (replies : List (Numbered (List UInt8))) :
    Usb.HandsOver (unlistenCommand replies).trace :=
  ⟨[Usb.mapped, Usb.sent .bulkOut (commandPacket [0x3F]) 3000 (Fin.last _)], 32, 3000, doneBlock,
    by decide, rfl⟩

theorem serves_unlistenCommand (issued : Nat) :
    Serves Usb.Answers (⟨issued, []⟩, []) (unlistenCommand [⟨issued, doneBlock⟩]).trace
      (⟨issued + 1, []⟩, [⟨issued, doneBlock⟩]) :=
  .cons (.aside rfl rfl) (.cons (.taken rfl doneBlock) (.cons (.delivered rfl rfl rfl)
    (.cons (.aside rfl rfl) (.nil _))))

/-- Two commands, each of them answered in time. -/
def promptRun : List (Backlog (List UInt8) × Usb.Handled BulkOperation) :=
  [(⟨1, []⟩, unlistenCommand [⟨1, doneBlock⟩]), (⟨0, []⟩, unlistenCommand [⟨0, doneBlock⟩])]

theorem prompt_replies_parsed : ∀ e ∈ promptRun, Usb.FetchesOwn e.1 e.2 := by
  have hrun : History Backlog.Idle (Usb.Handles attached.Performs) promptRun ⟨2, []⟩ :=
    .step (.step (.start rfl) ⟨⟨.ok, run_unlistenCommand _⟩, serves_unlistenCommand 0⟩)
      ⟨⟨.ok, run_unlistenCommand _⟩, serves_unlistenCommand 1⟩
  have hstep : Usb.InStep BulkOperation.Parses promptRun := by
    intro e earlier hsuffix _ _
    rcases List.suffix_cons_iff.mp hsuffix with heq | hsuffix
    · cases heq
      rfl
    rcases List.suffix_cons_iff.mp hsuffix with heq | hnil
    · cases heq
      rfl
    · simp at hnil
  have hpaired := ((replies_paired_iff attached .attached).1 _ _ hrun).1.mpr hstep
  intro e he
  refine hpaired e he ?_ ?_
  · simp only [promptRun, List.mem_cons, List.not_mem_nil, or_false] at he
    rcases he with rfl | rfl <;> trivial
  · simp only [promptRun, List.mem_cons, List.not_mem_nil, or_false] at he
    rcases he with rfl | rfl <;> exact handsOver_unlistenCommand _

/-- The register write has given up when the command is sent. -/
def lateRun : List (Backlog (List UInt8) × Usb.Handled BulkOperation) :=
  [(⟨1, [⟨0, doneBlock⟩]⟩, unlistenCommand [⟨0, doneBlock⟩]), (⟨0, []⟩, lateWrite)]

/-- The command is reported as sent on the strength of the reply to the register write. -/
theorem late_reply_parsed :
    History Backlog.Idle (Usb.Handles attached.Performs) lateRun ⟨2, [⟨1, doneBlock⟩]⟩ ∧
      ¬ Usb.Paired BulkOperation.Parses lateRun := by
  have hlate : Serves Usb.Answers (⟨0, []⟩, []) lateWrite.trace (⟨1, [⟨0, doneBlock⟩]⟩, []) :=
    .cons (.aside rfl rfl) (.cons (.taken rfl doneBlock) (.cons (.aside rfl rfl) (.nil _)))
  have hnext : Serves Usb.Answers (⟨1, [⟨0, doneBlock⟩]⟩, [])
      (unlistenCommand [⟨0, doneBlock⟩]).trace (⟨2, [⟨1, doneBlock⟩]⟩, [⟨0, doneBlock⟩]) :=
    .cons (.aside rfl rfl) (.cons (.taken rfl doneBlock) (.cons (.delivered rfl rfl rfl)
      (.cons (.aside rfl rfl) (.nil _))))
  refine ⟨.step (.step (.start rfl) ⟨⟨.ok, run_lateWrite⟩, hlate⟩)
    ⟨⟨.ok, run_unlistenCommand _⟩, hnext⟩, fun h => ?_⟩
  have hown := h _ List.mem_cons_self trivial (handsOver_unlistenCommand _) ⟨0, doneBlock⟩
    List.mem_cons_self
  exact absurd hown (by decide)

end NIUSBTransport

end DarwinGpib
