import DarwinGpib.Client.Lookup
import DarwinGpib.Transfer.ReadProgress
import DarwinGpib.Transfer.WriteTruth

/-!
# Progress above the transports

What a read without progress becomes in the board's status, and what such a status does to the
loop of `ibrdf`.
-/

namespace DarwinGpib

open Interaction Usb

/-- A status that reports neither a failure, nor the end of the message, nor a byte. -/
def CountStatus.Silent (s : CountStatus) : Prop :=
  s.ibsta &&& Ibsta.err = 0 ∧ s.ibsta &&& Ibsta.end = 0 ∧ s.ibcnt = 0

/-! ## The board -/

namespace BoardState

variable {τ : Type} {T : IGPIBTransport (StateT τ Usb)} {n : Nat} {s s' : BoardState}
  {t t' : τ} {u : Usb.Trace} {r : ReadStatus}

/-- The status that a read is given once its transport has returned. -/
def readStatus (rr : ReadResult) : CountStatus :=
  if rr.rc ≠ .ok then ⟨⟨errIbsta rr.rc, transferIberr rr.rc⟩, rr.bytesRead⟩
  else ⟨⟨if rr.ended then Ibsta.cmpl ||| Ibsta.end else Ibsta.cmpl, 0⟩, rr.bytesRead⟩

theorem silent_readStatus_iff {rr : ReadResult} : (readStatus rr).Silent ↔ ¬ rr.Progress := by
  unfold readStatus ReadResult.Progress CountStatus.Silent
  by_cases hrc : rr.rc = .ok
  · have hended : (Ibsta.cmpl ||| Ibsta.end) &&& Ibsta.end ≠ 0 := by decide
    have herr : Ibsta.cmpl &&& Ibsta.err = 0 := by decide
    have hend : Ibsta.cmpl &&& Ibsta.end = 0 := by decide
    cases rr.ended with
    | true => simp [hrc, hended]
    | false => simp [hrc, herr, hend]
  · simp [hrc, errIbsta_and_err]

/-- A read of the board fails, or its last part is a read of its transport, to which it owes its
status. -/
theorem run_read {desc : Option GPIBDescriptor}
    (hrun : Run ((read T desc n s).run t) u ((r, s'), t')) :
    r.ibsta &&& Ibsta.err ≠ 0 ∨
      ∃ d v t₁ w rr, desc = some d ∧ u = v ++ w ∧
        Run ((T.readData n d.eosChar d.eosFlags d.timeoutUs).run t₁) w (rr, t') ∧
        r.toCountStatus = readStatus rr := by
  unfold read at hrun
  cases desc with
  | none =>
      obtain ⟨-, heq⟩ := run_stateT_pure_iff.mp hrun
      cases heq
      exact .inl (by decide)
  | some d =>
      have hfail {iberr : UInt32} {s₁ : BoardState} {v : Usb.Trace} {t₀ t₁ : τ}
          (h : Run ((pure ((⟨⟨⟨Ibsta.err, iberr⟩, 0⟩, false, []⟩ : ReadStatus), s₁) :
            StateT τ Usb (ReadStatus × BoardState)).run t₀) v ((r, s'), t₁)) :
          r.ibsta &&& Ibsta.err ≠ 0 := by
        obtain ⟨-, heq⟩ := run_stateT_pure_iff.mp h
        cases heq
        change Ibsta.err &&& Ibsta.err ≠ 0
        decide
      by_cases htransport : s.hasTransport = true
      · by_cases honline : s.online = true
        · simp only [htransport, honline, Bool.not_true, Bool.false_eq_true, if_false] at hrun
          obtain ⟨v, ⟨failed, s₁⟩, t₁, w, rfl, -, hw⟩ := run_stateT_bind_iff.mp hrun
          cases failed with
          | some failure => exact .inl (hfail hw)
          | none =>
              obtain ⟨x, rr, t₂, y, rfl, hx, hy⟩ := run_stateT_bind_iff.mp hw
              rcases run_stateT_guard_iff.mp hy with ⟨hrc, rfl, ⟨⟩⟩ | ⟨hrc, hy⟩
              · refine .inr ⟨d, v, t₁, x, rr, rfl, by rw [List.append_nil], hx, ?_⟩
                rw [readStatus, if_pos hrc]
              · obtain ⟨rfl, heq⟩ := run_stateT_pure_iff.mp hy
                cases heq
                refine .inr ⟨d, v, t₁, x, rr, rfl, by rw [List.append_nil], hx, ?_⟩
                rw [readStatus, if_neg hrc]
        · simp only [htransport, honline, Bool.not_true, Bool.not_false, Bool.false_eq_true,
            if_false, if_true] at hrun
          exact .inl (hfail hrun)
      · simp only [htransport, Bool.not_false, if_true] at hrun
        exact .inl (hfail hrun)

end BoardState

/-! ## The library -/

namespace Libgpib

/-! ### A single read -/

/-- The room that `ibrd` has for `cnt` bytes. -/
def readRoom (cnt : Int) : Nat := min cnt.toNat UserClient.kGPIBMaxInlineRead

/-- What `ibrd` makes of the reply to its Read. -/
def ReadBy (cnt : Int) (reply : CallReply) (ret : UInt32) (bytes : List UInt8) (ibcntl : Nat) :
    Prop :=
  (reply.kr.toInt32 ≠ 0 ∧ ret = Ibsta.err) ∨
    (reply.kr.toInt32 = 0 ∧ ret = (readOut reply.out).1.ibsta ∧
      bytes = receivedBytes (readRoom cnt) (readOut reply.out) ∧
      ibcntl = (readOut reply.out).1.ibcnt)

variable {ud : Int32} {cnt : Int} {s s' : Process} {u : Trace BrokerCall.Reply}
  {ret : UInt32} {bytes : List UInt8}

/-- A read resolves its board and handle and then fails, or makes one Read. -/
theorem run_ibrd (hrun : Run ((ibrd ud cnt).run s) u ((ret, bytes), s')) :
    ∃ v w, u = v ++ w ∧ (∀ e ∈ v, e.request.Resolves) ∧
      ((w = [] ∧ ret = Ibsta.err) ∨
        ∃ conn handle reply, w = [⟨.call conn (.read handle (readRoom cnt)), reply⟩] ∧
          ReadBy cnt reply ret bytes s'.ibcntl) := by
  have hfail {iberr : UInt32} {s₁ s₂ : Process} {w : Trace BrokerCall.Reply}
      (h : Run ((do
          let ret ← returnErr iberr
          return (ret, ([] : List UInt8)) : Lib (UInt32 × List UInt8)).run s₁) w
        ((ret, bytes), s₂)) : w = [] ∧ ret = Ibsta.err := by
    obtain ⟨x, ret', s₃, y, rfl, hx, hy⟩ := run_stateT_bind_iff.mp h
    obtain ⟨rfl, rfl⟩ := run_returnErr hx
    obtain ⟨rfl, heq⟩ := run_stateT_pure_iff.mp hy
    cases heq
    exact ⟨rfl, rfl⟩
  unfold ibrd at hrun
  obtain ⟨v₁, conn, s₁, w₁, rfl, hv₁, hw₁⟩ := run_stateT_bind_iff.mp hrun
  have hresolves₁ := ((resolving_connForBoard _).of_run hv₁).1
  simp only [not_not] at hresolves₁
  cases conn with
  | none =>
      obtain ⟨rfl, heq⟩ := run_stateT_pure_iff.mp hw₁
      cases heq
      exact ⟨v₁, [], rfl, hresolves₁, .inl ⟨rfl, rfl⟩⟩
  | some c =>
      rcases run_stateT_ite_iff.mp hw₁ with ⟨-, hw₁⟩ | ⟨-, hw₁⟩
      · obtain ⟨rfl, hret⟩ := hfail hw₁
        exact ⟨v₁, [], rfl, hresolves₁, .inl ⟨rfl, hret⟩⟩
      obtain ⟨v₂, handle, s₂, w₂, rfl, hv₂, hw₂⟩ := run_stateT_bind_iff.mp hw₁
      have hresolves₂ := ((resolving_handleOf _).of_run hv₂).1
      simp only [not_not] at hresolves₂
      obtain ⟨v₃, ⟨kr, out⟩, s₃, w₃, rfl, hv₃, hw₃⟩ := run_stateT_bind_iff.mp hw₂
      obtain ⟨reply, rfl, hout, hkr, -⟩ := run_callStruct hv₃
      have hresolves : ∀ e ∈ v₁ ++ v₂, e.request.Resolves := by
        intro e he
        rcases List.mem_append.mp he with he | he
        · exact hresolves₁ e he
        · exact hresolves₂ e he
      refine ⟨v₁ ++ v₂, [⟨.call c (.read handle.toInt (readRoom cnt)), reply⟩], ?_, hresolves,
        .inr ⟨c, _, reply, rfl, ?_⟩⟩
      · rcases run_stateT_ite_iff.mp hw₃ with ⟨-, hw₃⟩ | ⟨-, hw₃⟩
        · obtain ⟨rfl, -⟩ := hfail hw₃
          simp [readRoom]
        · obtain ⟨x, _, s₄, y, rfl, hx, hy⟩ := run_stateT_bind_iff.mp hw₃
          obtain ⟨rfl, -⟩ := run_modify_iff.mp hx
          obtain ⟨rfl, -⟩ := run_stateT_pure_iff.mp hy
          simp [readRoom]
      · rcases run_stateT_ite_iff.mp hw₃ with ⟨hfailed, hw₃⟩ | ⟨hok, hw₃⟩
        · exact .inl ⟨fun h => hfailed (hkr.mpr h), (hfail hw₃).2⟩
        · obtain ⟨x, _, s₄, y, rfl, hx, hy⟩ := run_stateT_bind_iff.mp hw₃
          obtain ⟨rfl, hs₄⟩ := run_modify_iff.mp hx
          obtain ⟨rfl, heq⟩ := run_stateT_pure_iff.mp hy
          cases heq
          cases hs₄
          simp only at hout
          subst hout
          exact .inr ⟨hkr.mp (not_not.mp hok), rfl, rfl, rfl⟩

/-! ### The loop of `ibrdf` -/

/-- A Read that the driver answered with a silent status. -/
def SilentRead (e : Exchange BrokerCall.Reply) : Prop :=
  match e with
  | ⟨.call _ (.read _ _), reply⟩ =>
      (CallReply.kr reply).toInt32 = 0 ∧ (readOut (CallReply.out reply)).1.Silent
  | _ => False

/-- Whether an exchange is a Read. -/
def isRead (e : Exchange BrokerCall.Reply) : Bool :=
  match e.request with
  | .call _ (.read _ _) => true
  | _ => false

/-- The number of Reads in a trace. -/
def reads (u : Trace BrokerCall.Reply) : Nat := u.countP isRead

theorem not_isRead_of_resolves {e : Exchange BrokerCall.Reply} (h : e.request.Resolves) :
    isRead e = false := by
  obtain ⟨i, reply⟩ := e
  cases i with
  | probe board => rfl
  | call board c =>
      cases c with
      | boardOnline online => rfl
      | openDescriptor i => rfl
      | _ => exact h.elim

theorem not_silentRead_of_resolves {e : Exchange BrokerCall.Reply} (h : e.request.Resolves) :
    ¬ SilentRead e := by
  obtain ⟨i, reply⟩ := e
  cases i with
  | probe board => exact id
  | call board c =>
      cases c with
      | boardOnline online => exact id
      | openDescriptor i => exact id
      | _ => exact h.elim

theorem reads_le_one (hrun : Run ((ibrd ud cnt).run s) u ((ret, bytes), s')) : reads u ≤ 1 := by
  obtain ⟨v, w, rfl, hv, hw⟩ := run_ibrd hrun
  have hnone : v.countP isRead = 0 := by
    rw [List.countP_eq_zero]
    intro e he
    simp [not_isRead_of_resolves (hv e he)]
  rw [reads, List.countP_append, hnone]
  rcases hw with ⟨rfl, -⟩ | ⟨_, _, _, rfl, -⟩
  · simp
  · simp [isRead]

/-- A round of `ibrdf` that goes on has been given a byte unless the driver's answer was
silent. -/
theorem round_progress_iff (hrun : Run ((ibrd ud cnt).run s) u ((ret, bytes), s'))
    (herr : ret &&& Ibsta.err = 0) (hend : ret &&& Ibsta.end = 0) :
    1 ≤ s'.ibcntl ↔ ∀ e ∈ u, ¬ SilentRead e := by
  have hne : ret ≠ Ibsta.err := by
    rintro rfl
    exact absurd herr (by decide)
  obtain ⟨v, w, rfl, hv, ⟨-, hret⟩ | ⟨_, _, reply, rfl, ⟨-, hret⟩ | ⟨hkr, rfl, -, hcnt⟩⟩⟩ :=
    run_ibrd hrun
  · exact absurd hret hne
  · exact absurd hret hne
  rw [hcnt, Nat.one_le_iff_ne_zero]
  constructor
  · intro hpos e he
    rcases List.mem_append.mp he with he | he
    · exact not_silentRead_of_resolves (hv e he)
    · rw [List.mem_singleton.mp he]
      rintro ⟨-, -, -, hzero⟩
      exact hpos hzero
  · intro h hzero
    exact h _ (List.mem_append_right _ List.mem_cons_self) ⟨hkr, herr, hend, hzero⟩

/-- The bytes of a read that is not over are at least one, if its status counts one. -/
theorem one_le_bytes (hrun : Run ((ibrd ud cnt).run s) u ((ret, bytes), s'))
    (hroom : 1 ≤ readRoom cnt) (herr : ret &&& Ibsta.err = 0) (hcnt : 1 ≤ s'.ibcntl) :
    1 ≤ bytes.length := by
  have hne : ret ≠ Ibsta.err := by
    rintro rfl
    exact absurd herr (by decide)
  obtain ⟨v, w, rfl, -, ⟨-, hret⟩ | ⟨_, _, reply, rfl, ⟨-, hret⟩ | ⟨-, -, hbytes, hcnt'⟩⟩⟩ :=
    run_ibrd hrun
  · exact absurd hret hne
  · exact absurd hret hne
  rw [hbytes, receivedBytes, List.length_take, List.length_append, List.length_replicate]
  omega

/-- Without silent answers, every Read but the last adds a byte to the file. -/
theorem readFileLoop_reads {fuel : Nat} {buf file file' : List UInt8} {last : Option UInt32}
    (hrun : Run ((readFileLoop ud fuel buf file).run s) u ((last, file'), s'))
    (hloud : ∀ e ∈ u, ¬ SilentRead e) : file.length + reads u ≤ file'.length + 1 := by
  induction fuel generalizing buf file s u with
  | zero =>
      obtain ⟨rfl, heq⟩ := run_stateT_pure_iff.mp hrun
      cases heq
      exact Nat.le_succ _
  | succ fuel ih =>
      unfold readFileLoop at hrun
      obtain ⟨v, ⟨ret, bytes⟩, s₁, w, rfl, hv, hw⟩ := run_stateT_bind_iff.mp hrun
      have hone := reads_le_one hv
      have hreads : reads (v ++ w) = reads v + reads w := List.countP_append
      rcases run_stateT_guard_iff.mp hw with ⟨-, rfl, ⟨⟩⟩ | ⟨herr, hw⟩
      · rw [List.append_nil]
        omega
      obtain ⟨x, s₂, s₃, y, rfl, hx, hy⟩ := run_stateT_bind_iff.mp hw
      obtain ⟨rfl, heq⟩ := run_get_iff.mp hx
      cases heq
      rcases run_stateT_guard_iff.mp hy with ⟨-, rfl, ⟨⟩⟩ | ⟨hend, hy⟩
      · simp only [List.append_nil, List.length_append]
        omega
      have hcnt : 1 ≤ s₁.ibcntl :=
        (round_progress_iff hv (not_not.mp herr) (not_not.mp hend)).mpr
          fun e he => hloud e (List.mem_append_left _ he)
      have hbytes : 1 ≤ bytes.length :=
        one_le_bytes hv (by decide) (not_not.mp herr) hcnt
      have hrest := ih hy fun e he =>
        hloud e (List.mem_append_right _ (List.mem_append_right _ he))
      simp only [List.length_append, List.length_take] at hrest
      rw [List.nil_append] at hreads ⊢
      omega

theorem ibrdf_reads {opened : Bool} {fuel : Nat} {buf file : List UInt8} {last : Option UInt32}
    (hrun : Run ((ibrdf ud opened fuel buf).run s) u ((last, file), s'))
    (hloud : ∀ e ∈ u, ¬ SilentRead e) : reads u ≤ file.length + 1 := by
  unfold ibrdf at hrun
  rcases run_stateT_ite_iff.mp hrun with ⟨-, hrun⟩ | ⟨-, hrun⟩
  · obtain ⟨v, _, s₁, w, rfl, hv, hw⟩ := run_stateT_bind_iff.mp hrun
    obtain ⟨rfl, -⟩ := run_returnErr hv
    obtain ⟨rfl, -⟩ := run_stateT_pure_iff.mp hw
    exact Nat.zero_le _
  · have h := readFileLoop_reads hrun hloud
    simpa using h

end Libgpib

/-! ## A read that times out -/

namespace Agilent82357Transport

/-- The exchanges of a one-byte read: the command is taken and the bulk-in brings `bytes`. -/
def readTrace (timeoutUs : Nat) (bytes : List UInt8) (h : bytes.length ≤ 2) : Usb.Trace :=
  [Usb.mapped, Usb.sent .bulkOut (readPacket 1 0) (msFromUsec timeoutUs) (Fin.last _),
    Usb.received .bulkIn 2 (msFromUsec timeoutUs) bytes h, Usb.mapped]

/-- The exchanges of a one-byte read to which no device talks: both bulk-ins time out. -/
def timeoutTrace (timeoutUs : Nat) : Usb.Trace :=
  [Usb.mapped, Usb.sent .bulkOut (readPacket 1 0) (msFromUsec timeoutUs) (Fin.last _),
    ⟨.pipeIn .bulkIn 2 (msFromUsec timeoutUs), ⟨.timeout, [], Nat.zero_le 2⟩⟩,
    ⟨.create 2, .success⟩,
    ⟨.controlIn controlRequest xferAbort xaFlush 2,
      ⟨.success, [~~~ xferAbort.toUInt8, 0], Nat.le_refl 2⟩⟩,
    Usb.mapped,
    ⟨.pipeIn .bulkIn 2 (msFromUsec 100000), ⟨.timeout, [], Nat.zero_le 2⟩⟩]

theorem run_readData_readTrace (timeoutUs : Nat) (byte flags : UInt8) :
    Run (attached.readData 1 0 0 timeoutUs) (readTrace timeoutUs [byte, flags] (Nat.le_refl 2))
      ⟨.ok, [byte], 1, flags &&& (atrfEoi ||| atrfEos) ≠ 0⟩ := by
  have hpacket : (readPacket 1 0).length ≤ kBulkBufferSize := by decide
  exact (run_bulkOut_ok_iff.mpr ⟨rfl, rfl, hpacket, rfl⟩).bind (.ask (.ask (.pure _)))

theorem run_readData_timeoutTrace (timeoutUs : Nat) :
    Run (attached.readData 1 0 0 timeoutUs) (timeoutTrace timeoutUs) (.nothing .ok) := by
  have hpacket : (readPacket 1 0).length ≤ kBulkBufferSize := by decide
  exact (run_bulkOut_ok_iff.mpr ⟨rfl, rfl, hpacket, rfl⟩).bind
    (.ask (.ask (.ask (.ask (.ask (.pure _))))))

end Agilent82357Transport

/-! ## All layers -/

/-- On each transport a read makes progress exactly when the replies that it makes its result of
say something. A status of the board is silent exactly when the transport's read behind it made no
progress, and a round of `ibrdf` that goes on has been given a byte exactly when the status it got
was not silent; so without silent statuses every Read but the last adds to the file. -/
theorem reads_progress_iff (n : Nat) (ud : Int32) :
    (∀ fuel (t : KUSB488BTransport) c f us u r, 1 ≤ n →
      Run (KUSB488BTransport.readData fuel t n c f us) u r →
        (r.Progress ↔ ∀ p, KUSB488BTransport.heard n [] (arrivals u) = some p →
          KUSB488BTransport.Audible p.1 p.2)) ∧
    (∀ (t : NIUSBTransport) c f us u r, 1 ≤ n → Run (t.readData n c f us) u r →
        (r.Progress ↔ ∀ resp, NIUSBTransport.heard (arrivals u) = some resp →
          NIUSBTransport.Audible (min n NIUSBTransport.kMaxRead) resp)) ∧
    (∀ (t : Agilent82357Transport) c f us u r, 1 ≤ n → Run (t.readData n c f us) u r →
        (r.Progress ↔ ∀ resp,
          Agilent82357Transport.heard (min n Agilent82357Transport.kMaxRead)
            (Agilent82357Transport.bulkArrivals u) = some resp →
          Agilent82357Transport.Audible resp)) ∧
    (∀ (τ : Type) (T : IGPIBTransport (StateT τ Usb)) desc s t u r s' t',
      Run ((BoardState.read T desc n s).run t) u ((r, s'), t') →
        r.ibsta &&& Ibsta.err ≠ 0 ∨
          ∃ d v t₁ w rr, desc = some d ∧ u = v ++ w ∧
            Run ((T.readData n d.eosChar d.eosFlags d.timeoutUs).run t₁) w (rr, t') ∧
            (r.toCountStatus.Silent ↔ ¬ rr.Progress)) ∧
    (∀ cnt s u ret bytes s', Run ((Libgpib.ibrd ud cnt).run s) u ((ret, bytes), s') →
      ret &&& Ibsta.err = 0 → ret &&& Ibsta.end = 0 →
        (1 ≤ s'.ibcntl ↔ ∀ e ∈ u, ¬ Libgpib.SilentRead e)) ∧
    ∀ opened fuel buf s u last file s',
      Run ((Libgpib.ibrdf ud opened fuel buf).run s) u ((last, file), s') →
        (∀ e ∈ u, ¬ Libgpib.SilentRead e) → Libgpib.reads u ≤ file.length + 1 := by
  refine ⟨?_, ?_, ?_, ?_, ?_, ?_⟩
  · intro fuel t c f us u r hpos hrun
    exact KUSB488BTransport.progress_iff hpos hrun
  · intro t c f us u r hpos hrun
    exact NIUSBTransport.progress_iff hpos hrun
  · intro t c f us u r hpos hrun
    exact Agilent82357Transport.progress_iff hpos hrun
  · intro τ T desc s t u r s' t' hrun
    rcases BoardState.run_read hrun with herr | ⟨d, v, t₁, w, rr, hdesc, hu, hread, hstatus⟩
    · exact .inl herr
    · exact .inr ⟨d, v, t₁, w, rr, hdesc, hu, hread,
        by rw [hstatus, BoardState.silent_readStatus_iff]⟩
  · intro cnt s u ret bytes s' hrun herr hend
    exact Libgpib.round_progress_iff hrun herr hend
  · intro opened fuel buf s u last file s' hrun hloud
    exact Libgpib.ibrdf_reads hrun hloud

/-- A response with a byte and its flags makes progress. -/
theorem read_progress_one_byte : ReadResult.Progress ⟨.ok, [0x41], 1, false⟩ := by
  have hrun := Agilent82357Transport.run_readData_readTrace 1000000 0x41 0
  refine ((reads_progress_iff 1 0).2.2.1 _ _ _ _ _ _ (Nat.le_refl 1) hrun).mpr ?_
  intro resp hresp
  obtain rfl : [0x41, 0] = resp := Option.some.inj hresp
  exact .inl (Nat.le_refl 2)

/-- A read that no device answers succeeds with nothing. -/
theorem timed_out_read_is_silent :
    Run (Agilent82357Transport.attached.readData 1 0 0 1000000)
        (Agilent82357Transport.timeoutTrace 1000000) (.nothing .ok) ∧
      ¬ (ReadResult.nothing .ok).Progress := by
  refine ⟨Agilent82357Transport.run_readData_timeoutTrace 1000000, ?_⟩
  intro h
  exact absurd (h rfl) (by decide)

end DarwinGpib
