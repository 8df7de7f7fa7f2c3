import DarwinGpib.Library.Stateful
import DarwinGpib.Model.Libgpib

/-!
# Looking up boards and handles

What a library call asks the broker before the call it is about, and the exchange of that call.
-/

namespace DarwinGpib

open Interaction

namespace Libgpib

/-- Requests that resolve a board or open its descriptor. -/
def BrokerCall.Resolves : BrokerCall → Prop
  | probe _ | call _ (.boardOnline _) | call _ (.openDescriptor _) => True
  | _ => False

/-- The library asks only for what satisfies `Resolves`. -/
abbrev Resolving {α : Type} (x : Lib α) : Prop :=
  StateEnsures (fun i => ¬ BrokerCall.Resolves i) x fun _ => True

theorem resolving_setStatus (ibsta iberr : UInt32) (cnt : Nat) :
    Resolving (setStatus ibsta iberr cnt) :=
  stateEnsures_modify _

theorem resolving_brokerCall {i : BrokerCall} (h : i.Resolves) : Resolving (brokerCall i) :=
  stateEnsures_call (not_not.mpr h)

theorem resolving_connForBoard (boardIndex : Int32) : Resolving (connForBoard boardIndex) := by
  unfold connForBoard
  apply stateEnsures_ite
  · intro _
    exact stateEnsures_bind (resolving_setStatus _ _ _) fun _ _ => stateEnsures_pure trivial
  intro _
  apply stateEnsures_bind stateEnsures_get
  intro s _
  apply stateEnsures_ite
  · intro _
    exact stateEnsures_pure trivial
  intro _
  apply stateEnsures_bind (resolving_brokerCall (i := .probe boardIndex) trivial)
  intro (kr : Int64) _
  apply stateEnsures_ite
  · intro _
    exact stateEnsures_bind (resolving_setStatus _ _ _) fun _ _ => stateEnsures_pure trivial
  intro _
  exact stateEnsures_bind (stateEnsures_modify _) fun _ _ => stateEnsures_pure trivial

theorem resolving_callStruct (conn : Int32) {c : DriverCall}
    (h : BrokerCall.Resolves (.call conn c)) : Resolving (callStruct conn c) := by
  unfold callStruct
  apply stateEnsures_bind (resolving_brokerCall h)
  intro reply _
  apply stateEnsures_ite
  · intro _
    exact stateEnsures_bind (stateEnsures_modify _) fun _ _ => stateEnsures_pure trivial
  intro _
  exact stateEnsures_ite (fun _ => stateEnsures_pure trivial) fun _ => stateEnsures_pure trivial

theorem resolving_openBoard (boardIndex : Int32) : Resolving (openBoard boardIndex) := by
  have hfail (ibsta iberr : UInt32) : Resolving (do
      setStatus ibsta iberr 0
      return (-1 : Int32)) :=
    stateEnsures_bind (resolving_setStatus _ _ _) fun _ _ => stateEnsures_pure trivial
  unfold openBoard
  apply stateEnsures_bind (resolving_connForBoard boardIndex)
  intro conn _
  cases conn with
  | none => exact stateEnsures_pure trivial
  | some c =>
      apply stateEnsures_bind (resolving_callStruct c (c := .boardOnline 1) trivial)
      intro online _
      apply stateEnsures_ite
      · intro _
        exact hfail _ _
      intro _
      apply stateEnsures_bind
        (resolving_callStruct c (c := .openDescriptor boardDescriptorIn) trivial)
      intro opened _
      apply stateEnsures_ite
      · intro _
        exact hfail _ _
      intro _
      apply stateEnsures_ite
      · intro _
        exact hfail _ _
      intro _
      refine stateEnsures_bind (P := fun _ => True) ?_ fun _ _ => stateEnsures_pure trivial
      exact stateEnsures_ite (fun _ => stateEnsures_pure trivial) fun _ => stateEnsures_modify _

theorem resolving_boardHandle (boardIndex : Int32) : Resolving (boardHandle boardIndex) := by
  unfold boardHandle
  apply stateEnsures_ite
  · intro _
    exact stateEnsures_pure trivial
  intro _
  apply stateEnsures_bind stateEnsures_get
  intro s _
  exact stateEnsures_ite (fun _ => stateEnsures_pure trivial) fun _ => resolving_openBoard _

theorem resolving_handleOf (ud : Int32) : Resolving (handleOf ud) :=
  stateEnsures_ite (fun _ => resolving_boardHandle ud) fun _ => stateEnsures_pure trivial

theorem resolving_ibdev (boardIndex pad sad timo sendEoi eosmode : Int32) :
    Resolving (ibdev boardIndex pad sad timo sendEoi eosmode) := by
  have hreport (ibsta iberr : UInt32) (ret : Int32) : Resolving (do
      setStatus ibsta iberr 0
      return ret) :=
    stateEnsures_bind (resolving_setStatus _ _ _) fun _ _ => stateEnsures_pure trivial
  unfold ibdev
  apply stateEnsures_bind (resolving_boardHandle boardIndex)
  intro h _
  apply stateEnsures_ite
  · intro _
    exact stateEnsures_pure trivial
  intro _
  apply stateEnsures_bind (resolving_connForBoard boardIndex)
  intro conn _
  cases conn with
  | none => exact stateEnsures_pure trivial
  | some c =>
      apply stateEnsures_bind (resolving_callStruct c (c := .openDescriptor _) trivial)
      intro opened _
      apply stateEnsures_ite
      · intro _
        exact hreport _ _ _
      intro _
      exact stateEnsures_ite (fun _ => hreport _ _ _) fun _ => hreport _ _ _

/-! ## What a lookup does -/

/-- A status is left behind, and then a value returned. -/
theorem run_setStatus_return {α : Type} {ibsta iberr : UInt32} {cnt : Nat} {a a' : α}
    {s s' : Process} {u : Trace BrokerCall.Reply}
    (hrun : Run ((do
      setStatus ibsta iberr cnt
      return a).run s) u (a', s')) :
    u = [] ∧ a' = a ∧ s' = { s with ibsta, iberr, ibcntl := cnt } := by
  obtain ⟨v, _, s₁, w, rfl, hv, hw⟩ := run_stateT_bind_iff.mp hrun
  obtain ⟨rfl, heq⟩ := run_modify_iff.mp hv
  cases heq
  obtain ⟨rfl, heq⟩ := run_stateT_pure_iff.mp hw
  cases heq
  exact ⟨rfl, rfl, rfl⟩

/-- The ways in which a board is looked up: what is asked, the connection and the process
behind it. -/
inductive LookedUp (i : Int32) (s : Process) :
    Trace BrokerCall.Reply → Option Int32 → Process → Prop where
  | outOfRange (hi : inRange i = false) :
      LookedUp i s [] none { s with ibsta := Ibsta.err, iberr := Iberr.edvr, ibcntl := 0 }
  | known (hi : inRange i = true) (hknown : s.reachable i = true) : LookedUp i s [] (some i) s
  | absent (hi : inRange i = true) (hunknown : s.reachable i = false) (kr : Int64) (hkr : kr ≠ 0) :
      LookedUp i s [⟨.probe i, kr⟩] none
        { s with ibsta := Ibsta.err, iberr := Iberr.eneb, ibcntl := 0 }
  | found (hi : inRange i = true) (hunknown : s.reachable i = false) :
      LookedUp i s [⟨.probe i, (0 : Int64)⟩] (some i)
        { s with reachable := Function.update s.reachable i true }

theorem lookedUp_of_run {i : Int32} {s s' : Process} {u : Trace BrokerCall.Reply}
    {conn : Option Int32} (hrun : Run ((connForBoard i).run s) u (conn, s')) :
    LookedUp i s u conn s' := by
  unfold connForBoard at hrun
  rcases run_stateT_ite_iff.mp hrun with ⟨hout, hrun⟩ | ⟨hin, hrun⟩
  · obtain ⟨rfl, rfl, rfl⟩ := run_setStatus_return hrun
    exact .outOfRange (by simpa using hout)
  have hi : inRange i = true := by simpa using hin
  obtain ⟨v₁, _, s₁, w₁, rfl, hv₁, hw₁⟩ := run_stateT_bind_iff.mp hrun
  obtain ⟨rfl, heq⟩ := run_get_iff.mp hv₁
  cases heq
  rcases run_stateT_guard_iff.mp hw₁ with ⟨hknown, rfl, ⟨⟩⟩ | ⟨hnot, hw₁⟩
  · exact .known hi hknown
  have hunknown : s.reachable i = false := by simpa using hnot
  obtain ⟨v₂, (kr : Int64), s₂, w₂, rfl, hv₂, hw₂⟩ := run_stateT_bind_iff.mp hw₁
  obtain ⟨rfl, rfl⟩ := run_lift_call_iff.mp hv₂
  rcases run_stateT_ite_iff.mp hw₂ with ⟨hkr, hw₂⟩ | ⟨hkr, hw₂⟩
  · obtain ⟨rfl, rfl, rfl⟩ := run_setStatus_return hw₂
    exact .absent hi hunknown kr hkr
  · obtain rfl : kr = 0 := not_not.mp hkr
    obtain ⟨v₃, _, s₃, w₃, rfl, hv₃, hw₃⟩ := run_stateT_bind_iff.mp hw₂
    obtain ⟨rfl, heq⟩ := run_modify_iff.mp hv₃
    cases heq
    obtain ⟨rfl, heq⟩ := run_stateT_pure_iff.mp hw₃
    cases heq
    exact .found hi hunknown

/-- The handle of a board is the cached one, or that of the board's opening. -/
theorem triple_boardHandle {δ : Type} {serve : δ → Exchange BrokerCall.Reply → δ → Prop}
    {P : Process → δ → Prop} {Q : Int32 → Process → δ → Prop} {i : Int32}
    (hout : ∀ s d, inRange i = false → P s d → Q (-1) s d)
    (hcached : ∀ s d, 0 ≤ s.boardHandles i → P s d → Q (s.boardHandles i) s d)
    (hopen : inRange i = true →
      Triple serve (fun s d => s.boardHandles i < 0 ∧ P s d) (openBoard i) Q) :
    Triple serve P (boardHandle i) Q := by
  unfold boardHandle
  apply triple_ite
  · intro hi
    exact triple_pure fun s d h => hout s d (by simpa using hi) h
  intro hi
  refine triple_bind (Q := fun s p d => s = p ∧ P p d) (triple_get fun s d h => ⟨rfl, h⟩)
    fun s => ?_
  apply triple_ite
  · intro hle
    refine triple_pure ?_
    rintro p d ⟨rfl, h⟩
    exact hcached s d hle h
  · intro hle
    refine (hopen (by simpa using hi)).conseq ?_ fun _ _ _ h => h
    rintro p d ⟨rfl, h⟩
    exact ⟨Int32.not_le.mp hle, h⟩

/-- `callStruct` makes one exchange and succeeds when `kr`, as a kernel code, is 0. All that a
failure can change of the process is that the board becomes unreachable. -/
theorem run_callStruct {conn : Int32} {c : DriverCall} {s s' : Process}
    {u : Trace BrokerCall.Reply} {r : Int32 × Option DriverReply}
    (hrun : Run ((callStruct conn c).run s) u (r, s')) :
    ∃ reply : CallReply, u = [⟨.call conn c, reply⟩] ∧ r.2 = reply.out ∧
      (r.1 = kernSuccess ↔ reply.kr.toInt32 = 0) ∧
      (s' = s ∨ r.1 ≠ kernSuccess ∧
        s' = { s with reachable := Function.update s.reachable conn false }) := by
  unfold callStruct brokerCall at hrun
  obtain ⟨v, reply, s₁, w, rfl, hv, hw⟩ := run_stateT_bind_iff.mp hrun
  obtain ⟨rfl, rfl⟩ := run_lift_call_iff.mp hv
  refine ⟨reply, ?_⟩
  rcases run_stateT_ite_iff.mp hw with ⟨hgone, hw⟩ | ⟨-, hw⟩
  · obtain ⟨x, _, s₂, y, rfl, hx, hy⟩ := run_stateT_bind_iff.mp hw
    obtain ⟨rfl, hs₂⟩ := run_modify_iff.mp hx
    obtain ⟨rfl, heq⟩ := run_stateT_pure_iff.mp hy
    cases hs₂
    cases heq
    have hfailed : kIOReturnNoDevice ≠ kernSuccess := by decide
    refine ⟨rfl, rfl, iff_of_false hfailed ?_, .inr ⟨hfailed, rfl⟩⟩
    rcases hgone with h | h <;> rw [h] <;> decide
  · rcases run_stateT_guard_iff.mp hw with ⟨-, rfl, ⟨⟩⟩ | ⟨hzero, hw⟩
    · exact ⟨rfl, rfl, Iff.rfl, .inl rfl⟩
    · obtain ⟨rfl, heq⟩ := run_stateT_pure_iff.mp hw
      cases heq
      refine ⟨rfl, rfl, iff_of_true rfl ?_, .inl rfl⟩
      rw [not_not.mp hzero]
      rfl

/-- A call that fails changes nothing but which boards are reachable, one that succeeds nothing at
all. -/
theorem triple_callStruct {δ : Type} {serve : δ → Exchange BrokerCall.Reply → δ → Prop}
    {P : Process → δ → Prop} {Q : Int32 × Option DriverReply → Process → δ → Prop} {conn : Int32}
    {c : DriverCall}
    (hfailed : ∀ (reply : CallReply) kr p p' d d', kr ≠ kernSuccess → reply.kr.toInt32 ≠ 0 →
      (p' = p ∨ p' = { p with reachable := Function.update p.reachable conn false }) → P p d →
        serve d ⟨.call conn c, reply⟩ d' → Q (kr, reply.out) p' d')
    (hanswered : ∀ (reply : CallReply) p d d', reply.kr.toInt32 = 0 → P p d →
      serve d ⟨.call conn c, reply⟩ d' → Q (kernSuccess, reply.out) p d') :
    Triple serve P (callStruct conn c) Q := by
  rintro p d u ⟨kr, out⟩ p' d' h hcall hserves
  obtain ⟨reply, rfl, rfl, hkr, hp'⟩ := run_callStruct hcall
  have hserve := serves_singleton_iff.mp hserves
  by_cases hzero : reply.kr.toInt32 = 0
  · obtain rfl : kr = kernSuccess := hkr.mpr hzero
    obtain rfl : p' = p := hp'.resolve_right fun hgone => hgone.1 rfl
    exact hanswered reply p' d d' hzero h hserve
  · exact hfailed reply kr p p' d d' (mt hkr.mp hzero) hzero (hp'.imp_right And.right) h hserve

/-- Looking a board up keeps what depends on the cached handles alone and what a probe keeps. -/
theorem triple_connForBoard {δ : Type} {serve : δ → Exchange BrokerCall.Reply → δ → Prop}
    {P : Process → δ → Prop}
    (hprocess : ∀ p p' d, p'.boardHandles = p.boardHandles → P p d → P p' d)
    (hprobe : ∀ p d i kr d', serve d ⟨.probe i, kr⟩ d' → P p d → P p d') (i : Int32) :
    Triple serve P (connForBoard i) fun _ => P := by
  intro p d u conn p' d' h hrun hserves
  cases lookedUp_of_run hrun with
  | outOfRange _ =>
      rw [serves_nil_iff.mp hserves]
      exact hprocess p _ d rfl h
  | known _ _ =>
      rw [serves_nil_iff.mp hserves]
      exact h
  | absent _ _ kr _ =>
      exact hprocess p _ d' rfl (hprobe p d _ _ d' (serves_singleton_iff.mp hserves) h)
  | found _ _ =>
      exact hprocess p _ d' rfl (hprobe p d _ _ d' (serves_singleton_iff.mp hserves) h)

/-- Where every probe is answered, every board in range is found. -/
theorem triple_connForBoard_isSome {δ : Type} {serve : δ → Exchange BrokerCall.Reply → δ → Prop}
    {P : Process → δ → Prop}
    (hprobe : ∀ d i (kr : Int64) d', serve d ⟨.probe i, kr⟩ d' → kr = 0) (i : Int32) :
    Triple serve P (connForBoard i) fun conn _ _ => conn.isSome = inRange i := by
  intro p d u conn p' d' _ hrun hserves
  cases lookedUp_of_run hrun with
  | outOfRange hi => exact hi.symm
  | known hi _ => exact hi.symm
  | found hi _ => exact hi.symm
  | absent _ _ kr hkr => exact absurd (hprobe _ _ _ _ (serves_singleton_iff.mp hserves)) hkr

/-- A descriptor of a device does not look like a failure. -/
theorem makeUd_not_neg (i handle : Int32) : ¬ makeUd i handle < 0 := by
  have hclear : (makeUd i handle).toBitVec.msb = false := by
    simp [makeUd, deviceTag, handleMask, BitVec.msb_eq_getLsbD_last]
  rw [BitVec.msb_eq_toInt, decide_eq_false_iff_not] at hclear
  exact fun hneg => hclear (Int32.lt_iff_toInt_lt.mp hneg)

/-! ## Calls on a handle -/

section OnHandle

variable {δ α : Type} {serve : δ → Exchange BrokerCall.Reply → δ → Prop}
  {P : Process → δ → Prop} {C : Option Int32 → Process → δ → Prop}
  {H : Int32 → Int32 → Process → δ → Prop}
  {R : Int32 × Option DriverReply → Process → δ → Prop} {Q : α → Process → δ → Prop} {ud : Int32}

/-- What the calls on a handle do once their board is found. -/
theorem triple_throughHandle {conn : Int32} {H : Int32 → Process → δ → Prop}
    (call : Int → DriverCall) {refused : Lib α} {finish : Option DriverReply → Lib α}
    (hhandle : Triple serve P (handleOf ud) H)
    (hcall : ∀ handle, Triple serve (H handle) (callStruct conn (call handle.toInt)) R)
    (hrefused : ∀ kr out, kr ≠ kernSuccess → Triple serve (R (kr, out)) refused Q)
    (hfinish : ∀ out, Triple serve (R (kernSuccess, out)) (finish out) Q) :
    Triple serve P (do
      let handle ← handleOf ud
      let (kr, out) ← callStruct conn (call handle.toInt)
      if kr ≠ kernSuccess then refused else finish out) Q := by
  refine triple_bind hhandle fun handle => ?_
  refine triple_bind (hcall handle) ?_
  rintro ⟨kr, out⟩
  apply triple_ite
  · exact hrefused kr out
  · intro hkr
    obtain rfl : kr = kernSuccess := not_not.mp hkr
    exact hfinish out

theorem triple_onHandle {Q : UInt32 × α → Process → δ → Prop} {call : Int → DriverCall}
    {refused : α} {finish : Option DriverReply → Lib (UInt32 × α)}
    (hconn : Triple serve P (connForBoard (boardOf ud)) C)
    (hnone : ∀ p d, C none p d → Q (Ibsta.err, refused) p d)
    (hhandle : ∀ conn, Triple serve (C (some conn)) (handleOf ud) (H conn))
    (hcall : ∀ conn handle,
      Triple serve (H conn handle) (callStruct conn (call handle.toInt)) R)
    (hrefused : ∀ kr out, kr ≠ kernSuccess →
      Triple serve (R (kr, out)) (returnErr Iberr.edvr) fun ret => Q (ret, refused))
    (hfinish : ∀ out, Triple serve (R (kernSuccess, out)) (finish out) Q) :
    Triple serve P (onHandle ud call refused finish) Q := by
  unfold onHandle
  refine triple_bind hconn ?_
  rintro (_ | conn)
  · exact triple_pure hnone
  · refine triple_throughHandle call (hhandle conn) (hcall conn) (fun kr out hkr => ?_) hfinish
    exact triple_bind (hrefused kr out hkr) fun ret => triple_pure fun _ _ h => h

theorem triple_sendBytes {Q : UInt32 → Process → δ → Prop}
    {call : Int → List UInt8 → DriverCall} {buf : List UInt8} {cnt : Int}
    (hconn : Triple serve P (connForBoard (boardOf ud)) C)
    (hnone : ∀ p d, C none p d → Q Ibsta.err p d)
    (hcount : ∀ conn, cnt < 0 ∨ cnt > kGPIBMaxInlineWrite →
      Triple serve (C (some conn)) (returnErr Iberr.earg) Q)
    (hhandle : ∀ conn, Triple serve (C (some conn)) (handleOf ud) (H conn))
    (hcall : ¬ (cnt < 0 ∨ cnt > kGPIBMaxInlineWrite) → ∀ conn handle,
      Triple serve (H conn handle) (callStruct conn (call handle.toInt (buf.take cnt.toNat))) R)
    (hrefused : ∀ kr out, kr ≠ kernSuccess →
      Triple serve (R (kr, out)) (returnErr Iberr.edvr) Q)
    (hfinish : ∀ out, Triple serve (R (kernSuccess, out)) (do
      setStatus (writeOut out).ibsta (writeOut out).iberr (writeOut out).ibcnt
      return (writeOut out).ibsta) Q) :
    Triple serve P (sendBytes ud call buf cnt) Q := by
  unfold sendBytes
  refine triple_bind hconn ?_
  rintro (_ | conn)
  · exact triple_pure hnone
  · apply triple_ite
    · exact hcount conn
    · intro hcnt
      exact triple_throughHandle (call · (buf.take cnt.toNat)) (hhandle conn) (hcall hcnt conn)
        hrefused hfinish

theorem triple_ibrd {Q : UInt32 × List UInt8 → Process → δ → Prop} {cnt : Int}
    (hconn : Triple serve P (connForBoard (boardOf ud)) C)
    (hnone : ∀ p d, C none p d → Q (Ibsta.err, []) p d)
    (hcount : ∀ conn, cnt < 0 →
      Triple serve (C (some conn)) (returnErr Iberr.earg) fun ret => Q (ret, []))
    (hhandle : ∀ conn, Triple serve (C (some conn)) (handleOf ud) (H conn))
    (hcall : ∀ conn handle n,
      Triple serve (H conn handle) (callStruct conn (.read handle.toInt n)) R)
    (hrefused : ∀ kr out, kr ≠ kernSuccess →
      Triple serve (R (kr, out)) (returnErr Iberr.edvr) fun ret => Q (ret, []))
    (hfinish : ∀ out n, Triple serve (R (kernSuccess, out)) (do
      setStatus (readOut out).1.ibsta (readOut out).1.iberr (readOut out).1.ibcnt
      return ((readOut out).1.ibsta, receivedBytes n (readOut out))) Q) :
    Triple serve P (ibrd ud cnt) Q := by
  unfold ibrd
  refine triple_bind hconn ?_
  rintro (_ | conn)
  · exact triple_pure hnone
  · apply triple_ite
    · intro hcnt
      exact triple_bind (hcount conn hcnt) fun ret => triple_pure fun _ _ h => h
    · intro _
      refine triple_throughHandle (.read · (min cnt.toNat UserClient.kGPIBMaxInlineRead))
        (hhandle conn) (fun handle => hcall conn handle _) (fun kr out hkr => ?_)
        fun out => hfinish out _
      exact triple_bind (hrefused kr out hkr) fun ret => triple_pure fun _ _ h => h

end OnHandle

theorem run_returnErr {iberr ret : UInt32} {s s' : Process} {u : Trace BrokerCall.Reply}
    (hrun : Run ((returnErr iberr).run s) u (ret, s')) : u = [] ∧ ret = Ibsta.err := by
  obtain ⟨v, _, s₁, w, rfl, hv, hw⟩ := run_stateT_bind_iff.mp hrun
  obtain ⟨rfl, -⟩ := run_modify_iff.mp hv
  obtain ⟨rfl, heq⟩ := run_stateT_pure_iff.mp hw
  cases heq
  exact ⟨rfl, rfl⟩

end Libgpib

end DarwinGpib
