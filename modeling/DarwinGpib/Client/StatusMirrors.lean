import DarwinGpib.Client.StatusVector

/-!
# The status vector mirrors the layer that decided

After a library call over a driver selector, `ibsta` and `iberr` are the driver's if the driver
answered, and an error of this call if it did not. Some calls clear `iberr`, one closes whatever
the answer was, one makes two calls, and two say nothing of an index that names no board.
-/

namespace DarwinGpib

open Interaction UserClient

namespace Libgpib

/-! ## The law -/

/-- The calls that are made over a driver selector: all but those on files. -/
def LibCall.OverSelector : LibCall → Prop
  | ibwrtf _ _ | ibrdf _ _ _ _ => False
  | _ => True

/-- The return values that report a failure. -/
def LibCall.ReportsFailure (c : LibCall) (ret : Int32) : Prop :=
  match c with
  | ibdev _ _ _ _ _ _ | ibfind _ => ret = -1
  | _ => ret.toUInt32 &&& Ibsta.err ≠ 0

/-- `ERR` is set, and the same vector would be left behind by this call whatever it was before. -/
def ErrSetBy (c : LibCall) (p : Process) (u : Trace BrokerCall.Reply) (ret : Int32)
    (p' : Process) : Prop :=
  p'.ibsta &&& Ibsta.err ≠ 0 ∧ ∀ v, Run (c.exec.run (p.withVector v)) u (ret, p')

/-- A status is the one that the process shows. -/
def Shown (s : Status) (p : Process) : Prop := p.ibsta = s.ibsta ∧ p.iberr = s.iberr

/-- The vector after a call mirrors the layer that decided its outcome. -/
structure Mirrors (c : LibCall) (p : Process) (u : Trace BrokerCall.Reply) (ret : Int32)
    (p' : Process) : Prop where
  answered : ∀ call out, decision u = .driver call out → Shown (statusIn call out) p'
  lost : (decision u).Lost → ErrSetBy c p u ret p'
  reported : c.ReportsFailure ret → ErrSetBy c p u ret p'

/-- The name or index is that of a board. -/
def LibCall.NamesBoard : LibCall → Prop
  | ibdev boardIndex _ _ _ _ _ => inRange boardIndex = true
  | ibfind name => ∃ cs, name = some cs ∧ cs ≠ [] ∧ inRange (boardIndexOf cs) = true
  | _ => True

/-- The answers to the first call of `ibeos`. -/
def eosCharReplies (u : Trace BrokerCall.Reply) : List CallReply :=
  u.filterMap fun
    | ⟨.call _ (.configure _ key _), (reply : CallReply)⟩ =>
        if key = Ibc.eosChar then some reply else none
    | _ => none

/-- The driver did not answer, or reported an error. -/
def CallReply.Failed (reply : CallReply) : Prop :=
  reply.kr.toInt32 ≠ 0 ∨ (statusOut reply.out).ibsta &&& Ibsta.err ≠ 0

/-- What a call takes of the broker's answers. -/
def LibCall.AnswersSuit (c : LibCall) (u : Trace BrokerCall.Reply) : Prop :=
  match c with
  | ibdev _ _ _ _ _ _ => ∀ call out, decision u = .driver call out →
      if (openDescriptorOut out).1 < 0 then (openDescriptorOut out).2.ibsta &&& Ibsta.err ≠ 0
      else (openDescriptorOut out).2.iberr = 0
  | ibfind _ => ∀ call out, decision u = .driver call out →
      if (openDescriptorOut out).1 < 0 then (openDescriptorOut out).2.ibsta &&& Ibsta.err ≠ 0
      else (openDescriptorOut out).2 = ⟨Ibsta.cmpl ||| Ibsta.cic ||| Ibsta.rem, 0⟩
  | ibonl _ _ => ∀ call out, decision u = .refused call out →
      (statusIn call out).ibsta &&& Ibsta.err ≠ 0
  | ibclr _ | ibsic _ | ibtrg _ | ibloc _ => ∀ call out, decision u = .driver call out →
      (statusIn call out).iberr = 0
  | ibeos _ _ => (∀ reply ∈ eosCharReplies u, reply.Failed) →
      ∀ call out, decision u = .driver call out → (statusIn call out).ibsta &&& Ibsta.err ≠ 0
  | _ => True

/-! ## Every named board gets a vector -/

theorem writes_ofStatus {x : Lib UInt32} (h : Writes x fun _ => True) :
    Writes (ofStatus x) fun _ => True :=
  overwrites_bind h fun _ hnot => absurd trivial hnot

theorem writes_withStatus {α : Type} {x : Lib (UInt32 × α)} (h : Writes x fun _ => True) :
    Writes (withStatus x) fun _ => True :=
  overwrites_bind h fun _ hnot => absurd trivial hnot

theorem writes_exec {c : LibCall} (hsel : c.OverSelector) (hnames : c.NamesBoard) :
    Writes c.exec fun _ => True := by
  cases c with
  | ibdev i pad sad timo eoi eos => exact writes_ibdev hnames _ _ _ _ _
  | ibfind name =>
      obtain ⟨cs, rfl, hne, hi⟩ := hnames
      exact writes_ibfind hne hi
  | ibonl ud onl => exact writes_ofStatus (writes_ibonl ud onl)
  | ibpad ud v => exact writes_ofStatus (writes_statusCall _ _)
  | ibsad ud v => exact writes_ofStatus (writes_statusCall _ _)
  | ibtmo ud v => exact writes_ofStatus (writes_statusCall _ _)
  | ibeot ud v => exact writes_ofStatus (writes_statusCall _ _)
  | ibeos ud v =>
      refine writes_ofStatus (overwrites_bind (writes_statusCall _ _) fun _ h => ?_)
      exact absurd trivial h
  | ibconfig ud option value => exact writes_ofStatus (writes_statusCall _ _)
  | ibask ud option => exact writes_withStatus (writes_onHandle fun _ => writes_finish _ _ _ _ _)
  | ibwrt ud buf cnt => exact writes_ofStatus (writes_sendBytes _ _ _ _)
  | ibrd ud cnt => exact writes_withStatus (writes_ibrd _ _)
  | ibcmd ud cmd cnt => exact writes_ofStatus (writes_sendBytes _ _ _ _)
  | ibclr ud => exact writes_ofStatus (writes_simpleHandleCall _ _)
  | ibsic ud => exact writes_ofStatus (writes_simpleHandleCall _ _)
  | ibtrg ud => exact writes_ofStatus (writes_simpleHandleCall _ _)
  | ibloc ud => exact writes_ofStatus (writes_simpleHandleCall _ _)
  | ibsre ud v => exact writes_ofStatus (writes_statusCall _ _)
  | ibwait ud mask => exact writes_ofStatus (writes_statusCall _ _)
  | ibrsp ud => exact writes_withStatus (writes_onHandle fun _ => writes_finish _ _ _ _ _)
  | iblines ud => exact writes_withStatus (writes_onHandle fun _ => writes_finish _ _ _ _ _)
  | ibln ud pad sad =>
      exact writes_withStatus (writes_onHandle fun _ => writes_finish _ _ _ _ _)
  | ibwrtf ud file => exact hsel.elim
  | ibrdf ud opened fuel buf => exact hsel.elim

/-! ## What the last exchange leaves behind -/

/-- What a part of a library call leaves behind, with its exchanges so far. -/
abbrev Ends {α : Type} (P : Trace BrokerCall.Reply → Prop) (x : Lib α)
    (Q : α → Process → Trace BrokerCall.Reply → Prop) : Prop :=
  Triple Recording (fun _ past => P past) x Q

variable {P : Trace BrokerCall.Reply → Prop}

/-- Leaving a status behind, and then a value. -/
theorem ends_finish {α : Type} (ibsta iberr : UInt32) (cnt : Nat) (a : α)
    {Q : α → Process → Trace BrokerCall.Reply → Prop}
    (hQ : ∀ p past, p.ibsta = ibsta → p.iberr = iberr → p.ibcntl = cnt → P past → Q a p past) :
    Ends P (do
      setStatus ibsta iberr cnt
      return a) Q := by
  refine triple_bind (Q := fun _ p past =>
    p.ibsta = ibsta ∧ p.iberr = iberr ∧ p.ibcntl = cnt ∧ P past) ?_ fun _ => ?_
  · exact triple_modify fun p past h => ⟨rfl, rfl, rfl, h⟩
  · exact triple_pure fun p past h => hQ p past h.1 h.2.1 h.2.2.1 h.2.2.2

/-- A board that is not found has just been asked for, or is out of range. -/
theorem ends_connForBoard (i : Int32) :
    Ends P (connForBoard i) fun conn p past =>
      (conn = none → p.ibsta = Ibsta.err ∧ p.ibcntl = 0 ∧
        (inRange i = false ∧ P past ∨ decision past = .unreachable)) ∧
      (conn ≠ none → P past ∨ decision past = .nobody) := by
  intro p past u conn p' past' h hrun hserves
  cases lookedUp_of_run hrun with
  | outOfRange hi =>
      rw [serves_nil_iff.mp hserves]
      exact ⟨fun _ => ⟨rfl, rfl, .inl ⟨hi, h⟩⟩, by simp⟩
  | known _ _ =>
      rw [serves_nil_iff.mp hserves]
      exact ⟨by simp, fun _ => .inl h⟩
  | absent _ _ kr hkr =>
      obtain rfl := serves_recording_iff.mp hserves
      refine ⟨fun _ => ⟨rfl, rfl, .inr ?_⟩, by simp⟩
      simp [decision_concat, decisionOf, hkr]
  | found _ _ =>
      obtain rfl := serves_recording_iff.mp hserves
      refine ⟨by simp, fun _ => .inr ?_⟩
      simp [decision_concat, decisionOf]

/-- What a call of the driver decides. -/
def callDecision (c : DriverCall) (r : Int32 × Option DriverReply) : Decision :=
  if r.1 = kernSuccess then .driver c r.2 else .refused c r.2

theorem ends_callStruct (conn : Int32) (c : DriverCall) :
    Ends P (callStruct conn c) fun r _ past => decision past = callDecision c r := by
  intro p past u r p' past' _ hrun hserves
  obtain ⟨reply, rfl, hout, hkr, -⟩ := run_callStruct hrun
  obtain rfl := serves_recording_iff.mp hserves
  rw [decision_concat, callDecision, hout, decisionOf]
  simp only [hkr]

/-- A call that is not made, or not answered, is an error. -/
theorem ends_returnErr (iberr : UInt32) :
    Ends P (returnErr iberr) fun ret p past =>
      ret = Ibsta.err ∧ p.ibsta = Ibsta.err ∧ p.iberr = iberr ∧ p.ibcntl = 0 ∧ P past :=
  ends_finish _ _ _ _ fun _ _ hsta herr hcnt h => ⟨rfl, hsta, herr, hcnt, h⟩

theorem ends_returnOk (ibsta : UInt32) :
    Ends P (returnOk ibsta 0) fun ret p past =>
      ret = ibsta ∧ p.ibsta = ibsta ∧ p.iberr = 0 ∧ P past :=
  ends_finish _ _ _ _ fun _ _ hsta herr _ h => ⟨rfl, hsta, herr, h⟩

/-- The driver has not answered. -/
def Unanswered (past : Trace BrokerCall.Reply) : Prop :=
  ∀ c out, decision past ≠ .driver c out

theorem unanswered_of_unasked {past : Trace BrokerCall.Reply}
    (h : past = [] ∨ decision past = .nobody) : Unanswered past := by
  rcases h with rfl | hnobody
  · simp [Unanswered]
  · simp [Unanswered, hnobody]

theorem unanswered_of_not_found {p : Prop} {past : Trace BrokerCall.Reply}
    (h : p ∧ past = [] ∨ decision past = .unreachable) : Unanswered past := by
  rcases h with ⟨-, rfl⟩ | hunreachable
  · simp [Unanswered]
  · simp [Unanswered, hunreachable]

theorem unanswered_of_refused {past : Trace BrokerCall.Reply} {c : DriverCall}
    {r : Int32 × Option DriverReply} (h : decision past = callDecision c r)
    (hkr : r.1 ≠ kernSuccess) : Unanswered past := by
  simp [Unanswered, h, callDecision, hkr]

/-- The driver has answered once. -/
theorem forall_driver_iff {u : Trace BrokerCall.Reply} {c : DriverCall}
    {out : Option DriverReply} (hdecision : decision u = .driver c out)
    {R : DriverCall → Option DriverReply → Prop} :
    (∀ c' out', decision u = .driver c' out' → R c' out') ↔ R c out := by
  simp [hdecision]

theorem not_lost_of_driver {u : Trace BrokerCall.Reply} {c : DriverCall}
    {out : Option DriverReply} (hdecision : decision u = .driver c out) : ¬ (decision u).Lost := by
  simp [hdecision, Decision.Lost]

theorem ends_onHandle {α : Type} {ud : Int32} {call : Int → DriverCall} {refused : α}
    {finish : Option DriverReply → Lib (UInt32 × α)}
    {Q : UInt32 × α → Process → Trace BrokerCall.Reply → Prop}
    (hlost : ∀ p past, p.ibsta = Ibsta.err → Unanswered past → Q (Ibsta.err, refused) p past)
    (hfinish : ∀ h out, Ends (fun past => decision past = .driver (call h) out) (finish out) Q) :
    Ends (fun past => past = [] ∨ inRange (boardOf ud) = true)
      (onHandle ud call refused finish) Q := by
  refine triple_onHandle (R := fun r _ past => ∃ handle : Int32,
      decision past = callDecision (call handle.toInt) r) (ends_connForBoard _) ?_
    (fun _ => triple_trivial _) (fun c handle => ?_) (fun kr out hkr => ?_) fun out => ?_
  · intro p past h
    obtain ⟨hsta, -, ⟨hout, rfl | hin⟩ | hunreachable⟩ := h.1 rfl
    · exact hlost p [] hsta (by simp [Unanswered])
    · rw [hin] at hout
      cases hout
    · exact hlost p past hsta (by simp [Unanswered, hunreachable])
  · exact (ends_callStruct c _).conseq (fun _ _ h => h) fun _ _ _ h => ⟨handle, h⟩
  · refine (ends_returnErr _).conseq (fun _ _ h => h) fun ret p past h => ?_
    obtain ⟨rfl, hsta, -, -, handle, hdecision⟩ := h
    exact hlost p past hsta (unanswered_of_refused hdecision hkr)
  · rintro p past u r p' past' ⟨handle, hdecision⟩
    rw [callDecision, if_pos rfl] at hdecision
    exact hfinish handle.toInt out p past u r p' past' hdecision

/-! ## Calls that mirror -/

/-- The return value and the vector are those of the layer that decided. -/
structure Reflects (ret : UInt32) (p : Process) (past : Trace BrokerCall.Reply) : Prop where
  ret_eq : ret = p.ibsta
  answered : ∀ c out, decision past = .driver c out → Shown (statusIn c out) p
  lost : (decision past).Lost → p.ibsta &&& Ibsta.err ≠ 0

/-- A call that the driver does not answer. -/
theorem reflects_of_unanswered {p : Process} {past : Trace BrokerCall.Reply}
    (hsta : p.ibsta = Ibsta.err) (h : Unanswered past) : Reflects Ibsta.err p past where
  ret_eq := hsta.symm
  answered c out hdecision := absurd hdecision (h c out)
  lost _ := by rw [hsta]; decide

theorem reflects_of_driver {p : Process} {past : Trace BrokerCall.Reply} {c : DriverCall}
    {out : Option DriverReply} (h : decision past = .driver c out)
    (hshown : Shown (statusIn c out) p) : Reflects (statusIn c out).ibsta p past where
  ret_eq := hshown.1.symm
  answered := (forall_driver_iff h).mpr hshown
  lost hlost := absurd hlost (not_lost_of_driver h)

/-- A board that was found, and a call that it was not asked. -/
theorem ends_unasked (iberr : UInt32) :
    Ends (fun past => past = [] ∨ decision past = .nobody) (returnErr iberr) Reflects := by
  refine (ends_returnErr iberr).conseq (fun _ _ h => h) fun ret p past h => ?_
  obtain ⟨rfl, hsta, -, -, hunasked⟩ := h
  exact reflects_of_unanswered hsta (unanswered_of_unasked hunasked)

/-- A call that the driver was not given. -/
theorem ends_refused {r : Int32 × Option DriverReply} (hkr : r.1 ≠ kernSuccess) :
    Ends (fun past => ∃ c, decision past = callDecision c r) (returnErr Iberr.edvr) Reflects := by
  refine (ends_returnErr _).conseq (fun _ _ h => h) fun ret p past h => ?_
  obtain ⟨rfl, hsta, -, -, c, hdecision⟩ := h
  exact reflects_of_unanswered hsta (unanswered_of_refused hdecision hkr)

/-- A call that reports the status of the driver, and a value with it. -/
theorem ends_reporting {α : Type} {ud : Int32} {call : Int → DriverCall} {refused : α}
    {status : Option DriverReply → Status} {value : Option DriverReply → α}
    (hcall : ∀ h out, statusIn (call h) out = status out) :
    Ends (fun past => past = [] ∨ inRange (boardOf ud) = true)
      (onHandle ud call refused fun out => do
        setStatus (status out).ibsta (status out).iberr 0
        return ((status out).ibsta, value out)) fun r => Reflects r.1 := by
  refine ends_onHandle (fun p past hsta h => reflects_of_unanswered hsta h) fun h out => ?_
  refine ends_finish _ _ _ _ fun p past hsta herr _ hdecision => ?_
  rw [← hcall h out] at hsta herr ⊢
  exact reflects_of_driver hdecision ⟨hsta, herr⟩

theorem ends_statusCall {ud : Int32} {call : Int → DriverCall}
    (hcall : ∀ h out, statusIn (call h) out = statusOut out) :
    Ends (fun past => past = [] ∨ inRange (boardOf ud) = true) (statusCall ud call) Reflects :=
  triple_bind (ends_reporting hcall) fun _ => triple_pure fun _ _ h => h

theorem ends_sendBytes {ud : Int32} {call : Int → List UInt8 → DriverCall}
    (hcall : ∀ h bytes out, statusIn (call h bytes) out = (writeOut out).toStatus)
    (buf : List UInt8) (cnt : Int) :
    Ends (fun past => past = []) (sendBytes ud call buf cnt) Reflects := by
  refine triple_sendBytes (R := fun r _ past => ∃ handle : Int32,
      decision past = callDecision (call handle.toInt (buf.take cnt.toNat)) r)
    (ends_connForBoard _) ?_ (fun c _ => ?_) (fun _ => triple_trivial _) (fun _ c handle => ?_)
    (fun kr out hkr => ?_) fun out => ?_
  · intro p past h
    obtain ⟨hsta, -, hmissing⟩ := h.1 rfl
    exact reflects_of_unanswered hsta (unanswered_of_not_found hmissing)
  · exact (ends_unasked _).conseq (fun p past h => h.2 (by simp)) fun _ _ _ h => h
  · exact (ends_callStruct c _).conseq (fun _ _ h => h) fun _ _ _ h => ⟨handle, h⟩
  · exact (ends_refused hkr).conseq (fun _ _ ⟨_, h⟩ => ⟨_, h⟩) fun _ _ _ h => h
  · refine ends_finish _ _ _ _ fun p past hsta herr _ ⟨handle, hdecision⟩ => ?_
    rw [callDecision, if_pos rfl] at hdecision
    rw [← hcall handle.toInt (buf.take cnt.toNat) out] at hsta herr ⊢
    exact reflects_of_driver hdecision ⟨hsta, herr⟩

theorem ends_ibrd (ud : Int32) (cnt : Int) :
    Ends (fun past => past = []) (ibrd ud cnt) fun r => Reflects r.1 := by
  refine triple_ibrd (R := fun r _ past => ∃ (handle : Int32) (n : Nat),
      decision past = callDecision (.read handle.toInt n) r)
    (ends_connForBoard _) ?_ (fun c _ => ?_) (fun _ => triple_trivial _) (fun c handle n => ?_)
    (fun kr out hkr => ?_) fun out n => ?_
  · intro p past h
    obtain ⟨hsta, -, hmissing⟩ := h.1 rfl
    exact reflects_of_unanswered hsta (unanswered_of_not_found hmissing)
  · exact (ends_unasked _).conseq (fun p past h => h.2 (by simp)) fun _ _ _ h => h
  · exact (ends_callStruct c _).conseq (fun _ _ h => h) fun _ _ _ h => ⟨handle, n, h⟩
  · exact (ends_refused hkr).conseq (fun _ _ ⟨_, _, h⟩ => ⟨_, h⟩) fun _ _ _ h => h
  · refine ends_finish _ _ _ _ fun p past hsta herr _ ⟨handle, n, hdecision⟩ => ?_
    rw [callDecision, if_pos rfl] at hdecision
    exact reflects_of_driver hdecision ⟨hsta, herr⟩

/-- A vector that reflects the outcome mirrors it, if the call wrote one. -/
theorem Reflects.mirrors {c : LibCall} {p p' : Process} {u : Trace BrokerCall.Reply}
    {ret : Int32} (hwrites : Writes c.exec fun _ => True)
    (hfailure : c.ReportsFailure ret → ret.toUInt32 &&& Ibsta.err ≠ 0)
    (hrun : Run (c.exec.run p) u (ret, p')) (h : Reflects ret.toUInt32 p' u) :
    Mirrors c p u ret p' where
  answered := h.answered
  lost hlost := ⟨h.lost hlost, hwrites.run hrun trivial⟩
  reported hreported := ⟨h.ret_eq ▸ hfailure hreported, hwrites.run hrun trivial⟩

theorem ends_ofStatus {x : Lib UInt32} {Q : UInt32 → Process → Trace BrokerCall.Reply → Prop}
    (h : Ends P x Q) : Ends P (ofStatus x) fun ret => Q ret.toUInt32 :=
  triple_bind h fun _ => triple_pure fun _ _ h => by simpa using h

theorem ends_withStatus {α : Type} {x : Lib (UInt32 × α)}
    {Q : UInt32 → Process → Trace BrokerCall.Reply → Prop}
    (h : Ends P x fun r => Q r.1) : Ends P (withStatus x) fun ret => Q ret.toUInt32 :=
  triple_bind h fun _ => triple_pure fun _ _ h => by simpa using h

/-! ## Calls that clear the error register -/

/-- `ibsta` is the driver's and `iberr` is 0. -/
structure Clears (ret : UInt32) (p : Process) (past : Trace BrokerCall.Reply) : Prop where
  ret_eq : ret = p.ibsta
  answered : ∀ c out, decision past = .driver c out →
    p.ibsta = (statusIn c out).ibsta ∧ p.iberr = 0
  lost : (decision past).Lost → p.ibsta &&& Ibsta.err ≠ 0

theorem ends_simpleHandleCall {ud : Int32} {call : Int → DriverCall}
    (hcall : ∀ h out, statusIn (call h) out = statusOut out) :
    Ends (fun past => past = [] ∨ inRange (boardOf ud) = true) (simpleHandleCall ud call)
      Clears := by
  refine triple_bind (ends_onHandle (Q := fun r => Clears r.1) (fun p past hsta h => ?_)
    fun h out => ?_) fun _ => triple_pure fun _ _ h => h
  · have hreflects := reflects_of_unanswered hsta h
    exact ⟨hreflects.ret_eq, fun c out hdecision => absurd hdecision (h c out), hreflects.lost⟩
  · refine triple_bind (ends_returnOk _) fun ret => triple_pure fun p past hp => ?_
    obtain ⟨rfl, hsta, herr, hdecision⟩ := hp
    refine ⟨hsta.symm, (forall_driver_iff hdecision).mpr ⟨by rw [hsta, hcall], herr⟩, ?_⟩
    exact fun hlost => absurd hlost (not_lost_of_driver hdecision)

/-- Such a call mirrors the driver's status if and only if that has no error. -/
theorem Clears.mirrors_iff {c : LibCall} {p p' : Process} {u : Trace BrokerCall.Reply}
    {ret : Int32} (hwrites : Writes c.exec fun _ => True)
    (hfailure : c.ReportsFailure ret → ret.toUInt32 &&& Ibsta.err ≠ 0)
    (hrun : Run (c.exec.run p) u (ret, p')) (h : Clears ret.toUInt32 p' u) :
    Mirrors c p u ret p' ↔ ∀ call out, decision u = .driver call out →
      (statusIn call out).iberr = 0 := by
  constructor
  · intro hmirrors call out hdecision
    rw [← (hmirrors.answered call out hdecision).2, (h.answered call out hdecision).2]
  · intro hclear
    refine Reflects.mirrors hwrites hfailure hrun ⟨h.ret_eq, fun call out hdecision => ?_, h.lost⟩
    obtain ⟨hsta, herr⟩ := h.answered call out hdecision
    exact ⟨hsta, herr.trans (hclear call out hdecision).symm⟩

/-! ## Closing -/

/-- The vector after `ibonl`: an unanswered close leaves what the output structure holds. -/
structure Closes (ret : UInt32) (p : Process) (past : Trace BrokerCall.Reply) : Prop where
  ret_eq : ret = p.ibsta
  answered : ∀ c out, decision past = .driver c out → Shown (statusIn c out) p
  refused : ∀ c out, decision past = .refused c out → p.ibsta = (statusIn c out).ibsta
  unreachable : decision past = .unreachable → p.ibsta = Ibsta.err

theorem ends_ibonl (ud onl : Int32) :
    Ends (fun past => past = []) (ibonl ud onl) Closes := by
  unfold ibonl
  refine triple_bind (ends_connForBoard _) fun conn => ?_
  cases conn with
  | none =>
      refine triple_pure fun p past h => ?_
      obtain ⟨hsta, -, ⟨-, rfl⟩ | hunreachable⟩ := h.1 rfl
      · exact ⟨hsta.symm, by simp, by simp, by simp⟩
      · exact ⟨hsta.symm, by simp [hunreachable], by simp [hunreachable], fun _ => hsta⟩
  | some c =>
      apply triple_ite
      · intro _
        refine triple_bind (triple_trivial _) fun handle => ?_
        refine triple_bind (ends_callStruct c _) fun r => ?_
        refine ends_finish _ _ _ _ fun p past hsta herr _ hdecision => ?_
        rw [callDecision] at hdecision
        split at hdecision
        · refine ⟨hsta.symm, fun c' out h => ?_, by simp [hdecision], by simp [hdecision]⟩
          rw [hdecision] at h
          cases h
          exact ⟨hsta, herr⟩
        · refine ⟨hsta.symm, by simp [hdecision], fun c' out h => ?_, by simp [hdecision]⟩
          rw [hdecision] at h
          cases h
          exact hsta
      · intro _
        refine (ends_returnOk (P := fun past => past = [] ∨ decision past = .nobody) _).conseq
          (fun p past h => h.2 (by simp)) fun ret p past h => ?_
        obtain ⟨rfl, hsta, -, rfl | hnobody⟩ := h
        · exact ⟨hsta.symm, by simp, by simp, by simp⟩
        · exact ⟨hsta.symm, by simp [hnobody], by simp [hnobody], by simp [hnobody]⟩

/-- Closing mirrors the outcome if and only if an unanswered close holds an error. -/
theorem Closes.mirrors_iff {c : LibCall} {p p' : Process} {u : Trace BrokerCall.Reply}
    {ret : Int32} (hwrites : Writes c.exec fun _ => True)
    (hfailure : c.ReportsFailure ret → ret.toUInt32 &&& Ibsta.err ≠ 0)
    (hrun : Run (c.exec.run p) u (ret, p')) (h : Closes ret.toUInt32 p' u) :
    Mirrors c p u ret p' ↔ ∀ call out, decision u = .refused call out →
      (statusIn call out).ibsta &&& Ibsta.err ≠ 0 := by
  constructor
  · intro hmirrors call out hdecision
    rw [← h.refused call out hdecision]
    exact (hmirrors.lost (by rw [hdecision]; trivial)).1
  · intro herr
    refine Reflects.mirrors hwrites hfailure hrun ⟨h.ret_eq, h.answered, fun hlost => ?_⟩
    cases hdecision : decision u with
    | nobody => rw [hdecision] at hlost; exact hlost.elim
    | unreachable => rw [h.unreachable hdecision]; decide
    | refused call out => rw [h.refused call out hdecision]; exact herr call out hdecision
    | driver call out => rw [hdecision] at hlost; exact hlost.elim

/-! ## Setting the end-of-string mode -/

@[simp] theorem eosCharReplies_append (u v : Trace BrokerCall.Reply) :
    eosCharReplies (u ++ v) = eosCharReplies u ++ eosCharReplies v :=
  List.filterMap_append

theorem eosCharReplies_of_resolves {u : Trace BrokerCall.Reply}
    (h : ∀ e ∈ u, e.request.Resolves) : eosCharReplies u = [] := by
  apply List.filterMap_eq_nil_iff.mpr
  intro e he
  have hresolves := h e he
  obtain ⟨i, r⟩ := e
  cases i with
  | probe board => rfl
  | call board c => cases c <;> first | rfl | exact hresolves.elim

/-- A call of which only the status is used makes that call behind looking its board up, or
fails in looking it up. -/
theorem run_statusCall {ud : Int32} {call : Int → DriverCall} {p p' : Process}
    {u : Trace BrokerCall.Reply} {ret : UInt32}
    (hrun : Run ((statusCall ud call).run p) u (ret, p')) :
    (∀ e ∈ u, e.request.Resolves) ∧ ret = Ibsta.err ∨
      ∃ v conn h reply, u = v ++ [⟨.call conn (call h), reply⟩] ∧
        (∀ e ∈ v, e.request.Resolves) ∧ (ret &&& Ibsta.err ≠ 0 ↔ CallReply.Failed reply) := by
  obtain ⟨w₀, ⟨ret₀, _⟩, p₀, w, rfl, hrun, hw⟩ := run_stateT_bind_iff.mp hrun
  obtain ⟨rfl, heq⟩ := run_stateT_pure_iff.mp hw
  cases heq
  rw [List.append_nil]
  obtain ⟨v₁, conn, p₁, w₁, rfl, hv₁, hw₁⟩ := run_stateT_bind_iff.mp hrun
  have hresolves₁ := ((resolving_connForBoard _).of_run hv₁).1
  simp only [not_not] at hresolves₁
  cases conn with
  | none =>
      obtain ⟨rfl, heq⟩ := run_stateT_pure_iff.mp hw₁
      cases heq
      rw [List.append_nil]
      exact .inl ⟨hresolves₁, rfl⟩
  | some c =>
      obtain ⟨v₂, handle, p₂, w₂, rfl, hv₂, hw₂⟩ := run_stateT_bind_iff.mp hw₁
      have hresolves₂ := ((resolving_handleOf _).of_run hv₂).1
      simp only [not_not] at hresolves₂
      obtain ⟨v₃, ⟨kr, out⟩, p₃, w₃, rfl, hv₃, hw₃⟩ := run_stateT_bind_iff.mp hw₂
      obtain ⟨reply, rfl, hout, hkr, -⟩ := run_callStruct hv₃
      simp only at hout hkr
      have hresolves : ∀ e ∈ v₁ ++ v₂, e.request.Resolves := by
        intro e he
        rcases List.mem_append.mp he with he | he
        · exact hresolves₁ e he
        · exact hresolves₂ e he
      refine .inr ⟨v₁ ++ v₂, c, handle.toInt, reply, ?_⟩
      rcases run_stateT_ite_iff.mp hw₃ with ⟨hne, hw₃⟩ | ⟨hok, hw₃⟩
      · obtain ⟨x, ret₁, p₄, y, rfl, hx, hy⟩ := run_stateT_bind_iff.mp hw₃
        obtain ⟨rfl, rfl⟩ := run_returnErr hx
        obtain ⟨rfl, heq⟩ := run_stateT_pure_iff.mp hy
        cases heq
        refine ⟨by simp, hresolves, iff_of_true (by decide) (.inl ?_)⟩
        exact fun hzero => hne (hkr.mpr hzero)
      · obtain ⟨x, _, p₄, y, rfl, hx, hy⟩ := run_stateT_bind_iff.mp hw₃
        obtain ⟨rfl, -⟩ := run_modify_iff.mp hx
        obtain ⟨rfl, heq⟩ := run_stateT_pure_iff.mp hy
        cases heq
        refine ⟨by simp, hresolves, ?_⟩
        rw [hout, CallReply.Failed, hkr.mp (not_not.mp hok)]
        simp

theorem run_connForBoard_out {i : Int32} (hout : ¬ inRange i = true) {p p' : Process}
    {u : Trace BrokerCall.Reply} {conn : Option Int32}
    (hrun : Run ((connForBoard i).run p) u (conn, p')) : u = [] ∧ conn = none := by
  cases lookedUp_of_run hrun with
  | outOfRange _ => exact ⟨rfl, rfl⟩
  | known hi _ => exact absurd hi hout
  | absent hi _ _ _ => exact absurd hi hout
  | found hi _ => exact absurd hi hout

/-- The first part of `ibeos` returns an error just when its call has failed. -/
theorem ends_configure_eosChar (ud value : Int32) :
    Ends (fun past => past = []) (configure ud Ibc.eosChar value) fun ret _ past =>
      (past = [] ∨ inRange (boardOf ud) = true) ∧
        (ret &&& Ibsta.err ≠ 0 ↔ ∀ reply ∈ eosCharReplies past, reply.Failed) := by
  rintro p past u ret p' past' rfl hrun hserves
  obtain rfl := serves_recording_iff.mp hserves
  constructor
  · by_cases hin : inRange (boardOf ud) = true
    · exact .inr hin
    · obtain ⟨r, hcalled, -⟩ := run_stateT_bind_pure_iff.mp hrun
      obtain ⟨v, conn, p₁, w, rfl, hv, hw⟩ := run_stateT_bind_iff.mp hcalled
      obtain ⟨rfl, rfl⟩ := run_connForBoard_out hin hv
      exact .inl (run_stateT_pure_iff.mp hw).1
  · rcases run_statusCall hrun with ⟨hresolves, rfl⟩ | ⟨v, conn, h, reply, rfl, hresolves, hiff⟩
    · rw [eosCharReplies_of_resolves hresolves]
      exact iff_of_true (by decide) (by simp)
    · rw [hiff, eosCharReplies_append, eosCharReplies_of_resolves hresolves]
      simp [eosCharReplies]

/-- The second part leaves the answers to the first alone. -/
theorem ends_configure_eosRd (ud value : Int32) (R : List CallReply → Prop) :
    Ends (fun past => R (eosCharReplies past)) (configure ud Ibc.eosRd value)
      fun _ _ past => R (eosCharReplies past) := by
  rintro p past u ret p' past' h hrun hserves
  obtain rfl := serves_recording_iff.mp hserves
  suffices hnone : eosCharReplies u = [] by simpa [hnone] using h
  rcases run_statusCall hrun with ⟨hresolves, -⟩ | ⟨v, conn, h, reply, rfl, hresolves, -⟩
  · exact eosCharReplies_of_resolves hresolves
  · rw [eosCharReplies_append, eosCharReplies_of_resolves hresolves]
    have hother : Ibc.eosRd ≠ Ibc.eosChar := by decide
    simp [eosCharReplies, hother]

/-- Without an answer of the driver, the return value is an error. -/
theorem ends_unanswered (ud : Int32) (call : Int → DriverCall) :
    Ends (fun past => past = [] ∨ inRange (boardOf ud) = true) (statusCall ud call)
      fun ret _ past => Unanswered past → ret = Ibsta.err := by
  refine triple_bind (ends_onHandle (Q := fun r _ past => Unanswered past → r.1 = Ibsta.err)
    (fun _ _ _ _ _ => rfl) fun h out => ?_) fun _ => triple_pure fun _ _ h => h
  exact ends_finish _ _ _ _ fun p past _ _ _ hdecision hnot => absurd hdecision (hnot _ _)

/-- What `ibeos` leaves behind. -/
structure Combines (ret : UInt32) (p : Process) (past : Trace BrokerCall.Reply) : Prop where
  reflects : Reflects p.ibsta p past
  unanswered : Unanswered past → p.ibsta = Ibsta.err
  ret_err : ret &&& Ibsta.err ≠ 0 ↔
    (∀ reply ∈ eosCharReplies past, reply.Failed) ∨ p.ibsta &&& Ibsta.err ≠ 0

theorem ends_ibeos (ud v : Int32) :
    Ends (fun past => past = []) (ibeos ud v) Combines := by
  refine triple_bind (ends_configure_eosChar ud (v &&& 0xff)) fun char => ?_
  have hflags := ends_unanswered ud (.configure · Ibc.eosRd (v &&& EosFlags.all.toInt32))
  refine triple_bind ((((ends_statusCall fun _ _ => rfl).and hflags).and
    (ends_configure_eosRd ud (v &&& EosFlags.all.toInt32) fun replies =>
      char &&& Ibsta.err ≠ 0 ↔ ∀ reply ∈ replies, reply.Failed)).conseq
    (fun p past h => ⟨⟨h.1, h.1⟩, h.2⟩) fun _ _ _ h => h) fun flags => triple_pure ?_
  rintro p past ⟨⟨hreflects, hunanswered⟩, hchar⟩
  obtain rfl := hreflects.ret_eq
  refine ⟨hreflects, hunanswered, ?_⟩
  rw [Ne, Ibsta.or_and_err_eq_zero_iff, Classical.not_and_iff_not_or_not, ← hchar]

/-- `ibeos` mirrors the outcome of its second part, as long as the first does not fail alone. -/
theorem Combines.mirrors_iff {ud v : Int32} {p p' : Process} {u : Trace BrokerCall.Reply}
    {ret : Int32} (hwrites : Writes (LibCall.ibeos ud v).exec fun _ => True)
    (hrun : Run ((LibCall.ibeos ud v).exec.run p) u (ret, p')) (h : Combines ret.toUInt32 p' u) :
    Mirrors (.ibeos ud v) p u ret p' ↔ (LibCall.ibeos ud v).AnswersSuit u := by
  constructor
  · intro hmirrors hfailed call out hdecision
    rw [← (h.reflects.answered call out hdecision).1]
    exact (hmirrors.reported (h.ret_err.mpr (.inl hfailed))).1
  · intro hsuit
    refine ⟨h.reflects.answered, fun hlost => ?_, fun hreported => ?_⟩
    · exact ⟨h.reflects.lost hlost, hwrites.run hrun trivial⟩
    · refine ⟨?_, hwrites.run hrun trivial⟩
      rcases h.ret_err.mp hreported with hfailed | herr
      · by_cases hanswered : Unanswered u
        · rw [h.unanswered hanswered]
          decide
        · simp only [Unanswered, ne_eq, not_forall, not_not] at hanswered
          obtain ⟨call, out, hdecision⟩ := hanswered
          rw [(h.reflects.answered call out hdecision).1]
          exact hsuit hfailed call out hdecision
      · exact herr

/-! ## Opening -/

/-- Opening failed, and the vector says at which layer. -/
inductive OpeningFailed (p : Process) (past : Trace BrokerCall.Reply) : Prop where
  | lost (hsta : p.ibsta = Ibsta.err) (hcnt : p.ibcntl = 0) (hunanswered : Unanswered past)
  | rejected {o : OpenDescriptorIn} {out : Option DriverReply}
      (hdecision : decision past = .driver (.openDescriptor o) out)
      (hhandle : (openDescriptorOut out).1 < 0) (hcnt : p.ibcntl = 0)
      (hshown : Shown (openDescriptorOut out).2 p)

/-- The driver has just opened a descriptor, with this status. -/
def JustOpened (status : Status) (past : Trace BrokerCall.Reply) : Prop :=
  ∃ o out, decision past = .driver (.openDescriptor o) out ∧ ¬ (openDescriptorOut out).1 < 0 ∧
    (openDescriptorOut out).2 = status

/-- A board in range that is not found is lost. -/
theorem ends_connForBoard_of_inRange {i : Int32} (hi : inRange i = true) :
    Ends P (connForBoard i) fun conn p past =>
      (conn = none → OpeningFailed p past) ∧ (conn ≠ none → P past ∨ decision past = .nobody) := by
  refine (ends_connForBoard i).conseq (fun _ _ h => h) fun conn p past h => ⟨fun hnone => ?_, h.2⟩
  obtain ⟨hsta, hcnt, ⟨hout, -⟩ | hunreachable⟩ := h.1 hnone
  · rw [hi] at hout
    cases hout
  · exact .lost hsta hcnt (by simp [Unanswered, hunreachable])

/-- Reporting a call that was not answered. -/
theorem ends_reportLost {c : DriverCall} {r : Int32 × Option DriverReply}
    (hkr : r.1 ≠ kernSuccess) :
    Ends (fun past => decision past = callDecision c r) (do
      setStatus Ibsta.err Iberr.edvr 0
      return (-1 : Int32)) fun ret p past => ret = -1 ∧ OpeningFailed p past := by
  refine ends_finish _ _ _ _ fun p past hsta _ hcnt hdecision => ⟨rfl, .lost hsta hcnt ?_⟩
  exact unanswered_of_refused hdecision hkr

/-- Reporting a descriptor that the driver did not open. -/
theorem ends_reportRejected {o : OpenDescriptorIn} {r : Int32 × Option DriverReply}
    (hkr : ¬ r.1 ≠ kernSuccess) (hneg : (openDescriptorOut r.2).1 < 0) :
    Ends (fun past => decision past = callDecision (.openDescriptor o) r) (do
      setStatus (openDescriptorOut r.2).2.ibsta (openDescriptorOut r.2).2.iberr 0
      return (-1 : Int32)) fun ret p past => ret = -1 ∧ OpeningFailed p past := by
  refine ends_finish _ _ _ _ fun p past hsta herr hcnt hdecision => ⟨rfl, ?_⟩
  rw [callDecision, if_pos (not_not.mp hkr)] at hdecision
  exact .rejected hdecision hneg hcnt ⟨hsta, herr⟩

theorem ends_openBoard {i : Int32} (hi : inRange i = true) :
    Ends P (openBoard i) fun h p past =>
      h = -1 ∧ OpeningFailed p past ∨ ¬ h < 0 ∧ ∃ status, JustOpened status past := by
  unfold openBoard
  refine triple_bind (ends_connForBoard_of_inRange hi) fun conn => ?_
  cases conn with
  | none => exact triple_pure fun p past h => .inl ⟨rfl, h.1 rfl⟩
  | some c =>
      refine triple_bind ((ends_callStruct (P := fun _ => True) c _).conseq
        (fun _ _ _ => trivial) fun _ _ _ h => h) fun online => ?_
      apply triple_ite
      · intro hkr
        exact (ends_reportLost hkr).conseq (fun _ _ h => h) fun _ _ _ h => .inl h
      intro _
      refine triple_bind (ends_callStruct c _) fun opened => ?_
      apply triple_ite
      · intro hkr
        exact (ends_reportLost hkr).conseq (fun _ _ h => h) fun _ _ _ h => .inl h
      intro hkr
      apply triple_ite
      · intro hneg
        exact (ends_reportRejected hkr hneg).conseq (fun _ _ h => h) fun _ _ _ h => .inl h
      intro hhandle
      refine triple_bind (Q := fun _ _ past => JustOpened (openDescriptorOut opened.2).2 past) ?_
        fun _ => triple_pure fun p past h => .inr ⟨hhandle, _, h⟩
      intro p past u r p' past' hdecision hrun hserves
      obtain rfl : u = [] := by
        unfold setBoardHandle at hrun
        rcases run_stateT_ite_iff.mp hrun with ⟨-, hrun⟩ | ⟨-, hrun⟩
        · exact (run_stateT_pure_iff.mp hrun).1
        · exact (run_modify_iff.mp hrun).1
      rw [serves_nil_iff.mp hserves]
      rw [callDecision, if_pos (not_not.mp hkr)] at hdecision
      exact ⟨_, _, hdecision, hhandle, rfl⟩

theorem ends_boardHandle {i : Int32} (hi : inRange i = true) :
    Ends (fun past => past = []) (boardHandle i) fun h p past =>
      h = -1 ∧ OpeningFailed p past ∨
        ¬ h < 0 ∧ (past = [] ∨ ∃ status, JustOpened status past) := by
  apply triple_boardHandle
  · intro p past hout _
    simp [hi] at hout
  · intro p past hcached h
    exact .inr ⟨Int32.not_lt.mpr hcached, .inl h⟩
  · intro _
    refine (ends_openBoard (P := fun past => past = []) hi).conseq (fun _ _ h => h.2)
      fun h p past hopen => ?_
    rcases hopen with hfailed | ⟨hhandle, hopened⟩
    · exact .inl hfailed
    · exact .inr ⟨hhandle, .inr hopened⟩

/-- What an opening call leaves behind: `shown` is what it makes of the status of the driver. -/
def Opens (shown : Status → Status) (ret : Int32) (p : Process) (past : Trace BrokerCall.Reply) :
    Prop :=
  ret = -1 ∧ OpeningFailed p past ∨
    ¬ ret < 0 ∧ (past = [] ∨ ∃ status, JustOpened status past ∧ Shown (shown status) p)

theorem ends_ibdev {i : Int32} (hi : inRange i = true) (pad sad timo sendEoi eosmode : Int32) :
    Ends (fun past => past = []) (ibdev i pad sad timo sendEoi eosmode)
      (Opens fun status => ⟨status.ibsta, 0⟩) := by
  unfold ibdev
  refine triple_bind (ends_boardHandle hi) fun h => ?_
  apply triple_ite
  · intro hneg
    refine triple_pure fun p past hopen => .inl ⟨rfl, ?_⟩
    rcases hopen with ⟨-, hfailed⟩ | ⟨hhandle, -⟩
    · exact hfailed
    · exact absurd hneg hhandle
  intro _
  refine triple_bind ((ends_connForBoard_of_inRange (P := fun _ => True) hi).conseq
    (fun _ _ _ => trivial) fun _ _ _ h => h) fun conn => ?_
  cases conn with
  | none => exact triple_pure fun p past h => .inl ⟨rfl, h.1 rfl⟩
  | some c =>
      refine triple_bind ((ends_callStruct (P := fun _ => True) c _).conseq
        (fun _ _ _ => trivial) fun _ _ _ h => h) fun opened => ?_
      apply triple_ite
      · intro hkr
        exact (ends_reportLost hkr).conseq (fun _ _ h => h) fun _ _ _ h => .inl h
      intro hkr
      apply triple_ite
      · intro hneg
        exact (ends_reportRejected hkr hneg).conseq (fun _ _ h => h) fun _ _ _ h => .inl h
      intro hhandle
      refine ends_finish _ _ _ _ fun p past hsta herr _ hdecision => ?_
      rw [callDecision, if_pos (not_not.mp hkr)] at hdecision
      exact .inr ⟨makeUd_not_neg _ _, .inr ⟨_, ⟨_, _, hdecision, hhandle, rfl⟩, hsta, herr⟩⟩

theorem ends_ibfind {cs : List Char} (hne : cs ≠ []) (hi : inRange (boardIndexOf cs) = true) :
    Ends (fun past => past = []) (ibfind (some cs))
      (Opens fun _ => ⟨Ibsta.cmpl ||| Ibsta.cic ||| Ibsta.rem, 0⟩) := by
  cases cs with
  | nil => exact absurd rfl hne
  | cons c cs =>
      refine triple_bind (ends_boardHandle hi) fun h => ?_
      apply triple_ite
      · intro hneg
        refine triple_pure fun p past hopen => .inl ⟨rfl, ?_⟩
        rcases hopen with ⟨-, hfailed⟩ | ⟨hhandle, -⟩
        · exact hfailed
        · exact absurd hneg hhandle
      · intro hhandle
        have hret : ¬ boardIndexOf (c :: cs) < 0 := by
          simp only [inRange, Bool.and_eq_true, decide_eq_true_eq] at hi
          exact Int32.not_lt.mpr hi.1
        refine (ends_finish (P := fun past => past = [] ∨ ∃ status, JustOpened status past)
          _ _ _ _ fun p past hsta herr _ hopen => ?_).conseq (fun p past hopen => ?_)
          fun _ _ _ h => h
        · rcases hopen with rfl | ⟨status, hopened⟩
          · exact .inr ⟨hret, .inl rfl⟩
          · exact .inr ⟨hret, .inr ⟨status, hopened, hsta, herr⟩⟩
        · rcases hopen with ⟨rfl, -⟩ | ⟨-, hopen⟩
          · exact absurd (by decide) hhandle
          · exact hopen

theorem status_eq {s t : Status} (hsta : s.ibsta = t.ibsta) (herr : s.iberr = t.iberr) : s = t := by
  cases s
  cases t
  simp_all

theorem eq_cleared_iff (s : Status) : s = ⟨s.ibsta, 0⟩ ↔ s.iberr = 0 :=
  ⟨fun h => congrArg Status.iberr h, fun h => status_eq rfl h⟩

/-- Opening mirrors the outcome if and only if a rejection is an error and an opened descriptor
comes with the status that is shown for it. -/
theorem Opens.mirrors_iff {c : LibCall} {shown : Status → Status} {p p' : Process}
    {u : Trace BrokerCall.Reply} {ret : Int32} (hwrites : Writes c.exec fun _ => True)
    (hfailure : c.ReportsFailure ret ↔ ret = -1) (hrun : Run (c.exec.run p) u (ret, p'))
    (hopens : Opens shown ret p' u) :
    Mirrors c p u ret p' ↔ ∀ call out, decision u = .driver call out →
      if (openDescriptorOut out).1 < 0 then (openDescriptorOut out).2.ibsta &&& Ibsta.err ≠ 0
      else (openDescriptorOut out).2 = shown (openDescriptorOut out).2 := by
  rcases hopens with ⟨rfl, hfailed⟩ | ⟨hret, hopened⟩
  · cases hfailed with
    | lost hsta _ hunanswered =>
        have herr : ErrSetBy c p u (-1) p' := ⟨by rw [hsta]; decide, hwrites.run hrun trivial⟩
        refine iff_of_true ⟨?_, fun _ => herr, fun _ => herr⟩ ?_
        · exact fun call out h => absurd h (hunanswered call out)
        · exact fun call out h => absurd h (hunanswered call out)
    | rejected hdecision hhandle _ hrejected =>
        rw [forall_driver_iff hdecision, if_pos hhandle, ← hrejected.1]
        constructor
        · intro hmirrors
          exact (hmirrors.reported (hfailure.mpr rfl)).1
        · intro herr
          refine ⟨(forall_driver_iff hdecision).mpr hrejected, fun hlost => ?_, fun _ => ?_⟩
          · exact absurd hlost (not_lost_of_driver hdecision)
          · exact ⟨herr, hwrites.run hrun trivial⟩
  have hnot : ¬ c.ReportsFailure ret := by
    intro hreported
    rw [hfailure.mp hreported] at hret
    exact hret (by decide)
  rcases hopened with rfl | ⟨status, hopened, hshown⟩
  · exact iff_of_true ⟨by simp, fun hlost => hlost.elim, fun hreported => absurd hreported hnot⟩
      (by simp)
  · obtain ⟨o, out, hdecision, hhandle, rfl⟩ := hopened
    rw [forall_driver_iff hdecision, if_neg hhandle]
    constructor
    · intro hmirrors
      obtain ⟨hsta, herr⟩ := hmirrors.answered _ _ hdecision
      exact status_eq (hsta.symm.trans hshown.1) (herr.symm.trans hshown.2)
    · intro hstatus
      rw [← hstatus] at hshown
      refine ⟨(forall_driver_iff hdecision).mpr hshown, fun hlost => ?_, fun hreported => ?_⟩
      · exact absurd hlost (not_lost_of_driver hdecision)
      · exact absurd hreported hnot

/-! ## Boards that do not exist -/

/-- What only goes on with a handle gives up at an index out of range. -/
theorem run_boardHandle_bind {i : Int32} (hi : ¬ inRange i = true) {f : Int32 → Lib Int32}
    {p p' : Process} {u : Trace BrokerCall.Reply} {ret : Int32}
    (hrun : Run ((boardHandle i >>= f).run p) u (ret, p')) (hf : f (-1) = pure (-1)) :
    u = [] ∧ ret = -1 ∧ p' = p := by
  obtain ⟨v, h, p₁, w, rfl, hv, hw⟩ := run_stateT_bind_iff.mp hrun
  rcases run_stateT_guard_iff.mp hv with ⟨-, rfl, ⟨⟩⟩ | ⟨hin, -⟩
  · rw [hf] at hw
    obtain ⟨rfl, heq⟩ := run_stateT_pure_iff.mp hw
    cases heq
    exact ⟨rfl, rfl, rfl⟩
  · simp [hi] at hin

/-- An index out of range, or an empty name, is a failure that nothing else tells of. -/
theorem run_unnamed {c : LibCall} (hnot : ¬ c.NamesBoard) {p p' : Process}
    {u : Trace BrokerCall.Reply} {ret : Int32} (hrun : Run (c.exec.run p) u (ret, p')) :
    (u = [] ∧ ret = -1 ∧ p' = p) ∧ c.ReportsFailure (-1) := by
  cases c with
  | ibdev i pad sad timo eoi eos => exact ⟨run_boardHandle_bind hnot hrun rfl, rfl⟩
  | ibfind name =>
      refine ⟨?_, rfl⟩
      rcases name with _ | _ | ⟨x, cs⟩
      · obtain ⟨hu, heq⟩ := run_stateT_pure_iff.mp hrun
        cases heq
        exact ⟨hu, rfl, rfl⟩
      · obtain ⟨hu, heq⟩ := run_stateT_pure_iff.mp hrun
        cases heq
        exact ⟨hu, rfl, rfl⟩
      · have hi : ¬ inRange (boardIndexOf (x :: cs)) = true :=
          fun hi => hnot ⟨x :: cs, rfl, by simp, hi⟩
        exact run_boardHandle_bind hi hrun rfl
  | _ => exact absurd trivial hnot

/-- Such a failure leaves the vector as it was. -/
theorem not_mirrors_of_unnamed {c : LibCall} (hnot : ¬ c.NamesBoard) {p p' : Process}
    {u : Trace BrokerCall.Reply} {ret : Int32} (hrun : Run (c.exec.run p) u (ret, p')) :
    ¬ Mirrors c p u ret p' := by
  intro hmirrors
  obtain ⟨⟨-, rfl, rfl⟩, hfailure⟩ := run_unnamed hnot hrun
  obtain ⟨-, hset⟩ := hmirrors.reported hfailure
  obtain ⟨⟨-, -, hstale⟩, -⟩ := run_unnamed hnot (hset ⟨0, 0, p'.ibcntl + 1⟩)
  have hcnt : p'.ibcntl = p'.ibcntl + 1 := congrArg Process.ibcntl hstale
  omega

/-! ## Every call -/

/-- Nothing has been asked before a call. -/
theorem starts {α : Type} {x : Lib α} {i : Int32}
    {Q : α → Process → Trace BrokerCall.Reply → Prop}
    (h : Ends (fun past => past = [] ∨ inRange i = true) x Q) :
    Ends (fun past => past = []) x Q :=
  h.conseq (fun _ _ h => .inl h) fun _ _ _ h => h

/-- The vector mirrors the layer that decided if and only if the call names a board and the
answers suit it. -/
theorem status_mirrors_iff {c : LibCall} (hsel : c.OverSelector) {p p' : Process}
    {u : Trace BrokerCall.Reply} {ret : Int32} (hrun : Run (c.exec.run p) u (ret, p')) :
    Mirrors c p u ret p' ↔ c.NamesBoard ∧ c.AnswersSuit u := by
  by_cases hnames : c.NamesBoard
  swap
  · exact iff_of_false (not_mirrors_of_unnamed hnames hrun) fun h => hnames h.1
  rw [and_iff_right hnames]
  have hwrites := writes_exec hsel hnames
  have hreflects (hsuit : c.AnswersSuit u)
      (hfailure : c.ReportsFailure ret → ret.toUInt32 &&& Ibsta.err ≠ 0)
      (h : Ends (fun past => past = []) c.exec fun ret => Reflects ret.toUInt32) :
      Mirrors c p u ret p' ↔ c.AnswersSuit u :=
    iff_of_true ((h.of_recording rfl hrun).mirrors hwrites hfailure hrun) hsuit
  have hclears (hfailure : c.ReportsFailure ret → ret.toUInt32 &&& Ibsta.err ≠ 0)
      (h : Ends (fun past => past = []) c.exec fun ret => Clears ret.toUInt32) :
      Mirrors c p u ret p' ↔ ∀ call out, decision u = .driver call out →
        (statusIn call out).iberr = 0 :=
    (h.of_recording rfl hrun).mirrors_iff hwrites hfailure hrun
  cases c with
  | ibdev i pad sad timo eoi eos =>
      rw [((ends_ibdev hnames _ _ _ _ _).of_recording rfl hrun).mirrors_iff hwrites .rfl hrun]
      simp only [eq_cleared_iff]
      exact .rfl
  | ibfind name =>
      obtain ⟨cs, rfl, hne, hi⟩ := hnames
      exact ((ends_ibfind hne hi).of_recording rfl hrun).mirrors_iff hwrites .rfl hrun
  | ibonl ud onl =>
      exact ((ends_ofStatus (ends_ibonl _ _)).of_recording rfl hrun).mirrors_iff hwrites id hrun
  | ibpad ud v =>
      exact hreflects trivial id (starts (ends_ofStatus (ends_statusCall fun _ _ => rfl)))
  | ibsad ud v =>
      exact hreflects trivial id (starts (ends_ofStatus (ends_statusCall fun _ _ => rfl)))
  | ibtmo ud v =>
      exact hreflects trivial id (starts (ends_ofStatus (ends_statusCall fun _ _ => rfl)))
  | ibeot ud v =>
      exact hreflects trivial id (starts (ends_ofStatus (ends_statusCall fun _ _ => rfl)))
  | ibeos ud v =>
      exact ((ends_ofStatus (ends_ibeos _ _)).of_recording rfl hrun).mirrors_iff hwrites hrun
  | ibconfig ud option value =>
      exact hreflects trivial id (starts (ends_ofStatus (ends_statusCall fun _ _ => rfl)))
  | ibask ud option =>
      exact hreflects trivial id (starts (ends_withStatus (ends_reporting fun _ _ => rfl)))
  | ibwrt ud buf cnt =>
      exact hreflects trivial id (ends_ofStatus (ends_sendBytes (fun _ _ _ => rfl) _ _))
  | ibrd ud cnt => exact hreflects trivial id (ends_withStatus (ends_ibrd _ _))
  | ibcmd ud cmd cnt =>
      exact hreflects trivial id (ends_ofStatus (ends_sendBytes (fun _ _ _ => rfl) _ _))
  | ibclr ud =>
      exact hclears id (starts (ends_ofStatus (ends_simpleHandleCall fun _ _ => rfl)))
  | ibsic ud =>
      exact hclears id (starts (ends_ofStatus (ends_simpleHandleCall fun _ _ => rfl)))
  | ibtrg ud =>
      exact hclears id (starts (ends_ofStatus (ends_simpleHandleCall fun _ _ => rfl)))
  | ibloc ud =>
      exact hclears id (starts (ends_ofStatus (ends_simpleHandleCall fun _ _ => rfl)))
  | ibsre ud v =>
      exact hreflects trivial id (starts (ends_ofStatus (ends_statusCall fun _ _ => rfl)))
  | ibwait ud mask =>
      exact hreflects trivial id (starts (ends_ofStatus (ends_statusCall fun _ _ => rfl)))
  | ibrsp ud =>
      exact hreflects trivial id (starts (ends_withStatus (ends_reporting fun _ _ => rfl)))
  | iblines ud =>
      exact hreflects trivial id (starts (ends_withStatus (ends_reporting fun _ _ => rfl)))
  | ibln ud pad sad =>
      exact hreflects trivial id (starts (ends_withStatus (ends_reporting fun _ _ => rfl)))
  | ibwrtf ud file => exact hsel.elim
  | ibrdf ud opened fuel buf => exact hsel.elim

namespace Example

/-- A process that has found board 0. -/
def connected : Process where
  reachable := Function.update (fun _ => false) 0 true
  boardHandles _ := -1
  ibsta := Ibsta.cmpl
  iberr := 0
  ibcntl := 7

/-- The driver does not know the handle. -/
def unknownHandle : Status := ⟨Ibsta.err, Iberr.earg⟩

def refusedPoll : Trace BrokerCall.Reply :=
  [⟨.call 0 (.serialPoll 5), (⟨0, some (.polled 0 unknownHandle)⟩ : CallReply)⟩]

def refusedClear : Trace BrokerCall.Reply :=
  [⟨.call 0 (.deviceClear 5), (⟨0, some (.status unknownHandle)⟩ : CallReply)⟩]

theorem run_refusedPoll :
    Run ((LibCall.ibrsp (makeUd 0 5)).exec.run connected) refusedPoll
      (Ibsta.err.toInt32, connected.withVector ⟨Ibsta.err, Iberr.earg, 0⟩) :=
  .ask (.pure _)

theorem run_refusedClear :
    Run ((LibCall.ibclr (makeUd 0 5)).exec.run connected) refusedClear
      (Ibsta.err.toInt32, connected.withVector ⟨Ibsta.err, 0, 0⟩) :=
  .ask (.pure _)

end Example

open Example in
/-- Polling a handle that is not open reports the error of the driver. -/
theorem refused_poll_mirrored :
    Mirrors (.ibrsp (makeUd 0 5)) connected refusedPoll Ibsta.err.toInt32
      (connected.withVector ⟨Ibsta.err, Iberr.earg, 0⟩) :=
  (status_mirrors_iff (c := .ibrsp (makeUd 0 5)) trivial run_refusedPoll).mpr ⟨trivial, trivial⟩

open Example in
/-- Clearing it does not. -/
theorem refused_clear_not_mirrored :
    ∃ p', Run ((LibCall.ibclr (makeUd 0 5)).exec.run connected) refusedClear
        (Ibsta.err.toInt32, p') ∧
      ¬ Mirrors (.ibclr (makeUd 0 5)) connected refusedClear Ibsta.err.toInt32 p' := by
  refine ⟨_, run_refusedClear, fun hmirrors => ?_⟩
  have herr : (0 : UInt32) = Iberr.earg := (hmirrors.answered _ _ rfl).2
  exact absurd herr (by decide)

end Libgpib

end DarwinGpib
