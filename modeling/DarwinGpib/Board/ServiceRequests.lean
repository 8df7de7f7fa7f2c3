import DarwinGpib.Board.SharedStatus
import DarwinGpib.Library.Stateful
import DarwinGpib.Transfer.BusyPolling
import DarwinGpib.Transfer.Runs

/-!
# Waiting for a service request

`waitForStatus` over the two adapters that read the bus lines from a register with a 1 for each
asserted line. A wait is cut into rounds, each a sample of the register and a reading of the
clock; the KUSB-488B reports SRQ when a sample shows it, the 82357 when a sample does not.
-/

namespace DarwinGpib

open Interaction

/-- SRQ in the bus-line register and in `BSR`. -/
def srqBit : UInt8 := 0x04

abbrev Asserted (v : UInt8) : Prop := v &&& srqBit ≠ 0
abbrev Released (v : UInt8) : Prop := v &&& srqBit = 0

/-! ## Rounds -/

section Rounds

/-- The deadline of a wait, which takes a reading of the clock unless there is none. -/
inductive DeadlineSet (timeoutUs : Nat) : Usb.Trace → UInt64 → Prop where
  | indefinite (h : timeoutUs = 0xFFFFFFFF) : DeadlineSet timeoutUs [] 0
  | finite (h : timeoutUs ≠ 0xFFFFFFFF) (t : UInt64) :
      DeadlineSet timeoutUs [⟨.uptime, t⟩] (t + UInt64.ofNat (timeoutUs * 1000))

/-- The deadline is not passed yet. -/
inductive InTime (deadline : UInt64) : Usb.Trace → Prop where
  | indefinite (h : deadline = 0) : InTime deadline []
  | early {t : UInt64} (h : ¬ t > deadline) : InTime deadline [⟨.uptime, t⟩]

/-- Rounds of a wait that goes on: samples, of which `none` is one that could not be read, each
followed by a reading of the clock in time. -/
inductive Rounds (sample : Usb (Option UInt8)) (deadline : UInt64) :
    List (Option UInt8) → Usb.Trace → Prop where
  | nil : Rounds sample deadline [] []
  | cons {v vs x y u} (hsample : Run sample x v) (hclock : InTime deadline y)
      (h : Rounds sample deadline vs u) : Rounds sample deadline (v :: vs) (x ++ (y ++ u))

/-- The deadline has passed. -/
inductive Expired (deadline : UInt64) : Usb.Trace → Prop where
  | late {t : UInt64} (h : t > deadline) : Expired deadline [⟨.uptime, t⟩]

/-- The samples of a wait with a deadline, all of them taken in time. It returns after a sample or
after the deadline has passed, which the flag tells apart; a wait that is given up has used up its
fuel. -/
inductive Sampled (sample : Usb (Option UInt8)) (deadline : UInt64) (fuel : Nat) :
    List (Option UInt8) → Usb.Trace → Bool → Option UInt32 → Prop where
  | waiting {vs u} (hrounds : Rounds sample deadline vs u) (hfuel : vs.length = fuel) :
      Sampled sample deadline fuel vs u false none
  | answered {vs u x last ibsta} (hrounds : Rounds sample deadline vs u)
      (hsample : Run sample x last) :
      Sampled sample deadline fuel (vs ++ [last]) (u ++ x) false (some ibsta)
  | expired {vs u x last y ibsta} (hrounds : Rounds sample deadline vs u)
      (hsample : Run sample x last) (hfinite : deadline ≠ 0) (hclock : Expired deadline y) :
      Sampled sample deadline fuel (vs ++ [last]) (u ++ (x ++ y)) true (some ibsta)

end Rounds

/-- One of the samples looks like that. -/
def Seen (shows : UInt8 → Prop) (vs : List (Option UInt8)) : Prop := ∃ v, some v ∈ vs ∧ shows v

/-- What a wait for SRQ should come to after these samples: it says SRQ as soon as one of them has
SRQ asserted, and otherwise that it timed out, after the deadline. -/
def AnswersSrq (vs : List (Option UInt8)) (expired : Bool) : Option UInt32 → Prop
  | none => ¬ Seen Asserted vs
  | some ibsta =>
      (Seen Asserted vs → ibsta &&& Ibsta.srqi ≠ 0 ∧ ibsta &&& Ibsta.timo = 0) ∧
        (¬ Seen Asserted vs →
          expired = true ∧ ibsta &&& Ibsta.timo ≠ 0 ∧ ibsta &&& Ibsta.srqi = 0)

/-! ## Any transport -/

/-- What a transport makes of the register: `T.readBusLines` shows SRQ exactly when the register
could be read and looks like that. -/
def ShowsSrqOf {τ : Type} (T : IGPIBTransport (StateT τ Usb)) (sample : τ → Usb (Option UInt8))
    (shows : UInt8 → Prop) : Prop :=
  ∀ t u r t', Run (T.readBusLines.run t) u (r, t') → t' = t ∧
    ∃ v, Run (sample t) u v ∧ (BoardState.ShowsSrq r ↔ Seen shows [v])

/-- The sample that a board takes, if it has a transport. -/
def taken (s : BoardState) (sample : Usb (Option UInt8)) : Usb (Option UInt8) :=
  if s.hasTransport then sample else pure none

/-- How a wait ends on a transport that shows SRQ like that. -/
inductive Concluded (shows : UInt8 → Prop) (ibsta : UInt32) (vs : List (Option UInt8)) :
    Bool → Option UInt32 → Prop where
  | waiting (h : ¬ Seen shows vs) : Concluded shows ibsta vs false none
  | seen (h : Seen shows vs) : Concluded shows ibsta vs false (some (BoardState.seenIbsta ibsta))
  | late (h : ¬ Seen shows vs) : Concluded shows ibsta vs true (some (BoardState.lateIbsta ibsta))

/-- The uptime clock beside a transport. -/
def uptime {τ : Type} : StateT τ Usb UInt64 := StateT.lift (Program.call Usb.Request.uptime)

theorem seen_append {shows : UInt8 → Prop} {vs ws : List (Option UInt8)} :
    Seen shows (vs ++ ws) ↔ Seen shows vs ∨ Seen shows ws := by
  simp only [Seen, List.mem_append, or_and_right, exists_or]

theorem seen_some {shows : UInt8 → Prop} {v : UInt8} : Seen shows [some v] ↔ shows v := by
  simp [Seen]

theorem not_seen_none {shows : UInt8 → Prop} : ¬ Seen shows [none] := by
  rintro ⟨v, hmem, -⟩
  simp at hmem

section Loop

variable {τ : Type} {T : IGPIBTransport (StateT τ Usb)} {sample : τ → Usb (Option UInt8)}
  {shows : UInt8 → Prop} {s : BoardState} {t t' : τ} {u : Usb.Trace} {deadline : UInt64}

theorem run_srqAsserted_usb (hT : ShowsSrqOf T sample shows) {asserted : Bool}
    (hrun : Run ((BoardState.srqAsserted T s).run t) u (asserted, t')) :
    t' = t ∧ ∃ v, Run (taken s (sample t)) u v ∧ (asserted = true ↔ Seen shows [v]) := by
  rcases run_stateT_guard_iff.mp hrun with ⟨hnone, rfl, ⟨⟩⟩ | ⟨hsome, hread⟩
  · refine ⟨rfl, none, ?_, iff_of_false nofun not_seen_none⟩
    rw [taken, if_neg (by simpa using hnone)]
    exact .pure none
  · obtain ⟨v, r, t₁, w, rfl, hlines, hdone⟩ := run_stateT_bind_iff.mp hread
    obtain ⟨rfl, heq⟩ := run_stateT_pure_iff.mp hdone
    cases heq
    obtain ⟨rfl, value, hsample, hshows⟩ := hT _ _ _ _ hlines
    refine ⟨rfl, value, ?_, ?_⟩
    · rw [taken, if_pos (by simpa using hsome), List.append_nil]
      exact hsample
    · rw [← hshows, decide_eq_true_iff]
      rfl

theorem run_uptime_iff {r : UInt64 × τ} :
    Run ((uptime : StateT τ Usb UInt64).run t) u r ↔ u = [⟨.uptime, r.1⟩] ∧ r.2 = t :=
  run_lift_call_iff

theorem run_deadlinePassed_usb {passed : Bool}
    (hrun : Run ((BoardState.deadlinePassed uptime deadline).run t) u (passed, t')) :
    t' = t ∧ (passed = false ∧ InTime deadline u ∨
      passed = true ∧ deadline ≠ 0 ∧ Expired deadline u) := by
  rcases run_stateT_guard_iff.mp hrun with ⟨hnone, rfl, ⟨⟩⟩ | ⟨hfinite, hread⟩
  · exact ⟨rfl, .inl ⟨rfl, .indefinite hnone⟩⟩
  · obtain ⟨v, now, t₁, w, rfl, hnow, hdone⟩ := run_stateT_bind_iff.mp hread
    obtain ⟨rfl, ht⟩ := run_uptime_iff.mp hnow
    obtain ⟨rfl, heq⟩ := run_stateT_pure_iff.mp hdone
    cases heq
    refine ⟨ht, ?_⟩
    by_cases hlate : now > deadline
    · exact .inr ⟨decide_eq_true hlate, hfinite, .late hlate⟩
    · exact .inl ⟨decide_eq_false hlate, .early hlate⟩

theorem run_deadlineAfter_usb {timeoutUs : Nat}
    (hrun : Run ((BoardState.deadlineAfter uptime timeoutUs).run t) u (deadline, t')) :
    t' = t ∧ DeadlineSet timeoutUs u deadline := by
  rcases run_stateT_guard_iff.mp hrun with ⟨hnone, rfl, ⟨⟩⟩ | ⟨hfinite, hread⟩
  · exact ⟨rfl, .indefinite hnone⟩
  · obtain ⟨v, now, t₁, w, rfl, hnow, hdone⟩ := run_stateT_bind_iff.mp hread
    obtain ⟨rfl, ht⟩ := run_uptime_iff.mp hnow
    obtain ⟨rfl, heq⟩ := run_stateT_pure_iff.mp hdone
    cases heq
    exact ⟨ht, .finite hfinite now⟩

/-- One more round before the samples of a wait. -/
theorem Sampled.cons {sample : Usb (Option UInt8)} {fuel : Nat} {v : Option UInt8}
    {vs : List (Option UInt8)} {x y : Usb.Trace} {expired : Bool} {o : Option UInt32}
    (h : Sampled sample deadline fuel vs u expired o) (hsample : Run sample x v)
    (hclock : InTime deadline y) :
    Sampled sample deadline (fuel + 1) (v :: vs) (x ++ (y ++ u)) expired o := by
  cases h with
  | waiting hrounds hfuel =>
      exact .waiting (.cons hsample hclock hrounds) (by rw [List.length_cons, hfuel])
  | @answered vs w z last ibsta hrounds hlast =>
      rw [← List.cons_append, ← List.append_assoc y, ← List.append_assoc x]
      exact .answered (.cons hsample hclock hrounds) hlast
  | @expired vs w z last c ibsta hrounds hlast hfinite hend =>
      rw [← List.cons_append, ← List.append_assoc y, ← List.append_assoc x]
      exact .expired (.cons hsample hclock hrounds) hlast hfinite hend

theorem Concluded.cons {ibsta : UInt32} {v : Option UInt8} {vs : List (Option UInt8)}
    {expired : Bool} {o : Option UInt32} (h : Concluded shows ibsta vs expired o)
    (hv : ¬ Seen shows [v]) : Concluded shows ibsta (v :: vs) expired o := by
  have hseen : Seen shows (v :: vs) ↔ Seen shows vs := by
    rw [← List.singleton_append, seen_append, or_iff_right hv]
  cases h with
  | waiting h => exact .waiting (hseen.not.mpr h)
  | seen h => exact .seen (hseen.mpr h)
  | late h => exact .late (hseen.not.mpr h)

/-- The polling loop, round by round. -/
theorem run_waitForSrq_usb (hT : ShowsSrqOf T sample shows) {fuel : Nat} {o : Option UInt32}
    (hrun : Run ((BoardState.waitForSrq T uptime deadline s fuel).run t) u (o, t')) :
    ∃ vs expired, Sampled (taken s (sample t)) deadline fuel vs u expired o ∧
      Concluded shows s.ibsta vs expired o := by
  induction fuel generalizing u t with
  | zero =>
      obtain ⟨rfl, heq⟩ := run_stateT_pure_iff.mp hrun
      cases heq
      exact ⟨[], false, .waiting .nil rfl, .waiting (by simp [Seen])⟩
  | succ fuel ih =>
      obtain ⟨x, asserted, t₁, w, rfl, hx, hafter⟩ := run_stateT_bind_iff.mp hrun
      obtain ⟨rfl, v, hsample, hasserted⟩ := run_srqAsserted_usb hT hx
      rcases run_stateT_guard_iff.mp hafter with ⟨hyes, rfl, ⟨⟩⟩ | ⟨hno, hclock⟩
      · rw [List.append_nil]
        exact ⟨[v], false, .answered .nil hsample, .seen (hasserted.mp hyes)⟩
      have hnone : ¬ Seen shows [v] := fun h => hno (hasserted.mpr h)
      obtain ⟨y, late, t₂, z, rfl, hy, hdecide⟩ := run_stateT_bind_iff.mp hclock
      obtain ⟨rfl, hpassed⟩ := run_deadlinePassed_usb hy
      rcases run_stateT_guard_iff.mp hdecide with ⟨hlate, rfl, ⟨⟩⟩ | ⟨hearly, hloop⟩
      · rcases hpassed with ⟨rfl, -⟩ | ⟨-, hfinite, hexpired⟩
        · cases hlate
        · rw [List.append_nil]
          exact ⟨[v], true, .expired .nil hsample hfinite hexpired, .late hnone⟩
      · obtain ⟨vs, expired, hsampled, hconcluded⟩ := ih hloop
        rcases hpassed with ⟨-, hinTime⟩ | ⟨rfl, -⟩
        · exact ⟨v :: vs, expired, hsampled.cons hsample hinTime, hconcluded.cons hnone⟩
        · exact absurd rfl hearly

/-- The wait of one call: its deadline, then its samples. -/
inductive SrqWait (sample : Usb (Option UInt8)) (timeoutUs fuel : Nat) (vs : List (Option UInt8)) :
    Usb.Trace → Bool → Option UInt32 → Prop where
  | mk {x y deadline expired o} (hdeadline : DeadlineSet timeoutUs x deadline)
      (hsampled : Sampled sample deadline fuel vs y expired o) :
      SrqWait sample timeoutUs fuel vs (x ++ y) expired o

/-- The timeout of a wait, the descriptor's when the caller gives none. -/
def effectiveTimeout (d : GPIBDescriptor) (timeoutUs : Nat) : Nat :=
  if timeoutUs ≠ 0 then timeoutUs else d.timeoutUs

/-- What the board hands back with a status. -/
def waited (b : GPIBBoard) (o : Option UInt32) : Option (BoardResult × GPIBBoard) :=
  o.map fun ibsta => (.status ⟨ibsta, 0⟩, { b with state := { b.state with ibsta } })

theorem run_waitForStatus_usb {b : GPIBBoard} {handle : Int} {d : GPIBDescriptor} {mask : Int32}
    {timeoutUs fuel : Nat} {o : Option (BoardResult × GPIBBoard)}
    (hd : b.descriptors.descriptorFor handle = some d) (hmask : AwaitsSrq mask)
    (hT : ShowsSrqOf T sample shows)
    (hrun : Run ((b.perform T uptime fuel (.waitForStatus handle mask timeoutUs)).run t) u
      (o, t')) :
    ∃ vs expired ibsta, o = waited b ibsta ∧
      SrqWait (taken b.state (sample t)) (effectiveTimeout d timeoutUs) fuel vs u expired ibsta ∧
      Concluded shows b.state.ibsta vs expired ibsta := by
  obtain ⟨v, r, t₁, w, rfl, hwait, hdone⟩ := run_stateT_bind_iff.mp hrun
  obtain ⟨rfl, heq⟩ := run_stateT_pure_iff.mp hdone
  cases heq
  rw [hd] at hwait
  rcases run_stateT_ite_iff.mp hwait with ⟨hnone, -⟩ | ⟨-, hset⟩
  · exact absurd hnone hmask
  obtain ⟨x, deadline, t₂, y, rfl, hx, hloop⟩ := run_stateT_bind_iff.mp hset
  obtain ⟨rfl, hdeadline⟩ := run_deadlineAfter_usb hx
  obtain ⟨z, ibsta, t₃, w', rfl, hz, hreport⟩ := run_stateT_bind_iff.mp hloop
  obtain ⟨rfl, heq⟩ := run_stateT_pure_iff.mp hreport
  cases heq
  obtain ⟨vs, expired, hsampled, hconcluded⟩ := run_waitForSrq_usb hT hz
  refine ⟨vs, expired, ibsta, by cases ibsta <;> rfl, ?_, hconcluded⟩
  rw [List.append_nil, List.append_nil]
  exact .mk hdeadline hsampled

end Loop

/-! ## The two encodings -/

theorem BusLine.or_and {a b mask : UInt16} : (a ||| b) &&& mask = a &&& mask ||| b &&& mask :=
  UInt16.toBitVec_inj.mp BitVec.and_or_distrib_right

/-- A word of lines joined bit by bit shows what the first word or one of the lines shows. -/
theorem foldl_lines_and_eq_zero_iff {p : UInt8 → Prop} [DecidablePred p]
    {table : List (UInt8 × UInt16)} {lines mask : UInt16} :
    table.foldl (fun v l => if p l.1 then v ||| l.2 else v) lines &&& mask = 0 ↔
      lines &&& mask = 0 ∧ ∀ l ∈ table, p l.1 → l.2 &&& mask = 0 := by
  induction table generalizing lines with
  | nil => simp
  | cons l table ih =>
      rw [List.foldl_cons, ih, List.forall_mem_cons]
      by_cases hp : p l.1
      · rw [if_pos hp, BusLine.or_and, UInt16.or_eq_zero_iff, and_assoc]
        simp only [hp, forall_const]
      · rw [if_neg hp]
        simp only [hp, false_implies, true_and]

/-- When the SRQ bit is the only one that stands for SRQ, the lines show SRQ as it is tested. -/
theorem foldl_lines_srq_iff {p : UInt8 → Prop} [DecidablePred p] {table : List (UInt8 × UInt16)}
    (htable : table.filter (fun l => l.2 &&& BusLine.busSRQ ≠ 0) = [(srqBit, BusLine.busSRQ)]) :
    let lines := table.foldl (fun v l => if p l.1 then v ||| l.2 else v) BusLine.validAll
    lines &&& BusLine.validSRQ ≠ 0 ∧ lines &&& BusLine.busSRQ ≠ 0 ↔ p srqBit := by
  intro lines
  have hvalid : lines &&& BusLine.validSRQ ≠ 0 := by
    rw [Ne, foldl_lines_and_eq_zero_iff]
    exact fun h => absurd h.1 (by decide)
  have hbus : lines &&& BusLine.busSRQ = 0 ↔ ¬ p srqBit := by
    rw [foldl_lines_and_eq_zero_iff]
    constructor
    · rintro ⟨-, hall⟩ hp
      have hmem : (srqBit, BusLine.busSRQ) ∈
          table.filter (fun l => l.2 &&& BusLine.busSRQ ≠ 0) := by
        rw [htable]
        exact List.mem_singleton_self _
      exact absurd (hall _ (List.mem_of_mem_filter hmem) hp) (by decide)
    · refine fun hp => ⟨by decide, fun l hl hpl => ?_⟩
      by_contra hne
      have hmem : l ∈ table.filter (fun l => l.2 &&& BusLine.busSRQ ≠ 0) :=
        List.mem_filter.mpr ⟨hl, decide_eq_true hne⟩
      rw [htable, List.mem_singleton] at hmem
      rw [hmem] at hpl
      exact hp hpl
  rw [and_iff_right hvalid, Ne, hbus, not_not]

theorem KUSB488BTransport.linesOfRegister_srq_iff {v : UInt8} :
    linesOfRegister v &&& BusLine.validSRQ ≠ 0 ∧ linesOfRegister v &&& BusLine.busSRQ ≠ 0 ↔
      Asserted v :=
  foldl_lines_srq_iff (p := (v &&& · ≠ 0)) (by decide)

theorem Agilent82357Transport.linesOfBsr_srq_iff {v : UInt8} :
    linesOfBsr v &&& BusLine.validSRQ ≠ 0 ∧ linesOfBsr v &&& BusLine.busSRQ ≠ 0 ↔
      Released v :=
  foldl_lines_srq_iff (p := (v &&& · = 0)) (by decide)

/-! ## The two adapters -/

/-- The bus-line register. -/
def KUSB488BTransport.sampleLines (t : KUSB488BTransport) : Usb (Option UInt8) := do
  let (rc, v) ← t.readRawRegister kRegBusLines
  return if rc = .ok then some v else none

/-- `BSR`. -/
def Agilent82357Transport.sampleLines (t : Agilent82357Transport) : Usb (Option UInt8) := do
  let (rc, values) ← t.readRegisters [tmsBsr]
  return if rc = .ok then values[0]? else none

theorem KUSB488BTransport.showsSrqOf_sampleLines (fuel : Nat) :
    ShowsSrqOf (asTransport fuel) sampleLines Asserted := by
  intro t u r t' hrun
  obtain ⟨hread, rfl⟩ := Usb.run_keeping_iff.mp hrun
  refine ⟨rfl, ?_⟩
  obtain ⟨x, ⟨rc, v⟩, w, rfl, hx, hdone⟩ := run_bind_iff.mp hread
  have hsample : Run (sampleLines t') (x ++ []) (if rc = .ok then some v else none) :=
    hx.bind (.pure _)
  rcases run_guard_iff.mp hdone with ⟨hrc, rfl, rfl⟩ | ⟨hrc, hok⟩
  · rw [if_neg hrc] at hsample
    exact ⟨none, hsample, iff_of_false (fun h => hrc h.1) not_seen_none⟩
  · obtain ⟨rfl, rfl⟩ := run_pure_iff.mp hok
    rw [if_pos (not_not.mp hrc)] at hsample
    refine ⟨some v, hsample, ?_⟩
    rw [seen_some, ← linesOfRegister_srq_iff]
    exact and_iff_right rfl

theorem Agilent82357Transport.showsSrqOf_sampleLines :
    ShowsSrqOf asTransport sampleLines Released := by
  intro t u r t' hrun
  obtain ⟨hread, rfl⟩ := Usb.run_keeping_iff.mp hrun
  refine ⟨rfl, ?_⟩
  obtain ⟨x, ⟨rc, values⟩, w, rfl, hx, hdone⟩ := run_bind_iff.mp hread
  have hsample : Run (sampleLines t') (x ++ []) (if rc = .ok then values[0]? else none) :=
    hx.bind (.pure _)
  rcases run_guard_iff.mp hdone with ⟨hrc, rfl, rfl⟩ | ⟨hrc, hok⟩
  · rw [if_neg hrc] at hsample
    exact ⟨none, hsample, iff_of_false (fun h => hrc h.1) not_seen_none⟩
  · obtain ⟨bsr, hbsr, hlines⟩ := Usb.run_checked_bind_iff.mp hok
    obtain ⟨rfl, rfl⟩ := run_pure_iff.mp hlines
    rw [if_pos (not_not.mp hrc), hbsr] at hsample
    refine ⟨some bsr, hsample, ?_⟩
    rw [seen_some, ← linesOfBsr_srq_iff]
    exact and_iff_right rfl

/-! ## What a wait says -/

/-- A status with a bit masked out and others set. -/
theorem masked_or_and {ibsta off on : UInt32} :
    ((ibsta &&& ~~~off ||| on ||| Ibsta.cmpl) &&& on = 0 → on = 0) ∧
      (on &&& off = 0 → Ibsta.cmpl &&& off = 0 →
        (ibsta &&& ~~~off ||| on ||| Ibsta.cmpl) &&& off = 0) := by
  rw [Ibsta.or_and, Ibsta.or_and, UInt32.and_self, Ibsta.or_and, Ibsta.or_and]
  constructor
  · intro h
    exact (UInt32.or_eq_zero_iff.mp (UInt32.or_eq_zero_iff.mp h).1).2
  · intro hon hcmpl
    have hoff : ~~~off &&& off = 0 := by simp
    rw [hon, hcmpl, UInt32.and_assoc, hoff, UInt32.and_zero, UInt32.or_zero, UInt32.or_zero]

theorem Concluded.answersSrq_iff {shows : UInt8 → Prop} {ibsta : UInt32}
    {vs : List (Option UInt8)} {expired : Bool} {o : Option UInt32}
    (h : Concluded shows ibsta vs expired o) :
    AnswersSrq vs expired o ↔ (Seen Asserted vs ↔ Seen shows vs) := by
  have hseen : BoardState.seenIbsta ibsta &&& Ibsta.srqi ≠ 0 ∧
      BoardState.seenIbsta ibsta &&& Ibsta.timo = 0 :=
    ⟨fun h => absurd (masked_or_and.1 h) (by decide), masked_or_and.2 (by decide) (by decide)⟩
  have hlate : BoardState.lateIbsta ibsta &&& Ibsta.timo ≠ 0 ∧
      BoardState.lateIbsta ibsta &&& Ibsta.srqi = 0 :=
    ⟨fun h => absurd (masked_or_and.1 h) (by decide), masked_or_and.2 (by decide) (by decide)⟩
  cases h with
  | waiting h => simp [AnswersSrq, h]
  | seen h => simp [AnswersSrq, h, hseen]
  | late h => simp [AnswersSrq, h, hlate]

/-- Over the KUSB-488B every wait for SRQ is answered as its samples demand; over the 82357 exactly
those are in which SRQ is seen asserted and seen released, or neither. -/
theorem srq_waits_answer_iff {b : GPIBBoard} {handle : Int} {d : GPIBDescriptor} {mask : Int32}
    {timeoutUs : Nat} (hd : b.descriptors.descriptorFor handle = some d) (hmask : AwaitsSrq mask)
    (fuel : Nat) (u : Usb.Trace) (o : Option (BoardResult × GPIBBoard)) :
    (∀ (n : Nat) (t t' : KUSB488BTransport),
        Run ((b.perform (KUSB488BTransport.asTransport n) uptime fuel
          (.waitForStatus handle mask timeoutUs)).run t) u (o, t') →
        ∃ vs expired ibsta, o = waited b ibsta ∧
          SrqWait (taken b.state t.sampleLines) (effectiveTimeout d timeoutUs) fuel vs u expired
            ibsta ∧
          AnswersSrq vs expired ibsta) ∧
      ∀ t t' : Agilent82357Transport,
        Run ((b.perform Agilent82357Transport.asTransport uptime fuel
          (.waitForStatus handle mask timeoutUs)).run t) u (o, t') →
        ∃ vs expired ibsta, o = waited b ibsta ∧
          SrqWait (taken b.state t.sampleLines) (effectiveTimeout d timeoutUs) fuel vs u expired
            ibsta ∧
          (AnswersSrq vs expired ibsta ↔ (Seen Asserted vs ↔ Seen Released vs)) := by
  refine ⟨fun n t t' hrun => ?_, fun t t' hrun => ?_⟩
  · obtain ⟨vs, expired, ibsta, hanswer, hwait, hend⟩ :=
      run_waitForStatus_usb hd hmask (KUSB488BTransport.showsSrqOf_sampleLines n) hrun
    exact ⟨vs, expired, ibsta, hanswer, hwait, hend.answersSrq_iff.mpr .rfl⟩
  · obtain ⟨vs, expired, ibsta, hanswer, hwait, hend⟩ :=
      run_waitForStatus_usb hd hmask Agilent82357Transport.showsSrqOf_sampleLines hrun
    exact ⟨vs, expired, ibsta, hanswer, hwait, hend.answersSrq_iff⟩

/-- A sample of the bus-line register, and one of `BSR`. -/
def registerRead (v : UInt8) : Usb.Trace :=
  [⟨.controlIn KUSB488BTransport.reqReg KUSB488BTransport.kRegBusLines 0 1,
    (⟨.success, [v], Nat.le_refl 1⟩ : Usb.InReply 1)⟩, Usb.mapped]

def bsrRead (v : UInt8) : Usb.Trace :=
  [Usb.mapped, Usb.sent .bulkOut [Agilent82357Transport.cmdRdRegs, 1, Agilent82357Transport.tmsBsr]
      1000 (Fin.last 3),
    Usb.received .bulkIn 64 10000 [~~~Agilent82357Transport.cmdRdRegs, 0, v] (by simp),
    Usb.mapped]

/-- What a wait at 5 stores when it says SRQ. -/
def srqAtFive : UInt32 := BoardState.seenIbsta boardAtFive.state.ibsta

theorem run_wait_cabled :
    Run ((boardAtFive.perform (KUSB488BTransport.asTransport 0) uptime 1
        (.waitForStatus 1 0x1000 0)).run KUSB488BTransport.cabled)
      (⟨.uptime, (0 : UInt64)⟩ :: registerRead 4)
      (waited boardAtFive (some srqAtFive), KUSB488BTransport.cabled) :=
  .ask (.ask (.ask (.pure _)))

theorem run_wait_attached :
    Run ((boardAtFive.perform Agilent82357Transport.asTransport uptime 1
        (.waitForStatus 1 0x1000 0)).run Agilent82357Transport.attached)
      (⟨.uptime, (0 : UInt64)⟩ :: bsrRead 0)
      (waited boardAtFive (some srqAtFive), Agilent82357Transport.attached) :=
  .ask (.ask (.ask (.ask (.ask (.pure _)))))

/-- A request at 5 is answered over the KUSB-488B, and an idle bus is answered over the 82357 as
its samples allow. -/
theorem srq_waits_answer_atFive :
    (∃ vs expired ibsta,
      SrqWait (taken boardAtFive.state KUSB488BTransport.cabled.sampleLines) 3000000 1 vs
        (⟨.uptime, (0 : UInt64)⟩ :: registerRead 4) expired ibsta ∧ AnswersSrq vs expired ibsta) ∧
      ∃ vs expired ibsta,
        SrqWait (taken boardAtFive.state Agilent82357Transport.attached.sampleLines) 3000000 1 vs
          (⟨.uptime, (0 : UInt64)⟩ :: bsrRead 0) expired ibsta ∧
        (AnswersSrq vs expired ibsta ↔ (Seen Asserted vs ↔ Seen Released vs)) := by
  have hd : boardAtFive.descriptors.descriptorFor 1 =
      some { atFive with handle := 1 } := rfl
  have hmask : AwaitsSrq 0x1000 := by decide
  obtain ⟨vs, expired, ibsta, -, hwait, hanswer⟩ :=
    (srq_waits_answer_iff hd hmask 1 _ _).1 _ _ _ run_wait_cabled
  obtain ⟨vs', expired', ibsta', -, hwait', hanswer'⟩ :=
    (srq_waits_answer_iff hd hmask 1 _ _).2 _ _ run_wait_attached
  exact ⟨⟨vs, expired, ibsta, hwait, hanswer⟩, ⟨vs', expired', ibsta', hwait', hanswer'⟩⟩

/-- An idle bus is taken for a request over the 82357. -/
theorem srq_wait_sees_idle_bus :
    Run ((boardAtFive.perform Agilent82357Transport.asTransport uptime 1
        (.waitForStatus 1 0x1000 0)).run Agilent82357Transport.attached)
      (⟨.uptime, (0 : UInt64)⟩ :: bsrRead 0)
      (waited boardAtFive (some srqAtFive), Agilent82357Transport.attached) ∧
    SrqWait (taken boardAtFive.state Agilent82357Transport.attached.sampleLines) 3000000 1
      [some 0] (⟨.uptime, (0 : UInt64)⟩ :: bsrRead 0) false (some srqAtFive) ∧
    ¬ AnswersSrq [some 0] false (some srqAtFive) := by
  have hsample : Run (taken boardAtFive.state Agilent82357Transport.attached.sampleLines)
      (bsrRead 0) (some 0) := .ask (.ask (.ask (.ask (.pure _))))
  have hunseen : ¬ Seen Asserted [some 0] := fun h => absurd (seen_some.mp h) (by decide)
  refine ⟨run_wait_attached, ?_, fun h => absurd (h.2 hunseen).1 (by decide)⟩
  exact .mk (x := [⟨.uptime, (0 : UInt64)⟩]) (.finite (by decide) 0) (.answered .nil hsample)

end DarwinGpib
