import DarwinGpib.Broker.Sessions
import DarwinGpib.Broker.Steps

/-!
# Blocks that wait for their call

`s.waiting b` are the blocks of board `b`, in the order in which they will reach the driver: the
running block, if its call is yet to be made, and the queue. Most steps are quiet: they neither
touch the driver's tables nor the sessions' lists, and no block starts to wait.
-/

namespace DarwinGpib

namespace Gpibd

variable {s t : Broker}

theorem call?_request {c c' : Client} {op : Op} {cap : Nat} {call : DriverCall} :
    (Block.request c' op cap).call? = some (c, call) ↔ c' = c ∧ ∃ high, op = .call high call := by
  cases op <;> simp [Block.call?]

/-! ## Calls that the driver takes -/

/-- The call of a block, if the driver takes it. -/
def Block.admitted? (blk : Block) : Option (Client × DriverCall) :=
  blk.call?.filter fun r => r.2.AdmitsOutput blk.outSize

section Admitted

variable {c : Client} {call : DriverCall} {blk : Block}

theorem admitted?_eq_some :
    blk.admitted? = some (c, call) ↔
      blk.call? = some (c, call) ∧ call.AdmitsOutput blk.outSize := by
  simp [Block.admitted?, Option.filter_eq_some_iff]

theorem not_admitsOutput_close (handle : Int) :
    ¬ (DriverCall.closeDescriptor handle).AdmitsOutput 0 := by
  intro h
  exact absurd (h _ rfl) (by decide)

/-- The driver takes the calls of requests only: `session_reap` has no room for the status that
a close returns. -/
theorem admitted?_eq_some_iff :
    blk.admitted? = some (c, call) ↔
      ∃ high cap, blk = .request c (.call high call) cap ∧ call.AdmitsOutput cap := by
  rw [admitted?_eq_some]
  constructor
  · rintro ⟨hcall, hadmits⟩
    cases blk with
    | request c' op cap =>
        obtain ⟨rfl, high, rfl⟩ := call?_request.mp hcall
        exact ⟨high, cap, rfl, hadmits⟩
    | outOfRange => cases hcall
    | reapClose c' handle =>
        cases hcall
        exact absurd hadmits (not_admitsOutput_close handle)
  · rintro ⟨high, cap, rfl, hadmits⟩
    exact ⟨rfl, hadmits⟩

@[simp] theorem admitted?_outOfRange : (Block.outOfRange c).admitted? = none := rfl

@[simp] theorem admitted?_reapClose (handle : Int) :
    (Block.reapClose c handle).admitted? = none := by
  rw [Option.eq_none_iff_forall_ne_some]
  rintro ⟨c', call⟩ h
  obtain ⟨high, cap, hblk, -⟩ := admitted?_eq_some_iff.mp h
  cases hblk

end Admitted

/-! ## Waiting blocks -/

/-- The call of the block has not been made. -/
def Phase.Unanswered : Phase → Prop
  | .answered _ => False
  | _ => True

/-- The running block, if its call is yet to be made. -/
def unanswered : Option (Block × Phase) → List Block
  | none | some (_, .answered _) => []
  | some (blk, _) => [blk]

def Broker.waiting (s : Broker) (b : Board) : List Block :=
  unanswered (s.running b) ++ s.queue b

theorem unanswered_some {blk : Block} {ph : Phase} (h : ph.Unanswered) :
    unanswered (some (blk, ph)) = [blk] := by
  cases ph with
  | answered opened => exact absurd h id
  | _ => rfl

theorem mem_waiting_of_queue {b : Board} {blk : Block} (h : blk ∈ s.queue b) :
    blk ∈ s.waiting b :=
  List.mem_append_right _ h

theorem waiting_of_running {b : Board} {blk : Block} {ph : Phase}
    (hrun : s.running b = some (blk, ph)) (hph : ph.Unanswered) :
    s.waiting b = blk :: s.queue b := by
  rw [Broker.waiting, hrun, unanswered_some hph]
  rfl

theorem mem_waiting_of_running {b : Board} {blk : Block} {ph : Phase}
    (hrun : s.running b = some (blk, ph)) (hph : ph.Unanswered) : blk ∈ s.waiting b := by
  rw [waiting_of_running hrun hph]
  exact List.mem_cons_self

/-! ## Quiet steps -/

/-- Nothing that a session or a driver table records changes, and no block starts to wait. -/
structure Quiet (s t : Broker) : Prop where
  registry : t.registry = s.registry
  slots : t.slots = s.slots
  session : ∀ c, Resumed (s.session c) (t.session c)
  waiting : ∀ b, (t.waiting b).Sublist (s.waiting b)
  answered : ∀ b blk opened, t.running b = some (blk, .answered opened) ↔
    s.running b = some (blk, .answered opened)

theorem Quiet.mem_waiting (h : Quiet s t) {b : Board} {blk : Block} (hb : blk ∈ t.waiting b) :
    blk ∈ s.waiting b :=
  (h.waiting b).subset hb

theorem finish_session (s : Broker) (b : Board) (blk : Block) (c : Client) :
    Resumed (s.session c) ((s.finish b blk).session c) := by
  cases blk with
  | reapClose c' handle =>
      by_cases hc : c = c'
      · subst hc
        exact .inr (by simp [Broker.finish])
      · exact .inl (by simp [Broker.finish, hc])
  | _ => exact .inl rfl

section Boards

variable {b : Board} {blk : Block} {ph : Phase}

theorem waiting_setRunning_of_ne {k : Board} {r : Option (Block × Phase)} (h : k ≠ b) :
    (s.setRunning b r).waiting k = s.waiting k := by
  simp [Broker.waiting, h]

theorem waiting_finish_self (s : Broker) (b : Board) (blk : Block) :
    (s.finish b blk).waiting b = s.queue b := by
  simp [Broker.waiting, unanswered]

theorem waiting_finish_of_ne {k : Board} (h : k ≠ b) :
    (s.finish b blk).waiting k = s.waiting k := by
  simp [Broker.waiting, h]

/-- A block that ends stops waiting, and no other does. -/
theorem mem_waiting_finish (conn : Board → Option Service) {k : Board} {blk' : Block}
    (hrun : s.running b = some (blk, ph)) (h : blk' ∈ s.waiting k) :
    blk' ∈ ({ s with conn }.finish b blk).waiting k ∨ (k = b ∧ blk' = blk) := by
  by_cases hk : k = b
  · subst hk
    rw [waiting_finish_self]
    rw [Broker.waiting, hrun, List.mem_append] at h
    rcases h with h | h
    · refine .inr ⟨rfl, ?_⟩
      cases ph with
      | answered opened => cases h
      | _ => exact List.mem_singleton.mp h
    · exact .inl h
  · rw [waiting_finish_of_ne hk]
    exact .inl h

theorem waiting_begin {k : Board} {rest : List Block} (hidle : s.running b = none)
    (hqueue : s.queue b = blk :: rest) :
    Broker.waiting { s.setRunning b (some (blk, .starting false)) with
      queue := Function.update s.queue b rest } k = s.waiting k := by
  by_cases hk : k = b
  · subst hk
    simp [Broker.waiting, unanswered, hidle, hqueue]
  · simp [Broker.waiting, hk]

theorem waiting_setRunning (conn : Board → Option Service) {k : Board} (ph' : Phase)
    (hrun : s.running b = some (blk, ph)) (hph : ph.Unanswered) (hph' : ph'.Unanswered) :
    ({ s with conn }.setRunning b (some (blk, ph'))).waiting k = s.waiting k := by
  by_cases hk : k = b
  · subst hk
    have hrun' : ({ s with conn }.setRunning k (some (blk, ph'))).running k =
        some (blk, ph') := by simp
    rw [waiting_of_running hrun hph, waiting_of_running hrun' hph']
    rfl
  · exact waiting_setRunning_of_ne (s := { s with conn }) hk

theorem quiet_begin {rest : List Block} (hidle : s.running b = none)
    (hqueue : s.queue b = blk :: rest) :
    Quiet s { s.setRunning b (some (blk, .starting false)) with
      queue := Function.update s.queue b rest } where
  registry := rfl
  slots := rfl
  session _ := .inl rfl
  waiting k := by
    rw [waiting_begin hidle hqueue]
  answered k blk' opened := by
    by_cases hk : k = b
    · subst hk
      simp [hidle]
    · simp [hk]

/-- The running block goes on and has yet to make its call. -/
theorem quiet_setRunning (conn : Board → Option Service) (ph' : Phase)
    (hrun : s.running b = some (blk, ph)) (hph : ph.Unanswered) (hph' : ph'.Unanswered) :
    Quiet s ({ s with conn }.setRunning b (some (blk, ph'))) where
  registry := rfl
  slots := rfl
  session _ := .inl rfl
  waiting k := by
    rw [waiting_setRunning conn ph' hrun hph hph']
  answered k blk' opened := by
    by_cases hk : k = b
    · subst hk
      have hne (o : Option Int) : ¬ (Phase.answered o).Unanswered := id
      constructor
      · intro h
        simp only [Broker.setRunning, Function.update_self, Option.some.injEq,
          Prod.mk.injEq] at h
        exact absurd (h.2 ▸ hph') (hne opened)
      · intro h
        rw [hrun, Option.some.injEq, Prod.mk.injEq] at h
        exact absurd (h.2 ▸ hph) (hne opened)
    · simp [hk]

/-- The running block ends and has not made a call that was taken. -/
theorem quiet_finish (conn : Board → Option Service) (hrun : s.running b = some (blk, ph))
    (hph : ph.Unanswered) : Quiet s ({ s with conn }.finish b blk) where
  registry := by simp
  slots := by simp
  session c := finish_session _ b blk c
  waiting k := by
    by_cases hk : k = b
    · subst hk
      rw [waiting_of_running hrun hph, waiting_finish_self]
      exact List.sublist_cons_self _ _
    · rw [waiting_finish_of_ne hk]
      exact List.Sublist.refl _
  answered k blk' opened := by
    by_cases hk : k = b
    · subst hk
      have hne : ¬ (Phase.answered opened).Unanswered := id
      simp only [finish_running, Function.update_self, reduceCtorEq, false_iff]
      intro h
      rw [hrun, Option.some.injEq, Prod.mk.injEq] at h
      exact hne (h.2 ▸ hph)
    · simp [hk]

end Boards

/-- The actions that are not quiet. -/
def Action.Loud : Action → Prop
  | .begin _ | .lookup _ | .openService _ _ | .call _ .failed | .call _ .dead => False
  | _ => True

theorem quiet_of_stepped {a : Action} (h : Stepped s a t) (ha : ¬ a.Loud) : Quiet s t := by
  cases h with
  | begin hidle hqueue => exact quiet_begin hidle hqueue
  | unresolved hrun => exact quiet_finish s.conn hrun trivial
  | probed hrun => exact quiet_finish s.conn hrun trivial
  | @cached b blk retry service c call hrun =>
      exact quiet_setRunning s.conn (.connected retry service) hrun trivial trivial
  | @located b blk retry service hrun =>
      exact quiet_setRunning s.conn (.found retry service) hrun trivial trivial
  | notOpened hrun => exact quiet_finish s.conn hrun trivial
  | openedForProbe hrun => exact quiet_finish _ hrun trivial
  | @opened b blk retry service c call hrun =>
      exact quiet_setRunning _ (.connected retry service) hrun trivial trivial
  | failed hrun => exact quiet_finish s.conn hrun trivial
  | deadInReap hrun => exact quiet_finish s.conn hrun trivial
  | stale hrun => exact quiet_setRunning _ (.starting true) hrun trivial trivial
  | lost hrun => exact quiet_finish _ hrun trivial
  | _ => exact absurd trivial ha

/-! ## Steps that are not quiet -/

section Loud

variable {b k : Board} {blk blk' : Block} {opened : Option Int} {service : Service} {c : Client}
  {call : DriverCall}

theorem waiting_enqueue_self (s : Broker) (b : Board) (blk : Block) :
    (s.enqueue b blk).waiting b = s.waiting b ++ [blk] := by
  simp [Broker.waiting]

theorem waiting_enqueue_of_ne (h : k ≠ b) : (s.enqueue b blk).waiting k = s.waiting k := by
  simp [Broker.waiting, h]

theorem mem_waiting_enqueue :
    blk' ∈ (s.enqueue b blk).waiting k ↔ blk' ∈ s.waiting k ∨ (k = b ∧ blk' = blk) := by
  by_cases h : k = b
  · subst h
    rw [waiting_enqueue_self, List.mem_append, List.mem_singleton, eq_self, true_and]
  · rw [waiting_enqueue_of_ne h]
    simp only [h, false_and, or_false]

/-- A block that has been answered does not wait. -/
theorem waiting_setRunning_none (hrun : s.running b = some (blk, .answered opened)) :
    (s.setRunning b none).waiting k = s.waiting k := by
  by_cases h : k = b
  · subst h
    simp [Broker.waiting, hrun, unanswered]
  · exact waiting_setRunning_of_ne h

theorem answer_running_of_ne (h : k ≠ b) :
    (s.answer b blk service c call).running k = s.running k := by
  cases blk <;> simp [Broker.answer, h]

theorem answer_running_self (h : ∀ c handle, blk ≠ .reapClose c handle) :
    (s.answer b blk service c call).running b =
      some (blk, .answered (applyCall (s.slots service) c call).1) := by
  cases blk with
  | reapClose c handle => exact absurd rfl (h c handle)
  | _ => simp [Broker.answer]

theorem answered_of_answer
    (h : (s.answer b blk service c call).running k = some (blk', .answered opened)) :
    s.running k = some (blk', .answered opened) ∨
      (k = b ∧ blk' = blk ∧ opened = (applyCall (s.slots service) c call).1) := by
  by_cases hk : k = b
  · subst hk
    cases blk with
    | reapClose c handle => simp [Broker.answer] at h
    | _ =>
        rw [answer_running_self (by simp)] at h
        cases h
        exact .inr ⟨rfl, rfl, rfl⟩
  · rw [answer_running_of_ne hk] at h
    exact .inl h

theorem waiting_answer_self : (s.answer b blk service c call).waiting b = s.queue b := by
  cases blk <;> simp [Broker.answer, Broker.waiting, unanswered]

theorem waiting_answer_of_ne (h : k ≠ b) :
    (s.answer b blk service c call).waiting k = s.waiting k := by
  simp [Broker.waiting, answer_running_of_ne h]

theorem waiting_answer_sublist {retry : Bool}
    (hrun : s.running b = some (blk, .connected retry service)) (k : Board) :
    ((s.answer b blk service c call).waiting k).Sublist (s.waiting k) := by
  by_cases hk : k = b
  · subst hk
    rw [waiting_answer_self, waiting_of_running hrun trivial]
    exact List.sublist_cons_self _ _
  · rw [waiting_answer_of_ne hk]

theorem answer_session (c' : Client) :
    Resumed (s.session c') ((s.answer b blk service c call).session c') := by
  cases blk with
  | reapClose c'' handle =>
      exact finish_session
        { s with slots := Function.update s.slots service (applyCall (s.slots service) c call).2 }
        b (.reapClose c'' handle) c'
  | _ => exact .inl rfl

end Loud

/-! ## How blocks come and go -/

/-- All blocks have run. -/
def Idle (s : Broker) : Prop :=
  ∀ b, s.queue b = [] ∧ s.running b = none

instance : Decidable (Idle s) :=
  inferInstanceAs (Decidable (∀ b, s.queue b = [] ∧ s.running b = none))

theorem Idle.waiting (h : Idle s) (b : Board) : s.waiting b = [] := by
  rw [Broker.waiting, (h b).1, (h b).2]
  rfl

/-- How a block comes to wait. -/
inductive Arrived (s : Broker) (b : Board) (blk : Block) : Action → Prop where
  | before {a} (h : blk ∈ s.waiting b) : Arrived s b blk a
  | outOfRange {c a} (hblk : blk = .outOfRange c) : Arrived s b blk a
  | sent {c r} (hc : (s.session c).state = .connected) (hr : r.index = some b)
      (hblk : blk = .request c r.op r.cap) : Arrived s b blk (.send c r)
  | reaped {c handle a} (hblk : blk = .reapClose c handle) : Arrived s b blk a

theorem arrived_of_stepped {a : Action} (hstep : Stepped s a t) {k : Board} {blk' : Block}
    (h : blk' ∈ t.waiting k) : Arrived s k blk' a := by
  by_cases hloud : a.Loud
  · cases hstep with
    | sendOutOfRange =>
        rcases mem_waiting_enqueue.mp h with h | ⟨-, hblk⟩
        · exact .before h
        · exact .outOfRange hblk
    | @send c r b hc hr =>
        have h : blk' ∈ (s.enqueue b (.request c r.op r.cap)).waiting k := h
        rcases mem_waiting_enqueue.mp h with h | ⟨rfl, hblk⟩
        · exact .before h
        · exact .sent hc hr hblk
    | taken hrun => exact .before ((waiting_answer_sublist hrun k).subset h)
    | @track b c high call cap opened hrun =>
        have h : blk' ∈ (s.setRunning b none).waiting k := h
        rw [waiting_setRunning_none hrun] at h
        exact .before h
    | @closeNext c b handle rest hc =>
        have h : blk' ∈ (s.enqueue b (.reapClose c handle)).waiting k := h
        rcases mem_waiting_enqueue.mp h with h | ⟨-, hblk⟩
        · exact .before h
        · exact .reaped hblk
    | disconnect => exact .before h
    | reap => exact .before h
    | freeSession => exact .before h
    | plug => exact .before h
    | unplug => exact .before h
    | _ => exact False.elim hloud
  · exact .before ((quiet_of_stepped hstep hloud).mem_waiting h)

/-- How a block comes to wait no longer. -/
inductive Left (s : Broker) (b : Board) (blk : Block) : Action → Prop where
  | unresolved {retry} (hrun : s.running b = some (blk, .starting retry))
      (hwhy : Broker.rejects blk = true ∨ s.conn b = none) : Left s b blk (.lookup b)
  | probe {a} (hcall : blk.call? = none) : Left s b blk a
  | notOpened {retry service} (hrun : s.running b = some (blk, .found retry service)) :
      Left s b blk (.openService b false)
  | called {outcome retry service} (hrun : s.running b = some (blk, .connected retry service)) :
      Left s b blk (.call b outcome)

theorem left_of_stepped {a : Action} (hstep : Stepped s a t) {k : Board} {blk : Block}
    (h : blk ∈ s.waiting k) : blk ∈ t.waiting k ∨ Left s k blk a := by
  cases hstep with
  | sendOutOfRange => exact .inl (mem_waiting_enqueue.mpr (.inl h))
  | send => exact .inl (mem_waiting_enqueue.mpr (.inl h))
  | closeNext => exact .inl (mem_waiting_enqueue.mpr (.inl h))
  | begin hidle hqueue => exact .inl (by rwa [waiting_begin hidle hqueue])
  | unresolved hrun hwhy =>
      rcases mem_waiting_finish s.conn hrun h with h | ⟨rfl, rfl⟩
      · exact .inl h
      · exact .inr (.unresolved hrun hwhy)
  | probed hrun hcall =>
      rcases mem_waiting_finish s.conn hrun h with h | ⟨rfl, rfl⟩
      · exact .inl h
      · exact .inr (.probe hcall)
  | @cached b blk retry service c call hrun =>
      left
      rwa [waiting_setRunning s.conn (.connected retry service) hrun trivial trivial]
  | @located b blk retry service hrun =>
      left
      rwa [waiting_setRunning s.conn (.found retry service) hrun trivial trivial]
  | notOpened hrun =>
      rcases mem_waiting_finish s.conn hrun h with h | ⟨rfl, rfl⟩
      · exact .inl h
      · exact .inr (.notOpened hrun)
  | openedForProbe hrun hcall =>
      rcases mem_waiting_finish _ hrun h with h | ⟨rfl, rfl⟩
      · exact .inl h
      · exact .inr (.probe hcall)
  | @opened b blk retry service c call hrun =>
      left
      rwa [waiting_setRunning _ (.connected retry service) hrun trivial trivial]
  | @taken b blk' retry service c call hrun =>
      by_cases hk : k = b
      · subst hk
        rw [waiting_of_running hrun trivial, List.mem_cons] at h
        rcases h with rfl | h
        · exact .inr (.called hrun)
        · exact .inl (by rwa [waiting_answer_self])
      · exact .inl (by rwa [waiting_answer_of_ne hk])
  | failed hrun =>
      rcases mem_waiting_finish s.conn hrun h with h | ⟨rfl, rfl⟩
      · exact .inl h
      · exact .inr (.called hrun)
  | deadInReap hrun =>
      rcases mem_waiting_finish s.conn hrun h with h | ⟨rfl, rfl⟩
      · exact .inl h
      · exact .inr (.called hrun)
  | @stale b blk service hrun =>
      left
      rwa [Broker.dropBoard, waiting_setRunning _ (.starting true) hrun trivial trivial]
  | lost hrun =>
      rcases mem_waiting_finish _ hrun h with h | ⟨rfl, rfl⟩
      · exact .inl h
      · exact .inr (.called hrun)
  | @track b c high call cap opened hrun =>
      left
      have hsame := waiting_setRunning_none (k := k) hrun
      exact hsame.symm ▸ h
  | _ => exact .inl h

end Gpibd

end DarwinGpib
