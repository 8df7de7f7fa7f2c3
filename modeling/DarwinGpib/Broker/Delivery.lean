import DarwinGpib.Broker.Waiting
import Mathlib.Data.List.Sublists

/-!
# What reaches a board

Requests queue up per board, and `handle_request` makes its driver call a second time behind a
stale connection. Each call of a client reaches the driver in its turn and at most once, and
exactly once unless its block ends without it. The closes of `session_reap` are never taken.
-/

namespace DarwinGpib

namespace Gpibd

open Transition

/-! ## What is sent, and what is taken -/

/-- The driver call that a client has asked for. -/
def Block.asked? : Block → Option (Client × DriverCall)
  | .request c (.call _ call) _ => some (c, call)
  | _ => none

/-- The driver calls that an action puts on the queue of a board for a client. -/
def sentCalls (b : Board) (s : Broker) : Action → List (Client × DriverCall)
  | .send c r =>
      if (s.session c).state = .connected ∧ r.index = some b then
        (Block.request c r.op r.cap).asked?.toList
      else []
  | _ => []

/-- The driver calls that an action makes the driver take on a board. -/
def takenCalls (b : Board) (s : Broker) : Action → List (Client × DriverCall)
  | .call b' .taken =>
      if b' = b then ((s.running b').bind fun r => r.1.call?).toList else []
  | _ => []

/-- What a run sends or has taken, in order. -/
def callsAlong (calls : Broker → Action → List (Client × DriverCall)) :
    Broker → List Action → List (Client × DriverCall)
  | _, [] => []
  | s, a :: as =>
      calls s a ++
        match step s a with
        | some t => callsAlong calls t as
        | none => []

/-- The calls of clients that are yet to be made on a board. -/
def pendingCalls (s : Broker) (b : Board) : List (Client × DriverCall) :=
  (s.waiting b).filterMap Block.asked?

/-- The request that runs on a board ends, and the driver has not taken its call. -/
def Drops (b : Board) (s : Broker) : Action → Prop
  | .lookup b' => b' = b ∧ ∃ blk retry, s.running b = some (blk, .starting retry) ∧
      blk.asked?.isSome ∧ (Broker.rejects blk = true ∨ s.conn b = none ∧ s.registry[b.val]? = none)
  | .openService b' ok => b' = b ∧ ok = false ∧ ∃ blk retry service,
      s.running b = some (blk, .found retry service) ∧ blk.asked?.isSome
  | .call b' .failed => b' = b ∧ ∃ blk retry service,
      s.running b = some (blk, .connected retry service) ∧ blk.asked?.isSome
  | .call b' .dead => b' = b ∧ ∃ blk service,
      s.running b = some (blk, .connected true service) ∧ blk.asked?.isSome
  | _ => False

variable {s t : Broker} {a : Action} {b : Board}

/-! ## One step -/

theorem pendingCalls_of_waiting (h : t.waiting b = s.waiting b) :
    pendingCalls t b = pendingCalls s b := by
  rw [pendingCalls, pendingCalls, h]

theorem pendingCalls_enqueue (s : Broker) (b b' : Board) (blk : Block) :
    pendingCalls (s.enqueue b' blk) b =
      pendingCalls s b ++ if b' = b then blk.asked?.toList else [] := by
  by_cases hb : b' = b
  · subst hb
    rw [pendingCalls, waiting_enqueue_self, List.filterMap_append, if_pos rfl]
    cases hasked : blk.asked? <;> simp [pendingCalls, hasked]
  · rw [pendingCalls, waiting_enqueue_of_ne (Ne.symm hb), if_neg hb, List.append_nil]
    rfl

/-- A block that ends without a call to make. -/
theorem pendingCalls_finish (conn : Board → Option Service) {b' : Board} {blk : Block} {ph : Phase}
    (hrun : s.running b' = some (blk, ph)) (hph : ph.Unanswered)
    (hnone : b' = b → blk.asked? = none) :
    pendingCalls ({ s with conn }.finish b' blk) b = pendingCalls s b := by
  by_cases hb : b' = b
  · subst hb
    rw [pendingCalls, pendingCalls, waiting_finish_self, waiting_of_running hrun hph,
      List.filterMap_cons_none (hnone rfl)]
  · exact pendingCalls_of_waiting (waiting_finish_of_ne (Ne.symm hb))

/-- A call of a client is one that its block is there for. -/
theorem asked?_of_call?_none {blk : Block} (h : blk.call? = none) : blk.asked? = none := by
  cases blk with
  | request c op cap =>
      cases op with
      | call high call => cases h
      | _ => rfl
  | _ => rfl

/-- The driver takes what clients have asked for. -/
theorem asked?_of_admitted? {blk : Block} {c : Client} {call : DriverCall}
    (h : blk.admitted? = some (c, call)) : blk.asked? = some (c, call) := by
  obtain ⟨high, cap, rfl, -⟩ := admitted?_eq_some_iff.mp h
  rfl

/-- The call that the driver takes is the first of those that are yet to be made. -/
theorem pendingCalls_answer {b' : Board} {blk : Block} {retry : Bool} {service : Service}
    {c : Client} {call : DriverCall} (hrun : s.running b' = some (blk, .connected retry service))
    (hasked : blk.asked? = some (c, call)) :
    (if b' = b then [(c, call)] else []) ++ pendingCalls (s.answer b' blk service c call) b =
      pendingCalls s b := by
  by_cases hb : b' = b
  · subst hb
    rw [if_pos rfl, pendingCalls, pendingCalls, waiting_answer_self,
      waiting_of_running hrun trivial, List.filterMap_cons_some hasked]
    rfl
  · rw [if_neg hb, List.nil_append]
    exact pendingCalls_of_waiting (waiting_answer_of_ne (Ne.symm hb))

/-- What is sent is pending until it is taken. -/
theorem calls_of_loud (hstep : Stepped s a t) (hloud : a.Loud) :
    takenCalls b s a ++ pendingCalls t b = pendingCalls s b ++ sentCalls b s a := by
  cases hstep with
  | begin | unresolved | probed | cached | located | notOpened | openedForProbe | opened | failed
  | deadInReap | stale | lost => exact absurd hloud id
  | @sendOutOfRange c r hc hr =>
      have hsent := pendingCalls_enqueue s b 0 (.outOfRange c)
      simpa [takenCalls, sentCalls, hr, Block.asked?] using hsent
  | @send c r b' hc hr =>
      have hsent := pendingCalls_enqueue s b b' (.request c r.op r.cap)
      simp only [takenCalls, sentCalls, hc, hr, List.nil_append, true_and, Option.some.injEq]
      exact hsent
  | @taken b' blk retry service c call hrun hcall hattached hadmits =>
      have htaken := pendingCalls_answer (b := b) hrun
        (asked?_of_admitted? (admitted?_eq_some.mpr ⟨hcall, hadmits⟩))
      simp only [takenCalls, sentCalls, List.append_nil, hrun, Option.bind_some, hcall,
        Option.toList_some]
      exact htaken
  | @closeNext c b' handle rest hc =>
      have hsent := pendingCalls_enqueue s b b' (.reapClose c handle)
      simp only [Block.asked?, Option.toList_none, ite_self] at hsent
      simp only [takenCalls, sentCalls, List.nil_append]
      exact hsent
  | @track b' c high call cap opened hrun =>
      simp only [takenCalls, sentCalls, List.nil_append, List.append_nil]
      exact pendingCalls_of_waiting (waiting_setRunning_none (s := s.setSession c _) hrun)
  | disconnect | reap | freeSession | plug | unplug =>
      simp only [takenCalls, sentCalls, List.nil_append, List.append_nil]
      rfl

theorem calls_of_quiet (hstep : Stepped s a t) (hquiet : ¬ a.Loud) :
    takenCalls b s a = [] ∧ sentCalls b s a = [] := by
  cases hstep with
  | begin | unresolved | probed | cached | located | notOpened | openedForProbe | opened | failed
  | deadInReap | stale | lost => exact ⟨rfl, rfl⟩
  | _ => exact absurd trivial hquiet

/-- A block that ends in `lookup`, and is not rejected, has found no adapter. -/
theorem registry_of_unresolved {blk : Block} {retry : Bool}
    (h : step s (.lookup b) = some (s.finish b blk))
    (hrun : s.running b = some (blk, .starting retry)) (hrejects : ¬ Broker.rejects blk = true)
    (hconn : s.conn b = none) : s.registry[b.val]? = none := by
  cases hservice : s.registry[b.val]? with
  | none => rfl
  | some service =>
      simp only [step, Broker.lookup, hrun, hrejects, hconn, hservice, Option.some.injEq,
        Bool.false_eq_true, if_false] at h
      have hrunning := congrArg (fun s => s.running b) h
      simp at hrunning

/-- A quiet step that drops nothing leaves all calls pending. -/
theorem pendingCalls_of_quiet (h : step s a = some t) (hquiet : ¬ a.Loud) (hkept : ¬ Drops b s a) :
    pendingCalls t b = pendingCalls s b := by
  cases stepped_of_step h with
  | begin hidle hqueue => exact pendingCalls_of_waiting (waiting_begin hidle hqueue)
  | probed hrun hcall =>
      exact pendingCalls_finish s.conn hrun trivial fun _ => asked?_of_call?_none hcall
  | @cached b' blk retry service c call hrun hconn hcall =>
      exact pendingCalls_of_waiting
        (waiting_setRunning s.conn (.connected retry service) hrun trivial trivial)
  | @located b' blk retry service hrun =>
      exact pendingCalls_of_waiting
        (waiting_setRunning s.conn (.found retry service) hrun trivial trivial)
  | openedForProbe hrun hcall =>
      exact pendingCalls_finish _ hrun trivial fun _ => asked?_of_call?_none hcall
  | @opened b' blk retry service c call hrun hcall =>
      exact pendingCalls_of_waiting
        (waiting_setRunning _ (.connected retry service) hrun trivial trivial)
  | stale hrun =>
      exact pendingCalls_of_waiting (waiting_setRunning _ (.starting true) hrun trivial trivial)
  | @unresolved b' blk retry hrun hwhy =>
      refine pendingCalls_finish s.conn hrun trivial fun hb => ?_
      by_contra hcall
      refine hkept ⟨hb, blk, retry, hb ▸ hrun, Option.isSome_iff_ne_none.mpr hcall, ?_⟩
      subst hb
      by_cases hrejects : Broker.rejects blk = true
      · exact .inl hrejects
      · have hconn := hwhy.resolve_left hrejects
        exact .inr ⟨hconn, registry_of_unresolved h hrun hrejects hconn⟩
  | @notOpened b' blk retry service hrun =>
      refine pendingCalls_finish s.conn hrun trivial fun hb => ?_
      by_contra hcall
      exact hkept ⟨hb, rfl, blk, retry, service, hb ▸ hrun, Option.isSome_iff_ne_none.mpr hcall⟩
  | @failed b' blk retry service hrun =>
      refine pendingCalls_finish s.conn hrun trivial fun hb => ?_
      by_contra hcall
      exact hkept ⟨hb, blk, retry, service, hb ▸ hrun, Option.isSome_iff_ne_none.mpr hcall⟩
  | deadInReap hrun => exact pendingCalls_finish s.conn hrun trivial fun _ => rfl
  | @lost b' blk service hrun =>
      refine pendingCalls_finish _ hrun trivial fun hb => ?_
      by_contra hcall
      exact hkept ⟨hb, blk, service, hb ▸ hrun, Option.isSome_iff_ne_none.mpr hcall⟩
  | _ => exact absurd trivial hquiet

/-! ## Whole runs -/

theorem callsAlong_cons {calls : Broker → Action → List (Client × DriverCall)} {as : List Action}
    (h : step s a = some t) : callsAlong calls s (a :: as) = calls s a ++ callsAlong calls t as := by
  rw [callsAlong, h]

theorem calls_sublist_step (h : step s a = some t) :
    (takenCalls b s a ++ pendingCalls t b).Sublist (pendingCalls s b ++ sentCalls b s a) := by
  have hstep := stepped_of_step h
  by_cases hloud : a.Loud
  · rw [calls_of_loud hstep hloud]
  · obtain ⟨htaken, hsent⟩ := calls_of_quiet (b := b) hstep hloud
    rw [htaken, hsent, List.nil_append, List.append_nil]
    exact ((quiet_of_stepped hstep hloud).waiting b).filterMap _

theorem calls_eq_step (h : step s a = some t) (hkept : ¬ Drops b s a) :
    takenCalls b s a ++ pendingCalls t b = pendingCalls s b ++ sentCalls b s a := by
  have hstep := stepped_of_step h
  by_cases hloud : a.Loud
  · exact calls_of_loud hstep hloud
  · obtain ⟨htaken, hsent⟩ := calls_of_quiet (b := b) hstep hloud
    rw [htaken, hsent, List.nil_append, List.append_nil, pendingCalls_of_quiet h hloud hkept]

/-- What the driver has taken, and what is yet to be made, are calls that were pending or have been
sent, in the same order and each once. -/
theorem calls_sublist {as : List Action} (hrun : run step s as = some t) :
    (callsAlong (takenCalls b) s as ++ pendingCalls t b).Sublist
      (pendingCalls s b ++ callsAlong (sentCalls b) s as) := by
  induction as generalizing s with
  | nil =>
      cases hrun
      simp [callsAlong]
  | cons a as ih =>
      obtain ⟨u, hu, hrest⟩ := run_cons_eq_some.mp hrun
      have hlater := (List.Sublist.refl (takenCalls b s a)).append (ih hrest)
      have hnow := (calls_sublist_step (b := b) hu).append
        (List.Sublist.refl (callsAlong (sentCalls b) u as))
      rw [callsAlong_cons hu, callsAlong_cons hu]
      simp only [List.append_assoc] at hlater hnow ⊢
      exact hlater.trans hnow

/-- All of them, if no block ends without its call. -/
theorem calls_eq {as : List Action} (hrun : run step s as = some t)
    (hkept : Along step (fun s a => ¬ Drops b s a) s as) :
    callsAlong (takenCalls b) s as ++ pendingCalls t b =
      pendingCalls s b ++ callsAlong (sentCalls b) s as := by
  induction as generalizing s with
  | nil =>
      cases hrun
      simp [callsAlong]
  | cons a as ih =>
      obtain ⟨u, hu, hrest⟩ := run_cons_eq_some.mp hrun
      rw [callsAlong_cons hu, callsAlong_cons hu, List.append_assoc, ih hrest (hkept.2 u hu),
        ← List.append_assoc, calls_eq_step hu hkept.1, List.append_assoc]

/-- From the start on, the calls that the driver takes on a board are some of those that clients
have sent to it, in the order in which they were sent and each once; at rest they are all of them,
if no request has ended without its call. -/
theorem calls_taken_in_order {as : List Action} (hrun : run step .init as = some t) (b : Board) :
    (callsAlong (takenCalls b) .init as).Sublist (callsAlong (sentCalls b) .init as) ∧
      (Idle t → Along step (fun s a => ¬ Drops b s a) .init as →
        callsAlong (takenCalls b) .init as = callsAlong (sentCalls b) .init as) := by
  constructor
  · exact (List.sublist_append_left _ _).trans (calls_sublist hrun)
  · intro hidle hkept
    have hall := calls_eq hrun hkept
    have hnone : pendingCalls t b = [] := by
      rw [pendingCalls, Broker.waiting, (hidle b).1, (hidle b).2]
      rfl
    rw [hnone, List.append_nil] at hall
    exact hall

/-- Two clients, and a connection that has gone stale before the second call. -/
def callsAgain : List Action :=
  [.plug 0, .send 0 ⟨0, .call 0 (.trigger 1), 16⟩, .send 1 ⟨0, .call 0 (.deviceClear 2), 16⟩,
    .begin 0, .lookup 0, .openService 0 true, .call 0 .taken, .track 0, .begin 0, .lookup 0,
    .call 0 .dead, .lookup 0, .openService 0 true, .call 0 .taken, .track 0]

theorem calls_taken_in_order_callsAgain :
    callsAlong (takenCalls 0) .init callsAgain = [(0, .trigger 1), (1, .deviceClear 2)] ∧
      (callsAlong (takenCalls 0) .init callsAgain).Sublist
        (callsAlong (sentCalls 0) .init callsAgain) := by
  obtain ⟨t, hrun⟩ : ∃ t, run step .init callsAgain = some t := ⟨_, rfl⟩
  exact ⟨by decide, (calls_taken_in_order hrun 0).1⟩

end Gpibd

end DarwinGpib
